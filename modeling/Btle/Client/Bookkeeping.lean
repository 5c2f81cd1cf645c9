import Mathlib.Algebra.Order.Group.Multiset
import Btle.Library.Nested
import Btle.Client.Progress

namespace Btle.Client

open Machine

def account : Option Nat → Multiset Nat
  | some data => {data}
  | none => 0

def issued (events : List Event) : Multiset Nat := (events.map fun event => account event.token).sum

def answered (out : List Effect) : Multiset Nat := (out.map fun effect => account effect.answered).sum

def outstanding (att : Att) : Multiset Nat := account (att.currentRequest.map ReadData.data)

theorem answered_single (effect : Effect) : answered [effect] = account effect.answered := by
  simp [answered]

theorem advances_books {att next : Att} {rd : ReadData} {out : List Effect}
    (pending : att.currentRequest = some rd) (h : Advances rd next out) :
    outstanding att = answered out + outstanding next := by
  cases h with
  | asksAgain pdu kept =>
    rw [answered_single, outstanding, outstanding, pending, kept]
    exact (zero_add _).symm
  | completes effect freed own =>
    rw [answered_single, outstanding, outstanding, pending, freed, own]
    exact (add_zero _).symm

theorem requested_books {att next : Att} {data : Nat} {out : List Effect}
    (h : Requested att next data out) :
    outstanding att + account (some data) = answered out + outstanding next := by
  cases h with
  | accepted rd pdu free taken own =>
    subst taken
    subst own
    rw [answered_single, outstanding, free]
    rfl
  | refused rd effect taken unchanged own =>
    subst unchanged
    rw [answered_single, own, add_comm]

theorem quiet_books {att next : Att} {out : List Effect} (h : Quiet att next out) :
    outstanding att = answered out + outstanding next := by
  have silent : answered out = 0 := by
    apply List.sum_eq_zero
    intro entry member
    rcases List.mem_map.mp member with ⟨effect, inside, rfl⟩
    rw [h.uncalled effect inside]
    rfl
  rw [silent, zero_add, outstanding, outstanding, h.currentRequest]

theorem step_books (att : Att) (event : Event) (next : Att) (out : List Effect)
    (h : step att event = .ok (next, out)) :
    outstanding att + account event.token = answered out + outstanding next := by
  cases step_cases h with
  | advances rd arrived pending _ advance =>
    rw [arrived, account, add_zero]
    exact advances_books pending advance
  | requested data token request =>
    rw [token]
    exact requested_books request
  | quiet unrequested still =>
    rw [unrequested, account, add_zero]
    exact quiet_books still

theorem perform_refused {att : Att} {action : Call} {data : Nat}
    (token : action.token = some data) (taken : att.currentRequest ≠ none) :
    ∃ effect, att.perform action = .ok (att, [effect]) ∧ effect.answered = some data := by
  rcases Option.ne_none_iff_exists'.mp taken with ⟨rd, pending⟩
  cases action with
  | writeCommand | writeRequest | listenForNotifications | onError => cases token
  | findInformation | findByTypeValue | readByType | readByGroupType | readAttribute =>
    cases token
    exact ⟨_, Att.request_refused pending, rfl⟩

/-- Over any run, calls from inside callbacks included: the requests called for are those whose
    callback was invoked, once each, and the one in the slot; a refused call does nothing but invoke
    its own callback; and nothing stops a run of requests that fit and PDUs that are whole. -/
theorem callbacks_once (connection : Connection) (events : Nested Event) :
    (∀ att out, runNested step (Att.new connection) events = .ok (att, out) →
      issued events.flatten = answered out + outstanding att) ∧
    (∀ taken ∈ visited step (Att.new connection) events.flatten, ∀ data,
      taken.2.token = some data → taken.1.currentRequest ≠ none →
        ∃ effect, step taken.1 taken.2 = .ok (taken.1, [effect]) ∧ effect.answered = some data) ∧
    ((∀ taken ∈ visited step (Att.new connection) events.flatten, Proper taken.1 taken.2) →
      ∃ att out, runNested step (Att.new connection) events = .ok (att, out)) := by
  refine ⟨?_, ?_, ?_⟩
  · intro att out ran
    rw [runNested_eq_run] at ran
    have balance := run_balance step_books ran
    have idle : outstanding (Att.new connection) = 0 := rfl
    rwa [idle, zero_add] at balance
  · intro taken _ data token pending
    rcases taken with ⟨att, event⟩
    cases event with
    | call action => exact perform_refused token pending
    | received | readError => cases token
  · intro proper
    have idle : Roomy (Att.new connection) := fun _ pending => by cases pending
    rw [runNested_eq_run]
    exact run_completes (fun _ _ roomy proper => step_progress roomy proper) idle proper

/-- A discovery, a read refused during it whose callback tries again at once, and a second read
    issued from inside the discovery's callback. -/
def reentrantCalls : Nested Event :=
  .node (.call (.findInformation 1 0xFFFF 1)) .done
    (.node (.call (.readAttribute 0x25 2))
      (.node (.call (.readByType 1 9 (.uuid16 0x2803) 3)) .done .done)
      (.node (.received [attOpFindInfoResp, 1, 0xFF, 0xFF, 0x00, 0x28])
        (.node (.call (.readAttribute 0x25 4)) .done .done) .done))

theorem callbacks_once_reentrant :
    ∃ att out, runNested step (Att.new leConnection) reentrantCalls = .ok (att, out) ∧
      outstanding att = {4} ∧ issued reentrantCalls.flatten = answered out + outstanding att :=
  ⟨_, _, rfl, rfl, (callbacks_once leConnection reentrantCalls).1 _ _ rfl⟩

end Btle.Client

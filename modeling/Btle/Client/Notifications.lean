import Btle.Library.Skipping
import Btle.Client.Steps

namespace Btle.Client

open Machine

def Event.isNotification : Event → Bool
  | .received bytes => bytes.head? == some attOpHandleNotify
  | _ => false

/-- The effects of requests: PDUs written and calls of the requests' own callbacks. -/
def Effect.ofRequest : Effect → Bool
  | .write _ | .attrListCb .. | .readAttrCb .. => true
  | .notification .. | .errorHandler .. => false

def notificationOf (low high : UInt8) (payload : List UInt8) : Event :=
  .received (attOpHandleNotify :: low :: high :: payload)

theorem Event.isNotification_shape {event : Event} (notifies : event.isNotification = true)
    (whole : ∀ bytes, event = .received bytes → 3 ≤ bytes.length) :
    ∃ low high payload, event = notificationOf low high payload := by
  cases event with
  | call | readError => cases notifies
  | received bytes =>
    have kind : bytes.head? = some attOpHandleNotify := by
      simpa only [isNotification, beq_iff_eq] using notifies
    rcases notify_shape kind (whole bytes rfl) with ⟨low, high, payload, rfl⟩
    exact ⟨low, high, payload, rfl⟩

section Notification

variable (low high : UInt8) (payload : List UInt8)

theorem reportError_unrequested {att next : Att} {message : String} {out : List Effect}
    (h : att.reportError message = .ok (next, out)) :
    next = att ∧ out.filter Effect.ofRequest = [] := by
  unfold Att.reportError at h
  split at h <;> cases h <;> exact ⟨rfl, rfl⟩

/-- A notification is for a listener or for the error handler; `Att` stays as it is. -/
theorem notification_handled (att : Att) :
    ∃ out, step att (notificationOf low high payload) = .ok (att, out) ∧
      out.filter Effect.ofRequest = [] := by
  have handled := step_received_notify att low high payload
  unfold notificationOf
  rw [handled]
  dsimp only
  split
  · exact ⟨_, rfl, rfl⟩
  · cases reported : att.reportError
        (unexpectedNotification (UInt16.ofNat (LittleEndian.number [low, high]))) with
    | error fault =>
      unfold Att.reportError at reported
      split at reported <;> cases reported
    | ok result =>
      rcases result with ⟨next, out⟩
      rcases reportError_unrequested reported with ⟨rfl, nothing⟩
      exact ⟨out, rfl, nothing⟩

theorem notification_idles : Idles step (notificationOf low high payload) := by
  intro att
  rcases notification_handled low high payload att with ⟨out, handled, _⟩
  exact ⟨out, handled⟩

theorem notification_silent : Silent step Effect.ofRequest (notificationOf low high payload) := by
  intro att next out handled
  rcases notification_handled low high payload att with ⟨other, again, nothing⟩
  rw [handled] at again
  cases again
  exact nothing

theorem notification_delivered {att : Att} {data : Nat}
    (listening : att.notificationMap.lookup (UInt16.ofNat (LittleEndian.number [low, high])) =
      some data) :
    step att (notificationOf low high payload) =
      .ok (att, [.notification data 0 (some payload) payload.length none]) := by
  unfold notificationOf
  rw [step_received_notify]
  simp only [listening]

end Notification

/-- Notifications are transparent: without them a run takes its other steps from the same states,
    slot and lists included, and so does the same in each; it ends the same way and does the same for
    requests. A notification with a listener calls it once, with the bytes after the header. The
    calls of a run are given with it: none is made from inside a listener. -/
theorem notifications_transparent (att : Att) {events : List Event}
    (whole : ∀ bytes, .received bytes ∈ events → bytes.head? = some attOpHandleNotify →
      3 ≤ bytes.length) :
    (visited step att events).filter (fun taken => !taken.2.isNotification) =
        visited step att (events.filter fun event => !event.isNotification) ∧
      observe Effect.ofRequest (run step att events) =
        observe Effect.ofRequest (run step att (events.filter fun event => !event.isNotification)) ∧
      ∀ taken ∈ visited step att events, ∀ low high payload,
        taken.2 = .received (attOpHandleNotify :: low :: high :: payload) → ∀ data,
        taken.1.notificationMap.lookup (UInt16.ofNat (LittleEndian.number [low, high])) = some data →
          step taken.1 taken.2 =
            .ok (taken.1, [.notification data 0 (some payload) payload.length none]) := by
  have shaped : ∀ event ∈ events, (!event.isNotification) = false →
      ∃ low high payload, event = notificationOf low high payload := by
    intro event member dropped
    have notifies : event.isNotification = true := by
      simpa only [Bool.not_eq_false'] using dropped
    apply Event.isNotification_shape notifies
    intro bytes same
    subst same
    apply whole bytes member
    simpa only [Event.isNotification, beq_iff_eq] using notifies
  have idle : ∀ event ∈ events, (!event.isNotification) = false →
      Idles step event ∧ Silent step Effect.ofRequest event := by
    intro event member dropped
    rcases shaped event member dropped with ⟨low, high, payload, rfl⟩
    exact ⟨notification_idles low high payload, notification_silent low high payload⟩
  have sameSteps := visited_filter (fun event member dropped => (idle event member dropped).1) att
  refine ⟨sameSteps, observe_run_filter idle att, ?_⟩
  intro taken _ low high payload same data listening
  rw [same]
  exact notification_delivered low high payload listening

/-- Two notifications, one without a listener, around the pages of a discovery. -/
def notifiedDiscovery : List Event :=
  [.call (.listenForNotifications 0x12 9), .call (.findInformation 1 0x20 4),
    .received [attOpHandleNotify, 0x12, 0x00, 0xAB],
    .received [attOpFindInfoResp, 1, 0x10, 0x00, 0x00, 0x28],
    .received [attOpHandleNotify, 0x33, 0x00],
    .received [attOpError, attOpFindInfoReq, 0x11, 0x00, attEcodeAttrNotFound]]

theorem notifiedDiscovery_transparent :
    observe Effect.ofRequest (run step (Att.new leConnection) notifiedDiscovery) =
      observe Effect.ofRequest (run step (Att.new leConnection)
        [.call (.listenForNotifications 0x12 9), .call (.findInformation 1 0x20 4),
          .received [attOpFindInfoResp, 1, 0x10, 0x00, 0x00, 0x28],
          .received [attOpError, attOpFindInfoReq, 0x11, 0x00, attEcodeAttrNotFound]]) := by
  have whole : ∀ bytes, .received bytes ∈ notifiedDiscovery → bytes.head? = some attOpHandleNotify →
      3 ≤ bytes.length := by
    intro bytes member _
    simp only [notifiedDiscovery, List.mem_cons, Event.received.injEq, reduceCtorEq, false_or,
      List.not_mem_nil, or_false] at member
    rcases member with rfl | rfl | rfl | rfl <;> decide
  exact (notifications_transparent (Att.new leConnection) whole).2.1

end Btle.Client

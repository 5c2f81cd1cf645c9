import Btle.Client.Collecting
import Btle.Client.ResponseMatching

namespace Btle.Client

open Machine

/-- The token and the error text a request's callback is called with. -/
def Effect.outcome : Effect → Option (Nat × Option String)
  | .attrListCb data _ _ error => some (data, error)
  | .readAttrCb data _ _ _ error => some (data, error)
  | _ => none

/-- A read error ends the pending request: its callback is called once, with the error, and slot and
    lists are empty. Without a pending request nothing of requests moves. -/
def HandlesReadError (att : Att) (message : String) : Prop :=
  ∃ next out, step att (.readError message) = .ok (next, out) ∧
    match att.currentRequest with
    | some rd =>
      out.filterMap Effect.outcome = [(rd.data, some message)] ∧ next.currentRequest = none ∧
        next.attributeList = none ∧ next.handlesInfoList = none ∧ next.groupAttributeList = none
    | none => Untouched att next out

def ReadsOnce (att : Att) : Prop :=
  ∃ rd, att.currentRequest = some rd ∧
    (rd.callback = .onReadByType ∨ rd.callback = .onReadAttribute)

/-- What a search by type has collected ends below its end handle: it would be over otherwise. -/
def Unfinished (att : Att) : Prop :=
  ∀ rd list, att.currentRequest = some rd → att.handlesInfoList = some list →
    ∃ back, list.getLast? = some back ∧ back.handle < rd.handle

theorem Unfinished.of_idle {att : Att} (free : att.currentRequest = none) : Unfinished att := by
  intro rd list pending
  rw [free] at pending
  cases pending

theorem Unfinished.of_empty {att : Att} (empty : att.handlesInfoList = none) : Unfinished att := by
  intro rd list _ kept
  rw [empty] at kept
  cases kept

theorem Unfinished.of_same {att next : Att} (unfinished : Unfinished att)
    (slot : next.currentRequest = att.currentRequest)
    (lists : next.handlesInfoList = att.handlesInfoList) : Unfinished next := by
  intro rd list pending kept
  rw [slot] at pending
  rw [lists] at kept
  exact unfinished rd list pending kept

namespace Att

section Handlers

variable {att next : Att} {rd : ReadData} {out : List Effect} {error : Option String}
  {status : UInt8} {buf : Buf} {len : Int}

/-- A page that does not end its discovery leaves a list that stops short of the end handle. -/
theorem collectPage_short {α : Type} {accumulator : Accumulator α}
    {parse : List α → Except Fault (List α)} {handle : α → UInt16}
    {again : Att → UInt16 → Except Fault (List Effect)}
    (h : collectPage accumulator att rd parse handle again error = .ok (next, out)) :
    (∃ list back, next = accumulator.set att (some list) ∧ list.getLast? = some back ∧
      handle back < rd.handle) ∨ next.currentRequest = none := by
  rcases bind_ok h with ⟨list, _, collected⟩
  dsimp only at collected
  split at collected
  · cases collected
  · rename_i back ends
    split at collected
    · rename_i short
      rcases bind_ok collected with ⟨_, _, returned⟩
      cases returned
      exact .inl ⟨list, back, rfl, ends, short⟩
    · cases collected
      exact .inr rfl

theorem handleFindByType_unfinished (pending : att.currentRequest = some rd)
    (h : att.handleFindByType status rd buf len error = .ok (next, out)) : Unfinished next := by
  unfold handleFindByType at h
  split at h
  · rcases collectPage_short h with ⟨list, back, kept, ends, short⟩ | freed
    · subst kept
      intro other items taken held
      have same : some rd = some other := pending.symm.trans taken
      cases same
      cases held
      exact ⟨back, ends, short⟩
    · exact .of_idle freed
  · have done : next.currentRequest = none := by
      split at h
      · split at h <;> cases h <;> rfl
      · cases h
        rfl
    exact .of_idle done

theorem callbackCurrentRequest_unfinished (collecting : Collecting att)
    (h : att.callbackCurrentRequest status buf len error = .ok (next, out)) : Unfinished next := by
  have after : Collecting next := callbackCurrentRequest_collecting collecting h
  rcases id (callbackCurrentRequest_advances h) with ⟨rd, pending, advances⟩
  cases advances with
  | completes effect freed own => exact .of_idle freed
  | asksAgain pdu kept =>
    by_cases kind : rd.callback = .onFindByType
    · unfold callbackCurrentRequest at h
      simp only [pending, kind] at h
      exact handleFindByType_unfinished pending h
    · rcases after.handlesInfoList with empty | named
      · exact .of_empty empty
      · rw [kept, Option.map_some, Option.some.injEq] at named
        exact absurd named kind

end Handlers

end Att

structure Sound (att : Att) : Prop where
  collecting : Collecting att
  unfinished : Unfinished att

theorem step_sound : Preserves step Sound := by
  intro att event next out sound stepped
  rcases sound with ⟨collecting, unfinished⟩
  have kept : Collecting next := step_collecting att event next out collecting stepped
  refine ⟨kept, ?_⟩
  cases step_cases stepped with
  | advances _ _ _ delivered _ =>
    rcases delivered with ⟨_, _, _, _, handled⟩
    exact Att.callbackCurrentRequest_unfinished collecting handled
  | requested data _ request =>
    cases request with
    | accepted rd pdu free taken =>
      have empty : next.handlesInfoList = none := by
        rw [taken]
        exact (collecting.idle free).2.1
      exact .of_empty empty
    | refused _ _ _ unchanged => exact unchanged ▸ unfinished
  | quiet _ still => exact unfinished.of_same still.currentRequest still.handlesInfoList

section Deliver

variable {att : Att} {rd : ReadData} (message : String)

theorem step_readError (att : Att) :
    step att (.readError message) = att.callbackCurrentRequest 0 none 0 (some message) := rfl

theorem handled_once {next : Att} {effect : Effect} (sound : Sound att)
    (pending : att.currentRequest = some rd) (kind : ReadsOnce att)
    (stepped : step att (.readError message) = .ok (next, [effect]))
    (left : next = att.removeCurrentRequest)
    (told : effect.outcome = some (rd.data, some message)) : HandlesReadError att message := by
  rcases kind with ⟨other, same, kinds⟩
  have named : att.currentRequest.map ReadData.callback = some other.callback := by
    rw [same, Option.map_some]
  rcases sound.collecting with ⟨infos, handles, groups⟩
  refine ⟨next, [effect], stepped, ?_⟩
  simp only [pending]
  subst left
  rw [named] at infos handles groups
  have apart : other.callback ≠ .onFindInfo ∧ other.callback ≠ .onFindByType ∧
      other.callback ≠ .onReadByGroupType := by
    rcases kinds with kind | kind <;> rw [kind] <;> decide
  refine ⟨?_, rfl, ?_, ?_, ?_⟩
  · rw [List.filterMap_cons_some told, List.filterMap_nil]
  · exact infos.resolve_right (fun h => apart.1 (Option.some.inj h))
  · exact handles.resolve_right (fun h => apart.2.1 (Option.some.inj h))
  · exact groups.resolve_right (fun h => apart.2.2 (Option.some.inj h))

theorem readsOnce_handles (sound : Sound att) (once : ReadsOnce att) :
    HandlesReadError att message := by
  rcases id once with ⟨rd, pending, kind | kind⟩
  · have stepped : step att (.readError message) = .ok (att.removeCurrentRequest,
        [.attrListCb rd.data 0 (some (.values [])) (some message)]) := by
      simp only [step_readError, Att.callbackCurrentRequest, pending, kind, Att.handleReadByType]
    exact handled_once message sound pending once stepped rfl rfl
  · have stepped : step att (.readError message) = .ok (att.removeCurrentRequest,
        [.readAttrCb rd.data 0 none 0 (some message)]) := by
      simp only [step_readError, Att.callbackCurrentRequest, pending, kind, Att.onReadAttribute]
    exact handled_once message sound pending once stepped rfl rfl

/-- The three list requests test the status, which is 0, and so take the error for a page: two of
    them read the absent buffer, the third finds nothing in it and asks again. -/
theorem handles_readsOnce (sound : Sound att) (handles : HandlesReadError att message) :
    ReadsOnce att := by
  rcases handles with ⟨next, out, stepped, ended⟩
  rw [step_readError] at stepped
  cases pending : att.currentRequest with
  | none =>
    simp only [Att.callbackCurrentRequest, pending] at stepped
    cases stepped
  | some rd =>
    simp only [pending] at ended
    simp only [Att.callbackCurrentRequest, pending] at stepped
    cases kind : rd.callback with
    | onReadByType => exact ⟨rd, pending, .inl kind⟩
    | onReadAttribute => exact ⟨rd, pending, .inr kind⟩
    | onFindInfo =>
      simp only [kind] at stepped
      cases stepped
    | onReadByGroupType =>
      simp only [kind] at stepped
      cases stepped
    | onFindByType =>
      simp only [kind, Att.handleFindByType, if_true] at stepped
      cases kept : att.handlesInfoList with
      | none =>
        have unread : Accumulator.handlesInfoList.get att = none := kept
        simp only [Att.collectPage, unread, Option.getD_none] at stepped
        cases stepped
      | some list =>
        rcases sound.unfinished rd list pending kept with ⟨back, ends, short⟩
        have held : Accumulator.handlesInfoList.get att = some list := kept
        have parsed : parseHandlesInformationList list none 0 = .ok list := rfl
        simp only [Att.collectPage, held, Option.getD_some, parsed, bind, Except.bind, ends,
          if_pos short] at stepped
        rcases bind_ok stepped with ⟨written, _, returned⟩
        cases returned
        have freed := ended.2.1
        rw [Accumulator.currentRequest_set, pending] at freed
        cases freed

end Deliver

/-- In a run of `Att` read errors are handled as long as, and only as long as, they arrive while a
    `readByType` or a `readAttribute` is pending. -/
theorem readErrors_handled_iff (connection : Connection) (events : List Event) :
    (∀ taken ∈ visited step (Att.new connection) events, ∀ message,
        taken.2 = .readError message → HandlesReadError taken.1 message) ↔
      ∀ taken ∈ visited step (Att.new connection) events, ∀ message,
        taken.2 = .readError message → ReadsOnce taken.1 := by
  have initial : Sound (Att.new connection) := ⟨.of_empty rfl rfl rfl, .of_idle rfl⟩
  have agree : ∀ (att : Att) (event : Event), Sound att →
      ((∀ message, event = .readError message → HandlesReadError att message) ↔
        ∀ message, event = .readError message → ReadsOnce att) := by
    intro att event sound
    constructor
    · intro handles message same
      exact handles_readsOnce message sound (handles message same)
    · intro once message same
      exact readsOnce_handles message sound (once message same)
  exact visited_forall_congr step_sound initial agree

theorem disconnected_discovery :
    ¬ ∀ taken ∈ visited step (Att.new leConnection)
        [.call (.findInformation 1 0xFFFF 7), .readError "Connection reset by peer"],
      ∀ message, taken.2 = .readError message → HandlesReadError taken.1 message := by
  intro handled
  rcases handled _ (.tail _ (.head _)) _ rfl with ⟨next, out, stepped, _⟩
  cases stepped

end Btle.Client

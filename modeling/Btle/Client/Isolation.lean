import Btle.Library.Recording
import Btle.Client.Completeness

namespace Btle.Client

open Machine

/-- What a list response says of one attribute. -/
inductive Entry
  | info (info : AttributeInfo)
  | handles (info : HandlesInfo)
  | value (data : AttributeData)
  | group (group : GroupAttributeData)
  deriving DecidableEq, Repr

def AttributeList.entries : AttributeList → List Entry
  | .infos list => list.map .info
  | .handles list => list.map .handles
  | .values list => list.map .value
  | .groups list => list.map .group

/-- A null list counts as empty. -/
def entriesOf : Option AttributeList → List Entry
  | some list => list.entries
  | none => []

def Discovery.callback : Discovery → ReadCallback
  | .findInformation => .onFindInfo
  | .findByTypeValue .. => .onFindByType
  | .readByGroupType _ => .onReadByGroupType

/-- What happens in a run of discoveries: a response comes with the page it encodes. -/
inductive Turn
  | call (action : Call)
  | response (page : AttributeList) (pdu : List UInt8)
  | failure (pdu : List UInt8)

def Turn.event : Turn → Event
  | .call action => .call action
  | .response _ pdu => .received pdu
  | .failure pdu => .received pdu

/-- The entries received since the slot was last taken. -/
def received (att : Att) (log : List Entry) : Turn → List Entry
  | .call _ => if att.currentRequest = none then [] else log
  | .response page _ => log ++ page.entries
  | .failure _ => log

/-- Responses are well formed, not empty, and answer the pending discovery in kind; everything else
    that arrives is an error PDU. -/
def InKind (att : Att) : Turn → Prop
  | .call _ => True
  | .response page pdu => page.entries ≠ [] ∧ ∃ (rd : ReadData) (discovery : Discovery),
      att.currentRequest = some rd ∧ rd.callback = discovery.callback ∧ discovery.Encodes page pdu
  | .failure pdu => pdu.head? = some attOpError

/-- One list at most is kept, and only while its discovery holds the slot. -/
structure OneList (att : Att) : Prop where
  collecting : Collecting att
  infosHandles : att.attributeList = none ∨ att.handlesInfoList = none
  infosGroups : att.attributeList = none ∨ att.groupAttributeList = none
  handlesGroups : att.handlesInfoList = none ∨ att.groupAttributeList = none

theorem Collecting.oneList {att : Att} (collecting : Collecting att) : OneList att := by
  have apart : ∀ {first second : ReadCallback}, first ≠ second →
      att.currentRequest.map ReadData.callback = some first →
      att.currentRequest.map ReadData.callback ≠ some second := by
    intro first second differ one other
    rw [one, Option.some.injEq] at other
    exact differ other
  rcases id collecting with ⟨infos, handles, groups⟩
  refine ⟨collecting, ?_, ?_, ?_⟩
  · rcases infos with empty | named
    · exact .inl empty
    · exact .inr (handles.resolve_right (apart (by decide) named))
  · rcases infos with empty | named
    · exact .inl empty
    · exact .inr (groups.resolve_right (apart (by decide) named))
  · rcases handles with empty | named
    · exact .inl empty
    · exact .inr (groups.resolve_right (apart (by decide) named))

/-- The entries in the lists that are kept. -/
def Att.collected (att : Att) : List Entry :=
  (att.attributeList.getD []).map .info ++ (att.handlesInfoList.getD []).map .handles ++
    (att.groupAttributeList.getD []).map .group

theorem Collecting.idle_collected {att : Att} (collecting : Collecting att)
    (free : att.currentRequest = none) : att.collected = [] := by
  rcases collecting.idle free with ⟨infos, handles, groups⟩
  simp only [Att.collected, infos, handles, groups, Option.getD_none, List.map_nil, List.append_nil]

/-- A page or an error moves a discovery on to the entries `log`: it keeps them and asks for more,
    or hands them over and frees the slot. -/
inductive Yields (rd : ReadData) (next : Att) (log : List Entry) : List Effect → Prop
  | keeps (pdu : List UInt8) (pending : next.currentRequest = some rd) (kept : next.collected = log) :
      Yields rd next log [.write pdu]
  | handsOver (status : UInt8) (list : Option AttributeList) (error : Option String)
      (freed : next.currentRequest = none) (delivered : entriesOf list = log) :
      Yields rd next log [.attrListCb rd.data status list error]

/-- The list of a discovery and the entries `Att` has collected are the same thing. -/
structure Owns {α : Type} (accumulator : Accumulator α) (att : Att) : Prop where
  held : entriesOf ((accumulator.get att).map accumulator.list) = att.collected
  set : ∀ list, (accumulator.set att (some list)).collected = (accumulator.list list).entries

section Owns

variable {att : Att} (collecting : Collecting att)

include collecting

theorem owns_attributeList (kind : att.currentRequest.map ReadData.callback = some .onFindInfo) :
    Owns .attributeList att := by
  rcases collecting with ⟨_, handles, groups⟩
  simp only [kind, Option.some.injEq, reduceCtorEq, or_false] at handles groups
  refine ⟨?_, ?_⟩
  · simp only [Accumulator.attributeList, Att.collected, handles, groups, Option.getD_none,
      List.map_nil, List.append_nil]
    cases att.attributeList <;> rfl
  · intro list
    simp only [Accumulator.attributeList, Att.collected, handles, groups, Option.getD_none,
      Option.getD_some, List.map_nil, List.append_nil, AttributeList.entries]

theorem owns_handlesInfoList (kind : att.currentRequest.map ReadData.callback = some .onFindByType) :
    Owns .handlesInfoList att := by
  rcases collecting with ⟨infos, _, groups⟩
  simp only [kind, Option.some.injEq, reduceCtorEq, or_false] at infos groups
  refine ⟨?_, ?_⟩
  · simp only [Accumulator.handlesInfoList, Att.collected, infos, groups, Option.getD_none,
      List.map_nil, List.append_nil, List.nil_append]
    cases att.handlesInfoList <;> rfl
  · intro list
    simp only [Accumulator.handlesInfoList, Att.collected, infos, groups, Option.getD_none,
      Option.getD_some, List.map_nil, List.append_nil, List.nil_append, AttributeList.entries]

theorem owns_groupAttributeList
    (kind : att.currentRequest.map ReadData.callback = some .onReadByGroupType) :
    Owns .groupAttributeList att := by
  rcases collecting with ⟨infos, handles, _⟩
  simp only [kind, Option.some.injEq, reduceCtorEq, or_false] at infos handles
  refine ⟨?_, ?_⟩
  · simp only [Accumulator.groupAttributeList, Att.collected, infos, handles, Option.getD_none,
      List.map_nil, List.nil_append]
    cases att.groupAttributeList <;> rfl
  · intro list
    simp only [Accumulator.groupAttributeList, Att.collected, infos, handles, Option.getD_none,
      Option.getD_some, List.map_nil, List.nil_append, AttributeList.entries]

end Owns

namespace Att

section Handlers

variable {att next : Att} {rd : ReadData} {out : List Effect} {error : Option String}
  {status : UInt8} {log : List Entry}

theorem finish_yields {α : Type} {accumulator : Accumulator α}
    (held : entriesOf ((accumulator.get att).map accumulator.list) = log)
    (h : finish accumulator att rd status error = .ok (next, out)) : Yields rd next log out := by
  cases h
  exact .handsOver status _ error rfl held

theorem collectPage_yields {α : Type} {accumulator : Accumulator α}
    {parse : List α → Except Fault (List α)} {handle : α → UInt16}
    {again : Att → UInt16 → Except Fault (List Effect)} (owns : Owns accumulator att)
    (writes : ∀ att start out, again att start = .ok out → ∃ pdu, out = [.write pdu])
    (parsed : ∀ list, parse ((accumulator.get att).getD []) = .ok list →
      (accumulator.list list).entries = log)
    (pending : att.currentRequest = some rd)
    (h : collectPage accumulator att rd parse handle again error = .ok (next, out)) :
    Yields rd next log out := by
  rcases collectPage_cases h with ⟨list, back, read, ⟨written, sent, rfl, rfl⟩ | ended⟩
  · rcases writes _ _ _ sent with ⟨pdu, rfl⟩
    refine .keeps pdu ?_ ?_
    · rw [accumulator.currentRequest_set, pending]
    · rw [owns.set, parsed list read]
  · apply finish_yields _ ended
    rw [accumulator.get_set]
    exact parsed list read

/-- What an error PDU of the pending discovery does: the three handlers differ in it, but each hands
    over just what it has collected, or asks again without having collected more. -/
theorem callbackCurrentRequest_error_yields {discovery : Discovery} (collecting : Collecting att)
    (pending : att.currentRequest = some rd) (kind : rd.callback = discovery.callback)
    (h : att.callbackCurrentRequest status none 0 error = .ok (next, out)) :
    Yields rd next att.collected out := by
  have named : att.currentRequest.map ReadData.callback = some discovery.callback := by
    rw [pending, Option.map_some, kind]
  unfold callbackCurrentRequest at h
  simp only [pending, kind] at h
  cases discovery with
  | findInformation =>
    have held := (owns_attributeList collecting named).held
    simp only [Discovery.callback, handleFindInfo] at h
    split at h
    · cases h
    · split at h <;> exact finish_yields held h
  | readByGroupType type =>
    have held := (owns_groupAttributeList collecting named).held
    simp only [Discovery.callback, handleReadByGroupType] at h
    split at h
    · cases h
    · split at h <;> exact finish_yields held h
  | findByTypeValue type value =>
    have owns := owns_handlesInfoList collecting named
    simp only [Discovery.callback, handleFindByType] at h
    split at h
    · apply collectPage_yields owns (fun _ _ _ sent => write_writes sent) _ pending h
      intro list read
      cases read
      rw [← owns.held]
      cases Accumulator.handlesInfoList.get att <;> rfl
    · split at h
      · split at h
        · rename_i empty
          cases h
          have nothing : Accumulator.handlesInfoList.get att = none := empty
          have held := owns.held
          rw [nothing] at held
          exact .handsOver 0 none _ rfl held
        · exact finish_yields owns.held h
      · exact finish_yields owns.held h

end Handlers

end Att

section Response

variable {α : Type} {accumulator : Accumulator α} {att next : Att} {rd : ReadData}
  {handle : α → UInt16} {again : Att → UInt16 → Except Fault (List Effect)} {out : List Effect}

theorem page_yields {parse : List α → Except Fault (List α)} {page : List α}
    (owns : Owns accumulator att)
    (writes : ∀ att start out, again att start = .ok out → ∃ pdu, out = [.write pdu])
    (parsed : ∀ collected, parse collected = .ok (collected ++ page))
    (together : ∀ first second, (accumulator.list (first ++ second)).entries =
      (accumulator.list first).entries ++ (accumulator.list second).entries)
    (nothing : (accumulator.list []).entries = [])
    (pending : att.currentRequest = some rd)
    (h : Att.collectPage accumulator att rd parse handle again none = .ok (next, out)) :
    Yields rd next (att.collected ++ (accumulator.list page).entries) out := by
  apply Att.collectPage_yields owns writes _ pending h
  intro list read
  rw [parsed, Except.ok.injEq] at read
  rw [← read, together, ← owns.held]
  congr 1
  cases accumulator.get att with
  | none => exact nothing
  | some list => rfl

/-- A well-formed response in kind adds its own entries to what is collected. -/
theorem response_yields {discovery : Discovery} {page : AttributeList} {pdu : List UInt8}
    (collecting : Collecting att) (pending : att.currentRequest = some rd)
    (kind : rd.callback = discovery.callback) (encoded : discovery.Encodes page pdu)
    (h : step att (.received pdu) = .ok (next, out)) :
    Yields rd next (att.collected ++ page.entries) out := by
  have named : att.currentRequest.map ReadData.callback = some discovery.callback := by
    rw [pending, Option.map_some, kind]
  cases encoded with
  | infos format list uniform =>
    rw [step_findInfo _ pending (by decide) (by decide) kind] at h
    exact page_yields (owns_attributeList collecting named) (fun _ _ _ sent => Att.write_writes sent)
      (fun collected => parseAttributeList_encoded collected uniform) (fun _ _ => List.map_append) rfl
      pending h
  | handles type value list =>
    rw [step_findByType _ pending (by decide) (by decide) kind] at h
    exact page_yields (owns_handlesInfoList collecting named) (fun _ _ _ sent => Att.write_writes sent)
      (fun collected => parseHandlesInformationList_encoded collected list) (fun _ _ => List.map_append)
      rfl pending h
  | groups type length list uniform =>
    rw [step_readByGroupType _ pending (by decide) (by decide) kind] at h
    exact page_yields (owns_groupAttributeList collecting named)
      (fun _ _ _ sent => Att.write_writes sent)
      (fun collected => parseGroupAttributeDataList_encoded collected uniform)
      (fun _ _ => List.map_append) rfl pending h

end Response

def ReadData.Discovers (rd : ReadData) : Prop := ∃ discovery : Discovery, rd.callback = discovery.callback

/-- The log and the lists agree while a discovery is pending. -/
structure Logged (state : Att × List Entry) : Prop where
  collecting : Collecting state.1
  log : ∀ rd, state.1.currentRequest = some rd → rd.Discovers → state.1.collected = state.2

abbrev recordedStep : Step (Att × List Entry) Turn Effect Fault := recording step Turn.event received

/-- A turn keeps log and lists together, and what it delivers to the pending discovery is the log. -/
def Faithful (att : Att) (turn : Turn) (next : Att) (log : List Entry) (out : List Effect) : Prop :=
  Logged (next, log) ∧ ∀ rd, att.currentRequest = some rd → rd.Discovers →
    turn.event.token = none → ∀ data status list error, .attrListCb data status list error ∈ out →
      data = rd.data ∧ entriesOf list = log

section Turns

variable {att next : Att} {rd : ReadData} {log : List Entry} {out : List Effect} {turn : Turn}

theorem Yields.faithful (yields : Yields rd next log out) (pending : att.currentRequest = some rd)
    (collecting : Collecting next) : Faithful att turn next log out := by
  cases yields with
  | keeps pdu kept_slot kept =>
    refine ⟨⟨collecting, fun _ _ _ => kept⟩, ?_⟩
    intro _ _ _ _ data status list error member
    cases List.mem_singleton.mp member
  | handsOver status list error freed delivered =>
    refine ⟨⟨collecting, ?_⟩, ?_⟩
    · intro other taken
      rw [freed] at taken
      cases taken
    · intro other taken _ _ data _ _ _ member
      cases List.mem_singleton.mp member
      rw [pending, Option.some.injEq] at taken
      exact ⟨congrArg ReadData.data taken, delivered⟩

theorem Quiet.faithful (still : Quiet att next out) (logged : Logged (att, log))
    (collecting : Collecting next) : Faithful att turn next log out := by
  have same : next.collected = att.collected := by
    unfold Att.collected
    rw [still.attributeList, still.handlesInfoList, still.groupAttributeList]
  refine ⟨⟨collecting, ?_⟩, ?_⟩
  · intro rd pending discovers
    rw [still.currentRequest] at pending
    rw [same]
    exact logged.log rd pending discovers
  · intro _ _ _ _ data status list error member
    cases still.uncalled _ member

theorem call_faithful {action : Call} (logged : Logged (att, log))
    (h : att.perform action = .ok (next, out)) :
    Faithful att (.call action) next (received att log (.call action)) out := by
  have collecting : Collecting next := step_collecting _ (.call action) _ _ logged.collecting h
  cases token : action.token with
  | none =>
    have still := perform_unrequested token h
    cases slot : att.currentRequest with
    | none =>
      have idle : ∀ rd, next.currentRequest ≠ some rd := by
        intro rd pending
        rw [still.currentRequest, slot] at pending
        cases pending
      have started : ∀ rd, att.currentRequest ≠ some rd := by
        intro rd pending
        rw [slot] at pending
        cases pending
      exact ⟨⟨collecting, fun rd pending => absurd pending (idle rd)⟩,
        fun rd pending => absurd pending (started rd)⟩
    | some rd =>
      have taken : ¬ att.currentRequest = none := by rw [slot]; exact Option.some_ne_none rd
      rw [received, if_neg taken]
      exact still.faithful logged collecting
  | some data =>
    have called : ∀ rd, att.currentRequest = some rd → rd.Discovers →
        (Turn.call action).event.token = none → ∀ data status list error,
          .attrListCb data status list error ∈ out → data = rd.data ∧
            entriesOf list = received att log (.call action) := by
      intro rd _ _ uncalled
      exact absurd (token.symm.trans uncalled) (Option.some_ne_none data)
    refine ⟨⟨collecting, ?_⟩, called⟩
    cases perform_requested token h with
    | accepted rd pdu free taken =>
      intro other _ _
      have empty : att.collected = [] := Collecting.idle_collected logged.collecting free
      rw [received, if_pos free, taken]
      exact empty
    | refused rd effect taken unchanged =>
      intro other pending discovers
      have busy : ¬ att.currentRequest = none := by rw [taken]; exact Option.some_ne_none rd
      rw [received, if_neg busy]
      subst unchanged
      exact logged.log other pending discovers

theorem failure_faithful {pdu : List UInt8} (logged : Logged (att, log))
    (kind : pdu.head? = some attOpError) (h : step att (.received pdu) = .ok (next, out)) :
    Faithful att (.failure pdu) next log out := by
  have collecting : Collecting next := step_collecting _ _ _ _ logged.collecting h
  have complete : 5 ≤ pdu.length := by
    by_contra short
    rw [step_received_short_error att kind (by omega)] at h
    cases h
  rcases error_shape kind complete with ⟨request, low, high, errorCode, rest, rfl⟩
  rw [step_received_error] at h
  dsimp only at h
  split at h
  · cases pending : att.currentRequest with
    | none =>
      simp only [Att.callbackCurrentRequest, pending] at h
      cases h
    | some rd =>
      by_cases discovers : rd.Discovers
      · rcases id discovers with ⟨discovery, same⟩
        have yields :=
          Att.callbackCurrentRequest_error_yields logged.collecting pending same h
        have log_is : att.collected = log := logged.log rd pending discovers
        rw [log_is] at yields
        exact yields.faithful pending collecting
      · rcases Att.callbackCurrentRequest_advances h with ⟨other, taken, advances⟩
        have same : rd = other := Option.some.inj (pending.symm.trans taken)
        subst same
        refine ⟨⟨collecting, ?_⟩, ?_⟩
        · intro later kept found
          cases advances with
          | asksAgain pdu still =>
            rw [still, Option.some.injEq] at kept
            exact absurd (kept ▸ found) discovers
          | completes effect freed =>
            rw [freed] at kept
            cases kept
        · intro later kept found
          rw [pending, Option.some.injEq] at kept
          exact absurd (kept ▸ found) discovers
  · exact (Att.reportError_quiet h).faithful logged collecting

theorem turn_faithful (logged : Logged (att, log)) (inKind : InKind att turn)
    (h : step att turn.event = .ok (next, out)) :
    Faithful att turn next (received att log turn) out := by
  cases turn with
  | call action => exact call_faithful logged h
  | failure pdu => exact failure_faithful logged inKind h
  | response page pdu =>
    rcases inKind with ⟨_, rd, discovery, pending, kind, encoded⟩
    have yields := response_yields logged.collecting pending kind encoded h
    have log_is : att.collected = log := logged.log rd pending ⟨discovery, kind⟩
    rw [log_is] at yields
    exact yields.faithful pending (step_collecting _ _ _ _ logged.collecting h)

end Turns

/-- No leak between requests: in a run of discoveries, all answered in kind, one list at most is
    kept, and only by the discovery that holds the slot; and what a discovery is given at its end is
    what its own responses held, in order. The log is kept beside the run and has no part in it. -/
theorem discoveries_isolated (connection : Connection) {turns : List Turn}
    (inKind : ∀ taken ∈ visited recordedStep (Att.new connection, []) turns,
      InKind taken.1.1 taken.2) :
    (visited recordedStep (Att.new connection, []) turns).map
        (fun taken => (taken.1.1, taken.2.event)) =
      visited step (Att.new connection) (turns.map Turn.event) ∧
    ∀ taken ∈ visited recordedStep (Att.new connection, []) turns, OneList taken.1.1 ∧
      ∀ next log out, recordedStep taken.1 taken.2 = .ok ((next, log), out) →
        OneList next ∧ ∀ rd, taken.1.1.currentRequest = some rd → rd.Discovers →
          taken.2.event.token = none → ∀ data status list error,
            .attrListCb data status list error ∈ out → data = rd.data ∧ entriesOf list = log := by
  have initial : Logged (Att.new connection, []) := by
    refine ⟨.of_empty rfl rfl rfl, ?_⟩
    intro rd pending
    cases pending
  have preserve : ∀ state turn next out, Logged state → InKind state.1 turn →
      recordedStep state turn = .ok (next, out) → Logged next := by
    intro state turn next out logged kind stepped
    rcases recording_ok stepped with ⟨handled, same⟩
    have faithful := turn_faithful logged kind handled
    rw [← same] at faithful
    exact faithful.1
  have logged := visited_preserves_of_valid preserve initial inKind
  refine ⟨visited_recording _ _ _, ?_⟩
  intro taken member
  have held : Logged taken.1 := logged taken member
  refine ⟨held.collecting.oneList, ?_⟩
  intro next log out stepped
  rcases recording_ok stepped with ⟨handled, same⟩
  have faithful := turn_faithful held (inKind taken member) handled
  subst same
  exact ⟨faithful.1.collecting.oneList, faithful.2⟩

/-- A discovery that fails after its first page, and the next one, which is handed one page only. -/
def failedDiscovery : List Turn :=
  [.call (.findInformation 1 0xFFFF 4),
    .response (.infos [⟨0x10, .uuid16 0x2800⟩]) [attOpFindInfoResp, 1, 0x10, 0x00, 0x00, 0x28],
    .failure [attOpError, attOpFindInfoReq, 0x11, 0x00, 0x0E],
    .call (.findInformation 1 0x20 5),
    .response (.infos [⟨0x20, .uuid16 0x2803⟩]) [attOpFindInfoResp, 1, 0x20, 0x00, 0x03, 0x28]]

theorem failedDiscovery_inKind :
    ∀ taken ∈ visited recordedStep (Att.new leConnection, []) failedDiscovery,
      InKind taken.1.1 taken.2 := by
  have page (handle type : UInt16) : ∀ info ∈ [(⟨handle, .uuid16 type⟩ : AttributeInfo)],
      InFormat attFindInfoRespFmt16Bit info.type := by
    intro info member
    rw [List.mem_singleton.mp member]
    rfl
  intro taken member
  cases member with
  | head => trivial
  | tail _ member =>
    cases member with
    | head => exact ⟨by decide, _, .findInformation, rfl, rfl, .infos 1 _ (page 0x10 0x2800)⟩
    | tail _ member =>
      cases member with
      | head => rfl
      | tail _ member =>
        cases member with
        | head => trivial
        | tail _ member =>
          cases member with
          | head => exact ⟨by decide, _, .findInformation, rfl, rfl, .infos 1 _ (page 0x20 0x2803)⟩
          | tail _ member => cases member

theorem failedDiscovery_isolated :
    (visited recordedStep (Att.new leConnection, []) failedDiscovery).map
        (fun taken => (taken.1.1, taken.2.event)) =
      visited step (Att.new leConnection) (failedDiscovery.map Turn.event) ∧
    (∀ taken ∈ visited recordedStep (Att.new leConnection, []) failedDiscovery,
      OneList taken.1.1) ∧
    ∃ taken ∈ visited recordedStep (Att.new leConnection, []) failedDiscovery,
      ∃ next log out list error, recordedStep taken.1 taken.2 = .ok ((next, log), out) ∧
        .attrListCb 4 0x0E list error ∈ out ∧ entriesOf list = [.info ⟨0x10, .uuid16 0x2800⟩] := by
  rcases discoveries_isolated leConnection failedDiscovery_inKind with ⟨same, isolated⟩
  refine ⟨same, fun taken member => (isolated taken member).1, ?_⟩
  -- the third turn is the failure
  have failure := List.mem_of_mem_tail (List.mem_of_mem_tail (List.head_mem
    (show (visited recordedStep (Att.new leConnection, []) failedDiscovery).tail.tail ≠ [] from
      List.cons_ne_nil _ _)))
  refine ⟨_, failure, _, _, _, _, _, rfl, .head _, ?_⟩
  exact (((isolated _ failure).2 _ _ _ rfl).2 _ rfl ⟨.findInformation, rfl⟩ rfl _ _ _ _ (.head _)).2

end Btle.Client

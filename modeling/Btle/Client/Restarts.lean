import Mathlib.Data.List.TakeWhile
import Btle.Client.Completeness
import Btle.Client.Slots

namespace Btle.Client

open Machine Paging

def AttributeList.lastHandle : AttributeList → Option UInt16
  | .infos list => list.getLast?.map AttributeInfo.handle
  | .handles list => list.getLast?.map HandlesInfo.handle
  | .values list => list.getLast?.map AttributeData.handle
  | .groups list => list.getLast?.map GroupAttributeData.handle

/-- The handles a discovery asks for; other calls discover nothing. -/
def Call.range : Call → Option (UInt16 × UInt16)
  | .findInformation startHandle endHandle _ => some (startHandle, endHandle)
  | .findByTypeValue startHandle endHandle _ _ _ => some (startHandle, endHandle)
  | .readByGroupType startHandle endHandle _ _ => some (startHandle, endHandle)
  | _ => none

/-- A well-formed response to a call's request, with at least one entry. -/
def Call.Receives (call : Call) (page : AttributeList) (pdu : List UInt8) : Prop :=
  page.lastHandle ≠ none ∧
    ∃ discovery : Discovery, some discovery.opcode = call.opcode ∧ discovery.Encodes page pdu

/-- The start handle in each PDU that is written, if it is long enough to hold one. -/
def Effect.startHandle : Effect → Option (Option UInt16)
  | .write pdu => some (attGetU16 (some pdu) 1).toOption
  | _ => none

/-- The requests of a discovery that gets these responses start at ever greater handles, and there
    are no more of them than handles in the range. -/
def RestartsRise (att : Att) (call : Call) (startHandle endHandle : UInt16)
    (pdus : List (List UInt8)) : Prop :=
  ∃ last out starts, run step att (.call call :: pdus.map .received) = .ok (last, out) ∧
    out.filterMap Effect.startHandle = List.map some starts ∧ Ascending UInt16.toNat starts ∧
    starts.length ≤ endHandle.toNat + 1 - startHandle.toNat

/-- The last handles of the responses that leave handles to ask for. -/
def leftOff (endHandle : UInt16) (pages : List AttributeList) : List UInt16 :=
  (pages.filterMap AttributeList.lastHandle).takeWhile fun back => back < endHandle

section Sent

theorem attGetU16_header {pdu rest : List UInt8} {opcode : UInt8} {startHandle endHandle : UInt16}
    (laid : pdu = rangeHeader opcode startHandle endHandle ++ rest) :
    attGetU16 (some pdu) 1 = .ok startHandle := by
  apply attGetU16_laid [opcode] (attPutU16 endHandle ++ rest) rfl
  rw [laid, rangeHeader]
  simp only [List.cons_append, List.nil_append, List.append_assoc]

/-- The PDU of a range request, as far as it can be encoded. -/
def sentPdu (connection : Connection) (opcode : UInt8) (endHandle : UInt16) (uuid : Option BtUuid)
    (value : Option (List UInt8)) (startHandle : UInt16) : List UInt8 :=
  match encodeRange opcode startHandle endHandle uuid connection.getBuffer value with
  | .ok (buffer, len) => buffer.take len
  | .error _ => []

variable {connection : Connection} {uuid : Option BtUuid} {value : Option (List UInt8)}
  (opcode : UInt8) (endHandle : UInt16)

theorem sends_writes (sends : connection.Sends uuid value) (startHandle : UInt16) :
    Att.write (encodeRange opcode startHandle endHandle uuid connection.getBuffer value) =
      .ok [.write (sentPdu connection opcode endHandle uuid value startHandle)] := by
  rcases encodeRange_sends opcode startHandle endHandle sends with ⟨rest, len, encoded, _⟩
  rw [sentPdu, encoded]
  rfl

theorem sentPdu_startHandle (sends : connection.Sends uuid value) (startHandle : UInt16) :
    Effect.startHandle (.write (sentPdu connection opcode endHandle uuid value startHandle)) =
      some (some startHandle) := by
  rcases encodeRange_sends opcode startHandle endHandle sends with ⟨rest, len, encoded, long⟩
  have laid : (rangeHeader opcode startHandle endHandle ++ rest).take len =
      rangeHeader opcode startHandle endHandle ++ rest.take (len - 5) := by
    rw [List.take_append, rangeHeader_length, List.take_of_length_le]
    rw [rangeHeader_length]
    exact long
  simp only [sentPdu, encoded, Effect.startHandle, attGetU16_header laid, Except.toOption]

end Sent

section Pages

variable {α : Type} {accumulator : Accumulator α} {rd : ReadData} {connection : Connection}
  {handle : α → UInt16} {request : UInt16 → List UInt8} {encodes : List α → List UInt8 → Prop}

/-- What a handler needs of the responses to its request. -/
structure Reads (accumulator : Accumulator α) (handle : α → UInt16)
    (encodes : List α → List UInt8 → Prop) (page : AttributeList) (pdu : List UInt8) : Prop where
  entries : ∃ list back, list.getLast? = some back ∧ page.lastHandle = some (handle back) ∧
    encodes list pdu
  response : ∃ opcode payload, pdu = opcode :: payload ∧ opcode ≠ attOpError ∧
    opcode ≠ attOpHandleNotify

theorem unexpected_unsent {att : Att} {pages : List AttributeList} {pdus : List (List UInt8)}
    (read : List.Forall₂ (Reads accumulator handle encodes) pages pdus)
    (idle : att.currentRequest = none) :
    ∃ out, run step att (pdus.map .received) = .ok (att, out) ∧
      out.filterMap Effect.startHandle = [] := by
  induction read with
  | nil => exact ⟨[], rfl, rfl⟩
  | @cons page pdu pages pdus reads _ ih =>
    rcases reads.response with ⟨opcode, payload, rfl, notError, notNotify⟩
    rcases ih with ⟨out, ran, unsent⟩
    have stepped := step_received_response att payload notError notNotify
    simp only [idle, Att.reportError] at stepped
    cases handler : att.errorHandler with
    | none =>
      simp only [handler] at stepped
      exact ⟨_, run_cons_of_step stepped ran, unsent⟩
    | some data =>
      simp only [handler] at stepped
      exact ⟨_, run_cons_of_step stepped ran, unsent⟩

/-- A discovery writes its first request and one more behind the last handle of every response,
    until one reaches the end handle. -/
theorem pages_restart (takes : TakesPages accumulator rd connection handle request encodes)
    (starts : ∀ first, Effect.startHandle (.write (request first)) = some (some first))
    {pages : List AttributeList} {pdus : List (List UInt8)}
    (read : List.Forall₂ (Reads accumulator handle encodes) pages pdus) {att : Att}
    (pending : att.currentRequest = some rd) (linked : att.connection = connection) :
    ∃ last out, run step att (pdus.map .received) = .ok (last, out) ∧
      out.filterMap Effect.startHandle =
        (leftOff rd.handle pages).map fun back => some (back + 1) := by
  induction read generalizing att with
  | nil => exact ⟨att, [], rfl, rfl⟩
  | @cons page pdu pages pdus reads later ih =>
    rcases reads.entries with ⟨list, back, ends, lastHandle, encoded⟩
    have stepped := takes.page pending linked encoded ends
    have first : leftOff rd.handle (page :: pages) =
        if handle back < rd.handle then handle back :: leftOff rd.handle pages else [] := by
      simp only [leftOff, List.filterMap_cons, lastHandle, List.takeWhile_cons, decide_eq_true_eq]
    by_cases more : handle back < rd.handle
    · rw [if_pos more] at stepped first
      have still : (accumulator.set att (some ((accumulator.get att).getD [] ++ list))).currentRequest =
          some rd := by rw [accumulator.currentRequest_set, pending]
      have same : (accumulator.set att (some ((accumulator.get att).getD [] ++ list))).connection =
          connection := by rw [accumulator.connection_set, linked]
      rcases ih still same with ⟨last, out, ran, sent⟩
      refine ⟨last, _, run_cons_of_step stepped ran, ?_⟩
      rw [List.filterMap_append, sent, first, List.filterMap_cons, starts]
      rfl
    · rw [if_neg more] at stepped first
      rcases unexpected_unsent later (Att.removeCurrentRequest_currentRequest _) with ⟨out, ran, unsent⟩
      refine ⟨_, _, run_cons_of_step stepped ran, ?_⟩
      rw [List.filterMap_append, unsent, first]
      rfl

theorem discovery_restarts (takes : TakesPages accumulator rd connection handle request encodes)
    (starts : ∀ first, Effect.startHandle (.write (request first)) = some (some first))
    {pages : List AttributeList} {pdus : List (List UInt8)}
    (read : List.Forall₂ (Reads accumulator handle encodes) pages pdus) {att : Att} {call : Call}
    {startHandle : UInt16} (linked : att.connection = connection)
    (stepped : step att (.call call) =
      .ok ({ att with currentRequest := some rd }, [.write (request startHandle)])) :
    ∃ last out, run step att (.call call :: pdus.map .received) = .ok (last, out) ∧
      out.filterMap Effect.startHandle =
        (startHandle :: (leftOff rd.handle pages).map (· + 1)).map some := by
  have pending : ({ att with currentRequest := some rd } : Att).currentRequest = some rd := rfl
  rcases pages_restart takes starts read pending linked with ⟨last, out, ran, sent⟩
  refine ⟨last, _, run_cons_of_step stepped ran, ?_⟩
  rw [List.filterMap_append, sent, List.filterMap_cons, starts, List.map_cons, List.map_map]
  rfl

end Pages

section Range

variable {startHandle endHandle : UInt16} {pages : List AttributeList}

theorem leftOff_below {back : UInt16} (left : back ∈ leftOff endHandle pages) :
    back < endHandle := by
  have kept := List.mem_takeWhile_imp left
  simpa only [decide_eq_true_eq] using kept

theorem restart_toNat {back : UInt16} (left : back ∈ leftOff endHandle pages) :
    (back + 1).toNat = back.toNat + 1 ∧ (back + 1).toNat ≤ endHandle.toNat := by
  have below : back.toNat < endHandle.toNat := UInt16.lt_iff_toNat_lt.mp (leftOff_below left)
  have bound := endHandle.toNat_lt
  rw [UInt16.toNat_add]
  simp only [UInt16.toNat_one, Nat.reducePow] at bound ⊢
  omega

theorem starts_ascending_iff :
    Ascending UInt16.toNat (startHandle :: (leftOff endHandle pages).map (· + 1)) ↔
      Rising UInt16.toNat startHandle.toNat (leftOff endHandle pages) := by
  have restarts : (startHandle :: (leftOff endHandle pages).map (· + 1)).map UInt16.toNat =
      startHandle.toNat :: (leftOff endHandle pages).map fun back => back.toNat + 1 := by
    rw [List.map_cons, List.map_map]
    congr 1
    apply List.map_congr_left
    intro back left
    exact (restart_toNat left).1
  rw [← restarts_ascending_iff, ← restarts]
  exact List.pairwise_map.symm

/-- Ever greater start handles within the range are no more than its handles. -/
theorem starts_length_le (ordered : startHandle ≤ endHandle)
    (ascending : Ascending UInt16.toNat (startHandle :: (leftOff endHandle pages).map (· + 1))) :
    (startHandle :: (leftOff endHandle pages).map (· + 1)).length ≤
      endHandle.toNat + 1 - startHandle.toNat := by
  have fits : startHandle.toNat ≤ endHandle.toNat := UInt16.le_iff_toNat_le.mp ordered
  apply ascending_length_le ascending
  intro start member
  rcases List.mem_cons.mp member with rfl | later
  · exact ⟨Nat.le_refl _, fits⟩
  · have above := (List.pairwise_cons.mp ascending).1 start later
    rcases List.mem_map.mp later with ⟨back, left, rfl⟩
    exact ⟨Nat.le_of_lt above, (restart_toNat left).2⟩

end Range

section Calls

variable {att : Att} {call : Call} {startHandle endHandle : UInt16} {pages : List AttributeList}
  {pdus : List (List UInt8)}

theorem getLast?_map_back {α : Type} {list : List α} {handle : α → UInt16}
    (some_page : list.getLast?.map handle ≠ none) :
    ∃ back, list.getLast? = some back ∧ list.getLast?.map handle = some (handle back) := by
  cases ends : list.getLast? with
  | none =>
    rw [ends] at some_page
    exact absurd rfl some_page
  | some back => exact ⟨back, rfl, rfl⟩

theorem Call.Receives.infos {data : Nat} {page : AttributeList} {pdu : List UInt8}
    (receives : (Call.findInformation startHandle endHandle data).Receives page pdu) :
    Reads .attributeList AttributeInfo.handle
      (fun list pdu => Discovery.findInformation.Encodes (.infos list) pdu) page pdu := by
  rcases receives with ⟨some_page, discovery, kind, encoded⟩
  cases encoded with
  | handles | groups => cases kind
  | infos format list uniform =>
    rcases getLast?_map_back some_page with ⟨back, ends, last⟩
    exact ⟨⟨list, back, ends, last, .infos format list uniform⟩, ⟨_, _, rfl, by decide, by decide⟩⟩

theorem Call.Receives.handles {type : BtUuid} {value : Option (List UInt8)} {data : Nat}
    {page : AttributeList} {pdu : List UInt8}
    (receives : (Call.findByTypeValue startHandle endHandle type value data).Receives page pdu) :
    Reads .handlesInfoList HandlesInfo.handle
      (fun list pdu => (Discovery.findByTypeValue 0 none).Encodes (.handles list) pdu) page pdu := by
  rcases receives with ⟨some_page, discovery, kind, encoded⟩
  cases encoded with
  | infos | groups => cases kind
  | handles _ _ list =>
    rcases getLast?_map_back some_page with ⟨back, ends, last⟩
    exact ⟨⟨list, back, ends, last, .handles 0 none list⟩, ⟨_, _, rfl, by decide, by decide⟩⟩

theorem Call.Receives.groups {type : BtUuid} {data : Nat} {page : AttributeList} {pdu : List UInt8}
    (receives : (Call.readByGroupType startHandle endHandle type data).Receives page pdu) :
    Reads .groupAttributeList GroupAttributeData.handle
      (fun list pdu => (Discovery.readByGroupType .unspec).Encodes (.groups list) pdu) page pdu := by
  rcases receives with ⟨some_page, discovery, kind, encoded⟩
  cases encoded with
  | infos | handles => cases kind
  | groups _ length list uniform =>
    rcases getLast?_map_back some_page with ⟨back, ends, last⟩
    exact ⟨⟨list, back, ends, last, .groups .unspec length list uniform⟩,
      ⟨_, _, rfl, by decide, by decide⟩⟩

/-- Where each request of a discovery that can be sent starts. -/
theorem call_restarts (idle : att.currentRequest = none)
    (ranged : call.range = some (startHandle, endHandle)) (sendable : call.Sendable att.connection)
    (received : List.Forall₂ call.Receives pages pdus) :
    ∃ last out, run step att (.call call :: pdus.map .received) = .ok (last, out) ∧
      out.filterMap Effect.startHandle =
        (startHandle :: (leftOff endHandle pages).map (· + 1)).map some := by
  cases call with
  | readByType | readAttribute | writeCommand | writeRequest | listenForNotifications | onError =>
    cases ranged
  | findInformation first last data =>
    cases ranged
    have sent := sends_writes attOpFindInfoReq endHandle sendable
    let rd : ReadData := ⟨attOpFindInfoReq, attOpFindInfoResp, data, endHandle, .unspec, none, .onFindInfo⟩
    have asks : ∀ (other : Att) start, other.connection = att.connection →
        other.doFindInformation start endHandle =
          .ok [.write (sentPdu att.connection attOpFindInfoReq endHandle none none start)] := by
      intro other start same
      rw [Att.doFindInformation, same]
      exact sent start
    have takes := @findInfo_takes att.connection rd _ rfl asks
    exact discovery_restarts takes (sentPdu_startHandle attOpFindInfoReq endHandle sendable)
      (received.imp fun _ _ receives => receives.infos) rfl
      (Att.request_accepted idle (sent startHandle))
  | findByTypeValue first last type value data =>
    cases ranged
    have sent := sends_writes attOpFindByTypeReq endHandle sendable
    let rd : ReadData := ⟨attOpFindByTypeReq, attOpFindByTypeResp, data, endHandle, type, value,
      .onFindByType⟩
    have asks : ∀ (other : Att) start, other.connection = att.connection →
        other.doFindByType start endHandle type value =
          .ok [.write (sentPdu att.connection attOpFindByTypeReq endHandle (some type) value start)] := by
      intro other start same
      rw [Att.doFindByType, same]
      exact sent start
    have takes := @findByType_takes att.connection rd _ rfl asks 0 none
    exact discovery_restarts takes (sentPdu_startHandle attOpFindByTypeReq endHandle sendable)
      (received.imp fun _ _ receives => receives.handles) rfl
      (Att.request_accepted idle (sent startHandle))
  | readByGroupType first last type data =>
    cases ranged
    have sent := sends_writes attOpReadByGroupReq endHandle sendable
    let rd : ReadData := ⟨attOpReadByGroupReq, attOpReadByGroupResp, data, endHandle, type, none,
      .onReadByGroupType⟩
    have asks : ∀ (other : Att) start, other.connection = att.connection →
        other.doReadByGroupType start endHandle type =
          .ok [.write (sentPdu att.connection attOpReadByGroupReq endHandle (some type) none start)] := by
      intro other start same
      rw [Att.doReadByGroupType, same]
      exact sent start
    have takes := @readByGroupType_takes att.connection rd _ rfl asks .unspec
    exact discovery_restarts takes (sentPdu_startHandle attOpReadByGroupReq endHandle sendable)
      (received.imp fun _ _ receives => receives.groups) rfl
      (Att.request_accepted idle (sent startHandle))

theorem range_token (ranged : call.range = some (startHandle, endHandle)) :
    ∃ data, call.token = some data := by
  cases call with
  | readByType | readAttribute | writeCommand | writeRequest | listenForNotifications | onError =>
    cases ranged
  | findInformation | findByTypeValue | readByGroupType => exact ⟨_, rfl⟩

/-- A request whose PDU is empty has no start handle. -/
theorem restartsRise_sendable (idle : att.currentRequest = none)
    (ranged : call.range = some (startHandle, endHandle))
    (rise : RestartsRise att call startHandle endHandle pdus) : call.Sendable att.connection := by
  rcases range_token ranged with ⟨data, token⟩
  rcases rise with ⟨last, out, starts, ran, sent, _, _⟩
  rcases run_cons_ok ran with ⟨next, first, rest, stepped, _, rfl⟩
  rcases perform_idle token idle with ⟨rd, encoded, encodes, performed⟩
  have same : att.perform call = .ok (next, first) := stepped
  rw [performed] at same
  rcases bind_ok same with ⟨written, wrote, returned⟩
  rcases bind_ok wrote with ⟨⟨buffer, len⟩, ok, single⟩
  cases single
  cases returned
  rw [ok] at encodes
  apply sendable_of_encoded encodes
  intro empty
  subst empty
  have none_first : (none : Option UInt16) ∈ starts.map some := by
    rw [← sent, List.filterMap_append]
    exact List.mem_append_left _ (.head _)
  rcases List.mem_map.mp none_first with ⟨_, _, absurd_some⟩
  cases absurd_some

end Calls

/-- Against any server a discovery goes forward exactly if its request can be sent, its range is not
    reversed, and the responses that leave handles to ask for end at rising handles, the first not
    before the start handle: the restart handle is never compared with the one before. -/
theorem restarts_rise_iff {att : Att} (idle : att.currentRequest = none) {call : Call}
    {startHandle endHandle : UInt16} (ranged : call.range = some (startHandle, endHandle))
    {pages : List AttributeList} {pdus : List (List UInt8)}
    (received : List.Forall₂ call.Receives pages pdus) :
    RestartsRise att call startHandle endHandle pdus ↔
      call.Sendable att.connection ∧ startHandle ≤ endHandle ∧
        Rising UInt16.toNat startHandle.toNat (leftOff endHandle pages) := by
  constructor
  · intro rise
    have sendable := restartsRise_sendable idle ranged rise
    rcases call_restarts idle ranged sendable received with ⟨last, out, ran, sent⟩
    rcases rise with ⟨_, _, starts, again, asked, ascending, few⟩
    rw [ran] at again
    cases again
    have same : startHandle :: (leftOff endHandle pages).map (· + 1) = starts :=
      List.map_injective_iff.mpr (Option.some_injective _) (sent.symm.trans asked)
    subst same
    refine ⟨sendable, ?_, starts_ascending_iff.mp ascending⟩
    rw [List.length_cons] at few
    exact UInt16.le_iff_toNat_le.mpr (by omega)
  · intro condition
    rcases condition with ⟨sendable, ordered, rising⟩
    rcases call_restarts idle ranged sendable received with ⟨last, out, ran, sent⟩
    have ascending := starts_ascending_iff.mpr rising
    exact ⟨last, out, _, ran, sent, ascending, starts_length_le ordered ascending⟩

/-- A server that answers every request with the same service. -/
def sameService : AttributeList := .groups [⟨0x10, 0x1F, [0x0F, 0x18]⟩]

def sameServicePdu : List UInt8 := [attOpReadByGroupResp, 6, 0x10, 0x00, 0x1F, 0x00, 0x0F, 0x18]

def primaryServices : Call := .readByGroupType 1 0xFFFF (.uuid16 0x2800) 7

theorem sameService_received : primaryServices.Receives sameService sameServicePdu := by
  have uniform : ∀ group ∈ [(⟨0x10, 0x1F, [0x0F, 0x18]⟩ : GroupAttributeData)],
      group.data.length + 4 = (6 : UInt8).toNat := by
    intro group member
    rw [List.mem_singleton.mp member]
    rfl
  exact ⟨by decide, .readByGroupType (.uuid16 0x2800), rfl, .groups (.uuid16 0x2800) 6 _ uniform⟩

theorem sameService_repeats_request :
    List.Forall₂ primaryServices.Receives [sameService, sameService] [sameServicePdu, sameServicePdu] ∧
      ¬ RestartsRise (Att.new leConnection) primaryServices 1 0xFFFF
        [sameServicePdu, sameServicePdu] := by
  refine ⟨.cons sameService_received (.cons sameService_received .nil), ?_⟩
  intro rise
  rcases rise with ⟨last, out, starts, ran, sent, ascending, _⟩
  cases ran
  have asked : starts = [1, 0x11, 0x11] := List.map_injective_iff.mpr (Option.some_injective _) sent.symm
  rw [asked, Ascending] at ascending
  exact absurd ascending (by decide)

theorem sameService_once_rises :
    RestartsRise (Att.new leConnection) primaryServices 1 0xFFFF [sameServicePdu] := by
  apply (restarts_rise_iff rfl rfl (.cons sameService_received .nil)).mpr
  refine ⟨⟨by decide, ?_, ?_⟩, by decide, ?_⟩
  · intro type same
    cases same
    exact ⟨_, rfl, by decide⟩
  · intro bytes absent
    cases absent
  · refine ⟨List.pairwise_singleton _ _, ?_⟩
    intro item member
    cases member
    decide

end Btle.Client

import Btle.Client.Steps
import Btle.Client.Entries

namespace Btle.Client

open Machine

def Effect.length : Effect → Option Int
  | .readAttrCb _ _ _ len _ => some len
  | .notification _ _ _ len _ => some len
  | _ => none

/-- No read went wrong: at most an outgoing buffer was overrun, where that can happen, and no
    callback was given a negative length. -/
def Soundly (overruns : Prop) : Result → Prop
  | .error fault => fault = .bufferOverflow ∧ overruns
  | .ok (_, out) => ∀ effect ∈ out, ∀ len, effect.length = some len → 0 ≤ len

def ReadsSoundly (result : Result) : Prop := Soundly True result

def ReadsInBounds (att : Att) : Event → Prop
  | .received bytes => ReadsSoundly (step att (.received bytes))
  | _ => True

/-- A payload the pending request's parser finds whole, with at least one entry collected. -/
def Digests (att : Att) (payload : List UInt8) : ReadCallback → Prop
  | .onFindInfo =>
    match payload with
    | [] => False
    | format :: rest =>
      rest.length % infoStride format = 0 ∧ (rest ≠ [] ∨ att.attributeList.getD [] ≠ [])
  | .onFindByType =>
    payload.length % 4 = 0 ∧ (payload ≠ [] ∨ att.handlesInfoList.getD [] ≠ [])
  | .onReadByType =>
    match payload with
    | [] => False
    | length :: rest => rest = [] ∨ (2 ≤ length.toNat ∧ rest.length % length.toNat = 0)
  | .onReadByGroupType =>
    match payload with
    | [] => False
    | length :: rest =>
      (rest = [] ∨ (4 ≤ length.toNat ∧ rest.length % length.toNat = 0)) ∧
        (rest ≠ [] ∨ att.groupAttributeList.getD [] ≠ [])
  | .onReadAttribute => True

def SurvivesNull (att : Att) : ReadCallback → Prop
  | .onFindInfo => False
  | .onFindByType => att.handlesInfoList.getD [] ≠ []
  | .onReadByType => True
  | .onReadByGroupType => False
  | .onReadAttribute => True

def Digestible (att : Att) : Event → Prop
  | .received [] => False
  | .received (opcode :: payload) =>
    if opcode = attOpError then
      4 ≤ payload.length ∧ ∀ rd, att.currentRequest = some rd →
        payload[0]? = some rd.request → payload[3]? = some 0 → SurvivesNull att rd.callback
    else if opcode = attOpHandleNotify then 2 ≤ payload.length
    else ∀ rd, att.currentRequest = some rd → Digests att payload rd.callback
  | _ => True

/-- How a parser ends: with whole entries it adds at least one to the list unless there are no
    bytes for any, otherwise a read goes wrong. -/
structure Ends {α : Type} (result : Except Fault (List α)) (list : List α) (whole : Prop)
    (bytes : List UInt8) : Prop where
  added : whole → ∃ items, (items = [] ↔ bytes = []) ∧ result = .ok (list ++ items)
  stopped : ¬ whole → ∃ fault, result = .error fault ∧ fault ≠ .bufferOverflow

section Parsers

theorem parseEntries_ends {α : Type} {entry : Nat → Except Fault (α × Nat)} {n stride : Nat}
    (strided : Strided entry n stride) (positive : 0 < stride) {ptr : Nat} (list : List α)
    (rest : List UInt8) (inside : n = ptr + rest.length) :
    Ends (parseEntries entry n n ptr list) list (rest.length % stride = 0) rest := by
  have parsed := parseEntries_strided strided positive ptr list (by omega)
  have left : n - ptr = rest.length := by omega
  rw [left] at parsed
  constructor
  · intro whole
    rw [if_pos whole] at parsed
    rcases parsed with ⟨items, count, result⟩
    refine ⟨items, ?_, result⟩
    rw [← List.length_eq_zero_iff, ← List.length_eq_zero_iff, count]
    constructor
    · intro none
      have split := Nat.div_add_mod rest.length stride
      rw [none, whole] at split
      omega
    · intro none
      rw [none, Nat.zero_div]
  · intro cut
    rw [if_neg cut] at parsed
    exact ⟨_, parsed, by decide⟩

theorem parseAttributeList_ends (list : List AttributeInfo) (format : UInt8) (rest : List UInt8) :
    Ends (parseAttributeList list (some (format :: rest)) (format :: rest).length) list
      (rest.length % infoStride format = 0) rest := by
  have positive : 0 < infoStride format := by
    unfold infoStride
    split <;> decide
  exact parseEntries_ends (attributeInfoAt_strided (format :: rest) format) positive list rest
    (by rw [List.length_cons, Nat.add_comm])

theorem parseHandlesInformationList_ends (list : List HandlesInfo) (payload : List UInt8) :
    Ends (parseHandlesInformationList list (some payload) payload.length) list
      (payload.length % 4 = 0) payload :=
  parseEntries_ends (handlesInfoAt_strided payload) (by decide) list payload (Nat.zero_add _).symm

theorem parseSized_ends {α : Type} {fixed : Nat} (entry : UInt8 → Nat → Except Fault (α × Nat))
    (length : UInt8) (rest : List UInt8) (list : List α) (positive : 0 < fixed)
    (strided : fixed ≤ length.toNat →
      Strided (entry length) (length :: rest).length length.toNat)
    (short : length.toNat < fixed → ∀ ptr,
      ∃ fault, entry length ptr = .error fault ∧ fault ≠ .bufferOverflow) :
    Ends (parseEntries (entry length) (length :: rest).length (length :: rest).length 1 list) list
      (rest = [] ∨ (fixed ≤ length.toNat ∧ rest.length % length.toNat = 0)) rest := by
  rcases List.eq_nil_or_concat rest with empty | ⟨_, _, filled⟩
  · subst empty
    constructor
    · intro _
      exact ⟨[], by simp, by rw [parseEntries_finished _ _ _ (by simp), List.append_nil]⟩
    · intro nothing
      exact absurd (.inl rfl) nothing
  · have some_rest : rest ≠ [] := by simp [filled]
    have size : 0 < rest.length := List.length_pos_iff.mpr some_rest
    by_cases enough : fixed ≤ length.toNat
    · have ends := parseEntries_ends (strided enough) (by omega) list rest
        (by rw [List.length_cons, Nat.add_comm] : (length :: rest).length = 1 + rest.length)
      constructor
      · intro whole
        exact ends.added (whole.resolve_left some_rest).2
      · intro cut
        exact ends.stopped fun whole => cut (.inr ⟨enough, whole⟩)
    · rcases short (by omega) 1 with ⟨fault, first, reading⟩
      constructor
      · intro whole
        exact absurd (whole.resolve_left some_rest).1 enough
      · intro _
        exact ⟨fault, parseEntries_fault list (by rw [List.length_cons]; omega) first, reading⟩

theorem parseAttributeDataList_ends (length : UInt8) (rest : List UInt8) :
    Ends (parseAttributeDataList [] (some (length :: rest)) (length :: rest).length) []
      (rest = [] ∨ (2 ≤ length.toNat ∧ rest.length % length.toNat = 0)) rest :=
  parseSized_ends (attributeDataAt (some (length :: rest))) length rest [] (by decide)
    (attributeDataAt_strided (length :: rest)) (attributeDataAt_short (length :: rest))

theorem parseGroupAttributeDataList_ends (list : List GroupAttributeData) (length : UInt8)
    (rest : List UInt8) :
    Ends (parseGroupAttributeDataList list (some (length :: rest)) (length :: rest).length) list
      (rest = [] ∨ (4 ≤ length.toNat ∧ rest.length % length.toNat = 0)) rest :=
  parseSized_ends (groupAttributeDataAt (some (length :: rest))) length rest list
    (by decide) (groupAttributeDataAt_strided (length :: rest))
    (groupAttributeDataAt_short (length :: rest))

end Parsers

section Sending

theorem store_overflows {buffer data : List UInt8} {offset : Nat} {fault : Fault}
    (h : store buffer offset data = .error fault) : fault = .bufferOverflow := by
  unfold store at h
  split at h
  · cases h
  · split at h <;> cases h
    rfl

theorem bind_error {α β : Type} {first : Except Fault α} {next : α → Except Fault β}
    {fault : Fault} (h : (first >>= next) = .error fault) :
    first = .error fault ∨ ∃ value, first = .ok value ∧ next value = .error fault := by
  cases first with
  | error other =>
    cases h
    exact .inl rfl
  | ok value => exact .inr ⟨value, rfl, h⟩

theorem encodeValue_overflows {value : Option (List UInt8)} {buffer : List UInt8} {ret : Nat}
    {fault : Fault} (h : encodeRange.encodeValue value buffer ret = .error fault) :
    fault = .bufferOverflow := by
  cases value with
  | none => cases h
  | some value =>
    rcases bind_error h with stored | ⟨_, _, returned⟩
    · exact store_overflows stored
    · cases returned

theorem encodeRange_overflows {opcode : UInt8} {startHandle endHandle : UInt16}
    {uuid : Option BtUuid} {buffer : List UInt8} {value : Option (List UInt8)} {fault : Fault}
    (h : encodeRange opcode startHandle endHandle uuid buffer value = .error fault) :
    fault = .bufferOverflow := by
  unfold encodeRange at h
  dsimp only at h
  split at h
  · cases h
  · rcases bind_error h with stored | ⟨_, _, h⟩
    · exact store_overflows stored
    rcases bind_error h with stored | ⟨_, _, h⟩
    · exact store_overflows stored
    rcases bind_error h with stored | ⟨_, _, h⟩
    · exact store_overflows stored
    split at h
    · cases h
    · rcases bind_error h with stored | ⟨_, _, h⟩
      · exact store_overflows stored
      · exact encodeValue_overflows h
    · exact encodeValue_overflows h

def Asks (overruns : Prop) (connection : Connection) (rd : ReadData) : Prop :=
  ∀ opcode startHandle uuid value, (uuid = none ∨ uuid = some rd.type) →
    (value = none ∨ value = rd.value) → ∀ fault,
      encodeRange opcode startHandle rd.handle uuid connection.getBuffer value = .error fault →
        overruns

theorem write_cases {opcode : UInt8} {startHandle endHandle : UInt16} {uuid : Option BtUuid}
    {buffer : List UInt8} {value : Option (List UInt8)} {overruns : Prop}
    (only : ∀ fault, encodeRange opcode startHandle endHandle uuid buffer value = .error fault →
      overruns) :
    (Att.write (encodeRange opcode startHandle endHandle uuid buffer value) =
        .error .bufferOverflow ∧ overruns) ∨
      ∃ pdu, Att.write (encodeRange opcode startHandle endHandle uuid buffer value) =
        .ok [.write pdu] := by
  cases encoded : encodeRange opcode startHandle endHandle uuid buffer value with
  | error fault =>
    have overflow := encodeRange_overflows encoded
    subst overflow
    exact .inl ⟨rfl, only _ encoded⟩
  | ok result => exact .inr ⟨_, rfl⟩

end Sending

namespace Att

section Handlers

variable {overruns : Prop} {att : Att} {rd : ReadData} {error : Option String}

theorem finish_sound {α : Type} (accumulator : Accumulator α) (status : UInt8) :
    Soundly overruns (finish accumulator att rd status error) := by
  simp [Soundly, finish, Effect.length]

theorem collectPage_sound_iff {α : Type} {accumulator : Accumulator α}
    {parse : List α → Except Fault (List α)} {handle : α → UInt16}
    {again : Att → UInt16 → Except Fault (List Effect)} {whole : Prop} {bytes : List UInt8}
    (ends : Ends (parse ((accumulator.get att).getD [])) ((accumulator.get att).getD []) whole bytes)
    (asks : ∀ next start, next.connection = att.connection →
      (again next start = .error .bufferOverflow ∧ overruns) ∨
        ∃ pdu, again next start = .ok [.write pdu]) :
    Soundly overruns (collectPage accumulator att rd parse handle again error) ↔
      whole ∧ (bytes ≠ [] ∨ (accumulator.get att).getD [] ≠ []) := by
  by_cases all : whole
  · rcases ends.added all with ⟨items, some_items, parsed⟩
    unfold collectPage
    simp only [parsed, bind, Except.bind]
    cases last : ((accumulator.get att).getD [] ++ items).getLast? with
    | none =>
      rw [List.getLast?_eq_none_iff, List.append_eq_nil_iff, some_items] at last
      simp [Soundly, last]
    | some back =>
      have filled : (accumulator.get att).getD [] ++ items ≠ [] := by
        intro empty
        simp [empty] at last
      have any : bytes ≠ [] ∨ (accumulator.get att).getD [] ≠ [] := by
        rw [Ne, List.append_eq_nil_iff, some_items] at filled
        tauto
      have holds : whole ∧ (bytes ≠ [] ∨ (accumulator.get att).getD [] ≠ []) := ⟨all, any⟩
      refine iff_of_true ?_ holds
      dsimp only
      split
      · rcases asks (accumulator.set att (some ((accumulator.get att).getD [] ++ items)))
          (handle back + 1) (accumulator.connection_set _ _) with ⟨sent, able⟩ | ⟨pdu, sent⟩
        · simp [sent, Soundly, able]
        · simp [sent, Soundly, pure, Except.pure, Effect.length]
      · exact finish_sound _ _
  · rcases ends.stopped all with ⟨fault, parsed, reading⟩
    unfold collectPage
    simp only [parsed, bind, Except.bind]
    exact iff_of_false (fun h => reading h.1) fun h => all h.1

theorem collectPage_unsound {α : Type} {accumulator : Accumulator α}
    {parse : List α → Except Fault (List α)} {handle : α → UInt16}
    {again : Att → UInt16 → Except Fault (List Effect)} {fault : Fault}
    (stopped : parse ((accumulator.get att).getD []) = .error fault)
    (reading : fault ≠ .bufferOverflow) :
    ¬ Soundly overruns (collectPage accumulator att rd parse handle again error) := by
  unfold collectPage
  simp only [stopped, bind, Except.bind]
  exact fun h => reading h.1

theorem asks_again (asks : Asks overruns att.connection rd) {opcode : UInt8} {start : UInt16}
    {uuid : Option BtUuid} {value : Option (List UInt8)} (type : uuid = none ∨ uuid = some rd.type)
    (own : value = none ∨ value = rd.value) {next : Att} (linked : next.connection = att.connection) :
    (write (encodeRange opcode start rd.handle uuid next.connection.getBuffer value) =
        .error .bufferOverflow ∧ overruns) ∨
      ∃ pdu, write (encodeRange opcode start rd.handle uuid next.connection.getBuffer value) =
        .ok [.write pdu] :=
  write_cases fun fault failed => asks opcode start uuid value type own fault (linked ▸ failed)

theorem handleFindInfo_sound_iff (asks : Asks overruns att.connection rd) (payload : List UInt8) :
    Soundly overruns (att.handleFindInfo 0 rd (some payload) payload.length error) ↔
      Digests att payload .onFindInfo := by
  rw [handleFindInfo, if_pos rfl]
  cases payload with
  | nil => exact iff_of_false (collectPage_unsound rfl (by decide)) not_false
  | cons format rest =>
    exact collectPage_sound_iff (parseAttributeList_ends _ format rest)
      fun _ _ linked => asks_again asks (.inl rfl) (.inl rfl) linked

theorem handleFindByType_sound_iff (asks : Asks overruns att.connection rd) (payload : List UInt8) :
    Soundly overruns (att.handleFindByType 0 rd (some payload) payload.length error) ↔
      Digests att payload .onFindByType := by
  rw [handleFindByType, if_pos rfl]
  exact collectPage_sound_iff (parseHandlesInformationList_ends _ payload)
    fun _ _ linked => asks_again asks (.inr rfl) (.inr rfl) linked

theorem handleReadByType_sound_iff (payload : List UInt8) :
    Soundly overruns (att.handleReadByType 0 rd (some payload) payload.length none) ↔
      Digests att payload .onReadByType := by
  rw [handleReadByType]
  cases payload with
  | nil => exact iff_of_false (fun h => by cases h.1) not_false
  | cons length rest =>
    have ends := parseAttributeDataList_ends length rest
    by_cases whole : rest = [] ∨ (2 ≤ length.toNat ∧ rest.length % length.toNat = 0)
    · rcases ends.added whole with ⟨items, _, parsed⟩
      refine iff_of_true ?_ whole
      simp only [parsed, bind, Except.bind]
      simp [Soundly, pure, Except.pure, Effect.length]
    · rcases ends.stopped whole with ⟨fault, parsed, reading⟩
      refine iff_of_false ?_ whole
      simp only [parsed, bind, Except.bind]
      exact fun h => reading h.1

theorem handleReadByGroupType_sound_iff (asks : Asks overruns att.connection rd)
    (payload : List UInt8) :
    Soundly overruns (att.handleReadByGroupType 0 rd (some payload) payload.length error) ↔
      Digests att payload .onReadByGroupType := by
  rw [handleReadByGroupType, if_pos rfl]
  cases payload with
  | nil => exact iff_of_false (collectPage_unsound rfl (by decide)) not_false
  | cons length rest =>
    exact collectPage_sound_iff (parseGroupAttributeDataList_ends _ length rest)
      fun _ _ linked => asks_again asks (.inr rfl) (.inl rfl) linked

end Handlers

section Delivery

variable {overruns : Prop} {att : Att} {rd : ReadData}

theorem respond_sound_iff (asks : Asks overruns att.connection rd) (payload : List UInt8)
    (pending : att.currentRequest = some rd) :
    Soundly overruns (att.callbackCurrentRequest 0 (some payload) payload.length none) ↔
      Digests att payload rd.callback := by
  unfold callbackCurrentRequest
  simp only [pending]
  cases kind : rd.callback with
  | onFindInfo => exact handleFindInfo_sound_iff asks payload
  | onFindByType => exact handleFindByType_sound_iff asks payload
  | onReadByType => exact handleReadByType_sound_iff payload
  | onReadByGroupType => exact handleReadByGroupType_sound_iff asks payload
  | onReadAttribute => simp [Soundly, onReadAttribute, Effect.length, Digests]

/-- An error is handed on with a null buffer, which only a status of 0 has parsed. -/
theorem fail_sound_iff (asks : Asks overruns att.connection rd) (status : UInt8) (message : String)
    (pending : att.currentRequest = some rd) :
    Soundly overruns (att.callbackCurrentRequest status none 0 (some message)) ↔
      (status = 0 → SurvivesNull att rd.callback) := by
  unfold callbackCurrentRequest
  simp only [pending]
  by_cases ok : status = 0
  · subst ok
    have asked (safe : Prop) : ((0 : UInt8) = 0 → safe) ↔ safe := by simp
    rw [asked]
    cases kind : rd.callback with
    | onFindInfo =>
      simp only [handleFindInfo, if_pos]
      exact iff_of_false (collectPage_unsound rfl (by decide)) not_false
    | onFindByType =>
      simp only [handleFindByType, if_pos]
      have ends : Ends (parseHandlesInformationList (att.handlesInfoList.getD []) none 0)
          (att.handlesInfoList.getD []) True [] :=
        ⟨fun _ => ⟨[], by simp, by rw [List.append_nil]; rfl⟩, fun h => absurd trivial h⟩
      refine (collectPage_sound_iff ends
        fun _ _ linked => asks_again asks (.inr rfl) (.inr rfl) linked).trans ?_
      simp [SurvivesNull, Accumulator.handlesInfoList]
    | onReadByType => simp [Soundly, handleReadByType, Effect.length, SurvivesNull]
    | onReadByGroupType =>
      simp only [handleReadByGroupType, if_pos]
      exact iff_of_false (collectPage_unsound rfl (by decide)) not_false
    | onReadAttribute => simp [Soundly, onReadAttribute, Effect.length, SurvivesNull]
  · refine iff_of_true ?_ fun zero => absurd zero ok
    cases rd.callback with
    | onFindInfo =>
      simp only [handleFindInfo, if_neg ok]
      split <;> exact finish_sound _ _
    | onFindByType =>
      simp only [handleFindByType, if_neg ok]
      split
      · split
        · simp [Soundly, Effect.length]
        · exact finish_sound _ _
      · exact finish_sound _ _
    | onReadByType => simp [Soundly, handleReadByType, Effect.length]
    | onReadByGroupType =>
      simp only [handleReadByGroupType, if_neg ok]
      split <;> exact finish_sound _ _
    | onReadAttribute => simp [Soundly, onReadAttribute, Effect.length]

theorem reportError_sound (message : String) : Soundly overruns (att.reportError message) := by
  unfold reportError
  split <;> simp [Soundly, Effect.length]

end Delivery

end Att

section Received

variable {overruns : Prop} {att : Att} (payload : List UInt8)

theorem error_sound_iff
    (asks : ∀ rd, att.currentRequest = some rd → Asks overruns att.connection rd) :
    Soundly overruns (step att (.received (attOpError :: payload))) ↔
      4 ≤ payload.length ∧ ∀ rd, att.currentRequest = some rd →
        payload[0]? = some rd.request → payload[3]? = some 0 → SurvivesNull att rd.callback := by
  by_cases complete : 4 ≤ payload.length
  · obtain ⟨request, low, high, errorCode, rest, rfl⟩ :
        ∃ request low high errorCode rest, payload = request :: low :: high :: errorCode :: rest := by
      match payload, complete with
      | request :: low :: high :: errorCode :: rest, _ => exact ⟨_, _, _, _, _, rfl⟩
    rw [step_received_error]
    dsimp only
    split
    · rename_i named
      rcases Option.map_eq_some_iff.mp named with ⟨rd, pending, same⟩
      rw [Att.fail_sound_iff (asks rd pending) _ _ pending]
      simp [pending, same]
    · rename_i foreign
      refine iff_of_true (Att.reportError_sound _) ⟨complete, fun rd pending named => ?_⟩
      rw [pending] at foreign
      exact absurd named.symm foreign
  · have stopped : step att (.received (attOpError :: payload)) = .error .outOfBounds :=
      step_received_short_error att rfl (by rw [List.length_cons]; omega)
    rw [stopped]
    exact iff_of_false (fun h => by cases h.1) fun h => complete h.1

theorem notification_sound_iff :
    Soundly overruns (step att (.received (attOpHandleNotify :: payload))) ↔ 2 ≤ payload.length := by
  by_cases complete : 2 ≤ payload.length
  · obtain ⟨low, high, rest, rfl⟩ : ∃ low high rest, payload = low :: high :: rest := by
      match payload, complete with
      | low :: high :: rest, _ => exact ⟨_, _, _, rfl⟩
    refine iff_of_true ?_ complete
    rw [step_received_notify]
    dsimp only
    split
    · simp [Soundly, Effect.length]
    · exact Att.reportError_sound _
  · have stopped : step att (.received (attOpHandleNotify :: payload)) = .error .outOfBounds :=
      step_received_short_notify att rfl (by rw [List.length_cons]; omega)
    rw [stopped]
    exact iff_of_false (fun h => by cases h.1) complete

theorem response_sound_iff
    (asks : ∀ rd, att.currentRequest = some rd → Asks overruns att.connection rd)
    {opcode : UInt8} (notError : opcode ≠ attOpError)
    (notNotify : opcode ≠ attOpHandleNotify) :
    Soundly overruns (step att (.received (opcode :: payload))) ↔
      ∀ rd, att.currentRequest = some rd → Digests att payload rd.callback := by
  rw [step_received_response att payload notError notNotify]
  cases pending : att.currentRequest with
  | none => exact iff_of_true (Att.reportError_sound _) (by simp)
  | some rd => simpa using Att.respond_sound_iff (asks rd pending) payload pending

end Received

theorem received_sound_iff {overruns : Prop} {att : Att}
    (asks : ∀ rd, att.currentRequest = some rd → Asks overruns att.connection rd)
    (bytes : List UInt8) :
    Soundly overruns (step att (.received bytes)) ↔ Digestible att (.received bytes) := by
  cases bytes with
  | nil => exact iff_of_false (fun h => by cases h.1) not_false
  | cons opcode payload =>
    dsimp only [Digestible]
    by_cases error : opcode = attOpError
    · subst error
      rw [if_pos rfl]
      exact error_sound_iff payload asks
    · by_cases notify : opcode = attOpHandleNotify
      · subst notify
        rw [if_neg error, if_pos rfl]
        exact notification_sound_iff payload
      · rw [if_neg error, if_neg notify]
        exact response_sound_iff payload asks error notify

theorem readsInBounds_iff (att : Att) (event : Event) :
    ReadsInBounds att event ↔ Digestible att event := by
  cases event with
  | call | readError => exact Iff.rfl
  | received bytes => exact received_sound_iff (fun _ _ _ _ _ _ _ _ _ _ => trivial) bytes

/-- In a run of `Att` nothing is read outside of what was received as long as, and only as long
    as, what arrives is digestible: neither lengths nor counts are checked. -/
theorem reads_in_bounds_iff (connection : Connection) (events : List Event) :
    (∀ taken ∈ visited step (Att.new connection) events, ReadsInBounds taken.1 taken.2) ↔
      ∀ taken ∈ visited step (Att.new connection) events, Digestible taken.1 taken.2 := by
  constructor
  · intro h taken member
    exact (readsInBounds_iff _ _).mp (h taken member)
  · intro h taken member
    exact (readsInBounds_iff _ _).mpr (h taken member)

theorem empty_response_read_outside :
    ¬ ∀ taken ∈ visited step (Att.new leConnection)
        [.call (.findInformation 1 0xFFFF 7), .received [attOpFindInfoResp]],
      ReadsInBounds taken.1 taken.2 := by
  intro sound
  have fault := sound _ (.tail _ (.head _))
  exact absurd fault.1 (by decide)

end Btle.Client

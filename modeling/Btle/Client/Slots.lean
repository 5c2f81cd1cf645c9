import Btle.Client.Progress
import Btle.Client.ReadErrors

namespace Btle.Client

/-- What `Att::encode` needs to return more than 0 for a handle range, and to keep to the buffer. -/
structure Connection.Sends (connection : Connection) (uuid : Option BtUuid)
    (value : Option (List UInt8)) : Prop where
  header : 5 ≤ connection.getBuffer.length
  type : ∀ type, uuid = some type →
    ∃ written, uuidBytes type = some written ∧ 5 + written.length ≤ connection.getBuffer.length
  value : ∀ bytes, value = some bytes → 7 + bytes.length ≤ connection.getBuffer.length

section Encoding

theorem store_after {header fresh data : List UInt8} {offset : Nat}
    (after : header.length ≤ offset) (fits : offset + data.length ≤ (header ++ fresh).length) :
    ∃ rest, store (header ++ fresh) offset data = .ok (header ++ rest) ∧
      (header ++ rest).length = (header ++ fresh).length := by
  rcases store_fits fits with ⟨stored, kept, size⟩
  have front : stored.take header.length = header := by
    unfold store at kept
    split at kept
    · cases kept
      exact List.take_left
    · cases kept
      rw [List.append_assoc, List.take_append_of_le_length]
      · rw [List.take_take, Nat.min_eq_left after, List.take_left]
      · rw [List.length_take]
        omega
  have split : stored = header ++ stored.drop header.length := by
    conv_lhs => rw [← List.take_append_drop header.length stored, front]
  exact ⟨stored.drop header.length, by rw [← split, kept], by rw [← split, size]⟩

theorem store_inside {buffer data stored : List UInt8} {offset : Nat}
    (kept : store buffer offset data = .ok stored) :
    data = [] ∨ offset + data.length ≤ buffer.length := by
  unfold store at kept
  split at kept
  · rename_i empty
    exact .inl empty
  · split at kept
    · rename_i fits
      exact .inr fits
    · cases kept

variable {connection : Connection} (opcode : UInt8) (startHandle endHandle : UInt16)
  {uuid : Option BtUuid} {value : Option (List UInt8)}

theorem encodeValue_sends {header fresh : List UInt8} {ret : Nat} (size : header.length = 5)
    (long : 5 ≤ ret)
    (fits : ∀ bytes, value = some bytes → 7 + bytes.length ≤ (header ++ fresh).length) :
    ∃ rest len, encodeRange.encodeValue value (header ++ fresh) ret = .ok (header ++ rest, len) ∧
      5 ≤ len := by
  cases value with
  | none => exact ⟨fresh, ret, rfl, long⟩
  | some bytes =>
    have past : header.length ≤ 7 := by omega
    rcases store_after past (fits bytes rfl) with ⟨rest, stored, _⟩
    refine ⟨rest, ret + bytes.length, ?_, by omega⟩
    simp only [encodeRange.encodeValue, stored]
    rfl

/-- A request that can be sent starts with its opcode and its two handles, wherever the UUID and
    the value go. -/
theorem encodeRange_sends (sends : connection.Sends uuid value) :
    ∃ rest len, encodeRange opcode startHandle endHandle uuid connection.getBuffer value =
      .ok (rangeHeader opcode startHandle endHandle ++ rest, len) ∧ 5 ≤ len := by
  have header : (rangeHeader opcode startHandle endHandle).length = 5 := rangeHeader_length _ _ _
  have size : (rangeHeader opcode startHandle endHandle ++ connection.getBuffer.drop 5).length =
      connection.getBuffer.length := by
    have long := sends.header
    rw [List.length_append, header, List.length_drop]
    omega
  rw [encodeRange_header _ _ _ _ _ _ sends.header]
  cases uuid with
  | none =>
    apply encodeValue_sends header (Nat.le_refl 5)
    rw [size]
    exact sends.value
  | some type =>
    rcases sends.type type rfl with ⟨written, known, fits⟩
    rw [← size] at fits
    rcases store_after (Nat.le_of_eq header) fits with ⟨rest, stored, same⟩
    simp only [Option.map_some, known, stored, Except.bind]
    apply encodeValue_sends header (by omega)
    rw [same, size]
    exact sends.value

theorem uuidBytes_length_ge {type : BtUuid} {bytes : List UInt8} (known : uuidBytes type = some bytes) :
    2 ≤ bytes.length := by
  cases type with
  | unspec => cases known
  | uuid16 =>
    cases known
    rw [attPutU16_length]
  | uuid32 =>
    cases known
    rw [attPutU32_length]
    omega
  | uuid128 =>
    cases known
    rw [attPutU128_length]
    omega

theorem sends_of_encodeRange {buffer : List UInt8} {len : Nat} (typed : uuid = none → value = none)
    (encoded : encodeRange opcode startHandle endHandle uuid connection.getBuffer value =
      .ok (buffer, len)) (written : len ≠ 0) : connection.Sends uuid value := by
  have header : 5 ≤ connection.getBuffer.length := by
    by_contra small
    have short : connection.getBuffer.length < 5 := by omega
    rw [encodeRange, if_pos short] at encoded
    cases encoded
    exact written rfl
  have size : (rangeHeader opcode startHandle endHandle ++ connection.getBuffer.drop 5).length =
      connection.getBuffer.length := by
    rw [List.length_append, rangeHeader_length, List.length_drop]
    omega
  rw [encodeRange_header _ _ _ _ _ _ header] at encoded
  cases uuid with
  | none =>
    refine ⟨header, ?_, ?_⟩
    · intro type absent
      cases absent
    · intro bytes absent
      rw [typed rfl] at absent
      cases absent
  | some type =>
    cases known : uuidBytes type with
    | none =>
      simp only [Option.map_some, known] at encoded
      cases encoded
      exact absurd rfl written
    | some bytes =>
      simp only [Option.map_some, known] at encoded
      rcases bind_ok encoded with ⟨stored, kept, rest⟩
      have some_bytes : 2 ≤ bytes.length := uuidBytes_length_ge known
      have fits : 5 + bytes.length ≤ connection.getBuffer.length := by
        rcases store_inside kept with empty | inside
        · rw [empty, List.length_nil] at some_bytes
          omega
        · rwa [size] at inside
      have same : stored.length = connection.getBuffer.length := by
        rcases store_fits (size.symm ▸ fits) with ⟨other, again, length⟩
        rw [kept] at again
        cases again
        rw [length, size]
      refine ⟨header, ?_, ?_⟩
      · intro other present
        cases present
        exact ⟨bytes, known, fits⟩
      · intro data present
        subst present
        rcases bind_ok rest with ⟨whole, held, _⟩
        rcases store_inside held with empty | inside
        · rw [empty, List.length_nil]
          omega
        · rwa [same] at inside

theorem encodeHandle_sends (handle : UInt16) {buffer : List UInt8} (room : 3 ≤ buffer.length) :
    ∃ rest, encodeHandle opcode handle buffer [] = .ok (opcode :: rest, 3) := by
  have first := store_first buffer [opcode] (by simp only [List.length_singleton]; omega)
  have second := store_next [opcode] (buffer.drop 1) (attPutU16 handle)
    (by rw [attPutU16_length, List.length_drop]; omega)
  have big : ¬ buffer.length < 3 := by omega
  unfold encodeHandle
  rw [if_neg big]
  simp only [List.length_singleton] at first second
  refine ⟨attPutU16 handle ++ (buffer.drop 1).drop (attPutU16 handle).length, ?_⟩
  have empty (whole : List UInt8) : store whole 3 [] = .ok whole := rfl
  simp only [List.take_nil, first, second, empty, bind, Except.bind, pure, Except.pure]
  rfl

end Encoding

def Call.opcode : Call → Option UInt8
  | .findInformation .. => some attOpFindInfoReq
  | .findByTypeValue .. => some attOpFindByTypeReq
  | .readByType .. => some attOpReadByTypeReq
  | .readByGroupType .. => some attOpReadByGroupReq
  | .readAttribute .. => some attOpReadReq
  | .writeCommand .. | .writeRequest .. | .listenForNotifications .. | .onError .. => none

/-- What `encode` returns for the PDU of a request: the buffer and the length of the PDU in it. -/
def Call.encoded (connection : Connection) : Call → Option (Except Fault (List UInt8 × Nat))
  | .findInformation startHandle endHandle _ =>
    some (encodeRange attOpFindInfoReq startHandle endHandle none connection.getBuffer none)
  | .findByTypeValue startHandle endHandle type value _ =>
    some (encodeRange attOpFindByTypeReq startHandle endHandle (some type) connection.getBuffer value)
  | .readByType startHandle endHandle type _ =>
    some (encodeRange attOpReadByTypeReq startHandle endHandle (some type) connection.getBuffer none)
  | .readByGroupType startHandle endHandle type _ =>
    some (encodeRange attOpReadByGroupReq startHandle endHandle (some type) connection.getBuffer none)
  | .readAttribute handle _ => some (encodeHandle attOpReadReq handle connection.getBuffer [])
  | .writeCommand .. | .writeRequest .. | .listenForNotifications .. | .onError .. => none

/-- The requests that fit the connection's buffers and whose UUID has a type. -/
def Call.Sendable (connection : Connection) : Call → Prop
  | .findInformation .. => connection.Sends none none
  | .findByTypeValue _ _ type value _ => connection.Sends (some type) value
  | .readByType _ _ type _ | .readByGroupType _ _ type _ => connection.Sends (some type) none
  | .readAttribute .. => 3 ≤ connection.getBuffer.length
  | .writeCommand .. | .writeRequest .. | .listenForNotifications .. | .onError .. => True

/-- A call that leaves the slot taken has handed a PDU of its request to the connection, and one
    whose PDU cannot be encoded leaves the slot free and has called back with an error. -/
def SlotMatchesWire (att : Att) (call : Call) : Prop :=
  ∀ data, call.token = some data → att.currentRequest = none →
    ∃ next out, step att (.call call) = .ok (next, out) ∧
      (next.currentRequest ≠ none → ∃ pdu, .write pdu ∈ out ∧ pdu ≠ [] ∧ pdu.head? = call.opcode) ∧
      ∀ buffer, call.encoded att.connection = some (.ok (buffer, 0)) →
        next.currentRequest = none ∧
          ∃ message, out.filterMap Effect.outcome = [(data, some message)]

section Calls

variable {att : Att} {call : Call} {data : Nat}

theorem perform_idle (token : call.token = some data) (idle : att.currentRequest = none) :
    ∃ rd encoded, call.encoded att.connection = some encoded ∧ att.perform call = do
      let out ← Att.write encoded
      return ({ att with currentRequest := some rd }, out) := by
  cases call with
  | writeCommand | writeRequest | listenForNotifications | onError => cases token
  | findInformation | findByTypeValue | readByType | readByGroupType | readAttribute =>
    simp only [Att.perform, Att.findInformation, Att.findByTypeValue, Att.readByType,
      Att.readByGroupType, Att.readAttribute, Att.request, Att.setCurrentRequest, idle]
    exact ⟨_, _, rfl, rfl⟩

theorem encoded_sends {connection : Connection} (token : call.token = some data)
    (sendable : call.Sendable connection) :
    ∃ buffer len, call.encoded connection = some (.ok (buffer, len)) ∧ len ≠ 0 ∧
      (buffer.take len).head? = call.opcode := by
  have ranged : ∀ {opcode : UInt8} {startHandle endHandle : UInt16} {uuid : Option BtUuid}
      {value : Option (List UInt8)}, connection.Sends uuid value →
      ∃ buffer len, encodeRange opcode startHandle endHandle uuid connection.getBuffer value =
        .ok (buffer, len) ∧ len ≠ 0 ∧ (buffer.take len).head? = some opcode := by
    intro opcode startHandle endHandle uuid value sends
    rcases encodeRange_sends opcode startHandle endHandle sends with ⟨rest, len, encoded, long⟩
    obtain ⟨fewer, rfl⟩ : ∃ fewer, len = fewer + 1 := ⟨len - 1, by omega⟩
    exact ⟨_, _, encoded, by omega, rfl⟩
  cases call with
  | writeCommand | writeRequest | listenForNotifications | onError => cases token
  | findInformation | findByTypeValue | readByType | readByGroupType =>
    rcases ranged sendable with ⟨buffer, len, encoded, long, kind⟩
    exact ⟨buffer, len, congrArg some encoded, long, kind⟩
  | readAttribute handle =>
    have encoded := encodeHandle_sends attOpReadReq handle sendable
    rcases encoded with ⟨rest, encoded⟩
    exact ⟨_, 3, congrArg some encoded, by decide, rfl⟩

theorem sendable_of_encoded {connection : Connection} {buffer : List UInt8} {len : Nat}
    (encoded : call.encoded connection = some (.ok (buffer, len))) (written : len ≠ 0) :
    call.Sendable connection := by
  cases call with
  | writeCommand | writeRequest | listenForNotifications | onError => exact trivial
  | findInformation =>
    exact sends_of_encodeRange _ _ _ (fun _ => rfl) (Option.some.inj encoded) written
  | findByTypeValue | readByType | readByGroupType =>
    exact sends_of_encodeRange _ _ _ (by intro absent; cases absent) (Option.some.inj encoded) written
  | readAttribute handle =>
    show 3 ≤ connection.getBuffer.length
    by_contra small
    have short : connection.getBuffer.length < 3 := by omega
    simp only [Call.encoded, encodeHandle, if_pos short] at encoded
    cases encoded
    exact written rfl

end Calls

/-- Slot and wire agree exactly for the calls that find the slot taken and those whose PDU can be
    encoded: the slot is taken before the PDU is, and nobody looks at its length. -/
theorem slot_matches_wire_iff (att : Att) (call : Call) :
    SlotMatchesWire att call ↔ att.currentRequest ≠ none ∨ call.Sendable att.connection := by
  constructor
  · intro agrees
    by_cases idle : att.currentRequest = none
    · right
      cases token : call.token with
      | none =>
        cases call with
        | writeCommand | writeRequest | listenForNotifications | onError => exact trivial
        | findInformation | findByTypeValue | readByType | readByGroupType | readAttribute =>
          cases token
      | some data =>
        rcases perform_idle token idle with ⟨rd, encoded, encodes, performed⟩
        rcases agrees data token idle with ⟨next, out, stepped, _, failed⟩
        have same : att.perform call = .ok (next, out) := stepped
        rw [performed] at same
        rcases bind_ok same with ⟨written, sent, returned⟩
        rcases bind_ok sent with ⟨⟨buffer, len⟩, ok, _⟩
        rw [ok] at encodes
        apply sendable_of_encoded encodes
        intro empty
        subst empty
        have freed := (failed buffer encodes).1
        cases returned
        cases freed
    · exact .inl idle
  · intro condition data token idle
    have sendable := condition.resolve_left (fun taken => taken idle)
    rcases perform_idle token idle with ⟨rd, encoded, encodes, performed⟩
    rcases encoded_sends token sendable with ⟨buffer, len, sent, long, kind⟩
    have same : encoded = .ok (buffer, len) := Option.some.inj (encodes.symm.trans sent)
    rw [same] at performed
    refine ⟨_, _, performed, ?_, ?_⟩
    · intro _
      refine ⟨buffer.take len, List.mem_singleton_self _, ?_, kind⟩
      intro empty
      rw [empty] at kind
      cases call <;> cases kind <;> cases token
    · intro other again
      rw [sent] at again
      cases again
      exact absurd rfl long

/-- A UUID string that `bt_string_to_uuid` rejects: the PDU is empty and the slot stays taken. -/
theorem unspecified_type_holds_slot :
    ¬ SlotMatchesWire (Att.new leConnection) (.readByType 1 0xFFFF .unspec 7) := by
  intro agrees
  rcases agrees 7 rfl rfl with ⟨next, out, stepped, written, _⟩
  cases stepped
  rcases written (by decide) with ⟨pdu, member, some_bytes, _⟩
  cases member with
  | head => exact some_bytes rfl
  | tail _ inside => cases inside

end Btle.Client

import Btle.Client.Att

namespace Btle.Client

open LittleEndian

/-- The bytes that a range request has of its UUID; an unspecified one gives up the request. -/
def rangeUuid : Option BtUuid → Option (List UInt8)
  | none => some []
  | some uuid => uuidBytes uuid

def uuidWidth (uuid : Option BtUuid) : Nat := ((rangeUuid uuid).getD []).length

def valueLength (value : Option (List UInt8)) : Nat := (value.getD []).length

/-- Nothing is stored behind the end of the buffer, and no more than it holds is handed on. -/
def StaysInside (buffer : List UInt8) (encoded : Except Fault (List UInt8 × Nat)) : Prop :=
  ∃ written len, encoded = .ok (written, len) ∧ written.length = buffer.length ∧ len ≤ buffer.length

/-- A request that does not get to its header needs no room; the value is put behind a 16-bit UUID,
    also where there is none. -/
def RangeFits (uuid : Option BtUuid) (value : Option (List UInt8)) (room : Nat) : Prop :=
  5 ≤ room → uuid ≠ some .unspec →
    5 + uuidWidth uuid + valueLength value ≤ room ∧
      (0 < valueLength value → 7 + valueLength value ≤ room)

section Storing

variable {buffer data stored : List UInt8} {offset : Nat}

theorem store_ok_iff :
    (∃ stored, store buffer offset data = .ok stored) ↔
      data = [] ∨ offset + data.length ≤ buffer.length := by
  unfold store
  split
  · rename_i empty
    exact iff_of_true ⟨_, rfl⟩ (.inl empty)
  · rename_i nonempty
    split
    · rename_i fits
      exact iff_of_true ⟨_, rfl⟩ (.inr fits)
    · rename_i beyond
      exact iff_of_false (by simp) (not_or.mpr ⟨nonempty, beyond⟩)

/-- A store of no bytes leaves the buffer, another puts its bytes between what stays. -/
theorem store_cases (kept : store buffer offset data = .ok stored) :
    data = [] ∧ stored = buffer ∨ offset + data.length ≤ buffer.length ∧
      stored = buffer.take offset ++ data ++ buffer.drop (offset + data.length) := by
  unfold store at kept
  split at kept
  · rename_i empty
    cases kept
    exact .inl ⟨empty, rfl⟩
  · split at kept
    · rename_i fits
      cases kept
      exact .inr ⟨fits, rfl⟩
    · cases kept

theorem store_length (kept : store buffer offset data = .ok stored) :
    stored.length = buffer.length := by
  rcases store_cases kept with ⟨_, rfl⟩ | ⟨fits, rfl⟩
  · rfl
  · simp only [List.length_append, List.length_take, List.length_drop]
    omega

theorem store_untouched (kept : store buffer offset data = .ok stored) {i : Nat}
    (outside : i < offset ∨ offset + data.length ≤ i) : stored[i]? = buffer[i]? := by
  rcases store_cases kept with ⟨_, rfl⟩ | ⟨fits, rfl⟩
  · rfl
  · rcases outside with before | behind
    · rw [List.append_assoc, List.getElem?_append_left (by simp; omega),
        List.getElem?_take_of_lt before]
    · rw [List.getElem?_append_right (by simp; omega), List.getElem?_drop]
      congr 1
      simp only [List.length_append, List.length_take]
      omega

end Storing

section Encoding

variable {opcode : UInt8} {startHandle endHandle : UInt16} {uuid : Option BtUuid}
  {buffer written : List UInt8} {value : Option (List UInt8)} {len : Nat}

theorem encodeValue_store (buffer : List UInt8) (ret : Nat) :
    encodeRange.encodeValue value buffer ret =
      (store buffer 7 (value.getD [])).map fun stored => (stored, ret + valueLength value) := by
  cases value with
  | none => rfl
  | some value =>
    unfold encodeRange.encodeValue valueLength
    simp only [bind, Except.bind, Option.getD_some]
    cases store buffer 7 value <;> rfl

/-- The request is what two stores behind the header make of the buffer. -/
theorem encodeRange_stores (bytes : List UInt8) (known : rangeUuid uuid = some bytes)
    (header : 5 ≤ buffer.length) :
    encodeRange opcode startHandle endHandle uuid buffer value =
      (store (rangeHeader opcode startHandle endHandle ++ buffer.drop 5) 5 bytes).bind fun stored =>
        (store stored 7 (value.getD [])).map fun stored =>
          (stored, 5 + bytes.length + valueLength value) := by
  rw [encodeRange_header _ _ _ _ _ _ header]
  cases uuid with
  | none =>
    cases known
    exact encodeValue_store _ _
  | some uuid =>
    simp only [rangeUuid] at known
    simp only [Option.map_some, known, encodeValue_store]

theorem rangeHeader_fills (header : 5 ≤ buffer.length) :
    (rangeHeader opcode startHandle endHandle ++ buffer.drop 5).length = buffer.length := by
  rw [List.length_append, rangeHeader_length, List.length_drop]
  omega

theorem encodeRange_ok (bytes : List UInt8) (known : rangeUuid uuid = some bytes)
    (header : 5 ≤ buffer.length) :
    encodeRange opcode startHandle endHandle uuid buffer value = .ok (written, len) ↔
      ∃ stored, store (rangeHeader opcode startHandle endHandle ++ buffer.drop 5) 5 bytes = .ok stored ∧
        store stored 7 (value.getD []) = .ok written ∧
          len = 5 + bytes.length + valueLength value := by
  rw [encodeRange_stores bytes known header]
  cases first : store (rangeHeader opcode startHandle endHandle ++ buffer.drop 5) 5 bytes with
  | error fault => simp [Except.bind]
  | ok stored =>
    cases second : store stored 7 (value.getD []) with
    | error fault => simp [Except.bind, Except.map, second]
    | ok last => simp [Except.bind, Except.map, second, eq_comm]

/-- What lies neither under the UUID nor under the value keeps the bytes the buffer had. -/
theorem encodeRange_untouched (bytes : List UInt8) (known : rangeUuid uuid = some bytes)
    (header : 5 ≤ buffer.length)
    (encoded : encodeRange opcode startHandle endHandle uuid buffer value = .ok (written, len))
    {i : Nat} (behind : 5 + bytes.length ≤ i) (beside : i < 7 ∨ 7 + valueLength value ≤ i) :
    written[i]? = buffer[i]? := by
  obtain ⟨stored, first, second, _⟩ := (encodeRange_ok bytes known header).mp encoded
  rw [store_untouched second beside, store_untouched first (.inr behind),
    List.getElem?_append_right (by rw [rangeHeader_length]; omega), rangeHeader_length,
    List.getElem?_drop]
  congr 1
  omega

theorem encodeRange_stays_iff (opcode : UInt8) (startHandle endHandle : UInt16) :
    StaysInside buffer (encodeRange opcode startHandle endHandle uuid buffer value) ↔
      RangeFits uuid value buffer.length := by
  unfold StaysInside RangeFits
  by_cases header : 5 ≤ buffer.length
  · cases known : rangeUuid uuid with
    | none =>
      obtain rfl : uuid = some .unspec := by
        cases uuid with
        | none => cases known
        | some uuid =>
          cases uuid with
          | unspec => rfl
          | uuid16 | uuid32 | uuid128 => cases known
      apply iff_of_true
      · refine ⟨_, 0, encodeRange_header _ _ _ _ _ _ header, rangeHeader_fills header, Nat.zero_le _⟩
      · exact fun _ specified => absurd rfl specified
    | some bytes =>
      have specified : uuid ≠ some .unspec := by
        intro same
        rw [same] at known
        cases known
      have width : uuidWidth uuid = bytes.length := by rw [uuidWidth, known, Option.getD_some]
      have fills : (rangeHeader opcode startHandle endHandle ++ buffer.drop 5).length =
          buffer.length := rangeHeader_fills header
      simp only [encodeRange_ok bytes known header, header, forall_const, specified, ne_eq,
        not_false_eq_true, width]
      constructor
      · rintro ⟨written, len, ⟨stored, first, second, rfl⟩, _, within⟩
        refine ⟨within, fun some_value => ?_⟩
        rcases store_ok_iff.mp ⟨written, second⟩ with empty | fits
        · simp [valueLength, empty] at some_value
        · rwa [store_length first, fills] at fits
      · rintro ⟨whole, beside⟩
        obtain ⟨stored, first⟩ : ∃ stored,
            store (rangeHeader opcode startHandle endHandle ++ buffer.drop 5) 5 bytes = .ok stored :=
          store_ok_iff.mpr (.inr (by rw [fills]; omega))
        have stored_length := (store_length first).trans fills
        obtain ⟨written, second⟩ : ∃ written, store stored 7 (value.getD []) = .ok written := by
          apply store_ok_iff.mpr
          by_cases nothing : value.getD [] = []
          · exact .inl nothing
          · have length := List.length_pos_iff.mpr nothing
            exact .inr (by rw [stored_length]; exact beside length)
        exact ⟨written, _, ⟨stored, first, second, rfl⟩, (store_length second).trans stored_length, whole⟩
  · apply iff_of_true
    · refine ⟨buffer, 0, ?_, rfl, Nat.zero_le _⟩
      unfold encodeRange
      rw [if_pos (by omega)]
    · exact fun enough => absurd enough header

end Encoding

section Requests

theorem getBuffer_length (connection : Connection) :
    connection.getBuffer.length =
      if connection.cid = attCid then attDefaultLeMtu else connection.imtu.toNat := by
  simp [Connection.getBuffer]

theorem findByTypeValue_encodes {att : Att} (idle : att.currentRequest = none)
    (startHandle endHandle : UInt16) (type : BtUuid) (value : Option (List UInt8)) (data : Nat)
    {written : List UInt8} {len : Nat}
    (encoded : encodeRange attOpFindByTypeReq startHandle endHandle (some type)
      att.connection.getBuffer value = .ok (written, len)) :
    ∃ next, att.findByTypeValue startHandle endHandle type value data =
      .ok (next, [.write (written.take len)]) := by
  unfold Att.findByTypeValue Att.request Att.setCurrentRequest
  rw [idle]
  simp only [Att.doFindByType, encoded, Att.write, bind, Except.bind, pure, Except.pure]
  exact ⟨_, rfl⟩

/-- The encoder checks its buffer for the header only, so that the UUID and the value have to fit
    behind it. A discovery by content takes a buffer of the connection, and sends what is in it. -/
theorem range_stays_inside_iff (opcode : UInt8) (startHandle endHandle : UInt16) (uuid : Option BtUuid)
    (value : Option (List UInt8)) (buffer : List UInt8) :
    (StaysInside buffer (encodeRange opcode startHandle endHandle uuid buffer value) ↔
      RangeFits uuid value buffer.length) ∧
    ∀ (att : Att) (type : BtUuid) (data : Nat), att.currentRequest = none →
      ((∃ written len next, encodeRange attOpFindByTypeReq startHandle endHandle (some type)
          att.connection.getBuffer value = .ok (written, len) ∧
        written.length = att.connection.getBuffer.length ∧ len ≤ att.connection.getBuffer.length ∧
        att.findByTypeValue startHandle endHandle type value data =
          .ok (next, [.write (written.take len)])) ↔
        RangeFits (some type) value
          (if att.connection.cid = attCid then attDefaultLeMtu else att.connection.imtu.toNat)) := by
  refine ⟨encodeRange_stays_iff opcode startHandle endHandle, ?_⟩
  intro att type data idle
  rw [← getBuffer_length, ← encodeRange_stays_iff attOpFindByTypeReq startHandle endHandle]
  constructor
  · rintro ⟨written, len, _, encoded, whole, within, _⟩
    exact ⟨written, len, encoded, whole, within⟩
  · rintro ⟨written, len, encoded, whole, within⟩
    obtain ⟨next, sent⟩ := findByTypeValue_encodes idle startHandle endHandle type value data encoded
    exact ⟨written, len, next, encoded, whole, within, sent⟩

theorem shortSearch_stays_inside :
    ∃ written len next, encodeRange attOpFindByTypeReq 1 0xFFFF (some (.uuid16 0x2800))
        leConnection.getBuffer (some [0x0F, 0x18]) = .ok (written, len) ∧
      written.length = leConnection.getBuffer.length ∧ len ≤ leConnection.getBuffer.length ∧
      (Att.new leConnection).findByTypeValue 1 0xFFFF (.uuid16 0x2800) (some [0x0F, 0x18]) 0 =
        .ok (next, [.write (written.take len)]) := by
  refine ((range_stays_inside_iff attOpFindByTypeReq 1 0xFFFF none (some [0x0F, 0x18]) []).2
    (Att.new leConnection) (.uuid16 0x2800) 0 rfl).mpr ?_
  intro _ _
  decide

/-- 17 bytes are one more than there is room for behind a 16-bit type. -/
theorem longSearch_overflows :
    (Att.new leConnection).findByTypeValue 1 0xFFFF (.uuid16 0x2800) (some (List.replicate 17 0)) 0 =
      .error .bufferOverflow := by
  rfl

end Requests

/-- The arguments of a range request, as far as its bytes tell them: no value is an empty one. -/
structure RangeRequest where
  opcode : UInt8
  startHandle : UInt16
  endHandle : UInt16
  uuid : Option BtUuid
  value : List UInt8
  deriving DecidableEq, Repr

def RangeRequest.message (request : RangeRequest) : List UInt8 :=
  rangeHeader request.opcode request.startHandle request.endHandle ++
    (rangeUuid request.uuid).getD [] ++ request.value

def decodeUuid (bytes : List UInt8) : Option BtUuid :=
  match bytes.length with
  | 2 => some (.uuid16 (UInt16.ofNat (number bytes)))
  | 4 => some (.uuid32 (UInt32.ofNat (number bytes)))
  | 16 => some (.uuid128 (BitVec.ofNat 128 (number bytes)))
  | _ => none

/-- The arguments back from the bytes, given how many of them are the UUID's. -/
def decodeRange (width : Nat) : List UInt8 → Option RangeRequest
  | [] => none
  | opcode :: rest =>
    some
      { opcode
        startHandle := UInt16.ofNat (number (rest.take 2))
        endHandle := UInt16.ofNat (number ((rest.drop 2).take 2))
        uuid := decodeUuid ((rest.drop 4).take width)
        value := rest.drop (4 + width) }

theorem decodeUuid_bytes {uuid : Option BtUuid} (specified : uuid ≠ some .unspec) :
    decodeUuid ((rangeUuid uuid).getD []) = uuid := by
  cases uuid with
  | none => rfl
  | some uuid =>
    cases uuid with
    | unspec => exact absurd rfl specified
    | uuid16 u16 =>
      have bound := u16.toNat_lt
      simp only [Nat.reducePow] at bound
      simp [rangeUuid, uuidBytes, decodeUuid, attPutU16, number_bytes, Nat.mod_eq_of_lt bound]
    | uuid32 u32 =>
      have bound := u32.toNat_lt
      simp only [Nat.reducePow] at bound
      simp [rangeUuid, uuidBytes, decodeUuid, attPutU32, number_bytes, Nat.mod_eq_of_lt bound]
    | uuid128 u128 =>
      have bound := u128.isLt
      simp only [Nat.reducePow] at bound
      simp [rangeUuid, uuidBytes, decodeUuid, attPutU128, number_bytes, Nat.mod_eq_of_lt bound]

theorem number_attPutU16 (src : UInt16) : UInt16.ofNat (number (attPutU16 src)) = src := by
  have bound := src.toNat_lt
  simp only [Nat.reducePow] at bound
  simp [attPutU16, number_bytes, Nat.mod_eq_of_lt bound]

theorem decodeRange_message (request : RangeRequest) (specified : request.uuid ≠ some .unspec) :
    decodeRange (uuidWidth request.uuid) request.message = some request := by
  obtain ⟨opcode, startHandle, endHandle, uuid, value⟩ := request
  have two := attPutU16_length startHandle
  have two_more := attPutU16_length endHandle
  unfold RangeRequest.message rangeHeader uuidWidth
  simp only [List.cons_append, List.append_assoc, decodeRange, Option.some.injEq,
    RangeRequest.mk.injEq, true_and]
  have first : (attPutU16 startHandle ++ (attPutU16 endHandle ++ ((rangeUuid uuid).getD [] ++ value))).take 2 =
      attPutU16 startHandle := List.take_left' two
  have behind : (attPutU16 startHandle ++ (attPutU16 endHandle ++ ((rangeUuid uuid).getD [] ++ value))).drop 2 =
      attPutU16 endHandle ++ ((rangeUuid uuid).getD [] ++ value) := List.drop_left' two
  have second : (attPutU16 endHandle ++ ((rangeUuid uuid).getD [] ++ value)).take 2 =
      attPutU16 endHandle := List.take_left' two_more
  have rest : (attPutU16 endHandle ++ ((rangeUuid uuid).getD [] ++ value)).drop 2 =
      (rangeUuid uuid).getD [] ++ value := List.drop_left' two_more
  have four : (attPutU16 startHandle ++ (attPutU16 endHandle ++ ((rangeUuid uuid).getD [] ++ value))).drop 4 =
      (rangeUuid uuid).getD [] ++ value := by
    rw [show 4 = 2 + 2 from rfl, ← List.drop_drop, behind, rest]
  rw [first, behind, second, ← List.drop_drop, four, List.take_left, List.drop_left,
    decodeUuid_bytes specified]
  exact ⟨number_attPutU16 _, number_attPutU16 _, rfl, rfl⟩

section Layout

variable (opcode : UInt8) (startHandle endHandle : UInt16) (uuid : Option BtUuid)
  (value : Option (List UInt8))

/-- Whatever a buffer of this size holds before, the request put into it is laid out in the order of
    its arguments, without gaps, and tells them all. -/
def EncodesInOrder (room : Nat) : Prop :=
  ∀ buffer : List UInt8, buffer.length = room → ∃ written len,
    encodeRange opcode startHandle endHandle uuid buffer value = .ok (written, len) ∧
    written.take len =
      rangeHeader opcode startHandle endHandle ++ (rangeUuid uuid).getD [] ++ value.getD [] ∧
    len = (rangeHeader opcode startHandle endHandle ++ (rangeUuid uuid).getD [] ++
      value.getD []).length ∧
    decodeRange (uuidWidth uuid) (written.take len) =
      some ⟨opcode, startHandle, endHandle, uuid, value.getD []⟩

variable {opcode startHandle endHandle uuid value} {room : Nat}

/-- A place of the request that no store reaches holds what the buffer happened to hold. -/
theorem encodesInOrder_reaches (bytes : List UInt8) (known : rangeUuid uuid = some bytes)
    (header : 5 ≤ room) (ordered : EncodesInOrder opcode startHandle endHandle uuid value room)
    {i : Nat} (inside : i < 5 + bytes.length + valueLength value) (behind : 5 + bytes.length ≤ i)
    (beside : i < 7 ∨ 7 + valueLength value ≤ i) (fits : i < room) : False := by
  have either : ∀ byte : UInt8, (rangeHeader opcode startHandle endHandle ++ bytes ++
      value.getD [])[i]? = some byte := by
    intro byte
    have filled : (List.replicate room byte).length = room := List.length_replicate
    obtain ⟨written, len, encoded, whole, length, _⟩ := ordered (List.replicate room byte) filled
    have kept := encodeRange_untouched bytes known (by rw [filled]; exact header) encoded behind beside
    rw [List.getElem?_replicate, if_pos fits] at kept
    rw [known, Option.getD_some] at whole length
    have size : i < len := by
      rw [length]
      simpa [valueLength, Nat.add_assoc] using inside
    rw [← whole, List.getElem?_take_of_lt size, kept]
  have zero := either 0
  rw [either 1] at zero
  cases zero

theorem encodeRange_in_order (specified : uuid ≠ some .unspec) {bytes : List UInt8}
    (known : rangeUuid uuid = some bytes) (short : valueLength value = 0 ∨ bytes.length = 2)
    (fits : 5 + bytes.length + valueLength value ≤ room) :
    EncodesInOrder opcode startHandle endHandle uuid value room := by
  intro buffer size
  have header : 5 ≤ buffer.length := by omega
  have first := store_next (rangeHeader opcode startHandle endHandle) (buffer.drop 5) bytes
    (by rw [List.length_drop]; omega)
  rw [rangeHeader_length, List.drop_drop] at first
  obtain ⟨rest, second⟩ : ∃ rest,
      store (rangeHeader opcode startHandle endHandle ++ bytes ++ buffer.drop (5 + bytes.length)) 7
        (value.getD []) =
      .ok (rangeHeader opcode startHandle endHandle ++ bytes ++ value.getD [] ++ rest) := by
    rcases short with nothing | two
    · have empty : value.getD [] = [] := List.length_eq_zero_iff.mp nothing
      refine ⟨buffer.drop (5 + bytes.length), ?_⟩
      rw [empty, store, if_pos rfl, List.append_nil]
    · have next := store_next (rangeHeader opcode startHandle endHandle ++ bytes)
        (buffer.drop (5 + bytes.length)) (value.getD []) (by
          rw [List.length_drop]
          unfold valueLength at fits
          omega)
      rw [List.length_append, rangeHeader_length, two] at next
      rw [two]
      exact ⟨_, next⟩
  have length : (rangeHeader opcode startHandle endHandle ++ bytes ++ value.getD []).length =
      5 + bytes.length + valueLength value := by
    simp [valueLength, Nat.add_assoc]
  refine ⟨_, _, (encodeRange_ok bytes known header).mpr ⟨_, first, second, rfl⟩, ?_, ?_, ?_⟩
  · rw [← length, List.take_left, known, Option.getD_some]
  · rw [known, Option.getD_some, length]
  · rw [← length, List.take_left]
    have told := decodeRange_message ⟨opcode, startHandle, endHandle, uuid, value.getD []⟩ specified
    unfold RangeRequest.message at told
    rwa [known, Option.getD_some] at told

end Layout

/-- A value is always put where a 16-bit UUID ends, and counted behind the UUID there is. -/
theorem range_in_order_iff (opcode : UInt8) (startHandle endHandle : UInt16) (uuid : Option BtUuid)
    (specified : uuid ≠ some .unspec) (value : Option (List UInt8)) (room : Nat)
    (fits : 5 + uuidWidth uuid + valueLength value ≤ room) :
    EncodesInOrder opcode startHandle endHandle uuid value room ↔
      valueLength value = 0 ∨ ∃ u16, uuid = some (.uuid16 u16) := by
  constructor
  · intro ordered
    by_contra wrong
    obtain ⟨some_value, wide⟩ := not_or.mp wrong
    have positive := Nat.pos_of_ne_zero some_value
    cases uuid with
    | none =>
      exact encodesInOrder_reaches [] (i := 5) rfl (by omega) ordered
        (by simpa using positive) (le_refl 5) (.inl (by decide)) (by omega)
    | some uuid =>
      cases uuid with
      | unspec => exact specified rfl
      | uuid16 u16 => exact wide ⟨u16, rfl⟩
      | uuid32 u32 =>
        have four : uuidWidth (some (.uuid32 u32)) = 4 := attPutU32_length u32
        rw [four] at fits
        exact encodesInOrder_reaches (attPutU32 u32) (i := 8 + valueLength value) rfl
          (by omega) ordered (by rw [attPutU32_length]; omega) (by rw [attPutU32_length]; omega)
          (.inr (by omega)) (by omega)
      | uuid128 u128 =>
        have sixteen : uuidWidth (some (.uuid128 u128)) = 16 := attPutU128_length u128
        rw [sixteen] at fits
        exact encodesInOrder_reaches (attPutU128 u128) (i := 20 + valueLength value) rfl
          (by omega) ordered (by rw [attPutU128_length]; omega) (by rw [attPutU128_length]; omega)
          (.inr (by omega)) (by omega)
  · intro short
    obtain ⟨bytes, known⟩ : ∃ bytes, rangeUuid uuid = some bytes := by
      cases uuid with
      | none => exact ⟨[], rfl⟩
      | some uuid =>
        cases uuid with
        | unspec => exact absurd rfl specified
        | uuid16 | uuid32 | uuid128 => exact ⟨_, rfl⟩
    have width : uuidWidth uuid = bytes.length := by rw [uuidWidth, known, Option.getD_some]
    rw [width] at fits
    refine encodeRange_in_order specified known (short.imp_right fun narrow => ?_) fits
    obtain ⟨u16, rfl⟩ := narrow
    exact width.symm.trans (attPutU16_length u16)

theorem batterySearch_in_order :
    EncodesInOrder attOpFindByTypeReq 1 0xFFFF (some (.uuid16 0x2800)) (some [0x0F, 0x18]) 23 :=
  (range_in_order_iff _ _ _ _ (by decide) _ _ (by decide)).mpr (.inr ⟨0x2800, rfl⟩)

/-- Two bytes of a 32-bit UUID are lost under the value, and two of old memory are sent behind it. -/
theorem wideSearch_out_of_order :
    ¬ EncodesInOrder attOpFindByTypeReq 1 0xFFFF (some (.uuid32 0x2800)) (some [0x0F, 0x18]) 23 := by
  intro ordered
  obtain ⟨written, len, encoded, whole, _⟩ := ordered (List.replicate 23 0) rfl
  cases encoded
  exact absurd whole (by decide)

end Btle.Client

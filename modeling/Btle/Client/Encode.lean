import Btle.Client.Memory

namespace Btle.Client

def encodeHandle (opcode : UInt8) (handle : UInt16) (buffer value : List UInt8) :
    Except Fault (List UInt8 × Nat) :=
  let ret := 3
  if buffer.length < ret then .ok (buffer, 0)
  else do
    let value := value.take (buffer.length - ret)
    let buffer ← store buffer 0 [opcode]
    let buffer ← store buffer 1 (attPutU16 handle)
    let buffer ← store buffer 3 value
    return (buffer, ret + value.length)

def uuidBytes : BtUuid → Option (List UInt8)
  | .unspec => none
  | .uuid16 u16 => some (attPutU16 u16)
  | .uuid32 u32 => some (attPutU32 u32)
  | .uuid128 u128 => some (attPutU128 u128)

/-- `Att::encode` for a handle range. The value goes to offset 7 whatever the UUID's width, and
    only the first five bytes are checked against the buffer. -/
def encodeRange (opcode : UInt8) (startHandle endHandle : UInt16) (uuid : Option BtUuid)
    (buffer : List UInt8) (value : Option (List UInt8)) : Except Fault (List UInt8 × Nat) :=
  let ret := 5
  if buffer.length < ret then .ok (buffer, 0)
  else do
    let buffer ← store buffer 0 [opcode]
    let buffer ← store buffer 1 (attPutU16 startHandle)
    let buffer ← store buffer 3 (attPutU16 endHandle)
    match uuid.map uuidBytes with
    | some none => return (buffer, 0)
    | some (some written) => do
      let buffer ← store buffer 5 written
      encodeValue buffer (ret + written.length)
    | none => encodeValue buffer ret
where
  encodeValue (buffer : List UInt8) (ret : Nat) : Except Fault (List UInt8 × Nat) :=
    match value with
    | none => return (buffer, ret)
    | some value => do
      let buffer ← store buffer 7 value
      return (buffer, ret + value.length)

theorem store_next (written fresh data : List UInt8) (fits : data.length ≤ fresh.length) :
    store (written ++ fresh) written.length data =
      .ok ((written ++ data) ++ fresh.drop data.length) := by
  unfold store
  split
  · rename_i empty
    simp [empty]
  · have room : written.length + data.length ≤ (written ++ fresh).length := by
      rw [List.length_append]
      omega
    rw [if_pos room, List.take_left, List.drop_append, List.drop_of_length_le (by omega)]
    simp

theorem store_first (buffer data : List UInt8) (fits : data.length ≤ buffer.length) :
    store buffer 0 data = .ok (data ++ buffer.drop data.length) := by
  simpa using store_next [] buffer data fits

def rangeHeader (opcode : UInt8) (startHandle endHandle : UInt16) : List UInt8 :=
  opcode :: (attPutU16 startHandle ++ attPutU16 endHandle)

@[simp] theorem rangeHeader_length (opcode : UInt8) (startHandle endHandle : UInt16) :
    (rangeHeader opcode startHandle endHandle).length = 5 := by
  simp [rangeHeader]

theorem encodeRange_header (opcode : UInt8) (startHandle endHandle : UInt16)
    (uuid : Option BtUuid) (buffer : List UInt8) (value : Option (List UInt8))
    (fits : 5 ≤ buffer.length) :
    encodeRange opcode startHandle endHandle uuid buffer value =
      match uuid.map uuidBytes with
      | some none => .ok (rangeHeader opcode startHandle endHandle ++ buffer.drop 5, 0)
      | some (some written) =>
        (store (rangeHeader opcode startHandle endHandle ++ buffer.drop 5) 5 written).bind
          fun buffer => encodeRange.encodeValue value buffer (5 + written.length)
      | none =>
        encodeRange.encodeValue value
          (rangeHeader opcode startHandle endHandle ++ buffer.drop 5) 5 := by
  have first := store_first buffer [opcode] (by simp; omega)
  have second := store_next [opcode] (buffer.drop 1) (attPutU16 startHandle) (by simp; omega)
  have third := store_next ([opcode] ++ attPutU16 startHandle) (buffer.drop 3)
    (attPutU16 endHandle) (by simp; omega)
  simp only [List.length_cons, List.length_nil, List.length_append, attPutU16_length,
    List.drop_drop, Nat.zero_add, Nat.reduceAdd] at first second third
  have header : [opcode] ++ attPutU16 startHandle ++ attPutU16 endHandle =
      rangeHeader opcode startHandle endHandle := rfl
  rw [header] at third
  unfold encodeRange
  rw [if_neg (by omega)]
  simp only [first, second, third, bind, Except.bind, pure, Except.pure]

/-- A range request that fits its buffer is laid out without gaps, the UUID after the header
    and the value after a 16-bit UUID. -/
theorem encodeRange_fits (opcode : UInt8) (startHandle endHandle : UInt16) (buffer : List UInt8)
    {uuid : Option BtUuid} {written : List UInt8} {value : Option (List UInt8)}
    (known : uuid.map uuidBytes = none ∧ written = [] ∨ uuid.map uuidBytes = some (some written))
    (short : value ≠ none → written.length = 2)
    (fits : 5 + written.length + (value.getD []).length ≤ buffer.length) :
    ∃ rest, encodeRange opcode startHandle endHandle uuid buffer value =
      .ok (rangeHeader opcode startHandle endHandle ++ written ++ value.getD [] ++ rest,
        5 + written.length + (value.getD []).length) := by
  have placed := store_next (rangeHeader opcode startHandle endHandle) (buffer.drop 5) written
    (by simp; omega)
  rw [rangeHeader_length, List.drop_drop] at placed
  rw [encodeRange_header _ _ _ _ _ _ (by omega)]
  cases value with
  | none =>
    refine ⟨buffer.drop (5 + written.length), ?_⟩
    rcases known with ⟨absent, rfl⟩ | present
    · simp [absent, encodeRange.encodeValue, pure, Except.pure]
    · simp [present, placed, Except.bind, encodeRange.encodeValue, pure, Except.pure]
  | some value =>
    have two := short (by simp)
    have present : uuid.map uuidBytes = some (some written) := by
      rcases known with ⟨_, rfl⟩ | present
      · simp at two
      · exact present
    have after := store_next (rangeHeader opcode startHandle endHandle ++ written)
      (buffer.drop (5 + written.length)) value (by simp at fits ⊢; omega)
    simp only [List.length_append, rangeHeader_length, two, Nat.reduceAdd] at after placed
    refine ⟨(buffer.drop 7).drop value.length, ?_⟩
    simp only [present, placed, Except.bind, encodeRange.encodeValue, after, two, pure, Except.pure,
      bind, Option.getD_some]

end Btle.Client

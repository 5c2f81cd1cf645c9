import Mathlib.Data.Nat.Bitwise
import Btle.Library.LittleEndian

namespace Btle.Client

open LittleEndian

/-- Where the C++ has no defined behaviour left: a read past the received bytes or through a
    null pointer, a negative length given to `memcpy`, `back()` of an empty vector, a null
    `currentRequest`, or a store past the end of an outgoing buffer. -/
inductive Fault
  | outOfBounds
  | nullBuffer
  | negativeLength
  | emptyList
  | nullRequest
  | bufferOverflow
  deriving DecidableEq, Repr

/-- `uint8_t* buf` with the bytes that were received; `none` is the null pointer. -/
abbrev Buf := Option (List UInt8)

def byteAt (buf : Buf) (i : Nat) : Except Fault UInt8 :=
  match buf with
  | none => .error .nullBuffer
  | some bytes =>
    match bytes[i]? with
    | some byte => .ok byte
    | none => .error .outOfBounds

def bytesAt (buf : Buf) (i : Nat) : Nat → Except Fault (List UInt8)
  | 0 => .ok []
  | count + 1 => do
    let byte ← byteAt buf i
    let rest ← bytesAt buf (i + 1) count
    return byte :: rest

def attGetU16 (buf : Buf) (ptr : Nat) : Except Fault UInt16 := do
  let bytes ← bytesAt buf ptr 2
  return UInt16.ofNat (number bytes)

def attGetU128 (buf : Buf) (ptr : Nat) : Except Fault (BitVec 128) := do
  let bytes ← bytesAt buf ptr 16
  return BitVec.ofNat 128 (number bytes)

inductive BtUuid
  | unspec
  | uuid16 (u16 : UInt16)
  | uuid32 (u32 : UInt32)
  | uuid128 (u128 : BitVec 128)
  deriving DecidableEq, Repr

def attGetUuid16 (buf : Buf) (ptr : Nat) : Except Fault BtUuid := do
  return .uuid16 (← attGetU16 buf ptr)

def attGetUuid128 (buf : Buf) (ptr : Nat) : Except Fault BtUuid := do
  return .uuid128 (← attGetU128 buf ptr)

def store (buffer : List UInt8) (offset : Nat) (data : List UInt8) : Except Fault (List UInt8) :=
  if data = [] then .ok buffer
  else if offset + data.length ≤ buffer.length then
    .ok (buffer.take offset ++ data ++ buffer.drop (offset + data.length))
  else .error .bufferOverflow

def attPutU16 (src : UInt16) : List UInt8 := bytes 2 src.toNat
def attPutU32 (src : UInt32) : List UInt8 := bytes 4 src.toNat
def attPutU128 (src : BitVec 128) : List UInt8 := bytes 16 src.toNat

@[simp] theorem attPutU16_length (src : UInt16) : (attPutU16 src).length = 2 := bytes_length 2 _
@[simp] theorem attPutU32_length (src : UInt32) : (attPutU32 src).length = 4 := bytes_length 4 _
@[simp] theorem attPutU128_length (src : BitVec 128) : (attPutU128 src).length = 16 :=
  bytes_length 16 _

theorem bind_ok {α β : Type} {first : Except Fault α} {next : α → Except Fault β} {result : β}
    (h : (first >>= next) = .ok result) : ∃ value, first = .ok value ∧ next value = .ok result := by
  cases first with
  | error fault => cases h
  | ok value => exact ⟨value, rfl, h⟩

theorem byteAt_inside {bytes : List UInt8} {i : Nat} (inside : i < bytes.length) :
    byteAt (some bytes) i = .ok bytes[i] := by
  simp [byteAt, inside]

theorem byteAt_outside {bytes : List UInt8} {i : Nat} (outside : bytes.length ≤ i) :
    byteAt (some bytes) i = .error .outOfBounds := by
  simp [byteAt, outside]

theorem bytesAt_inside {bytes : List UInt8} {i count : Nat} (inside : i + count ≤ bytes.length) :
    bytesAt (some bytes) i count = .ok ((bytes.drop i).take count) := by
  induction count generalizing i with
  | zero => simp [bytesAt]
  | succ count ih =>
    have here : i < bytes.length := by omega
    rw [bytesAt, byteAt_inside here]
    have rest := ih (i := i + 1) (by omega)
    simp only [rest, bind, Except.bind, pure, Except.pure]
    rw [List.drop_eq_getElem_cons here, List.take_succ_cons]

theorem bytesAt_outside {bytes : List UInt8} {i count : Nat} (some_read : 0 < count)
    (outside : bytes.length < i + count) :
    bytesAt (some bytes) i count = .error .outOfBounds := by
  induction count generalizing i with
  | zero => omega
  | succ count ih =>
    rw [bytesAt]
    by_cases here : i < bytes.length
    · have rest := ih (i := i + 1) (by omega) (by omega)
      simp only [byteAt_inside here, rest, bind, Except.bind]
    · simp only [byteAt_outside (Nat.le_of_not_lt here), bind, Except.bind]

theorem bytesAt_append (before data after : List UInt8) :
    bytesAt (some (before ++ data ++ after)) before.length data.length = .ok data := by
  rw [bytesAt_inside (by simp), List.append_assoc, List.drop_left, List.take_left]

theorem attGetU16_put (before after : List UInt8) (value : UInt16) :
    attGetU16 (some (before ++ attPutU16 value ++ after)) before.length = .ok value := by
  have read := bytesAt_append before (attPutU16 value) after
  rw [attPutU16_length] at read
  rw [attGetU16, read]
  simp only [bind, Except.bind, pure, Except.pure, attPutU16, number_bytes]
  congr 1
  apply UInt16.toNat_inj.mp
  have bound := value.toNat_lt
  simp only [UInt16.toNat_ofNat', Nat.reducePow] at bound ⊢
  omega

theorem attGetU128_put (before after : List UInt8) (value : BitVec 128) :
    attGetU128 (some (before ++ attPutU128 value ++ after)) before.length = .ok value := by
  have read := bytesAt_append before (attPutU128 value) after
  rw [attPutU128_length] at read
  rw [attGetU128, read]
  simp only [bind, Except.bind, pure, Except.pure, attPutU128, number_bytes]
  congr 1
  apply BitVec.eq_of_toNat_eq
  have bound := value.isLt
  simp only [BitVec.toNat_ofNat, Nat.reducePow] at bound ⊢
  omega

theorem attGetU16_inside {bytes : List UInt8} {ptr : Nat} (inside : ptr + 2 ≤ bytes.length) :
    attGetU16 (some bytes) ptr = .ok (UInt16.ofNat (number ((bytes.drop ptr).take 2))) := by
  simp only [attGetU16, bytesAt_inside inside, bind, Except.bind, pure, Except.pure]

theorem attGetU16_outside {bytes : List UInt8} {ptr : Nat} (outside : bytes.length < ptr + 2) :
    attGetU16 (some bytes) ptr = .error .outOfBounds := by
  simp only [attGetU16, bytesAt_outside (by decide) outside, bind, Except.bind]

end Btle.Client

import Btle.Client.Memory
import Btle.Client.Protocol

namespace Btle.Client

structure AttributeInfo where
  handle : UInt16
  type : BtUuid
  deriving DecidableEq, Repr

structure HandlesInfo where
  handle : UInt16
  groupEndHandle : UInt16
  deriving DecidableEq, Repr

/-- The filled part of the entry's 255-byte array stands for the array and its length. -/
structure AttributeData where
  handle : UInt16
  data : List UInt8
  deriving DecidableEq, Repr

structure GroupAttributeData where
  handle : UInt16
  groupEndHandle : UInt16
  data : List UInt8
  deriving DecidableEq, Repr

/-- `memcpy` out of the received bytes with a length computed in `int`. -/
def memcpy (buf : Buf) (ptr : Nat) (length : Int) : Except Fault (List UInt8) :=
  if length < 0 then .error .negativeLength else bytesAt buf ptr length.toNat

/-- The loop `while (ptr - buf < len)` of the four list parsers. An entry is read at `ptr` and
    says where the next one starts; every entry is at least one byte long, so that `len` turns
    are enough. -/
def parseEntries {α : Type} (entry : Nat → Except Fault (α × Nat)) (len : Int) :
    Nat → Nat → List α → Except Fault (List α)
  | 0, _, list => .ok list
  | turns + 1, ptr, list =>
    if (ptr : Int) < len then
      match entry ptr with
      | .error fault => .error fault
      | .ok (item, next) => parseEntries entry len turns next (list ++ [item])
    else .ok list

def attributeInfoAt (buf : Buf) (format : UInt8) (ptr : Nat) :
    Except Fault (AttributeInfo × Nat) := do
  let handle ← attGetU16 buf ptr
  if format = attFindInfoRespFmt16Bit then
    return (⟨handle, ← attGetUuid16 buf (ptr + 2)⟩, ptr + 2 + 2)
  else
    return (⟨handle, ← attGetUuid128 buf (ptr + 2)⟩, ptr + 2 + 16)

def parseAttributeList (list : List AttributeInfo) (buf : Buf) (len : Int) :
    Except Fault (List AttributeInfo) := do
  let format ← byteAt buf 0
  parseEntries (attributeInfoAt buf format) len len.toNat 1 list

def handlesInfoAt (buf : Buf) (ptr : Nat) : Except Fault (HandlesInfo × Nat) := do
  let handle ← attGetU16 buf ptr
  let groupEndHandle ← attGetU16 buf (ptr + 2)
  return (⟨handle, groupEndHandle⟩, ptr + 2 + 2)

def parseHandlesInformationList (list : List HandlesInfo) (buf : Buf) (len : Int) :
    Except Fault (List HandlesInfo) :=
  parseEntries (handlesInfoAt buf) len len.toNat 0 list

def attributeDataAt (buf : Buf) (length : UInt8) (ptr : Nat) :
    Except Fault (AttributeData × Nat) := do
  let handle ← attGetU16 buf ptr
  let data ← memcpy buf (ptr + 2) (length.toNat - 2)
  return (⟨handle, data⟩, ptr + 2 + data.length)

def parseAttributeDataList (list : List AttributeData) (buf : Buf) (len : Int) :
    Except Fault (List AttributeData) := do
  let length ← byteAt buf 0
  parseEntries (attributeDataAt buf length) len len.toNat 1 list

def groupAttributeDataAt (buf : Buf) (length : UInt8) (ptr : Nat) :
    Except Fault (GroupAttributeData × Nat) := do
  let handle ← attGetU16 buf ptr
  let groupEndHandle ← attGetU16 buf (ptr + 2)
  let data ← memcpy buf (ptr + 2 + 2) (length.toNat - 4)
  return (⟨handle, groupEndHandle, data⟩, ptr + 2 + 2 + data.length)

def parseGroupAttributeDataList (list : List GroupAttributeData) (buf : Buf) (len : Int) :
    Except Fault (List GroupAttributeData) := do
  let length ← byteAt buf 0
  parseEntries (groupAttributeDataAt buf length) len len.toNat 1 list

/-- An entry of a fixed size, read from `n` bytes: it is there in full or runs off the end. -/
def Strided {α : Type} (entry : Nat → Except Fault (α × Nat)) (n stride : Nat) : Prop :=
  ∀ ptr, (ptr + stride ≤ n → ∃ item, entry ptr = .ok (item, ptr + stride)) ∧
    (n < ptr + stride → entry ptr = .error .outOfBounds)

section Strided

variable {α : Type} {entry : Nat → Except Fault (α × Nat)} {n stride : Nat}

theorem parseEntries_finished (turns ptr : Nat) (list : List α) (done : n ≤ ptr) :
    parseEntries entry n turns ptr list = .ok list := by
  cases turns with
  | zero => rfl
  | succ turns =>
    have stop : ¬ (ptr : Int) < n := by omega
    simp only [parseEntries, if_neg stop]

theorem parseEntries_next {turns ptr next : Nat} {item : α} (list : List α) (more : ptr < n)
    (read : entry ptr = .ok (item, next)) :
    parseEntries entry n (turns + 1) ptr list = parseEntries entry n turns next (list ++ [item]) := by
  have going : (ptr : Int) < n := by omega
  simp only [parseEntries, if_pos going, read]

theorem parseEntries_fault {turns ptr : Nat} {fault : Fault} (list : List α) (more : ptr < n)
    (read : entry ptr = .error fault) :
    parseEntries entry n (turns + 1) ptr list = .error fault := by
  have going : (ptr : Int) < n := by omega
  simp only [parseEntries, if_pos going, read]

theorem parseEntries_whole (strided : Strided entry n stride) (positive : 0 < stride)
    {turns ptr count : Nat} (list : List α) (whole : n = ptr + count * stride)
    (enough : count ≤ turns) :
    ∃ items, items.length = count ∧
      parseEntries entry n turns ptr list = .ok (list ++ items) := by
  induction count generalizing turns ptr list with
  | zero => exact ⟨[], rfl, by rw [parseEntries_finished _ _ _ (by omega), List.append_nil]⟩
  | succ count ih =>
    obtain ⟨turns, rfl⟩ : ∃ fewer, turns = fewer + 1 := ⟨turns - 1, by omega⟩
    rw [Nat.succ_mul] at whole
    rcases (strided ptr).1 (by omega) with ⟨item, read⟩
    obtain ⟨items, length, parsed⟩ : ∃ items, items.length = count ∧
        parseEntries entry n turns (ptr + stride) (list ++ [item]) = .ok (list ++ [item] ++ items) :=
      ih (list ++ [item]) (by omega) (by omega)
    refine ⟨item :: items, by simp [length], ?_⟩
    rw [parseEntries_next list (by omega) read, parsed]
    simp

theorem parseEntries_partial (strided : Strided entry n stride) {turns ptr : Nat} (count left : Nat)
    (list : List α) (short : n = ptr + count * stride + left) (some_left : 0 < left)
    (cut : left < stride) (enough : count < turns) :
    parseEntries entry n turns ptr list = .error .outOfBounds := by
  induction count generalizing turns ptr list with
  | zero =>
    obtain ⟨turns, rfl⟩ : ∃ fewer, turns = fewer + 1 := ⟨turns - 1, by omega⟩
    exact parseEntries_fault list (by omega) ((strided ptr).2 (by omega))
  | succ count ih =>
    obtain ⟨turns, rfl⟩ : ∃ fewer, turns = fewer + 1 := ⟨turns - 1, by omega⟩
    rw [Nat.succ_mul] at short
    rcases (strided ptr).1 (by omega) with ⟨item, read⟩
    rw [parseEntries_next list (by omega) read]
    exact ih (list ++ [item]) (by omega) (by omega)

/-- The loop survives exactly the buffers that hold a whole number of entries. -/
theorem parseEntries_strided (strided : Strided entry n stride) (positive : 0 < stride)
    (ptr : Nat) (list : List α) (inside : ptr ≤ n) :
    if (n - ptr) % stride = 0 then
      ∃ items, items.length = (n - ptr) / stride ∧
        parseEntries entry n n ptr list = .ok (list ++ items)
    else parseEntries entry n n ptr list = .error .outOfBounds := by
  have split := Nat.div_add_mod (n - ptr) stride
  have quotient := Nat.div_le_self (n - ptr) stride
  rw [Nat.mul_comm] at split
  by_cases whole : (n - ptr) % stride = 0
  · rw [if_pos whole]
    exact parseEntries_whole strided positive list (by omega) (by omega)
  · rw [if_neg whole]
    have smaller := Nat.mod_lt (n - ptr) positive
    apply parseEntries_partial strided ((n - ptr) / stride) ((n - ptr) % stride) list (by omega)
      (by omega) smaller
    by_contra many
    have all : (n - ptr) / stride = n := by omega
    have step : n * 1 ≤ n * stride := Nat.mul_le_mul_left n positive
    rw [all] at split
    omega

end Strided

theorem parseEntries_encoded {α : Type} {entry : Nat → Except Fault (α × Nat)}
    {encoded : α → List UInt8} {whole : List UInt8} {items : List α} (before : List UInt8)
    (laid : whole = before ++ items.flatMap encoded)
    (nonempty : ∀ item ∈ items, encoded item ≠ [])
    (reads : ∀ item ∈ items, ∀ before after, whole = before ++ encoded item ++ after →
      entry before.length = .ok (item, before.length + (encoded item).length))
    {turns : Nat} (list : List α) (enough : items.length ≤ turns) :
    parseEntries entry whole.length turns before.length list = .ok (list ++ items) := by
  induction items generalizing before turns list with
  | nil =>
    rw [parseEntries_finished _ _ _ (by simp [laid])]
    simp
  | cons item items ih =>
    obtain ⟨turns, rfl⟩ : ∃ fewer, turns = fewer + 1 :=
      ⟨turns - 1, by simp only [List.length_cons] at enough; omega⟩
    have here : whole = before ++ encoded item ++ items.flatMap encoded := by
      simp [laid, List.flatMap_cons]
    have size : 0 < (encoded item).length :=
      List.length_pos_iff.mpr (nonempty item (by simp))
    have more : before.length < whole.length := by
      rw [here, List.length_append, List.length_append]
      omega
    rw [parseEntries_next list more (reads item (by simp) before _ here)]
    rw [← List.length_append]
    rw [ih _ here (fun other member => nonempty other (by simp [member]))
      (fun other member => reads other (by simp [member])) _ (by simpa using enough)]
    simp

end Btle.Client

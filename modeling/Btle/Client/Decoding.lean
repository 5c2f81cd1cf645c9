import Btle.Client.Pages
import Btle.Client.ReadPointer

namespace Btle.Client

namespace DataArrays

/-- `uint8_t data[255]`. -/
structure DataArray where
  bytes : List UInt8
  size : bytes.length = 255

def DataArray.zero : DataArray := ⟨List.replicate 255 0, List.length_replicate⟩

def DataArray.copy (array : DataArray) (data : List UInt8) : Except Fault DataArray :=
  if fits : data.length ≤ 255 then
    .ok ⟨data ++ array.bytes.drop data.length, by
      rw [List.length_append, List.length_drop, array.size]
      omega⟩
  else .error .bufferOverflow

structure AttributeData where
  handle : UInt16
  data : DataArray
  length : Nat

structure GroupAttributeData where
  handle : UInt16
  groupEndHandle : UInt16
  data : DataArray
  length : Nat

def attributeDataAt (buf : Buf) (length : UInt8) (ptr : Nat) : Except Fault (AttributeData × Nat) := do
  let handle ← attGetU16 buf ptr
  let bytes ← memcpy buf (ptr + 2) (length.toNat - 2)
  let data ← DataArray.zero.copy bytes
  return (⟨handle, data, length.toNat - 2⟩, ptr + 2 + bytes.length)

def parseAttributeDataList (list : List AttributeData) (buf : Buf) (len : Int) :
    Except Fault (List AttributeData) := do
  let length ← byteAt buf 0
  parseEntries (attributeDataAt buf length) len len.toNat 1 list

def groupAttributeDataAt (buf : Buf) (length : UInt8) (ptr : Nat) :
    Except Fault (GroupAttributeData × Nat) := do
  let handle ← attGetU16 buf ptr
  let groupEndHandle ← attGetU16 buf (ptr + 2)
  let bytes ← memcpy buf (ptr + 2 + 2) (length.toNat - 4)
  let data ← DataArray.zero.copy bytes
  return (⟨handle, groupEndHandle, data, length.toNat - 4⟩, ptr + 2 + 2 + bytes.length)

def parseGroupAttributeDataList (list : List GroupAttributeData) (buf : Buf) (len : Int) :
    Except Fault (List GroupAttributeData) := do
  let length ← byteAt buf 0
  parseEntries (groupAttributeDataAt buf length) len len.toNat 1 list

/-- A new array after a value is copied into it. -/
def DataArray.holding (data : List UInt8) : DataArray where
  bytes := (data ++ zero.bytes).take 255
  size := by
    rw [List.length_take, List.length_append, zero.size]
    omega

def AttributeData.placed (entry : Client.AttributeData) : AttributeData where
  handle := entry.handle
  data := .holding entry.data
  length := entry.data.length

def GroupAttributeData.placed (group : Client.GroupAttributeData) : GroupAttributeData where
  handle := group.handle
  groupEndHandle := group.groupEndHandle
  data := .holding group.data
  length := group.data.length

theorem DataArray.copy_zero {data : List UInt8} (fits : data.length ≤ 255) :
    DataArray.zero.copy data = .ok (.holding data) := by
  have kept : (data ++ zero.bytes).take 255 = data ++ zero.bytes.drop data.length := by
    rw [List.take_append, List.take_of_length_le fits]
    show data ++ (List.replicate 255 0).take (255 - data.length) =
      data ++ (List.replicate 255 0).drop data.length
    rw [List.take_replicate, List.drop_replicate, Nat.min_eq_left (Nat.sub_le 255 _)]
  simp only [copy, dif_pos fits, holding, kept]

theorem DataArray.take_holding {data : List UInt8} (fits : data.length ≤ 255) :
    (DataArray.holding data).bytes.take data.length = data := by
  rw [holding, List.take_take, Nat.min_eq_left fits, List.take_left]

section Placing

variable {buf : Buf} {length : UInt8}

/-- What is copied is shorter than the array, whatever was received. -/
theorem memcpy_fits (fixed : Nat) {ptr : Nat} {data : List UInt8}
    (copied : memcpy buf ptr ((length.toNat : Int) - fixed) = .ok data) :
    data.length = length.toNat - fixed ∧ data.length ≤ 255 := by
  have size := memcpy_length copied
  have bound := length.toNat_lt
  omega

theorem attributeDataAt_placed (buf : Buf) (length : UInt8) (ptr : Nat) :
    attributeDataAt buf length ptr =
      (Client.attributeDataAt buf length ptr).map (Prod.map AttributeData.placed id) := by
  unfold attributeDataAt Client.attributeDataAt
  cases attGetU16 buf ptr with
  | error fault => rfl
  | ok handle =>
    cases copied : memcpy buf (ptr + 2) (length.toNat - 2) with
    | error fault => simp [bind, Except.bind, Except.map]
    | ok data =>
      obtain ⟨size, fits⟩ := memcpy_fits 2 copied
      simp [bind, Except.bind, Except.map, DataArray.copy_zero fits, pure, Except.pure,
        AttributeData.placed, size]

theorem groupAttributeDataAt_placed (buf : Buf) (length : UInt8) (ptr : Nat) :
    groupAttributeDataAt buf length ptr =
      (Client.groupAttributeDataAt buf length ptr).map (Prod.map GroupAttributeData.placed id) := by
  unfold groupAttributeDataAt Client.groupAttributeDataAt
  cases attGetU16 buf ptr with
  | error fault => rfl
  | ok handle =>
    cases attGetU16 buf (ptr + 2) with
    | error fault => rfl
    | ok groupEndHandle =>
      cases copied : memcpy buf (ptr + 2 + 2) (length.toNat - 4) with
      | error fault => simp [bind, Except.bind, Except.map]
      | ok data =>
        obtain ⟨size, fits⟩ := memcpy_fits 4 copied
        simp [bind, Except.bind, Except.map, DataArray.copy_zero fits, pure, Except.pure,
          GroupAttributeData.placed, size]

theorem parseEntries_map {α β : Type} {entry : Nat → Except Fault (α × Nat)}
    {other : Nat → Except Fault (β × Nat)} {made : α → β} (len : Int) (earlier : List β)
    (same : ∀ ptr, other ptr = (entry ptr).map (Prod.map made id)) (turns ptr : Nat) (found : List α) :
    parseEntries other len turns ptr (earlier ++ found.map made) =
      (parseEntries entry len turns ptr found).map fun items => earlier ++ items.map made := by
  induction turns generalizing ptr found with
  | zero => rfl
  | succ turns ih =>
    unfold parseEntries
    split_ifs
    · rw [same ptr]
      cases entry ptr with
      | error fault => rfl
      | ok read =>
        have next := ih read.2 (found ++ [read.1])
        rw [List.map_append, ← List.append_assoc] at next
        exact next
    · rfl

/-- Loops that read the length of their entries first, with entries that correspond. -/
theorem parseSized_map {α β : Type} {entry : UInt8 → Nat → Except Fault (α × Nat)}
    {other : UInt8 → Nat → Except Fault (β × Nat)} {made : α → β} (len : Int) (earlier : List β)
    (same : ∀ length ptr, other length ptr = (entry length ptr).map (Prod.map made id)) :
    (byteAt buf 0 >>= fun length => parseEntries (other length) len len.toNat 1 earlier) =
      (byteAt buf 0 >>= fun length => parseEntries (entry length) len len.toNat 1 []).map
        fun found : List α => earlier ++ found.map made := by
  cases byteAt buf 0 with
  | error fault => rfl
  | ok length =>
    have parsed := parseEntries_map len earlier (same length) len.toNat 1 []
    rw [List.map_nil, List.append_nil] at parsed
    exact parsed

/-- The parsers with arrays add what the others find, each value at the front of its array. -/
theorem parseAttributeDataList_placed (earlier : List AttributeData) (len : Int) :
    parseAttributeDataList earlier buf len =
      (Client.parseAttributeDataList [] buf len).map fun found =>
        earlier ++ found.map AttributeData.placed :=
  parseSized_map len earlier (attributeDataAt_placed buf)

theorem parseGroupAttributeDataList_placed (earlier : List GroupAttributeData) (len : Int) :
    parseGroupAttributeDataList earlier buf len =
      (Client.parseGroupAttributeDataList [] buf len).map fun found =>
        earlier ++ found.map GroupAttributeData.placed :=
  parseSized_map len earlier (groupAttributeDataAt_placed buf)

end Placing

section Decoding

structure AttributeData.Shows (entry : AttributeData) (value : Client.AttributeData) : Prop where
  handle : entry.handle = value.handle
  length : entry.length = value.data.length
  data : entry.data.bytes.take entry.length = value.data

structure GroupAttributeData.Shows (entry : GroupAttributeData) (group : Client.GroupAttributeData) :
    Prop where
  handle : entry.handle = group.handle
  groupEndHandle : entry.groupEndHandle = group.groupEndHandle
  length : entry.length = group.data.length
  data : entry.data.bytes.take entry.length = group.data

theorem AttributeData.placed_shows {value : Client.AttributeData} (fits : value.data.length ≤ 255) :
    (placed value).Shows value :=
  ⟨rfl, rfl, DataArray.take_holding fits⟩

theorem GroupAttributeData.placed_shows {group : Client.GroupAttributeData}
    (fits : group.data.length ≤ 255) : (placed group).Shows group :=
  ⟨rfl, rfl, rfl, DataArray.take_holding fits⟩

theorem forall₂_map {α β : Type} {made : α → β} {shows : β → α → Prop} {items : List α}
    (each : ∀ item ∈ items, shows (made item) item) : List.Forall₂ shows (items.map made) items := by
  rw [List.forall₂_map_left_iff, List.forall₂_same]
  exact each

theorem parseAttributeDataList_shows (earlier : List AttributeData) {length : UInt8}
    {entries : List Client.AttributeData}
    (uniform : ∀ entry ∈ entries, entry.data.length + 2 = length.toNat) :
    ∃ appended, List.Forall₂ AttributeData.Shows appended entries ∧
      parseAttributeDataList earlier (some (length :: entries.flatMap encodeData))
        (length :: entries.flatMap encodeData).length = .ok (earlier ++ appended) := by
  have bound := length.toNat_lt
  refine ⟨entries.map .placed, forall₂_map fun entry member => ?_, ?_⟩
  · have size := uniform entry member
    exact AttributeData.placed_shows (by omega)
  · rw [parseAttributeDataList_placed, parseAttributeDataList_encoded [] uniform]
    rfl

theorem parseGroupAttributeDataList_shows (earlier : List GroupAttributeData) {length : UInt8}
    {groups : List Client.GroupAttributeData}
    (uniform : ∀ group ∈ groups, group.data.length + 4 = length.toNat) :
    ∃ appended, List.Forall₂ GroupAttributeData.Shows appended groups ∧
      parseGroupAttributeDataList earlier (some (length :: groups.flatMap encodeGroup))
        (length :: groups.flatMap encodeGroup).length = .ok (earlier ++ appended) := by
  have bound := length.toNat_lt
  refine ⟨groups.map .placed, forall₂_map fun group member => ?_, ?_⟩
  · have size := uniform group member
    exact GroupAttributeData.placed_shows (by omega)
  · rw [parseGroupAttributeDataList_placed, parseGroupAttributeDataList_encoded [] uniform]
    rfl

end Decoding

end DataArrays

/-- Each parser adds exactly the entries that a response was made from, in their order. -/
theorem parsers_decode :
    (∀ (earlier entries : List AttributeInfo) (format : UInt8),
      (∀ info ∈ entries, InFormat format info.type) →
        parseAttributeList earlier (some (format :: entries.flatMap encodeInfo))
          (format :: entries.flatMap encodeInfo).length = .ok (earlier ++ entries)) ∧
    (∀ earlier entries : List HandlesInfo,
      parseHandlesInformationList earlier (some (entries.flatMap encodeHandles))
        (entries.flatMap encodeHandles).length = .ok (earlier ++ entries)) ∧
    (∀ (earlier : List DataArrays.AttributeData) (entries : List AttributeData) (length : UInt8),
      (∀ entry ∈ entries, entry.data.length + 2 = length.toNat) →
        ∃ appended, List.Forall₂ DataArrays.AttributeData.Shows appended entries ∧
          DataArrays.parseAttributeDataList earlier (some (length :: entries.flatMap encodeData))
            (length :: entries.flatMap encodeData).length = .ok (earlier ++ appended)) ∧
    (∀ (earlier : List DataArrays.GroupAttributeData) (groups : List GroupAttributeData)
        (length : UInt8), (∀ group ∈ groups, group.data.length + 4 = length.toNat) →
        ∃ appended, List.Forall₂ DataArrays.GroupAttributeData.Shows appended groups ∧
          DataArrays.parseGroupAttributeDataList earlier (some (length :: groups.flatMap encodeGroup))
            (length :: groups.flatMap encodeGroup).length = .ok (earlier ++ appended)) := by
  refine ⟨?_, ?_, ?_, ?_⟩
  · intro earlier entries format uniform
    exact parseAttributeList_encoded earlier uniform
  · exact parseHandlesInformationList_encoded
  · intro earlier entries length uniform
    exact DataArrays.parseAttributeDataList_shows earlier uniform
  · intro earlier groups length uniform
    exact DataArrays.parseGroupAttributeDataList_shows earlier uniform

theorem parsers_decode_small :
    parseAttributeList [] (some [1, 3, 0, 0x00, 0x28]) 5 = .ok ([] ++ [⟨3, .uuid16 0x2800⟩]) ∧
    parseHandlesInformationList [⟨1, 2⟩] (some [3, 0, 5, 0]) 4 = .ok ([⟨1, 2⟩] ++ [⟨3, 5⟩]) ∧
    (∃ appended,
      List.Forall₂ DataArrays.AttributeData.Shows appended [⟨3, [0x41, 0x42]⟩, ⟨5, [0x43, 0x44]⟩] ∧
      DataArrays.parseAttributeDataList [] (some [4, 3, 0, 0x41, 0x42, 5, 0, 0x43, 0x44]) 9 =
        .ok ([] ++ appended)) ∧
    (∃ appended, List.Forall₂ DataArrays.GroupAttributeData.Shows appended [⟨3, 9, [0x00, 0x18]⟩] ∧
      DataArrays.parseGroupAttributeDataList [] (some [6, 3, 0, 9, 0, 0x00, 0x18]) 7 =
        .ok ([] ++ appended)) :=
  ⟨parsers_decode.1 [] [⟨3, .uuid16 0x2800⟩] 1 (by simp [InFormat, attFindInfoRespFmt16Bit]),
    parsers_decode.2.1 [⟨1, 2⟩] [⟨3, 5⟩],
    parsers_decode.2.2.1 [] [⟨3, [0x41, 0x42]⟩, ⟨5, [0x43, 0x44]⟩] 4 (by decide),
    parsers_decode.2.2.2 [] [⟨3, 9, [0x00, 0x18]⟩] 6 (by decide)⟩

end Btle.Client

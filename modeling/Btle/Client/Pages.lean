import Btle.Client.Database
import Btle.Client.Steps

namespace Btle.Client

section Reading

variable {whole before after : List UInt8}

theorem attGetU16_laid {whole : List UInt8} (before after : List UInt8) {value : UInt16} {ptr : Nat}
    (size : ptr = before.length)
    (laid : whole = before ++ attPutU16 value ++ after) :
    attGetU16 (some whole) ptr = .ok value := by
  subst size
  subst laid
  exact attGetU16_put before after value

theorem attGetU128_laid {whole : List UInt8} (before after : List UInt8) {value : BitVec 128}
    {ptr : Nat} (size : ptr = before.length)
    (laid : whole = before ++ attPutU128 value ++ after) :
    attGetU128 (some whole) ptr = .ok value := by
  subst size
  subst laid
  exact attGetU128_put before after value

theorem attributeInfoAt_encoded {format : UInt8} {info : AttributeInfo}
    (uniform : InFormat format info.type) (laid : whole = before ++ encodeInfo info ++ after) :
    attributeInfoAt (some whole) format before.length =
      .ok (info, before.length + (encodeInfo info).length) := by
  rcases info with ⟨handle, type⟩
  cases type with
  | unspec | uuid32 => exact absurd uniform not_false
  | uuid16 u16 =>
    have first : attGetU16 (some whole) before.length = .ok handle :=
      attGetU16_laid before (attPutU16 u16 ++ after) rfl (by simpa [encodeInfo, uuidBytes] using laid)
    have second : attGetU16 (some whole) (before.length + 2) = .ok u16 :=
      attGetU16_laid (before ++ attPutU16 handle) after (by simp)
        (by simpa [encodeInfo, uuidBytes] using laid)
    have short : format = attFindInfoRespFmt16Bit := uniform
    simp only [attributeInfoAt, first, attGetUuid16, second, short, if_pos, bind, Except.bind, pure,
      Except.pure, encodeInfo, uuidBytes, Option.getD_some, List.length_append, attPutU16_length,
      Nat.add_assoc]
  | uuid128 u128 =>
    have first : attGetU16 (some whole) before.length = .ok handle :=
      attGetU16_laid before (attPutU128 u128 ++ after) rfl
        (by simpa [encodeInfo, uuidBytes] using laid)
    have second : attGetU128 (some whole) (before.length + 2) = .ok u128 :=
      attGetU128_laid (before ++ attPutU16 handle) after (by simp)
        (by simpa [encodeInfo, uuidBytes] using laid)
    have long : format = attFindInfoRespFmt128Bit := uniform
    have other : ¬ format = attFindInfoRespFmt16Bit := by rw [long]; decide
    simp only [attributeInfoAt, first, attGetUuid128, second, if_neg other, bind, Except.bind, pure,
      Except.pure, encodeInfo, uuidBytes, Option.getD_some, List.length_append, attPutU16_length,
      attPutU128_length, Nat.add_assoc]

theorem handlesInfoAt_encoded {info : HandlesInfo}
    (laid : whole = before ++ encodeHandles info ++ after) :
    handlesInfoAt (some whole) before.length =
      .ok (info, before.length + (encodeHandles info).length) := by
  have first : attGetU16 (some whole) before.length = .ok info.handle :=
    attGetU16_laid before (attPutU16 info.groupEndHandle ++ after) rfl
      (by simpa [encodeHandles] using laid)
  have second : attGetU16 (some whole) (before.length + 2) = .ok info.groupEndHandle :=
    attGetU16_laid (before ++ attPutU16 info.handle) after (by simp)
      (by simpa [encodeHandles] using laid)
  simp only [handlesInfoAt, first, second, bind, Except.bind, pure, Except.pure, encodeHandles,
    List.length_append, attPutU16_length, Nat.add_assoc]

theorem groupAttributeDataAt_encoded {length : UInt8} {group : GroupAttributeData}
    (uniform : group.data.length + 4 = length.toNat)
    (laid : whole = before ++ encodeGroup group ++ after) :
    groupAttributeDataAt (some whole) length before.length =
      .ok (group, before.length + (encodeGroup group).length) := by
  have first : attGetU16 (some whole) before.length = .ok group.handle :=
    attGetU16_laid before (attPutU16 group.groupEndHandle ++ group.data ++ after) rfl
      (by simpa [encodeGroup] using laid)
  have second : attGetU16 (some whole) (before.length + 2) = .ok group.groupEndHandle :=
    attGetU16_laid (before ++ attPutU16 group.handle) (group.data ++ after) (by simp)
      (by simpa [encodeGroup] using laid)
  have copied := bytesAt_append
    (before ++ attPutU16 group.handle ++ attPutU16 group.groupEndHandle) group.data after
  have placed : before ++ attPutU16 group.handle ++ attPutU16 group.groupEndHandle ++ group.data ++
      after = whole := by simpa [encodeGroup] using laid.symm
  have offset : (before ++ attPutU16 group.handle ++ attPutU16 group.groupEndHandle).length =
      before.length + 2 + 2 := by simp
  have size : ((length.toNat : Int) - 4).toNat = group.data.length := by omega
  have sign : ¬ (length.toNat : Int) - 4 < 0 := by omega
  rw [placed, offset] at copied
  simp only [groupAttributeDataAt, first, second, memcpy, if_neg sign, size, copied, bind,
    Except.bind, pure, Except.pure, encodeGroup, List.length_append, attPutU16_length,
    Nat.add_assoc, Nat.reduceAdd]

def encodeData (entry : AttributeData) : List UInt8 := attPutU16 entry.handle ++ entry.data

theorem attributeDataAt_encoded {length : UInt8} {entry : AttributeData}
    (uniform : entry.data.length + 2 = length.toNat)
    (laid : whole = before ++ encodeData entry ++ after) :
    attributeDataAt (some whole) length before.length =
      .ok (entry, before.length + (encodeData entry).length) := by
  have first : attGetU16 (some whole) before.length = .ok entry.handle :=
    attGetU16_laid before (entry.data ++ after) rfl (by simpa [encodeData] using laid)
  have copied := bytesAt_append (before ++ attPutU16 entry.handle) entry.data after
  have placed : before ++ attPutU16 entry.handle ++ entry.data ++ after = whole := by
    simpa [encodeData] using laid.symm
  have offset : (before ++ attPutU16 entry.handle).length = before.length + 2 := by simp
  have size : ((length.toNat : Int) - 2).toNat = entry.data.length := by omega
  have sign : ¬ (length.toNat : Int) - 2 < 0 := by omega
  rw [placed, offset] at copied
  simp only [attributeDataAt, first, memcpy, if_neg sign, size, copied, bind, Except.bind, pure,
    Except.pure, encodeData, List.length_append, attPutU16_length, Nat.add_assoc]

theorem length_le_flatMap {α : Type} {encoded : α → List UInt8} {items : List α}
    (nonempty : ∀ item ∈ items, encoded item ≠ []) :
    items.length ≤ (items.flatMap encoded).length := by
  induction items with
  | nil => simp
  | cons item items ih =>
    have size := List.length_pos_iff.mpr (nonempty item (by simp))
    have rest := ih fun other member => nonempty other (by simp [member])
    rw [List.flatMap_cons, List.length_append, List.length_cons]
    omega

theorem encodeInfo_ne_nil (info : AttributeInfo) : encodeInfo info ≠ [] := by
  intro empty
  have size := congrArg List.length empty
  simp [encodeInfo] at size

theorem encodeHandles_ne_nil (info : HandlesInfo) : encodeHandles info ≠ [] := by
  intro empty
  have size := congrArg List.length empty
  simp [encodeHandles] at size

theorem encodeData_ne_nil (entry : AttributeData) : encodeData entry ≠ [] := by
  intro empty
  have size := congrArg List.length empty
  simp [encodeData] at size

theorem encodeGroup_ne_nil (group : GroupAttributeData) : encodeGroup group ≠ [] := by
  intro empty
  have size := congrArg List.length empty
  simp [encodeGroup] at size

theorem parseAttributeList_encoded (collected : List AttributeInfo) {format : UInt8}
    {list : List AttributeInfo} (uniform : ∀ info ∈ list, InFormat format info.type) :
    parseAttributeList collected (some (format :: list.flatMap encodeInfo))
      (format :: list.flatMap encodeInfo).length = .ok (collected ++ list) :=
  parseEntries_encoded [format] rfl (fun info _ => encodeInfo_ne_nil info)
    (fun info member _ _ laid => attributeInfoAt_encoded (uniform info member) laid) collected
    (Nat.le_succ_of_le (length_le_flatMap fun info _ => encodeInfo_ne_nil info))

theorem parseHandlesInformationList_encoded (collected list : List HandlesInfo) :
    parseHandlesInformationList collected (some (list.flatMap encodeHandles))
      (list.flatMap encodeHandles).length = .ok (collected ++ list) :=
  parseEntries_encoded [] rfl (fun info _ => encodeHandles_ne_nil info)
    (fun _ _ _ _ laid => handlesInfoAt_encoded laid) collected
    (length_le_flatMap fun info _ => encodeHandles_ne_nil info)

theorem parseAttributeDataList_encoded (collected : List AttributeData) {length : UInt8}
    {list : List AttributeData} (uniform : ∀ entry ∈ list, entry.data.length + 2 = length.toNat) :
    parseAttributeDataList collected (some (length :: list.flatMap encodeData))
      (length :: list.flatMap encodeData).length = .ok (collected ++ list) :=
  parseEntries_encoded [length] rfl (fun entry _ => encodeData_ne_nil entry)
    (fun entry member _ _ laid => attributeDataAt_encoded (uniform entry member) laid) collected
    (Nat.le_succ_of_le (length_le_flatMap fun entry _ => encodeData_ne_nil entry))

theorem parseGroupAttributeDataList_encoded (collected : List GroupAttributeData)
    {length : UInt8} {list : List GroupAttributeData}
    (uniform : ∀ group ∈ list, group.data.length + 4 = length.toNat) :
    parseGroupAttributeDataList collected (some (length :: list.flatMap encodeGroup))
      (length :: list.flatMap encodeGroup).length = .ok (collected ++ list) :=
  parseEntries_encoded [length] rfl (fun group _ => encodeGroup_ne_nil group)
    (fun group member _ _ laid => groupAttributeDataAt_encoded (uniform group member) laid) collected
    (Nat.le_succ_of_le (length_le_flatMap fun group _ => encodeGroup_ne_nil group))

end Reading

section Writing

theorem write_encodeRange {opcode : UInt8} {startHandle endHandle : UInt16} {buffer : List UInt8}
    {uuid : Option BtUuid} {value : Option (List UInt8)} (written : List UInt8)
    (known : uuid.map uuidBytes = none ∧ written = [] ∨ uuid.map uuidBytes = some (some written))
    (short : value ≠ none → written.length = 2)
    (fits : 5 + written.length + (value.getD []).length ≤ buffer.length) :
    Att.write (encodeRange opcode startHandle endHandle uuid buffer value) =
      .ok [.write (rangeHeader opcode startHandle endHandle ++ (written ++ value.getD []))] := by
  obtain ⟨rest, encoded⟩ :=
    encodeRange_fits opcode startHandle endHandle buffer known short fits
  have size : 5 + written.length + (value.getD []).length =
      (rangeHeader opcode startHandle endHandle ++ (written ++ value.getD [])).length := by
    simp [Nat.add_assoc]
  rw [List.append_assoc _ written] at encoded
  simp only [Att.write, encoded, bind, Except.bind, pure, Except.pure]
  rw [size, List.take_left]

variable {att : Att} {startHandle endHandle : UInt16}

theorem doFindInformation_writes
    (fits : (Discovery.findInformation.requestPdu startHandle endHandle).length ≤
      att.connection.getBuffer.length) :
    att.doFindInformation startHandle endHandle =
      .ok [.write (Discovery.findInformation.requestPdu startHandle endHandle)] :=
  write_encodeRange [] (.inl ⟨rfl, rfl⟩) (fun absent => absurd rfl absent)
    (by simpa [Discovery.requestPdu] using fits)

theorem doFindByType_writes {type : UInt16} {value : Option (List UInt8)}
    (fits : ((Discovery.findByTypeValue type value).requestPdu startHandle endHandle).length ≤
      att.connection.getBuffer.length) :
    att.doFindByType startHandle endHandle (.uuid16 type) value =
      .ok [.write ((Discovery.findByTypeValue type value).requestPdu startHandle endHandle)] :=
  write_encodeRange (attPutU16 type) (.inr rfl) (fun _ => attPutU16_length type)
    (by simp only [Discovery.requestPdu, List.length_append, rangeHeader_length,
          attPutU16_length] at fits ⊢
        omega)

theorem doReadByGroupType_writes {type : BtUuid} (known : type ≠ .unspec)
    (fits : ((Discovery.readByGroupType type).requestPdu startHandle endHandle).length ≤
      att.connection.getBuffer.length) :
    att.doReadByGroupType startHandle endHandle type =
      .ok [.write ((Discovery.readByGroupType type).requestPdu startHandle endHandle)] := by
  obtain ⟨written, encoded⟩ : ∃ written, uuidBytes type = some written := by
    cases type with
    | unspec => exact absurd rfl known
    | uuid16 | uuid32 | uuid128 => exact ⟨_, rfl⟩
  have writes : Att.write (encodeRange attOpReadByGroupReq startHandle endHandle (some type)
      att.connection.getBuffer none) =
        .ok [.write (rangeHeader attOpReadByGroupReq startHandle endHandle ++ (written ++ []))] :=
    write_encodeRange written (.inr (by rw [Option.map_some, encoded]))
      (fun absent => absurd rfl absent) (by simpa [Discovery.requestPdu, encoded] using fits)
  simpa [Att.doReadByGroupType, Discovery.requestPdu, Discovery.opcode, encoded] using writes

end Writing

end Btle.Client

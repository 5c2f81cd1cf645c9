import Btle.Library.Paging
import Btle.Client.Att

namespace Btle.Client

open Paging

def bluetoothBase : BitVec 128 := 0x0000000000001000800000805F9B34FB

def BtUuid.denotes : BtUuid → Option (BitVec 128)
  | .unspec => none
  | .uuid16 u16 => some (BitVec.ofNat 128 (u16.toNat * 2 ^ 96) + bluetoothBase)
  | .uuid32 u32 => some (BitVec.ofNat 128 (u32.toNat * 2 ^ 96) + bluetoothBase)
  | .uuid128 u128 => some u128

structure Attribute where
  handle : UInt16
  type : BitVec 128
  value : List UInt8
  groupEndHandle : UInt16
  deriving DecidableEq, Repr

def Attribute.key (attr : Attribute) : Nat := attr.handle.toNat

structure Database where
  attributes : List Attribute
  ascending : Ascending Attribute.key attributes

inductive Discovery
  | findInformation
  | findByTypeValue (type : UInt16) (value : Option (List UInt8))
  | readByGroupType (type : BtUuid)

namespace Discovery

def call (discovery : Discovery) (startHandle endHandle : UInt16) (data : Nat) : Call :=
  match discovery with
  | .findInformation => .findInformation startHandle endHandle data
  | .findByTypeValue type value => .findByTypeValue startHandle endHandle (.uuid16 type) value data
  | .readByGroupType type => .readByGroupType startHandle endHandle type data

def opcode : Discovery → UInt8
  | .findInformation => attOpFindInfoReq
  | .findByTypeValue .. => attOpFindByTypeReq
  | .readByGroupType _ => attOpReadByGroupReq

def requestPdu (discovery : Discovery) (startHandle endHandle : UInt16) : List UInt8 :=
  rangeHeader discovery.opcode startHandle endHandle ++
    match discovery with
    | .findInformation => []
    | .findByTypeValue type value => attPutU16 type ++ value.getD []
    | .readByGroupType type => (uuidBytes type).getD []

def selects (discovery : Discovery) (attr : Attribute) : Bool :=
  match discovery with
  | .findInformation => true
  | .findByTypeValue type value =>
    decide ((BtUuid.uuid16 type).denotes = some attr.type ∧ value.getD [] = attr.value)
  | .readByGroupType type => decide (type.denotes = some attr.type)

end Discovery

def Database.matching (database : Database) (discovery : Discovery)
    (startHandle endHandle : UInt16) : List Attribute :=
  window Attribute.key startHandle.toNat endHandle.toNat
    (database.attributes.filter discovery.selects)

def AttributeInfo.Shows (info : AttributeInfo) (attr : Attribute) : Prop :=
  info.handle = attr.handle ∧ info.type.denotes = some attr.type

def HandlesInfo.Shows (info : HandlesInfo) (attr : Attribute) : Prop :=
  info.handle = attr.handle ∧ info.groupEndHandle = attr.groupEndHandle

/-- Of a value an entry holds what the server has room for. -/
def GroupAttributeData.Shows (room : Nat) (group : GroupAttributeData) (attr : Attribute) : Prop :=
  group.handle = attr.handle ∧ group.groupEndHandle = attr.groupEndHandle ∧
    group.data = attr.value.take room

def Discovery.Lists (room : Nat) : Discovery → AttributeList → List Attribute → Prop
  | .findInformation, .infos list, found => List.Forall₂ AttributeInfo.Shows list found
  | .findByTypeValue .., .handles list, found => List.Forall₂ HandlesInfo.Shows list found
  | .readByGroupType _, .groups list, found =>
    List.Forall₂ (GroupAttributeData.Shows room) list found
  | _, _, _ => False

def encodeInfo (info : AttributeInfo) : List UInt8 :=
  attPutU16 info.handle ++ (uuidBytes info.type).getD []

def encodeHandles (info : HandlesInfo) : List UInt8 :=
  attPutU16 info.handle ++ attPutU16 info.groupEndHandle

def encodeGroup (group : GroupAttributeData) : List UInt8 :=
  attPutU16 group.handle ++ attPutU16 group.groupEndHandle ++ group.data

def InFormat (format : UInt8) : BtUuid → Prop
  | .uuid16 _ => format = attFindInfoRespFmt16Bit
  | .uuid128 _ => format = attFindInfoRespFmt128Bit
  | _ => False

/-- The well-formed responses to a discovery, with the entries they hold. -/
inductive Discovery.Encodes : Discovery → AttributeList → List UInt8 → Prop
  | infos (format : UInt8) (list : List AttributeInfo)
      (uniform : ∀ info ∈ list, InFormat format info.type) :
      Encodes .findInformation (.infos list)
        (attOpFindInfoResp :: format :: list.flatMap encodeInfo)
  | handles (type : UInt16) (value : Option (List UInt8)) (list : List HandlesInfo) :
      Encodes (.findByTypeValue type value) (.handles list)
        (attOpFindByTypeResp :: list.flatMap encodeHandles)
  | groups (type : BtUuid) (length : UInt8) (list : List GroupAttributeData)
      (uniform : ∀ group ∈ list, group.data.length + 4 = length.toNat) :
      Encodes (.readByGroupType type) (.groups list)
        (attOpReadByGroupResp :: length :: list.flatMap encodeGroup)

/-- What may be answered to a range request: a page from the front of what matches, or that
    nothing does. -/
inductive Answers (database : Database) (room : Nat) (discovery : Discovery)
    (startHandle endHandle : UInt16) : List UInt8 → Prop
  | page (page : List Attribute) (list : AttributeList) (pdu : List UInt8) (some_page : page ≠ [])
      (front : page <+: database.matching discovery startHandle endHandle)
      (lists : discovery.Lists room list page) (encoded : discovery.Encodes list pdu) :
      Answers database room discovery startHandle endHandle pdu
  | notFound (low high : UInt8)
      (nothing : database.matching discovery startHandle endHandle = []) :
      Answers database room discovery startHandle endHandle
        [attOpError, discovery.opcode, low, high, attEcodeAttrNotFound]

/-- What a server answers to a request, given the requests that it has answered before. -/
abbrev Server := List (List UInt8) → List UInt8 → List UInt8

def Server.Conforms (server : Server) (database : Database) (room : Nat) (discovery : Discovery) :
    Prop :=
  ∀ earlier startHandle endHandle, 1 ≤ startHandle → startHandle ≤ endHandle →
    Answers database room discovery startHandle endHandle
      (server earlier (discovery.requestPdu startHandle endHandle))

/-- The server answers what the client writes, one PDU at a time, until the client writes nothing
    more. The result is the state then and all effects on the way; `none` if fuel runs out. -/
def converse (server : Server) : Nat → List (List UInt8) → Att → List Effect → Option Result
  | 0, _, _, _ => none
  | fuel + 1, earlier, att, [.write request] =>
    match step att (.received (server earlier request)) with
    | .error fault => some (.error fault)
    | .ok (next, out) => converse server fuel (earlier ++ [request]) next out
  | _ + 1, earlier, att, out => some (.ok (att, earlier.map Effect.write ++ out))

def discover (server : Server) (fuel : Nat) (att : Att) (action : Call) : Option Result :=
  match step att (.call action) with
  | .error fault => some (.error fault)
  | .ok (next, out) => converse server fuel [] next out

end Btle.Client

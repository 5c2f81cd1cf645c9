import Btle.Library.Paging
import Btle.Server.Layout
import Btle.Server.UuidGrammar

namespace Btle.Gatt

open Server Server.Construction Paging

/-- An element of the list that `readByType` calls back with. -/
structure Entry where
  handle : Nat
  data : Buffer
  deriving DecidableEq, Repr

inductive Answer
  | error (errorCode : Nat)
  | list (list : List Entry)
  deriving DecidableEq, Repr

structure Service where
  handle : Nat
  groupEndHandle : Nat
  ordered : handle ≤ groupEndHandle

/-- A characteristic with the property byte that its constructor keeps. -/
structure Found where
  characteristic : Characteristic
  properties : Nat
  deriving DecidableEq, Repr

/-- `characteristics` is the list of the service itself, which the search pushes to. -/
structure Session where
  registry : Registry
  characteristics : List Found

inductive Callback
  | error (errorCode : Nat)
  | list (chars : List Found)
  deriving DecidableEq, Repr

abbrev Finding := EStateM JsError Session

def Finding.build {α : Type} (program : Build α) : Finding α := fun session =>
  match program.run session.registry with
  | .ok value registry => .ok value { session with registry }
  | .error thrown registry => .error thrown { session with registry }

def errorAttrNotFound : Nat := 0x0A

/-- The number of requests made before, and the range that is asked for. -/
abbrev ReadByType := Nat → Nat → Nat → Answer

section Search

variable (runtime : Runtime)

/-- `characteristic.create(item.handle, Properties.READ, uuidVal)`, pushed to the list. -/
def pushCharacteristic (item : Entry) (uuidVal : Option UuidRef) : Finding Unit := do
  match uuidVal with
  | none => throw (.typeError "UUID must be specified")
  | some ref =>
    let characteristic ← Finding.build
      (createCharacteristic runtime (.number item.handle) propertyRead (.object ref) .undefined [])
    modify fun session => { session with
      characteristics := session.characteristics ++ [⟨characteristic, propertyRead⟩] }

/-- `createChars` but for its recursion. The end handle that it is given is not used. -/
def createChars (uuid : Option UuidRef) (item : Entry) : Finding Unit := do
  let number ← Finding.build (Build.ofExcept (Buffer.readUInt16LE item.data 3))
  let uuidVal ← Finding.build (Construction.getUuidOf (.number number))
  if uuid = none ∨ uuidVal = uuid then pushCharacteristic runtime item uuidVal

/-- `processAttributes` and `createChars` in turn, until the list is empty. -/
def processAttributes (uuid : Option UuidRef) : List Entry → Finding (List Callback)
  | [] => do return [.list (← get).characteristics]
  | item :: attributes => do
    createChars runtime uuid item
    processAttributes uuid attributes

def typeOf (uuidIn : Option UuidValue) : Finding (Option UuidRef) :=
  match uuidIn with
  | none => return none
  | some value => if isFalsy value then return none else Finding.build (Construction.getUuidOf value)

/-- The callbacks that a search makes in so many turns, one for each response. -/
def getChars (readByType : ReadByType) (service : Service) (uuidIn : Option UuidValue) :
    Nat → Nat → Nat → List Entry → Finding (List Callback)
  | 0, _, _, _ => return []
  | turns + 1, asked, startHandle, attributes => do
    let type ← typeOf uuidIn
    match readByType asked startHandle service.groupEndHandle with
    | .error errorCode =>
      if errorCode = errorAttrNotFound then processAttributes runtime type attributes
      else return [.error errorCode]
    | .list list =>
      match list.getLast? with
      | none => throw (.typeError "Cannot read property 'handle' of undefined")
      | some last =>
        if last.handle < service.groupEndHandle then
          getChars readByType service uuidIn turns (asked + 1) (last.handle + 1) (attributes ++ list)
        else processAttributes runtime type (attributes ++ list)

def findCharacteristics (readByType : ReadByType) (service : Service) (uuidIn : Option UuidValue)
    (turns : Nat) : Finding (List Callback) :=
  getChars runtime readByType service uuidIn turns 0 service.handle []

end Search

structure Declaration where
  handle : Nat
  properties : UInt8
  valueHandle : Nat
  uuid : Buffer
  width : uuid.length = 2 ∨ uuid.length = 16

def Declaration.entry (declaration : Declaration) : Entry where
  handle := declaration.handle
  data := declaration.properties :: LittleEndian.bytes 2 declaration.valueHandle ++ declaration.uuid

/-- The declarations there are in the range of a service. -/
structure Declarations (service : Service) where
  list : List Declaration
  ascending : Ascending Declaration.handle list
  inside : ∀ declaration ∈ list,
    service.handle ≤ declaration.handle ∧ declaration.handle ≤ service.groupEndHandle

/-- A page from the front of what is in the range, or that nothing is. -/
def Answers (declarations : List Declaration) (startHandle endHandle : Nat) : Answer → Prop
  | .list list => ∃ page, page ≠ [] ∧
      page <+: window Declaration.handle startHandle endHandle declarations ∧
      list = page.map Declaration.entry
  | .error errorCode => errorCode = errorAttrNotFound ∧
      window Declaration.handle startHandle endHandle declarations = []

structure Peripheral {service : Service} (declarations : Declarations service) where
  readByType : ReadByType
  conforms : ∀ asked startHandle,
    service.handle ≤ startHandle → startHandle ≤ service.groupEndHandle →
    Answers declarations.list startHandle service.groupEndHandle
      (readByType asked startHandle service.groupEndHandle)

/-- The number of the UUID that a filter is. -/
def filterNumber (store : UuidStore) : UuidValue → Nat
  | .object ref => ((store.objects[ref]?).map fun uuid => uuidNumber uuid.longString).getD 0
  | value => value.input.denoted

def Declaration.number (declaration : Declaration) : Nat := (UuidInput.buffer declaration.uuid).denoted

def Declaration.Matches (declaration : Declaration) (store : UuidStore) (filter : Option UuidValue) :
    Prop :=
  ∀ value ∈ filter, declaration.number = filterNumber store value

instance (declaration : Declaration) (store : UuidStore) (filter : Option UuidValue) :
    Decidable (declaration.Matches store filter) :=
  inferInstanceAs (Decidable (∀ value ∈ filter, declaration.number = filterNumber store value))

/-- The characteristic has the properties and, as its `uuid`, a UUID object of the declaration. -/
def Found.Shows (registry : Registry) (found : Found) (declaration : Declaration) : Prop :=
  found.properties = declaration.properties.toNat ∧
    ∃ ref uuid, (registry.item found.characteristic.value).type = .given (.uuid ref) ∧
      registry.uuids.objects[ref]? = some uuid ∧ uuid.Represents declaration.number

/-- A search calls back once, with the characteristics of these declarations in their order. -/
def CallsBackWith (search : Nat → Finding (List Callback)) (enough : Nat) (wanted : List Declaration)
    (session next : Session) : Prop :=
  ∃ found, (∀ turns, enough < turns → (search turns).run session = .ok [.list found] next) ∧
    List.Forall₂ (Found.Shows next.registry) found wanted

/-- Two searches on one service find the same, which is every declaration that the filter matches. -/
def Finds (runtime : Runtime) {service : Service} (declarations : Declarations service)
    (first second : Peripheral declarations) (filter : Option UuidValue) (session : Session) : Prop :=
  let wanted := declarations.list.filter fun declaration =>
    declaration.Matches session.registry.uuids filter
  ∃ next last,
    CallsBackWith (findCharacteristics runtime first.readByType service filter)
      declarations.list.length wanted session next ∧
    CallsBackWith (findCharacteristics runtime second.readByType service filter)
      declarations.list.length wanted next last

end Btle.Gatt

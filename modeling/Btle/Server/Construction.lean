import Btle.Library.Throwing
import Btle.Server.Handlers

namespace Btle.Server.Construction

open Utf16

/-- What stands where a handle is expected. The constructors leave handles out, count on from them
    where they are missing, and pass other values in their place. -/
inductive Handle
  | undefined
  | nan
  | given (value : JsValue)
  deriving DecidableEq, Repr

/-- A number, or `NaN`. -/
abbrev Number := Option Nat

/-- An `Attribute` that is given any values for its handles and its type. -/
structure Item where
  handle : Handle
  type : Handle
  value : Option Buffer
  endHandle : Handle
  properties : Nat
  listeners : List Listener
  writeCallback : Bool
  deriving DecidableEq, Repr

def Item.blank : Item where
  handle := .undefined
  type := .undefined
  value := none
  endHandle := .undefined
  properties := 0
  listeners := []
  writeCallback := false

/-- What the constructors work on: the elements of the array `handles` and its other properties, the
    attributes, and the UUIDs. -/
structure Registry where
  slots : List (Option AttrRef)
  named : List (Text × AttrRef)
  item : AttrRef → Item
  allocated : Nat
  uuids : UuidStore

abbrev Build := EStateM JsError Registry

/-- What JavaScript makes of a value that is used as a key, or as the start of a `splice`, and which
    properties any array has. -/
structure Runtime extends Host where
  text : JsValue → Text
  start : JsValue → Nat
  arrayHas : Text → Bool

inductive Key
  | index (i : Nat)
  | name (name : Text)
  deriving DecidableEq, Repr

def Build.ofExcept {α : Type} : Except JsError α → Build α
  | .ok value => pure value
  | .error thrown => throw thrown

def Registry.setItem (registry : Registry) (ref : AttrRef) (item : Item) : Registry :=
  { registry with item := Function.update registry.item ref item }

def changeItem (ref : AttrRef) (change : Item → Item) : Build Unit :=
  modify fun registry => registry.setItem ref (change (registry.item ref))

def truthy : JsValue → Bool
  | .null | .number 0 | .string [] => false
  | _ => true

def Handle.truthy : Handle → Bool
  | .undefined | .nan => false
  | .given value => Construction.truthy value

def Handle.ofNumber : Number → Handle
  | none => .nan
  | some value => .given (.number value)

/-- `handle + offset`; handles that are counted on from are numbers or missing. -/
def Handle.plus (handle : Handle) (offset : Nat) : Number :=
  match handle with
  | .given .null => some offset
  | .given (.number value) => some (value + offset)
  | .undefined | .nan | .given _ => none

/-- `handle && handle + offset`. -/
def Handle.andPlus (handle : Handle) (offset : Nat) : Handle :=
  if handle.truthy then .ofNumber (handle.plus offset) else handle

/-- A text that is how a number is written is the key of an element. -/
def Key.ofText (text : Text) : Key :=
  let i := text.foldl (fun i digit => 10 * i + (digit.toNat - 0x30)) 0
  if ofChars (Nat.toDigits 10 i) = text then .index i else .name text

/-- `UUID.prototype.toString`; a missing short string is the key `undefined`. -/
def uuidText (uuids : UuidStore) (ref : UuidRef) : Except JsError Text :=
  match uuids.objects[ref]? with
  | none => .error (.typeError "Cannot read property 'length' of undefined")
  | some uuid =>
    match uuid.buffer with
    | none => .error (.typeError "Cannot read property 'length' of undefined")
    | some buffer =>
      .ok (if buffer.length = 16 then uuid.longString
        else uuid.shortString.getD (ofString "undefined"))

section Handles

variable (runtime : Runtime)

def keyOf (uuids : UuidStore) : JsValue → Except JsError Key
  | .number value => .ok (.index value)
  | .uuid ref => do return Key.ofText (← uuidText uuids ref)
  | value => .ok (Key.ofText (runtime.text value))

/-- Whether `handles[key]` is something already. -/
def Registry.has (registry : Registry) : Key → Bool
  | .index i => (slotAt registry.slots i).isSome
  | .name name => runtime.arrayHas name || (registry.named.lookup name).isSome

def Registry.enter (registry : Registry) (ref : AttrRef) : Key → Registry
  | .index i => { registry with slots := setSlot registry.slots i ref }
  | .name name =>
    { registry with named := (name, ref) :: registry.named.filter fun entry => entry.1 ≠ name }

/-- A value that is no number makes a string of the sum, which is its own hexadecimal. -/
def printKey : JsValue → String
  | .number value => printHandle value
  | _ => "0x5536"

def Registry.spliced (registry : Registry) : Handle → Registry
  | .undefined | .given .null => registry
  | .nan => { registry with slots := registry.slots.eraseIdx 0 }
  | .given (.number old) => { registry with slots := registry.slots.eraseIdx old }
  | .given old => { registry with slots := registry.slots.eraseIdx (runtime.start old) }

section Projections

variable {runtime : Runtime} {registry : Registry} {ref : AttrRef}

@[simp] theorem spliced_item (handle : Handle) :
    (registry.spliced runtime handle).item = registry.item := by
  unfold Registry.spliced
  split <;> rfl

@[simp] theorem spliced_allocated (handle : Handle) :
    (registry.spliced runtime handle).allocated = registry.allocated := by
  unfold Registry.spliced
  split <;> rfl

@[simp] theorem spliced_uuids (handle : Handle) :
    (registry.spliced runtime handle).uuids = registry.uuids := by
  unfold Registry.spliced
  split <;> rfl

@[simp] theorem enter_item (key : Key) : (registry.enter ref key).item = registry.item := by
  cases key <;> rfl

@[simp] theorem enter_allocated (key : Key) :
    (registry.enter ref key).allocated = registry.allocated := by
  cases key <;> rfl

@[simp] theorem enter_uuids (key : Key) : (registry.enter ref key).uuids = registry.uuids := by
  cases key <;> rfl

end Projections

/-- The setter of `handle`. -/
def setHandle (ref : AttrRef) (handle : Handle) : Build Unit := do
  match handle with
  | .undefined | .nan => pure ()
  | .given value =>
    if truthy value then
      let registry ← get
      let key ← Build.ofExcept (keyOf runtime registry.uuids value)
      if registry.has runtime key then
        throw (.typeError s!"Attribute with handle {printKey value} already exists")
      modify fun registry => registry.spliced runtime (registry.item ref).handle
      modify fun registry => registry.enter ref key
  changeItem ref fun item => { item with handle }

/-- The setter of `value`, for an attribute nobody listens to yet. -/
def setValue (ref : AttrRef) : JsValue → Build Unit
  | .null => return
  | .uuid uuid => keep fun registry => registry.uuids.objects[uuid]?.bind Uuid.buffer
  | .buffer bytes => keep fun _ => some bytes
  | .string utf8 => keep fun _ => some utf8
  | .number value => keep fun _ => some [UInt8.ofNat value]
  | .array elements => keep fun _ => some (elements.map UInt8.ofNat)
  | .other name => throw (.typeError ("Unknown value type \"" ++ name ++ "\""))
where
  keep (bytes : Registry → Option Buffer) : Build Unit :=
    modify fun registry => registry.setItem ref { registry.item ref with value := bytes registry }

def newAttribute (handle type : Handle) (value : JsValue) (endHandle : Handle) : Build AttrRef := do
  let ref := (← get).allocated
  modify fun registry => { registry.setItem ref .blank with allocated := ref + 1 }
  setHandle runtime ref handle
  changeItem ref fun item => { item with type }
  setValue ref value
  changeItem ref fun item => { item with endHandle }
  return ref

def createAttribute (type : Handle) (value : JsValue) (handle endHandle : Handle) : Build AttrRef := do
  let ref ← newAttribute runtime handle type value (if endHandle.truthy then endHandle else handle)
  match handle with
  | .undefined | .nan => pure ()
  | .given value =>
    if truthy value then
      let key ← Build.ofExcept (keyOf runtime (← get).uuids value)
      modify fun registry => registry.enter ref key
  return ref

end Handles

/-- The numbers that `gatt` makes UUIDs of as it is loaded. -/
def gattNumbers : List Nat :=
  [0x1800, 0x1801, 0x180A, 0x2800, 0x2801, 0x2802, 0x2803, 0x2900, 0x2901, 0x2902, 0x2903, 0x2904,
    0x2905, 0x2A00, 0x2A01, 0x2A02, 0x2A03, 0x2A04, 0x2A05, 0x2A23, 0x2A24, 0x2A25, 0x2A26, 0x2A27,
    0x2A28, 0x2A29, 0x2A2A, 0x2A50]

/-- Each number makes one more object. -/
def gattUuid (number : Nat) : UuidRef := gattNumbers.idxOf number

def serviceGap : UuidRef := gattUuid 0x1800
def serviceGatt : UuidRef := gattUuid 0x1801
def serviceDeviceInfo : UuidRef := gattUuid 0x180A
def typePrimaryService : UuidRef := gattUuid 0x2800
def typeCharacteristic : UuidRef := gattUuid 0x2803
def charDeviceName : UuidRef := gattUuid 0x2A00
def charAppearance : UuidRef := gattUuid 0x2A01
def charPeripheralPrivacyFlag : UuidRef := gattUuid 0x2A02
def charReconnectionAddress : UuidRef := gattUuid 0x2A03
def charPeripheralPreferConnParams : UuidRef := gattUuid 0x2A04
def charServiceChanged : UuidRef := gattUuid 0x2A05
def charSystemId : UuidRef := gattUuid 0x2A23
def charModelNumberString : UuidRef := gattUuid 0x2A24
def charSerialNumberString : UuidRef := gattUuid 0x2A25
def charFirmwareRevisionString : UuidRef := gattUuid 0x2A26
def charHardwareRevisionString : UuidRef := gattUuid 0x2A27
def charSoftwareRevisionString : UuidRef := gattUuid 0x2A28
def charManufacturerNameString : UuidRef := gattUuid 0x2A29
def charRegCertDataList : UuidRef := gattUuid 0x2A2A
def charPnpId : UuidRef := gattUuid 0x2A50

def loadUuids : List Nat → UuidStore → Except JsError UuidStore
  | [], uuids => .ok uuids
  | number :: rest, uuids => do
    let (uuids, _) ← getUuid uuids (.number number)
    loadUuids rest uuids

/-- Where a program starts that has loaded the modules. -/
def Registry.loaded : Registry where
  slots := []
  named := []
  item _ := .blank
  allocated := 0
  uuids := (loadUuids gattNumbers .empty).toOption.getD .empty

/-- A handle as the constructors of services and characteristics take it. -/
inductive Position
  | undefined
  | null
  | number (value : Nat)
  deriving DecidableEq, Repr

def Position.handle : Position → Handle
  | .undefined => .undefined
  | .null => .given .null
  | .number value => .given (.number value)

def propertyRead : Nat := 0x02
def propertyIndicate : Nat := 0x20

def getUuidOf (value : UuidValue) : Build (Option UuidRef) := do
  let (uuids, uuid) ← Build.ofExcept (getUuid (← get).uuids value)
  modify fun registry => { registry with uuids }
  return uuid

/-- `writeUInt16LE(value, offset)` with a number that may be `NaN`. -/
def writeNumber (buffer : Buffer) (value : Number) (offset : Nat) : Except JsError Buffer :=
  match value with
  | some value => Buffer.writeUInt16LE buffer (some value) offset
  | none =>
    if offset + 1 < buffer.length then
      .error (.assertionError "specified a negative value for writing an unsigned value")
    else .error (.assertionError "trying to write beyond buffer length")

structure Characteristic where
  declaration : AttrRef
  value : AttrRef
  descriptors : List AttrRef
  endHandle : Handle
  deriving DecidableEq, Repr

def Characteristic.attributes (characteristic : Characteristic) : List AttrRef :=
  characteristic.declaration :: characteristic.value :: characteristic.descriptors

structure Service where
  uuid : Option UuidRef
  declaration : AttrRef
  characteristics : List Characteristic
  endHandle : Number
  deriving DecidableEq, Repr

def Service.getAttributes (service : Service) : List AttrRef :=
  service.declaration :: service.characteristics.flatMap Characteristic.attributes

section Constructors

variable (runtime : Runtime)

def isFalsy : UuidValue → Bool
  | .string value => value.units.isEmpty
  | .number 0 => true
  | _ => false

/-- What the declaration of a characteristic is meant to hold. -/
def declarationValue (number : Nat) (handle : Handle) (properties : Nat) (uuid : Buffer) :
    Except JsError Buffer := do
  let declValue := (runtime.newBuffer number (uuid.length + 3)).set 0 (UInt8.ofNat properties)
  let declValue ←
    if handle.truthy then writeNumber declValue (handle.plus 1) 1 else pure declValue
  Buffer.copy uuid declValue 3 uuid.length

def describe (handle : Handle) (offset : Nat) : List AttrRef → Build Unit
  | [] => return
  | descriptor :: rest => do
    setHandle runtime descriptor (handle.andPlus offset)
    changeItem descriptor fun item => { item with properties := propertyRead }
    describe handle (offset + 1) rest

/-- The constructor `Characteristic`. It gives `createAttribute` the handle where the type goes, the
    type where the value goes and the value where the handle goes. -/
def createCharacteristic (position : Position) (properties : Nat) (uuid : UuidValue)
    (value : Handle) (descriptors : List AttrRef) : Build Characteristic := do
  let handle := position.handle
  if properties = 0 then throw (.typeError "Properties must be specified")
  if isFalsy uuid then throw (.typeError "UUID must be specified")
  let endHandle : Handle :=
    if handle.truthy then .ofNumber (handle.plus (1 + descriptors.length)) else .undefined
  match ← getUuidOf uuid with
  | none => throw (.typeError "Cannot call method 'length' of null")
  | some uuid =>
    match (← get).uuids.objects[uuid]?.bind Uuid.buffer with
    | none => throw (.typeError "Cannot read property 'length' of undefined")
    | some bytes =>
      let declValue ← Build.ofExcept
        (declarationValue runtime (← get).allocated handle properties bytes)
      let declaration ← createAttribute runtime handle (.uuid typeCharacteristic)
        (.given (.buffer declValue)) endHandle
      changeItem declaration fun item => { item with properties := propertyRead }
      let valAttr ← createAttribute runtime (handle.andPlus 1) (.uuid uuid) value .undefined
      changeItem valAttr fun item => { item with
        properties
        listeners := item.listeners ++ [.reemit]
        writeCallback := properties &&& (propertyWrite ||| propertyWriteWithoutResp) ≠ 0 }
      describe runtime handle 2 descriptors
      return ⟨declaration, valAttr, descriptors, endHandle⟩

def placeAttributes (handle : Number) (offset : Nat) : List AttrRef → Build Unit
  | [] => return
  | ref :: rest => do
    setHandle runtime ref (.ofNumber (handle.map (· + offset)))
    placeAttributes handle (offset + 1) rest

/-- `Characteristic.prototype.setHandle`. -/
def Characteristic.setHandle (characteristic : Characteristic) (handle : Number) :
    Build Characteristic := do
  match ((← get).item characteristic.declaration).value with
  | none => throw (.typeError "Cannot call method 'writeUInt16LE' of undefined")
  | some bytes =>
    let bytes ← Build.ofExcept (writeNumber bytes (handle.map (· + 1)) 1)
    changeItem characteristic.declaration fun item => { item with value := some bytes }
    placeAttributes runtime handle 0 characteristic.attributes
    let endHandle := Handle.ofNumber (handle.map (· + (characteristic.attributes.length - 1)))
    changeItem characteristic.declaration fun item => { item with endHandle }
    return { characteristic with endHandle }

def placeCharacteristics (handle : Number) :
    List Characteristic → Build (List Characteristic × Number)
  | [] => return ([], handle)
  | characteristic :: rest => do
    let characteristic ← characteristic.setHandle runtime handle
    let (rest, last) ← placeCharacteristics (characteristic.endHandle.plus 1) rest
    return (characteristic :: rest, last)

/-- The constructor `Service`. It counts the included services, and gives them no handle: the one it
    has for each becomes a property of their array. It also gives `createAttribute` the handle where
    the type goes, the type where the value goes and the value, its UUID, where the handle goes. -/
def newService (position : Position) (serviceUuid : UuidValue) (includes : Nat)
    (characteristics : List Characteristic) : Build Service := do
  let handle := position.handle
  let uuid ← getUuidOf serviceUuid
  let declaration ← createAttribute runtime handle (.uuid typePrimaryService)
    (.given (uuid.elim .null .uuid)) .undefined
  let myHandle := (handle.plus 1).map (· + includes)
  let (characteristics, endHandle) ← placeCharacteristics runtime myHandle characteristics
  changeItem declaration fun item => { item with endHandle := .ofNumber endHandle }
  return ⟨uuid, declaration, characteristics, endHandle⟩

/-- `Service.create` with no includes. -/
def createService (position : Position) (serviceUuid : UuidValue)
    (characteristics : List Characteristic) : Build Service :=
  newService runtime position serviceUuid 0 characteristics

def createGattService (start stop : Option Nat) : Build Service := do
  let data := runtime.newBuffer (← get).allocated 4
  let data ← Build.ofExcept (Buffer.writeUInt16LE data (some (start.getD 0)) 0)
  let data ← Build.ofExcept (Buffer.writeUInt16LE data (some (stop.getD 0)) 2)
  let serviceChanged ← createCharacteristic runtime (.number 0x02) propertyIndicate
    (.object charServiceChanged) (.given (.buffer data)) []
  createService runtime (.number 0x01) (.object serviceGatt) [serviceChanged]

def reconnectionAddress : Buffer := "00:00:00:00:00:00".toList.map fun c => UInt8.ofNat c.toNat

def createGapService (deviceName : JsValue) (appearance ppf : Option Nat)
    (reconnAddr : Option Buffer) (ppcp : Option JsValue) : Build Service := do
  if !truthy deviceName then throw (.typeError "Device name is mandatory")
  match deviceName with
  | .string _ | .buffer _ => pure ()
  | _ => throw (.typeError "Device name must be a string or a buffer")
  let appearance := JsValue.number (appearance.getD 0x00)
  let characteristic (position : Nat) (uuid : UuidRef) (value : JsValue) :=
    createCharacteristic runtime (.number position) propertyRead (.object uuid) (.given value) []
  let name ← characteristic 0x02 charDeviceName deviceName
  let look ← characteristic 0x03 charAppearance appearance
  let privacy ← characteristic 0x04 charPeripheralPrivacyFlag (.number (ppf.getD 0x00))
  let address ← characteristic 0x05 charReconnectionAddress
    (.string (reconnAddr.getD reconnectionAddress))
  -- the value of the preferred connection parameters is the appearance
  let params ←
    match ppcp with
    | none => pure []
    | some _ => do pure [← characteristic 0x06 charPeripheralPreferConnParams appearance]
  createService runtime (.number 0x01) (.object serviceGap) ([name, look, privacy, address] ++ params)

/-- The second argument of `Peripheral`: nothing, an array, which stands for the services, or
    another value. -/
inductive Options
  | missing
  | services (services : List Service)
  | object
  deriving DecidableEq, Repr

/-- Whether the service at a place of the list has another UUID, or there is none. -/
def lacks (services : List Service) (place : Nat) (uuid : UuidRef) : Bool :=
  match services[place]? with
  | none => true
  | some service => service.uuid ≠ some uuid

/-- `Peripheral(name, services)` stands for `Peripheral(name, null, services)`. -/
def shiftServices : Options → Option (List Service) → Options × Option (List Service)
  | .services given, none => (.missing, some given)
  | options, services => (options, services)

end Constructors

section Peripherals

variable (createGatt : Build Service) (createGap : JsValue → Build Service)

/-- What `Peripheral` does to make sure there are a GATT and a GAP service, with no options, for
    whatever creates these two. -/
def completeWith (name : JsValue) (services : List Service) : Build (List Service) := do
  let services ←
    if services.length < 2 || lacks services 1 serviceGatt then do
      pure ((← createGatt) :: services)
    else pure services
  if services.length = 0 || lacks services 0 serviceGap then do
    pure ((← createGap name) :: services)
  else pure services

/-- The constructor `Peripheral`, as far as it returns its services. `typeof` never gives `Object`, so
    that no options are accepted, and nothing calls the `setHandle` of a service. -/
def createPeripheralWith (name : JsValue) (options : Options) (services : Option (List Service)) :
    Build (List Service) := do
  let (options, services) := shiftServices options services
  if !truthy name then throw (.typeError "Device name must be specified")
  match name with
  | .string _ | .buffer _ => pure ()
  | _ => throw (.typeError "Device name must be a string or buffer")
  if options ≠ .missing then throw (.typeError "Options must be an object")
  match services with
  | none => throw (.typeError "Cannot read property 'length' of undefined")
  | some services => completeWith createGatt createGap name services

end Peripherals

def createPeripheral (runtime : Runtime) :
    JsValue → Options → Option (List Service) → Build (List Service) :=
  createPeripheralWith (createGattService runtime none none)
    fun name => createGapService runtime name none none none none

end Btle.Server.Construction

import Btle.Server.World

namespace Btle.Server

/-- The setter of `handle`. The old slot goes by `splice`, the number 0 counts as no handle. -/
def setHandle (ref : AttrRef) (handle : Option Nat) : Js Unit := do
  match handle with
  | none | some 0 => pure ()
  | some (n + 1) =>
    let world ← get
    if (slotAt world.handles (n + 1)).isSome then
      throw (.typeError s!"Attribute with handle {printHandle (n + 1)} already exists")
    match (world.attrib ref).handle with
    | some old => modify fun world => { world with handles := world.handles.eraseIdx old }
    | none => pure ()
    modify fun world => { world with handles := setSlot world.handles (n + 1) ref }
  modify fun world => world.setAttribute ref { world.attrib ref with handle }

/-- A value that JavaScript passes for one of an attribute. Numbers and the elements of an array are
    natural; negative ones and those with a fraction are left out. -/
inductive JsValue
  | null
  | uuid (ref : UuidRef)
  | buffer (bytes : Buffer)
  | string (utf8 : Buffer)
  | number (value : Nat)
  | array (elements : List Nat)
  | other (constructorName : String)
  deriving DecidableEq, Repr

def sendValue (host : Host) (opcode : UInt8) (ref : AttrRef) (central : CentralRef) : Js Unit := do
  let world ← get
  let attrib := world.attrib ref
  match host.freeValue attrib with
  | none => throw (.referenceError "value is not defined")
  | some value =>
    let fits := value.length + 3 ≤ world.mtuSize.toNat
    let size := if fits then value.length + 3 else world.mtuSize.toNat
    let valueSize : Int := if fits then value.length else world.mtuSize.toNat - 3
    let pdu := (host.newBuffer world.sent.length size).set 0 opcode
    let pdu ← Js.ofExcept (Buffer.writeUInt16LE pdu attrib.handle 1)
    match attrib.value with
    | none => throw (.typeError "Cannot call method 'copy' of undefined")
    | some bytes =>
      let pdu ← Js.ofExcept (Buffer.copy bytes pdu 3 valueSize)
      Central.write central pdu

def opHandleNotify : UInt8 := 0x1B
def opHandleIndicate : UInt8 := 0x1D

def notify (host : Host) (ref : AttrRef) (central : CentralRef) : Js Unit :=
  sendValue host opHandleNotify ref central

/-- Nothing is sent before the last indication is confirmed. -/
def indicate (host : Host) (ref : AttrRef) (central : CentralRef) : Js Unit := do
  if ((← get).central central).waitingForConfirmation then return
  sendValue host opHandleIndicate ref central
  modify fun world => world.setCentral central { world.central central with waitingForConfirmation := true }

/-- What the application does with a value is its own; it does not assign one. -/
def callApplication (host : Host) (number : Nat) (ref : AttrRef) : Js Unit := do
  match host.application number ((← get).attrib ref) with
  | none => pure ()
  | some thrown => throw thrown

/-- One listener of `valueChanged`, given what the emission inside of it comes to. -/
def callListener (host : Host) (ref : AttrRef) (again : Js Unit) : Listener → Js Unit
  | .reemit => again
  | .application number => callApplication host number ref
  | .notification _ central => notify host ref central
  | .indication _ central => indicate host ref central

def callListeners (host : Host) (ref : AttrRef) (again : Js Unit) : Js Unit := do
  let listeners := ((← get).attrib ref).listeners
  listeners.forM (callListener host ref again)

/-- `emit('valueChanged', this)`; so many emissions may nest in this one. -/
def emitValueChanged (host : Host) (ref : AttrRef) : Nat → Js Unit
  | 0 => callListeners host ref (throw (.rangeError "Maximum call stack size exceeded"))
  | depth + 1 => callListeners host ref (emitValueChanged host ref depth)

/-- The setter of `value`. A UUID's buffer may be missing, and then so is the value. -/
def setValue (host : Host) (ref : AttrRef) (value : JsValue) : Js Unit := do
  match value with
  | .null => return
  | .uuid uuid => keep fun world => world.uuids.objects[uuid]?.bind Uuid.buffer
  | .buffer bytes => keep fun _ => some bytes
  | .string utf8 => keep fun _ => some utf8
  | .number value => keep fun _ => some [UInt8.ofNat value]
  | .array elements => keep fun _ => some (elements.map UInt8.ofNat)
  | .other name => throw (.typeError ("Unknown value type \"" ++ name ++ "\""))
  emitValueChanged host ref host.stack
where
  keep (bytes : World → Option Buffer) : Js Unit :=
    modify fun world => world.setAttribute ref { world.attrib ref with value := bytes world }

def newAttribute (host : Host) (handle : Option Nat) (type : Option UuidRef) (value : JsValue)
    (endHandle : Option Nat) : Js AttrRef := do
  let ref := (← get).allocated
  modify fun world => { world.setAttribute ref .blank with allocated := ref + 1 }
  setHandle ref handle
  modify fun world => world.setAttribute ref { world.attrib ref with type }
  setValue host ref value
  modify fun world => world.setAttribute ref { world.attrib ref with endHandle }
  return ref

/-- `createAttribute`. The array `attributes` that it also fills is never read. -/
def createAttribute (host : Host) (type : Option UuidRef) (value : JsValue)
    (handle endHandle : Option Nat) : Js AttrRef := do
  let ref ← newAttribute host handle type value (if endHandle.getD 0 = 0 then handle else endHandle)
  match handle with
  | none | some 0 => pure ()
  | some (n + 1) => modify fun world => { world with handles := setSlot world.handles (n + 1) ref }
  return ref

/-- A listener made now, told apart from all there were. -/
def stampOf (attrib : Attribute) : Nat :=
  attrib.listeners.foldl (fun stamp listener =>
    match listener with
    | .reemit | .application _ => stamp
    | .notification used _ | .indication used _ => max stamp (used + 1)) 0

def enableNotifications (host : Host) (ref : AttrRef) (central : CentralRef) : Js Unit := do
  let attrib := (← get).attrib ref
  if attrib.indicationListener.isSome then
    throw (.error "Cannot enable notifications and indications on the same attribute")
  let listener := Listener.notification (stampOf attrib) central
  modify fun world => world.setAttribute ref
    { attrib with
      notificationListener := some listener, listeners := attrib.listeners ++ [listener] }
  notify host ref central

def disableNotifications (ref : AttrRef) : Js Unit := do
  let attrib := (← get).attrib ref
  match attrib.notificationListener with
  | none => pure ()
  | some listener =>
    modify fun world => world.setAttribute ref
      { attrib with
        notificationListener := none, listeners := attrib.listeners.erase listener }

def enableIndications (host : Host) (ref : AttrRef) (central : CentralRef) : Js Unit := do
  let attrib := (← get).attrib ref
  if attrib.notificationListener.isSome then
    throw (.error "Cannot enable notifications and indications on the same attribute")
  let listener := Listener.indication (stampOf attrib) central
  modify fun world => world.setAttribute ref
    { attrib with
      indicationListener := some listener, listeners := attrib.listeners ++ [listener] }
  indicate host ref central

def disableIndications (ref : AttrRef) : Js Unit := do
  let attrib := (← get).attrib ref
  match attrib.indicationListener with
  | none => pure ()
  | some listener =>
    modify fun world => world.setAttribute ref
      { attrib with
        indicationListener := none, listeners := attrib.listeners.erase listener }

end Btle.Server

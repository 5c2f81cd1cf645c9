import Mathlib.Logic.Function.Basic
import Btle.Server.Uuid

namespace Btle.Server

open Utf16

abbrev AttrRef := Nat
abbrev CentralRef := Nat

/-- A listener on `valueChanged`. The first kind is what a characteristic installs on its value:
    the `this.emit` in it emits on the same attribute. The second is the application's own. A listener
    made anew is another function object, which the stamp tells apart. -/
inductive Listener
  | reemit
  | application (number : Nat)
  | notification (stamp : Nat) (central : CentralRef)
  | indication (stamp : Nat) (central : CentralRef)
  deriving DecidableEq, Repr

/-- An `Attribute` with its getters' fields; an absent one is `undefined` or `null`. Of its
    `writeCallback` it is told whether there is one. -/
structure Attribute where
  handle : Option Nat
  type : Option UuidRef
  value : Option Buffer
  endHandle : Option Nat
  properties : Nat
  listeners : List Listener
  notificationListener : Option Listener
  indicationListener : Option Listener
  writeCallback : Bool
  deriving DecidableEq, Repr

def Attribute.blank : Attribute where
  handle := none
  type := none
  value := none
  endHandle := none
  properties := 0
  listeners := []
  notificationListener := none
  indicationListener := none
  writeCallback := false

/-- A `CentralInterface`. Its `mtu` only ever takes 16-bit values. -/
structure Central where
  mtu : UInt16
  waitingForConfirmation : Bool
  deriving DecidableEq, Repr

def defaultMtu : UInt16 := 23

/-- What is emitted with `remoteError`: an `Error` with these properties, `undefined` where the PDU
    is too short. -/
structure RemoteError where
  opcode : Option UInt8
  handle : Nat
  errCode : Option UInt8
  deriving DecidableEq, Repr

/-- What the handlers read and write: the variables of the module `att`, the objects it works on,
    the PDUs given to the sockets of the centrals, the errors these reported, and the attributes whose
    `writeCallback` was called. -/
structure World where
  mtuSize : UInt16
  handles : List (Option AttrRef)
  attrib : AttrRef → Attribute
  allocated : Nat
  central : CentralRef → Central
  uuids : UuidStore
  sent : List (CentralRef × Buffer)
  remoteErrors : List (CentralRef × RemoteError)
  writeCalls : List AttrRef

def World.initial : World where
  mtuSize := defaultMtu
  handles := []
  attrib _ := .blank
  allocated := 0
  central _ := ⟨0, false⟩
  uuids := .empty
  sent := []
  remoteErrors := []
  writeCalls := []

/-- What the program takes from around it: `btle.debug()`, what the free name `value` in the
    notification listeners denotes when an attribute changes (if anything), what a listener of the
    application throws when it is called with the attribute (if anything), how deep calls may nest,
    and the bytes a new buffer happens to hold, by its number and by place. A PDU has the number of
    those sent before it, any other buffer that of the attributes or the structures made before it. -/
structure Host where
  debug : Bool
  freeValue : Attribute → Option Buffer
  application : Nat → Attribute → Option JsError
  stack : Nat
  garbage : Nat → Nat → UInt8

def plainHost : Host where
  debug := false
  freeValue _ := none
  application _ _ := none
  stack := 100
  garbage _ _ := 0

/-- JavaScript that may throw; what it did before stays done. -/
abbrev Js := EStateM JsError World

def Js.ofExcept {α : Type} : Except JsError α → Js α
  | .ok value => pure value
  | .error thrown => throw thrown

def Host.newBuffer (host : Host) (number size : Nat) : Buffer :=
  (List.range size).map (host.garbage number)

def World.setAttribute (world : World) (ref : AttrRef) (attrib : Attribute) : World :=
  { world with attrib := Function.update world.attrib ref attrib }

def World.setCentral (world : World) (ref : CentralRef) (central : Central) : World :=
  { world with central := Function.update world.central ref central }

/-- `handles[i]`, where a hole counts as nothing. -/
def slotAt (handles : List (Option AttrRef)) (i : Nat) : Option AttrRef := handles[i]?.join

/-- `handles[i] = attribute`, which may leave a gap before it. -/
def setSlot (handles : List (Option AttrRef)) (i : Nat) (ref : AttrRef) : List (Option AttrRef) :=
  if i < handles.length then handles.set i (some ref)
  else handles ++ List.replicate (i - handles.length) none ++ [some ref]

def printHandle (num : Nat) : String :=
  "0x" ++ printed (upperText ((Hex.ofNat (num + 2 ^ 16)).reverse.take 4).reverse)

def overlong (len mtu : Nat) : JsError :=
  .typeError s!"Data length of {len} is greater than MTU value of {mtu}"

/-- `Central::Write`. An overlong PDU throws, and is written all the same. -/
def Central.write (central : CentralRef) (pdu : Buffer) : Js Unit := do
  modify fun world => { world with sent := world.sent ++ [(central, pdu)] }
  let mtu := ((← get).central central).mtu
  if mtu.toNat < pdu.length then
    throw (overlong pdu.length mtu.toNat)

end Btle.Server

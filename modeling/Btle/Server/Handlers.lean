import Btle.Server.Attributes

namespace Btle.Server

def opError : UInt8 := 0x01
def opMtuRequest : UInt8 := 0x02
def opMtuResponse : UInt8 := 0x03
def opFindInfoRequest : UInt8 := 0x04
def opFindInfoResponse : UInt8 := 0x05
def opFindByTypeRequest : UInt8 := 0x06
def opFindByTypeResponse : UInt8 := 0x07
def opReadByTypeRequest : UInt8 := 0x08
def opReadByTypeResponse : UInt8 := 0x09
def opReadRequest : UInt8 := 0x0A
def opReadResponse : UInt8 := 0x0B
def opReadBlobRequest : UInt8 := 0x0C
def opReadBlobResponse : UInt8 := 0x0D
def opReadMultiRequest : UInt8 := 0x0E
def opReadMultiResponse : UInt8 := 0x0F
def opReadByGroupRequest : UInt8 := 0x10
def opReadByGroupResponse : UInt8 := 0x11
def opWriteRequest : UInt8 := 0x12
def opWriteResponse : UInt8 := 0x13
def opWriteCmd : UInt8 := 0x52
def opPrepWriteRequest : UInt8 := 0x16
def opPrepWriteResponse : UInt8 := 0x17
def opExecWriteRequest : UInt8 := 0x18
def opExecWriteResponse : UInt8 := 0x19
def opHandleValueConfirm : UInt8 := 0x1E
def opSignedWriteCmd : UInt8 := 0xD2

def errorInvalidHandle : UInt8 := 0x01
def errorWriteNotPermitted : UInt8 := 0x03
def errorReqNotSupported : UInt8 := 0x06
def errorAttrNotFound : UInt8 := 0x0A

def findInfoFmt16Bit : UInt8 := 0x01
def findInfoFmt128Bit : UInt8 := 0x02

def propertyWriteWithoutResp : Nat := 0x04
def propertyWrite : Nat := 0x08

def getAttribute (world : World) (handle : Nat) : Option AttrRef := slotAt world.handles handle

/-- `getAttribute[handle]` is a property of the function, which has none of that name. -/
def getAttributeProperty (_handle : Nat) : Option AttrRef := none

/-- The property `uuid`, which no attribute has. -/
def Attribute.uuid (_attrib : Attribute) : Option UuidRef := none

def Attribute.bytes (attrib : Attribute) : Except JsError Buffer :=
  match attrib.value with
  | some value => .ok value
  | none => .error (.typeError "Cannot read property 'length' of undefined")

def Attribute.holds (attrib : Attribute) (value : Buffer) : Except JsError Bool :=
  match attrib.value with
  | some bytes => .ok (bytes = value)
  | none => .error (.typeError "Cannot call method 'equals' of undefined")

def Attribute.matches (attrib : Attribute) (type : Option UuidRef) (value : Option Buffer) :
    Except JsError Bool :=
  if type = none ∨ attrib.type = type then
    match value with
    | none => .ok true
    | some value => attrib.holds value
  else .ok false

def findAttributes (world : World) (start stop : Nat) (type : Option UuidRef)
    (value : Option Buffer) : Except JsError (List AttrRef) :=
  search (List.range' start (stop - start))
where
  search : List Nat → Except JsError (List AttrRef)
    | [] => .ok []
    | i :: rest =>
      match slotAt world.handles i with
      | none => search rest
      | some ref => do
        if ← (world.attrib ref).matches type value then return ref :: (← search rest)
        else search rest

def getUuidOf (value : UuidValue) : Js (Option UuidRef) := do
  let (uuids, uuid) ← Js.ofExcept (getUuid (← get).uuids value)
  modify fun world => { world with uuids }
  return uuid

/-- A type is put in the log by its `toString`, which looks at the length of its buffer. -/
def logType (host : Host) (type : Option UuidRef) : Js Unit := do
  if host.debug then
    match type with
    | none => pure ()
    | some ref =>
      if ((← get).uuids.objects[ref]?.bind Uuid.buffer).isNone then
        throw (.typeError "Cannot read property 'length' of undefined")

def sendError (host : Host) (central : CentralRef) (error op : UInt8) (handle : Nat) : Js Unit := do
  let response := ((host.newBuffer (← get).sent.length 5).set 0 opError).set 1 op
  let response ←
    if handle = 0 then pure response
    else Js.ofExcept (Buffer.writeUInt16LE response (some handle) 2)
  Central.write central (response.set 4 error)

structure Reply where
  response : Buffer
  offset : Nat
  deriving DecidableEq, Repr

/-- `new Buffer(mtuSize)` with an opcode in it; bytes set outside of it are lost. -/
def Reply.start (host : Host) (number : Nat) (mtuSize : UInt16) (opcode : UInt8) (offset : Nat) : Reply where
  response := (host.newBuffer number mtuSize.toNat).set 0 opcode
  offset := offset

def Reply.set (reply : Reply) (i : Nat) (byte : UInt8) : Reply :=
  { reply with response := reply.response.set i byte }

def Reply.writeUInt16LE (reply : Reply) (value : Option Nat) : Except JsError Reply := do
  return ⟨← Buffer.writeUInt16LE reply.response value reply.offset, reply.offset + 2⟩

def Reply.copy (reply : Reply) (source : Buffer) : Except JsError Reply := do
  return ⟨← Buffer.copy source reply.response reply.offset source.length, reply.offset + source.length⟩

def Reply.slice (reply : Reply) : Buffer := reply.response.take reply.offset

/-- What the handlers of reads in a range end with, once the attributes are found. -/
def respond (host : Host) (central : CentralRef) (request : UInt8) (start : Nat)
    (found : List AttrRef) (encode : World → List Attribute → Except JsError Buffer) : Js Unit := do
  let world ← get
  match found with
  | [] => sendError host central errorAttrNotFound request start
  | _ :: _ =>
    let response ← Js.ofExcept (encode world (found.map world.attrib))
    Central.write central response

def handleError (central : CentralRef) (data : Buffer) : Js Unit := do
  let opcode := data[1]?
  let handle ← Js.ofExcept (Buffer.readUInt16LE data 2)
  let errCode := data[4]?
  modify fun world =>
    { world with remoteErrors := world.remoteErrors ++ [(central, { opcode, handle, errCode })] }

def setMtu (central : CentralRef) (mtu : UInt16) : Js Unit :=
  modify fun world =>
    { world.setCentral central { world.central central with mtu } with mtuSize := mtu }

def handleMtu (host : Host) (central : CentralRef) (data : Buffer) : Js Unit := do
  let requestedMtu ← Js.ofExcept (Buffer.readUInt16LE data 0)
  let mtuSize := ((← get).central central).mtu
  modify fun world => { world with mtuSize }
  let pdu := (host.newBuffer (← get).sent.length 3).set 0 opMtuResponse
  let pdu ← Js.ofExcept (Buffer.writeUInt16LE pdu (some mtuSize.toNat) 1)
  Central.write central pdu
  if requestedMtu < defaultMtu.toNat then setMtu central defaultMtu
  else if requestedMtu < mtuSize.toNat then setMtu central (UInt16.ofNat requestedMtu)

/-- `attributes[i].uuid`, of which the length is asked for. -/
def uuidBuffer (world : World) (attrib : Attribute) : Except JsError Buffer :=
  match attrib.uuid with
  | none => .error (.typeError "Cannot call method 'length' of undefined")
  | some ref =>
    match world.uuids.objects[ref]?.bind Uuid.buffer with
    | none => .error (.typeError "Cannot read property 'length' of undefined")
    | some buffer => .ok buffer

/-- The length of the first UUID is kept beside the reply, 0 before there is one. -/
def findInfoEntry (world : World) (item : Attribute × Nat) (state : Nat × Reply) :
    Except JsError (ForInStep (Nat × Reply)) := do
  let (len, reply) := state
  let uuid ← uuidBuffer world item.1
  let (len, reply) :=
    if len = 0 then
      (uuid.length, reply.set 1 (if uuid.length = 2 then findInfoFmt16Bit else findInfoFmt128Bit))
    else (len, reply)
  if uuid.length ≠ len then return .done (len, reply)
  if world.mtuSize.toNat < reply.offset + uuid.length + 2 then return .done (len, reply)
  let reply ← reply.writeUInt16LE (some item.2)
  let reply ← reply.copy uuid
  return .yield (len, reply)

def findInfoResponse (host : Host) (world : World) (attributes : List Attribute) :
    Except JsError Buffer := do
  let reply := Reply.start host world.sent.length world.mtuSize opFindInfoResponse 2
  let (_, reply) ← forIn attributes.zipIdx (0, reply) (findInfoEntry world)
  return reply.slice

def handleFindInfo (host : Host) (central : CentralRef) (data : Buffer) : Js Unit := do
  let start ← Js.ofExcept (Buffer.readUInt16LE data 0)
  let stop ← Js.ofExcept (Buffer.readUInt16LE data 2)
  if start = 0 ∨ stop < start then
    sendError host central errorInvalidHandle opFindInfoRequest start
  else
    let attributes ← Js.ofExcept (findAttributes (← get) start stop none none)
    respond host central opFindInfoRequest start attributes (findInfoResponse host)

/-- An entry takes the place of the attribute in the list, not its handle. -/
def findByTypeEntry (mtuSize : UInt16) (type : Option UuidRef) (value : Buffer)
    (item : Attribute × Nat) (reply : Reply) : Except JsError (ForInStep Reply) := do
  if mtuSize.toNat < reply.offset + 4 then return .done reply
  if item.1.uuid = type then
    if ← item.1.holds value then
      let reply ← reply.writeUInt16LE (some item.2)
      let reply ← reply.writeUInt16LE item.1.endHandle
      return .yield reply
  return .yield reply

def findByTypeResponse (host : Host) (type : Option UuidRef) (value : Buffer) (world : World)
    (attributes : List Attribute) : Except JsError Buffer := do
  let reply := Reply.start host world.sent.length world.mtuSize opFindByTypeResponse 1
  let reply ← forIn attributes.zipIdx reply (findByTypeEntry world.mtuSize type value)
  return reply.slice

def handleFindByType (host : Host) (central : CentralRef) (data : Buffer) : Js Unit := do
  let start ← Js.ofExcept (Buffer.readUInt16LE data 0)
  let stop ← Js.ofExcept (Buffer.readUInt16LE data 2)
  let type ← getUuidOf (.number (← Js.ofExcept (Buffer.readUInt16LE data 4)))
  let value := data.drop 6
  logType host type
  if start = 0 ∨ stop < start then
    sendError host central errorInvalidHandle opFindByTypeRequest start
  else
    let attributes ← Js.ofExcept (findAttributes (← get) start stop type (some value))
    respond host central opFindByTypeRequest start attributes (findByTypeResponse host type value)

def readByTypeEntry (mtuSize : UInt16) (len : Nat) (attrib : Attribute) (reply : Reply) :
    Except JsError (ForInStep Reply) := do
  let value ← attrib.bytes
  if value.length ≠ len then return .done reply
  if mtuSize.toNat < reply.offset + value.length + 4 then return .done reply
  let reply ← reply.writeUInt16LE attrib.handle
  let reply ← reply.copy value
  return .yield reply

def readByTypeResponse (host : Host) (world : World) (attributes : List Attribute) :
    Except JsError Buffer := do
  let reply := Reply.start host world.sent.length world.mtuSize opReadByTypeResponse 2
  let len := (← (attributes.headD .blank).bytes).length
  let reply := reply.set 1 (UInt8.ofNat (len + 2))
  let reply ← forIn attributes reply (readByTypeEntry world.mtuSize len)
  return reply.slice

def handleReadByType (host : Host) (central : CentralRef) (data : Buffer) : Js Unit := do
  let start ← Js.ofExcept (Buffer.readUInt16LE data 0)
  let stop ← Js.ofExcept (Buffer.readUInt16LE data 2)
  let type ← getUuidOf (.number (← Js.ofExcept (Buffer.readUInt16LE data 4)))
  logType host type
  let attributes ← Js.ofExcept (findAttributes (← get) start stop type none)
  respond host central opReadByTypeRequest start attributes (readByTypeResponse host)

def handleRead (host : Host) (central : CentralRef) (data : Buffer) : Js Unit := do
  let handle ← Js.ofExcept (Buffer.readUInt16LE data 0)
  let world ← get
  match getAttributeProperty handle with
  | none => sendError host central errorAttrNotFound opReadRequest handle
  | some ref =>
    match (world.attrib ref).value with
    | none => pure ()
    | some value =>
      let reply := Reply.start host world.sent.length world.mtuSize opReadResponse 1
      let reply ← Js.ofExcept (reply.copy value)
      Central.write central reply.slice

def handleReadBlob (data : Buffer) : Js Unit := do
  let _handle ← Js.ofExcept (Buffer.readUInt16LE data 0)
  let _offset ← Js.ofExcept (Buffer.readUInt16LE data 2)

def handleReadMulti (data : Buffer) : Js Unit := do
  let _handles ← Js.ofExcept (handlesFrom data)
where
  handlesFrom : Buffer → Except JsError (List Nat)
    | [] => .ok []
    | [last] => do return [← Buffer.readUInt16LE [last] 0]
    | low :: high :: rest => do
      let handle ← Buffer.readUInt16LE [low, high] 0
      return handle :: (← handlesFrom rest)

def readByGroupEntry (mtuSize : UInt16) (attrib : Attribute) (reply : Reply) :
    Except JsError (ForInStep Reply) := do
  let value ← attrib.bytes
  if mtuSize.toNat < reply.offset + value.length + 4 then return .done reply
  let reply ← reply.writeUInt16LE attrib.handle
  let reply ← reply.writeUInt16LE attrib.endHandle
  let reply ← reply.copy value
  return .yield reply

def readByGroupResponse (host : Host) (world : World) (attributes : List Attribute) :
    Except JsError Buffer := do
  let reply := Reply.start host world.sent.length world.mtuSize opReadByGroupResponse 2
  let len := (← (attributes.headD .blank).bytes).length
  let reply := reply.set 1 (UInt8.ofNat (len + 4))
  let reply ← forIn attributes reply (readByGroupEntry world.mtuSize)
  return reply.slice

def handleReadByGroup (host : Host) (central : CentralRef) (data : Buffer) : Js Unit := do
  let start ← Js.ofExcept (Buffer.readUInt16LE data 0)
  let stop ← Js.ofExcept (Buffer.readUInt16LE data 2)
  let type ← getUuidOf (.buffer (data.drop 4))
  logType host type
  let attributes ← Js.ofExcept (findAttributes (← get) start stop type none)
  respond host central opReadByGroupRequest start attributes (readByGroupResponse host)

def Attribute.permitsWrite (attrib : Attribute) (respond : Bool) : Bool :=
  (respond && attrib.properties &&& propertyWrite ≠ 0) ||
    (!respond && attrib.properties &&& propertyWriteWithoutResp ≠ 0)

/-- A `writeCallback` lets the application know, which is all that it does. -/
def callWriteCallback (ref : AttrRef) : Js Unit := do
  if ((← get).attrib ref).writeCallback then
    modify fun world => { world with writeCalls := world.writeCalls ++ [ref] }

def doWrite (host : Host) (central : CentralRef) (handle : Nat) (value : Buffer) (respond : Bool) :
    Js Unit := do
  let world ← get
  match getAttribute world handle with
  | some ref =>
    if (world.attrib ref).permitsWrite respond then
      setValue host ref (.buffer value)
      callWriteCallback ref
      if respond then
        Central.write central ((host.newBuffer (← get).sent.length 1).set 0 opWriteResponse)
    else
      sendError host central errorWriteNotPermitted opWriteRequest handle
  | none => sendError host central errorInvalidHandle opWriteRequest handle

def handleWrite (host : Host) (central : CentralRef) (data : Buffer) : Js Unit := do
  let handle ← Js.ofExcept (Buffer.readUInt16LE data 0)
  doWrite host central handle (data.drop 2) true

def handleWriteCmd (host : Host) (central : CentralRef) (data : Buffer) : Js Unit := do
  let handle ← Js.ofExcept (Buffer.readUInt16LE data 0)
  doWrite host central handle (data.drop 2) false

def handleValueConfirm (central : CentralRef) : Js Unit :=
  modify fun world =>
    world.setCentral central { world.central central with waitingForConfirmation := false }

inductive Handler
  | error
  | mtu
  | findInfo
  | findByType
  | readByType
  | read
  | readBlob
  | readMulti
  | readByGroup
  | write
  | writeCmd
  | valueConfirm
  deriving DecidableEq, Repr

/-- Those for prepared, executed and signed writes are not in the table. -/
def handlers : List (UInt8 × Handler) :=
  [(opError, .error), (opMtuRequest, .mtu), (opFindInfoRequest, .findInfo),
    (opFindByTypeRequest, .findByType), (opReadByTypeRequest, .readByType),
    (opReadRequest, .read), (opReadBlobRequest, .readBlob), (opReadMultiRequest, .readMulti),
    (opReadByGroupRequest, .readByGroup), (opWriteRequest, .write), (opWriteCmd, .writeCmd),
    (opHandleValueConfirm, .valueConfirm)]

def Handler.call (host : Host) (central : CentralRef) (data : Buffer) : Handler → Js Unit
  | .error => handleError central data
  | .mtu => handleMtu host central data
  | .findInfo => handleFindInfo host central data
  | .findByType => handleFindByType host central data
  | .readByType => handleReadByType host central data
  | .read => handleRead host central data
  | .readBlob => handleReadBlob data
  | .readMulti => handleReadMulti data
  | .readByGroup => handleReadByGroup host central data
  | .write => handleWrite host central data
  | .writeCmd => handleWriteCmd host central data
  | .valueConfirm => handleValueConfirm central

/-- The handler of `data` events. The opcode of no data is `undefined`, which is written as 0. -/
def createHandler (host : Host) (central : CentralRef) (data : Buffer) : Js Unit :=
  match data with
  | [] => sendError host central errorReqNotSupported 0 0
  | opcode :: rest =>
    match handlers.lookup opcode with
    | some handler => handler.call host central rest
    | none => sendError host central errorReqNotSupported opcode 0

end Btle.Server

import Btle.Client.Encode
import Btle.Client.Parse

namespace Btle.Client

/-- What `Connection::getBuffer` looks at, and the bytes `new char[]` happens to hold. -/
structure Connection where
  cid : UInt16
  imtu : UInt16
  heap : Nat → UInt8

def Connection.getBuffer (connection : Connection) : List UInt8 :=
  let bufSize := if connection.cid = attCid then attDefaultLeMtu else connection.imtu.toNat
  (List.range bufSize).map connection.heap

def leConnection : Connection where
  cid := attCid
  imtu := 0
  heap _ := 0

inductive ReadCallback
  | onFindInfo
  | onFindByType
  | onReadByType
  | onReadByGroupType
  | onReadAttribute
  deriving DecidableEq, Repr

/-- `struct Att::readData` of a request. The user's callback and its `data` pointer are one
    token. Every request sets `callback`, so that it is never `NULL`. -/
structure ReadData where
  request : UInt8
  expectedResponse : UInt8
  data : Nat
  handle : UInt16
  type : BtUuid
  value : Option (List UInt8)
  callback : ReadCallback
  deriving DecidableEq, Repr

inductive AttributeList
  | infos (list : List AttributeInfo)
  | handles (list : List HandlesInfo)
  | values (list : List AttributeData)
  | groups (list : List GroupAttributeData)
  deriving DecidableEq, Repr

/-- What a step does outside of `Att`, in order: PDUs handed to `Connection::write`, and calls of
    the user's callbacks. -/
inductive Effect
  | write (pdu : List UInt8)
  | attrListCb (data : Nat) (status : UInt8) (list : Option AttributeList) (error : Option String)
  | readAttrCb (data : Nat) (status : UInt8) (buf : Buf) (len : Int) (error : Option String)
  | notification (data : Nat) (status : UInt8) (buf : Buf) (len : Int) (error : Option String)
  | errorHandler (data : Nat) (message : String)
  deriving DecidableEq, Repr

/-- The data members of `Att`; a user's error handler and notification listeners are tokens. -/
structure Att where
  connection : Connection
  errorHandler : Option Nat
  currentRequest : Option ReadData
  attributeList : Option (List AttributeInfo)
  groupAttributeList : Option (List GroupAttributeData)
  handlesInfoList : Option (List HandlesInfo)
  notificationMap : List (UInt16 × Nat)

def Att.new (connection : Connection) : Att where
  connection := connection
  errorHandler := none
  currentRequest := none
  attributeList := none
  groupAttributeList := none
  handlesInfoList := none
  notificationMap := []

abbrev Result := Except Fault (Att × List Effect)

namespace Att

/-- The compare-and-swap both overloads of `setCurrentRequest` end with. -/
def setCurrentRequest (att : Att) (rd : ReadData) : Option Att :=
  match att.currentRequest with
  | none => some { att with currentRequest := some rd }
  | some _ => none

def removeCurrentRequest (att : Att) : Att := { att with currentRequest := none }

@[simp] theorem removeCurrentRequest_currentRequest (att : Att) :
    att.removeCurrentRequest.currentRequest = none := rfl

@[simp] theorem removeCurrentRequest_connection (att : Att) :
    att.removeCurrentRequest.connection = att.connection := rfl

def write (encoded : Except Fault (List UInt8 × Nat)) : Except Fault (List Effect) := do
  let (buffer, len) ← encoded
  return [.write (buffer.take len)]

def doFindInformation (att : Att) (startHandle endHandle : UInt16) :
    Except Fault (List Effect) :=
  write (encodeRange attOpFindInfoReq startHandle endHandle none att.connection.getBuffer none)

def doFindByType (att : Att) (startHandle endHandle : UInt16) (type : BtUuid)
    (value : Option (List UInt8)) : Except Fault (List Effect) :=
  write (encodeRange attOpFindByTypeReq startHandle endHandle (some type)
    att.connection.getBuffer value)

def doReadByType (att : Att) (startHandle endHandle : UInt16) (type : BtUuid) :
    Except Fault (List Effect) :=
  write (encodeRange attOpReadByTypeReq startHandle endHandle (some type)
    att.connection.getBuffer none)

def doReadByGroupType (att : Att) (startHandle endHandle : UInt16) (type : BtUuid) :
    Except Fault (List Effect) :=
  write (encodeRange attOpReadByGroupReq startHandle endHandle (some type)
    att.connection.getBuffer none)

def doReadAttribute (att : Att) (handle : UInt16) : Except Fault (List Effect) :=
  write (encodeHandle attOpReadReq handle att.connection.getBuffer [])

/-- The shape of the five request methods: take the slot and write, or refuse by calling the
    callback at once with the name of the request in the way. -/
def request (att : Att) (rd : ReadData) (send : Att → Except Fault (List Effect))
    (refuse : Option String → Effect) : Result :=
  match att.setCurrentRequest rd with
  | some att => do
    let out ← send att
    return (att, out)
  | none => .ok (att, [refuse (att.currentRequest.map fun rd => pendingMessage rd.request)])

/-- The end handle is kept in `handle`, so that a page can tell whether to ask for more. -/
def findInformation (att : Att) (startHandle endHandle : UInt16) (data : Nat) : Result :=
  att.request
    { request := attOpFindInfoReq, expectedResponse := attOpFindInfoResp, data,
      handle := endHandle, type := .unspec, value := none, callback := .onFindInfo }
    (fun att => att.doFindInformation startHandle endHandle)
    (.attrListCb data 0 none)

def findByTypeValue (att : Att) (startHandle endHandle : UInt16) (type : BtUuid)
    (value : Option (List UInt8)) (data : Nat) : Result :=
  att.request
    { request := attOpFindByTypeReq, expectedResponse := attOpFindByTypeResp, data,
      handle := endHandle, type, value, callback := .onFindByType }
    (fun att => att.doFindByType startHandle endHandle type value)
    (.attrListCb data 0 none)

def readByType (att : Att) (startHandle endHandle : UInt16) (type : BtUuid) (data : Nat) :
    Result :=
  att.request
    { request := attOpReadByTypeReq, expectedResponse := attOpReadByTypeResp, data,
      handle := endHandle, type, value := none, callback := .onReadByType }
    (fun att => att.doReadByType startHandle endHandle type)
    (.attrListCb data 0 none)

def readByGroupType (att : Att) (startHandle endHandle : UInt16) (type : BtUuid)
    (data : Nat) : Result :=
  att.request
    { request := attOpReadByGroupReq, expectedResponse := attOpReadByGroupResp, data,
      handle := endHandle, type, value := none, callback := .onReadByGroupType }
    (fun att => att.doReadByGroupType startHandle endHandle type)
    (.attrListCb data 0 none)

def readAttribute (att : Att) (handle : UInt16) (data : Nat) : Result :=
  att.request
    { request := attOpReadReq, expectedResponse := attOpReadResp, data, handle, type := .unspec,
      value := none, callback := .onReadAttribute }
    (fun att => att.doReadAttribute handle)
    (.readAttrCb data 0 none 0)

def writeCommand (att : Att) (handle : UInt16) (value : List UInt8) : Result := do
  let out ← write (encodeHandle attOpWriteCmd handle att.connection.getBuffer value)
  return (att, out)

def writeRequest (att : Att) (handle : UInt16) (value : List UInt8) : Result := do
  let out ← write (encodeHandle attOpWriteReq handle att.connection.getBuffer value)
  return (att, out)

/-- `std::map::insert` keeps the entry a handle already has. -/
def listenForNotifications (att : Att) (handle : UInt16) (data : Nat) : Result :=
  match att.notificationMap.lookup handle with
  | some _ => .ok (att, [])
  | none => .ok ({ att with notificationMap := (handle, data) :: att.notificationMap }, [])

def onError (att : Att) (data : Nat) : Result :=
  .ok ({ att with errorHandler := some data }, [])

end Att

/-- One of the three lists that collect the pages of a discovery. Setting it touches nothing
    else that a request depends on. -/
structure Accumulator (α : Type) where
  get : Att → Option (List α)
  set : Att → Option (List α) → Att
  list : List α → AttributeList
  get_set : ∀ att list, get (set att list) = list
  get_remove : ∀ att, get att.removeCurrentRequest = get att
  currentRequest_set : ∀ att list, (set att list).currentRequest = att.currentRequest
  connection_set : ∀ att list, (set att list).connection = att.connection

attribute [simp] Accumulator.get_set Accumulator.get_remove Accumulator.currentRequest_set
  Accumulator.connection_set

def Accumulator.attributeList : Accumulator AttributeInfo where
  get := Att.attributeList
  set att list := { att with attributeList := list }
  list := .infos
  get_set _ _ := rfl
  get_remove _ := rfl
  currentRequest_set _ _ := rfl
  connection_set _ _ := rfl

def Accumulator.handlesInfoList : Accumulator HandlesInfo where
  get := Att.handlesInfoList
  set att list := { att with handlesInfoList := list }
  list := .handles
  get_set _ _ := rfl
  get_remove _ := rfl
  currentRequest_set _ _ := rfl
  connection_set _ _ := rfl

def Accumulator.groupAttributeList : Accumulator GroupAttributeData where
  get := Att.groupAttributeList
  set att list := { att with groupAttributeList := list }
  list := .groups
  get_set _ _ := rfl
  get_remove _ := rfl
  currentRequest_set _ _ := rfl
  connection_set _ _ := rfl

namespace Att

/-- The last exit of a discovery handler. The source drops the list and frees `rd` on the way to
    the callback. What the callback is given was read before; the pointer to the callback itself
    is read from the freed `rd`, and is taken to be the one that was stored there. -/
def finish {α : Type} (accumulator : Accumulator α) (att : Att) (rd : ReadData)
    (status : UInt8) (error : Option String) : Result :=
  .ok ((accumulator.set att none).removeCurrentRequest,
    [.attrListCb rd.data status ((accumulator.get att).map accumulator.list) error])

/-- The `status == 0` branch of a discovery handler: collect the page, then ask for the handles
    after its last one or call back with everything collected. -/
def collectPage {α : Type} (accumulator : Accumulator α) (att : Att) (rd : ReadData)
    (parse : List α → Except Fault (List α)) (handle : α → UInt16)
    (again : Att → UInt16 → Except Fault (List Effect)) (error : Option String) : Result := do
  let list ← parse ((accumulator.get att).getD [])
  let att := accumulator.set att (some list)
  match list.getLast? with
  | none => .error .emptyList
  | some back =>
    if handle back < rd.handle then do
      let out ← again att (handle back + 1)
      return (att, out)
    else finish accumulator att rd 0 error

def handleFindInfo (att : Att) (status : UInt8) (rd : ReadData) (buf : Buf) (len : Int)
    (error : Option String) : Result :=
  if status = 0 then
    collectPage .attributeList att rd (fun list => parseAttributeList list buf len)
      AttributeInfo.handle (fun att start => att.doFindInformation start rd.handle) error
  else if status = attEcodeAttrNotFound then finish .attributeList att rd 0 none
  else finish .attributeList att rd status error

/-- Unlike its two siblings it passes no list and keeps an error text when the first page already
    found nothing. -/
def handleFindByType (att : Att) (status : UInt8) (rd : ReadData) (buf : Buf) (len : Int)
    (error : Option String) : Result :=
  if status = 0 then
    collectPage .handlesInfoList att rd (fun list => parseHandlesInformationList list buf len)
      HandlesInfo.handle
      (fun att start => att.doFindByType start rd.handle rd.type rd.value) error
  else if status = attEcodeAttrNotFound then
    match att.handlesInfoList with
    | none =>
      .ok (att.removeCurrentRequest, [.attrListCb rd.data 0 none (getErrorString status)])
    | some _ => finish .handlesInfoList att rd 0 none
  else finish .handlesInfoList att rd status error

def handleReadByType (att : Att) (status : UInt8) (rd : ReadData) (buf : Buf) (len : Int)
    (error : Option String) : Result :=
  match error with
  | some _ => .ok (att.removeCurrentRequest, [.attrListCb rd.data status (some (.values [])) error])
  | none => do
    let list ← parseAttributeDataList [] buf len
    return (att.removeCurrentRequest, [.attrListCb rd.data status (some (.values list)) error])

def handleReadByGroupType (att : Att) (status : UInt8) (rd : ReadData) (buf : Buf)
    (len : Int) (error : Option String) : Result :=
  if status = 0 then
    collectPage .groupAttributeList att rd
      (fun list => parseGroupAttributeDataList list buf len) GroupAttributeData.handle
      (fun att start => att.doReadByGroupType start rd.handle rd.type) error
  else if status = attEcodeAttrNotFound then finish .groupAttributeList att rd 0 none
  else finish .groupAttributeList att rd status error

def onReadAttribute (att : Att) (status : UInt8) (rd : ReadData) (buf : Buf) (len : Int)
    (error : Option String) : Result :=
  .ok (att.removeCurrentRequest, [.readAttrCb rd.data status buf len error])

/-- `currentRequest` is followed without a test for `NULL`. -/
def callbackCurrentRequest (att : Att) (status : UInt8) (buf : Buf) (len : Int)
    (error : Option String) : Result :=
  match att.currentRequest with
  | none => .error .nullRequest
  | some rd =>
    match rd.callback with
    | .onFindInfo => att.handleFindInfo status rd buf len error
    | .onFindByType => att.handleFindByType status rd buf len error
    | .onReadByType => att.handleReadByType status rd buf len error
    | .onReadByGroupType => att.handleReadByGroupType status rd buf len error
    | .onReadAttribute => att.onReadAttribute status rd buf len error

def reportError (att : Att) (message : String) : Result :=
  match att.errorHandler with
  | some data => .ok (att, [.errorHandler data message])
  | none => .ok (att, [])

/-- `Att::handleRead`; `nread` is the number of bytes received, or negative with an error. -/
def handleRead (att : Att) (buf : Buf) (nread : Int) (error : Option String) : Result :=
  match error with
  | some _ => att.callbackCurrentRequest 0 none 0 error
  | none => do
    let opcode ← byteAt buf 0
    if opcode = attOpError then do
      let request ← byteAt buf 1
      let errorCode ← byteAt buf 4
      let handle ← attGetU16 buf 2
      let message := errorMessage request errorCode handle
      if att.currentRequest.map ReadData.request = some request then
        att.callbackCurrentRequest errorCode none 0 (some message)
      else att.reportError message
    else if opcode = attOpHandleNotify then do
      let handle ← attGetU16 buf 1
      match att.notificationMap.lookup handle with
      | some data => .ok (att, [.notification data 0 (buf.map (List.drop 3)) (nread - 3) error])
      | none => att.reportError (unexpectedNotification handle)
    else
      match att.currentRequest with
      | some _ => att.callbackCurrentRequest 0 (buf.map (List.drop 1)) (nread - 1) none
      | none => att.reportError (unexpectedData opcode)

end Att

/-- The calls a user makes on an `Att`. A request's `data` is the token its callback gets. -/
inductive Call
  | findInformation (startHandle endHandle : UInt16) (data : Nat)
  | findByTypeValue (startHandle endHandle : UInt16) (type : BtUuid) (value : Option (List UInt8))
      (data : Nat)
  | readByType (startHandle endHandle : UInt16) (type : BtUuid) (data : Nat)
  | readByGroupType (startHandle endHandle : UInt16) (type : BtUuid) (data : Nat)
  | readAttribute (handle : UInt16) (data : Nat)
  | writeCommand (handle : UInt16) (value : List UInt8)
  | writeRequest (handle : UInt16) (value : List UInt8)
  | listenForNotifications (handle : UInt16) (data : Nat)
  | onError (data : Nat)
  deriving DecidableEq, Repr

inductive Event
  | call (call : Call)
  | received (bytes : List UInt8)
  | readError (message : String)
  deriving DecidableEq, Repr

def Att.perform (att : Att) : Call → Result
  | .findInformation startHandle endHandle data => att.findInformation startHandle endHandle data
  | .findByTypeValue startHandle endHandle type value data =>
    att.findByTypeValue startHandle endHandle type value data
  | .readByType startHandle endHandle type data => att.readByType startHandle endHandle type data
  | .readByGroupType startHandle endHandle type data =>
    att.readByGroupType startHandle endHandle type data
  | .readAttribute handle data => att.readAttribute handle data
  | .writeCommand handle value => att.writeCommand handle value
  | .writeRequest handle value => att.writeRequest handle value
  | .listenForNotifications handle data => att.listenForNotifications handle data
  | .onError data => att.onError data

/-- One event handled to the end. Every path of the source calls a user's callback last, so that
    the calls it makes are the events that follow. -/
def step (att : Att) : Event → Result
  | .call call => att.perform call
  | .received bytes => att.handleRead (some bytes) bytes.length none
  | .readError message => att.handleRead none (-1) (some message)

end Btle.Client

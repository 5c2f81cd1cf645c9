import Btle.Client.Bookkeeping
import Btle.Client.Listeners
import Btle.Client.Slots
import Btle.Native.Numbers
import Btle.Wire.Requests

namespace Btle.Wire.Peripheral

open Client
open Native (getIntValue getIntValue_iff int)

/-- An argument of a native method, as the checks of the methods tell arguments apart. -/
inductive Argument
  | uint32 (number : UInt32)
  | string (text : String)
  | buffer (bytes : List UInt8)
  | function (callback : Nat)
  | other
  deriving DecidableEq, Repr

namespace Argument

def number? : Argument → Option UInt32
  | .uint32 number => some number
  | .string _ | .buffer _ | .function _ | .other => none

def text? : Argument → Option String
  | .string text => some text
  | .uint32 _ | .buffer _ | .function _ | .other => none

def bytes? : Argument → Option (List UInt8)
  | .buffer bytes => some bytes
  | .uint32 _ | .string _ | .function _ | .other => none

def callback? : Argument → Option Nat
  | .function callback => some callback
  | .uint32 _ | .string _ | .buffer _ | .other => none

def must {α : Type} (position kind : String) : Option α → Except String α
  | some value => .ok value
  | none => .error s!"{position} argument must be {kind}"

def handleNumber (position : String) (argument : Argument) : Except String UInt32 :=
  must position "a handle number" argument.number?

def text (position : String) (argument : Argument) : Except String String :=
  must position "a string" argument.text?

def bytes (position : String) (argument : Argument) : Except String (List UInt8) :=
  must position "a buffer" argument.bytes?

def callback (position : String) (argument : Argument) : Except String Nat :=
  must position "a callback" argument.callback?

end Argument

/-- The members of `struct callbackData` besides the peripheral. -/
structure CallbackData where
  data : Option Nat
  startHandle : UInt16
  endHandle : UInt16
  deriving DecidableEq, Repr

/-- A connected `Peripheral`. Its records of callbacks are told apart by the order they were made in. -/
structure Connected where
  att : Att
  callbackData : List CallbackData

/-- What happens to be in the locals that `getIntValue` is to fill, and BlueZ's reading of UUIDs. -/
structure Outside where
  uninitialised : Nat → Int
  btStringToUuid : String → BtUuid

/-- The conversion of a local `int` to `uint16_t`, after `getIntValue` filled it or did not. -/
def Outside.handle (outside : Outside) (index : Nat) (number : UInt32) : UInt16 :=
  UInt16.ofInt ((getIntValue (.finite number.toNat)).getD (outside.uninitialised index))

/-- The record for the callback, and the call of `Att` that is given it. -/
abbrev Prepared := CallbackData × (Nat → Call)

def wrongNumber : Except String Prepared := .error "Wrong number of arguments"

def findInformation (outside : Outside) : List Argument → Except String Prepared
  | first :: second :: third :: _ => do
    let startNumber ← first.handleNumber "First"
    let endNumber ← second.handleNumber "Second"
    let callback ← third.callback "Third"
    let startHandle := outside.handle 0 startNumber
    let endHandle := outside.handle 1 endNumber
    return (⟨callback, startHandle, endHandle⟩, .findInformation startHandle endHandle)
  | _ => wrongNumber

def findByTypeValue (outside : Outside) : List Argument → Except String Prepared
  | first :: second :: third :: fourth :: fifth :: _ => do
    let startNumber ← first.handleNumber "First"
    let endNumber ← second.handleNumber "Second"
    let text ← third.text "Third"
    let value ← fourth.bytes "Fourth"
    let callback ← fifth.callback "Fifth"
    let startHandle := outside.handle 0 startNumber
    let endHandle := outside.handle 1 endNumber
    let uuid := outside.btStringToUuid text
    return (⟨callback, startHandle, endHandle⟩, .findByTypeValue startHandle endHandle uuid value)
  | _ => wrongNumber

/-- `ReadByType` and `ReadByGroupType` differ in what they call. -/
def readTyped (call : UInt16 → UInt16 → BtUuid → Nat → Call) (outside : Outside) :
    List Argument → Except String Prepared
  | first :: second :: third :: fourth :: _ => do
    let startNumber ← first.handleNumber "First"
    let endNumber ← second.handleNumber "Second"
    let text ← third.text "Third"
    let callback ← fourth.callback "Fourth"
    let startHandle := outside.handle 0 startNumber
    let endHandle := outside.handle 1 endNumber
    let uuid := outside.btStringToUuid text
    return (⟨callback, startHandle, endHandle⟩, call startHandle endHandle uuid)
  | _ => wrongNumber

def readByType : Outside → List Argument → Except String Prepared := readTyped .readByType

def readByGroupType : Outside → List Argument → Except String Prepared := readTyped .readByGroupType

/-- `ReadHandle` and `AddNotificationListener` differ in what they call as well. -/
def withHandle (call : UInt16 → Nat → Call) (outside : Outside) :
    List Argument → Except String Prepared
  | first :: second :: _ => do
    let number ← first.handleNumber "First"
    let callback ← second.callback "Second"
    return (⟨callback, 0, 0⟩, call (outside.handle 0 number))
  | _ => wrongNumber

def readHandle : Outside → List Argument → Except String Prepared := withHandle .readAttribute

def writeCommand (outside : Outside) : List Argument → Except String Prepared
  | first :: second :: rest => do
    let number ← first.handleNumber "First"
    let value ← second.bytes "Second"
    let callback ← rest.head?.mapM (Argument.callback "Third")
    return (⟨callback, 0, 0⟩, fun _ => .writeCommand (outside.handle 0 number) value)
  | _ => wrongNumber

def addNotificationListener : Outside → List Argument → Except String Prepared :=
  withHandle .listenForNotifications

inductive Method
  | findInformation
  | findByTypeValue
  | readByType
  | readByGroupType
  | readHandle
  | writeCommand
  | addNotificationListener
  deriving DecidableEq, Repr

namespace Method

def prepare (outside : Outside) (args : List Argument) : Method → Except String Prepared
  | .findInformation => Peripheral.findInformation outside args
  | .findByTypeValue => Peripheral.findByTypeValue outside args
  | .readByType => Peripheral.readByType outside args
  | .readByGroupType => Peripheral.readByGroupType outside args
  | .readHandle => Peripheral.readHandle outside args
  | .writeCommand => Peripheral.writeCommand outside args
  | .addNotificationListener => Peripheral.addNotificationListener outside args

end Method

/-- A call of a method: it throws a message, or has effects. -/
def invoke (outside : Outside) (peripheral : Connected) (method : Method) (args : List Argument) :
    Except Fault (Connected × Except String (List Effect)) :=
  match method.prepare outside args with
  | .error message => .ok (peripheral, .error message)
  | .ok (cd, call) => do
    let (att, out) ← peripheral.att.perform (call peripheral.callbackData.length)
    return (⟨att, peripheral.callbackData ++ [cd]⟩, .ok out)

/-- The calls that get past the checks of their arguments. -/
inductive Accepts : Method → List Argument → Prop
  | findInformation (startNumber endNumber : UInt32) (callback : Nat) (rest : List Argument) :
    Accepts .findInformation (.uint32 startNumber :: .uint32 endNumber :: .function callback :: rest)
  | findByTypeValue (startNumber endNumber : UInt32) (text : String) (value : List UInt8)
      (callback : Nat) (rest : List Argument) :
    Accepts .findByTypeValue (.uint32 startNumber :: .uint32 endNumber :: .string text ::
      .buffer value :: .function callback :: rest)
  | readByType (startNumber endNumber : UInt32) (text : String) (callback : Nat) (rest : List Argument) :
    Accepts .readByType (.uint32 startNumber :: .uint32 endNumber :: .string text ::
      .function callback :: rest)
  | readByGroupType (startNumber endNumber : UInt32) (text : String) (callback : Nat)
      (rest : List Argument) :
    Accepts .readByGroupType (.uint32 startNumber :: .uint32 endNumber :: .string text ::
      .function callback :: rest)
  | readHandle (number : UInt32) (callback : Nat) (rest : List Argument) :
    Accepts .readHandle (.uint32 number :: .function callback :: rest)
  | writeCommand (number : UInt32) (value : List UInt8) :
    Accepts .writeCommand [.uint32 number, .buffer value]
  | writeCommandCallback (number : UInt32) (value : List UInt8) (callback : Nat) (rest : List Argument) :
    Accepts .writeCommand (.uint32 number :: .buffer value :: .function callback :: rest)
  | addNotificationListener (number : UInt32) (callback : Nat) (rest : List Argument) :
    Accepts .addNotificationListener (.uint32 number :: .function callback :: rest)

section Checks

variable {outside : Outside} {args : List Argument}

theorem must_ok {α β : Type} {position kind : String} {value : Option α}
    {onward : α → Except String β} {result : β}
    (passed : Argument.must position kind value >>= onward = .ok result) :
    ∃ given, value = some given ∧ onward given = .ok result := by
  cases value with
  | none => cases passed
  | some given => exact ⟨given, rfl, passed⟩

theorem number_eq {argument : Argument} {number : UInt32} (found : argument.number? = some number) :
    argument = .uint32 number := by
  cases argument <;> cases found
  rfl

theorem text_eq {argument : Argument} {text : String} (found : argument.text? = some text) :
    argument = .string text := by
  cases argument <;> cases found
  rfl

theorem bytes_eq {argument : Argument} {bytes : List UInt8} (found : argument.bytes? = some bytes) :
    argument = .buffer bytes := by
  cases argument <;> cases found
  rfl

theorem callback_eq {argument : Argument} {callback : Nat} (found : argument.callback? = some callback) :
    argument = .function callback := by
  cases argument <;> cases found
  rfl

theorem findInformation_accepts {prepared : Prepared}
    (passed : findInformation outside args = .ok prepared) : Accepts .findInformation args := by
  unfold findInformation at passed
  split at passed
  · obtain ⟨startNumber, first, passed⟩ := must_ok passed
    obtain ⟨endNumber, second, passed⟩ := must_ok passed
    obtain ⟨callback, third, _⟩ := must_ok passed
    rw [number_eq first, number_eq second, callback_eq third]
    exact .findInformation ..
  · cases passed

theorem findByTypeValue_accepts {prepared : Prepared}
    (passed : findByTypeValue outside args = .ok prepared) : Accepts .findByTypeValue args := by
  unfold findByTypeValue at passed
  split at passed
  · obtain ⟨startNumber, first, passed⟩ := must_ok passed
    obtain ⟨endNumber, second, passed⟩ := must_ok passed
    obtain ⟨text, third, passed⟩ := must_ok passed
    obtain ⟨value, fourth, passed⟩ := must_ok passed
    obtain ⟨callback, fifth, _⟩ := must_ok passed
    rw [number_eq first, number_eq second, text_eq third, bytes_eq fourth, callback_eq fifth]
    exact .findByTypeValue ..
  · cases passed

theorem readTyped_args {call : UInt16 → UInt16 → BtUuid → Nat → Call} {prepared : Prepared}
    (passed : readTyped call outside args = .ok prepared) :
    ∃ startNumber endNumber text callback rest, args = .uint32 startNumber :: .uint32 endNumber ::
      .string text :: .function callback :: rest := by
  unfold readTyped at passed
  split at passed
  · obtain ⟨startNumber, first, passed⟩ := must_ok passed
    obtain ⟨endNumber, second, passed⟩ := must_ok passed
    obtain ⟨text, third, passed⟩ := must_ok passed
    obtain ⟨callback, fourth, _⟩ := must_ok passed
    rw [number_eq first, number_eq second, text_eq third, callback_eq fourth]
    exact ⟨startNumber, endNumber, text, callback, _, rfl⟩
  · cases passed

theorem withHandle_args {call : UInt16 → Nat → Call} {prepared : Prepared}
    (passed : withHandle call outside args = .ok prepared) :
    ∃ number callback rest, args = .uint32 number :: .function callback :: rest := by
  unfold withHandle at passed
  split at passed
  · obtain ⟨number, first, passed⟩ := must_ok passed
    obtain ⟨callback, second, _⟩ := must_ok passed
    rw [number_eq first, callback_eq second]
    exact ⟨number, callback, _, rfl⟩
  · cases passed

theorem writeCommand_accepts {prepared : Prepared} (passed : writeCommand outside args = .ok prepared) :
    Accepts .writeCommand args := by
  unfold writeCommand at passed
  split at passed
  · rename_i rest
    obtain ⟨number, first, passed⟩ := must_ok passed
    obtain ⟨value, second, passed⟩ := must_ok passed
    rw [number_eq first, bytes_eq second]
    cases rest with
    | nil => exact .writeCommand ..
    | cons third rest =>
      cases third with
      | function callback => exact .writeCommandCallback ..
      | uint32 | string | buffer | other => cases passed
  · cases passed

theorem prepare_ok_iff {method : Method} :
    (∃ prepared, method.prepare outside args = .ok prepared) ↔ Accepts method args := by
  constructor
  · rintro ⟨prepared, passed⟩
    cases method with
    | findInformation => exact findInformation_accepts passed
    | findByTypeValue => exact findByTypeValue_accepts passed
    | readByType =>
      obtain ⟨_, _, _, _, _, rfl⟩ := readTyped_args passed
      exact .readByType ..
    | readByGroupType =>
      obtain ⟨_, _, _, _, _, rfl⟩ := readTyped_args passed
      exact .readByGroupType ..
    | readHandle =>
      obtain ⟨_, _, _, rfl⟩ := withHandle_args passed
      exact .readHandle ..
    | writeCommand => exact writeCommand_accepts passed
    | addNotificationListener =>
      obtain ⟨_, _, _, rfl⟩ := withHandle_args passed
      exact .addNotificationListener ..
  · intro accepted
    cases accepted <;> exact ⟨_, rfl⟩

end Checks

namespace Method

def handleCount : Method → Nat
  | .findInformation | .findByTypeValue | .readByType | .readByGroupType => 2
  | .readHandle | .writeCommand | .addNotificationListener => 1

/-- The numbers that a call gives as handles. -/
def handles (method : Method) (args : List Argument) : List UInt32 :=
  (args.take method.handleCount).filterMap Argument.number?

def opcode : Method → Option UInt8
  | .findInformation => some attOpFindInfoReq
  | .findByTypeValue => some attOpFindByTypeReq
  | .readByType => some attOpReadByTypeReq
  | .readByGroupType => some attOpReadByGroupReq
  | .readHandle => some attOpReadReq
  | .writeCommand => some attOpWriteCmd
  | .addNotificationListener => none

def IsRequest : Method → Prop
  | .findInformation | .findByTypeValue | .readByType | .readByGroupType | .readHandle => True
  | .writeCommand | .addNotificationListener => False

/-- The PDU of the call fits the buffers of the connection, and its UUID has a type. -/
def Encodable (outside : Outside) (connection : Connection) (args : List Argument) : Method → Prop
  | .findInformation => connection.Sends none none
  | .findByTypeValue =>
    connection.Sends ((args[2]?.bind Argument.text?).map outside.btStringToUuid)
      (args[3]?.bind Argument.bytes?)
  | .readByType | .readByGroupType =>
    connection.Sends ((args[2]?.bind Argument.text?).map outside.btStringToUuid) none
  | .readHandle | .writeCommand => 3 ≤ connection.getBuffer.length
  | .addNotificationListener => True

end Method

def CarriesHandles (method : Method) (numbers : List UInt32) (pdu : List UInt8) : Prop :=
  ∃ (opcode : UInt8) (handles : List UInt16) (rest : List UInt8), method.opcode = some opcode ∧
    handles.map UInt16.toNat = numbers.map UInt32.toNat ∧
    pdu = opcode :: (handles.flatMap attPutU16 ++ rest)

def RegistersHandles (numbers : List UInt32) (before after : Att) : Prop :=
  ∃ key : UInt16, numbers.map UInt32.toNat = [key.toNat] ∧ after.notificationMap.lookup key ≠ none ∧
    ∀ other, other ≠ key → after.notificationMap.lookup other = before.notificationMap.lookup other

/-- A call throws, or what it sends or registers has the numbers it was given as its handles. -/
def KeepsHandles (outside : Outside) (peripheral : Connected) (method : Method)
    (args : List Argument) : Prop :=
  match invoke outside peripheral method args with
  | .error _ => False
  | .ok (_, .error _) => True
  | .ok (last, .ok out) =>
    (∀ pdu, .write pdu ∈ out → CarriesHandles method (method.handles args) pdu) ∧
      (method = .addNotificationListener →
        RegistersHandles (method.handles args) peripheral.att last.att)

def HandlesFit (method : Method) (args : List Argument) : Prop :=
  ∀ number ∈ method.handles args, number.toNat ≤ 0xFFFF

section Handles

variable {outside : Outside}

theorem getIntValue_uint32 (number : UInt32) :
    getIntValue (.finite number.toNat) =
      if number.toNat < 2 ^ 31 then some (number.toNat : Int) else none := by
  have ends : int.Holds number.toNat ↔ number.toNat < 2 ^ 31 := by
    show (-2147483648 : Int) ≤ number.toNat ∧ (number.toNat : Int) ≤ 2147483647 ↔ _
    omega
  split
  · rename_i small
    exact getIntValue_iff.mpr ⟨by rw [Int.cast_natCast], ends.mpr small⟩
  · rename_i large
    rw [Option.eq_none_iff_forall_ne_some]
    intro value taken
    obtain ⟨same, fits⟩ := getIntValue_iff.mp taken
    have equal : (number.toNat : Int) = value := by
      injection same with same
      exact_mod_cast same
    rw [← equal] at fits
    exact large (ends.mp fits)

theorem ofInt_natCast (number : Nat) : UInt16.ofInt number = UInt16.ofNat number := by
  rw [← UInt16.toNat_inj, UInt16.ofInt, UInt16.toNat_ofNat', UInt16.toNat_ofNat']
  omega

/-- A number of 16 bits gets through both conversions. -/
theorem handle_toNat (outside : Outside) (index : Nat) {number : UInt32} (small : number.toNat ≤ 0xFFFF) :
    (outside.handle index number).toNat = number.toNat := by
  rw [Outside.handle, getIntValue_uint32, if_pos (by omega), Option.getD_some, ofInt_natCast,
    UInt16.toNat_ofNat']
  omega

theorem handles_toNat {numbers : List UInt32} (small : ∀ number ∈ numbers, number.toNat ≤ 0xFFFF) :
    (numbers.mapIdx outside.handle).map UInt16.toNat = numbers.map UInt32.toNat := by
  apply List.ext_getElem?
  intro index
  rw [List.getElem?_map, List.getElem?_mapIdx, List.getElem?_map]
  cases found : numbers[index]? with
  | none => rfl
  | some number =>
    exact congrArg some (handle_toNat outside index (small number (List.mem_of_getElem? found)))

/-- What is a list of handles is a list of numbers of 16 bits. -/
theorem small_of_handles {numbers : List UInt32} {handles : List UInt16}
    (same : handles.map UInt16.toNat = numbers.map UInt32.toNat) :
    ∀ number ∈ numbers, number.toNat ≤ 0xFFFF := by
  intro number member
  have listed := List.mem_map_of_mem (f := UInt32.toNat) member
  rw [← same] at listed
  obtain ⟨handle, _, equal⟩ := List.mem_map.mp listed
  have bound := handle.toNat_lt
  omega

theorem carriesHandles_small {method : Method} {numbers : List UInt32} {pdu : List UInt8}
    (carries : CarriesHandles method numbers pdu) : ∀ number ∈ numbers, number.toNat ≤ 0xFFFF := by
  obtain ⟨_, handles, _, _, same, _⟩ := carries
  exact small_of_handles same

/-- The handles that come out of the conversions are in a PDU as given exactly if they all fit. -/
theorem carriesHandles_iff {method : Method} {opcode : UInt8} {rest : List UInt8}
    (numbers : List UInt32) (kind : method.opcode = some opcode) :
    CarriesHandles method numbers
        (opcode :: ((numbers.mapIdx outside.handle).flatMap attPutU16 ++ rest)) ↔
      ∀ number ∈ numbers, number.toNat ≤ 0xFFFF := by
  constructor
  · exact carriesHandles_small
  · intro small
    exact ⟨opcode, numbers.mapIdx outside.handle, rest, kind, handles_toNat small, rfl⟩

theorem carriesHandles_nil {method : Method} {numbers : List UInt32} :
    ¬CarriesHandles method numbers [] := by
  rintro ⟨_, _, _, _, _, empty⟩
  cases empty

end Handles

/-- The handles that a call gives to `Att`. -/
def callHandles : Call → List UInt16
  | .findInformation startHandle endHandle _ | .findByTypeValue startHandle endHandle _ _ _
  | .readByType startHandle endHandle _ _ | .readByGroupType startHandle endHandle _ _ =>
    [startHandle, endHandle]
  | .readAttribute handle _ | .writeCommand handle _ | .writeRequest handle _
  | .listenForNotifications handle _ => [handle]
  | .onError _ => []

section Encoding

variable {encoded : Except Fault (List UInt8 × Nat)} {pdu : List UInt8}

theorem write_builds (built : Builds encoded pdu) : Att.write encoded = .ok [.write pdu] := by
  obtain ⟨written, len, rfl, rfl⟩ := built
  rfl

variable {connection : Connection} {opcode : UInt8} {startHandle endHandle : UInt16}
  {uuid : Option BtUuid} {value : Option (List UInt8)}

theorem encodeRange_builds (sends : connection.Sends uuid value) :
    ∃ rest, Builds (encodeRange opcode startHandle endHandle uuid connection.getBuffer value)
      (opcode :: ([startHandle, endHandle].flatMap attPutU16 ++ rest)) := by
  obtain ⟨rest, len, encoded, long⟩ := encodeRange_sends opcode startHandle endHandle sends
  have size := rangeHeader_length opcode startHandle endHandle
  have whole : (rangeHeader opcode startHandle endHandle).take len =
      rangeHeader opcode startHandle endHandle := List.take_of_length_le (by omega)
  refine ⟨rest.take (len - 5), _, len, encoded, ?_⟩
  rw [List.take_append, whole, size]
  simp [rangeHeader]

/-- Whatever does not fit is sent as an empty PDU, or written past the end of the buffer. -/
theorem write_unsendable {out : List Effect}
    (unsendable : ∀ buffer len, encoded = .ok (buffer, len) → len = 0)
    (written : Att.write encoded = .ok out) : out = [.write []] := by
  cases encoded with
  | error fault => cases written
  | ok result =>
    cases written
    rw [unsendable result.1 result.2 rfl, List.take_zero]

theorem encodeHandle_small {handle : UInt16} {buffer : List UInt8} {bytes : List UInt8}
    (small : buffer.length < 3) : encodeHandle opcode handle buffer bytes = .ok (buffer, 0) := by
  rw [encodeHandle, if_pos small]

end Encoding

section Requests

variable {att : Att} {call : Call} {data : Nat}

theorem encoded_builds (token : call.token = some data) (sendable : call.Sendable att.connection) :
    ∃ encoded opcode rest, call.encoded att.connection = some encoded ∧ call.opcode = some opcode ∧
      Builds encoded (opcode :: ((callHandles call).flatMap attPutU16 ++ rest)) := by
  cases call with
  | writeCommand | writeRequest | listenForNotifications | onError => cases token
  | findInformation | findByTypeValue | readByType | readByGroupType =>
    obtain ⟨rest, built⟩ := encodeRange_builds sendable
    exact ⟨_, _, rest, rfl, rfl, built⟩
  | readAttribute handle =>
    have built := encodeHandle_builds attOpReadReq handle sendable []
    rw [← List.flatMap_singleton attPutU16 handle] at built
    exact ⟨_, _, _, rfl, rfl, built⟩

/-- What a request that finds the slot free sends. -/
theorem perform_sends (token : call.token = some data) (idle : att.currentRequest = none)
    (sendable : call.Sendable att.connection) :
    ∃ next opcode rest, call.opcode = some opcode ∧
      att.perform call =
        .ok (next, [.write (opcode :: ((callHandles call).flatMap attPutU16 ++ rest))]) := by
  obtain ⟨rd, encoded, encodes, performed⟩ := perform_idle token idle
  obtain ⟨same, opcode, rest, again, kind, built⟩ := encoded_builds token sendable
  rw [encodes] at again
  cases again
  rw [write_builds built] at performed
  exact ⟨_, opcode, rest, kind, performed⟩

theorem perform_unsendable (token : call.token = some data) (idle : att.currentRequest = none)
    (unsendable : ¬call.Sendable att.connection) {next : Att} {out : List Effect}
    (performed : att.perform call = .ok (next, out)) : out = [.write []] := by
  obtain ⟨rd, encoded, encodes, sent⟩ := perform_idle token idle
  rw [sent] at performed
  obtain ⟨written, wrote, made⟩ := bind_ok performed
  cases made
  apply write_unsendable _ wrote
  intro buffer len ok
  rw [ok] at encodes
  by_contra some_bytes
  exact unsendable (sendable_of_encoded encodes some_bytes)

/-- A request that finds the slot taken sends nothing. -/
theorem perform_pending (token : call.token = some data) (pending : att.currentRequest ≠ none) :
    ∃ out, att.perform call = .ok (att, out) ∧ ∀ pdu, Effect.write pdu ∉ out := by
  obtain ⟨effect, refused, own⟩ := perform_refused token pending
  refine ⟨[effect], refused, fun pdu written => ?_⟩
  rw [← List.mem_singleton.mp written] at own
  cases own

end Requests

/-- What a method makes of the arguments of a request that it accepts. -/
structure Requests (outside : Outside) (method : Method) (args : List Argument) (cd : CallbackData)
    (call : Nat → Call) : Prop where
  prepared : method.prepare outside args = .ok (cd, call)
  token : ∀ data, (call data).token = some data
  opcode : ∀ data, (call data).opcode = method.opcode
  handles : ∀ data, callHandles (call data) = (method.handles args).mapIdx outside.handle
  sendable : ∀ data connection,
    (call data).Sendable connection ↔ method.Encodable outside connection args

section Invoking

variable {outside : Outside} {peripheral : Connected} {method : Method} {args : List Argument}

theorem Accepts.requests (outside : Outside) (accepted : Accepts method args) (request : method.IsRequest) :
    ∃ cd call, Requests outside method args cd call := by
  cases accepted with
  | writeCommand | writeCommandCallback | addNotificationListener => cases request
  | findInformation | findByTypeValue | readByType | readByGroupType | readHandle =>
    exact ⟨_, _, rfl, fun _ => rfl, fun _ => rfl, fun _ => rfl, fun _ _ => Iff.rfl⟩

theorem invoke_rejected (outside : Outside) (peripheral : Connected) (rejected : ¬Accepts method args) :
    ∃ message, invoke outside peripheral method args = .ok (peripheral, .error message) := by
  unfold invoke
  cases prepared : method.prepare outside args with
  | error message => exact ⟨message, rfl⟩
  | ok made => exact absurd (prepare_ok_iff.mp ⟨made, prepared⟩) rejected

theorem keepsHandles_of_rejected (rejected : ¬Accepts method args) :
    KeepsHandles outside peripheral method args := by
  obtain ⟨message, thrown⟩ := invoke_rejected outside peripheral rejected
  unfold KeepsHandles
  rw [thrown]
  trivial

theorem invoke_performed {cd : CallbackData} {call : Nat → Call} {next : Att} {out : List Effect}
    (prepared : method.prepare outside args = .ok (cd, call))
    (performed : peripheral.att.perform (call peripheral.callbackData.length) = .ok (next, out)) :
    invoke outside peripheral method args =
      .ok (⟨next, peripheral.callbackData ++ [cd]⟩, .ok out) := by
  simp only [invoke, prepared, performed]
  rfl

theorem keepsHandles_iff_of_performed {cd : CallbackData} {call : Nat → Call} {next : Att}
    {out : List Effect} (prepared : method.prepare outside args = .ok (cd, call))
    (performed : peripheral.att.perform (call peripheral.callbackData.length) = .ok (next, out)) :
    KeepsHandles outside peripheral method args ↔
      (∀ pdu, .write pdu ∈ out → CarriesHandles method (method.handles args) pdu) ∧
        (method = .addNotificationListener →
          RegistersHandles (method.handles args) peripheral.att next) := by
  unfold KeepsHandles
  rw [invoke_performed prepared performed]

theorem keepsHandles_iff_of_sent {cd : CallbackData} {call : Nat → Call} {next : Att}
    {pdu : List UInt8} (sending : method ≠ .addNotificationListener)
    (prepared : method.prepare outside args = .ok (cd, call))
    (performed : peripheral.att.perform (call peripheral.callbackData.length) =
      .ok (next, [.write pdu])) :
    KeepsHandles outside peripheral method args ↔ CarriesHandles method (method.handles args) pdu := by
  rw [keepsHandles_iff_of_performed prepared performed]
  constructor
  · intro keeps
    exact keeps.1 pdu (List.mem_singleton_self _)
  · intro carries
    refine ⟨fun other written => ?_, fun listening => absurd listening sending⟩
    cases List.mem_singleton.mp written
    exact carries

theorem requests_keep_iff (accepted : Accepts method args) (request : method.IsRequest) :
    KeepsHandles outside peripheral method args ↔
      peripheral.att.currentRequest ≠ none ∨
        HandlesFit method args ∧ method.Encodable outside peripheral.att.connection args := by
  obtain ⟨cd, call, requests⟩ := accepted.requests outside request
  have sending : method ≠ .addNotificationListener := by
    rintro rfl
    cases request
  have token := requests.token peripheral.callbackData.length
  by_cases idle : peripheral.att.currentRequest = none
  · by_cases encodable : method.Encodable outside peripheral.att.connection args
    · obtain ⟨next, opcode, rest, kind, performed⟩ := perform_sends token idle
        ((requests.sendable _ _).mpr encodable)
      rw [requests.handles] at performed
      rw [requests.opcode] at kind
      rw [keepsHandles_iff_of_sent sending requests.prepared performed, carriesHandles_iff _ kind]
      simp only [idle, encodable, HandlesFit, ne_eq, not_true_eq_false, false_or, and_true]
    · simp only [idle, encodable, ne_eq, not_true_eq_false, and_false, or_false, iff_false]
      intro keeps
      cases performed : peripheral.att.perform (call peripheral.callbackData.length) with
      | error fault =>
        unfold KeepsHandles at keeps
        simp only [invoke, requests.prepared, performed] at keeps
        exact keeps
      | ok result =>
        obtain ⟨next, out⟩ := result
        have empty := perform_unsendable token idle
          (fun sendable => encodable ((requests.sendable _ _).mp sendable)) performed
        rw [empty] at performed
        rw [keepsHandles_iff_of_sent sending requests.prepared performed] at keeps
        exact carriesHandles_nil keeps
  · obtain ⟨out, performed, unwritten⟩ := perform_pending token idle
    rw [keepsHandles_iff_of_performed requests.prepared performed]
    apply iff_of_true _ (.inl idle)
    exact ⟨fun pdu written => absurd written (unwritten pdu), fun listening => absurd listening sending⟩

theorem Accepts.writes (outside : Outside) (accepted : Accepts .writeCommand args) :
    ∃ cd number value, Method.handles .writeCommand args = [number] ∧
      Method.prepare outside args .writeCommand =
        .ok (cd, fun _ => .writeCommand (outside.handle 0 number) value) := by
  cases accepted with
  | writeCommand number value => exact ⟨_, number, value, rfl, rfl⟩
  | writeCommandCallback number value => exact ⟨_, number, value, rfl, rfl⟩

theorem writeCommand_keeps_iff (accepted : Accepts .writeCommand args) :
    KeepsHandles outside peripheral .writeCommand args ↔
      HandlesFit .writeCommand args ∧
        Method.writeCommand.Encodable outside peripheral.att.connection args := by
  obtain ⟨cd, number, value, handles, prepared⟩ := accepted.writes outside
  have sending : Method.writeCommand ≠ .addNotificationListener := by decide
  have performs {pdu : List UInt8} (built : Builds (encodeHandle attOpWriteCmd
      (outside.handle 0 number) peripheral.att.connection.getBuffer value) pdu) :
      peripheral.att.perform (.writeCommand (outside.handle 0 number) value) =
        .ok (peripheral.att, [.write pdu]) := by
    rw [Att.perform, Att.writeCommand, write_builds built]
    rfl
  unfold HandlesFit Method.Encodable
  by_cases room : 3 ≤ peripheral.att.connection.getBuffer.length
  · have built := encodeHandle_builds attOpWriteCmd (outside.handle 0 number) room value
    rw [← List.flatMap_singleton attPutU16 (outside.handle 0 number)] at built
    rw [keepsHandles_iff_of_sent sending prepared (performs built), handles]
    simp only [room, and_true]
    exact carriesHandles_iff [number] rfl
  · have small : peripheral.att.connection.getBuffer.length < 3 := by omega
    have built : Builds (encodeHandle attOpWriteCmd (outside.handle 0 number)
        peripheral.att.connection.getBuffer value) [] := ⟨_, 0, encodeHandle_small small, rfl⟩
    rw [keepsHandles_iff_of_sent sending prepared (performs built)]
    exact iff_of_false carriesHandles_nil fun fits => room fits.2

theorem listenForNotifications_registers (att : Att) (handle : UInt16) (data : Nat) :
    ∃ next, att.listenForNotifications handle data = .ok (next, []) ∧
      next.notificationMap.lookup handle ≠ none ∧
      ∀ other, other ≠ handle →
        next.notificationMap.lookup other = att.notificationMap.lookup other := by
  unfold Att.listenForNotifications
  cases found : att.notificationMap.lookup handle with
  | some held =>
    refine ⟨att, rfl, ?_, fun other _ => rfl⟩
    rw [found]
    exact Option.some_ne_none held
  | none =>
    refine ⟨_, rfl, ?_, fun other different => ?_⟩
    · simp
    · have distinct : (other == handle) = false := beq_false_of_ne different
      simp [List.lookup_cons, distinct]

theorem registersHandles_small {numbers : List UInt32} {before next : Att}
    (registers : RegistersHandles numbers before next) : ∀ number ∈ numbers, number.toNat ≤ 0xFFFF := by
  obtain ⟨key, same, _, _⟩ := registers
  have alone : [key].map UInt16.toNat = numbers.map UInt32.toNat := same.symm
  exact small_of_handles alone

theorem addNotificationListener_keeps_iff (accepted : Accepts .addNotificationListener args) :
    KeepsHandles outside peripheral .addNotificationListener args ↔
      HandlesFit .addNotificationListener args := by
  cases accepted with
  | addNotificationListener number callback rest =>
    obtain ⟨next, performed, present, others⟩ := listenForNotifications_registers peripheral.att
      (outside.handle 0 number) peripheral.callbackData.length
    have prepared : Method.prepare outside (.uint32 number :: .function callback :: rest)
        .addNotificationListener =
          .ok (⟨callback, 0, 0⟩, .listenForNotifications (outside.handle 0 number)) := rfl
    rw [keepsHandles_iff_of_performed prepared performed]
    constructor
    · intro keeps
      exact registersHandles_small (keeps.2 rfl)
    · intro small
      have same := handle_toNat outside 0 (small number (List.mem_singleton_self _))
      refine ⟨fun pdu written => absurd written List.not_mem_nil, fun _ => ?_⟩
      exact ⟨outside.handle 0 number, congrArg (fun key => [key]) same.symm, present, others⟩

/-- The handles of a call arrive as they were given, unless some are cut, or no PDU can be made. -/
theorem keepsHandles_iff (outside : Outside) (peripheral : Connected) (method : Method)
    (args : List Argument) :
    KeepsHandles outside peripheral method args ↔
      ¬Accepts method args ∨ (method.IsRequest ∧ peripheral.att.currentRequest ≠ none) ∨
        HandlesFit method args ∧ method.Encodable outside peripheral.att.connection args := by
  by_cases accepted : Accepts method args
  · simp only [accepted, not_true_eq_false, false_or]
    cases method with
    | findInformation | findByTypeValue | readByType | readByGroupType | readHandle =>
      simpa only [Method.IsRequest, true_and] using requests_keep_iff accepted trivial
    | writeCommand =>
      simpa only [Method.IsRequest, false_and, false_or] using writeCommand_keeps_iff accepted
    | addNotificationListener =>
      rw [addNotificationListener_keeps_iff accepted]
      simp only [Method.IsRequest, Method.Encodable, false_and, false_or, and_true]
  · exact iff_of_true (keepsHandles_of_rejected accepted) (.inl accepted)

end Invoking

/-- A read of a handle that is no handle, which asks for the attribute with handle 3. -/
theorem cutHandle_read :
    ¬KeepsHandles ⟨fun _ => 0, fun _ => .unspec⟩ ⟨Att.new leConnection, []⟩ .readHandle
      [.uint32 0x10003, .function 7] := by
  intro keeps
  rcases (requests_keep_iff (.readHandle 0x10003 7 []) trivial).mp keeps with pending | ⟨fit, _⟩
  · exact pending rfl
  · exact absurd (fit 0x10003 (List.mem_singleton_self _)) (by decide)

section Listening

def Argument.forget : Argument → Client.Peripheral.Argument
  | .uint32 number => .uint32 number
  | .function callback => .function callback
  | .string _ | .buffer _ | .other => .other

/-- What the model of the listeners has of a peripheral. -/
def Connected.listening (peripheral : Connected) : Client.Peripheral.Listening where
  att := peripheral.att
  callbackData := peripheral.callbackData.map fun cd => cd.data.getD 0

def happenings (peripheral : Connected) : Except String (List Effect) → List Client.Peripheral.Happening
  | .error message => [.thrown message]
  | .ok out => out.map (Client.Peripheral.happening peripheral.listening.callbackData)

inductive ListeningEvent
  | addNotificationListener (args : List Argument)
  | received (bytes : List UInt8)

def ListeningEvent.forget : ListeningEvent → Client.Peripheral.Action
  | .addNotificationListener args => .addNotificationListener (args.map Argument.forget)
  | .received bytes => .received bytes

def listeningStep (outside : Outside) :
    Machine.Step Connected ListeningEvent Client.Peripheral.Happening Fault
  | peripheral, .addNotificationListener args => do
    let (next, result) ← invoke outside peripheral .addNotificationListener args
    return (next, happenings next result)
  | peripheral, .received bytes => do
    let (att, out) ← step peripheral.att (.received bytes)
    return ({ peripheral with att }, happenings peripheral (.ok out))

variable {outside : Outside} {peripheral : Connected}

theorem handleOf_eq (number : UInt32) :
    Client.Peripheral.handleOf (UInt16.ofInt (outside.uninitialised 0)) number =
      outside.handle 0 number := by
  unfold Client.Peripheral.handleOf Outside.handle
  rw [getIntValue_uint32]
  split
  · rw [Option.getD_some, ofInt_natCast]
  · rfl

theorem addNotificationListener_agrees (args : List Argument) :
    Client.Peripheral.addNotificationListener (UInt16.ofInt (outside.uninitialised 0))
        peripheral.listening (args.map Argument.forget) =
      (listeningStep outside peripheral (.addNotificationListener args)).map fun done =>
        (done.1.listening, done.2) := by
  match args with
  | [] | [_] => rfl
  | first :: second :: rest =>
    cases first with
    | string | buffer | function | other => rfl
    | uint32 number =>
      cases second with
      | string | buffer | uint32 | other => rfl
      | function callback =>
        obtain ⟨next, performed, _⟩ := listenForNotifications_registers peripheral.att
          (outside.handle 0 number) peripheral.callbackData.length
        have prepared : Method.prepare outside (.uint32 number :: .function callback :: rest)
            .addNotificationListener =
              .ok (⟨callback, 0, 0⟩, .listenForNotifications (outside.handle 0 number)) := rfl
        simp only [listeningStep, invoke_performed prepared performed]
        simp only [Client.Peripheral.addNotificationListener, Argument.forget, List.map_cons,
          handleOf_eq, Connected.listening, List.length_map, performed, bind, Except.bind]
        simp [happenings, Except.map, pure, Except.pure, Connected.listening]

/-- A peripheral that is only listened to runs as the model of the listeners does. -/
theorem listening_runs (outside : Outside) (peripheral : Connected) (events : List ListeningEvent) :
    Machine.run (Client.Peripheral.listeningStep (UInt16.ofInt (outside.uninitialised 0)))
        peripheral.listening (events.map ListeningEvent.forget) =
      (Machine.run (listeningStep outside) peripheral events).map fun done =>
        (done.1.listening, done.2) := by
  apply Machine.run_viewed
  intro peripheral event
  cases event with
  | addNotificationListener args => exact addNotificationListener_agrees args
  | received bytes =>
    simp only [ListeningEvent.forget, Client.Peripheral.listeningStep, listeningStep]
    cases handled : step peripheral.att (.received bytes) <;>
      simp [handled, Connected.listening, happenings, bind, Except.bind, Except.map, pure, Except.pure]

end Listening

end Btle.Wire.Peripheral

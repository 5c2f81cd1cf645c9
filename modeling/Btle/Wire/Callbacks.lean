import Btle.Client.Arrivals
import Btle.Client.Listing
import Btle.Wire.Arguments

namespace Btle.Wire.Peripheral

open Client Machine

/-- What a callback of JavaScript is called with. -/
inductive Argv
  | list (answer : Answer)
  | value (bytes : List UInt8)
  | message (text : String)
  | done
  | failed (error : String)
  deriving DecidableEq, Repr

/-- What JavaScript and the connection see; a call names the record with the callback, and the method
    that made it. -/
inductive Output
  | threw (message : String)
  | wrote (pdu : List UInt8)
  | called (method : Method) (data callback : Nat) (argv : Argv)
  | emitted (message : String)
  deriving DecidableEq, Repr

/-- Where the C++ of the binding has no defined behaviour left: a record used after it was deleted, given
    to another callback than it was made for or without a function, a message in the buffer of a function
    that has returned, or a copy from outside of what was received. -/
inductive BindingFault
  | att (fault : Fault)
  | list (fault : ListFault)
  | deadRecord
  | foreignCallback
  | nullCallback
  | danglingMessage
  | badCopy
  deriving DecidableEq, Repr

/-- A connected `Peripheral` with what has become of its records: the method that made each, the writes
    in their order, the callbacks that have not returned, the innermost first, each with the record that
    is deleted behind it, and what has been deleted. -/
structure Binding extends Connected where
  methods : List Method
  writing : List Nat
  running : List (Option Nat)
  deleted : List Nat

inductive BindingEvent
  | invoke (method : Method) (args : List Argument)
  | received (bytes : List UInt8)
  | readError (message : String)
  | written (error : Option String)
  | returned
  deriving DecidableEq, Repr

abbrev BindingResult := Except BindingFault (Binding × List Output)

def Method.onList : Method →
    Option (UInt8 → Option AttributeList → Option String → Except ListFault Answer)
  | .findInformation => some Client.Peripheral.onFindInformation
  | .findByTypeValue => some Client.Peripheral.onFindByType
  | .readByType => some Client.Peripheral.onReadByType
  | .readByGroupType => some Client.Peripheral.onReadByGroupType
  | .readHandle | .writeCommand | .addNotificationListener => none

/-- The text of `Att`, or the one of `createErrorMessage`, whose buffer is a local of that function. -/
def errorText (status : UInt8) (error : Option String) : Except BindingFault String :=
  match error.or (getErrorString status) with
  | some text => .ok text
  | none => .error .danglingMessage

/-- `Buffer::New` and `memcpy`. -/
def copied (buf : Buf) (len : Int) : Except BindingFault (List UInt8) :=
  match buf with
  | some bytes => if 0 ≤ len ∧ len ≤ bytes.length then .ok (bytes.take len.toNat) else .error .badCopy
  | none => .error .badCopy

/-- The arguments in `onReadAttribute` and `onReadNotification`. -/
def readArgv (status : UInt8) (buf : Buf) (len : Int) (error : Option String) :
    Except BindingFault Argv :=
  if status = 0 ∧ error = none then do
    let bytes ← copied buf len
    return .value bytes
  else do
    let text ← errorText status error
    return .message text

namespace Binding

def new (connection : Connection) : Binding where
  att := { Att.new connection with errorHandler := some 0 }
  callbackData := []
  methods := []
  writing := []
  running := []
  deleted := []

/-- The record behind a pointer that a callback is given. -/
def follow (binding : Binding) (data : Nat) : Except BindingFault (Method × CallbackData) :=
  if data ∈ binding.deleted then .error .deadRecord
  else
    match binding.methods[data]?, binding.callbackData[data]? with
    | some method, some cd => .ok (method, cd)
    | _, _ => .error .deadRecord

def call (binding : Binding) (method : Method) (data : Nat) (cd : CallbackData) (argv : Argv)
    (behind : Option Nat) : BindingResult :=
  match cd.data with
  | some callback =>
    .ok ({ binding with running := behind :: binding.running }, [.called method data callback argv])
  | none => .error .nullCallback

def delete (binding : Binding) (data : Nat) : BindingResult :=
  if data ∈ binding.deleted then .error .deadRecord
  else .ok ({ binding with deleted := data :: binding.deleted }, [])

/-- The four list callbacks; `sendError` deletes the record as well. -/
def onList (binding : Binding) (data : Nat) (status : UInt8) (list : Option AttributeList)
    (error : Option String) : BindingResult := do
  let (method, cd) ← binding.follow data
  match method.onList with
  | none => .error .foreignCallback
  | some handle =>
    if status ≠ 0 then
      let _ ← errorText status error
    match handle status list error with
    | .error fault => .error (.list fault)
    | .ok answer => binding.call method data cd (.list answer) (some data)

/-- An error leaves the record behind. -/
def onReadAttribute (binding : Binding) (data : Nat) (status : UInt8) (buf : Buf) (len : Int)
    (error : Option String) : BindingResult := do
  let (method, cd) ← binding.follow data
  if method = .readHandle then
    let argv ← readArgv status buf len error
    binding.call method data cd argv (if status = 0 ∧ error = none then some data else none)
  else .error .foreignCallback

def onReadNotification (binding : Binding) (data : Nat) (status : UInt8) (buf : Buf) (len : Int)
    (error : Option String) : BindingResult := do
  let (method, cd) ← binding.follow data
  if method = .addNotificationListener then
    let argv ← readArgv status buf len error
    binding.call method data cd argv none
  else .error .foreignCallback

def onWrite (binding : Binding) (data : Nat) (error : Option String) : BindingResult := do
  let (method, cd) ← binding.follow data
  match error, cd.data with
  | some text, none => .ok ({ binding with running := some data :: binding.running }, [.emitted text])
  | some text, some _ => binding.call method data cd (.failed text) (some data)
  | none, some _ => binding.call method data cd .done (some data)
  | none, none => binding.delete data

def deliver (binding : Binding) : Effect → BindingResult
  | .write pdu => .ok (binding, [.wrote pdu])
  | .attrListCb data status list error => binding.onList data status list error
  | .readAttrCb data status buf len error => binding.onReadAttribute data status buf len error
  | .notification data status buf len error => binding.onReadNotification data status buf len error
  | .errorHandler _ message => .ok (binding, [.emitted message])

def deliverAll (binding : Binding) : List Effect → BindingResult
  | [] => .ok (binding, [])
  | effect :: effects => do
    let (binding, first) ← binding.deliver effect
    let (binding, rest) ← binding.deliverAll effects
    return (binding, first ++ rest)

/-- The binding with the record that a method has made. -/
def made (binding : Binding) (connected : Connected) (method : Method) : Binding :=
  { binding with
    toConnected := connected
    methods := binding.methods ++ [method]
    writing := if method = .writeCommand then binding.writing ++ [binding.callbackData.length]
      else binding.writing }

def invoked (binding : Binding) (method : Method) :
    Except Fault (Connected × Except String (List Effect)) → BindingResult
  | .error fault => .error (.att fault)
  | .ok (_, .error message) => .ok (binding, [.threw message])
  | .ok (connected, .ok effects) => (binding.made connected method).deliverAll effects

def handled (binding : Binding) : Result → BindingResult
  | .error fault => .error (.att fault)
  | .ok (att, effects) => { binding with att }.deliverAll effects

/-- One event handled to the end, or up to the call of a callback, which is the last thing that is done
    before the deletion behind it. -/
def step (outside : Outside) (binding : Binding) : BindingEvent → BindingResult
  | .invoke method args => binding.invoked method (Peripheral.invoke outside binding.toConnected method args)
  | .received bytes => binding.handled (Client.step binding.att (.received bytes))
  | .readError message => binding.handled (Client.step binding.att (.readError message))
  | .written error =>
    match binding.writing with
    | [] => .ok (binding, [])
    | data :: writing => { binding with writing }.onWrite data error
  | .returned =>
    match binding.running with
    | [] => .ok (binding, [])
    | none :: running => .ok ({ binding with running }, [])
    | some data :: running => { binding with running }.delete data

end Binding

/-- The record that is neither deleted behind a call nor kept for another. -/
def Output.forgets : Output → Multiset Nat
  | .called .readHandle data _ (.message _) => {data}
  | _ => 0

/-- The callback of the record is called. -/
def Output.names (data : Nat) : Output → Bool
  | .called _ token _ _ => token = data
  | .threw _ | .wrote _ | .emitted _ => false

namespace Binding

section Deliver

variable {binding next : Binding} {effect : Effect} {effects : List Effect} {out : List Output}

theorem follow_ok {data : Nat} {method : Method} {cd : CallbackData}
    (follows : binding.follow data = .ok (method, cd)) :
    data ∉ binding.deleted ∧ binding.methods[data]? = some method ∧ binding.callbackData[data]? = some cd := by
  unfold follow at follows
  split at follows
  · cases follows
  · rename_i alive
    split at follows
    · rename_i known recorded
      cases follows
      exact ⟨alive, known, recorded⟩
    · cases follows

theorem call_ok {method : Method} {data : Nat} {cd : CallbackData} {argv : Argv} {behind : Option Nat}
    (called : binding.call method data cd argv behind = .ok (next, out)) :
    ∃ callback, cd.data = some callback ∧ next = { binding with running := behind :: binding.running } ∧
      out = [.called method data callback argv] := by
  unfold call at called
  split at called
  · rename_i callback has
    cases called
    exact ⟨callback, has, rfl, rfl⟩
  · cases called

/-- All that can become of an effect of `Att`: it is passed on, or the callback of a record is called
    and the record kept in one place, or forgotten. -/
inductive Told (binding : Binding) : Effect → Binding → List Output → Prop
  | wrote (pdu : List UInt8) : Told binding (.write pdu) binding [.wrote pdu]
  | emitted (data : Nat) (message : String) :
      Told binding (.errorHandler data message) binding [.emitted message]
  | answered {effect : Effect} {method : Method} {data callback : Nat} {cd : CallbackData} {argv : Argv}
      {behind : Option Nat} (own : effect.answered = some data)
      (follows : binding.follow data = .ok (method, cd)) (has : cd.data = some callback)
      (once : method ≠ .addNotificationListener)
      (kept : account behind + (Output.called method data callback argv).forgets = {data}) :
      Told binding effect { binding with running := behind :: binding.running }
        [.called method data callback argv]
  | notified {effect : Effect} {data callback : Nat} {cd : CallbackData} {argv : Argv}
      (unanswered : effect.answered = none)
      (follows : binding.follow data = .ok (.addNotificationListener, cd)) (has : cd.data = some callback) :
      Told binding effect { binding with running := none :: binding.running }
        [.called .addNotificationListener data callback argv]

theorem bindingBind_ok {α β : Type} {first : Except BindingFault α} {onward : α → Except BindingFault β}
    {result : β} (h : first >>= onward = .ok result) :
    ∃ value, first = .ok value ∧ onward value = .ok result := by
  cases first with
  | error => cases h
  | ok value => exact ⟨value, rfl, h⟩

theorem onList_told {data : Nat} {status : UInt8} {list : Option AttributeList} {error : Option String}
    (done : binding.onList data status list error = .ok (next, out)) :
    Told binding (.attrListCb data status list error) next out := by
  obtain ⟨⟨method, cd⟩, follows, done⟩ := bindingBind_ok done
  dsimp only at done
  split at done
  · cases done
  · rename_i handle made
    have called : ∃ answer, binding.call method data cd (.list answer) (some data) = .ok (next, out) := by
      split at done
      · obtain ⟨_, _, done⟩ := bindingBind_ok done
        split at done
        · cases done
        · exact ⟨_, done⟩
      · split at done
        · cases done
        · exact ⟨_, done⟩
    obtain ⟨answer, called⟩ := called
    obtain ⟨callback, has, rfl, rfl⟩ := call_ok called
    have once : method ≠ .addNotificationListener := by
      rintro rfl
      cases made
    apply Told.answered rfl follows has once
    cases method <;> rfl

theorem onReadAttribute_told {data : Nat} {status : UInt8} {buf : Buf} {len : Int} {error : Option String}
    (done : binding.onReadAttribute data status buf len error = .ok (next, out)) :
    Told binding (.readAttrCb data status buf len error) next out := by
  obtain ⟨⟨method, cd⟩, follows, done⟩ := bindingBind_ok done
  dsimp only at done
  split at done
  · rename_i made
    subst made
    obtain ⟨argv, reads, done⟩ := bindingBind_ok done
    obtain ⟨callback, has, rfl, rfl⟩ := call_ok done
    apply Told.answered rfl follows has nofun
    unfold readArgv at reads
    split at reads
    · rename_i fine
      obtain ⟨bytes, _, reads⟩ := bindingBind_ok reads
      cases reads
      rw [if_pos fine]
      rfl
    · rename_i failed
      obtain ⟨text, _, reads⟩ := bindingBind_ok reads
      cases reads
      rw [if_neg failed]
      rfl
  · cases done

theorem onReadNotification_told {data : Nat} {status : UInt8} {buf : Buf} {len : Int}
    {error : Option String} (done : binding.onReadNotification data status buf len error = .ok (next, out)) :
    Told binding (.notification data status buf len error) next out := by
  obtain ⟨⟨method, cd⟩, follows, done⟩ := bindingBind_ok done
  dsimp only at done
  split at done
  · rename_i made
    subst made
    obtain ⟨argv, _, done⟩ := bindingBind_ok done
    obtain ⟨callback, has, rfl, rfl⟩ := call_ok done
    exact .notified rfl follows has
  · cases done

theorem deliver_told (done : binding.deliver effect = .ok (next, out)) : Told binding effect next out := by
  cases effect with
  | write pdu =>
    cases done
    exact .wrote pdu
  | errorHandler data message =>
    cases done
    exact .emitted data message
  | attrListCb => exact onList_told done
  | readAttrCb => exact onReadAttribute_told done
  | notification => exact onReadNotification_told done

end Deliver

end Binding

end Btle.Wire.Peripheral

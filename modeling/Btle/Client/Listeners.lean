import Btle.Client.Listing
import Btle.Client.Notifications

namespace Btle.Client.Peripheral

open Machine

/-- An argument of a native method, as far as the checks tell arguments apart. -/
inductive Argument
  | uint32 (number : UInt32)
  | function (callback : Nat)
  | other
  deriving DecidableEq, Repr

/-- A connected `Peripheral`. Of the records `callbackData` of its listeners, which are told apart
    by the order they were made in, it keeps the callbacks. -/
structure Listening where
  att : Att
  callbackData : List Nat

inductive Action
  | addNotificationListener (args : List Argument)
  | received (bytes : List UInt8)
  deriving DecidableEq, Repr

/-- What JavaScript sees: exceptions, calls of listeners with an error and a buffer, 'error' events,
    and what the callbacks of requests are given. -/
inductive Happening
  | thrown (message : String)
  | called (callback : Nat) (error : Option String) (value : Option (List UInt8))
  | emitted (error : String)
  | passed (effect : Effect)
  deriving DecidableEq, Repr

def onReadNotification (status : UInt8) (callback : Nat) (buf : Buf) (len : Int)
    (error : Option String) : Happening :=
  if status = 0 ∧ error = none then .called callback none (some ((buf.getD []).take len.toNat))
  else .called callback (some (error.getD (createErrorMessage status))) none

def happening (callbackData : List Nat) (effect : Effect) : Happening :=
  match effect with
  | .notification data status buf len error =>
    match callbackData[data]? with
    | some callback => onReadNotification status callback buf len error
    | none => .passed effect
  | .errorHandler _ message => .emitted message
  | .write _ | .attrListCb .. | .readAttrCb .. => .passed effect

/-- The `int handle` that becomes a `uint16_t`; `getIntValue` does not touch it for a number that
    is no `int`. -/
def handleOf (uninitialised : UInt16) (number : UInt32) : UInt16 :=
  if number.toNat < 2 ^ 31 then UInt16.ofNat number.toNat else uninitialised

def addNotificationListener (uninitialised : UInt16) (listening : Listening) :
    List Argument → Except Fault (Listening × List Happening)
  | first :: second :: _ =>
    match first with
    | .uint32 number =>
      match second with
      | .function callback => do
        let (att, out) ← listening.att.listenForNotifications (handleOf uninitialised number)
          listening.callbackData.length
        let callbackData := listening.callbackData ++ [callback]
        return (⟨att, callbackData⟩, out.map (happening callbackData))
      | _ => .ok (listening, [.thrown "Second argument must be a callback"])
    | _ => .ok (listening, [.thrown "First argument must be a handle number"])
  | _ => .ok (listening, [.thrown "Wrong number of arguments"])

def listeningStep (uninitialised : UInt16) : Step Listening Action Happening Fault
  | listening, .addNotificationListener args =>
    addNotificationListener uninitialised listening args
  | listening, .received bytes => do
    let (att, out) ← step listening.att (.received bytes)
    return ({ listening with att }, out.map (happening listening.callbackData))

def handleAt (low high : UInt8) : UInt16 := UInt16.ofNat (LittleEndian.number [low, high])

def notify (low high : UInt8) (payload : List UInt8) : Action :=
  .received (attOpHandleNotify :: low :: high :: payload)

def listenerFor (handle : UInt16) : Action → Option Nat
  | .addNotificationListener (.uint32 number :: .function callback :: _) =>
    if number.toNat = handle.toNat then some callback else none
  | _ => none

def listenersFor (handle : UInt16) (actions : List Action) : List Nat :=
  actions.filterMap (listenerFor handle)

def Happening.heardBy (callback : Nat) : Happening → Option (Option String × Option (List UInt8))
  | .called other error value => if other = callback then some (error, value) else none
  | .thrown _ | .emitted _ | .passed _ => none

def heardBy (callback : Nat) (out : List Happening) :
    List (Option String × Option (List UInt8)) :=
  out.filterMap (Happening.heardBy callback)

/-- Every listener hears the payload exactly once, and nobody else hears anything. -/
def Delivered (listeners : List Nat) (payload : List UInt8) (out : List Happening) : Prop :=
  ∀ callback, heardBy callback out = if callback ∈ listeners then [(none, some payload)] else []

/-- Each notification of a run is delivered to the listeners registered for its handle by then. -/
def DeliversAll (uninitialised : UInt16) (start : Listening) (actions : List Action) : Prop :=
  ∀ earlier low high payload later, actions = earlier ++ notify low high payload :: later →
    ∃ reached before next out, run (listeningStep uninitialised) start earlier = .ok (reached, before) ∧
      listeningStep uninitialised reached (notify low high payload) = .ok (next, out) ∧
      Delivered (listenersFor (handleAt low high) earlier) payload out

/-- No notification comes for a handle that two listeners are registered for. -/
def OneListener (actions : List Action) : Prop :=
  ∀ earlier low high payload later, actions = earlier ++ notify low high payload :: later →
    ∀ first ∈ listenersFor (handleAt low high) earlier,
      ∀ second ∈ listenersFor (handleAt low high) earlier, first = second

/-- Calls for handles of 16 bits, and notifications that are whole. -/
def Action.Proper : Action → Prop
  | .addNotificationListener (.uint32 number :: _) => number.toNat ≤ 0xFFFF
  | .addNotificationListener _ => True
  | .received bytes => bytes.head? = some attOpHandleNotify ∧ 3 ≤ bytes.length

/-- The map leads to the record of the first listener of each handle that has any. -/
structure Knows (listening : Listening) (seen : List Action) : Prop where
  record : ∀ handle data, listening.att.notificationMap.lookup handle = some data →
    data < listening.callbackData.length ∧
      listening.callbackData[data]? = (listenersFor handle seen).head?
  unheard : ∀ handle, listening.att.notificationMap.lookup handle = none →
    listenersFor handle seen = []

theorem handleOf_proper {number : UInt32} (small : number.toNat ≤ 0xFFFF)
    (uninitialised handle : UInt16) :
    handleOf uninitialised number = handle ↔ number.toNat = handle.toNat := by
  have fits : number.toNat < 2 ^ 31 := by omega
  have room : number.toNat < 2 ^ 16 := by omega
  rw [handleOf, if_pos fits, ← UInt16.toNat_inj, UInt16.toNat_ofNat', Nat.mod_eq_of_lt room]

theorem listenersFor_snoc (handle : UInt16) (seen : List Action) (action : Action) :
    listenersFor handle (seen ++ [action]) =
      listenersFor handle seen ++ (listenerFor handle action).toList := by
  rw [listenersFor, List.filterMap_append, ← listenersFor]
  cases found : listenerFor handle action with
  | none => simp [found]
  | some callback => simp [found]

theorem heardBy_called (callback other : Nat) (error : Option String) (value : Option (List UInt8)) :
    heardBy callback [.called other error value] =
      if other = callback then [(error, value)] else [] := by
  rw [heardBy, List.filterMap_cons, Happening.heardBy]
  by_cases same : other = callback
  · rw [if_pos same, if_pos same]
    rfl
  · rw [if_neg same, if_neg same]
    rfl

section Steps

variable {uninitialised : UInt16} {listening : Listening} {seen : List Action}

theorem Knows.unregistered (knows : Knows listening seen) {action : Action}
    (nobody : ∀ handle, listenerFor handle action = none) : Knows listening (seen ++ [action]) := by
  have same (handle : UInt16) : listenersFor handle (seen ++ [action]) = listenersFor handle seen := by
    rw [listenersFor_snoc, nobody, Option.toList_none, List.append_nil]
  constructor
  · intro handle data found
    rw [same]
    exact knows.record handle data found
  · intro handle missing
    rw [same]
    exact knows.unheard handle missing

/-- A record that the map leads to stays the one of the first listener, whoever comes behind it. -/
theorem Knows.record_stays (knows : Knows listening seen) {handle : UInt16} {data : Nat}
    (found : listening.att.notificationMap.lookup handle = some data) (callback : Nat)
    (added : List Nat) :
    data < (listening.callbackData ++ [callback]).length ∧
      (listening.callbackData ++ [callback])[data]? = (listenersFor handle seen ++ added).head? := by
  obtain ⟨inside, first⟩ := knows.record handle data found
  obtain ⟨other, head⟩ : ∃ other, (listenersFor handle seen).head? = some other := by
    rw [← first]
    exact ⟨_, List.getElem?_eq_getElem inside⟩
  refine ⟨by simp only [List.length_append]; omega, ?_⟩
  rw [List.getElem?_append_left inside, first, List.head?_append, head, Option.some_or]

theorem Knows.registered (knows : Knows listening seen) {number : UInt32}
    (small : number.toNat ≤ 0xFFFF) (callback : Nat) (rest : List Argument) :
    let args := .uint32 number :: .function callback :: rest
    ∃ next, addNotificationListener uninitialised listening args = .ok (next, []) ∧
      Knows next (seen ++ [.addNotificationListener args]) := by
  intro args
  have listeners (handle : UInt16) : listenersFor handle (seen ++ [.addNotificationListener args]) =
      listenersFor handle seen ++
        if handleOf uninitialised number = handle then [callback] else [] := by
    rw [listenersFor_snoc, listenerFor]
    simp only [handleOf_proper small uninitialised handle]
    split <;> rfl
  simp only [args, addNotificationListener, Att.listenForNotifications]
  generalize handleOf uninitialised number = given at listeners
  cases held : listening.att.notificationMap.lookup given with
  | some kept =>
    refine ⟨_, rfl, ⟨?_, ?_⟩⟩
    · intro handle data found
      rw [listeners]
      exact knows.record_stays found callback _
    · intro handle missing
      have apart : given ≠ handle := by
        intro same
        rw [same, missing] at held
        cases held
      rw [listeners, if_neg apart, knows.unheard handle missing, List.nil_append]
  | none =>
    refine ⟨_, rfl, ⟨?_, ?_⟩⟩
    · intro handle data found
      rw [List.lookup_cons] at found
      by_cases same : handle = given
      · subst same
        simp only [beq_self_eq_true] at found
        cases found
        refine ⟨by simp, ?_⟩
        rw [listeners, knows.unheard handle held, if_pos rfl]
        simp
      · rw [beq_false_of_ne same] at found
        rw [listeners]
        exact knows.record_stays found callback _
    · intro handle missing
      rw [List.lookup_cons] at missing
      by_cases same : handle = given
      · subst same
        simp only [beq_self_eq_true] at missing
        cases missing
      · rw [beq_false_of_ne same] at missing
        rw [listeners, if_neg (Ne.symm same), knows.unheard handle missing, List.append_nil]

/-- `Att` stays as it is, and the first listener of the handle alone hears the notification. -/
theorem Knows.notified (knows : Knows listening seen) (low high : UInt8) (payload : List UInt8) :
    ∃ out, listeningStep uninitialised listening (notify low high payload) = .ok (listening, out) ∧
      ∀ callback, heardBy callback out =
        if (listenersFor (handleAt low high) seen).head? = some callback then [(none, some payload)]
        else [] := by
  simp only [listeningStep, notify, step_received_notify]
  show ∃ out, (match listening.att.notificationMap.lookup (handleAt low high) with
    | some data => .ok (listening.att, [.notification data 0 (some payload) payload.length none])
    | none => listening.att.reportError (unexpectedNotification (handleAt low high)) : Result) >>= _ =
      _ ∧ _
  cases held : listening.att.notificationMap.lookup (handleAt low high) with
  | some data =>
    obtain ⟨inside, first⟩ := knows.record (handleAt low high) data held
    have listener := List.getElem?_eq_getElem inside
    refine ⟨_, rfl, ?_⟩
    intro callback
    simp only [← first, listener, List.map_singleton, happening, onReadNotification, and_self, if_true]
    simp only [heardBy_called, Option.getD_some, Int.toNat_natCast, List.take_length, Option.some_inj]
  | none =>
    have nobody := knows.unheard (handleAt low high) held
    rw [nobody, Att.reportError]
    cases listening.att.errorHandler with
    | none => exact ⟨[], rfl, fun _ => rfl⟩
    | some data => exact ⟨[.emitted _], rfl, fun _ => rfl⟩

theorem Knows.step (knows : Knows listening seen) {action : Action} (proper : action.Proper) :
    ∃ next out, listeningStep uninitialised listening action = .ok (next, out) ∧
      Knows next (seen ++ [action]) := by
  cases action with
  | received bytes =>
    obtain ⟨low, high, payload, rfl⟩ := notify_shape proper.1 proper.2
    obtain ⟨out, stepped, _⟩ := knows.notified low high payload
    exact ⟨listening, out, stepped, knows.unregistered fun _ => rfl⟩
  | addNotificationListener args =>
    match args, proper with
    | .uint32 number :: .function callback :: rest, small =>
      obtain ⟨next, stepped, known⟩ := knows.registered small callback rest
      exact ⟨next, [], stepped, known⟩
    | [], _ | [.uint32 _], _ | [.function _], _ | [.other], _ | .uint32 _ :: .uint32 _ :: _, _
    | .uint32 _ :: .other :: _, _ | .function _ :: _ :: _, _ | .other :: _ :: _, _ =>
      exact ⟨listening, _, rfl, knows.unregistered fun _ => rfl⟩

theorem Knows.run (knows : Knows listening seen) {actions : List Action}
    (proper : ∀ action ∈ actions, action.Proper) :
    ∃ last out, Machine.run (listeningStep uninitialised) listening actions = .ok (last, out) ∧
      Knows last (seen ++ actions) := by
  induction actions generalizing listening seen with
  | nil => exact ⟨listening, [], rfl, by rwa [List.append_nil]⟩
  | cons action actions ih =>
    rw [List.forall_mem_cons] at proper
    obtain ⟨next, first, stepped, known⟩ := knows.step proper.1
    obtain ⟨last, rest, ran, knows_last⟩ := ih known proper.2
    rw [List.append_assoc] at knows_last
    exact ⟨last, first ++ rest, run_cons_of_step stepped ran, knows_last⟩

end Steps

theorem delivered_iff {listeners : List Nat} {payload : List UInt8} {out : List Happening}
    (heard : ∀ callback, heardBy callback out =
      if listeners.head? = some callback then [(none, some payload)] else []) :
    Delivered listeners payload out ↔
      ∀ first ∈ listeners, ∀ second ∈ listeners, first = second := by
  unfold Delivered
  cases listeners with
  | nil => simp [heard]
  | cons listener others =>
    have only (callback : Nat) : heardBy callback out =
        if listener = callback then [(none, some payload)] else [] := by
      simp only [heard callback, List.head?_cons, Option.some_inj]
    constructor
    · intro delivered
      have same : ∀ other ∈ listener :: others, listener = other := by
        intro other member
        by_contra apart
        have called := delivered other
        rw [only, if_neg apart, if_pos member] at called
        cases called
      intro first here second there
      rw [← same first here, same second there]
    · intro same callback
      rw [only]
      congr 1
      apply propext
      constructor
      · rintro rfl
        exact List.mem_cons_self
      · exact same listener List.mem_cons_self callback

/-- Every notification of a run is delivered to all of its listeners exactly if never two of them
    are registered for its handle: the map keeps the first one. -/
theorem notifications_delivered_iff (uninitialised : UInt16) {start : Listening} {actions : List Action}
    (fresh : start.att.notificationMap = []) (proper : ∀ action ∈ actions, action.Proper) :
    DeliversAll uninitialised start actions ↔ OneListener actions := by
  have nothing : Knows start [] := by
    constructor
    · intro handle data found
      rw [fresh] at found
      cases found
    · exact fun _ _ => rfl
  apply forall_congr'
  intro earlier
  apply forall_congr'
  intro low
  apply forall_congr'
  intro high
  apply forall_congr'
  intro payload
  apply forall_congr'
  intro later
  apply imp_congr_right
  intro split
  have before : ∀ action ∈ earlier, action.Proper := by
    intro action member
    apply proper
    rw [split]
    exact List.mem_append_left _ member
  obtain ⟨reached, out, ran, known⟩ := nothing.run before
  obtain ⟨delivered, stepped, heard⟩ := known.notified low high payload
  rw [List.nil_append] at heard
  rw [← delivered_iff heard]
  constructor
  · rintro ⟨other, emitted, next, called, again, notified, holds⟩
    rw [ran] at again
    cases again
    rw [stepped] at notified
    cases notified
    exact holds
  · intro holds
    exact ⟨reached, out, reached, delivered, ran, stepped, holds⟩

def Listening.connected : Listening where
  att := { Att.new leConnection with errorHandler := some 0 }
  callbackData := []

def sharedHandle : List Action :=
  [.addNotificationListener [.uint32 0x25, .function 1],
    .addNotificationListener [.uint32 0x25, .function 2], notify 0x25 0x00 [0xAB]]

theorem sharedHandle_unheard : ¬ DeliversAll 0 .connected sharedHandle := by
  intro delivers
  obtain ⟨reached, before, next, out, ran, stepped, delivered⟩ :=
    delivers [.addNotificationListener [.uint32 0x25, .function 1],
      .addNotificationListener [.uint32 0x25, .function 2]] 0x25 0x00 [0xAB] [] rfl
  cases ran
  cases stepped
  have heard := delivered 2
  revert heard
  decide

/-- The temperature and the accelerometer of a tag, each with its listener. -/
def sensorTag : List Action :=
  [.addNotificationListener [.uint32 0x25, .function 1],
    .addNotificationListener [.uint32 0x2D, .function 2], notify 0x2D 0x00 [1, 2, 3],
    notify 0x25 0x00 [0xAB]]

theorem sensorTag_delivered_iff : DeliversAll 0 .connected sensorTag ↔ OneListener sensorTag :=
  notifications_delivered_iff 0 rfl (by
    intro action member
    simp only [sensorTag, notify, List.mem_cons, List.not_mem_nil, or_false] at member
    rcases member with rfl | rfl | rfl | rfl <;> simp [Action.Proper])

end Btle.Client.Peripheral

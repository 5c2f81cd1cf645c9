import Btle.Server.MtuInForce
import Btle.Server.Tolerance

namespace Btle.Server

open Machine Throwing

/-- A `Peripheral` with its one `CentralInterface`: how many functions `listen` has registered on
    `connect`, the data handlers these have registered on `data`, by number, and what the native
    layer is doing. -/
structure Peripheral where
  connectListeners : Nat
  dataListeners : List Nat
  handlers : Nat
  polling : Bool
  connected : Bool
  deriving DecidableEq, Repr

def Peripheral.create : Peripheral where
  connectListeners := 0
  dataListeners := []
  handlers := 0
  polling := false
  connected := false

/-- What happens to the peripheral, or elsewhere in the server that all peripherals share. -/
inductive PeripheralEvent
  | listen
  | connect (mtu : UInt16)
  | data (bytes : Buffer)
  | close
  | elsewhere (event : LinkEvent)
  deriving DecidableEq, Repr

def PeripheralEvent.isConnect : PeripheralEvent → Bool
  | .connect _ => true
  | .listen | .data _ | .close | .elsewhere _ => false

/-- Events the native layer does not emit: a connection nobody listens for, data and a close
    without a connection. -/
inductive Impossible
  | notListening
  | notConnected
  deriving DecidableEq, Repr

/-- The function that `listen` registers: `c.on('data', att.createHandler(c))`. -/
def Peripheral.attach (peripheral : Peripheral) : Peripheral :=
  { peripheral with
    dataListeners := peripheral.dataListeners ++ [peripheral.handlers]
    handlers := peripheral.handlers + 1 }

/-- A peripheral and what its data handlers work on. -/
structure Served where
  peripheral : Peripheral
  world : World

def Served.start (world : World) : Served := ⟨.create, world⟩

/-- `emit('data', bytes)`: the handlers are called one after another, up to the first that throws. -/
def emitData (host : Host) (central : CentralRef) (bytes : Buffer) :
    List Nat → World → World × List (Nat × Buffer)
  | [], world => (world, [])
  | handler :: rest, world =>
    match (createHandler host central bytes).run world with
    | .ok _ next =>
      let (last, calls) := emitData host central bytes rest next
      (last, (handler, bytes) :: calls)
    | .error _ next => (next, [(handler, bytes)])

/-- One event; it emits the calls of data handlers that it makes. No listener is ever removed. After
    an exception the process goes on if the application listens to 'uncaughtException'. -/
def peripheralStep (host : Host) (central : CentralRef) :
    Step Served PeripheralEvent (Nat × Buffer) Impossible
  | ⟨peripheral, world⟩, .listen =>
    .ok (⟨{ peripheral with
      connectListeners := peripheral.connectListeners + 1, polling := true }, world⟩, [])
  | ⟨peripheral, world⟩, .connect mtu =>
    if peripheral.polling then
      .ok (⟨Nat.repeat Peripheral.attach peripheral.connectListeners
        { peripheral with polling := false, connected := true },
        after (linkProgram host (.connect central mtu)) world⟩, [])
    else .error .notListening
  | ⟨peripheral, world⟩, .data bytes =>
    if peripheral.connected then
      let (next, calls) := emitData host central bytes peripheral.dataListeners world
      .ok (⟨peripheral, next⟩, calls)
    else .error .notConnected
  | ⟨peripheral, world⟩, .close =>
    if peripheral.connected then .ok (⟨{ peripheral with connected := false }, world⟩, [])
    else .error .notConnected
  | ⟨peripheral, world⟩, .elsewhere event =>
    .ok (⟨peripheral, after (linkProgram host event) world⟩, [])

def DispatchedOnce (host : Host) (central : CentralRef) (served : Served) (bytes : Buffer) : Prop :=
  ∃ next handler, peripheralStep host central served (.data bytes) = .ok (next, [(handler, bytes)])

/-- Every data buffer of a sequence of events, so far as it can happen, is dispatched once. -/
def OneDispatcher (host : Host) (central : CentralRef) (world : World)
    (events : List PeripheralEvent) : Prop :=
  ∀ earlier bytes, earlier ++ [.data bytes] <+: events → ∀ served out,
    run (peripheralStep host central) (.start world) earlier = .ok (served, out) →
      served.peripheral.connected → DispatchedOnce host central served bytes

def Unconnected (events : List PeripheralEvent) : Prop := ∀ mtu, .connect mtu ∉ events

def FirstConnection (earlier : List PeripheralEvent) : Prop :=
  ∃ before mtu later, earlier = before ++ .connect mtu :: later ∧ Unconnected before ∧
    Unconnected later ∧ before.count .listen = 1

/-- Data comes on a first connection that was listened for once, or is more than its handler can
    bear. -/
def StaysOnFirst (host : Host) (central : CentralRef) (world : World)
    (events : List PeripheralEvent) : Prop :=
  ∀ earlier bytes, earlier ++ [.data bytes] <+: events → ∀ served out,
    run (peripheralStep host central) (.start world) earlier = .ok (served, out) →
      served.peripheral.connected →
        FirstConnection earlier ∨ ¬ Tolerated host central served.world bytes

/-- How many data handlers a sequence of events registers, after so many calls of `listen`. -/
def registered (listens : Nat) : List PeripheralEvent → Nat
  | [] => 0
  | .listen :: events => registered (listens + 1) events
  | .connect _ :: events => listens + registered listens events
  | .data _ :: events | .close :: events | .elsewhere _ :: events => registered listens events

theorem registered_before (listens : Nat) {before : List PeripheralEvent}
    (unconnected : Unconnected before) (rest : List PeripheralEvent) :
    registered listens (before ++ rest) = registered (listens + before.count .listen) rest := by
  induction before generalizing listens with
  | nil => rfl
  | cons event before ih =>
    have later : Unconnected before := fun mtu member => unconnected mtu (List.mem_cons_of_mem _ member)
    cases event with
    | connect mtu => exact absurd List.mem_cons_self (unconnected mtu)
    | listen =>
      rw [List.cons_append, registered, ih _ later, List.count_cons_self, Nat.add_assoc,
        Nat.add_comm 1]
    | data | close | elsewhere =>
      rw [List.cons_append, registered, ih _ later, List.count_cons_of_ne (by simp)]

theorem registered_unconnected (listens : Nat) {events : List PeripheralEvent}
    (unconnected : Unconnected events) : registered listens events = 0 := by
  have all := registered_before listens unconnected []
  rwa [List.append_nil] at all

/-- Where there are connections, there is a first one. -/
theorem first_connect {events : List PeripheralEvent} (connected : ¬ Unconnected events) :
    ∃ before mtu later, events = before ++ .connect mtu :: later ∧ Unconnected before := by
  induction events with
  | nil => exact absurd (fun mtu member => nomatch member) connected
  | cons event events ih =>
    by_cases here : ∃ mtu, event = .connect mtu
    · obtain ⟨mtu, rfl⟩ := here
      exact ⟨[], mtu, events, rfl, fun _ member => nomatch member⟩
    · have later : ¬ Unconnected events := by
        intro unconnected
        refine connected fun mtu member => ?_
        rcases List.mem_cons.mp member with same | inside
        · exact here ⟨mtu, same.symm⟩
        · exact unconnected mtu inside
      obtain ⟨before, mtu, rest, rfl, unconnected⟩ := ih later
      refine ⟨event :: before, mtu, rest, rfl, fun other member => ?_⟩
      rcases List.mem_cons.mp member with same | inside
      · exact here ⟨other, same.symm⟩
      · exact unconnected other inside

theorem registered_connected {listens : Nat} (some_listen : 0 < listens)
    {events : List PeripheralEvent} (connected : ¬ Unconnected events) :
    0 < registered listens events := by
  obtain ⟨before, mtu, later, rfl, unconnected⟩ := first_connect connected
  rw [registered_before _ unconnected, registered]
  omega

theorem attach_repeated (peripheral : Peripheral) (count : Nat) :
    (Nat.repeat Peripheral.attach count peripheral).connectListeners = peripheral.connectListeners ∧
      (Nat.repeat Peripheral.attach count peripheral).dataListeners.length =
        peripheral.dataListeners.length + count ∧
      (Nat.repeat Peripheral.attach count peripheral).polling = peripheral.polling := by
  induction count with
  | zero => exact ⟨rfl, rfl, rfl⟩
  | succ count ih =>
    rcases ih with ⟨connects, datas, polls⟩
    refine ⟨connects, ?_, polls⟩
    rw [Nat.repeat, Peripheral.attach, List.length_append, datas]
    rfl

section Emission

variable {host : Host} {central : CentralRef} {world : World} {bytes : Buffer}

theorem emitData_returns (handler : Nat) (rest : List Nat)
    (returns : Returns (createHandler host central bytes) world) :
    ∃ next, emitData host central bytes (handler :: rest) world =
      ((emitData host central bytes rest next).1,
        (handler, bytes) :: (emitData host central bytes rest next).2) := by
  obtain ⟨_, next, ran⟩ := returns_iff.mp returns
  refine ⟨next, ?_⟩
  rw [emitData, ran]

theorem emitData_throws {handler : Nat} {rest : List Nat}
    (throws : ¬ Returns (createHandler host central bytes) world) :
    (emitData host central bytes (handler :: rest) world).2 = [(handler, bytes)] := by
  cases ran : (createHandler host central bytes).run world with
  | ok value next => exact absurd (returns_iff.mpr ⟨value, next, ran⟩) throws
  | error thrown next => rw [emitData, ran]

/-- Only one handler is called exactly if there is only one, or the first throws. -/
theorem emitData_once {listeners : List Nat} (some_listener : listeners ≠ []) :
    (∃ handler, (emitData host central bytes listeners world).2 = [(handler, bytes)]) ↔
      listeners.length = 1 ∨ ¬ Tolerated host central world bytes := by
  rw [← createHandler_tolerates bytes]
  obtain ⟨handler, rest, rfl⟩ := List.exists_cons_of_ne_nil some_listener
  by_cases returns : Returns (createHandler host central bytes) world
  · obtain ⟨next, called⟩ := emitData_returns handler rest returns
    rw [called]
    cases rest with
    | nil => exact iff_of_true ⟨handler, rfl⟩ (.inl rfl)
    | cons second more =>
      have again : (emitData host central bytes (second :: more) next).2 ≠ [] := by
        rw [emitData]
        split <;> exact List.cons_ne_nil _ _
      refine iff_of_false ?_ ?_
      · intro once
        obtain ⟨_, same⟩ := once
        exact again (List.cons.inj same).2
      · intro either
        rcases either with short | throws
        · simp at short
        · exact throws returns
  · exact iff_of_true ⟨handler, emitData_throws returns⟩ (.inr returns)

end Emission

section Run

variable {host : Host} {central : CentralRef} {served last : Served} {event : PeripheralEvent}
  {events : List PeripheralEvent} {out : List (Nat × Buffer)}

theorem peripheralStep_ok (stepped : peripheralStep host central served event = .ok (last, out)) :
    last.peripheral.connectListeners = served.peripheral.connectListeners + [event].count .listen ∧
      last.peripheral.dataListeners.length =
        served.peripheral.dataListeners.length + registered served.peripheral.connectListeners [event] ∧
      (last.peripheral.connected → served.peripheral.connected ∨ event.isConnect) ∧
      (event.isConnect → served.peripheral.polling) ∧
      (last.peripheral.polling → served.peripheral.polling ∨ event = .listen) := by
  cases event with
  | listen =>
    cases stepped
    exact ⟨rfl, rfl, .inl, nofun, fun _ => .inr rfl⟩
  | connect mtu =>
    rw [peripheralStep] at stepped
    split at stepped
    · rename_i polls
      cases stepped
      obtain ⟨connects, datas, polling⟩ := attach_repeated
        { served.peripheral with polling := false, connected := true } served.peripheral.connectListeners
      refine ⟨connects, datas, fun _ => .inr rfl, fun _ => polls, ?_⟩
      intro again
      simp [polling] at again
    · cases stepped
  | data bytes =>
    rw [peripheralStep] at stepped
    split at stepped
    · cases stepped
      exact ⟨rfl, rfl, .inl, nofun, .inl⟩
    · cases stepped
  | close =>
    rw [peripheralStep] at stepped
    split at stepped
    · cases stepped
      exact ⟨rfl, rfl, nofun, nofun, .inl⟩
    · cases stepped
  | elsewhere event =>
    cases stepped
    exact ⟨rfl, rfl, .inl, nofun, .inl⟩

theorem connectListeners_run
    (ran : run (peripheralStep host central) served events = .ok (last, out)) :
    last.peripheral.connectListeners =
      served.peripheral.connectListeners + events.count .listen := by
  induction events generalizing served out with
  | nil => cases ran; rfl
  | cons event events ih =>
    rcases run_cons_ok ran with ⟨next, _, _, stepped, ran, _⟩
    rcases peripheralStep_ok stepped with ⟨added, _⟩
    rw [ih ran, added, Nat.add_assoc, ← List.count_append, List.singleton_append]

theorem dataListeners_run (ran : run (peripheralStep host central) served events = .ok (last, out)) :
    last.peripheral.dataListeners.length = served.peripheral.dataListeners.length +
      registered served.peripheral.connectListeners events := by
  induction events generalizing served out with
  | nil => cases ran; rfl
  | cons event events ih =>
    rcases run_cons_ok ran with ⟨next, _, _, stepped, ran, _⟩
    rcases peripheralStep_ok stepped with ⟨connects, datas, _⟩
    rw [ih ran, datas, connects, Nat.add_assoc]
    cases event <;> simp [registered]

theorem connected_run (ran : run (peripheralStep host central) served events = .ok (last, out))
    (connected : last.peripheral.connected) : served.peripheral.connected ∨ ¬ Unconnected events := by
  induction events generalizing served out with
  | nil => cases ran; exact .inl connected
  | cons event events ih =>
    rcases run_cons_ok ran with ⟨next, _, _, stepped, ran, _⟩
    rcases peripheralStep_ok stepped with ⟨_, _, connects, _⟩
    have here (is_connect : event.isConnect) : ¬ Unconnected (event :: events) := by
      cases event with
      | connect mtu => exact fun unconnected => unconnected mtu List.mem_cons_self
      | listen | data | close | elsewhere => cases is_connect
    rcases ih ran with earlier | member
    · exact (connects earlier).imp_right here
    · exact .inr fun unconnected =>
        member fun mtu inside => unconnected mtu (List.mem_cons_of_mem _ inside)

end Run

def Listening (served : Served) : Prop :=
  served.peripheral.polling → 0 < served.peripheral.connectListeners

theorem peripheralStep_listening (host : Host) (central : CentralRef) :
    Preserves (peripheralStep host central) Listening := by
  intro served event next out listening stepped polls
  rcases peripheralStep_ok stepped with ⟨added, _, _, _, polled⟩
  rcases polled polls with before | rfl
  · have some_listen := listening before
    omega
  · simp [added]

section Connections

variable {host : Host} {central : CentralRef} {world : World} {earlier : List PeripheralEvent}
  {last : Served} {out : List (Nat × Buffer)}

theorem first_connection
    (ran : run (peripheralStep host central) (.start world) earlier = .ok (last, out))
    (connected : last.peripheral.connected) :
    ∃ before mtu later, earlier = before ++ .connect mtu :: later ∧ Unconnected before ∧
      0 < before.count .listen := by
  have connects : ¬ Unconnected earlier := by
    rcases connected_run ran connected with initially | connects
    · cases initially
    · exact connects
  obtain ⟨before, mtu, later, rfl, unconnected⟩ := first_connect connects
  refine ⟨before, mtu, later, rfl, unconnected, ?_⟩
  rcases run_append_ok ran with ⟨middle, _, _, prior, rest⟩
  rcases run_cons_ok rest with ⟨_, _, _, stepped, _⟩
  rcases peripheralStep_ok stepped with ⟨_, _, _, polls, _⟩
  have listening : Listening middle :=
    run_preserves (peripheralStep_listening host central) (fun polls => by cases polls) prior
  have counted := connectListeners_run prior
  have some_listen := listening (polls rfl)
  simp only [Served.start, Peripheral.create] at counted
  omega

theorem registered_once_iff
    (ran : run (peripheralStep host central) (.start world) earlier = .ok (last, out))
    (connected : last.peripheral.connected) : registered 0 earlier = 1 ↔ FirstConnection earlier := by
  constructor
  · intro once
    obtain ⟨before, mtu, later, rfl, unconnected, some_listen⟩ := first_connection ran connected
    rw [registered_before 0 unconnected, Nat.zero_add, registered] at once
    refine ⟨before, mtu, later, rfl, unconnected, ?_, by omega⟩
    by_contra again
    have more := registered_connected some_listen again
    omega
  · intro first
    obtain ⟨before, mtu, later, rfl, unconnected, quiet, once⟩ := first
    rw [registered_before 0 unconnected, once, registered, registered_unconnected _ quiet]

theorem dispatchedOnce_iff
    (ran : run (peripheralStep host central) (.start world) earlier = .ok (last, out))
    (connected : last.peripheral.connected) (bytes : Buffer) :
    DispatchedOnce host central last bytes ↔
      FirstConnection earlier ∨ ¬ Tolerated host central last.world bytes := by
  have total : last.peripheral.dataListeners.length = registered 0 earlier := by
    rw [dataListeners_run ran]
    exact Nat.zero_add _
  have some_listener : last.peripheral.dataListeners ≠ [] := by
    obtain ⟨before, mtu, later, rfl, unconnected, some_listen⟩ := first_connection ran connected
    rw [registered_before 0 unconnected, registered] at total
    intro nothing
    rw [nothing, List.length_nil] at total
    omega
  rw [← registered_once_iff ran connected, ← total, ← emitData_once some_listener]
  unfold DispatchedOnce peripheralStep
  simp only [if_pos connected]
  constructor
  · intro dispatched
    obtain ⟨next, handler, same⟩ := dispatched
    exact ⟨handler, congrArg Prod.snd (Except.ok.inj same)⟩
  · intro called
    obtain ⟨handler, same⟩ := called
    exact ⟨_, handler, by rw [same]⟩

end Connections

/-- Every buffer goes to exactly one handler exactly if it comes on a first connection that was
    listened for once, or the first handler throws on it. -/
theorem one_dispatcher_iff (host : Host) (central : CentralRef) (world : World)
    (events : List PeripheralEvent) :
    OneDispatcher host central world events ↔ StaysOnFirst host central world events := by
  refine forall_congr' fun earlier => forall_congr' fun bytes => forall_congr' fun _ => ?_
  refine forall_congr' fun last => forall_congr' fun out => forall_congr' fun ran => ?_
  exact forall_congr' fun connected => dispatchedOnce_iff ran connected bytes

/-- A read of an attribute that is not there is answered by each of the three handlers. -/
theorem second_connection_handled_thrice :
    ¬ OneDispatcher plainHost 0 .initial
      [.listen, .connect 23, .close, .listen, .connect 23, .data [0x0A, 0x01, 0x00]] := by
  intro once
  have dispatched := once [.listen, .connect 23, .close, .listen, .connect 23] [0x0A, 0x01, 0x00]
    (by decide) _ _ rfl rfl
  obtain ⟨next, handler, same⟩ := dispatched
  cases same

end Btle.Server

import Btle.Library.Machine
import Btle.Library.Lifetimes

namespace Btle.Native

open Lifetimes

inductive Kind
  | poll
  | tcp
  deriving DecidableEq, Repr

/-- The two handles the object points to, in the libuv loop they live in. The table's releases are
    the calls of `uv_close`. -/
structure Central where
  pollHandle : Option Nat
  tcp : Option Nat
  loop : Table Kind
  deriving DecidableEq, Repr

namespace Central

/-- What JavaScript calls, at the top or in a handler. A `listen` whose arguments are wrong or
    whose socket does not open throws before it makes a handle. -/
inductive Call
  | listen (opened : Bool)
  | close
  deriving DecidableEq, Repr

/-- `handler` is what the listeners of the emitted event call, in order. -/
inductive Event
  | call (call : Call)
  | connection (handle : Nat) (status cliSock : Int) (handler : List Call)
  | read (handle : Nat) (nread : Int) (connectionReset : Bool) (handler : List Call)
  | closed (handle : Nat) (handler : List Call)
  deriving DecidableEq, Repr

def new : Central := { pollHandle := none, tcp := none, loop := Table.empty }

def listen (central : Central) (opened : Bool) : Central :=
  if opened then
    { central with pollHandle := some central.loop.next, loop := central.loop.acquire .poll }
  else central

def close (central : Central) : Central :=
  { central with loop := (central.loop.releaseHeld central.tcp).releaseHeld central.pollHandle }

def make (central : Central) : Call → Central
  | .listen opened => central.listen opened
  | .close => central.close

def perform (central : Central) (calls : List Call) : Central := calls.foldl make central

def stopListening (central : Central) (handle : Nat) : Central :=
  { central with loop := (central.loop.stop handle).release handle }

def openTcp (central : Central) : Central :=
  { central with tcp := some central.loop.next, loop := central.loop.acquire .tcp }

def onConnect (central : Central) (handle : Nat) (status cliSock : Int) (handler : List Call) : Central :=
  if status = 0 ∧ 0 ≤ cliSock then ((central.stopListening handle).openTcp).perform handler
  else (central.stopListening handle).perform handler

def stopReading (central : Central) (handle : Nat) : Central :=
  { central with loop := central.loop.stop handle }

def onRead (central : Central) (handle : Nat) (nread : Int) (connectionReset : Bool)
    (handler : List Call) : Central :=
  if nread < 0 then
    if connectionReset then ((central.stopReading handle).perform handler).close
    else (central.stopReading handle).perform handler
  else if 0 < nread then central.perform handler
  else central

def finish (central : Central) (handle : Nat) : Central :=
  { central with loop := central.loop.finish handle }

def onClose (central : Central) (handle : Nat) (handler : List Call) : Central :=
  if central.tcp = some handle then ({ central.finish handle with tcp := none }).perform handler
  else if central.pollHandle = some handle then { central.finish handle with pollHandle := none }
  else central.finish handle

/-- libuv calls a handle's callback only while it polls, reads or closes that handle. -/
def handle (central : Central) : Event → Central
  | .call call => central.make call
  | .connection handle status cliSock handler =>
    if central.loop.Has handle .poll .running then central.onConnect handle status cliSock handler
    else central
  | .read handle nread connectionReset handler =>
    if central.loop.Has handle .tcp .running then
      central.onRead handle nread connectionReset handler
    else central
  | .closed handle handler =>
    if central.loop.phase? handle = some .closing then central.onClose handle handler else central

def step : Machine.Step Central Event Empty Empty :=
  fun central event => .ok (central.handle event, [])

/-- What decides whether `close` may be called: for each pointer, whether it is set, and whether
    its handle has been told to close. -/
structure Slots where
  poll : Slot
  tcp : Slot
  deriving DecidableEq, Repr

def slots (central : Central) : Slots :=
  { poll := central.loop.slot central.pollHandle, tcp := central.loop.slot central.tcp }

def Slots.make (slots : Slots) : Call → Slots
  | .listen opened => if opened then { slots with poll := .live } else slots
  | .close => { poll := slots.poll.close, tcp := slots.tcp.close }

def Slots.Allows (slots : Slots) : Call → Prop
  | .listen _ => True
  | .close => slots.tcp ≠ .shut ∧ slots.poll ≠ .shut

def Slots.AllowsAll (slots : Slots) (calls : List Call) : Prop :=
  Machine.Along Slots.make Slots.Allows slots calls

def Slots.connected (slots : Slots) (current accepted : Prop) [Decidable current] [Decidable accepted] :
    Slots :=
  { poll := if current then .shut else slots.poll, tcp := if accepted then .live else slots.tcp }

/-- No `close`, the one that follows 'remoteClose' included, finds a handle that is still closing. -/
def Careful (central : Central) : Event → Prop
  | .call call => central.slots.Allows call
  | .connection handle status cliSock handler =>
    central.loop.Has handle .poll .running →
      (central.slots.connected (central.pollHandle = some handle) (status = 0 ∧ 0 ≤ cliSock)).AllowsAll
        handler
  | .read handle nread connectionReset handler =>
    central.loop.Has handle .tcp .running → nread ≠ 0 →
      central.slots.AllowsAll (if nread < 0 ∧ connectionReset then handler ++ [.close] else handler)
  | .closed handle handler =>
    central.loop.phase? handle = some .closing → central.tcp = some handle →
      ({ central.slots with tcp := .empty } : Slots).AllowsAll handler

structure Sound (central : Central) : Prop where
  loop : central.loop.Sound
  poll : ∀ handle, central.pollHandle = some handle → central.loop.kind? handle = some .poll
  tcp : ∀ handle, central.tcp = some handle → central.loop.kind? handle = some .tcp

variable {central : Central}

abbrev Once (central : Central) : Prop := central.loop.ReleasedOnce

theorem Sound.apart (sound : central.Sound) {handle : Nat} (held : central.tcp = some handle) :
    central.pollHandle ≠ some handle := by
  intro same
  have polls := sound.poll handle same
  rw [sound.tcp handle held] at polls
  cases polls

theorem new_sound : new.Sound := by
  refine ⟨sound_empty, ?_, ?_⟩ <;> intro handle held <;> cases held

theorem listen_sound (sound : central.Sound) : (central.listen true).Sound := by
  refine ⟨sound.loop.acquire, ?_, ?_⟩
  · intro handle held
    cases held
    exact kind?_acquire_new
  · intro handle held
    exact kind?_acquire_old (sound.tcp handle held)

theorem listen_slots : (central.listen true).slots = { central.slots with poll := .live } := by
  have poll : (central.loop.acquire .poll).slot (some central.loop.next) = .live := slot_acquired
  have tcp : (central.loop.acquire .poll).slot central.tcp = central.loop.slot central.tcp := slot_acquire
  rw [slots, slots, listen, if_pos rfl]
  simp only [poll, tcp]

theorem openTcp_sound (sound : central.Sound) : central.openTcp.Sound := by
  refine ⟨sound.loop.acquire, ?_, ?_⟩
  · intro handle held
    exact kind?_acquire_old (sound.poll handle held)
  · intro handle held
    cases held
    exact kind?_acquire_new

theorem openTcp_slots : central.openTcp.slots = { central.slots with tcp := .live } := by
  have tcp : (central.loop.acquire .tcp).slot (some central.loop.next) = .live := slot_acquired
  have poll : (central.loop.acquire .tcp).slot central.pollHandle = central.loop.slot central.pollHandle :=
    slot_acquire
  rw [slots, slots, openTcp]
  simp only [poll, tcp]

section close

theorem Sound.tcp_known (sound : central.Sound) :
    ∀ name, central.tcp = some name → name < central.loop.next :=
  fun name held => known_of_kind (sound.tcp name held)

theorem Sound.poll_known (sound : central.Sound) :
    ∀ name, central.pollHandle = some name →
      name < (central.loop.releaseHeld central.tcp).next := by
  intro name held
  have polls : (central.loop.releaseHeld central.tcp).kind? name = some .poll := by
    rw [kind?_releaseHeld]
    exact sound.poll name held
  exact known_of_kind polls

theorem Sound.poll_slot (sound : central.Sound) :
    (central.loop.releaseHeld central.tcp).slot central.pollHandle = central.loop.slot central.pollHandle :=
  slot_releaseHeld_other sound.tcp_known fun _ held => sound.apart held

theorem close_slots (sound : central.Sound) :
    central.close.slots = { poll := central.slots.poll.close, tcp := central.slots.tcp.close } := by
  have tcp : central.close.loop.slot central.tcp = (central.loop.slot central.tcp).close := by
    rw [close, slot_releaseHeld_other sound.poll_known fun name held same => sound.apart same held,
      slot_releaseHeld_self sound.tcp_known]
  have poll : central.close.loop.slot central.pollHandle = (central.loop.slot central.pollHandle).close := by
    rw [close, slot_releaseHeld_self sound.poll_known, sound.poll_slot]
  show Slots.mk (central.close.loop.slot central.pollHandle) (central.close.loop.slot central.tcp) = _
  rw [tcp, poll]
  rfl

theorem close_sound (sound : central.Sound) (allowed : central.slots.Allows .close) :
    central.close.Sound := by
  rcases allowed with ⟨tcp_open, poll_open⟩
  constructor
  · apply (sound.loop.releaseHeld sound.tcp_known tcp_open).releaseHeld sound.poll_known
    rw [sound.poll_slot]
    exact poll_open
  · intro handle held
    rw [close, kind?_releaseHeld, kind?_releaseHeld]
    exact sound.poll handle held
  · intro handle held
    rw [close, kind?_releaseHeld, kind?_releaseHeld]
    exact sound.tcp handle held

theorem once_of_close (once : central.close.Once) : central.Once :=
  once_of_releaseHeld (once_of_releaseHeld once)

theorem allowed_of_once (sound : central.Sound) (once : central.close.Once) :
    central.slots.Allows .close := by
  have tcp_open : central.loop.slot central.tcp ≠ .shut :=
    sound.loop.unshut_of_once (once_of_releaseHeld once)
  have half : (central.loop.releaseHeld central.tcp).Sound :=
    sound.loop.releaseHeld sound.tcp_known tcp_open
  have poll_open := half.unshut_of_once once
  rw [sound.poll_slot] at poll_open
  exact ⟨tcp_open, poll_open⟩

end close

section calls

theorem make_exact (central : Central) (call : Call) (sound : central.Sound) :
    (central.slots.Allows call →
      (central.make call).Sound ∧ (central.make call).slots = central.slots.make call) ∧
    ((central.make call).Once → central.slots.Allows call) := by
  cases call with
  | listen opened =>
    refine ⟨fun _ => ?_, fun _ => trivial⟩
    cases opened with
    | true => exact ⟨listen_sound sound, listen_slots⟩
    | false => exact ⟨sound, rfl⟩
  | close =>
    refine ⟨fun allowed => ?_, allowed_of_once sound⟩
    exact ⟨close_sound sound allowed, close_slots sound⟩

theorem once_of_make (central : Central) (call : Call) (once : (central.make call).Once) :
    central.Once := by
  cases call with
  | listen opened =>
    cases opened with
    | true => exact once
    | false => exact once
  | close => exact once_of_close once

theorem perform_exact (sound : central.Sound) (calls : List Call) :
    (central.slots.AllowsAll calls → (central.perform calls).Sound) ∧
      ((central.perform calls).Once → central.slots.AllowsAll calls) :=
  Machine.along_exact make_exact once_of_make sound calls

theorem perform_close (calls : List Call) :
    (central.perform calls).close = central.perform (calls ++ [.close]) := by
  rw [perform, perform, List.foldl_append]
  rfl

end calls

section events

variable {handle : Nat}

theorem stopListening_sound (sound : central.Sound) (polls : central.loop.Has handle .poll .running) :
    (central.stopListening handle).Sound := by
  refine ⟨sound.loop.retire polls, ?_, ?_⟩
  · intro other held
    rw [stopListening, kind?_release, kind?_stop]
    exact sound.poll other held
  · intro other held
    rw [stopListening, kind?_release, kind?_stop]
    exact sound.tcp other held

theorem stopListening_slots (sound : central.Sound) (polls : central.loop.Has handle .poll .running) :
    (central.stopListening handle).slots =
      central.slots.connected (central.pollHandle = some handle) False := by
  have apart : central.tcp ≠ some handle := by
    intro held
    have tcp := sound.tcp handle held
    rw [polls.kind_eq] at tcp
    cases tcp
  have tcp : ((central.loop.stop handle).release handle).slot central.tcp = central.loop.slot central.tcp :=
    slot_retire_other polls.known apart
  rw [slots, Slots.connected, if_neg not_false, stopListening]
  simp only [tcp]
  by_cases current : central.pollHandle = some handle
  · rw [current, slot_retire_self polls.known, if_pos rfl]
    rfl
  · rw [slot_retire_other polls.known current, if_neg current]
    rfl

theorem onConnect_exact (sound : central.Sound) (polls : central.loop.Has handle .poll .running)
    (status cliSock : Int) (handler : List Call) :
    ((central.slots.connected (central.pollHandle = some handle) (status = 0 ∧ 0 ≤ cliSock)).AllowsAll
        handler → (central.onConnect handle status cliSock handler).Sound) ∧
      ((central.onConnect handle status cliSock handler).Once →
        (central.slots.connected (central.pollHandle = some handle) (status = 0 ∧ 0 ≤ cliSock)).AllowsAll
          handler) := by
  have stopped := stopListening_sound sound polls
  have seen := stopListening_slots sound polls
  rw [onConnect]
  by_cases accepted : status = 0 ∧ 0 ≤ cliSock
  · have opened : (central.stopListening handle).openTcp.slots =
        central.slots.connected (central.pollHandle = some handle) (status = 0 ∧ 0 ≤ cliSock) := by
      rw [openTcp_slots, seen, Slots.connected, Slots.connected, if_pos accepted]
    rw [if_pos accepted, ← opened]
    exact perform_exact (openTcp_sound stopped) handler
  · have refused : (central.stopListening handle).slots =
        central.slots.connected (central.pollHandle = some handle) (status = 0 ∧ 0 ≤ cliSock) := by
      rw [seen, Slots.connected, Slots.connected, if_neg accepted, if_neg not_false]
    rw [if_neg accepted, ← refused]
    exact perform_exact stopped handler

theorem stopReading_sound (sound : central.Sound) : (central.stopReading handle).Sound := by
  refine ⟨sound.loop.stop, ?_, ?_⟩
  · intro other held
    rw [stopReading, kind?_stop]
    exact sound.poll other held
  · intro other held
    rw [stopReading, kind?_stop]
    exact sound.tcp other held

theorem stopReading_slots : (central.stopReading handle).slots = central.slots := by
  rw [slots, slots, stopReading]
  simp only [slot_stop]

theorem onRead_exact (sound : central.Sound) (handle : Nat) {nread : Int} (read : nread ≠ 0)
    (connectionReset : Bool) (handler : List Call) :
    (central.slots.AllowsAll (if nread < 0 ∧ connectionReset then handler ++ [.close] else handler) →
        (central.onRead handle nread connectionReset handler).Sound) ∧
      ((central.onRead handle nread connectionReset handler).Once →
        central.slots.AllowsAll
          (if nread < 0 ∧ connectionReset then handler ++ [.close] else handler)) := by
  have stopped : (central.stopReading handle).Sound := stopReading_sound sound
  have seen : (central.stopReading handle).slots = central.slots := stopReading_slots
  rw [onRead]
  by_cases failed : nread < 0
  · rw [if_pos failed, ← seen]
    cases connectionReset with
    | true =>
      rw [if_pos rfl, if_pos ⟨failed, rfl⟩, perform_close]
      exact perform_exact stopped (handler ++ [.close])
    | false =>
      rw [if_neg Bool.false_ne_true, if_neg fun both => Bool.false_ne_true both.2]
      exact perform_exact stopped handler
  · have some_read : 0 < nread := by omega
    rw [if_neg failed, if_pos some_read, if_neg fun both => failed both.1]
    exact perform_exact sound handler

theorem finish_sound (sound : central.Sound) : (central.finish handle).Sound := by
  refine ⟨sound.loop.finish, ?_, ?_⟩
  · intro other held
    rw [finish, kind?_finish]
    exact sound.poll other held
  · intro other held
    rw [finish, kind?_finish]
    exact sound.tcp other held

theorem finish_slots : (central.finish handle).slots = central.slots := by
  rw [slots, slots, finish]
  simp only [slot_finish]

theorem forget_tcp (sound : central.Sound) : ({ central with tcp := none } : Central).Sound := by
  refine ⟨sound.loop, sound.poll, ?_⟩
  intro handle held
  cases held

theorem forget_poll (sound : central.Sound) : ({ central with pollHandle := none } : Central).Sound := by
  refine ⟨sound.loop, ?_, sound.tcp⟩
  intro handle held
  cases held

theorem onClose_exact (sound : central.Sound) (handle : Nat) (handler : List Call) :
    ((central.tcp = some handle → ({ central.slots with tcp := .empty } : Slots).AllowsAll handler) →
        (central.onClose handle handler).Sound) ∧
      ((central.onClose handle handler).Once → central.tcp = some handle →
        ({ central.slots with tcp := .empty } : Slots).AllowsAll handler) := by
  have finished : (central.finish handle).Sound := finish_sound sound
  rw [onClose]
  by_cases current : central.tcp = some handle
  · have seen : ({ central.finish handle with tcp := none } : Central).slots =
        { central.slots with tcp := .empty } := by
      have same : (central.finish handle).slots = central.slots := finish_slots
      rw [← same]
      rfl
    have performed := perform_exact (forget_tcp finished) handler
    rw [if_pos current, ← seen]
    exact ⟨fun allowed => performed.1 (allowed current), fun once _ => performed.2 once⟩
  · rw [if_neg current]
    refine ⟨fun _ => ?_, fun _ held => absurd held current⟩
    by_cases poll : central.pollHandle = some handle
    · rw [if_pos poll]
      exact forget_poll finished
    · rw [if_neg poll]
      exact finished

/-- One event leaves every handle closed at most once exactly if it is a careful one. -/
theorem handle_exact (event : Event) (sound : central.Sound) :
    (central.Careful event → (central.handle event).Sound) ∧
      ((central.handle event).Once → central.Careful event) := by
  cases event with
  | call call =>
    rcases make_exact central call sound with ⟨keeps, needs⟩
    exact ⟨fun allowed => (keeps allowed).1, needs⟩
  | connection handle status cliSock handler =>
    rw [Central.handle, Careful]
    by_cases polls : central.loop.Has handle .poll .running
    · rcases onConnect_exact sound polls status cliSock handler with ⟨keeps, needs⟩
      rw [if_pos polls]
      exact ⟨fun careful => keeps (careful polls), fun once _ => needs once⟩
    · rw [if_neg polls]
      exact ⟨fun _ => sound, fun _ held => absurd held polls⟩
  | read handle nread connectionReset handler =>
    rw [Central.handle, Careful]
    by_cases reads : central.loop.Has handle .tcp .running
    · rw [if_pos reads]
      by_cases nothing : nread = 0
      · subst nothing
        exact ⟨fun _ => sound, fun _ _ something => absurd rfl something⟩
      · rcases onRead_exact sound handle nothing connectionReset handler with ⟨keeps, needs⟩
        exact ⟨fun careful => keeps (careful reads nothing), fun once _ _ => needs once⟩
    · rw [if_neg reads]
      exact ⟨fun _ => sound, fun _ held => absurd held reads⟩
  | closed handle handler =>
    rw [Central.handle, Careful]
    by_cases closing : central.loop.phase? handle = some .closing
    · rcases onClose_exact sound handle handler with ⟨keeps, needs⟩
      rw [if_pos closing]
      exact ⟨fun careful => keeps (careful closing), fun once _ => needs once⟩
    · rw [if_neg closing]
      exact ⟨fun _ => sound, fun _ held => absurd held closing⟩

theorem once_iff_careful (events : List Event) :
    Machine.Stays step new events Once ↔
      ∀ taken ∈ Machine.visited step new events, taken.1.Careful taken.2 := by
  have total : ∀ central event, ∃ next out, step central event = .ok (next, out) :=
    fun central event => ⟨_, _, rfl⟩
  have exact_step : ∀ central event next out, Sound central → True →
      step central event = .ok (next, out) →
        (central.Careful event → next.Sound) ∧ (next.Once → central.Careful event) := by
    intro central event next out sound _ stepped
    cases stepped
    exact handle_exact event sound
  exact Machine.stays_iff total (fun _ sound => sound.loop.once) exact_step new_sound fun _ _ => trivial

end events

end Central

end Btle.Native

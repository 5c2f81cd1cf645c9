import Btle.Library.Machine
import Btle.Library.Lifetimes
import Btle.Native.Central

namespace Btle.Native

open Lifetimes

structure Connection where
  pollHandle : Option Nat
  tcp : Option Nat
  loop : Table Kind
  deriving DecidableEq, Repr

namespace Connection

/-- A `connect` whose socket does not open throws before it makes a handle. -/
inductive Call
  | connect (opened : Bool)
  | close
  deriving DecidableEq, Repr

/-- `callback` is what the connect or close callback calls, in order. -/
inductive Event
  | call (call : Call)
  | connected (handle : Nat) (status : Int) (callback : List Call)
  | closed (handle : Nat) (callback : List Call)
  deriving DecidableEq, Repr

def new : Connection := { pollHandle := none, tcp := none, loop := Table.empty }

def connect (connection : Connection) (opened : Bool) : Connection :=
  if opened then
    { connection with pollHandle := some connection.loop.next, loop := connection.loop.acquire .poll }
  else connection

def close (connection : Connection) : Connection :=
  { connection with loop := connection.loop.releaseHeld connection.tcp }

def make (connection : Connection) : Call → Connection
  | .connect opened => connection.connect opened
  | .close => connection.close

def perform (connection : Connection) (calls : List Call) : Connection := calls.foldl make connection

def stopPolling (connection : Connection) (handle : Nat) : Connection :=
  { connection with loop := (connection.loop.stop handle).release handle }

def openTcp (connection : Connection) : Connection :=
  { connection with tcp := some connection.loop.next, loop := connection.loop.acquire .tcp }

def onConnect (connection : Connection) (handle : Nat) (status : Int) (callback : List Call) : Connection :=
  if status = 0 then ((connection.stopPolling handle).openTcp).perform callback
  else (connection.stopPolling handle).perform callback

/-- A poll handle carries no close data by then, so only a TCP handle's callback calls on. -/
def onClose (connection : Connection) (handle : Nat) (callback : List Call) : Connection :=
  let finished : Connection := { connection with loop := connection.loop.finish handle }
  if connection.loop.kind? handle = some .tcp then finished.perform callback else finished

def handle (connection : Connection) : Event → Connection
  | .call call => connection.make call
  | .connected handle status callback =>
    if connection.loop.Has handle .poll .running then connection.onConnect handle status callback
    else connection
  | .closed handle callback =>
    if connection.loop.phase? handle = some .closing then connection.onClose handle callback
    else connection

def step : Machine.Step Connection Event Empty Empty :=
  fun connection event => .ok (connection.handle event, [])

def slot (connection : Connection) : Slot := connection.loop.slot connection.tcp

def after (slot : Slot) : Call → Slot
  | .connect _ => slot
  | .close => slot.close

def Allows (slot : Slot) : Call → Prop
  | .connect _ => True
  | .close => slot ≠ .shut

def AllowsAll (slot : Slot) (calls : List Call) : Prop := Machine.Along after Allows slot calls

/-- No `close` finds a TCP handle that was told to close before: the pointer to it is never
    reset, so from the first `close` on only a new connection makes another one safe. -/
def Careful (connection : Connection) : Event → Prop
  | .call call => Allows connection.slot call
  | .connected handle status callback =>
    connection.loop.Has handle .poll .running →
      AllowsAll (if status = 0 then .live else connection.slot) callback
  | .closed handle callback =>
    connection.loop.Has handle .tcp .closing → AllowsAll connection.slot callback

structure Sound (connection : Connection) : Prop where
  loop : connection.loop.Sound
  tcp : ∀ handle, connection.tcp = some handle → connection.loop.kind? handle = some .tcp

variable {connection : Connection} {handle : Nat}

abbrev Once (connection : Connection) : Prop := connection.loop.ReleasedOnce

theorem new_sound : new.Sound := by
  refine ⟨sound_empty, ?_⟩
  intro handle held
  cases held

theorem Sound.tcp_known (sound : connection.Sound) :
    ∀ name, connection.tcp = some name → name < connection.loop.next :=
  fun name held => known_of_kind (sound.tcp name held)

theorem connect_sound (sound : connection.Sound) : (connection.connect true).Sound := by
  refine ⟨sound.loop.acquire, ?_⟩
  intro handle held
  exact kind?_acquire_old (sound.tcp handle held)

theorem openTcp_sound (sound : connection.Sound) : connection.openTcp.Sound := by
  refine ⟨sound.loop.acquire, ?_⟩
  intro handle held
  cases held
  exact kind?_acquire_new

theorem close_sound (sound : connection.Sound) (unshut : connection.slot ≠ .shut) :
    connection.close.Sound := by
  refine ⟨sound.loop.releaseHeld sound.tcp_known unshut, ?_⟩
  intro handle held
  rw [close, kind?_releaseHeld]
  exact sound.tcp handle held

theorem make_exact (connection : Connection) (call : Call) (sound : connection.Sound) :
    (Allows connection.slot call →
      (connection.make call).Sound ∧ (connection.make call).slot = after connection.slot call) ∧
    ((connection.make call).Once → Allows connection.slot call) := by
  cases call with
  | connect opened =>
    refine ⟨fun _ => ?_, fun _ => trivial⟩
    cases opened with
    | true => exact ⟨connect_sound sound, slot_acquire⟩
    | false => exact ⟨sound, rfl⟩
  | close =>
    refine ⟨fun unshut => ⟨close_sound sound unshut, ?_⟩, sound.loop.unshut_of_once⟩
    exact slot_releaseHeld_self sound.tcp_known

theorem once_of_make (connection : Connection) (call : Call) (once : (connection.make call).Once) :
    connection.Once := by
  cases call with
  | connect opened =>
    cases opened with
    | true => exact once
    | false => exact once
  | close => exact once_of_releaseHeld once

theorem perform_exact (sound : connection.Sound) (calls : List Call) :
    (AllowsAll connection.slot calls → (connection.perform calls).Sound) ∧
      ((connection.perform calls).Once → AllowsAll connection.slot calls) :=
  Machine.along_exact make_exact once_of_make sound calls

section events

theorem stopPolling_sound (sound : connection.Sound) (polls : connection.loop.Has handle .poll .running) :
    (connection.stopPolling handle).Sound := by
  refine ⟨sound.loop.retire polls, ?_⟩
  intro other held
  rw [stopPolling, kind?_release, kind?_stop]
  exact sound.tcp other held

theorem stopPolling_slot (sound : connection.Sound) (polls : connection.loop.Has handle .poll .running) :
    (connection.stopPolling handle).slot = connection.slot := by
  apply slot_retire_other polls.known
  intro held
  have tcp := sound.tcp handle held
  rw [polls.kind_eq] at tcp
  cases tcp

theorem onConnect_exact (sound : connection.Sound) (polls : connection.loop.Has handle .poll .running)
    (status : Int) (callback : List Call) :
    (AllowsAll (if status = 0 then .live else connection.slot) callback →
        (connection.onConnect handle status callback).Sound) ∧
      ((connection.onConnect handle status callback).Once →
        AllowsAll (if status = 0 then .live else connection.slot) callback) := by
  have stopped := stopPolling_sound sound polls
  rw [onConnect]
  by_cases accepted : status = 0
  · have opened : (connection.stopPolling handle).openTcp.slot = .live := slot_acquired
    rw [if_pos accepted, if_pos accepted, ← opened]
    exact perform_exact (openTcp_sound stopped) callback
  · rw [if_neg accepted, if_neg accepted, ← stopPolling_slot sound polls]
    exact perform_exact stopped callback

theorem finish_sound (sound : connection.Sound) (handle : Nat) :
    ({ connection with loop := connection.loop.finish handle } : Connection).Sound := by
  refine ⟨sound.loop.finish, ?_⟩
  intro other held
  rw [kind?_finish]
  exact sound.tcp other held

theorem onClose_exact (sound : connection.Sound) (closing : connection.loop.phase? handle = some .closing)
    (callback : List Call) :
    ((connection.loop.Has handle .tcp .closing → AllowsAll connection.slot callback) →
        (connection.onClose handle callback).Sound) ∧
      ((connection.onClose handle callback).Once → connection.loop.Has handle .tcp .closing →
        AllowsAll connection.slot callback) := by
  have finished := finish_sound sound handle
  have seen : ({ connection with loop := connection.loop.finish handle } : Connection).slot =
      connection.slot := slot_finish
  rw [onClose]
  by_cases tcp : connection.loop.kind? handle = some .tcp
  · have performed := perform_exact finished callback
    rw [seen] at performed
    rw [if_pos tcp]
    refine ⟨fun allowed => ?_, fun once _ => performed.2 once⟩
    exact performed.1 (allowed (has_of_parts tcp closing))
  · rw [if_neg tcp]
    exact ⟨fun _ => finished, fun _ has => absurd has.kind_eq tcp⟩

theorem handle_exact (event : Event) (sound : connection.Sound) :
    (connection.Careful event → (connection.handle event).Sound) ∧
      ((connection.handle event).Once → connection.Careful event) := by
  cases event with
  | call call =>
    rcases make_exact connection call sound with ⟨keeps, needs⟩
    exact ⟨fun allowed => (keeps allowed).1, needs⟩
  | connected handle status callback =>
    rw [Connection.handle, Careful]
    by_cases polls : connection.loop.Has handle .poll .running
    · rcases onConnect_exact sound polls status callback with ⟨keeps, needs⟩
      rw [if_pos polls]
      exact ⟨fun careful => keeps (careful polls), fun once _ => needs once⟩
    · rw [if_neg polls]
      exact ⟨fun _ => sound, fun _ held => absurd held polls⟩
  | closed handle callback =>
    rw [Connection.handle, Careful]
    by_cases closing : connection.loop.phase? handle = some .closing
    · rw [if_pos closing]
      exact onClose_exact sound closing callback
    · rw [if_neg closing]
      exact ⟨fun _ => sound, fun _ has => absurd has.phase_eq closing⟩

theorem once_iff_careful (events : List Event) :
    Machine.Stays step new events Once ↔
      ∀ taken ∈ Machine.visited step new events, taken.1.Careful taken.2 := by
  have total : ∀ connection event, ∃ next out, step connection event = .ok (next, out) :=
    fun connection event => ⟨_, _, rfl⟩
  have exact_step : ∀ connection event next out, Sound connection → True →
      step connection event = .ok (next, out) →
        (connection.Careful event → next.Sound) ∧ (next.Once → connection.Careful event) := by
    intro connection event next out sound _ stepped
    cases stepped
    exact handle_exact event sound
  exact Machine.stays_iff total (fun _ sound => sound.loop.once) exact_step new_sound fun _ _ => trivial

end events

end Connection

end Btle.Native

import Btle.Server.Layout
import Btle.Server.Limits

namespace Btle.Server

open Throwing

/-- The listeners that an emission runs, in order, with those that the emissions inside of it run. -/
def ranBy (call : Listener → Js Unit) (inside : World → List Listener) :
    List Listener → World → List Listener
  | [], _ => []
  | listener :: rest, world =>
    let within :=
      match listener with
      | .reemit => inside world
      | .application _ | .notification _ _ | .indication _ _ => []
    let later :=
      match (call listener).run world with
      | .ok _ next => ranBy call inside rest next
      | .error _ _ => []
    listener :: (within ++ later)

def emitted (host : Host) (ref : AttrRef) : Nat → World → List Listener
  | 0 => fun world =>
    ranBy (callListener host ref (throw (.rangeError "Maximum call stack size exceeded")))
      (fun _ => []) (world.attrib ref).listeners world
  | depth + 1 => fun world =>
    ranBy (callListener host ref (emitValueChanged host ref depth)) (emitted host ref depth)
      (world.attrib ref).listeners world

/-- What the constructor of a characteristic makes of the attribute of its value. -/
def IsCharacteristicValue (world : World) (ref : AttrRef) : Prop :=
  .reemit ∈ (world.attrib ref).listeners

/-- What the setter neither ignores nor rejects. -/
def Accepted (world : World) (value : JsValue) : Prop := ∃ bytes, value.stored world = some bytes

/-- The listeners of the application, and those for notifications and indications, run once each. -/
def RunsEachOnce (host : Host) (world : World) (ref : AttrRef) (bytes : Option Buffer) : Prop :=
  ∀ listener ≠ .reemit,
    (emitted host ref host.stack (world.assigned ref bytes)).count listener =
      (world.attrib ref).listeners.count listener

structure Delivers (host : Host) (world : World) (ref : AttrRef) (value : JsValue) : Prop where
  returns : Returns (setValue host ref value) world
  each : ∀ bytes, value.stored world = some bytes → RunsEachOnce host world ref bytes

structure DeliversWrite (host : Host) (world : World) (central : CentralRef) (handle : Nat)
    (value : Buffer) (respond : Bool) (ref : AttrRef) : Prop where
  returns : Returns (doWrite host central handle value respond) world
  each : RunsEachOnce host world ref (some value)

section Emission

variable {host : Host} {world : World} {ref : AttrRef}

theorem ranBy_quiet (again : Js Unit) (inside : World → List Listener)
    {listeners : List Listener} (quiet : ∀ listener ∈ listeners, QuietFor host world ref listener) :
    ranBy (callListener host ref again) inside listeners world = listeners := by
  induction listeners generalizing world with
  | nil => rfl
  | cons listener rest ih =>
    rw [List.forall_mem_cons] at quiet
    rcases quiet with ⟨first, others⟩
    have single : listener ≠ .reemit := by
      intro same
      subst same
      exact first
    have returned : Returns (callListener host ref again listener) world :=
      (callListener_returns host ref listener fun same => absurd same single).mpr first
    rcases returns_iff.mp returned with ⟨done, next, ran⟩
    have onward : ∀ other ∈ rest, QuietFor host next ref other := by
      intro other member
      have same := quietFor_after again first other
      rw [after_ok ran] at same
      exact same.mpr (others other member)
    have later := ih onward
    cases listener with
    | reemit => exact absurd rfl single
    | application | notification | indication => simp only [ranBy, ran, later, List.nil_append]

theorem emitted_quiet (depth : Nat)
    (quiet : ∀ listener ∈ (world.attrib ref).listeners, QuietFor host world ref listener) :
    emitted host ref depth world = (world.attrib ref).listeners := by
  cases depth with
  | zero => exact ranBy_quiet _ _ quiet
  | succ depth => exact ranBy_quiet _ _ quiet

theorem setValue_stored_returns (host : Host) (ref : AttrRef) {value : JsValue}
    {bytes : Option Buffer} (stored : value.stored world = some bytes) :
    Returns (setValue host ref value) world ↔
      ∀ listener ∈ (world.attrib ref).listeners,
        QuietFor host (world.assigned ref bytes) ref listener := by
  rw [Returns, setValue_stored_run host ref stored]
  apply (emitValueChanged_returns host.stack).trans
  rw [assigned_listeners]

/-- What an attribute does with a value is what its listeners do. -/
theorem delivers_iff {value : JsValue} {bytes : Option Buffer}
    (stored : value.stored world = some bytes) :
    Delivers host world ref value ↔
      ∀ listener ∈ (world.attrib ref).listeners,
        QuietFor host (world.assigned ref bytes) ref listener := by
  rw [← setValue_stored_returns host ref stored]
  constructor
  · exact Delivers.returns
  · intro returns
    refine ⟨returns, fun other same listener _ => ?_⟩
    rw [stored] at same
    cases same
    have quiet := (setValue_stored_returns host ref stored).mp returns
    rw [emitted_quiet host.stack (by rwa [assigned_listeners]), assigned_listeners]

end Emission

namespace Construction

variable {runtime : Runtime} {registry next : Registry}

theorem Changed.listeners {ref : AttrRef} {item : Item} (changed : Changed registry next ref item)
    (kept : item.listeners = (registry.item ref).listeners) (other : AttrRef) :
    (next.item other).listeners = (registry.item other).listeners := by
  rw [changed.item]
  by_cases same : other = ref
  · subst same
    rw [Function.update_self, kept]
  · rw [Function.update_of_ne same]

theorem describe_listeners {handle : Handle} {offset : Nat} {descriptors : List AttrRef}
    {done : Unit} (ran : (describe runtime handle offset descriptors).run registry = .ok done next)
    (other : AttrRef) : (next.item other).listeners = (registry.item other).listeners := by
  induction descriptors generalizing registry offset with
  | nil =>
    cases ran
    rfl
  | cons descriptor descriptors ih =>
    unfold describe at ran
    rcases bind_ok ran with ⟨_, handled, set, ran⟩
    have first := (setHandle_ok set).listeners rfl other
    rcases bind_ok ran with ⟨_, changed, made, ran⟩
    have second := (changeItem_ok made).listeners rfl other
    rw [ih ran, second, first]

/-- Every characteristic that its constructor returns listens to its value so. -/
theorem createCharacteristic_listens {position : Position} {properties : Nat} {uuid : UuidValue}
    {value : Handle} {descriptors : List AttrRef} {characteristic : Characteristic}
    (ran : (createCharacteristic runtime position properties uuid value descriptors).run registry =
      .ok characteristic next) : .reemit ∈ (next.item characteristic.value).listeners := by
  rcases createCharacteristic_steps ran with
    ⟨found, declValue, endHandle, looked, declared, readable, valued, listened, change, got, made, changed,
      made_value, changed_value, described, unchanged⟩
  rw [describe_listeners described, (changeItem_ok changed_value).item, Function.update_self,
    (unchanged _).2.2.2]
  exact List.mem_append_right _ List.mem_cons_self

end Construction

/-- The listener that a characteristic installs emits on the attribute it listens to, so that no
    assignment to it ends well. -/
theorem characteristic_never_delivers (host : Host) (world : World) (ref : AttrRef)
    (characteristic : IsCharacteristicValue world ref) :
    (∀ value, Accepted world value → ¬ Delivers host world ref value) ∧
      ∀ central handle value respond, writeTarget world handle respond = some ref →
        ¬ DeliversWrite host world central handle value respond ref := by
  constructor
  · intro value accepted delivers
    rcases accepted with ⟨bytes, stored⟩
    exact (delivers_iff stored).mp delivers .reemit characteristic
  · intro central handle value respond target delivers
    have takes := ((doWrite_permitted host central value target).1.mp delivers.returns).1
    exact takes .reemit characteristic

/-- The value of a characteristic, at a handle that a central may write to. -/
def lightSwitch : World :=
  after (do
    let ref ← createAttribute plainHost none (.buffer [0]) (some 1) none
    modify fun world => world.setAttribute ref
      { world.attrib ref with properties := propertyWrite, listeners := [.reemit] } : Js Unit) .initial

theorem lightSwitch_characteristic : IsCharacteristicValue lightSwitch 0 := by
  unfold IsCharacteristicValue
  decide +kernel

theorem lightSwitch_never_delivers :
    writeTarget lightSwitch 1 true = some 0 ∧
      (∀ value, Accepted lightSwitch value → ¬ Delivers plainHost lightSwitch 0 value) ∧
      ∀ central handle value respond, writeTarget lightSwitch handle respond = some 0 →
        ¬ DeliversWrite plainHost lightSwitch central handle value respond 0 :=
  ⟨by decide +kernel, characteristic_never_delivers plainHost lightSwitch 0 lightSwitch_characteristic⟩

/-- To give it a number overflows the stack. -/
theorem number_not_delivered :
    ¬ ∀ host world ref value, IsCharacteristicValue world ref → Accepted world value →
      Delivers host world ref value := by
  intro delivers
  have stored : (JsValue.number 1).stored lightSwitch = some (some [1]) := rfl
  have delivered := delivers plainHost lightSwitch 0 (.number 1) lightSwitch_characteristic ⟨_, stored⟩
  exact (delivers_iff stored).mp delivered .reemit lightSwitch_characteristic

end Btle.Server

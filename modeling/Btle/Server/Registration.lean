import Btle.Server.Construction
import Btle.Server.HandleTable

namespace Btle.Server.Construction

open Machine Throwing Utf16

def Handle.ofOption : Option Nat → Handle
  | none => .undefined
  | some value => .given (.number value)

def Handle.ofType : Option UuidRef → Handle
  | none => .undefined
  | some uuid => .given (.uuid uuid)

def Item.ofAttribute (attrib : Attribute) : Item where
  handle := .ofOption attrib.handle
  type := .ofType attrib.type
  value := attrib.value
  endHandle := .ofOption attrib.endHandle
  properties := attrib.properties
  listeners := attrib.listeners
  writeCallback := attrib.writeCallback

/-- What the constructors work on, in the state that the handlers work on. -/
def Registry.ofWorld (named : List (Text × AttrRef)) (world : World) : Registry where
  slots := world.handles
  named := named
  item ref := .ofAttribute (world.attrib ref)
  allocated := world.allocated
  uuids := world.uuids

/-- The attribute has the handle and its place in the table. -/
def Registry.moved (runtime : Runtime) (registry : Registry) (ref : AttrRef) (n : Nat) : Registry :=
  let entered := (registry.spliced runtime (registry.item ref).handle).enter ref (.index n)
  entered.setItem ref { entered.item ref with handle := .given (.number n) }

section Registration

variable {runtime : Runtime} {named : List (Text × AttrRef)} {world : World} {ref : AttrRef}

theorem ofWorld_setAttribute (attrib : Attribute) :
    Registry.ofWorld named (world.setAttribute ref attrib) =
      (Registry.ofWorld named world).setItem ref (.ofAttribute attrib) := by
  have item : (fun other => Item.ofAttribute (Function.update world.attrib ref attrib other)) =
      Function.update (fun other => Item.ofAttribute (world.attrib other)) ref
        (.ofAttribute attrib) := by
    funext other
    exact Function.apply_update (fun _ => Item.ofAttribute) world.attrib ref attrib other
  unfold Registry.ofWorld Registry.setItem
  rw [← item]
  rfl

theorem ofWorld_fresh :
    Registry.ofWorld named world.fresh =
      { (Registry.ofWorld named world).setItem world.allocated .blank with
        allocated := world.allocated + 1 } := by
  have set : Registry.ofWorld named (world.setAttribute world.allocated .blank) =
      (Registry.ofWorld named world).setItem world.allocated .blank := ofWorld_setAttribute _
  exact congrArg (fun registry : Registry => { registry with allocated := world.allocated + 1 }) set

theorem changeItem_projects (change : Attribute → Attribute) {changed : Item → Item}
    (same : changed (.ofAttribute (world.attrib ref)) = .ofAttribute (change (world.attrib ref))) :
    Projects (Registry.ofWorld named)
      (modify fun world => world.setAttribute ref (change (world.attrib ref)))
      (changeItem ref changed) world := by
  apply projects_modify
  rw [ofWorld_setAttribute, ← same]
  rfl

theorem setNumber_taken {registry : Registry} {n : Nat}
    (taken : (slotAt registry.slots (n + 1)).isSome = true) :
    (setHandle runtime ref (.given (.number (n + 1)))).run registry =
      .error (.typeError s!"Attribute with handle {printHandle (n + 1)} already exists") registry := by
  have has : registry.has runtime (.index (n + 1)) = true := taken
  have truthy : truthy (.number (n + 1)) = true := rfl
  simp only [setHandle, if_pos truthy, EStateM.run_bind, EStateM.run_get, keyOf, Build.ofExcept,
    EStateM.run_pure, if_pos has]
  rfl

/-- What the setter of `handle` does with a number whose slot is free. -/
theorem setNumber_free {registry : Registry} {n : Nat}
    (free : (slotAt registry.slots (n + 1)).isSome = false) :
    (setHandle runtime ref (.given (.number (n + 1)))).run registry =
      .ok () (registry.moved runtime ref (n + 1)) := by
  have has : ¬ registry.has runtime (.index (n + 1)) = true := by
    show ¬ (slotAt registry.slots (n + 1)).isSome = true
    rw [free]
    exact Bool.false_ne_true
  have truthy : truthy (.number (n + 1)) = true := rfl
  simp only [setHandle, if_pos truthy, EStateM.run_bind, EStateM.run_get, keyOf, Build.ofExcept,
    EStateM.run_pure, if_neg has]
  rfl

theorem ofWorld_moved {n : Nat} :
    (Registry.ofWorld named world).moved runtime ref n =
      Registry.ofWorld named (world.moved ref n) := by
  unfold Registry.moved World.moved
  cases held : (world.attrib ref).handle with
  | none =>
    have blank : ((Registry.ofWorld named world).item ref).handle = .undefined := by
      show Handle.ofOption (world.attrib ref).handle = .undefined
      rw [held]
      rfl
    rw [blank, ofWorld_setAttribute]
    rfl
  | some old =>
    have numbered : ((Registry.ofWorld named world).item ref).handle = .given (.number old) := by
      show Handle.ofOption (world.attrib ref).handle = .given (.number old)
      rw [held]
      rfl
    rw [numbered, ofWorld_setAttribute]
    rfl

theorem setHandle_projects (handle : Option Nat) :
    Projects (Registry.ofWorld named) (Server.setHandle ref handle)
      (setHandle runtime ref (.ofOption handle)) world := by
  match handle with
  | none =>
    unfold Projects
    rw [setHandle_none, viewed, ofWorld_setAttribute]
    rfl
  | some 0 =>
    unfold Projects
    rw [setHandle_zero, viewed, ofWorld_setAttribute]
    rfl
  | some (n + 1) =>
    unfold Projects
    cases slot : slotAt world.handles (n + 1) with
    | some other =>
      have taken : (slotAt world.handles (n + 1)).isSome = true := by rw [slot]; rfl
      rw [Handle.ofOption, setNumber_taken taken]
      simp only [Server.setHandle, EStateM.run_bind, EStateM.run_get, if_pos taken]
      rfl
    | none =>
      have free : (slotAt world.handles (n + 1)).isSome = false := by rw [slot]; rfl
      rw [Handle.ofOption, setNumber_free free, setHandle_free ref slot, ofWorld_moved]
      rfl

theorem setHandle_listeners {handle : Option Nat} {done : Unit} {next : World}
    (ran : (Server.setHandle ref handle).run world = .ok done next) :
    (next.attrib ref).listeners = (world.attrib ref).listeners := by
  have self : ∀ start : World, ∀ attrib : Attribute,
      (start.setAttribute ref attrib).attrib ref = attrib := by
    intro start attrib
    exact Function.update_self ref attrib start.attrib
  match handle with
  | none =>
    cases ran
    rw [self]
  | some 0 =>
    cases ran
    rw [self]
  | some (n + 1) =>
    cases slot : slotAt world.handles (n + 1) with
    | some other =>
      rcases setHandle_taken ref slot with ⟨thrown, stopped⟩
      rw [stopped] at ran
      cases ran
    | none =>
      rw [setHandle_free ref slot] at ran
      cases ran
      unfold World.moved
      rw [self]

theorem emitValueChanged_silent {host : Host} (silent : (world.attrib ref).listeners = [])
    (depth : Nat) : (emitValueChanged host ref depth).run world = .ok () world := by
  cases depth <;>
    simp only [emitValueChanged, callListeners, EStateM.run_bind, EStateM.run_get, silent] <;> rfl

theorem setValue_projects (host : Host) (silent : (world.attrib ref).listeners = [])
    (value : JsValue) :
    Projects (Registry.ofWorld named) (Server.setValue host ref value) (setValue ref value) world := by
  have emitted : ∀ bytes : Option Buffer,
      let given := world.setAttribute ref { world.attrib ref with value := bytes }
      (emitValueChanged host ref host.stack).run given = .ok () given := by
    intro bytes
    apply emitValueChanged_silent
    simp [World.setAttribute, silent]
  have given : ∀ bytes : Option Buffer,
      EStateM.Result.ok () ((Registry.ofWorld named world).setItem ref
          { (Registry.ofWorld named world).item ref with value := bytes }) =
        viewed (Registry.ofWorld named) ((emitValueChanged host ref host.stack).run
          (world.setAttribute ref { world.attrib ref with value := bytes })) := by
    intro bytes
    rw [emitted bytes, viewed, ofWorld_setAttribute]
    rfl
  cases value with
  | null | other => rfl
  | uuid | buffer | string | number | array => exact given _

theorem newAttribute_projects (host : Host) (type : Option UuidRef) (value : JsValue)
    (handle endHandle : Option Nat) :
    Projects (Registry.ofWorld named) (Server.newAttribute host handle type value endHandle)
      (newAttribute runtime (.ofOption handle) (.ofType type) value (.ofOption endHandle)) world := by
  apply projects_get_bind
  apply Projects.bind
  · exact projects_modify ofWorld_fresh.symm
  · intro _ fresh made
    cases made
    apply (setHandle_projects handle).bind
    intro _ numbered set
    have silent := setHandle_listeners set
    apply (changeItem_projects (fun attrib => { attrib with type }) rfl).bind
    intro _ typed changed
    cases changed
    apply Projects.bind
    · apply setValue_projects
      simp [World.setAttribute, silent, Attribute.blank]
    · intro _ valued set
      apply (changeItem_projects (fun attrib => { attrib with endHandle }) rfl).bind
      intro _ last changed
      exact projects_pure _ last

/-- The end handle defaults to the handle. -/
theorem ofOption_default (handle endHandle : Option Nat) :
    (if (Handle.ofOption endHandle).truthy then Handle.ofOption endHandle
        else Handle.ofOption handle) =
      .ofOption (if endHandle.getD 0 = 0 then handle else endHandle) := by
  match endHandle with
  | none => rfl
  | some 0 => rfl
  | some (n + 1) => rfl

/-- With numbers for handles, and a UUID for the type, an attribute is created as the handlers'
    `createAttribute` creates it. -/
theorem createAttribute_projects (runtime : Runtime) (host : Host)
    (named : List (Text × AttrRef)) (type : Option UuidRef) (value : JsValue)
    (handle endHandle : Option Nat) (world : World) :
    Projects (Registry.ofWorld named) (Server.createAttribute host type value handle endHandle)
      (createAttribute runtime (.ofType type) value (.ofOption handle) (.ofOption endHandle))
      world := by
  unfold createAttribute Server.createAttribute
  rw [ofOption_default]
  apply (newAttribute_projects host type value handle _).bind
  intro ref made _
  match handle with
  | none => exact projects_pure ref made
  | some 0 => exact projects_pure ref made
  | some (n + 1) => rfl

/-- The events of the handle table, for attributes as the constructors see them. -/
def registryStep (runtime : Runtime) : Step Registry TableEvent JsError Empty := fun registry event =>
  let outcome :=
    match event with
    | .createAttribute type value handle endHandle =>
      (do let _ ← createAttribute runtime (.ofType type) value (.ofOption handle) (.ofOption endHandle)
          : Build Unit).run registry
    | .setHandle ref handle => (setHandle runtime ref (.ofOption handle)).run registry
  match outcome with
  | .ok _ next => .ok (next, [])
  | .error thrown next => .ok (next, [thrown])

theorem registryStep_projects (runtime : Runtime) (host : Host) (named : List (Text × AttrRef))
    (world : World) (event : TableEvent) :
    registryStep runtime (.ofWorld named world) event =
      (tableStep host world event).map fun done => (.ofWorld named done.1, done.2) := by
  cases event with
  | createAttribute type value handle endHandle =>
    have created := (createAttribute_projects runtime host named type value handle endHandle world).bind
      fun _ last _ => projects_pure () last
    unfold registryStep tableStep
    dsimp only
    rw [created]
    cases (Server.createAttribute host type value handle endHandle >>= fun _ => pure ()).run world <;> rfl
  | setHandle ref handle =>
    have set : Projects (Registry.ofWorld named) (Server.setHandle ref handle)
      (setHandle runtime ref (.ofOption handle)) world := setHandle_projects handle
    unfold registryStep tableStep
    dsimp only
    rw [set]
    cases (Server.setHandle ref handle).run world <;> rfl

/-- With numbers for handles, and UUIDs for types, the handle table goes through any run as it does
    for the handlers, and the same is thrown. -/
theorem registry_runs (runtime : Runtime) (host : Host) (named : List (Text × AttrRef)) (world : World)
    (events : List TableEvent) :
    run (registryStep runtime) (.ofWorld named world) events =
      (run (tableStep host) world events).map fun done => (.ofWorld named done.1, done.2) := by
  have seen := run_viewed (registryStep_projects runtime host named) world events
  rwa [List.map_id'] at seen

end Registration

end Btle.Server.Construction

import Btle.Library.Machine
import Btle.Server.Pushes

namespace Btle.Server

open Machine Throwing

/-- Every attribute with a handle is in the slot of that handle, and every slot that is taken
    holds an attribute with its handle. -/
structure TableInvariant (world : World) : Prop where
  registered : ∀ ref < world.allocated, ∀ handle, (world.attrib ref).handle = some handle →
    slotAt world.handles handle = some ref
  occupied : ∀ slot ref, slotAt world.handles slot = some ref →
    (world.attrib ref).handle = some slot

theorem TableInvariant.distinct {world : World} (invariant : TableInvariant world)
    {first second : AttrRef} (created : first < world.allocated) (other : second < world.allocated)
    {handle : Nat} (held : (world.attrib first).handle = some handle)
    (same : (world.attrib second).handle = some handle) : first = second := by
  have slot := invariant.registered first created handle held
  rw [invariant.registered second other handle same] at slot
  exact (Option.some.inj slot).symm

inductive TableEvent
  | createAttribute (type : Option UuidRef) (value : JsValue) (handle endHandle : Option Nat)
  | setHandle (ref : AttrRef) (handle : Option Nat)

/-- An event done to the end or to where it throws; it emits what it throws. -/
def tableStep (host : Host) : Step World TableEvent JsError Empty := fun world event =>
  let outcome :=
    match event with
    | .createAttribute type value handle endHandle =>
      (do let _ ← createAttribute host type value handle endHandle : Js Unit).run world
    | .setHandle ref handle => (setHandle ref handle).run world
  match outcome with
  | .ok _ next => .ok (next, [])
  | .error thrown next => .ok (next, [thrown])

def Refers (world : World) : TableEvent → Prop
  | .createAttribute .. => True
  | .setHandle ref _ => ref < world.allocated

/-- The events the table survives: no handle is 0, none is taken away, and an attribute leaves its
    slot only when no slot above is taken. -/
def Careful (world : World) : TableEvent → Prop
  | .createAttribute _ _ handle _ => handle ≠ some 0
  | .setHandle ref none => (world.attrib ref).handle = none
  | .setHandle _ (some 0) => False
  | .setHandle ref (some (n + 1)) =>
    slotAt world.handles (n + 1) = none → ∀ old, (world.attrib ref).handle = some old →
      ∀ slot, old < slot → slotAt world.handles slot = none

section Slots

variable {handles : List (Option AttrRef)}

theorem slotAt_setSlot (i : Nat) (ref : AttrRef) (k : Nat) :
    slotAt (setSlot handles i ref) k = if k = i then some ref else slotAt handles k := by
  unfold slotAt setSlot
  split
  · rename_i inside
    rw [List.getElem?_set]
    by_cases same : i = k
    · subst same
      simp [inside]
    · rw [if_neg same, if_neg (Ne.symm same)]
  · rename_i outside
    by_cases same : k = i
    · subst same
      have place : (handles ++ List.replicate (k - handles.length) none).length = k := by
        simp
        omega
      rw [if_pos rfl, List.getElem?_append_right (by omega), place]
      simp
    · rw [if_neg same, List.append_assoc, List.getElem?_append]
      split
      · rfl
      · rename_i beyond
        rw [List.getElem?_append, List.length_replicate]
        split
        · rename_i gap
          have nothing : handles[k]? = none := List.getElem?_eq_none (by omega)
          rw [List.getElem?_replicate, if_pos gap, nothing]
          rfl
        · have nothing : handles[k]? = none := List.getElem?_eq_none (by omega)
          have none_here : [some ref][k - handles.length - (i - handles.length)]? = none :=
            List.getElem?_eq_none (by simp; omega)
          rw [nothing, none_here]

theorem slotAt_eraseIdx (i k : Nat) :
    slotAt (handles.eraseIdx i) k = if k < i then slotAt handles k else slotAt handles (k + 1) := by
  unfold slotAt
  rw [List.getElem?_eraseIdx]
  split <;> rfl

end Slots

structure SameTable (world next : World) : Prop where
  slots : ∀ slot, slotAt next.handles slot = slotAt world.handles slot
  allocated : next.allocated = world.allocated
  handle : ∀ ref, (next.attrib ref).handle = (world.attrib ref).handle

instance : Std.Refl SameTable := ⟨fun _ => ⟨fun _ => rfl, rfl, fun _ => rfl⟩⟩

instance : IsTrans World SameTable :=
  ⟨fun _ _ _ first second => ⟨fun slot => (second.slots slot).trans (first.slots slot),
    second.allocated.trans first.allocated, fun ref => (second.handle ref).trans (first.handle ref)⟩⟩

theorem TableInvariant.transport {world next : World} (same : SameTable world next)
    (invariant : TableInvariant world) : TableInvariant next := by
  constructor
  · intro ref created handle held
    rw [same.slots]
    exact invariant.registered ref (same.allocated ▸ created) handle (same.handle ref ▸ held)
  · intro slot ref taken
    rw [same.handle]
    exact invariant.occupied slot ref (same.slots slot ▸ taken)

theorem setAttribute_sameTable (world : World) (ref : AttrRef) (attrib : Attribute)
    (kept : attrib.handle = (world.attrib ref).handle) :
    SameTable world (world.setAttribute ref attrib) := by
  refine ⟨fun _ => rfl, rfl, fun other => ?_⟩
  by_cases same : other = ref
  · subst same
    simp [World.setAttribute, kept]
  · simp [World.setAttribute, same]

theorem Pushes.sameTable {world next : World} (pushes : Pushes world next) :
    SameTable world next := by
  refine ⟨fun _ => ?_, pushes.allocated, fun ref => ?_⟩
  · rw [pushes.handles]
  · rw [pushes.attrib]

theorem setValue_keeps (host : Host) (ref : AttrRef) (value : JsValue) :
    Keeps SameTable (setValue host ref value) := by
  have assigned : ∀ (world : World) (value : Option Buffer), SameTable world
      (world.setAttribute ref { world.attrib ref with value }) :=
    fun world _ => setAttribute_sameTable world ref _ rfl
  exact setValue_keeps_of host ref value assigned fun _ _ => Pushes.sameTable

/-- The invariant with what it takes to carry it on: slot 0 is empty, and what is in a slot has
    been created. -/
structure TableSound (world : World) : Prop where
  invariant : TableInvariant world
  zero : slotAt world.handles 0 = none
  created : ∀ slot ref, slotAt world.handles slot = some ref → ref < world.allocated

theorem TableSound.transport {world next : World} (same : SameTable world next)
    (sound : TableSound world) : TableSound next := by
  refine ⟨sound.invariant.transport same, (same.slots 0).trans sound.zero, ?_⟩
  intro slot ref taken
  rw [same.allocated]
  exact sound.created slot ref (same.slots slot ▸ taken)

theorem tableSound_initial : TableSound .initial := by
  refine ⟨⟨?_, ?_⟩, rfl, ?_⟩
  · intro ref created
    cases created
  · intro slot ref taken
    simp [World.initial, slotAt] at taken
  · intro slot ref taken
    simp [World.initial, slotAt] at taken

def World.moved (world : World) (ref : AttrRef) (n : Nat) : World :=
  let handles :=
    match (world.attrib ref).handle with
    | some old => world.handles.eraseIdx old
    | none => world.handles
  { world with handles := setSlot handles n ref }.setAttribute ref
    { world.attrib ref with handle := some n }

section SetHandle

variable {world : World} {ref : AttrRef} {n : Nat}

theorem setHandle_none (world : World) (ref : AttrRef) :
    (setHandle ref none).run world =
      .ok () (world.setAttribute ref { world.attrib ref with handle := none }) := rfl

theorem setHandle_zero (world : World) (ref : AttrRef) :
    (setHandle ref (some 0)).run world =
      .ok () (world.setAttribute ref { world.attrib ref with handle := some 0 }) := rfl

theorem setHandle_taken (ref : AttrRef) {other : AttrRef} (taken : slotAt world.handles (n + 1) = some other) :
    ∃ thrown, (setHandle ref (some (n + 1))).run world = .error thrown world := by
  simp only [setHandle, EStateM.run_bind, EStateM.run_get, taken]
  exact ⟨_, rfl⟩

theorem setHandle_free (ref : AttrRef) (free : slotAt world.handles (n + 1) = none) :
    (setHandle ref (some (n + 1))).run world = .ok () (world.moved ref (n + 1)) := by
  unfold World.moved
  cases held : (world.attrib ref).handle with
  | none =>
    simp only [setHandle, EStateM.run_bind, EStateM.run_get, EStateM.run_modify, free, held,
      Option.isSome_none, Bool.false_eq_true, if_false]
  | some old =>
    simp only [setHandle, EStateM.run_bind, EStateM.run_get, EStateM.run_modify, free, held,
      Option.isSome_none, Bool.false_eq_true, if_false]

theorem moved_handle (other : AttrRef) :
    ((world.moved ref n).attrib other).handle =
      if other = ref then some n else (world.attrib other).handle := by
  unfold World.moved
  by_cases same : other = ref
  · subst same
    simp [World.setAttribute]
  · simp [World.setAttribute, same]

theorem moved_slot_of_none (held : (world.attrib ref).handle = none) (slot : Nat) :
    slotAt (world.moved ref n).handles slot =
      if slot = n then some ref else slotAt world.handles slot := by
  unfold World.moved
  simp only [held, World.setAttribute, slotAt_setSlot]

theorem moved_slot_of_some {old : Nat} (held : (world.attrib ref).handle = some old) (slot : Nat) :
    slotAt (world.moved ref n).handles slot =
      if slot = n then some ref
      else if slot < old then slotAt world.handles slot else slotAt world.handles (slot + 1) := by
  unfold World.moved
  simp only [held, World.setAttribute, slotAt_setSlot, slotAt_eraseIdx]

/-- An attribute may go to a free slot as long as nothing happens to the slots of the others. -/
theorem TableSound.moved (sound : TableSound world) (created : ref < world.allocated)
    (free : slotAt world.handles (n + 1) = none)
    (here : slotAt (world.moved ref (n + 1)).handles (n + 1) = some ref)
    (others : ∀ slot, slot ≠ n + 1 → slotAt (world.moved ref (n + 1)).handles slot =
      if slotAt world.handles slot = some ref then none else slotAt world.handles slot) :
    TableSound (world.moved ref (n + 1)) := by
  have left (slot : Nat) (other : AttrRef) (elsewhere : slot ≠ n + 1)
      (taken : slotAt (world.moved ref (n + 1)).handles slot = some other) :
      slotAt world.handles slot = some other ∧ other ≠ ref := by
    rw [others slot elsewhere] at taken
    split at taken
    · cases taken
    · rename_i different
      refine ⟨taken, ?_⟩
      intro same
      subst same
      exact different taken
  refine ⟨⟨?_, ?_⟩, ?_, ?_⟩
  · intro other other_created handle other_held
    rw [moved_handle] at other_held
    split at other_held
    · rename_i same
      cases other_held
      rw [here, same]
    · rename_i different
      have registered := sound.invariant.registered other other_created handle other_held
      have elsewhere : handle ≠ n + 1 := by
        intro same
        subst same
        rw [free] at registered
        cases registered
      have apart : slotAt world.handles handle ≠ some ref := by
        rw [registered]
        exact fun same => different (Option.some.inj same)
      rw [others handle elsewhere, if_neg apart, registered]
  · intro slot other taken
    rw [moved_handle]
    by_cases elsewhere : slot = n + 1
    · subst elsewhere
      rw [here] at taken
      cases taken
      exact if_pos rfl
    · rcases left slot other elsewhere taken with ⟨before, different⟩
      rw [if_neg different, sound.invariant.occupied slot other before]
  · rw [others 0 (Nat.succ_ne_zero n).symm, sound.zero]
    exact if_neg nofun
  · intro slot other taken
    by_cases elsewhere : slot = n + 1
    · subst elsewhere
      rw [here] at taken
      cases taken
      exact created
    · exact sound.created slot other (left slot other elsewhere taken).1

theorem TableSound.entered (sound : TableSound world) (created : ref < world.allocated)
    (held : (world.attrib ref).handle = none) (free : slotAt world.handles (n + 1) = none) :
    TableSound (world.moved ref (n + 1)) := by
  have nowhere (slot : Nat) : slotAt world.handles slot ≠ some ref := by
    intro taken
    have occupied := sound.invariant.occupied slot ref taken
    rw [held] at occupied
    cases occupied
  refine sound.moved created free ?_ fun slot elsewhere => ?_
  · rw [moved_slot_of_none held, if_pos rfl]
  · rw [moved_slot_of_none held, if_neg elsewhere, if_neg (nowhere slot)]

theorem TableSound.left (sound : TableSound world) (created : ref < world.allocated) {old : Nat}
    (held : (world.attrib ref).handle = some old) (free : slotAt world.handles (n + 1) = none)
    (above : ∀ slot, old < slot → slotAt world.handles slot = none) :
    TableSound (world.moved ref (n + 1)) := by
  have own : slotAt world.handles old = some ref := sound.invariant.registered ref created old held
  refine sound.moved created free ?_ fun slot elsewhere => ?_
  · rw [moved_slot_of_some held, if_pos rfl]
  · rw [moved_slot_of_some held, if_neg elsewhere]
    rcases Nat.lt_trichotomy slot old with lower | rfl | higher
    · have apart : slotAt world.handles slot ≠ some ref := by
        intro taken
        have occupied := sound.invariant.occupied slot ref taken
        rw [held] at occupied
        cases occupied
        exact Nat.lt_irrefl _ lower
      rw [if_pos lower, if_neg apart]
    · rw [if_neg (Nat.lt_irrefl _), if_pos own, above _ (Nat.lt_succ_self _)]
    · rw [if_neg (Nat.lt_asymm higher), above _ higher, if_neg nofun, above _ (by omega)]

/-- An attribute above the slot that is spliced out is not found under its handle any more. -/
theorem TableSound.shifted (sound : TableSound world) {old slot : Nat} {other : AttrRef}
    (held : (world.attrib ref).handle = some old)
    (free : slotAt world.handles (n + 1) = none) (above : old < slot)
    (taken : slotAt world.handles slot = some other) :
    ¬ TableInvariant (world.moved ref (n + 1)) := by
  intro invariant
  have other_held := sound.invariant.occupied slot other taken
  have different : other ≠ ref := by
    intro same
    subst same
    rw [held] at other_held
    cases other_held
    exact Nat.lt_irrefl _ above
  have still : ((world.moved ref (n + 1)).attrib other).handle = some slot := by
    rw [moved_handle, if_neg different, other_held]
  have registered := invariant.registered other (sound.created slot other taken) slot still
  have elsewhere : slot ≠ n + 1 := by
    intro same
    rw [same, free] at taken
    cases taken
  have behind : ¬ slot < old := by omega
  rw [moved_slot_of_some held, if_neg elsewhere, if_neg behind] at registered
  have next_held := sound.invariant.occupied (slot + 1) other registered
  rw [other_held] at next_held
  simp at next_held

theorem setHandle_exact (sound : TableSound world) (created : ref < world.allocated)
    (handle : Option Nat) :
    (Careful world (.setHandle ref handle) → TableSound (after (setHandle ref handle) world)) ∧
      (TableInvariant (after (setHandle ref handle) world) →
        Careful world (.setHandle ref handle)) := by
  match handle with
  | none =>
    rw [after_ok (setHandle_none world ref)]
    constructor
    · intro careful
      exact sound.transport (setAttribute_sameTable _ _ _ (Eq.symm careful))
    · intro invariant
      by_contra held
      rcases Option.ne_none_iff_exists'.mp held with ⟨old, held⟩
      have own := sound.invariant.registered ref created old held
      have occupied := invariant.occupied old ref own
      simp [World.setAttribute] at occupied
  | some 0 =>
    rw [after_ok (setHandle_zero world ref)]
    constructor
    · intro careful
      exact absurd careful not_false
    · intro invariant
      have registered := invariant.registered ref created 0 (by simp [World.setAttribute])
      rw [World.setAttribute, sound.zero] at registered
      cases registered
  | some (n + 1) =>
    cases slot : slotAt world.handles (n + 1) with
    | some other =>
      rcases setHandle_taken ref slot with ⟨thrown, ran⟩
      rw [after_error ran]
      refine ⟨fun _ => sound, ?_⟩
      intro _ free
      rw [slot] at free
      cases free
    | none =>
      rw [after_ok (setHandle_free ref slot)]
      cases held : (world.attrib ref).handle with
      | none =>
        refine ⟨fun _ => sound.entered created held slot, fun _ _ old other => ?_⟩
        rw [held] at other
        cases other
      | some old =>
        constructor
        · intro careful
          exact sound.left created held slot (careful slot old held)
        · intro invariant _ other same upper above
          rw [held] at same
          cases same
          by_contra taken
          rcases Option.ne_none_iff_exists'.mp taken with ⟨other, taken⟩
          exact sound.shifted held slot above taken invariant

end SetHandle

section Create

variable {host : Host} {world : World}

def World.fresh (world : World) : World :=
  { world.setAttribute world.allocated .blank with allocated := world.allocated + 1 }

theorem TableSound.fresh (sound : TableSound world) : TableSound world.fresh := by
  have older {ref : AttrRef} (created : ref < world.allocated) :
      world.fresh.attrib ref = world.attrib ref := by
    have different : ref ≠ world.allocated := Nat.ne_of_lt created
    simp [World.fresh, World.setAttribute, different]
  refine ⟨⟨?_, ?_⟩, sound.zero, ?_⟩
  · intro ref created handle held
    by_cases same : ref = world.allocated
    · subst same
      simp [World.fresh, World.setAttribute, Attribute.blank] at held
    · have earlier : ref < world.allocated := Nat.lt_of_le_of_ne (Nat.le_of_lt_succ created) same
      rw [older earlier] at held
      exact sound.invariant.registered ref earlier handle held
  · intro slot ref taken
    rw [older (sound.created slot ref taken)]
    exact sound.invariant.occupied slot ref taken
  · intro slot ref taken
    exact Nat.lt_succ_of_lt (sound.created slot ref taken)

/-- What the constructor does once the handle is set leaves the table alone. -/
theorem newAttribute_cases (host : Host) {handle : Option Nat} (type : Option UuidRef) (value : JsValue)
    (endHandle : Option Nat) {next : World}
    (set : (setHandle world.allocated handle).run world.fresh = .ok () next) :
    ∃ last, SameTable next last ∧
      ((∃ thrown, (newAttribute host handle type value endHandle).run world = .error thrown last) ∨
        (newAttribute host handle type value endHandle).run world = .ok world.allocated last) := by
  let typed := next.setAttribute world.allocated { next.attrib world.allocated with type }
  have typing : SameTable next typed := setAttribute_sameTable _ _ _ rfl
  have valuing := IsTrans.trans _ _ _ typing (setValue_keeps host world.allocated value typed)
  have ran : (newAttribute host handle type value endHandle).run world =
      (do setValue host world.allocated value
          modify fun world' => world'.setAttribute world.allocated
            { world'.attrib world.allocated with endHandle }
          return world.allocated : Js AttrRef).run typed := by
    simp only [World.fresh] at set
    simp only [newAttribute, EStateM.run_bind, EStateM.run_get, EStateM.run_modify, set]
    rfl
  rw [ran, EStateM.run_bind]
  cases valued : (setValue host world.allocated value).run typed with
  | error thrown last =>
    rw [after_error valued] at valuing
    exact ⟨last, valuing, .inl ⟨thrown, rfl⟩⟩
  | ok done last =>
    rw [after_ok valued] at valuing
    refine ⟨last.setAttribute world.allocated { last.attrib world.allocated with endHandle }, ?_,
      .inr rfl⟩
    exact IsTrans.trans _ _ _ valuing (setAttribute_sameTable _ _ _ rfl)

/-- The slot that `createAttribute` fills at the end is filled already. -/
theorem createAttribute_after (host : Host) (type : Option UuidRef) (value : JsValue)
    (handle endHandle : Option Nat) {next : World}
    (set : (setHandle world.allocated handle).run world.fresh = .ok () next)
    (own : ∀ n, handle = some (n + 1) → slotAt next.handles (n + 1) = some world.allocated) :
    SameTable next (after (createAttribute host type value handle endHandle) world) := by
  obtain ⟨last, same, ⟨thrown, made⟩ | made⟩ :=
    newAttribute_cases host type value (if endHandle.getD 0 = 0 then handle else endHandle) set
  · have stopped : (createAttribute host type value handle endHandle).run world = .error thrown last := by
      rw [createAttribute, EStateM.run_bind, made]
    rwa [after_error stopped]
  · unfold after
    rw [createAttribute, EStateM.run_bind, made]
    match handle with
    | none => exact same
    | some 0 => exact same
    | some (n + 1) =>
      refine ⟨fun slot => ?_, same.allocated, same.handle⟩
      apply (slotAt_setSlot _ _ _).trans
      split
      · rename_i here
        rw [here, own n rfl]
      · exact same.slots slot

theorem createAttribute_exact (sound : TableSound world) (type : Option UuidRef) (value : JsValue)
    (handle endHandle : Option Nat) :
    (Careful world (.createAttribute type value handle endHandle) →
        TableSound (after (createAttribute host type value handle endHandle) world)) ∧
      (TableInvariant (after (createAttribute host type value handle endHandle) world) →
        Careful world (.createAttribute type value handle endHandle)) := by
  have fresh := sound.fresh
  have created : world.allocated < world.fresh.allocated := Nat.lt_succ_self _
  have blank : (world.fresh.attrib world.allocated).handle = none := by
    simp [World.fresh, World.setAttribute, Attribute.blank]
  match handle with
  | none =>
    have same := createAttribute_after host type value none endHandle
      (setHandle_none world.fresh world.allocated) nofun
    have kept := (fresh.transport (setAttribute_sameTable _ _ _ blank.symm)).transport same
    exact ⟨fun _ => kept, fun _ => nofun⟩
  | some 0 =>
    have same := createAttribute_after host type value (some 0) endHandle
      (setHandle_zero world.fresh world.allocated) nofun
    refine ⟨fun careful => absurd rfl careful, fun invariant => ?_⟩
    have held := same.handle world.allocated
    have still : world.allocated < (after (createAttribute host type value (some 0) endHandle)
        world).allocated := by
      rw [same.allocated]
      exact created
    have zero : ((after (createAttribute host type value (some 0) endHandle) world).attrib
        world.allocated).handle = some 0 := by
      rw [held]
      simp [World.setAttribute]
    have registered := invariant.registered world.allocated still 0 zero
    rw [same.slots, World.setAttribute, fresh.zero] at registered
    cases registered
  | some (n + 1) =>
    refine ⟨fun _ => ?_, fun _ => by simp [Careful]⟩
    cases slot : slotAt world.fresh.handles (n + 1) with
    | some other =>
      rcases setHandle_taken world.allocated slot with ⟨thrown, ran⟩
      have stopped : (createAttribute host type value (some (n + 1)) endHandle).run world =
          .error thrown world.fresh := by
        simp only [World.fresh] at ran
        simp only [createAttribute, newAttribute, EStateM.run_bind, EStateM.run_get,
          EStateM.run_modify, ran]
        rfl
      rw [after_error stopped]
      exact fresh
    | none =>
      have entered := fresh.entered created blank slot
      have same := createAttribute_after host type value (some (n + 1)) endHandle
        (setHandle_free world.allocated slot) ?_
      · exact entered.transport same
      · intro handle given
        cases given
        rw [moved_slot_of_none blank, if_pos rfl]

end Create

theorem tableStep_after (host : Host) (world : World) (event : TableEvent) :
    ∃ thrown, tableStep host world event = .ok (match event with
      | .createAttribute type value handle endHandle =>
        after (createAttribute host type value handle endHandle) world
      | .setHandle ref handle => after (setHandle ref handle) world, thrown) := by
  cases event with
  | createAttribute type value handle endHandle =>
    simp only [tableStep, after, EStateM.run_bind]
    cases (createAttribute host type value handle endHandle).run world with
    | ok ref next => exact ⟨[], rfl⟩
    | error thrown next => exact ⟨[thrown], rfl⟩
  | setHandle ref handle =>
    simp only [tableStep, after]
    cases (setHandle ref handle).run world with
    | ok done next => exact ⟨[], rfl⟩
    | error thrown next => exact ⟨[thrown], rfl⟩

/-- The handle table is intact throughout a run as long as, and only as long as, all its events are
    careful: whoever moves an attribute splices its old slot out, and all above it shift. -/
theorem table_invariant_iff (host : Host) (events : List TableEvent)
    (refers : ∀ taken ∈ visited (tableStep host) .initial events, Refers taken.1 taken.2) :
    Stays (tableStep host) .initial events TableInvariant ↔
      ∀ taken ∈ visited (tableStep host) .initial events, Careful taken.1 taken.2 := by
  refine stays_iff (fun world event => ?_) (fun _ sound => sound.invariant) ?_ tableSound_initial refers
  · rcases tableStep_after host world event with ⟨thrown, stepped⟩
    exact ⟨_, thrown, stepped⟩
  · intro world event next out sound refer stepped
    rcases tableStep_after host world event with ⟨thrown, same⟩
    rw [same] at stepped
    cases stepped
    cases event with
    | createAttribute type value handle endHandle =>
      exact createAttribute_exact sound type value handle endHandle
    | setHandle ref handle => exact setHandle_exact sound refer handle

theorem moved_attribute_shifts :
    ¬ Stays (tableStep plainHost) .initial
      [.createAttribute none (.buffer [1]) (some 1) none,
        .createAttribute none (.buffer [2]) (some 2) none, .setHandle 0 (some 5)]
      TableInvariant := by
  intro stays
  have invariant := stays _ (List.prefix_refl _) _ _ rfl
  exact absurd (invariant.registered 1 (by decide) 2 rfl) (by decide)

theorem table_invariant_iff_sample :
    Stays (tableStep plainHost) .initial
      [.createAttribute none (.buffer [1]) (some 1) none, .setHandle 0 (some 5)] TableInvariant ↔
    ∀ taken ∈ visited (tableStep plainHost) .initial
      [.createAttribute none (.buffer [1]) (some 1) none, .setHandle 0 (some 5)],
      Careful taken.1 taken.2 :=
  table_invariant_iff plainHost _
    (List.forall_mem_cons.mpr ⟨trivial, List.forall_mem_cons.mpr ⟨Nat.zero_lt_one, by nofun⟩⟩)

end Btle.Server

import Btle.Server.Layout

namespace Btle.Server.Construction

open Throwing

inductive ServiceTree
  | node (service : Service) (includes : List ServiceTree)

mutual

def ServiceTree.attributes : ServiceTree → List AttrRef
  | .node service includes => service.getAttributes ++ includedAttributes includes

def includedAttributes : List ServiceTree → List AttrRef
  | [] => []
  | tree :: trees => tree.attributes ++ includedAttributes trees

end

def Service.ends (service : Service) : List Handle :=
  .ofNumber service.endHandle :: service.characteristics.map Characteristic.endHandle

mutual

def ServiceTree.ends : ServiceTree → List Handle
  | .node service includes => service.ends ++ includedEnds includes

def includedEnds : List ServiceTree → List Handle
  | [] => []
  | tree :: trees => tree.ends ++ includedEnds trees

end

def ServiceTree.endHandle : ServiceTree → Number
  | .node service _ => service.endHandle

section Programs

variable (runtime : Runtime)

/-- `Service.create`. -/
def createIncluding (position : Position) (serviceUuid : UuidValue) (includes : List ServiceTree)
    (characteristics : List Characteristic) : Build ServiceTree := do
  return .node (← newService runtime position serviceUuid includes.length characteristics) includes

mutual

/-- `Service.prototype.setHandle`. -/
def ServiceTree.setHandle : ServiceTree → Number → Build ServiceTree
  | .node service includes, handle => do
    Construction.setHandle runtime service.declaration (.ofNumber handle)
    let (includes, handle) ← placeIncludes includes (handle.map (· + 1))
    let (characteristics, handle) ← placeCharacteristics runtime handle service.characteristics
    let endHandle := handle.map (· - 1)
    changeItem service.declaration fun item => { item with endHandle := .ofNumber endHandle }
    return .node { service with characteristics, endHandle } includes

def placeIncludes : List ServiceTree → Number → Build (List ServiceTree × Number)
  | [], handle => return ([], handle)
  | tree :: trees, handle => do
    let tree ← ServiceTree.setHandle tree handle
    let (trees, handle) ← placeIncludes trees (tree.endHandle.map (· + 1))
    return (tree :: trees, handle)

end

/-- What a service is created with, its included services created before it. -/
inductive ServicePlan
  | plan (position : Position) (uuid : UuidValue) (characteristics : List CharacteristicSpec)
      (includes : List ServicePlan)

mutual

def ServicePlan.create : ServicePlan → Build ServiceTree
  | .plan position uuid characteristics includes => do
    let includes ← createPlans includes
    let characteristics ← characteristics.mapM (CharacteristicSpec.create runtime)
    createIncluding runtime position uuid includes characteristics

def createPlans : List ServicePlan → Build (List ServiceTree)
  | [] => return []
  | plan :: plans => do
    let tree ← ServicePlan.create plan
    let trees ← createPlans plans
    return tree :: trees

end

end Programs

/-- Two ways to place the same attributes end alike: in the handles, end handles and values of the
    attributes, in the end handles of the objects, and in the table. -/
structure Alike (registry next : Registry) (refs others : List AttrRef)
    (ends otherEnds : List Handle) : Prop where
  attributes : refs = others
  handles : ∀ ref ∈ refs, (registry.item ref).handle = (next.item ref).handle
  attributeEnds : ∀ ref ∈ refs, (registry.item ref).endHandle = (next.item ref).endHandle
  values : ∀ ref ∈ refs, (registry.item ref).value = (next.item ref).value
  ends : ends = otherEnds
  table : ∀ slot, slotAt registry.slots slot = slotAt next.slots slot
  names : ∀ name, registry.named.lookup name = next.named.lookup name

section Ways

variable (runtime : Runtime) (registry : Registry)

/-- Creating a service at a handle and creating it without one, to be given the handle then, both
    succeed and place it alike. -/
def ServicePlacedAlike (handle : Nat) (leftOut : Position) (uuid : UuidValue)
    (characteristics : List CharacteristicSpec) (includes : List ServicePlan) : Prop :=
  ∃ tree next other last,
    ((ServicePlan.plan (.number handle) uuid characteristics includes).create runtime).run registry =
      .ok tree next ∧
    ((ServicePlan.plan leftOut uuid characteristics includes).create runtime >>= fun service =>
      service.setHandle runtime (some handle)).run registry = .ok other last ∧
    Alike next last tree.attributes other.attributes tree.ends other.ends

def CharacteristicPlacedAlike (handle : Nat) (leftOut : Position) (properties : Nat)
    (uuid : UuidValue) (value : Handle) (descriptors : List DescriptorSpec) : Prop :=
  ∃ characteristic next other last,
    (do let descriptors ← descriptors.mapM (DescriptorSpec.create runtime)
        createCharacteristic runtime (.number handle) properties uuid value descriptors).run registry =
      .ok characteristic next ∧
    (do let descriptors ← descriptors.mapM (DescriptorSpec.create runtime)
        let characteristic ← createCharacteristic runtime leftOut properties uuid value descriptors
        characteristic.setHandle runtime (some handle)).run registry = .ok other last ∧
    Alike next last characteristic.attributes other.attributes [characteristic.endHandle]
      [other.endHandle]

end Ways

structure Confined (refs : List AttrRef) (registry next : Registry) : Prop where
  allocated : next.allocated = registry.allocated
  item : ∀ ref ∉ refs, next.item ref = registry.item ref

theorem Confined.refl (refs : List AttrRef) (registry : Registry) : Confined refs registry registry :=
  ⟨rfl, fun _ _ => rfl⟩

theorem Confined.trans {refs : List AttrRef} {registry middle next : Registry}
    (first : Confined refs registry middle) (second : Confined refs middle next) :
    Confined refs registry next := by
  constructor
  · rw [second.allocated, first.allocated]
  · intro ref outside
    rw [second.item ref outside, first.item ref outside]

theorem Confined.widen {refs others : List AttrRef} {registry next : Registry}
    (confined : Confined refs registry next) (inside : refs ⊆ others) :
    Confined others registry next :=
  ⟨confined.allocated, fun ref outside => confined.item ref fun member => outside (inside member)⟩

section Frames

variable {runtime : Runtime} {registry next : Registry}

theorem Changed.confined {ref : AttrRef} {item : Item} (changed : Changed registry next ref item) :
    Confined [ref] registry next := by
  refine ⟨changed.allocated, fun other outside => ?_⟩
  rw [changed.item, Function.update_of_ne (List.ne_of_not_mem_cons outside)]

theorem placeAttributes_confined {handle : Number} {offset : Nat} {refs : List AttrRef} {done : Unit}
    (ran : (placeAttributes runtime handle offset refs).run registry = .ok done next) :
    Confined refs registry next := by
  induction refs generalizing registry offset with
  | nil =>
    cases ran
    exact .refl _ _
  | cons ref refs ih =>
    unfold placeAttributes at ran
    obtain ⟨_, placed, set, ran⟩ := bind_ok ran
    have first := (setHandle_ok set).confined
    exact (first.widen (by simp)).trans ((ih ran).widen (by simp))

theorem Characteristic.setHandle_confined {characteristic placed : Characteristic} {handle : Number}
    (ran : (characteristic.setHandle runtime handle).run registry = .ok placed next) :
    Confined characteristic.attributes registry next ∧
      placed.attributes = characteristic.attributes := by
  unfold Characteristic.setHandle at ran
  obtain ⟨_, _, got, ran⟩ := bind_ok ran
  cases got
  cases held : (registry.item characteristic.declaration).value with
  | none =>
    rw [held] at ran
    cases ran
  | some bytes =>
    rw [held] at ran
    obtain ⟨written, _, encoded, ran⟩ := bind_ok ran
    obtain ⟨_, rfl⟩ := ofExcept_ok encoded
    obtain ⟨_, _, changed, ran⟩ := bind_ok ran
    obtain ⟨_, _, placing, ran⟩ := bind_ok ran
    obtain ⟨_, _, ending, ran⟩ := bind_ok ran
    cases ran
    have declaration : [characteristic.declaration] ⊆ characteristic.attributes := by
      simp [Characteristic.attributes]
    have writing := (changeItem_ok changed).confined.widen declaration
    have closing := (changeItem_ok ending).confined.widen declaration
    exact ⟨(writing.trans (placeAttributes_confined placing)).trans closing, rfl⟩

theorem placeCharacteristics_confined {handle last : Number}
    {characteristics placed : List Characteristic}
    (ran : (placeCharacteristics runtime handle characteristics).run registry =
      .ok (placed, last) next) :
    Confined (characteristics.flatMap Characteristic.attributes) registry next ∧
      placed.map Characteristic.attributes = characteristics.map Characteristic.attributes := by
  induction characteristics generalizing registry handle placed last with
  | nil =>
    cases ran
    exact ⟨.refl _ _, rfl⟩
  | cons characteristic characteristics ih =>
    unfold placeCharacteristics at ran
    obtain ⟨one, _, set, ran⟩ := bind_ok ran
    obtain ⟨⟨rest, _⟩, _, others, ran⟩ := bind_ok ran
    cases ran
    obtain ⟨first, same⟩ := Characteristic.setHandle_confined set
    obtain ⟨second, sames⟩ := ih others
    have whole := (first.widen (List.subset_append_left _ _)).trans
      (second.widen (List.subset_append_right characteristic.attributes _))
    refine ⟨by simpa using whole, ?_⟩
    rw [List.map_cons, same, sames, List.map_cons]

mutual

theorem ServiceTree.setHandle_confined (tree : ServiceTree) {handle : Number} {placed : ServiceTree}
    {registry next : Registry}
    (ran : (tree.setHandle runtime handle).run registry = .ok placed next) :
    Confined tree.attributes registry next := by
  match tree with
  | .node service includes =>
    unfold ServiceTree.setHandle at ran
    obtain ⟨_, _, set, ran⟩ := bind_ok ran
    obtain ⟨⟨trees, _⟩, _, including, ran⟩ := bind_ok ran
    obtain ⟨⟨characteristics, _⟩, _, placing, ran⟩ := bind_ok ran
    obtain ⟨_, _, ending, ran⟩ := bind_ok ran
    cases ran
    have declaration : [service.declaration] ⊆ (ServiceTree.node service includes).attributes := by
      simp [ServiceTree.attributes, Service.getAttributes]
    have inner : service.characteristics.flatMap Characteristic.attributes ⊆
        (ServiceTree.node service includes).attributes := by
      simp [ServiceTree.attributes, Service.getAttributes]
    have included : includedAttributes includes ⊆ (ServiceTree.node service includes).attributes := by
      simp [ServiceTree.attributes]
    have first := (setHandle_ok set).confined.widen declaration
    have second := (placeIncludes_confined includes including).widen included
    have third := (placeCharacteristics_confined placing).1.widen inner
    exact ((first.trans second).trans third).trans ((changeItem_ok ending).confined.widen declaration)

theorem placeIncludes_confined (trees : List ServiceTree) {handle last : Number}
    {placed : List ServiceTree} {registry next : Registry}
    (ran : (placeIncludes runtime trees handle).run registry = .ok (placed, last) next) :
    Confined (includedAttributes trees) registry next := by
  match trees with
  | [] =>
    unfold placeIncludes at ran
    cases ran
    exact .refl _ _
  | tree :: trees =>
    unfold placeIncludes at ran
    obtain ⟨one, _, set, ran⟩ := bind_ok ran
    obtain ⟨⟨rest, _⟩, _, others, ran⟩ := bind_ok ran
    cases ran
    have first := ServiceTree.setHandle_confined tree set
    have second := placeIncludes_confined trees others
    exact (first.widen (by simp [includedAttributes])).trans
      (second.widen (by simp [includedAttributes]))

end

end Frames

section Created

variable {runtime : Runtime} {registry next : Registry}

theorem createIncluding_ok {position : Position} {uuid : UuidValue} {includes : List ServiceTree}
    {characteristics : List Characteristic} {tree : ServiceTree}
    (declared : ∀ characteristic ∈ characteristics, characteristic.Declared registry)
    (ran : (createIncluding runtime position uuid includes characteristics).run registry =
      .ok tree next) :
    Kept registry next ∧ ∃ service, tree = .node service includes ∧ service.characteristics = [] ∧
      registry.allocated ≤ service.declaration ∧ service.Unnumbered next := by
  obtain ⟨service, _, created, ran⟩ := bind_ok ran
  cases ran
  obtain ⟨_, kept, bare, later, unnumbered⟩ := newService_ok
    (fun characteristic first => declared characteristic (List.mem_of_mem_head? first)) created
  exact ⟨kept, service, rfl, bare, later, unnumbered⟩

def Known (registry : Registry) (refs : List AttrRef) : Prop := ∀ ref ∈ refs, ref < registry.allocated

theorem Kept.known {refs : List AttrRef} (kept : Kept registry next) (known : Known registry refs) :
    Known next refs :=
  fun ref member => Nat.lt_of_lt_of_le (known ref member) kept.allocated

mutual

theorem ServicePlan.create_ok (plan : ServicePlan) {tree : ServiceTree} {registry next : Registry}
    (types : TypesLoaded registry) (ran : (plan.create runtime).run registry = .ok tree next) :
    Kept registry next ∧ Known next tree.attributes ∧ ∃ service includes,
      tree = .node service includes ∧ service.characteristics = [] ∧ service.Unnumbered next ∧
      service.declaration ∉ includedAttributes includes := by
  match plan with
  | .plan position uuid characteristics includes =>
    unfold ServicePlan.create at ran
    obtain ⟨trees, _, including, ran⟩ := bind_ok ran
    obtain ⟨kept, known⟩ := createPlans_ok includes types including
    obtain ⟨made, _, making, ran⟩ := bind_ok ran
    obtain ⟨describing, _, declared⟩ := characteristics_ok (kept.typesLoaded types) making
    obtain ⟨onward, service, rfl, bare, later, unnumbered⟩ := createIncluding_ok declared ran
    have included := describing.known known
    have apart : service.declaration ∉ includedAttributes trees := by
      intro member
      exact absurd (included _ member) (Nat.not_lt.mpr later)
    refine ⟨(kept.trans describing).trans onward, ?_, service, trees, rfl, bare, unnumbered, apart⟩
    intro ref member
    simp only [ServiceTree.attributes, Service.getAttributes, bare, List.flatMap_nil,
      List.cons_append, List.nil_append, List.mem_cons] at member
    rcases member with rfl | member
    · exact unnumbered.created
    · exact onward.known included ref member

theorem createPlans_ok (plans : List ServicePlan) {trees : List ServiceTree} {registry next : Registry}
    (types : TypesLoaded registry) (ran : (createPlans runtime plans).run registry = .ok trees next) :
    Kept registry next ∧ Known next (includedAttributes trees) := by
  match plans with
  | [] =>
    unfold createPlans at ran
    cases ran
    refine ⟨Std.Refl.refl _, ?_⟩
    intro ref member
    cases member
  | plan :: plans =>
    unfold createPlans at ran
    obtain ⟨tree, _, first, ran⟩ := bind_ok ran
    obtain ⟨rest, _, others, ran⟩ := bind_ok ran
    cases ran
    obtain ⟨kept, known, _⟩ := ServicePlan.create_ok plan types first
    obtain ⟨onward, known_rest⟩ := createPlans_ok plans (kept.typesLoaded types) others
    refine ⟨kept.trans onward, ?_⟩
    intro ref member
    rw [includedAttributes, List.mem_append] at member
    rcases member with member | member
    · exact onward.known known ref member
    · exact known_rest ref member

end

end Created

theorem ServiceTree.setHandle_declaration {runtime : Runtime} {registry next : Registry}
    {service : Service} {includes : List ServiceTree} {placed : ServiceTree} {handle : Nat}
    (bare : service.characteristics = []) (apart : service.declaration ∉ includedAttributes includes)
    (ran : ((ServiceTree.node service includes).setHandle runtime (some handle)).run registry =
      .ok placed next) :
    placed.attributes.head? = some service.declaration ∧
      (next.item service.declaration).handle = .given (.number handle) := by
  unfold ServiceTree.setHandle at ran
  obtain ⟨_, moved, set, ran⟩ := bind_ok ran
  obtain ⟨⟨trees, _⟩, included, including, ran⟩ := bind_ok ran
  obtain ⟨⟨characteristics, _⟩, _, placing, ran⟩ := bind_ok ran
  rw [bare] at placing
  cases placing
  obtain ⟨_, last, ending, ran⟩ := bind_ok ran
  cases ran
  refine ⟨rfl, ?_⟩
  rw [(changeItem_ok ending).item, Function.update_self]
  have frame := (placeIncludes_confined includes including).item _ apart
  rw [frame, (setHandle_ok set).item, Function.update_self]
  rfl

def handlesOf : EStateM.Result JsError Registry ServiceTree → List Handle × Option Number
  | .ok tree registry =>
    (tree.attributes.map fun ref => (registry.item ref).handle, some tree.endHandle)
  | .error _ _ => ([], none)

/-- No handle, no list of characteristics and of included services, and no properties, UUID, value
    and descriptors make the two ways to place a service, or a characteristic, agree. -/
theorem never_placed_alike (runtime : Runtime) {registry : Registry} (types : TypesLoaded registry)
    (handle : Nat) {leftOut : Position} (missing : leftOut.Missing) :
    (∀ uuid characteristics includes,
      ¬ ServicePlacedAlike runtime registry handle leftOut uuid characteristics includes) ∧
    ∀ properties uuid value descriptors,
      ¬ CharacteristicPlacedAlike runtime registry handle leftOut properties uuid value descriptors := by
  constructor
  · rintro uuid characteristics includes ⟨tree, next, other, last, created, placed, alike⟩
    obtain ⟨_, _, service, trees, rfl, _, unnumbered, _⟩ := ServicePlan.create_ok _ types created
    obtain ⟨unplaced, middle, making, placing⟩ := bind_ok placed
    obtain ⟨_, _, twin, twins, rfl, bare, _, apart⟩ := ServicePlan.create_ok _ types making
    obtain ⟨head, numbered⟩ := ServiceTree.setHandle_declaration bare apart placing
    have same : service.declaration = twin.declaration := by
      rw [← alike.attributes] at head
      exact Option.some.inj head
    have handles := alike.handles service.declaration List.mem_cons_self
    rw [same, numbered, ← same] at handles
    exact unnumbered.unnumbered handle handles
  · rintro properties uuid value descriptors ⟨characteristic, next, other, last, _, placed, _⟩
    obtain ⟨refs, described, making, placed⟩ := bind_ok placed
    have kept := descriptors_ok making
    obtain ⟨made, middle, created, placing⟩ := bind_ok placed
    obtain ⟨_, declared⟩ :=
      createCharacteristic_ok (.inr missing) (kept.typesLoaded types) created
    exact setHandle_not_ok declared placing

theorem battery_never_alike :
    (¬ ServicePlacedAlike plainRuntime .loaded 1 .undefined (.number 0x180F)
      customService.characteristics [.plan .null (.number 0x180A) [] []]) ∧
    ¬ CharacteristicPlacedAlike plainRuntime .loaded 1 .undefined propertyRead (.number 0x2A19)
      (.given (.buffer [99])) [] :=
  have missing : Position.undefined.Missing := fun _ same => Position.noConfusion same
  ⟨(never_placed_alike plainRuntime loaded_types 1 missing).1 _ _ _,
    (never_placed_alike plainRuntime loaded_types 1 missing).2 _ _ _ _⟩

/-- A service of one attribute: created at the handle 1 it has its UUID for a handle and ends at 2,
    given the handle 1 later it ends at 1. -/
theorem battery_placed_apart :
    ¬ ServicePlacedAlike plainRuntime .loaded 1 .undefined (.number 0x180F) [] [] := by
  rintro ⟨tree, next, other, last, created, placed, alike⟩
  have first : handlesOf (((ServicePlan.plan (.number 1) (.number 0x180F) [] []).create
      plainRuntime).run .loaded) = ([.given (.uuid 28)], some (some 2)) := by
    decide +kernel
  have second : handlesOf (((ServicePlan.plan .undefined (.number 0x180F) [] []).create plainRuntime >>=
      fun service => service.setHandle plainRuntime (some 1)).run .loaded) =
        ([.given (.number 1)], some (some 1)) := by
    decide +kernel
  rw [created] at first
  rw [placed] at second
  have same : tree.attributes.map (fun ref => (next.item ref).handle) =
      other.attributes.map fun ref => (last.item ref).handle := by
    rw [← alike.attributes]
    exact List.map_congr_left alike.handles
  have apart : [Handle.given (.uuid 28)] = [.given (.number 1)] := by
    rw [← (Prod.mk.inj first).1, ← (Prod.mk.inj second).1, same]
  cases apart

/-- The attributes of a service have the handles from this one on, in order, each in its slot, with
    all other slots as they were; each characteristic's declaration holds the handle of its value, and
    its end handle is that of its last attribute. -/
structure PlacedFrom (registry next : Registry) (handle : Nat) (service : Service)
    (characteristics : List Characteristic) : Prop where
  attributes : service.getAttributes =
    service.declaration :: characteristics.flatMap Characteristic.attributes
  handles : ∀ i ref, service.getAttributes[i]? = some ref →
    (next.item ref).handle = .given (.number (handle + i))
  table : ∀ slot, slotAt next.slots slot =
    if handle ≤ slot ∧ slot < handle + service.getAttributes.length then
      service.getAttributes[slot - handle]?
    else slotAt registry.slots slot
  values : ∀ characteristic ∈ service.characteristics, ∃ bytes valueHandle,
    (next.item characteristic.declaration).value = some bytes ∧
    (next.item characteristic.value).handle = .given (.number valueHandle) ∧
    (bytes.drop 1).take 2 = LittleEndian.bytes 2 valueHandle
  ends : ∀ characteristic ∈ service.characteristics,
    next.lastHandle characteristic.attributes = some characteristic.endHandle

/-- A service with one characteristic, from the handle 1 on, as it is meant to be. -/
example : PlacedFrom Registry.loaded
    { slots := [none, some 0, some 1, some 2], named := [], allocated := 3, uuids := .empty
      item := fun ref => { Item.blank with
        handle := .given (.number (ref + 1)), value := some [0x02, 0x03, 0x00, 0x00, 0x2A] } }
    1 ⟨none, 0, [⟨1, 2, [], .given (.number 3)⟩], some 3⟩ [⟨1, 2, [], .undefined⟩] := by
  refine ⟨rfl, ?_, ?_, ?_, ?_⟩
  · intro i ref found
    match i with
    | 0 | 1 | 2 =>
      cases found
      rfl
    | _ + 3 => cases found
  · intro slot
    match slot with
    | 0 | 1 | 2 | 3 => rfl
    | slot + 4 =>
      have beyond : ¬ (1 ≤ slot + 4 ∧ slot + 4 < 1 + 3) := by omega
      exact (if_neg beyond).symm
  · intro characteristic member
    rw [List.mem_singleton.mp member]
    exact ⟨_, 3, rfl, rfl, rfl⟩
  · intro characteristic member
    rw [List.mem_singleton.mp member]
    rfl

/-- `Service.create(handle, uuid, null, characteristics)` places all attributes. -/
def PlacesFrom (runtime : Runtime) (registry : Registry) (handle : Nat) (uuid : UuidValue)
    (characteristics : List Characteristic) : Prop :=
  ∃ service next, (createService runtime (.number handle) uuid characteristics).run registry =
      .ok service next ∧
    PlacedFrom registry next handle service characteristics

/-- What a service is to be placed with: attributes that are distinct and have no handle yet, and
    enough free handles for them. -/
structure Placeable (registry : Registry) (handle : Nat) (characteristics : List Characteristic) :
    Prop where
  positive : 1 ≤ handle
  distinct : (characteristics.flatMap Characteristic.attributes).Nodup
  unplaced : ∀ ref ∈ characteristics.flatMap Characteristic.attributes,
    (registry.item ref).handle.LeftOut
  free : ∀ i ≤ (characteristics.flatMap Characteristic.attributes).length,
    slotAt registry.slots (handle + i) = none
  room : handle + (characteristics.flatMap Characteristic.attributes).length ≤ 0xFFFF

/-- Whatever the table is and whatever is to be placed, the declaration gets its UUID for a handle. -/
theorem never_places_from (runtime : Runtime) (registry : Registry) (handle : Nat) (uuid : UuidValue)
    (characteristics : List Characteristic) :
    ¬ PlacesFrom runtime registry handle uuid characteristics := by
  rintro ⟨service, next, ran, placed⟩
  unfold createService newService at ran
  obtain ⟨found, looked, _, ran⟩ := bind_ok ran
  obtain ⟨declaration, made, declaring, ran⟩ := bind_ok ran
  obtain ⟨⟨rest, _⟩, middle, placing, ran⟩ := bind_ok ran
  obtain ⟨_, last, ending, ran⟩ := bind_ok ran
  cases ran
  have first : (next.item declaration).handle = .given (.number handle) := placed.handles 0 _ rfl
  by_cases inside : declaration ∈ characteristics.flatMap Characteristic.attributes
  · -- its own handle and the one of its place in the list are two numbers
    obtain ⟨i, found_at⟩ := List.mem_iff_getElem?.mp inside
    have again := placed.handles (i + 1) declaration (by rw [placed.attributes]; exact found_at)
    rw [first] at again
    simp at again
  · rw [(changeItem_ok ending).item, Function.update_self,
      (placeCharacteristics_confined placing).1.item _ inside, (createAttribute_ok declaring).handle] at first
    cases found <;> cases first

theorem battery_not_placed :
    Placeable .loaded 1 [] ∧ ¬ PlacesFrom plainRuntime .loaded 1 (.number 0x180F) [] := by
  constructor
  · refine ⟨le_rfl, List.nodup_nil, ?_, fun _ _ => rfl, by decide⟩
    intro ref member
    cases member
  · rintro ⟨service, next, created, placed⟩
    have handles : (match (createService plainRuntime (.number 1) (.number 0x180F) []).run .loaded with
        | .ok service registry => some (registry.item service.declaration).handle
        | .error _ _ => none) = some (.given (.uuid 28)) := by
      decide +kernel
    rw [created] at handles
    have declared := placed.handles 0 service.declaration rfl
    rw [Option.some.inj handles] at declared
    cases declared

end Btle.Server.Construction

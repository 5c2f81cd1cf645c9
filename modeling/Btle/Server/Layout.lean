import Btle.Server.Construction

namespace Btle.Server.Construction

open Throwing Utf16

def Position.Missing (position : Position) : Prop := ∀ value, position ≠ .number value

/-- `att.createAttribute(type, value)`. -/
structure DescriptorSpec where
  type : Handle
  value : JsValue

/-- What a characteristic is created with, by a program that leaves its handle out. -/
structure CharacteristicSpec where
  position : Position
  missing : position.Missing
  properties : Nat
  uuid : UuidValue
  value : Handle
  descriptors : List DescriptorSpec

structure ServiceSpec where
  position : Position
  missing : position.Missing
  uuid : UuidValue
  characteristics : List CharacteristicSpec

/-- The arguments of `createDeviceInfoService`, which become the values of characteristics. -/
structure DeviceInfo where
  mfgName : Handle
  model : Handle
  serial : Handle
  hardware : Handle
  firmware : Handle
  software : Handle
  systemID : Handle
  certData : Handle
  pnpID : Handle
  deriving DecidableEq, Repr

def DeviceInfo.characteristics (info : DeviceInfo) : List (UuidRef × Handle) :=
  [(charManufacturerNameString, info.mfgName), (charModelNumberString, info.model),
    (charSerialNumberString, info.serial), (charHardwareRevisionString, info.hardware),
    (charFirmwareRevisionString, info.firmware), (charSoftwareRevisionString, info.software),
    (charSystemId, info.systemID), (charRegCertDataList, info.certData),
    (charPnpId, info.pnpID)].filter fun given => given.2.truthy

def DeviceInfo.spec (info : DeviceInfo) : ServiceSpec where
  position := .null
  missing := by simp [Position.Missing]
  uuid := .object serviceDeviceInfo
  characteristics := info.characteristics.map fun given => {
    position := .null
    missing := by simp [Position.Missing]
    properties := propertyRead
    uuid := .object given.1
    value := given.2
    descriptors := [] }

section Programs

variable (runtime : Runtime)

def DescriptorSpec.create (spec : DescriptorSpec) : Build AttrRef :=
  createAttribute runtime spec.type spec.value .undefined .undefined

def CharacteristicSpec.create (spec : CharacteristicSpec) : Build Characteristic := do
  let descriptors ← spec.descriptors.mapM (DescriptorSpec.create runtime)
  createCharacteristic runtime spec.position spec.properties spec.uuid spec.value descriptors

def ServiceSpec.create (spec : ServiceSpec) : Build Service := do
  let characteristics ← spec.characteristics.mapM (CharacteristicSpec.create runtime)
  createService runtime spec.position spec.uuid characteristics

def createDeviceInfoService (info : DeviceInfo) : Build Service := info.spec.create runtime

/-- The ways to pass services to `Peripheral.create`: `(name, services)` and
    `(name, options, services)`. -/
inductive Call
  | plain
  | withOptions (options : Options)

def Call.arguments : Call → List Service → Options × Option (List Service)
  | .plain, services => (.services services, none)
  | .withOptions options, services => (options, some services)

/-- A program that creates services and passes them to `Peripheral.create`. -/
def createAll (name : JsValue) (call : Call) (specs : List ServiceSpec) : Build (List Service) := do
  let services ← specs.mapM (ServiceSpec.create runtime)
  createPeripheral runtime name (call.arguments services).1 (call.arguments services).2

end Programs

def attributesOf (services : List Service) : List AttrRef := services.flatMap Service.getAttributes

/-- The handle of the last attribute of a group. -/
def Registry.lastHandle (registry : Registry) (group : List AttrRef) : Option Handle :=
  group.getLast?.map fun ref => (registry.item ref).handle

/-- The attributes of the services have the handles from 1 on, in order, and nothing else is in the
    table; the end handle of a declaration is the last handle of its group. -/
structure LaidOut (registry : Registry) (services : List Service) : Prop where
  handles : ∀ i ref, (attributesOf services)[i]? = some ref →
    (registry.item ref).handle = .given (.number (i + 1))
  table : ∀ slot, slotAt registry.slots slot =
    if slot = 0 then none else (attributesOf services)[slot - 1]?
  names : registry.named = []
  serviceEnds : ∀ service ∈ services, registry.lastHandle service.getAttributes =
    some (registry.item service.declaration).endHandle
  characteristicEnds : ∀ service ∈ services, ∀ characteristic ∈ service.characteristics,
    registry.lastHandle characteristic.attributes =
      some (registry.item characteristic.declaration).endHandle

/-- The table of one service with nothing in it, as it is meant to be. -/
example : LaidOut
    { slots := [none, some 0], named := [], allocated := 1, uuids := .empty
      item := fun _ => { Item.blank with
        handle := .given (.number 1), endHandle := .given (.number 1) } }
    [⟨none, 0, [], some 1⟩] := by
  refine ⟨?_, ?_, rfl, ?_, ?_⟩
  · intro i ref found
    match i with
    | 0 => rfl
    | _ + 1 => cases found
  · intro slot
    match slot with
    | 0 => rfl
    | 1 => rfl
    | _ + 2 => rfl
  · intro service member
    rw [List.mem_singleton.mp member]
    rfl
  · intro service member characteristic inside
    rw [List.mem_singleton.mp member] at inside
    cases inside

def Item.Unnumbered (item : Item) : Prop := ∀ number, item.handle ≠ .given (.number number)

/-- What is made does not touch the values there are, and gives no numbers to attributes that have
    none. -/
structure Kept (registry next : Registry) : Prop where
  allocated : registry.allocated ≤ next.allocated
  objects : registry.uuids.objects <+: next.uuids.objects
  value : ∀ ref < registry.allocated, (next.item ref).value = (registry.item ref).value
  unnumbered : ∀ ref < registry.allocated,
    (registry.item ref).Unnumbered → (next.item ref).Unnumbered

instance : Std.Refl Kept :=
  ⟨fun _ => ⟨le_refl _, List.prefix_refl _, fun _ _ => rfl, fun _ _ => id⟩⟩

theorem Kept.trans {registry middle next : Registry} (first : Kept registry middle)
    (second : Kept middle next) : Kept registry next := by
  apply Kept.mk (first.allocated.trans second.allocated) (first.objects.trans second.objects)
  · intro ref old
    rw [second.value ref (Nat.lt_of_lt_of_le old first.allocated), first.value ref old]
  · intro ref old none_given
    exact second.unnumbered ref (Nat.lt_of_lt_of_le old first.allocated)
      (first.unnumbered ref old none_given)

instance : IsTrans Registry Kept := ⟨fun _ _ _ => Kept.trans⟩

section Attributes

variable {runtime : Runtime} {registry next : Registry} {ref : AttrRef}

/-- One attribute is changed, and the table, which is not told about here. -/
structure Changed (registry next : Registry) (ref : AttrRef) (item : Item) : Prop where
  item : next.item = Function.update registry.item ref item
  allocated : next.allocated = registry.allocated
  uuids : next.uuids = registry.uuids

theorem changeItem_ok {change : Item → Item} {done : Unit}
    (ran : (changeItem ref change).run registry = .ok done next) :
    Changed registry next ref (change (registry.item ref)) := by
  cases ran
  exact ⟨rfl, rfl, rfl⟩

theorem ofExcept_ok {α : Type} {result : Except JsError α} {value : α}
    (ran : (Build.ofExcept result).run registry = .ok value next) :
    result = .ok value ∧ registry = next := by
  cases result with
  | error thrown => cases ran
  | ok other =>
    cases ran
    exact ⟨rfl, rfl⟩

theorem throw_bind_not_ok {α β : Type} {thrown : JsError} {onward : α → Build β} {value : β} :
    ¬ (throw thrown >>= onward : Build β).run registry = .ok value next := by
  intro ran
  rcases bind_ok ran with ⟨_, _, first, _⟩
  cases first

theorem setHandle_ok {handle : Handle} {done : Unit}
    (ran : (setHandle runtime ref handle).run registry = .ok done next) :
    Changed registry next ref { registry.item ref with handle } := by
  unfold setHandle at ran
  cases handle with
  | undefined | nan => exact changeItem_ok ran
  | given value =>
    dsimp only at ran
    by_cases some_value : truthy value = true
    · rw [if_pos some_value] at ran
      rcases bind_ok ran with ⟨_, _, got, keyed⟩
      cases got
      rcases bind_ok keyed with ⟨key, _, made, ran⟩
      rcases ofExcept_ok made with ⟨_, rfl⟩
      by_cases taken : registry.has runtime key = true
      · rw [if_pos taken] at ran
        exact absurd ran throw_bind_not_ok
      · rw [if_neg taken] at ran
        rcases bind_ok ran with ⟨_, _, spliced, ran⟩
        cases spliced
        rcases bind_ok ran with ⟨_, _, entered, ran⟩
        cases entered
        have changed := changeItem_ok ran
        exact ⟨by simpa using changed.item, by simpa using changed.allocated,
          by simpa using changed.uuids⟩
    · rw [if_neg some_value] at ran
      exact changeItem_ok ran

/-- What a new attribute holds. -/
def kept (uuids : UuidStore) : JsValue → Option Buffer
  | .null | .other _ => none
  | .uuid ref => uuids.objects[ref]?.bind Uuid.buffer
  | .buffer bytes => some bytes
  | .string utf8 => some utf8
  | .number value => some [UInt8.ofNat value]
  | .array elements => some (elements.map UInt8.ofNat)

theorem setValue_ok {value : JsValue} {done : Unit} (blank : (registry.item ref).value = none)
    (ran : (setValue ref value).run registry = .ok done next) :
    Changed registry next ref { registry.item ref with value := kept registry.uuids value } := by
  cases value with
  | null =>
    cases ran
    refine ⟨?_, rfl, rfl⟩
    rw [kept, ← blank]
    exact (Function.update_eq_self ref registry.item).symm
  | other => cases ran
  | uuid | buffer | string | number | array =>
    cases ran
    exact ⟨rfl, rfl, rfl⟩

/-- A new attribute, and nothing else but the table is another. -/
structure Made (registry next : Registry) (ref : AttrRef) (handle : Handle) (value : Option Buffer) :
    Prop where
  fresh : ref = registry.allocated
  allocated : next.allocated = registry.allocated + 1
  uuids : next.uuids = registry.uuids
  others : ∀ other < registry.allocated, next.item other = registry.item other
  handle : (next.item ref).handle = handle
  value : (next.item ref).value = value

/-- A new attribute is what it is given, whatever else becomes of the table. -/
theorem newAttribute_item {handle type endHandle : Handle} {value : JsValue}
    (ran : (newAttribute runtime handle type value endHandle).run registry = .ok ref next) :
    ref = registry.allocated ∧ next.allocated = registry.allocated + 1 ∧ next.uuids = registry.uuids ∧
      next.item = Function.update registry.item registry.allocated
        { Item.blank with handle, type, value := kept registry.uuids value, endHandle } := by
  unfold newAttribute at ran
  rcases bind_ok ran with ⟨_, _, got, ran⟩
  cases got
  rcases bind_ok ran with ⟨_, fresh, made, ran⟩
  cases made
  rcases bind_ok ran with ⟨_, handled, set, ran⟩
  have first := setHandle_ok set
  rcases bind_ok ran with ⟨_, typed, changed, ran⟩
  have second := changeItem_ok changed
  rcases bind_ok ran with ⟨_, valued, changed, ran⟩
  have blank : (typed.item registry.allocated).value = none := by
    simp [second.item, first.item, Registry.setItem, Item.blank]
  have third := setValue_ok blank changed
  rcases bind_ok ran with ⟨_, last, changed, ran⟩
  have fourth := changeItem_ok changed
  cases ran
  have allocated : next.allocated = registry.allocated + 1 := by
    rw [fourth.allocated, third.allocated, second.allocated, first.allocated]
  have uuids : next.uuids = registry.uuids := by
    rw [fourth.uuids, third.uuids, second.uuids, first.uuids]
    rfl
  have item : next.item = Function.update registry.item registry.allocated
      { Item.blank with handle, type, value := kept registry.uuids value, endHandle } := by
    rw [fourth.item, third.item, second.item, first.item, second.uuids, first.uuids]
    simp [Registry.setItem, Function.update_idem]
  exact ⟨rfl, allocated, uuids, item⟩

theorem newAttribute_ok {handle type endHandle : Handle} {value : JsValue}
    (ran : (newAttribute runtime handle type value endHandle).run registry = .ok ref next) :
    Made registry next ref handle (kept registry.uuids value) := by
  rcases newAttribute_item ran with ⟨rfl, allocated, uuids, item⟩
  have others : ∀ other < registry.allocated, next.item other = registry.item other := by
    intro other old
    rw [item, Function.update_of_ne (Nat.ne_of_lt old)]
  refine ⟨rfl, allocated, uuids, others, ?_, ?_⟩
  · rw [item, Function.update_self]
  · rw [item, Function.update_self]

theorem createAttribute_new {handle type endHandle : Handle} {value : JsValue}
    (ran : (createAttribute runtime type value handle endHandle).run registry = .ok ref next) :
    ∃ middle, (newAttribute runtime handle type value
        (if endHandle.truthy then endHandle else handle)).run registry = .ok ref middle ∧
      next.item = middle.item ∧ next.allocated = middle.allocated ∧ next.uuids = middle.uuids := by
  unfold createAttribute at ran
  rcases bind_ok ran with ⟨other, middle, made, ran⟩
  refine ⟨middle, ?_⟩
  cases handle with
  | undefined | nan =>
    cases ran
    exact ⟨made, rfl, rfl, rfl⟩
  | given key =>
    dsimp only at ran
    by_cases some_value : truthy key = true
    · rw [if_pos some_value] at ran
      rcases bind_ok ran with ⟨_, _, got, ran⟩
      cases got
      rcases bind_ok ran with ⟨_, _, keyed, ran⟩
      rcases ofExcept_ok keyed with ⟨_, rfl⟩
      rcases bind_ok ran with ⟨_, _, entered, ran⟩
      cases entered
      cases ran
      exact ⟨made, enter_item _, enter_allocated _, enter_uuids _⟩
    · rw [if_neg some_value] at ran
      cases ran
      exact ⟨made, rfl, rfl, rfl⟩

theorem createAttribute_ok {handle type endHandle : Handle} {value : JsValue}
    (ran : (createAttribute runtime type value handle endHandle).run registry = .ok ref next) :
    Made registry next ref handle (kept registry.uuids value) := by
  rcases createAttribute_new ran with ⟨middle, made, item, allocated, uuids⟩
  have new := newAttribute_ok made
  refine ⟨new.fresh, allocated.trans new.allocated, uuids.trans new.uuids, ?_, ?_, ?_⟩
  · rw [item]
    exact new.others
  · rw [item]
    exact new.handle
  · rw [item]
    exact new.value

theorem createAttribute_type {handle type endHandle : Handle} {value : JsValue}
    (ran : (createAttribute runtime type value handle endHandle).run registry = .ok ref next) :
    (next.item ref).type = type := by
  rcases createAttribute_new ran with ⟨middle, made, item, _, _⟩
  rcases newAttribute_item made with ⟨rfl, _, _, new⟩
  rw [item, new, Function.update_self]

theorem Made.kept {handle : Handle} {value : Option Buffer}
    (made : Made registry next ref handle value) : Kept registry next := by
  have allocated : registry.allocated ≤ next.allocated := by
    rw [made.allocated]
    exact Nat.le_succ _
  have objects : registry.uuids.objects <+: next.uuids.objects := by
    rw [made.uuids]
  apply Kept.mk allocated objects
  · intro other old
    rw [made.others other old]
  · intro other old none_given
    rwa [made.others other old]

/-- A change that leaves values alone and gives no number. -/
theorem Changed.kept {item : Item} (changed : Changed registry next ref item)
    (value : item.value = (registry.item ref).value)
    (unnumbered : (registry.item ref).Unnumbered → item.Unnumbered) : Kept registry next := by
  have objects : registry.uuids.objects <+: next.uuids.objects := by
    rw [changed.uuids]
  apply Kept.mk changed.allocated.ge objects
  · intro other _
    rw [changed.item]
    by_cases same : other = ref
    · subst same
      rw [Function.update_self, value]
    · rw [Function.update_of_ne same]
  · intro other _ none_given
    rw [changed.item]
    by_cases same : other = ref
    · subst same
      rw [Function.update_self]
      exact unnumbered none_given
    · rwa [Function.update_of_ne same]

end Attributes

section Uuids

variable {store next : UuidStore} {found : Option UuidRef}

theorem cached_objects {key : Text} {make : Except JsError Uuid}
    (h : store.cached key make = .ok (next, found)) : store.objects <+: next.objects := by
  unfold UuidStore.cached at h
  split at h
  · cases h
    exact List.prefix_refl _
  · cases make with
    | error thrown => cases h
    | ok uuid =>
      cases h
      exact List.prefix_append _ _

/-- Objects are only ever made, behind those there are. -/
theorem getUuid_objects {value : UuidValue} (h : getUuid store value = .ok (next, found)) :
    store.objects <+: next.objects := by
  have unchanged : ∀ {result : Option UuidRef},
      (.ok (store, result) : Except JsError (UuidStore × Option UuidRef)) = .ok (next, found) →
        store.objects <+: next.objects := by
    intro result same
    cases same
    exact List.prefix_refl _
  cases value with
  | string text =>
    simp only [getUuid, parseString] at h
    split at h
    · unfold parseLongUuid at h
      split at h
      · exact cached_objects h
      · exact unchanged h
    · split at h
      · unfold parseShortUuid at h
        split at h
        · exact cached_objects h
        · exact unchanged h
      · exact unchanged h
  | number num =>
    simp only [getUuid, parseNumber] at h
    split at h
    · exact cached_objects h
    · exact unchanged h
  | buffer bytes => exact cached_objects h
  | object ref =>
    simp only [getUuid] at h
    split at h
    · exact unchanged h
    · split at h
      · exact unchanged h
      · cases h
        exact List.prefix_refl _

end Uuids

/-- The UUID of declarations is there, with the two bytes it has from its number. -/
def TypesLoaded (registry : Registry) : Prop :=
  registry.uuids.objects[typeCharacteristic]?.bind Uuid.buffer = some [0x03, 0x28]

theorem loaded_types : TypesLoaded .loaded := by
  unfold TypesLoaded
  decide +kernel

theorem Kept.typesLoaded {registry next : Registry} (kept : Kept registry next)
    (types : TypesLoaded registry) : TypesLoaded next := by
  rcases kept.objects with ⟨more, whole⟩
  unfold TypesLoaded at types ⊢
  cases inside : registry.uuids.objects[typeCharacteristic]? with
  | none =>
    rw [inside] at types
    cases types
  | some uuid =>
    have bound := (List.getElem?_eq_some_iff.mp inside).1
    rwa [← whole, List.getElem?_append_left bound]

/-- The declaration holds its type where its value should be. -/
structure Characteristic.Declared (registry : Registry) (characteristic : Characteristic) : Prop where
  created : characteristic.declaration < registry.allocated
  value : (registry.item characteristic.declaration).value = some [0x03, 0x28]

theorem Kept.declared {registry next : Registry} {characteristic : Characteristic}
    (kept : Kept registry next) (declared : characteristic.Declared registry) :
    characteristic.Declared next := by
  constructor
  · exact Nat.lt_of_lt_of_le declared.created kept.allocated
  · rw [kept.value _ declared.created, declared.value]

section Constructors

variable {runtime : Runtime} {registry next : Registry}

theorem getUuidOf_ok {value : UuidValue} {uuid : Option UuidRef}
    (ran : (getUuidOf value).run registry = .ok uuid next) : Kept registry next := by
  unfold getUuidOf at ran
  rcases bind_ok ran with ⟨_, _, got, ran⟩
  cases got
  rcases bind_ok ran with ⟨found, _, made, ran⟩
  rcases ofExcept_ok made with ⟨found_uuid, rfl⟩
  rcases found with ⟨uuids, result⟩
  rcases bind_ok ran with ⟨_, _, stored, ran⟩
  cases stored
  cases ran
  exact ⟨le_refl _, getUuid_objects found_uuid, fun _ _ => rfl, fun _ _ => id⟩

def Handle.LeftOut (handle : Handle) : Prop := handle = .undefined ∨ handle = .given .null

theorem Handle.LeftOut.andPlus {handle : Handle} (left_out : handle.LeftOut) (offset : Nat) :
    handle.andPlus offset = handle := by
  rcases left_out with rfl | rfl <;> rfl

theorem Handle.LeftOut.unnumbered {handle : Handle} (left_out : handle.LeftOut) (item : Item) :
    ({ item with handle } : Item).Unnumbered := by
  intro number
  rcases left_out with rfl | rfl <;> simp

theorem Position.Missing.leftOut {position : Position} (missing : position.Missing) :
    position.handle.LeftOut := by
  cases position with
  | undefined => exact .inl rfl
  | null => exact .inr rfl
  | number value => exact absurd rfl (missing value)

theorem describe_ok {handle : Handle} {offset : Nat} {descriptors : List AttrRef} {done : Unit}
    (missing : descriptors = [] ∨ handle.LeftOut)
    (ran : (describe runtime handle offset descriptors).run registry = .ok done next) :
    Kept registry next := by
  induction descriptors generalizing registry offset with
  | nil =>
    cases ran
    exact Std.Refl.refl _
  | cons descriptor descriptors ih =>
    have left_out : handle.LeftOut := missing.resolve_left (List.cons_ne_nil _ _)
    unfold describe at ran
    rcases bind_ok ran with ⟨_, handled, set, ran⟩
    rw [left_out.andPlus] at set
    have first := (setHandle_ok set).kept rfl fun _ => left_out.unnumbered _
    rcases bind_ok ran with ⟨_, changed, made, ran⟩
    have second := (changeItem_ok made).kept rfl id
    exact (first.trans second).trans (ih (.inr left_out) ran)

/-- What a characteristic goes through before its constructor returns it: its UUID is looked up,
    its two attributes are made and changed, and its descriptors are placed. -/
theorem createCharacteristic_steps {position : Position} {properties : Nat} {uuid : UuidValue}
    {value : Handle} {descriptors : List AttrRef} {characteristic : Characteristic}
    (ran : (createCharacteristic runtime position properties uuid value descriptors).run registry =
      .ok characteristic next) :
    ∃ found declValue endHandle looked declared readable valued listened, ∃ change : Item → Item,
      (getUuidOf uuid).run registry = .ok (some found) looked ∧
      (createAttribute runtime position.handle (.uuid typeCharacteristic)
        (.given (.buffer declValue)) endHandle).run looked = .ok characteristic.declaration declared ∧
      (changeItem characteristic.declaration fun item => { item with properties := propertyRead }).run
        declared = .ok () readable ∧
      (createAttribute runtime (position.handle.andPlus 1) (.uuid found) value .undefined).run readable =
        .ok characteristic.value valued ∧
      (changeItem characteristic.value change).run valued = .ok () listened ∧
      (describe runtime position.handle 2 descriptors).run listened = .ok () next ∧
      ∀ item, (change item).handle = item.handle ∧ (change item).type = item.type ∧
        (change item).value = item.value ∧ (change item).listeners = item.listeners ++ [.reemit] := by
  unfold createCharacteristic at ran
  dsimp only at ran
  split at ran
  · exact absurd ran throw_bind_not_ok
  · split at ran
    · exact absurd ran throw_bind_not_ok
    · rcases bind_ok ran with ⟨found, looked, got, ran⟩
      cases found with
      | none => cases ran
      | some found =>
        dsimp only at ran
        rcases bind_ok ran with ⟨_, _, read, ran⟩
        cases read
        split at ran
        · cases ran
        · rcases bind_ok ran with ⟨_, _, read, ran⟩
          cases read
          rcases bind_ok ran with ⟨declValue, _, encoded, ran⟩
          rcases ofExcept_ok encoded with ⟨_, rfl⟩
          rcases bind_ok ran with ⟨declaration, declared, made, ran⟩
          rcases bind_ok ran with ⟨_, readable, changed, ran⟩
          rcases bind_ok ran with ⟨valAttr, valued, made_value, ran⟩
          rcases bind_ok ran with ⟨_, listened, changed_value, ran⟩
          rcases bind_ok ran with ⟨_, last, described, ran⟩
          cases ran
          exact ⟨found, declValue, _, looked, declared, readable, valued, listened, _, got, made, changed,
            made_value, changed_value, described, fun item => ⟨rfl, rfl, rfl, rfl⟩⟩

theorem createCharacteristic_ok {position : Position} {properties : Nat} {uuid : UuidValue}
    {value : Handle} {descriptors : List AttrRef} {characteristic : Characteristic}
    (missing : descriptors = [] ∨ position.Missing) (types : TypesLoaded registry)
    (ran : (createCharacteristic runtime position properties uuid value descriptors).run registry =
      .ok characteristic next) :
    Kept registry next ∧ characteristic.Declared next := by
  rcases createCharacteristic_steps ran with
    ⟨found, declValue, endHandle, looked, declared, readable, valued, listened, change, got, made, changed,
      made_value, changed_value, described, unchanged⟩
  have looking := getUuidOf_ok got
  have types_there := looking.typesLoaded types
  have declaring := createAttribute_ok made
  have reading := (changeItem_ok changed).kept rfl id
  have valuing := (createAttribute_ok made_value).kept
  have listening := (changeItem_ok changed_value).kept (unchanged _).2.2.1 fun unnumbered number same =>
    unnumbered number ((unchanged _).1.symm.trans same)
  have left_out : descriptors = [] ∨ position.handle.LeftOut := missing.imp_right Position.Missing.leftOut
  have describing := describe_ok left_out described
  have later := ((reading.trans valuing).trans listening).trans describing
  have created : characteristic.declaration < declared.allocated := by
    rw [declaring.allocated, declaring.fresh]
    exact Nat.lt_succ_self _
  have value : (declared.item characteristic.declaration).value = some [0x03, 0x28] :=
    declaring.value.trans types_there
  exact ⟨(looking.trans declaring.kept).trans later, later.declared ⟨created, value⟩⟩

/-- The two bytes are too few for a handle to be written behind the first. -/
theorem setHandle_not_ok {characteristic placed : Characteristic} {handle : Number}
    (declared : characteristic.Declared registry) :
    (characteristic.setHandle runtime handle).run registry ≠ .ok placed next := by
  intro ran
  unfold Characteristic.setHandle at ran
  rcases bind_ok ran with ⟨_, _, got, ran⟩
  cases got
  rw [declared.value] at ran
  rcases bind_ok ran with ⟨bytes, _, wrote, _⟩
  rcases ofExcept_ok wrote with ⟨written, _⟩
  cases handle <;> cases written

structure Service.Unnumbered (registry : Registry) (service : Service) : Prop where
  created : service.declaration < registry.allocated
  unnumbered : (registry.item service.declaration).Unnumbered

theorem Kept.service_unnumbered {service : Service} (kept : Kept registry next)
    (unnumbered : service.Unnumbered registry) : service.Unnumbered next := by
  constructor
  · exact Nat.lt_of_lt_of_le unnumbered.created kept.allocated
  · exact kept.unnumbered _ unnumbered.created unnumbered.unnumbered

/-- A service is only ever created without characteristics, and has no number for a handle. -/
theorem newService_ok {position : Position} {uuid : UuidValue} {includes : Nat}
    {characteristics : List Characteristic} {service : Service}
    (declared : ∀ characteristic ∈ characteristics.head?, characteristic.Declared registry)
    (ran : (newService runtime position uuid includes characteristics).run registry =
      .ok service next) :
    characteristics = [] ∧ Kept registry next ∧ service.characteristics = [] ∧
      registry.allocated ≤ service.declaration ∧ service.Unnumbered next := by
  unfold newService at ran
  rcases bind_ok ran with ⟨found, looked, got, ran⟩
  have looking := getUuidOf_ok got
  rcases bind_ok ran with ⟨declaration, made, declaring, ran⟩
  have declared_there := createAttribute_ok declaring
  rcases bind_ok ran with ⟨⟨placed, endHandle⟩, _, placing, ran⟩
  cases characteristics with
  | cons characteristic rest =>
    rcases bind_ok placing with ⟨_, _, set, _⟩
    have still := (looking.trans declared_there.kept).declared (declared characteristic rfl)
    exact absurd set (setHandle_not_ok still)
  | nil =>
    cases placing
    rcases bind_ok ran with ⟨_, last, changed, ran⟩
    have ending := (changeItem_ok changed).kept rfl id
    cases ran
    have created : declaration < made.allocated := by
      rw [declared_there.allocated, declared_there.fresh]
      exact Nat.lt_succ_self _
    have unnumbered : (made.item declaration).Unnumbered := by
      intro number
      rw [declared_there.handle]
      cases found <;> simp
    have later : registry.allocated ≤ declaration := by
      rw [declared_there.fresh]
      exact looking.allocated
    exact ⟨rfl, (looking.trans declared_there.kept).trans ending, rfl, later,
      ending.service_unnumbered ⟨created, unnumbered⟩⟩

theorem createService_not_ok {position : Position} {uuid : UuidValue} {service : Service}
    {characteristic : Characteristic} {rest : List Characteristic}
    (declared : characteristic.Declared registry) :
    (createService runtime position uuid (characteristic :: rest)).run registry ≠
      .ok service next := by
  intro ran
  have first : ∀ other ∈ (characteristic :: rest).head?, other.Declared registry := by
    intro other same
    cases same
    exact declared
  exact absurd (newService_ok first ran).1 (List.cons_ne_nil _ _)

theorem createService_ok {position : Position} {uuid : UuidValue} {service : Service}
    (ran : (createService runtime position uuid []).run registry = .ok service next) :
    Kept registry next ∧ service.Unnumbered next := by
  obtain ⟨_, kept, _, _, unnumbered⟩ := newService_ok (fun _ first => by cases first) ran
  exact ⟨kept, unnumbered⟩

end Constructors

section Creation

variable {runtime : Runtime} {registry next : Registry}

theorem descriptors_ok {specs : List DescriptorSpec} {descriptors : List AttrRef}
    (ran : (specs.mapM (DescriptorSpec.create runtime)).run registry = .ok descriptors next) :
    Kept registry next := by
  have each : ∀ spec ∈ specs, ∀ state ref last, True →
      (DescriptorSpec.create runtime spec).run state = .ok ref last → Kept state last ∧ True :=
    fun _ _ _ _ _ _ made => ⟨(createAttribute_ok made).kept, trivial⟩
  exact (mapM_ok (fun _ _ _ => id) (fun _ _ _ _ => id) each trivial ran).1

theorem CharacteristicSpec.create_ok {spec : CharacteristicSpec} {characteristic : Characteristic}
    (types : TypesLoaded registry)
    (ran : (spec.create runtime).run registry = .ok characteristic next) :
    Kept registry next ∧ characteristic.Declared next := by
  rcases bind_ok ran with ⟨descriptors, described, making, ran⟩
  have describing := descriptors_ok making
  rcases createCharacteristic_ok (.inr spec.missing) (describing.typesLoaded types) ran with
    ⟨kept, declared⟩
  exact ⟨describing.trans kept, declared⟩

theorem characteristics_ok {specs : List CharacteristicSpec} {characteristics : List Characteristic}
    (types : TypesLoaded registry)
    (ran : (specs.mapM (CharacteristicSpec.create runtime)).run registry =
      .ok characteristics next) :
    Kept registry next ∧ characteristics.length = specs.length ∧
      ∀ characteristic ∈ characteristics, characteristic.Declared next := by
  have stays : ∀ state last, Kept state last → TypesLoaded state → TypesLoaded last :=
    fun _ _ kept => kept.typesLoaded
  have carries : ∀ state last (characteristic : Characteristic), Kept state last →
      characteristic.Declared state → characteristic.Declared last :=
    fun _ _ _ kept => kept.declared
  have each : ∀ spec ∈ specs, ∀ state characteristic last, TypesLoaded state →
      (CharacteristicSpec.create runtime spec).run state = .ok characteristic last →
        Kept state last ∧ characteristic.Declared last :=
    fun _ _ _ _ _ loaded made => CharacteristicSpec.create_ok loaded made
  exact mapM_ok stays carries each types ran

/-- No service is ever created that has a characteristic. -/
theorem ServiceSpec.create_ok {spec : ServiceSpec} {service : Service}
    (types : TypesLoaded registry)
    (ran : (spec.create runtime).run registry = .ok service next) :
    spec.characteristics = [] ∧ Kept registry next ∧ service.Unnumbered next := by
  rcases bind_ok ran with ⟨characteristics, made, making, ran⟩
  rcases characteristics_ok types making with ⟨kept, length, declared⟩
  cases characteristics with
  | nil =>
    have none_given : spec.characteristics = [] := List.length_eq_zero_iff.mp length.symm
    rcases createService_ok ran with ⟨onward, unnumbered⟩
    exact ⟨none_given, kept.trans onward, unnumbered⟩
  | cons characteristic rest =>
    exact absurd ran (createService_not_ok (declared characteristic List.mem_cons_self))

theorem services_ok {specs : List ServiceSpec} {services : List Service}
    (types : TypesLoaded registry)
    (ran : (specs.mapM (ServiceSpec.create runtime)).run registry = .ok services next) :
    Kept registry next ∧ ∀ service ∈ services, service.Unnumbered next := by
  have stays : ∀ state last, Kept state last → TypesLoaded state → TypesLoaded last :=
    fun _ _ kept => kept.typesLoaded
  have carries : ∀ state last (service : Service), Kept state last →
      service.Unnumbered state → service.Unnumbered last :=
    fun _ _ _ kept => kept.service_unnumbered
  have each : ∀ spec ∈ specs, ∀ state service last, TypesLoaded state →
      (ServiceSpec.create runtime spec).run state = .ok service last →
        Kept state last ∧ service.Unnumbered last :=
    fun _ _ _ _ _ loaded made => (ServiceSpec.create_ok loaded made).2
  rcases mapM_ok stays carries each types ran with ⟨kept, _, unnumbered⟩
  exact ⟨kept, unnumbered⟩

/-- What goes on after a characteristic without descriptors is created. -/
theorem bind_createCharacteristic {α : Type} {position : Position} {properties : Nat}
    {uuid : UuidValue} {value : Handle} {onward : Characteristic → Build α} {made : α}
    (types : TypesLoaded registry)
    (ran : (createCharacteristic runtime position properties uuid value [] >>= onward).run registry =
      .ok made next) :
    ∃ characteristic middle, (onward characteristic).run middle = .ok made next ∧
      TypesLoaded middle ∧ characteristic.Declared middle ∧
      ∀ other : Characteristic, other.Declared registry → other.Declared middle := by
  rcases bind_ok ran with ⟨characteristic, middle, created, ran⟩
  rcases createCharacteristic_ok (.inl rfl) types created with ⟨kept, declared⟩
  exact ⟨characteristic, middle, ran, kept.typesLoaded types, declared,
    fun _ earlier => kept.declared earlier⟩

theorem createGattService_not_ok {start stop : Option Nat} {service : Service}
    (types : TypesLoaded registry) :
    (createGattService runtime start stop).run registry ≠ .ok service next := by
  intro ran
  unfold createGattService at ran
  rcases bind_ok ran with ⟨_, _, read, ran⟩
  cases read
  rcases bind_ok ran with ⟨first, _, wrote, ran⟩
  rcases ofExcept_ok wrote with ⟨_, rfl⟩
  rcases bind_ok ran with ⟨data, _, wrote, ran⟩
  rcases ofExcept_ok wrote with ⟨_, rfl⟩
  rcases bind_createCharacteristic types ran with ⟨changed, middle, ran, _, declared, _⟩
  exact createService_not_ok declared ran

/-- The characteristics of the GAP service are created, the name first; the service is not. -/
theorem gapService_not_ok {name look privacy address : JsValue} {ppcp : Option JsValue}
    {service : Service} (types : TypesLoaded registry) :
    let characteristic (position : Nat) (uuid : UuidRef) (value : JsValue) :=
      createCharacteristic runtime (.number position) propertyRead (.object uuid) (.given value) []
    (do let first ← characteristic 0x02 charDeviceName name
        let second ← characteristic 0x03 charAppearance look
        let third ← characteristic 0x04 charPeripheralPrivacyFlag privacy
        let fourth ← characteristic 0x05 charReconnectionAddress address
        let params ←
          match ppcp with
          | none => pure []
          | some _ => do pure [← characteristic 0x06 charPeripheralPreferConnParams look]
        createService runtime (.number 0x01) (.object serviceGap)
          ([first, second, third, fourth] ++ params) : Build Service).run registry ≠
      .ok service next := by
  intro characteristic ran
  rcases bind_createCharacteristic types ran with ⟨first, one, ran, types, declared, _⟩
  rcases bind_createCharacteristic types ran with ⟨second, two, ran, types, _, still⟩
  have declared := still first declared
  rcases bind_createCharacteristic types ran with ⟨third, three, ran, types, _, still⟩
  have declared := still first declared
  rcases bind_createCharacteristic types ran with ⟨fourth, four, ran, types, _, still⟩
  have declared := still first declared
  cases ppcp with
  | none => exact createService_not_ok declared ran
  | some value =>
    rcases bind_createCharacteristic types ran with ⟨fifth, five, ran, _, _, still⟩
    exact createService_not_ok (still first declared) ran

theorem createGapService_not_ok {name : JsValue} {appearance ppf : Option Nat}
    {reconnAddr : Option Buffer} {ppcp : Option JsValue} {service : Service}
    (types : TypesLoaded registry) :
    (createGapService runtime name appearance ppf reconnAddr ppcp).run registry ≠
      .ok service next := by
  intro ran
  unfold createGapService at ran
  dsimp only at ran
  split at ran
  · exact absurd ran throw_bind_not_ok
  · split at ran
    · exact gapService_not_ok types ran
    · exact gapService_not_ok types ran
    · exact absurd ran throw_bind_not_ok

/-- The GATT service is never created, and so the services have to have it already. -/
theorem completeWith_ok {name : JsValue} {given services : List Service}
    (types : TypesLoaded registry)
    (ran : (completeWith (createGattService runtime none none)
      (fun name => createGapService runtime name none none none none) name given).run registry =
        .ok services next) :
    given ≠ [] ∧ services = given ∧ next = registry := by
  unfold completeWith at ran
  dsimp only at ran
  split at ran
  · rcases bind_ok ran with ⟨_, _, made, _⟩
    exact absurd made (createGattService_not_ok types)
  · rename_i there
    rcases bind_ok ran with ⟨_, _, kept, ran⟩
    cases kept
    split at ran
    · rcases bind_ok ran with ⟨_, _, made, _⟩
      exact absurd made (createGapService_not_ok types)
    · cases ran
      refine ⟨?_, rfl, rfl⟩
      intro empty
      apply there
      rw [empty]
      rfl

/-- No peripheral is ever created with a service that was not passed to it, nor without any. -/
theorem createPeripheral_ok {name : JsValue} {options : Options} {given : Option (List Service)}
    {services : List Service} (types : TypesLoaded registry)
    (ran : (createPeripheral runtime name options given).run registry = .ok services next) :
    services ≠ [] ∧ (shiftServices options given).2 = some services ∧ next = registry := by
  unfold createPeripheral createPeripheralWith at ran
  dsimp only at ran
  split at ran
  · exact absurd ran throw_bind_not_ok
  · split at ran
    case h_1 | h_2 =>
      split at ran
      · exact absurd ran throw_bind_not_ok
      · cases passed : (shiftServices options given).2 with
        | none =>
          rw [passed] at ran
          cases ran
        | some given =>
          rw [passed] at ran
          rcases completeWith_ok types ran with ⟨some_given, rfl, same⟩
          exact ⟨some_given, rfl, same⟩
    case h_3 => exact absurd ran throw_bind_not_ok

end Creation

theorem Call.passes (call : Call) (services : List Service) :
    (shiftServices (call.arguments services).1 (call.arguments services).2).2 = some services := by
  cases call with
  | plain => rfl
  | withOptions options => cases options <;> rfl

theorem not_laidOut {registry : Registry} {service : Service} {rest : List Service}
    (unnumbered : service.Unnumbered registry) : ¬ LaidOut registry (service :: rest) := by
  intro laid
  have first : (attributesOf (service :: rest))[0]? = some service.declaration := rfl
  exact unnumbered.unnumbered 1 (laid.handles 0 service.declaration first)

/-- The program creates its services and its peripheral, and the table is laid out then. -/
def CreatesTable (runtime : Runtime) (name : JsValue) (call : Call) (specs : List ServiceSpec) : Prop :=
  ∃ services registry, (createAll runtime name call specs).run .loaded = .ok services registry ∧
    LaidOut registry services

theorem never_creates_table (runtime : Runtime) (name : JsValue) (call : Call)
    (specs : List ServiceSpec) : ¬ CreatesTable runtime name call specs := by
  intro created
  rcases created with ⟨services, registry, ran, laid⟩
  rcases bind_ok ran with ⟨made, middle, making, ran⟩
  rcases services_ok loaded_types making with ⟨kept, unnumbered⟩
  rcases createPeripheral_ok (kept.typesLoaded loaded_types) ran with ⟨some_service, passed, rfl⟩
  rw [call.passes made] at passed
  cases passed
  cases services with
  | nil => exact some_service rfl
  | cons service rest => exact not_laidOut (unnumbered service List.mem_cons_self) laid

def plainRuntime : Runtime where
  toHost := plainHost
  text
    | .string bytes | .buffer bytes => bytes.map fun byte =>
      if byte < 0x80 then UInt16.ofNat byte.toNat else 0xFFFD
    | _ => []
  start _ := 0
  arrayHas _ := false

/-- The service 0xAA00 with one characteristic to read and write, 0xAA01, which starts as 0. -/
def customService : ServiceSpec where
  position := .null
  missing := by simp [Position.Missing]
  uuid := .number 0xAA00
  characteristics := [{
    position := .null
    missing := by simp [Position.Missing]
    properties := propertyRead ||| propertyWrite
    uuid := .number 0xAA01
    value := .given (.number 0)
    descriptors := [] }]

def deviceName : JsValue := .string ("My BLE Device".toList.map fun c => UInt8.ofNat c.toNat)

def thrownBy : EStateM.Result JsError Registry (List Service) → Option JsError
  | .ok _ _ => none
  | .error thrown _ => some thrown

theorem customService_table_not_created :
    ¬ CreatesTable plainRuntime deviceName .plain [customService] := by
  have thrown : thrownBy ((createAll plainRuntime deviceName .plain [customService]).run .loaded) =
      some (.assertionError "trying to write beyond buffer length") := by
    decide +kernel
  intro created
  rcases created with ⟨services, registry, ran, _⟩
  rw [ran] at thrown
  cases thrown

end Btle.Server.Construction

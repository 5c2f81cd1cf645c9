import Btle.Server.UuidGrowth
import Btle.Gatt.Finding

namespace Btle.Server.Construction

open Throwing

variable {runtime : Runtime} {registry next : Registry}

/-- The handle stands where the type goes, so that the characteristic has a number for its UUID. -/
theorem createCharacteristic_type {position : Position} {properties : Nat} {uuid : UuidValue}
    {value : Handle} {characteristic : Characteristic}
    (ran : (createCharacteristic runtime position properties uuid value []).run registry =
      .ok characteristic next) :
    (next.item characteristic.value).type = position.handle.andPlus 1 := by
  rcases createCharacteristic_steps ran with
    ⟨found, declValue, endHandle, looked, declared, readable, valued, listened, change, got, made, changed,
      made_value, changed_value, described, unchanged⟩
  cases described
  rw [(changeItem_ok changed_value).item, Function.update_self, (unchanged _).2.1]
  exact createAttribute_type made_value

theorem andPlus_not_uuid (position : Position) (ref : UuidRef) :
    position.handle.andPlus 1 ≠ .given (.uuid ref) := by
  unfold Handle.andPlus
  cases position with
  | undefined => exact Handle.noConfusion
  | null => intro same; cases same
  | number value =>
    split
    · intro same
      cases same
    · intro same
      cases same

end Btle.Server.Construction

namespace Btle.Gatt

open Server Server.Construction Paging Throwing Utf16

/-- The number that the search reads as the UUID. -/
def Declaration.prefixNumber (declaration : Declaration) : Nat :=
  LittleEndian.number (declaration.uuid.take 2)

/-- The search takes the declaration for one of what the filter asks for. -/
def Declaration.TakenFor (declaration : Declaration) (store : UuidStore) (filter : Option UuidValue) :
    Prop :=
  ∀ value ∈ filter, SameObject store value declaration.prefixNumber

/-- The last characteristic of the list has a number where its UUID should be. -/
def Session.Numbered (session : Session) : Prop :=
  ∃ found, session.characteristics.getLast? = some found ∧
    ∀ ref, (session.registry.item found.characteristic.value).type ≠ .given (.uuid ref)

def Session.withUuids (session : Session) (uuids : UuidStore) : Session :=
  { session with registry := { session.registry with uuids } }

/-- Pushing went wrong, one way or the other. -/
def Spoils {α : Type} (good : α → Session → Prop) : EStateM.Result JsError Session α → Prop
  | .error _ _ => True
  | .ok value next => good value next ∧ next.Numbered

section chars

variable (runtime : Runtime) {session : Session} {declaration : Declaration} {store : UuidStore}

theorem entry_number (declaration : Declaration) :
    Buffer.readUInt16LE declaration.entry.data 3 = .ok declaration.prefixNumber := by
  have two : 2 ≤ declaration.uuid.length := by
    rcases declaration.width with short | long <;> omega
  have room : 3 + 1 < declaration.entry.data.length := by
    simp only [Declaration.entry, LittleEndian.bytes, List.cons_append, List.length_cons,
      List.length_append, List.length_nil]
    omega
  rw [Buffer.readUInt16LE, if_pos room]
  rfl

theorem build_run {α : Type} {program : Build α} {value : α} {registry : Registry}
    (ran : program.run session.registry = .ok value registry) :
    (Finding.build program).run session = .ok value { session with registry } := by
  simp only [EStateM.run] at ran
  simp only [Finding.build, EStateM.run, ran]

theorem build_ok {α : Type} {program : Build α} {value : α} {next : Session}
    (built : (Finding.build program).run session = .ok value next) :
    ∃ registry, program.run session.registry = .ok value registry ∧ next = { session with registry } := by
  cases ran : program.run session.registry with
  | error thrown registry =>
    simp only [EStateM.run] at ran built
    simp [Finding.build, EStateM.run, ran] at built
  | ok other registry =>
    rw [build_run ran] at built
    cases built
    exact ⟨registry, rfl, rfl⟩

theorem getUuidOf_run (session : Session) {value : UuidValue} {last : UuidStore} {found : Option UuidRef}
    (called : getUuid session.registry.uuids value = .ok (last, found)) :
    (Finding.build (Construction.getUuidOf value)).run session = .ok found (session.withUuids last) := by
  apply build_run
  simp only [Construction.getUuidOf, EStateM.run_bind, EStateM.run_get, called, Build.ofExcept,
    EStateM.run_pure, EStateM.run_modify]

theorem createChars_run (uuid : Option UuidRef) {last : UuidStore} {found : Option UuidRef}
    (called : getUuid session.registry.uuids (.number declaration.prefixNumber) = .ok (last, found)) :
    (createChars runtime uuid declaration.entry).run session =
      if uuid = none ∨ found = uuid then
        (pushCharacteristic runtime declaration.entry found).run (session.withUuids last)
      else .ok () (session.withUuids last) := by
  have number : (Finding.build (Build.ofExcept (Buffer.readUInt16LE declaration.entry.data 3))).run session =
      .ok declaration.prefixNumber session := by
    rw [entry_number]
    rfl
  have uuidVal := getUuidOf_run session called
  rw [createChars, EStateM.run_bind, number]
  dsimp only
  rw [EStateM.run_bind, uuidVal]
  dsimp only
  split
  · rfl
  · rfl

theorem pushCharacteristic_ok {item : Entry} {uuidVal : Option UuidRef} {done : Unit} {next : Session}
    (ran : (pushCharacteristic runtime item uuidVal).run session = .ok done next) :
    ∃ found, next.characteristics = session.characteristics ++ [found] ∧
      found.properties = propertyRead ∧
      ∀ ref, (next.registry.item found.characteristic.value).type ≠ .given (.uuid ref) := by
  cases uuidVal with
  | none => cases ran
  | some ref =>
    rcases bind_ok ran with ⟨characteristic, middle, created, pushed⟩
    rcases build_ok created with ⟨registry, built, rfl⟩
    cases pushed
    refine ⟨⟨characteristic, propertyRead⟩, rfl, rfl, ?_⟩
    intro other
    show (registry.item characteristic.value).type ≠ _
    rw [createCharacteristic_type built]
    exact andPlus_not_uuid (.number item.handle) other

theorem pushCharacteristic_spoils (item : Entry) (uuidVal : Option UuidRef) (session : Session) :
    Spoils (fun _ _ => True) ((pushCharacteristic runtime item uuidVal).run session) := by
  cases ran : (pushCharacteristic runtime item uuidVal).run session with
  | error thrown next => exact trivial
  | ok done next =>
    rcases pushCharacteristic_ok runtime ran with ⟨found, pushed, _, numbered⟩
    refine ⟨trivial, found, ?_, numbered⟩
    rw [pushed]
    exact List.getLast?_concat

/-- Whether the search takes a declaration for what it looks for, once it has made an object of the
    filter. -/
def Declaration.Taken (declaration : Declaration) (store : UuidStore) (uuid : Option UuidRef) : Prop :=
  ∀ ref ∈ uuid, (0 < declaration.prefixNumber ∧ declaration.prefixNumber ≤ 0xFFFF) ∧
    store.uuids.lookup (numberKey declaration.prefixNumber) = some ref

theorem createChars_spoils (uuid : Option UuidRef) (declaration : Declaration)
    (numbered : session.Numbered) :
    Spoils (fun _ _ => True) ((createChars runtime uuid declaration.entry).run session) := by
  rcases number_called (UuidStore.Grown.refl session.registry.uuids) declaration.prefixNumber with
    ⟨last, found, called, _, _⟩
  rw [createChars_run runtime uuid called]
  split
  · exact pushCharacteristic_spoils runtime _ _ _
  · exact ⟨trivial, numbered⟩

theorem processAttributes_spoils (uuid : Option UuidRef) (declarations : List Declaration)
    (numbered : session.Numbered) :
    Spoils (fun callbacks next => callbacks = [.list next.characteristics])
      ((processAttributes runtime uuid (declarations.map Declaration.entry)).run session) := by
  induction declarations generalizing session with
  | nil => exact ⟨rfl, numbered⟩
  | cons declaration declarations ih =>
    have first := createChars_spoils runtime uuid declaration numbered
    rw [List.map_cons, processAttributes, EStateM.run_bind]
    cases ran : (createChars runtime uuid declaration.entry).run session with
    | error thrown next => exact trivial
    | ok done next =>
      rw [ran] at first
      exact ih first.2

/-- Without a filter every declaration is pushed in its turn, as one that can be read. -/
theorem processAttributes_all (declarations : List Declaration) {callbacks : List Callback} {next : Session}
    (ran : (processAttributes runtime none (declarations.map Declaration.entry)).run session =
      .ok callbacks next) :
    ∃ pushed, next.characteristics = session.characteristics ++ pushed ∧
      callbacks = [.list next.characteristics] ∧ pushed.length = declarations.length ∧
        ∀ found ∈ pushed, found.properties = propertyRead := by
  induction declarations generalizing session with
  | nil =>
    cases ran
    exact ⟨[], (List.append_nil _).symm, rfl, rfl, by simp⟩
  | cons declaration declarations ih =>
    rw [List.map_cons, processAttributes] at ran
    rcases bind_ok ran with ⟨done, middle, first, ran⟩
    rcases number_called (UuidStore.Grown.refl session.registry.uuids) declaration.prefixNumber with
      ⟨last, found, called, _, _⟩
    rw [createChars_run runtime none called, if_pos (.inl rfl)] at first
    rcases pushCharacteristic_ok runtime first with ⟨one, pushed_one, readable, _⟩
    rcases ih ran with ⟨pushed, whole, called_back, length, all⟩
    refine ⟨one :: pushed, ?_, called_back, by rw [List.length_cons, length, List.length_cons], ?_⟩
    · rw [whole, pushed_one, List.append_assoc]
      rfl
    · rw [List.forall_mem_cons]
      exact ⟨readable, all⟩

/-- A search that finds nothing to push calls back with the list as it was. -/
theorem processAttributes_quiet (session : Session) {uuid : Option UuidRef}
    (declarations : List Declaration) (grown : store.Grown session.registry.uuids)
    (known : ∀ ref ∈ uuid, ref < store.objects.length)
    (none_taken : ∀ declaration ∈ declarations, ¬ declaration.Taken store uuid) :
    ∃ next, (processAttributes runtime uuid (declarations.map Declaration.entry)).run session =
        .ok [.list session.characteristics] next ∧
      next.characteristics = session.characteristics ∧ store.Grown next.registry.uuids := by
  induction declarations generalizing session with
  | nil => exact ⟨session, rfl, rfl, grown⟩
  | cons declaration declarations ih =>
    rw [List.forall_mem_cons] at none_taken
    rcases number_called grown declaration.prefixNumber with ⟨last, found, called, onward, exactly⟩
    have other : ¬ (uuid = none ∨ found = uuid) := by
      intro pushed
      apply none_taken.1
      intro ref held
      rcases pushed with missing | same
      · rw [missing] at held
        cases held
      · exact (exactly ref (known ref held)).mp (same.trans held)
    have first : (createChars runtime uuid declaration.entry).run session =
        .ok () (session.withUuids last) := by
      rw [createChars_run runtime uuid called, if_neg other]
    rw [List.map_cons, processAttributes, EStateM.run_bind, first]
    exact ih (session.withUuids last) onward none_taken.2

theorem processAttributes_taken (session : Session) {uuid : Option UuidRef}
    (declarations : List Declaration) (grown : store.Grown session.registry.uuids)
    (known : ∀ ref ∈ uuid, ref < store.objects.length) {declaration : Declaration}
    (inside : declaration ∈ declarations) (taken : declaration.Taken store uuid) :
    Spoils (fun callbacks next => callbacks = [.list next.characteristics])
      ((processAttributes runtime uuid (declarations.map Declaration.entry)).run session) := by
  induction declarations generalizing session with
  | nil => cases inside
  | cons front declarations ih =>
    rcases number_called grown front.prefixNumber with ⟨last, found, called, onward, exactly⟩
    have first := createChars_run runtime uuid called
    rw [List.map_cons, processAttributes, EStateM.run_bind, first]
    by_cases pushed : uuid = none ∨ found = uuid
    · rw [if_pos pushed]
      have spoils := pushCharacteristic_spoils runtime front.entry found
        (session.withUuids last)
      cases ran : (pushCharacteristic runtime front.entry found).run (session.withUuids last) with
      | error thrown next => exact trivial
      | ok done next =>
        rw [ran] at spoils
        exact processAttributes_spoils runtime uuid declarations spoils.2
    · rw [if_neg pushed]
      rcases List.mem_cons.mp inside with rfl | later
      · apply absurd _ pushed
        cases uuid with
        | none => exact .inl rfl
        | some ref => exact .inr ((exactly ref (known ref rfl)).mpr (taken ref rfl))
      · exact ih (session.withUuids last) onward later

end chars

section pages

variable (runtime : Runtime) {service : Service} {declarations : Declarations service}
  {filter : Option UuidValue} {type : Option UuidRef} {next : Session}

/-- However the declarations are split into pages, they are processed as one list. -/
theorem getChars_run (peripheral : Peripheral declarations)
    (again : (typeOf filter).run next = .ok type next) {turns startHandle : Nat} (asked : Nat)
    (attributes : List Entry) {session : Session} (typed : (typeOf filter).run session = .ok type next)
    (from_handle : service.handle ≤ startHandle) (to_end : startHandle ≤ service.groupEndHandle)
    (enough : (window Declaration.handle startHandle service.groupEndHandle declarations.list).length <
      turns) :
    (getChars runtime peripheral.readByType service filter turns asked startHandle attributes).run session =
      (processAttributes runtime type (attributes ++
        (window Declaration.handle startHandle service.groupEndHandle declarations.list).map
          Declaration.entry)).run next := by
  induction turns generalizing startHandle asked attributes session with
  | zero => omega
  | succ turns ih =>
    have answered := peripheral.conforms asked startHandle from_handle to_end
    rw [getChars, EStateM.run_bind, typed]
    cases answer : peripheral.readByType asked startHandle service.groupEndHandle with
    | error errorCode =>
      rw [answer] at answered
      rcases answered with ⟨code, nothing⟩
      simp only [if_pos code, nothing, List.map_nil, List.append_nil]
    | list list =>
      rw [answer] at answered
      rcases answered with ⟨page, some_page, front, rfl⟩
      rcases Option.ne_none_iff_exists'.mp (mt List.getLast?_eq_none_iff.mp some_page) with ⟨last, ends⟩
      have ends_entry : (page.map Declaration.entry).getLast? = some last.entry := by
        rw [List.getLast?_map, ends]
        rfl
      have split := window_split declarations.ascending front ends
      have shorter := window_shrinks declarations.ascending front ends
      have inside := (mem_window.mp (front.subset (List.mem_of_getLast? ends))).2
      have same : last.entry.handle = last.handle := rfl
      simp only [ends_entry, same]
      by_cases more : last.handle < service.groupEndHandle
      · have start : startHandle ≤ last.handle + 1 := by omega
        rw [if_pos more, split, List.map_append, ← List.append_assoc]
        exact ih (asked + 1) _ again (by omega) more (by omega)
      · have past : window Declaration.handle (last.handle + 1) service.groupEndHandle
            declarations.list = [] := by
          apply window_empty
          omega
        rw [if_neg more, split, past, List.append_nil]

theorem findCharacteristics_run (peripheral : Peripheral declarations) {session : Session}
    (typed : (typeOf filter).run session = .ok type next)
    (again : (typeOf filter).run next = .ok type next) {turns : Nat}
    (enough : declarations.list.length < turns) :
    (findCharacteristics runtime peripheral.readByType service filter turns).run session =
      (processAttributes runtime type (declarations.list.map Declaration.entry)).run next := by
  have whole : window Declaration.handle service.handle service.groupEndHandle declarations.list =
      declarations.list := by
    apply List.filter_eq_self.mpr
    intro declaration member
    exact decide_eq_true (declarations.inside declaration member)
  have paged := getChars_run runtime peripheral again 0 [] typed (Nat.le_refl _)
    service.ordered (by rw [whole]; exact enough)
  rw [whole, List.nil_append] at paged
  exact paged

/-- A search without a filter that calls back does so once, with the list of the service, to which
    it has added a characteristic to read for each declaration. -/
theorem findCharacteristics_all (peripheral : Peripheral declarations) {session : Session} {turns : Nat}
    (enough : declarations.list.length < turns) {callbacks : List Callback}
    (ran : (findCharacteristics runtime peripheral.readByType service none turns).run session =
      .ok callbacks next) :
    ∃ pushed, next.characteristics = session.characteristics ++ pushed ∧
      callbacks = [.list next.characteristics] ∧ pushed.length = declarations.list.length ∧
        ∀ found ∈ pushed, found.properties = propertyRead := by
  have typed : ∀ session : Session, (typeOf none).run session = .ok none session := fun _ => rfl
  rw [findCharacteristics_run runtime peripheral (typed session) (typed session) enough] at ran
  exact processAttributes_all runtime declarations.list ran

end pages

section searches

variable {runtime : Runtime} {service : Service} {declarations : Declarations service}
  {session : Session}

theorem shows_some {registry : Registry} {chars : List Found} {declarations : List Declaration}
    (shown : List.Forall₂ (Found.Shows registry) chars declarations) {found : Found}
    (member : found ∈ chars) : ∃ declaration, found.Shows registry declaration := by
  induction shown with
  | nil => cases member
  | cons shows _ ih =>
    rcases List.mem_cons.mp member with rfl | later
    · exact ⟨_, shows⟩
    · exact ih later

theorem not_finds_of_spoils {first second : Peripheral declarations} {filter : Option UuidValue}
    {uuid : Option UuidRef} {next : Session}
    (run : ∀ turns, declarations.list.length < turns →
      (findCharacteristics runtime first.readByType service filter turns).run session =
        (processAttributes runtime uuid (declarations.list.map Declaration.entry)).run next)
    (spoils : Spoils (fun callbacks next => callbacks = [.list next.characteristics])
      ((processAttributes runtime uuid (declarations.list.map Declaration.entry)).run next)) :
    ¬ Finds runtime declarations first second filter session := by
  rintro ⟨after, _, ⟨found, calls, shown⟩, _⟩
  have enough := Nat.lt_succ_self declarations.list.length
  rw [← run _ enough, calls _ enough] at spoils
  rcases spoils with ⟨same, last, ends, numbered⟩
  cases same
  rcases List.getLast?_eq_some_iff.mp ends with ⟨init, whole⟩
  rw [whole] at shown
  rcases shows_some shown (List.mem_append_right init (List.mem_singleton.mpr rfl)) with
    ⟨declaration, _, ref, _, typed, _⟩
  exact numbered ref typed

/-- What a search makes of its filter, which stays the same in every later one. -/
structure Looks (filter : Option UuidValue) (store next : UuidStore) (uuid : Option UuidRef) : Prop where
  known : ∀ ref ∈ uuid, ref < next.objects.length
  typed : ∀ session : Session, session.registry.uuids = store →
    (typeOf filter).run session = .ok uuid (session.withUuids next)
  again : ∀ session : Session, next.Grown session.registry.uuids →
    (typeOf filter).run session = .ok uuid session
  taken_iff : ∀ declaration : Declaration, declaration.TakenFor store filter ↔ declaration.Taken next uuid

theorem looks_everywhere (store : UuidStore) : Looks none store store none where
  known ref held := by cases held
  typed session same := by
    subst same
    rfl
  again session _ := rfl
  taken_iff declaration := by
    apply iff_of_true <;> intro _ held <;> cases held

theorem valid_truthy {store : UuidStore} {value : UuidValue} (valid : value.input.Valid store) :
    isFalsy value = false := by
  cases value with
  | string text =>
    show text.units.isEmpty = false
    rw [List.isEmpty_eq_false_iff]
    intro nothing
    rcases valid with short | long
    · have six := short.2.1
      rw [nothing] at six
      cases six
    · have size := long.length
      rw [nothing] at size
      cases size
  | number num =>
    cases num with
    | zero =>
      rcases valid with ⟨num, same, positive, _⟩
      simp only [JsNumber.finite.injEq, Nat.cast_inj] at same
      omega
    | succ => rfl
  | buffer | object => rfl

theorem looks_for {store : UuidStore} {value : UuidValue} (consistent : store.Consistent)
    (valid : value.input.Valid store) : ∃ next uuid, Looks (some value) store next uuid := by
  rcases valid_resolves consistent valid with ⟨next, ref, resolves⟩
  have search : typeOf (some value) = Finding.build (Construction.getUuidOf value) := by
    rw [typeOf, if_neg (Bool.eq_false_iff.mp (valid_truthy valid))]
  refine ⟨next, some ref, ?_, ?_, ?_, ?_⟩
  · intro other held
    cases held
    exact resolves.known
  · intro session same
    subst same
    rw [search]
    exact getUuidOf_run session resolves.called
  · intro session grown
    rw [search]
    exact getUuidOf_run session (resolves.again _ grown)
  · intro declaration
    have same := resolves.sameObject_iff declaration.prefixNumber
    simp only [Declaration.TakenFor, Declaration.Taken, Option.mem_some_iff, forall_eq', same]

theorem filter_looks {store : UuidStore} {filter : Option UuidValue} (consistent : store.Consistent)
    (valid : ∀ value ∈ filter, value.input.Valid store) :
    ∃ next uuid, Looks filter store next uuid := by
  cases filter with
  | none => exact ⟨store, none, looks_everywhere store⟩
  | some value => exact looks_for consistent (valid value rfl)

variable (runtime) {filter : Option UuidValue} (first second : Peripheral declarations)
  {next : UuidStore} {uuid : Option UuidRef}

theorem not_finds_of_taken (looks : Looks filter session.registry.uuids next uuid)
    {declaration : Declaration} (inside : declaration ∈ declarations.list)
    (taken : declaration.TakenFor session.registry.uuids filter) :
    ¬ Finds runtime declarations first second filter session := by
  have typed := looks.typed session rfl
  have again := looks.again (session.withUuids next) (UuidStore.Grown.refl next)
  have spoils := processAttributes_taken runtime (session.withUuids next) declarations.list
    (UuidStore.Grown.refl next) looks.known inside ((looks.taken_iff declaration).mp taken)
  exact not_finds_of_spoils (fun _ enough => findCharacteristics_run runtime first typed again enough) spoils

/-- Where it takes no declaration, a search calls back with the list as it was, and so does another. -/
theorem finds_nothing (looks : Looks filter session.registry.uuids next uuid)
    (none_taken : ∀ declaration ∈ declarations.list,
      ¬ declaration.TakenFor session.registry.uuids filter) :
    ∃ after last, (∀ turns, declarations.list.length < turns →
        (findCharacteristics runtime first.readByType service filter turns).run session =
          .ok [.list session.characteristics] after) ∧
      ∀ turns, declarations.list.length < turns →
        (findCharacteristics runtime second.readByType service filter turns).run after =
          .ok [.list session.characteristics] last := by
  have not_taken : ∀ declaration ∈ declarations.list, ¬ declaration.Taken next uuid := by
    intro declaration member taken
    exact none_taken declaration member ((looks.taken_iff declaration).mpr taken)
  have typed := looks.typed session rfl
  have again := looks.again (session.withUuids next) (UuidStore.Grown.refl next)
  rcases processAttributes_quiet runtime (session.withUuids next) declarations.list
    (UuidStore.Grown.refl next) looks.known not_taken with ⟨after, ran, kept, grown⟩
  rcases processAttributes_quiet runtime after declarations.list grown looks.known not_taken with
    ⟨last, ran_again, _, _⟩
  have stays := looks.again after grown
  refine ⟨after, last, ?_, ?_⟩
  · intro turns enough
    rw [findCharacteristics_run runtime first typed again enough]
    exact ran
  · intro turns enough
    rw [findCharacteristics_run runtime second stays stays enough, ran_again, kept]
    rfl

/-- Nothing is right but an empty list. -/
theorem finds_iff (session : Session) (looks : Looks filter session.registry.uuids next uuid)
    (fresh : session.characteristics = []) :
    Finds runtime declarations first second filter session ↔
      ∀ declaration ∈ declarations.list, ¬ declaration.Matches session.registry.uuids filter ∧
        ¬ declaration.TakenFor session.registry.uuids filter := by
  constructor
  · intro finds declaration member
    have none_taken : ∀ declaration ∈ declarations.list,
        ¬ declaration.TakenFor session.registry.uuids filter :=
      fun declaration inside taken => not_finds_of_taken runtime first second looks inside taken finds
    refine ⟨?_, none_taken declaration member⟩
    intro asked
    rcases finds_nothing runtime first second looks none_taken with
      ⟨after, _, calls, _⟩
    rcases finds with ⟨after', _, ⟨found, calls', shown⟩, _⟩
    have enough := Nat.lt_succ_self declarations.list.length
    have same := (calls' _ enough).symm.trans (calls _ enough)
    cases same
    rw [fresh, List.forall₂_nil_left_iff] at shown
    have wanted : declaration ∈ declarations.list.filter fun declaration =>
        declaration.Matches session.registry.uuids filter :=
      List.mem_filter.mpr ⟨member, decide_eq_true asked⟩
    rw [shown] at wanted
    cases wanted
  · intro nothing
    have none_wanted : (declarations.list.filter fun declaration =>
        declaration.Matches session.registry.uuids filter) = [] := by
      apply List.filter_eq_nil_iff.mpr
      intro declaration member asked
      exact (nothing declaration member).1 (of_decide_eq_true asked)
    rcases finds_nothing runtime first second looks
      fun declaration member => (nothing declaration member).2 with ⟨after, last, calls, calls_again⟩
    rw [fresh] at calls calls_again
    refine ⟨after, last, ⟨[], calls, ?_⟩, ⟨[], calls_again, ?_⟩⟩
    · rw [none_wanted]
      exact List.Forall₂.nil
    · rw [none_wanted]
      exact List.Forall₂.nil

end searches

/-- Before the first search on a service. -/
def Session.fresh (registry : Registry) (uuids : UuidStore) : Session where
  registry := { registry with uuids }
  characteristics := []

/-- A search is right only if it finds nothing: if the filter matches no declaration, and none is
    taken for what it asks for by the first two bytes of its UUID. -/
theorem findCharacteristics_finds_iff (runtime : Runtime) (radix16 : ℚ → Text)
    (registry : Registry) (history : List UuidInput) {service : Service}
    (declarations : Declarations service) (first second : Peripheral declarations)
    (filter : Option UuidValue)
    (valid : ∀ value ∈ filter, value.input.Valid (cacheAfter radix16 history)) :
    Finds runtime declarations first second filter (.fresh registry (cacheAfter radix16 history)) ↔
      ∀ declaration ∈ declarations.list,
        ¬ declaration.Matches (cacheAfter radix16 history) filter ∧
          ¬ declaration.TakenFor (cacheAfter radix16 history) filter := by
  rcases filter_looks (cacheAfter_consistent radix16 history) valid with ⟨next, uuid, looks⟩
  exact finds_iff runtime first second (.fresh registry (cacheAfter radix16 history)) looks rfl

/-- Everything that is asked for fits one response. -/
def wholePages {service : Service} (declarations : Declarations service) : Peripheral declarations where
  readByType _ startHandle endHandle :=
    match window Declaration.handle startHandle endHandle declarations.list with
    | [] => .error errorAttrNotFound
    | page => .list (page.map Declaration.entry)
  conforms asked startHandle _ _ := by
    cases page : window Declaration.handle startHandle service.groupEndHandle declarations.list with
    | nil => exact ⟨rfl, page⟩
    | cons front rest =>
      have front_page : front :: rest <+:
          window Declaration.handle startHandle service.groupEndHandle declarations.list := by
        rw [page]
      exact ⟨front :: rest, List.cons_ne_nil _ _, front_page, rfl⟩

/-- The service 0x1801 with the one characteristic 0x2A05, which is to be indicated. -/
def gattService : Service where
  handle := 12
  groupEndHandle := 15
  ordered := by decide

def serviceChanged : Declarations gattService where
  list := [{ handle := 13, properties := 0x20, valueHandle := 14, uuid := [0x05, 0x2A], width := .inl rfl }]
  ascending := List.pairwise_singleton _ _
  inside := by decide

/-- There is no device name among them, and none is found. -/
theorem deviceName_finds :
    Finds plainRuntime serviceChanged (wholePages _) (wholePages _) (some (.string (.of "0x2A00")))
      (.fresh .loaded (cacheAfter (fun _ => []) [])) := by
  have valid : ∀ value ∈ some (UuidValue.string (.of "0x2A00")),
      value.input.Valid (cacheAfter (fun _ => []) []) := by
    rintro _ ⟨⟩
    exact .inl (by decide)
  apply (findCharacteristics_finds_iff plainRuntime (fun _ => []) .loaded [] serviceChanged (wholePages _)
    (wholePages _) (some (.string (.of "0x2A00"))) valid).mpr
  intro declaration member
  rw [List.mem_singleton.mp member]
  constructor
  · decide +kernel
  · intro taken
    rcases taken _ rfl with ⟨next, last, ref, first, second⟩
    cases first
    cases second

theorem serviceChanged_not_found :
    ¬ Finds plainRuntime serviceChanged (wholePages _) (wholePages _) (some (.string (.of "0x2A05")))
      (.fresh .loaded (cacheAfter (fun _ => []) [])) := by
  have valid : ∀ value ∈ some (UuidValue.string (.of "0x2A05")),
      value.input.Valid (cacheAfter (fun _ => []) []) := by
    rintro _ ⟨⟩
    exact .inl (by decide)
  rcases filter_looks (cacheAfter_consistent _ []) valid with ⟨next, uuid, looks⟩
  refine not_finds_of_taken plainRuntime (wholePages _) (wholePages _) looks List.mem_cons_self ?_
  rintro _ ⟨⟩
  exact ⟨_, _, _, rfl, rfl⟩

end Btle.Gatt

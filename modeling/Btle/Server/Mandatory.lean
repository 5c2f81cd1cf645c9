import Btle.Server.Layout

namespace Btle.Server.Construction

open Throwing

/-- A call that returns, from wherever it is made, a service with this UUID. -/
def Creates (create : Build Service) (uuid : UuidRef) : Prop :=
  ∀ registry, ∃ service next, create.run registry = .ok service next ∧ service.uuid = some uuid

def DeviceName (name : JsValue) : Prop :=
  truthy name = true ∧ ((∃ utf8, name = .string utf8) ∨ ∃ bytes, name = .buffer bytes)

def Service.Other (service : Service) : Prop :=
  service.uuid ≠ some serviceGap ∧ service.uuid ≠ some serviceGatt

instance (service : Service) : Decidable service.Other := inferInstanceAs (Decidable (_ ∧ _))

/-- One GAP service, one GATT service, and then the others that were given. -/
def Mandatory (given services : List Service) : Prop :=
  ∃ gap gatt, services = gap :: gatt :: given.filter Service.Other ∧
    gap.uuid = some serviceGap ∧ gatt.uuid = some serviceGatt

/-- The lists that the constructor makes the most of: with neither service, or with both in their
    places. -/
def InPlace (given : List Service) : Prop :=
  (∀ service ∈ given, service.Other) ∨
    ∃ gap gatt others, given = gap :: gatt :: others ∧ gap.uuid = some serviceGap ∧
      gatt.uuid = some serviceGatt ∧ ∀ service ∈ others, service.Other

theorem gap_ne_gatt : serviceGap ≠ serviceGatt := by decide

theorem filter_other_eq {services : List Service} :
    services = services.filter Service.Other ↔ ∀ service ∈ services, service.Other := by
  rw [eq_comm, List.filter_eq_self]
  simp only [decide_eq_true_eq]

theorem mandatory_cons {given others : List Service} {gap gatt : Service} :
    Mandatory given (gap :: gatt :: others) ↔
      gap.uuid = some serviceGap ∧ gatt.uuid = some serviceGatt ∧
        others = given.filter Service.Other := by
  constructor
  · rintro ⟨_, _, whole, is_gap, is_gatt⟩
    cases whole
    exact ⟨is_gap, is_gatt, rfl⟩
  · rintro ⟨is_gap, is_gatt, rfl⟩
    exact ⟨gap, gatt, rfl, is_gap, is_gatt⟩

section Completion

variable {createGatt : Build Service} {createGap : JsValue → Build Service} {name : JsValue}

theorem completeWith_unplaced (createsGatt : Creates createGatt serviceGatt)
    (createsGap : Creates (createGap name) serviceGap) {given : List Service}
    (unplaced : lacks given 1 serviceGatt = true) (registry : Registry) :
    ∃ gap gatt next, (completeWith createGatt createGap name given).run registry =
        .ok (gap :: gatt :: given) next ∧
      gap.uuid = some serviceGap ∧ gatt.uuid = some serviceGatt := by
  obtain ⟨gatt, middle, gatt_made, is_gatt⟩ := createsGatt registry
  obtain ⟨gap, next, gap_made, is_gap⟩ := createsGap middle
  have wanting : lacks (gatt :: given) 0 serviceGap = true := by
    simp only [lacks, List.getElem?_cons_zero, is_gatt]
    decide
  refine ⟨gap, gatt, next, ?_, is_gap, is_gatt⟩
  simp only [completeWith, unplaced, Bool.or_true, if_true, EStateM.run_bind, gatt_made, EStateM.run_pure,
    wanting, gap_made]

theorem completeWith_both {first gatt : Service} {others : List Service}
    (is_gap : first.uuid = some serviceGap) (is_gatt : gatt.uuid = some serviceGatt)
    (registry : Registry) :
    (completeWith createGatt createGap name (first :: gatt :: others)).run registry =
      .ok (first :: gatt :: others) registry := by
  have second : lacks (first :: gatt :: others) 1 serviceGatt = false := by
    simp [lacks, is_gatt]
  have placed : lacks (first :: gatt :: others) 0 serviceGap = false := by
    simp [lacks, is_gap]
  have long : decide ((first :: gatt :: others).length < 2) = false := by simp
  have some_given : decide ((first :: gatt :: others).length = 0) = false := by simp
  simp only [completeWith, long, second, Bool.or_false, Bool.false_eq_true, if_false, EStateM.run_bind,
    EStateM.run_pure, some_given, placed]

/-- A GATT service in the second place stays behind the one that comes before it. -/
theorem completeWith_shifted (createsGap : Creates (createGap name) serviceGap)
    {first gatt : Service} {others : List Service} (not_gap : first.uuid ≠ some serviceGap)
    (is_gatt : gatt.uuid = some serviceGatt) (registry : Registry) :
    ∃ gap next, (completeWith createGatt createGap name (first :: gatt :: others)).run registry =
      .ok (gap :: first :: gatt :: others) next := by
  obtain ⟨gap, next, gap_made, _⟩ := createsGap registry
  have second : lacks (first :: gatt :: others) 1 serviceGatt = false := by
    simp [lacks, is_gatt]
  have wanting : lacks (first :: gatt :: others) 0 serviceGap = true := by
    simp [lacks, not_gap]
  have long : decide ((first :: gatt :: others).length < 2) = false := by simp
  refine ⟨gap, next, ?_⟩
  simp only [completeWith, long, second, Bool.or_false, Bool.false_eq_true, if_false, EStateM.run_bind,
    EStateM.run_pure, wanting, Bool.or_true, if_true, gap_made]

theorem lacks_second_false {given : List Service} {uuid : UuidRef} (there : lacks given 1 uuid = false) :
    ∃ first second others, given = first :: second :: others ∧ second.uuid = some uuid := by
  match given with
  | [] | [_] => cases there
  | first :: second :: others => exact ⟨first, second, others, rfl, by simpa [lacks] using there⟩

theorem completeWith_mandatory_iff (createsGatt : Creates createGatt serviceGatt)
    (createsGap : Creates (createGap name) serviceGap) (given : List Service) (registry : Registry) :
    (∃ services next, (completeWith createGatt createGap name given).run registry = .ok services next ∧
        Mandatory given services) ↔ InPlace given := by
  have distinct : some serviceGap ≠ some serviceGatt := fun same => gap_ne_gatt (Option.some.inj same)
  cases lacking : lacks given 1 serviceGatt with
  | true =>
    obtain ⟨gap, gatt, next, ran, is_gap, is_gatt⟩ :=
      completeWith_unplaced createsGatt createsGap lacking registry
    rw [ran]
    constructor
    · rintro ⟨services, last, same, mandatory⟩
      cases same
      exact .inl (filter_other_eq.mp (mandatory_cons.mp mandatory).2.2)
    · rintro (none_given | ⟨_, other, _, rfl, _, placed, _⟩)
      · refine ⟨_, next, rfl, ?_⟩
        exact mandatory_cons.mpr ⟨is_gap, is_gatt, filter_other_eq.mpr none_given⟩
      · simp [lacks, placed] at lacking
  | false =>
    obtain ⟨first, gatt, others, rfl, is_gatt⟩ := lacks_second_false lacking
    have never : ¬ gatt.Other := fun other => other.2 is_gatt
    by_cases is_gap : first.uuid = some serviceGap
    · have neither : ¬ first.Other := fun other => other.1 is_gap
      have kept : (first :: gatt :: others).filter Service.Other = others.filter Service.Other := by
        simp only [List.filter_cons, neither, never, decide_false, Bool.false_eq_true, if_false]
      rw [completeWith_both is_gap is_gatt]
      constructor
      · rintro ⟨services, last, same, mandatory⟩
        cases same
        have rest := (mandatory_cons.mp mandatory).2.2
        rw [kept] at rest
        exact .inr ⟨first, gatt, others, rfl, is_gap, is_gatt, filter_other_eq.mp rest⟩
      · rintro (none_given | ⟨_, _, rest, same, _, _, others_only⟩)
        · exact absurd (none_given first List.mem_cons_self) neither
        · cases same
          refine ⟨_, registry, rfl, ?_⟩
          rw [mandatory_cons, kept]
          exact ⟨is_gap, is_gatt, filter_other_eq.mpr others_only⟩
    · obtain ⟨gap, next, ran⟩ := completeWith_shifted createsGap is_gap is_gatt registry
      rw [ran]
      apply iff_of_false
      · rintro ⟨services, last, same, mandatory⟩
        cases same
        have inside : gatt ∈ (first :: gatt :: others).filter Service.Other := by
          rw [← (mandatory_cons.mp mandatory).2.2]
          exact List.mem_cons_self
        exact never (of_decide_eq_true (List.mem_filter.mp inside).2)
      · rintro (none_given | ⟨_, _, _, same, placed, _, _⟩)
        · exact never (none_given gatt (by simp))
        · cases same
          exact is_gap placed

end Completion

theorem createPeripheralWith_named {createGatt : Build Service} {createGap : JsValue → Build Service}
    {name : JsValue} (named : DeviceName name) (options : Options) (services : Option (List Service)) :
    createPeripheralWith createGatt createGap name options services =
      match shiftServices options services with
      | (.missing, some given) => completeWith createGatt createGap name given
      | (.missing, none) => throw (.typeError "Cannot read property 'length' of undefined")
      | _ => throw (.typeError "Options must be an object") := by
  obtain ⟨some_name, kind⟩ := named
  unfold createPeripheralWith
  rcases shiftServices options services with ⟨options, services⟩
  rcases kind with ⟨utf8, rfl⟩ | ⟨bytes, rfl⟩ <;> cases options <;> cases services <;>
    simp only [some_name] <;> rfl

/-- The constructor leaves one GAP service, one GATT service and the others behind them exactly if it
    is passed a list with neither of the two or with both in their places, and no options. -/
theorem mandatory_services_iff {createGatt : Build Service} {createGap : JsValue → Build Service}
    {name : JsValue} (named : DeviceName name) (createsGatt : Creates createGatt serviceGatt)
    (createsGap : Creates (createGap name) serviceGap) (options : Options)
    (services : Option (List Service)) (registry : Registry) :
    (∃ result next, (createPeripheralWith createGatt createGap name options services).run registry =
        .ok result next ∧ Mandatory ((shiftServices options services).2.getD []) result) ↔
      ∃ given, shiftServices options services = (.missing, some given) ∧ InPlace given := by
  rw [createPeripheralWith_named named]
  rcases shiftServices options services with ⟨options, passed⟩
  cases options with
  | missing =>
    cases passed with
    | none =>
      apply iff_of_false
      · rintro ⟨_, _, same, _⟩
        cases same
      · rintro ⟨_, same, _⟩
        cases same
    | some given =>
      apply (completeWith_mandatory_iff createsGatt createsGap given registry).trans
      constructor
      · exact fun placed => ⟨given, rfl, placed⟩
      · rintro ⟨_, same, placed⟩
        cases same
        exact placed
  | services | object =>
    apply iff_of_false
    · rintro ⟨_, _, same, _⟩
      cases same
    · rintro ⟨_, same, _⟩
      cases same

def serviceOf (uuid : UuidRef) : Service := ⟨some uuid, 0, [], none⟩

/-- A list of the application's own GAP service, which is kept behind the two that are made. -/
theorem ownGap_kept_twice :
    ¬ ∃ result next, (createPeripheralWith (pure (serviceOf serviceGatt))
        (fun _ => pure (serviceOf serviceGap)) deviceName .missing
        (some [serviceOf serviceGap])).run .loaded = .ok result next ∧
      Mandatory [serviceOf serviceGap] result := by
  rintro ⟨_, _, same, mandatory⟩
  cases same
  have nothing : [serviceOf serviceGap].filter Service.Other = [] := by decide
  have rest := (mandatory_cons.mp mandatory).2.2
  rw [nothing] at rest
  cases rest

theorem deviceInfo_mandatory_iff :
    (∃ result next, (createPeripheralWith (pure (serviceOf serviceGatt))
        (fun _ => pure (serviceOf serviceGap)) deviceName (.services [serviceOf serviceDeviceInfo])
        none).run .loaded = .ok result next ∧ Mandatory [serviceOf serviceDeviceInfo] result) ↔
      ∃ given, shiftServices (.services [serviceOf serviceDeviceInfo]) none = (.missing, some given) ∧
        InPlace given :=
  mandatory_services_iff ⟨rfl, .inl ⟨_, rfl⟩⟩ (fun registry => ⟨_, registry, rfl, rfl⟩)
    (fun registry => ⟨_, registry, rfl, rfl⟩) _ _ _

end Btle.Server.Construction

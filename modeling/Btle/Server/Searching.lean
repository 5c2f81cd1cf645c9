import Btle.Server.AccessControl

namespace Btle.Server

section Searching

variable (world : World) (start stop : Nat) (type : Option UuidRef) (value : Option Buffer)

def Attribute.Suits (attrib : Attribute) : Prop :=
  (type = none ∨ attrib.type = type) ∧ (value = none ∨ attrib.value = value)

/-- An attribute of the range, its end included, that has the type and the value asked for. -/
def Wanted (ref : AttrRef) : Prop :=
  ∃ handle, slotAt world.handles handle = some ref ∧ start ≤ handle ∧ handle ≤ stop ∧
    (world.attrib ref).Suits type value

def Before (one other : AttrRef) : Prop :=
  ∃ handle later, (world.attrib one).handle = some handle ∧
    (world.attrib other).handle = some later ∧ handle < later

def FindsExactly : Prop :=
  ∃ found, findAttributes world start stop type value = .ok found ∧
    found.Pairwise (Before world) ∧ ∀ ref, ref ∈ found ↔ Wanted world start stop type value ref

theorem mem_attributesIn {ref : AttrRef} :
    ref ∈ attributesIn world start stop type ↔
      ∃ handle, slotAt world.handles handle = some ref ∧ start ≤ handle ∧ handle < stop ∧
        (type = none ∨ (world.attrib ref).type = type) := by
  unfold attributesIn
  rw [List.mem_filter, List.mem_filterMap, decide_eq_true_eq]
  constructor
  · intro both
    obtain ⟨⟨handle, inside, slot⟩, suits⟩ := both
    have bounds := List.mem_range'_1.mp inside
    exact ⟨handle, slot, bounds.1, by omega, suits⟩
  · intro there
    obtain ⟨handle, slot, least, below, suits⟩ := there
    exact ⟨⟨handle, List.mem_range'_1.mpr ⟨least, by omega⟩, slot⟩, suits⟩

variable {world}

theorem attributesIn_pairwise (own : AtOwnHandles world) :
    (attributesIn world start stop type).Pairwise (Before world) := by
  apply List.Pairwise.filter
  rw [List.pairwise_filterMap]
  apply List.Pairwise.imp _ List.pairwise_lt_range'
  intro handle later less one slot other later_slot
  exact ⟨handle, later, own handle one slot, own later other later_slot, less⟩

variable {start stop type value}

theorem findAttributes_suits {found : List AttrRef}
    (search : findAttributes world start stop type value = .ok found) :
    found.Sublist (attributesIn world start stop type) ∧
      ∀ ref, ref ∈ found ↔ ref ∈ attributesIn world start stop type ∧
        (value = none ∨ (world.attrib ref).value = value) := by
  cases value with
  | none =>
    rw [findAttributes_any] at search
    cases search
    exact ⟨List.Sublist.refl _, fun ref => (and_iff_left (.inl rfl)).symm⟩
  | some value =>
    obtain ⟨_, rfl⟩ := (findAttributes_valued world start stop type value).mp search
    refine ⟨List.filter_sublist, fun ref => ?_⟩
    simp

theorem findAttributes_ok :
    (∃ found, findAttributes world start stop type value = .ok found) ↔
      (value ≠ none → ∀ ref ∈ attributesIn world start stop type, (world.attrib ref).value ≠ none) := by
  cases value with
  | none =>
    rw [findAttributes_any]
    exact iff_of_true ⟨_, rfl⟩ fun absent => absurd rfl absent
  | some value =>
    simp only [findAttributes_valued, exists_and_left, exists_eq, and_true, ne_eq, reduceCtorEq,
      not_false_eq_true, forall_const]

theorem mem_found {found : List AttrRef} (search : findAttributes world start stop type value = .ok found)
    (ref : AttrRef) :
    ref ∈ found ↔ ∃ handle, slotAt world.handles handle = some ref ∧ start ≤ handle ∧ handle < stop ∧
      (world.attrib ref).Suits type value := by
  rw [(findAttributes_suits search).2, mem_attributesIn]
  constructor
  · intro both
    obtain ⟨⟨handle, slot, least, below, typed⟩, valued⟩ := both
    exact ⟨handle, slot, least, below, typed, valued⟩
  · intro there
    obtain ⟨handle, slot, least, below, typed, valued⟩ := there
    exact ⟨⟨handle, slot, least, below, typed⟩, valued⟩

end Searching

/-- The search stops before the end of the range, and it throws at an attribute of the type that has
    no value to compare with the one given. -/
theorem finds_exactly_iff (world : World) (own : AtOwnHandles world) (start stop : Nat)
    (ordered : start ≤ stop) (type : Option UuidRef) (value : Option Buffer) :
    FindsExactly world start stop type value ↔
      (∀ ref, slotAt world.handles stop = some ref → ¬ (world.attrib ref).Suits type value) ∧
        (value ≠ none → ∀ handle ref, slotAt world.handles handle = some ref → start ≤ handle →
          handle < stop → (type = none ∨ (world.attrib ref).type = type) →
            (world.attrib ref).value ≠ none) := by
  have searches : (∃ found, findAttributes world start stop type value = .ok found) ↔
      (value ≠ none → ∀ ref ∈ attributesIn world start stop type, (world.attrib ref).value ≠ none) :=
    findAttributes_ok
  constructor
  · intro exact_found
    obtain ⟨found, search, _, members⟩ := exact_found
    constructor
    · intro ref last suits
      have inside := (members ref).mpr ⟨stop, last, ordered, le_refl stop, suits⟩
      obtain ⟨handle, slot, _, below, _⟩ := (mem_found search ref).mp inside
      have here := own stop ref last
      rw [own handle ref slot, Option.some.injEq] at here
      omega
    · intro given handle ref slot least below typed
      exact searches.mp ⟨found, search⟩ given ref
        ((mem_attributesIn world start stop type).mpr ⟨handle, slot, least, below, typed⟩)
  · intro both
    obtain ⟨nothing_last, present⟩ := both
    obtain ⟨found, search⟩ := searches.mpr fun given ref member => by
      obtain ⟨handle, slot, least, below, typed⟩ := (mem_attributesIn world start stop type).mp member
      exact present given handle ref slot least below typed
    refine ⟨found, search, ?_, fun ref => ?_⟩
    · exact (attributesIn_pairwise start stop type own).sublist (findAttributes_suits search).1
    · rw [mem_found search ref]
      constructor
      · intro there
        obtain ⟨handle, slot, least, below, suits⟩ := there
        exact ⟨handle, slot, least, by omega, suits⟩
      · intro wanted
        obtain ⟨handle, slot, least, most, suits⟩ := wanted
        have not_last : handle ≠ stop := by
          intro same
          exact nothing_last ref (same ▸ slot) suits
        exact ⟨handle, slot, least, by omega, suits⟩

theorem notepad_finds : FindsExactly notepad 1 2 none none := by
  refine (finds_exactly_iff notepad notepad_own 1 2 (by decide) none none).mpr ⟨?_, ?_⟩
  · intro ref last
    cases last
  · exact fun given => absurd rfl given

/-- The only attribute is at the end of the range, and is not found. -/
theorem notepad_misses : AtOwnHandles notepad ∧ ¬ FindsExactly notepad 1 1 none none := by
  refine ⟨notepad_own, fun finds => ?_⟩
  obtain ⟨found, search, _, members⟩ := finds
  cases search
  have missing := (members 0).mpr ⟨1, rfl, le_refl 1, le_refl 1, .inl rfl, .inl rfl⟩
  cases missing

end Btle.Server

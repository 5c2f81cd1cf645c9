import Btle.Server.UuidHistories

namespace Btle.Server

open Utf16

/-- The key that a number is looked up under. -/
def numberKey (num : Nat) : Text := shortToLong (ofString "0x" ++ upperText (Hex.ofNat num))

/-- What a cache becomes by calls that only look up or make new objects. -/
structure UuidStore.Grown (store next : UuidStore) : Prop where
  objects : store.objects <+: next.objects
  kept : ∀ key ref, store.uuids.lookup key = some ref → next.uuids.lookup key = some ref
  fresh : ∀ key ref, next.uuids.lookup key = some ref →
    store.uuids.lookup key = some ref ∨ store.objects.length ≤ ref

/-- `UUID.getUUID(num) == UUID.getUUID(value)`, and they are no nulls. -/
def SameObject (store : UuidStore) (value : UuidValue) (num : Nat) : Prop :=
  ∃ next last ref, getUuid store value = .ok (next, some ref) ∧
    getUuid next (.number num) = .ok (last, some ref)

section growth

variable {store next : UuidStore} {key : Text} {num : Nat} {value : UuidValue}

theorem UuidStore.Grown.refl (store : UuidStore) : store.Grown store :=
  ⟨List.prefix_refl _, fun _ _ found => found, fun _ _ found => .inl found⟩

theorem UuidStore.Grown.made (grown : store.Grown next) (uuid : Uuid)
    (missing : next.uuids.lookup key = none) :
    store.Grown ⟨next.objects ++ [uuid], (key, next.objects.length) :: next.uuids⟩ := by
  have longer : store.objects.length ≤ next.objects.length := grown.objects.length_le
  constructor
  · exact grown.objects.trans (List.prefix_append _ _)
  · intro other ref found
    have inside := grown.kept other ref found
    have differs : other ≠ key := by
      intro same
      rw [same, missing] at inside
      cases inside
    rw [List.lookup_cons, beq_eq_false_iff_ne.mpr differs]
    exact inside
  · intro other ref found
    rw [List.lookup_cons] at found
    by_cases same : other = key
    · rw [beq_iff_eq.mpr same] at found
      cases found
      exact .inr longer
    · rw [beq_eq_false_iff_ne.mpr same] at found
      exact grown.fresh other ref found

theorem number_makes (small : num ≤ 0xFFFF) :
    ∃ uuid, Uuid.new (numberKey num) (some (ofString "0x" ++ upperText (Hex.ofNat num))) = .ok uuid := by
  have digits : (Hex.ofNat num).length ≤ 4 := by
    apply Hex.ofNat_length
    omega
  have few : (ofString "0x" ++ upperText (Hex.ofNat num)).length ≤ 6 := by
    have two : (ofString "0x").length = 2 := by decide
    rw [List.length_append, upperText, List.length_map, two]
    omega
  exact ⟨_, new_of_buffer (stringToBuffer_short few)⟩

/-- Whatever numbers were asked for before, a number gives an object of the cache as it was exactly
    if that had it under its key. -/
theorem number_called (grown : store.Grown next) (num : Nat) :
    ∃ last found, getUuid next (.number num) = .ok (last, found) ∧ store.Grown last ∧
      ∀ ref < store.objects.length,
        found = some ref ↔
          (0 < num ∧ num ≤ 0xFFFF) ∧ store.uuids.lookup (numberKey num) = some ref := by
  by_cases range : 0 < num ∧ num ≤ 0xFFFF
  · have called : getUuid next (.number num) = next.cached (numberKey num)
        (Uuid.new (numberKey num) (some (ofString "0x" ++ upperText (Hex.ofNat num)))) := if_pos range
    cases looked : next.uuids.lookup (numberKey num) with
    | some found =>
      refine ⟨next, some found, called.trans (cached_found _ looked), grown, ?_⟩
      intro ref old
      constructor
      · intro same
        cases same
        rcases grown.fresh _ _ looked with before | after
        · exact ⟨range, before⟩
        · omega
      · intro before
        rw [grown.kept _ _ before.2] at looked
        exact looked.symm
    | none =>
      rcases number_makes range.2 with ⟨uuid, new⟩
      refine ⟨_, _, called.trans (cached_made looked new), grown.made uuid looked, ?_⟩
      intro ref old
      have longer : store.objects.length ≤ next.objects.length := grown.objects.length_le
      apply iff_of_false
      · intro same
        cases same
        omega
      · intro before
        rw [grown.kept _ _ before.2] at looked
        cases looked
  · refine ⟨next, none, if_neg range, grown, ?_⟩
    intro ref old
    apply iff_of_false
    · intro same
      cases same
    · intro before
      exact range before.1

/-- A filter gives an object, and gives the same as long as the cache only grows. -/
structure Resolves (store : UuidStore) (value : UuidValue) (next : UuidStore) (ref : UuidRef) : Prop where
  called : getUuid store value = .ok (next, some ref)
  known : ref < next.objects.length
  again : ∀ last, next.Grown last → getUuid last value = .ok (last, some ref)

theorem resolves_cached (consistent : store.Consistent) {make : Except JsError Uuid}
    (called : ∀ store, getUuid store value = store.cached key make) (made : ∃ uuid, make = .ok uuid) :
    ∃ next ref, Resolves store value next ref := by
  have again : ∀ {next : UuidStore} {ref : UuidRef}, next.uuids.lookup key = some ref →
      ∀ last, next.Grown last → getUuid last value = .ok (last, some ref) := by
    intro next ref found last grown
    rw [called]
    exact cached_found make (grown.kept key ref found)
  cases looked : store.uuids.lookup key with
  | some ref =>
    rcases consistent.cached key ref looked with ⟨uuid, inside, _⟩
    have known : ref < store.objects.length := (List.getElem?_eq_some_iff.mp inside).1
    exact ⟨store, ref, (called store).trans (cached_found make looked), known, again looked⟩
  | none =>
    rcases made with ⟨uuid, new⟩
    have entered : ((key, store.objects.length) :: store.uuids).lookup key = some store.objects.length :=
      List.lookup_cons_self
    refine ⟨_, _, (called store).trans (cached_made looked new), ?_, again entered⟩
    rw [List.length_append]
    exact Nat.lt_succ_self _

theorem resolves_object {ref : UuidRef} (known : ref < store.objects.length) :
    ∃ next, Resolves store (.object ref) next ref := by
  have present : store.objects[ref]? = some store.objects[ref] := List.getElem?_eq_getElem known
  have again : ∀ {next : UuidStore} {other : UuidRef}, store.objects <+: next.objects →
      next.uuids.lookup store.objects[ref].longString = some other →
      ∀ last, next.Grown last → getUuid last (.object ref) = .ok (last, some ref) := by
    intro next other longer found last grown
    rcases longer.trans grown.objects with ⟨more, whole⟩
    have still : last.objects[ref]? = some store.objects[ref] := by
      rw [← whole, List.getElem?_append_left known]
      exact present
    exact object_known still (grown.kept _ _ found)
  cases looked : store.uuids.lookup store.objects[ref].longString with
  | some other =>
    exact ⟨store, object_known present looked, known, again (List.prefix_refl _) looked⟩
  | none =>
    exact ⟨_, object_registered present looked, known, again (List.prefix_refl _) List.lookup_cons_self⟩

theorem valid_resolves (consistent : store.Consistent) (valid : value.input.Valid store) :
    ∃ next ref, Resolves store value next ref := by
  let radix16 : ℚ → Text := fun _ => []
  have given (other : ∀ ref, value.input ≠ .object ref) :
      ∃ next ref, Resolves store value next ref := by
    rcases entry_valid radix16 valid other with ⟨entry, found, key⟩
    have called : ∀ store, getUuid store value = store.cached entry.key entry.make := by
      intro store
      rw [← getUuidFor_value radix16]
      exact getUuidFor_some radix16 store found
    exact resolves_cached consistent called (make_valid radix16 found key)
  cases value with
  | object ref =>
    rcases resolves_object valid with ⟨next, resolves⟩
    exact ⟨next, ref, resolves⟩
  | string text => exact given fun ref same => UuidInput.noConfusion same
  | number num => exact given fun ref same => UuidInput.noConfusion same
  | buffer bytes => exact given fun ref same => UuidInput.noConfusion same

theorem Resolves.sameObject_iff {ref : UuidRef} (resolves : Resolves store value next ref) (num : Nat) :
    SameObject store value num ↔
      (0 < num ∧ num ≤ 0xFFFF) ∧ next.uuids.lookup (numberKey num) = some ref := by
  rcases number_called (UuidStore.Grown.refl next) num with ⟨last, found, called, _, exactly⟩
  rw [← exactly ref resolves.known]
  constructor
  · rintro ⟨other, final, shared, first, second⟩
    rw [resolves.called] at first
    cases first
    rw [called] at second
    cases second
    rfl
  · intro same
    rw [same] at called
    exact ⟨next, last, ref, resolves.called, called⟩

end growth

end Btle.Server

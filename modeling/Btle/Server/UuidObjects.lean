import Btle.Server.UuidInputs

namespace Btle.Server

open Utf16

/-- The strings that a parse function can have given the constructor. -/
inductive MadeAs (longString : Text) : Option Text → Prop
  | long (string : JsString) (size : string.units.length = 36) (same : longString = string.upperCase) :
      MadeAs longString none
  | short (string : Text) (marked : HasHexPrefix string)
      (same : longString = shortToLong (upperText string)) : MadeAs longString (some string)
  | turned (buffer : Buffer) (same : longString = bufferToString buffer) :
      MadeAs longString (longToShort longString)

structure Uuid.Made (uuid : Uuid) : Prop where
  new : Uuid.new uuid.longString uuid.shortString = .ok uuid
  made : MadeAs uuid.longString uuid.shortString

/-- An object is cached under its long string, or under one of which that is the upper case. -/
def Uuid.Under (uuid : Uuid) (key : Text) : Prop :=
  key = uuid.longString ∨
    ∃ string : JsString, string.units = key ∧ key.length = 36 ∧ string.upperCase = uuid.longString

structure UuidStore.Consistent (store : UuidStore) : Prop where
  made : ∀ uuid ∈ store.objects, uuid.Made
  cached : ∀ key ref, store.uuids.lookup key = some ref →
    ∃ uuid, store.objects[ref]? = some uuid ∧ uuid.Under key

theorem consistent_empty : UuidStore.empty.Consistent where
  made uuid member := by cases member
  cached key ref found := by cases found

theorem new_eq (longString : Text) (shortString : Option Text) :
    Uuid.new longString shortString =
      (stringToBuffer (spelling longString shortString)).map fun buffer =>
        ⟨longString, shortString, buffer⟩ := by
  cases shortString with
  | none =>
    simp only [Uuid.new, spelling, Option.getD_none]
    cases stringToBuffer longString <;> rfl
  | some short =>
    simp only [Uuid.new, spelling, Option.getD_some]
    cases stringToBuffer short <;> rfl

theorem new_strings {longString : Text} {shortString : Option Text} {uuid : Uuid}
    (made : Uuid.new longString shortString = .ok uuid) :
    uuid.longString = longString ∧ uuid.shortString = shortString ∧
      stringToBuffer (spelling longString shortString) = .ok uuid.buffer := by
  rw [new_eq] at made
  cases read : stringToBuffer (spelling longString shortString) with
  | error thrown =>
    rw [read] at made
    cases made
  | ok buffer =>
    rw [read] at made
    cases made
    exact ⟨rfl, rfl, rfl⟩

theorem new_of_buffer {longString : Text} {shortString : Option Text}
    {buffer : Option Buffer} (read : stringToBuffer (spelling longString shortString) = .ok buffer) :
    Uuid.new longString shortString = .ok ⟨longString, shortString, buffer⟩ := by
  rw [new_eq, read]
  rfl

/-- The object cached under a key. -/
def UuidStore.entry (store : UuidStore) (key : Text) : Option Uuid :=
  (store.uuids.lookup key).bind fun ref => store.objects[ref]?

section Calls

variable {store : UuidStore} {key : Text}

theorem cached_found {ref : UuidRef} (make : Except JsError Uuid)
    (found : store.uuids.lookup key = some ref) : store.cached key make = .ok (store, some ref) := by
  unfold UuidStore.cached
  rw [found]

theorem cached_failed {make : Except JsError Uuid} {thrown : JsError}
    (missing : store.uuids.lookup key = none) (failed : make = .error thrown) :
    store.cached key make = .error thrown := by
  unfold UuidStore.cached
  rw [missing, failed]
  rfl

theorem cached_made {make : Except JsError Uuid} {uuid : Uuid}
    (missing : store.uuids.lookup key = none) (made : make = .ok uuid) :
    store.cached key make =
      .ok (⟨store.objects ++ [uuid], (key, store.objects.length) :: store.uuids⟩,
        some store.objects.length) := by
  unfold UuidStore.cached
  rw [missing, made]
  rfl

theorem object_unknown {ref : UuidRef} (absent : store.objects[ref]? = none) :
    getUuid store (.object ref) = .ok (store, none) := by
  simp only [getUuid, absent]

theorem object_known {ref other : UuidRef} {uuid : Uuid} (present : store.objects[ref]? = some uuid)
    (found : store.uuids.lookup uuid.longString = some other) :
    getUuid store (.object ref) = .ok (store, some ref) := by
  simp only [getUuid, present, found]

theorem object_registered {ref : UuidRef} {uuid : Uuid} (present : store.objects[ref]? = some uuid)
    (missing : store.uuids.lookup uuid.longString = none) :
    getUuid store (.object ref) =
      .ok ({ store with uuids := (uuid.longString, ref) :: store.uuids }, some ref) := by
  simp only [getUuid, present, missing]

theorem entry_none_iff (consistent : store.Consistent) :
    store.entry key = none ↔ store.uuids.lookup key = none := by
  unfold UuidStore.entry
  cases found : store.uuids.lookup key with
  | none => simp
  | some ref =>
    rcases consistent.cached key ref found with ⟨uuid, inside, _⟩
    simp [inside]

theorem entry_made (consistent : store.Consistent) (uuid : Uuid) (other : Text) :
    UuidStore.entry ⟨store.objects ++ [uuid], (key, store.objects.length) :: store.uuids⟩ other =
      if other = key then some uuid else store.entry other := by
  unfold UuidStore.entry
  rw [List.lookup_cons]
  by_cases same : other = key
  · simp [same]
  · have differs : (other == key) = false := by simpa using same
    rw [differs, if_neg same]
    cases found : store.uuids.lookup other with
    | none => rfl
    | some ref =>
      rcases consistent.cached other ref found with ⟨earlier, inside, _⟩
      have bound := (List.getElem?_eq_some_iff.mp inside).1
      simp [List.getElem?_append_left bound]

theorem entry_registered (ref : UuidRef) (other : Text) :
    UuidStore.entry { store with uuids := (key, ref) :: store.uuids } other =
      if other = key then store.objects[ref]? else store.entry other := by
  unfold UuidStore.entry
  rw [List.lookup_cons]
  by_cases same : other = key
  · simp [same]
  · have differs : (other == key) = false := by simpa using same
    rw [differs, if_neg same]

theorem UuidStore.Consistent.insert (consistent : store.Consistent) (more : List Uuid)
    (made : ∀ uuid ∈ more, uuid.Made) (ref : UuidRef) {uuid : Uuid}
    (present : (store.objects ++ more)[ref]? = some uuid) (under : uuid.Under key) :
    UuidStore.Consistent ⟨store.objects ++ more, (key, ref) :: store.uuids⟩ where
  made other member := (List.mem_append.mp member).elim (consistent.made other) (made other)
  cached other found looked := by
    rw [List.lookup_cons] at looked
    by_cases same : other = key
    · have equal : (other == key) = true := by simpa using same
      rw [equal] at looked
      cases looked
      rw [same]
      exact ⟨uuid, present, under⟩
    · have differs : (other == key) = false := by simpa using same
      rw [differs] at looked
      rcases consistent.cached other found looked with ⟨earlier, inside, under⟩
      have bound := (List.getElem?_eq_some_iff.mp inside).1
      exact ⟨earlier, by rw [List.getElem?_append_left bound, inside], under⟩

end Calls

section Entries

variable (radix16 : ℚ → Text) {store : UuidStore} {input : UuidInput} {entry : UuidEntry}

theorem shortOf_marked (num : ℚ) :
    HasHexPrefix (shortOf radix16 num) ∧
      (upperText (shortOf radix16 num)).drop 2 = (shortOf radix16 num).drop 2 := by
  constructor
  · left
    rfl
  · rw [shortOf, upperText_append]
    show upperText (upperText _) = upperText _
    exact upperText_again _

/-- What a call makes is made as a parse function makes it, and goes under the key it is made for. -/
theorem entry_madeAs (found : input.entry radix16 = some entry) :
    MadeAs entry.longString entry.shortString ∧ (entry.key = entry.longString ∨
      ∃ string : JsString, string.units = entry.key ∧ entry.key.length = 36 ∧
        string.upperCase = entry.longString) := by
  cases input with
  | string value =>
    unfold UuidInput.entry at found
    by_cases long : value.units.length = 36
    · by_cases dashed : dash ∈ value.units
      · simp only [if_pos long, if_pos dashed, Option.some.injEq] at found
        subst found
        exact ⟨.long value long rfl, .inr ⟨value, rfl, long, rfl⟩⟩
      · simp [if_pos long, if_neg dashed] at found
    · by_cases short : IsShort value.units
      · simp only [if_neg long, if_pos short, Option.some.injEq] at found
        subst found
        exact ⟨.short value.units short.1 (congrArg shortToLong (value.ascii short.ascii)), .inl rfl⟩
      · simp [if_neg long, if_neg short] at found
  | number value =>
    cases value with
    | nan => cases found
    | infinite negative => cases found
    | finite num =>
      unfold UuidInput.entry at found
      by_cases range : 0 < num ∧ num ≤ 0xFFFF
      · simp only [if_pos range, Option.some.injEq] at found
        subst found
        rcases shortOf_marked radix16 num with ⟨marked, upper⟩
        refine ⟨.short _ marked ?_, .inl rfl⟩
        rw [shortToLong, shortToLong, upper]
      · simp [if_neg range] at found
  | buffer value =>
    cases found
    exact ⟨.turned value rfl, .inl rfl⟩
  | object ref => cases found

theorem made_of_entry (found : input.entry radix16 = some entry) {uuid : Uuid}
    (made : entry.make = .ok uuid) : uuid.Made ∧ uuid.Under entry.key := by
  rcases new_strings made with ⟨long, short, _⟩
  rcases entry_madeAs radix16 found with ⟨madeAs, under⟩
  refine ⟨⟨?_, ?_⟩, ?_⟩
  · rw [long, short]
    exact made
  · rw [long, short]
    exact madeAs
  · rw [Uuid.Under, long]
    exact under

/-- A call leaves the cache as it was, makes an object and enters it, or enters one that it is
    given. -/
theorem called_cases (store : UuidStore) (input : UuidInput) :
    store.called radix16 input = store ∨
      (∃ entry uuid, input.entry radix16 = some entry ∧ entry.make = .ok uuid ∧
        store.called radix16 input =
          ⟨store.objects ++ [uuid], (entry.key, store.objects.length) :: store.uuids⟩) ∨
      ∃ ref uuid, store.objects[ref]? = some uuid ∧
        store.called radix16 input = { store with uuids := (uuid.longString, ref) :: store.uuids } := by
  unfold UuidStore.called
  by_cases given : ∀ ref, input ≠ .object ref
  · cases found : input.entry radix16 with
    | none =>
      rw [getUuidFor_none radix16 store given found]
      exact .inl rfl
    | some entry =>
      rw [getUuidFor_some radix16 store found]
      cases looked : store.uuids.lookup entry.key with
      | some ref =>
        rw [cached_found _ looked]
        exact .inl rfl
      | none =>
        cases made : entry.make with
        | error thrown =>
          rw [cached_failed looked rfl]
          exact .inl rfl
        | ok uuid =>
          rw [cached_made looked rfl]
          exact .inr (.inl ⟨entry, uuid, rfl, made, rfl⟩)
  · rcases not_forall_not.mp given with ⟨ref, rfl⟩
    rw [getUuidFor]
    cases present : store.objects[ref]? with
    | none =>
      rw [object_unknown present]
      exact .inl rfl
    | some uuid =>
      cases looked : store.uuids.lookup uuid.longString with
      | some other =>
        rw [object_known present looked]
        exact .inl rfl
      | none =>
        rw [object_registered present looked]
        exact .inr (.inr ⟨ref, uuid, present, rfl⟩)

theorem called_consistent (consistent : store.Consistent) (input : UuidInput) :
    (store.called radix16 input).Consistent := by
  rcases called_cases radix16 store input with
    same | ⟨entry, uuid, found, made, same⟩ | ⟨ref, uuid, present, same⟩
  · rw [same]
    exact consistent
  · rcases made_of_entry radix16 found made with ⟨uuid_made, under⟩
    rw [same]
    exact consistent.insert [uuid] (by simpa using uuid_made) _ (by simp) under
  · have inserted := consistent.insert [] (by simp) ref (by simpa using present) (.inl rfl)
    rw [same]
    simpa using inserted

theorem cacheAfter_consistent (history : List UuidInput) :
    (cacheAfter radix16 history).Consistent := by
  have preserve : ∀ (store : UuidStore) input, store.Consistent →
      (store.called radix16 input).Consistent :=
    fun _ input consistent => called_consistent radix16 consistent input
  exact Memo.foldl_invariant preserve consistent_empty history

end Entries

end Btle.Server

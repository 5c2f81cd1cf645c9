import Btle.Library.Machine
import Btle.Server.UuidKeys

namespace Btle.Server

open Machine Utf16

def uuidStep : Step UuidStore UuidValue UuidRef JsError := fun store value =>
  match getUuid store value with
  | .error thrown => .error thrown
  | .ok (next, none) => .ok (next, [])
  | .ok (next, some ref) => .ok (next, [ref])

/-- Over a whole sequence of calls, two return the same object exactly if they denote the same
    UUID. -/
def Singletons (values : List UuidValue) : Prop :=
  ∃ store refs, run uuidStep .empty values = .ok (store, refs) ∧ refs.length = values.length ∧
    ∀ first ∈ values.zip refs, ∀ second ∈ values.zip refs,
      first.2 = second.2 ↔ denotes store first.1 = denotes store second.1

/-- A call that makes no second object: it is given one, its key is known, or no object of its
    UUID exists yet. -/
def Known (store : UuidStore) (value : UuidValue) : Prop :=
  match value with
  | .object _ => True
  | _ => (store.uuids.lookup (cacheKey value)).isSome ∨
      ∀ uuid ∈ store.objects, uuidNumber uuid.longString ≠ denotes store value

/-- Whatever the cache has under an ASCII key is an object of the UUID the key denotes. -/
def Sound (store : UuidStore) : Prop :=
  ∀ key ref, IsAscii key → store.uuids.lookup key = some ref →
    ∃ uuid, store.objects[ref]? = some uuid ∧ uuidNumber uuid.longString = uuidNumber key

def UuidStore.numbers (store : UuidStore) : List Nat :=
  store.objects.map fun uuid => uuidNumber uuid.longString

def Distinct (store : UuidStore) : Prop := store.numbers.Nodup

theorem sound_empty : Sound .empty := by
  intro key ref _ found
  cases found

theorem lookup_insert {key other : Text} {ref found : UuidRef}
    {uuids : List (Text × UuidRef)}
    (h : ((key, ref) :: uuids).lookup other = some found) :
    other = key ∧ found = ref ∨ uuids.lookup other = some found := by
  rw [List.lookup_cons] at h
  split at h
  · rename_i same
    cases h
    exact .inl ⟨by simpa using same, rfl⟩
  · exact .inr h

theorem Sound.insert {store : UuidStore} (sound : Sound store) (more : List Uuid)
    (key : Text) (ref : UuidRef)
    (present : ∃ uuid, (store.objects ++ more)[ref]? = some uuid ∧
      uuidNumber uuid.longString = uuidNumber key) :
    Sound ⟨store.objects ++ more, (key, ref) :: store.uuids⟩ := by
  intro other found ascii h
  rcases lookup_insert h with ⟨rfl, rfl⟩ | earlier
  · exact present
  · rcases sound other found ascii earlier with ⟨uuid, inside, same⟩
    have bound := (List.getElem?_eq_some_iff.mp inside).1
    exact ⟨uuid, by rw [List.getElem?_append_left bound, inside], same⟩

/-- What a call does: it returns an object there is, or makes one behind all others. -/
inductive Returned (store : UuidStore) (value : UuidValue) (next : UuidStore) (ref : UuidRef) : Prop
  | found (same : next.objects = store.objects)
      (present : store.numbers[ref]? = some (denotes store value)) (known : Known store value)
  | made (uuid : Uuid) (added : next.objects = store.objects ++ [uuid])
      (last : ref = store.objects.length)
      (number : uuidNumber uuid.longString = denotes store value)
      (known : Known store value ↔ denotes store value ∉ store.numbers)

theorem not_mem_numbers {store : UuidStore} {number : Nat} :
    number ∉ store.numbers ↔ ∀ uuid ∈ store.objects, uuidNumber uuid.longString ≠ number := by
  simp [UuidStore.numbers]

theorem uuidStep_returned {store : UuidStore} {value : UuidValue} (sound : Sound store)
    (valid : Valid store value) :
    ∃ next ref, uuidStep store value = .ok (next, [ref]) ∧ Sound next ∧
      Returned store value next ref := by
  by_cases representation : ∀ ref, value ≠ .object ref
  · rcases getUuid_cached valid representation with ⟨make, looked_up, ⟨uuid, made, number⟩, same⟩
    have knowing : Known store value ↔ (store.uuids.lookup (cacheKey value)).isSome ∨
        denotes store value ∉ store.numbers := by
      rw [not_mem_numbers]
      cases value with
      | object ref => exact absurd rfl (representation ref)
      | string | number | buffer => rfl
    cases cached : store.uuids.lookup (cacheKey value) with
    | some ref =>
      rcases sound _ _ (cacheKey_ascii valid) cached with ⟨uuid, inside, equal⟩
      refine ⟨store, ref, ?_, sound, .found rfl ?_ ?_⟩
      · simp only [uuidStep, looked_up, UuidStore.cached, cached]
      · rw [UuidStore.numbers, List.getElem?_map, inside, Option.map_some, equal, same]
      · exact knowing.mpr (.inl (by rw [cached]; rfl))
    | none =>
      refine ⟨_, store.objects.length, ?_, sound.insert [uuid] (cacheKey value)
        store.objects.length ⟨uuid, by simp, number⟩, .made uuid rfl rfl ?_ ?_⟩
      · simp only [uuidStep, looked_up, UuidStore.cached, cached, made, bind, Except.bind, pure,
          Except.pure]
      · rw [number, same]
      · rw [knowing, cached]
        simp
  · obtain ⟨ref, rfl⟩ : ∃ ref, value = .object ref := by simpa using representation
    have inside := List.getElem?_eq_getElem valid
    have present : store.numbers[ref]? = some (denotes store (.object ref)) := by
      simp only [UuidStore.numbers, List.getElem?_map, denotes, inside, Option.map_some,
        Option.getD_some]
    cases cached : store.uuids.lookup store.objects[ref].longString with
    | some other =>
      refine ⟨store, ref, ?_, sound, .found rfl present trivial⟩
      simp only [uuidStep, getUuid, inside, cached]
    | none =>
      have kept := sound.insert [] store.objects[ref].longString ref
        ⟨store.objects[ref], by rw [List.append_nil, inside], rfl⟩
      rw [List.append_nil] at kept
      refine ⟨_, ref, ?_, kept, .found rfl present trivial⟩
      simp only [uuidStep, getUuid, inside, cached]

theorem distinct_step {store next : UuidStore} {value : UuidValue} {ref : UuidRef}
    (returned : Returned store value next ref) :
    Distinct next ↔ Distinct store ∧ Known store value := by
  cases returned with
  | found same _ known =>
    have equal : next.numbers = store.numbers := by rw [UuidStore.numbers, same]; rfl
    unfold Distinct
    rw [equal]
    exact (and_iff_left known).symm
  | made uuid added _ number known =>
    have equal : next.numbers = store.numbers ++ [denotes store value] := by
      rw [UuidStore.numbers, added, List.map_append, List.map_singleton, number]
      rfl
    unfold Distinct
    rw [known, equal, List.nodup_append]
    constructor
    · intro appended
      rcases appended with ⟨distinct, _, apart⟩
      exact ⟨distinct, fun inside => apart _ inside _ (by simp) rfl⟩
    · intro both
      rcases both with ⟨distinct, fresh⟩
      refine ⟨distinct, by simp, ?_⟩
      intro first inside second single
      rw [List.mem_singleton.mp single]
      intro same
      subst same
      exact fresh inside

theorem Returned.grows {store next : UuidStore} {value : UuidValue} {ref : UuidRef}
    (returned : Returned store value next ref) : store.objects <+: next.objects := by
  cases returned with
  | found same => rw [same]
  | made uuid added => exact ⟨[uuid], added.symm⟩

theorem Returned.number {store next : UuidStore} {value : UuidValue} {ref : UuidRef}
    (returned : Returned store value next ref) :
    next.numbers[ref]? = some (denotes store value) := by
  cases returned with
  | found same present =>
    rw [UuidStore.numbers, same]
    exact present
  | made uuid added last number =>
    rw [UuidStore.numbers, added, last, List.getElem?_map, List.getElem?_concat_length,
      Option.map_some, number]

theorem numbers_grow {store next : UuidStore} (grows : store.objects <+: next.objects) {ref : UuidRef}
    {number : Nat} (present : store.numbers[ref]? = some number) :
    next.numbers[ref]? = some number := by
  rcases grows with ⟨more, added⟩
  unfold UuidStore.numbers at *
  have bound := (List.getElem?_eq_some_iff.mp present).1
  rw [← added, List.map_append, List.getElem?_append_left bound]
  exact present

theorem denotes_grow {store next : UuidStore} (grows : store.objects <+: next.objects)
    {value : UuidValue} (valid : Valid store value) : denotes next value = denotes store value := by
  cases value with
  | string | number | buffer => rfl
  | object ref =>
    rcases grows with ⟨more, added⟩
    simp only [denotes, ← added, List.getElem?_append_left valid]

/-- What a whole sequence of calls leaves: every result is an object of the UUID that was denoted,
    every new object is a result, and objects stay distinct exactly as long as calls are known. -/
theorem run_returned {store : UuidStore} (sound : Sound store) (values : List UuidValue)
    (valid : ∀ taken ∈ visited uuidStep store values, Valid taken.1 taken.2) :
    ∃ last refs, run uuidStep store values = .ok (last, refs) ∧
      store.objects <+: last.objects ∧
      List.Forall₂ (fun value ref => last.numbers[ref]? = some (denotes last value)) values refs ∧
      (∀ ref, store.objects.length ≤ ref → ref < last.objects.length → ref ∈ refs) ∧
      (Distinct last ↔
        Distinct store ∧ ∀ taken ∈ visited uuidStep store values, Known taken.1 taken.2) := by
  induction values generalizing store with
  | nil =>
    refine ⟨store, [], rfl, List.prefix_refl _, .nil, ?_, by simp [visited]⟩
    intro ref least inside
    omega
  | cons value values ih =>
    have here : Valid store value := valid (store, value) (by simp [visited])
    rcases uuidStep_returned sound here with ⟨next, ref, stepped, next_sound, returned⟩
    have onward : visited uuidStep store (value :: values) =
        (store, value) :: visited uuidStep next values := by
      simp only [visited, stepped]
    rw [onward] at valid
    obtain ⟨last, refs, ran, grows, answers, all, distinct⟩ :=
      ih next_sound fun taken member => valid taken (List.mem_cons_of_mem _ member)
    refine ⟨last, ref :: refs, run_cons_of_step stepped ran, returned.grows.trans grows, ?_, ?_, ?_⟩
    · refine .cons ?_ answers
      rw [denotes_grow (returned.grows.trans grows) here]
      exact numbers_grow grows returned.number
    · intro other least inside
      by_cases later : next.objects.length ≤ other
      · exact List.mem_cons_of_mem _ (all other later inside)
      · cases returned with
        | found same =>
          rw [same] at later
          omega
        | made uuid added last =>
          rw [added, List.length_append, List.length_singleton] at later
          have equal : other = store.objects.length := by omega
          rw [equal, ← last]
          exact List.mem_cons_self
    · rw [distinct, distinct_step returned, onward, List.forall_mem_cons, and_assoc]

theorem singletons_iff_distinct {store : UuidStore} {values : List UuidValue} {refs : List UuidRef}
    (answers : List.Forall₂ (fun value ref => store.numbers[ref]? = some (denotes store value))
      values refs)
    (all : ∀ ref < store.objects.length, ref ∈ refs) :
    (∀ first ∈ values.zip refs, ∀ second ∈ values.zip refs,
      first.2 = second.2 ↔ denotes store first.1 = denotes store second.1) ↔ Distinct store := by
  have number {answer : UuidValue × UuidRef} (member : answer ∈ values.zip refs) :
      store.numbers[answer.2]? = some (denotes store answer.1) := List.forall₂_zip answers member
  have size : store.numbers.length = store.objects.length := List.length_map _
  constructor
  · intro same
    apply List.nodup_iff_injective_get.mpr
    intro first second equal
    have given (ref : Fin store.numbers.length) : ∃ value, (value, ref.val) ∈ values.zip refs := by
      have result := all ref.val (size ▸ ref.isLt)
      rw [← List.unzip_zip_right answers.length_eq.ge, List.unzip_snd] at result
      rcases List.mem_map.mp result with ⟨⟨value, _⟩, member, rfl⟩
      exact ⟨value, member⟩
    rcases given first with ⟨value, first_given⟩
    rcases given second with ⟨other, second_given⟩
    have denoted := number first_given
    have other_denoted := number second_given
    apply Fin.ext
    apply (same _ first_given _ second_given).mpr
    simp only [List.get_eq_getElem] at equal
    rw [List.getElem?_eq_getElem first.isLt] at denoted
    rw [List.getElem?_eq_getElem second.isLt] at other_denoted
    exact Option.some.inj (by rw [← denoted, ← other_denoted, equal])
  · intro distinct first first_given second second_given
    have denoted := number first_given
    have other_denoted := number second_given
    constructor
    · intro equal
      rw [equal, other_denoted] at denoted
      exact (Option.some.inj denoted).symm
    · intro equal
      rw [← equal, ← denoted] at other_denoted
      have bound := (List.getElem?_eq_some_iff.mp denoted).1
      exact (List.getElem?_inj bound distinct).mp other_denoted.symm

/-- Equal UUIDs are one object as long as, and only as long as, each call finds its own key in
    the cache or is the first for its UUID: the formats do not agree on letter case and padding
    of their keys. -/
theorem singletons_iff (values : List UuidValue)
    (valid : ∀ taken ∈ visited uuidStep .empty values, Valid taken.1 taken.2) :
    Singletons values ↔ ∀ taken ∈ visited uuidStep .empty values, Known taken.1 taken.2 := by
  obtain ⟨last, refs, ran, _, answers, all, known⟩ :=
    run_returned sound_empty values valid
  have calls := known.trans (and_iff_right List.nodup_nil)
  rw [← calls, ← singletons_iff_distinct answers fun ref inside => all ref (Nat.zero_le ref) inside]
  constructor
  · intro singletons
    rcases singletons with ⟨store, results, again, _, same⟩
    rw [ran] at again
    cases again
    exact same
  · intro same
    exact ⟨last, refs, ran, answers.length_eq.symm, same⟩

/-- A short string and the bytes of the same UUID make two objects: one key ends in upper, the
    other in lower case. -/
theorem string_and_buffer_differ :
    ¬ Singletons [.string (.of "0x2A00"), .buffer [0x00, 0x2A]] := by
  intro singletons
  rcases singletons with ⟨store, refs, ran, _, same⟩
  cases ran
  have equal := (same _ (.head _) _ (.tail _ (.head _))).mpr (by decide)
  exact absurd equal (by decide)

theorem singletons_iff_sample :
    Singletons [.string (.of "0x24A0"), .number 0x24A0, .object 0] ↔
      ∀ taken ∈ visited uuidStep .empty [.string (.of "0x24A0"), .number 0x24A0, .object 0],
        Known taken.1 taken.2 :=
  singletons_iff _ (List.forall_mem_cons.mpr ⟨.inl (by decide),
    List.forall_mem_cons.mpr ⟨⟨Nat.le_add_left 1 _, by norm_num⟩,
      List.forall_mem_cons.mpr ⟨Nat.zero_lt_one, by nofun⟩⟩⟩)

end Btle.Server

import Btle.Server.HandleTable
import Btle.Server.Placement

namespace Btle.Server.Construction

open Throwing

/-- The table behind `handles.splice(old, 1)`, which an attribute without a handle leaves out. -/
def spliceAt (slots : List (Option AttrRef)) : Option Nat → List (Option AttrRef)
  | none => slots
  | some old => slots.eraseIdx old

def spliceAll (slots : List (Option AttrRef)) (olds : List (Option Nat)) : List (Option AttrRef) :=
  olds.foldl spliceAt slots

/-- An attribute that is moved, with what it is spliced out by. -/
abbrev Move := AttrRef × Option Nat

/-- What becomes of the table when attributes are moved, one after the other, to places in a row. -/
def seat (slots : List (Option AttrRef)) (place : Nat) : List Move → List (Option AttrRef)
  | [] => slots
  | (ref, old) :: moves => seat (setSlot (spliceAt slots old) place ref) (place + 1) moves

/-- Each place in the row is free once those before it are spliced. -/
def Free (slots : List (Option AttrRef)) (place : Nat) (olds : List (Option Nat)) : Prop :=
  ∀ i < olds.length, slotAt (spliceAll slots (olds.take i)) (place + i) = none

/-- No splice is made before the place that comes next. -/
def Above (place : Nat) (olds : List (Option Nat)) : Prop :=
  ∀ i old, olds[i]? = some (some old) → place + i ≤ old

def AgreeFrom (place : Nat) (slots others : List (Option AttrRef)) : Prop :=
  ∀ slot, place ≤ slot → slotAt slots slot = slotAt others slot

section Slots

variable {slots others : List (Option AttrRef)} {place slot : Nat} {ref : AttrRef}
  {old : Option Nat} {olds : List (Option Nat)} {moves : List Move}

theorem slotAt_spliceAt_below (below : ∀ index, old = some index → slot < index) :
    slotAt (spliceAt slots old) slot = slotAt slots slot := by
  cases old with
  | none => rfl
  | some index => rw [spliceAt, slotAt_eraseIdx, if_pos (below index rfl)]

theorem slotAt_spliceAt (slots : List (Option AttrRef)) (old : Option Nat) (slot : Nat) :
    slotAt (spliceAt slots old) slot = slotAt slots slot ∨
      slotAt (spliceAt slots old) slot = slotAt slots (slot + 1) := by
  cases old with
  | none => exact .inl rfl
  | some index =>
    rw [spliceAt, slotAt_eraseIdx]
    split
    · exact .inl rfl
    · exact .inr rfl

theorem AgreeFrom.spliceAt (agree : AgreeFrom place slots others) (old : Option Nat) :
    AgreeFrom place (spliceAt slots old) (spliceAt others old) := by
  intro slot above
  cases old with
  | none => exact agree slot above
  | some index =>
    rw [Construction.spliceAt, Construction.spliceAt, slotAt_eraseIdx, slotAt_eraseIdx,
      agree slot above, agree (slot + 1) (Nat.le_succ_of_le above)]

theorem agreeFrom_setSlot (slots : List (Option AttrRef)) (place : Nat) (ref : AttrRef) :
    AgreeFrom (place + 1) (setSlot slots place ref) slots := by
  intro slot above
  rw [slotAt_setSlot, if_neg (Nat.ne_of_gt above)]

theorem AgreeFrom.later (agree : AgreeFrom place slots others) : AgreeFrom (place + 1) slots others :=
  fun slot above => agree slot (Nat.le_of_succ_le above)

theorem AgreeFrom.trans {last : List (Option AttrRef)} (first : AgreeFrom place slots others)
    (second : AgreeFrom place others last) : AgreeFrom place slots last :=
  fun slot above => (first slot above).trans (second slot above)

/-- What is seated at a place takes no part in what happens behind it. -/
theorem AgreeFrom.seated (agree : AgreeFrom place slots others) (ref : AttrRef) (old : Option Nat) :
    AgreeFrom (place + 1) (setSlot (Construction.spliceAt slots old) place ref)
      (Construction.spliceAt others old) :=
  (agreeFrom_setSlot _ _ _).trans (agree.spliceAt old).later

theorem free_cons : Free slots place (old :: olds) ↔
    slotAt slots place = none ∧ Free (spliceAt slots old) (place + 1) olds := by
  unfold Free
  rw [List.length_cons]
  constructor
  · intro free
    refine ⟨free 0 (Nat.succ_pos _), fun i inside => ?_⟩
    have later := free (i + 1) (Nat.succ_lt_succ inside)
    rwa [Nat.add_right_comm, Nat.add_assoc] at *
  · rintro ⟨first, rest⟩ i inside
    cases i with
    | zero => exact first
    | succ i =>
      have later := rest i (Nat.lt_of_succ_lt_succ inside)
      rwa [Nat.add_right_comm, Nat.add_assoc] at *

theorem free_congr (agree : AgreeFrom place slots others) :
    Free slots place olds ↔ Free others place olds := by
  induction olds generalizing slots others place with
  | nil => exact iff_of_true (fun _ => nofun) (fun _ => nofun)
  | cons old olds ih =>
    rw [free_cons, free_cons, agree place le_rfl, ih (agree.spliceAt old).later]

theorem above_cons : Above place (old :: olds) ↔
    (∀ index, old = some index → place ≤ index) ∧ Above (place + 1) olds := by
  unfold Above
  constructor
  · intro above
    refine ⟨fun index same => above 0 index (by rw [same]; rfl), fun i index found => ?_⟩
    have later := above (i + 1) index found
    omega
  · rintro ⟨first, rest⟩ i index found
    cases i with
    | zero => exact first index (Option.some.inj found)
    | succ i =>
      have later := rest i index found
      omega

theorem Above.tail (above : Above place olds) : Above (place + 1) olds.tail := by
  intro i index found
  rw [List.getElem?_tail] at found
  have bound := above (i + 1) index found
  omega

theorem seat_agree (agree : AgreeFrom place slots others) :
    AgreeFrom (place + moves.length) (seat slots place moves) (spliceAll others (moves.map Prod.snd)) := by
  induction moves generalizing slots others place with
  | nil => exact agree
  | cons move moves ih =>
    obtain ⟨ref, old⟩ := move
    have rest := ih (agree.seated ref old)
    rwa [Nat.add_right_comm, Nat.add_assoc] at rest

theorem seat_below (above : Above place (moves.map Prod.snd)) (below : slot < place) :
    slotAt (seat slots place moves) slot = slotAt slots slot := by
  induction moves generalizing slots place with
  | nil => rfl
  | cons move moves ih =>
    obtain ⟨ref, old⟩ := move
    rw [List.map_cons, above_cons] at above
    obtain ⟨first, rest⟩ := above
    rw [seat, ih rest (Nat.lt_succ_of_lt below), slotAt_setSlot, if_neg (Nat.ne_of_lt below)]
    exact slotAt_spliceAt_below fun index same => Nat.lt_of_lt_of_le below (first index same)

theorem spliceAll_below (above : Above place olds) (below : slot < place) :
    slotAt (spliceAll slots olds) slot = slotAt slots slot := by
  induction olds generalizing slots place with
  | nil => rfl
  | cons old olds ih =>
    rw [above_cons] at above
    obtain ⟨first, rest⟩ := above
    rw [spliceAll, List.foldl_cons, ← spliceAll, ih rest (Nat.lt_succ_of_lt below)]
    exact slotAt_spliceAt_below fun index same => Nat.lt_of_lt_of_le below (first index same)

/-- Where all splices behind the first are made at or above their places, everyone keeps the place. -/
theorem seat_keeps (above : Above (place + 1) (moves.map Prod.snd).tail) {i : Nat} {move : Move}
    (found : moves[i]? = some move) : slotAt (seat slots place moves) (place + i) = some move.1 := by
  induction moves generalizing slots place i with
  | nil => cases found
  | cons head moves ih =>
    obtain ⟨ref, old⟩ := head
    rw [List.map_cons, List.tail_cons] at above
    cases i with
    | zero =>
      cases found
      rw [Nat.add_zero, seat, seat_below above (Nat.lt_succ_self _), slotAt_setSlot, if_pos rfl]
    | succ i =>
      have rest : slotAt (seat (setSlot (spliceAt slots old) place ref) (place + 1) moves)
          (place + 1 + i) = some move.1 := ih above.tail found
      rwa [Nat.add_right_comm, Nat.add_assoc] at rest

/-- Who is nowhere between a low place and the next one, and is not moved, does not get there. -/
theorem seat_stays_away {low : Nat} (free : Free slots place (moves.map Prod.snd))
    (unmoved : ∀ move ∈ moves, move.1 ≠ ref)
    (away : ∀ slot, low ≤ slot → slot < place → slotAt slots slot ≠ some ref) :
    ∀ slot, low ≤ slot → slot < place + moves.length →
      slotAt (seat slots place moves) slot ≠ some ref := by
  induction moves generalizing slots place with
  | nil => exact away
  | cons move moves ih =>
    obtain ⟨moved, old⟩ := move
    rw [List.map_cons, free_cons] at free
    obtain ⟨first, rest⟩ := free
    have behind : Free (setSlot (spliceAt slots old) place moved) (place + 1) (moves.map Prod.snd) :=
      (free_congr (agreeFrom_setSlot _ _ _)).mpr rest
    have still : ∀ slot, low ≤ slot → slot < place + 1 →
        slotAt (setSlot (spliceAt slots old) place moved) slot ≠ some ref := by
      intro slot at_least below
      rw [slotAt_setSlot]
      split
      · intro same
        exact unmoved (moved, old) List.mem_cons_self (Option.some.inj same)
      · rename_i elsewhere
        rcases slotAt_spliceAt slots old slot with same | same
        · rw [same]
          exact away slot at_least (by omega)
        · rw [same]
          by_cases next : slot + 1 = place
          · rw [next, first]
            exact nofun
          · exact away (slot + 1) (by omega) (by omega)
    have rest := ih behind (fun move member => unmoved move (List.mem_cons_of_mem _ member)) still
    rwa [Nat.add_right_comm, Nat.add_assoc] at rest

/-- A splice below the place that comes next takes the one who has just been seated away. -/
theorem above_of_seated (free : Free slots place (moves.map Prod.snd))
    (distinct : (moves.map Prod.fst).Nodup)
    (seated : ∀ i move, moves[i]? = some move → slotAt (seat slots place moves) (place + i) = some move.1) :
    Above (place + 1) (moves.map Prod.snd).tail := by
  induction moves generalizing slots place with
  | nil => exact fun _ _ found => by cases found
  | cons head moves ih =>
    obtain ⟨ref, old⟩ := head
    rw [List.map_cons, free_cons] at free
    obtain ⟨first, rest⟩ := free
    rw [List.map_cons, List.nodup_cons] at distinct
    obtain ⟨fresh, distinct⟩ := distinct
    have behind : Free (setSlot (spliceAt slots old) place ref) (place + 1) (moves.map Prod.snd) :=
      (free_congr (agreeFrom_setSlot _ _ _)).mpr rest
    have onward := ih behind distinct fun i move found => by
      have later := seated (i + 1) move found
      rwa [Nat.add_right_comm, Nat.add_assoc]
    rw [List.map_cons, List.tail_cons]
    cases moves with
    | nil => exact fun _ _ found => by cases found
    | cons next moves =>
      obtain ⟨other, index⟩ := next
      rw [List.map_cons, above_cons]
      refine ⟨?_, onward⟩
      intro spliced (same : index = some spliced)
      by_contra early
      rw [List.map_cons, free_cons] at behind
      obtain ⟨vacant, behind⟩ := behind
      have apart : ref ≠ other := fun equal => fresh (by rw [equal]; simp)
      have gone : ∀ slot, place ≤ slot → slot < place + 1 + 1 →
          slotAt (setSlot (spliceAt (setSlot (spliceAt slots old) place ref) index) (place + 1) other)
            slot ≠ some ref := by
        intro slot at_least below
        rw [slotAt_setSlot]
        split
        · intro equal
          exact apart (Option.some.inj equal).symm
        · have here : slot = place := by omega
          have shifted : ¬ place < spliced := by omega
          rw [here, same, spliceAt, slotAt_eraseIdx, if_neg shifted, vacant]
          exact nofun
      have unmoved : ∀ move ∈ moves, move.1 ≠ ref := by
        intro move member equal
        apply fresh
        rw [List.map_cons]
        exact List.mem_cons_of_mem _ (List.mem_map.mpr ⟨move, member, equal⟩)
      have lost := seat_stays_away ((free_congr (agreeFrom_setSlot _ _ _)).mpr behind) unmoved gone place
        le_rfl (by omega)
      exact lost (seated 0 (ref, old) rfl)

end Slots

/-- The index at which the setter of `handle` splices for an attribute that had this handle. -/
def oldIndex (runtime : Runtime) : Handle → Option Nat
  | .undefined | .given .null => none
  | .nan => some 0
  | .given (.number old) => some old
  | .given old => some (runtime.start old)

def oldsOf (runtime : Runtime) (registry : Registry) (refs : List AttrRef) : List (Option Nat) :=
  refs.map fun ref => oldIndex runtime (registry.item ref).handle

def movesOf (runtime : Runtime) (registry : Registry) (refs : List AttrRef) : List Move :=
  refs.map fun ref => (ref, oldIndex runtime (registry.item ref).handle)

def Registry.seated (runtime : Runtime) (registry : Registry) (ref : AttrRef) (place : Nat) : Registry :=
  ((registry.spliced runtime (registry.item ref).handle).enter ref (.index place)).setItem ref
    { registry.item ref with handle := .given (.number place) }

section Places

variable {runtime : Runtime} {registry next : Registry} {ref : AttrRef} {refs : List AttrRef} {n : Nat}

theorem spliced_slots (handle : Handle) :
    (registry.spliced runtime handle).slots = spliceAt registry.slots (oldIndex runtime handle) := by
  cases handle with
  | undefined | nan => rfl
  | given value => cases value <;> rfl

theorem seated_slots : (registry.seated runtime ref n).slots =
    setSlot (spliceAt registry.slots (oldIndex runtime (registry.item ref).handle)) n ref := by
  rw [← spliced_slots]
  rfl

theorem seated_item (other : AttrRef) : (registry.seated runtime ref n).item other =
    if other = ref then { registry.item ref with handle := .given (.number n) }
    else registry.item other := by
  unfold Registry.seated Registry.setItem
  dsimp only
  rw [enter_item, spliced_item, Function.update_apply]

theorem setHandle_seats (free : slotAt registry.slots (n + 1) = none) :
    (setHandle runtime ref (.given (.number (n + 1)))).run registry =
      .ok () (registry.seated runtime ref (n + 1)) := by
  have unused : registry.has runtime (.index (n + 1)) = false := by
    rw [Registry.has, free]
    rfl
  simp only [setHandle, truthy, if_true, EStateM.run_bind, EStateM.run_get, keyOf, Build.ofExcept,
    EStateM.run_pure, unused, Bool.false_eq_true, if_false, EStateM.run_modify, changeItem]
  unfold Registry.seated
  rw [enter_item, spliced_item]

theorem setHandle_refuses {other : AttrRef} (taken : slotAt registry.slots (n + 1) = some other) :
    ∃ thrown, (setHandle runtime ref (.given (.number (n + 1)))).run registry =
      .error thrown registry := by
  have used : registry.has runtime (.index (n + 1)) = true := by
    rw [Registry.has, taken]
    rfl
  simp only [setHandle, truthy, if_true, EStateM.run_bind, EStateM.run_get, keyOf, Build.ofExcept,
    EStateM.run_pure, used]
  exact ⟨_, rfl⟩

theorem movesOf_seated (fresh : ref ∉ refs) :
    movesOf runtime (registry.seated runtime ref n) refs = movesOf runtime registry refs := by
  apply List.map_congr_left
  intro other member
  have apart : other ≠ ref := fun same => fresh (same ▸ member)
  rw [seated_item, if_neg apart]

theorem movesOf_olds (runtime : Runtime) (registry : Registry) (refs : List AttrRef) :
    (movesOf runtime registry refs).map Prod.snd = oldsOf runtime registry refs := by
  rw [movesOf, List.map_map]
  rfl

theorem movesOf_refs (runtime : Runtime) (registry : Registry) (refs : List AttrRef) :
    (movesOf runtime registry refs).map Prod.fst = refs := by
  rw [movesOf, List.map_map]
  exact List.map_id' refs

theorem oldsOf_seated (fresh : ref ∉ refs) :
    oldsOf runtime (registry.seated runtime ref n) refs = oldsOf runtime registry refs := by
  rw [← movesOf_olds, movesOf_seated fresh, movesOf_olds]

variable {handle offset : Nat}

theorem placeAttributes_seats (positive : 1 ≤ handle)
    (free : slotAt registry.slots (handle + offset) = none) :
    (placeAttributes runtime (some handle) offset (ref :: refs)).run registry =
      (placeAttributes runtime (some handle) (offset + 1) refs).run
        (registry.seated runtime ref (handle + offset)) := by
  obtain ⟨n, same⟩ : ∃ n, handle + offset = n + 1 := ⟨handle + offset - 1, by omega⟩
  rw [placeAttributes, EStateM.run_bind, Option.map_some, Handle.ofNumber, same,
    setHandle_seats (by rwa [← same])]

theorem placeAttributes_refuses (positive : 1 ≤ handle) {other : AttrRef}
    (taken : slotAt registry.slots (handle + offset) = some other) :
    ∃ thrown, (placeAttributes runtime (some handle) offset (ref :: refs)).run registry =
      .error thrown registry := by
  obtain ⟨n, same⟩ : ∃ n, handle + offset = n + 1 := ⟨handle + offset - 1, by omega⟩
  rw [same] at taken
  obtain ⟨thrown, refused⟩ := setHandle_refuses taken
  refine ⟨thrown, ?_⟩
  rw [placeAttributes, EStateM.run_bind, Option.map_some, Handle.ofNumber, same, refused]

/-- All attributes are placed exactly if all places are free in their turn. -/
theorem placeAttributes_ok_iff (positive : 1 ≤ handle) (distinct : refs.Nodup) :
    (∃ next, (placeAttributes runtime (some handle) offset refs).run registry = .ok () next) ↔
      Free registry.slots (handle + offset) (oldsOf runtime registry refs) := by
  induction refs generalizing registry offset with
  | nil => exact iff_of_true ⟨registry, rfl⟩ (fun _ => nofun)
  | cons ref refs ih =>
    rw [List.nodup_cons] at distinct
    obtain ⟨fresh, distinct⟩ := distinct
    rw [oldsOf, List.map_cons, ← oldsOf, free_cons]
    cases slot : slotAt registry.slots (handle + offset) with
    | some other =>
      obtain ⟨thrown, refused⟩ := placeAttributes_refuses positive slot
      rw [refused]
      exact iff_of_false nofun nofun
    | none =>
      rw [placeAttributes_seats positive slot, ih distinct, oldsOf_seated fresh, seated_slots, ← Nat.add_assoc,
        free_congr (agreeFrom_setSlot _ _ _)]
      exact (and_iff_right rfl).symm

theorem placeAttributes_placed (positive : 1 ≤ handle) (distinct : refs.Nodup) {done : Unit}
    (ran : (placeAttributes runtime (some handle) offset refs).run registry = .ok done next) :
    next.slots = seat registry.slots (handle + offset) (movesOf runtime registry refs) ∧
      ∀ i ref, refs[i]? = some ref → (next.item ref).handle = .given (.number (handle + offset + i)) := by
  induction refs generalizing registry offset with
  | nil =>
    cases ran
    exact ⟨rfl, fun i ref found => by cases found⟩
  | cons ref refs ih =>
    rw [List.nodup_cons] at distinct
    obtain ⟨fresh, distinct⟩ := distinct
    cases slot : slotAt registry.slots (handle + offset) with
    | some other =>
      obtain ⟨thrown, refused⟩ := placeAttributes_refuses positive slot
      rw [refused] at ran
      cases ran
    | none =>
      rw [placeAttributes_seats positive slot] at ran
      obtain ⟨slots, handles⟩ := ih distinct ran
      constructor
      · rw [slots, movesOf_seated fresh, seated_slots]
        rfl
      · intro i other found
        cases i with
        | zero =>
          cases found
          rw [(placeAttributes_confined ran).item ref fresh, seated_item, if_pos rfl]
          rfl
        | succ i =>
          rw [handles i other found]
          congr 2
          omega

/-- Whoever has been placed has a handle from the place on, if placed twice the later one. -/
theorem placeAttributes_from (positive : 1 ≤ handle) {done : Unit}
    (ran : (placeAttributes runtime (some handle) offset refs).run registry = .ok done next) :
    ∀ other ∈ refs, ∃ index, (next.item other).handle = .given (.number index) ∧
      handle + offset ≤ index := by
  induction refs generalizing registry offset with
  | nil => simp
  | cons ref refs ih =>
    cases slot : slotAt registry.slots (handle + offset) with
    | some holder =>
      obtain ⟨_, refused⟩ := placeAttributes_refuses positive slot
      rw [refused] at ran
      cases ran
    | none =>
      rw [placeAttributes_seats positive slot] at ran
      intro other member
      by_cases later : other ∈ refs
      · obtain ⟨index, has, above⟩ := ih ran other later
        exact ⟨index, has, Nat.le_of_succ_le above⟩
      · obtain rfl : other = ref := (List.mem_cons.mp member).resolve_right later
        refine ⟨handle + offset, ?_, le_rfl⟩
        rw [(placeAttributes_confined ran).item other later, seated_item, if_pos rfl]

/-- Where nobody is spliced out below a place, the table below it stays as it is. -/
theorem placeAttributes_low (positive : 1 ≤ handle) {done : Unit}
    (ran : (placeAttributes runtime (some handle) offset refs).run registry = .ok done next) {low : Nat}
    (start : low ≤ handle + offset) (olds : ∀ other ∈ refs, ∀ index,
      oldIndex runtime (registry.item other).handle = some index → low ≤ index) {slot : Nat}
    (below : slot < low) : slotAt next.slots slot = slotAt registry.slots slot := by
  induction refs generalizing registry offset with
  | nil =>
    cases ran
    rfl
  | cons ref refs ih =>
    cases taken : slotAt registry.slots (handle + offset) with
    | some holder =>
      obtain ⟨_, refused⟩ := placeAttributes_refuses positive taken
      rw [refused] at ran
      cases ran
    | none =>
      rw [placeAttributes_seats positive taken] at ran
      have later : ∀ other ∈ refs, ∀ index,
          oldIndex runtime ((registry.seated runtime ref (handle + offset)).item other).handle =
            some index → low ≤ index := by
        intro other member index spliced
        rw [seated_item] at spliced
        split at spliced
        · cases spliced
          exact start
        · exact olds other (List.mem_cons_of_mem _ member) index spliced
      have elsewhere : slot ≠ handle + offset := Nat.ne_of_lt (Nat.lt_of_lt_of_le below start)
      rw [ih ran (Nat.le_succ_of_le start) later, seated_slots, slotAt_setSlot, if_neg elsewhere]
      apply slotAt_spliceAt_below
      exact fun index spliced => Nat.lt_of_lt_of_le below (olds ref List.mem_cons_self index spliced)

/-- What stops has placed those that come first. -/
theorem placeAttributes_stopped (positive : 1 ≤ handle) {thrown : JsError}
    (ran : (placeAttributes runtime (some handle) offset refs).run registry = .error thrown next) :
    ∃ placed rest, refs = placed ++ rest ∧
      (placeAttributes runtime (some handle) offset placed).run registry = .ok () next := by
  induction refs generalizing registry offset with
  | nil => cases ran
  | cons ref refs ih =>
    cases taken : slotAt registry.slots (handle + offset) with
    | some holder =>
      obtain ⟨_, refused⟩ := placeAttributes_refuses positive taken
      rw [refused] at ran
      cases ran
      exact ⟨[], ref :: refs, rfl, rfl⟩
    | none =>
      rw [placeAttributes_seats positive taken] at ran
      obtain ⟨placed, rest, rfl, earlier⟩ := ih ran
      refine ⟨ref :: placed, rest, rfl, ?_⟩
      rw [placeAttributes_seats positive taken]
      exact earlier

/-- The attribute that comes first stays where it was put, if the rest stops with its handles of
    before: those have been placed behind it, so they have been spliced out behind it. -/
theorem placeAttributes_stopped_first (positive : 1 ≤ handle) (fresh : ref ∉ refs)
    {thrown : JsError} (free : slotAt registry.slots (handle + offset) = none)
    (ran : (placeAttributes runtime (some handle) offset (ref :: refs)).run registry =
      .error thrown next)
    (unmoved : ∀ other ∈ ref :: refs, (next.item other).handle = (registry.item other).handle) :
    slotAt next.slots (handle + offset) = some ref := by
  rw [placeAttributes_seats positive free] at ran
  obtain ⟨placed, rest, rfl, earlier⟩ := placeAttributes_stopped positive ran
  have behind : ∀ other ∈ placed, ∀ index,
      oldIndex runtime ((registry.seated runtime ref (handle + offset)).item other).handle =
        some index → handle + offset + 1 ≤ index := by
    intro other member index spliced
    have inside : other ∈ placed ++ rest := List.mem_append_left _ member
    have apart : other ≠ ref := fun same => fresh (same ▸ inside)
    obtain ⟨place, has, above⟩ := placeAttributes_from positive earlier other member
    rw [seated_item, if_neg apart, ← unmoved other (List.mem_cons_of_mem _ inside), has] at spliced
    cases spliced
    exact above
  have below : handle + offset < handle + (offset + 1) := Nat.lt_succ_self _
  rw [placeAttributes_low positive earlier le_rfl behind below, seated_slots, slotAt_setSlot,
    if_pos rfl]

end Places

section Characteristics

variable (runtime : Runtime) (registry : Registry) (characteristic : Characteristic) (handle : Nat)

def Blocked : Prop :=
  ∃ i < characteristic.attributes.length, ∃ ref,
    slotAt registry.slots (handle + i) = some ref ∧ ref ∉ characteristic.attributes

/-- The characteristic has these handles, and is at them and nowhere else in the table. -/
structure Occupies : Prop where
  handles : ∀ i ref, characteristic.attributes[i]? = some ref →
    (registry.item ref).handle = .given (.number (handle + i))
  slots : ∀ i ref, characteristic.attributes[i]? = some ref →
    slotAt registry.slots (handle + i) = some ref
  only : ∀ slot, ∀ ref ∈ characteristic.attributes, slotAt registry.slots slot = some ref →
    handle ≤ slot ∧ slot < handle + characteristic.attributes.length

structure AsBefore (next : Registry) : Prop where
  slots : ∀ slot, slotAt next.slots slot = slotAt registry.slots slot
  names : next.named = registry.named
  handles : ∀ ref, (next.item ref).handle = (registry.item ref).handle
  ends : ∀ ref, (next.item ref).endHandle = (registry.item ref).endHandle
  value : (next.item characteristic.declaration).value =
    (registry.item characteristic.declaration).value

def AllOrNothing : Prop :=
  (¬ Blocked registry characteristic handle → ∃ placed next,
    (characteristic.setHandle runtime (some handle)).run registry = .ok placed next ∧
      Occupies next characteristic handle) ∧
  (Blocked registry characteristic handle → ∃ thrown next,
    (characteristic.setHandle runtime (some handle)).run registry = .error thrown next ∧
      AsBefore registry characteristic next)

/-- The declaration holds bytes that the handle of the value can be written to. -/
def Writes (bytes : Buffer) : Prop :=
  (registry.item characteristic.declaration).value = some bytes ∧ 2 < bytes.length ∧
    handle + 1 ≤ 0xFFFF

/-- No attribute is there twice, each new place is free once the attributes before are spliced out,
    none behind the first is spliced out below its own, and nobody is left elsewhere in the table in
    the end. -/
structure Clear : Prop where
  distinct : characteristic.attributes.Nodup
  free : Free registry.slots handle (oldsOf runtime registry characteristic.attributes)
  above : Above (handle + 1) (oldsOf runtime registry characteristic.attributes).tail
  left : ∀ slot, ∀ ref ∈ characteristic.attributes,
    slotAt (spliceAll registry.slots (oldsOf runtime registry characteristic.attributes)) slot =
      some ref → handle ≤ slot ∧ slot < handle + characteristic.attributes.length

/-- A move that is blocked does nothing where the declaration has no room for a handle, or where the
    first place is taken and the declaration has the handle of the value already. -/
def MovesWell : Prop :=
  (¬ Blocked registry characteristic handle →
    (∃ bytes, Writes registry characteristic handle bytes) ∧
      Clear runtime registry characteristic handle) ∧
  (Blocked registry characteristic handle →
    ∀ bytes, Writes registry characteristic handle bytes →
      slotAt registry.slots handle ≠ none ∧
        (bytes.drop 1).take 2 = LittleEndian.bytes 2 (handle + 1))

end Characteristics

theorem seat_elsewhere {slots : List (Option AttrRef)} {place slot : Nat} {moves : List Move}
    (above : Above (place + 1) (moves.map Prod.snd).tail)
    (outside : slot < place ∨ place + moves.length ≤ slot) :
    slotAt (seat slots place moves) slot = slotAt (spliceAll slots (moves.map Prod.snd)) slot := by
  rcases outside with below | beyond
  · cases moves with
    | nil => rfl
    | cons head moves =>
      obtain ⟨ref, old⟩ := head
      rw [List.map_cons, List.tail_cons] at above
      rw [seat, seat_below above (Nat.lt_succ_of_lt below), slotAt_setSlot, if_neg (Nat.ne_of_lt below),
        List.map_cons, spliceAll, List.foldl_cons, ← spliceAll,
        spliceAll_below above (Nat.lt_succ_of_lt below)]
  · have agree : AgreeFrom place slots slots := fun _ _ => rfl
    exact seat_agree agree slot beyond

theorem bytes_written {bytes : Buffer} (room : 2 < bytes.length) (number : Nat) :
    (bytes.set 1 (UInt8.ofNat number)).set 2 (UInt8.ofNat (number / 256)) = bytes ↔
      (bytes.drop 1).take 2 = LittleEndian.bytes 2 number := by
  match bytes, room with
  | properties :: low :: high :: uuid, _ =>
    simp only [List.set_cons_succ, List.set_cons_zero, List.cons.injEq, true_and, and_true,
      List.drop_succ_cons, List.drop_zero, List.take_succ_cons, List.take_zero, LittleEndian.bytes]
    exact and_congr eq_comm eq_comm

section Runs

variable {runtime : Runtime} {registry : Registry} {characteristic : Characteristic} {handle : Nat}

def Registry.declaring (registry : Registry) (characteristic : Characteristic) (bytes : Buffer) :
    Registry :=
  registry.setItem characteristic.declaration
    { registry.item characteristic.declaration with value := some bytes }

theorem setItem_handle {changed : AttrRef} {item : Item}
    (kept : item.handle = (registry.item changed).handle) (ref : AttrRef) :
    ((registry.setItem changed item).item ref).handle = (registry.item ref).handle := by
  unfold Registry.setItem
  dsimp only
  by_cases same : ref = changed
  · rw [same, Function.update_self, kept]
  · rw [Function.update_of_ne same]

theorem declaring_handle (bytes : Buffer) (ref : AttrRef) :
    ((registry.declaring characteristic bytes).item ref).handle = (registry.item ref).handle := by
  unfold Registry.declaring
  apply setItem_handle
  rfl

theorem declaring_value (bytes : Buffer) :
    ((registry.declaring characteristic bytes).item characteristic.declaration).value = some bytes := by
  unfold Registry.declaring Registry.setItem
  dsimp only
  rw [Function.update_self]

theorem declaring_olds (bytes : Buffer) (refs : List AttrRef) :
    oldsOf runtime (registry.declaring characteristic bytes) refs = oldsOf runtime registry refs := by
  unfold oldsOf
  simp only [declaring_handle]

theorem setHandle_unwritable (runtime : Runtime)
    (unwritable : ∀ bytes, ¬ Writes registry characteristic handle bytes) :
    ∃ thrown, (characteristic.setHandle runtime (some handle)).run registry =
      .error thrown registry := by
  unfold Characteristic.setHandle
  cases held : (registry.item characteristic.declaration).value with
  | none =>
    simp only [EStateM.run_bind, EStateM.run_get, held]
    exact ⟨_, rfl⟩
  | some bytes =>
    obtain ⟨thrown, refused⟩ : ∃ thrown, writeNumber bytes (some (handle + 1)) 1 = .error thrown := by
      unfold writeNumber Buffer.writeUInt16LE
      dsimp only
      split
      · rename_i room
        rw [if_neg fun small => unwritable bytes ⟨held, room, small⟩]
        exact ⟨_, rfl⟩
      · exact ⟨_, rfl⟩
    simp only [EStateM.run_bind, EStateM.run_get, held, Option.map_some, refused, Build.ofExcept]
    exact ⟨thrown, rfl⟩

/-- The declaration is written before the attributes are placed. -/
theorem setHandle_writable {bytes : Buffer} (writes : Writes registry characteristic handle bytes) :
    let written := (bytes.set 1 (UInt8.ofNat (handle + 1))).set 2 (UInt8.ofNat ((handle + 1) / 256))
    let endHandle : Handle := .given (.number (handle + (characteristic.attributes.length - 1)))
    (characteristic.setHandle runtime (some handle)).run registry =
      match (placeAttributes runtime (some handle) 0 characteristic.attributes).run
        (registry.declaring characteristic written) with
      | .ok _ next => .ok { characteristic with endHandle } (next.setItem characteristic.declaration
          { next.item characteristic.declaration with endHandle })
      | .error thrown next => .error thrown next := by
  intro written endHandle
  obtain ⟨held, room, small⟩ := writes
  have encoded : writeNumber bytes (some (handle + 1)) 1 = .ok written := by
    unfold writeNumber Buffer.writeUInt16LE
    dsimp only
    rw [if_pos room, if_pos small]
  unfold Characteristic.setHandle
  simp only [EStateM.run_bind, EStateM.run_get, held, Option.map_some, encoded, Build.ofExcept,
    EStateM.run_pure, changeItem, EStateM.run_modify, Registry.declaring]
  cases (placeAttributes runtime (some handle) 0 characteristic.attributes).run _ <;> rfl

/-- Where the attributes have been placed, they occupy the handles exactly if no splice behind the
    first took a seat away, and none of them was left behind. -/
theorem occupies_iff (positive : 1 ≤ handle) (distinct : characteristic.attributes.Nodup) {next : Registry}
    {done : Unit} (ran : (placeAttributes runtime (some handle) 0 characteristic.attributes).run registry =
      .ok done next) :
    Occupies next characteristic handle ↔ Clear runtime registry characteristic handle := by
  have free := (placeAttributes_ok_iff positive distinct).mp ⟨next, ran⟩
  obtain ⟨slots, handles⟩ := placeAttributes_placed positive distinct ran
  rw [Nat.add_zero] at free slots handles
  have olds := movesOf_olds runtime registry characteristic.attributes
  have refs := movesOf_refs runtime registry characteristic.attributes
  have length : (movesOf runtime registry characteristic.attributes).length =
      characteristic.attributes.length := List.length_map _
  have place (i : Nat) (move : Move)
      (found : (movesOf runtime registry characteristic.attributes)[i]? = some move) :
      characteristic.attributes[i]? = some move.1 := by
    rw [← refs, List.getElem?_map, found]
    rfl
  have elsewhere (above : Above (handle + 1) (oldsOf runtime registry characteristic.attributes).tail)
      (slot : Nat) (outside : slot < handle ∨ handle + characteristic.attributes.length ≤ slot) :
      slotAt next.slots slot =
        slotAt (spliceAll registry.slots (oldsOf runtime registry characteristic.attributes)) slot := by
    rw [slots, ← olds]
    apply seat_elsewhere
    · rwa [olds]
    · rwa [length]
  constructor
  · intro occupies
    have above : Above (handle + 1) (oldsOf runtime registry characteristic.attributes).tail := by
      rw [← olds]
      apply above_of_seated
      · rwa [olds]
      · rwa [refs]
      · intro i move found
        rw [← slots]
        exact occupies.slots i move.1 (place i move found)
    refine ⟨distinct, free, above, ?_⟩
    intro slot ref member held
    by_contra outside
    rw [← elsewhere above slot (by omega)] at held
    exact outside (occupies.only slot ref member held)
  · intro clear
    refine ⟨handles, ?_, ?_⟩
    · intro i ref found
      have moved : (movesOf runtime registry characteristic.attributes)[i]? =
          some (ref, oldIndex runtime (registry.item ref).handle) := by
        rw [movesOf, List.getElem?_map, found]
        rfl
      rw [slots]
      exact seat_keeps (by rw [olds]; exact clear.above) moved
    · intro slot ref member held
      by_contra outside
      rw [elsewhere clear.above slot (by omega)] at held
      exact outside (clear.left slot ref member held)

theorem clear_declaring (bytes : Buffer) :
    Clear runtime (registry.declaring characteristic bytes) characteristic handle ↔
      Clear runtime registry characteristic handle := by
  have same : oldsOf runtime (registry.declaring characteristic bytes) characteristic.attributes =
      oldsOf runtime registry characteristic.attributes := declaring_olds bytes _
  constructor
  · rintro ⟨distinct, free, above, left⟩
    rw [same] at free above left
    exact ⟨distinct, free, above, left⟩
  · rintro ⟨distinct, free, above, left⟩
    rw [← same] at free above left
    exact ⟨distinct, free, above, left⟩

theorem occupies_ended (next : Registry) (endHandle : Handle) :
    Occupies (next.setItem characteristic.declaration
      { next.item characteristic.declaration with endHandle }) characteristic handle ↔
        Occupies next characteristic handle := by
  have same (ref : AttrRef) : ((next.setItem characteristic.declaration
      { next.item characteristic.declaration with endHandle }).item ref).handle =
        (next.item ref).handle := by
    apply setItem_handle
    rfl
  constructor
  · rintro ⟨handles, slots, only⟩
    refine ⟨fun i ref found => ?_, slots, only⟩
    rw [← same]
    exact handles i ref found
  · rintro ⟨handles, slots, only⟩
    refine ⟨fun i ref found => ?_, slots, only⟩
    rw [same]
    exact handles i ref found

/-- Nobody is at two places. -/
theorem Occupies.distinct (occupies : Occupies registry characteristic handle) :
    characteristic.attributes.Nodup := by
  rw [List.nodup_iff_getElem?_ne_getElem?]
  intro i j before inside same
  have first := occupies.handles i _ (List.getElem?_eq_getElem (Nat.lt_trans before inside))
  have second := occupies.handles j _ (same ▸ List.getElem?_eq_getElem (Nat.lt_trans before inside))
  rw [first] at second
  simp only [Handle.given.injEq, JsValue.number.injEq] at second
  omega

theorem moves_iff (positive : 1 ≤ handle) :
    (∃ placed next, (characteristic.setHandle runtime (some handle)).run registry = .ok placed next ∧
        Occupies next characteristic handle) ↔
      (∃ bytes, Writes registry characteristic handle bytes) ∧
        Clear runtime registry characteristic handle := by
  by_cases distinct : ¬ characteristic.attributes.Nodup
  · apply iff_of_false
    · exact fun ⟨_, _, _, occupies⟩ => distinct occupies.distinct
    · exact fun moves => distinct moves.2.distinct
  rw [not_not] at distinct
  by_cases writable : ∃ bytes, Writes registry characteristic handle bytes
  · rw [and_iff_right writable]
    obtain ⟨bytes, writes⟩ := writable
    rw [setHandle_writable writes]
    generalize (bytes.set 1 (UInt8.ofNat (handle + 1))).set 2 (UInt8.ofNat ((handle + 1) / 256)) = written
    rw [← clear_declaring written]
    cases ran : (placeAttributes runtime (some handle) 0 characteristic.attributes).run
      (registry.declaring characteristic written) with
    | error thrown next =>
      apply iff_of_false
      · rintro ⟨_, _, same, _⟩
        cases same
      · intro clear
        have free : Free _ (handle + 0) _ := clear.free
        obtain ⟨next, placed⟩ := (placeAttributes_ok_iff positive distinct).mpr free
        rw [ran] at placed
        cases placed
    | ok done next =>
      rw [← occupies_iff positive distinct ran]
      constructor
      · rintro ⟨placed, last, same, occupies⟩
        cases same
        exact (occupies_ended next _).mp occupies
      · intro occupies
        exact ⟨_, _, rfl, (occupies_ended next _).mpr occupies⟩
  · obtain ⟨thrown, refused⟩ := setHandle_unwritable runtime fun bytes writes => writable ⟨bytes, writes⟩
    rw [refused]
    apply iff_of_false
    · rintro ⟨_, _, same, _⟩
      cases same
    · exact fun moves => writable moves.1

theorem asBefore_refl (registry : Registry) (characteristic : Characteristic) :
    AsBefore registry characteristic registry :=
  ⟨fun _ => rfl, rfl, fun _ => rfl, fun _ => rfl, rfl⟩

theorem asBefore_declaring {bytes : Buffer}
    (same : (registry.item characteristic.declaration).value = some bytes) :
    AsBefore registry characteristic (registry.declaring characteristic bytes) := by
  have unchanged : registry.declaring characteristic bytes = registry := by
    unfold Registry.declaring Registry.setItem
    rw [← same, Function.update_eq_self]
  rw [unchanged]
  exact asBefore_refl registry characteristic

theorem not_refused_of_free (positive : 1 ≤ handle)
    (own : characteristic.declaration ∉ characteristic.value :: characteristic.descriptors)
    {bytes : Buffer} (writes : Writes registry characteristic handle bytes)
    (free : slotAt registry.slots handle = none) :
    ¬ ∃ thrown next, (characteristic.setHandle runtime (some handle)).run registry =
        .error thrown next ∧ AsBefore registry characteristic next := by
  rintro ⟨thrown, next, same, before⟩
  rw [setHandle_writable writes] at same
  generalize (bytes.set 1 (UInt8.ofNat (handle + 1))).set 2 (UInt8.ofNat ((handle + 1) / 256)) =
    written at same
  cases ran : (placeAttributes runtime (some handle) 0 characteristic.attributes).run
    (registry.declaring characteristic written) with
  | ok done last =>
    rw [ran] at same
    cases same
  | error thrown last =>
    rw [ran] at same
    cases same
    have first := placeAttributes_stopped_first positive own free ran fun ref _ => by
      rw [before.handles, declaring_handle]
    rw [Nat.add_zero, before.slots, free] at first
    cases first

/-- With the first place taken, all is as before exactly if the declaration held the bytes already. -/
theorem refused_of_taken (positive : 1 ≤ handle) {bytes : Buffer}
    (writes : Writes registry characteristic handle bytes) {other : AttrRef}
    (taken : slotAt registry.slots handle = some other) :
    (∃ thrown next, (characteristic.setHandle runtime (some handle)).run registry =
        .error thrown next ∧ AsBefore registry characteristic next) ↔
      (bytes.drop 1).take 2 = LittleEndian.bytes 2 (handle + 1) := by
  rw [← bytes_written writes.2.1 (handle + 1), setHandle_writable writes]
  generalize (bytes.set 1 (UInt8.ofNat (handle + 1))).set 2 (UInt8.ofNat ((handle + 1) / 256)) = written
  obtain ⟨thrown, refused⟩ : ∃ thrown, (placeAttributes runtime (some handle) 0
      characteristic.attributes).run (registry.declaring characteristic written) =
        .error thrown (registry.declaring characteristic written) :=
    placeAttributes_refuses positive taken
  rw [refused]
  constructor
  · rintro ⟨_, _, same, before⟩
    cases same
    have value := before.value
    rw [writes.1, declaring_value] at value
    exact Option.some.inj value
  · intro kept
    refine ⟨thrown, _, rfl, ?_⟩
    rw [kept]
    exact asBefore_declaring writes.1

theorem refused_iff (positive : 1 ≤ handle)
    (own : characteristic.declaration ∉ characteristic.value :: characteristic.descriptors) :
    (∃ thrown next, (characteristic.setHandle runtime (some handle)).run registry = .error thrown next ∧
        AsBefore registry characteristic next) ↔
      ∀ bytes, Writes registry characteristic handle bytes →
        slotAt registry.slots handle ≠ none ∧
          (bytes.drop 1).take 2 = LittleEndian.bytes 2 (handle + 1) := by
  by_cases writable : ∃ bytes, Writes registry characteristic handle bytes
  · obtain ⟨bytes, writes⟩ := writable
    have only (other : Buffer) (again : Writes registry characteristic handle other) :
        other = bytes := by
      have same := again.1
      rw [writes.1] at same
      exact (Option.some.inj same).symm
    cases taken : slotAt registry.slots handle with
    | none =>
      apply iff_of_false (not_refused_of_free positive own writes taken)
      exact fun each => (each bytes writes).1 rfl
    | some other =>
      rw [refused_of_taken positive writes taken]
      constructor
      · intro told again repeated
        rw [only again repeated]
        exact ⟨Option.some_ne_none other, told⟩
      · exact fun each => (each bytes writes).2
  · obtain ⟨thrown, refused⟩ := setHandle_unwritable runtime fun bytes writes => writable ⟨bytes, writes⟩
    rw [refused]
    apply iff_of_true
    · exact ⟨thrown, registry, rfl, asBefore_refl registry characteristic⟩
    · exact fun bytes writes => absurd ⟨bytes, writes⟩ writable

end Runs

/-- Whatever the table and the handles of before are: a move to a handle is all or nothing exactly
    if it either is to places that are clear, for which the declaration has room, or is stopped before
    anything is changed. -/
theorem moves_all_or_nothing_iff (runtime : Runtime) (registry : Registry)
    {characteristic : Characteristic}
    (own : characteristic.declaration ∉ characteristic.value :: characteristic.descriptors)
    {handle : Nat} (positive : 1 ≤ handle) :
    AllOrNothing runtime registry characteristic handle ↔
      MovesWell runtime registry characteristic handle := by
  apply and_congr
  · exact imp_congr_right fun _ => moves_iff positive
  · exact imp_congr_right fun _ => refused_iff positive own

/-- A characteristic of two attributes without handles, whose declaration has been given a value of
    five bytes, and somebody else at the handle 1. -/
def unplaced : Registry where
  slots := [none, some 2]
  named := []
  item ref :=
    if ref = 0 then { Item.blank with value := some [0x02, 0x00, 0x00, 0x00, 0x2A] }
    else if ref = 2 then { Item.blank with handle := .given (.number 1) }
    else Item.blank
  allocated := 3
  uuids := .empty

theorem unplaced_moves : AllOrNothing plainRuntime unplaced ⟨0, 1, [], .undefined⟩ 2 := by
  apply (moves_all_or_nothing_iff plainRuntime unplaced (by decide) (by decide)).mpr
  have empty (slot : Nat) (above : 2 ≤ slot) : slotAt unplaced.slots slot = none := by
    obtain ⟨more, rfl⟩ := Nat.exists_eq_add_of_le' above
    rfl
  constructor
  · intro _
    refine ⟨⟨_, rfl, by decide, by decide⟩, ⟨by decide, ?_, ?_, ?_⟩⟩
    · intro i _
      match i with
      | 0 | 1 => rfl
      | _ + 2 => contradiction
    · intro i old found
      match i with
      | 0 | _ + 1 => cases found
    · intro slot ref member held
      match slot with
      | 0 => cases held
      | 1 =>
        cases held
        exact absurd member (by decide)
      | slot + 2 => cases held
  · rintro ⟨i, _, ref, held, _⟩
    rw [empty (2 + i) (Nat.le_add_right 2 i)] at held
    cases held

/-- A characteristic as its constructor leaves it, on an empty table. -/
theorem deviceName_not_moved : ∃ characteristic registry,
    (createCharacteristic plainRuntime .undefined propertyRead (.number 0x2A00) (.given deviceName)
      []).run .loaded = .ok characteristic registry ∧
    ¬ AllOrNothing plainRuntime registry characteristic 1 := by
  have slots : (match (createCharacteristic plainRuntime .undefined propertyRead (.number 0x2A00)
      (.given deviceName) []).run .loaded with
    | .ok _ registry => some registry.slots
    | .error _ _ => none) = some [] := by
    decide +kernel
  cases ran : (createCharacteristic plainRuntime .undefined propertyRead (.number 0x2A00)
      (.given deviceName) []).run .loaded with
  | error thrown registry =>
    rw [ran] at slots
    cases slots
  | ok characteristic registry =>
    rw [ran] at slots
    refine ⟨characteristic, registry, rfl, ?_⟩
    intro holds
    obtain ⟨_, declared⟩ := createCharacteristic_ok (.inl rfl) loaded_types ran
    have open_way : ¬ Blocked registry characteristic 1 := by
      rintro ⟨i, _, ref, held, _⟩
      rw [Option.some.inj slots] at held
      cases held
    obtain ⟨placed, next, moved, _⟩ := holds.1 open_way
    exact setHandle_not_ok declared moved

end Btle.Server.Construction

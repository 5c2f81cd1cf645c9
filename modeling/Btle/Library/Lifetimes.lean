import Mathlib.Data.List.Basic
import Mathlib.Data.List.Nodup

namespace Lifetimes

universe u v w

inductive Phase
  | running
  | stopped
  | closing
  | closed
  deriving DecidableEq, Repr

def Phase.shut : Phase → Bool
  | .running | .stopped => false
  | .closing | .closed => true

structure Resource (Kind : Type u) where
  kind : Kind
  phase : Phase
  deriving DecidableEq, Repr

/-- Resources are named by the order in which they were acquired, and a name is never used again.
    `releases` is every release that was asked for, the latest first. -/
structure Table (Kind : Type u) where
  resources : List (Resource Kind)
  releases : List Nat
  deriving DecidableEq, Repr

variable {Kind : Type u}

def Table.empty : Table Kind := { resources := [], releases := [] }

def Table.next (table : Table Kind) : Nat := table.resources.length

def Table.acquire (table : Table Kind) (kind : Kind) : Table Kind :=
  { table with resources := table.resources ++ [{ kind := kind, phase := .running }] }

def Table.phase? (table : Table Kind) (name : Nat) : Option Phase :=
  table.resources[name]?.map Resource.phase

def Table.kind? (table : Table Kind) (name : Nat) : Option Kind :=
  table.resources[name]?.map Resource.kind

def Table.Has (table : Table Kind) (name : Nat) (kind : Kind) (phase : Phase) : Prop :=
  table.resources[name]? = some { kind := kind, phase := phase }

instance [DecidableEq Kind] (table : Table Kind) (name : Nat) (kind : Kind) (phase : Phase) :
    Decidable (table.Has name kind phase) :=
  inferInstanceAs (Decidable (_ = _))

def Table.become (table : Table Kind) (name : Nat) (change : Phase → Phase) : Table Kind :=
  { table with
    resources := table.resources.modify name fun resource =>
      { resource with phase := change resource.phase } }

def Phase.stop : Phase → Phase
  | .running => .stopped
  | phase => phase

def Phase.release : Phase → Phase
  | .running | .stopped => .closing
  | phase => phase

def Phase.finish : Phase → Phase
  | .closing => .closed
  | phase => phase

def Table.stop (table : Table Kind) (name : Nat) : Table Kind := table.become name Phase.stop

/-- A second release of one name is recorded and changes nothing else. -/
def Table.release (table : Table Kind) (name : Nat) : Table Kind :=
  { table.become name Phase.release with releases := name :: table.releases }

def Table.finish (table : Table Kind) (name : Nat) : Table Kind := table.become name Phase.finish

def Table.releaseHeld (table : Table Kind) : Option Nat → Table Kind
  | none => table
  | some name => table.release name

def Table.IsShut (table : Table Kind) (name : Nat) : Prop := (table.phase? name).any Phase.shut

instance (table : Table Kind) (name : Nat) : Decidable (table.IsShut name) :=
  inferInstanceAs (Decidable (_ = true))

def Table.ReleasedOnce (table : Table Kind) : Prop := table.releases.Nodup

instance (table : Table Kind) : Decidable table.ReleasedOnce := inferInstanceAs (Decidable (List.Nodup _))

structure Table.Sound (table : Table Kind) : Prop where
  once : table.ReleasedOnce
  shut_iff : ∀ name, name ∈ table.releases ↔ table.IsShut name

section kinds

variable {table : Table Kind} {name other : Nat} {kind added : Kind} {phase : Phase}
  {change : Phase → Phase}

theorem known_of_kind (found : table.kind? name = some kind) : name < table.next := by
  cases inside : table.resources[name]? with
  | none => rw [Table.kind?, inside] at found; cases found
  | some resource => exact (List.getElem?_eq_some_iff.mp inside).1

theorem Table.Has.kind_eq (found : table.Has name kind phase) : table.kind? name = some kind := by
  rw [Table.kind?, found, Option.map_some]

theorem Table.Has.phase_eq (found : table.Has name kind phase) : table.phase? name = some phase := by
  rw [Table.phase?, found, Option.map_some]

theorem has_of_parts (kinded : table.kind? name = some kind) (phased : table.phase? name = some phase) :
    table.Has name kind phase := by
  rw [Table.kind?] at kinded
  rw [Table.phase?] at phased
  rw [Table.Has]
  rcases Option.map_eq_some_iff.mp kinded with ⟨resource, found, rfl⟩
  rw [found] at phased ⊢
  cases phased
  rfl

theorem kind?_acquire_old (found : table.kind? name = some kind) :
    (table.acquire added).kind? name = some kind := by
  rw [Table.kind?, Table.acquire, List.getElem?_append_left (known_of_kind found)]
  exact found

theorem kind?_acquire_new : (table.acquire kind).kind? table.next = some kind := by
  rw [Table.kind?, Table.acquire, Table.next, List.getElem?_concat_length, Option.map_some]

@[simp] theorem kind?_become : (table.become name change).kind? other = table.kind? other := by
  rw [Table.kind?, Table.become, List.getElem?_modify, Table.kind?]
  cases table.resources[other]? with
  | none => rfl
  | some resource => by_cases same : name = other <;> simp [same]

@[simp] theorem kind?_stop : (table.stop name).kind? other = table.kind? other := kind?_become

@[simp] theorem kind?_release : (table.release name).kind? other = table.kind? other := kind?_become

@[simp] theorem kind?_finish : (table.finish name).kind? other = table.kind? other := kind?_become

@[simp] theorem kind?_releaseHeld {held : Option Nat} :
    (table.releaseHeld held).kind? other = table.kind? other := by
  cases held with
  | none => rfl
  | some name => exact kind?_release

end kinds

section phases

variable {table : Table Kind} {name other : Nat} {kind : Kind} {change : Phase → Phase}

theorem phase?_some (known : name < table.next) : ∃ phase, table.phase? name = some phase := by
  have inside : table.resources[name]? = some table.resources[name] := List.getElem?_eq_getElem known
  exact ⟨_, by rw [Table.phase?, inside, Option.map_some]⟩

theorem phase?_none (unknown : table.next ≤ name) : table.phase? name = none := by
  rw [Table.phase?, List.getElem?_eq_none unknown, Option.map_none]

theorem phase?_acquire_old (known : name < table.next) :
    (table.acquire kind).phase? name = table.phase? name := by
  rw [Table.phase?, Table.acquire, List.getElem?_append_left known, Table.phase?]

theorem phase?_acquire_new : (table.acquire kind).phase? table.next = some .running := by
  rw [Table.phase?, Table.acquire, Table.next, List.getElem?_concat_length, Option.map_some]

theorem phase?_become_self :
    (table.become name change).phase? name = (table.phase? name).map change := by
  rw [Table.phase?, Table.become, List.getElem?_modify, Table.phase?]
  cases table.resources[name]? with
  | none => rfl
  | some resource => simp

theorem phase?_become_other (differs : other ≠ name) :
    (table.become name change).phase? other = table.phase? other := by
  rw [Table.phase?, Table.become, List.getElem?_modify, Table.phase?]
  cases table.resources[other]? with
  | none => rfl
  | some resource => simp [differs.symm]

@[simp] theorem next_become : (table.become name change).next = table.next := by
  rw [Table.next, Table.become, List.length_modify, Table.next]

@[simp] theorem next_acquire : (table.acquire kind).next = table.next + 1 := by
  rw [Table.next, Table.acquire, List.length_append, Table.next]
  rfl

@[simp] theorem next_stop : (table.stop name).next = table.next := next_become

@[simp] theorem next_release : (table.release name).next = table.next := next_become

@[simp] theorem next_finish : (table.finish name).next = table.next := next_become

@[simp] theorem releases_acquire : (table.acquire kind).releases = table.releases := rfl

@[simp] theorem releases_stop : (table.stop name).releases = table.releases := rfl

@[simp] theorem releases_release : (table.release name).releases = name :: table.releases := rfl

@[simp] theorem releases_finish : (table.finish name).releases = table.releases := rfl

theorem not_shut_unknown (unknown : table.next ≤ name) : ¬ table.IsShut name := by
  rw [Table.IsShut, phase?_none unknown]
  exact Bool.false_ne_true

theorem shut_become (kept : ∀ phase, table.phase? name = some phase → (change phase).shut = phase.shut) :
    (table.become name change).IsShut other ↔ table.IsShut other := by
  by_cases same : other = name
  · subst same
    rw [Table.IsShut, Table.IsShut, phase?_become_self]
    cases found : table.phase? other with
    | none => simp
    | some phase => simp [kept phase found]
  · rw [Table.IsShut, Table.IsShut, phase?_become_other same]

theorem shut_acquire : (table.acquire kind).IsShut name ↔ table.IsShut name := by
  rcases Nat.lt_trichotomy name table.next with older | newest | beyond
  · rw [Table.IsShut, Table.IsShut, phase?_acquire_old older]
  · subst newest
    apply iff_of_false
    · rw [Table.IsShut, phase?_acquire_new]
      exact Bool.false_ne_true
    · exact not_shut_unknown (Nat.le_refl _)
  · apply iff_of_false
    · apply not_shut_unknown
      rw [next_acquire]
      exact beyond
    · exact not_shut_unknown (Nat.le_of_lt beyond)

theorem shut_stop : (table.stop name).IsShut other ↔ table.IsShut other := by
  apply shut_become
  intro phase _
  cases phase <;> rfl

theorem shut_finish : (table.finish name).IsShut other ↔ table.IsShut other := by
  apply shut_become
  intro phase _
  cases phase <;> rfl

theorem shut_release (known : name < table.next) :
    (table.release name).IsShut other ↔ other = name ∨ table.IsShut other := by
  have phases : (table.release name).phase? other = (table.become name Phase.release).phase? other := rfl
  rw [Table.IsShut, phases]
  by_cases same : other = name
  · subst same
    rcases phase?_some known with ⟨phase, found⟩
    rw [phase?_become_self, found, Option.map_some]
    apply iff_of_true
    · cases phase <;> rfl
    · exact Or.inl rfl
  · rw [phase?_become_other same, Table.IsShut]
    simp [same]

end phases

section soundness

variable {table : Table Kind} {name : Nat} {kind : Kind}

theorem sound_empty : (Table.empty : Table Kind).Sound := by
  refine ⟨List.nodup_nil, fun name => ?_⟩
  exact iff_of_false (List.not_mem_nil) (not_shut_unknown (Nat.zero_le name))

theorem Table.Sound.acquire (sound : table.Sound) : (table.acquire kind).Sound :=
  ⟨sound.once, fun name => (sound.shut_iff name).trans shut_acquire.symm⟩

theorem Table.Sound.stop (sound : table.Sound) : (table.stop name).Sound :=
  ⟨sound.once, fun other => (sound.shut_iff other).trans shut_stop.symm⟩

theorem Table.Sound.finish (sound : table.Sound) : (table.finish name).Sound :=
  ⟨sound.once, fun other => (sound.shut_iff other).trans shut_finish.symm⟩

theorem Table.Sound.release (sound : table.Sound) (known : name < table.next)
    (live : ¬ table.IsShut name) : (table.release name).Sound := by
  constructor
  · apply List.nodup_cons.mpr
    exact ⟨fun member => live ((sound.shut_iff name).mp member), sound.once⟩
  · intro other
    rw [releases_release, List.mem_cons, sound.shut_iff, shut_release known]

theorem Table.Sound.live_of_once (sound : table.Sound) (once : (table.release name).ReleasedOnce) :
    ¬ table.IsShut name := by
  intro shut
  exact (List.nodup_cons.mp once).1 ((sound.shut_iff name).mpr shut)

theorem once_of_release (once : (table.release name).ReleasedOnce) : table.ReleasedOnce :=
  (List.nodup_cons.mp once).2

end soundness

/-- What a holder of a name has to know of it. -/
inductive Slot
  | empty
  | live
  | shut
  deriving DecidableEq, Repr

def Table.slot (table : Table Kind) : Option Nat → Slot
  | none => .empty
  | some name => if table.IsShut name then .shut else .live

def Slot.close : Slot → Slot
  | .empty => .empty
  | .live | .shut => .shut

section slots

variable {table : Table Kind} {name : Nat} {held : Option Nat} {kind : Kind} {phase : Phase}

theorem slot_congr {other : Table Kind}
    (same : ∀ name, held = some name → (other.IsShut name ↔ table.IsShut name)) :
    other.slot held = table.slot held := by
  cases held with
  | none => rfl
  | some name => simp only [Table.slot, same name rfl]

theorem slot_acquire : (table.acquire kind).slot held = table.slot held :=
  slot_congr fun _ _ => shut_acquire

theorem slot_stop : (table.stop name).slot held = table.slot held :=
  slot_congr fun _ _ => shut_stop

theorem slot_finish : (table.finish name).slot held = table.slot held :=
  slot_congr fun _ _ => shut_finish

theorem slot_acquired : (table.acquire kind).slot (some table.next) = .live := by
  have open_ : ¬ (table.acquire kind).IsShut table.next :=
    fun shut => not_shut_unknown (Nat.le_refl _) (shut_acquire.mp shut)
  exact if_neg open_

theorem slot_release_other (known : name < table.next) (differs : held ≠ some name) :
    (table.release name).slot held = table.slot held := by
  apply slot_congr
  intro other holds
  rw [shut_release known]
  have apart : other ≠ name := fun same => differs (holds.trans (congrArg some same))
  exact or_iff_right apart

theorem slot_release_self (known : name < table.next) :
    (table.release name).slot (some name) = .shut :=
  if_pos ((shut_release known).mpr (Or.inl rfl))

theorem Table.Has.known (found : table.Has name kind phase) : name < table.next :=
  known_of_kind found.kind_eq

theorem Table.Sound.retire (sound : table.Sound) (runs : table.Has name kind .running) :
    ((table.stop name).release name).Sound := by
  have live : ¬ table.IsShut name := by
    rw [Table.IsShut, runs.phase_eq]
    exact Bool.false_ne_true
  have known : name < (table.stop name).next := by
    rw [next_stop]
    exact runs.known
  exact sound.stop.release known fun shut => live (shut_stop.mp shut)

theorem slot_retire_self (known : name < table.next) :
    ((table.stop name).release name).slot (some name) = .shut := by
  apply slot_release_self
  rw [next_stop]
  exact known

theorem slot_retire_other (known : name < table.next) (differs : held ≠ some name) :
    ((table.stop name).release name).slot held = table.slot held := by
  have stopped : name < (table.stop name).next := by
    rw [next_stop]
    exact known
  rw [slot_release_other stopped differs, slot_stop]

theorem slot_shut_iff : table.slot (some name) = .shut ↔ table.IsShut name := by
  rw [Table.slot]
  split <;> simp [*]

theorem slot_releaseHeld_self (known : ∀ name, held = some name → name < table.next) :
    (table.releaseHeld held).slot held = (table.slot held).close := by
  cases held with
  | none => rfl
  | some name =>
    rw [Table.releaseHeld, slot_release_self (known name rfl), Table.slot]
    split <;> rfl

theorem slot_releaseHeld_other {other : Option Nat} (known : ∀ name, held = some name → name < table.next)
    (apart : ∀ name, held = some name → other ≠ some name) :
    (table.releaseHeld held).slot other = table.slot other := by
  cases held with
  | none => rfl
  | some name => exact slot_release_other (known name rfl) (apart name rfl)

theorem Table.Sound.releaseHeld (sound : table.Sound)
    (known : ∀ name, held = some name → name < table.next) (unshut : table.slot held ≠ .shut) :
    (table.releaseHeld held).Sound := by
  cases held with
  | none => exact sound
  | some name => exact sound.release (known name rfl) fun shut => unshut (slot_shut_iff.mpr shut)

theorem Table.Sound.unshut_of_once (sound : table.Sound)
    (once : (table.releaseHeld held).ReleasedOnce) : table.slot held ≠ .shut := by
  cases held with
  | none => exact Slot.noConfusion
  | some name => exact fun shut => sound.live_of_once once (slot_shut_iff.mp shut)

theorem once_of_releaseHeld (once : (table.releaseHeld held).ReleasedOnce) : table.ReleasedOnce := by
  cases held with
  | none => exact once
  | some name => exact once_of_release once

end slots

end Lifetimes

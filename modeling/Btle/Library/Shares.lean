import Mathlib.Algebra.BigOperators.Group.Finset.Basic
import Mathlib.Algebra.Order.BigOperators.Group.Finset
import Mathlib.Data.Fintype.Basic

namespace Shares

open Finset

variable {Owner Item : Type} [Fintype Owner] [DecidableEq Item]

/-- All there is belongs to nobody, or to exactly one of the owners. -/
structure Shared (common : Finset Item) (owned : Owner → Finset Item) (all : Finset Item) : Prop where
  all_eq : all = common ∪ univ.biUnion owned
  apart : ∀ owner, Disjoint common (owned owner)
  disjoint : ∀ owner other, owner ≠ other → Disjoint (owned owner) (owned other)

variable {common all : Finset Item} {owned : Owner → Finset Item}

theorem Shared.subset (shared : Shared common owned all) (owner : Owner) : owned owner ⊆ all := by
  rw [shared.all_eq]
  exact (subset_biUnion_of_mem owned (mem_univ owner)).trans subset_union_right

theorem Shared.common_subset (shared : Shared common owned all) : common ⊆ all := by
  rw [shared.all_eq]
  exact subset_union_left

theorem shared_none (common : Finset Item) : Shared common (fun _ : Owner => ∅) common where
  all_eq := by simp
  apart _ := disjoint_empty_right common
  disjoint _ _ _ := disjoint_empty_left ∅

theorem Shared.card (shared : Shared common owned all) :
    all.card = common.card + ∑ owner, (owned owner).card := by
  have unowned : Disjoint common (univ.biUnion owned) :=
    (disjoint_biUnion_right common univ owned).mpr fun owner _ => shared.apart owner
  rw [shared.all_eq, card_union_of_disjoint unowned, card_biUnion]
  intro one _ two _ different
  exact shared.disjoint one two different

/-- One owner trades its items for others, which nobody else has. -/
theorem Shared.trade [DecidableEq Owner] (shared : Shared common owned all) (owner : Owner) (mine : Finset Item)
    (fresh : Disjoint mine (all \ owned owner)) :
    Shared common (Function.update owned owner mine) (all \ owned owner ∪ mine) := by
  have elsewhere (other : Owner) (apart : other ≠ owner) : owned other ⊆ all \ owned owner :=
    subset_sdiff.mpr ⟨shared.subset other, shared.disjoint other owner apart⟩
  have unowned : common ⊆ all \ owned owner :=
    subset_sdiff.mpr ⟨shared.common_subset, shared.apart owner⟩
  constructor
  · ext item
    rw [mem_union, mem_union, mem_sdiff, shared.all_eq, mem_union, mem_biUnion, mem_biUnion]
    constructor
    · rintro (⟨shares | ⟨other, member, has⟩, lacks⟩ | has)
      · exact .inl shares
      · have apart : other ≠ owner := by
          rintro rfl
          exact lacks has
        exact .inr ⟨other, member, by rwa [Function.update_of_ne apart]⟩
      · exact .inr ⟨owner, mem_univ owner, by rwa [Function.update_self]⟩
    · rintro (shares | ⟨other, member, has⟩)
      · exact .inl ⟨.inl shares, (mem_sdiff.mp (unowned shares)).2⟩
      · by_cases same : other = owner
        · subst same
          rw [Function.update_self] at has
          exact .inr has
        · rw [Function.update_of_ne same] at has
          exact .inl ⟨.inr ⟨other, member, has⟩, (mem_sdiff.mp (elsewhere other same has)).2⟩
  · intro other
    by_cases same : other = owner
    · subst same
      rw [Function.update_self]
      exact (disjoint_of_subset_right unowned fresh).symm
    · rw [Function.update_of_ne same]
      exact shared.apart other
  · intro one two different
    by_cases first : one = owner
    · subst first
      rw [Function.update_self, Function.update_of_ne different.symm]
      exact disjoint_of_subset_right (elsewhere two different.symm) fresh
    · rw [Function.update_of_ne first]
      by_cases second : two = owner
      · subst second
        rw [Function.update_self]
        exact (disjoint_of_subset_right (elsewhere one first) fresh).symm
      · rw [Function.update_of_ne second]
        exact shared.disjoint one two different

end Shares

import Mathlib.Data.List.Sort
import Mathlib.Data.List.Infix

namespace Paging

universe u

variable {Item : Type u} (key : Item → Nat)

def Ascending (items : List Item) : Prop := items.Pairwise fun first second => key first < key second

def window (lo hi : Nat) (items : List Item) : List Item :=
  items.filter fun item => decide (lo ≤ key item ∧ key item ≤ hi)

variable {key} {lo hi : Nat} {items page done : List Item}

theorem mem_window {item : Item} :
    item ∈ window key lo hi items ↔ item ∈ items ∧ lo ≤ key item ∧ key item ≤ hi := by
  simp [window]

theorem window_ascending (lo hi : Nat) (ascending : Ascending key items) :
    Ascending key (window key lo hi items) :=
  List.Pairwise.sublist List.filter_sublist ascending

theorem window_window {first : Nat} (later : lo ≤ first) :
    window key first hi (window key lo hi items) = window key first hi items := by
  unfold window
  rw [List.filter_filter]
  apply List.filter_congr
  intro item _
  rw [← Bool.decide_and]
  congr 1
  apply propext
  omega

/-- Whoever asks again from behind the last item of a page is left with what the page left out. -/
theorem window_split (ascending : Ascending key items) (front : page <+: window key lo hi items)
    {last : Item} (ends : page.getLast? = some last) :
    window key lo hi items = page ++ window key (key last + 1) hi items := by
  rcases front with ⟨rest, whole⟩
  have sorted := window_ascending lo hi ascending
  rw [← whole] at sorted
  rcases List.pairwise_append.mp sorted with ⟨inner, _, across⟩
  have member : last ∈ page := List.mem_of_getLast? ends
  have inside := (mem_window.mp (whole ▸ List.mem_append_left rest member)).2
  have below : ∀ item ∈ page, key item ≤ key last := by
    rcases List.getLast?_eq_some_iff.mp ends with ⟨init, rfl⟩
    intro item held
    rcases List.mem_append.mp held with earlier | same
    · have order := (List.pairwise_append.mp inner).2.2 item earlier last (by simp)
      omega
    · rw [List.mem_singleton.mp same]
  rw [← window_window (by omega : lo ≤ key last + 1), ← whole]
  congr 1
  unfold window
  rw [List.filter_append, List.filter_eq_nil_iff.mpr, List.nil_append, List.filter_eq_self.mpr]
  · intro item held
    have above := across last member item held
    have upper := (mem_window.mp (whole ▸ List.mem_append_right page held)).2.2
    simp only [decide_eq_true_eq]
    omega
  · intro item held
    have bound := below item held
    simp only [decide_eq_true_eq]
    omega

theorem window_empty (reversed : hi < lo) : window key lo hi items = [] := by
  apply List.filter_eq_nil_iff.mpr
  intro item _
  simp only [decide_eq_true_eq]
  omega

/-- What is collected and what is still to be asked for make up the whole. -/
def Covers (key : Item → Nat) (all items done : List Item) (lo hi : Nat) : Prop :=
  done ++ window key lo hi items = all

variable {all : List Item}

theorem Covers.next (covers : Covers key all items done lo hi) (ascending : Ascending key items)
    (front : page <+: window key lo hi items) {last : Item} (ends : page.getLast? = some last) :
    Covers key all items (done ++ page) (key last + 1) hi := by
  unfold Covers at *
  rw [← covers, window_split ascending front ends, List.append_assoc]

theorem Covers.finished (covers : Covers key all items done lo hi) (past : hi < lo) :
    done = all := by
  unfold Covers at covers
  rwa [window_empty past, List.append_nil] at covers

theorem window_shrinks (ascending : Ascending key items) (front : page <+: window key lo hi items)
    {last : Item} (ends : page.getLast? = some last) :
    (window key (key last + 1) hi items).length < (window key lo hi items).length := by
  have some_page : 0 < page.length := List.length_pos_of_mem (List.mem_of_getLast? ends)
  rw [window_split ascending front ends, List.length_append]
  omega

/-- Pages each of which leaves off at or behind the place it was asked for from. -/
def Rising (key : Item → Nat) (lo : Nat) (items : List Item) : Prop :=
  Ascending key items ∧ ∀ item ∈ items.head?, lo ≤ key item

/-- Asking again from behind the last item of every page goes forward exactly on rising pages. -/
theorem restarts_ascending_iff :
    Ascending id (lo :: items.map fun item => key item + 1) ↔ Rising key lo items := by
  unfold Rising Ascending
  rw [List.pairwise_cons, List.pairwise_map]
  simp only [id_eq, Nat.add_lt_add_iff_right, List.forall_mem_map]
  constructor
  · intro h
    rcases h with ⟨above, ascending⟩
    refine ⟨ascending, ?_⟩
    intro item first
    have behind := above item (List.mem_of_mem_head? first)
    omega
  · intro h
    rcases h with ⟨ascending, first⟩
    refine ⟨?_, ascending⟩
    intro item member
    cases items with
    | nil => cases member
    | cons front rest =>
      have start : lo ≤ key front := first front rfl
      rcases List.mem_cons.mp member with rfl | later
      · omega
      · have order := (List.pairwise_cons.mp ascending).1 item later
        omega

theorem ascending_length_le (ascending : Ascending key items)
    (inside : ∀ item ∈ items, lo ≤ key item ∧ key item ≤ hi) : items.length ≤ hi + 1 - lo := by
  induction items generalizing lo with
  | nil => exact Nat.zero_le _
  | cons item items ih =>
    rcases List.pairwise_cons.mp ascending with ⟨above, rest⟩
    have here := inside item List.mem_cons_self
    have later : ∀ other ∈ items, key item + 1 ≤ key other ∧ key other ≤ hi := by
      intro other member
      exact ⟨above other member, (inside other (List.mem_cons_of_mem item member)).2⟩
    have fewer : items.length ≤ hi + 1 - (key item + 1) := ih rest later
    rw [List.length_cons]
    omega

end Paging

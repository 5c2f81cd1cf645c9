import Btle.Client.Collecting
import Btle.Client.Database
import Btle.Client.Entries

namespace Btle.Client

open Machine Paging

/-- How a pending discovery takes the two answers it can get: a page with `list` on it, and that
    nothing is left. -/
structure TakesPages {α : Type} (accumulator : Accumulator α) (rd : ReadData)
    (connection : Connection) (handle : α → UInt16) (request : UInt16 → List UInt8)
    (encodes : List α → List UInt8 → Prop) : Prop where
  page : ∀ {att : Att} {list : List α} {pdu : List UInt8} {back : α},
    att.currentRequest = some rd → att.connection = connection → encodes list pdu →
    list.getLast? = some back →
    step att (.received pdu) =
      let collected := (accumulator.get att).getD [] ++ list
      if handle back < rd.handle then
        .ok (accumulator.set att (some collected), [.write (request (handle back + 1))])
      else
        .ok ((accumulator.set (accumulator.set att (some collected)) none).removeCurrentRequest,
          [.attrListCb rd.data 0 (some (accumulator.list collected)) none])
  notFound : ∀ {att : Att} {list : List α} (low high : UInt8),
    att.currentRequest = some rd → accumulator.get att = some list →
    step att (.received [attOpError, rd.request, low, high, attEcodeAttrNotFound]) =
      .ok ((accumulator.set att none).removeCurrentRequest,
        [.attrListCb rd.data 0 (some (accumulator.list list)) none])

section Collect

variable {α : Type}

/-- The server's side of a discovery: from any handle of the range on, a page that shows what
    comes next, or that nothing does. -/
def Serves (server : Server) (rd : ReadData) (request : UInt16 → List UInt8)
    (encodes : List α → List UInt8 → Prop) (shows : α → Attribute → Prop)
    (items : List Attribute) : Prop :=
  ∀ earlier first, 1 ≤ first → first ≤ rd.handle →
    let left := window Attribute.key first.toNat rd.handle.toNat items
    (∃ page list, page ≠ [] ∧ page <+: left ∧ List.Forall₂ shows list page ∧
      encodes list (server earlier (request first))) ∨
    (left = [] ∧ ∃ low high, server earlier (request first) =
      [attOpError, rd.request, low, high, attEcodeAttrNotFound])

/-- The loop invariant of a discovery that has just asked from `first` on: what it has collected
    and what is left to ask for make up all of what matches. -/
structure CollectsFrom (accumulator : Accumulator α) (rd : ReadData) (connection : Connection)
    (shows : α → Attribute → Prop) (items all : List Attribute) (first : UInt16) (att : Att) :
    Prop where
  positive : 1 ≤ first
  inside : first ≤ rd.handle
  pending : att.currentRequest = some rd
  linked : att.connection = connection
  covers : ∃ done, List.Forall₂ shows ((accumulator.get att).getD []) done ∧
    Covers Attribute.key all items done first.toNat rd.handle.toNat
  fresh : accumulator.get att = none →
    window Attribute.key first.toNat rd.handle.toNat items ≠ []

def HandsOver (accumulator : Accumulator α) (rd : ReadData) (shows : α → Attribute → Prop)
    (all : List Attribute) (result : Result) : Prop :=
  ∃ next list, next.currentRequest = none ∧ List.Forall₂ shows list all ∧
    result = .ok (next, [.attrListCb rd.data 0 (some (accumulator.list list)) none])

theorem shows_last {shows : α → Attribute → Prop} {list : List α} {page : List Attribute}
    {last : Attribute} (shown : List.Forall₂ shows list page) (ends : page.getLast? = some last) :
    ∃ back, list.getLast? = some back ∧ shows back last := by
  have backwards := List.forall₂_reverse_iff.mpr shown
  rw [List.getLast?_eq_head?_reverse] at ends ⊢
  rcases List.head?_eq_some_iff.mp ends with ⟨rest, starts⟩
  rw [starts] at backwards
  cases list_starts : list.reverse with
  | nil => rw [list_starts] at backwards; cases backwards
  | cons back others =>
    rw [list_starts] at backwards
    cases backwards with
    | cons same _ => exact ⟨back, rfl, same⟩

variable {accumulator : Accumulator α} {rd : ReadData} {connection : Connection}
  {handle : α → UInt16} {request : UInt16 → List UInt8} {encodes : List α → List UInt8 → Prop}
  {shows : α → Attribute → Prop} {items all : List Attribute} {first : UInt16} {att : Att}

theorem CollectsFrom.page
    (takes : TakesPages accumulator rd connection handle request encodes)
    (keyed : ∀ item attr, shows item attr → handle item = attr.handle)
    (ascending : Ascending Attribute.key items)
    (collects : CollectsFrom accumulator rd connection shows items all first att)
    {page : List Attribute} {list : List α} {pdu : List UInt8} (some_page : page ≠ [])
    (front : page <+: window Attribute.key first.toNat rd.handle.toNat items)
    (shown : List.Forall₂ shows list page) (encoded : encodes list pdu) :
    (∃ later next, step att (.received pdu) = .ok (next, [.write (request later)]) ∧
      CollectsFrom accumulator rd connection shows items all later next ∧
      (window Attribute.key later.toNat rd.handle.toNat items).length <
        (window Attribute.key first.toNat rd.handle.toNat items).length) ∨
    HandsOver accumulator rd shows all (step att (.received pdu)) := by
  rcases Option.ne_none_iff_exists'.mp (mt List.getLast?_eq_none_iff.mp some_page) with ⟨last, ends⟩
  rcases shows_last shown ends with ⟨back, back_ends, same⟩
  rcases collects.covers with ⟨done, collected_shown, covers⟩
  have answered := takes.page collects.pending collects.linked encoded back_ends
  have together : List.Forall₂ shows ((accumulator.get att).getD [] ++ list) (done ++ page) :=
    List.rel_append collected_shown shown
  have covers := covers.next ascending front ends
  have key_last : (handle back).toNat = last.key := by rw [keyed _ _ same]; rfl
  by_cases more : handle back < rd.handle
  · have below : (handle back).toNat < rd.handle.toNat := UInt16.lt_iff_toNat_lt.mp more
    have successor : (handle back + 1).toNat = last.key + 1 := by
      have bound := rd.handle.toNat_lt
      rw [UInt16.toNat_add, ← key_last]
      simp only [UInt16.toNat_one, Nat.reducePow] at bound ⊢
      omega
    have shorter := window_shrinks ascending front ends
    rw [← successor] at covers shorter
    rw [if_pos more] at answered
    refine .inl ⟨_, _, answered, ⟨?_, ?_, ?_, ?_, ⟨done ++ page, ?_, covers⟩, ?_⟩, shorter⟩
    · exact UInt16.le_iff_toNat_le.mpr (by rw [successor]; simp)
    · exact UInt16.le_iff_toNat_le.mpr (by omega)
    · rw [accumulator.currentRequest_set, collects.pending]
    · rw [accumulator.connection_set, collects.linked]
    · rwa [accumulator.get_set]
    · simp
  · have past : rd.handle.toNat < last.key + 1 := by
      have reached := mt UInt16.lt_iff_toNat_lt.mpr more
      omega
    rw [if_neg more] at answered
    rw [covers.finished past] at together
    exact .inr ⟨_, _, rfl, together, answered⟩

theorem CollectsFrom.notFound
    (takes : TakesPages accumulator rd connection handle request encodes)
    (collects : CollectsFrom accumulator rd connection shows items all first att)
    (low high : UInt8)
    (nothing : window Attribute.key first.toNat rd.handle.toNat items = []) :
    HandsOver accumulator rd shows all
      (step att (.received [attOpError, rd.request, low, high, attEcodeAttrNotFound])) := by
  rcases collects.covers with ⟨done, shown, covers⟩
  unfold Covers at covers
  rw [nothing, List.append_nil] at covers
  cases kept : accumulator.get att with
  | none => exact absurd nothing (collects.fresh kept)
  | some list =>
    rw [kept, covers] at shown
    exact ⟨_, list, rfl, shown, takes.notFound low high collects.pending kept⟩

/-- The conversation comes to its last step, of which `complete` holds, in so many turns; before
    it only requests were written. -/
def EndsWithin (server : Server) (turns : Nat) (earlier : List (List UInt8)) (att : Att)
    (out : List Effect) (complete : Result → Prop) : Prop :=
  ∃ (requests : List (List UInt8)) (result : Result), complete result ∧ ∀ fuel, turns < fuel →
    converse server fuel earlier att out =
      some (result.map fun (next, last) => (next, requests.map Effect.write ++ last))

theorem EndsWithin.last {server : Server} {earlier : List (List UInt8)} {att next : Att}
    {pdu : List UInt8} {effect : Effect} {complete : Result → Prop} (turns : Nat)
    (stepped : step att (.received (server earlier pdu)) = .ok (next, [effect]))
    (called : effect.answered ≠ none) (done : complete (.ok (next, [effect]))) :
    EndsWithin server (turns + 1) earlier att [.write pdu] complete := by
  refine ⟨earlier ++ [pdu], _, done, ?_⟩
  intro fuel enough
  obtain ⟨fuel, rfl⟩ : ∃ fewer, fuel = fewer + 2 := ⟨fuel - 2, by omega⟩
  cases effect with
  | write => exact absurd rfl called
  | attrListCb | readAttrCb | notification | errorHandler =>
    simp only [converse, stepped, Except.map]

theorem EndsWithin.further {server : Server} {turns : Nat} {earlier : List (List UInt8)}
    {att next : Att} {pdu : List UInt8} {out : List Effect} {complete : Result → Prop}
    (stepped : step att (.received (server earlier pdu)) = .ok (next, out))
    (rest : EndsWithin server turns (earlier ++ [pdu]) next out complete) :
    EndsWithin server (turns + 1) earlier att [.write pdu] complete := by
  rcases rest with ⟨requests, result, done, conversed⟩
  refine ⟨requests, result, done, ?_⟩
  intro fuel enough
  obtain ⟨fuel, rfl⟩ : ∃ fewer, fuel = fewer + 1 := ⟨fuel - 1, by omega⟩
  simp only [converse, stepped]
  exact conversed fuel (by omega)

/-- What is left to ask for gets shorter with every page, so that the loop ends. -/
theorem converse_collects (takes : TakesPages accumulator rd connection handle request encodes)
    (keyed : ∀ item attr, shows item attr → handle item = attr.handle)
    (ascending : Ascending Attribute.key items) {server : Server}
    (serves : Serves server rd request encodes shows items) {turns : Nat}
    (earlier : List (List UInt8))
    (collects : CollectsFrom accumulator rd connection shows items all first att)
    (enough : (window Attribute.key first.toNat rd.handle.toNat items).length < turns) :
    EndsWithin server turns earlier att [.write (request first)]
      (HandsOver accumulator rd shows all) := by
  induction turns generalizing first att earlier with
  | zero => omega
  | succ turns ih =>
    have last (answer : HandsOver accumulator rd shows all
        (step att (.received (server earlier (request first))))) :
        EndsWithin server (turns + 1) earlier att [.write (request first)]
          (HandsOver accumulator rd shows all) := by
      rcases answer with ⟨next, list, idle, complete, stepped⟩
      exact .last turns stepped (by simp [Effect.answered]) ⟨next, list, idle, complete, rfl⟩
    rcases serves earlier first collects.positive collects.inside with
      ⟨page, list, some_page, front, shown, encoded⟩ | ⟨nothing, low, high, answer⟩
    · rcases collects.page takes keyed ascending some_page front shown encoded with
        ⟨later, next, stepped, collecting, shorter⟩ | answer
      · exact .further stepped (ih _ collecting (by omega))
      · exact last answer
    · exact last (answer ▸ collects.notFound takes low high nothing)

end Collect

end Btle.Client

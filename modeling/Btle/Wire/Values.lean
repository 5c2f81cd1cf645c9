import Mathlib.Data.List.TakeWhile
import Btle.Client.Pages
import Btle.Server.Confidentiality
import Btle.Wire.Replies

namespace Btle.Wire

open Server Throwing Looping

section First

variable {world : World} {effect : Nat → Attribute → Nat → Effect} {first : AttrRef}
  {rest : List AttrRef} {value : Buffer}

theorem firstSucceeds_refs (valued : (world.attrib first).value = some value) :
    FirstSucceeds effect ((first :: rest).map world.attrib) ↔
      Ends (fun ref => effect value.length (world.attrib ref)) (fun _ => True) (first :: rest) 2 := by
  unfold FirstSucceeds
  simp only [List.map_cons, List.headD_cons, valued, Option.some.injEq, exists_eq_left']
  exact ends_map world.attrib (first :: rest) 2

theorem firstContents_refs (valued : (world.attrib first).value = some value) (opcode : UInt8)
    (more : Nat) (entry : Attribute → Buffer) :
    firstContents opcode more effect entry ((first :: rest).map world.attrib) =
      opcode :: UInt8.ofNat (value.length + more) ::
        (taken (fun ref => effect value.length (world.attrib ref)) (first :: rest) 2).flatMap
          fun ref => entry (world.attrib ref) := by
  rw [firstContents_reported, reported]
  simp only [List.map_cons, List.headD_cons, valued, Option.getD_some]
  rfl

end First

section ReadByType

def valueLength (world : World) (ref : AttrRef) : Nat := ((world.attrib ref).value.getD []).length

/-- The attributes that go into a reply of values: those with values of one length up to the first
    of another, as many as there is room for. -/
def shownValues (world : World) (len : Nat) (found : List AttrRef) : List AttrRef :=
  (found.takeWhile fun ref => valueLength world ref = len).take
    ((world.mtuSize.toNat - 4) / (len + 2))

/-- The server's reply, parsed by the client, tells handle and value of some of the attributes at the
    front of those found, all with values of one length. -/
def ReadByTypeAgrees (host : Host) (central : CentralRef) (world : World) (start stop : UInt16)
    (fields : List UInt8) (found : List AttrRef) (len : Nat) : Prop :=
  ∃ payload list,
    written (createHandler host central (Client.rangeHeader Client.attOpReadByTypeReq start stop ++
      fields)) world = [(central, opReadByTypeResponse :: payload)] ∧
    Client.parseAttributeDataList [] (some payload) payload.length = .ok list ∧ list ≠ [] ∧
    (∃ count, (list.map fun entry => (some entry.handle.toNat, some entry.data)) =
      (found.take count).map fun ref => ((world.attrib ref).handle, (world.attrib ref).value)) ∧
    ∀ entry ∈ list, entry.data.length = len

variable {world : World} {mtuSize : UInt16} {len : Nat}

theorem readByTypeEffect_fills (mtuSize : UInt16) (len : Nat) :
    Fills (readByTypeEffect mtuSize len) (fun attrib => (attrib.value.getD []).length = len)
      (fun _ => len + 2) (mtuSize.toNat - 2) (fun attrib => attrib.value ≠ none)
      fun attrib => fits16 attrib.handle := by
  constructor
  · intro attrib offset absent
    rw [readByTypeEffect, not_not.mp absent]
  · intro attrib offset present stops
    obtain ⟨value, valued⟩ := Option.ne_none_iff_exists'.mp present
    simp only [valued, Option.getD_some, decide_eq_true_eq] at stops
    have stopped : value.length ≠ len ∨ mtuSize.toNat < offset + value.length + 4 := by omega
    simp only [readByTypeEffect, valued, if_pos stopped]
  · intro attrib offset present suits room able
    obtain ⟨value, valued⟩ := Option.ne_none_iff_exists'.mp present
    simp only [valued, Option.getD_some, decide_eq_true_eq] at suits
    subst suits
    have goes : ¬ (value.length ≠ value.length ∨ mtuSize.toNat < offset + value.length + 4) := by
      omega
    simp only [readByTypeEffect, valued, if_neg goes, if_pos able]
  · intro attrib offset present suits room unable
    obtain ⟨value, valued⟩ := Option.ne_none_iff_exists'.mp present
    simp only [valued, Option.getD_some, decide_eq_true_eq] at suits
    have goes : ¬ (value.length ≠ len ∨ mtuSize.toNat < offset + value.length + 4) := by omega
    simp only [readByTypeEffect, valued, if_neg goes, if_neg unable]

theorem readByType_fitting (world : World) (len : Nat) (found : List AttrRef) :
    fitting (fun ref => decide (((world.attrib ref).value.getD []).length = len)) (fun _ => len + 2)
      (world.mtuSize.toNat - 2) found 2 = shownValues world len found := by
  rw [fitting_uniform (Nat.succ_pos _), Nat.sub_sub]
  rfl

theorem shownValues_front (world : World) (len : Nat) (found : List AttrRef) :
    shownValues world len found <+: found :=
  (List.take_prefix _ _).trans (List.takeWhile_prefix _)

theorem shownValues_length {found : List AttrRef} {ref : AttrRef}
    (member : ref ∈ shownValues world len found) : valueLength world ref = len := by
  have kept := List.mem_takeWhile_imp (List.mem_of_mem_take member)
  exact of_decide_eq_true kept

/-- An attribute as an entry of a reply of values. -/
def dataOf (world : World) (ref : AttrRef) : Client.AttributeData :=
  ⟨UInt16.ofNat ((world.attrib ref).handle.getD 0), (world.attrib ref).value.getD []⟩

theorem encodeData_dataOf (world : World) (ref : AttrRef) :
    Client.encodeData (dataOf world ref) = readByTypeItem (world.attrib ref) := by
  rw [Client.encodeData, dataOf, put_ofNat, readByTypeItem]

theorem dataOf_length {found : List AttrRef} {ref : AttrRef}
    (member : ref ∈ shownValues world len found) : (dataOf world ref).data.length = len :=
  shownValues_length member

theorem dataOf_pair {ref : AttrRef} (present : (world.attrib ref).value ≠ none)
    (fits : fits16 (world.attrib ref).handle = true) :
    (some (dataOf world ref).handle.toNat, some (dataOf world ref).data) =
      ((world.attrib ref).handle, (world.attrib ref).value) := by
  obtain ⟨value, valued⟩ := Option.ne_none_iff_exists'.mp present
  obtain ⟨handle, numbered, small⟩ := fits16_some fits
  rw [dataOf, numbered, valued, Option.getD_some, Option.getD_some, UInt16.toNat_ofNat',
    Nat.mod_eq_of_lt (by omega)]

/-- The attributes that go into a reply have a handle that fits, and the one behind them has a value
    if there is one. -/
def Sendable (world : World) (shown found : List AttrRef) : Prop :=
  (∀ ref ∈ shown, (world.attrib ref).value ≠ none ∧ fits16 (world.attrib ref).handle = true) ∧
    ∀ ref, found[shown.length]? = some ref → (world.attrib ref).value ≠ none

theorem readByType_succeeds {first : AttrRef} {rest : List AttrRef} {value : Buffer}
    (valued : (world.attrib first).value = some value) :
    FirstSucceeds (readByTypeEffect world.mtuSize) ((first :: rest).map world.attrib) ↔
      Sendable world (shownValues world value.length (first :: rest)) (first :: rest) := by
  rw [firstSucceeds_refs valued,
    ((readByTypeEffect_fills world.mtuSize value.length).map world.attrib).ends_iff,
    readByType_fitting, Sendable]

/-- A reply of values, without its opcode. -/
def valuesPage (world : World) (len : Nat) (found : List AttrRef) : List UInt8 :=
  UInt8.ofNat (len + 2) ::
    ((shownValues world len found).map (dataOf world)).flatMap Client.encodeData

theorem readByType_listed {first : AttrRef} {rest : List AttrRef} {value : Buffer}
    (valued : (world.attrib first).value = some value)
    (success : FirstSucceeds (readByTypeEffect world.mtuSize) ((first :: rest).map world.attrib)) :
    readByTypeContents world.mtuSize ((first :: rest).map world.attrib) =
      opReadByTypeResponse :: valuesPage world value.length (first :: rest) := by
  rw [firstSucceeds_refs valued] at success
  rw [readByTypeContents, firstContents_refs valued,
    ((readByTypeEffect_fills world.mtuSize value.length).map world.attrib).taken_eq success,
    readByType_fitting, valuesPage, List.flatMap_map]
  simp only [encodeData_dataOf]

theorem valuesPage_length (room : 2 ≤ world.mtuSize.toNat) (found : List AttrRef) :
    (opReadByTypeResponse :: valuesPage world len found).length ≤ world.mtuSize.toNat := by
  have sizes : ∀ item ∈ fitting (fun ref => decide (((world.attrib ref).value.getD []).length = len))
      (fun _ => len + 2) (world.mtuSize.toNat - 2) found 2,
      (Client.encodeData (dataOf world item)).length = len + 2 := by
    intro ref member
    rw [readByType_fitting] at member
    rw [Client.encodeData, List.length_append, Client.attPutU16_length, dataOf_length member]
    omega
  rw [valuesPage, List.flatMap_map, List.length_cons, List.length_cons]
  by_cases some_room : 4 ≤ world.mtuSize.toNat
  · have inside := fitting_length (fun ref => Client.encodeData (dataOf world ref)) (by omega) sizes
    rw [readByType_fitting] at inside
    omega
  · have none_shown : shownValues world len found = [] := by
      rw [shownValues, Nat.sub_eq_zero_of_le (by omega), Nat.zero_div, List.take_zero]
    rw [none_shown]
    exact room

theorem valuesPage_parsed (world : World) (short : len ≤ 253) (found : List AttrRef) :
    Client.parseAttributeDataList [] (some (valuesPage world len found))
      (valuesPage world len found).length = .ok ((shownValues world len found).map (dataOf world)) := by
  refine Client.parseAttributeDataList_encoded [] fun entry member => ?_
  obtain ⟨ref, shown, rfl⟩ := List.mem_map.mp member
  rw [dataOf_length shown, UInt8.toNat_ofNat', Nat.mod_eq_of_lt (by omega)]

theorem shownValues_nonempty {first : AttrRef} (rest : List AttrRef) {value : Buffer}
    (valued : (world.attrib first).value = some value) :
    shownValues world value.length (first :: rest) ≠ [] ↔ value.length + 6 ≤ world.mtuSize.toNat := by
  have own : valueLength world first = value.length := by rw [valueLength, valued, Option.getD_some]
  rw [shownValues, List.takeWhile_cons_of_pos (by simpa using own), Ne, List.take_eq_nil_iff,
    Nat.div_eq_zero_iff]
  simp only [List.cons_ne_nil, or_false]
  omega

theorem readByType_replies (host : Host) (central : CentralRef) {start stop : UInt16}
    {fields : List UInt8} {uuids : UuidStore} {type : Option UuidRef} {first : AttrRef}
    {rest : List AttrRef} {value : Buffer} (room : 2 ≤ world.mtuSize.toNat) (long : 2 ≤ fields.length)
    (got : getUuid world.uuids (.number (word fields 0)) = .ok (uuids, type))
    (search : findAttributes { world with uuids } start.toNat stop.toNat type none =
      .ok (first :: rest))
    (valued : (world.attrib first).value = some value) :
    SendsIf (Printable host uuids type ∧
        Sendable world (shownValues world value.length (first :: rest)) (first :: rest))
      (createHandler host central (Client.rangeHeader Client.attOpReadByTypeReq start stop ++ fields))
      world central (opReadByTypeResponse :: valuesPage world value.length (first :: rest)) := by
  have sends := (readByType_sends host central long got search (List.cons_ne_nil first rest)).pdu
    fun both => (congrArg _ (readByType_listed valued both.2)).trans
      (List.take_of_length_le (valuesPage_length room (first :: rest)))
  rwa [readByType_succeeds valued] at sends

/-- A first value that is only just to fit makes a reply without entries. -/
theorem readByType_agrees_iff (host : Host) (central : CentralRef) (world : World)
    (room : 23 ≤ world.mtuSize.toNat) (start stop : UInt16) (fields : List UInt8)
    (long : 2 ≤ fields.length) (uuids : UuidStore) (type : Option UuidRef)
    (got : getUuid world.uuids (.number (word fields 0)) = .ok (uuids, type)) (first : AttrRef)
    (rest : List AttrRef)
    (search : findAttributes { world with uuids } start.toNat stop.toNat type none =
      .ok (first :: rest))
    (value : Buffer) (valued : (world.attrib first).value = some value)
    (short : value.length ≤ min (world.mtuSize.toNat - 4) 253) :
    ReadByTypeAgrees host central world start stop fields (first :: rest) value.length ↔
      Printable host uuids type ∧ value.length + 6 ≤ world.mtuSize.toNat ∧
        Sendable world (shownValues world value.length (first :: rest)) (first :: rest) := by
  have least : 2 ≤ world.mtuSize.toNat := by omega
  have sends := readByType_replies host central least long got search valued
  have parses := valuesPage_parsed world (show value.length ≤ 253 by omega) (first :: rest)
  have some_shown := shownValues_nonempty rest valued
  constructor
  · rintro ⟨payload, list, sent, parsed, some_listed, _⟩
    obtain ⟨⟨printable, sendable⟩, content⟩ := (sends.iff _).mp sent
    rw [(List.cons.inj content).2, parses] at parsed
    cases parsed
    exact ⟨printable, some_shown.mp fun nothing => some_listed (by rw [nothing, List.map_nil]), sendable⟩
  · rintro ⟨printable, fits, sendable⟩
    refine ⟨_, _, (sends.iff _).mpr ⟨⟨printable, sendable⟩, rfl⟩, parses, ?_, ?_, ?_⟩
    · exact fun nothing => some_shown.mpr fits (List.map_eq_nil_iff.mp nothing)
    · refine ⟨(shownValues world value.length (first :: rest)).length, ?_⟩
      rw [← List.prefix_iff_eq_take.mp (shownValues_front world value.length (first :: rest)),
        List.map_map]
      apply List.map_congr_left
      intro ref member
      exact dataOf_pair (sendable.1 ref member).1 (sendable.1 ref member).2
    · intro entry member
      obtain ⟨ref, shown, rfl⟩ := List.mem_map.mp member
      exact dataOf_length shown

end ReadByType

/-- The declaration of a characteristic that has a UUID of 128 bits, at the handle 1. -/
def declaration : Buffer := [0x02, 0x02, 0x00] ++ List.replicate 16 0x5A

def wideCharacteristic : World :=
  after (do
    let characteristic ← getUuidOf (.string (.of "0x2803"))
    let _ ← createAttribute plainHost characteristic (.buffer declaration) (some 1) (some 2)
      : Js Unit) .initial

theorem wideCharacteristic_search :
    findAttributes { wideCharacteristic with uuids := wideCharacteristic.uuids } (1 : UInt16).toNat
      (0xFF : UInt16).toNat (some 0) none = .ok [0] := by rfl

theorem wideCharacteristic_agrees_iff :
    ReadByTypeAgrees plainHost 0 wideCharacteristic 1 0xFF [0x03, 0x28] [0] 19 ↔
      Printable plainHost wideCharacteristic.uuids (some 0) ∧
        19 + 6 ≤ wideCharacteristic.mtuSize.toNat ∧
        Sendable wideCharacteristic (shownValues wideCharacteristic 19 [0]) [0] :=
  readByType_agrees_iff plainHost 0 wideCharacteristic (by decide) 1 0xFF [0x03, 0x28] (by decide)
    wideCharacteristic.uuids (some 0) (by rfl) 0 [] wideCharacteristic_search declaration (by rfl)
    (by decide)

/-- The value has the most bytes that an entry may have, and the reply has no entry. -/
theorem wideCharacteristic_unlisted :
    23 ≤ wideCharacteristic.mtuSize.toNat ∧
      findAttributes wideCharacteristic 1 0xFF (some 0) none = .ok [0] ∧
      (wideCharacteristic.attrib 0).value = some declaration ∧
      declaration.length ≤ min (wideCharacteristic.mtuSize.toNat - 4) 253 ∧
      ¬ ReadByTypeAgrees plainHost 0 wideCharacteristic 1 0xFF [0x03, 0x28] [0] declaration.length := by
  refine ⟨by decide, by rfl, by rfl, by decide, ?_⟩
  rintro ⟨payload, list, sent, parsed, some_listed, _⟩
  have answer : written (createHandler plainHost 0
      (Client.rangeHeader Client.attOpReadByTypeReq 1 0xFF ++ [0x03, 0x28])) wideCharacteristic =
        [(0, [opReadByTypeResponse, 21])] := by decide +kernel
  rw [answer] at sent
  cases sent
  cases parsed
  exact some_listed rfl

end Btle.Wire

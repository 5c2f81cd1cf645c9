import Btle.Client.Entries
import Btle.Client.ReadPointer
import Btle.Wire.Values

namespace Btle.Wire

open Server Throwing Looping

section Parsed

open Client

variable {α : Type} {entry : Nat → Except Fault (α × Nat)}

theorem parseEntries_all {goal : α → Prop} (each : ∀ ptr item next, entry ptr = .ok (item, next) → goal item)
    {len : Int} {turns ptr : Nat} {list result : List α} (start : ∀ item ∈ list, goal item)
    (parsed : parseEntries entry len turns ptr list = .ok result) : ∀ item ∈ result, goal item := by
  induction turns generalizing ptr list with
  | zero =>
    cases parsed
    exact start
  | succ turns ih =>
    rw [parseEntries] at parsed
    split at parsed
    · cases read : entry ptr with
      | error fault =>
        rw [read] at parsed
        cases parsed
      | ok round =>
        obtain ⟨item, next⟩ := round
        rw [read] at parsed
        refine ih (fun other member => ?_) parsed
        rcases List.mem_append.mp member with earlier | last
        · exact start other earlier
        · rw [List.mem_singleton.mp last]
          exact each ptr item next read
    · cases parsed
      exact start

theorem groupAttributeDataAt_data {buf : Buf} {length : UInt8} {ptr next : Nat}
    {group : GroupAttributeData} (read : groupAttributeDataAt buf length ptr = .ok (group, next)) :
    group.data.length + 4 = length.toNat := by
  obtain ⟨handle, _, onward⟩ := bind_ok read
  obtain ⟨groupEndHandle, _, onward⟩ := bind_ok onward
  obtain ⟨data, copied, made⟩ := bind_ok onward
  cases made
  have size := memcpy_length copied
  dsimp only
  omega

/-- The parser gives entries of the length that the first byte says, and so many as the bytes make. -/
theorem parseGroup_sizes {length : UInt8} {rest : List UInt8} {list : List GroupAttributeData}
    (parsed : parseGroupAttributeDataList [] (some (length :: rest)) (length :: rest).length = .ok list)
    (some_listed : list ≠ []) :
    (∀ group ∈ list, group.data.length + 4 = length.toNat) ∧
      rest.length = list.length * length.toNat := by
  have entries : parseEntries (groupAttributeDataAt (some (length :: rest)) length)
      (length :: rest).length (length :: rest).length 1 [] = .ok list := parsed
  have sizes : ∀ group ∈ list, group.data.length + 4 = length.toNat :=
    parseEntries_all (fun _ _ _ read => groupAttributeDataAt_data read) (by simp) entries
  refine ⟨sizes, ?_⟩
  obtain ⟨group, member⟩ := List.exists_mem_of_ne_nil list some_listed
  have enough : 4 ≤ length.toNat := by
    have size := sizes group member
    omega
  have strided := parseEntries_strided (groupAttributeDataAt_strided (length :: rest) enough) (by omega)
    1 [] (by simp)
  have behind : (length :: rest).length - 1 = rest.length := by simp
  rw [behind] at strided
  split at strided
  · rename_i whole
    obtain ⟨items, count, result⟩ := strided
    rw [entries] at result
    cases result
    rw [List.nil_append, count]
    exact (Nat.div_mul_cancel (Nat.dvd_of_mod_eq_zero whole)).symm
  · rw [entries] at strided
    cases strided

/-- Of the fronts of a list, only one takes up so many bytes. -/
theorem prefix_eq_of_total {encoded : α → List UInt8} (nonempty : ∀ item, encoded item ≠ [])
    {one other whole : List α} (one_front : one <+: whole) (other_front : other <+: whole)
    (same : (one.flatMap encoded).length = (other.flatMap encoded).length) : one = other := by
  have nothing : ∀ more : List α, (more.flatMap encoded).length = 0 → more = [] := by
    intro more none_there
    have few : more.length ≤ (more.flatMap encoded).length :=
      length_le_flatMap fun item _ => nonempty item
    exact List.length_eq_zero_iff.mp (by omega)
  rcases List.prefix_or_prefix_of_prefix one_front other_front with ⟨more, rfl⟩ | ⟨more, rfl⟩
  · rw [List.flatMap_append, List.length_append] at same
    rw [nothing more (by omega), List.append_nil]
  · rw [List.flatMap_append, List.length_append] at same
    rw [nothing more (by omega), List.append_nil]

end Parsed

section ReadByGroup

/-- The attributes that go into a reply of groups: as many from the front as fit, whatever the lengths
    of their values. -/
def shownGroups (world : World) (found : List AttrRef) : List AttrRef :=
  fitting (fun _ => true) (fun ref => valueLength world ref + 4) world.mtuSize.toNat found 2

/-- The server's reply, parsed by the client, tells handle, end handle and value of some of the
    attributes at the front of those found. -/
def ReadByGroupAgrees (host : Host) (central : CentralRef) (world : World) (start stop : UInt16)
    (fields : List UInt8) (found : List AttrRef) : Prop :=
  ∃ payload list,
    written (createHandler host central (Client.rangeHeader Client.attOpReadByGroupReq start stop ++
      fields)) world = [(central, opReadByGroupResponse :: payload)] ∧
    Client.parseGroupAttributeDataList [] (some payload) payload.length = .ok list ∧ list ≠ [] ∧
    ∃ count, (list.map fun group =>
        (some group.handle.toNat, some group.groupEndHandle.toNat, some group.data)) =
      (found.take count).map fun ref =>
        ((world.attrib ref).handle, (world.attrib ref).endHandle, (world.attrib ref).value)

/-- The groups that go into a reply have handles that fit, and the one behind them has a value if there
    is one. -/
def GroupsSendable (world : World) (found : List AttrRef) : Prop :=
  (∀ ref ∈ shownGroups world found, (world.attrib ref).value ≠ none ∧
    fits16 (world.attrib ref).handle = true ∧ fits16 (world.attrib ref).endHandle = true) ∧
  ∀ ref, found[(shownGroups world found).length]? = some ref → (world.attrib ref).value ≠ none

variable {world : World}

theorem readByGroupEffect_fills (mtuSize : UInt16) :
    Fills (readByGroupEffect mtuSize) (fun _ => true)
      (fun attrib => (attrib.value.getD []).length + 4) mtuSize.toNat
      (fun attrib => attrib.value ≠ none)
      fun attrib => fits16 attrib.handle = true ∧ fits16 attrib.endHandle = true := by
  constructor
  · intro attrib offset absent
    rw [readByGroupEffect, not_not.mp absent]
  · intro attrib offset present stops
    obtain ⟨value, valued⟩ := Option.ne_none_iff_exists'.mp present
    simp only [valued, Option.getD_some, true_and] at stops
    have full : mtuSize.toNat < offset + value.length + 4 := by omega
    simp only [readByGroupEffect, valued, if_pos full]
  · intro attrib offset present suits room able
    obtain ⟨value, valued⟩ := Option.ne_none_iff_exists'.mp present
    simp only [valued, Option.getD_some] at room
    have goes : ¬ mtuSize.toNat < offset + value.length + 4 := by omega
    simp only [readByGroupEffect, valued, if_neg goes, able, Bool.and_self, if_true, Option.getD_some]
  · intro attrib offset present suits room unable
    obtain ⟨value, valued⟩ := Option.ne_none_iff_exists'.mp present
    simp only [valued, Option.getD_some] at room
    have goes : ¬ mtuSize.toNat < offset + value.length + 4 := by omega
    have both : ¬ (fits16 attrib.handle && fits16 attrib.endHandle) = true := by simpa using unable
    simp only [readByGroupEffect, valued, if_neg goes, if_neg both]

/-- An attribute as an entry of a reply of groups. -/
def groupOf (world : World) (ref : AttrRef) : Client.GroupAttributeData :=
  ⟨UInt16.ofNat ((world.attrib ref).handle.getD 0), UInt16.ofNat ((world.attrib ref).endHandle.getD 0),
    (world.attrib ref).value.getD []⟩

theorem encodeGroup_groupOf (world : World) (ref : AttrRef) :
    Client.encodeGroup (groupOf world ref) = readByGroupItem (world.attrib ref) := by
  rw [Client.encodeGroup, groupOf, put_ofNat, put_ofNat, readByGroupItem]

theorem encodeGroup_length (world : World) (ref : AttrRef) :
    (Client.encodeGroup (groupOf world ref)).length = valueLength world ref + 4 := by
  rw [Client.encodeGroup, List.length_append, List.length_append, Client.attPutU16_length,
    Client.attPutU16_length, groupOf, valueLength]
  exact Nat.add_comm 4 _

theorem groupOf_triple {ref : AttrRef} (present : (world.attrib ref).value ≠ none)
    (fits : fits16 (world.attrib ref).handle = true)
    (end_fits : fits16 (world.attrib ref).endHandle = true) :
    (some (groupOf world ref).handle.toNat, some (groupOf world ref).groupEndHandle.toNat,
        some (groupOf world ref).data) =
      ((world.attrib ref).handle, (world.attrib ref).endHandle, (world.attrib ref).value) := by
  obtain ⟨value, valued⟩ := Option.ne_none_iff_exists'.mp present
  obtain ⟨handle, numbered, small⟩ := fits16_some fits
  obtain ⟨last, ends, last_small⟩ := fits16_some end_fits
  rw [groupOf, numbered, ends, valued, Option.getD_some, Option.getD_some, Option.getD_some,
    UInt16.toNat_ofNat', UInt16.toNat_ofNat', Nat.mod_eq_of_lt (by omega), Nat.mod_eq_of_lt (by omega)]

/-- The entries of a reply of groups, without the two bytes in front. -/
def groupsPage (world : World) (found : List AttrRef) : List UInt8 :=
  (shownGroups world found).flatMap fun ref => Client.encodeGroup (groupOf world ref)

theorem readByGroup_succeeds {first : AttrRef} {rest : List AttrRef} {value : Buffer}
    (valued : (world.attrib first).value = some value) :
    FirstSucceeds (fun _ => readByGroupEffect world.mtuSize) ((first :: rest).map world.attrib) ↔
      GroupsSendable world (first :: rest) := by
  rw [firstSucceeds_refs valued,
    ((readByGroupEffect_fills world.mtuSize).map world.attrib).ends_iff]
  rfl

theorem readByGroup_listed {first : AttrRef} {rest : List AttrRef} {value : Buffer}
    (valued : (world.attrib first).value = some value)
    (success : FirstSucceeds (fun _ => readByGroupEffect world.mtuSize)
      ((first :: rest).map world.attrib)) :
    readByGroupContents world.mtuSize ((first :: rest).map world.attrib) =
      opReadByGroupResponse :: UInt8.ofNat (value.length + 4) :: groupsPage world (first :: rest) := by
  rw [firstSucceeds_refs valued] at success
  rw [readByGroupContents, firstContents_refs valued,
    ((readByGroupEffect_fills world.mtuSize).map world.attrib).taken_eq success, groupsPage]
  simp only [encodeGroup_groupOf]
  rfl

theorem groupsPage_length (room : 2 ≤ world.mtuSize.toNat) (found : List AttrRef) (head : UInt8) :
    (opReadByGroupResponse :: head :: groupsPage world found).length ≤ world.mtuSize.toNat := by
  have inside : 2 + (groupsPage world found).length ≤ world.mtuSize.toNat :=
    fitting_length (fun ref => Client.encodeGroup (groupOf world ref)) room
      fun ref _ => encodeGroup_length world ref
  rw [List.length_cons, List.length_cons]
  omega

theorem shownGroups_front (world : World) (found : List AttrRef) :
    shownGroups world found <+: found := fitting_front found 2

theorem shownGroups_first {first : AttrRef} (rest : List AttrRef) {value : Buffer}
    (valued : (world.attrib first).value = some value)
    (room : value.length + 6 ≤ world.mtuSize.toNat) :
    first ∈ shownGroups world (first :: rest) := by
  have own : valueLength world first = value.length := by rw [valueLength, valued, Option.getD_some]
  rw [shownGroups, fitting, if_pos ⟨rfl, by omega⟩]
  exact List.mem_cons_self

/-- Groups with values of one length come out of the reply as they went in. -/
theorem groupsPage_parsed {len : Nat} (short : len ≤ 251) {found : List AttrRef}
    (uniform : ∀ ref ∈ shownGroups world found, valueLength world ref = len) :
    Client.parseGroupAttributeDataList [] (some (UInt8.ofNat (len + 4) :: groupsPage world found))
        (UInt8.ofNat (len + 4) :: groupsPage world found).length =
      .ok ((shownGroups world found).map (groupOf world)) := by
  rw [groupsPage, ← List.flatMap_map]
  refine Client.parseGroupAttributeDataList_encoded [] fun group member => ?_
  obtain ⟨ref, shown, rfl⟩ := List.mem_map.mp member
  have size : (groupOf world ref).data.length = len := uniform ref shown
  rw [size, UInt8.toNat_ofNat', Nat.mod_eq_of_lt (by omega)]

/-- If what is parsed is a front of what was found, then it is what was put in, and all of one length. -/
theorem groupsPage_uniform {first : AttrRef} {rest : List AttrRef} {value : Buffer}
    (valued : (world.attrib first).value = some value) {list : List Client.GroupAttributeData}
    (parsed : Client.parseGroupAttributeDataList []
      (some (UInt8.ofNat (value.length + 4) :: groupsPage world (first :: rest)))
      (UInt8.ofNat (value.length + 4) :: groupsPage world (first :: rest)).length = .ok list)
    (some_listed : list ≠ []) {count : Nat}
    (agrees : (list.map fun group => some group.data) =
      ((first :: rest).take count).map fun ref => (world.attrib ref).value) :
    value.length ≤ 251 ∧
      ∀ ref ∈ shownGroups world (first :: rest), valueLength world ref = value.length := by
  obtain ⟨sizes, total⟩ := parseGroup_sizes parsed some_listed
  have values : ∀ ref ∈ (first :: rest).take count,
      valueLength world ref + 4 = (UInt8.ofNat (value.length + 4)).toNat := by
    intro ref member
    have there : (world.attrib ref).value ∈ list.map fun group => some group.data :=
      agrees ▸ List.mem_map_of_mem member
    obtain ⟨group, listed, same⟩ := List.mem_map.mp there
    rw [valueLength, ← same, Option.getD_some]
    exact sizes group listed
  have counted : ((first :: rest).take count).length = list.length := by
    have lengths := congrArg List.length agrees
    rw [List.length_map, List.length_map] at lengths
    exact lengths.symm
  have own : first ∈ (first :: rest).take count := by
    cases count with
    | zero => exact absurd (List.length_eq_zero_iff.mp counted.symm) some_listed
    | succ count => exact List.mem_cons_self
  have head : value.length + 4 = (UInt8.ofNat (value.length + 4)).toNat := by
    rw [← values first own, valueLength, valued, Option.getD_some]
  have spans : ∀ refs : List AttrRef,
      (∀ ref ∈ refs, valueLength world ref + 4 = (UInt8.ofNat (value.length + 4)).toNat) →
        (refs.flatMap fun ref => Client.encodeGroup (groupOf world ref)).length =
          refs.length * (UInt8.ofNat (value.length + 4)).toNat := by
    intro refs each
    induction refs with
    | nil => simp
    | cons ref refs ih =>
      rw [List.forall_mem_cons] at each
      rw [List.flatMap_cons, List.length_append, ih each.2, encodeGroup_length, each.1,
        List.length_cons, Nat.succ_mul, Nat.add_comm]
  have same : (first :: rest).take count = shownGroups world (first :: rest) := by
    refine prefix_eq_of_total (fun ref => Client.encodeGroup_ne_nil (groupOf world ref))
      (List.take_prefix _ _) (shownGroups_front world _) ?_
    rw [spans _ values, counted, ← total, groupsPage]
  have small := (UInt8.ofNat (value.length + 4)).toNat_lt
  refine ⟨by omega, fun ref member => ?_⟩
  have length := values ref (same ▸ member)
  omega

/-- The first value's length stands for those of all values, so that the others have to have it. -/
theorem readByGroup_agrees_iff (host : Host) (central : CentralRef) (world : World)
    (start stop : UInt16) (fields : List UInt8) (uuids : UuidStore) (type : Option UuidRef)
    (got : getUuid world.uuids (.buffer fields) = .ok (uuids, type)) (first : AttrRef)
    (rest : List AttrRef)
    (search : findAttributes { world with uuids } start.toNat stop.toNat type none =
      .ok (first :: rest))
    (value : Buffer) (valued : (world.attrib first).value = some value)
    (room : value.length + 6 ≤ world.mtuSize.toNat) :
    ReadByGroupAgrees host central world start stop fields (first :: rest) ↔
      Printable host uuids type ∧ GroupsSendable world (first :: rest) ∧ value.length ≤ 251 ∧
        ∀ ref ∈ shownGroups world (first :: rest), valueLength world ref = value.length := by
  have sends := (readByGroup_sends host central got search (List.cons_ne_nil first rest)).pdu
    fun both => (congrArg _ (readByGroup_listed valued both.2)).trans
      (List.take_of_length_le (groupsPage_length (by omega) (first :: rest) _))
  rw [readByGroup_succeeds valued] at sends
  constructor
  · rintro ⟨payload, list, sent, parsed, some_listed, count, agrees⟩
    obtain ⟨⟨printable, sendable⟩, content⟩ := (sends.iff _).mp sent
    rw [(List.cons.inj content).2] at parsed
    have values := congrArg (List.map fun triple => triple.2.2) agrees
    rw [List.map_map, List.map_map] at values
    exact ⟨printable, sendable, groupsPage_uniform valued parsed some_listed values⟩
  · rintro ⟨printable, sendable, short, uniform⟩
    refine ⟨_, _, (sends.iff _).mpr ⟨⟨printable, sendable⟩, rfl⟩, groupsPage_parsed short uniform, ?_,
      (shownGroups world (first :: rest)).length, ?_⟩
    · intro nothing
      have there := shownGroups_first rest valued room
      rw [List.map_eq_nil_iff.mp nothing] at there
      cases there
    · rw [← List.prefix_iff_eq_take.mp (shownGroups_front world (first :: rest)), List.map_map]
      apply List.map_congr_left
      intro ref member
      obtain ⟨present, fits, end_fits⟩ := sendable.1 ref member
      exact groupOf_triple present fits end_fits

end ReadByGroup

/-- A service with a UUID of 16 bits, and one of 128 bits behind it. -/
def mixedServices : World :=
  { after (do
      let service ← getUuidOf (.string (.of "0x2800"))
      let _ ← createAttribute plainHost service (.buffer [0x00, 0x18]) (some 1) (some 3)
      let _ ← createAttribute plainHost service (.buffer (List.replicate 16 0x5A)) (some 4) (some 6)
        : Js Unit) .initial with mtuSize := 48 }

theorem mixedServices_search :
    findAttributes { mixedServices with uuids := mixedServices.uuids } (1 : UInt16).toNat
      (0xFF : UInt16).toNat (some 0) none = .ok [0, 1] := by
  decide +kernel

theorem mixedServices_agrees_iff :
    ReadByGroupAgrees plainHost 0 mixedServices 1 0xFF [0x00, 0x28] [0, 1] ↔
      Printable plainHost mixedServices.uuids (some 0) ∧ GroupsSendable mixedServices [0, 1] ∧
        2 ≤ 251 ∧ ∀ ref ∈ shownGroups mixedServices [0, 1], valueLength mixedServices ref = 2 :=
  readByGroup_agrees_iff plainHost 0 mixedServices 1 0xFF [0x00, 0x28] mixedServices.uuids (some 0)
    (by rfl) 0 [1] mixedServices_search [0x00, 0x18] (by rfl) (by decide)

/-- The bytes behind the first service are no whole number of entries of its length. -/
theorem mixedServices_unread :
    23 ≤ mixedServices.mtuSize.toNat ∧
      findAttributes mixedServices 1 0xFF (some 0) none = .ok [0, 1] ∧
      (mixedServices.attrib 0).value = some [0x00, 0x18] ∧ 2 + 6 ≤ mixedServices.mtuSize.toNat ∧
      ¬ ReadByGroupAgrees plainHost 0 mixedServices 1 0xFF [0x00, 0x28] [0, 1] := by
  refine ⟨by decide, mixedServices_search, by rfl, by decide, ?_⟩
  rintro ⟨payload, list, sent, parsed, _⟩
  have answer : written (createHandler plainHost 0
      (Client.rangeHeader Client.attOpReadByGroupReq 1 0xFF ++ [0x00, 0x28])) mixedServices =
        [(0, [opReadByGroupResponse, 6, 1, 0, 3, 0, 0x00, 0x18, 4, 0, 6, 0] ++
          List.replicate 16 0x5A)] := by decide +kernel
  rw [answer] at sent
  cases sent
  cases parsed

end Btle.Wire

import Mathlib.Data.List.TakeWhile
import Btle.Client.Pages
import Btle.Server.Confidentiality
import Btle.Server.UuidGrowth
import Btle.Wire.Replies

namespace Btle.Wire

open Server Throwing Looping Utf16

section FindInfo

/-- The bytes that an attribute's type has in a PDU. -/
def typeBytes (world : World) (ref : AttrRef) : Option Buffer :=
  (world.attrib ref).type.bind fun uuid => world.uuids.objects[uuid]?.bind Uuid.buffer

def typeWidth (world : World) (ref : AttrRef) : Nat := ((typeBytes world ref).getD []).length

/-- The longest prefix that a reply may tell of: types of one width, as many as fit the MTU. -/
def infoPrefix (world : World) (found : List AttrRef) : List AttrRef :=
  match found with
  | [] => []
  | first :: _ =>
    (found.takeWhile fun ref => typeWidth world ref = typeWidth world first).take
      ((world.mtuSize.toNat - 2) / (typeWidth world first + 2))

/-- The server's reply, parsed by the client, tells handle and type of each attribute of the prefix. -/
def FindInfoAgrees (host : Host) (central : CentralRef) (world : World) (start stop : UInt16)
    (found : List AttrRef) : Prop :=
  ∃ payload list,
    written (createHandler host central (Client.rangeHeader Client.attOpFindInfoReq start stop)) world =
      [(central, opFindInfoResponse :: payload)] ∧
    Client.parseAttributeList [] (some payload) payload.length = .ok list ∧
    (list.map fun info => (some info.handle.toNat, Client.uuidBytes info.type)) =
      ((infoPrefix world found).map fun ref => ((world.attrib ref).handle, typeBytes world ref)) ∧
    infoPrefix world found ≠ []

theorem findInfo_silent (host : Host) (central : CentralRef) {world : World} {start stop : UInt16}
    {found : List AttrRef} (valid : start ≠ 0 ∧ start ≤ stop)
    (search : findAttributes world start.toNat stop.toNat none none = .ok found)
    (some_found : found ≠ []) :
    written (createHandler host central (Client.rangeHeader Client.attOpFindInfoReq start stop)) world =
      [] := by
  have settles := handleFindInfo_settles host central (rangeData start stop []) world
  have header := rangeHeader_eq Client.attOpFindInfoReq start stop []
  rw [List.append_nil] at header
  have handled : createHandler host central (Client.attOpFindInfoReq :: rangeData start stop []) =
      handleFindInfo host central (rangeData start stop []) := rfl
  rw [header, handled]
  rcases settles.sent with ⟨silent, _⟩ | ⟨pdu, _, _, exactly⟩
  · exact written_of_sent (by rw [silent, List.append_nil])
  · rcases (exactly fun _ => True).mpr trivial with ⟨_, _, zero | backwards | nothing⟩
    · rw [rangeData_start] at zero
      exact absurd (UInt16.toNat_inj.mp zero) valid.1
    · rw [rangeData_start, rangeData_stop] at backwards
      have ordered : start.toNat ≤ stop.toNat := UInt16.le_iff_toNat_le.mp valid.2
      omega
    · rw [rangeData_start, rangeData_stop] at nothing
      rw [findAttributes_any, nothing] at search
      cases search
      exact absurd rfl some_found

/-- The handler asks each attribute for a `uuid`, which none has, so that nothing is sent. -/
theorem findInfo_never_agrees (host : Host) (central : CentralRef) (world : World)
    (start stop : UInt16) (valid : start ≠ 0 ∧ start ≤ stop) (found : List AttrRef)
    (search : findAttributes world start.toNat stop.toNat none none = .ok found)
    (some_found : found ≠ []) : ¬ FindInfoAgrees host central world start stop found := by
  rintro ⟨payload, list, sent, _⟩
  rw [findInfo_silent host central valid search some_found] at sent
  cases sent

end FindInfo

/-- Two primary services, at the handles 1 to 3 and 4 to 6. -/
def twoServices : World :=
  after (do
    let service ← getUuidOf (.string (.of "0x2800"))
    let _ ← createAttribute plainHost service (.buffer [0x00, 0x18]) (some 1) (some 3)
    let _ ← createAttribute plainHost service (.buffer [0x0F, 0x18]) (some 4) (some 6) : Js Unit) .initial

theorem twoServices_found : findAttributes twoServices 1 0xFF none none = .ok [0, 1] := by rfl

theorem twoServices_never_agrees : ¬ FindInfoAgrees plainHost 0 twoServices 1 0xFF [0, 1] :=
  findInfo_never_agrees plainHost 0 twoServices 1 0xFF (by decide) [0, 1] twoServices_found (by decide)

/-- The server has two attributes to tell of, and throws. -/
theorem twoServices_unanswered :
    23 ≤ twoServices.mtuSize.toNat ∧ findAttributes twoServices 1 0xFF none none = .ok [0, 1] ∧
      ¬ FindInfoAgrees plainHost 0 twoServices 1 0xFF [0, 1] := by
  refine ⟨by decide, twoServices_found, ?_⟩
  rintro ⟨payload, list, sent, _⟩
  have valid : (1 : UInt16) ≠ 0 ∧ (1 : UInt16) ≤ 0xFF := by decide
  rw [findInfo_silent plainHost 0 valid twoServices_found (by decide)] at sent
  cases sent

section FindByType

/-- How many attributes a reply to a search by content has room for. -/
def handleRoom (world : World) : Nat := (world.mtuSize.toNat - 1) / 4

/-- The server's reply, parsed by the client, tells handle and end handle of the attributes found, as
    many as fit the MTU. -/
def FindByTypeAgrees (host : Host) (central : CentralRef) (world : World) (start stop type : UInt16)
    (value : Buffer) (found : List AttrRef) : Prop :=
  ∃ payload list,
    written (createHandler host central (Client.rangeHeader Client.attOpFindByTypeReq start stop ++
      (Client.attPutU16 type ++ value))) world = [(central, opFindByTypeResponse :: payload)] ∧
    Client.parseHandlesInformationList [] (some payload) payload.length = .ok list ∧
    (list.map fun info => (some info.handle.toNat, some info.groupEndHandle.toNat)) =
      (found.take (min found.length (handleRoom world))).map fun ref =>
        ((world.attrib ref).handle, (world.attrib ref).endHandle)

variable {mtuSize : UInt16}

theorem findByTypeEffect_fills :
    Fills (findByTypeEffect mtuSize none) (fun _ => true) (fun _ => 4) mtuSize.toNat (fun _ => True)
      fun item => fits16 item.1.endHandle := by
  constructor
  · exact fun _ _ absent => absurd trivial absent
  · intro item offset _ full
    rw [findByTypeEffect, if_pos (by simpa using full)]
  · intro item offset _ _ room able
    rw [findByTypeEffect, if_neg (by omega), if_neg (by simp), if_pos able]
  · intro item offset _ _ room unable
    rw [findByTypeEffect, if_neg (by omega), if_neg (by simp), if_neg unable]

theorem findByType_fitting (attributes : List Attribute) :
    fitting (fun _ => true) (fun _ => 4) mtuSize.toNat attributes.zipIdx 1 =
      attributes.zipIdx.take ((mtuSize.toNat - 1) / 4) := by
  rw [fitting_uniform (by decide)]
  congr 1
  exact List.takeWhile_eq_self_iff.mpr (by simp)

/-- The handles that the entries of an untyped search hold are counted from 0. -/
def countedEntry (item : Attribute × Nat) : Client.HandlesInfo :=
  ⟨UInt16.ofNat item.2, UInt16.ofNat (item.1.endHandle.getD 0)⟩

/-- The entries of the reply to an untyped search that shows these attributes. -/
def countedPage (attrib : AttrRef → Attribute) (shown : List AttrRef) : List Client.HandlesInfo :=
  (shown.map attrib).zipIdx.map countedEntry

theorem zipIdx_take {α : Type} (items : List α) (count first : Nat) :
    (items.take count).zipIdx first = (items.zipIdx first).take count := by
  induction items generalizing count first with
  | nil => simp
  | cons item items ih =>
    cases count with
    | zero => rfl
    | succ count =>
      rw [List.take_succ_cons, List.zipIdx_cons, List.zipIdx_cons, List.take_succ_cons, ih]

theorem encodeHandles_total (entries : List Client.HandlesInfo) :
    (entries.flatMap Client.encodeHandles).length = 4 * entries.length := by
  induction entries with
  | nil => rfl
  | cons entry entries ih =>
    rw [List.flatMap_cons, List.length_append, ih, List.length_cons, Client.encodeHandles,
      List.length_append, Client.attPutU16_length, Client.attPutU16_length]
    omega

theorem countedPage_length (attrib : AttrRef → Attribute) (shown : List AttrRef) :
    ((countedPage attrib shown).flatMap Client.encodeHandles).length = 4 * shown.length := by
  rw [encodeHandles_total, countedPage, List.length_map, List.length_zipIdx, List.length_map]

variable {world : World} {found : List AttrRef}

theorem forall_zipIdx_take (goal : Attribute → Prop) (found : List AttrRef) (room : Nat) :
    (∀ item ∈ (found.map world.attrib).zipIdx.take room, goal item.1) ↔
      ∀ ref ∈ found.take room, goal (world.attrib ref) := by
  have firsts : ((found.map world.attrib).zipIdx.take room).map Prod.fst =
      (found.take room).map world.attrib := by
    rw [List.map_take, List.zipIdx_map_fst, List.map_take]
  rw [← List.forall_mem_map, firsts, List.forall_mem_map]

theorem findByType_succeeds (world : World) (found : List AttrRef) :
    Ends (findByTypeEffect world.mtuSize none) (fun _ => True) (found.map world.attrib).zipIdx 1 ↔
      ∀ ref ∈ found.take (handleRoom world), fits16 (world.attrib ref).endHandle = true := by
  rw [findByTypeEffect_fills.ends_iff, findByType_fitting]
  simp only [true_and, implies_true, and_true]
  exact forall_zipIdx_take (fun attrib => fits16 attrib.endHandle) found (handleRoom world)

theorem findByType_listed
    (ends : Ends (findByTypeEffect world.mtuSize none) (fun _ => True)
      (found.map world.attrib).zipIdx 1) :
    findByTypeContents world.mtuSize none (found.map world.attrib) = opFindByTypeResponse ::
      (countedPage world.attrib (found.take (handleRoom world))).flatMap Client.encodeHandles := by
  rw [findByTypeContents, findByTypeEffect_fills.taken_eq ends, findByType_fitting, countedPage,
    List.map_take, zipIdx_take, List.flatMap_map, List.singleton_append]
  congr 1
  apply List.flatMap_congr
  intro item _
  rw [findByTypeHandles, Option.isSome_none, if_neg Bool.false_ne_true, countedEntry,
    Client.encodeHandles, put_ofNat, put_ofNat]

theorem countedPage_fits (room : 1 ≤ world.mtuSize.toNat) (found : List AttrRef) :
    (opFindByTypeResponse :: (countedPage world.attrib (found.take (handleRoom world))).flatMap
      Client.encodeHandles).length ≤ world.mtuSize.toNat := by
  have count := List.length_take_le (handleRoom world) found
  rw [List.length_cons, countedPage_length]
  unfold handleRoom at count ⊢
  omega

theorem untyped_printable (host : Host) (uuids : UuidStore) : Printable host uuids none :=
  fun _ _ absent => absurd absent (by simp)

/-- A search for the type 0 has the attributes that there is room for in its reply. -/
theorem findByType_replies (host : Host) (central : CentralRef) {start stop : UInt16} {value : Buffer}
    (room : 1 ≤ world.mtuSize.toNat) (valid : start ≠ 0 ∧ start ≤ stop)
    (search : findAttributes world start.toNat stop.toNat none (some value) = .ok found)
    (some_found : found ≠ []) :
    SendsIf (∀ ref ∈ found.take (handleRoom world), fits16 (world.attrib ref).endHandle = true)
      (createHandler host central (Client.rangeHeader Client.attOpFindByTypeReq start stop ++
        (Client.attPutU16 0 ++ value))) world central
      (opFindByTypeResponse :: (countedPage world.attrib (found.take (handleRoom world))).flatMap
        Client.encodeHandles) := by
  have got : getUuid world.uuids (.number (0 : UInt16).toNat) = .ok (world.uuids, none) := rfl
  have sends := findByType_sends host central valid got search some_found
  have printable := untyped_printable host world.uuids
  rw [← findByType_succeeds]
  refine (sends.congr (and_iff_right printable).symm).pdu fun ends => ?_
  rw [findByType_listed ends]
  exact List.take_of_length_le (countedPage_fits room found)

theorem untyped_kept {store next : UuidStore} {type : Option UuidRef} {number : Nat} (zero : number = 0)
    (got : getUuid store (.number number) = .ok (next, type)) : next = store ∧ type = none := by
  subst zero
  cases got
  exact ⟨rfl, rfl⟩

theorem typed_given {store next : UuidStore} {type : Option UuidRef} {number : Nat}
    (nonzero : number ≠ 0) (small : number ≤ 0xFFFF)
    (got : getUuid store (.number number) = .ok (next, type)) : ∃ ref, type = some ref := by
  have called : getUuid store (.number number) = store.cached (numberKey number)
      (Uuid.new (numberKey number) (some (ofString "0x" ++ upperText (Hex.ofNat number)))) :=
    if_pos ⟨Nat.pos_of_ne_zero nonzero, small⟩
  rw [called] at got
  cases looked : store.uuids.lookup (numberKey number) with
  | some ref =>
    rw [cached_found _ looked] at got
    cases got
    exact ⟨ref, rfl⟩
  | none =>
    obtain ⟨uuid, new⟩ := number_makes small
    rw [cached_made looked new] at got
    cases got
    exact ⟨_, rfl⟩

/-- The entries tell of the attributes exactly if these sit at the handles that are counted. -/
theorem counted_iff (shown : List AttrRef) (small : shown.length ≤ 0xFFFF)
    (ends : ∀ ref ∈ shown, fits16 (world.attrib ref).endHandle = true) :
    ((countedPage world.attrib shown).map fun info =>
        (some info.handle.toNat, some info.groupEndHandle.toNat)) =
      (shown.map fun ref => ((world.attrib ref).handle, (world.attrib ref).endHandle)) ↔
      ∀ i ref, shown[i]? = some ref → (world.attrib ref).handle = some i := by
  have entry : ∀ i ref, shown[i]? = some ref →
      (((countedPage world.attrib shown).map fun info =>
          (some info.handle.toNat, some info.groupEndHandle.toNat))[i]? =
        (shown.map fun ref => ((world.attrib ref).handle, (world.attrib ref).endHandle))[i]? ↔
          (world.attrib ref).handle = some i) := by
    intro i ref there
    obtain ⟨last, ends_at, last_small⟩ := fits16_some (ends ref (List.mem_of_getElem? there))
    have inside := (List.getElem?_eq_some_iff.mp there).1
    simp only [countedPage, List.getElem?_map, List.getElem?_zipIdx, there, Option.map_some,
      Nat.zero_add, Option.some.injEq, countedEntry, ends_at, Option.getD_some]
    rw [UInt16.toNat_ofNat', UInt16.toNat_ofNat', Nat.mod_eq_of_lt (by omega),
      Nat.mod_eq_of_lt (by omega), Prod.mk.injEq, and_iff_left rfl, eq_comm]
  constructor
  · intro same i ref there
    exact (entry i ref there).mp (by rw [same])
  · intro placed
    ext1 i
    cases there : shown[i]? with
    | none => simp [countedPage, there]
    | some ref => exact (entry i ref there).mpr (placed i ref there)

/-- No attribute has a `uuid` that could equal a type, so that a reply to a typed search is empty. -/
theorem findByType_typed_never {host : Host} {central : CentralRef} (room : 23 ≤ world.mtuSize.toNat)
    {start stop number : UInt16} (valid : start ≠ 0 ∧ start ≤ stop) {value : Buffer}
    {uuids : UuidStore} {ref : UuidRef} {found : List AttrRef}
    (got : getUuid world.uuids (.number number.toNat) = .ok (uuids, some ref))
    (search : findAttributes { world with uuids } start.toNat stop.toNat (some ref) (some value) =
      .ok found)
    (some_found : found ≠ []) : ¬ FindByTypeAgrees host central world start stop number value found := by
  have sends := findByType_sends host central valid got search some_found
  rintro ⟨payload, list, sent, parsed, agrees⟩
  have content := ((sends.iff _).mp sent).2
  rw [findByTypeContents_typed, List.take_of_length_le (by simp; omega), List.cons.injEq] at content
  rw [content.2] at parsed
  cases parsed
  have some_room : handleRoom world ≠ 0 := by
    unfold handleRoom
    omega
  obtain ⟨first, rest, rfl⟩ := List.exists_cons_of_ne_nil some_found
  have some_listed : min (first :: rest).length (handleRoom world) ≠ 0 := by
    rw [List.length_cons]
    omega
  obtain ⟨more, count⟩ := Nat.exists_eq_succ_of_ne_zero some_listed
  rw [count] at agrees
  cases agrees

/-- A search for a type that is no UUID takes attributes of every type. Only then are there entries
    in the reply, and they hold places in the list instead of handles. -/
theorem findByType_agrees_iff (host : Host) (central : CentralRef) (world : World)
    (room : 23 ≤ world.mtuSize.toNat) (start stop number : UInt16) (valid : start ≠ 0 ∧ start ≤ stop)
    (value : Buffer) (uuids : UuidStore) (type : Option UuidRef)
    (got : getUuid world.uuids (.number number.toNat) = .ok (uuids, type)) (found : List AttrRef)
    (search : findAttributes { world with uuids } start.toNat stop.toNat type (some value) = .ok found)
    (some_found : found ≠ []) :
    FindByTypeAgrees host central world start stop number value found ↔
      number = 0 ∧ ∀ i ref, (found.take (handleRoom world))[i]? = some ref →
        (world.attrib ref).handle = some i ∧ fits16 (world.attrib ref).endHandle = true := by
  by_cases zero : number = 0
  · subst zero
    obtain ⟨rfl, rfl⟩ := untyped_kept rfl got
    have small : (found.take (handleRoom world)).length ≤ 0xFFFF := by
      have most := world.mtuSize.toNat_lt
      have count := List.length_take_le (handleRoom world) found
      unfold handleRoom at count
      unfold handleRoom
      omega
    have whole : found.take (min found.length (handleRoom world)) = found.take (handleRoom world) := by
      rw [← List.take_take]
      exact List.take_of_length_le (List.length_take_le' _ _)
    have sends := findByType_replies host central (show 1 ≤ world.mtuSize.toNat by omega) valid search
      some_found
    unfold FindByTypeAgrees
    rw [whole]
    constructor
    · rintro ⟨payload, list, sent, parsed, agrees⟩
      obtain ⟨fit, content⟩ := (sends.iff _).mp sent
      rw [(List.cons.inj content).2, Client.parseHandlesInformationList_encoded] at parsed
      cases parsed
      have placed := (counted_iff _ small fit).mp agrees
      exact ⟨rfl, fun i ref there => ⟨placed i ref there, fit ref (List.mem_of_getElem? there)⟩⟩
    · rintro ⟨_, told⟩
      have fit : ∀ ref ∈ found.take (handleRoom world), fits16 (world.attrib ref).endHandle = true := by
        intro ref member
        obtain ⟨i, there⟩ := List.mem_iff_getElem?.mp member
        exact (told i ref there).2
      exact ⟨_, _, (sends.iff _).mpr ⟨fit, rfl⟩, Client.parseHandlesInformationList_encoded [] _,
        (counted_iff _ small fit).mpr fun i ref there => (told i ref there).1⟩
  · have positive : number.toNat ≠ 0 := fun none_given => zero (UInt16.toNat_inj.mp none_given)
    obtain ⟨ref, rfl⟩ := typed_given positive (Nat.le_of_lt_succ number.toNat_lt) got
    exact iff_of_false (findByType_typed_never room valid got search some_found) fun both => zero both.1

theorem twoServices_search :
    findAttributes { twoServices with uuids := twoServices.uuids } 1 0xFF (some 0) (some [0x00, 0x18]) =
      .ok [0] := by rfl

theorem twoServices_typed_iff :
    FindByTypeAgrees plainHost 0 twoServices 1 0xFF 0x2800 [0x00, 0x18] [0] ↔
      (0x2800 : UInt16) = 0 ∧ ∀ i ref, ([0].take (handleRoom twoServices))[i]? = some ref →
        (twoServices.attrib ref).handle = some i ∧
          fits16 (twoServices.attrib ref).endHandle = true :=
  findByType_agrees_iff plainHost 0 twoServices (by decide) 1 0xFF 0x2800 (by decide) [0x00, 0x18]
    twoServices.uuids (some 0) (by rfl) [0] twoServices_search (by decide)

/-- The server has found the first service, and sends a reply without an entry. -/
theorem twoServices_unlisted :
    23 ≤ twoServices.mtuSize.toNat ∧ getUuid twoServices.uuids (.number 0x2800) =
        .ok (twoServices.uuids, some 0) ∧
      findAttributes twoServices 1 0xFF (some 0) (some [0x00, 0x18]) = .ok [0] ∧
      ¬ FindByTypeAgrees plainHost 0 twoServices 1 0xFF 0x2800 [0x00, 0x18] [0] := by
  have got : getUuid twoServices.uuids (.number (0x2800 : UInt16).toNat) =
      .ok (twoServices.uuids, some 0) := by rfl
  exact ⟨by decide, got, twoServices_search,
    findByType_typed_never (by decide) (by decide) got twoServices_search (by decide)⟩

end FindByType

end Btle.Wire

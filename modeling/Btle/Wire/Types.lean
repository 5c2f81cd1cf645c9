import Btle.Server.Searching
import Btle.Server.UuidIdentity
import Btle.Wire.Groups
import Btle.Wire.Handles

namespace Btle.Wire

open Server Throwing Looping Utf16

/-- The range requests that ask for a type, with the fields behind their range. -/
inductive TypedRequest
  | findByType (type : UInt16) (value : Buffer)
  | readByType (field : Buffer)
  | readByGroup (field : Buffer)
  deriving DecidableEq, Repr

namespace TypedRequest

def field : TypedRequest → Buffer
  | .findByType type _ => Client.attPutU16 type
  | .readByType field | .readByGroup field => field

/-- A type field has 2 or 16 bytes. -/
def Formed (request : TypedRequest) : Prop := request.field.length = 2 ∨ request.field.length = 16

def pdu (start stop : UInt16) : TypedRequest → Buffer
  | .findByType type value =>
    Client.rangeHeader Client.attOpFindByTypeReq start stop ++ (Client.attPutU16 type ++ value)
  | .readByType field => Client.rangeHeader Client.attOpReadByTypeReq start stop ++ field
  | .readByGroup field => Client.rangeHeader Client.attOpReadByGroupReq start stop ++ field

/-- What the handler gives `getUUID` to look the type up. -/
def given : TypedRequest → UuidValue
  | .findByType type _ => .number type.toNat
  | .readByType field => .number (word field 0)
  | .readByGroup field => .buffer field

def value : TypedRequest → Option Buffer
  | .findByType _ value => some value
  | .readByType _ | .readByGroup _ => none

/-- A reply with an entry for each of these attributes. -/
def Holds (attrib : AttrRef → Server.Attribute) (shown : List AttrRef) (reply : Buffer) :
    TypedRequest → Prop
  | .findByType _ _ => reply =
      opFindByTypeResponse :: (countedPage attrib shown).flatMap Client.encodeHandles
  | .readByType _ => ∃ len, reply = opReadByTypeResponse :: len ::
      shown.flatMap fun ref => readByTypeItem (attrib ref)
  | .readByGroup _ => ∃ len, reply = opReadByGroupResponse :: len ::
      shown.flatMap fun ref => readByGroupItem (attrib ref)

end TypedRequest

/-- The 128-bit UUID of a type field. -/
def fieldUuid (field : Buffer) : Nat :=
  if field.length = 2 then shortUuid (LittleEndian.number field) else LittleEndian.number field

/-- The 128-bit UUID of an attribute's type. -/
def typeUuid (uuids : UuidStore) (attrib : Server.Attribute) : Option Nat :=
  attrib.type.bind fun ref => uuids.numbers[ref]?

/-- The attributes that the reply to a request reports: those at the front of what is found that have
    an entry in it. The cache is as the search finds it. -/
def Reported (host : Host) (central : CentralRef) (world : World) (request : TypedRequest)
    (start stop : UInt16) (uuids : UuidStore) (shown : List AttrRef) : Prop :=
  ∃ type found reply, getUuid world.uuids request.given = .ok (uuids, type) ∧
    findAttributes { world with uuids } start.toNat stop.toNat type request.value = .ok found ∧
    shown <+: found ∧
    written (createHandler host central (request.pdu start stop)) world = [(central, reply)] ∧
    request.Holds world.attrib shown reply

/-- All that is reported has a type that denotes the UUID asked for. -/
def ReportsTyped (host : Host) (central : CentralRef) (world : World) (request : TypedRequest)
    (start stop : UInt16) : Prop :=
  ∀ uuids shown, Reported host central world request start stop uuids shown →
    ∀ ref ∈ shown, typeUuid uuids (world.attrib ref) = some (fieldUuid request.field)

/-- The attributes that a reply of values tells of, if what is found can be sent and a first value has
    room in it. -/
def RepliesValues (world : World) (found shown : List AttrRef) : Prop :=
  ∃ first rest value, found = first :: rest ∧ (world.attrib first).value = some value ∧
    value.length + 6 ≤ world.mtuSize.toNat ∧ shown = shownValues world value.length found ∧
    Sendable world shown found

/-- The attributes that a reply of handles tells of, if these can be sent. -/
def RepliesHandles (world : World) (found shown : List AttrRef) : Prop :=
  shown = found.take (handleRoom world) ∧
    ∀ ref ∈ shown, fits16 (world.attrib ref).endHandle = true

namespace TypedRequest

/-- The type is looked up under the number that the field stands for. -/
def LooksRight : TypedRequest → Prop
  | .findByType type _ => type ≠ 0
  | .readByType field => word field 0 ≠ 0 ∧
      (field.length = 2 ∨ LittleEndian.number field = shortUuid 0x34FB)
  | .readByGroup _ => True

/-- The table is such that a wrong number does no harm: nothing is told of, or the number 0, for which
    attributes of every type are found, finds only attributes of the right one. -/
def Harmless (host : Host) (world : World) (start stop : UInt16) : TypedRequest → Prop
  | .findByType _ value => start ≠ 0 →
      (∀ ref ∈ attributesIn world start.toNat stop.toNat none, (world.attrib ref).value ≠ none) →
      ∀ shown, RepliesHandles world ((attributesIn world start.toNat stop.toNat none).filter fun ref =>
          (world.attrib ref).value = some value) shown →
        ∀ ref ∈ shown, typeUuid world.uuids (world.attrib ref) = some (shortUuid 0)
  | .readByType field => ∀ uuids type,
      getUuid world.uuids (.number (word field 0)) = .ok (uuids, type) → Printable host uuids type →
      ∀ shown, RepliesValues world (attributesIn world start.toNat stop.toNat type) shown →
        word field 0 = 0 ∧
          ∀ ref ∈ shown, typeUuid world.uuids (world.attrib ref) = some (fieldUuid field)
  | .readByGroup _ => False

end TypedRequest

section Fields

variable {store : UuidStore}

theorem sound_of_consistent (consistent : store.Consistent) : Sound store := by
  intro key ref ascii found
  rcases consistent.cached key ref found with ⟨uuid, inside, rfl | ⟨string, rfl, _, upper⟩⟩
  · exact ⟨uuid, inside, rfl⟩
  · exact ⟨uuid, inside, by rw [← upper, string.ascii ascii, uuidNumber_upperText]⟩

/-- Whatever type is looked up, the object denotes it. -/
theorem getUuid_denotes (consistent : store.Consistent) {value : UuidValue} (valid : Valid store value)
    {next : UuidStore} {type : Option UuidRef} (got : getUuid store value = .ok (next, type)) :
    ∃ ref, type = some ref ∧ next.numbers[ref]? = some (denotes store value) := by
  obtain ⟨last, ref, stepped, _, returned⟩ := uuidStep_returned (sound_of_consistent consistent) valid
  unfold uuidStep at stepped
  rw [got] at stepped
  cases type with
  | none => cases stepped
  | some found =>
    cases stepped
    exact ⟨_, rfl, returned.number⟩

theorem word_mod (field : Buffer) : word field 0 = LittleEndian.number field % 0x10000 := by
  have split := LittleEndian.number_append (field.take 2) (field.drop 2)
  have low := LittleEndian.number_lt (field.take 2)
  rw [List.take_append_drop] at split
  rw [word, List.drop_zero, split]
  by_cases long : 2 ≤ field.length
  · have two : (field.take 2).length = 2 := by rw [List.length_take]; omega
    rw [two] at low ⊢
    omega
  · have whole : field.drop 2 = [] := List.drop_eq_nil_iff.mpr (by omega)
    have few : (field.take 2).length ≤ 1 := by rw [List.length_take]; omega
    have small := Nat.pow_le_pow_right (show 0 < 256 by decide) few
    rw [whole, LittleEndian.number_nil]
    omega

/-- The first two bytes of a field are its own number only in two bytes, and in the one long UUID that
    begins with the last two bytes of the base UUID. -/
theorem shortUuid_word (field : Buffer) :
    shortUuid (word field 0) = fieldUuid field ↔
      field.length = 2 ∨ LittleEndian.number field = shortUuid 0x34FB := by
  have low := word_mod field
  unfold fieldUuid
  by_cases two : field.length = 2
  · have small := LittleEndian.number_lt field
    rw [two] at small
    have whole : LittleEndian.number field % 0x10000 = LittleEndian.number field :=
      Nat.mod_eq_of_lt small
    rw [if_pos two, low, whole]
    exact iff_of_true rfl (.inl two)
  · rw [if_neg two, or_iff_right two]
    unfold shortUuid
    constructor
    · intro same
      omega
    · intro same
      omega

theorem fieldUuid_put (type : UInt16) : fieldUuid (Client.attPutU16 type) = shortUuid type.toNat := by
  have bound : type.toNat < 256 ^ 2 := type.toNat_lt
  rw [fieldUuid, if_pos (Client.attPutU16_length type), Client.attPutU16, LittleEndian.number_bytes,
    Nat.mod_eq_of_lt bound]

end Fields

section Found

variable {host : Host} {central : CentralRef} {world : World} {start stop : UInt16}
  {uuids : UuidStore} {type : Option UuidRef} {found shown : List AttrRef} {request : TypedRequest}

theorem found_type {first last : Nat} {value : Option Buffer} {wanted : UuidRef}
    (search : findAttributes { world with uuids } first last (some wanted) value = .ok found)
    {ref : AttrRef} (member : ref ∈ found) : (world.attrib ref).type = some wanted := by
  have inside := (((findAttributes_suits search).2 ref).mp member).1
  obtain ⟨_, _, _, _, suits⟩ := (mem_attributesIn { world with uuids } _ _ _).mp inside
  exact suits.resolve_left (by simp)

/-- What is reported after a lookup is of the type that was looked up. -/
theorem reported_typed (consistent : world.uuids.Consistent)
    (valid : Valid world.uuids request.given)
    (reported : Reported host central world request start stop uuids shown) :
    ∀ ref ∈ shown,
      typeUuid uuids (world.attrib ref) = some (denotes world.uuids request.given) := by
  intro ref member
  obtain ⟨type, found, reply, got, search, front, _⟩ := reported
  obtain ⟨wanted, rfl, number⟩ := getUuid_denotes consistent valid got
  have wanted_type := found_type search (front.subset member)
  rw [typeUuid, wanted_type, Option.bind_some, number]

end Found

section ReadByType

variable {host : Host} {central : CentralRef} {world : World} {start stop : UInt16} {field : Buffer}
  {uuids : UuidStore} {shown : List AttrRef}

theorem repliesValues_nonempty {found : List AttrRef} (replies : RepliesValues world found shown) :
    ∃ first, first ∈ shown := by
  obtain ⟨first, rest, value, rfl, valued, room, rfl, _⟩ := replies
  exact List.exists_mem_of_ne_nil _ ((shownValues_nonempty rest valued).mpr room)

/-- What a reply of values tells of: if anything, then all that is shown. -/
theorem readByType_reported (host : Host) (central : CentralRef) (formed : 2 ≤ field.length)
    (some_shown : shown ≠ []) :
    Reported host central world (.readByType field) start stop uuids shown ↔
      ∃ type, getUuid world.uuids (.number (word field 0)) = .ok (uuids, type) ∧
        Printable host uuids type ∧
        RepliesValues world (attributesIn world start.toNat stop.toNat type) shown := by
  constructor
  · rintro ⟨type, found, reply, got, search, front, sent, len, holds⟩
    have all : found = attributesIn world start.toNat stop.toNat type :=
      Except.ok.inj (search.symm.trans (findAttributes_any _ _ _ _))
    obtain ⟨first, rest, split⟩ : ∃ first rest, found = first :: rest :=
      List.exists_cons_of_ne_nil fun nothing => some_shown (List.prefix_nil.mp (nothing ▸ front))
    rw [split] at search front all
    have raw := readByType_sends host central formed got search (List.cons_ne_nil first rest)
    obtain ⟨⟨_, value, valued, _⟩, content⟩ := (raw.iff _).mp sent
    have room : 2 ≤ world.mtuSize.toNat := by
      have most := List.length_take_le world.mtuSize.toNat
        (readByTypeContents world.mtuSize ((first :: rest).map world.attrib))
      rw [← content, holds, List.length_cons, List.length_cons] at most
      omega
    have sends := readByType_replies host central room formed got search valued
    obtain ⟨⟨printable, sendable⟩, page⟩ := (sends.iff _).mp sent
    rw [holds, valuesPage, List.flatMap_map] at page
    simp only [encodeData_dataOf] at page
    have same : shown = shownValues world value.length (first :: rest) := by
      refine prefix_eq_of_total (fun ref => ?_) front (shownValues_front world _ _)
        (congrArg List.length (List.cons.inj (List.cons.inj page).2).2)
      exact encodeData_dataOf world ref ▸ Client.encodeData_ne_nil (dataOf world ref)
    refine ⟨type, got, printable, ?_⟩
    rw [← all]
    exact ⟨first, rest, value, rfl, valued, (shownValues_nonempty rest valued).mp (same ▸ some_shown),
      same, same ▸ sendable⟩
  · rintro ⟨type, got, printable, first, rest, value, split, valued, room, rfl, sendable⟩
    have search : findAttributes { world with uuids } start.toNat stop.toNat type none =
        .ok (attributesIn world start.toNat stop.toNat type) := findAttributes_any _ _ _ _
    rw [split] at search sendable ⊢
    have least : 2 ≤ world.mtuSize.toNat := by omega
    have sends := readByType_replies host central least formed got search valued
    refine ⟨type, first :: rest, _, got, search, shownValues_front world _ _,
      (sends.iff _).mpr ⟨⟨printable, sendable⟩, rfl⟩, UInt8.ofNat (value.length + 2), ?_⟩
    rw [valuesPage, List.flatMap_map]
    simp only [encodeData_dataOf]

theorem number_valid {store : UuidStore} {number : Nat} (nonzero : number ≠ 0)
    (small : number ≤ 0xFFFF) : Valid store (.number number) := ⟨Nat.pos_of_ne_zero nonzero, small⟩

theorem readByType_typed_iff (host : Host) (central : CentralRef) (start stop : UInt16)
    (consistent : world.uuids.Consistent) (formed : field.length = 2 ∨ field.length = 16) :
    ReportsTyped host central world (.readByType field) start stop ↔
      (TypedRequest.readByType field).LooksRight ∨
        (TypedRequest.readByType field).Harmless host world start stop := by
  have long : 2 ≤ field.length := by omega
  have looked {uuids : UuidStore} {shown : List AttrRef} (nonzero : word field 0 ≠ 0)
      (reported : Reported host central world (.readByType field) start stop uuids shown) :
      ∀ ref ∈ shown, typeUuid uuids (world.attrib ref) = some (shortUuid (word field 0)) :=
    reported_typed consistent (number_valid nonzero (word_small field 0)) reported
  constructor
  · intro typed
    by_cases right : (TypedRequest.readByType field).LooksRight
    · exact .inl right
    · right
      intro uuids type got printable shown replies
      obtain ⟨first, there⟩ := repliesValues_nonempty replies
      have reported := (readByType_reported host central long (List.ne_nil_of_mem there)).mpr
        ⟨type, got, printable, replies⟩
      have told := typed uuids shown reported
      have zero : word field 0 = 0 := by
        by_contra nonzero
        have same := (looked nonzero reported first there).symm.trans (told first there)
        exact right ⟨nonzero, (shortUuid_word field).mp (Option.some.inj same)⟩
      rw [(untyped_kept zero got).1] at told
      exact ⟨zero, told⟩
  · rintro (⟨nonzero, alike⟩ | harmless) uuids shown reported ref member
    · rw [looked nonzero reported ref member, (shortUuid_word field).mpr alike]
      rfl
    · rcases (readByType_reported host central long (List.ne_nil_of_mem member)).mp reported with
        ⟨type, got, printable, replies⟩
      obtain ⟨zero, told⟩ := harmless uuids type got printable shown replies
      rw [(untyped_kept zero got).1]
      exact told ref member

end ReadByType

section FindByType

variable {world : World} {start stop : UInt16} {value : Buffer} {uuids : UuidStore}
  {shown : List AttrRef}

/-- The handle 0 begins no range. -/
theorem findByType_refused (host : Host) (central : CentralRef) (world : World) (stop : UInt16)
    (value : Buffer) :
    written (createHandler host central ((TypedRequest.findByType 0 value).pdu 0 stop)) world =
      [(central, errorPdu host world.sent.length errorInvalidHandle opFindByTypeRequest 0)] := by
  have size := rangeData_length 0 stop (Client.attPutU16 0 ++ value)
  have zero : word (rangeData 0 stop (Client.attPutU16 0 ++ value)) 0 = 0 := rangeData_start 0 stop _
  have untyped : word (rangeData 0 stop (Client.attPutU16 0 ++ value)) 4 = 0 := by
    rw [rangeData_type, word_put]
    rfl
  have fields : (Client.attPutU16 0 ++ value).length = 2 + value.length := by simp
  have handled : (handleFindByType host central
      (rangeData 0 stop (Client.attPutU16 0 ++ value))).run world =
        (Central.write central
          (errorPdu host world.sent.length errorInvalidHandle opFindByTypeRequest 0)).run world := by
    refine (field_read (by omega) _ world).trans
      ((field_read (by omega) _ world).trans ((field_read (by omega) _ world).trans ?_))
    rw [untyped, zero,
      ← sendError_run host world central errorInvalidHandle opFindByTypeRequest (by decide)]
    exact (getUuidOf_ok rfl).trans (logType_printable (untyped_printable host world.uuids))
  have whole : written (handleFindByType host central
      (rangeData 0 stop (Client.attPutU16 0 ++ value))) world =
        [(central, errorPdu host world.sent.length errorInvalidHandle opFindByTypeRequest 0)] := by
    rw [written_congr handled rfl, written_write]
  rw [TypedRequest.pdu, rangeHeader_eq]
  exact whole

theorem attributesIn_backwards {world : World} {type : Option UuidRef} {first last : Nat}
    (backwards : last ≤ first) : attributesIn world first last type = [] := by
  have none_there := attributesIn_length world first last type
  exact List.length_eq_zero_iff.mp (by omega)

/-- What a reply of handles tells of, if a type is not asked for: if anything, then all that is shown. -/
theorem findByType_reported (host : Host) (central : CentralRef) (some_shown : shown ≠ []) :
    Reported host central world (.findByType 0 value) start stop uuids shown ↔
      uuids = world.uuids ∧ start ≠ 0 ∧
        (∀ ref ∈ attributesIn world start.toNat stop.toNat none, (world.attrib ref).value ≠ none) ∧
        RepliesHandles world ((attributesIn world start.toNat stop.toNat none).filter fun ref =>
          (world.attrib ref).value = some value) shown := by
  have ordered {found : List AttrRef} (all : found = (attributesIn world start.toNat stop.toNat
      none).filter fun ref => (world.attrib ref).value = some value) (some_found : found ≠ []) :
      start ≤ stop := by
    apply UInt16.le_iff_toNat_le.mpr
    by_contra backwards
    rw [attributesIn_backwards (by omega)] at all
    exact some_found all
  constructor
  · rintro ⟨type, found, reply, got, search, front, sent, holds⟩
    obtain ⟨rfl, rfl⟩ := untyped_kept rfl got
    obtain ⟨valued, all⟩ := (findAttributes_valued _ _ _ _ value).mp search
    have some_found : found ≠ [] := fun nothing => some_shown (List.prefix_nil.mp (nothing ▸ front))
    have nonzero : start ≠ 0 := by
      rintro rfl
      rw [findByType_refused] at sent
      cases sent
      cases holds
    have valid : start ≠ 0 ∧ start ≤ stop := ⟨nonzero, ordered all some_found⟩
    have raw := findByType_sends host central valid got search some_found
    have room : 1 ≤ world.mtuSize.toNat := by
      have most := List.length_take_le world.mtuSize.toNat
        (findByTypeContents world.mtuSize none (found.map world.attrib))
      rw [← ((raw.iff _).mp sent).2, holds, List.length_cons] at most
      omega
    have sends := findByType_replies host central room valid search some_found
    obtain ⟨fits, page⟩ := (sends.iff _).mp sent
    rw [holds] at page
    have same : shown = found.take (handleRoom world) := by
      have sizes := congrArg List.length (List.cons.inj page).2
      rw [countedPage_length, countedPage_length] at sizes
      have count : shown.length = (found.take (handleRoom world)).length := by omega
      have whole := List.prefix_of_prefix_length_le front (List.take_prefix _ _) count.le
      exact whole.eq_of_length count
    exact ⟨rfl, nonzero, valued, all ▸ same, same ▸ fits⟩
  · rintro ⟨rfl, nonzero, valued, shown_eq, fits⟩
    have search := (findAttributes_valued world _ _ _ value).mpr ⟨valued, rfl⟩
    have some_found : (attributesIn world start.toNat stop.toNat none).filter
        (fun ref => (world.attrib ref).value = some value) ≠ [] := by
      intro nothing
      rw [nothing, List.take_nil] at shown_eq
      exact some_shown shown_eq
    have room : 1 ≤ world.mtuSize.toNat := by
      by_contra small
      have none_fit : handleRoom world = 0 := by
        unfold handleRoom
        omega
      rw [none_fit, List.take_zero] at shown_eq
      exact some_shown shown_eq
    have sends := findByType_replies host central room ⟨nonzero, ordered rfl some_found⟩ search some_found
    rw [← shown_eq] at sends
    exact ⟨none, _, _, rfl, search, shown_eq ▸ List.take_prefix _ _, (sends.iff _).mpr ⟨fits, rfl⟩, rfl⟩

theorem findByType_typed_iff (host : Host) (central : CentralRef) (start stop : UInt16)
    (consistent : world.uuids.Consistent) (type : UInt16) (value : Buffer) :
    ReportsTyped host central world (.findByType type value) start stop ↔
      (TypedRequest.findByType type value).LooksRight ∨
        (TypedRequest.findByType type value).Harmless host world start stop := by
  have asked : fieldUuid (TypedRequest.findByType type value).field = shortUuid type.toNat :=
    fieldUuid_put type
  by_cases zero : type = 0
  · subst zero
    have wrong : ¬ (TypedRequest.findByType 0 value).LooksRight := fun right => right rfl
    rw [or_iff_right wrong]
    constructor
    · intro typed nonzero valued shown replies ref member
      have reported := (findByType_reported host central (List.ne_nil_of_mem member)).mpr
        ⟨rfl, nonzero, valued, replies⟩
      rw [typed world.uuids shown reported ref member, asked]
      rfl
    · intro harmless uuids shown reported ref member
      rcases (findByType_reported host central (List.ne_nil_of_mem member)).mp reported with
        ⟨rfl, nonzero, valued, replies⟩
      rw [harmless nonzero valued shown replies ref member, asked]
      rfl
  · refine iff_of_true (fun uuids shown reported ref member => ?_) (.inl zero)
    have positive : type.toNat ≠ 0 := fun none_given => zero (UInt16.toNat_inj.mp none_given)
    have valid : Valid world.uuids (TypedRequest.findByType type value).given :=
      number_valid positive (Nat.le_of_lt_succ type.toNat_lt)
    rw [reported_typed consistent valid reported ref member, asked]
    rfl

end FindByType

/-- A field that `getUUID` has no UUID for is no filter, and only the reads of groups take all bytes of
    a field. -/
theorem typed_requests_report_iff (host : Host) (central : CentralRef) (world : World)
    (radix16 : ℚ → Text) (history : List UuidInput)
    (cache : world.uuids = cacheAfter radix16 history) (request : TypedRequest)
    (formed : request.Formed) (start stop : UInt16) :
    ReportsTyped host central world request start stop ↔
      request.LooksRight ∨ request.Harmless host world start stop := by
  have consistent : world.uuids.Consistent := cache ▸ cacheAfter_consistent radix16 history
  cases request with
  | findByType type value => exact findByType_typed_iff host central start stop consistent type value
  | readByType field => exact readByType_typed_iff host central start stop consistent formed
  | readByGroup field =>
    refine iff_of_true (fun uuids shown reported ref member => ?_) (.inl trivial)
    have valid : Valid world.uuids (TypedRequest.readByGroup field).given := formed
    exact reported_typed consistent valid reported ref member

theorem twoServices_report_iff :
    ReportsTyped plainHost 0 twoServices (.readByType [0x00, 0x28]) 1 0xFF ↔
      (TypedRequest.readByType [0x00, 0x28]).LooksRight ∨
        (TypedRequest.readByType [0x00, 0x28]).Harmless plainHost twoServices 1 0xFF :=
  typed_requests_report_iff plainHost 0 twoServices (fun _ => []) [.string (.of "0x2800")] (by rfl)
    (.readByType [0x00, 0x28]) (.inl rfl) 1 0xFF

/-- A read of the type 0x0000 gets both services, as if it had asked for any type. -/
theorem twoServices_mistyped :
    twoServices.uuids = cacheAfter (fun _ => []) [.string (.of "0x2800")] ∧
      (TypedRequest.readByType [0x00, 0x00]).Formed ∧
      ¬ ReportsTyped plainHost 0 twoServices (.readByType [0x00, 0x00]) 1 0xFF := by
  refine ⟨by rfl, .inl rfl, fun typed => ?_⟩
  have reported : Reported plainHost 0 twoServices (.readByType [0x00, 0x00]) 1 0xFF
      twoServices.uuids [0, 1] := by
    refine ⟨none, [0, 1], [opReadByTypeResponse, 4, 1, 0, 0x00, 0x18, 4, 0, 0x0F, 0x18], by rfl,
      by rfl, List.prefix_refl _, ?_, 4, by rfl⟩
    decide +kernel
  have told := typed twoServices.uuids [0, 1] reported 0 List.mem_cons_self
  revert told
  decide +kernel

end Btle.Wire

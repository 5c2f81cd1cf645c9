import Btle.Server.UuidObjects

namespace Btle.Server

open Utf16

/-- A key that a number below 0x1000 makes. -/
def ShortKey (key : Text) : Prop :=
  ∃ digits, Hex.IsDigits digits ∧ 0 < digits.length ∧ digits.length < 4 ∧
    key = ofString "0000" ++ digits ++ baseUuid

def ValidKey (key : Text) : Prop := IsLong key ∨ ShortKey key

def UuidInput.Valid (store : UuidStore) : UuidInput → Prop
  | .string value => IsShort value.units ∨ IsLong value.units
  | .number value => ∃ num : Nat, value = .finite num ∧ 1 ≤ num ∧ num ≤ 0xFFFF
  | .buffer value => value.length = 2 ∨ value.length = 16
  | .object ref => ref < store.objects.length

section Keys

variable {string key : Text}

theorem shortToLong_length (string : Text) :
    (shortToLong string).length = (string.length - 2) + 32 := by
  have four : (ofString "0000").length = 4 := by decide
  have base : baseUuid.length = 28 := by decide
  rw [shortToLong, List.length_append, List.length_append, List.length_drop, four, base]
  omega

theorem isLong_shortToLong (digits : Hex.IsDigits (string.drop 2)) (four : (string.drop 2).length = 4) :
    IsLong (shortToLong string) := by
  refine ⟨ofString "0000" ++ string.drop 2 ++ ofString "0000" ++ ofString "1000" ++ ofString "8000" ++
    ofString "00805f9b34fb", ?_, ofString "0000" ++ string.drop 2, ofString "0000", ofString "1000",
    ofString "8000", ofString "00805f9b34fb", rfl, ⟨?_, rfl, rfl, rfl, rfl⟩, ?_⟩
  · intro c member
    simp only [List.mem_append] at member
    have zeros : Hex.IsDigits (ofString "0000") := by decide
    have version : Hex.IsDigits (ofString "1000") := by decide
    have variant : Hex.IsDigits (ofString "8000") := by decide
    have node : Hex.IsDigits (ofString "00805f9b34fb") := by decide
    rcases member with ((((inside | inside) | inside) | inside) | inside) | inside
    · exact zeros c inside
    · exact digits c inside
    · exact zeros c inside
    · exact version c inside
    · exact variant c inside
    · exact node c inside
  · rw [List.length_append, four]
    rfl
  · rfl

theorem IsLong.length (long : IsLong string) : string.length = 36 := by
  rcases long with ⟨digits, _, dashed⟩
  exact dashed.length

theorem IsLong.upper (long : IsLong string) : IsLong (upperText string) := by
  rcases long with ⟨digits, valid, dashed⟩
  exact ⟨upperText digits, Hex.isDigits_upperText valid, dashed.upper⟩

theorem ShortKey.length (short : ShortKey key) : 32 < key.length ∧ key.length < 36 := by
  rcases short with ⟨digits, _, some_digit, few, rfl⟩
  have four : (ofString "0000").length = 4 := by decide
  have base : baseUuid.length = 28 := by decide
  simp only [List.length_append, four, base]
  omega

theorem ValidKey.length (valid : ValidKey key) : key.length ≤ 36 := by
  rcases valid with long | short
  · exact Nat.le_of_eq long.length
  · exact Nat.le_of_lt short.length.2

theorem ValidKey.isLong (valid : ValidKey key) (size : key.length = 36) : IsLong key := by
  rcases valid with long | short
  · exact long
  · exact absurd size (Nat.ne_of_lt short.length.2)

theorem ValidKey.ascii (valid : ValidKey key) : IsAscii key := by
  rcases valid with long | ⟨digits, allowed, _, _, rfl⟩
  · exact long.ascii
  · have zeros : IsAscii (ofString "0000") := by decide
    have base : IsAscii baseUuid := by decide
    exact List.forall_mem_append.mpr ⟨List.forall_mem_append.mpr ⟨zeros, allowed.ascii⟩, base⟩

/-- No upper case holds the base of the short UUIDs. -/
theorem base_lowered (string : JsString) : ¬ ∀ unit ∈ baseUuid, unit ∈ string.upperCase := by
  intro inside
  exact string.unlowered 0x66 (inside 0x66 (by decide)) (by decide)

theorem ShortKey.not_upper (short : ShortKey key) (string : JsString) : key ≠ string.upperCase := by
  rintro rfl
  rcases short with ⟨digits, _, _, _, same⟩
  apply base_lowered string
  intro unit member
  rw [same]
  exact List.mem_append_right _ member

theorem shortOf_digits (radix16 : ℚ → Text) (num : Nat) :
    (shortOf radix16 num).drop 2 = upperText (Hex.ofNat num) := by
  simp only [shortOf, toString16, Rat.den_natCast, if_true, Rat.num_natCast, Int.toNat_natCast]
  exact List.drop_left' rfl

theorem bufferToString_other {buffer : Buffer} (other : buffer.length ≠ 2) :
    bufferToString buffer =
      (Hex.ofBytes buffer.reverse).take 8 ++ [dash] ++ ((Hex.ofBytes buffer.reverse).drop 8).take 4 ++
        [dash] ++ ((Hex.ofBytes buffer.reverse).drop 12).take 4 ++ [dash] ++
          ((Hex.ofBytes buffer.reverse).drop 16).take 4 ++ [dash] ++
            (Hex.ofBytes buffer.reverse).drop 20 := by
  unfold bufferToString
  split
  · exact absurd rfl other
  · rfl

/-- Where a buffer has a dash, a key that a small number makes has none. -/
theorem bufferToString_not_short (buffer : Buffer) : ¬ ShortKey (bufferToString buffer) := by
  intro short
  have range := short.length
  by_cases two : buffer.length = 2
  · rcases List.length_eq_two.mp two with ⟨low, high, rfl⟩
    have size : (bufferToString [low, high]).length = 36 := rfl
    rw [size] at range
    omega
  · have digits := Hex.ofBytes_length buffer.reverse
    rw [bufferToString_other two] at short range
    generalize Hex.ofBytes buffer.reverse = str at short range digits
    simp only [List.length_append, List.length_take, List.length_drop, List.length_cons,
      List.length_nil] at range
    rw [List.length_reverse] at digits
    rcases short with ⟨piece, _, some_digit, few, same⟩
    have lengths := congrArg List.length same
    have four : (ofString "0000").length = 4 := by decide
    have base : baseUuid.length = 28 := by decide
    simp only [List.length_append, List.length_take, List.length_drop, List.length_cons,
      List.length_nil, four, base] at lengths
    have pair : piece.length = 2 := by omega
    rcases List.length_eq_two.mp pair with ⟨first, second, rfl⟩
    have ninth := congrArg (fun text => text[8]?) same
    have front : (str.take 8).length = 8 := by
      rw [List.length_take]
      omega
    simp only [List.append_assoc] at ninth
    rw [List.getElem?_append_right (by omega), front] at ninth
    cases ninth

theorem entry_valid (radix16 : ℚ → Text) {store : UuidStore} {input : UuidInput}
    (valid : input.Valid store) (given : ∀ ref, input ≠ .object ref) :
    ∃ entry, input.entry radix16 = some entry ∧ ValidKey entry.key := by
  cases input with
  | object ref => exact absurd rfl (given ref)
  | string value =>
    rcases valid with short | long
    · refine ⟨_, entry_short radix16 short, .inl (isLong_shortToLong ?_ ?_)⟩
      · rw [value.ascii short.ascii, upperText_drop]
        exact Hex.isDigits_upperText short.2.2
      · rw [value.ascii short.ascii, List.length_drop, upperText_length, short.2.1]
    · rcases long with ⟨digits, allowed, dashed⟩
      exact ⟨_, entry_long radix16 dashed.length dashed.has_dash, .inl ⟨digits, allowed, dashed⟩⟩
  | number value =>
    rcases valid with ⟨num, rfl, positive, small⟩
    have range : 0 < (num : ℚ) ∧ (num : ℚ) ≤ 0xFFFF := by
      norm_cast
    have digits : (shortOf radix16 num).drop 2 = upperText (Hex.ofNat num) := shortOf_digits radix16 num
    have allowed : Hex.IsDigits ((shortOf radix16 num).drop 2) := by
      rw [digits]
      exact Hex.isDigits_upperText (Hex.ofNat_digits num)
    have few : (Hex.ofNat num).length ≤ 4 := Hex.ofNat_length (by omega)
    have some_digit : 0 < (Hex.ofNat num).length := by
      simp only [Hex.ofNat, List.length_map, List.length_reverse]
      exact List.length_pos_iff.mpr (Nat.digits_ne_nil_iff_ne_zero.mpr (by omega))
    have length : ((shortOf radix16 num).drop 2).length = (Hex.ofNat num).length := by
      rw [digits, upperText_length]
    refine ⟨_, entry_finite radix16 range, ?_⟩
    by_cases four : (Hex.ofNat num).length = 4
    · exact .inl (isLong_shortToLong allowed (length.trans four))
    · exact .inr ⟨(shortOf radix16 num).drop 2, allowed, by omega, by omega, rfl⟩
  | buffer value =>
    refine ⟨_, rfl, .inl ?_⟩
    rcases valid with short | long
    · rcases List.length_eq_two.mp short with ⟨low, high, rfl⟩
      rcases bufferToString_short low high with ⟨digits, allowed, dashed, _⟩
      exact ⟨digits, allowed, dashed⟩
    · exact ⟨_, Hex.ofBytes_digits _, bufferToString_long long⟩

end Keys

/-- `length()`. -/
def Uuid.length (uuid : Uuid) : Except JsError Nat :=
  match uuid.buffer with
  | none => .error (.typeError "Cannot read property 'length' of undefined")
  | some buffer => .ok buffer.length

/-- `toString()`; what is not long prints its short string, be there one or not. -/
def Uuid.toString (uuid : Uuid) : Except JsError (Option Text) := do
  if (← uuid.length) = 16 then return some uuid.longString else return uuid.shortString

/-- The buffer of an object is what its text is turned into, and as long as the text asks for. -/
def Uuid.Neat (uuid : Uuid) : Prop :=
  ∃ bytes, uuid.buffer = some bytes ∧ stringToBuffer uuid.text = .ok (some bytes) ∧
    (bytes.length = 2 ∧ uuid.shortString = some uuid.text ∨
      bytes.length = 16 ∧ uuid.shortString = none)

section Objects

variable {uuid : Uuid} {key string : Text}

theorem hexBuffer_number : ∀ {digits : Text}, Hex.IsDigits digits → digits.length % 2 = 0 →
    ∃ bytes, hexBuffer digits = .ok bytes ∧ 2 * bytes.length = digits.length ∧
      LittleEndian.number bytes.reverse = Hex.value digits
  | [], _, _ => ⟨[], rfl, rfl, rfl⟩
  | [_], _, even => by simp at even
  | high :: low :: rest, valid, even => by
    rcases Option.ne_none_iff_exists'.mp (valid high (by simp)) with ⟨upper, first⟩
    rcases Option.ne_none_iff_exists'.mp (valid low (by simp)) with ⟨lower, second⟩
    obtain ⟨bytes, read, length, number⟩ : ∃ bytes, hexBuffer rest = .ok bytes ∧
        2 * bytes.length = rest.length ∧ LittleEndian.number bytes.reverse = Hex.value rest :=
      hexBuffer_number (fun c member => valid c (by simp [member])) (by simp at even; omega)
    have upper_small := Hex.digit?_lt first
    have lower_small := Hex.digit?_lt second
    have byte : (UInt8.ofNat (16 * upper + lower)).toNat = 16 * upper + lower := by
      rw [UInt8.toNat_ofNat']
      omega
    refine ⟨UInt8.ofNat (16 * upper + lower) :: bytes, ?_, ?_, ?_⟩
    · simp only [hexBuffer, first, second, read, bind, Except.bind]
      rfl
    · simp only [List.length_cons]
      omega
    · have power : 16 ^ rest.length = 256 ^ bytes.length := by
        rw [← length, pow_mul]
        norm_num
      rw [List.reverse_cons, LittleEndian.number_append, LittleEndian.number_cons,
        LittleEndian.number_nil, number, byte, List.length_reverse, Hex.value_cons, Hex.value_cons,
        List.length_cons, Hex.digit, Hex.digit, first, second, Option.getD_some, Option.getD_some,
        pow_succ, power]
      ring

theorem stringToBuffer_short (few : string.length ≤ 6) :
    stringToBuffer string = .ok (some (LittleEndian.bytes 2 (toInt32 string))) := by
  have other : ¬ string.length = 36 := by omega
  rw [stringToBuffer, if_neg other, if_pos few]

theorem stringToBuffer_long (long : IsLong string) :
    ∃ bytes, stringToBuffer string = .ok (some bytes) ∧ bytes.length = 16 ∧
      LittleEndian.number bytes = uuidNumber string := by
  rcases long with ⟨digits, valid, dashed⟩
  have size := dashed.digits_length
  rcases hexBuffer_number valid (by rw [size]) with ⟨bytes, read, length, number⟩
  refine ⟨bytes.reverse, ?_, ?_, ?_⟩
  · rw [stringToBuffer, if_pos dashed.length, dashed.pieces, read]
    rfl
  · rw [List.length_reverse]
    omega
  · rw [number, dashed.uuidNumber valid]

theorem Uuid.Under.cases (under : uuid.Under key) (valid : ValidKey key) :
    uuid.longString.length = key.length ∧ (IsLong key → IsLong uuid.longString) ∧
      (ShortKey key → key = uuid.longString) := by
  rcases under with rfl | ⟨string, rfl, size, upper⟩
  · exact ⟨rfl, fun long => long, fun _ => rfl⟩
  · rw [← upper, string.ascii valid.ascii]
    refine ⟨upperText_length _, fun long => long.upper, fun short => ?_⟩
    exact absurd size (Nat.ne_of_lt short.length.2)

theorem neat_under (made : uuid.Made) (under : uuid.Under key) (valid : ValidKey key) : uuid.Neat := by
  rcases under.cases valid with ⟨length, long, short⟩
  rcases new_strings made.new with ⟨_, _, read⟩
  have madeAs := made.made
  have size := valid.length
  have short_neat : ∀ text, uuid.shortString = some text → text.length ≤ 6 → uuid.Neat := by
    intro text some_text few
    rw [some_text, spelling, Option.getD_some, stringToBuffer_short few] at read
    have same : uuid.text = text := by
      rw [Uuid.text, some_text]
      rfl
    refine ⟨_, (Except.ok.inj read).symm, ?_, .inl ⟨rfl, ?_⟩⟩
    · rw [same, stringToBuffer_short few]
    · rw [same, some_text]
  have long_neat : uuid.shortString = none → IsLong uuid.longString → uuid.Neat := by
    intro no_text is_long
    rcases stringToBuffer_long is_long with ⟨bytes, turned, sixteen, _⟩
    have same : uuid.text = uuid.longString := by
      rw [Uuid.text, no_text]
      rfl
    rw [no_text, spelling, Option.getD_none, turned] at read
    refine ⟨bytes, (Except.ok.inj read).symm, ?_, .inr ⟨sixteen, no_text⟩⟩
    rw [same, turned]
  generalize given : uuid.shortString = shortString at madeAs
  cases madeAs with
  | long string thirty_six same =>
    apply long_neat given
    rcases valid with is_long | is_short
    · exact long is_long
    · exact absurd ((short is_short).trans same) (is_short.not_upper string)
  | short text marked same =>
    apply short_neat text given
    have total := shortToLong_length (upperText text)
    rw [← same, length, upperText_length] at total
    omega
  | turned buffer same =>
    cases found : longToShort uuid.longString with
    | some text => exact short_neat text (given.trans found) (longToShort_length found)
    | none =>
      apply long_neat (given.trans found)
      rcases valid with is_long | is_short
      · exact long is_long
      · rw [short is_short, same] at is_short
        exact absurd is_short (bufferToString_not_short buffer)

theorem Uuid.Neat.toString (neat : uuid.Neat) : uuid.toString = .ok (some uuid.text) := by
  rcases neat with ⟨bytes, buffer, _, ⟨two, short⟩ | ⟨sixteen, short⟩⟩
  · simp only [Uuid.toString, Uuid.length, buffer, bind, Except.bind, two]
    exact congrArg Except.ok short
  · simp only [Uuid.toString, Uuid.length, buffer, bind, Except.bind, sixteen]
    rw [Uuid.text, short]
    rfl

/-- The same `toBuffer()` bytes, `length()` and `toString()`. -/
def Uuid.SameAs (uuid other : Uuid) : Prop :=
  uuid.buffer = other.buffer ∧ uuid.length = other.length ∧ uuid.toString = other.toString

theorem sameAs_iff {other : Uuid} (neat : uuid.Neat) (other_neat : other.Neat) :
    uuid.SameAs other ↔ uuid.text = other.text := by
  constructor
  · intro same
    have texts := same.2.2
    rw [neat.toString, other_neat.toString] at texts
    exact Option.some.inj (Except.ok.inj texts)
  · intro texts
    have buffers : uuid.buffer = other.buffer := by
      rcases neat with ⟨bytes, buffer, turned, _⟩
      rcases other_neat with ⟨other_bytes, other_buffer, other_turned, _⟩
      rw [texts, other_turned] at turned
      rw [buffer, other_buffer, Except.ok.inj turned]
    refine ⟨buffers, ?_, ?_⟩
    · rw [Uuid.length, Uuid.length, buffers]
    · rw [neat.toString, other_neat.toString, texts]

end Objects

section Histories

open Memo

variable (radix16 : ℚ → Text)

/-- The key and the text that a call brings to the cache. -/
def UuidInput.offer (store : UuidStore) : UuidInput → Option (Text × Text)
  | .object ref => store.objects[ref]?.map fun uuid => (uuid.longString, uuid.text)
  | input => (input.entry radix16).map fun entry => (entry.key, entry.text)

/-- The text that the first call under a key gave for it. -/
def firstText (key : Text) (history : List UuidInput) : Option Text :=
  firstOffer (UuidStore.called radix16) (fun store input => input.offer radix16 store) key .empty history

/-- How the UUID of an input was given first, which is now if it was not before. -/
def originText (history : List UuidInput) : UuidInput → Text
  | .object ref => (((cacheAfter radix16 history).objects[ref]?).map Uuid.text).getD []
  | input =>
    ((input.entry radix16).map fun entry =>
      (firstText radix16 entry.key history).getD entry.text).getD []

def UuidStore.returned (store : UuidStore) (input : UuidInput) : Option Uuid :=
  match getUuidFor radix16 store input with
  | .ok (next, some ref) => next.objects[ref]?
  | .ok (_, none) | .error _ => none

def ReturnsSame (store other : UuidStore) (input : UuidInput) : Prop :=
  ∃ uuid twin, store.returned radix16 input = some uuid ∧ other.returned radix16 input = some twin ∧
    uuid.SameAs twin

variable {store : UuidStore} {input : UuidInput} {entry : UuidEntry} {key : Text}

theorem make_valid (found : input.entry radix16 = some entry) (valid : ValidKey entry.key) :
    ∃ uuid, entry.make = .ok uuid := by
  rcases entry_madeAs radix16 found with ⟨madeAs, under⟩
  have size := valid.length
  have total : entry.longString.length = entry.key.length := by
    rcases under with same | ⟨string, same, _, upper⟩
    · rw [same]
    · rw [← upper, ← same, string.ascii (same ▸ valid.ascii), upperText_length]
  obtain ⟨buffer, read⟩ : ∃ buffer, stringToBuffer entry.text = .ok buffer := by
    unfold UuidEntry.text
    generalize given : entry.shortString = shortString at madeAs
    have long_read : (entry.longString.length = 36 → IsLong entry.longString) →
        ∃ buffer, stringToBuffer entry.longString = .ok buffer := by
      intro is_long
      by_cases long : entry.longString.length = 36
      · rcases stringToBuffer_long (is_long long) with ⟨bytes, turned, _⟩
        exact ⟨_, turned⟩
      · unfold stringToBuffer
        rw [if_neg long]
        split
        · exact ⟨_, rfl⟩
        · exact ⟨_, rfl⟩
    have is_long : entry.longString.length = 36 → IsLong entry.longString := by
      intro thirty_six
      have key_long := valid.isLong (total.symm.trans thirty_six)
      rcases under with same | ⟨string, same, _, upper⟩
      · rwa [← same]
      · rw [← upper, string.ascii (same ▸ valid.ascii), same]
        exact key_long.upper
    cases madeAs with
    | long string thirty_six same => exact long_read is_long
    | short text marked same =>
      have length := shortToLong_length (upperText text)
      rw [← same, total, upperText_length] at length
      exact ⟨_, stringToBuffer_short (show text.length ≤ 6 by omega)⟩
    | turned buffer same =>
      cases short : longToShort entry.longString with
      | some text => exact ⟨_, stringToBuffer_short (longToShort_length short)⟩
      | none => exact long_read is_long
  exact ⟨_, new_of_buffer read⟩

theorem offer_given (given : ∀ ref, input ≠ .object ref) (store : UuidStore) :
    input.offer radix16 store =
      (input.entry radix16).map fun entry => (entry.key, entry.text) := by
  cases input with
  | object ref => exact absurd rfl (given ref)
  | string | number | buffer => rfl

theorem originText_given (given : ∀ ref, input ≠ .object ref) (history : List UuidInput) :
    originText radix16 history input = ((input.entry radix16).map fun entry =>
      (firstText radix16 entry.key history).getD entry.text).getD [] := by
  cases input with
  | object ref => exact absurd rfl (given ref)
  | string | number | buffer => rfl

theorem entry_text {uuid : Uuid} (made : entry.make = .ok uuid) : uuid.text = entry.text := by
  rcases new_strings made with ⟨long, short, _⟩
  rw [Uuid.text, long, short]
  rfl

/-- Under a valid key the text is kept that the first call under it gives. -/
theorem called_wins (valid : ValidKey key) :
    FirstWins (UuidStore.called radix16) (fun store => (store.entry key).map Uuid.text)
      (fun store input => input.offer radix16 store) key UuidStore.Consistent := by
  intro store input consistent
  have kept : ∀ text, ((store.entry key).map Uuid.text).isSome →
      (store.entry key).map Uuid.text = ((store.entry key).map Uuid.text).or text := by
    intro text present
    rw [Option.or_of_isSome present]
  have present_of : ∀ ref, store.uuids.lookup key = some ref →
      ((store.entry key).map Uuid.text).isSome := by
    intro ref looked
    have there : store.entry key ≠ none := fun nothing =>
      by simp [(entry_none_iff consistent).mp nothing] at looked
    simpa [Option.isSome_iff_ne_none] using there
  dsimp only
  unfold UuidStore.called
  by_cases given : ∀ ref, input ≠ .object ref
  · cases found : input.entry radix16 with
    | none =>
      rw [getUuidFor_none radix16 store given found, offer_given radix16 given, found,
        Option.map_none, offered_none, Option.or_none]
    | some entry =>
      rw [getUuidFor_some radix16 store found, offer_given radix16 given, found, Option.map_some]
      cases looked : store.uuids.lookup entry.key with
      | some ref =>
        rw [cached_found _ looked]
        by_cases same : entry.key = key
        · exact kept _ (present_of ref (same ▸ looked))
        · rw [offered_other same, Option.or_none]
      | none =>
        by_cases same : entry.key = key
        · rcases make_valid radix16 found (same ▸ valid) with ⟨uuid, made⟩
          have nothing : store.entry key = none :=
            (entry_none_iff consistent).mpr (same ▸ looked)
          rw [cached_made looked made]
          dsimp only
          rw [entry_made consistent, if_pos same.symm, nothing, same, offered_self]
          exact congrArg some (entry_text made)
        · rw [offered_other same, Option.or_none]
          cases made : entry.make with
          | error thrown => rw [cached_failed looked rfl]
          | ok uuid =>
            rw [cached_made looked rfl]
            dsimp only
            rw [entry_made consistent, if_neg (Ne.symm same)]
  · rcases not_forall_not.mp given with ⟨ref, rfl⟩
    rw [getUuidFor, UuidInput.offer]
    cases present : store.objects[ref]? with
    | none =>
      rw [object_unknown present, Option.map_none, offered_none, Option.or_none]
    | some uuid =>
      rw [Option.map_some]
      cases looked : store.uuids.lookup uuid.longString with
      | some other =>
        rw [object_known present looked]
        by_cases same : uuid.longString = key
        · exact kept _ (present_of other (same ▸ looked))
        · rw [offered_other same, Option.or_none]
      | none =>
        rw [object_registered present looked]
        dsimp only
        by_cases same : uuid.longString = key
        · have nothing : store.entry key = none :=
            (entry_none_iff consistent).mpr (same ▸ looked)
          rw [entry_registered, if_pos same.symm, present, nothing, same, offered_self]
          rfl
        · rw [entry_registered, if_neg (Ne.symm same), offered_other same, Option.or_none]

theorem cacheAfter_text (valid : ValidKey key) (history : List UuidInput) :
    ((cacheAfter radix16 history).entry key).map Uuid.text = firstText radix16 key history := by
  have preserve : ∀ (store : UuidStore) input, store.Consistent →
      (store.called radix16 input).Consistent :=
    fun _ input consistent => called_consistent radix16 consistent input
  have kept := entry_foldl (called_wins radix16 valid) preserve consistent_empty history
  have nothing : UuidStore.entry .empty key = none := rfl
  rwa [nothing, Option.map_none, Option.none_or] at kept

theorem returned_under (consistent : store.Consistent) (given : input.entry radix16 = some entry)
    {uuid : Uuid} (returned : store.returned radix16 input = some uuid) :
    uuid.Made ∧ uuid.Under entry.key := by
  unfold UuidStore.returned at returned
  rw [getUuidFor_some radix16 store given] at returned
  cases looked : store.uuids.lookup entry.key with
  | some ref =>
    rcases consistent.cached entry.key ref looked with ⟨cached, present, under⟩
    rw [cached_found _ looked] at returned
    cases present.symm.trans returned
    exact ⟨consistent.made _ (List.mem_of_getElem? present), under⟩
  | none =>
    cases made : entry.make with
    | error thrown =>
      rw [cached_failed looked made] at returned
      cases returned
    | ok fresh =>
      rw [cached_made looked made] at returned
      have same : fresh = uuid := by simpa using returned
      rw [← same]
      exact made_of_entry radix16 given made

theorem returned_text (consistent : store.Consistent) (given : input.entry radix16 = some entry)
    (valid : ValidKey entry.key) :
    ∃ uuid, store.returned radix16 input = some uuid ∧ uuid.Neat ∧
      uuid.text = ((store.entry entry.key).map Uuid.text).getD entry.text := by
  have found : ∃ uuid, store.returned radix16 input = some uuid ∧
      uuid.text = ((store.entry entry.key).map Uuid.text).getD entry.text := by
    unfold UuidStore.returned
    rw [getUuidFor_some radix16 store given]
    cases looked : store.uuids.lookup entry.key with
    | some ref =>
      rcases consistent.cached entry.key ref looked with ⟨uuid, present, _⟩
      have there : store.entry entry.key = some uuid := by
        rw [UuidStore.entry, looked]
        exact present
      rw [cached_found _ looked, there]
      exact ⟨uuid, present, rfl⟩
    | none =>
      rcases make_valid radix16 given valid with ⟨uuid, made⟩
      rw [cached_made looked made, (entry_none_iff consistent).mpr looked]
      exact ⟨uuid, by simp, entry_text made⟩
  rcases found with ⟨uuid, returned, text⟩
  rcases returned_under radix16 consistent given returned with ⟨made, under⟩
  exact ⟨uuid, returned, neat_under made under valid, text⟩

theorem called_objects (store : UuidStore) (input : UuidInput) :
    ∃ more, (store.called radix16 input).objects = store.objects ++ more := by
  rcases called_cases radix16 store input with same | ⟨entry, uuid, _, _, same⟩ | ⟨ref, uuid, _, same⟩
  · exact ⟨[], by rw [same, List.append_nil]⟩
  · exact ⟨[uuid], by rw [same]⟩
  · exact ⟨[], by rw [same, List.append_nil]⟩

theorem cacheAfter_objects {ref : UuidRef} {uuid : Uuid} {common : List UuidInput}
    (present : (cacheAfter radix16 common).objects[ref]? = some uuid) (later : List UuidInput) :
    (cacheAfter radix16 (common ++ later)).objects[ref]? = some uuid := by
  have preserve : ∀ (store : UuidStore) input, store.objects[ref]? = some uuid →
      (store.called radix16 input).objects[ref]? = some uuid := by
    intro store input inside
    rcases called_objects radix16 store input with ⟨more, grown⟩
    have bound := (List.getElem?_eq_some_iff.mp inside).1
    rw [grown, List.getElem?_append_left bound, inside]
  rw [cacheAfter, List.foldl_append]
  exact foldl_invariant preserve present later

theorem object_returned {ref : UuidRef} {uuid : Uuid} (present : store.objects[ref]? = some uuid) :
    store.returned radix16 (.object ref) = some uuid := by
  unfold UuidStore.returned
  rw [getUuidFor]
  cases looked : store.uuids.lookup uuid.longString with
  | some other =>
    rw [object_known present looked]
    exact present
  | none =>
    rw [object_registered present looked]
    exact present

end Histories

/-- What a call returns is the same after two histories, if both gave the UUID in the same way first.
    What an object of the cache is given to may have gone on from a common history. -/
theorem histories_agree_iff (radix16 : ℚ → Text) (common first second : List UuidInput)
    (input : UuidInput) (valid : input.Valid (cacheAfter radix16 common)) :
    ReturnsSame radix16 (cacheAfter radix16 (common ++ first)) (cacheAfter radix16 (common ++ second))
        input ↔
      originText radix16 (common ++ first) input = originText radix16 (common ++ second) input := by
  by_cases given : ∀ ref, input ≠ .object ref
  · rcases entry_valid radix16 valid given with ⟨entry, found, valid_key⟩
    have returned : ∀ history, ∃ uuid, (cacheAfter radix16 history).returned radix16 input = some uuid ∧
        uuid.Neat ∧ uuid.text = originText radix16 history input := by
      intro history
      rcases returned_text radix16 (cacheAfter_consistent radix16 history) found valid_key with
        ⟨uuid, returned, neat, text⟩
      refine ⟨uuid, returned, neat, ?_⟩
      rw [text, cacheAfter_text radix16 valid_key, originText_given radix16 given, found]
      rfl
    rcases returned (common ++ first) with ⟨uuid, returned_first, neat, text⟩
    rcases returned (common ++ second) with ⟨twin, returned_second, twin_neat, twin_text⟩
    rw [← text, ← twin_text, ← sameAs_iff neat twin_neat]
    constructor
    · rintro ⟨_, _, returns, twin_returns, same⟩
      cases returned_first.symm.trans returns
      cases returned_second.symm.trans twin_returns
      exact same
    · intro same
      exact ⟨uuid, twin, returned_first, returned_second, same⟩
  · rcases not_forall_not.mp given with ⟨ref, rfl⟩
    rcases List.getElem?_eq_some_iff.mpr ⟨valid, rfl⟩ with present
    have here := cacheAfter_objects radix16 present first
    have there := cacheAfter_objects radix16 present second
    apply iff_of_true
    · exact ⟨_, _, object_returned radix16 here, object_returned radix16 there, rfl, rfl, rfl⟩
    · rw [originText, originText, here, there]

def pairedHistory : List UuidInput := [.string (.of "0x24a0"), .buffer [0xA0, 0x24]]

theorem pairedHistory_agree :
    UuidInput.Valid (cacheAfter (fun _ => []) []) (.number (.finite 0x24A0)) ∧
      (ReturnsSame (fun _ => []) (cacheAfter (fun _ => []) ([] ++ [])) (cacheAfter (fun _ => [])
          ([] ++ pairedHistory)) (.number (.finite 0x24A0)) ↔
        originText (fun _ => []) ([] ++ []) (.number (.finite 0x24A0)) =
          originText (fun _ => []) ([] ++ pairedHistory) (.number (.finite 0x24A0))) := by
  have valid : UuidInput.Valid (cacheAfter (fun _ => []) []) (.number (.finite 0x24A0)) :=
    ⟨0x24A0, rfl, by decide, by decide⟩
  exact ⟨valid, histories_agree_iff (fun _ => []) [] [] pairedHistory _ valid⟩

def longBattery : UuidInput := .string (.of "0000180F-0000-1000-8000-00805f9b34fb")

/-- The string of a long UUID makes one of 16 bytes, or finds one of 2 that a short string has made. -/
theorem longBattery_depends :
    longBattery.Valid (cacheAfter (fun _ => []) []) ∧
      ¬ ReturnsSame (fun _ => []) (cacheAfter (fun _ => []) ([] ++ []))
        (cacheAfter (fun _ => []) ([] ++ [.string (.of "0x180F")])) longBattery := by
  have long : IsLong (ofString "0000180F-0000-1000-8000-00805f9b34fb") :=
    isLong_shortToLong (show Hex.IsDigits ((ofString "0x180F").drop 2) by decide) (by decide)
  refine ⟨.inr long, ?_⟩
  rintro ⟨uuid, twin, returned, twin_returned, same, _⟩
  have sixteen : (((cacheAfter (fun _ => []) ([] ++ [])).returned (fun _ => []) longBattery).bind
      Uuid.buffer).map List.length = some 16 := by decide +kernel
  have two : (((cacheAfter (fun _ => []) ([] ++ [.string (.of "0x180F")])).returned (fun _ => [])
      longBattery).bind Uuid.buffer).map List.length = some 2 := by decide +kernel
  rw [returned, Option.bind_some, same] at sixteen
  rw [twin_returned, Option.bind_some, sixteen] at two
  cases two

end Btle.Server

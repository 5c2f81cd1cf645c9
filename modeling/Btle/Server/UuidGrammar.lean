import Btle.Server.UuidHistories

namespace Btle.Server

open Utf16

/-- What is a UUID: `0x` and 4 hex digits, 36 characters of a long one, a 16-bit number but 0, or a
    buffer of 2 or 16 bytes. -/
def UuidInput.InGrammar : UuidInput → Prop
  | .string value =>
    (value.units.take 2 = ofString "0x" ∧ value.units.length = 6 ∧
      Hex.IsDigits (value.units.drop 2)) ∨ IsLong value.units
  | .number value => ∃ num : Nat, value = .finite num ∧ 1 ≤ num ∧ num ≤ 0xFFFF
  | .buffer value => value.length = 2 ∨ value.length = 16
  | .object _ => False

def UuidInput.denoted : UuidInput → Nat
  | .string value =>
    if value.units.length = 36 then uuidNumber value.units else shortUuid (Hex.value (value.units.drop 2))
  | .number (.finite num) => shortUuid num.num.toNat
  | .buffer value =>
    if value.length = 2 then shortUuid (LittleEndian.number value) else LittleEndian.number value
  | .number .nan | .number (.infinite _) | .object _ => 0

/-- A well-formed long string of this number, and the bytes of its short or of its long form. -/
def Uuid.Represents (uuid : Uuid) (number : Nat) : Prop :=
  IsLong uuid.longString ∧ uuidNumber uuid.longString = number ∧ ∃ bytes, uuid.buffer = some bytes ∧
    (bytes.length = 2 ∧ shortUuid (LittleEndian.number bytes) = number ∨
      bytes.length = 16 ∧ LittleEndian.number bytes = number)

def ParsesWell (radix16 : ℚ → Text) (store : UuidStore) (input : UuidInput) : Prop :=
  (input.InGrammar → ∃ uuid, store.returned radix16 input = some uuid ∧ uuid.Represents input.denoted) ∧
    (¬ input.InGrammar → ∃ next, getUuidFor radix16 store input = .ok (next, none))

/-- What gets past the checks and is no UUID, and the numbers below 0x1000, of which the digits are
    not filled up. -/
def UuidInput.SlipsThrough : UuidInput → Prop
  | .string value =>
    (value.units.length = 36 ∧ dash ∈ value.units ∧ ¬ IsLong value.units) ∨
      (value.units.take 2 = ofString "0X" ∧ value.units.length = 6 ∧ Hex.IsDigits (value.units.drop 2))
  | .number (.finite num) => 0 < num ∧ num ≤ 0xFFFF ∧ (num.den ≠ 1 ∨ num < 0x1000)
  | .buffer value => value.length ≠ 2 ∧ value.length ≠ 16
  | .number .nan | .number (.infinite _) | .object _ => False

section Objects

variable {uuid : Uuid} {key string : Text}

theorem shortToLong_digits (long : IsLong (shortToLong string)) : Hex.IsDigits (string.drop 2) := by
  rcases long with ⟨digits, valid, first, second, third, fourth, fifth, rfl, ⟨eight, _⟩, same⟩
  have fronts := congrArg (List.take 8) same
  have length : (shortToLong string).length = 36 := by
    rw [same]
    simp only [List.length_append, List.length_cons]
    omega
  have four : (string.drop 2).length = 4 := by
    have total := shortToLong_length string
    rw [List.length_drop]
    omega
  have zeros : (ofString "0000").length = 4 := by decide
  have front : (ofString "0000" ++ string.drop 2).length = 8 := by
    rw [List.length_append, zeros, four]
  rw [shortToLong, ← front, List.take_left, front, ← eight, List.take_left] at fronts
  intro c member
  apply valid c
  have inside : c ∈ first := by
    rw [← fronts]
    exact List.mem_append_right _ member
  simp only [List.append_assoc]
  exact List.mem_append_left _ inside

theorem shortToLong_longToShort {short : Text} (found : longToShort key = some short) :
    HasHexPrefix short ∧ shortToLong short = key := by
  unfold longToShort at found
  split at found
  · rename_i form
    rcases form with ⟨zeros, base⟩
    cases found
    refine ⟨.inl rfl, ?_⟩
    have middle := List.take_append_drop 4 (key.drop 4)
    rw [List.drop_drop] at middle
    show ofString "0000" ++ (key.drop 4).take 4 ++ baseUuid = key
    rw [← zeros, ← base, List.append_assoc, middle, List.take_append_drop]
  · cases found

/-- The two bytes of a short string are the number that its digits are. -/
theorem short_bytes (marked : HasHexPrefix string) (few : string.length ≤ 6)
    (digits : Hex.IsDigits (string.drop 2)) :
    LittleEndian.number (LittleEndian.bytes 2 (toInt32 string)) = Hex.value (string.drop 2) := by
  have bound := Hex.value_lt (string.drop 2)
  have power : 16 ^ (string.drop 2).length ≤ 16 ^ 4 := by
    apply Nat.pow_le_pow_right (by decide)
    rw [List.length_drop]
    omega
  rw [LittleEndian.number_bytes, toInt32, if_pos ⟨marked, digits⟩]
  apply Nat.mod_eq_of_lt
  omega

theorem Uuid.Made.long_bytes (made : uuid.Made) (long : IsLong uuid.longString)
    (unshortened : uuid.shortString = none) :
    ∃ bytes, uuid.buffer = some bytes ∧ bytes.length = 16 ∧
      LittleEndian.number bytes = uuidNumber uuid.longString := by
  rcases new_strings made.new with ⟨_, _, read⟩
  rcases stringToBuffer_long long with ⟨bytes, turned, sixteen, equal⟩
  rw [unshortened, spelling, Option.getD_none, turned] at read
  exact ⟨bytes, (Except.ok.inj read).symm, sixteen, equal⟩

theorem Uuid.Made.short_bytes (made : uuid.Made) {text : Text} (shortened : uuid.shortString = some text)
    (marked : HasHexPrefix text) (few : text.length ≤ 6) (digits : Hex.IsDigits (text.drop 2))
    (equal : uuidNumber uuid.longString = shortUuid (Hex.value (text.drop 2))) :
    ∃ bytes, uuid.buffer = some bytes ∧ bytes.length = 2 ∧
      shortUuid (LittleEndian.number bytes) = uuidNumber uuid.longString := by
  rcases new_strings made.new with ⟨_, _, read⟩
  rw [shortened, spelling, Option.getD_some, stringToBuffer_short few] at read
  refine ⟨_, (Except.ok.inj read).symm, rfl, ?_⟩
  rw [equal, Server.short_bytes marked few digits]

theorem represents_under (made : uuid.Made) (under : uuid.Under key) (long : IsLong key) :
    uuid.Represents (uuidNumber key) := by
  have is_long : IsLong uuid.longString := (under.cases (.inl long)).2.1 long
  have number : uuidNumber uuid.longString = uuidNumber key := by
    rcases under with rfl | ⟨string, rfl, _, upper⟩
    · rfl
    · rw [← upper, string.ascii long.ascii, uuidNumber_upperText]
  refine ⟨is_long, number, ?_⟩
  rw [← number]
  have madeAs := made.made
  generalize given : uuid.shortString = shortString at madeAs
  cases madeAs with
  | long string thirty_six same =>
    rcases made.long_bytes is_long given with ⟨bytes, buffer, right⟩
    exact ⟨bytes, buffer, .inr right⟩
  | short text marked same =>
    have total := shortToLong_length (upperText text)
    rw [← same, is_long.length, upperText_length] at total
    have upper_digits := shortToLong_digits (same ▸ is_long)
    have digits : Hex.IsDigits (text.drop 2) := by
      intro c member
      rw [← Hex.digit?_upper]
      apply upper_digits
      rw [upperText_drop]
      exact List.mem_map_of_mem member
    have equal : uuidNumber uuid.longString = shortUuid (Hex.value (text.drop 2)) := by
      rw [same, uuidNumber_shortToLong upper_digits, upperText_drop, Hex.value_upperText]
    rcases made.short_bytes given marked (by omega) digits equal with ⟨bytes, buffer, right⟩
    exact ⟨bytes, buffer, .inl right⟩
  | turned buffer same =>
    cases found : longToShort uuid.longString with
    | none =>
      rcases made.long_bytes is_long (given.trans found) with ⟨bytes, buffer, right⟩
      exact ⟨bytes, buffer, .inr right⟩
    | some text =>
      rcases shortToLong_longToShort found with ⟨marked, whole⟩
      have digits : Hex.IsDigits (text.drop 2) := shortToLong_digits (whole.symm ▸ is_long)
      have equal : uuidNumber uuid.longString = shortUuid (Hex.value (text.drop 2)) := by
        rw [← whole, uuidNumber_shortToLong digits]
      rcases made.short_bytes (given.trans found) marked (longToShort_length found) digits equal with
        ⟨bytes, buffer, right⟩
      exact ⟨bytes, buffer, .inl right⟩

end Objects

section Inputs

variable (radix16 : ℚ → Text) {store : UuidStore} {input : UuidInput} {entry : UuidEntry}

theorem ofNat_four {num : Nat} (small : num ≤ 0xFFFF) :
    (Hex.ofNat num).length = 4 ↔ 0x1000 ≤ num := by
  have below : (Hex.ofNat num).length ≤ 3 ↔ num < 0x1000 := by
    rw [Hex.ofNat, List.length_map, List.length_reverse]
    exact Nat.digits_length_le_iff (by decide) num
  have few : (Hex.ofNat num).length ≤ 4 := Hex.ofNat_length (by omega)
  omega

/-- A number has a long string of full length from 0x1000 on. -/
theorem number_isLong {num : Nat} (small : num ≤ 0xFFFF) :
    IsLong (shortToLong (shortOf radix16 num)) ↔ 0x1000 ≤ num := by
  have length : ((shortOf radix16 num).drop 2).length = (Hex.ofNat num).length := by
    rw [shortOf_digits, upperText_length]
  rw [← ofNat_four small, ← length]
  constructor
  · intro long
    have total := shortToLong_length (shortOf radix16 num)
    rw [long.length] at total
    rw [List.length_drop]
    omega
  · intro four
    apply isLong_shortToLong ?_ four
    rw [shortOf_digits]
    exact Hex.isDigits_upperText (Hex.ofNat_digits num)

theorem natural_of_den {num : ℚ} (positive : 0 < num) (whole : num.den = 1) :
    ∃ natural : Nat, num = natural := by
  have integer : (num.num : ℚ) = num := Rat.coe_int_num_of_den_eq_one whole
  have signed : 0 < num.num := Rat.num_pos.mpr positive
  refine ⟨num.num.toNat, ?_⟩
  have natural : (num.num.toNat : ℤ) = num.num := Int.toNat_of_nonneg (Int.le_of_lt signed)
  rw [← integer, ← natural]
  rfl

theorem string_slips_iff {string : JsString}
    (found : (UuidInput.string string).entry radix16 = some entry) :
    ¬ (UuidInput.string string).SlipsThrough ↔ (UuidInput.string string).InGrammar ∧ IsLong entry.key := by
  unfold UuidInput.entry at found
  unfold UuidInput.SlipsThrough UuidInput.InGrammar
  by_cases long : string.units.length = 36
  · by_cases dashed : dash ∈ string.units
    · simp only [if_pos long, if_pos dashed, Option.some.injEq] at found
      subst found
      have other : ¬ string.units.length = 6 := by omega
      simp [long, dashed]
    · simp [if_pos long, if_neg dashed] at found
  · by_cases short : IsShort string.units
    · simp only [if_neg long, if_pos short, Option.some.injEq] at found
      subst found
      rcases short with ⟨marked, six, digits⟩
      have key_long : IsLong (shortToLong string.upperCase) := by
        rw [string.ascii (IsShort.ascii ⟨marked, six, digits⟩)]
        apply isLong_shortToLong
        · rw [upperText_drop]
          exact Hex.isDigits_upperText digits
        · rw [List.length_drop, upperText_length, six]
      have not_long : ¬ IsLong string.units := fun is_long => long is_long.length
      have lower_not_upper : ¬ ofString "0x" = ofString "0X" := by decide
      have upper_not_lower : ¬ ofString "0X" = ofString "0x" := by decide
      have differs : ¬ 6 = 36 := by decide
      simp only [six, differs, digits, key_long, not_long, false_and, false_or, and_true,
        or_false]
      rcases marked with lower | upper
      · rw [lower]
        apply iff_of_true
        · exact lower_not_upper
        · rfl
      · rw [upper]
        exact iff_of_false (fun slips => slips rfl) upper_not_lower
    · simp [if_neg long, if_neg short] at found

theorem number_slips_iff {num : ℚ}
    (found : (UuidInput.number (.finite num)).entry radix16 = some entry) :
    ¬ (UuidInput.number (.finite num)).SlipsThrough ↔
      (UuidInput.number (.finite num)).InGrammar ∧ IsLong entry.key := by
  unfold UuidInput.entry at found
  unfold UuidInput.SlipsThrough UuidInput.InGrammar
  by_cases range : 0 < num ∧ num ≤ 0xFFFF
  · simp only [if_pos range, Option.some.injEq] at found
    subst found
    rcases range with ⟨positive, small⟩
    by_cases whole : num.den = 1
    · rcases natural_of_den positive whole with ⟨natural, rfl⟩
      have bound : natural ≤ 0xFFFF := by exact_mod_cast small
      have some_one : 0 < natural := by exact_mod_cast positive
      have member : ∃ num : Nat, JsNumber.finite natural = .finite num ∧ 1 ≤ num ∧ num ≤ 0xFFFF :=
        ⟨natural, rfl, some_one, bound⟩
      have below : (natural : ℚ) < 0x1000 ↔ natural < 0x1000 := by norm_cast
      rw [number_isLong radix16 bound, and_iff_right member]
      simp only [positive, small, whole, below, ne_eq, not_true_eq_false, false_or, true_and]
      omega
    · apply iff_of_false
      · exact not_not.mpr ⟨positive, small, .inl whole⟩
      · rintro ⟨⟨natural, equal, _⟩, _⟩
        cases equal
        exact whole rfl
  · simp [if_neg range] at found

theorem buffer_slips_iff {buffer : Buffer}
    (found : (UuidInput.buffer buffer).entry radix16 = some entry) :
    ¬ (UuidInput.buffer buffer).SlipsThrough ↔ (UuidInput.buffer buffer).InGrammar ∧ IsLong entry.key := by
  cases found
  have size_iff : ¬ (UuidInput.buffer buffer).SlipsThrough ↔ (UuidInput.buffer buffer).InGrammar := by
    show ¬ (buffer.length ≠ 2 ∧ buffer.length ≠ 16) ↔ buffer.length = 2 ∨ buffer.length = 16
    omega
  rw [size_iff]
  constructor
  · intro size
    refine ⟨size, ?_⟩
    rcases size with short | long
    · rcases List.length_eq_two.mp short with ⟨low, high, rfl⟩
      rcases bufferToString_short low high with ⟨digits, allowed, dashed, _⟩
      exact ⟨digits, allowed, dashed⟩
    · exact ⟨_, Hex.ofBytes_digits _, bufferToString_long long⟩
  · exact fun both => both.1

/-- What makes an entry is parsed as it should be exactly if it is in the grammar and its key is a
    whole long string. -/
theorem slips_iff (found : input.entry radix16 = some entry) :
    ¬ input.SlipsThrough ↔ input.InGrammar ∧ IsLong entry.key := by
  cases input with
  | object ref => cases found
  | string string => exact string_slips_iff radix16 found
  | number number =>
    cases number with
    | nan => cases found
    | infinite negative => cases found
    | finite num => exact number_slips_iff radix16 found
  | buffer buffer => exact buffer_slips_iff radix16 found

theorem UuidInput.InGrammar.valid (inside : input.InGrammar) (store : UuidStore) :
    input.Valid store := by
  cases input with
  | string value =>
    rcases inside with ⟨lower, six, digits⟩ | long
    · exact .inl ⟨.inl lower, six, digits⟩
    · exact .inr long
  | number value => exact inside
  | buffer value => exact inside
  | object ref => exact inside.elim

theorem entry_of_slips (slips : input.SlipsThrough) : input.entry radix16 ≠ none := by
  cases input with
  | string value =>
    rcases slips with ⟨long, dashed, _⟩ | ⟨upper, six, digits⟩
    · rw [entry_long radix16 long dashed]
      exact nofun
    · rw [entry_short radix16 ⟨.inr upper, six, digits⟩]
      exact nofun
  | number value =>
    cases value with
    | nan => exact slips.elim
    | infinite negative => exact slips.elim
    | finite num =>
      rw [entry_finite radix16 ⟨slips.1, slips.2.1⟩]
      exact nofun
  | buffer value => exact nofun
  | object ref => exact slips.elim

theorem entry_denoted (found : input.entry radix16 = some entry) (inside : input.InGrammar) :
    uuidNumber entry.key = input.denoted := by
  cases input with
  | object ref => cases found
  | string value =>
    have valid : Valid .empty (.string value) := inside.valid .empty
    have not_object : ∀ ref, UuidValue.string value ≠ .object ref := fun _ => UuidValue.noConfusion
    rcases getUuid_cached valid not_object with ⟨_, _, _, number⟩
    have key : entry.key = cacheKey (.string value) := by
      rcases valid with short | long
      · have other : ¬ value.units.length = 36 := by
          rw [short.2.1]
          decide
        cases (entry_short radix16 short).symm.trans found
        exact (if_neg other).symm
      · rcases long with ⟨digits, _, dashed⟩
        cases (entry_long radix16 dashed.length dashed.has_dash).symm.trans found
        exact (if_pos dashed.length).symm
    rw [key, number]
    rfl
  | number value =>
    rcases inside with ⟨num, rfl, positive, small⟩
    have valid : Valid .empty (.number num) := ⟨positive, small⟩
    have not_object : ∀ ref, UuidValue.number num ≠ .object ref := fun _ => UuidValue.noConfusion
    rcases getUuid_cached valid not_object with ⟨_, _, _, number⟩
    have range : 0 < (num : ℚ) ∧ (num : ℚ) ≤ 0xFFFF := by
      norm_cast
    cases (entry_finite radix16 range).symm.trans found
    have key : shortToLong (shortOf radix16 num) = cacheKey (.number num) := by
      rw [shortToLong, shortOf_digits]
      rfl
    show uuidNumber (shortToLong (shortOf radix16 num)) = _
    rw [key, number]
    simp [denotes, UuidInput.denoted]
  | buffer value =>
    have valid : Valid .empty (.buffer value) := inside
    have not_object : ∀ ref, UuidValue.buffer value ≠ .object ref := fun _ => UuidValue.noConfusion
    rcases getUuid_cached valid not_object with ⟨_, _, _, number⟩
    cases found
    exact number

theorem cached_not_null {key : Text} {make : Except JsError Uuid} {next : UuidStore} :
    store.cached key make ≠ .ok (next, none) := by
  cases looked : store.uuids.lookup key with
  | some ref =>
    rw [cached_found make looked]
    exact nofun
  | none =>
    cases made : make with
    | error thrown =>
      rw [cached_failed looked rfl]
      exact nofun
    | ok uuid =>
      rw [cached_made looked rfl]
      exact nofun

end Inputs

/-- Whatever calls were made before, a value is parsed as it should be, unless it slips through. -/
theorem parses_well_iff (radix16 : ℚ → Text) (history : List UuidInput) (input : UuidInput)
    (given : ∀ ref, input ≠ .object ref) :
    ParsesWell radix16 (cacheAfter radix16 history) input ↔ ¬ input.SlipsThrough := by
  have consistent := cacheAfter_consistent radix16 history
  cases found : input.entry radix16 with
  | none =>
    have outside : ¬ input.InGrammar := by
      intro inside
      rcases entry_valid radix16 (inside.valid .empty) given with ⟨entry, some_entry, _⟩
      rw [found] at some_entry
      cases some_entry
    apply iff_of_true
    · exact ⟨fun inside => absurd inside outside, fun _ => ⟨_, getUuidFor_none radix16 _ given found⟩⟩
    · exact fun slips => entry_of_slips radix16 slips found
  | some entry =>
    rw [slips_iff radix16 found]
    constructor
    · rintro ⟨accepted, refused⟩
      have inside : input.InGrammar := by
        by_contra outside
        rcases refused outside with ⟨next, null⟩
        rw [getUuidFor_some radix16 _ found] at null
        exact cached_not_null null
      rcases accepted inside with ⟨uuid, returned, long, _⟩
      rcases returned_under radix16 consistent found returned with ⟨_, under⟩
      rcases entry_valid radix16 (inside.valid .empty) given with ⟨_, same, valid⟩
      cases found.symm.trans same
      refine ⟨inside, valid.isLong ?_⟩
      rw [← (under.cases valid).1, long.length]
    · rintro ⟨inside, long⟩
      refine ⟨fun _ => ?_, fun outside => absurd inside outside⟩
      rcases returned_text radix16 consistent found (.inl long) with ⟨uuid, returned, _⟩
      rcases returned_under radix16 consistent found returned with ⟨made, under⟩
      refine ⟨uuid, returned, ?_⟩
      rw [← entry_denoted radix16 found inside]
      exact represents_under made under long

theorem parses_well_sample :
    (∀ ref, UuidInput.string (.of "0x180F") ≠ .object ref) ∧
      (ParsesWell (fun _ => []) (cacheAfter (fun _ => []) [longBattery]) (.string (.of "0x180F")) ↔
        ¬ UuidInput.SlipsThrough (.string (.of "0x180F"))) :=
  ⟨nofun, parses_well_iff (fun _ => []) [longBattery] _ nofun⟩

/-- The long string of a number below 0x1000 is too short. -/
theorem small_number_malformed :
    UuidInput.InGrammar (.number (.finite 0x240)) ∧
      ¬ ParsesWell (fun _ => []) (cacheAfter (fun _ => []) []) (.number (.finite 0x240)) := by
  refine ⟨⟨0x240, rfl, by decide, by decide⟩, fun well => ?_⟩
  rcases well.1 ⟨0x240, rfl, by decide, by decide⟩ with ⟨uuid, returned, long, _⟩
  have length : ((cacheAfter (fun _ => []) []).returned (fun _ => []) (.number (.finite 0x240))).map
      (fun uuid => uuid.longString.length) = some 35 := by decide +kernel
  rw [returned, Option.map_some, long.length] at length
  cases length

end Btle.Server

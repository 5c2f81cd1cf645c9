import Btle.Server.Uuid

namespace Btle.Server

open Utf16

def uuidNumber (string : Text) : Nat := Hex.value (string.filter (· ≠ dash))

def shortUuid (number : Nat) : Nat := number * 2 ^ 96 + 0x00001000800000805F9B34FB

def denotes (store : UuidStore) : UuidValue → Nat
  | .string value =>
    if value.units.length = 36 then uuidNumber value.units
    else shortUuid (Hex.value (value.units.drop 2))
  | .number value => shortUuid value
  | .buffer value =>
    if value.length = 2 then shortUuid (LittleEndian.number value) else LittleEndian.number value
  | .object ref => (store.objects[ref]?.map fun uuid => uuidNumber uuid.longString).getD 0

def Dashed (digits string : Text) : Prop :=
  ∃ first second third fourth fifth : Text,
    digits = first ++ second ++ third ++ fourth ++ fifth ∧
    (first.length = 8 ∧ second.length = 4 ∧ third.length = 4 ∧ fourth.length = 4 ∧
      fifth.length = 12) ∧
    string = first ++ dash :: (second ++ dash :: (third ++ dash :: (fourth ++ dash :: fifth)))

def IsLong (string : Text) : Prop := ∃ digits, Hex.IsDigits digits ∧ Dashed digits string

/-- The valid representations; an object is one that a call returned. -/
def Valid (store : UuidStore) : UuidValue → Prop
  | .string value => IsShort value.units ∨ IsLong value.units
  | .number value => 1 ≤ value ∧ value ≤ 0xFFFF
  | .buffer value => value.length = 2 ∨ value.length = 16
  | .object ref => ref < store.objects.length

/-- The cache key each format builds for itself. -/
def cacheKey : UuidValue → Text
  | .string value => if value.units.length = 36 then value.units else shortToLong value.upperCase
  | .number value => shortToLong (ofString "0x" ++ upperText (Hex.ofNat value))
  | .buffer value => bufferToString value
  | .object _ => []

section Strings

variable {string digits : Text}

theorem isDigits_no_dash (valid : Hex.IsDigits digits) : digits.filter (· ≠ dash) = digits := by
  apply List.filter_eq_self.mpr
  intro c member
  simp only [decide_eq_true_eq]
  intro dashed
  subst dashed
  exact valid dash member rfl

theorem upper_dash (unit : UInt16) : upper unit = dash ↔ unit = dash := by
  have number : dash.toNat = 0x2D := rfl
  by_cases small : 0x61 ≤ unit.toNat ∧ unit.toNat ≤ 0x7A
  · have lowered := upper_toNat small
    constructor
    · intro dashed
      rw [dashed, number] at lowered
      omega
    · rintro rfl
      omega
  · rw [upper_other small]

theorem uuidNumber_upperText (string : Text) : uuidNumber (upperText string) = uuidNumber string := by
  unfold uuidNumber
  rw [← Hex.value_upperText (string.filter _), upperText, upperText, List.filter_map]
  congr 2
  refine List.filter_congr fun unit _ => ?_
  simp only [Function.comp_apply, ne_eq, upper_dash]

theorem uuidNumber_shortToLong (valid : Hex.IsDigits (string.drop 2)) :
    uuidNumber (shortToLong string) = shortUuid (Hex.value (string.drop 2)) := by
  have base : baseUuid.filter (· ≠ dash) = ofString "00001000800000805f9b34fb" := by decide
  have zeros : (ofString "0000").filter (· ≠ dash) = ofString "0000" := by decide
  have tail : Hex.value (ofString "00001000800000805f9b34fb") = 0x00001000800000805F9B34FB := by decide
  have nothing : Hex.value (ofString "0000") = 0 := by decide
  have power : 16 ^ 24 = 2 ^ 96 := by decide
  have places : (ofString "00001000800000805f9b34fb").length = 24 := by decide
  rw [uuidNumber, shortToLong, List.filter_append, List.filter_append, isDigits_no_dash valid, base,
    zeros, Hex.value_append, Hex.value_append, tail, nothing, places, Nat.zero_mul, Nat.zero_add,
    shortUuid, power]

theorem hexBuffer_digits : ∀ {digits : Text}, Hex.IsDigits digits → digits.length % 2 = 0 →
    ∃ buffer, hexBuffer digits = .ok buffer
  | [], _, _ => ⟨[], rfl⟩
  | [_], _, even => by simp at even
  | high :: low :: rest, valid, even => by
    rcases Option.ne_none_iff_exists'.mp (valid high (by simp)) with ⟨upper, first⟩
    rcases Option.ne_none_iff_exists'.mp (valid low (by simp)) with ⟨lower, second⟩
    obtain ⟨buffer, read⟩ : ∃ buffer, hexBuffer rest = .ok buffer :=
      hexBuffer_digits (fun c member => valid c (by simp [member])) (by simp at even; omega)
    exact ⟨_, by simp only [hexBuffer, first, second, read, bind, Except.bind]; rfl⟩

theorem Dashed.length (dashed : Dashed digits string) : string.length = 36 := by
  rcases dashed with ⟨first, second, third, fourth, fifth, _, lengths, rfl⟩
  simp only [List.length_append, List.length_cons]
  omega

theorem Dashed.digits_length (dashed : Dashed digits string) : digits.length = 32 := by
  rcases dashed with ⟨first, second, third, fourth, fifth, rfl, lengths, _⟩
  simp only [List.length_append]
  omega

theorem Dashed.has_dash (dashed : Dashed digits string) : dash ∈ string := by
  rcases dashed with ⟨first, second, third, fourth, fifth, _, _, rfl⟩
  simp

theorem Dashed.upper (dashed : Dashed digits string) : Dashed (upperText digits) (upperText string) := by
  rcases dashed with ⟨first, second, third, fourth, fifth, rfl, lengths, rfl⟩
  have same : Utf16.upper dash = dash := by decide
  refine ⟨upperText first, upperText second, upperText third, upperText fourth, upperText fifth, ?_,
    by simpa only [upperText_length] using lengths, ?_⟩
  · simp only [upperText_append]
  · simp only [upperText, List.map_append, List.map_cons, same]

theorem Dashed.pieces (dashed : Dashed digits string) : hexPieces string = digits := by
  rcases dashed with ⟨first, second, third, fourth, fifth, rfl, ⟨l₁, l₂, l₃, l₄, _⟩, rfl⟩
  unfold hexPieces
  simp [List.drop_append, List.drop_of_length_le, l₁, l₂, l₃, l₄]

theorem Dashed.uuidNumber (valid : Hex.IsDigits digits) (dashed : Dashed digits string) :
    uuidNumber string = Hex.value digits := by
  rcases dashed with ⟨first, second, third, fourth, fifth, rfl, _, rfl⟩
  have plain := isDigits_no_dash valid
  rw [Btle.Server.uuidNumber, ← plain]
  simp [List.filter_append]

theorem Dashed.ascii (valid : Hex.IsDigits digits) (dashed : Dashed digits string) : IsAscii string := by
  rcases dashed with ⟨first, second, third, fourth, fifth, rfl, _, rfl⟩
  have all := valid.ascii
  have small : dash.toNat < 0x80 := by decide
  intro unit member
  by_cases dashed : unit = dash
  · rwa [dashed]
  · apply all
    simpa [dashed] using member

theorem shortToLong_ascii (digits : Hex.IsDigits (string.drop 2)) : IsAscii (shortToLong string) := by
  have zeros : IsAscii (ofString "0000") := by decide
  have base : IsAscii baseUuid := by decide
  exact List.forall_mem_append.mpr ⟨List.forall_mem_append.mpr ⟨zeros, digits.ascii⟩, base⟩

theorem IsLong.ascii (long : IsLong string) : IsAscii string := by
  rcases long with ⟨digits, valid, dashed⟩
  exact dashed.ascii valid

theorem IsShort.ascii (short : IsShort string) : IsAscii string := by
  intro unit member
  rw [← List.take_append_drop 2 string] at member
  rcases List.mem_append.mp member with front | rest
  · have marks : IsAscii (ofString "0x") ∧ IsAscii (ofString "0X") := by decide
    rcases short.1 with lower | upper
    · exact marks.1 unit (lower ▸ front)
    · exact marks.2 unit (upper ▸ front)
  · exact short.2.2.ascii unit rest

end Strings

section Keys

variable {store : UuidStore}

def Makes (key : Text) (made : Except JsError Uuid) : Prop :=
  ∃ uuid, made = .ok uuid ∧ uuidNumber uuid.longString = uuidNumber key

theorem makes_short {key : Text} (short : Text) (small : short.length ≤ 6) :
    Makes key (Uuid.new key (some short)) := by
  have other : ¬ short.length = 36 := by omega
  refine ⟨⟨key, some short, some (LittleEndian.bytes 2 (toInt32 short))⟩, ?_, rfl⟩
  simp only [Uuid.new, stringToBuffer, if_neg other, if_pos small, bind, Except.bind, pure,
    Except.pure]

theorem makes_long {key long digits : Text} (valid : Hex.IsDigits digits)
    (dashed : Dashed digits long) (same : uuidNumber long = uuidNumber key) :
    Makes key (Uuid.new long none) := by
  rcases hexBuffer_digits valid (by rw [dashed.digits_length]) with ⟨buffer, read⟩
  refine ⟨⟨long, none, some buffer.reverse⟩, ?_, same⟩
  simp only [Uuid.new, stringToBuffer, if_pos dashed.length, dashed.pieces, read, bind, Except.bind,
    pure, Except.pure]

theorem longToShort_length {key short : Text} (found : longToShort key = some short) :
    short.length ≤ 6 := by
  unfold longToShort at found
  split at found
  · cases found
    simp only [List.length_append, List.length_take]
    have two : (ofString "0x").length = 2 := by decide
    omega
  · cases found

theorem bufferToString_short (low high : UInt8) :
    ∃ digits, Hex.IsDigits digits ∧ Dashed digits (bufferToString [low, high]) ∧
      Hex.value digits = shortUuid (LittleEndian.number [low, high]) := by
  have tail : Hex.IsDigits (ofString "00001000800000805f9b34fb") := by decide
  have power : 16 ^ 24 = 2 ^ 96 := by decide
  refine ⟨Hex.ofBytes [0, 0, high, low] ++ ofString "00001000800000805f9b34fb", ?_, ?_, ?_⟩
  · intro c member
    rcases List.mem_append.mp member with inside | inside
    · exact Hex.ofBytes_digits _ c inside
    · exact tail c inside
  · exact ⟨Hex.ofBytes [0, 0, high, low], ofString "0000", ofString "1000", ofString "8000",
      ofString "00805f9b34fb", rfl, ⟨rfl, rfl, rfl, rfl, rfl⟩, rfl⟩
  · have constant : Hex.value (ofString "00001000800000805f9b34fb") = 0x00001000800000805F9B34FB := by
      decide
    have places : (ofString "00001000800000805f9b34fb").length = 24 := by decide
    have number : LittleEndian.number [low, high, 0, 0] = LittleEndian.number [low, high] := by
      simp [LittleEndian.number_cons]
    have turned : [0, 0, high, low].reverse = [low, high, 0, 0] := rfl
    rw [Hex.value_append, constant, places, Hex.value_ofBytes, turned, number, power, shortUuid]

theorem bufferToString_long {buffer : Buffer} (size : buffer.length = 16) :
    Dashed (Hex.ofBytes buffer.reverse) (bufferToString buffer) := by
  have length := Hex.ofBytes_length buffer.reverse
  rw [List.length_reverse, size] at length
  unfold bufferToString
  split
  · simp at size
  · generalize Hex.ofBytes buffer.reverse = str at length
    refine ⟨str.take 8, (str.drop 8).take 4, (str.drop 12).take 4, (str.drop 16).take 4, str.drop 20,
      ?_, ?_, by simp⟩
    · have split (n : Nat) : (str.drop n).take 4 ++ str.drop (n + 4) = str.drop n := by
        rw [← List.drop_drop, List.take_append_drop]
      rw [List.append_assoc, split, List.append_assoc, split, List.append_assoc, split,
        List.take_append_drop]
    · simp only [List.length_take, List.length_drop]
      omega

theorem cacheKey_ascii {value : UuidValue} (valid : Valid store value) : IsAscii (cacheKey value) := by
  cases value with
  | string string =>
    rcases valid with short | long
    · have other : ¬ string.units.length = 36 := by
        rw [short.2.1]
        decide
      simp only [cacheKey, if_neg other]
      apply shortToLong_ascii
      rw [string.ascii short.ascii, upperText_drop]
      exact Hex.isDigits_upperText short.2.2
    · rcases long with ⟨digits, allowed, dashed⟩
      simp only [cacheKey, if_pos dashed.length]
      exact dashed.ascii allowed
  | number num =>
    apply shortToLong_ascii
    have two : (ofString "0x").length = 2 := by decide
    rw [List.drop_left' two]
    exact Hex.isDigits_upperText (Hex.ofNat_digits num)
  | buffer buffer =>
    rcases valid with short | long
    · rcases List.length_eq_two.mp short with ⟨low, high, rfl⟩
      rcases bufferToString_short low high with ⟨digits, allowed, dashed, _⟩
      exact dashed.ascii allowed
    · exact (bufferToString_long long).ascii (Hex.ofBytes_digits _)
  | object ref => exact List.forall_mem_nil _

/-- Whatever the format, a call looks its own key up, and makes an object of the UUID it denotes
    if there is none. -/
theorem getUuid_cached {value : UuidValue} (valid : Valid store value)
    (representation : ∀ ref, value ≠ .object ref) :
    ∃ make, getUuid store value = store.cached (cacheKey value) make ∧
      Makes (cacheKey value) make ∧ uuidNumber (cacheKey value) = denotes store value := by
  cases value with
  | object ref => exact absurd rfl (representation ref)
  | string string =>
    rcases valid with ⟨starts, size, digits⟩ | ⟨digits, valid, dashed⟩
    · have other : ¬ string.units.length = 36 := by omega
      have short : IsShort string.units := ⟨starts, size, digits⟩
      have upper : Hex.IsDigits ((upperText string.units).drop 2) := by
        rw [upperText_drop]
        exact Hex.isDigits_upperText digits
      refine ⟨_, ?_, makes_short string.units (by omega), ?_⟩
      · simp only [getUuid, parseString, if_neg other, if_pos (Nat.le_of_eq size), parseShortUuid,
          cacheKey]
        rw [if_pos short]
      · simp only [cacheKey, denotes, if_neg other]
        rw [string.ascii short.ascii, uuidNumber_shortToLong upper, upperText_drop, Hex.value_upperText]
    · have ascii := string.ascii (dashed.ascii valid)
      refine ⟨_, ?_, makes_long (Hex.isDigits_upperText valid) (ascii ▸ dashed.upper) ?_, ?_⟩
      · simp only [getUuid, parseString, if_pos dashed.length, parseLongUuid, if_pos dashed.has_dash,
          cacheKey]
      · simp only [cacheKey, if_pos dashed.length, ascii, uuidNumber_upperText]
      · simp only [cacheKey, denotes, if_pos dashed.length]
  | number num =>
    rcases valid with ⟨positive, small⟩
    have digits := Hex.isDigits_upperText (Hex.ofNat_digits num)
    have short : (ofString "0x" ++ upperText (Hex.ofNat num)).drop 2 = upperText (Hex.ofNat num) :=
      List.drop_left' (by decide)
    have places : (Hex.ofNat num).length ≤ 4 := Hex.ofNat_length (by omega)
    refine ⟨_, ?_, makes_short (ofString "0x" ++ upperText (Hex.ofNat num)) ?_, ?_⟩
    · simp only [getUuid, parseNumber, cacheKey]
      rw [if_pos ⟨positive, small⟩]
    · have two : (ofString "0x").length = 2 := by decide
      rw [List.length_append, upperText_length]
      omega
    · simp only [cacheKey, denotes]
      rw [uuidNumber_shortToLong (by rwa [short]), short, Hex.value_upperText,
        Hex.value_ofNat]
  | buffer buffer =>
    obtain ⟨digits, allowed, dashed, same⟩ : ∃ digits, Hex.IsDigits digits ∧
        Dashed digits (bufferToString buffer) ∧
        Hex.value digits = denotes store (.buffer buffer) := by
      rcases valid with short | long
      · rcases List.length_eq_two.mp short with ⟨low, high, rfl⟩
        exact bufferToString_short low high
      · refine ⟨_, Hex.ofBytes_digits _, bufferToString_long long, ?_⟩
        have other : ¬ buffer.length = 2 := by omega
        simp only [denotes, if_neg other, Hex.value_ofBytes, List.reverse_reverse]
    refine ⟨_, rfl, ?_, (dashed.uuidNumber allowed).trans same⟩
    cases found : longToShort (bufferToString buffer) with
    | some short => exact makes_short short (longToShort_length found)
    | none => exact makes_long allowed dashed rfl

end Keys

end Btle.Server

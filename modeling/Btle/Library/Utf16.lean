import Mathlib.Data.List.Basic

namespace Utf16

/-- A string as it is kept: its length is the number of these units. -/
abbrev Text := List UInt16

def IsHigh (unit : UInt16) : Prop := 0xD800 ≤ unit.toNat ∧ unit.toNat < 0xDC00

def IsLow (unit : UInt16) : Prop := 0xDC00 ≤ unit.toNat ∧ unit.toNat < 0xE000

instance (unit : UInt16) : Decidable (IsHigh unit) := inferInstanceAs (Decidable (_ ∧ _))

instance (unit : UInt16) : Decidable (IsLow unit) := inferInstanceAs (Decidable (_ ∧ _))

def IsAscii (text : Text) : Prop := ∀ unit ∈ text, unit.toNat < 0x80

instance (text : Text) : Decidable (IsAscii text) :=
  List.decidableBAll (fun unit : UInt16 => unit.toNat < 0x80) text

/-- The text of characters of one unit each. -/
def ofChars (chars : List Char) : Text := chars.map fun c => UInt16.ofNat c.toNat

def ofString (string : String) : Text := ofChars string.toList

/-- A text of characters of one unit each, printed. -/
def printed (text : Text) : String := String.ofList (text.map fun unit => Char.ofNat unit.toNat)

def upper (unit : UInt16) : UInt16 :=
  if 0x61 ≤ unit.toNat ∧ unit.toNat ≤ 0x7A then unit - 0x20 else unit

/-- The upper case of a text that is all ASCII. -/
def upperText (text : Text) : Text := text.map upper

/-- The bytes of a character of one unit. Half a pair becomes a replacement character. -/
def single (unit : UInt16) : List UInt8 :=
  let n := unit.toNat
  if n < 0x80 then [UInt8.ofNat n]
  else if n < 0x800 then [UInt8.ofNat (0xC0 + n / 64), UInt8.ofNat (0x80 + n % 64)]
  else if IsHigh unit ∨ IsLow unit then [0xEF, 0xBF, 0xBD]
  else [UInt8.ofNat (0xE0 + n / 4096), UInt8.ofNat (0x80 + n / 64 % 64), UInt8.ofNat (0x80 + n % 64)]

def pair (high low : UInt16) : List UInt8 :=
  let n := 0x10000 + (high.toNat - 0xD800) * 1024 + (low.toNat - 0xDC00)
  [UInt8.ofNat (0xF0 + n / 262144), UInt8.ofNat (0x80 + n / 4096 % 64),
    UInt8.ofNat (0x80 + n / 64 % 64), UInt8.ofNat (0x80 + n % 64)]

/-- The bytes of each character in turn. -/
def characters : Text → List (List UInt8)
  | [] => []
  | [unit] => [single unit]
  | high :: low :: rest =>
    if IsHigh high ∧ IsLow low then pair high low :: characters rest
    else single high :: characters (low :: rest)

def utf8 (text : Text) : List UInt8 := (characters text).flatten

/-- As many whole characters as there is room for. -/
def fitting : List (List UInt8) → Nat → List UInt8
  | [], _ => []
  | character :: rest, room =>
    if character.length ≤ room then character ++ fitting rest (room - character.length) else []

theorem upper_other {unit : UInt16} (other : ¬ (0x61 ≤ unit.toNat ∧ unit.toNat ≤ 0x7A)) :
    upper unit = unit := if_neg other

theorem upper_toNat {unit : UInt16} (small : 0x61 ≤ unit.toNat ∧ unit.toNat ≤ 0x7A) :
    (upper unit).toNat = unit.toNat - 0x20 := by
  have least : (0x20 : UInt16) ≤ unit := UInt16.le_iff_toNat_le.mpr (Nat.le_trans (by decide) small.1)
  rw [upper, if_pos small, UInt16.toNat_sub_of_le _ _ least]
  rfl

/-- Nothing that is in upper case is a small letter. -/
theorem upper_unlowered (unit : UInt16) : ¬ (0x61 ≤ (upper unit).toNat ∧ (upper unit).toNat ≤ 0x7A) := by
  by_cases small : 0x61 ≤ unit.toNat ∧ unit.toNat ≤ 0x7A
  · rw [upper_toNat small]
    omega
  · rwa [upper_other small]

theorem upper_again (unit : UInt16) : upper (upper unit) = upper unit :=
  upper_other (upper_unlowered unit)

theorem upperText_length (text : Text) : (upperText text).length = text.length := List.length_map ..

theorem upperText_append (first second : Text) :
    upperText (first ++ second) = upperText first ++ upperText second := List.map_append

theorem upperText_drop (text : Text) (count : Nat) :
    (upperText text).drop count = upperText (text.drop count) := (List.map_drop ..).symm

theorem upperText_again (text : Text) : upperText (upperText text) = upperText text := by
  rw [upperText, upperText, List.map_map]
  exact List.map_congr_left fun unit _ => upper_again unit

theorem single_ascii {unit : UInt16} (ascii : unit.toNat < 0x80) :
    single unit = [UInt8.ofNat unit.toNat] := if_pos ascii

theorem single_length (unit : UInt16) :
    1 ≤ (single unit).length ∧ (¬ unit.toNat < 0x80 → 1 < (single unit).length) := by
  unfold single
  dsimp only
  by_cases ascii : unit.toNat < 0x80
  · rw [if_pos ascii]
    exact ⟨Nat.le_refl 1, fun other => absurd ascii other⟩
  · rw [if_neg ascii]
    split
    · exact ⟨by simp, fun _ => by simp⟩
    · split
      · exact ⟨by simp, fun _ => by simp⟩
      · exact ⟨by simp, fun _ => by simp⟩

/-- A string has no more units than bytes, and as many only if it is all ASCII. -/
theorem utf8_length (text : Text) :
    text.length ≤ (utf8 text).length ∧ (¬ IsAscii text → text.length < (utf8 text).length) := by
  unfold utf8
  induction text using characters.induct with
  | case1 => exact ⟨Nat.le_refl 0, fun other => absurd (fun _ member => nomatch member) other⟩
  | case2 unit =>
    rcases single_length unit with ⟨some_byte, more⟩
    simp only [characters, List.flatten_cons, List.flatten_nil, List.append_nil, List.length_cons,
      List.length_nil]
    refine ⟨some_byte, fun other => more fun ascii => other ?_⟩
    intro found member
    rw [List.mem_singleton.mp member]
    exact ascii
  | case3 high low rest paired ih =>
    have four : (pair high low).length = 4 := rfl
    rw [characters, if_pos paired]
    simp only [List.flatten_cons, List.length_append, List.length_cons, four]
    exact ⟨by omega, fun _ => by omega⟩
  | case4 high low rest unpaired ih =>
    rcases single_length high with ⟨some_byte, more⟩
    rw [characters, if_neg unpaired]
    simp only [List.flatten_cons, List.length_append, List.length_cons] at ih ⊢
    refine ⟨by omega, fun other => ?_⟩
    by_cases ascii : high.toNat < 0x80
    · have rest_other : ¬ IsAscii (low :: rest) := by
        intro rest_ascii
        apply other
        intro unit member
        rcases List.mem_cons.mp member with rfl | member
        · exact ascii
        · exact rest_ascii unit member
      have rest_longer := ih.2 rest_other
      omega
    · have longer := more ascii
      omega

theorem utf8_length_ascii {text : Text} (ascii : IsAscii text) : (utf8 text).length = text.length := by
  unfold utf8
  induction text using characters.induct with
  | case1 => rfl
  | case2 unit =>
    rw [characters, single_ascii (ascii unit List.mem_cons_self)]
    rfl
  | case3 high low rest paired ih =>
    have small : high.toNat < 0x80 := ascii high List.mem_cons_self
    have large : 0xD800 ≤ high.toNat := paired.1.1
    omega
  | case4 high low rest unpaired ih =>
    have later : IsAscii (low :: rest) := fun unit member => ascii unit (List.mem_cons_of_mem _ member)
    rw [characters, if_neg unpaired, single_ascii (ascii high List.mem_cons_self), List.flatten_cons,
      List.length_append, ih later]
    simp only [List.length_cons, List.length_nil]
    omega

theorem fitting_all {found : List (List UInt8)} {room : Nat} (enough : found.flatten.length ≤ room) :
    fitting found room = found.flatten := by
  induction found generalizing room with
  | nil => rfl
  | cons character rest ih =>
    rw [List.flatten_cons, List.length_append] at enough
    have here : character.length ≤ room := by omega
    rw [fitting, if_pos here, List.flatten_cons, ih (by omega)]

theorem fitting_length (found : List (List UInt8)) (room : Nat) :
    (fitting found room).length ≤ room := by
  induction found generalizing room with
  | nil => exact Nat.zero_le _
  | cons character rest ih =>
    rw [fitting]
    split
    · have later := ih (room - character.length)
      rw [List.length_append]
      omega
    · exact Nat.zero_le _

end Utf16

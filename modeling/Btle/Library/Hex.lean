import Mathlib.Data.Nat.Digits.Lemmas
import Mathlib.Tactic.IntervalCases
import Btle.Library.LittleEndian
import Btle.Library.Utf16

namespace Hex

open Utf16

def digit? (unit : UInt16) : Option Nat :=
  let n := unit.toNat
  if 0x30 ≤ n ∧ n ≤ 0x39 then some (n - 0x30)
  else if 0x61 ≤ n ∧ n ≤ 0x66 then some (n - 0x57)
  else if 0x41 ≤ n ∧ n ≤ 0x46 then some (n - 0x37)
  else none

def digit (unit : UInt16) : Nat := (digit? unit).getD 0

def IsDigits (text : Text) : Prop := ∀ unit ∈ text, digit? unit ≠ none

instance (text : Text) : Decidable (IsDigits text) :=
  List.decidableBAll (fun unit => digit? unit ≠ none) text

def value (digits : Text) : Nat := Nat.ofDigits 16 (digits.reverse.map digit)

def digitUnit (d : Nat) : UInt16 := UInt16.ofNat (Nat.digitChar d).toNat

def ofByte (byte : UInt8) : Text := [digitUnit (byte.toNat / 16), digitUnit (byte.toNat % 16)]

def ofBytes (bytes : List UInt8) : Text := bytes.flatMap ofByte

def ofNat (n : Nat) : Text := (Nat.digits 16 n).reverse.map digitUnit

@[simp] theorem value_nil : value [] = 0 := rfl

theorem value_append (first second : Text) :
    value (first ++ second) = value first * 16 ^ second.length + value second := by
  rw [value, List.reverse_append, List.map_append, Nat.ofDigits_append, List.length_map,
    List.length_reverse, add_comm, mul_comm]
  rfl

theorem value_cons (first : UInt16) (rest : Text) :
    value (first :: rest) = digit first * 16 ^ rest.length + value rest := by
  have split := value_append [first] rest
  simpa [value] using split

theorem digit?_lt {unit : UInt16} {d : Nat} (read : digit? unit = some d) : d < 16 := by
  unfold digit? at read
  dsimp only at read
  split at read
  · cases read
    omega
  · split at read
    · cases read
      omega
    · split at read
      · cases read
        omega
      · cases read

theorem value_lt (digits : Text) : value digits < 16 ^ digits.length := by
  have bound : ∀ d ∈ digits.reverse.map digit, d < 16 := by
    intro d member
    rcases List.mem_map.mp member with ⟨c, _, rfl⟩
    unfold digit
    cases read : digit? c with
    | none => exact Nat.zero_lt_succ _
    | some value => exact digit?_lt read
  have small := Nat.ofDigits_lt_base_pow_length (by decide) bound
  simpa [value] using small

theorem digit_digitUnit {d : Nat} (small : d < 16) : digit (digitUnit d) = d := by
  interval_cases d <;> rfl

theorem digit?_upper (unit : UInt16) : digit? (upper unit) = digit? unit := by
  by_cases small : 0x61 ≤ unit.toNat ∧ unit.toNat ≤ 0x7A
  · have lowered := upper_toNat small
    unfold digit?
    dsimp only
    rw [lowered]
    split_ifs <;> first | omega | rfl
  · rw [upper_other small]

theorem digit_upper (unit : UInt16) : digit (upper unit) = digit unit := by
  rw [digit, digit?_upper, digit]

theorem value_upperText (digits : Text) : value (upperText digits) = value digits := by
  unfold value upperText
  rw [← List.map_reverse, List.map_map]
  congr 1
  exact List.map_congr_left fun unit _ => digit_upper unit

theorem isDigits_upperText {digits : Text} (valid : IsDigits digits) : IsDigits (upperText digits) := by
  intro unit member
  rcases List.mem_map.mp member with ⟨lower, inside, rfl⟩
  rw [digit?_upper]
  exact valid lower inside

/-- A digit is ASCII. -/
theorem IsDigits.ascii {digits : Text} (valid : IsDigits digits) : IsAscii digits := by
  intro unit member
  have read := valid unit member
  unfold digit? at read
  by_contra large
  dsimp only at read
  split_ifs at read <;> first | omega | exact read rfl

theorem value_ofByte (byte : UInt8) : value (ofByte byte) = byte.toNat := by
  have bound := byte.toNat_lt
  have high := digit_digitUnit (d := byte.toNat / 16) (by omega)
  have low := digit_digitUnit (d := byte.toNat % 16) (by omega)
  simp only [ofByte, value_cons, value_nil, high, low, List.length_cons, List.length_nil]
  omega

theorem ofBytes_length (bytes : List UInt8) : (ofBytes bytes).length = 2 * bytes.length := by
  induction bytes with
  | nil => rfl
  | cons byte bytes ih =>
    have here : (ofByte byte).length = 2 := rfl
    rw [ofBytes, List.flatMap_cons, List.length_append, here, ← ofBytes, ih, List.length_cons]
    omega

theorem value_ofBytes (bytes : List UInt8) :
    value (ofBytes bytes) = LittleEndian.number bytes.reverse := by
  induction bytes with
  | nil => rfl
  | cons byte bytes ih =>
    have split : ofBytes (byte :: bytes) = ofByte byte ++ ofBytes bytes := List.flatMap_cons
    rw [split, value_append, value_ofByte, ih, ofBytes_length, List.reverse_cons,
      LittleEndian.number_append, List.length_reverse, LittleEndian.number_cons,
      LittleEndian.number_nil, pow_mul]
    simp only [Nat.reducePow, mul_zero, add_zero]
    rw [mul_comm, add_comm]

theorem digitUnit_digit {d : Nat} (small : d < 16) : digit? (digitUnit d) ≠ none := by
  interval_cases d <;> decide

theorem ofBytes_digits (bytes : List UInt8) : IsDigits (ofBytes bytes) := by
  intro c member
  rcases List.mem_flatMap.mp member with ⟨byte, _, inside⟩
  have bound := byte.toNat_lt
  rcases List.mem_cons.mp inside with rfl | inside
  · exact digitUnit_digit (by omega)
  · rw [List.mem_singleton.mp inside]
    exact digitUnit_digit (by omega)

theorem ofNat_digits (n : Nat) : IsDigits (ofNat n) := by
  intro c member
  rcases List.mem_map.mp member with ⟨d, inside, rfl⟩
  exact digitUnit_digit (Nat.digits_lt_base (by decide) (List.mem_reverse.mp inside))

theorem ofNat_length {n places : Nat} (small : n < 16 ^ places) : (ofNat n).length ≤ places := by
  rw [ofNat, List.length_map, List.length_reverse]
  exact (Nat.digits_length_le_iff (by decide) n).mpr small

theorem value_ofNat (n : Nat) : value (ofNat n) = n := by
  have digits : ((Nat.digits 16 n).map digitUnit).map digit = Nat.digits 16 n := by
    rw [List.map_map]
    refine (List.map_congr_left ?_).trans (List.map_id _)
    intro d member
    exact digit_digitUnit (Nat.digits_lt_base (by decide) member)
  rw [value, ofNat, ← List.map_reverse, List.reverse_reverse, digits, Nat.ofDigits_digits]

end Hex

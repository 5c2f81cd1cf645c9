import Mathlib.Data.Nat.Digits.Defs

namespace LittleEndian

def number (bytes : List UInt8) : Nat := Nat.ofDigits 256 (bytes.map UInt8.toNat)

def bytes : Nat → Nat → List UInt8
  | 0, _ => []
  | width + 1, value => UInt8.ofNat value :: bytes width (value / 256)

@[simp] theorem number_nil : number [] = 0 := rfl

theorem number_cons (head : UInt8) (tail : List UInt8) :
    number (head :: tail) = head.toNat + 256 * number tail := by
  simp [number, Nat.ofDigits_cons]

theorem number_append (first second : List UInt8) :
    number (first ++ second) = number first + 256 ^ first.length * number second := by
  simp [number, Nat.ofDigits_append]

@[simp] theorem bytes_length (width value : Nat) : (bytes width value).length = width := by
  induction width generalizing value with
  | zero => rfl
  | succ width ih => simp [bytes, ih]

theorem number_bytes (width value : Nat) : number (bytes width value) = value % 256 ^ width := by
  induction width generalizing value with
  | zero => simp [bytes, Nat.mod_one]
  | succ width ih =>
    rw [bytes, number_cons, ih]
    simp only [UInt8.toNat_ofNat', Nat.reducePow]
    rw [Nat.pow_succ', Nat.mod_mul]

theorem bytes_number (data : List UInt8) : bytes data.length (number data) = data := by
  induction data with
  | nil => rfl
  | cons head tail ih =>
    have small := head.toNat_lt
    have low : (head.toNat + 256 * number tail) % 256 = head.toNat := by omega
    have high : (head.toNat + 256 * number tail) / 256 = number tail := by omega
    have first : UInt8.ofNat (head.toNat + 256 * number tail) = head := by
      apply UInt8.toNat_inj.mp
      rw [UInt8.toNat_ofNat']
      exact low
    rw [number_cons, List.length_cons, bytes, first, high, ih]

theorem number_lt (data : List UInt8) : number data < 256 ^ data.length := by
  induction data with
  | nil => decide
  | cons head tail ih =>
    have bound := head.toNat_lt
    rw [number_cons, List.length_cons, Nat.pow_succ]
    omega

end LittleEndian

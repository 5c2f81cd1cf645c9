import Mathlib.Algebra.GroupWithZero.Nat
import Mathlib.Algebra.Order.Group.Nat
import Mathlib.Data.List.Basic
import Mathlib.Algebra.Order.BigOperators.Group.List

namespace Records

/-- A type and a payload, written behind a byte for the length of both. -/
structure Record where
  type : UInt8
  payload : List UInt8
  deriving DecidableEq, Repr

def Record.encode (record : Record) : List UInt8 :=
  UInt8.ofNat (record.payload.length + 1) :: record.type :: record.payload

/-- The length fits in its byte. -/
def Record.Fits (record : Record) : Prop := record.payload.length + 1 < 256

instance (record : Record) : Decidable record.Fits :=
  inferInstanceAs (Decidable (record.payload.length + 1 < 256))

def encodeAll (records : List Record) : List UInt8 := records.flatMap Record.encode

/-- A byte string is nothing but these records, one after the other. -/
def Splits (bytes : List UInt8) (records : List Record) : Prop :=
  bytes = encodeAll records ∧ ∀ record ∈ records, record.Fits

/-- How many bytes the records take. -/
def total (records : List Record) : Nat := (records.map fun record => record.payload.length + 2).sum

@[simp] theorem encode_length (record : Record) : record.encode.length = record.payload.length + 2 :=
  rfl

@[simp] theorem encodeAll_nil : encodeAll [] = [] := rfl

@[simp] theorem encodeAll_cons (record : Record) (records : List Record) :
    encodeAll (record :: records) = record.encode ++ encodeAll records := List.flatMap_cons

@[simp] theorem encodeAll_length (records : List Record) :
    (encodeAll records).length = total records := by
  induction records with
  | nil => rfl
  | cons record records ih =>
    rw [encodeAll_cons, List.length_append, encode_length, ih]
    simp [total]

theorem total_perm {records others : List Record} (same : records.Perm others) :
    total records = total others := (same.map _).sum_eq

theorem fits_of_total {records : List Record} {limit : Nat} (small : limit < 256)
    (room : total records ≤ limit) : ∀ record ∈ records, record.Fits := by
  intro record member
  have inside : record.payload.length + 2 ∈ records.map fun record => record.payload.length + 2 :=
    List.mem_map_of_mem member
  have bound := List.le_sum_of_mem inside
  unfold total at room
  unfold Record.Fits
  omega

theorem splits_encodeAll {records : List Record} {limit : Nat} (small : limit < 256)
    (room : total records ≤ limit) : Splits (encodeAll records) records :=
  ⟨rfl, fits_of_total small room⟩

/-- A record is told by its own length where it ends. -/
theorem encode_append_inj {record other : Record} {rest more : List UInt8} (fits : record.Fits)
    (other_fits : other.Fits) (same : record.encode ++ rest = other.encode ++ more) :
    record = other ∧ rest = more := by
  rcases List.cons.inj same with ⟨length, same⟩
  rcases List.cons.inj same with ⟨type, same⟩
  unfold Record.Fits at fits other_fits
  have lengths : record.payload.length = other.payload.length := by
    have numbers := congrArg UInt8.toNat length
    rw [UInt8.toNat_ofNat', UInt8.toNat_ofNat', Nat.mod_eq_of_lt fits,
      Nat.mod_eq_of_lt other_fits] at numbers
    omega
  rcases List.append_inj same lengths with ⟨payload, rests⟩
  refine ⟨?_, rests⟩
  cases record
  cases other
  simp only [Record.mk.injEq]
  exact ⟨type, payload⟩

/-- What splits has the records that it starts with, and splits behind them. -/
theorem splits_append {records found : List Record} {rest : List UInt8}
    (fit : ∀ record ∈ records, record.Fits) (splits : Splits (encodeAll records ++ rest) found) :
    ∃ more, found = records ++ more ∧ Splits rest more := by
  induction records generalizing found with
  | nil => exact ⟨found, rfl, splits⟩
  | cons record records ih =>
    rcases splits with ⟨same, found_fit⟩
    rw [encodeAll_cons, List.append_assoc] at same
    cases found with
    | nil => cases same
    | cons first found =>
      rw [encodeAll_cons] at same
      have record_fits := fit record List.mem_cons_self
      have first_fits := found_fit first List.mem_cons_self
      rcases encode_append_inj record_fits first_fits same with ⟨rfl, tails⟩
      have later : Splits (encodeAll records ++ rest) found :=
        ⟨tails, fun other member => found_fit other (List.mem_cons_of_mem _ member)⟩
      rcases ih (fun other member => fit other (List.mem_cons_of_mem _ member)) later with
        ⟨more, rfl, splits_rest⟩
      exact ⟨more, rfl, splits_rest⟩

theorem splits_unique {records found : List Record} (fit : ∀ record ∈ records, record.Fits)
    (splits : Splits (encodeAll records) found) : found = records := by
  rw [← List.append_nil (encodeAll records)] at splits
  rcases splits_append fit splits with ⟨more, rfl, nothing, _⟩
  cases more with
  | nil => rw [List.append_nil]
  | cons record more => cases nothing

/-- No record has the length 0. -/
theorem not_splits_zero {rest : List UInt8} {records : List Record} :
    ¬ Splits (0 :: rest) records := by
  rintro ⟨same, fit⟩
  cases records with
  | nil => cases same
  | cons record records =>
    rcases List.cons.inj same with ⟨length, _⟩
    have fits : record.payload.length + 1 < 256 := fit record List.mem_cons_self
    have number := congrArg UInt8.toNat length
    rw [UInt8.toNat_ofNat', Nat.mod_eq_of_lt fits] at number
    exact absurd number (by simp)

end Records

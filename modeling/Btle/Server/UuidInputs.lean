import Mathlib.Algebra.Order.Ring.Rat
import Btle.Library.Memo
import Btle.Server.UuidKeys

namespace Btle.Server

open Utf16

inductive JsNumber
  | nan
  | infinite (negative : Bool)
  | finite (value : ℚ)
  deriving DecidableEq, Repr

/-- What `getUUID` may be given, with all numbers there are. -/
inductive UuidInput
  | string (value : JsString)
  | number (value : JsNumber)
  | buffer (value : Buffer)
  | object (ref : UuidRef)
  deriving DecidableEq, Repr

def UuidValue.input : UuidValue → UuidInput
  | .string value => .string value
  | .number value => .number (.finite value)
  | .buffer value => .buffer value
  | .object ref => .object ref

/-- An entry that a call makes for the cache, if it does not find one under the key. -/
structure UuidEntry where
  key : Text
  longString : Text
  shortString : Option Text
  deriving DecidableEq, Repr

def UuidEntry.make (entry : UuidEntry) : Except JsError Uuid :=
  Uuid.new entry.longString entry.shortString

/-- What a UUID reads as, if its buffer is as long as that. -/
def spelling (longString : Text) (shortString : Option Text) : Text :=
  shortString.getD longString

def UuidEntry.text (entry : UuidEntry) : Text := spelling entry.longString entry.shortString

def Uuid.text (uuid : Uuid) : Text := spelling uuid.longString uuid.shortString

section Inputs

variable (radix16 : ℚ → Text)

/-- `num.toString(16)`, which for a number that is no integer is up to the implementation. -/
def toString16 (num : ℚ) : Text :=
  if num.den = 1 then Hex.ofNat num.num.toNat else radix16 num

def shortOf (num : ℚ) : Text := ofString "0x" ++ upperText (toString16 radix16 num)

/-- `parseNumber`, given any number. -/
def parseJsNumber (store : UuidStore) : JsNumber → Except JsError (UuidStore × Option UuidRef)
  | .nan | .infinite _ => .ok (store, none)
  | .finite num =>
    if 0 < num ∧ num ≤ 0xFFFF then
      let shortString := shortOf radix16 num
      let longString := shortToLong shortString
      store.cached longString (Uuid.new longString (some shortString))
    else .ok (store, none)

/-- `getUUID`, given anything. -/
def getUuidFor (store : UuidStore) : UuidInput → Except JsError (UuidStore × Option UuidRef)
  | .string value => parseString store value
  | .number value => parseJsNumber radix16 store value
  | .buffer value => parseBuffer store value
  | .object ref => getUuid store (.object ref)

theorem parseJsNumber_natural (store : UuidStore) (num : Nat) :
    parseJsNumber radix16 store (.finite num) = parseNumber store num := by
  have short : shortOf radix16 num = ofString "0x" ++ upperText (Hex.ofNat num) := by
    simp [shortOf, toString16]
  have range : 0 < (num : ℚ) ∧ (num : ℚ) ≤ 0xFFFF ↔ 0 < num ∧ num ≤ 0xFFFF := by
    norm_cast
  unfold parseJsNumber parseNumber
  simp only [range, short]

theorem getUuidFor_value (store : UuidStore) (value : UuidValue) :
    getUuidFor radix16 store value.input = getUuid store value := by
  cases value with
  | string value => rfl
  | number value => exact parseJsNumber_natural radix16 store value
  | buffer value => rfl
  | object ref => rfl

def UuidInput.entry : UuidInput → Option UuidEntry
  | .string value =>
    if value.units.length = 36 then
      if dash ∈ value.units then some ⟨value.units, value.upperCase, none⟩ else none
    else if IsShort value.units then
      some ⟨shortToLong value.upperCase, shortToLong value.upperCase, some value.units⟩
    else none
  | .number (.finite num) =>
    if 0 < num ∧ num ≤ 0xFFFF then
      some ⟨shortToLong (shortOf radix16 num), shortToLong (shortOf radix16 num),
        some (shortOf radix16 num)⟩
    else none
  | .buffer value =>
    some ⟨bufferToString value, bufferToString value, longToShort (bufferToString value)⟩
  | .number .nan | .number (.infinite _) | .object _ => none

theorem entry_long {value : JsString} (size : value.units.length = 36) (dashed : dash ∈ value.units) :
    (UuidInput.string value).entry radix16 = some ⟨value.units, value.upperCase, none⟩ := by
  simp only [UuidInput.entry, if_pos size, if_pos dashed]

theorem entry_short {value : JsString} (short : IsShort value.units) :
    (UuidInput.string value).entry radix16 =
      some ⟨shortToLong value.upperCase, shortToLong value.upperCase, some value.units⟩ := by
  have other : ¬ value.units.length = 36 := by
    rw [short.2.1]
    decide
  simp only [UuidInput.entry, if_neg other, if_pos short]

theorem entry_finite {num : ℚ} (range : 0 < num ∧ num ≤ 0xFFFF) :
    (UuidInput.number (.finite num)).entry radix16 =
      some ⟨shortToLong (shortOf radix16 num), shortToLong (shortOf radix16 num),
        some (shortOf radix16 num)⟩ := by
  simp only [UuidInput.entry, if_pos range]

theorem getUuidFor_some (store : UuidStore) {input : UuidInput} {entry : UuidEntry}
    (found : input.entry radix16 = some entry) :
    getUuidFor radix16 store input = store.cached entry.key entry.make := by
  cases input with
  | string value =>
    unfold getUuidFor parseString parseLongUuid parseShortUuid
    unfold UuidInput.entry at found
    by_cases long : value.units.length = 36
    · by_cases dashed : dash ∈ value.units
      · simp only [if_pos long, if_pos dashed, Option.some.injEq] at found ⊢
        subst found
        rfl
      · simp [if_pos long, if_neg dashed] at found
    · by_cases short : IsShort value.units
      · have few : value.units.length ≤ 6 := Nat.le_of_eq short.2.1
        simp only [if_neg long, if_pos few, if_pos short, Option.some.injEq] at found ⊢
        subst found
        rfl
      · simp [if_neg long, if_neg short] at found
  | number value =>
    cases value with
    | nan => cases found
    | infinite negative => cases found
    | finite num =>
      unfold getUuidFor parseJsNumber
      unfold UuidInput.entry at found
      by_cases range : 0 < num ∧ num ≤ 0xFFFF
      · simp only [if_pos range, Option.some.injEq] at found ⊢
        subst found
        rfl
      · simp [if_neg range] at found
  | buffer value =>
    cases found
    rfl
  | object ref => cases found

theorem getUuidFor_none (store : UuidStore) {input : UuidInput} (given : ∀ ref, input ≠ .object ref)
    (found : input.entry radix16 = none) : getUuidFor radix16 store input = .ok (store, none) := by
  cases input with
  | string value =>
    unfold getUuidFor parseString parseLongUuid parseShortUuid
    unfold UuidInput.entry at found
    by_cases long : value.units.length = 36
    · by_cases dashed : dash ∈ value.units
      · simp [if_pos long, if_pos dashed] at found
      · simp only [if_pos long, if_neg dashed]
    · by_cases short : IsShort value.units
      · simp [if_neg long, if_pos short] at found
      · simp only [if_neg long, if_neg short, ite_self]
  | number value =>
    cases value with
    | nan => rfl
    | infinite negative => rfl
    | finite num =>
      unfold getUuidFor parseJsNumber
      unfold UuidInput.entry at found
      by_cases range : 0 < num ∧ num ≤ 0xFFFF
      · simp [if_pos range] at found
      · simp only [if_neg range]
  | buffer value => cases found
  | object ref => exact absurd rfl (given ref)

/-- A call that throws leaves the cache as it was. -/
def UuidStore.called (store : UuidStore) (input : UuidInput) : UuidStore :=
  match getUuidFor radix16 store input with
  | .ok (next, _) => next
  | .error _ => store

/-- The cache after these calls. -/
def cacheAfter (history : List UuidInput) : UuidStore :=
  history.foldl (UuidStore.called radix16) .empty

end Inputs

end Btle.Server

import Btle.Client.Parse

namespace Btle.Client

section Sizes

variable (payload : List UInt8)

theorem attGetU128_inside {bytes : List UInt8} {ptr : Nat} (inside : ptr + 16 ≤ bytes.length) :
    ∃ value, attGetU128 (some bytes) ptr = .ok value :=
  ⟨_, by simp only [attGetU128, bytesAt_inside inside, bind, Except.bind, pure, Except.pure]; rfl⟩

theorem attGetU128_outside {bytes : List UInt8} {ptr : Nat} (outside : bytes.length < ptr + 16) :
    attGetU128 (some bytes) ptr = .error .outOfBounds := by
  simp only [attGetU128, bytesAt_outside (by decide) outside, bind, Except.bind]

def infoStride (format : UInt8) : Nat := if format = attFindInfoRespFmt16Bit then 4 else 18

theorem attributeInfoAt_strided (format : UInt8) :
    Strided (attributeInfoAt (some payload) format) payload.length (infoStride format) := by
  intro ptr
  unfold infoStride attributeInfoAt
  by_cases short : format = attFindInfoRespFmt16Bit
  · simp only [if_pos short]
    constructor
    · intro inside
      rw [attGetU16_inside (by omega), attGetUuid16, attGetU16_inside (by omega)]
      exact ⟨_, rfl⟩
    · intro outside
      by_cases header : ptr + 2 ≤ payload.length
      · rw [attGetU16_inside header, attGetUuid16, attGetU16_outside (by omega)]
        rfl
      · rw [attGetU16_outside (by omega)]
        rfl
  · simp only [if_neg short]
    constructor
    · intro inside
      obtain ⟨value, read⟩ : ∃ value, attGetU128 (some payload) (ptr + 2) = .ok value :=
        attGetU128_inside (by omega)
      rw [attGetU16_inside (by omega), attGetUuid128, read]
      exact ⟨_, rfl⟩
    · intro outside
      by_cases header : ptr + 2 ≤ payload.length
      · rw [attGetU16_inside header, attGetUuid128, attGetU128_outside (by omega)]
        rfl
      · rw [attGetU16_outside (by omega)]
        rfl

theorem handlesInfoAt_strided : Strided (handlesInfoAt (some payload)) payload.length 4 := by
  intro ptr
  unfold handlesInfoAt
  constructor
  · intro inside
    rw [attGetU16_inside (by omega), attGetU16_inside (by omega)]
    exact ⟨_, rfl⟩
  · intro outside
    by_cases header : ptr + 2 ≤ payload.length
    · rw [attGetU16_inside header, attGetU16_outside (by omega)]
      rfl
    · rw [attGetU16_outside (by omega)]
      rfl

theorem memcpy_rest {fixed : Nat} {length : UInt8} (enough : fixed ≤ length.toNat) (ptr : Nat) :
    (ptr + (length.toNat - fixed) ≤ payload.length →
      ∃ data, data.length = length.toNat - fixed ∧
        memcpy (some payload) ptr (length.toNat - fixed) = .ok data) ∧
    (0 < length.toNat - fixed → payload.length < ptr + (length.toNat - fixed) →
      memcpy (some payload) ptr (length.toNat - fixed) = .error .outOfBounds) := by
  have size : ((length.toNat : Int) - fixed).toNat = length.toNat - fixed := by omega
  have sign : ¬ (length.toNat : Int) - fixed < 0 := by omega
  unfold memcpy
  rw [if_neg sign, size]
  constructor
  · intro inside
    refine ⟨_, ?_, bytesAt_inside inside⟩
    rw [List.length_take, List.length_drop]
    omega
  · intro positive outside
    exact bytesAt_outside positive outside

theorem attributeDataAt_strided {length : UInt8} (enough : 2 ≤ length.toNat) :
    Strided (attributeDataAt (some payload) length) payload.length length.toNat := by
  intro ptr
  rcases memcpy_rest payload enough (ptr + 2) with ⟨copied, cut⟩
  unfold attributeDataAt
  constructor
  · intro inside
    rcases copied (by omega) with ⟨data, size, copy⟩
    rw [attGetU16_inside (by omega)]
    simp only [Nat.cast_ofNat] at copy
    simp only [bind, Except.bind, copy, pure, Except.pure, size]
    exact ⟨_, by congr 2; omega⟩
  · intro outside
    by_cases header : ptr + 2 ≤ payload.length
    · have copy := cut (by omega) (by omega)
      simp only [Nat.cast_ofNat] at copy
      rw [attGetU16_inside header]
      simp only [bind, Except.bind, copy]
    · rw [attGetU16_outside (by omega)]
      rfl

theorem groupAttributeDataAt_strided {length : UInt8} (enough : 4 ≤ length.toNat) :
    Strided (groupAttributeDataAt (some payload) length) payload.length length.toNat := by
  intro ptr
  rcases memcpy_rest payload enough (ptr + 2 + 2) with ⟨copied, cut⟩
  unfold groupAttributeDataAt
  constructor
  · intro inside
    rcases copied (by omega) with ⟨data, size, copy⟩
    rw [attGetU16_inside (by omega), attGetU16_inside (by omega)]
    simp only [Nat.cast_ofNat] at copy
    simp only [bind, Except.bind, copy, pure, Except.pure, size]
    exact ⟨_, by congr 2; omega⟩
  · intro outside
    by_cases first : ptr + 2 ≤ payload.length
    · by_cases second : ptr + 2 + 2 ≤ payload.length
      · have copy := cut (by omega) (by omega)
        simp only [Nat.cast_ofNat] at copy
        rw [attGetU16_inside first, attGetU16_inside second]
        simp only [bind, Except.bind, copy]
      · rw [attGetU16_inside first, attGetU16_outside (by omega)]
        rfl
    · rw [attGetU16_outside (by omega)]
      rfl

/-- With a length byte below the fixed fields the copy's length is negative, if the fields
    themselves are there to be read. -/
theorem attributeDataAt_short {length : UInt8} (short : length.toNat < 2) (ptr : Nat) :
    ∃ fault, attributeDataAt (some payload) length ptr = .error fault ∧ fault ≠ .bufferOverflow := by
  unfold attributeDataAt memcpy
  by_cases header : ptr + 2 ≤ payload.length
  · rw [attGetU16_inside header, if_pos (by omega)]
    exact ⟨_, rfl, by decide⟩
  · rw [attGetU16_outside (by omega)]
    exact ⟨_, rfl, by decide⟩

theorem groupAttributeDataAt_short {length : UInt8} (short : length.toNat < 4) (ptr : Nat) :
    ∃ fault, groupAttributeDataAt (some payload) length ptr = .error fault ∧
      fault ≠ .bufferOverflow := by
  unfold groupAttributeDataAt memcpy
  by_cases first : ptr + 2 ≤ payload.length
  · by_cases second : ptr + 2 + 2 ≤ payload.length
    · rw [attGetU16_inside first, attGetU16_inside second, if_pos (by omega)]
      exact ⟨_, rfl, by decide⟩
    · rw [attGetU16_inside first, attGetU16_outside (by omega)]
      exact ⟨_, rfl, by decide⟩
  · rw [attGetU16_outside (by omega)]
    exact ⟨_, rfl, by decide⟩

end Sizes

end Btle.Client

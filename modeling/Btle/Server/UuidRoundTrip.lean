import Btle.Server.UuidHistories

namespace Btle.Server

open Utf16

def Uuid.toBuffer (uuid : Uuid) : Option Buffer := uuid.buffer

/-- The bytes of 0000xxxx-0000-1000-8000-00805f9b34fb, the low one first. -/
def IsBaseForm (buffer : Buffer) : Prop :=
  ∃ number ≤ 0xFFFF, buffer = LittleEndian.bytes 16 (shortUuid number)

/-- The object for a buffer has that buffer, and is the object for it from then on. -/
def RoundTrips (radix16 : ℚ → Text) (store : UuidStore) (buffer : Buffer) : Prop :=
  ∃ next ref uuid, getUuidFor radix16 store (.buffer buffer) = .ok (next, some ref) ∧
    next.objects[ref]? = some uuid ∧ uuid.toBuffer = some buffer ∧
      ∃ last, getUuidFor radix16 next (.buffer buffer) = .ok (last, some ref)

section Base

variable {string : Text} {buffer : Buffer}

theorem longToShort_upper (string : JsString) : longToShort string.upperCase = none := by
  refine if_neg fun base => base_lowered string fun unit member => ?_
  rw [← base.2] at member
  exact List.mem_of_mem_drop member

theorem longToShort_isSome {short : Text} (found : longToShort string = some short) :
    string = shortToLong short := by
  unfold longToShort at found
  split at found
  · rename_i base
    cases found
    have marked : (ofString "0x" ++ (string.drop 4).take 4).drop 2 = (string.drop 4).take 4 := rfl
    have tail : (string.drop 4).drop 4 = baseUuid := by
      rw [List.drop_drop]
      exact base.2
    rw [shortToLong, marked, ← base.1, ← tail, List.append_assoc, List.take_append_drop,
      List.take_append_drop]
  · cases found

theorem bufferToString_number (sixteen : buffer.length = 16) :
    IsLong (bufferToString buffer) ∧
      uuidNumber (bufferToString buffer) = LittleEndian.number buffer := by
  have dashed := bufferToString_long sixteen
  have digits := Hex.ofBytes_digits buffer.reverse
  refine ⟨⟨_, digits, dashed⟩, ?_⟩
  rw [dashed.uuidNumber digits, Hex.value_ofBytes, List.reverse_reverse]

/-- The text of a buffer that is no short UUID cannot be shortened. -/
theorem longToShort_bufferToString (sixteen : buffer.length = 16) (other : ¬ IsBaseForm buffer) :
    longToShort (bufferToString buffer) = none := by
  cases found : longToShort (bufferToString buffer) with
  | none => rfl
  | some short =>
    have dashed := bufferToString_long sixteen
    have whole := longToShort_isSome found
    have number := (bufferToString_number sixteen).2
    have marked : short.drop 2 = ((bufferToString buffer).drop 4).take 4 := by
      unfold longToShort at found
      split at found
      · cases found
        rfl
      · cases found
    have digits : Hex.IsDigits (short.drop 2) := by
      obtain ⟨first, second, third, fourth, fifth, all, lengths, same⟩ := dashed
      have inside : ((bufferToString buffer).drop 4).take 4 = (first.drop 4).take 4 := by
        rw [same, List.drop_append_of_le_length (by omega), List.take_append_of_le_length]
        rw [List.length_drop]
        omega
      intro c member
      rw [marked, inside] at member
      apply Hex.ofBytes_digits buffer.reverse c
      rw [all]
      simp only [List.mem_append]
      exact .inl (.inl (.inl (.inl (List.mem_of_mem_drop (List.mem_of_mem_take member)))))
    have few : (short.drop 2).length ≤ 4 := by
      rw [marked, List.length_take]
      omega
    have bound := Hex.value_lt (short.drop 2)
    have power : 16 ^ (short.drop 2).length ≤ 16 ^ 4 := Nat.pow_le_pow_right (by decide) few
    have same : shortUuid (Hex.value (short.drop 2)) = LittleEndian.number buffer := by
      rw [← uuidNumber_shortToLong digits, ← whole, number]
    refine absurd ⟨Hex.value (short.drop 2), by omega, ?_⟩ other
    rw [same, ← sixteen, LittleEndian.bytes_number]

end Base

section Turning

variable {key : Text} {buffer : Buffer} {uuid : Uuid}

theorem stringToBuffer_of_number (long : IsLong key) (sixteen : buffer.length = 16)
    (number : uuidNumber key = LittleEndian.number buffer) :
    stringToBuffer key = .ok (some buffer) := by
  obtain ⟨bytes, turned, length, same⟩ := stringToBuffer_long long
  have equal : bytes = buffer := by
    rw [← LittleEndian.bytes_number bytes, ← LittleEndian.bytes_number buffer, length, sixteen, same,
      number]
  rw [turned, equal]

/-- What is cached under the text of a buffer that is no short UUID has that buffer. -/
theorem made_under_buffer (sixteen : buffer.length = 16) (other : ¬ IsBaseForm buffer)
    (made : uuid.Made) (under : uuid.Under (bufferToString buffer)) : uuid.buffer = some buffer := by
  obtain ⟨key_long, number⟩ := bufferToString_number sixteen
  obtain ⟨length, long, _⟩ := under.cases (.inl key_long)
  have same_number : uuidNumber uuid.longString = LittleEndian.number buffer := by
    rcases under with same | ⟨string, same, _, upper⟩
    · rw [← same, number]
    · rw [← upper, string.ascii (same ▸ key_long.ascii), uuidNumber_upperText, same, number]
  -- no short string can be read off the long one, in either case of letters
  have no_short : longToShort uuid.longString = none := by
    rcases under with same | ⟨string, _, _, upper⟩
    · rw [← same]
      exact longToShort_bufferToString sixteen other
    · rw [← upper]
      exact longToShort_upper string
  obtain ⟨_, _, read⟩ := new_strings made.new
  have turned := stringToBuffer_of_number (long key_long) sixteen same_number
  have plain : uuid.shortString = none → uuid.buffer = some buffer := by
    intro nothing
    rw [nothing, spelling, Option.getD_none, turned] at read
    exact (Except.ok.inj read).symm
  have madeAs := made.made
  generalize given : uuid.shortString = shortString at madeAs
  cases madeAs with
  | long string _ _ => exact plain given
  | turned earlier _ => exact plain (given.trans no_short)
  | short string marked same =>
    have size := shortToLong_length (upperText string)
    rw [← same, length, key_long.length] at size
    have zeros : (ofString "0000").length = 4 := rfl
    have front : uuid.longString.take 4 = ofString "0000" := by
      rw [same, shortToLong, List.append_assoc, List.take_left' zeros]
    have eight : (ofString "0000" ++ (upperText string).drop 2).length = 8 := by
      rw [List.length_append, List.length_drop, zeros]
      omega
    have back : uuid.longString.drop 8 = baseUuid := by
      rw [same, shortToLong, List.drop_left' eight]
    have shortened : longToShort uuid.longString =
        some (ofString "0x" ++ (uuid.longString.drop 4).take 4) := if_pos ⟨front, back⟩
    rw [no_short] at shortened
    cases shortened

end Turning

/-- After any calls a buffer of a long UUID comes back from its object, and gives that object again. -/
theorem buffers_round_trip (radix16 : ℚ → Text) (history : List UuidInput) (buffer : Buffer)
    (sixteen : buffer.length = 16) (other : ¬ IsBaseForm buffer) :
    RoundTrips radix16 (cacheAfter radix16 history) buffer := by
  have consistent := cacheAfter_consistent radix16 history
  generalize cacheAfter radix16 history = store at consistent
  have called : ∀ store, getUuidFor radix16 store (.buffer buffer) =
      store.cached (bufferToString buffer)
        (Uuid.new (bufferToString buffer) (longToShort (bufferToString buffer))) := fun _ => rfl
  unfold RoundTrips
  simp only [called]
  cases looked : store.uuids.lookup (bufferToString buffer) with
  | some ref =>
    obtain ⟨uuid, present, under⟩ := consistent.cached _ ref looked
    have made := consistent.made uuid (List.mem_of_getElem? present)
    have found := cached_found (Uuid.new (bufferToString buffer) (longToShort (bufferToString buffer))) looked
    exact ⟨store, ref, uuid, found, present, made_under_buffer sixteen other made under, store, found⟩
  | none =>
    obtain ⟨long, number⟩ := bufferToString_number sixteen
    have turned := stringToBuffer_of_number long sixteen number
    rw [longToShort_bufferToString sixteen other]
    have new : Uuid.new (bufferToString buffer) none = .ok ⟨bufferToString buffer, none, some buffer⟩ :=
      new_of_buffer turned
    have inside : (store.objects ++ [⟨bufferToString buffer, none, some buffer⟩])[store.objects.length]? =
        some ⟨bufferToString buffer, none, some buffer⟩ := List.getElem?_concat_length
    exact ⟨_, _, _, cached_made looked new, inside, rfl, _, cached_found _ List.lookup_cons_self⟩

theorem IsBaseForm.head {buffer : Buffer} (base : IsBaseForm buffer) : buffer.head? = some 0xFB := by
  obtain ⟨number, _, rfl⟩ := base
  have low : UInt8.ofNat (shortUuid number) = 0xFB := by
    apply UInt8.toNat_inj.mp
    rw [UInt8.toNat_ofNat', shortUuid]
    show (number * 2 ^ 96 + 0x00001000800000805F9B34FB) % 2 ^ 8 = 0xFB
    omega
  show some (UInt8.ofNat (shortUuid number)) = _
  rw [low]

def countingBytes : Buffer := [0, 1, 2, 3, 4, 5, 6, 7, 8, 9, 10, 11, 12, 13, 14, 15]

def mixedHistory : List UuidInput :=
  [.string (.of "0F0E0D0C-0B0A-0908-0706-050403020100"), .string (.of "0F0E-0B0A"),
    .number (.finite 0x180F), .object 0]

theorem countingBytes_round_trip :
    countingBytes.length = 16 ∧ ¬ IsBaseForm countingBytes ∧
      RoundTrips (fun _ => []) (cacheAfter (fun _ => []) mixedHistory) countingBytes := by
  have sixteen : countingBytes.length = 16 := rfl
  have other : ¬ IsBaseForm countingBytes := by
    intro base
    cases base.head
  exact ⟨sixteen, other, buffers_round_trip (fun _ => []) mixedHistory countingBytes sixteen other⟩

end Btle.Server

import Btle.Library.Stepping
import Btle.Client.Parse

namespace Btle.Client

open Stepping

inductive ListParser
  | attributeList
  | handlesInformationList
  | attributeDataList
  | groupAttributeDataList
  deriving DecidableEq, Repr

namespace ListParser

/-- `ptr - buf` where the loop starts: all but one of the parsers take a byte first. -/
def start : ListParser → Int
  | .attributeList | .attributeDataList | .groupAttributeDataList => 1
  | .handlesInformationList => 0

/-- Where a round leaves `ptr`, given the byte in front of the entries. The lengths are computed in
    `int`, and the pointer is moved by them. -/
def next (parser : ListParser) (first : UInt8) (ptr : Int) : Int :=
  match parser with
  | .attributeList => ptr + 2 + if first = attFindInfoRespFmt16Bit then 2 else 16
  | .handlesInformationList => ptr + 2 + 2
  | .attributeDataList => ptr + 2 + ((first.toNat : Int) - 2)
  | .groupAttributeDataList => ptr + 2 + 2 + ((first.toNat : Int) - 4)

/-- Every round of `while (ptr - buf < len)` moves the pointer on, and `len` rounds are enough. -/
def Terminates (parser : ListParser) (first : UInt8) (len : Int) : Prop :=
  Rises (· < len) (parser.next first) parser.start id ∧
    StopsWithin (· < len) (parser.next first) parser.start len.toNat

/-- A round read to its end: an entry at `ptr`, with the next one behind it. -/
def Reads (parser : ListParser) (buf : Buf) (first : UInt8) (ptr next : Nat) : Prop :=
  match parser with
  | .attributeList => ∃ info, attributeInfoAt buf first ptr = .ok (info, next)
  | .handlesInformationList => ∃ info, handlesInfoAt buf ptr = .ok (info, next)
  | .attributeDataList => ∃ entry, attributeDataAt buf first ptr = .ok (entry, next)
  | .groupAttributeDataList => ∃ entry, groupAttributeDataAt buf first ptr = .ok (entry, next)

/-- The remote device says with the first byte how long the entries are. -/
def IsMeasured (parser : ListParser) : Prop :=
  parser = .attributeDataList ∨ parser = .groupAttributeDataList

theorem next_rises (parser : ListParser) {first : UInt8} (moves : parser.IsMeasured → first ≠ 0)
    (ptr : Int) : ptr + 1 ≤ parser.next first ptr := by
  cases parser with
  | attributeList =>
    unfold next
    dsimp only
    split <;> omega
  | handlesInformationList =>
    unfold next
    dsimp only
    omega
  | attributeDataList =>
    have positive := UInt8.pos_iff_ne_zero.mpr (moves (.inl rfl))
    have number : 0 < first.toNat := positive
    unfold next
    dsimp only
    omega
  | groupAttributeDataList =>
    have positive := UInt8.pos_iff_ne_zero.mpr (moves (.inr rfl))
    have number : 0 < first.toNat := positive
    unfold next
    dsimp only
    omega

theorem next_stays {parser : ListParser} (measured : parser.IsMeasured) (ptr : Int) :
    parser.next 0 ptr = ptr := by
  rcases measured with rfl | rfl
  · unfold next
    simp
  · unfold next
    simp only [UInt8.toNat_zero, Nat.cast_zero]
    omega

theorem start_measured {parser : ListParser} (measured : parser.IsMeasured) : parser.start = 1 := by
  rcases measured with rfl | rfl <;> rfl

theorem start_low (parser : ListParser) : 0 ≤ parser.start := by
  cases parser <;> decide

end ListParser

section Rounds

variable {buf : Buf} {first : UInt8} {ptr next : Nat}

theorem bytesAt_length {count : Nat} {bytes : List UInt8} (read : bytesAt buf ptr count = .ok bytes) :
    bytes.length = count := by
  induction count generalizing ptr bytes with
  | zero =>
    cases read
    rfl
  | succ count ih =>
    rw [bytesAt] at read
    obtain ⟨byte, _, onward⟩ := bind_ok read
    obtain ⟨rest, later, made⟩ := bind_ok onward
    cases made
    rw [List.length_cons, ih later]

theorem memcpy_length {length : Int} {data : List UInt8} (copied : memcpy buf ptr length = .ok data) :
    (data.length : Int) = length := by
  unfold memcpy at copied
  split at copied
  · cases copied
  · rw [bytesAt_length copied]
    omega

/-- The entries that the parsers read follow each other as the pointer goes. -/
theorem ListParser.Reads.next_eq {parser : ListParser} (reads : parser.Reads buf first ptr next) :
    (next : Int) = parser.next first ptr := by
  cases parser with
  | attributeList =>
    obtain ⟨info, read⟩ := reads
    obtain ⟨handle, _, onward⟩ := bind_ok read
    unfold ListParser.next
    dsimp only at onward ⊢
    split at onward
    · rename_i short
      obtain ⟨type, _, made⟩ := bind_ok onward
      cases made
      rw [if_pos short]
      rfl
    · rename_i long
      obtain ⟨type, _, made⟩ := bind_ok onward
      cases made
      rw [if_neg long]
      rfl
  | handlesInformationList =>
    obtain ⟨info, read⟩ := reads
    obtain ⟨handle, _, onward⟩ := bind_ok read
    obtain ⟨groupEndHandle, _, made⟩ := bind_ok onward
    cases made
    rfl
  | attributeDataList =>
    obtain ⟨entry, read⟩ := reads
    obtain ⟨handle, _, onward⟩ := bind_ok read
    obtain ⟨data, copied, made⟩ := bind_ok onward
    cases made
    have length := memcpy_length copied
    unfold ListParser.next
    push_cast
    omega
  | groupAttributeDataList =>
    obtain ⟨entry, read⟩ := reads
    obtain ⟨handle, _, onward⟩ := bind_ok read
    obtain ⟨groupEndHandle, _, later⟩ := bind_ok onward
    obtain ⟨data, copied, made⟩ := bind_ok later
    cases made
    have length := memcpy_length copied
    unfold ListParser.next
    push_cast
    omega

end Rounds

/-- An entry length of 0 takes the pointer back to where the round began. The entries that a parser
    reads follow each other as the pointer goes. -/
theorem parsers_terminate_iff (parser : ListParser) (first : UInt8) (len : Int) :
    (parser.Terminates first len ↔ ¬ (parser.IsMeasured ∧ first = 0 ∧ 1 < len)) ∧
      ∀ buf ptr next, parser.Reads buf first ptr next → (next : Int) = parser.next first ptr := by
  refine ⟨⟨?_, ?_⟩, fun buf ptr next reads => reads.next_eq⟩
  · intro terminates stuck
    obtain ⟨measured, rfl, more⟩ := stuck
    have again : parser.start < len := by
      rw [ListParser.start_measured measured]
      exact more
    have stays : parser.next 0 parser.start = parser.start := ListParser.next_stays measured _
    exact not_rises_of_fixed (· < len) again stays terminates.1
  · intro free
    by_cases moves : parser.IsMeasured → first ≠ 0
    · have rises : Rises (· < len) (parser.next first) parser.start id :=
        rises_of_step fun ptr _ => parser.next_rises moves ptr
      exact ⟨rises, rises.stopsWithin (fun _ below => below) parser.start_low⟩
    · push Not at moves
      obtain ⟨measured, zero⟩ := moves
      have stopped : ¬ parser.start < len := by
        rw [ListParser.start_measured measured]
        exact fun more => free ⟨measured, zero, more⟩
      exact ⟨rises_of_stopped (· < len) stopped, stopsWithin_zero (· < len) stopped _⟩

/-- After the first byte of `00 01 00` the loop comes to the same handle again and again. -/
theorem zero_length_stuck :
    ¬ ListParser.attributeDataList.Terminates 0 3 ∧
      ∀ round, ¬ StopsWithin (· < (3 : Int)) (ListParser.attributeDataList.next 0)
        ListParser.attributeDataList.start round := by
  have again : ListParser.attributeDataList.start < 3 := by decide
  have stays : ListParser.attributeDataList.next 0 ListParser.attributeDataList.start =
      ListParser.attributeDataList.start := rfl
  have enters := enters_of_fixed (· < (3 : Int)) again stays
  refine ⟨fun terminates => ?_, fun rounds ends => ?_⟩
  · exact not_rises_of_fixed (· < (3 : Int)) again stays terminates.1
  · obtain ⟨last, _, stopped⟩ := ends
    exact stopped (enters last last (Nat.le_refl last))

end Btle.Client

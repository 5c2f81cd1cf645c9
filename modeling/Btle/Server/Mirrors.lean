import Btle.Library.Relating
import Btle.Server.Outcomes

namespace Btle.Server

open Relating Throwing

/-- The same surroundings, with other bytes in new buffers. -/
def Host.refilled (host : Host) (garbage : Nat → Nat → UInt8) : Host := { host with garbage }

/-- The same bytes in new buffers, which are the same ones if as much was sent before. -/
def FilledAlike (host : Host) (garbage : Nat → Nat → UInt8) (base twin : List (CentralRef × Buffer)) :
    Prop :=
  garbage = host.garbage ∧ base.length = twin.length

/-- Two worlds that differ in their attributes at most so, and in what was sent. Since it was this
    and that, as many PDUs were added in both, and the same ones if all was clean. -/
structure Mirrored (attribs : (AttrRef → Attribute) → (AttrRef → Attribute) → Prop) (clean : Prop)
    (base twin : List (CentralRef × Buffer)) (world other : World) : Prop where
  attrib : attribs world.attrib other.attrib
  same : other = { world with attrib := other.attrib, sent := other.sent }
  sent : ∃ added more, world.sent = base ++ added ∧ other.sent = twin ++ more ∧
    added.length = more.length ∧ (clean → added = more)

/-- Two encoders both throw, or give as many bytes, and the same ones if all is clean. -/
def Paired (clean : Prop) (encoded other : Except JsError Buffer) : Prop :=
  (∃ thrown instead, encoded = .error thrown ∧ other = .error instead) ∨
    ∃ pdu answer, encoded = .ok pdu ∧ other = .ok answer ∧ pdu.length = answer.length ∧
      (clean → pdu = answer)

theorem ContentsOf.paired {clean : Prop} {mtuSize size : UInt16} {content more : Buffer}
    {encoded other : Except JsError Buffer} {success succeeds : Prop}
    (first : ContentsOf mtuSize content encoded success)
    (second : ContentsOf size more other succeeds) (sizes : size = mtuSize) (same : success ↔ succeeds)
    (length : content.length = more.length) (equal : clean → content = more) :
    Paired clean encoded other := by
  subst sizes
  rcases first with ⟨thrown, failed, never⟩ | ⟨encoded_ok, success⟩
  · rcases second with ⟨instead, other_failed, _⟩ | ⟨_, succeeds⟩
    · exact .inl ⟨thrown, instead, failed, other_failed⟩
    · exact absurd (same.mpr succeeds) never
  · rcases second with ⟨_, _, never⟩ | ⟨other_ok, _⟩
    · exact absurd (same.mp success) never
    · refine .inr ⟨_, _, encoded_ok, other_ok, ?_, fun ok => by rw [equal ok]⟩
      rw [List.length_take, List.length_take, length]

section Mirrored

variable {attribs : (AttrRef → Attribute) → (AttrRef → Attribute) → Prop} {clean : Prop}
  {base twin : List (CentralRef × Buffer)} {world other : World}

theorem mirrored_refl (related : attribs world.attrib other.attrib)
    (same : other = { world with attrib := other.attrib, sent := other.sent }) :
    Mirrored attribs clean world.sent other.sent world other :=
  ⟨related, same, [], [], by simp, by simp, rfl, fun _ => rfl⟩

theorem Mirrored.mtuSize (mirrored : Mirrored attribs clean base twin world other) :
    other.mtuSize = world.mtuSize := by
  rw [mirrored.same]

theorem Mirrored.handles (mirrored : Mirrored attribs clean base twin world other) :
    other.handles = world.handles := by
  rw [mirrored.same]

theorem Mirrored.central (mirrored : Mirrored attribs clean base twin world other) :
    other.central = world.central := by
  rw [mirrored.same]

theorem Mirrored.uuids (mirrored : Mirrored attribs clean base twin world other) :
    other.uuids = world.uuids := by
  rw [mirrored.same]

theorem Mirrored.sent_length (mirrored : Mirrored attribs clean base twin world other)
    (level : base.length = twin.length) : world.sent.length = other.sent.length := by
  rcases mirrored.sent with ⟨added, more, sent, twin_sent, length, _⟩
  rw [sent, twin_sent, List.length_append, List.length_append, level, length]

theorem Mirrored.sent_same (mirrored : Mirrored attribs clean base base world other) (ok : clean) :
    other.sent = world.sent := by
  rcases mirrored.sent with ⟨added, more, sent, twin_sent, _, same⟩
  rw [sent, twin_sent, same ok]

theorem Mirrored.with_uuids (mirrored : Mirrored attribs clean base twin world other)
    (uuids : UuidStore) :
    Mirrored attribs clean base twin { world with uuids } { other with uuids } :=
  ⟨mirrored.attrib, by rw [mirrored.same], mirrored.sent⟩

/-- A change that looks at neither the attributes nor what was sent, and leaves them. -/
theorem Mirrored.changed {next twin_next : World}
    (mirrored : Mirrored attribs clean base twin world other)
    (attrib : next.attrib = world.attrib) (twin_attrib : twin_next.attrib = other.attrib)
    (sent : next.sent = world.sent) (twin_sent : twin_next.sent = other.sent)
    (same : twin_next = { next with attrib := twin_next.attrib, sent := twin_next.sent }) :
    Mirrored attribs clean base twin next twin_next := by
  refine ⟨?_, same, ?_⟩
  · rw [attrib, twin_attrib]
    exact mirrored.attrib
  · rw [sent, twin_sent]
    exact mirrored.sent

theorem Mirrored.wrote (mirrored : Mirrored attribs clean base twin world other)
    (central : CentralRef) {pdu answer : Buffer} (equal : clean → pdu = answer) :
    Mirrored attribs clean base twin { world with sent := world.sent ++ [(central, pdu)] }
      { other with sent := other.sent ++ [(central, answer)] } := by
  rcases mirrored.sent with ⟨added, more, sent, twin_sent, length, same⟩
  refine ⟨mirrored.attrib, by rw [mirrored.same], added ++ [(central, pdu)],
    more ++ [(central, answer)], ?_, ?_, by simp [length], fun ok => by rw [same ok, equal ok]⟩
  · rw [sent, List.append_assoc]
  · rw [twin_sent, List.append_assoc]

section Programs

variable {α : Type} {values : α → α → Prop}

theorem write_alike (mirrored : Mirrored attribs clean base twin world other) (central : CentralRef)
    {pdu answer : Buffer} (length : pdu.length = answer.length) (equal : clean → pdu = answer) :
    Alike (Mirrored attribs clean base twin) Eq ((Central.write central pdu).run world)
      ((Central.write central answer).run other) := by
  have wrote := mirrored.wrote central equal
  have limit : (other.central central).mtu = (world.central central).mtu := by rw [mirrored.central]
  rw [write_run, write_run, limit, ← length]
  by_cases fits : pdu.length ≤ (world.central central).mtu.toNat
  · rw [if_pos fits, if_pos fits]
    exact .ok rfl wrote
  · rw [if_neg fits, if_neg fits]
    exact .error wrote

theorem ofExcept_alike {β : Type} (mirrored : Mirrored attribs clean base twin world other)
    {result : Except JsError β} {next onward : β → Js α}
    (each : ∀ value, result = .ok value →
      Alike (Mirrored attribs clean base twin) values ((next value).run world)
        ((onward value).run other)) :
    Alike (Mirrored attribs clean base twin) values ((Js.ofExcept result >>= next).run world)
      ((Js.ofExcept result >>= onward).run other) := by
  cases result with
  | error thrown => exact .error mirrored
  | ok value => exact each value rfl

theorem getUuidOf_alike (mirrored : Mirrored attribs clean base twin world other) {value : UuidValue}
    {next onward : Option UuidRef → Js α}
    (each : ∀ uuids type, getUuid world.uuids value = .ok (uuids, type) →
      Alike (Mirrored attribs clean base twin) values ((next type).run { world with uuids })
        ((onward type).run { other with uuids })) :
    Alike (Mirrored attribs clean base twin) values ((getUuidOf value >>= next).run world)
      ((getUuidOf value >>= onward).run other) := by
  cases got : getUuid world.uuids value with
  | error thrown =>
    have twin_got : getUuid other.uuids value = .error thrown := by rw [mirrored.uuids, got]
    rw [getUuidOf_error got, getUuidOf_error twin_got]
    exact .error mirrored
  | ok found =>
    rcases found with ⟨uuids, type⟩
    have twin_got : getUuid other.uuids value = .ok (uuids, type) := by rw [mirrored.uuids, got]
    rw [getUuidOf_ok got, getUuidOf_ok twin_got]
    exact each uuids type got

theorem logType_alike {host host' : Host} (mirrored : Mirrored attribs clean base twin world other)
    (debug : host'.debug = host.debug) {type : Option UuidRef} {program program' : Js Unit}
    {values : Unit → Unit → Prop}
    (onward : Printable host world.uuids type →
      Alike (Mirrored attribs clean base twin) values (program.run world) (program'.run other)) :
    Alike (Mirrored attribs clean base twin) values
      ((logType host type >>= fun _ => program).run world)
      ((logType host' type >>= fun _ => program').run other) := by
  have same : Printable host' other.uuids type ↔ Printable host world.uuids type := by
    unfold Printable
    rw [debug, mirrored.uuids]
  by_cases printable : Printable host world.uuids type
  · rw [logType_printable printable, logType_printable (same.mpr printable)]
    exact onward printable
  · rcases logType_hidden program printable with ⟨thrown, ran⟩
    rcases logType_hidden program' (mt same.mp printable) with ⟨instead, twin_ran⟩
    rw [ran, twin_ran]
    exact .error mirrored

theorem sendError_alike {host : Host} {garbage : Nat → Nat → UInt8}
    (mirrored : Mirrored attribs clean base twin world other) (central : CentralRef)
    (error op : UInt8) {handle : Nat} (small : handle ≤ 0xFFFF)
    (named : clean → FilledAlike host garbage base twin ∨ handle ≠ 0) :
    Alike (Mirrored attribs clean base twin) Eq ((sendError host central error op handle).run world)
      ((sendError (host.refilled garbage) central error op handle).run other) := by
  rw [sendError_run host world central error op small, sendError_run _ other central error op small]
  apply write_alike mirrored central
  · rw [errorPdu_length, errorPdu_length]
  · intro ok
    rcases named ok with ⟨rfl, level⟩ | some_handle
    · rw [mirrored.sent_length level]
      rfl
    · rw [errorPdu, errorPdu, if_neg some_handle, if_neg some_handle]

theorem respond_alike {host : Host} {garbage : Nat → Nat → UInt8}
    (mirrored : Mirrored attribs clean base twin world other) (central : CentralRef)
    {request : UInt8} {start : Nat} (small : start ≤ 0xFFFF) {found twin_found : List AttrRef}
    {encode encode' : World → List Attribute → Except JsError Buffer}
    (empty : found = [] ↔ twin_found = [])
    (named : found = [] → clean → FilledAlike host garbage base twin ∨ start ≠ 0)
    (paired : found ≠ [] →
      Paired clean (encode world (found.map world.attrib)) (encode' other (twin_found.map other.attrib))) :
    Alike (Mirrored attribs clean base twin) Eq
      ((respond host central request start found encode).run world)
      ((respond (host.refilled garbage) central request start twin_found encode').run other) := by
  cases found with
  | nil =>
    rw [empty.mp rfl]
    exact sendError_alike mirrored central _ _ small (named rfl)
  | cons ref found =>
    have some_found : ref :: found ≠ [] := by simp
    rcases List.exists_cons_of_ne_nil (mt empty.mpr some_found) with ⟨twin_ref, more, rfl⟩
    simp only [respond, EStateM.run_bind, EStateM.run_get]
    rcases paired some_found with ⟨thrown, instead, failed, twin_failed⟩ |
      ⟨pdu, answer, encoded, twin_encoded, length, equal⟩
    · rw [failed, twin_failed]
      exact .error mirrored
    · rw [encoded, twin_encoded]
      exact write_alike mirrored central length equal

theorem silent_alike {program : Js Unit} {good : Prop}
    (mirrored : Mirrored attribs clean base twin world other)
    (outcome : ∀ now : World, (Returns program now ↔ good) ∧ after program now = now) :
    Alike (Mirrored attribs clean base twin) Eq (program.run world) (program.run other) := by
  rcases outcome world with ⟨returns, left⟩
  rcases outcome other with ⟨twin_returns, twin_left⟩
  unfold Returns after at *
  cases ran : program.run world <;> cases twin_ran : program.run other <;> simp only [ran, twin_ran] at *
  · subst left twin_left
    exact .ok rfl mirrored
  · exact absurd (returns.mp trivial) twin_returns.mpr
  · exact absurd (twin_returns.mp trivial) returns.mpr
  · subst left twin_left
    exact .error mirrored

end Programs

/-- Two programs that come to mirrored worlds write the same, if all is clean. -/
theorem Mirrored.written {program twin_program : Js Unit}
    (mirrored : Mirrored attribs clean world.sent other.sent (after program world)
      (after twin_program other)) (ok : clean) :
    written program world = written twin_program other := by
  rcases mirrored.sent with ⟨added, more, sent, twin_sent, _, equal⟩
  rw [written_of_sent sent, written_of_sent twin_sent]
  exact equal ok

end Mirrored

/-- A PDU is answered with an error, about the handle it starts with. -/
def Handler.Errs (host : Host) (world : World) (data : Buffer) : Handler → Prop
  | .findInfo => 4 ≤ data.length ∧ (word data 0 = 0 ∨ word data 2 < word data 0 ∨
      attributesIn world (word data 0) (word data 2) none = [])
  | .findByType => Typed host world data 6 (.number (word data 4)) fun type =>
      (word data 0 = 0 ∨ word data 2 < word data 0) ∨
        (∀ ref ∈ attributesIn world (word data 0) (word data 2) type,
          (world.attrib ref).value ≠ none ∧ (world.attrib ref).value ≠ some (data.drop 6))
  | .readByType => Typed host world data 6 (.number (word data 4)) fun type =>
      attributesIn world (word data 0) (word data 2) type = []
  | .read => 2 ≤ data.length
  | .readByGroup => Typed host world data 4 (.buffer (data.drop 4)) fun type =>
      attributesIn world (word data 0) (word data 2) type = []
  | .write => 2 ≤ data.length ∧ writeTarget world (word data 0) true = none
  | .writeCmd => 2 ≤ data.length ∧ writeTarget world (word data 0) false = none
  | .error | .mtu | .readBlob | .readMulti | .valueConfirm => False

/-- The attributes with this value. -/
def matching (attrib : AttrRef → Attribute) (refs : List AttrRef) (content : Buffer) : List AttrRef :=
  refs.filter fun ref => (attrib ref).value = some content

theorem matching_few {world : World} (attrib : AttrRef → Attribute) (data : Buffer)
    (type : Option UuidRef) {content : Buffer} :
    (matching attrib (attributesIn world (word data 0) (word data 2) type) content).length ≤ 0xFFFF := by
  have bound := attributesIn_length world (word data 0) (word data 2) type
  have small := word_small data 2
  exact (List.length_filter_le _ _).trans (by omega)

section Reads

variable {attribs : (AttrRef → Attribute) → (AttrRef → Attribute) → Prop} {clean : Prop}
  {base twin : List (CentralRef × Buffer)} {world other : World} {host : Host}
  {garbage : Nat → Nat → UInt8} (central : CentralRef) (data : Buffer)

theorem attributesIn_alike (mirrored : Mirrored attribs clean base twin world other)
    (types : ∀ ref, (other.attrib ref).type = (world.attrib ref).type) (start stop : Nat)
    (type : Option UuidRef) :
    attributesIn other start stop type = attributesIn world start stop type := by
  simp only [attributesIn, mirrored.handles, types]

theorem handleFindInfo_alike (mirrored : Mirrored attribs clean base twin world other)
    (types : ∀ ref, (other.attrib ref).type = (world.attrib ref).type)
    (named : clean → FilledAlike host garbage base twin ∨
      (Handler.findInfo.Errs host world data → word data 0 ≠ 0)) :
    Alike (Mirrored attribs clean base twin) Eq ((handleFindInfo host central data).run world)
      ((handleFindInfo (host.refilled garbage) central data).run other) := by
  unfold handleFindInfo
  refine ofExcept_alike mirrored fun start read_start =>
    ofExcept_alike mirrored fun stop read_stop => ?_
  rcases readUInt16LE_iff.mp read_start with ⟨_, rfl⟩
  rcases readUInt16LE_iff.mp read_stop with ⟨long, rfl⟩
  by_cases invalid : word data 0 = 0 ∨ word data 2 < word data 0
  · rw [if_pos invalid, if_pos invalid]
    apply sendError_alike mirrored central _ _ (word_small data 0)
    intro ok
    exact (named ok).imp_right fun about => about ⟨by omega, or_assoc.mp (.inl invalid)⟩
  · rw [if_neg invalid, if_neg invalid, EStateM.run_bind, EStateM.run_bind, EStateM.run_get,
      EStateM.run_get]
    dsimp only
    rw [findAttributes_any, findAttributes_any, attributesIn_alike mirrored types]
    apply respond_alike mirrored central (word_small data 0) Iff.rfl
    · intro nothing ok
      exact (named ok).imp_right fun about => about ⟨by omega, .inr (.inr nothing)⟩
    · intro some_found
      rcases List.exists_cons_of_ne_nil some_found with ⟨ref, found, listed⟩
      rw [listed]
      obtain ⟨thrown, failed⟩ := findInfoResponse_throws host world (world.attrib ref)
        (found.map world.attrib)
      obtain ⟨instead, twin_failed⟩ := findInfoResponse_throws (host.refilled garbage) other
        (other.attrib ref) (found.map other.attrib)
      exact .inl ⟨thrown, instead, failed, twin_failed⟩

theorem handleFindByType_alike (mirrored : Mirrored attribs clean base twin world other)
    (types : ∀ ref, (other.attrib ref).type = (world.attrib ref).type)
    (present : ∀ ref, (other.attrib ref).value = none ↔ (world.attrib ref).value = none)
    (named : clean → FilledAlike host garbage base twin ∨
      (Handler.findByType.Errs host world data → word data 0 ≠ 0))
    (matched : ∀ uuids type, 6 ≤ data.length →
      getUuid world.uuids (.number (word data 4)) = .ok (uuids, type) → Printable host uuids type →
        ¬ (word data 0 = 0 ∨ word data 2 < word data 0) →
          let refs := attributesIn world (word data 0) (word data 2) type
          let found := matching world.attrib refs (data.drop 6)
          let twin_found := matching other.attrib refs (data.drop 6)
          (found = [] ↔ twin_found = []) ∧ (found ≠ [] → Paired clean
            (findByTypeResponse host type (data.drop 6) { world with uuids } (found.map world.attrib))
            (findByTypeResponse (host.refilled garbage) type (data.drop 6) { other with uuids }
              (twin_found.map other.attrib)))) :
    Alike (Mirrored attribs clean base twin) Eq ((handleFindByType host central data).run world)
      ((handleFindByType (host.refilled garbage) central data).run other) := by
  unfold handleFindByType
  refine ofExcept_alike mirrored fun start read_start =>
    ofExcept_alike mirrored fun stop read_stop =>
      ofExcept_alike mirrored fun number read_number => getUuidOf_alike mirrored fun uuids type got =>
        logType_alike (mirrored.with_uuids uuids) rfl fun printable => ?_
  rcases readUInt16LE_iff.mp read_start with ⟨_, rfl⟩
  rcases readUInt16LE_iff.mp read_stop with ⟨_, rfl⟩
  rcases readUInt16LE_iff.mp read_number with ⟨long, rfl⟩
  have kept := mirrored.with_uuids uuids
  have enough : 6 ≤ data.length := by omega
  by_cases invalid : word data 0 = 0 ∨ word data 2 < word data 0
  · rw [if_pos invalid, if_pos invalid]
    apply sendError_alike kept central _ _ (word_small data 0)
    intro ok
    exact (named ok).imp_right fun about => about ⟨enough, uuids, type, got, printable, .inl invalid⟩
  · rcases matched uuids type enough got printable invalid with ⟨empty, paired⟩
    have refs_same : attributesIn { other with uuids } (word data 0) (word data 2) type =
        attributesIn world (word data 0) (word data 2) type := attributesIn_alike kept types _ _ _
    rw [if_neg invalid, if_neg invalid, EStateM.run_bind, EStateM.run_bind, EStateM.run_get,
      EStateM.run_get]
    dsimp only
    by_cases values : ∀ ref ∈ attributesIn world (word data 0) (word data 2) type,
        (world.attrib ref).value ≠ none
    · have searched : findAttributes { world with uuids } (word data 0) (word data 2) type
          (some (data.drop 6)) = .ok (matching world.attrib
            (attributesIn world (word data 0) (word data 2) type) (data.drop 6)) :=
        (findAttributes_valued _ _ _ _ _).mpr ⟨values, rfl⟩
      have twin_searched : findAttributes { other with uuids } (word data 0) (word data 2) type
          (some (data.drop 6)) = .ok (matching other.attrib
            (attributesIn world (word data 0) (word data 2) type) (data.drop 6)) := by
        apply (findAttributes_valued _ _ _ _ _).mpr
        rw [refs_same]
        exact ⟨fun ref member => mt (present ref).mp (values ref member), rfl⟩
      rw [searched, twin_searched]
      apply respond_alike kept central (word_small data 0) empty
      · intro nothing ok
        apply (named ok).imp_right
        intro about
        refine about ⟨enough, uuids, type, got, printable, .inr fun ref member => ?_⟩
        have differs := List.filter_eq_nil_iff.mp nothing ref member
        exact ⟨values ref member, by simpa using differs⟩
      · exact paired
    · have twin_values : ¬ ∀ ref ∈ attributesIn { other with uuids } (word data 0) (word data 2) type,
          (other.attrib ref).value ≠ none := by
        rw [refs_same]
        exact fun all => values fun ref member => mt (present ref).mpr (all ref member)
      rcases findAttributes_unvalued { world with uuids } _ _ _ (data.drop 6) values with
        ⟨thrown, failed⟩
      rcases findAttributes_unvalued { other with uuids } _ _ _ (data.drop 6) twin_values with
        ⟨instead, twin_failed⟩
      rw [failed, twin_failed]
      exact .error kept

theorem handleReadByType_alike (mirrored : Mirrored attribs clean base twin world other)
    (types : ∀ ref, (other.attrib ref).type = (world.attrib ref).type)
    (named : clean → FilledAlike host garbage base twin ∨
      (Handler.readByType.Errs host world data → word data 0 ≠ 0))
    (paired : ∀ uuids type, 6 ≤ data.length →
      getUuid world.uuids (.number (word data 4)) = .ok (uuids, type) → Printable host uuids type →
        let refs := attributesIn world (word data 0) (word data 2) type
        refs ≠ [] → Paired clean
          (readByTypeResponse host { world with uuids } (refs.map world.attrib))
          (readByTypeResponse (host.refilled garbage) { other with uuids } (refs.map other.attrib))) :
    Alike (Mirrored attribs clean base twin) Eq ((handleReadByType host central data).run world)
      ((handleReadByType (host.refilled garbage) central data).run other) := by
  unfold handleReadByType
  refine ofExcept_alike mirrored fun start read_start =>
    ofExcept_alike mirrored fun stop read_stop =>
      ofExcept_alike mirrored fun number read_number => getUuidOf_alike mirrored fun uuids type got =>
        logType_alike (mirrored.with_uuids uuids) rfl fun printable => ?_
  rcases readUInt16LE_iff.mp read_start with ⟨_, rfl⟩
  rcases readUInt16LE_iff.mp read_stop with ⟨_, rfl⟩
  rcases readUInt16LE_iff.mp read_number with ⟨long, rfl⟩
  have kept := mirrored.with_uuids uuids
  have enough : 6 ≤ data.length := by omega
  rw [EStateM.run_bind, EStateM.run_bind, EStateM.run_get, EStateM.run_get]
  dsimp only
  rw [findAttributes_any, findAttributes_any, attributesIn_alike kept types]
  apply respond_alike kept central (word_small data 0) Iff.rfl
  · intro nothing ok
    exact (named ok).imp_right fun about => about ⟨enough, uuids, type, got, printable, nothing⟩
  · exact paired uuids type enough got printable

theorem handleReadByGroup_alike (mirrored : Mirrored attribs clean base twin world other)
    (types : ∀ ref, (other.attrib ref).type = (world.attrib ref).type)
    (named : clean → FilledAlike host garbage base twin ∨
      (Handler.readByGroup.Errs host world data → word data 0 ≠ 0))
    (paired : ∀ uuids type, 4 ≤ data.length →
      getUuid world.uuids (.buffer (data.drop 4)) = .ok (uuids, type) → Printable host uuids type →
        let refs := attributesIn world (word data 0) (word data 2) type
        refs ≠ [] → Paired clean
          (readByGroupResponse host { world with uuids } (refs.map world.attrib))
          (readByGroupResponse (host.refilled garbage) { other with uuids } (refs.map other.attrib))) :
    Alike (Mirrored attribs clean base twin) Eq ((handleReadByGroup host central data).run world)
      ((handleReadByGroup (host.refilled garbage) central data).run other) := by
  unfold handleReadByGroup
  refine ofExcept_alike mirrored fun start read_start =>
    ofExcept_alike mirrored fun stop read_stop => getUuidOf_alike mirrored fun uuids type got =>
      logType_alike (mirrored.with_uuids uuids) rfl fun printable => ?_
  rcases readUInt16LE_iff.mp read_start with ⟨_, rfl⟩
  rcases readUInt16LE_iff.mp read_stop with ⟨long, rfl⟩
  have kept := mirrored.with_uuids uuids
  have enough : 4 ≤ data.length := by omega
  rw [EStateM.run_bind, EStateM.run_bind, EStateM.run_get, EStateM.run_get]
  dsimp only
  rw [findAttributes_any, findAttributes_any, attributesIn_alike kept types]
  apply respond_alike kept central (word_small data 0) Iff.rfl
  · intro nothing ok
    exact (named ok).imp_right fun about => about ⟨enough, uuids, type, got, printable, nothing⟩
  · exact paired uuids type enough got printable

theorem handleRead_alike (mirrored : Mirrored attribs clean base twin world other)
    (named : clean → FilledAlike host garbage base twin ∨
      (Handler.read.Errs host world data → word data 0 ≠ 0)) :
    Alike (Mirrored attribs clean base twin) Eq ((handleRead host central data).run world)
      ((handleRead (host.refilled garbage) central data).run other) := by
  unfold handleRead
  refine ofExcept_alike mirrored fun handle read => ?_
  rcases readUInt16LE_iff.mp read with ⟨long, rfl⟩
  apply sendError_alike mirrored central _ _ (word_small data 0)
  intro ok
  exact (named ok).imp_right fun about => about (show 2 ≤ data.length by omega)

end Reads

end Btle.Server

import Btle.Server.Encoders

namespace Btle.Server

open Throwing

def written {α : Type} (program : Js α) (world : World) : List (CentralRef × Buffer) :=
  (after program world).sent.drop world.sent.length

theorem written_of_sent {α : Type} {program : Js α} {world : World}
    {added : List (CentralRef × Buffer)}
    (sent : (after program world).sent = world.sent ++ added) : written program world = added := by
  rw [written, sent, List.drop_left]

def IsError (request : UInt8) (pdu : Buffer) : Prop :=
  pdu.length = 5 ∧ pdu[0]? = some opError ∧ pdu[1]? = some request

/-- A program that throws with nothing written, or comes to write one PDU and do no more. The
    condition tells which, given what is asked of the length of that PDU. -/
def Settles (program : Js Unit) (central : CentralRef) (world : World) (answer : Buffer → Prop)
    (condition : (Nat → Prop) → Prop) : Prop :=
  (∃ thrown uuids, program.run world = .error thrown { world with uuids } ∧
    ∀ goal, ¬ condition goal) ∨
  ∃ pdu uuids, program.run world = (Central.write central pdu).run { world with uuids } ∧
    answer pdu ∧ ∀ goal, condition goal ↔ goal pdu.length

section Settles

variable {α : Type} {program : Js Unit} {central : CentralRef} {world : World}
  {answer : Buffer → Prop} {condition other : (Nat → Prop) → Prop}

theorem Settles.congr (condition : (Nat → Prop) → Prop)
    (settles : Settles program central world answer condition)
    (same : ∀ goal, other goal ↔ condition goal) : Settles program central world answer other := by
  have equal : other = condition := funext fun goal => propext (same goal)
  exact equal ▸ settles

theorem Settles.weaken {wider : Buffer → Prop}
    (settles : Settles program central world answer condition)
    (wide : ∀ pdu, answer pdu → wider pdu) : Settles program central world wider condition := by
  rcases settles with threw | ⟨pdu, uuids, wrote, is_answer, exactly⟩
  · exact .inl threw
  · exact .inr ⟨pdu, uuids, wrote, wide pdu is_answer, exactly⟩

theorem settles_ofExcept {result : Except JsError α} {next : α → Js Unit}
    {each : α → (Nat → Prop) → Prop}
    (onward : ∀ value, result = .ok value → Settles (next value) central world answer (each value)) :
    Settles (Js.ofExcept result >>= next) central world answer
      (fun goal => ∃ value, result = .ok value ∧ each value goal) := by
  cases result with
  | error thrown => exact .inl ⟨thrown, world.uuids, rfl, by simp⟩
  | ok value =>
    refine (onward value rfl).congr (each value) fun goal => ?_
    simp

theorem settles_get {next : World → Js Unit}
    (onward : Settles (next world) central world answer condition) :
    Settles (get >>= next) central world answer condition := onward

theorem getUuidOf_ok {α : Type} {value : UuidValue} {next : Option UuidRef → Js α}
    {uuids : UuidStore} {type : Option UuidRef} (got : getUuid world.uuids value = .ok (uuids, type)) :
    (getUuidOf value >>= next).run world = (next type).run { world with uuids } := by
  simp only [getUuidOf, EStateM.run_bind, EStateM.run_get, EStateM.run_modify, EStateM.run_pure, got,
    Js.ofExcept]

theorem getUuidOf_error {α : Type} {value : UuidValue} {next : Option UuidRef → Js α}
    {thrown : JsError} (failed : getUuid world.uuids value = .error thrown) :
    (getUuidOf value >>= next).run world = .error thrown world := by
  simp only [getUuidOf, EStateM.run_bind, EStateM.run_get, failed]
  rfl

theorem settles_getUuidOf {value : UuidValue} {next : Option UuidRef → Js Unit}
    {each : UuidStore → Option UuidRef → (Nat → Prop) → Prop}
    (onward : ∀ uuids type, getUuid world.uuids value = .ok (uuids, type) →
      Settles (next type) central { world with uuids } answer (each uuids type)) :
    Settles (getUuidOf value >>= next) central world answer
      (fun goal => ∃ uuids type, getUuid world.uuids value = .ok (uuids, type) ∧
        each uuids type goal) := by
  cases got : getUuid world.uuids value with
  | error thrown => exact .inl ⟨thrown, world.uuids, getUuidOf_error got, by simp⟩
  | ok found =>
    rcases found with ⟨uuids, type⟩
    have settled := onward uuids type got
    unfold Settles at settled ⊢
    rw [getUuidOf_ok got]
    simpa only [Except.ok.injEq, Prod.mk.injEq, exists_and_left, exists_eq_left', and_assoc] using settled

def Printable (host : Host) (uuids : UuidStore) (type : Option UuidRef) : Prop :=
  host.debug = true → ∀ ref, type = some ref → (uuids.objects[ref]?.bind Uuid.buffer).isSome = true

theorem logType_printable {host : Host} {type : Option UuidRef}
    (printable : Printable host world.uuids type) :
    (logType host type >>= fun _ => program).run world = program.run world := by
  unfold logType
  cases debug : host.debug with
  | false => rfl
  | true =>
    cases type with
    | none => rfl
    | some ref =>
      have shown := printable debug ref rfl
      simp only [if_true, EStateM.run_bind, EStateM.run_get, Option.isNone_eq_false_iff.mpr shown]
      rfl

theorem logType_hidden (program : Js Unit) {host : Host} {type : Option UuidRef}
    (hidden : ¬ Printable host world.uuids type) :
    ∃ thrown, (logType host type >>= fun _ => program).run world = .error thrown world := by
  obtain ⟨debug, ref, rfl, missing⟩ : host.debug = true ∧ ∃ ref, type = some ref ∧
      (world.uuids.objects[ref]?.bind Uuid.buffer).isSome = false := by
    unfold Printable at hidden
    push Not at hidden
    simpa using hidden
  have none_there : (world.uuids.objects[ref]?.bind Uuid.buffer).isNone = true := by simpa using missing
  refine ⟨.typeError "Cannot read property 'length' of undefined", ?_⟩
  simp only [logType, debug, if_true, EStateM.run_bind, EStateM.run_get, none_there]
  rfl

theorem settles_logType {host : Host} {type : Option UuidRef}
    (onward : Settles program central world answer condition) :
    Settles (logType host type >>= fun _ => program) central world answer
      (fun goal => Printable host world.uuids type ∧ condition goal) := by
  by_cases printable : Printable host world.uuids type
  · unfold Settles at onward ⊢
    rw [logType_printable printable]
    simpa only [printable, true_and] using onward
  · rcases logType_hidden program printable with ⟨thrown, ran⟩
    exact .inl ⟨thrown, world.uuids, ran, fun goal both => printable both.1⟩

/-- The bytes of an error that its handle does not fill are those of the buffer. -/
def errorPdu (host : Host) (number : Nat) (error op : UInt8) (handle : Nat) : Buffer :=
  [opError, op] ++ (if handle = 0 then [host.garbage number 2, host.garbage number 3]
    else LittleEndian.bytes 2 handle) ++ [error]

theorem sendError_run (host : Host) (world : World) (central : CentralRef) (error op : UInt8)
    {handle : Nat} (small : handle ≤ 0xFFFF) :
    (sendError host central error op handle).run world =
      (Central.write central (errorPdu host world.sent.length error op handle)).run world := by
  unfold sendError errorPdu
  rw [EStateM.run_bind, EStateM.run_get]
  dsimp only
  by_cases none_given : handle = 0
  · rw [if_pos none_given, if_pos none_given]
    rfl
  · have wrote : Buffer.writeUInt16LE
        (((host.newBuffer world.sent.length 5).set 0 opError).set 1 op) (some handle) 2 =
          .ok ([opError, op] ++ LittleEndian.bytes 2 handle ++ [host.garbage world.sent.length 4]) := by
      rw [Buffer.writeUInt16LE, if_pos (by simp), if_pos small]
      rfl
    rw [if_neg none_given, if_neg none_given, wrote]
    rfl

theorem errorPdu_length (host : Host) (number : Nat) (error op : UInt8) (handle : Nat) :
    (errorPdu host number error op handle).length = 5 := by
  unfold errorPdu
  split <;> rfl

theorem sendError_settles (host : Host) (central : CentralRef) (error op : UInt8) {handle : Nat}
    (small : handle ≤ 0xFFFF) (world : World) :
    Settles (sendError host central error op handle) central world (IsError op)
      (fun goal => goal 5) := by
  have length := errorPdu_length host world.sent.length error op handle
  refine .inr ⟨_, world.uuids, sendError_run host world central error op small, ⟨length, rfl, rfl⟩, ?_⟩
  intro goal
  rw [length]

theorem Settles.left (settles : Settles program central world answer condition) :
    ∃ uuids sent, after program world = { world with uuids, sent } := by
  rcases settles with ⟨thrown, uuids, threw, _⟩ | ⟨pdu, uuids, wrote, _⟩
  · exact ⟨uuids, world.sent, after_error threw⟩
  · exact ⟨uuids, _, (after_congr wrote).trans (write_after central pdu _)⟩

theorem Settles.returns (settles : Settles program central world answer condition) :
    Returns program world ↔ condition (· ≤ (world.central central).mtu.toNat) := by
  unfold Returns
  rcases settles with ⟨thrown, uuids, threw, never⟩ | ⟨pdu, uuids, wrote, _, exactly⟩
  · rw [threw]
    exact iff_of_false not_false (never _)
  · rw [wrote, exactly]
    exact write_returns

theorem Settles.sent (settles : Settles program central world answer condition) :
    (after program world).sent = world.sent ∧ (∀ goal, ¬ condition goal) ∨
      ∃ pdu, (after program world).sent = world.sent ++ [(central, pdu)] ∧ answer pdu ∧
        ∀ goal, condition goal ↔ goal pdu.length := by
  rcases settles with ⟨thrown, uuids, threw, never⟩ | ⟨pdu, uuids, wrote, is_answer, exactly⟩
  · exact .inl ⟨by rw [after_error threw], never⟩
  · refine .inr ⟨pdu, ?_, is_answer, exactly⟩
    rw [after, wrote, ← after, write_after]

end Settles

def word (data : Buffer) (offset : Nat) : Nat := LittleEndian.number ((data.drop offset).take 2)

theorem readUInt16LE_iff {data : Buffer} {offset value : Nat} :
    Buffer.readUInt16LE data offset = .ok value ↔
      offset + 1 < data.length ∧ value = word data offset := by
  unfold Buffer.readUInt16LE word
  by_cases inside : offset + 1 < data.length
  · rw [if_pos inside, Except.ok.injEq]
    exact ⟨fun same => ⟨inside, same.symm⟩, fun both => both.2.symm⟩
  · rw [if_neg inside]
    exact iff_of_false (by simp) fun both => inside both.1

theorem word_small (data : Buffer) (offset : Nat) : word data offset ≤ 0xFFFF := by
  have bound := LittleEndian.number_lt ((data.drop offset).take 2)
  have short : ((data.drop offset).take 2).length ≤ 2 := List.length_take_le 2 _
  have powers := Nat.pow_le_pow_right (show 0 < 256 by decide) short
  unfold word
  omega

section Search

variable (world : World) (start stop : Nat) (type : Option UuidRef)

def attributesIn : List AttrRef :=
  ((List.range' start (stop - start)).filterMap (slotAt world.handles)).filter fun ref =>
    type = none ∨ (world.attrib ref).type = type

theorem attributesIn_length : (attributesIn world start stop type).length ≤ stop - start := by
  have filtered := List.length_filter_le (fun ref => type = none ∨ (world.attrib ref).type = type)
    ((List.range' start (stop - start)).filterMap (slotAt world.handles))
  have mapped := List.length_filterMap_le (slotAt world.handles) (List.range' start (stop - start))
  rw [List.length_range'] at mapped
  exact filtered.trans mapped

theorem search_any (slots : List Nat) :
    findAttributes.search world type none slots =
      .ok ((slots.filterMap (slotAt world.handles)).filter fun ref =>
        type = none ∨ (world.attrib ref).type = type) := by
  induction slots with
  | nil => rfl
  | cons i slots ih =>
    rw [findAttributes.search, List.filterMap_cons]
    cases slotAt world.handles i with
    | none => exact ih
    | some ref =>
      by_cases fits : type = none ∨ (world.attrib ref).type = type
      · simp [Attribute.matches, fits, ih, bind, Except.bind, pure, Except.pure]
      · simp [Attribute.matches, fits, ih, bind, Except.bind]

theorem findAttributes_any :
    findAttributes world start stop type none = .ok (attributesIn world start stop type) :=
  search_any world type _

theorem search_valued (value : Buffer) (slots : List Nat) :
    let typed := (slots.filterMap (slotAt world.handles)).filter fun ref =>
      type = none ∨ (world.attrib ref).type = type
    ((∃ ref ∈ typed, (world.attrib ref).value = none) ∧
      ∃ thrown, findAttributes.search world type (some value) slots = .error thrown) ∨
    (∀ ref ∈ typed, (world.attrib ref).value ≠ none) ∧
      findAttributes.search world type (some value) slots =
        .ok (typed.filter fun ref => (world.attrib ref).value = some value) := by
  induction slots with
  | nil => exact .inr ⟨by simp, rfl⟩
  | cons i slots ih =>
    rw [findAttributes.search, List.filterMap_cons]
    cases slotAt world.handles i with
    | none => exact ih
    | some ref =>
      by_cases fits : type = none ∨ (world.attrib ref).type = type
      · simp only [Attribute.matches, Attribute.holds, List.filter_cons, fits,
          decide_true, if_true, List.exists_mem_cons_iff, List.forall_mem_cons]
        cases held : (world.attrib ref).value with
        | none => exact .inl ⟨.inl rfl, _, rfl⟩
        | some bytes =>
          rcases ih with ⟨missing, thrown, failed⟩ | ⟨present, found⟩
          · refine .inl ⟨.inr missing, thrown, ?_⟩
            by_cases same : bytes = value <;> simp [same, failed, bind, Except.bind]
          · refine .inr ⟨⟨by simp, present⟩, ?_⟩
            by_cases same : bytes = value <;>
              simp [same, found, bind, Except.bind, pure, Except.pure]
      · simpa [Attribute.matches, fits, bind, Except.bind] using ih

theorem findAttributes_valued (value : Buffer) {found : List AttrRef} :
    findAttributes world start stop type (some value) = .ok found ↔
      (∀ ref ∈ attributesIn world start stop type, (world.attrib ref).value ≠ none) ∧
        found = (attributesIn world start stop type).filter fun ref =>
          (world.attrib ref).value = some value := by
  rcases search_valued world type value (List.range' start (stop - start)) with
    ⟨⟨ref, member, missing⟩, thrown, failed⟩ | ⟨present, same⟩
  · rw [findAttributes, failed]
    exact iff_of_false (by simp) fun both => both.1 ref member missing
  · rw [findAttributes, same, Except.ok.injEq]
    exact ⟨fun equal => ⟨present, equal.symm⟩, fun both => both.2.symm⟩

theorem findAttributes_unvalued (value : Buffer)
    (unvalued : ¬ ∀ ref ∈ attributesIn world start stop type, (world.attrib ref).value ≠ none) :
    ∃ thrown, findAttributes world start stop type (some value) = .error thrown := by
  cases search : findAttributes world start stop type (some value) with
  | error thrown => exact ⟨thrown, rfl⟩
  | ok found => exact absurd ((findAttributes_valued _ _ _ _ value).mp search).1 unvalued

end Search

/-- What is sent in reply to a request, as the PDU by its opcode tells. -/
def IsReply (request response : UInt8) (mtuSize : UInt16) (pdu : Buffer) : Prop :=
  IsError request pdu ∨ IsResponse mtuSize response pdu

section Conditions

variable (host : Host) (world : World) (data : Buffer) (goal : Nat → Prop)

/-- Nothing found makes an ERROR of 5 bytes; what is found must be such that it can be encoded. -/
def Reported (found : List AttrRef) (encodes : List Attribute → (Nat → Prop) → Prop) : Prop :=
  (found = [] → goal 5) ∧ (found ≠ [] → encodes (found.map world.attrib) goal)

def Typed (size : Nat) (given : UuidValue) (onward : Option UuidRef → Prop) : Prop :=
  size ≤ data.length ∧ ∃ uuids type, getUuid world.uuids given = .ok (uuids, type) ∧
    Printable host uuids type ∧ onward type

def FindInfoAnswers : Prop :=
  4 ≤ data.length ∧ goal 5 ∧ (word data 0 = 0 ∨ word data 2 < word data 0 ∨
    attributesIn world (word data 0) (word data 2) none = [])

/-- All attributes of the type in the range have a value; those with the value that is looked for
    can be encoded. -/
def FindByTypeAnswers : Prop :=
  Typed host world data 6 (.number (word data 4)) fun type =>
    (word data 0 = 0 ∨ word data 2 < word data 0 → goal 5) ∧
    (¬ (word data 0 = 0 ∨ word data 2 < word data 0) →
      (∀ ref ∈ attributesIn world (word data 0) (word data 2) type, (world.attrib ref).value ≠ none) ∧
      Reported world goal ((attributesIn world (word data 0) (word data 2) type).filter fun ref =>
        (world.attrib ref).value = some (data.drop 6)) fun attributes =>
          LoopEnds world.mtuSize (findByTypeEffect world.mtuSize type) attributes.zipIdx 1)

def ReadByTypeAnswers : Prop :=
  Typed host world data 6 (.number (word data 4)) fun type =>
    Reported world goal (attributesIn world (word data 0) (word data 2) type)
      (FirstEnds world.mtuSize (readByTypeEffect world.mtuSize))

def ReadByGroupAnswers : Prop :=
  Typed host world data 4 (.buffer (data.drop 4)) fun type =>
    Reported world goal (attributesIn world (word data 0) (word data 2) type)
      (FirstEnds world.mtuSize fun _ => readByGroupEffect world.mtuSize)

end Conditions

section Handlers

variable (host : Host) (central : CentralRef) (data : Buffer) (world : World)

theorem respond_settles {request response : UInt8} {start : Nat} (small : start ≤ 0xFFFF)
    {found : List AttrRef} {encode : World → List Attribute → Except JsError Buffer}
    (encodes : List Attribute → (Nat → Prop) → Prop)
    (each : found ≠ [] → Encodes world.mtuSize response (encode world (found.map world.attrib))
      (encodes (found.map world.attrib))) :
    Settles (respond host central request start found encode) central world
      (IsReply request response world.mtuSize) fun goal => Reported world goal found encodes := by
  cases found with
  | nil =>
    refine ((sendError_settles host central errorAttrNotFound request small world).weaken
      fun _ => .inl).congr _ fun goal => ?_
    simp [Reported]
  | cons ref found =>
    rcases each (by simp) with ⟨thrown, failed, never⟩ | ⟨pdu, encoded, is_response, exactly⟩
    · refine .inl ⟨thrown, world.uuids, ?_, fun goal reported => never goal (reported.2 (by simp))⟩
      simp only [respond, EStateM.run_bind, EStateM.run_get, failed, Js.ofExcept]
      rfl
    · refine .inr ⟨pdu, world.uuids, ?_, .inr is_response, fun goal => ?_⟩
      · simp only [respond, EStateM.run_bind, EStateM.run_get, encoded, Js.ofExcept, EStateM.run_pure]
      · rw [← exactly goal]
        simp [Reported]

/-- `FindInfoAnswers` as the handler comes to it, field by field. -/
theorem findInfoAnswers_iff (goal : Nat → Prop) :
    FindInfoAnswers world data goal ↔ ∃ start, Buffer.readUInt16LE data 0 = .ok start ∧
      ∃ stop, Buffer.readUInt16LE data 2 = .ok stop ∧
        if start = 0 ∨ stop < start then goal 5
        else Reported world goal (attributesIn world start stop none) fun _ _ => False := by
  simp only [readUInt16LE_iff, FindInfoAnswers, Reported]
  constructor
  · intro answers
    rcases answers with ⟨size, five, choice⟩
    refine ⟨_, ⟨by omega, rfl⟩, _, ⟨by omega, rfl⟩, ?_⟩
    split
    · exact five
    · rename_i valid
      have nothing := (or_assoc.mpr choice).resolve_left valid
      exact ⟨fun _ => five, fun some_found => some_found nothing⟩
  · intro read
    rcases read with ⟨_, ⟨_, rfl⟩, _, ⟨size, rfl⟩, answered⟩
    refine ⟨by omega, ?_⟩
    split at answered
    · rename_i invalid
      exact ⟨answered, or_assoc.mp (.inl invalid)⟩
    · by_cases nothing : attributesIn world (word data 0) (word data 2) none = []
      · exact ⟨answered.1 nothing, .inr (.inr nothing)⟩
      · exact absurd (answered.2 nothing) not_false

theorem handleFindInfo_settles :
    Settles (handleFindInfo host central data) central world
      (IsReply opFindInfoRequest opFindInfoResponse world.mtuSize)
      (FindInfoAnswers world data) := by
  unfold handleFindInfo
  apply (settles_ofExcept fun start read_start => settles_ofExcept fun stop read_stop => ?_).congr
    (fun goal => ∃ start, Buffer.readUInt16LE data 0 = .ok start ∧
      ∃ stop, Buffer.readUInt16LE data 2 = .ok stop ∧
        if start = 0 ∨ stop < start then goal 5
        else Reported world goal (attributesIn world start stop none) fun _ _ => False)
    (findInfoAnswers_iff data world)
  rcases readUInt16LE_iff.mp read_start with ⟨_, rfl⟩
  by_cases invalid : word data 0 = 0 ∨ stop < word data 0
  · simp only [if_pos invalid]
    exact (sendError_settles host central _ _ (word_small data 0) world).weaken fun _ => .inl
  · simp only [if_neg invalid]
    apply settles_get
    rw [findAttributes_any]
    refine respond_settles host central world (word_small data 0) _ fun some_found => ?_
    rcases List.exists_cons_of_ne_nil some_found with ⟨ref, found, same⟩
    obtain ⟨thrown, failed⟩ := findInfoResponse_throws host world (world.attrib ref)
      (found.map world.attrib)
    exact .inl ⟨thrown, by rw [same]; exact failed, fun _ => not_false⟩

theorem range_fields {size : Nat} (enough : 4 ≤ size) (onward : Nat → Nat → Prop) :
    (∃ start, Buffer.readUInt16LE data 0 = .ok start ∧
      ∃ stop, Buffer.readUInt16LE data 2 = .ok stop ∧ size ≤ data.length ∧ onward start stop) ↔
    size ≤ data.length ∧ onward (word data 0) (word data 2) := by
  simp only [readUInt16LE_iff]
  constructor
  · intro read
    rcases read with ⟨_, ⟨_, rfl⟩, _, ⟨_, rfl⟩, both⟩
    exact both
  · intro fits
    rcases fits with ⟨long, rest⟩
    exact ⟨_, ⟨by omega, rfl⟩, _, ⟨by omega, rfl⟩, long, rest⟩

theorem type_field {onward : Nat → Prop} :
    (∃ type, Buffer.readUInt16LE data 4 = .ok type ∧ onward type) ↔
      6 ≤ data.length ∧ onward (word data 4) := by
  simp only [readUInt16LE_iff]
  constructor
  · intro read
    rcases read with ⟨_, ⟨long, rfl⟩, rest⟩
    exact ⟨long, rest⟩
  · intro fits
    rcases fits with ⟨long, rest⟩
    exact ⟨_, ⟨long, rfl⟩, rest⟩

theorem handleReadByType_settles :
    Settles (handleReadByType host central data) central world
      (IsReply opReadByTypeRequest opReadByTypeResponse world.mtuSize)
      (ReadByTypeAnswers host world data) := by
  refine (settles_ofExcept fun start read_start => settles_ofExcept fun stop _ =>
    settles_ofExcept fun number _ => settles_getUuidOf fun uuids type _ =>
      settles_logType (settles_get ?_)).congr
    (fun goal => ∃ start, Buffer.readUInt16LE data 0 = .ok start ∧
      ∃ stop, Buffer.readUInt16LE data 2 = .ok stop ∧
        ∃ number, Buffer.readUInt16LE data 4 = .ok number ∧
          ∃ uuids type, getUuid world.uuids (.number number) = .ok (uuids, type) ∧
            Printable host uuids type ∧ Reported world goal (attributesIn world start stop type)
              (FirstEnds world.mtuSize (readByTypeEffect world.mtuSize))) fun goal => ?_
  · rw [findAttributes_any]
    refine respond_settles host central { world with uuids } ?_ _ fun _ =>
      readByTypeResponse_encodes host { world with uuids } _
    exact (readUInt16LE_iff.mp read_start).2 ▸ word_small data 0
  · simp only [type_field, range_fields data (show 4 ≤ 6 by decide)]
    rfl

theorem handleReadByGroup_settles :
    Settles (handleReadByGroup host central data) central world
      (IsReply opReadByGroupRequest opReadByGroupResponse world.mtuSize)
      (ReadByGroupAnswers host world data) := by
  refine (settles_ofExcept fun start read_start => settles_ofExcept fun stop read_stop =>
    settles_getUuidOf fun uuids type _ => settles_logType (settles_get ?_)).congr
    (fun goal => ∃ start, Buffer.readUInt16LE data 0 = .ok start ∧
      ∃ stop, Buffer.readUInt16LE data 2 = .ok stop ∧
        ∃ uuids type, getUuid world.uuids (.buffer (data.drop 4)) = .ok (uuids, type) ∧
          Printable host uuids type ∧ Reported world goal (attributesIn world start stop type)
            (FirstEnds world.mtuSize fun _ => readByGroupEffect world.mtuSize)) fun goal => ?_
  · rw [findAttributes_any]
    refine respond_settles host central { world with uuids } ?_ _ fun _ =>
      readByGroupResponse_encodes host { world with uuids } _
    exact (readUInt16LE_iff.mp read_start).2 ▸ word_small data 0
  · rw [ReadByGroupAnswers, Typed, ← range_fields data (le_refl 4)
      (fun start stop => ∃ uuids type,
        getUuid world.uuids (.buffer (data.drop 4)) = .ok (uuids, type) ∧
          Printable host uuids type ∧ Reported world goal (attributesIn world start stop type)
            (FirstEnds world.mtuSize fun _ => readByGroupEffect world.mtuSize))]
    refine exists_congr fun start => and_congr_right fun _ => exists_congr fun stop =>
      and_congr_right fun read_stop => and_iff_right ?_
    exact (readUInt16LE_iff.mp read_stop).1

theorem handleFindByType_settles :
    Settles (handleFindByType host central data) central world
      (IsReply opFindByTypeRequest opFindByTypeResponse world.mtuSize)
      (FindByTypeAnswers host world data) := by
  refine (settles_ofExcept fun start read_start => settles_ofExcept fun stop read_stop =>
    settles_ofExcept fun number _ => settles_getUuidOf fun uuids type _ => settles_logType ?_).congr
    (fun goal => ∃ start, Buffer.readUInt16LE data 0 = .ok start ∧
      ∃ stop, Buffer.readUInt16LE data 2 = .ok stop ∧
        ∃ number, Buffer.readUInt16LE data 4 = .ok number ∧
          ∃ uuids type, getUuid world.uuids (.number number) = .ok (uuids, type) ∧
            Printable host uuids type ∧ (start = 0 ∨ stop < start → goal 5) ∧
              (¬ (start = 0 ∨ stop < start) →
                (∀ ref ∈ attributesIn world start stop type, (world.attrib ref).value ≠ none) ∧
                Reported world goal ((attributesIn world start stop type).filter fun ref =>
                  (world.attrib ref).value = some (data.drop 6)) fun attributes =>
                    LoopEnds world.mtuSize (findByTypeEffect world.mtuSize type) attributes.zipIdx 1))
    fun goal => ?_
  · have start_small : start ≤ 0xFFFF := (readUInt16LE_iff.mp read_start).2 ▸ word_small data 0
    have stop_small : stop ≤ 0xFFFF := (readUInt16LE_iff.mp read_stop).2 ▸ word_small data 2
    by_cases invalid : start = 0 ∨ stop < start
    · rw [if_pos invalid]
      refine ((sendError_settles host central _ _ start_small _).weaken fun _ => .inl).congr _
        fun goal => ?_
      rw [and_iff_left fun valid => absurd invalid valid]
      exact forall_prop_of_true invalid
    · rw [if_neg invalid]
      refine (settles_get (settles_ofExcept fun found search => ?_)).congr
        (fun goal => ∃ found, findAttributes { world with uuids } start stop type
          (some (data.drop 6)) = .ok found ∧ Reported world goal found fun attributes =>
            LoopEnds world.mtuSize (findByTypeEffect world.mtuSize type) attributes.zipIdx 1)
        fun goal => ?_
      · rcases (findAttributes_valued _ _ _ _ _).mp search with ⟨_, rfl⟩
        refine respond_settles host central { world with uuids } start_small
          (fun attributes =>
            LoopEnds world.mtuSize (findByTypeEffect world.mtuSize type) attributes.zipIdx 1) fun _ => ?_
        apply findByTypeResponse_encodes host { world with uuids }
        · intro attrib member
          rcases List.mem_map.mp member with ⟨ref, chosen, rfl⟩
          exact of_decide_eq_true (List.mem_filter.mp chosen).2
        · have few := attributesIn_length { world with uuids } start stop type
          rw [List.length_map]
          exact (List.length_filter_le _ _).trans (few.trans (by omega))
      · simp only [findAttributes_valued, and_assoc, exists_and_left, exists_eq_left]
        constructor
        · intro both
          exact both.2 invalid
        · exact fun rest => ⟨fun bad => absurd bad invalid, fun _ => rest⟩
  · simp only [type_field, range_fields data (show 4 ≤ 6 by decide)]
    rfl

end Handlers

end Btle.Server

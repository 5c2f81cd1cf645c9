import Btle.Library.Looping
import Btle.Server.Handlers
import Btle.Server.Pushes

namespace Btle.Server

open Looping

/-- What an encoder may give: at most as many bytes as a PDU takes, with the opcode first. -/
def IsResponse (mtuSize : UInt16) (opcode : UInt8) (response : Buffer) : Prop :=
  response.length ≤ mtuSize.toNat ∧ (response ≠ [] → response.head? = some opcode)

/-- An encoder throws exactly if its condition can not be met, and otherwise gives a response; the
    condition may ask something of the length of that. -/
def Encodes (mtuSize : UInt16) (opcode : UInt8) (encoded : Except JsError Buffer)
    (condition : (Nat → Prop) → Prop) : Prop :=
  (∃ thrown, encoded = .error thrown ∧ ∀ goal, ¬ condition goal) ∨
    ∃ response, encoded = .ok response ∧ IsResponse mtuSize opcode response ∧
      ∀ goal, condition goal ↔ goal response.length

/-- An encoder throws exactly if it is not to succeed, and otherwise gives so much of the content as
    goes into a PDU. -/
def ContentsOf (mtuSize : UInt16) (content : Buffer) (encoded : Except JsError Buffer)
    (success : Prop) : Prop :=
  (∃ thrown, encoded = .error thrown ∧ ¬ success) ∨
    encoded = .ok (content.take mtuSize.toNat) ∧ success

def fits16 (value : Option Nat) : Bool := value.any (· ≤ 0xFFFF)

theorem fits16_some {value : Option Nat} (fits : fits16 value) :
    ∃ number, value = some number ∧ number ≤ 0xFFFF := by
  cases value with
  | none => cases fits
  | some number => exact ⟨number, rfl, by simpa [fits16] using fits⟩

structure Reply.Sound (mtuSize : UInt16) (opcode : UInt8) (reply : Reply) : Prop where
  length : reply.response.length = mtuSize.toNat
  head : 0 < mtuSize.toNat → reply.response.head? = some opcode
  offset : 0 < reply.offset

namespace Reply

variable {mtuSize : UInt16} {opcode : UInt8} {reply : Reply}

theorem start_sound (host : Host) (number : Nat) {offset : Nat} (position : 0 < offset) :
    (start host number mtuSize opcode offset).Sound mtuSize opcode where
  length := by simp [start]
  head some_room := by
    rw [List.head?_eq_getElem?, start, List.getElem?_set_self (by simpa using some_room)]
  offset := position

theorem Sound.set (sound : reply.Sound mtuSize opcode) {i : Nat} (later : i ≠ 0) (byte : UInt8) :
    (reply.set i byte).Sound mtuSize opcode where
  length := by rw [Reply.set, List.length_set, sound.length]
  head some_room := by
    rw [← sound.head some_room, List.head?_eq_getElem?, List.head?_eq_getElem?, Reply.set,
      List.getElem?_set_ne later]
  offset := sound.offset

/-- What a reply holds so far, of which only so much as there is room for is kept. -/
structure Holds (mtuSize : UInt16) (content : Buffer) (reply : Reply) : Prop where
  length : reply.response.length = mtuSize.toNat
  offset : reply.offset = content.length
  kept : reply.response.take content.length = content.take mtuSize.toNat

theorem start_holds (host : Host) (number : Nat) (mtuSize : UInt16) (opcode : UInt8) :
    (start host number mtuSize opcode 1).Holds mtuSize [opcode] := by
  refine ⟨by simp [start], rfl, ?_⟩
  have size := newBuffer_length host number mtuSize.toNat
  simp only [start]
  cases shape : host.newBuffer number mtuSize.toNat with
  | nil =>
    rw [shape] at size
    simp [← size]
  | cons first rest =>
    rw [shape] at size
    simp [← size]

theorem start_set_holds (host : Host) (number : Nat) (mtuSize : UInt16) (opcode byte : UInt8) :
    ((start host number mtuSize opcode 2).set 1 byte).Holds mtuSize [opcode, byte] := by
  refine ⟨by simp [start, Reply.set], rfl, ?_⟩
  have size := newBuffer_length host number mtuSize.toNat
  simp only [start, Reply.set]
  rcases shape : host.newBuffer number mtuSize.toNat with _ | ⟨first, _ | ⟨second, rest⟩⟩
  · rw [shape] at size
    simp [← size]
  · rw [shape] at size
    simp [← size]
  · rw [shape] at size
    simp [← size]

variable {content : Buffer}

theorem Holds.slice_eq (holds : reply.Holds mtuSize content) :
    reply.slice = content.take mtuSize.toNat := by
  rw [slice, holds.offset, holds.kept]

theorem Holds.whole (holds : reply.Holds mtuSize content) (room : content.length ≤ mtuSize.toNat) :
    ∃ rest, reply.response = content ++ rest ∧ content.length + rest.length = mtuSize.toNat := by
  have kept := holds.kept
  rw [List.take_of_length_le room] at kept
  have whole := List.take_append_drop content.length reply.response
  rw [kept] at whole
  refine ⟨_, whole.symm, ?_⟩
  rw [← List.length_append, whole, holds.length]

/-- What is put behind the content, in place of as many bytes, is held too. -/
theorem holds_replaced {added rest : Buffer} (room : content.length + rest.length = mtuSize.toNat)
    (fits : added.length ≤ rest.length) :
    (⟨content ++ added ++ rest.drop added.length, content.length + added.length⟩ : Reply).Holds mtuSize
      (content ++ added) := by
  have length : (content ++ added ++ rest.drop added.length).length = mtuSize.toNat := by
    simp only [List.length_append, List.length_drop]
    omega
  refine ⟨length, by simp, ?_⟩
  rw [List.take_left, List.take_of_length_le]
  rw [List.length_append]
  omega

theorem writeUInt16LE_holds (holds : reply.Holds mtuSize content) {number : Nat}
    (room : reply.offset + 2 ≤ mtuSize.toNat) (small : number ≤ 0xFFFF) :
    ∃ next, reply.writeUInt16LE (some number) = .ok next ∧
      next.Holds mtuSize (content ++ LittleEndian.bytes 2 number) ∧
        next.offset = reply.offset + 2 := by
  have inside : content.length + 2 ≤ mtuSize.toNat := by rwa [← holds.offset]
  rcases holds.whole (by omega) with ⟨rest, whole, size⟩
  obtain ⟨low, high, rest, rfl⟩ : ∃ low high more, rest = low :: high :: more := by
    rcases rest with _ | ⟨low, _ | ⟨high, more⟩⟩
    · simp at size; omega
    · simp at size; omega
    · exact ⟨low, high, more, rfl⟩
  have wrote : Buffer.writeUInt16LE reply.response (some number) reply.offset =
      .ok (content ++ LittleEndian.bytes 2 number ++ rest) := by
    rw [whole, holds.offset, Buffer.writeUInt16LE, if_pos (by simp), if_pos small]
    simp [LittleEndian.bytes]
  refine ⟨⟨content ++ LittleEndian.bytes 2 number ++ rest, reply.offset + 2⟩, ?_, ?_, rfl⟩
  · rw [writeUInt16LE, wrote]
    rfl
  · have two : (LittleEndian.bytes 2 number).length ≤ (low :: high :: rest).length := by simp
    rw [holds.offset]
    exact holds_replaced size two

theorem copy_holds (holds : reply.Holds mtuSize content) (source : Buffer)
    (room : reply.offset + source.length ≤ mtuSize.toNat) :
    ∃ next, reply.copy source = .ok next ∧ next.Holds mtuSize (content ++ source) ∧
      next.offset = reply.offset + source.length := by
  have inside : content.length + source.length ≤ mtuSize.toNat := by rwa [← holds.offset]
  rcases holds.whole (by omega) with ⟨rest, whole, size⟩
  have copied : Buffer.copy source reply.response reply.offset source.length =
      .ok (content ++ source ++ rest.drop source.length) := by
    rw [whole, holds.offset]
    unfold Buffer.copy
    simp only [lt_self_iff_false, if_false]
    by_cases nothing : source.length = 0
    · rw [if_pos (by omega), List.length_eq_zero_iff.mp nothing]
      simp
    · have count : min (source.length : Int).toNat ((content ++ rest).length - content.length) =
          source.length := by
        rw [List.length_append]
        omega
      rw [if_neg (by rw [List.length_append]; omega), if_neg (by omega),
        if_neg (by rw [List.length_append]; omega), count, List.take_left, List.take_length,
        List.drop_append, List.drop_eq_nil_of_le (by omega), Nat.add_sub_cancel_left]
      simp
  refine ⟨⟨content ++ source ++ rest.drop source.length, reply.offset + source.length⟩, ?_, ?_,
    rfl⟩
  · rw [copy, copied]
    rfl
  · rw [holds.offset]
    exact holds_replaced size (by omega)

/-- A sound reply holds something, and what holds something with the opcode first is sound. -/
theorem Sound.holds (sound : reply.Sound mtuSize opcode) :
    ∃ content, reply.Holds mtuSize content ∧ (0 < mtuSize.toNat → content.head? = some opcode) := by
  have positive := sound.offset
  have length := sound.length
  refine ⟨reply.response.take reply.offset ++ List.replicate (reply.offset - mtuSize.toNat) 0,
    ⟨length, ?_, ?_⟩, ?_⟩
  · rw [List.length_append, List.length_take, List.length_replicate, length]
    omega
  · rw [List.length_append, List.length_take, List.length_replicate, length]
    rcases Nat.le_total reply.offset mtuSize.toNat with inside | outside
    · have none_more : reply.offset - mtuSize.toNat = 0 := by omega
      rw [none_more, List.replicate_zero, List.append_nil, List.take_take]
      congr 1
      omega
    · have whole : reply.response.take reply.offset = reply.response :=
        List.take_of_length_le (by omega)
      rw [whole, List.take_of_length_le (by omega), ← length, List.take_left]
  · intro some_room
    have first : (reply.response.take reply.offset).head? = some opcode := by
      rw [List.head?_take, if_neg (by omega), sound.head some_room]
    rw [List.head?_append, first]
    rfl

theorem Holds.sound (holds : reply.Holds mtuSize content) (nonempty : 0 < content.length)
    (head : 0 < mtuSize.toNat → content.head? = some opcode) : reply.Sound mtuSize opcode where
  length := holds.length
  head some_room := by
    have kept := congrArg List.head? holds.kept
    rw [List.head?_take, if_neg (by omega), List.head?_take, if_neg (by omega)] at kept
    rw [kept, head some_room]
  offset := by
    rw [holds.offset]
    exact nonempty

theorem writeUInt16LE_unfit (reply : Reply) {value : Option Nat} (unfit : fits16 value = false) :
    ∃ thrown, reply.writeUInt16LE value = .error thrown := by
  cases wrote : Buffer.writeUInt16LE reply.response value reply.offset with
  | error thrown =>
    refine ⟨thrown, ?_⟩
    rw [writeUInt16LE, wrote]
    rfl
  | ok written =>
    rcases Buffer.writeUInt16LE_ok wrote with ⟨⟨number, rfl, small⟩, _⟩
    simp [fits16, small] at unfit

theorem Sound.slice_length (sound : reply.Sound mtuSize opcode) :
    reply.slice.length = min reply.offset mtuSize.toNat := by
  rw [slice, List.length_take, sound.length]

theorem Sound.isResponse (sound : reply.Sound mtuSize opcode) :
    IsResponse mtuSize opcode reply.slice := by
  have length := sound.slice_length
  refine ⟨by omega, fun some_bytes => ?_⟩
  have some_room := List.length_pos_iff.mpr some_bytes
  rw [slice, List.head?_take, if_neg (Nat.pos_iff_ne_zero.mp sound.offset), sound.head (by omega)]

end Reply

section Loop

variable {Item : Type} {mtuSize : UInt16} {opcode : UInt8}
  {body : Item → Reply → Except JsError (ForInStep Reply)} {effect : Item → Nat → Effect}
  {entry : Item → Buffer}

theorem shows_of_adds {item : Item}
    (adds : Adds body (Reply.Holds mtuSize) Reply.offset effect entry item) :
    Shows body (Reply.Sound mtuSize opcode) Reply.offset effect item := by
  intro reply sound
  rcases sound.holds with ⟨content, holds, head⟩
  have added := adds content reply holds
  cases here : effect item reply.offset with
  | fail =>
    rw [here] at added
    exact added
  | stop =>
    rw [here] at added
    exact added
  | add size =>
    rw [here] at added
    rcases added with ⟨next, round, held, grown⟩
    have nonempty : 0 < content.length := by
      rw [← holds.offset]
      exact sound.offset
    refine ⟨next, round, held.sound (by simp; omega) fun some_room => ?_, grown⟩
    rw [List.head?_append, head some_room]
    rfl

def LoopEnds (mtuSize : UInt16) (effect : Item → Nat → Effect) (items : List Item) (offset : Nat)
    (goal : Nat → Prop) : Prop :=
  Ends effect (fun offset => goal (min offset mtuSize.toNat)) items offset

theorem loop_encodes {items : List Item} {reply : Reply} (sound : reply.Sound mtuSize opcode)
    (shows_each : ∀ item ∈ items, Shows body (Reply.Sound mtuSize opcode) Reply.offset effect item) :
    Encodes mtuSize opcode (do return (← forIn items reply body).slice)
      (LoopEnds mtuSize effect items reply.offset) := by
  rcases forIn_ends shows_each sound with ⟨thrown, failed, never⟩ | ⟨last, ended, kept, always⟩
  · rw [failed]
    exact .inl ⟨thrown, rfl, fun goal => never _⟩
  · rw [ended]
    refine .inr ⟨last.slice, rfl, kept.isResponse, fun goal => ?_⟩
    rw [kept.slice_length]
    exact always _

/-- What a loop makes of a reply that holds something is told by the items it takes. -/
theorem loop_contents {items : List Item} {content : Buffer} {reply : Reply}
    (holds : reply.Holds mtuSize content)
    (adds_each : ∀ item ∈ items, Adds body (Reply.Holds mtuSize) Reply.offset effect entry item) :
    ContentsOf mtuSize (content ++ (taken effect items content.length).flatMap entry)
      (do return (← forIn items reply body).slice) (Ends effect (fun _ => True) items content.length) := by
  rw [← holds.offset]
  rcases forIn_adds adds_each content holds with ⟨thrown, failed, never⟩ | ⟨last, ended, held, always⟩
  · rw [failed]
    exact .inl ⟨thrown, rfl, never _⟩
  · rw [ended]
    exact .inr ⟨congrArg Except.ok held.slice_eq, (always _).mpr trivial⟩

end Loop

section FindByType

variable {mtuSize : UInt16} {type : Option UuidRef} {value : Buffer}

/-- No attribute has a `uuid` that is equal to a type, except for none. -/
def findByTypeEffect (mtuSize : UInt16) (type : Option UuidRef) (item : Attribute × Nat)
    (offset : Nat) : Effect :=
  if mtuSize.toNat < offset + 4 then .stop
  else if type.isSome then .add 0
  else if fits16 item.1.endHandle then .add 4
  else .fail

def findByTypeHandles (type : Option UuidRef) (item : Attribute × Nat) : Buffer :=
  if type.isSome then []
  else LittleEndian.bytes 2 item.2 ++ LittleEndian.bytes 2 (item.1.endHandle.getD 0)

theorem findByTypeEntry_adds {item : Attribute × Nat} (held : item.1.value = some value)
    (early : item.2 ≤ 0xFFFF) :
    Adds (findByTypeEntry mtuSize type value) (Reply.Holds mtuSize) Reply.offset
      (findByTypeEffect mtuSize type) (findByTypeHandles type) item := by
  intro content reply holds
  unfold findByTypeEffect findByTypeEntry findByTypeHandles
  by_cases full : mtuSize.toNat < reply.offset + 4
  · simp only [if_pos full]
    rfl
  · simp only [if_neg full]
    cases type with
    | some ref => exact ⟨reply, rfl, by simpa using holds, rfl⟩
    | none =>
      have same : item.1.holds value = .ok true := by simp [Attribute.holds, held]
      obtain ⟨next, wrote, next_holds, next_offset⟩ :=
        Reply.writeUInt16LE_holds holds (by omega) early
      by_cases fits : fits16 item.1.endHandle
      · rcases fits16_some fits with ⟨number, ends, small⟩
        obtain ⟨last, wrote_end, last_holds, last_offset⟩ :=
          Reply.writeUInt16LE_holds next_holds (by omega) small
        simp only [Option.isSome_none, Bool.false_eq_true, if_false, if_pos fits]
        refine ⟨last, ?_, ?_, by omega⟩
        · simp only [Attribute.uuid, if_true, same, wrote, ends, wrote_end, bind, Except.bind]
          rfl
        · rwa [ends, Option.getD_some, ← List.append_assoc]
      · rcases Reply.writeUInt16LE_unfit next (by simpa using fits) with ⟨thrown, failed⟩
        simp only [Option.isSome_none, Bool.false_eq_true, if_false, if_neg fits]
        refine ⟨thrown, ?_⟩
        simp only [Attribute.uuid, if_true, same, wrote, failed, bind, Except.bind]

theorem findByTypeResponse_encodes (host : Host) (world : World) {attributes : List Attribute}
    (held : ∀ attrib ∈ attributes, attrib.value = some value) (few : attributes.length ≤ 0xFFFF) :
    Encodes world.mtuSize opFindByTypeResponse (findByTypeResponse host type value world attributes)
      (LoopEnds world.mtuSize (findByTypeEffect world.mtuSize type) attributes.zipIdx 1) := by
  refine loop_encodes (Reply.start_sound host _ (by decide)) fun item member => ?_
  rcases List.mem_zipIdx member with ⟨_, early, same⟩
  exact shows_of_adds (findByTypeEntry_adds (held _ (same ▸ List.getElem_mem _)) (by omega))

def findByTypeContents (mtuSize : UInt16) (type : Option UuidRef) (attributes : List Attribute) :
    Buffer :=
  [opFindByTypeResponse] ++
    (taken (findByTypeEffect mtuSize type) attributes.zipIdx 1).flatMap (findByTypeHandles type)

theorem findByTypeResponse_contents (host : Host) (world : World) {attributes : List Attribute}
    (held : ∀ attrib ∈ attributes, attrib.value = some value) (few : attributes.length ≤ 0xFFFF) :
    ContentsOf world.mtuSize (findByTypeContents world.mtuSize type attributes)
      (findByTypeResponse host type value world attributes)
      (Ends (findByTypeEffect world.mtuSize type) (fun _ => True) attributes.zipIdx 1) := by
  refine loop_contents (Reply.start_holds host _ _ _) fun item member => ?_
  rcases List.mem_zipIdx member with ⟨_, early, same⟩
  exact findByTypeEntry_adds (held _ (same ▸ List.getElem_mem _)) (by omega)

end FindByType

section ReadByType

variable {mtuSize : UInt16} {len : Nat}

/-- The values after the first are reported as long as they have its length and fit, with room for
    two bytes more than they take. -/
def readByTypeEffect (mtuSize : UInt16) (len : Nat) (attrib : Attribute) (offset : Nat) : Effect :=
  match attrib.value with
  | none => .fail
  | some value =>
    if value.length ≠ len ∨ mtuSize.toNat < offset + value.length + 4 then .stop
    else if fits16 attrib.handle then .add (value.length + 2)
    else .fail

def readByTypeItem (attrib : Attribute) : Buffer :=
  LittleEndian.bytes 2 (attrib.handle.getD 0) ++ attrib.value.getD []

theorem readByTypeEntry_adds (attrib : Attribute) :
    Adds (readByTypeEntry mtuSize len) (Reply.Holds mtuSize) Reply.offset
      (readByTypeEffect mtuSize len) readByTypeItem attrib := by
  intro content reply holds
  unfold readByTypeEffect readByTypeEntry Attribute.bytes readByTypeItem
  cases attrib.value with
  | none => exact ⟨_, rfl⟩
  | some value =>
    simp only [bind, Except.bind]
    by_cases other : value.length ≠ len
    · simp only [if_pos other, if_pos (Or.inl other)]
      rfl
    · by_cases full : mtuSize.toNat < reply.offset + value.length + 4
      · simp only [if_neg other, if_pos full, if_pos (Or.inr full)]
        rfl
      · simp only [if_neg other, if_neg full, if_neg (not_or.mpr ⟨other, full⟩)]
        by_cases fits : fits16 attrib.handle
        · rcases fits16_some fits with ⟨number, numbered, small⟩
          obtain ⟨next, wrote, next_holds, next_offset⟩ :=
            Reply.writeUInt16LE_holds holds (by omega) small
          obtain ⟨last, copied, last_holds, last_offset⟩ :=
            Reply.copy_holds next_holds value (by omega)
          have small_fits : fits16 (some number) = true := numbered ▸ fits
          simp only [numbered, if_pos small_fits, wrote, copied]
          refine ⟨last, rfl, ?_, by omega⟩
          rwa [Option.getD_some, Option.getD_some, ← List.append_assoc]
        · rcases Reply.writeUInt16LE_unfit reply (by simpa using fits) with ⟨thrown, failed⟩
          simp only [if_neg fits, failed]
          exact ⟨thrown, rfl⟩

def FirstEnds (mtuSize : UInt16) (effect : Nat → Attribute → Nat → Effect)
    (attributes : List Attribute) (goal : Nat → Prop) : Prop :=
  ∃ value, (attributes.headD .blank).value = some value ∧
    LoopEnds mtuSize (effect value.length) attributes 2 goal

theorem first_encodes {opcode : UInt8} (encode : Nat → Except JsError Buffer)
    {effect : Nat → Attribute → Nat → Effect} {attributes : List Attribute}
    (each : ∀ len, Encodes mtuSize opcode (encode len) (LoopEnds mtuSize (effect len) attributes 2)) :
    Encodes mtuSize opcode (do encode (← (attributes.headD .blank).bytes).length)
      (FirstEnds mtuSize effect attributes) := by
  unfold Attribute.bytes FirstEnds
  cases (attributes.headD .blank).value with
  | none => exact .inl ⟨_, rfl, by simp⟩
  | some value =>
    simp only [Option.some.injEq, exists_eq_left']
    exact each value.length

def FirstSucceeds (effect : Nat → Attribute → Nat → Effect) (attributes : List Attribute) : Prop :=
  ∃ value, (attributes.headD .blank).value = some value ∧
    Ends (effect value.length) (fun _ => True) attributes 2

def firstContents (opcode : UInt8) (more : Nat) (effect : Nat → Attribute → Nat → Effect)
    (entry : Attribute → Buffer) (attributes : List Attribute) : Buffer :=
  let len := ((attributes.headD .blank).value.getD []).length
  [opcode, UInt8.ofNat (len + more)] ++ (taken (effect len) attributes 2).flatMap entry

theorem first_contents {host : Host} {opcode : UInt8} {more : Nat}
    {body : Nat → Attribute → Reply → Except JsError (ForInStep Reply)}
    {effect : Nat → Attribute → Nat → Effect} {entry : Attribute → Buffer}
    {attributes : List Attribute}
    (adds : ∀ len attrib,
      Adds (body len) (Reply.Holds mtuSize) Reply.offset (effect len) entry attrib) :
    ContentsOf mtuSize (firstContents opcode more effect entry attributes)
      (do
        let len := (← (attributes.headD .blank).bytes).length
        let reply := (Reply.start host number mtuSize opcode 2).set 1 (UInt8.ofNat (len + more))
        return (← forIn attributes reply (body len)).slice)
      (FirstSucceeds effect attributes) := by
  unfold Attribute.bytes FirstSucceeds firstContents
  cases (attributes.headD .blank).value with
  | none => exact .inl ⟨_, rfl, by simp⟩
  | some value =>
    simp only [Option.some.injEq, exists_eq_left', Option.getD_some]
    exact loop_contents (Reply.start_set_holds host _ mtuSize opcode _) fun attrib _ => adds _ attrib

def readByTypeContents (mtuSize : UInt16) (attributes : List Attribute) : Buffer :=
  firstContents opReadByTypeResponse 2 (readByTypeEffect mtuSize) readByTypeItem attributes

theorem readByTypeResponse_contents (host : Host) (world : World) (attributes : List Attribute) :
    ContentsOf world.mtuSize (readByTypeContents world.mtuSize attributes)
      (readByTypeResponse host world attributes)
      (FirstSucceeds (readByTypeEffect world.mtuSize) attributes) :=
  first_contents fun _ attrib => readByTypeEntry_adds attrib

theorem readByTypeResponse_encodes (host : Host) (world : World) (attributes : List Attribute) :
    Encodes world.mtuSize opReadByTypeResponse (readByTypeResponse host world attributes)
      (FirstEnds world.mtuSize (readByTypeEffect world.mtuSize) attributes) := by
  refine first_encodes (fun len => do
    return (← forIn attributes ((Reply.start host world.sent.length world.mtuSize opReadByTypeResponse 2).set 1
      (UInt8.ofNat (len + 2))) (readByTypeEntry world.mtuSize len)).slice) fun len => ?_
  exact loop_encodes ((Reply.start_sound host _ (by decide)).set (by decide) _)
    fun attrib _ => shows_of_adds (readByTypeEntry_adds attrib)

end ReadByType

section ReadByGroup

variable {mtuSize : UInt16}

/-- The values are reported as long as they fit, whatever their lengths. -/
def readByGroupEffect (mtuSize : UInt16) (attrib : Attribute) (offset : Nat) : Effect :=
  match attrib.value with
  | none => .fail
  | some value =>
    if mtuSize.toNat < offset + value.length + 4 then .stop
    else if fits16 attrib.handle && fits16 attrib.endHandle then .add (value.length + 4)
    else .fail

def readByGroupItem (attrib : Attribute) : Buffer :=
  LittleEndian.bytes 2 (attrib.handle.getD 0) ++ LittleEndian.bytes 2 (attrib.endHandle.getD 0) ++
    attrib.value.getD []

theorem readByGroupEntry_adds (attrib : Attribute) :
    Adds (readByGroupEntry mtuSize) (Reply.Holds mtuSize) Reply.offset (readByGroupEffect mtuSize)
      readByGroupItem attrib := by
  intro content reply holds
  unfold readByGroupEffect readByGroupEntry Attribute.bytes readByGroupItem
  cases attrib.value with
  | none => exact ⟨_, rfl⟩
  | some value =>
    simp only [bind, Except.bind]
    by_cases full : mtuSize.toNat < reply.offset + value.length + 4
    · simp only [if_pos full]
      rfl
    · simp only [if_neg full]
      by_cases fits : fits16 attrib.handle
      · rcases fits16_some fits with ⟨number, numbered, small⟩
        obtain ⟨next, wrote, next_holds, next_offset⟩ :=
          Reply.writeUInt16LE_holds holds (by omega) small
        simp only [numbered, wrote]
        by_cases end_fits : fits16 attrib.endHandle
        · rcases fits16_some end_fits with ⟨end_number, ends, end_small⟩
          obtain ⟨middle, wrote_end, middle_holds, middle_offset⟩ :=
            Reply.writeUInt16LE_holds next_holds (by omega) end_small
          obtain ⟨last, copied, last_holds, last_offset⟩ :=
            Reply.copy_holds middle_holds value (by omega)
          have both : fits16 (some number) = true ∧ fits16 (some end_number) = true :=
            ⟨numbered ▸ fits, ends ▸ end_fits⟩
          simp only [both, ends, wrote_end, copied]
          refine ⟨last, rfl, ?_, by omega⟩
          simpa only [Option.getD_some, List.append_assoc] using last_holds
        · rcases Reply.writeUInt16LE_unfit next (by simpa using end_fits) with ⟨thrown, failed⟩
          simp only [end_fits, Bool.and_false, failed]
          exact ⟨thrown, rfl⟩
      · rcases Reply.writeUInt16LE_unfit reply (by simpa using fits) with ⟨thrown, failed⟩
        simp only [fits, failed]
        exact ⟨thrown, rfl⟩

def readByGroupContents (mtuSize : UInt16) (attributes : List Attribute) : Buffer :=
  firstContents opReadByGroupResponse 4 (fun _ => readByGroupEffect mtuSize) readByGroupItem
    attributes

theorem readByGroupResponse_contents (host : Host) (world : World) (attributes : List Attribute) :
    ContentsOf world.mtuSize (readByGroupContents world.mtuSize attributes)
      (readByGroupResponse host world attributes)
      (FirstSucceeds (fun _ => readByGroupEffect world.mtuSize) attributes) :=
  first_contents fun _ attrib => readByGroupEntry_adds attrib

theorem readByGroupResponse_encodes (host : Host) (world : World) (attributes : List Attribute) :
    Encodes world.mtuSize opReadByGroupResponse (readByGroupResponse host world attributes)
      (FirstEnds world.mtuSize (fun _ => readByGroupEffect world.mtuSize) attributes) := by
  refine first_encodes (fun len => do
    return (← forIn attributes ((Reply.start host world.sent.length world.mtuSize opReadByGroupResponse 2).set 1
      (UInt8.ofNat (len + 4))) (readByGroupEntry world.mtuSize)).slice) fun len => ?_
  exact loop_encodes ((Reply.start_sound host _ (by decide)).set (by decide) _)
    fun attrib _ => shows_of_adds (readByGroupEntry_adds attrib)

end ReadByGroup

theorem findInfoResponse_throws (host : Host) (world : World) (attrib : Attribute)
    (attributes : List Attribute) :
    ∃ thrown, findInfoResponse host world (attrib :: attributes) = .error thrown := ⟨_, rfl⟩

end Btle.Server

import Btle.Library.Twins
import Btle.Server.AccessControl
import Btle.Server.Construction
import Btle.Server.Mirrors

namespace Btle.Server

open Looping Machine Relating Throwing Twins
open Construction (propertyRead)

/-- The value of a characteristic that may not be read. -/
def Unreadable (attrib : Attribute) : Prop :=
  .reemit ∈ attrib.listeners ∧ attrib.properties &&& propertyRead = 0

/-- Two databases differ at most in values that may not be read, and these are as long. -/
def Disguises (attrib twin : AttrRef → Attribute) : Prop :=
  ∀ ref, twin ref = attrib ref ∨ Unreadable (attrib ref) ∧ ∃ value instead,
    (attrib ref).value = some value ∧ value.length = instead.length ∧
      twin ref = { attrib ref with value := some instead }

/-- The requests that read attributes, or look them up. -/
def readOpcodes : List UInt8 :=
  [opFindInfoRequest, opFindByTypeRequest, opReadByTypeRequest, opReadRequest, opReadByGroupRequest]

def IsReadRequest (pdu : Buffer) : Prop := ∃ opcode ∈ readOpcodes, ∃ data, pdu = opcode :: data

/-- The attributes of which the values go into a reply. -/
def reported (effect : Nat → Attribute → Nat → Effect) (attrib : AttrRef → Attribute)
    (refs : List AttrRef) : List AttrRef :=
  let len := ((((refs.map attrib).headD .blank).value).getD []).length
  taken (fun ref => effect len (attrib ref)) refs 2

/-- What a reply has room for of the handles at which the found groups end. -/
def shownEnds (mtuSize : UInt16) (offset : Nat) (attributes : List Attribute) : List (Option Nat) :=
  (attributes.map Attribute.endHandle).take ((mtuSize.toNat - offset) / 4)

/-- A search by content shows which of two databases it is made in. With a type given, a reply
    shows only whether there is a match. -/
def TellsApart (mtuSize : UInt16) (attrib twin : AttrRef → Attribute) (type : Option UuidRef)
    (refs : List AttrRef) (content : Buffer) : Prop :=
  ¬ (matching attrib refs content = [] ↔ matching twin refs content = []) ∨
    type = none ∧ shownEnds mtuSize 1 ((matching attrib refs content).map attrib) ≠
      shownEnds mtuSize 1 ((matching twin refs content).map twin)

/-- A value that is another one in the twin gets into what is sent. -/
def Handler.Discloses (host : Host) (world : World) (twin : AttrRef → Attribute) (data : Buffer) :
    Handler → Prop
  | .findByType => Typed host world data 6 (.number (word data 4)) fun type =>
      ¬ (word data 0 = 0 ∨ word data 2 < word data 0) ∧
        TellsApart world.mtuSize world.attrib twin type
          (attributesIn world (word data 0) (word data 2) type) (data.drop 6)
  | .readByType => Typed host world data 6 (.number (word data 4)) fun type =>
      ∃ ref ∈ reported (readByTypeEffect world.mtuSize) world.attrib
          (attributesIn world (word data 0) (word data 2) type),
        (world.attrib ref).value ≠ (twin ref).value
  | .readByGroup => Typed host world data 4 (.buffer (data.drop 4)) fun type =>
      ∃ ref ∈ reported (fun _ => readByGroupEffect world.mtuSize) world.attrib
          (attributesIn world (word data 0) (word data 2) type),
        (world.attrib ref).value ≠ (twin ref).value
  | _ => False

def Discloses (host : Host) (world : World) (twin : AttrRef → Attribute) (pdu : Buffer) : Prop :=
  ∃ opcode data handler, pdu = opcode :: data ∧ handlers.lookup opcode = some handler ∧
    handler.Discloses host world twin data

/-- All of an attribute but what its value is. -/
def Attribute.outline (attrib : Attribute) : Attribute :=
  { attrib with value := attrib.value.map fun value => List.replicate value.length 0 }

section Outlines

variable {attrib twin : AttrRef → Attribute}

theorem Disguises.outline (disguises : Disguises attrib twin) (ref : AttrRef) :
    (twin ref).outline = (attrib ref).outline := by
  rcases disguises ref with same | ⟨_, value, instead, present, length, disguised⟩
  · rw [same]
  · rw [disguised]
    simp only [Attribute.outline, present, Option.map_some, length]

theorem outline_type {one other : Attribute} (same : one.outline = other.outline) :
    one.type = other.type := by
  have kept : one.outline.type = other.outline.type := by rw [same]
  exact kept

theorem outline_handle {one other : Attribute} (same : one.outline = other.outline) :
    one.handle = other.handle := by
  have kept : one.outline.handle = other.outline.handle := by rw [same]
  exact kept

theorem outline_endHandle {one other : Attribute} (same : one.outline = other.outline) :
    one.endHandle = other.endHandle := by
  have kept : one.outline.endHandle = other.outline.endHandle := by rw [same]
  exact kept

theorem outline_absent {one other : Attribute} (same : one.outline = other.outline) :
    one.value = none ↔ other.value = none := by
  have values := congrArg Attribute.value same
  simp only [Attribute.outline] at values
  rw [← Option.map_eq_none_iff, values, Option.map_eq_none_iff]

theorem outline_length {one other : Attribute} (same : one.outline = other.outline) :
    (one.value.getD []).length = (other.value.getD []).length := by
  have values := congrArg Attribute.value same
  simp only [Attribute.outline] at values
  cases first : one.value <;> cases second : other.value <;>
    simp only [first, second, Option.map_some, Option.map_none, reduceCtorEq, Option.some.injEq] at values
  · rfl
  · simpa using congrArg List.length values

theorem readByTypeEffect_outline (mtuSize : UInt16) (len : Nat) (attrib : Attribute) :
    readByTypeEffect mtuSize len attrib.outline = readByTypeEffect mtuSize len attrib := by
  funext offset
  unfold readByTypeEffect Attribute.outline
  cases attrib.value with
  | none => rfl
  | some value => simp only [Option.map_some, List.length_replicate]

theorem readByGroupEffect_outline (mtuSize : UInt16) (attrib : Attribute) :
    readByGroupEffect mtuSize attrib.outline = readByGroupEffect mtuSize attrib := by
  funext offset
  unfold readByGroupEffect Attribute.outline
  cases attrib.value with
  | none => rfl
  | some value => simp only [Option.map_some, List.length_replicate]

theorem readByTypeItem_outline {one other : Attribute} (same : one.outline = other.outline)
    (value : one.value = other.value) : readByTypeItem one = readByTypeItem other := by
  have handle : one.handle = other.handle := outline_handle same
  rw [readByTypeItem, readByTypeItem, handle, value]

theorem readByGroupItem_outline {one other : Attribute} (same : one.outline = other.outline)
    (value : one.value = other.value) : readByGroupItem one = readByGroupItem other := by
  have handle : one.handle = other.handle := outline_handle same
  rw [readByGroupItem, readByGroupItem, handle, outline_endHandle same, value]

section First

variable {effect : Nat → Attribute → Nat → Effect} {entry : Attribute → Buffer} {refs : List AttrRef}

theorem headD_length (disguises : Disguises attrib twin) (refs : List AttrRef) :
    (((refs.map twin).headD .blank).value.getD []).length =
      (((refs.map attrib).headD .blank).value.getD []).length := by
  cases refs with
  | nil => rfl
  | cons ref refs => exact outline_length (disguises.outline ref)

theorem effect_twin (outlined : ∀ len attrib, effect len attrib.outline = effect len attrib)
    (disguises : Disguises attrib twin) (len : Nat) (ref : AttrRef) :
    effect len (twin ref) = effect len (attrib ref) := by
  rw [← outlined, disguises.outline, outlined]

theorem reported_twin (outlined : ∀ len attrib, effect len attrib.outline = effect len attrib)
    (disguises : Disguises attrib twin) : reported effect twin refs = reported effect attrib refs := by
  simp only [reported, headD_length disguises, effect_twin outlined disguises]

theorem firstSucceeds_twin (outlined : ∀ len attrib, effect len attrib.outline = effect len attrib)
    (disguises : Disguises attrib twin) :
    FirstSucceeds effect (refs.map twin) ↔ FirstSucceeds effect (refs.map attrib) := by
  have split : ∀ database : AttrRef → Attribute, FirstSucceeds effect (refs.map database) ↔
      ((refs.map database).headD .blank).value ≠ none ∧
        Ends (fun ref => effect (((refs.map database).headD .blank).value.getD []).length
          (database ref)) (fun _ => True) refs 2 := by
    intro database
    unfold FirstSucceeds
    cases ((refs.map database).headD .blank).value with
    | none => simp
    | some value => simp [ends_map]
  have absent : ((refs.map twin).headD .blank).value = none ↔
      ((refs.map attrib).headD .blank).value = none := by
    cases refs with
    | nil => exact Iff.rfl
    | cons ref refs => exact outline_absent (disguises.outline ref)
  rw [split, split]
  simp only [headD_length disguises, effect_twin outlined disguises, ne_eq, absent]

theorem firstContents_reported (opcode : UInt8) (more : Nat) (database : AttrRef → Attribute) :
    firstContents opcode more effect entry (refs.map database) =
      [opcode, UInt8.ofNat ((((refs.map database).headD .blank).value.getD []).length + more)] ++
        (reported effect database refs).flatMap fun ref => entry (database ref) := by
  simp only [firstContents, reported, taken_map, List.flatMap_map]

/-- Nothing that differs is reported, so that what is sent is the same. -/
theorem firstContents_twin (outlined : ∀ len attrib, effect len attrib.outline = effect len attrib)
    (items : ∀ {one other : Attribute}, one.outline = other.outline → one.value = other.value →
      entry one = entry other)
    (disguises : Disguises attrib twin)
    (discreet : ∀ ref ∈ reported effect attrib refs, (attrib ref).value = (twin ref).value)
    (opcode : UInt8) (more : Nat) :
    firstContents opcode more effect entry (refs.map attrib) =
      firstContents opcode more effect entry (refs.map twin) := by
  rw [firstContents_reported, firstContents_reported, headD_length disguises,
    reported_twin outlined disguises]
  have entries : (reported effect attrib refs).map (fun ref => entry (attrib ref)) =
      (reported effect attrib refs).map fun ref => entry (twin ref) := by
    apply List.map_congr_left
    intro ref member
    exact items (disguises.outline ref).symm (discreet ref member)
  rw [List.flatMap_def, List.flatMap_def, entries]

end First

end Outlines

section Search

variable {mtuSize : UInt16}

theorem findByTypeContents_typed (type : UuidRef) (attributes : List Attribute) :
    findByTypeContents mtuSize (some type) attributes = [opFindByTypeResponse] := by
  simp [findByTypeContents, findByTypeHandles]

theorem ends_typed (type : UuidRef) (items : List (Attribute × Nat)) (offset : Nat) :
    Ends (findByTypeEffect mtuSize (some type)) (fun _ => True) items offset := by
  induction items generalizing offset with
  | nil => trivial
  | cons item items ih =>
    unfold Ends findByTypeEffect
    by_cases full : mtuSize.toNat < offset + 4
    · simp only [if_pos full]
    · simp only [if_neg full, Option.isSome_some, if_true]
      exact ih _

theorem taken_full {offset : Nat} (full : mtuSize.toNat < offset + 4)
    (items : List (Attribute × Nat)) :
    taken (findByTypeEffect mtuSize none) items offset = [] ∧
      Ends (findByTypeEffect mtuSize none) (fun _ => True) items offset := by
  cases items with
  | nil => exact ⟨rfl, trivial⟩
  | cons item items =>
    unfold taken Ends findByTypeEffect
    simp only [if_pos full, and_self]

/-- What a reply shows of what is found without a type is told by the handles that it has room for. -/
theorem findByType_shown {attributes others : List Attribute} {offset : Nat}
    (same : shownEnds mtuSize offset attributes = shownEnds mtuSize offset others) (first : Nat) :
    (taken (findByTypeEffect mtuSize none) (attributes.zipIdx first) offset).flatMap
        (findByTypeHandles none) =
      (taken (findByTypeEffect mtuSize none) (others.zipIdx first) offset).flatMap
        (findByTypeHandles none) ∧
      (Ends (findByTypeEffect mtuSize none) (fun _ => True) (attributes.zipIdx first) offset ↔
        Ends (findByTypeEffect mtuSize none) (fun _ => True) (others.zipIdx first) offset) := by
  induction attributes generalizing others first offset with
  | nil =>
    cases others with
    | nil => exact ⟨rfl, Iff.rfl⟩
    | cons other others =>
      have full : mtuSize.toNat < offset + 4 := by
        by_contra room
        have some_room : (mtuSize.toNat - offset) / 4 ≠ 0 := by omega
        rcases Nat.exists_eq_succ_of_ne_zero some_room with ⟨more, spare⟩
        simp [shownEnds, spare] at same
      rcases taken_full full ((other :: others).zipIdx first) with ⟨nothing, ended⟩
      rw [nothing]
      exact ⟨rfl, iff_of_true trivial ended⟩
  | cons attrib attributes ih =>
    by_cases full : mtuSize.toNat < offset + 4
    · rcases taken_full full ((attrib :: attributes).zipIdx first) with ⟨nothing, ended⟩
      rcases taken_full full (others.zipIdx first) with ⟨twin_nothing, twin_ended⟩
      rw [nothing, twin_nothing]
      exact ⟨rfl, iff_of_true ended twin_ended⟩
    · have room : (mtuSize.toNat - offset) / 4 = (mtuSize.toNat - (offset + 4)) / 4 + 1 := by omega
      cases others with
      | nil => simp [shownEnds, room] at same
      | cons other others =>
        rw [shownEnds, shownEnds, room] at same
        rcases List.cons.inj same with ⟨same_end, same_rest⟩
        rcases ih same_rest (first + 1) with ⟨shown, ended⟩
        simp only [List.zipIdx_cons, taken, Ends, findByTypeEffect, if_neg full, Option.isSome_none,
          Bool.false_eq_true, if_false, same_end]
        by_cases fits : fits16 other.endHandle = true
        · simp only [if_pos fits, List.flatMap_cons]
          refine ⟨?_, ended⟩
          rw [shown]
          simp only [findByTypeHandles, Option.isSome_none, Bool.false_eq_true, if_false, same_end]
        · simp only [if_neg fits]
          trivial

end Search

section Handlers

variable {host : Host} {twin : AttrRef → Attribute} {base : List (CentralRef × Buffer)}
  {world other : World} (central : CentralRef) (data : Buffer)

/-- Two worlds are the same but for a disguised database. The same was sent in both. -/
abbrev Disguised (twin : AttrRef → Attribute) (base : List (CentralRef × Buffer)) :
    World → World → Prop :=
  Mirrored (fun attrib shown => shown = twin ∧ Disguises attrib twin) True base base

variable (disguised : Disguised twin base world other)

theorem Disguised.outline (disguised : Disguised twin base world other) (ref : AttrRef) :
    (other.attrib ref).outline = (world.attrib ref).outline := by
  rw [disguised.attrib.1]
  exact disguised.attrib.2.outline ref

theorem Disguised.type (disguised : Disguised twin base world other) (ref : AttrRef) :
    (other.attrib ref).type = (world.attrib ref).type := outline_type (disguised.outline ref)

theorem handleFindByType_disguised (disguised : Disguised twin base world other)
    (discreet : ¬ Handler.findByType.Discloses host world twin data) :
    Alike (Disguised twin base) Eq ((handleFindByType host central data).run world)
      ((handleFindByType host central data).run other) := by
  have present : ∀ ref, (other.attrib ref).value = none ↔ (world.attrib ref).value = none :=
    fun ref => outline_absent (disguised.outline ref)
  apply handleFindByType_alike central data disguised disguised.type present fun _ => .inl ⟨rfl, rfl⟩
  intro uuids type long got printable valid refs found twin_found
  have together : ¬ TellsApart world.mtuSize world.attrib other.attrib type refs (data.drop 6) := by
    rw [disguised.attrib.1]
    exact fun apart => discreet ⟨long, uuids, type, got, printable, valid, apart⟩
  rcases not_or.mp together with ⟨empty, ends⟩
  refine ⟨Decidable.not_not.mp empty, fun _ => ?_⟩
  have held : ∀ (database : AttrRef → Attribute),
      ∀ attrib ∈ (matching database refs (data.drop 6)).map database,
        attrib.value = some (data.drop 6) := by
    intro database attrib member
    rcases List.mem_map.mp member with ⟨ref, chosen, rfl⟩
    exact of_decide_eq_true (List.mem_filter.mp chosen).2
  have few : ∀ (database : AttrRef → Attribute),
      ((matching database refs (data.drop 6)).map database).length ≤ 0xFFFF := by
    intro database
    rw [List.length_map]
    exact matching_few database data type
  have first : ContentsOf world.mtuSize _ (findByTypeResponse host type _ _ _) _ :=
    findByTypeResponse_contents host { world with uuids } (held world.attrib) (few world.attrib)
  have second : ContentsOf other.mtuSize _ (findByTypeResponse host type _ _ _) _ :=
    findByTypeResponse_contents host { other with uuids } (held other.attrib) (few other.attrib)
  have shown : findByTypeContents world.mtuSize type (found.map world.attrib) =
      findByTypeContents world.mtuSize type (twin_found.map other.attrib) ∧
        (Ends (findByTypeEffect world.mtuSize type) (fun _ => True)
            (found.map world.attrib).zipIdx 1 ↔
          Ends (findByTypeEffect world.mtuSize type) (fun _ => True)
            (twin_found.map other.attrib).zipIdx 1) := by
    cases type with
    | some ref =>
      rw [findByTypeContents_typed, findByTypeContents_typed]
      exact ⟨rfl, iff_of_true (ends_typed _ _ _) (ends_typed _ _ _)⟩
    | none =>
      have same := Decidable.not_not.mp fun differ => ends ⟨rfl, differ⟩
      rcases findByType_shown same 0 with ⟨shown, ended⟩
      exact ⟨congrArg (List.cons opFindByTypeResponse) shown, ended⟩
  have sizes : other.mtuSize = world.mtuSize := disguised.mtuSize
  apply first.paired second sizes
  · rw [sizes]
    exact shown.2
  · rw [sizes]
    exact congrArg List.length shown.1
  · intro _
    rw [sizes]
    exact shown.1

/-- Two replies that report the values after the first are the same, if none of these differs. -/
theorem first_paired (disguised : Disguised twin base world other) {refs : List AttrRef}
    (effect : UInt16 → Nat → Attribute → Nat → Effect) {entry : Attribute → Buffer} {opcode : UInt8}
    {more : Nat} {encoded twin_encoded : Except JsError Buffer}
    (outlined : ∀ len attrib,
      effect world.mtuSize len attrib.outline = effect world.mtuSize len attrib)
    (items : ∀ {one other : Attribute}, one.outline = other.outline → one.value = other.value →
      entry one = entry other)
    (discreet : ¬ ∃ ref ∈ reported (effect world.mtuSize) world.attrib refs,
      (world.attrib ref).value ≠ (twin ref).value)
    (first : ContentsOf world.mtuSize
      (firstContents opcode more (effect world.mtuSize) entry (refs.map world.attrib)) encoded
        (FirstSucceeds (effect world.mtuSize) (refs.map world.attrib)))
    (second : ContentsOf other.mtuSize
      (firstContents opcode more (effect other.mtuSize) entry (refs.map other.attrib)) twin_encoded
        (FirstSucceeds (effect other.mtuSize) (refs.map other.attrib))) :
    Paired True encoded twin_encoded := by
  have sizes : other.mtuSize = world.mtuSize := disguised.mtuSize
  rcases disguised.attrib with ⟨shown_twin, disguises⟩
  rw [shown_twin, sizes] at second
  have hidden : ∀ ref ∈ reported (effect world.mtuSize) world.attrib refs,
      (world.attrib ref).value = (twin ref).value := by
    intro ref member
    by_contra differs
    exact discreet ⟨ref, member, differs⟩
  have shown := firstContents_twin outlined items disguises hidden opcode more
  exact first.paired second rfl (firstSucceeds_twin outlined disguises).symm
    (congrArg List.length shown) fun _ => shown

theorem handleReadByType_disguised (disguised : Disguised twin base world other)
    (discreet : ¬ Handler.readByType.Discloses host world twin data) :
    Alike (Disguised twin base) Eq ((handleReadByType host central data).run world)
      ((handleReadByType host central data).run other) := by
  apply handleReadByType_alike central data disguised disguised.type fun _ => .inl ⟨rfl, rfl⟩
  intro uuids type long got printable refs _
  apply first_paired disguised readByTypeEffect (readByTypeEffect_outline world.mtuSize)
    readByTypeItem_outline
  · exact fun reports => discreet ⟨long, uuids, type, got, printable, reports⟩
  · exact readByTypeResponse_contents host { world with uuids } _
  · exact readByTypeResponse_contents host { other with uuids } _

theorem handleReadByGroup_disguised (disguised : Disguised twin base world other)
    (discreet : ¬ Handler.readByGroup.Discloses host world twin data) :
    Alike (Disguised twin base) Eq ((handleReadByGroup host central data).run world)
      ((handleReadByGroup host central data).run other) := by
  apply handleReadByGroup_alike central data disguised disguised.type fun _ => .inl ⟨rfl, rfl⟩
  intro uuids type long got printable refs _
  have outlined : ∀ (_ : Nat) attrib, readByGroupEffect world.mtuSize attrib.outline =
      readByGroupEffect world.mtuSize attrib := fun _ => readByGroupEffect_outline world.mtuSize
  apply first_paired disguised (fun mtuSize _ => readByGroupEffect mtuSize) outlined
    readByGroupItem_outline
  · exact fun reports => discreet ⟨long, uuids, type, got, printable, reports⟩
  · exact readByGroupResponse_contents host { world with uuids } _
  · exact readByGroupResponse_contents host { other with uuids } _

theorem createHandler_disguised (disguised : Disguised twin base world other) {pdu : Buffer}
    (reads : IsReadRequest pdu) (discreet : ¬ Discloses host world twin pdu) :
    Alike (Disguised twin base) Eq ((createHandler host central pdu).run world)
      ((createHandler host central pdu).run other) := by
  rcases reads with ⟨opcode, listed, data, rfl⟩
  have silent : ∀ handler, handlers.lookup opcode = some handler →
      ¬ handler.Discloses host world twin data :=
    fun handler looked discloses => discreet ⟨opcode, data, handler, rfl, looked, discloses⟩
  simp only [readOpcodes, List.mem_cons, List.not_mem_nil, or_false] at listed
  rcases listed with rfl | rfl | rfl | rfl | rfl
  · exact handleFindInfo_alike central data disguised disguised.type fun _ => .inl ⟨rfl, rfl⟩
  · exact handleFindByType_disguised central data disguised (silent _ rfl)
  · exact handleReadByType_disguised central data disguised (silent _ rfl)
  · exact handleRead_alike central data disguised fun _ => .inl ⟨rfl, rfl⟩
  · exact handleReadByGroup_disguised central data disguised (silent _ rfl)

end Handlers

theorem handlerStep_disguised (host : Host) (twin : AttrRef → Attribute) (world other : World)
    (given : CentralRef × Buffer)
    (related : Disguises world.attrib twin ∧ other = { world with attrib := twin })
    (careful : IsReadRequest given.2 ∧ ¬ Discloses host world twin given.2) :
    ∃ next out onward emitted, handlerStep host world given = .ok (next, out) ∧
      handlerStep host other given = .ok (onward, emitted) ∧
        (Disguises next.attrib twin ∧ onward = { next with attrib := twin }) ∧ out = emitted := by
  have shown : other.attrib = twin := by rw [related.2]
  have sent : other.sent = world.sent := by rw [related.2]
  have start : Disguised twin world.sent world other := by
    have mirrored : Mirrored (fun attrib shown => shown = twin ∧ Disguises attrib twin) True world.sent
        other.sent world other := mirrored_refl ⟨shown, related.1⟩ (by rw [shown, sent]; exact related.2)
    rwa [sent] at mirrored
  have left := (createHandler_disguised given.1 start careful.1 careful.2).after
  refine ⟨_, _, _, _, rfl, rfl, ⟨left.attrib.2, ?_⟩, ?_⟩
  · rw [← left.attrib.1, ← left.sent_same trivial]
    exact left.same
  · unfold written
    rw [left.sent_same trivial, sent]

/-- As long as no value that may not be read is put in a reply, or decides what a search by content
    finds, two databases that differ in such values only are answered the same. -/
theorem unreadable_values_hidden (host : Host) (world : World) (twin : AttrRef → Attribute)
    (disguises : Disguises world.attrib twin) (given : List (CentralRef × Buffer))
    (reads : ∀ event ∈ given, IsReadRequest event.2)
    (discreet : ∀ taken ∈ visited (handlerStep host) world given, ¬ Discloses host taken.1 twin taken.2.2) :
    Agree (handlerStep host) (handlerStep host) world { world with attrib := twin } given := by
  apply agree_of_careful (handlerStep_disguised host twin) ⟨disguises, rfl⟩
  intro taken member
  exact ⟨reads _ (visited_event member), discreet taken member⟩

/-- The value of a characteristic at handle 1, which may be written only. -/
def padlock : World :=
  (after (do
    let ref ← createAttribute plainHost none (.buffer [4, 2]) (some 1) none
    modify fun world => world.setAttribute ref
      { world.attrib ref with properties := propertyWrite, listeners := [.reemit] } : Js Unit)
        .initial).setCentral 0 ⟨23, false⟩

def otherCode : AttrRef → Attribute :=
  Function.update padlock.attrib 0 { padlock.attrib 0 with value := some [0, 7] }

theorem otherCode_disguises : Disguises padlock.attrib otherCode := by
  intro ref
  by_cases lock : ref = 0
  · subst lock
    right
    refine ⟨⟨by decide +kernel, by decide +kernel⟩, [4, 2], [0, 7], by decide +kernel, rfl, ?_⟩
    rw [otherCode, Function.update_self]
  · left
    rw [otherCode, Function.update_of_ne lock]

def guesses : List (CentralRef × Buffer) :=
  [(0, [opReadRequest, 1, 0]), (0, [opFindByTypeRequest, 1, 0, 2, 0, 0, 0, 9])]

theorem guesses_read : ∀ event ∈ guesses, IsReadRequest event.2 := by
  intro event member
  rcases List.mem_cons.mp member with rfl | member
  · exact ⟨opReadRequest, by decide, _, rfl⟩
  · rw [List.mem_singleton.mp member]
    exact ⟨opFindByTypeRequest, by decide, _, rfl⟩

theorem guesses_discreet : ∀ taken ∈ visited (handlerStep plainHost) padlock guesses,
    ¬ Discloses plainHost taken.1 otherCode taken.2.2 := by
  intro taken member
  rcases List.mem_cons.mp member with rfl | member
  · rintro ⟨opcode, data, handler, split, looked, discloses⟩
    cases split
    cases looked
    exact discloses
  · rcases List.mem_cons.mp member with rfl | member
    · rintro ⟨opcode, data, handler, split, looked, discloses⟩
      cases split
      cases looked
      rcases discloses with ⟨_, uuids, type, got, _, _, apart⟩
      cases got
      unfold TellsApart at apart
      revert apart
      decide +kernel
    · cases member

theorem guesses_hidden :
    Disguises padlock.attrib otherCode ∧ (∀ event ∈ guesses, IsReadRequest event.2) ∧
      (∀ taken ∈ visited (handlerStep plainHost) padlock guesses,
        ¬ Discloses plainHost taken.1 otherCode taken.2.2) ∧
          Agree (handlerStep plainHost) (handlerStep plainHost) padlock
            { padlock with attrib := otherCode } guesses :=
  ⟨otherCode_disguises, guesses_read, guesses_discreet,
    unreadable_values_hidden plainHost padlock otherCode otherCode_disguises guesses guesses_read
      guesses_discreet⟩

/-- A request for the attributes of all types in a range gets to see the code. -/
theorem code_disclosed :
    Disguises padlock.attrib otherCode ∧ IsReadRequest [opReadByTypeRequest, 1, 0, 2, 0, 0, 0] ∧
      ¬ Agree (handlerStep plainHost) (handlerStep plainHost) padlock
        { padlock with attrib := otherCode } [(0, [opReadByTypeRequest, 1, 0, 2, 0, 0, 0])] := by
  refine ⟨otherCode_disguises, ⟨opReadByTypeRequest, by decide, _, rfl⟩, fun agree => ?_⟩
  have same := agree _ _ _ _ rfl rfl
  revert same
  decide +kernel

end Btle.Server

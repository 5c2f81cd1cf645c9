import Btle.Library.Throwing
import Btle.Server.Attributes

namespace Btle.Server

open Throwing

namespace Buffer

theorem writeUInt16LE_ok {buffer written : Buffer} {value : Option Nat} {offset : Nat}
    (h : writeUInt16LE buffer value offset = .ok written) :
    (∃ number, value = some number ∧ number ≤ 0xFFFF) ∧ offset + 1 < buffer.length ∧
      written.length = buffer.length ∧ ∀ i < offset, written[i]? = buffer[i]? := by
  unfold writeUInt16LE at h
  split at h
  · cases h
  · rename_i number
    split at h
    · rename_i inside
      split at h
      · rename_i small
        cases h
        refine ⟨⟨number, rfl, small⟩, inside, by simp, ?_⟩
        intro i before
        rw [List.getElem?_set_ne (by omega), List.getElem?_set_ne (by omega)]
      · cases h
    · cases h

end Buffer

@[simp] theorem newBuffer_length (host : Host) (number size : Nat) :
    (host.newBuffer number size).length = size := by simp [Host.newBuffer]

theorem keeps_ofExcept {α : Type} {relation : World → World → Prop} [Std.Refl relation]
    (result : Except JsError α) : Keeps relation (Js.ofExcept result) := by
  cases result with
  | ok value => exact Keeps.pure value
  | error thrown => exact Keeps.throw thrown

def IsPush (limit : Nat) (pdu : Buffer) : Prop :=
  (pdu.head? = some opHandleNotify ∨ pdu.head? = some opHandleIndicate) ∧ pdu.length ≤ limit

/-- All that listeners on a value do: PDUs are pushed, centrals are waited for. -/
structure Pushes (world next : World) : Prop where
  mtuSize : next.mtuSize = world.mtuSize
  handles : next.handles = world.handles
  attrib : next.attrib = world.attrib
  allocated : next.allocated = world.allocated
  uuids : next.uuids = world.uuids
  remoteErrors : next.remoteErrors = world.remoteErrors
  writeCalls : next.writeCalls = world.writeCalls
  mtu : ∀ central, (next.central central).mtu = (world.central central).mtu
  sent : ∃ pushed, next.sent = world.sent ++ pushed ∧
    ∀ entry ∈ pushed, IsPush world.mtuSize.toNat entry.2

instance : Std.Refl Pushes :=
  ⟨fun _ => ⟨rfl, rfl, rfl, rfl, rfl, rfl, rfl, fun _ => rfl, [], by simp, by simp⟩⟩

instance : IsTrans World Pushes where
  trans first second third one two := by
    rcases one.sent with ⟨pushed, sent, each⟩
    rcases two.sent with ⟨more, more_sent, more_each⟩
    refine ⟨two.mtuSize.trans one.mtuSize, two.handles.trans one.handles,
      two.attrib.trans one.attrib, two.allocated.trans one.allocated, two.uuids.trans one.uuids,
      two.remoteErrors.trans one.remoteErrors, two.writeCalls.trans one.writeCalls,
      fun central => (two.mtu central).trans (one.mtu central), pushed ++ more, ?_, ?_⟩
    · rw [more_sent, sent, List.append_assoc]
    · intro entry member
      rcases List.mem_append.mp member with here | here
      · exact each entry here
      · exact one.mtuSize ▸ more_each entry here

section Write

variable {world : World} {central : CentralRef} {pdu : Buffer}

theorem write_run (central : CentralRef) (pdu : Buffer) (world : World) :
    (Central.write central pdu).run world =
      if pdu.length ≤ (world.central central).mtu.toNat then
        .ok () { world with sent := world.sent ++ [(central, pdu)] }
      else
        .error (overlong pdu.length (world.central central).mtu.toNat)
          { world with sent := world.sent ++ [(central, pdu)] } := by
  simp only [Central.write, EStateM.run_bind, EStateM.run_modify, EStateM.run_get]
  by_cases fits : pdu.length ≤ (world.central central).mtu.toNat
  · rw [if_neg (by omega), if_pos fits]
    rfl
  · rw [if_pos (by omega), if_neg fits]
    rfl

theorem write_after (central : CentralRef) (pdu : Buffer) (world : World) :
    after (Central.write central pdu) world =
      { world with sent := world.sent ++ [(central, pdu)] } := by
  unfold after
  rw [write_run]
  by_cases fits : pdu.length ≤ (world.central central).mtu.toNat
  · rw [if_pos fits]
  · rw [if_neg fits]

theorem write_returns :
    Returns (Central.write central pdu) world ↔
      pdu.length ≤ (world.central central).mtu.toNat := by
  unfold Returns
  rw [write_run]
  by_cases fits : pdu.length ≤ (world.central central).mtu.toNat
  · rw [if_pos fits]
    exact iff_of_true trivial fits
  · rw [if_neg fits]
    exact iff_of_false not_false fits

end Write

/-- A value of which so much goes into a PDU; what it does not fill holds what the buffer did. -/
def pushOf (host : Host) (opcode : UInt8) (number handle size : Nat) (bytes : Buffer) : Buffer :=
  opcode :: LittleEndian.bytes 2 handle ++
    (bytes.take (size - 3) ++ (host.newBuffer number size).drop (3 + bytes.length))

theorem pushOf_length (host : Host) (opcode : UInt8) (number handle : Nat) {size : Nat} (bytes : Buffer)
    (room : 3 ≤ size) : (pushOf host opcode number handle size bytes).length = size := by
  simp only [pushOf, List.length_append, List.length_cons, LittleEndian.bytes_length,
    List.length_take, List.length_drop, newBuffer_length]
  omega

theorem write_header (host : Host) (opcode : UInt8) (number : Nat) {handle size : Nat} (room : 3 ≤ size)
    (small : handle ≤ 0xFFFF) :
    Buffer.writeUInt16LE ((host.newBuffer number size).set 0 opcode) (some handle) 1 =
      .ok (opcode :: LittleEndian.bytes 2 handle ++ (host.newBuffer number size).drop 3) := by
  have length := newBuffer_length host number size
  obtain ⟨first, second, third, rest, whole⟩ : ∃ first second third rest,
      host.newBuffer number size = first :: second :: third :: rest := by
    rcases shape : host.newBuffer number size with _ | ⟨first, _ | ⟨second, _ | ⟨third, rest⟩⟩⟩
    · rw [shape] at length; simp at length; omega
    · rw [shape] at length; simp at length; omega
    · rw [shape] at length; simp at length; omega
    · exact ⟨first, second, third, rest, rfl⟩
  rw [whole, Buffer.writeUInt16LE, if_pos (by simp), if_pos small]
  rfl

theorem copy_value (header bytes room : Buffer) (three : header.length = 3) :
    Buffer.copy bytes (header ++ room) 3 room.length =
      .ok (header ++ (bytes.take room.length ++ room.drop bytes.length)) := by
  have nonempty : (header ++ room).length ≠ 0 := by
    rw [List.length_append, three]
    omega
  unfold Buffer.copy
  dsimp only
  by_cases nothing : room.length = 0 ∨ bytes.length = 0
  · rw [if_pos (by split <;> omega)]
    rcases nothing with none | none
    · rw [List.length_eq_zero_iff.mp none]
      simp
    · rw [List.length_eq_zero_iff.mp none]
      simp
  · rw [if_neg (by split <;> omega), if_neg (by split <;> omega),
      if_neg (by rw [List.length_append, three]; omega)]
    have count : min (if (room.length : Int) < bytes.length then (room.length : Int)
        else bytes.length).toNat ((header ++ room).length - 3) = min room.length bytes.length := by
      rw [List.length_append, three]
      split <;> omega
    rw [count, List.take_append_of_le_length (by omega), List.take_of_length_le (by omega),
      List.drop_append, three, List.append_assoc]
    have skipped : header.drop (3 + min room.length bytes.length) = [] :=
      List.drop_eq_nil_of_le (by omega)
    rw [skipped, List.nil_append, Nat.add_sub_cancel_left]
    congr 2
    rcases Nat.le_total room.length bytes.length with less | less
    · rw [Nat.min_eq_left less, List.drop_length, List.drop_eq_nil_of_le less]
    · rw [Nat.min_eq_right less, List.take_length, List.take_of_length_le less]

section SendValue

variable {host : Host} {opcode : UInt8} {world : World} {ref : AttrRef} {central : CentralRef}

def Prepared (host : Host) (world : World) (ref : AttrRef) : Prop :=
  3 ≤ world.mtuSize.toNat ∧ host.freeValue (world.attrib ref) ≠ none ∧
    (world.attrib ref).value ≠ none ∧
    ∃ handle, (world.attrib ref).handle = some handle ∧ handle ≤ 0xFFFF

def pushLength (host : Host) (world : World) (ref : AttrRef) : Nat :=
  min (((host.freeValue (world.attrib ref)).getD []).length + 3) world.mtuSize.toNat

def Pushable (host : Host) (world : World) (ref : AttrRef) (central : CentralRef) : Prop :=
  Prepared host world ref ∧ pushLength host world ref ≤ (world.central central).mtu.toNat

theorem sendValue_run {handle : Nat} {bytes : Buffer} (opcode : UInt8) (central : CentralRef)
    (room : 3 ≤ world.mtuSize.toNat) (bound : host.freeValue (world.attrib ref) ≠ none)
    (present : (world.attrib ref).value = some bytes)
    (held : (world.attrib ref).handle = some handle) (small : handle ≤ 0xFFFF) :
    (sendValue host opcode ref central).run world =
      (Central.write central
        (pushOf host opcode world.sent.length handle (pushLength host world ref) bytes)).run world := by
  rcases Option.ne_none_iff_exists'.mp bound with ⟨value, bound⟩
  have length : pushLength host world ref =
      if value.length + 3 ≤ world.mtuSize.toNat then value.length + 3 else world.mtuSize.toNat := by
    rw [pushLength, bound, Option.getD_some]
    split <;> omega
  have enough : 3 ≤ pushLength host world ref := by
    rw [length]
    split <;> omega
  have wrote := write_header host opcode world.sent.length enough small
  have rest : ((host.newBuffer world.sent.length (pushLength host world ref)).drop 3).length =
      pushLength host world ref - 3 := by simp
  have size : (if value.length + 3 ≤ world.mtuSize.toNat then (value.length : Int)
      else world.mtuSize.toNat - 3) =
        (((host.newBuffer world.sent.length (pushLength host world ref)).drop 3).length : Int) := by
    rw [rest, length]
    split <;> omega
  have copied := copy_value (opcode :: LittleEndian.bytes 2 handle) bytes
    ((host.newBuffer world.sent.length (pushLength host world ref)).drop 3) rfl
  rw [rest, List.drop_drop] at copied
  rw [rest] at size
  simp only [sendValue, EStateM.run_bind, EStateM.run_get, bound, ← length, held, wrote, present,
    size, copied, Js.ofExcept, EStateM.run_pure]
  rfl

theorem sendValue_prepared (opcode : UInt8) (central : CentralRef) (prepared : Prepared host world ref) :
    ∃ pdu, (sendValue host opcode ref central).run world = (Central.write central pdu).run world ∧
      pdu.length = pushLength host world ref ∧ pdu.head? = some opcode := by
  rcases prepared with ⟨room, bound, present, handle, held, small⟩
  rcases Option.ne_none_iff_exists'.mp present with ⟨bytes, present⟩
  have enough : 3 ≤ pushLength host world ref := by
    rw [pushLength]
    omega
  exact ⟨_, sendValue_run opcode central room bound present held small,
    pushOf_length host opcode world.sent.length handle bytes enough, rfl⟩

theorem sendValue_unprepared (opcode : UInt8) (central : CentralRef)
    (unprepared : ¬ Prepared host world ref) :
    ∃ thrown, (sendValue host opcode ref central).run world = .error thrown world := by
  unfold sendValue
  simp only [EStateM.run_bind, EStateM.run_get]
  cases bound : host.freeValue (world.attrib ref) with
  | none => exact ⟨_, rfl⟩
  | some value =>
    dsimp only
    cases wrote : Buffer.writeUInt16LE
        ((host.newBuffer world.sent.length (if value.length + 3 ≤ world.mtuSize.toNat then value.length + 3
          else world.mtuSize.toNat)).set 0 opcode) (world.attrib ref).handle 1 with
    | error thrown =>
      exact ⟨thrown, by simp only [Js.ofExcept, EStateM.run_bind]; rfl⟩
    | ok written =>
      simp only [Js.ofExcept, EStateM.run_bind, EStateM.run_pure]
      cases present : (world.attrib ref).value with
      | none => exact ⟨_, rfl⟩
      | some bytes =>
        rcases Buffer.writeUInt16LE_ok wrote with ⟨⟨handle, held, small⟩, inside, _⟩
        rw [List.length_set, newBuffer_length] at inside
        have room : 3 ≤ world.mtuSize.toNat := by split at inside <;> omega
        have free : host.freeValue (world.attrib ref) ≠ none := by simp [bound]
        have valued : (world.attrib ref).value ≠ none := by simp [present]
        exact absurd ⟨room, free, valued, handle, held, small⟩ unprepared

theorem sendValue_returns (opcode : UInt8) :
    Returns (sendValue host opcode ref central) world ↔ Pushable host world ref central := by
  unfold Returns
  by_cases prepared : Prepared host world ref
  · rcases sendValue_prepared opcode central prepared with ⟨pdu, same, length, _⟩
    rw [same]
    apply write_returns.trans
    rw [length, Pushable, and_iff_right prepared]
  · rcases sendValue_unprepared opcode central prepared with ⟨thrown, ran⟩
    rw [ran]
    exact iff_of_false not_false fun pushable => prepared pushable.1

theorem sendValue_after (host : Host) (opcode : UInt8) (ref : AttrRef) (central : CentralRef)
    (world : World) :
    ∃ pushed, after (sendValue host opcode ref central) world =
        { world with sent := world.sent ++ pushed } ∧
      ∀ entry ∈ pushed, entry.1 = central ∧ entry.2.head? = some opcode ∧
        entry.2.length = pushLength host world ref := by
  by_cases prepared : Prepared host world ref
  · obtain ⟨pdu, same, length, head⟩ :=
      sendValue_prepared opcode central prepared
    refine ⟨[(central, pdu)], ?_, by simp [length, head]⟩
    rw [← write_after central pdu world, after, after, same]
  · rcases sendValue_unprepared opcode central prepared with ⟨thrown, ran⟩
    refine ⟨[], ?_, by simp⟩
    rw [after, ran, List.append_nil]

theorem pushLength_le : pushLength host world ref ≤ world.mtuSize.toNat := Nat.min_le_right _ _

end SendValue

section Emission

variable {host : Host} {world : World} {ref : AttrRef}

theorem pushes_sent (world : World) {pushed : List (CentralRef × Buffer)}
    (each : ∀ entry ∈ pushed, IsPush world.mtuSize.toNat entry.2) :
    Pushes world { world with sent := world.sent ++ pushed } :=
  ⟨rfl, rfl, rfl, rfl, rfl, rfl, rfl, fun _ => rfl, pushed, rfl, each⟩

theorem sendValue_keeps {opcode : UInt8} (host : Host) (ref : AttrRef) (central : CentralRef)
    (kind : opcode = opHandleNotify ∨ opcode = opHandleIndicate) :
    Keeps Pushes (sendValue host opcode ref central) := by
  intro world
  rcases sendValue_after host opcode ref central world with ⟨pushed, left, each⟩
  rw [left]
  refine pushes_sent world fun entry member => ?_
  rcases each entry member with ⟨_, head, length⟩
  refine ⟨?_, length ▸ pushLength_le⟩
  rcases kind with rfl | rfl
  · exact .inl head
  · exact .inr head

theorem await_keeps (central : CentralRef) :
    Keeps Pushes (modify fun world => world.setCentral central
      { world.central central with waitingForConfirmation := true } : Js Unit) := by
  refine Keeps.modify fun world => ?_
  refine ⟨rfl, rfl, rfl, rfl, rfl, rfl, rfl, fun other => ?_, [], by simp [World.setCentral], by simp⟩
  by_cases same : other = central
  · subst same
    simp [World.setCentral]
  · simp [World.setCentral, same]

theorem indicate_keeps (host : Host) (ref : AttrRef) (central : CentralRef) :
    Keeps Pushes (indicate host ref central) := by
  refine Keeps.get.bind fun world => ?_
  dsimp only
  split
  · exact Keeps.pure _
  · exact (sendValue_keeps host ref central (.inr rfl)).bind fun _ => await_keeps central

theorem callApplication_run (host : Host) (number : Nat) (ref : AttrRef) (world : World) :
    (callApplication host number ref).run world =
      match host.application number (world.attrib ref) with
      | none => .ok () world
      | some thrown => .error thrown world := by
  simp only [callApplication, EStateM.run_bind, EStateM.run_get]
  cases host.application number (world.attrib ref) <;> rfl

theorem callApplication_after (host : Host) (number : Nat) (ref : AttrRef) (world : World) :
    after (callApplication host number ref) world = world := by
  rw [after, callApplication_run]
  cases host.application number (world.attrib ref) <;> rfl

theorem callApplication_returns {number : Nat} :
    Returns (callApplication host number ref) world ↔
      host.application number (world.attrib ref) = none := by
  rw [Returns, callApplication_run]
  cases host.application number (world.attrib ref) with
  | none => exact iff_of_true trivial rfl
  | some thrown => exact iff_of_false not_false (by simp)

section Keeping

variable {relation : World → World → Prop} [Std.Refl relation]

theorem callListener_keeps_of {again : Js Unit}
    (notified : ∀ central, Keeps relation (notify host ref central))
    (indicated : ∀ central, Keeps relation (indicate host ref central))
    (keeps : Keeps relation again) (listener : Listener) :
    Keeps relation (callListener host ref again listener) := by
  cases listener with
  | reemit => exact keeps
  | application number =>
    intro world
    rw [callListener, callApplication_after]
    exact Std.Refl.refl world
  | notification stamp central => exact notified central
  | indication stamp central => exact indicated central

variable [IsTrans World relation]

/-- What every push keeps, an emission keeps, however deep it goes. -/
theorem emitValueChanged_keeps_of (notified : ∀ central, Keeps relation (notify host ref central))
    (indicated : ∀ central, Keeps relation (indicate host ref central)) (depth : Nat) :
    Keeps relation (emitValueChanged host ref depth) := by
  have listened : ∀ {again : Js Unit}, Keeps relation again →
      Keeps relation (callListeners host ref again) := by
    intro again keeps
    exact Keeps.get.bind fun _ => Keeps.forM fun listener _ =>
      callListener_keeps_of notified indicated keeps listener
  induction depth with
  | zero => exact listened (Keeps.throw _)
  | succ depth ih => exact listened ih

theorem setValue_keeps_with (value : JsValue)
    (assigned : ∀ world value, relation world
      (world.setAttribute ref { world.attrib ref with value }))
    (notified : ∀ central, Keeps relation (notify host ref central))
    (indicated : ∀ central, Keeps relation (indicate host ref central)) :
    Keeps relation (setValue host ref value) := by
  have kept (bytes : World → Option Buffer) : Keeps relation (setValue.keep ref bytes) :=
    Keeps.modify fun world => assigned world (bytes world)
  have emitted := emitValueChanged_keeps_of notified indicated host.stack
  cases value with
  | null => exact Keeps.pure _
  | other name => exact (Keeps.throw _).bind fun _ => emitted
  | uuid | buffer | string | number | array => exact (kept _).bind fun _ => emitted

end Keeping

theorem callListener_keeps (host : Host) (ref : AttrRef) {again : Js Unit}
    (keeps : Keeps Pushes again) (listener : Listener) :
    Keeps Pushes (callListener host ref again listener) :=
  callListener_keeps_of (fun central => sendValue_keeps host ref central (.inl rfl))
    (indicate_keeps host ref) keeps listener

theorem emitValueChanged_keeps (host : Host) (ref : AttrRef) (depth : Nat) :
    Keeps Pushes (emitValueChanged host ref depth) :=
  emitValueChanged_keeps_of (fun central => sendValue_keeps host ref central (.inl rfl))
    (indicate_keeps host ref) depth

/-- What holds of an assignment and of the pushes after it holds of the setter. -/
theorem setValue_keeps_of {relation : World → World → Prop} [Std.Refl relation]
    [IsTrans World relation] (host : Host) (ref : AttrRef) (value : JsValue)
    (assigned : ∀ world value, relation world
      (world.setAttribute ref { world.attrib ref with value }))
    (pushed : ∀ world next, Pushes world next → relation world next) :
    Keeps relation (setValue host ref value) := by
  apply setValue_keeps_with value assigned
  · intro central world
    exact pushed _ _ (sendValue_keeps host ref central (.inl rfl) world)
  · intro central world
    exact pushed _ _ (indicate_keeps host ref central world)

/-- A listener that returns: not the one that emits again, and a push goes through or has to wait. -/
def QuietFor (host : Host) (world : World) (ref : AttrRef) : Listener → Prop
  | .reemit => False
  | .application number => host.application number (world.attrib ref) = none
  | .notification _ central => Pushable host world ref central
  | .indication _ central =>
    (world.central central).waitingForConfirmation = true ∨ Pushable host world ref central

theorem Pushes.pushable {next : World} (pushes : Pushes world next) (host : Host) (ref : AttrRef)
    (central : CentralRef) :
    Pushable host next ref central ↔ Pushable host world ref central := by
  unfold Pushable Prepared pushLength
  rw [pushes.mtuSize, pushes.attrib, pushes.mtu]

theorem notify_waiting (host : Host) (ref : AttrRef) (central other : CentralRef) (world : World) :
    (after (notify host ref central) world).central other = world.central other := by
  rcases sendValue_after host opHandleNotify ref central world with ⟨pushed, left, _⟩
  rw [notify, left]

theorem indicate_run_waiting {central : CentralRef}
    (waiting : (world.central central).waitingForConfirmation = true) :
    (indicate host ref central).run world = .ok () world := by
  simp only [indicate, EStateM.run_bind, EStateM.run_get, waiting]
  rfl

theorem indicate_run (host : Host) (ref : AttrRef) {central : CentralRef}
    (free : (world.central central).waitingForConfirmation = false) :
    (indicate host ref central).run world =
      (do sendValue host opHandleIndicate ref central
          modify fun world => world.setCentral central
            { world.central central with waitingForConfirmation := true } : Js Unit).run world := by
  simp only [indicate, EStateM.run_bind, EStateM.run_get, free]
  rfl

theorem indicate_returns {stamp : Nat} {central : CentralRef} :
    Returns (indicate host ref central) world ↔
      QuietFor host world ref (.indication stamp central) := by
  cases waiting : (world.central central).waitingForConfirmation with
  | true =>
    have returned : Returns (indicate host ref central) world :=
      returns_iff.mpr ⟨_, _, indicate_run_waiting waiting⟩
    exact iff_of_true returned (.inl waiting)
  | false =>
    have quiet : QuietFor host world ref (.indication stamp central) ↔
        Pushable host world ref central := by simp [QuietFor, waiting]
    rw [quiet, ← sendValue_returns opHandleIndicate]
    unfold Returns
    rw [indicate_run host ref waiting, EStateM.run_bind]
    cases (sendValue host opHandleIndicate ref central).run world <;> rfl

theorem indicate_waiting {stamp : Nat} {central : CentralRef}
    (quiet : QuietFor host world ref (.indication stamp central)) (other : CentralRef) :
    ((after (indicate host ref central) world).central other).waitingForConfirmation =
      if other = central then true else (world.central other).waitingForConfirmation := by
  cases waiting : (world.central central).waitingForConfirmation with
  | true =>
    rw [after_ok (indicate_run_waiting waiting)]
    split
    · rename_i same
      rw [same, waiting]
    · rfl
  | false =>
    have pushable : Pushable host world ref central := by simpa [QuietFor, waiting] using quiet
    rcases returns_iff.mp ((sendValue_returns opHandleIndicate).mpr pushable) with ⟨_, next, ran⟩
    rcases sendValue_after host opHandleIndicate ref central world with ⟨pushed, left, _⟩
    rw [after_ok ran] at left
    subst left
    have done := indicate_run host ref waiting
    rw [EStateM.run_bind, ran] at done
    rw [after_ok done]
    by_cases same : other = central
    · subst same
      simp [World.setCentral]
    · simp [World.setCentral, same]

theorem quietFor_after (again : Js Unit) {listener : Listener}
    (quiet : QuietFor host world ref listener) (other : Listener) :
    QuietFor host (after (callListener host ref again listener) world) ref other ↔
      QuietFor host world ref other := by
  have kept := (callListener_keeps host ref (Keeps.pure PUnit.unit) listener world).attrib
  cases listener with
  | reemit => exact absurd quiet not_false
  | application number => rw [callListener, callApplication_after]
  | notification stamp central =>
    have pushable := (sendValue_keeps host ref central (.inl rfl) world).pushable host ref
    cases other with
    | reemit => rfl
    | application number => exact Eq.congr_left (congrArg (host.application number) (congrFun kept ref))
    | notification _ target => exact pushable target
    | indication _ target =>
      simp only [QuietFor, callListener, notify_waiting]
      rw [notify, pushable target]
  | indication stamp central =>
    have pushable := (indicate_keeps host ref central world).pushable host ref
    cases other with
    | reemit => rfl
    | application number => exact Eq.congr_left (congrArg (host.application number) (congrFun kept ref))
    | notification _ target => exact pushable target
    | indication _ target =>
      simp only [QuietFor, callListener, pushable target]
      rw [indicate_waiting quiet]
      by_cases same : target = central
      · subst same
        rw [if_pos rfl]
        exact iff_of_true (.inl rfl) quiet
      · rw [if_neg same]

theorem callListener_returns (host : Host) (ref : AttrRef) {again : Js Unit} (listener : Listener)
    (loops : listener = .reemit → ¬ Returns again world) :
    Returns (callListener host ref again listener) world ↔ QuietFor host world ref listener := by
  cases listener with
  | reemit => exact iff_of_false (loops rfl) not_false
  | application number => exact callApplication_returns
  | notification stamp central => exact sendValue_returns _
  | indication stamp central => exact indicate_returns

theorem forM_returns {again : Js Unit} (keeps : Keeps Pushes again) {listeners : List Listener}
    (loops : .reemit ∈ listeners → ∀ next : World, next.attrib = world.attrib → ¬ Returns again next) :
    Returns (listeners.forM (callListener host ref again)) world ↔
      ∀ listener ∈ listeners, QuietFor host world ref listener := by
  induction listeners generalizing world with
  | nil => exact iff_of_true trivial (by simp)
  | cons listener listeners ih =>
    have first := callListener_returns host ref listener
      fun same => loops (same ▸ List.mem_cons_self) world rfl
    rw [List.forall_mem_cons, ← first]
    apply returns_bind.trans
    cases ran : (callListener host ref again listener).run world with
    | error thrown next =>
      have stopped : ¬ Returns (callListener host ref again listener) world := by
        rw [returns_iff, ran]
        simp
      exact iff_of_false not_false fun h => stopped h.1
    | ok done next =>
      have returned := returns_iff.mpr ⟨_, _, ran⟩
      have kept := (callListener_keeps host ref keeps listener world).attrib
      rw [after_ok ran] at kept
      rw [and_iff_right returned]
      refine (ih fun member other same =>
        loops (List.mem_cons_of_mem _ member) other (same.trans kept)).trans ?_
      refine forall₂_congr fun other _ => ?_
      rw [← quietFor_after again (first.mp returned) other, after_ok ran]

/-- An emission returns exactly if all listeners do; one that emits again never ends well. -/
theorem emitValueChanged_returns (depth : Nat) :
    Returns (emitValueChanged host ref depth) world ↔
      ∀ listener ∈ (world.attrib ref).listeners, QuietFor host world ref listener := by
  induction depth generalizing world with
  | zero => exact forM_returns (Keeps.throw _) fun _ _ _ => not_false
  | succ depth ih =>
    refine forM_returns (emitValueChanged_keeps host ref depth) fun member next same => ?_
    rw [ih, same]
    exact fun quiet => quiet _ member

end Emission

end Btle.Server

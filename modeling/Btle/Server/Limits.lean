import Btle.Server.Outcomes

namespace Btle.Server

open Throwing

/-- No PDU that a program sends is longer than the limit of the central it goes to. -/
def Within {α : Type} (limit : CentralRef → Nat) (program : Js α) (world : World) : Prop :=
  ∀ entry ∈ written program world, entry.2.length ≤ limit entry.1

instance {α : Type} (limit : CentralRef → Nat) (program : Js α) (world : World) :
    Decidable (Within limit program world) :=
  List.decidableBAll (fun entry : CentralRef × Buffer => entry.2.length ≤ limit entry.1) _

def Appends (world next : World) : Prop := world.sent <+: next.sent

instance : Std.Refl Appends := ⟨fun world => List.prefix_refl world.sent⟩

instance : IsTrans World Appends := ⟨fun _ _ _ => List.IsPrefix.trans⟩

theorem Pushes.appends {world next : World} (pushes : Pushes world next) : Appends world next := by
  rcases pushes.sent with ⟨pushed, sent, _⟩
  exact ⟨pushed, sent.symm⟩

section Within

variable {α β : Type} {limit : CentralRef → Nat} {world : World}

theorem written_same {program : Js α} {other : Js β} {start : World}
    (same : after program world = after other start) (sent : start.sent = world.sent) :
    written program world = written other start := by
  rw [written, written, same, sent]

theorem within_same {program : Js α} {other : Js β} {start : World}
    (same : after program world = after other start) (sent : start.sent = world.sent) :
    Within limit program world ↔ Within limit other start := by
  rw [Within, Within, written_same same sent]

theorem within_silent {program : Js α} (silent : (after program world).sent = world.sent) :
    Within limit program world := by
  rw [Within, written_of_sent (silent.trans (List.append_nil _).symm)]
  simp

theorem within_bind (limit : CentralRef → Nat) (world : World) {program : Js α}
    {next : α → Js β} (first : Keeps Appends program)
    (second : ∀ value, Keeps Appends (next value)) :
    Within limit (program >>= next) world ↔ Within limit program world ∧
      ∀ value middle, program.run world = .ok value middle → Within limit (next value) middle := by
  rcases first world with ⟨sent, start⟩
  cases ran : program.run world with
  | error thrown middle =>
    have stopped : (program >>= next).run world = .error thrown middle := by
      rw [EStateM.run_bind, ran]
    have same : written (program >>= next) world = written program world := by
      rw [written, written, after_error stopped, after_error ran]
    rw [Within, same]
    exact (and_iff_left (by simp)).symm
  | ok value middle =>
    rw [after_ok ran] at start
    rcases second value middle with ⟨more, onward⟩
    have left : after (program >>= next) world = after (next value) middle := by
      rw [after, EStateM.run_bind, ran, after]
    have whole : written (program >>= next) world = sent ++ more :=
      written_of_sent (by rw [left, ← onward, ← start, List.append_assoc])
    have here : written program world = sent := written_of_sent (by rw [after_ok ran, start])
    have there : written (next value) middle = more := written_of_sent onward.symm
    unfold Within
    rw [whole, here, List.forall_mem_append]
    refine and_congr_right fun _ => ?_
    constructor
    · intro each other last same
      cases same
      rwa [there]
    · intro each
      rw [← there]
      exact each value middle rfl

end Within

section Pushed

variable {host : Host} {limit : CentralRef → Nat} {world : World} {ref : AttrRef}

def PushFits (host : Host) (limit : CentralRef → Nat) (world : World) (ref : AttrRef)
    (central : CentralRef) : Prop :=
  Prepared host world ref → pushLength host world ref ≤ limit central

theorem sendValue_within {opcode : UInt8} {central : CentralRef} :
    Within limit (sendValue host opcode ref central) world ↔ PushFits host limit world ref central := by
  unfold Within PushFits
  by_cases prepared : Prepared host world ref
  · rcases sendValue_prepared opcode central prepared with ⟨pdu, same, length, _⟩
    have one : written (sendValue host opcode ref central) world = [(central, pdu)] := by
      rw [written_same (after_congr same) rfl]
      exact written_of_sent (by rw [write_after])
    rw [one, List.forall_mem_singleton, length]
    exact (imp_iff_right prepared).symm
  · rcases sendValue_unprepared opcode central prepared with ⟨thrown, ran⟩
    have nothing : written (sendValue host opcode ref central) world = [] :=
      written_of_sent (by rw [after_error ran, List.append_nil])
    rw [nothing]
    exact iff_of_true (by simp) fun ready => absurd ready prepared

/-- The push of a listener fits; one that has to wait sends nothing, nor does the one that emits or
    the application's. -/
def ListenerFits (host : Host) (limit : CentralRef → Nat) (world : World) (ref : AttrRef) :
    Listener → Prop
  | .reemit | .application _ => True
  | .notification _ central => PushFits host limit world ref central
  | .indication _ central =>
    (world.central central).waitingForConfirmation = false → PushFits host limit world ref central

/-- The pushes of the listeners fit, as far as they are called: the one after a listener that throws
    is not. -/
def PushesFit (host : Host) (limit : CentralRef → Nat) (world : World) (ref : AttrRef) :
    List Listener → Prop
  | [] => True
  | listener :: rest => ListenerFits host limit world ref listener ∧
      (QuietFor host world ref listener → PushesFit host limit world ref rest)

theorem indicate_within (stamp : Nat) {central : CentralRef} :
    Within limit (indicate host ref central) world ↔
      ListenerFits host limit world ref (.indication stamp central) := by
  cases waiting : (world.central central).waitingForConfirmation with
  | true =>
    refine iff_of_true (within_silent ?_) fun free => ?_
    · rw [after_ok (indicate_run_waiting waiting)]
    · rw [waiting] at free
      cases free
  | false =>
    have fits : ListenerFits host limit world ref (.indication stamp central) ↔
        PushFits host limit world ref central := by simp [ListenerFits, waiting]
    rw [fits, within_same (after_congr (indicate_run host ref waiting)) rfl, within_bind, sendValue_within]
    · refine and_iff_left fun _ middle _ => within_silent rfl
    · exact fun state => (sendValue_keeps host ref central (.inr rfl) state).appends
    · exact fun _ => Keeps.modify fun state => List.prefix_refl _

theorem callListener_within {again : Js Unit} {listener : Listener}
    (loops : listener = .reemit → Within limit again world) :
    Within limit (callListener host ref again listener) world ↔
      ListenerFits host limit world ref listener := by
  cases listener with
  | reemit => exact iff_of_true (loops rfl) trivial
  | application number =>
    apply iff_of_true (within_silent ?_) trivial
    rw [callListener, callApplication_after]
  | notification stamp central => exact sendValue_within
  | indication stamp central => exact indicate_within stamp

theorem Pushes.pushFits {next : World} (pushes : Pushes world next) (host : Host)
    (limit : CentralRef → Nat) (ref : AttrRef) (central : CentralRef) :
    PushFits host limit next ref central ↔ PushFits host limit world ref central := by
  unfold PushFits Prepared pushLength
  rw [pushes.mtuSize, pushes.attrib]

/-- A listener that was called changes nothing for the others: where it leaves a central waiting, its
    own push was one to it. -/
theorem listenerFits_after {again : Js Unit} {listener : Listener}
    (quiet : QuietFor host world ref listener) (fits : ListenerFits host limit world ref listener)
    (other : Listener) :
    ListenerFits host limit (after (callListener host ref again listener) world) ref other ↔
      ListenerFits host limit world ref other := by
  cases listener with
  | reemit => exact absurd quiet not_false
  | application number => rw [callListener, callApplication_after]
  | notification stamp central =>
    have same := (sendValue_keeps host ref central (.inl rfl) world).pushFits host limit ref
    cases other with
    | reemit | application => rfl
    | notification _ target => exact same target
    | indication _ target =>
      simp only [ListenerFits, callListener, notify_waiting]
      rw [notify, same target]
  | indication stamp central =>
    have same := (indicate_keeps host ref central world).pushFits host limit ref
    cases other with
    | reemit | application => rfl
    | notification _ target => exact same target
    | indication _ target =>
      simp only [ListenerFits, callListener, same target]
      rw [indicate_waiting quiet]
      by_cases equal : target = central
      · subst equal
        rw [if_pos rfl]
        exact iff_of_true (by simp) fits
      · rw [if_neg equal]

theorem pushesFit_after {again : Js Unit} {listener : Listener}
    (quiet : QuietFor host world ref listener) (fits : ListenerFits host limit world ref listener)
    (listeners : List Listener) :
    PushesFit host limit (after (callListener host ref again listener) world) ref listeners ↔
      PushesFit host limit world ref listeners := by
  induction listeners with
  | nil => rfl
  | cons other listeners ih =>
    rw [PushesFit, PushesFit, listenerFits_after quiet fits, quietFor_after _ quiet, ih]

/-- The pushes of an emission are within the limits exactly if they fit, where one that emits again
    is within them as long as all the pushes fit. -/
theorem forM_within (host : Host) (limit : CentralRef → Nat) (world : World) (ref : AttrRef)
    {again : Js Unit} (keeps : Keeps Pushes again) (all listeners : List Listener)
    (loops : .reemit ∈ listeners → ∀ next : World, next.attrib = world.attrib →
      ¬ Returns again next ∧ (PushesFit host limit next ref all → Within limit again next)) :
    (Within limit (listeners.forM (callListener host ref again)) world →
      PushesFit host limit world ref listeners) ∧
    (PushesFit host limit world ref all → PushesFit host limit world ref listeners →
      Within limit (listeners.forM (callListener host ref again)) world) := by
  induction listeners generalizing world with
  | nil => exact ⟨fun _ => trivial, fun _ _ => within_silent rfl⟩
  | cons listener listeners ih =>
    have called : ∀ each, Keeps Appends (callListener host ref again each) :=
      fun each state => (callListener_keeps host ref keeps each state).appends
    have rest : Keeps Appends (listeners.forM (callListener host ref again)) :=
      Keeps.forM fun each _ => called each
    have split := within_bind limit world (called listener) fun _ : Unit => rest
    have returns := callListener_returns host ref listener
      fun same => (loops (same ▸ List.mem_cons_self) world rfl).1
    have onward : ∀ middle, (callListener host ref again listener).run world = .ok () middle →
        QuietFor host world ref listener ∧
          ((.reemit : Listener) ∈ listeners → ∀ next : World, next.attrib = middle.attrib →
            ¬ Returns again next ∧ (PushesFit host limit next ref all → Within limit again next)) := by
      intro middle ran
      refine ⟨returns.mp (returns_iff.mpr ⟨_, _, ran⟩), fun member next same => ?_⟩
      have kept := (callListener_keeps host ref keeps listener world).attrib
      rw [after_ok ran] at kept
      exact loops (List.mem_cons_of_mem _ member) next (same.trans kept)
    constructor
    · intro within
      rcases split.mp within with ⟨here, there⟩
      have fits : ListenerFits host limit world ref listener := by
        cases listener with
        | reemit | application => trivial
        | notification | indication => exact (callListener_within (by simp)).mp here
      refine ⟨fits, fun quiet => ?_⟩
      rcases returns_iff.mp (returns.mpr quiet) with ⟨_, middle, ran⟩
      have rest := (ih middle (onward middle ran).2).1 (there () middle ran)
      rwa [← after_ok ran, pushesFit_after quiet fits] at rest
    · intro whole each
      rcases each with ⟨fits, later⟩
      refine split.mpr ⟨?_, fun _ middle ran => ?_⟩
      · refine (callListener_within fun same => ?_).mpr fits
        exact (loops (same ▸ List.mem_cons_self) world rfl).2 whole
      · rcases onward middle ran with ⟨quiet, loops⟩
        apply (ih middle loops).2
        · rwa [← after_ok ran, pushesFit_after quiet fits]
        · rw [← after_ok ran, pushesFit_after quiet fits]
          exact later quiet

theorem emitValueChanged_within (depth : Nat) :
    Within limit (emitValueChanged host ref depth) world ↔
      PushesFit host limit world ref (world.attrib ref).listeners := by
  induction depth generalizing world with
  | zero =>
    obtain ⟨needs, keeps⟩ := forM_within host limit world ref
      (Keeps.throw (JsError.rangeError "Maximum call stack size exceeded"))
      (world.attrib ref).listeners (world.attrib ref).listeners
      fun _ _ _ => ⟨not_false, fun _ => within_silent rfl⟩
    exact ⟨needs, fun fits => keeps fits fits⟩
  | succ depth ih =>
    obtain ⟨needs, keeps⟩ := forM_within host limit world ref (emitValueChanged_keeps host ref depth)
      (world.attrib ref).listeners (world.attrib ref).listeners fun member next same => by
        rw [ih, same, emitValueChanged_returns, same]
        exact ⟨fun quiet => quiet _ member, id⟩
    exact ⟨needs, fun fits => keeps fits fits⟩

def JsValue.stored (world : World) : JsValue → Option (Option Buffer)
  | .null => none
  | .uuid ref => some (world.uuids.objects[ref]?.bind Uuid.buffer)
  | .buffer bytes => some (some bytes)
  | .string utf8 => some (some utf8)
  | .number value => some (some [UInt8.ofNat value])
  | .array elements => some (some (elements.map UInt8.ofNat))
  | .other _ => none

theorem setValue_stored_run (host : Host) (ref : AttrRef) {world : World} {value : JsValue}
    {bytes : Option Buffer} (stored : value.stored world = some bytes) :
    (setValue host ref value).run world =
      (emitValueChanged host ref host.stack).run (world.assigned ref bytes) := by
  cases value with
  | null | other => cases stored
  | uuid | buffer | string | number | array =>
    cases stored
    rfl

theorem setValue_within (host : Host) (limit : CentralRef → Nat) (world : World) (ref : AttrRef)
    (value : JsValue) :
    Within limit (setValue host ref value) world ↔ ∀ bytes, value.stored world = some bytes →
      PushesFit host limit (world.assigned ref bytes) ref (world.attrib ref).listeners := by
  have emits : ∀ bytes, Within limit (emitValueChanged host ref host.stack) (world.assigned ref bytes) ↔
      PushesFit host limit (world.assigned ref bytes) ref (world.attrib ref).listeners := by
    intro bytes
    rw [emitValueChanged_within]
    simp [World.assigned, World.setAttribute]
  cases value with
  | null | other =>
    apply iff_of_true (within_silent rfl)
    intro bytes stored
    cases stored
  | uuid | buffer | string | number | array =>
    simp only [JsValue.stored, Option.some.injEq, forall_eq', ← emits]
    exact within_same rfl rfl

end Pushed

section Handlers

variable {host : Host} {limit : CentralRef → Nat} {central : CentralRef} {world : World}

def ReplyFits (limit : Nat) (condition : (Nat → Prop) → Prop) : Prop :=
  condition (fun _ => True) → condition (· ≤ limit)

theorem Settles.within {program : Js Unit} {answer : Buffer → Prop}
    {condition : (Nat → Prop) → Prop} (settles : Settles program central world answer condition) :
    Within limit program world ↔ ReplyFits (limit central) condition := by
  rcases settles.sent with ⟨same, never⟩ | ⟨pdu, sent, _, exactly⟩
  · exact iff_of_true (within_silent same) fun wanted => absurd wanted (never _)
  · rw [Within, written_of_sent sent, List.forall_mem_singleton, ReplyFits, exactly, exactly]
    exact (imp_iff_right trivial).symm

theorem Settles.within_five {program : Js Unit} {answer : Buffer → Prop}
    (settles : Settles program central world answer (fun goal => goal 5)) (room : 23 ≤ limit central) :
    Within limit program world :=
  settles.within.mpr fun _ => le_trans (by decide) room

theorem handleMtu_within (data : Buffer) (room : 23 ≤ limit central) :
    Within limit (handleMtu host central data) world := by
  by_cases long : 2 ≤ data.length
  · have sent := handleMtu_sent host central world long
    rw [Within, written_of_sent sent, List.forall_mem_singleton, mtuResponse_length]
    exact le_trans (by decide) room
  · rcases threw (handleMtu host central data) world (field_missing (by omega) _ world) with ⟨_, left⟩
    exact within_silent (by rw [left])

def WriteFits (host : Host) (limit : CentralRef → Nat) (world : World) (data : Buffer)
    (respond : Bool) : Prop :=
  2 ≤ data.length → ∀ ref, writeTarget world (word data 0) respond = some ref →
    PushesFit host limit (world.assigned ref (some (data.drop 2))) ref (world.attrib ref).listeners

theorem doWrite_within {handle : Nat} (small : handle ≤ 0xFFFF) {value : Buffer} {respond : Bool}
    (room : 23 ≤ limit central) :
    Within limit (doWrite host central handle value respond) world ↔
      ∀ ref, writeTarget world handle respond = some ref →
        PushesFit host limit (world.assigned ref (some value)) ref (world.attrib ref).listeners := by
  cases target : writeTarget world handle respond with
  | none =>
    have refused := doWrite_refused host central small value target
    apply iff_of_true (refused.within_five room)
    intro ref wanted
    cases wanted
  | some ref =>
    rcases doWrite_permitted host central value target with ⟨_, answer, _, left, taken, stuck, _⟩
    have short : ∀ entry ∈ answer, entry.2.length ≤ limit entry.1 := by
      by_cases takes : respond = true ∧ TakesValue host world ref value
      · rw [taken takes, List.forall_mem_singleton]
        exact le_trans (show 1 ≤ 23 by decide) room
      · simp [stuck takes]
    rcases (setValue_buffer_pushes host world ref value).sent with ⟨pushed, sent, _⟩
    have assigned : written (setValue host ref (.buffer value)) world = pushed :=
      written_of_sent sent
    have whole : written (doWrite host central handle value respond) world = pushed ++ answer :=
      written_of_sent (by rw [left, sent, List.append_assoc]; rfl)
    have pushes := setValue_within host limit world ref (.buffer value)
    simp only [JsValue.stored, Option.some.injEq, forall_eq'] at pushes ⊢
    rw [← pushes, Within, Within, whole, assigned, List.forall_mem_append]
    exact and_iff_left short

theorem write_field_within {data : Buffer} {respond : Bool} (room : 23 ≤ limit central) :
    Within limit (Js.ofExcept (Buffer.readUInt16LE data 0) >>= fun handle =>
      doWrite host central handle (data.drop 2) respond) world ↔
      WriteFits host limit world data respond := by
  by_cases long : 2 ≤ data.length
  · have ran := field_read (show 0 + 1 < data.length by omega)
      (fun handle => doWrite host central handle (data.drop 2) respond) world
    rw [within_same (after_congr ran) rfl, doWrite_within (word_small data 0) room]
    exact (imp_iff_right long).symm
  · obtain ⟨_, left⟩ := threw _ world (field_missing (show data.length ≤ 0 + 1 by omega)
      (fun handle => doWrite host central handle (data.drop 2) respond) world)
    exact iff_of_true (within_silent (by rw [left])) fun enough => absurd enough long

/-- The replies with attributes in them and the pushes of a write are what may be too long. -/
def Handler.Moderate (host : Host) (limit : CentralRef → Nat) (central : CentralRef) (world : World)
    (data : Buffer) : Handler → Prop
  | .findByType => ReplyFits (limit central) (FindByTypeAnswers host world data)
  | .readByType => ReplyFits (limit central) (ReadByTypeAnswers host world data)
  | .readByGroup => ReplyFits (limit central) (ReadByGroupAnswers host world data)
  | .write => WriteFits host limit world data true
  | .writeCmd => WriteFits host limit world data false
  | .error | .mtu | .findInfo | .read | .readBlob | .readMulti | .valueConfirm => True

theorem Handler.call_within (handler : Handler) {data : Buffer} (room : 23 ≤ limit central) :
    Within limit (handler.call host central data) world ↔
      handler.Moderate host limit central world data := by
  cases handler with
  | error =>
    have silent := (handleError_outcome central data world).2
    exact iff_of_true (within_silent silent) trivial
  | mtu => exact iff_of_true (handleMtu_within data room) trivial
  | findInfo =>
    have settles := handleFindInfo_settles host central data world
    refine iff_of_true (settles.within.mpr ?_) trivial
    intro answers
    rcases answers with ⟨long, _, nothing⟩
    exact ⟨long, le_trans (by decide) room, nothing⟩
  | findByType => exact (handleFindByType_settles host central data world).within
  | readByType => exact (handleReadByType_settles host central data world).within
  | read =>
    have settles := handleRead_settles host central data world
    refine iff_of_true (settles.within.mpr ?_) trivial
    intro answers
    exact ⟨answers.1, le_trans (by decide) room⟩
  | readBlob =>
    have same : after (handleReadBlob data) world = world := (handleReadBlob_outcome data world).2
    exact iff_of_true (within_silent (by rw [call, same])) trivial
  | readMulti =>
    have same : after (handleReadMulti data) world = world := (handleReadMulti_outcome data world).2
    exact iff_of_true (within_silent (by rw [call, same])) trivial
  | readByGroup => exact (handleReadByGroup_settles host central data world).within
  | write => exact write_field_within room
  | writeCmd => exact write_field_within room
  | valueConfirm => exact iff_of_true (within_silent rfl) trivial

end Handlers

end Btle.Server

import Btle.Server.AccessControl
import Btle.Server.MtuInForce
import Btle.Wire.Replies

namespace Btle.Wire

open Server Throwing

/-- What a client handles without touching the request it waits for: a whole notification, or an error
    that names a write. -/
def IsForeign (pdu : Buffer) : Prop :=
  pdu.head? = some opHandleNotify ∧ 3 ≤ pdu.length ∨ IsError opWriteRequest pdu

/-- No listener makes indications for the central. -/
def Unindicated (central : CentralRef) (world : World) : Prop :=
  ∀ ref stamp, .indication stamp central ∉ (world.attrib ref).listeners

/-- Where nothing is indicated to the central, nothing comes to be, and what it is sent is foreign. -/
def Spares (central : CentralRef) (world next : World) : Prop :=
  Unindicated central world → Unindicated central next ∧
    ∃ pushed, next.sent = world.sent ++ pushed ∧ ∀ entry ∈ pushed, entry.1 = central → IsForeign entry.2

instance (central : CentralRef) : Std.Refl (Spares central) :=
  ⟨fun _ quiet => ⟨quiet, [], by simp, by simp⟩⟩

instance (central : CentralRef) : IsTrans World (Spares central) where
  trans first second third one two := by
    intro quiet
    obtain ⟨still, pushed, sent, each⟩ := one quiet
    obtain ⟨last, more, more_sent, more_each⟩ := two still
    refine ⟨last, pushed ++ more, ?_, ?_⟩
    · rw [more_sent, sent, List.append_assoc]
    · intro entry member
      rcases List.mem_append.mp member with here | here
      · exact each entry here
      · exact more_each entry here

/-- The PDUs among what is sent that go to one central. -/
def receivedBy (central : CentralRef) (sent : List (CentralRef × Buffer)) : List Buffer :=
  (sent.filter fun entry => entry.1 = central).map Prod.snd

theorem mem_receivedBy {central : CentralRef} {sent : List (CentralRef × Buffer)} {pdu : Buffer} :
    pdu ∈ receivedBy central sent ↔ (central, pdu) ∈ sent := by
  simp only [receivedBy, List.mem_map, List.mem_filter, decide_eq_true_eq]
  constructor
  · rintro ⟨⟨target, pdu⟩, ⟨member, rfl⟩, rfl⟩
    exact member
  · intro member
    exact ⟨(central, pdu), ⟨member, rfl⟩, rfl⟩

section Sparing

variable {central : CentralRef} {world next : World}

theorem Unindicated.of_listeners (quiet : Unindicated central world)
    (same : ∀ ref, (next.attrib ref).listeners = (world.attrib ref).listeners) :
    Unindicated central next := by
  intro ref stamp
  rw [same]
  exact quiet ref stamp

theorem spares_silent (sent : next.sent = world.sent)
    (same : ∀ ref, (next.attrib ref).listeners = (world.attrib ref).listeners) :
    Spares central world next :=
  fun quiet => ⟨quiet.of_listeners same, [], by rw [sent, List.append_nil], by simp⟩

theorem spares_sent {target : CentralRef} {pdu : Buffer} (sent : next.sent = world.sent ++ [(target, pdu)])
    (same : ∀ ref, (next.attrib ref).listeners = (world.attrib ref).listeners)
    (foreign : target = central → IsForeign pdu) : Spares central world next := by
  refine fun quiet => ⟨quiet.of_listeners same, [(target, pdu)], sent, ?_⟩
  rw [List.forall_mem_singleton]
  exact foreign

theorem setAttribute_listeners (world : World) (ref : AttrRef) {attrib : Attribute}
    (same : attrib.listeners = (world.attrib ref).listeners) (other : AttrRef) :
    ((world.setAttribute ref attrib).attrib other).listeners = (world.attrib other).listeners := by
  show (Function.update world.attrib ref attrib other).listeners = _
  by_cases here : other = ref
  · rw [here, Function.update_self, same]
  · rw [Function.update_of_ne here]

theorem setAttribute_unindicated (quiet : Unindicated central world) {ref : AttrRef} {attrib : Attribute}
    (fine : ∀ stamp, .indication stamp central ∉ attrib.listeners) :
    Unindicated central (world.setAttribute ref attrib) := by
  intro other stamp
  show _ ∉ (Function.update world.attrib ref attrib other).listeners
  by_cases here : other = ref
  · rw [here, Function.update_self]
    exact fine stamp
  · rw [Function.update_of_ne here]
    exact quiet other stamp

theorem write_spares {target : CentralRef} {pdu : Buffer} (foreign : target = central → IsForeign pdu) :
    Keeps (Spares central) (Central.write target pdu) := by
  intro world
  rw [write_after]
  exact spares_sent rfl (fun _ => rfl) foreign

theorem notify_spares (host : Host) (ref : AttrRef) (target : CentralRef) :
    Keeps (Spares central) (notify host ref target) := by
  intro world
  by_cases prepared : Prepared host world ref
  · obtain ⟨pdu, same, length, head⟩ := sendValue_prepared opHandleNotify target prepared
    rw [notify, after_congr same]
    have room := prepared.1
    apply write_spares
    exact fun _ => .inl ⟨head, by rw [length, pushLength]; omega⟩
  · obtain ⟨thrown, ran⟩ := sendValue_unprepared opHandleNotify target prepared
    rw [notify, after_error ran]
    exact Std.Refl.refl world

theorem indicate_spares (host : Host) (ref : AttrRef) {target : CentralRef} (other : target ≠ central) :
    Keeps (Spares central) (indicate host ref target) := by
  have sends : Keeps (Spares central) (sendValue host opHandleIndicate ref target) := by
    intro world quiet
    obtain ⟨pushed, left, each⟩ := sendValue_after host opHandleIndicate ref target world
    rw [left]
    exact ⟨quiet, pushed, rfl, fun entry member here =>
      absurd ((each entry member).1.symm.trans here) other⟩
  refine Keeps.get.bind fun world => ?_
  dsimp only
  split
  · exact Keeps.pure _
  · exact sends.bind fun _ => Keeps.modify fun _ => spares_silent rfl fun _ => rfl

theorem callApplication_spares (host : Host) (number : Nat) (ref : AttrRef) :
    Keeps (Spares central) (callApplication host number ref) := by
  intro world
  rw [callApplication_after]
  exact Std.Refl.refl world

/-- However deep it goes, an emission comes upon no listener that indicates to the central. -/
theorem emitValueChanged_spares (host : Host) (ref : AttrRef) (depth : Nat) :
    Keeps (Spares central) (emitValueChanged host ref depth) := by
  have listened : ∀ {again : Js Unit}, Keeps (Spares central) again →
      Keeps (Spares central) (callListeners host ref again) := by
    intro again keeps world quiet
    have each : Keeps (Spares central)
        ((world.attrib ref).listeners.forM (callListener host ref again)) := by
      refine Keeps.forM fun listener member => ?_
      cases listener with
      | reemit => exact keeps
      | application number => exact callApplication_spares host number ref
      | notification stamp target => exact notify_spares host ref target
      | indication stamp target =>
        have other : target ≠ central := by
          rintro rfl
          exact quiet ref stamp member
        exact indicate_spares host ref other
    exact each world quiet
  induction depth with
  | zero => exact listened (Keeps.throw _)
  | succ depth ih => exact listened ih

theorem setValue_spares (host : Host) (ref : AttrRef) (value : JsValue) :
    Keeps (Spares central) (setValue host ref value) := by
  have kept (bytes : World → Option Buffer) : Keeps (Spares central) (setValue.keep ref bytes) :=
    Keeps.modify fun world => spares_silent rfl (setAttribute_listeners world ref rfl)
  have emitted : Keeps (Spares central) (emitValueChanged host ref host.stack) :=
    emitValueChanged_spares host ref host.stack
  cases value with
  | null => exact Keeps.pure _
  | other name => exact (Keeps.throw _).bind fun _ => emitted
  | uuid | buffer | string | number | array => exact (kept _).bind fun _ => emitted

theorem enableNotifications_spares (host : Host) (ref : AttrRef) (target : CentralRef) :
    Keeps (Spares central) (enableNotifications host ref target) := by
  intro world quiet
  rcases enableNotifications_cases host world ref target with ⟨_, thrown, ran⟩ | ⟨_, ran⟩
  · rw [after_error ran]
    exact Std.Refl.refl (r := Spares central) world quiet
  · have added : Unindicated central (world.notifying ref target) := by
      refine setAttribute_unindicated quiet fun stamp member => ?_
      rcases List.mem_append.mp member with old | new
      · exact quiet ref stamp old
      · cases List.mem_singleton.mp new
    rw [after_congr ran]
    exact notify_spares host ref target (world.notifying ref target) added

theorem enableIndications_spares (host : Host) (ref : AttrRef) {target : CentralRef}
    (other : target ≠ central) : Keeps (Spares central) (enableIndications host ref target) := by
  intro world quiet
  rcases enableIndications_cases host world ref target with ⟨_, thrown, ran⟩ | ⟨_, ran⟩
  · rw [after_error ran]
    exact Std.Refl.refl (r := Spares central) world quiet
  · have added : Unindicated central (world.indicating ref target) := by
      refine setAttribute_unindicated quiet fun stamp member => ?_
      rcases List.mem_append.mp member with old | new
      · exact quiet ref stamp old
      · cases List.mem_singleton.mp new
        exact other rfl
    rw [after_congr ran]
    exact indicate_spares host ref other (world.indicating ref target) added

/-- To take listeners away from an attribute. -/
theorem spares_fewer (world : World) (ref : AttrRef) {attrib : Attribute}
    (fewer : ∀ listener ∈ attrib.listeners, listener ∈ (world.attrib ref).listeners) :
    Spares central world (world.setAttribute ref attrib) := fun quiet =>
  ⟨setAttribute_unindicated quiet fun stamp member => quiet ref stamp (fewer _ member), [],
    by simp [World.setAttribute], by simp⟩

theorem disableNotifications_spares (ref : AttrRef) :
    Keeps (Spares central) (disableNotifications ref) := by
  intro world
  simp only [disableNotifications, after, EStateM.run_bind, EStateM.run_get]
  cases (world.attrib ref).notificationListener with
  | none => exact Std.Refl.refl world
  | some listener => exact spares_fewer world ref fun _ => List.mem_of_mem_erase

theorem disableIndications_spares (ref : AttrRef) :
    Keeps (Spares central) (disableIndications ref) := by
  intro world
  simp only [disableIndications, after, EStateM.run_bind, EStateM.run_get]
  cases (world.attrib ref).indicationListener with
  | none => exact Std.Refl.refl world
  | some listener => exact spares_fewer world ref fun _ => List.mem_of_mem_erase

end Sparing

section Handling

variable {host : Host} {central target : CentralRef}

/-- A field that is there is a number of 16 bits. -/
theorem keeps_field {relation : World → World → Prop} [Std.Refl relation] [IsTrans World relation]
    {next : Nat → Js Unit} (data : Buffer) (offset : Nat)
    (each : ∀ number ≤ 0xFFFF, Keeps relation (next number)) :
    Keeps relation (Js.ofExcept (Buffer.readUInt16LE data offset) >>= next) := by
  cases read : Buffer.readUInt16LE data offset with
  | error thrown =>
    show Keeps relation (throw thrown : Js Unit)
    exact Keeps.throw thrown
  | ok number => exact each number ((readUInt16LE_iff.mp read).2 ▸ word_small data offset)

/-- An error to another central, or one that names a write. -/
theorem sendError_spares (host : Host) (error op : UInt8) {handle : Nat} (small : handle ≤ 0xFFFF)
    (named : target = central → op = opWriteRequest) :
    Keeps (Spares central) (sendError host target error op handle) := by
  intro world
  rw [after_congr (sendError_run host world target error op small)]
  apply write_spares
  intro here
  rw [named here]
  exact .inr ⟨errorPdu_length host _ error _ handle, rfl, rfl⟩

theorem settles_spares {program : Js Unit} {world : World} {answer : Buffer → Prop}
    {condition : (Nat → Prop) → Prop} (settles : Settles program target world answer condition)
    (other : target ≠ central) : Spares central world (after program world) := by
  obtain ⟨uuids, sent, left⟩ := settles.left
  have same : ∀ ref, ((after program world).attrib ref).listeners = (world.attrib ref).listeners := by
    intro ref
    rw [left]
  rcases settles.sent with ⟨silent, _⟩ | ⟨pdu, wrote, _⟩
  · exact spares_silent silent same
  · exact spares_sent wrote same fun here => absurd here other

theorem doWrite_spares (host : Host) {handle : Nat} (small : handle ≤ 0xFFFF) (value : Buffer)
    {respond : Bool} (silent : target = central → respond = false) :
    Keeps (Spares central) (doWrite host target handle value respond) := by
  unfold doWrite
  refine Keeps.get.bind fun world => ?_
  cases getAttribute world handle with
  | none => exact sendError_spares host _ _ small fun _ => rfl
  | some ref =>
    dsimp only
    split
    · refine (setValue_spares host ref _).bind fun _ => Keeps.bind ?_ fun _ => ?_
      · refine Keeps.get.bind fun other => ?_
        split
        · exact Keeps.modify fun _ => spares_silent rfl fun _ => rfl
        · exact Keeps.pure _
      · split
        · rename_i responds
          refine Keeps.get.bind fun _ => ?_
          exact write_spares fun here => absurd (silent here) (by rw [responds]; decide)
        · exact Keeps.pure _
    · exact sendError_spares host _ _ small fun _ => rfl

theorem setMtu_spares (target : CentralRef) (mtu : UInt16) :
    Keeps (Spares central) (setMtu target mtu) :=
  Keeps.modify fun _ => spares_silent rfl fun _ => rfl

theorem handleMtu_spares (host : Host) (other : target ≠ central) (data : Buffer) :
    Keeps (Spares central) (handleMtu host target data) := by
  unfold handleMtu
  refine (keeps_ofExcept _).bind fun requestedMtu => Keeps.get.bind fun world => ?_
  have entered : Keeps (Spares central)
      (modify fun other => { other with mtuSize := (world.central target).mtu } : Js Unit) :=
    Keeps.modify fun _ => spares_silent rfl fun _ => rfl
  refine entered.bind fun _ => Keeps.get.bind fun _ => (keeps_ofExcept _).bind fun pdu => ?_
  refine (write_spares fun here => absurd here other).bind fun _ => ?_
  split
  · exact setMtu_spares target defaultMtu
  · split
    · exact setMtu_spares target _
    · exact Keeps.pure _

theorem call_spares (host : Host) (other : target ≠ central) (data : Buffer) (handler : Handler) :
    Keeps (Spares central) (handler.call host target data) := by
  have elsewhere {P : Prop} : target = central → P := fun here => absurd here other
  cases handler with
  | error =>
    exact (keeps_ofExcept _).bind fun _ => Keeps.modify fun _ => spares_silent rfl fun _ => rfl
  | mtu => exact handleMtu_spares host other data
  | findInfo => exact fun world => settles_spares (handleFindInfo_settles host target data world) other
  | findByType =>
    exact fun world => settles_spares (handleFindByType_settles host target data world) other
  | readByType =>
    exact fun world => settles_spares (handleReadByType_settles host target data world) other
  | read => exact fun world => settles_spares (handleRead_settles host target data world) other
  | readBlob =>
    intro world
    rw [Handler.call, (handleReadBlob_outcome data world).2]
    exact Std.Refl.refl world
  | readMulti =>
    intro world
    rw [Handler.call, (handleReadMulti_outcome data world).2]
    exact Std.Refl.refl world
  | readByGroup =>
    exact fun world => settles_spares (handleReadByGroup_settles host target data world) other
  | write | writeCmd => exact keeps_field data 0 fun _ small => doWrite_spares host small _ elsewhere
  | valueConfirm => exact Keeps.modify fun _ => spares_silent rfl fun _ => rfl

/-- Whatever another central sends, this one is sent nothing but notifications. -/
theorem createHandler_spares (host : Host) (other : target ≠ central) (pdu : Buffer) :
    Keeps (Spares central) (createHandler host target pdu) := by
  have elsewhere {P : Prop} : target = central → P := fun here => absurd here other
  have zero : 0 ≤ 0xFFFF := Nat.zero_le _
  cases pdu with
  | nil => exact sendError_spares host _ _ zero elsewhere
  | cons opcode data =>
    cases looked : handlers.lookup opcode with
    | none =>
      simp only [createHandler, looked]
      exact sendError_spares host _ _ zero elsewhere
    | some handler =>
      simp only [createHandler, looked]
      exact call_spares host other data handler

/-- A write command of the central itself may be answered, with an error that names a write. -/
theorem writeCmd_spares (host : Host) (central : CentralRef) (data : Buffer) :
    Keeps (Spares central) (createHandler host central (opWriteCmd :: data)) :=
  keeps_field data 0 fun _ small => doWrite_spares host small _ fun _ => rfl

/-- The requests of which the client waits for the answer. -/
def readRequests : List UInt8 :=
  [opFindInfoRequest, opFindByTypeRequest, opReadByTypeRequest, opReadByGroupRequest, opReadRequest]

/-- Those of them that are ever answered with a response. -/
def listedRequests : List UInt8 := [opFindByTypeRequest, opReadByTypeRequest, opReadByGroupRequest]

/-- An error that names the request, its response, or nothing at all as a PDU. -/
def IsAnswerTo (request : UInt8) (pdu : Buffer) : Prop :=
  pdu = [] ∨ IsError request pdu ∨ (pdu.head? = some (request + 1) ∧ request ∈ listedRequests)

theorem reply_answers {request response : UInt8} {mtuSize : UInt16} {pdu : Buffer}
    (reply : IsReply request response mtuSize pdu) (next : response = request + 1)
    (listed : request ∈ listedRequests) : IsAnswerTo request pdu := by
  rcases reply with error | ⟨_, opcode⟩
  · exact .inr (.inl error)
  · by_cases empty : pdu = []
    · exact .inl empty
    · exact .inr (.inr ⟨next ▸ opcode empty, listed⟩)

/-- Attributes that are found make an exception, so that only errors are ever sent. -/
theorem handleFindInfo_errors (host : Host) (central : CentralRef) (data : Buffer) (world : World) :
    Settles (handleFindInfo host central data) central world (IsError opFindInfoRequest) fun goal =>
      ∃ start, Buffer.readUInt16LE data 0 = .ok start ∧ ∃ stop, Buffer.readUInt16LE data 2 = .ok stop ∧
        ((start = 0 ∨ stop < start) ∨ attributesIn world start stop none = []) ∧ goal 5 := by
  unfold handleFindInfo
  refine settles_ofExcept fun start read_start => settles_ofExcept fun stop _ => ?_
  have small : start ≤ 0xFFFF := (readUInt16LE_iff.mp read_start).2 ▸ word_small data 0
  by_cases invalid : start = 0 ∨ stop < start
  · simp only [invalid, true_or, true_and]
    exact sendError_settles host central _ _ small world
  · simp only [invalid, false_or]
    apply settles_get
    rw [findAttributes_any]
    cases attributesIn world start stop none with
    | nil =>
      simp only [true_and]
      exact sendError_settles host central _ _ small world
    | cons ref found =>
      obtain ⟨thrown, failed⟩ := findInfoResponse_throws host world (world.attrib ref) (found.map world.attrib)
      refine .inl ⟨thrown, world.uuids, ?_, by simp⟩
      simp only [Js.ofExcept, pure_bind, respond, EStateM.run_bind, EStateM.run_get, List.map_cons, failed]
      rfl

/-- The handler of such a request throws with nothing written, or comes to write one answer. -/
theorem readRequest_settles (host : Host) (central : CentralRef) (world : World) {request : UInt8}
    (reads : request ∈ readRequests) (data : Buffer) :
    ∃ condition, Settles (createHandler host central (request :: data)) central world
      (IsAnswerTo request) condition := by
  simp only [readRequests, List.mem_cons, List.not_mem_nil, or_false] at reads
  rcases reads with rfl | rfl | rfl | rfl | rfl
  · exact ⟨_, (handleFindInfo_errors host central data world).weaken fun _ error => .inr (.inl error)⟩
  · exact ⟨_, (handleFindByType_settles host central data world).weaken fun _ reply =>
      reply_answers reply rfl (by decide)⟩
  · exact ⟨_, (handleReadByType_settles host central data world).weaken fun _ reply =>
      reply_answers reply rfl (by decide)⟩
  · exact ⟨_, (handleReadByGroup_settles host central data world).weaken fun _ reply =>
      reply_answers reply rfl (by decide)⟩
  · exact ⟨_, (handleRead_settles host central data world).weaken fun _ error => .inr (.inl error)⟩

end Handling

end Btle.Wire

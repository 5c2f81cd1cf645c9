import Btle.Library.Machine
import Btle.Server.Outcomes

namespace Btle.Server

open Machine Throwing

structure SameDatabase (world next : World) : Prop where
  handles : next.handles = world.handles
  allocated : next.allocated = world.allocated
  attrib : next.attrib = world.attrib
  writeCalls : next.writeCalls = world.writeCalls

instance : Std.Refl SameDatabase := ⟨fun _ => ⟨rfl, rfl, rfl, rfl⟩⟩

instance : IsTrans World SameDatabase :=
  ⟨fun _ _ _ first second => ⟨second.handles.trans first.handles,
    second.allocated.trans first.allocated, second.attrib.trans first.attrib,
    second.writeCalls.trans first.writeCalls⟩⟩

/-- The handle that a WRITE_REQUEST or WRITE_CMD names, and the property that permits the write. -/
def Names (pdu : Buffer) (handle property : Nat) : Prop :=
  ∃ data, 2 ≤ data.length ∧ handle = word data 0 ∧
    (pdu = opWriteRequest :: data ∧ property = propertyWrite ∨
      pdu = opWriteCmd :: data ∧ property = propertyWriteWithoutResp)

/-- The PDU is a write that names the handle of the attribute, and the attribute permits it. -/
def MayWrite (world : World) (ref : AttrRef) (pdu : Buffer) : Prop :=
  ∃ handle property, Names pdu handle property ∧ (world.attrib ref).handle = some handle ∧
    slotAt world.handles handle = some ref ∧ (world.attrib ref).properties &&& property ≠ 0

def AtOwnHandles (world : World) : Prop :=
  ∀ handle ref, slotAt world.handles handle = some ref → (world.attrib ref).handle = some handle

/-- What a PDU may do to the database: nothing but to give a value to the attribute it may write,
    and to have the callback of that one called. -/
structure Guarded (world next : World) (pdu : Buffer) : Prop where
  table : next.handles = world.handles
  allocated : next.allocated = world.allocated
  fields : ∀ ref, next.attrib ref = { world.attrib ref with value := (next.attrib ref).value }
  permitted : ∀ ref, (next.attrib ref).value ≠ (world.attrib ref).value → MayWrite world ref pdu
  called : ∃ calls, next.writeCalls = world.writeCalls ++ calls ∧
    ∀ ref ∈ calls, MayWrite world ref pdu
  refused : (∀ ref, ¬ MayWrite world ref pdu) → SameDatabase world next

theorem SameDatabase.guarded {world next : World} (same : SameDatabase world next) (pdu : Buffer) :
    Guarded world next pdu := by
  have kept : ∀ ref, next.attrib ref = world.attrib ref := congrFun same.attrib
  have silent : next.writeCalls = world.writeCalls ++ [] := by
    rw [same.writeCalls, List.append_nil]
  exact ⟨same.handles, same.allocated, fun ref => by rw [kept ref],
    fun ref changed => absurd (by rw [kept ref]) changed, ⟨[], silent, by simp⟩, fun _ => same⟩

section Keeping

variable {host : Host} {central : CentralRef} {world : World}

theorem write_keepsDatabase (central : CentralRef) (pdu : Buffer) :
    Keeps SameDatabase (Central.write central pdu) := by
  intro world
  rw [write_after]
  exact ⟨rfl, rfl, rfl, rfl⟩

theorem Settles.sameDatabase {program : Js Unit} {answer : Buffer → Prop}
    {condition : (Nat → Prop) → Prop}
    (settles : Settles program central world answer condition) :
    SameDatabase world (after program world) := by
  rcases settles.left with ⟨uuids, sent, left⟩
  rw [left]
  exact ⟨rfl, rfl, rfl, rfl⟩

theorem handleError_keepsDatabase (central : CentralRef) (data : Buffer) :
    Keeps SameDatabase (handleError central data) := by
  unfold handleError
  refine (keeps_ofExcept _).bind fun handle => ?_
  exact Keeps.modify fun _ => ⟨rfl, rfl, rfl, rfl⟩

theorem setMtu_keepsDatabase (central : CentralRef) (mtu : UInt16) :
    Keeps SameDatabase (setMtu central mtu) :=
  Keeps.modify fun _ => ⟨rfl, rfl, rfl, rfl⟩

theorem handleMtu_keepsDatabase (host : Host) (central : CentralRef) (data : Buffer) :
    Keeps SameDatabase (handleMtu host central data) := by
  unfold handleMtu
  refine (keeps_ofExcept _).bind fun requestedMtu => Keeps.get.bind fun world => ?_
  have entered : Keeps SameDatabase
      (modify fun other => { other with mtuSize := (world.central central).mtu } : Js Unit) :=
    Keeps.modify fun _ => ⟨rfl, rfl, rfl, rfl⟩
  refine entered.bind fun _ => Keeps.get.bind fun _ => (keeps_ofExcept _).bind fun pdu => ?_
  refine (write_keepsDatabase central pdu).bind fun _ => ?_
  split
  · exact setMtu_keepsDatabase central defaultMtu
  · split
    · exact setMtu_keepsDatabase central _
    · exact Keeps.pure _

end Keeping

section Guarded

variable {host : Host} {central : CentralRef} {world : World}

/-- The bit of the properties that `doWrite` looks at. -/
theorem permitsWrite_iff (attrib : Attribute) (respond : Bool) :
    attrib.permitsWrite respond = true ↔
      attrib.properties &&& (if respond then propertyWrite else propertyWriteWithoutResp) ≠ 0 := by
  cases respond <;> simp [Attribute.permitsWrite]

theorem doWrite_guarded (host : Host) (central : CentralRef) (own : AtOwnHandles world)
    {pdu : Buffer} {handle : Nat} (small : handle ≤ 0xFFFF) (value : Buffer) {respond : Bool}
    (names : Names pdu handle (if respond then propertyWrite else propertyWriteWithoutResp)) :
    Guarded world (after (doWrite host central handle value respond) world) pdu := by
  cases target : writeTarget world handle respond with
  | none =>
    have refused := doWrite_refused host central small value target
    exact refused.sameDatabase.guarded pdu
  | some ref =>
    rcases Option.filter_eq_some_iff.mp target with ⟨found, permits⟩
    have may : MayWrite world ref pdu :=
      ⟨handle, _, names, own handle ref found, found, (permitsWrite_iff _ _).mp permits⟩
    rcases doWrite_permitted host central value target with ⟨_, answer, calls, left, _, _, only⟩
    have pushes := setValue_buffer_pushes host world ref value
    have attrib := doWrite_attrib host central value target
    have others : ∀ other, other ≠ ref →
        (after (doWrite host central handle value respond) world).attrib other =
          world.attrib other := by
      intro other different
      rw [attrib]
      exact Function.update_of_ne different _ _
    have table : (after (doWrite host central handle value respond) world).handles =
        world.handles := by
      rw [left]
      exact pushes.handles
    have allocated : (after (doWrite host central handle value respond) world).allocated =
        world.allocated := by
      rw [left]
      exact pushes.allocated
    have called : (after (doWrite host central handle value respond) world).writeCalls =
        world.writeCalls ++ calls := by
      rw [left]
      exact congrArg (· ++ calls) pushes.writeCalls
    have permitted_calls : ∀ other ∈ calls, MayWrite world other pdu := by
      intro other member
      rw [only other member]
      exact may
    have refused : (∀ other, ¬ MayWrite world other pdu) →
        SameDatabase world (after (doWrite host central handle value respond) world) := by
      intro none_may
      exact absurd may (none_may ref)
    apply Guarded.mk table allocated ?_ ?_ ⟨calls, called, permitted_calls⟩ refused
    · intro other
      by_cases same : other = ref
      · subst same
        rw [attrib]
        simp [World.assigned, World.setAttribute]
      · rw [others other same]
    · intro other changed
      by_cases same : other = ref
      · subst same
        exact may
      · exact absurd (by rw [others other same]) changed

theorem write_field_guarded (own : AtOwnHandles world) {opcode : UInt8} {data : Buffer}
    {respond : Bool}
    (writes : opcode = opWriteRequest ∧ respond = true ∨ opcode = opWriteCmd ∧ respond = false) :
    Guarded world (after (Js.ofExcept (Buffer.readUInt16LE data 0) >>= fun handle =>
      doWrite host central handle (data.drop 2) respond) world) (opcode :: data) := by
  by_cases long : 2 ≤ data.length
  · have ran := field_read (show 0 + 1 < data.length by omega)
      (fun handle => doWrite host central handle (data.drop 2) respond) world
    rw [after_congr ran]
    apply doWrite_guarded host central own (word_small data 0)
    rcases writes with ⟨rfl, rfl⟩ | ⟨rfl, rfl⟩
    · exact ⟨data, long, rfl, .inl ⟨rfl, rfl⟩⟩
    · exact ⟨data, long, rfl, .inr ⟨rfl, rfl⟩⟩
  · obtain ⟨_, left⟩ := threw _ world (field_missing (show data.length ≤ 0 + 1 by omega)
      (fun handle => doWrite host central handle (data.drop 2) respond) world)
    rw [left]
    exact SameDatabase.guarded (Std.Refl.refl world) _

theorem Handler.call_sameDatabase (host : Host) (central : CentralRef) (data : Buffer)
    {handler : Handler} (request : handler ≠ .write) (command : handler ≠ .writeCmd) :
    Keeps SameDatabase (handler.call host central data) := by
  intro world
  cases handler with
  | error => exact handleError_keepsDatabase central data world
  | mtu => exact handleMtu_keepsDatabase host central data world
  | findInfo => exact (handleFindInfo_settles host central data world).sameDatabase
  | findByType => exact (handleFindByType_settles host central data world).sameDatabase
  | readByType => exact (handleReadByType_settles host central data world).sameDatabase
  | read => exact (handleRead_settles host central data world).sameDatabase
  | readBlob =>
    rw [call, (handleReadBlob_outcome data world).2]
    exact Std.Refl.refl world
  | readMulti =>
    rw [call, (handleReadMulti_outcome data world).2]
    exact Std.Refl.refl world
  | readByGroup => exact (handleReadByGroup_settles host central data world).sameDatabase
  | write => exact absurd rfl request
  | writeCmd => exact absurd rfl command
  | valueConfirm => exact ⟨rfl, rfl, rfl, rfl⟩

theorem Handler.call_guarded (host : Host) (central : CentralRef) (own : AtOwnHandles world)
    {opcode : UInt8} (data : Buffer) {handler : Handler}
    (looked : handlers.lookup opcode = some handler) :
    Guarded world (after (handler.call host central data) world) (opcode :: data) := by
  by_cases request : handler = .write
  · subst request
    have opcode_write : opcode = opWriteRequest := opcode_of_lookup (by decide) looked
    exact write_field_guarded own (.inl ⟨opcode_write, rfl⟩)
  · by_cases command : handler = .writeCmd
    · subst command
      have opcode_command : opcode = opWriteCmd := opcode_of_lookup (by decide) looked
      exact write_field_guarded own (.inr ⟨opcode_command, rfl⟩)
    · exact (Handler.call_sameDatabase host central data request command world).guarded _

theorem createHandler_guarded (host : Host) (central : CentralRef) (own : AtOwnHandles world)
    (pdu : Buffer) : Guarded world (after (createHandler host central pdu) world) pdu := by
  cases pdu with
  | nil => exact (unsupported_settles host central 0 world).sameDatabase.guarded _
  | cons opcode data =>
    unfold createHandler
    dsimp only
    cases looked : handlers.lookup opcode with
    | none => exact (unsupported_settles host central opcode world).sameDatabase.guarded _
    | some handler => exact handler.call_guarded host central own data looked

theorem Guarded.atOwnHandles {next : World} {pdu : Buffer} (guarded : Guarded world next pdu)
    (own : AtOwnHandles world) : AtOwnHandles next := by
  intro handle ref taken
  rw [guarded.table] at taken
  rw [guarded.fields ref]
  exact own handle ref taken

end Guarded

/-- The handlers made for the centrals are given PDUs, in any order. -/
def handlerStep (host : Host) : Step World (CentralRef × Buffer) (CentralRef × Buffer) Empty :=
  fun world given =>
    .ok (after (createHandler host given.1 given.2) world,
      written (createHandler host given.1 given.2) world)

theorem handlerStep_guarded (host : Host) {world next : World} {given : CentralRef × Buffer}
    {out : List (CentralRef × Buffer)} (own : AtOwnHandles world)
    (stepped : handlerStep host world given = .ok (next, out)) : Guarded world next given.2 := by
  cases stepped
  exact createHandler_guarded host given.1 own given.2

/-- Over any run an attribute gets a value only from a write that names it and that it permits;
    nothing else about the database ever changes. -/
theorem writes_controlled (host : Host) (world : World) (own : AtOwnHandles world)
    (given : List (CentralRef × Buffer)) :
    ∀ taken ∈ visited (handlerStep host) world given, ∀ next out,
      handlerStep host taken.1 taken.2 = .ok (next, out) → Guarded taken.1 next taken.2.2 := by
  have preserves : Preserves (handlerStep host) AtOwnHandles := by
    intro world given next out own stepped
    exact (handlerStep_guarded host own stepped).atOwnHandles own
  intro taken member next out stepped
  have own_then : AtOwnHandles taken.1 := visited_preserves preserves own taken member
  exact handlerStep_guarded host own_then stepped

/-- One attribute at handle 1, which takes write requests. -/
def notepad : World :=
  after (do
    let ref ← createAttribute plainHost none (.buffer [0]) (some 1) none
    modify fun world => world.setAttribute ref
      { world.attrib ref with properties := propertyWrite, writeCallback := true } : Js Unit) .initial

theorem notepad_own : AtOwnHandles notepad := by
  intro handle ref taken
  match handle with
  | 0 => cases taken
  | 1 =>
    cases taken
    rfl
  | _ + 2 => cases taken

theorem notepad_writes_controlled :
    AtOwnHandles notepad ∧ ∀ taken ∈ visited (handlerStep plainHost) notepad
      [(0, [opWriteRequest, 1, 0, 7]), (0, [opWriteCmd, 1, 0, 8])], ∀ next out,
      handlerStep plainHost taken.1 taken.2 = .ok (next, out) → Guarded taken.1 next taken.2.2 :=
  ⟨notepad_own, writes_controlled plainHost notepad notepad_own _⟩

end Btle.Server

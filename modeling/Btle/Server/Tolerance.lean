import Btle.Server.Outcomes

namespace Btle.Server

open Throwing

section Tolerance

variable (host : Host) (central : CentralRef) (world : World)

def Takes (length : Nat) : Prop := length ≤ (world.central central).mtu.toNat

def ToleratesWrite (data : Buffer) (respond : Bool) : Prop :=
  2 ≤ data.length ∧
    match writeTarget world (word data 0) respond with
    | none => Takes central world 5
    | some ref => TakesValue host world ref (data.drop 2) ∧ (respond = true → Takes central world 1)

/-- What a handler can bear to be given: all its fields, and a database that can be reported in a
    PDU that the central takes. -/
def Handler.Tolerates (data : Buffer) : Handler → Prop
  | .error => 4 ≤ data.length
  | .mtu => 2 ≤ data.length ∧ Takes central world 3
  | .findInfo => FindInfoAnswers world data (Takes central world)
  | .findByType => FindByTypeAnswers host world data (Takes central world)
  | .readByType => ReadByTypeAnswers host world data (Takes central world)
  | .read => 2 ≤ data.length ∧ Takes central world 5
  | .readBlob => 4 ≤ data.length
  | .readMulti => data.length % 2 = 0
  | .readByGroup => ReadByGroupAnswers host world data (Takes central world)
  | .write => ToleratesWrite host central world data true
  | .writeCmd => ToleratesWrite host central world data false
  | .valueConfirm => True

/-- An opcode that no handler is for makes an ERROR, and so does no opcode at all. -/
def Tolerated (pdu : Buffer) : Prop :=
  match pdu with
  | [] => Takes central world 5
  | opcode :: data =>
    match handlers.lookup opcode with
    | some handler => handler.Tolerates host central world data
    | none => Takes central world 5

variable {host central world}

theorem handleMtu_returns {data : Buffer} :
    Returns (handleMtu host central data) world ↔ 2 ≤ data.length ∧ Takes central world 3 := by
  by_cases long : 2 ≤ data.length
  · rw [(handleMtu_outcome host central data world long).1, and_iff_right long]
    rfl
  · obtain ⟨stopped, _⟩ := threw (handleMtu host central data) world
      (field_missing (by omega) _ world)
    exact iff_of_false stopped fun both => long both.1

theorem doWrite_returns {handle : Nat} (small : handle ≤ 0xFFFF) {value : Buffer} {respond : Bool} :
    Returns (doWrite host central handle value respond) world ↔
      match writeTarget world handle respond with
      | none => Takes central world 5
      | some ref => TakesValue host world ref value ∧ (respond = true → Takes central world 1) := by
  cases target : writeTarget world handle respond with
  | none => exact (doWrite_refused host central small value target).returns
  | some ref => exact (doWrite_permitted host central value target).1

theorem write_field_returns {data : Buffer} {respond : Bool} :
    Returns (Js.ofExcept (Buffer.readUInt16LE data 0) >>= fun handle =>
      doWrite host central handle (data.drop 2) respond) world ↔
      ToleratesWrite host central world data respond := by
  by_cases long : 2 ≤ data.length
  · have ran := field_read (show 0 + 1 < data.length by omega)
      (fun handle => doWrite host central handle (data.drop 2) respond) world
    rw [ToleratesWrite, and_iff_right long, Returns, ran]
    exact doWrite_returns (word_small data 0)
  · obtain ⟨stopped, _⟩ := threw _ world (field_missing (show data.length ≤ 0 + 1 by omega)
      (fun handle => doWrite host central handle (data.drop 2) respond) world)
    exact iff_of_false stopped fun both => long both.1

theorem Handler.call_returns (handler : Handler) {data : Buffer} :
    Returns (handler.call host central data) world ↔ handler.Tolerates host central world data := by
  cases handler with
  | error => exact (handleError_outcome central data world).1
  | mtu => exact handleMtu_returns
  | findInfo => exact (handleFindInfo_settles host central data world).returns
  | findByType => exact (handleFindByType_settles host central data world).returns
  | readByType => exact (handleReadByType_settles host central data world).returns
  | read => exact (handleRead_settles host central data world).returns
  | readBlob => exact (handleReadBlob_outcome data world).1
  | readMulti => exact (handleReadMulti_outcome data world).1
  | readByGroup => exact (handleReadByGroup_settles host central data world).returns
  | write => exact write_field_returns
  | writeCmd => exact write_field_returns
  | valueConfirm => exact iff_of_true trivial trivial

end Tolerance

theorem createHandler_tolerates {host : Host} {central : CentralRef} {world : World} (pdu : Buffer) :
    Returns (createHandler host central pdu) world ↔ Tolerated host central world pdu := by
  unfold createHandler Tolerated
  cases pdu with
  | nil => exact (unsupported_settles host central 0 world).returns
  | cons opcode data =>
    dsimp only
    cases handlers.lookup opcode with
    | none => exact (unsupported_settles host central opcode world).returns
    | some handler => exact handler.call_returns

/-- The handler returns exactly on what it tolerates; the database, the MTU and the listeners have
    as much of a say in that as the bytes received. -/
theorem createHandler_returns_iff (host : Host) (central : CentralRef) (world : World)
    (pdu : Buffer) :
    Returns (createHandler host central pdu) world ↔ Tolerated host central world pdu :=
  createHandler_tolerates pdu

theorem truncated_read_throws : ¬ Returns (createHandler plainHost 0 [opReadRequest]) .initial :=
  not_false

end Btle.Server

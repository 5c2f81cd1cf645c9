import Btle.Server.Outcomes

namespace Btle.Server

open Throwing

inductive PduKind
  | error
  | mtuRequest
  | findInfoRequest
  | findByTypeRequest
  | readByTypeRequest
  | readRequest
  | readBlobRequest
  | readMultiRequest
  | readByGroupRequest
  | writeRequest
  | prepWriteRequest
  | execWriteRequest
  | writeCmd
  | signedWriteCmd
  | valueConfirm
  deriving DecidableEq, Repr

namespace PduKind

def opcode : PduKind → UInt8
  | error => opError
  | mtuRequest => opMtuRequest
  | findInfoRequest => opFindInfoRequest
  | findByTypeRequest => opFindByTypeRequest
  | readByTypeRequest => opReadByTypeRequest
  | readRequest => opReadRequest
  | readBlobRequest => opReadBlobRequest
  | readMultiRequest => opReadMultiRequest
  | readByGroupRequest => opReadByGroupRequest
  | writeRequest => opWriteRequest
  | prepWriteRequest => opPrepWriteRequest
  | execWriteRequest => opExecWriteRequest
  | writeCmd => opWriteCmd
  | signedWriteCmd => opSignedWriteCmd
  | valueConfirm => opHandleValueConfirm

def response : PduKind → Option UInt8
  | mtuRequest => some opMtuResponse
  | findInfoRequest => some opFindInfoResponse
  | findByTypeRequest => some opFindByTypeResponse
  | readByTypeRequest => some opReadByTypeResponse
  | readRequest => some opReadResponse
  | readBlobRequest => some opReadBlobResponse
  | readMultiRequest => some opReadMultiResponse
  | readByGroupRequest => some opReadByGroupResponse
  | writeRequest => some opWriteResponse
  | prepWriteRequest => some opPrepWriteResponse
  | execWriteRequest => some opExecWriteResponse
  | error | writeCmd | signedWriteCmd | valueConfirm => none

/-- How many bytes may follow the opcode: the fields, a value of any length, a type of 2 or 16
    bytes, two handles or more, a signature. -/
def WellSized (size : Nat) : PduKind → Prop
  | error => size = 4
  | mtuRequest => size = 2
  | findInfoRequest => size = 4
  | findByTypeRequest => 6 ≤ size
  | readByTypeRequest | readByGroupRequest => size = 6 ∨ size = 20
  | readRequest => size = 2
  | readBlobRequest => size = 4
  | readMultiRequest => 4 ≤ size ∧ size % 2 = 0
  | writeRequest | writeCmd => 2 ≤ size
  | prepWriteRequest => 4 ≤ size
  | execWriteRequest => size = 1
  | signedWriteCmd => 14 ≤ size
  | valueConfirm => size = 0

end PduKind

def IsPushed (pdu : Buffer) : Prop :=
  pdu.head? = some opHandleNotify ∨ pdu.head? = some opHandleIndicate

instance (pdu : Buffer) : Decidable (IsPushed pdu) := inferInstanceAs (Decidable (_ ∨ _))

/-- What a program sends to a central, but for notifications and indications. -/
def answers (program : Js Unit) (central : CentralRef) (world : World) : List Buffer :=
  ((written program world).filter fun entry => entry.1 = central ∧ ¬ IsPushed entry.2).map Prod.snd

/-- A request is answered by one PDU, the matching response or an ERROR that names it; nothing else
    is answered. -/
def AnsweredOnce (host : Host) (central : CentralRef) (world : World) (kind : PduKind)
    (data : Buffer) : Prop :=
  match kind.response with
  | some response => ∃ answer,
      answers (createHandler host central (kind.opcode :: data)) central world = [answer] ∧
        (answer.head? = some response ∨ IsError kind.opcode answer)
  | none => answers (createHandler host central (kind.opcode :: data)) central world = []

/-- The requests that are answered whatever the database is, those that need one that can be
    reported, and those that never are; commands that are carried out are not. -/
def Answerable (host : Host) (world : World) (data : Buffer) : PduKind → Prop
  | .mtuRequest | .readRequest | .prepWriteRequest | .execWriteRequest => True
  | .findInfoRequest => FindInfoAnswers world data (0 < ·)
  | .findByTypeRequest => FindByTypeAnswers host world data (0 < ·)
  | .readByTypeRequest => ReadByTypeAnswers host world data (0 < ·)
  | .readByGroupRequest => ReadByGroupAnswers host world data (0 < ·)
  | .readBlobRequest | .readMultiRequest => False
  | .writeRequest => ∀ ref, writeTarget world (word data 0) true = some ref →
      TakesValue host world ref (data.drop 2)
  | .writeCmd => writeTarget world (word data 0) false ≠ none
  | .signedWriteCmd => False
  | .error | .valueConfirm => True

section Answers

variable {program : Js Unit} {central : CentralRef} {world : World}

theorem answers_of_sent {added : List (CentralRef × Buffer)}
    (sent : (after program world).sent = world.sent ++ added) :
    answers program central world =
      (added.filter fun entry => entry.1 = central ∧ ¬ IsPushed entry.2).map Prod.snd := by
  rw [answers, written_of_sent sent]

theorem answers_none (sent : (after program world).sent = world.sent) :
    answers program central world = [] :=
  answers_of_sent (sent.trans (List.append_nil _).symm)

theorem answers_one {pdu : Buffer} (sent : (after program world).sent = world.sent ++ [(central, pdu)])
    (answer : ¬ IsPushed pdu) : answers program central world = [pdu] := by
  rw [answers_of_sent sent]
  simp [answer]

theorem IsError.not_pushed {request : UInt8} {pdu : Buffer} (error : IsError request pdu) :
    ¬ IsPushed pdu := by
  rcases error with ⟨_, first, _⟩
  rw [IsPushed, List.head?_eq_getElem?, first]
  decide

theorem IsReply.answers_iff {request response : UInt8} {mtuSize : UInt16} {pdu : Buffer}
    (reply : IsReply request response mtuSize pdu) :
    (pdu.head? = some response ∨ IsError request pdu) ↔ 0 < pdu.length := by
  rcases reply with error | ⟨_, opcode⟩
  · exact iff_of_true (.inr error) (by rw [error.1]; decide)
  · rw [List.length_pos_iff]
    constructor
    · intro reply empty
      subst empty
      rcases reply with head | error
      · cases head
      · cases error.1
    · exact fun some_bytes => .inl (opcode some_bytes)

theorem IsReply.not_pushed {request response : UInt8} {mtuSize : UInt16} {pdu : Buffer}
    (reply : IsReply request response mtuSize pdu)
    (other : response ≠ opHandleNotify ∧ response ≠ opHandleIndicate) : ¬ IsPushed pdu := by
  rcases reply with error | ⟨_, opcode⟩
  · exact error.not_pushed
  · by_cases empty : pdu = []
    · subst empty
      decide
    · rw [IsPushed, opcode empty]
      simpa using other

theorem Settles.answered {request response : UInt8} {mtuSize : UInt16}
    {condition : (Nat → Prop) → Prop}
    (settles : Settles program central world (IsReply request response mtuSize) condition)
    (other : response ≠ opHandleNotify ∧ response ≠ opHandleIndicate) :
    (∃ answer, answers program central world = [answer] ∧
      (answer.head? = some response ∨ IsError request answer)) ↔ condition (0 < ·) := by
  rcases settles.sent with ⟨same, never⟩ | ⟨pdu, sent, reply, exactly⟩
  · rw [answers_none same]
    exact iff_of_false (by simp) (never _)
  · rw [answers_one sent (reply.not_pushed other), exactly, ← reply.answers_iff]
    simp

theorem Settles.refused {request : UInt8} {condition : (Nat → Prop) → Prop}
    (settles : Settles program central world (IsError request) condition)
    (wanted : condition fun _ => True) (response : UInt8) :
    ∃ answer, answers program central world = [answer] ∧
      (answer.head? = some response ∨ IsError request answer) := by
  rcases settles.sent with ⟨_, never⟩ | ⟨pdu, sent, error, _⟩
  · exact absurd wanted (never _)
  · exact ⟨pdu, answers_one sent error.not_pushed, .inr error⟩

theorem not_silent {property : Buffer → Prop}
    (answered : ∃ answer, answers program central world = [answer] ∧ property answer) :
    answers program central world ≠ [] := by
  rcases answered with ⟨answer, one, _⟩
  rw [one]
  exact List.cons_ne_nil _ _

theorem answers_pushed (world : World) {start next : World} {answer : List (CentralRef × Buffer)}
    {writeCalls : List AttrRef} (pushes : Pushes start next) (same : start.sent = world.sent)
    (left : after program world = { next with sent := next.sent ++ answer, writeCalls }) :
    answers program central world =
      (answer.filter fun entry => entry.1 = central ∧ ¬ IsPushed entry.2).map Prod.snd := by
  rcases pushes.sent with ⟨pushed, sent, each⟩
  have whole : (after program world).sent = world.sent ++ (pushed ++ answer) := by
    rw [left, sent, same, List.append_assoc]
  have silent : pushed.filter (fun entry => entry.1 = central ∧ ¬ IsPushed entry.2) = [] := by
    rw [List.filter_eq_nil_iff]
    intro entry member chosen
    exact (of_decide_eq_true chosen).2 (each entry member).1
  rw [answers_of_sent whole, List.filter_append, silent, List.nil_append]

end Answers

section Writes

variable {host : Host} {central : CentralRef} {world : World} {data : Buffer}

theorem write_field_answers (long : 2 ≤ data.length) (respond : Bool) :
    answers (Js.ofExcept (Buffer.readUInt16LE data 0) >>= fun handle =>
      doWrite host central handle (data.drop 2) respond) central world =
    answers (doWrite host central (word data 0) (data.drop 2) respond) central world := by
  have ran := field_read (show 0 + 1 < data.length by omega)
    (fun handle => doWrite host central handle (data.drop 2) respond) world
  rw [answers, answers, written, written, after_congr ran]

theorem write_answered (long : 2 ≤ data.length) :
    (∃ answer, answers (handleWrite host central data) central world = [answer] ∧
      (answer.head? = some opWriteResponse ∨ IsError opWriteRequest answer)) ↔
    ∀ ref, writeTarget world (word data 0) true = some ref →
      TakesValue host world ref (data.drop 2) := by
  have same : answers (handleWrite host central data) central world =
      answers (doWrite host central (word data 0) (data.drop 2) true) central world :=
    write_field_answers long true
  rw [same]
  cases target : writeTarget world (word data 0) true with
  | none =>
    have refused := doWrite_refused host central (word_small data 0) (data.drop 2) target
    exact iff_of_true (refused.refused trivial opWriteResponse) (by simp)
  | some ref =>
    rcases doWrite_permitted host central (data.drop 2) target with ⟨_, answer, calls, left, taken, stuck, _⟩
    rw [answers_pushed world (setValue_buffer_pushes host world ref _) rfl left]
    by_cases takes : TakesValue host world ref (data.drop 2)
    · rw [taken ⟨rfl, takes⟩]
      have response : ¬ IsPushed [opWriteResponse] := by decide
      refine iff_of_true ⟨[opWriteResponse], by simp [response], .inl rfl⟩ fun other found => ?_
      exact Option.some.inj found ▸ takes
    · rw [stuck fun both => takes both.2]
      exact iff_of_false (by simp) fun every => takes (every ref rfl)

theorem writeCmd_silent (long : 2 ≤ data.length) :
    answers (handleWriteCmd host central data) central world = [] ↔
      writeTarget world (word data 0) false ≠ none := by
  have same : answers (handleWriteCmd host central data) central world =
      answers (doWrite host central (word data 0) (data.drop 2) false) central world :=
    write_field_answers long false
  rw [same]
  cases target : writeTarget world (word data 0) false with
  | none =>
    have refused := doWrite_refused host central (word_small data 0) (data.drop 2) target
    exact iff_of_false (not_silent (refused.refused trivial opWriteResponse)) (by simp)
  | some ref =>
    rcases doWrite_permitted host central (data.drop 2) target with ⟨_, answer, calls, left, _, stuck, _⟩
    rw [answers_pushed world (setValue_buffer_pushes host world ref _) rfl left,
      stuck (by simp)]
    exact iff_of_true rfl (by simp)

end Writes

/-- Requests are answered once, and only they, exactly where the handlers find what they need: READ
    BLOB and READ MULTIPLE have no answer, a signed or refused command has one. -/
theorem answered_once_iff (host : Host) (central : CentralRef) (world : World) (kind : PduKind)
    (data : Buffer) (sized : kind.WellSized data.length) :
    AnsweredOnce host central world kind data ↔ Answerable host world data kind := by
  cases kind with
  | error => exact iff_of_true (answers_none (handleError_outcome central data world).2) trivial
  | mtuRequest =>
    have answer := handleMtu_sent host central world sized.ge
    refine iff_of_true ⟨_, answers_one answer ?_, .inl (mtuResponse_head _)⟩ trivial
    rw [IsPushed, mtuResponse_head]
    decide
  | findInfoRequest =>
    exact (handleFindInfo_settles host central data world).answered (by decide)
  | findByTypeRequest =>
    exact (handleFindByType_settles host central data world).answered (by decide)
  | readByTypeRequest =>
    exact (handleReadByType_settles host central data world).answered (by decide)
  | readRequest =>
    have refused := handleRead_settles host central data world
    exact iff_of_true (refused.refused ⟨sized.ge, trivial⟩ opReadResponse) trivial
  | readBlobRequest =>
    have silent : answers (handleReadBlob data) central world = [] :=
      answers_none (by rw [(handleReadBlob_outcome data world).2])
    exact iff_of_false (fun answered => not_silent answered silent) not_false
  | readMultiRequest =>
    have silent : answers (handleReadMulti data) central world = [] :=
      answers_none (by rw [(handleReadMulti_outcome data world).2])
    exact iff_of_false (fun answered => not_silent answered silent) not_false
  | readByGroupRequest =>
    exact (handleReadByGroup_settles host central data world).answered (by decide)
  | writeRequest => exact write_answered sized
  | prepWriteRequest =>
    have refused := unsupported_settles host central opPrepWriteRequest world
    exact iff_of_true (refused.refused trivial opPrepWriteResponse) trivial
  | execWriteRequest =>
    have refused := unsupported_settles host central opExecWriteRequest world
    exact iff_of_true (refused.refused trivial opExecWriteResponse) trivial
  | writeCmd => exact writeCmd_silent sized
  | signedWriteCmd =>
    have refused := unsupported_settles host central opSignedWriteCmd world
    exact iff_of_false (not_silent (refused.refused trivial opError)) not_false
  | valueConfirm => exact iff_of_true (answers_none rfl) trivial

theorem readBlob_unanswered :
    PduKind.readBlobRequest.WellSized 4 ∧
      ¬ AnsweredOnce plainHost 0 .initial .readBlobRequest [1, 0, 0, 0] := by
  refine ⟨rfl, ?_⟩
  intro answered
  rcases answered with ⟨answer, one, _⟩
  cases one

theorem answered_once_iff_sample :
    AnsweredOnce plainHost 0 .initial .readRequest [1, 0] ↔
      Answerable plainHost .initial [1, 0] .readRequest :=
  answered_once_iff plainHost 0 .initial .readRequest [1, 0] rfl

end Btle.Server

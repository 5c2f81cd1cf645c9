import Btle.Library.Duplex
import Btle.Client.Asking
import Btle.Wire.Serving

namespace Btle.Wire

open Duplex Machine Server Throwing

/-- What ends a session: the client runs into undefined behaviour, or nobody catches what a handler of
    the server throws. -/
inductive Stop
  | fault (fault : Client.Fault)
  | uncaught (thrown : JsError)

/-- `PeripheralInterface` has no method for `writeRequest`. -/
abbrev Exposed := {call : Client.Call // ∀ handle value, call ≠ .writeRequest handle value}

/-- What may happen on the server beside what comes in from the one central. -/
def Elsewhere (central : CentralRef) : LinkEvent → Prop
  | .connect target _ | .data target _ => target ≠ central
  | .setValue _ _ | .enableNotifications _ _ | .disableNotifications _ | .enableIndications _ _
  | .disableIndications _ => True

abbrev LocalEvent (central : CentralRef) := {event : LinkEvent // Elsewhere central event}

/-- The application enables no indications for the central. The client would take one for the answer
    to what it asked. -/
def Unindicating {central : CentralRef} (event : LocalEvent central) : Prop :=
  ∀ ref, event.val ≠ .enableIndications ref central

def LeavesQuiet {central : CentralRef} (actions : List (Action Exposed (LocalEvent central))) : Prop :=
  ∀ action ∈ actions, Allows Unindicating action

def written? : Client.Effect → Option Buffer
  | .write pdu => some pdu
  | .attrListCb .. | .readAttrCb .. | .notification .. | .errorHandler .. => none

def clientDone : Client.Result → Except Stop (Client.Att × List Buffer × List Client.Effect)
  | .error fault => .error (.fault fault)
  | .ok (att, out) => .ok (att, out.filterMap written?, out)

def client : Peer Client.Att Exposed Buffer Client.Effect Stop where
  act att call := clientDone (att.perform call.val)
  take att pdu := clientDone (Client.step att (.received pdu))

/-- `Central::onRead`: no bytes make no event. -/
def onRead (host : Host) (central : CentralRef) : Buffer → Js Unit
  | [] => pure ()
  | opcode :: data => createHandler host central (opcode :: data)

/-- The server, as one central sees it. An exception out of a handler ends the process unless the
    application listens to 'uncaughtException'. -/
def serverDone (catches : Bool) (central : CentralRef) (program : Js Unit) (world : World) :
    Except Stop (World × List Buffer × List JsError) :=
  match program.run world with
  | .ok _ next => .ok (next, receivedBy central (written program world), [])
  | .error thrown next =>
    if catches then .ok (next, receivedBy central (written program world), [thrown])
    else .error (.uncaught thrown)

def server (host : Host) (central : CentralRef) (catches : Bool) :
    Peer World (LocalEvent central) Buffer JsError Stop where
  act world event := serverDone catches central (linkProgram host event.val) world
  take world pdu := serverDone catches central (onRead host central pdu) world

/-- The client and the server of this repository, and the packets between them. -/
abbrev Session := Duplex.Link Client.Att World Buffer

abbrev Seen := Sight Buffer Client.Effect JsError

def sessionStep (host : Host) (central : CentralRef) (catches : Bool) :
    Step Session (Action Exposed (LocalEvent central)) Seen Stop :=
  Duplex.step client (server host central catches)

def Session.start (connection : Client.Connection) (world : World) : Session where
  left := .new connection
  right := world
  toRight := []
  toLeft := []

def IsCommand (pdu : Buffer) : Prop := Client.OfKind Client.attOpWriteCmd pdu

section Ends

variable {host : Host} {central : CentralRef} {catches : Bool}

theorem clientDone_ok {result : Client.Result} {att : Client.Att} {pdus : List Buffer}
    {out : List Client.Effect} (done : clientDone result = .ok (att, pdus, out)) :
    result = .ok (att, out) ∧ pdus = out.filterMap written? := by
  cases result with
  | error fault => cases done
  | ok result =>
    cases done
    exact ⟨rfl, rfl⟩

theorem serverDone_ok {program : Js Unit} {world next : World} {pdus : List Buffer}
    {thrown : List JsError} (done : serverDone catches central program world = .ok (next, pdus, thrown)) :
    next = after program world ∧ pdus = receivedBy central (written program world) := by
  unfold serverDone at done
  cases ran : program.run world with
  | ok value last =>
    simp only [ran] at done
    cases done
    exact ⟨(after_ok ran).symm, rfl⟩
  | error error last =>
    simp only [ran] at done
    split at done
    · cases done
      exact ⟨(after_error ran).symm, rfl⟩
    · cases done

theorem receivedBy_written {program : Js Unit} {world : World} {pushed : List (CentralRef × Buffer)}
    (sent : (after program world).sent = world.sent ++ pushed) :
    receivedBy central (written program world) = receivedBy central pushed := by
  rw [written_of_sent sent]

/-- What a program that spares the central sends it is foreign. -/
theorem spares_done {program : Js Unit} {world : World} (spares : Keeps (Spares central) program)
    (quiet : Unindicated central world) : Unindicated central (after program world) ∧
      ∀ pdu ∈ receivedBy central (written program world), IsForeign pdu := by
  obtain ⟨still, pushed, sent, each⟩ := spares world quiet
  refine ⟨still, fun pdu member => ?_⟩
  rw [receivedBy_written sent] at member
  exact each _ (mem_receivedBy.mp member) rfl

theorem linkProgram_spares (host : Host) {event : LocalEvent central} (unindicating : Unindicating event) :
    Keeps (Spares central) (linkProgram host event.val) := by
  obtain ⟨event, elsewhere⟩ := event
  cases event with
  | connect target mtu => exact Keeps.modify fun _ => spares_silent rfl fun _ => rfl
  | data target pdu => exact createHandler_spares host elsewhere pdu
  | setValue ref value => exact setValue_spares host ref value
  | enableNotifications ref target => exact enableNotifications_spares host ref target
  | disableNotifications ref => exact disableNotifications_spares ref
  | enableIndications ref target =>
    have other : target ≠ central :=
      fun same => unindicating ref (congrArg (LinkEvent.enableIndications ref) same)
    exact enableIndications_spares host ref other
  | disableIndications ref => exact disableIndications_spares ref

/-- A command is carried out, or refused with an error that names a write. -/
theorem command_spares (host : Host) {pdu : Buffer} (command : IsCommand pdu) :
    Keeps (Spares central) (onRead host central pdu) := by
  rcases command with rfl | head
  · exact Keeps.pure ()
  · obtain ⟨data, rfl⟩ := List.head?_eq_some_iff.mp head
    exact writeCmd_spares host central data

theorem onRead_silent (host : Host) (central : CentralRef) (world : World) :
    written (onRead host central []) world = [] := List.drop_length

/-- A request is answered with one PDU, or with none. -/
theorem request_answers (host : Host) (central : CentralRef) {world : World}
    (quiet : Unindicated central world) {request : UInt8} (reads : request ∈ readRequests) {pdu : Buffer}
    (kind : Client.OfKind request pdu) : Unindicated central (after (onRead host central pdu) world) ∧
      (receivedBy central (written (onRead host central pdu) world) = [] ∨
        ∃ answer, receivedBy central (written (onRead host central pdu) world) = [answer] ∧
          IsAnswerTo request answer) := by
  rcases kind with rfl | head
  · refine ⟨quiet, .inl ?_⟩
    exact congrArg (receivedBy central) (onRead_silent host central world)
  · obtain ⟨data, rfl⟩ := List.head?_eq_some_iff.mp head
    obtain ⟨condition, settles⟩ := readRequest_settles host central world reads data
    obtain ⟨uuids, sent, left⟩ := settles.left
    have still : Unindicated central (after (onRead host central (request :: data)) world) := by
      show Unindicated central (after (createHandler host central (request :: data)) world)
      rw [left]
      exact quiet
    refine ⟨still, ?_⟩
    rcases settles.sent with ⟨silent, _⟩ | ⟨answer, wrote, is_answer, _⟩
    · left
      show receivedBy central (written (createHandler host central (request :: data)) world) = []
      rw [receivedBy_written (silent.trans (List.append_nil _).symm)]
      rfl
    · right
      refine ⟨answer, ?_, is_answer⟩
      show receivedBy central (written (createHandler host central (request :: data)) world) = [answer]
      rw [receivedBy_written wrote]
      simp [receivedBy]

theorem coherent_reads {rd : Client.ReadData} (coherent : rd.Coherent) : rd.request ∈ readRequests := by
  rw [coherent.request]
  cases rd.callback <;> decide

end Ends

section Client

variable {att next : Client.Att} {out : List Client.Effect}

theorem written_none {effect : Client.Effect} {data : Nat} (answered : effect.answered = some data) :
    written? effect = none := by
  cases effect with
  | write pdu => cases answered
  | attrListCb | readAttrCb | notification | errorHandler => rfl

/-- What is foreign is handled without a word, and leaves the slot as it is. -/
theorem foreign_untouched (coherent : Client.Coherent att) {pdu : Buffer} (foreign : IsForeign pdu) :
    ∃ next out, Client.step att (.received pdu) = .ok (next, out) ∧ Client.Untouched att next out := by
  rcases foreign with ⟨kind, complete⟩ | ⟨length, first, second⟩
  · exact Client.notification_untouched att kind complete
  · rw [← List.head?_eq_getElem?] at first
    obtain ⟨request, low, high, errorCode, rest, rfl⟩ := Client.error_shape first length.ge
    cases Option.some.inj second
    have other : att.currentRequest.map Client.ReadData.request ≠ some opWriteRequest := by
      intro same
      obtain ⟨rd, pending, request⟩ := Option.map_eq_some_iff.mp same
      have reads := coherent_reads (coherent rd pending)
      rw [request] at reads
      revert reads
      decide
    rw [Client.step_received_error]
    simp only [if_neg other]
    exact Client.reportError_untouched _ _

theorem untouched_unwritten (untouched : Client.Untouched att next out) : out.filterMap written? = [] := by
  rw [List.filterMap_eq_nil_iff]
  intro effect member
  cases effect with
  | write pdu => exact absurd member (untouched.unwritten pdu)
  | attrListCb | readAttrCb | notification | errorHandler => rfl

/-- An answer is delivered to the request that waits for it. -/
theorem answer_delivered {rd : Client.ReadData} (pending : att.currentRequest = some rd)
    (coherent : rd.Coherent) {answer : Buffer} (answers : IsAnswerTo rd.request answer)
    (stepped : Client.step att (.received answer) = .ok (next, out)) : att.Delivers next out := by
  rcases answers with rfl | ⟨length, first, second⟩ | ⟨head, _⟩
  · cases stepped
  · rw [← List.head?_eq_getElem?] at first
    obtain ⟨request, low, high, errorCode, rest, rfl⟩ := Client.error_shape first length.ge
    cases Option.some.inj second
    rw [Client.step_received_error] at stepped
    simp only [pending, Option.map_some, if_pos] at stepped
    exact ⟨_, _, _, _, stepped⟩
  · obtain ⟨payload, rfl⟩ := List.head?_eq_some_iff.mp head
    have other : rd.request + 1 ≠ Client.attOpError ∧ rd.request + 1 ≠ Client.attOpHandleNotify := by
      rw [coherent.request]
      cases rd.callback <;> decide
    rw [Client.step_received_response att payload other.1 other.2, pending] at stepped
    exact ⟨_, _, _, _, stepped⟩

/-- A call that is no request writes at most a command. -/
theorem unrequested_writes {call : Exposed} (token : call.val.token = none)
    (performed : att.perform call.val = .ok (next, out)) :
    next.currentRequest = att.currentRequest ∧ ∀ pdu ∈ out.filterMap written?, IsCommand pdu := by
  refine ⟨(Client.perform_unrequested token performed).currentRequest, ?_⟩
  obtain ⟨call, exposed⟩ := call
  cases call with
  | findInformation | findByTypeValue | readByType | readByGroupType | readAttribute => cases token
  | writeRequest handle value => exact absurd rfl (exposed handle value)
  | writeCommand handle value =>
    obtain ⟨written, sent, returned⟩ := Client.bind_ok performed
    obtain ⟨pdu, rfl, kind⟩ := Client.Att.writeHandle_asks sent
    cases returned
    intro other member
    cases List.mem_singleton.mp member
    exact kind
  | listenForNotifications handle data =>
    simp only [Client.Att.perform, Client.Att.listenForNotifications] at performed
    split at performed <;> cases performed <;> simp
  | onError data =>
    cases performed
    simp

end Client

end Btle.Wire

import Btle.Client.Notifications
import Btle.Wire.Matching

namespace Btle.Wire

open Duplex Machine Server Throwing

/-- What a listener for the handle is to be told by a PDU. -/
def payloadFor (handle : UInt16) : Buffer → Option Buffer
  | opcode :: low :: high :: payload =>
    if opcode = opHandleNotify ∧ UInt16.ofNat (LittleEndian.number [low, high]) = handle then some payload
    else none
  | _ => none

def heardBy (data : Nat) : Client.Effect → Option Buffer
  | .notification token _ buf _ _ => if token = data then buf else none
  | .write _ | .attrListCb .. | .readAttrCb .. | .errorHandler .. => none

/-- The token stands for the listener for one handle, and for no other. -/
def Listening (handle : UInt16) (data : Nat) (att : Client.Att) : Prop :=
  ∀ other, att.notificationMap.lookup other = some data ↔ other = handle

/-- The token is not given to another listener. -/
def Distinct (data : Nat) (call : Exposed) : Prop :=
  ∀ handle, call.val ≠ .listenForNotifications handle data

section Listening

variable {handle : UInt16} {data : Nat} {att next : Client.Att} {out : List Client.Effect}

theorem unheard {effects : List Client.Effect}
    (others : ∀ effect ∈ effects, ∀ token status buf len error,
      effect ≠ .notification token status buf len error) : effects.filterMap (heardBy data) = [] := by
  rw [List.filterMap_eq_nil_iff]
  intro effect member
  cases effect with
  | notification token status buf len error =>
    exact absurd rfl (others _ member token status buf len error)
  | write | attrListCb | readAttrCb | errorHandler => rfl

theorem answered_unheard {effect : Client.Effect} {token : Nat} (answered : effect.answered = some token) :
    heardBy data effect = none := by
  cases effect with
  | write | notification | errorHandler => cases answered
  | attrListCb | readAttrCb => rfl

theorem reportError_heard {message : String} (reported : att.reportError message = .ok (next, out)) :
    next = att ∧ out.filterMap (heardBy data) = [] := by
  unfold Client.Att.reportError at reported
  split at reported <;> cases reported <;> exact ⟨rfl, rfl⟩

theorem callbackCurrentRequest_heard {status : UInt8} {buf : Client.Buf} {len : Int} {error : Option String}
    (listening : Listening handle data att)
    (handled : att.callbackCurrentRequest status buf len error = .ok (next, out)) :
    Listening handle data next ∧ out.filterMap (heardBy data) = [] := by
  have same := Client.Att.callbackCurrentRequest_frames Client.notificationMap_unlisted handled
  refine ⟨fun other => by rw [same]; exact listening other, ?_⟩
  cases slot : att.currentRequest with
  | none =>
    unfold Client.Att.callbackCurrentRequest at handled
    rw [slot] at handled
    cases handled
  | some rd =>
    cases Client.Att.callbackCurrentRequest_answered slot handled with
    | again pdu => rfl
    | done effect own =>
      rw [List.filterMap_cons_none (answered_unheard own), List.filterMap_nil]

/-- One notification for the handle is told to the listener, and nothing else is. -/
theorem Listening.received (listening : Listening handle data att) {pdu : Buffer}
    (stepped : Client.step att (.received pdu) = .ok (next, out)) :
    Listening handle data next ∧ out.filterMap (heardBy data) = (payloadFor handle pdu).toList := by
  have elsewhere (other : payloadFor handle pdu = none)
      (handled : (∃ status buf len error,
        att.callbackCurrentRequest status buf len error = .ok (next, out)) ∨
          ∃ message, att.reportError message = .ok (next, out)) :
      Listening handle data next ∧ out.filterMap (heardBy data) = (payloadFor handle pdu).toList := by
    rw [other]
    rcases handled with ⟨status, buf, len, error, handled⟩ | ⟨message, reported⟩
    · exact callbackCurrentRequest_heard listening handled
    · have silent : next = att ∧ out.filterMap (heardBy data) = [] := reportError_heard reported
      rw [silent.1]
      exact ⟨listening, silent.2⟩
  cases pdu with
  | nil => cases stepped
  | cons opcode rest =>
    by_cases errs : opcode = Client.attOpError
    · subst errs
      by_cases complete : 5 ≤ (Client.attOpError :: rest).length
      · obtain ⟨request, low, high, errorCode, more, same⟩ := Client.error_shape rfl complete
        cases same
        rw [Client.step_received_error] at stepped
        apply elsewhere rfl
        dsimp only at stepped
        split at stepped
        · exact .inl ⟨_, _, _, _, stepped⟩
        · exact .inr ⟨_, stepped⟩
      · rw [Client.step_received_short_error att rfl (by omega)] at stepped
        cases stepped
    · by_cases notifies : opcode = Client.attOpHandleNotify
      · subst notifies
        by_cases complete : 3 ≤ (Client.attOpHandleNotify :: rest).length
        · obtain ⟨low, high, payload, same⟩ := Client.notify_shape rfl complete
          cases same
          rw [Client.step_received_notify] at stepped
          dsimp only at stepped
          split at stepped
          · rename_i token found
            cases stepped
            refine ⟨listening, ?_⟩
            by_cases own : token = data
            · subst own
              have this_one := (listening _).mp found
              simp [heardBy, payloadFor, this_one]
              rfl
            · have another : UInt16.ofNat (LittleEndian.number [low, high]) ≠ handle := by
                intro this_one
                exact own (Option.some.inj (found.symm.trans ((listening _).mpr this_one)))
              simp [heardBy, payloadFor, another, own]
          · rename_i missing
            have another : UInt16.ofNat (LittleEndian.number [low, high]) ≠ handle := by
              intro this_one
              cases missing.symm.trans ((listening _).mpr this_one)
            apply elsewhere
            · simp [payloadFor, another]
            · exact .inr ⟨_, stepped⟩
        · rw [Client.step_received_short_notify att rfl (by omega)] at stepped
          cases stepped
      · rw [Client.step_received_response att rest errs notifies] at stepped
        apply elsewhere
        · unfold payloadFor
          split
          · rename_i first low high payload same
            cases same
            rw [if_neg]
            exact fun both => notifies both.1
          · rfl
        · split at stepped
          · exact .inl ⟨_, _, _, _, stepped⟩
          · exact .inr ⟨_, stepped⟩

theorem Listening.performed (listening : Listening handle data att) {call : Exposed}
    (distinct : Distinct data call) (performed : att.perform call.val = .ok (next, out)) :
    Listening handle data next ∧ out.filterMap (heardBy data) = [] := by
  obtain ⟨call, exposed⟩ := call
  cases token : call.token with
  | some own =>
    obtain ⟨opcode, _, called⟩ := Client.Att.perform_called token performed
    cases called with
    | accepted rd pdu free coherent kind own asks taken =>
      rw [taken]
      exact ⟨listening, rfl⟩
    | refused rd effect pending own text same =>
      rw [same, List.filterMap_cons_none (answered_unheard own)]
      exact ⟨listening, rfl⟩
  | none =>
    cases call with
    | findInformation | findByTypeValue | readByType | readByGroupType | readAttribute => cases token
    | writeRequest handle value => exact absurd rfl (exposed handle value)
    | writeCommand handle value =>
      obtain ⟨written, sent, returned⟩ := Client.bind_ok performed
      obtain ⟨pdu, rfl, _⟩ := Client.Att.writeHandle_asks sent
      cases returned
      exact ⟨listening, rfl⟩
    | onError own =>
      cases performed
      exact ⟨listening, rfl⟩
    | listenForNotifications given own =>
      have another : own ≠ data := by
        rintro rfl
        exact distinct given rfl
      simp only [Client.Att.perform, Client.Att.listenForNotifications] at performed
      split at performed
      · cases performed
        exact ⟨listening, rfl⟩
      · rename_i missing
        cases performed
        refine ⟨fun other => ?_, rfl⟩
        by_cases here : other = given
        · subst here
          rw [List.lookup_cons_self, Option.some.injEq]
          refine iff_of_false another fun same => ?_
          cases missing.symm.trans ((listening other).mpr same)
        · rw [List.lookup_cons, beq_false_of_ne here]
          exact listening other

theorem client_relays (handle : UInt16) (data : Nat) :
    Relays client (Listening handle data) (Distinct data) (heardBy data) (payloadFor handle) where
  act att call next pdus out listening distinct acted := by
    obtain ⟨performed, rfl⟩ := clientDone_ok acted
    exact listening.performed distinct performed
  take att pdu next pdus out listening taken := by
    obtain ⟨stepped, rfl⟩ := clientDone_ok taken
    exact listening.received stepped

/-- Between the server and the listener for a handle no notification is lost, doubled or overtaken:
    what was pushed is what the listener was told and what is still on the way. -/
theorem notifications_in_order (host : Host) (central : CentralRef) (catches : Bool)
    (session : Session) (handle : UInt16) (data : Nat) (listening : Listening handle data session.left)
    (actions : List (Action Exposed (LocalEvent central)))
    (distinct : ∀ call, .left call ∈ actions → Distinct data call) (last : Session) (out : List Seen)
    (ran : run (sessionStep host central catches) session actions = .ok (last, out)) :
    (session.toLeft ++ out.filterMap Sight.wroteRight?).filterMap (payloadFor handle) =
      (out.filterMap Sight.left?).filterMap (heardBy data) ++
        last.toLeft.filterMap (payloadFor handle) :=
  (client_relays handle data).run listening distinct ran

end Listening

def battery : Session where
  left := { Client.Att.new Client.leConnection with notificationMap := [(1, 9)] }
  right := connectedServices
  toRight := []
  toLeft := []

def batteryRun : List (Action Exposed (LocalEvent 0)) :=
  [.right ⟨.enableNotifications 0 0, trivial⟩, .right ⟨.setValue 0 (.buffer [0x5A]), trivial⟩,
    .deliverLeft, .left askValue]

theorem battery_listening : Listening 1 9 battery.left := by
  intro other
  show [((1 : UInt16), 9)].lookup other = some 9 ↔ other = 1
  by_cases here : other = 1
  · rw [here]
    exact iff_of_true rfl rfl
  · rw [List.lookup_cons, beq_false_of_ne here]
    exact iff_of_false nofun here

theorem battery_in_order : ∃ last out,
    run (sessionStep boundHost 0 false) battery batteryRun = .ok (last, out) ∧
      (out.filterMap Sight.left?).filterMap (heardBy 9) = [[0x00, 0x18]] ∧
      last.toLeft.filterMap (payloadFor 1) = [[0x5A]] ∧
      (battery.toLeft ++ out.filterMap Sight.wroteRight?).filterMap (payloadFor 1) =
        (out.filterMap Sight.left?).filterMap (heardBy 9) ++ last.toLeft.filterMap (payloadFor 1) :=
  ⟨_, _, rfl, rfl, rfl, notifications_in_order boundHost 0 false battery 1 9 battery_listening batteryRun
    (by simp [batteryRun, Distinct, askValue]) _ _ rfl⟩

end Btle.Wire

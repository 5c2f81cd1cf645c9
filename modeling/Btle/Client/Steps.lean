import Btle.Library.Machine
import Btle.Client.Att

namespace Btle.Client

def Effect.answered : Effect → Option Nat
  | .attrListCb data .. => some data
  | .readAttrCb data .. => some data
  | _ => none

/-- What an answer to the pending request can lead to: the slot is kept and one more request is
    written, or the slot is freed and the request's own callback is called. -/
inductive Advances (rd : ReadData) (next : Att) : List Effect → Prop
  | asksAgain (pdu : List UInt8) (kept : next.currentRequest = some rd) :
      Advances rd next [.write pdu]
  | completes (effect : Effect) (freed : next.currentRequest = none)
      (own : effect.answered = some rd.data) : Advances rd next [effect]

/-- A step in which no request moves: slot and lists stay, no request callback is called. -/
structure Quiet (att next : Att) (out : List Effect) : Prop where
  connection : next.connection = att.connection
  currentRequest : next.currentRequest = att.currentRequest
  attributeList : next.attributeList = att.attributeList
  handlesInfoList : next.handlesInfoList = att.handlesInfoList
  groupAttributeList : next.groupAttributeList = att.groupAttributeList
  uncalled : ∀ effect ∈ out, effect.answered = none

namespace Att

theorem write_writes {encoded : Except Fault (List UInt8 × Nat)} {out : List Effect}
    (h : write encoded = .ok out) : ∃ pdu, out = [.write pdu] := by
  rcases bind_ok h with ⟨⟨buffer, len⟩, _, returned⟩
  cases returned
  exact ⟨_, rfl⟩

section Pages

variable {α : Type} {accumulator : Accumulator α} {att next : Att} {rd : ReadData}
  {out : List Effect} {error : Option String}

theorem finish_advances {status : UInt8}
    (h : finish accumulator att rd status error = .ok (next, out)) : Advances rd next out := by
  cases h
  exact .completes _ (removeCurrentRequest_currentRequest _) rfl

/-- What a page that is collected leads to: a request for the handles behind it, or the end. -/
theorem collectPage_cases {parse : List α → Except Fault (List α)} {handle : α → UInt16}
    {again : Att → UInt16 → Except Fault (List Effect)}
    (h : collectPage accumulator att rd parse handle again error = .ok (next, out)) :
    ∃ list back, parse ((accumulator.get att).getD []) = .ok list ∧
      ((∃ written, again (accumulator.set att (some list)) (handle back + 1) = .ok written ∧
          next = accumulator.set att (some list) ∧ out = written) ∨
        finish accumulator (accumulator.set att (some list)) rd 0 error = .ok (next, out)) := by
  rcases bind_ok h with ⟨list, read, collected⟩
  dsimp only at collected
  cases last : list.getLast? with
  | none => simp [last] at collected
  | some back =>
    refine ⟨list, back, read, ?_⟩
    simp only [last] at collected
    split at collected
    · rcases bind_ok collected with ⟨written, sent, returned⟩
      cases returned
      exact .inl ⟨_, sent, rfl, rfl⟩
    · exact .inr collected

theorem collectPage_advances {parse : List α → Except Fault (List α)} {handle : α → UInt16}
    {again : Att → UInt16 → Except Fault (List Effect)}
    (writes : ∀ att start out, again att start = .ok out → ∃ pdu, out = [.write pdu])
    (pending : att.currentRequest = some rd)
    (h : collectPage accumulator att rd parse handle again error = .ok (next, out)) :
    Advances rd next out := by
  rcases collectPage_cases h with ⟨list, back, _, ⟨written, sent, rfl, rfl⟩ | ended⟩
  · rcases writes _ _ _ sent with ⟨pdu, rfl⟩
    exact .asksAgain pdu (by simpa using pending)
  · exact finish_advances ended

end Pages

section Handlers

variable {att next : Att} {rd : ReadData} {out : List Effect} {error : Option String}
  {status : UInt8} {buf : Buf} {len : Int}

theorem handleFindInfo_advances (pending : att.currentRequest = some rd)
    (h : att.handleFindInfo status rd buf len error = .ok (next, out)) : Advances rd next out := by
  unfold handleFindInfo at h
  split at h
  · exact collectPage_advances (fun _ _ _ sent => write_writes sent) pending h
  · split at h <;> exact finish_advances h

theorem handleFindByType_advances (pending : att.currentRequest = some rd)
    (h : att.handleFindByType status rd buf len error = .ok (next, out)) :
    Advances rd next out := by
  unfold handleFindByType at h
  split at h
  · exact collectPage_advances (fun _ _ _ sent => write_writes sent) pending h
  · split at h
    · split at h
      · cases h
        exact .completes _ rfl rfl
      · exact finish_advances h
    · exact finish_advances h

theorem handleReadByType_advances
    (h : att.handleReadByType status rd buf len error = .ok (next, out)) :
    Advances rd next out := by
  unfold handleReadByType at h
  split at h
  · cases h
    exact .completes _ rfl rfl
  · rcases bind_ok h with ⟨list, _, returned⟩
    cases returned
    exact .completes _ rfl rfl

theorem handleReadByGroupType_advances (pending : att.currentRequest = some rd)
    (h : att.handleReadByGroupType status rd buf len error = .ok (next, out)) :
    Advances rd next out := by
  unfold handleReadByGroupType at h
  split at h
  · exact collectPage_advances (fun _ _ _ sent => write_writes sent) pending h
  · split at h <;> exact finish_advances h

/-- Whatever is delivered to the pending request, with whatever status, moves it on. -/
theorem callbackCurrentRequest_advances
    (h : att.callbackCurrentRequest status buf len error = .ok (next, out)) :
    ∃ rd, att.currentRequest = some rd ∧ Advances rd next out := by
  unfold callbackCurrentRequest at h
  split at h
  · cases h
  · rename_i rd pending
    refine ⟨rd, pending, ?_⟩
    split at h
    · exact handleFindInfo_advances pending h
    · exact handleFindByType_advances pending h
    · exact handleReadByType_advances h
    · exact handleReadByGroupType_advances pending h
    · cases h
      exact .completes _ rfl rfl

end Handlers

theorem reportError_quiet {att next : Att} {message : String} {out : List Effect}
    (h : att.reportError message = .ok (next, out)) : Quiet att next out := by
  unfold reportError at h
  split at h
  · cases h
    exact ⟨rfl, rfl, rfl, rfl, rfl, by simp [Effect.answered]⟩
  · cases h
    exact ⟨rfl, rfl, rfl, rfl, rfl, by simp⟩

def Delivers (att next : Att) (out : List Effect) : Prop :=
  ∃ status buf len error, att.callbackCurrentRequest status buf len error = .ok (next, out)

theorem handleRead_cases {att next : Att} {buf : Buf} {nread : Int} {error : Option String}
    {out : List Effect} (h : att.handleRead buf nread error = .ok (next, out)) :
    Delivers att next out ∨ Quiet att next out := by
  unfold handleRead at h
  cases error with
  | some message => exact .inl ⟨_, _, _, _, h⟩
  | none =>
    rcases bind_ok h with ⟨opcode, _, h⟩
    split at h
    · rcases bind_ok h with ⟨request, _, h⟩
      rcases bind_ok h with ⟨errorCode, _, h⟩
      rcases bind_ok h with ⟨handle, _, h⟩
      dsimp only at h
      split at h
      · exact .inl ⟨_, _, _, _, h⟩
      · exact .inr (reportError_quiet h)
    · split at h
      · rcases bind_ok h with ⟨handle, _, h⟩
        split at h
        · cases h
          exact .inr ⟨rfl, rfl, rfl, rfl, rfl, by simp [Effect.answered]⟩
        · exact .inr (reportError_quiet h)
      · split at h
        · exact .inl ⟨_, _, _, _, h⟩
        · exact .inr (reportError_quiet h)

end Att

/-- A request that takes the free slot writes, one that finds it taken is answered at once. -/
inductive Requested (att next : Att) (data : Nat) : List Effect → Prop
  | accepted (rd : ReadData) (pdu : List UInt8) (free : att.currentRequest = none)
      (taken : next = { att with currentRequest := some rd }) (own : rd.data = data) :
      Requested att next data [.write pdu]
  | refused (rd : ReadData) (effect : Effect) (taken : att.currentRequest = some rd)
      (unchanged : next = att) (own : effect.answered = some data) :
      Requested att next data [effect]

theorem Att.request_requested {att next : Att} {rd : ReadData} {out : List Effect}
    {send : Att → Except Fault (List Effect)} {refuse : Option String → Effect}
    (writes : ∀ att out, send att = .ok out → ∃ pdu, out = [.write pdu])
    (own : ∀ text, (refuse text).answered = some rd.data)
    (h : att.request rd send refuse = .ok (next, out)) : Requested att next rd.data out := by
  unfold request setCurrentRequest at h
  cases slot : att.currentRequest with
  | none =>
    simp only [slot] at h
    rcases bind_ok h with ⟨written, sent, returned⟩
    rcases writes _ _ sent with ⟨pdu, rfl⟩
    cases returned
    exact .accepted rd pdu slot rfl rfl
  | some other =>
    simp only [slot] at h
    cases h
    exact .refused other _ slot rfl (own _)

theorem Att.request_accepted {att : Att} {rd : ReadData} {send : Att → Except Fault (List Effect)}
    {refuse : Option String → Effect} {out : List Effect} (idle : att.currentRequest = none)
    (sent : send { att with currentRequest := some rd } = .ok out) :
    att.request rd send refuse = .ok ({ att with currentRequest := some rd }, out) := by
  simp only [request, setCurrentRequest, idle, sent]
  rfl

theorem Att.request_refused {att : Att} {rd other : ReadData}
    {send : Att → Except Fault (List Effect)} {refuse : Option String → Effect}
    (pending : att.currentRequest = some other) :
    att.request rd send refuse = .ok (att, [refuse (some (pendingMessage other.request))]) := by
  simp only [request, setCurrentRequest, pending, Option.map_some]

def Call.token : Call → Option Nat
  | .findInformation _ _ data => some data
  | .findByTypeValue _ _ _ _ data => some data
  | .readByType _ _ _ data => some data
  | .readByGroupType _ _ _ data => some data
  | .readAttribute _ data => some data
  | _ => none

theorem perform_requested {att next : Att} {call : Call} {data : Nat} {out : List Effect}
    (token : call.token = some data) (h : att.perform call = .ok (next, out)) :
    Requested att next data out := by
  cases call with
  | findInformation | findByTypeValue | readByType | readByGroupType | readAttribute =>
    cases token
    exact Att.request_requested (fun _ _ sent => Att.write_writes sent) (fun _ => rfl) h
  | writeCommand | writeRequest | listenForNotifications | onError => cases token

theorem perform_unrequested {att next : Att} {call : Call} {out : List Effect}
    (token : call.token = none) (h : att.perform call = .ok (next, out)) : Quiet att next out := by
  cases call with
  | findInformation | findByTypeValue | readByType | readByGroupType | readAttribute => cases token
  | writeCommand | writeRequest =>
    rcases bind_ok h with ⟨written, sent, returned⟩
    rcases Att.write_writes sent with ⟨pdu, rfl⟩
    cases returned
    exact ⟨rfl, rfl, rfl, rfl, rfl, by simp [Effect.answered]⟩
  | listenForNotifications handle data =>
    simp only [Att.perform, Att.listenForNotifications] at h
    split at h <;> cases h <;> exact ⟨rfl, rfl, rfl, rfl, rfl, by simp⟩
  | onError data =>
    cases h
    exact ⟨rfl, rfl, rfl, rfl, rfl, by simp⟩

def Event.token : Event → Option Nat
  | .call action => action.token
  | _ => none

/-- All a step can do: answer the pending request, take or refuse a new one, or be quiet. -/
inductive StepCase (att : Att) (event : Event) (next : Att) (out : List Effect) : Prop
  | advances (rd : ReadData) (arrived : event.token = none)
      (pending : att.currentRequest = some rd) (delivered : att.Delivers next out)
      (advance : Advances rd next out)
  | requested (data : Nat) (token : event.token = some data)
      (request : Requested att next data out)
  | quiet (unrequested : event.token = none) (still : Quiet att next out)

theorem step_cases {att next : Att} {event : Event} {out : List Effect}
    (h : step att event = .ok (next, out)) : StepCase att event next out := by
  cases event with
  | call action =>
    cases token : action.token with
    | some data => exact .requested data token (perform_requested token h)
    | none => exact .quiet token (perform_unrequested token h)
  | received bytes =>
    simp only [step] at h
    rcases Att.handleRead_cases h with delivered | quiet
    · rcases id delivered with ⟨_, _, _, _, handled⟩
      rcases Att.callbackCurrentRequest_advances handled with ⟨rd, pending, advances⟩
      exact .advances rd rfl pending delivered advances
    · exact .quiet rfl quiet
  | readError message =>
    simp only [step] at h
    rcases Att.handleRead_cases h with delivered | quiet
    · rcases id delivered with ⟨_, _, _, _, handled⟩
      rcases Att.callbackCurrentRequest_advances handled with ⟨rd, pending, advances⟩
      exact .advances rd rfl pending delivered advances
    · exact .quiet rfl quiet

section Shapes

variable {bytes : List UInt8}

theorem error_shape (kind : bytes.head? = some attOpError) (complete : 5 ≤ bytes.length) :
    ∃ request low high errorCode rest,
      bytes = attOpError :: request :: low :: high :: errorCode :: rest := by
  rcases List.head?_eq_some_iff.mp kind with ⟨rest, rfl⟩
  rcases rest with _ | ⟨request, _ | ⟨low, _ | ⟨high, _ | ⟨errorCode, rest⟩⟩⟩⟩
  all_goals simp only [List.length_cons, List.length_nil] at complete
  all_goals try omega
  exact ⟨request, low, high, errorCode, rest, rfl⟩

theorem notify_shape (kind : bytes.head? = some attOpHandleNotify) (complete : 3 ≤ bytes.length) :
    ∃ low high payload, bytes = attOpHandleNotify :: low :: high :: payload := by
  rcases List.head?_eq_some_iff.mp kind with ⟨rest, rfl⟩
  rcases rest with _ | ⟨low, _ | ⟨high, payload⟩⟩
  all_goals simp only [List.length_cons, List.length_nil] at complete
  all_goals try omega
  exact ⟨low, high, payload, rfl⟩

end Shapes

section Received

variable (att : Att)

theorem step_received_short_error {bytes : List UInt8} (kind : bytes.head? = some attOpError)
    (short : bytes.length < 5) : step att (.received bytes) = .error .outOfBounds := by
  rcases List.head?_eq_some_iff.mp kind with ⟨rest, rfl⟩
  simp only [step, Att.handleRead, byteAt, bind, Except.bind]
  rcases rest with _ | ⟨request, rest⟩
  · rfl
  · simp only [List.length_cons] at short
    have missing : (attOpError :: request :: rest)[4]? = none := by
      rw [List.getElem?_eq_none_iff]
      simp only [List.length_cons]
      omega
    simp only [missing]
    rfl

theorem step_received_error (request low high errorCode : UInt8) (rest : List UInt8) :
    step att (.received (attOpError :: request :: low :: high :: errorCode :: rest)) =
      let message := errorMessage request errorCode (UInt16.ofNat (LittleEndian.number [low, high]))
      if att.currentRequest.map ReadData.request = some request then
        att.callbackCurrentRequest errorCode none 0 (some message)
      else att.reportError message := rfl

theorem step_received_short_notify {bytes : List UInt8}
    (kind : bytes.head? = some attOpHandleNotify) (short : bytes.length < 3) :
    step att (.received bytes) = .error .outOfBounds := by
  rcases List.head?_eq_some_iff.mp kind with ⟨rest, rfl⟩
  rw [List.length_cons] at short
  have outside : attGetU16 (some (attOpHandleNotify :: rest)) 1 = .error .outOfBounds :=
    attGetU16_outside (by rw [List.length_cons]; omega)
  simp only [step, Att.handleRead, outside]
  rfl

theorem step_received_notify (low high : UInt8) (payload : List UInt8) :
    step att (.received (attOpHandleNotify :: low :: high :: payload)) =
      let handle := UInt16.ofNat (LittleEndian.number [low, high])
      match att.notificationMap.lookup handle with
      | some data => .ok (att, [.notification data 0 (some payload) payload.length none])
      | none => att.reportError (unexpectedNotification handle) := by
  simp only [step, Att.handleRead, List.length_cons]
  have length : ((payload.length + 1 + 1 + 1 : Nat) : Int) - 3 = payload.length := by omega
  rw [length]
  rfl

theorem step_received_response {opcode : UInt8} (payload : List UInt8)
    (notError : opcode ≠ attOpError) (notNotify : opcode ≠ attOpHandleNotify) :
    step att (.received (opcode :: payload)) =
      match att.currentRequest with
      | some _ => att.callbackCurrentRequest 0 (some payload) payload.length none
      | none => att.reportError (unexpectedData opcode) := by
  simp only [step, Att.handleRead, byteAt, List.getElem?_cons_zero, bind, Except.bind,
    if_neg notError, if_neg notNotify, List.length_cons, Option.map_some, List.drop_one,
    List.tail_cons]
  have length : ((payload.length + 1 : Nat) : Int) - 1 = payload.length := by omega
  cases att.currentRequest with
  | none => rfl
  | some _ =>
    show att.callbackCurrentRequest 0 (some payload) (((payload.length + 1 : Nat) : Int) - 1) none = _
    rw [length]

end Received

end Btle.Client

import Btle.Client.Malformed

namespace Btle.Client

/-- The buffers of a connection have room for the UUID of a request, and for its value where
    `Att::encode` puts it. -/
structure Connection.Holds (connection : Connection) (type : BtUuid) (value : Option (List UInt8)) :
    Prop where
  type : ∀ written, uuidBytes type = some written → 5 + written.length ≤ connection.getBuffer.length
  value : ∀ bytes, value = some bytes → 7 + bytes.length ≤ connection.getBuffer.length

section Encoding

theorem store_fits {buffer data : List UInt8} {offset : Nat}
    (fits : offset + data.length ≤ buffer.length) :
    ∃ stored, store buffer offset data = .ok stored ∧ stored.length = buffer.length := by
  unfold store
  split
  · exact ⟨buffer, rfl, rfl⟩
  · refine ⟨_, rfl, ?_⟩
    simp only [List.length_append, List.length_take, List.length_drop]
    omega

theorem encodeValue_completes {value : Option (List UInt8)} {buffer : List UInt8}
    (fits : ∀ bytes, value = some bytes → 7 + bytes.length ≤ buffer.length) (ret : Nat) :
    ∃ result, encodeRange.encodeValue value buffer ret = .ok result := by
  cases value with
  | none => exact ⟨_, rfl⟩
  | some bytes =>
    rcases store_fits (fits bytes rfl) with ⟨stored, kept, _⟩
    simp only [encodeRange.encodeValue, kept]
    exact ⟨_, rfl⟩

theorem encodeRange_completes {connection : Connection} {type : BtUuid} {bytes : Option (List UInt8)}
    (holds : connection.Holds type bytes) (opcode : UInt8) (startHandle endHandle : UInt16)
    {uuid : Option BtUuid} {value : Option (List UInt8)} (typed : uuid = none ∨ uuid = some type)
    (valued : value = none ∨ value = bytes) :
    ∃ result, encodeRange opcode startHandle endHandle uuid connection.getBuffer value =
      .ok result := by
  have room : ∀ given, value = some given → 7 + given.length ≤ connection.getBuffer.length := by
    intro given same
    rcases valued with rfl | rfl
    · cases same
    · exact holds.value given same
  by_cases small : connection.getBuffer.length < 5
  · exact ⟨_, by rw [encodeRange, if_pos small]⟩
  · rw [encodeRange_header opcode startHandle endHandle uuid _ value (by omega)]
    have size : (rangeHeader opcode startHandle endHandle ++ connection.getBuffer.drop 5).length =
        connection.getBuffer.length := by
      rw [List.length_append, rangeHeader_length, List.length_drop]
      omega
    rcases typed with rfl | rfl
    · exact encodeValue_completes (by rwa [size]) 5
    · dsimp only [Option.map_some]
      cases written : uuidBytes type with
      | none => exact ⟨_, rfl⟩
      | some bytes =>
        have fits : 5 + bytes.length ≤ (rangeHeader opcode startHandle endHandle ++
            connection.getBuffer.drop 5).length := size ▸ holds.type bytes written
        rcases store_fits fits with ⟨stored, kept, same⟩
        simp only [kept, Except.bind]
        exact encodeValue_completes (by rwa [same, size]) _

theorem encodeHandle_completes (opcode : UInt8) (handle : UInt16) (buffer value : List UInt8) :
    ∃ result, encodeHandle opcode handle buffer value = .ok result := by
  unfold encodeHandle
  by_cases small : buffer.length < 3
  · exact ⟨_, if_pos small⟩
  · rw [if_neg small]
    obtain ⟨first, stored, size⟩ := store_fits (show 0 + [opcode].length ≤ buffer.length by
      rw [List.length_singleton]
      omega)
    obtain ⟨second, stored_handle, size_handle⟩ :=
      store_fits (show 1 + (attPutU16 handle).length ≤ first.length by
        rw [attPutU16_length]
        omega)
    obtain ⟨third, stored_value, _⟩ :=
      store_fits (show 3 + (value.take (buffer.length - 3)).length ≤ second.length by
        rw [List.length_take]
        omega)
    simp only [stored, stored_handle, stored_value, bind, Except.bind]
    exact ⟨_, rfl⟩

end Encoding

namespace Att

section Linked

variable {att next : Att} {rd : ReadData} {out : List Effect} {error : Option String}
  {status : UInt8} {buf : Buf} {len : Int}

theorem finish_linked {α : Type} {accumulator : Accumulator α}
    (h : finish accumulator att rd status error = .ok (next, out)) :
    next.connection = att.connection := by
  cases h
  rw [removeCurrentRequest_connection, accumulator.connection_set]

theorem collectPage_linked {α : Type} {accumulator : Accumulator α}
    {parse : List α → Except Fault (List α)} {handle : α → UInt16}
    {again : Att → UInt16 → Except Fault (List Effect)}
    (h : collectPage accumulator att rd parse handle again error = .ok (next, out)) :
    next.connection = att.connection := by
  rcases collectPage_cases h with ⟨list, back, _, ⟨written, _, rfl, rfl⟩ | ended⟩
  · exact accumulator.connection_set _ _
  · exact (finish_linked ended).trans (accumulator.connection_set _ _)

theorem handleFindInfo_linked (h : att.handleFindInfo status rd buf len error = .ok (next, out)) :
    next.connection = att.connection := by
  unfold handleFindInfo at h
  split at h
  · exact collectPage_linked h
  · split at h <;> exact finish_linked h

theorem handleFindByType_linked
    (h : att.handleFindByType status rd buf len error = .ok (next, out)) :
    next.connection = att.connection := by
  unfold handleFindByType at h
  split at h
  · exact collectPage_linked h
  · split at h
    · split at h
      · cases h
        rfl
      · exact finish_linked h
    · exact finish_linked h

theorem handleReadByType_linked
    (h : att.handleReadByType status rd buf len error = .ok (next, out)) :
    next.connection = att.connection := by
  unfold handleReadByType at h
  split at h
  · cases h
    rfl
  · rcases bind_ok h with ⟨list, _, returned⟩
    cases returned
    rfl

theorem handleReadByGroupType_linked
    (h : att.handleReadByGroupType status rd buf len error = .ok (next, out)) :
    next.connection = att.connection := by
  unfold handleReadByGroupType at h
  split at h
  · exact collectPage_linked h
  · split at h <;> exact finish_linked h

theorem callbackCurrentRequest_linked
    (h : att.callbackCurrentRequest status buf len error = .ok (next, out)) :
    next.connection = att.connection := by
  unfold callbackCurrentRequest at h
  split at h
  · cases h
  · split at h
    · exact handleFindInfo_linked h
    · exact handleFindByType_linked h
    · exact handleReadByType_linked h
    · exact handleReadByGroupType_linked h
    · cases h
      rfl

end Linked

end Att

theorem step_linked (connection : Connection) :
    Machine.Preserves step fun att => att.connection = connection := by
  intro att event next out linked stepped
  cases step_cases stepped with
  | advances _ _ _ delivered _ =>
    rcases delivered with ⟨_, _, _, _, handled⟩
    exact (Att.callbackCurrentRequest_linked handled).trans linked
  | requested _ _ request =>
    cases request with
    | accepted rd pdu free taken =>
      subst taken
      exact linked
    | refused _ _ _ unchanged =>
      subst unchanged
      exact linked
  | quiet _ still => exact still.connection.trans linked

def Roomy (att : Att) : Prop :=
  ∀ rd, att.currentRequest = some rd → att.connection.Holds rd.type rd.value

def Call.Fits (connection : Connection) : Call → Prop
  | .findByTypeValue _ _ type value _ => connection.Holds type value
  | .readByType _ _ type _ | .readByGroupType _ _ type _ => connection.Holds type none
  | .findInformation .. | .readAttribute .. | .writeCommand .. | .writeRequest ..
  | .listenForNotifications .. | .onError .. => True

/-- The events that have a defined outcome: requests that fit, PDUs that can be digested, and read
    errors that the pending request survives. -/
def Proper (att : Att) : Event → Prop
  | .call call => call.Fits att.connection
  | .received bytes => Digestible att (.received bytes)
  | .readError _ => ∃ rd, att.currentRequest = some rd ∧ SurvivesNull att rd.callback

section Progress

variable {att next : Att} {out : List Effect}

theorem Roomy.asks (roomy : Roomy att) (rd : ReadData) (pending : att.currentRequest = some rd) :
    Asks False att.connection rd := by
  intro opcode startHandle uuid value typed valued fault failed
  obtain ⟨result, encoded⟩ :=
    encodeRange_completes (roomy rd pending) opcode startHandle rd.handle typed valued
  rw [encoded] at failed
  cases failed

theorem Roomy.delivered (roomy : Roomy att) (delivered : att.Delivers next out) : Roomy next := by
  rcases delivered with ⟨status, buf, len, error, handled⟩
  have linked := Att.callbackCurrentRequest_linked handled
  rcases Att.callbackCurrentRequest_advances handled with ⟨rd, pending, advances⟩
  intro other taken
  cases advances with
  | asksAgain pdu kept =>
    rw [kept] at taken
    cases taken
    exact linked ▸ roomy rd pending
  | completes effect freed =>
    rw [freed] at taken
    cases taken

theorem Roomy.quiet (roomy : Roomy att) (still : Quiet att next out) : Roomy next := by
  intro rd pending
  rw [still.currentRequest] at pending
  rw [still.connection]
  exact roomy rd pending

theorem request_progress {rd : ReadData} {send : Att → Except Fault (List Effect)}
    {refuse : Option String → Effect} (roomy : Roomy att)
    (holds : att.connection.Holds rd.type rd.value)
    (sends : ∃ out, send { att with currentRequest := some rd } = .ok out) :
    ∃ next out, att.request rd send refuse = .ok (next, out) ∧ Roomy next := by
  cases slot : att.currentRequest with
  | none =>
    rcases sends with ⟨out, sent⟩
    refine ⟨_, out, Att.request_accepted slot sent, ?_⟩
    intro other taken
    cases taken
    exact holds
  | some pending => exact ⟨att, _, Att.request_refused slot, roomy⟩

theorem write_completes {encoded : Except Fault (List UInt8 × Nat)}
    (completes : ∃ result, encoded = .ok result) : ∃ out, Att.write encoded = .ok out := by
  rcases completes with ⟨result, rfl⟩
  exact ⟨_, rfl⟩

theorem perform_progress {call : Call} (roomy : Roomy att) (fits : call.Fits att.connection) :
    ∃ next out, att.perform call = .ok (next, out) ∧ Roomy next := by
  have bare : att.connection.Holds .unspec none := ⟨nofun, nofun⟩
  cases call with
  | findInformation startHandle endHandle data =>
    exact request_progress roomy bare (write_completes
      (encodeRange_completes bare _ _ _ (.inl rfl) (.inl rfl)))
  | findByTypeValue startHandle endHandle type value data =>
    exact request_progress roomy fits (write_completes
      (encodeRange_completes fits _ _ _ (.inr rfl) (.inr rfl)))
  | readByType startHandle endHandle type data =>
    exact request_progress roomy fits (write_completes
      (encodeRange_completes fits _ _ _ (.inr rfl) (.inl rfl)))
  | readByGroupType startHandle endHandle type data =>
    exact request_progress roomy fits (write_completes
      (encodeRange_completes fits _ _ _ (.inr rfl) (.inl rfl)))
  | readAttribute handle data =>
    exact request_progress roomy bare (write_completes (encodeHandle_completes _ _ _ _))
  | writeCommand handle value =>
    obtain ⟨out, sent⟩ := write_completes
      (encodeHandle_completes attOpWriteCmd handle att.connection.getBuffer value)
    refine ⟨att, out, ?_, roomy⟩
    rw [Att.perform, Att.writeCommand, sent]
    rfl
  | writeRequest handle value =>
    obtain ⟨out, sent⟩ := write_completes
      (encodeHandle_completes attOpWriteReq handle att.connection.getBuffer value)
    refine ⟨att, out, ?_, roomy⟩
    rw [Att.perform, Att.writeRequest, sent]
    rfl
  | listenForNotifications handle data =>
    simp only [Att.perform, Att.listenForNotifications]
    split
    · exact ⟨att, [], rfl, roomy⟩
    · exact ⟨_, [], rfl, roomy⟩
  | onError data => exact ⟨_, [], rfl, roomy⟩

theorem handleRead_progress (buf : Buf) (nread : Int) (error : Option String) (roomy : Roomy att)
    (sound : Soundly False (att.handleRead buf nread error)) :
    ∃ next out, att.handleRead buf nread error = .ok (next, out) ∧ Roomy next := by
  cases handled : att.handleRead buf nread error with
  | error fault =>
    rw [handled] at sound
    exact absurd sound.2 not_false
  | ok result =>
    rcases result with ⟨next, out⟩
    refine ⟨next, out, rfl, ?_⟩
    rcases Att.handleRead_cases handled with delivered | still
    · exact roomy.delivered delivered
    · exact roomy.quiet still

/-- Every proper event is handled to the end, and what is pending after it still fits. -/
theorem step_progress {event : Event} (roomy : Roomy att) (proper : Proper att event) :
    ∃ next out, step att event = .ok (next, out) ∧ Roomy next := by
  cases event with
  | call call => exact perform_progress roomy proper
  | received bytes =>
    have sound := (received_sound_iff roomy.asks bytes).mpr proper
    exact handleRead_progress (some bytes) bytes.length none roomy sound
  | readError message =>
    rcases proper with ⟨rd, pending, survives⟩
    have sound := (Att.fail_sound_iff (roomy.asks rd pending) 0 message pending).mpr fun _ => survives
    exact handleRead_progress none (-1) (some message) roomy sound

end Progress

end Btle.Client

import Btle.Client.Slots

namespace Btle.Client

/-- A PDU of one kind, or the empty one that is written if it could not be encoded. -/
def OfKind (opcode : UInt8) (pdu : List UInt8) : Prop := pdu = [] ∨ pdu.head? = some opcode

def ReadCallback.opcode : ReadCallback → UInt8
  | .onFindInfo => attOpFindInfoReq
  | .onFindByType => attOpFindByTypeReq
  | .onReadByType => attOpReadByTypeReq
  | .onReadByGroupType => attOpReadByGroupReq
  | .onReadAttribute => attOpReadReq

/-- The fields of a request agree on what kind it is. A response has the opcode behind the one of
    its request. -/
structure ReadData.Coherent (rd : ReadData) : Prop where
  request : rd.request = rd.callback.opcode
  response : rd.expectedResponse = rd.request + 1

def Coherent (att : Att) : Prop := ∀ rd, att.currentRequest = some rd → rd.Coherent

section Encoding

theorem store_head {buffer data stored : List UInt8} {offset : Nat} (behind : 0 < offset)
    (kept : store buffer offset data = .ok stored) : stored.head? = buffer.head? := by
  unfold store at kept
  split at kept
  · cases kept
    rfl
  · split at kept
    · rename_i fits
      cases kept
      cases buffer with
      | nil =>
        rw [List.length_nil] at fits
        omega
      | cons first rest =>
        obtain ⟨earlier, rfl⟩ : ∃ earlier, offset = earlier + 1 := ⟨offset - 1, by omega⟩
        rfl
    · cases kept

theorem store_opcode {buffer stored : List UInt8} {opcode : UInt8} (kept : store buffer 0 [opcode] = .ok stored) :
    stored.head? = some opcode := by
  unfold store at kept
  rw [if_neg (List.cons_ne_nil _ _)] at kept
  split at kept
  · cases kept
    rfl
  · cases kept

theorem take_head {opcode : UInt8} {buffer : List UInt8} {len : Nat} (starts : buffer.head? = some opcode) :
    OfKind opcode (buffer.take len) := by
  cases len with
  | zero => exact .inl List.take_zero
  | succ len =>
    obtain ⟨rest, rfl⟩ := List.head?_eq_some_iff.mp starts
    exact .inr rfl

theorem encodeHandle_asks {opcode : UInt8} {handle : UInt16} {buffer value written : List UInt8} {len : Nat}
    (encoded : encodeHandle opcode handle buffer value = .ok (written, len)) :
    OfKind opcode (written.take len) := by
  unfold encodeHandle at encoded
  dsimp only at encoded
  split at encoded
  · cases encoded
    exact .inl List.take_zero
  · obtain ⟨first, opened, encoded⟩ := bind_ok encoded
    obtain ⟨second, addressed, encoded⟩ := bind_ok encoded
    obtain ⟨third, filled, encoded⟩ := bind_ok encoded
    cases encoded
    apply take_head
    rw [store_head (by decide) filled, store_head (by decide) addressed, store_opcode opened]

theorem encodeValue_head {value : Option (List UInt8)} {buffer written : List UInt8} {ret len : Nat}
    (encoded : encodeRange.encodeValue value buffer ret = .ok (written, len)) :
    written.head? = buffer.head? := by
  unfold encodeRange.encodeValue at encoded
  cases value with
  | none =>
    cases encoded
    rfl
  | some value =>
    obtain ⟨stored, filled, encoded⟩ := bind_ok encoded
    cases encoded
    exact store_head (by decide) filled

theorem encodeRange_asks {opcode : UInt8} {startHandle endHandle : UInt16} {uuid : Option BtUuid}
    {buffer written : List UInt8} {value : Option (List UInt8)} {len : Nat}
    (encoded : encodeRange opcode startHandle endHandle uuid buffer value = .ok (written, len)) :
    OfKind opcode (written.take len) := by
  unfold encodeRange at encoded
  dsimp only at encoded
  split at encoded
  · cases encoded
    exact .inl List.take_zero
  · obtain ⟨first, opened, encoded⟩ := bind_ok encoded
    obtain ⟨second, started, encoded⟩ := bind_ok encoded
    obtain ⟨third, ended, encoded⟩ := bind_ok encoded
    have starts : third.head? = some opcode := by
      rw [store_head (by decide) ended, store_head (by decide) started, store_opcode opened]
    split at encoded
    · cases encoded
      exact .inl List.take_zero
    · obtain ⟨fourth, typed, encoded⟩ := bind_ok encoded
      exact take_head ((encodeValue_head encoded).trans ((store_head (by decide) typed).trans starts))
    · exact take_head ((encodeValue_head encoded).trans starts)

end Encoding

namespace Att

theorem write_asks {opcode : UInt8} {encoded : Except Fault (List UInt8 × Nat)} {out : List Effect}
    (asks : ∀ written len, encoded = .ok (written, len) → OfKind opcode (written.take len))
    (sent : write encoded = .ok out) : ∃ pdu, out = [.write pdu] ∧ OfKind opcode pdu := by
  obtain ⟨⟨written, len⟩, same, sent⟩ := bind_ok sent
  cases sent
  exact ⟨_, rfl, asks written len same⟩

theorem writeRange_asks {opcode : UInt8} {startHandle endHandle : UInt16} {uuid : Option BtUuid}
    {buffer : List UInt8} {value : Option (List UInt8)} {out : List Effect}
    (sent : write (encodeRange opcode startHandle endHandle uuid buffer value) = .ok out) :
    ∃ pdu, out = [.write pdu] ∧ OfKind opcode pdu :=
  write_asks (fun _ _ => encodeRange_asks) sent

theorem writeHandle_asks {opcode : UInt8} {handle : UInt16} {buffer value : List UInt8} {out : List Effect}
    (sent : write (encodeHandle opcode handle buffer value) = .ok out) :
    ∃ pdu, out = [.write pdu] ∧ OfKind opcode pdu :=
  write_asks (fun _ _ => encodeHandle_asks) sent

/-- What an answer leads to: the next page of the same request is asked for, or its callback is
    called and the slot is free. -/
inductive Answered (rd : ReadData) (next : Att) : List Effect → Prop
  | again (pdu : List UInt8) (asks : OfKind rd.callback.opcode pdu) (kept : next.currentRequest = some rd)
      (paged : rd.callback ≠ .onReadByType) : Answered rd next [.write pdu]
  | done (effect : Effect) (own : effect.answered = some rd.data) (unwritten : ∀ pdu, effect ≠ .write pdu)
      (freed : next.currentRequest = none) : Answered rd next [effect]

section Handlers

variable {att next : Att} {rd : ReadData} {out : List Effect} {status : UInt8} {buf : Buf} {len : Int}
  {error : Option String}

theorem finish_answered {α : Type} {accumulator : Accumulator α}
    (h : finish accumulator att rd status error = .ok (next, out)) : Answered rd next out := by
  cases h
  exact .done _ rfl nofun (removeCurrentRequest_currentRequest _)

theorem collectPage_answered {α : Type} {accumulator : Accumulator α}
    {parse : List α → Except Fault (List α)} {handle : α → UInt16}
    {again : Att → UInt16 → Except Fault (List Effect)}
    (asks : ∀ att start out, again att start = .ok out →
      ∃ pdu, out = [.write pdu] ∧ OfKind rd.callback.opcode pdu)
    (pending : att.currentRequest = some rd) (paged : rd.callback ≠ .onReadByType)
    (h : collectPage accumulator att rd parse handle again error = .ok (next, out)) :
    Answered rd next out := by
  obtain ⟨list, back, _, ⟨written, sent, rfl, rfl⟩ | ended⟩ := collectPage_cases h
  · obtain ⟨pdu, rfl, asked⟩ := asks _ _ _ sent
    exact .again pdu asked (by rw [accumulator.currentRequest_set, pending]) paged
  · exact finish_answered ended

theorem callbackCurrentRequest_answered (pending : att.currentRequest = some rd)
    (h : att.callbackCurrentRequest status buf len error = .ok (next, out)) : Answered rd next out := by
  unfold callbackCurrentRequest at h
  rw [pending] at h
  cases kind : rd.callback with
  | onFindInfo =>
    simp only [kind] at h
    unfold handleFindInfo at h
    split at h
    · apply collectPage_answered _ pending (by rw [kind]; decide) h
      intro other start written sent
      rw [kind]
      exact writeRange_asks sent
    · split at h <;> exact finish_answered h
  | onFindByType =>
    simp only [kind] at h
    unfold handleFindByType at h
    split at h
    · apply collectPage_answered _ pending (by rw [kind]; decide) h
      intro other start written sent
      rw [kind]
      exact writeRange_asks sent
    · split at h
      · split at h
        · cases h
          exact .done _ rfl nofun rfl
        · exact finish_answered h
      · exact finish_answered h
  | onReadByType =>
    simp only [kind] at h
    unfold handleReadByType at h
    split at h
    · cases h
      exact .done _ rfl nofun rfl
    · obtain ⟨list, _, returned⟩ := bind_ok h
      cases returned
      exact .done _ rfl nofun rfl
  | onReadByGroupType =>
    simp only [kind] at h
    unfold handleReadByGroupType at h
    split at h
    · apply collectPage_answered _ pending (by rw [kind]; decide) h
      intro other start written sent
      rw [kind]
      exact writeRange_asks sent
    · split at h <;> exact finish_answered h
  | onReadAttribute =>
    simp only [kind] at h
    cases h
    exact .done _ rfl nofun rfl

end Handlers

/-- A request that is called for takes the free slot and is written, or is refused with a text that
    names the one in the way. -/
inductive Called (att next : Att) (opcode : UInt8) (data : Nat) : List Effect → Prop
  | accepted (rd : ReadData) (pdu : List UInt8) (free : att.currentRequest = none) (coherent : rd.Coherent)
      (kind : rd.request = opcode) (own : rd.data = data) (asks : OfKind opcode pdu)
      (taken : next = { att with currentRequest := some rd }) : Called att next opcode data [.write pdu]
  | refused (rd : ReadData) (effect : Effect) (pending : att.currentRequest = some rd)
      (own : effect.answered = some data)
      (text : effect.outcome = some (data, some (pendingMessage rd.request))) (same : next = att) :
      Called att next opcode data [effect]

theorem request_called {att next : Att} {rd : ReadData} {out : List Effect}
    {send : Att → Except Fault (List Effect)} {refuse : Option String → Effect} (coherent : rd.Coherent)
    (asks : ∀ att out, send att = .ok out → ∃ pdu, out = [.write pdu] ∧ OfKind rd.request pdu)
    (own : ∀ text, (refuse text).answered = some rd.data)
    (text : ∀ text, (refuse text).outcome = some (rd.data, text))
    (h : att.request rd send refuse = .ok (next, out)) : Called att next rd.request rd.data out := by
  cases slot : att.currentRequest with
  | none =>
    unfold request setCurrentRequest at h
    simp only [slot] at h
    obtain ⟨written, sent, returned⟩ := bind_ok h
    obtain ⟨pdu, rfl, asked⟩ := asks _ _ sent
    cases returned
    exact .accepted rd pdu slot coherent rfl rfl asked rfl
  | some pending =>
    rw [request_refused slot] at h
    cases h
    exact .refused pending _ slot (own _) (text _) rfl

theorem perform_called {att next : Att} {call : Call} {data : Nat} {out : List Effect}
    (token : call.token = some data) (h : att.perform call = .ok (next, out)) :
    ∃ opcode, call.opcode = some opcode ∧ Called att next opcode data out := by
  cases call with
  | writeCommand | writeRequest | listenForNotifications | onError => cases token
  | findInformation | findByTypeValue | readByType | readByGroupType =>
    cases token
    exact ⟨_, rfl, request_called ⟨rfl, rfl⟩ (fun _ _ sent => writeRange_asks sent) (fun _ => rfl)
      (fun _ => rfl) h⟩
  | readAttribute =>
    cases token
    exact ⟨_, rfl, request_called ⟨rfl, rfl⟩ (fun _ _ sent => writeHandle_asks sent) (fun _ => rfl)
      (fun _ => rfl) h⟩

end Att

section Frame

variable {Field : Type} {field : Att → Field}

/-- What neither the slot nor the three lists are part of. -/
structure Unlisted (field : Att → Field) : Prop where
  removed : ∀ att, field (Att.removeCurrentRequest att) = field att
  infos : ∀ att list, field (Accumulator.attributeList.set att list) = field att
  handles : ∀ att list, field (Accumulator.handlesInfoList.set att list) = field att
  groups : ∀ att list, field (Accumulator.groupAttributeList.set att list) = field att

namespace Att

variable {att next : Att} {rd : ReadData} {out : List Effect} {status : UInt8} {buf : Buf} {len : Int}
  {error : Option String}

theorem finish_frames {α : Type} {accumulator : Accumulator α} (unlisted : Unlisted field)
    (same : ∀ att list, field (accumulator.set att list) = field att)
    (h : finish accumulator att rd status error = .ok (next, out)) : field next = field att := by
  cases h
  exact (unlisted.removed _).trans (same _ _)

theorem collectPage_frames {α : Type} {accumulator : Accumulator α}
    {parse : List α → Except Fault (List α)} {handle : α → UInt16}
    {again : Att → UInt16 → Except Fault (List Effect)} (unlisted : Unlisted field)
    (same : ∀ att list, field (accumulator.set att list) = field att)
    (h : collectPage accumulator att rd parse handle again error = .ok (next, out)) :
    field next = field att := by
  obtain ⟨list, back, _, ⟨written, _, rfl, rfl⟩ | ended⟩ := collectPage_cases h
  · exact same _ _
  · exact (finish_frames unlisted same ended).trans (same _ _)

theorem callbackCurrentRequest_frames (unlisted : Unlisted field)
    (h : att.callbackCurrentRequest status buf len error = .ok (next, out)) : field next = field att := by
  unfold callbackCurrentRequest at h
  split at h
  · cases h
  · split at h
    · unfold handleFindInfo at h
      split at h
      · exact collectPage_frames unlisted unlisted.infos h
      · split at h <;> exact finish_frames unlisted unlisted.infos h
    · unfold handleFindByType at h
      split at h
      · exact collectPage_frames unlisted unlisted.handles h
      · split at h
        · split at h
          · cases h
            exact unlisted.removed _
          · exact finish_frames unlisted unlisted.handles h
        · exact finish_frames unlisted unlisted.handles h
    · unfold handleReadByType at h
      split at h
      · cases h
        exact unlisted.removed _
      · obtain ⟨list, _, returned⟩ := bind_ok h
        cases returned
        exact unlisted.removed _
    · unfold handleReadByGroupType at h
      split at h
      · exact collectPage_frames unlisted unlisted.groups h
      · split at h <;> exact finish_frames unlisted unlisted.groups h
    · cases h
      exact unlisted.removed _

end Att

theorem notificationMap_unlisted : Unlisted Att.notificationMap :=
  ⟨fun _ => rfl, fun _ _ => rfl, fun _ _ => rfl, fun _ _ => rfl⟩

end Frame

/-- No list of attributes and no bytes of an attribute are given to a callback. -/
def Effect.Barren : Effect → Prop
  | .attrListCb _ _ list _ => ∀ infos, list ≠ some (.infos infos)
  | .readAttrCb _ _ buf _ _ => buf = none
  | .write _ | .notification .. | .errorHandler .. => True

/-- The callbacks that would be given one of them. -/
def ReadCallback.Looks : ReadCallback → Prop
  | .onFindInfo | .onReadAttribute => True
  | .onFindByType | .onReadByType | .onReadByGroupType => False

theorem barren_unanswered {effect : Effect} (unanswered : effect.answered = none) : effect.Barren := by
  cases effect with
  | attrListCb | readAttrCb => cases unanswered
  | write | notification | errorHandler => trivial

theorem barren_unlisted (data : Nat) (status : UInt8) (error : Option String) :
    (Effect.attrListCb data status none error).Barren := by
  intro infos same
  cases same

namespace Att

variable {att next : Att} {rd : ReadData} {out : List Effect} {status : UInt8} {buf : Buf} {len : Int}
  {error : Option String}

theorem write_barren {encoded : Except Fault (List UInt8 × Nat)} (sent : write encoded = .ok out) :
    ∀ effect ∈ out, effect.Barren := by
  obtain ⟨written, _, sent⟩ := bind_ok sent
  cases sent
  rw [List.forall_mem_singleton]
  exact barren_unanswered rfl

theorem request_barren {send : Att → Except Fault (List Effect)} {refuse : Option String → Effect}
    (sends : ∀ att out, send att = .ok out → ∀ effect ∈ out, effect.Barren)
    (refuses : ∀ text, (refuse text).Barren) (h : att.request rd send refuse = .ok (next, out)) :
    next.attributeList = att.attributeList ∧ ∀ effect ∈ out, effect.Barren := by
  cases slot : att.currentRequest with
  | none =>
    unfold request setCurrentRequest at h
    simp only [slot] at h
    obtain ⟨written, sent, returned⟩ := bind_ok h
    cases returned
    exact ⟨rfl, sends _ _ sent⟩
  | some pending =>
    rw [request_refused slot] at h
    cases h
    rw [List.forall_mem_singleton]
    exact ⟨rfl, refuses _⟩

theorem perform_barren {call : Call} (h : att.perform call = .ok (next, out)) :
    next.attributeList = att.attributeList ∧ ∀ effect ∈ out, effect.Barren := by
  cases token : call.token with
  | none =>
    have quiet := perform_unrequested token h
    exact ⟨quiet.attributeList, fun effect member => barren_unanswered (quiet.uncalled effect member)⟩
  | some data =>
    cases call with
    | writeCommand | writeRequest | listenForNotifications | onError => cases token
    | findInformation | findByTypeValue | readByType | readByGroupType =>
      refine request_barren (fun _ _ => write_barren) ?_ h
      exact barren_unlisted data 0
    | readAttribute =>
      refine request_barren (fun _ _ => write_barren) ?_ h
      exact fun _ => rfl

theorem finish_barren {α : Type} {accumulator : Accumulator α}
    (other : ∀ list infos, accumulator.list list ≠ .infos infos)
    (h : finish accumulator att rd status error = .ok (next, out)) : ∀ effect ∈ out, effect.Barren := by
  cases h
  rw [List.forall_mem_singleton]
  intro infos same
  obtain ⟨collected, _, listed⟩ := Option.map_eq_some_iff.mp same
  exact other collected infos listed

theorem collectPage_barren {α : Type} {accumulator : Accumulator α}
    {parse : List α → Except Fault (List α)} {handle : α → UInt16}
    {again : Att → UInt16 → Except Fault (List Effect)}
    (sends : ∀ att start out, again att start = .ok out → ∀ effect ∈ out, effect.Barren)
    (other : ∀ list infos, accumulator.list list ≠ .infos infos)
    (kept : ∀ att list, (accumulator.set att list).attributeList = att.attributeList)
    (h : collectPage accumulator att rd parse handle again error = .ok (next, out)) :
    next.attributeList = att.attributeList ∧ ∀ effect ∈ out, effect.Barren := by
  obtain ⟨list, back, _, ⟨written, sent, rfl, rfl⟩ | ended⟩ := collectPage_cases h
  · exact ⟨kept _ _, sends _ _ _ sent⟩
  · refine ⟨?_, finish_barren other ended⟩
    cases ended
    exact (kept _ _).trans (kept _ _)

theorem callbackCurrentRequest_barren (pending : att.currentRequest = some rd)
    (nothing : att.attributeList = none) (unread : rd.callback.Looks → buf = none)
    (h : att.callbackCurrentRequest status buf len error = .ok (next, out)) :
    next.attributeList = none ∧ ∀ effect ∈ out, effect.Barren := by
  unfold callbackCurrentRequest at h
  rw [pending] at h
  rw [← nothing]
  cases kind : rd.callback with
  | onFindInfo =>
    cases unread (by rw [kind]; trivial)
    simp only [kind] at h
    have finishes {status : UInt8} {error : Option String}
        (ended : finish .attributeList att rd status error = .ok (next, out)) :
        next.attributeList = att.attributeList ∧ ∀ effect ∈ out, effect.Barren := by
      cases ended
      rw [List.forall_mem_singleton]
      have empty : Accumulator.attributeList.get att = none := nothing
      refine ⟨nothing.symm, fun infos same => ?_⟩
      rw [empty] at same
      cases same
    unfold handleFindInfo at h
    split at h
    · obtain ⟨list, parsed, _⟩ := bind_ok h
      cases parsed
    · split at h <;> exact finishes h
  | onFindByType =>
    simp only [kind] at h
    unfold handleFindByType at h
    have finishes {status : UInt8} {error : Option String}
        (ended : finish .handlesInfoList att rd status error = .ok (next, out)) :
        next.attributeList = att.attributeList ∧ ∀ effect ∈ out, effect.Barren := by
      refine ⟨?_, finish_barren (fun _ _ => AttributeList.noConfusion) ended⟩
      cases ended
      rfl
    split at h
    · exact collectPage_barren (fun _ _ _ => write_barren) (fun _ _ => AttributeList.noConfusion)
        (fun _ _ => rfl) h
    · split at h
      · split at h
        · cases h
          rw [List.forall_mem_singleton]
          exact ⟨rfl, barren_unlisted rd.data 0 _⟩
        · exact finishes h
      · exact finishes h
  | onReadByType =>
    simp only [kind] at h
    unfold handleReadByType at h
    split at h
    · cases h
      rw [List.forall_mem_singleton]
      exact ⟨rfl, by simp [Effect.Barren]⟩
    · obtain ⟨list, _, returned⟩ := bind_ok h
      cases returned
      rw [List.forall_mem_singleton]
      exact ⟨rfl, by simp [Effect.Barren]⟩
  | onReadByGroupType =>
    simp only [kind] at h
    unfold handleReadByGroupType at h
    have finishes {status : UInt8} {error : Option String}
        (ended : finish .groupAttributeList att rd status error = .ok (next, out)) :
        next.attributeList = att.attributeList ∧ ∀ effect ∈ out, effect.Barren := by
      refine ⟨?_, finish_barren (fun _ _ => AttributeList.noConfusion) ended⟩
      cases ended
      rfl
    split at h
    · exact collectPage_barren (fun _ _ _ => write_barren) (fun _ _ => AttributeList.noConfusion)
        (fun _ _ => rfl) h
    · split at h <;> exact finishes h
  | onReadAttribute =>
    cases unread (by rw [kind]; trivial)
    simp only [kind] at h
    cases h
    rw [List.forall_mem_singleton]
    exact ⟨rfl, rfl⟩

end Att

end Btle.Client

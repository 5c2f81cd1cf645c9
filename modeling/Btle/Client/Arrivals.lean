import Btle.Client.Asking
import Btle.Client.Completeness

namespace Btle.Client

/-- What is delivered to the pending request: a failure with a text, or a payload. -/
inductive Delivery
  | failure (status : UInt8) (message : String)
  | payload (bytes : List UInt8)
  deriving DecidableEq, Repr

def Delivery.hand (att : Att) : Delivery → Result
  | .failure status message => att.callbackCurrentRequest status none 0 (some message)
  | .payload bytes => att.callbackCurrentRequest 0 (some bytes) bytes.length none

/-- All that can become of what the connection reads. -/
inductive Arrival (att : Att) : Event → Result → Prop
  | short (bytes : List UInt8) : Arrival att (.received bytes) (.error .outOfBounds)
  | failed (rd : ReadData) (low high status : UInt8) (rest : List UInt8) (message : String)
      (pending : att.currentRequest = some rd) :
      Arrival att (.received (attOpError :: rd.request :: low :: high :: status :: rest))
        ((Delivery.failure status message).hand att)
  | disconnected (message : String) :
      Arrival att (.readError message) ((Delivery.failure 0 message).hand att)
  | responded (opcode : UInt8) (bytes : List UInt8) (rd : ReadData) (other : opcode ≠ attOpError)
      (pending : att.currentRequest = some rd) :
      Arrival att (.received (opcode :: bytes)) ((Delivery.payload bytes).hand att)
  | notified (low high : UInt8) (bytes : List UInt8) (data : Nat)
      (found : att.notificationMap.lookup (UInt16.ofNat (LittleEndian.number [low, high])) = some data) :
      Arrival att (.received (attOpHandleNotify :: low :: high :: bytes))
        (.ok (att, [.notification data 0 (some bytes) bytes.length none]))
  | reported (bytes : List UInt8) (message : String)
      (stranger : ∀ rd low high status rest, att.currentRequest = some rd →
        bytes ≠ attOpError :: rd.request :: low :: high :: status :: rest) :
      Arrival att (.received bytes) (att.reportError message)

theorem received_arrival (att : Att) (bytes : List UInt8) :
    Arrival att (.received bytes) (step att (.received bytes)) := by
  cases bytes with
  | nil => exact .short []
  | cons opcode rest =>
    by_cases errs : opcode = attOpError
    · subst errs
      by_cases complete : 5 ≤ (attOpError :: rest).length
      · obtain ⟨request, low, high, status, more, same⟩ := error_shape rfl complete
        cases same
        rw [step_received_error]
        dsimp only
        split
        · rename_i named
          obtain ⟨rd, pending, rfl⟩ := Option.map_eq_some_iff.mp named
          exact .failed rd low high status more _ pending
        · rename_i unnamed
          apply Arrival.reported
          intro rd low' high' status' rest' pending same
          cases same
          exact unnamed (by rw [pending, Option.map_some])
      · rw [step_received_short_error att rfl (by omega)]
        exact .short _
    · by_cases notifies : opcode = attOpHandleNotify
      · subst notifies
        by_cases complete : 3 ≤ (attOpHandleNotify :: rest).length
        · obtain ⟨low, high, payload, same⟩ := notify_shape rfl complete
          cases same
          rw [step_received_notify]
          dsimp only
          split
          · rename_i data found
            exact .notified low high payload data found
          · apply Arrival.reported
            intro rd low' high' status rest' _ same
            cases same
        · rw [step_received_short_notify att rfl (by omega)]
          exact .short _
      · rw [step_received_response att rest errs notifies]
        split
        · rename_i rd pending
          exact .responded opcode rest rd errs pending
        · apply Arrival.reported
          intro rd low high status rest' _ same
          cases same
          exact errs rfl

theorem reportError_ok (att : Att) (message : String) :
    ∃ out, att.reportError message = .ok (att, out) ∧
      ∀ effect ∈ out, ∃ data, effect = .errorHandler data message := by
  unfold Att.reportError
  split
  · rename_i data _
    exact ⟨_, rfl, List.forall_mem_singleton.mpr ⟨data, rfl⟩⟩
  · exact ⟨[], rfl, List.forall_mem_nil _⟩

theorem Delivery.hand_frames {Field : Type} {field : Att → Field} (unlisted : Unlisted field) {att next : Att}
    {delivery : Delivery} {out : List Effect} (h : delivery.hand att = .ok (next, out)) :
    field next = field att := by
  cases delivery <;> exact Att.callbackCurrentRequest_frames unlisted h

theorem arrival_frames {Field : Type} {field : Att → Field} (unlisted : Unlisted field) {att next : Att}
    {event : Event} {result : Result} {out : List Effect} (arrival : Arrival att event result)
    (h : result = .ok (next, out)) : field next = field att := by
  cases arrival with
  | short => cases h
  | failed | disconnected | responded => exact Delivery.hand_frames unlisted h
  | notified =>
    cases h
    rfl
  | reported bytes message =>
    obtain ⟨told, reported, _⟩ := reportError_ok att message
    rw [reported] at h
    cases h
    rfl

/-- The lists that a callback is made for. -/
def ReadCallback.Lists : ReadCallback → Option AttributeList → Prop
  | .onFindInfo, none | .onFindInfo, some (.infos _) => True
  | .onFindByType, none | .onFindByType, some (.handles _) => True
  | .onReadByType, none | .onReadByType, some (.values _) => True
  | .onReadByGroupType, none | .onReadByGroupType, some (.groups _) => True
  | _, _ => False

/-- What the callback of a request has to reckon with: a status comes with a text, and a value with
    as many bytes as it is said to have. -/
def ReadCallback.Takes (kind : ReadCallback) (data : Nat) : Effect → Prop
  | .write _ => True
  | .attrListCb token status list error =>
    token = data ∧ kind.Lists list ∧ (status = 0 ∨ error ≠ none)
  | .readAttrCb token status buf len error =>
    token = data ∧ kind = .onReadAttribute ∧ (status = 0 ∨ error ≠ none) ∧
      (error = none → ∃ bytes, buf = some bytes ∧ len = bytes.length)
  | .notification .. | .errorHandler .. => False

/-- What a search without a first page and one that failed is told is the same but for its list. -/
def Att.NothingFound (att : Att) (rd : ReadData) : Delivery → Prop
  | .failure status _ => status = attEcodeAttrNotFound ∧
      (rd.callback = .onFindInfo ∧ att.attributeList = none ∨
        rd.callback = .onReadByGroupType ∧ att.groupAttributeList = none)
  | .payload _ => False

/-- A success without a list. -/
def Effect.Listless (effect : Effect) : Prop := ∃ data, effect = .attrListCb data 0 none none

section Handed

variable {att next : Att} {rd : ReadData} {out : List Effect} {delivery : Delivery}

/-- The request's callback can take the effect, which is a success without a list in one case. -/
def Handed (rd : ReadData) (listless : Prop) (effect : Effect) : Prop :=
  rd.callback.Takes rd.data effect ∧ (effect.Listless ↔ listless)

theorem Handed.congr {listless other : Prop} (same : listless ↔ other)
    (handed : ∀ effect ∈ out, Handed rd listless effect) : ∀ effect ∈ out, Handed rd other effect :=
  fun effect member => ⟨(handed effect member).1, (handed effect member).2.trans same⟩

theorem handed_list {status : UInt8} {list : Option AttributeList} {error : Option String}
    {listless : Prop} (lists : rd.callback.Lists list) (told : status = 0 ∨ error ≠ none)
    (only : status = 0 ∧ list = none ∧ error = none ↔ listless) :
    ∀ effect ∈ [Effect.attrListCb rd.data status list error], Handed rd listless effect := by
  rw [List.forall_mem_singleton]
  refine ⟨⟨rfl, lists, told⟩, Iff.trans ⟨?_, ?_⟩ only⟩
  · intro empty
    obtain ⟨data, same⟩ := empty
    cases same
    exact ⟨rfl, rfl, rfl⟩
  · intro empty
    obtain ⟨rfl, rfl, rfl⟩ := empty
    exact ⟨rd.data, rfl⟩

theorem write_handed {encoded : Except Fault (List UInt8 × Nat)} (sent : Att.write encoded = .ok out) :
    ∀ effect ∈ out, Handed rd False effect := by
  obtain ⟨pdu, rfl⟩ := Att.write_writes sent
  rw [List.forall_mem_singleton]
  exact ⟨trivial, nofun, False.elim⟩

theorem collectPage_handed {α : Type} {accumulator : Accumulator α}
    {parse : List α → Except Fault (List α)} {handle : α → UInt16}
    {again : Att → UInt16 → Except Fault (List Effect)} {error : Option String}
    (lists : ∀ list, rd.callback.Lists (some (accumulator.list list)))
    (sends : ∀ att start out, again att start = .ok out → ∀ effect ∈ out, Handed rd False effect)
    (h : Att.collectPage accumulator att rd parse handle again error = .ok (next, out)) :
    ∀ effect ∈ out, Handed rd False effect := by
  obtain ⟨list, back, _, ⟨written, sent, _, rfl⟩ | ended⟩ := Att.collectPage_cases h
  · exact sends _ _ _ sent
  · cases ended
    rw [accumulator.get_set]
    exact handed_list (lists list) (.inl rfl) ⟨nofun, False.elim⟩

/-- The two discoveries that do not tell a first page without anything from the end of their list. -/
theorem search_handed {α : Type} {accumulator : Accumulator α} {status : UInt8} {message : String}
    {parse : List α → Except Fault (List α)} {handle : α → UInt16}
    {again : Att → UInt16 → Except Fault (List Effect)}
    (lists : ∀ list, rd.callback.Lists (some (accumulator.list list))) (empty : rd.callback.Lists none)
    (sends : ∀ att start out, again att start = .ok out → ∀ effect ∈ out, Handed rd False effect)
    (h : (if status = 0 then Att.collectPage accumulator att rd parse handle again (some message)
      else if status = attEcodeAttrNotFound then Att.finish accumulator att rd 0 none
      else Att.finish accumulator att rd status (some message)) = .ok (next, out)) :
    ∀ effect ∈ out, Handed rd (status = attEcodeAttrNotFound ∧ accumulator.get att = none) effect := by
  have any : rd.callback.Lists ((accumulator.get att).map accumulator.list) := by
    cases accumulator.get att with
    | none => exact empty
    | some list => exact lists list
  split at h
  · rename_i fine
    apply Handed.congr _ (collectPage_handed lists sends h)
    rw [fine]
    exact ⟨False.elim, fun nothing => absurd nothing.1 (by decide)⟩
  · rename_i failed
    split at h
    · rename_i nothing
      cases h
      apply handed_list any (.inl rfl)
      simp only [Option.map_eq_none_iff, nothing, true_and, and_true]
    · rename_i other
      cases h
      apply handed_list any (.inr (Option.some_ne_none message))
      simp only [failed, other, false_and]

/-- The discovery by value takes a first page without anything for the end of an empty list. -/
theorem findByType_handed {status : UInt8} {message : String} (kind : rd.callback = .onFindByType)
    (h : att.handleFindByType status rd none 0 (some message) = .ok (next, out)) :
    ∀ effect ∈ out, Handed rd False effect := by
  simp only [Att.handleFindByType] at h
  split at h
  · exact collectPage_handed (by rw [kind]; exact fun _ => trivial) (fun _ _ _ => write_handed) h
  · rename_i failed
    split at h
    · rename_i nothing
      split at h
      · cases h
        rw [nothing]
        exact handed_list (by rw [kind]; trivial) (.inl rfl)
          ⟨fun empty => Option.some_ne_none _ empty.2.2, False.elim⟩
      · rename_i list collected
        have held : Accumulator.handlesInfoList.get att = some list := collected
        unfold Att.finish at h
        cases h
        rw [held]
        exact handed_list (by rw [kind]; trivial) (.inl rfl) (by simp)
    · cases h
      apply handed_list _ (.inr (Option.some_ne_none message))
      · simp only [failed, false_and]
      · rw [kind]
        cases Accumulator.handlesInfoList.get att <;> trivial

theorem hand_handed (pending : att.currentRequest = some rd) (h : delivery.hand att = .ok (next, out)) :
    ∀ effect ∈ out, Handed rd (att.NothingFound rd delivery) effect := by
  cases delivery with
  | payload bytes =>
    simp only [Delivery.hand, Att.callbackCurrentRequest, pending] at h
    cases kind : rd.callback with
    | onFindInfo =>
      simp only [kind, Att.handleFindInfo, if_true] at h
      exact collectPage_handed (by rw [kind]; exact fun _ => trivial) (fun _ _ _ => write_handed) h
    | onFindByType =>
      simp only [kind, Att.handleFindByType, if_true] at h
      exact collectPage_handed (by rw [kind]; exact fun _ => trivial) (fun _ _ _ => write_handed) h
    | onReadByGroupType =>
      simp only [kind, Att.handleReadByGroupType, if_true] at h
      exact collectPage_handed (by rw [kind]; exact fun _ => trivial) (fun _ _ _ => write_handed) h
    | onReadByType =>
      simp only [kind, Att.handleReadByType] at h
      obtain ⟨list, _, returned⟩ := bind_ok h
      cases returned
      exact handed_list (by rw [kind]; trivial) (.inl rfl) ⟨by simp, False.elim⟩
    | onReadAttribute =>
      simp only [kind] at h
      cases h
      rw [List.forall_mem_singleton]
      exact ⟨⟨rfl, kind, .inl rfl, fun _ => ⟨bytes, rfl, rfl⟩⟩, by simp [Effect.Listless], False.elim⟩
  | failure status message =>
    simp only [Delivery.hand, Att.callbackCurrentRequest, pending] at h
    unfold Att.NothingFound
    cases kind : rd.callback with
    | onFindInfo =>
      simp only [kind, Att.handleFindInfo] at h
      simp only [true_and, reduceCtorEq, false_and, or_false]
      exact search_handed (by rw [kind]; exact fun _ => trivial) (by rw [kind]; trivial)
        (fun _ _ _ => write_handed) h
    | onReadByGroupType =>
      simp only [kind, Att.handleReadByGroupType] at h
      simp only [true_and, reduceCtorEq, false_and, false_or]
      exact search_handed (by rw [kind]; exact fun _ => trivial) (by rw [kind]; trivial)
        (fun _ _ _ => write_handed) h
    | onFindByType =>
      simp only [kind] at h
      simp only [reduceCtorEq, false_and, or_false, and_false]
      exact findByType_handed kind h
    | onReadByType =>
      simp only [kind, Att.handleReadByType] at h
      cases h
      simp only [reduceCtorEq, false_and, or_false, and_false]
      exact handed_list (by rw [kind]; trivial) (.inr (Option.some_ne_none message)) (by simp)
    | onReadAttribute =>
      simp only [kind] at h
      cases h
      simp only [reduceCtorEq, false_and, or_false, and_false]
      rw [List.forall_mem_singleton]
      exact ⟨⟨rfl, kind, .inr (Option.some_ne_none message), by simp⟩, by simp [Effect.Listless], False.elim⟩

theorem nothingFound_hand (pending : att.currentRequest = some rd)
    (nothing : att.NothingFound rd delivery) :
    ∃ next, delivery.hand att = .ok (next, [.attrListCb rd.data 0 none none]) := by
  cases delivery with
  | payload => exact nothing.elim
  | failure status message =>
    obtain ⟨rfl, ⟨kind, empty⟩ | ⟨kind, empty⟩⟩ := nothing
    · have unlisted : Accumulator.attributeList.get att = none := empty
      refine ⟨(Accumulator.attributeList.set att none).removeCurrentRequest, ?_⟩
      simp only [Delivery.hand, Att.callbackCurrentRequest, pending, kind, Att.handleFindInfo,
        if_neg notFound_failed, if_true, Att.finish, unlisted, Option.map_none]
    · have unlisted : Accumulator.groupAttributeList.get att = none := empty
      refine ⟨(Accumulator.groupAttributeList.set att none).removeCurrentRequest, ?_⟩
      simp only [Delivery.hand, Att.callbackCurrentRequest, pending, kind, Att.handleReadByGroupType,
        if_neg notFound_failed, if_true, Att.finish, unlisted, Option.map_none]

end Handed

/-- The callback of a request. -/
def Call.callback : Call → Option ReadCallback
  | .findInformation .. => some .onFindInfo
  | .findByTypeValue .. => some .onFindByType
  | .readByType .. => some .onReadByType
  | .readByGroupType .. => some .onReadByGroupType
  | .readAttribute .. => some .onReadAttribute
  | .writeCommand .. | .writeRequest .. | .listenForNotifications .. | .onError .. => none

/-- What a request leads to, which takes the slot or is refused with a text. -/
inductive Asked (att : Att) (kind : ReadCallback) (data : Nat) : Att → List Effect → Prop
  | accepted (rd : ReadData) (pdu : List UInt8) (free : att.currentRequest = none) (own : rd.data = data)
      (called : rd.callback = kind) : Asked att kind data { att with currentRequest := some rd } [.write pdu]
  | refused (effect : Effect) (own : effect.answered = some data) (takes : kind.Takes data effect)
      (listed : ¬ effect.Listless) : Asked att kind data att [effect]

theorem request_asked {att next : Att} {rd : ReadData} {out : List Effect}
    {send : Att → Except Fault (List Effect)} {refuse : Option String → Effect}
    (sends : ∀ att out, send att = .ok out → ∃ pdu, out = [.write pdu])
    (own : ∀ text, (refuse (some text)).answered = some rd.data)
    (takes : ∀ text, rd.callback.Takes rd.data (refuse (some text)))
    (listed : ∀ text, ¬ (refuse (some text)).Listless)
    (h : att.request rd send refuse = .ok (next, out)) : Asked att rd.callback rd.data next out := by
  cases slot : att.currentRequest with
  | none =>
    unfold Att.request Att.setCurrentRequest at h
    simp only [slot] at h
    obtain ⟨written, sent, returned⟩ := bind_ok h
    obtain ⟨pdu, rfl⟩ := sends _ _ sent
    cases returned
    exact .accepted rd pdu slot rfl rfl
  | some pending =>
    rw [Att.request_refused slot] at h
    cases h
    exact .refused _ (own _) (takes _) (listed _)

theorem perform_asked {att next : Att} {call : Call} {kind : ReadCallback} {data : Nat} {out : List Effect}
    (token : call.token = some data) (callback : call.callback = some kind)
    (h : att.perform call = .ok (next, out)) : Asked att kind data next out := by
  cases call with
  | writeCommand | writeRequest | listenForNotifications | onError => cases token
  | findInformation | findByTypeValue | readByType | readByGroupType =>
    cases token
    cases callback
    refine request_asked (fun _ _ sent => Att.write_writes sent) (fun _ => rfl) ?_ ?_ h
    · exact fun _ => ⟨rfl, trivial, .inl rfl⟩
    · exact fun _ => nofun
  | readAttribute =>
    cases token
    cases callback
    refine request_asked (fun _ _ sent => Att.write_writes sent) (fun _ => rfl) ?_ ?_ h
    · exact fun _ => ⟨rfl, rfl, .inl rfl, nofun⟩
    · exact fun _ => nofun

theorem Asked.frames {att next : Att} {kind : ReadCallback} {data : Nat} {out : List Effect}
    (asked : Asked att kind data next out) : next.notificationMap = att.notificationMap := by
  cases asked <;> rfl

theorem perform_write {att next : Att} {handle : UInt16} {value : List UInt8} {out : List Effect}
    (h : att.perform (.writeCommand handle value) = .ok (next, out)) :
    next = att ∧ ∃ pdu, out = [.write pdu] := by
  obtain ⟨written, sent, returned⟩ := bind_ok h
  cases returned
  exact ⟨rfl, Att.write_writes sent⟩

/-- `std::map::insert` makes an entry only for a handle that has none. -/
theorem perform_listen {att next : Att} {handle : UInt16} {data : Nat} {out : List Effect}
    (h : att.perform (.listenForNotifications handle data) = .ok (next, out)) :
    out = [] ∧ next.currentRequest = att.currentRequest ∧ next.notificationMap =
      if (att.notificationMap.lookup handle).isSome then att.notificationMap
      else (handle, data) :: att.notificationMap := by
  simp only [Att.perform, Att.listenForNotifications] at h
  split at h
  · rename_i found
    cases h
    rw [found]
    exact ⟨rfl, rfl, rfl⟩
  · rename_i missing
    cases h
    rw [missing]
    exact ⟨rfl, rfl, rfl⟩

end Btle.Client

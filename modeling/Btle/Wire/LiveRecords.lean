import Btle.Wire.Ownership

namespace Btle.Wire.Peripheral

open Client Machine

section Handling

variable {method : Method} {kind : ReadCallback} {status : UInt8} {list : Option AttributeList}
  {error : Option String}
  {handle : UInt8 → Option AttributeList → Option String → Except ListFault Answer}

theorem handleList_cases {α : Type} (entry : α → Entry) (found : Option (List α)) :
    (status = 0 ∧ found = none ∧ error = none ∧
      Client.Peripheral.handleList entry status found error = .error .nullList) ∨
      ¬ (status = 0 ∧ found = none ∧ error = none) ∧
        ∃ answer, Client.Peripheral.handleList entry status found error = .ok answer := by
  unfold Client.Peripheral.handleList
  cases error with
  | some text => exact .inr ⟨nofun, _, rfl⟩
  | none =>
    dsimp only
    split
    · rename_i fine
      cases found with
      | none => exact .inl ⟨fine, rfl, rfl, rfl⟩
      | some found => exact .inr ⟨nofun, _, rfl⟩
    · rename_i failed
      exact .inr ⟨fun all => failed all.1, _, rfl⟩

/-- How a list callback ends: it goes through a null list, or calls back with an answer. -/
def Ends (handle : UInt8 → Option AttributeList → Option String → Except ListFault Answer) (status : UInt8)
    (list : Option AttributeList) (error : Option String) : Prop :=
  (status = 0 ∧ list = none ∧ error = none ∧ handle status list error = .error .nullList) ∨
    ¬ (status = 0 ∧ list = none ∧ error = none) ∧ ∃ answer, handle status list error = .ok answer

theorem ends_of {α : Type} (entry : α → Entry) (found : Option (List α))
    (same : handle status list error = Client.Peripheral.handleList entry status found error)
    (null : list = none ↔ found = none) : Ends handle status list error := by
  unfold Ends
  rw [same, null]
  exact handleList_cases entry found

/-- The list callback of a method gets through every list of its own kind, but for a success without one. -/
theorem onList_ends (status : UInt8) (error : Option String) (asks : method.kind = some kind)
    (lists : kind.Lists list) (handles : method.onList = some handle) : Ends handle status list error := by
  cases method with
  | readHandle | writeCommand | addNotificationListener => cases handles
  | findInformation =>
    cases asks
    cases handles
    rcases list with _ | ⟨list⟩ | _ | _ | _
    · exact ends_of Entry.info none rfl (iff_of_true rfl rfl)
    · exact ends_of Entry.info (some list) rfl (iff_of_false nofun nofun)
    all_goals exact lists.elim
  | findByTypeValue =>
    cases asks
    cases handles
    rcases list with _ | _ | ⟨list⟩ | _ | _
    · exact ends_of Entry.handles none rfl (iff_of_true rfl rfl)
    · exact lists.elim
    · exact ends_of Entry.handles (some list) rfl (iff_of_false nofun nofun)
    all_goals exact lists.elim
  | readByType =>
    cases asks
    cases handles
    rcases list with _ | _ | _ | ⟨list⟩ | _
    · exact ends_of Entry.value none rfl (iff_of_true rfl rfl)
    · exact lists.elim
    · exact lists.elim
    · exact ends_of Entry.value (some list) rfl (iff_of_false nofun nofun)
    · exact lists.elim
  | readByGroupType =>
    cases asks
    cases handles
    rcases list with _ | _ | _ | _ | ⟨list⟩
    · exact ends_of Entry.group none rfl (iff_of_true rfl rfl)
    · exact lists.elim
    · exact lists.elim
    · exact lists.elim
    · exact ends_of Entry.group (some list) rfl (iff_of_false nofun nofun)

end Handling

section Deliver

variable {binding : Binding} {effect : Effect} {method : Method} {kind : ReadCallback} {data : Nat}

/-- The record was made by the method, and has a function to call. -/
def Binding.Knows (binding : Binding) (data : Nat) (method : Method) : Prop :=
  binding.methods[data]? = some method ∧
    ∃ cd callback, binding.callbackData[data]? = some cd ∧ cd.data = some callback

theorem errorText_ok (status : UInt8) {error : Option String} (told : error ≠ none) :
    ∃ text, errorText status error = .ok text := by
  obtain ⟨text, rfl⟩ := Option.ne_none_iff_exists'.mp told
  exact ⟨text, rfl⟩

theorem readArgv_ok {status : UInt8} {buf : Buf} {len : Int} {error : Option String}
    (told : status = 0 ∨ error ≠ none)
    (whole : error = none → ∃ bytes, buf = some bytes ∧ len = bytes.length) :
    ∃ argv, readArgv status buf len error = .ok argv := by
  unfold readArgv
  split
  · rename_i fine
    obtain ⟨bytes, rfl, rfl⟩ := whole fine.2
    have copies : copied (some bytes) bytes.length = .ok (bytes.take (bytes.length : Int).toNat) :=
      if_pos ⟨Int.natCast_nonneg _, Int.le_refl _⟩
    rw [copies]
    exact ⟨_, rfl⟩
  · rename_i failed
    have given : error ≠ none := by
      rintro rfl
      rcases told with fine | given
      · exact failed ⟨fine, rfl⟩
      · exact given rfl
    obtain ⟨text, told⟩ := errorText_ok status given
    rw [told]
    exact ⟨_, rfl⟩

namespace Binding

theorem follow_knows (alive : data ∉ binding.deleted) (knows : binding.Knows data method) :
    ∃ cd callback, binding.follow data = .ok (method, cd) ∧ cd.data = some callback := by
  obtain ⟨known, cd, callback, recorded, has⟩ := knows
  refine ⟨cd, callback, ?_, has⟩
  simp only [follow, if_neg alive, known, recorded]

theorem call_completes {cd : CallbackData} {callback : Nat} (argv : Argv) (behind : Option Nat)
    (has : cd.data = some callback) :
    ∃ done, binding.call method data cd argv behind = .ok done := by
  unfold call
  rw [has]
  exact ⟨_, rfl⟩

theorem onList_reads {status : UInt8} {list : Option AttributeList} {error : Option String}
    {cd : CallbackData} {handle : UInt8 → Option AttributeList → Option String → Except ListFault Answer}
    (follows : binding.follow data = .ok (method, cd)) (handles : method.onList = some handle)
    (told : status = 0 ∨ error ≠ none) :
    binding.onList data status list error =
      match handle status list error with
      | .error fault => .error (.list fault)
      | .ok answer => binding.call method data cd (.list answer) (some data) := by
  simp only [onList, follows, handles, bind, Except.bind]
  split
  · rename_i failed
    obtain ⟨text, ready⟩ := errorText_ok status (told.resolve_left failed)
    cases handle status list error <;> simp [ready]
  · cases handle status list error <;> rfl

/-- The callback of a live record gets through all that its request can be told, but for a success
    without a list. -/
theorem deliver_ends (alive : data ∉ binding.deleted) (knows : binding.Knows data method)
    (asks : method.kind = some kind) (takes : kind.Takes data effect) :
    effect.Listless ∧ binding.deliver effect = .error (.list .nullList) ∨
      ¬ effect.Listless ∧ ∃ done, binding.deliver effect = .ok done := by
  obtain ⟨cd, callback, follows, has⟩ := follow_knows alive knows
  cases effect with
  | write pdu => exact .inr ⟨nofun, _, rfl⟩
  | notification | errorHandler => exact takes.elim
  | attrListCb token status list error =>
    obtain ⟨rfl, lists, told⟩ := takes
    have listless : (Effect.attrListCb token status list error).Listless ↔
        status = 0 ∧ list = none ∧ error = none := by
      constructor
      · rintro ⟨other, same⟩
        cases same
        exact ⟨rfl, rfl, rfl⟩
      · rintro ⟨rfl, rfl, rfl⟩
        exact ⟨token, rfl⟩
    rw [listless]
    cases handles : method.onList with
    | none =>
      cases method <;> cases handles <;> cases asks
      exact lists.elim
    | some handle =>
      show _ ∧ binding.onList token status list error = _ ∨ _ ∧ ∃ done,
        binding.onList token status list error = .ok done
      rw [onList_reads follows handles told]
      rcases onList_ends status error asks lists handles with
        ⟨rfl, rfl, rfl, null⟩ | ⟨other, answer, answers⟩
      · rw [null]
        exact .inl ⟨⟨rfl, rfl, rfl⟩, rfl⟩
      · rw [answers]
        exact .inr ⟨other, call_completes _ _ has⟩
  | readAttrCb token status buf len error =>
    obtain ⟨rfl, rfl, told, whole⟩ := takes
    have reads : method = .readHandle := by
      cases method <;> cases asks
      rfl
    subst reads
    obtain ⟨argv, ready⟩ := readArgv_ok told whole
    refine .inr ⟨nofun, ?_⟩
    simp only [deliver, onReadAttribute, follows, ready, bind, Except.bind, if_true]
    exact call_completes _ _ has

theorem notification_ends (alive : data ∉ binding.deleted)
    (knows : binding.Knows data .addNotificationListener) (bytes : List UInt8) :
    ∃ done, binding.deliver (.notification data 0 (some bytes) bytes.length none) = .ok done := by
  obtain ⟨cd, callback, follows, has⟩ := follow_knows alive knows
  have told : (0 : UInt8) = 0 ∨ (none : Option String) ≠ none := .inl rfl
  obtain ⟨argv, ready⟩ := readArgv_ok told fun _ => ⟨bytes, rfl, rfl⟩
  simp only [deliver, onReadNotification, follows, ready, bind, Except.bind, if_true]
  exact call_completes _ _ has

theorem onWrite_ends (error : Option String) (alive : data ∉ binding.deleted)
    (length : binding.methods.length = binding.count) (made : data < binding.count) :
    ∃ done, binding.onWrite data error = .ok done := by
  obtain ⟨cd, recorded⟩ : ∃ cd, binding.callbackData[data]? = some cd := ⟨_, List.getElem?_eq_getElem made⟩
  rw [← length] at made
  obtain ⟨method, known⟩ : ∃ method, binding.methods[data]? = some method :=
    ⟨_, List.getElem?_eq_getElem made⟩
  have follows : binding.follow data = .ok (method, cd) := by
    simp only [follow, if_neg alive, known, recorded]
  simp only [onWrite, follows, bind, Except.bind]
  cases has : cd.data with
  | none =>
    cases error with
    | none => exact ⟨_, if_neg alive⟩
    | some text => exact ⟨_, rfl⟩
  | some callback =>
    cases error with
    | none => exact call_completes _ _ has
    | some text => exact call_completes _ _ has

theorem deliverAll_single (effect : Effect) :
    binding.deliverAll [effect] = (binding.deliver effect).map fun done => (done.1, done.2 ++ []) := by
  simp only [deliverAll, bind, Except.bind]
  cases binding.deliver effect <;> rfl

end Binding

end Deliver

namespace Binding

/-- What the callbacks rely on: the pending request and every listener have their own record. -/
structure Sound (binding : Binding) : Prop extends Kept binding where
  slot : ∀ rd, binding.att.currentRequest = some rd →
    ∃ method, method.kind = some rd.callback ∧ binding.Knows rd.data method
  listeners : ∀ entry ∈ binding.att.notificationMap, binding.Knows entry.2 .addNotificationListener

section Sound

variable {outside : Outside} {binding next : Binding} {event : BindingEvent} {out : List Output}

theorem new_sound (connection : Connection) : (new connection).Sound where
  toKept := new_kept connection
  slot _ pending := nomatch pending
  listeners _ member := nomatch member

theorem Knows.extends {data : Nat} {method : Method} (knows : binding.Knows data method)
    (extended : Extends binding next) : next.Knows data method := by
  obtain ⟨known, cd, callback, recorded, has⟩ := knows
  have own : next.Own (.called method data callback .done) := extended.own ⟨known, cd, recorded, has⟩
  obtain ⟨known', cd', recorded', has'⟩ := own
  exact ⟨known', cd', callback, recorded', has'⟩

/-- With the same request or none, and the same listeners. -/
theorem Sound.of_same (sound : binding.Sound) (kept : next.Kept) (extended : Extends binding next)
    (slot : next.att.currentRequest = none ∨ next.att.currentRequest = binding.att.currentRequest)
    (listeners : next.att.notificationMap = binding.att.notificationMap) : next.Sound where
  toKept := kept
  slot rd pending := by
    rcases slot with free | same
    · cases free.symm.trans pending
    · obtain ⟨method, asks, knows⟩ := sound.slot rd (same ▸ pending)
      exact ⟨method, asks, knows.extends extended⟩
  listeners entry member := (sound.listeners entry (listeners ▸ member)).extends extended

theorem made_knows {method : Method} {cd : CallbackData} {att : Att}
    (length : binding.methods.length = binding.count) (has : cd.data.isSome) :
    (binding.made ⟨att, binding.callbackData ++ [cd]⟩ method).Knows binding.count method := by
  obtain ⟨callback, has⟩ := Option.isSome_iff_exists.mp has
  refine ⟨?_, cd, callback, List.getElem?_concat_length, has⟩
  rw [made, ← length, List.getElem?_concat_length]

theorem arrive_same {event : Event} (unasked : event.token = none)
    (arrived : binding.handled (Client.step binding.att event) = .ok (next, out)) :
    next.att.currentRequest = none ∨ next.att.currentRequest = binding.att.currentRequest := by
  obtain ⟨att, effects, stepped, delivered⟩ := handled_ok arrived
  rw [delivered.connected]
  cases step_cases stepped with
  | advances rd _ pending _ advance =>
    cases advance with
    | asksAgain pdu kept => exact .inr (kept.trans pending.symm)
    | completes effect freed => exact .inl freed
  | requested data token => cases unasked.symm.trans token
  | quiet _ still => exact .inr still.currentRequest

theorem arrive_listens {event : Event}
    (kept : ∀ att effects, Client.step binding.att event = .ok (att, effects) →
      att.notificationMap = binding.att.notificationMap)
    (arrived : binding.handled (Client.step binding.att event) = .ok (next, out)) :
    next.att.notificationMap = binding.att.notificationMap := by
  obtain ⟨att, effects, stepped, delivered⟩ := handled_ok arrived
  rw [delivered.connected]
  exact kept _ _ stepped

theorem invoke_sound {method : Method} {args : List Argument} {cd : CallbackData} {call : Call} {att : Att}
    {effects : List Effect} (sound : binding.Sound) (kept : next.Kept) (extended : Extends binding next)
    (calls : Calls outside binding.count method args cd call)
    (performed : binding.att.perform call = .ok (att, effects))
    (delivered : Delivered (binding.made ⟨att, binding.callbackData ++ [cd]⟩ method) effects next out) :
    next.Sound := by
  have att_same : next.att = att := congrArg Connected.att delivered.connected
  have fresh {callback : Nat} (has : cd.data = some callback) : next.Knows binding.count method :=
    (made_knows sound.length (Option.isSome_iff_exists.mpr ⟨callback, has⟩)).extends delivered.extends.1
  cases calls with
  | request asks has token called =>
    cases perform_asked token called performed with
    | refused => exact sound.of_same kept extended (.inr (by rw [att_same])) (by rw [att_same])
    | accepted rd pdu free own kind =>
      refine ⟨kept, fun other pending => ?_, fun entry member => ?_⟩
      · rw [att_same] at pending
        cases pending
        exact ⟨method, kind ▸ asks, own ▸ fresh has⟩
      · rw [att_same] at member
        exact (sound.listeners entry member).extends extended
  | write handle value =>
    obtain ⟨rfl, _⟩ := perform_write performed
    exact sound.of_same kept extended (.inr (by rw [att_same])) (by rw [att_same])
  | listen number callback rest has =>
    obtain ⟨_, slot, listeners⟩ := perform_listen performed
    refine ⟨kept, fun rd pending => ?_, fun entry member => ?_⟩
    · rw [att_same, slot] at pending
      obtain ⟨method, asks, knows⟩ := sound.slot rd pending
      exact ⟨method, asks, knows.extends extended⟩
    · rw [att_same, listeners] at member
      split at member
      · exact (sound.listeners entry member).extends extended
      · rcases List.mem_cons.mp member with rfl | member
        · exact fresh has
        · exact (sound.listeners entry member).extends extended

theorem step_sound : Preserves (step outside) Sound := by
  intro binding event next out sound stepped
  have kept := step_kept _ _ _ _ sound.toKept stepped
  have extended := (step_extends stepped).1
  have quiet (same : next.att = binding.att) : next.Sound :=
    sound.of_same kept extended (.inr (by rw [same])) (by rw [same])
  cases event with
  | invoke method args =>
    rcases invoke_cases stepped with ⟨message, rejected, rfl, rfl⟩ |
      ⟨cd, call, att, effects, calls, performed, delivered⟩
    · exact sound
    · exact invoke_sound sound kept extended calls performed delivered
  | received bytes =>
    refine sound.of_same kept extended (arrive_same rfl stepped)
      (arrive_listens (fun att effects => ?_) stepped)
    exact arrival_frames notificationMap_unlisted (received_arrival binding.att bytes)
  | readError message =>
    refine sound.of_same kept extended (arrive_same rfl stepped)
      (arrive_listens (fun att effects => ?_) stepped)
    exact arrival_frames notificationMap_unlisted (.disconnected message)
  | written error =>
    unfold step at stepped
    dsimp only at stepped
    split at stepped
    · cases stepped
      exact sound
    · cases onWrite_wrote stepped <;> exact quiet rfl
  | returned =>
    unfold step at stepped
    dsimp only at stepped
    split at stepped
    · cases stepped
      exact sound
    · cases stepped
      exact quiet rfl
    · obtain ⟨_, rfl, rfl⟩ := delete_ok stepped
      exact quiet rfl

end Sound

/-- `Att` itself goes wrong. -/
def AttFaults (outside : Outside) (binding : Binding) (fault : Fault) : BindingEvent → Prop
  | .invoke method args => Peripheral.invoke outside binding.toConnected method args = .error fault
  | .received bytes => Client.step binding.att (.received bytes) = .error fault
  | .readError message => Client.step binding.att (.readError message) = .error fault
  | .written _ | .returned => False

/-- The server answers the first page of a discovery with Attribute Not Found. -/
def FindsNothing (binding : Binding) : BindingEvent → Prop
  | .received bytes => ∃ rd low high rest, binding.att.currentRequest = some rd ∧
      bytes = attOpError :: rd.request :: low :: high :: attEcodeAttrNotFound :: rest ∧
      (rd.callback = .onFindInfo ∧ binding.att.attributeList = none ∨
        rd.callback = .onReadByGroupType ∧ binding.att.groupAttributeList = none)
  | .invoke .. | .readError _ | .written _ | .returned => False

section Faults

variable {outside : Outside} {binding : Binding} {fault : BindingFault}

/-- An answer to the pending request is told to its callback, or is a success without a list. -/
theorem hand_ends {delivery : Delivery} {rd : ReadData} {att : Att} {effects : List Effect}
    (sound : binding.Sound) (pending : binding.att.currentRequest = some rd)
    (handed : delivery.hand binding.att = .ok (att, effects)) :
    binding.att.NothingFound rd delivery ∧
        ({ binding with att } : Binding).deliverAll effects = .error (.list .nullList) ∨
      ¬ binding.att.NothingFound rd delivery ∧
        ∃ done, ({ binding with att } : Binding).deliverAll effects = .ok done := by
  obtain ⟨method, asks, knows⟩ := sound.slot rd pending
  have holds : rd.data ∈ binding.held := by
    have slot : rd.data ∈ outstanding binding.att := by
      rw [outstanding, pending]
      exact Multiset.mem_singleton_self _
    simp only [held, Multiset.mem_add]
    tauto
  have alive : rd.data ∉ ({ binding with att } : Binding).deleted := sound.owned.alive holds
  have takes := hand_handed pending handed
  obtain ⟨effect, rfl⟩ : ∃ effect, effects = [effect] := by
    have advanced : ∃ rd, binding.att.currentRequest = some rd ∧ Advances rd att effects := by
      cases delivery <;> exact Att.callbackCurrentRequest_advances handed
    obtain ⟨_, _, advance⟩ := advanced
    cases advance with
    | asksAgain pdu => exact ⟨_, rfl⟩
    | completes effect => exact ⟨effect, rfl⟩
  obtain ⟨takes, listless⟩ := takes effect (List.mem_singleton_self effect)
  have known : ({ binding with att } : Binding).Knows rd.data method := knows
  rw [deliverAll_single, ← listless]
  rcases deliver_ends alive known asks takes with ⟨empty, null⟩ | ⟨other, done, ends⟩
  · rw [null]
    exact .inl ⟨empty, rfl⟩
  · rw [ends]
    exact .inr ⟨other, _, rfl⟩

theorem attFaults_unique {event : BindingEvent} {inner other : Fault}
    (one : binding.AttFaults outside inner event) (another : binding.AttFaults outside other event) :
    inner = other := by
  cases event with
  | invoke | received | readError => exact Except.error.inj (one.symm.trans another)
  | written | returned => exact one.elim

/-- A step goes on, or goes wrong in `Att` or over a null list. -/
inductive StepEnds (outside : Outside) (binding : Binding) (event : BindingEvent) : BindingResult → Prop
  | att (inner : Fault) (faults : binding.AttFaults outside inner event)
      (found : ¬ binding.FindsNothing event) : StepEnds outside binding event (.error (.att inner))
  | nullList (nothing : binding.FindsNothing event) (fine : ∀ inner, ¬ binding.AttFaults outside inner event) :
      StepEnds outside binding event (.error (.list .nullList))
  | done (done : Binding × List Output) (found : ¬ binding.FindsNothing event)
      (fine : ∀ inner, ¬ binding.AttFaults outside inner event) :
      StepEnds outside binding event (.ok done)

theorem made_ends {method : Method} {args : List Argument} {cd : CallbackData} {call : Call} {att : Att}
    {effects : List Effect} (sound : binding.Sound) (calls : Calls outside binding.count method args cd call)
    (performed : binding.att.perform call = .ok (att, effects)) :
    ∃ done, (binding.made ⟨att, binding.callbackData ++ [cd]⟩ method).deliverAll effects = .ok done := by
  cases calls with
  | request asks has token called =>
    cases perform_asked token called performed with
    | accepted rd pdu => exact ⟨_, rfl⟩
    | refused effect own takes listed =>
      have knows : (binding.made ⟨binding.att, binding.callbackData ++ [cd]⟩ method).Knows
          binding.count method := made_knows sound.length (Option.isSome_iff_exists.mpr ⟨_, has⟩)
      have alive : binding.count ∉
          (binding.made ⟨binding.att, binding.callbackData ++ [cd]⟩ method).deleted := by
        intro gone
        exact Nat.lt_irrefl _ (sound.owned.made (Multiset.mem_add.mpr (.inr gone)))
      rw [deliverAll_single]
      rcases deliver_ends alive knows asks takes with ⟨empty, _⟩ | ⟨_, done, ends⟩
      · exact absurd empty listed
      · rw [ends]
        exact ⟨_, rfl⟩
  | write handle value =>
    obtain ⟨_, pdu, rfl⟩ := perform_write performed
    exact ⟨_, rfl⟩
  | listen number callback rest has =>
    obtain ⟨rfl, _⟩ := perform_listen performed
    exact ⟨_, rfl⟩

theorem invoke_ends (sound : binding.Sound) (method : Method) (args : List Argument) :
    StepEnds outside binding (.invoke method args) (binding.step outside (.invoke method args)) := by
  unfold step
  dsimp only
  cases invoked : Peripheral.invoke outside binding.toConnected method args with
  | error fault => exact .att fault invoked not_false
  | ok result =>
    have fine : ∀ inner, ¬ binding.AttFaults outside inner (.invoke method args) := by
      intro inner faults
      cases invoked.symm.trans faults
    obtain ⟨connected, message | effects⟩ := result
    · exact .done _ not_false fine
    · unfold Peripheral.invoke at invoked
      cases prepared : method.prepare outside args with
      | error message =>
        rw [prepared] at invoked
        cases invoked
      | ok given =>
        obtain ⟨cd, call⟩ := given
        rw [prepared] at invoked
        dsimp only at invoked
        obtain ⟨⟨att, out⟩, performed, invoked⟩ := bind_ok invoked
        cases invoked
        obtain ⟨done, ends⟩ := made_ends sound (prepared_calls prepared binding.count) performed
        have ended : binding.invoked method (.ok (⟨att, binding.callbackData ++ [cd]⟩, .ok out)) = .ok done :=
          ends
        rw [ended]
        exact .done done not_false fine

/-- What is handed to the pending request ends as its callback does. -/
theorem handed_ends {event : BindingEvent} {delivery : Delivery} {rd : ReadData} (sound : binding.Sound)
    (pending : binding.att.currentRequest = some rd)
    (faults : ∀ inner, binding.AttFaults outside inner event ↔ delivery.hand binding.att = .error inner)
    (finds : binding.FindsNothing event ↔ binding.att.NothingFound rd delivery) :
    StepEnds outside binding event (binding.handled (delivery.hand binding.att)) := by
  cases handed : delivery.hand binding.att with
  | error inner =>
    refine .att inner ((faults inner).mpr handed) fun nothing => ?_
    obtain ⟨next, found⟩ := nothingFound_hand pending (finds.mp nothing)
    cases handed.symm.trans found
  | ok result =>
    obtain ⟨att, effects⟩ := result
    have fine : ∀ inner, ¬ binding.AttFaults outside inner event := by
      intro inner faulty
      cases handed.symm.trans ((faults inner).mp faulty)
    rcases hand_ends sound pending handed with ⟨nothing, ends⟩ | ⟨found, done, ends⟩
    · have ended : binding.handled (.ok (att, effects)) = .error (.list .nullList) := ends
      rw [ended]
      exact .nullList (finds.mpr nothing) fine
    · have ended : binding.handled (.ok (att, effects)) = .ok done := ends
      rw [ended]
      exact .done done (mt finds.mp found) fine

theorem findsNothing_steps {bytes : List UInt8} (nothing : binding.FindsNothing (.received bytes)) :
    ∃ done, Client.step binding.att (.received bytes) = .ok done := by
  obtain ⟨rd, low, high, rest, pending, rfl, empty⟩ := nothing
  rw [step_received_error, pending, Option.map_some]
  dsimp only
  rw [if_pos rfl]
  have nothing : ∀ message, binding.att.NothingFound rd (.failure attEcodeAttrNotFound message) :=
    fun _ => ⟨rfl, empty⟩
  exact ⟨_, (nothingFound_hand pending (nothing _)).choose_spec⟩

/-- What is read ends as the callback it is told to does. -/
theorem received_ends (sound : binding.Sound) (bytes : List UInt8) :
    StepEnds outside binding (.received bytes) (binding.step outside (.received bytes)) := by
  unfold step
  dsimp only
  have faults : ∀ inner, binding.AttFaults outside inner (.received bytes) ↔
      Client.step binding.att (.received bytes) = .error inner := fun _ => Iff.rfl
  have steps : binding.FindsNothing (.received bytes) →
      ∃ done, Client.step binding.att (.received bytes) = .ok done := findsNothing_steps
  have arrival := received_arrival binding.att bytes
  generalize Client.step binding.att (.received bytes) = result at faults steps arrival
  have fine {done : Att × List Effect} (stepped : result = .ok done) :
      ∀ inner, ¬ binding.AttFaults outside inner (.received bytes) := by
    intro inner faulty
    cases stepped.symm.trans ((faults inner).mp faulty)
  cases arrival with
  | short =>
    refine .att _ ((faults _).mpr rfl) fun nothing => ?_
    obtain ⟨done, stepped⟩ := steps nothing
    cases stepped
  | failed rd low high status rest message pending =>
    refine handed_ends sound pending faults ⟨?_, ?_⟩
    · rintro ⟨other, low', high', rest', found, same, empty⟩
      cases pending.symm.trans found
      cases same
      exact ⟨rfl, empty⟩
    · rintro ⟨rfl, empty⟩
      exact ⟨rd, low, high, rest, pending, rfl, empty⟩
  | responded opcode bytes rd other pending =>
    refine handed_ends sound pending faults ⟨?_, False.elim⟩
    rintro ⟨_, _, _, _, _, same, _⟩
    exact other (List.cons.inj same).1
  | notified low high bytes data found =>
    have member : (UInt16.ofNat (LittleEndian.number [low, high]), data) ∈ binding.att.notificationMap := by
      obtain ⟨before, behind, split, _⟩ := List.lookup_eq_some_iff.mp found
      rw [split]
      exact List.mem_append_right _ List.mem_cons_self
    have knows := sound.listeners _ member
    have alive : data ∉ binding.deleted := by
      apply sound.owned.alive
      have listens : data ∈ binding.listening := List.mem_map.mpr ⟨_, member, rfl⟩
      simp only [held, Multiset.mem_add]
      tauto
    obtain ⟨done, ends⟩ := notification_ends alive knows bytes
    have ended : binding.handled (.ok (binding.att,
        [.notification data 0 (some bytes) bytes.length none])) = .ok (done.1, done.2 ++ []) := by
      show binding.deliverAll _ = _
      rw [deliverAll_single, ends]
      rfl
    rw [ended]
    refine .done _ ?_ (fine rfl)
    rintro ⟨_, _, _, _, _, same, _⟩
    exact absurd (List.cons.inj same).1 (by decide)
  | reported bytes message stranger =>
    have other : ¬ binding.FindsNothing (.received bytes) := by
      rintro ⟨rd, low, high, rest, pending, same, _⟩
      exact stranger rd low high _ rest pending same
    cases handler : binding.att.errorHandler with
    | none =>
      have told : binding.att.reportError message = .ok (binding.att, []) := by
        rw [Att.reportError, handler]
      rw [told] at fine ⊢
      exact .done _ other (fine rfl)
    | some data =>
      have told : binding.att.reportError message = .ok (binding.att, [.errorHandler data message]) := by
        rw [Att.reportError, handler]
      rw [told] at fine ⊢
      exact .done _ other (fine rfl)

theorem step_ends (sound : binding.Sound) (event : BindingEvent) :
    StepEnds outside binding event (binding.step outside event) := by
  cases event with
  | invoke method args => exact invoke_ends sound method args
  | received bytes => exact received_ends sound bytes
  | readError message =>
    cases slot : binding.att.currentRequest with
    | none =>
      have missing : Client.step binding.att (.readError message) = .error .nullRequest := by
        show binding.att.callbackCurrentRequest 0 none 0 (some message) = _
        rw [Att.callbackCurrentRequest, slot]
      unfold step
      dsimp only
      rw [missing]
      exact .att _ missing not_false
    | some rd =>
      have finds : binding.FindsNothing (.readError message) ↔
          binding.att.NothingFound rd (.failure 0 message) :=
        ⟨False.elim, fun nothing => absurd nothing.1 (by decide)⟩
      exact handed_ends sound slot (fun _ => Iff.rfl) finds
  | written error =>
    unfold step
    dsimp only
    split
    · exact .done _ not_false fun _ => not_false
    · rename_i data writing pending
      have holds : data ∈ binding.held := by
        have written : data ∈ (binding.writing : Multiset Nat) := by
          rw [pending]
          exact List.mem_cons_self
        simp only [held, Multiset.mem_add]
        tauto
      have made := sound.owned.made (Multiset.mem_add.mpr (.inl holds))
      have alive := sound.owned.alive holds
      have still : data ∉ ({ binding with writing } : Binding).deleted := alive
      obtain ⟨done, ends⟩ := onWrite_ends error still sound.length made
      rw [ends]
      exact .done _ not_false fun _ => not_false
  | returned =>
    unfold step
    dsimp only
    split
    · exact .done _ not_false fun _ => not_false
    · exact .done _ not_false fun _ => not_false
    · rename_i data running pending
      have holds : data ∈ binding.held := by
        have returns : data ∈ binding.returning := by
          rw [returning, pending, List.map_cons, List.sum_cons, Multiset.mem_add]
          exact .inl (Multiset.mem_singleton_self data)
        simp only [held, Multiset.mem_add]
        tauto
      unfold delete
      rw [if_neg (sound.owned.alive holds)]
      exact .done _ not_false fun _ => not_false

end Faults

end Binding

/-- In every state that a connected peripheral can reach, with callbacks running or not, an event makes
    the binding go wrong exactly if it makes `Att` go wrong, or answers the first page of a Find
    Information or Read By Group Type with Attribute Not Found, for which a list is followed that is
    null; no callback record is used once it is deleted, and no message of a function that has
    returned. What `Att` reads of its own deleted request is as in `Att.finish`. -/
theorem binding_faults_iff {outside : Outside} {connection : Connection} {binding : Binding}
    (reached : Reachable (Binding.step outside) (Binding.new connection) binding) (event : BindingEvent)
    (fault : BindingFault) :
    binding.step outside event = .error fault ↔
      (∃ inner, fault = .att inner ∧ binding.AttFaults outside inner event) ∨
        fault = .list .nullList ∧ binding.FindsNothing event := by
  have sound := reached.preserved Binding.step_sound (Binding.new_sound connection)
  have ends : Binding.StepEnds outside binding event (binding.step outside event) :=
    Binding.step_ends sound event
  constructor
  · intro failed
    rw [failed] at ends
    cases ends with
    | att inner faults => exact .inl ⟨inner, rfl, faults⟩
    | nullList nothing => exact .inr ⟨rfl, nothing⟩
  · intro faults
    cases result : binding.step outside event with
    | ok done =>
      rw [result] at ends
      cases ends with
      | done _ found fine =>
        rcases faults with ⟨inner, _, faulty⟩ | ⟨_, nothing⟩
        · exact absurd faulty (fine inner)
        · exact absurd nothing found
    | error other =>
      rw [result] at ends
      cases ends with
      | att inner faulty found =>
        rcases faults with ⟨again, rfl, faulty'⟩ | ⟨_, nothing⟩
        · rw [Binding.attFaults_unique faulty faulty']
        · exact absurd nothing found
      | nullList nothing fine =>
        rcases faults with ⟨again, rfl, faulty'⟩ | ⟨rfl, _⟩
        · exact absurd faulty' (fine again)
        · rfl

theorem vainDiscovery_faults : ∃ binding,
    Reachable (Binding.step plain) (Binding.new leConnection) binding ∧
      binding.step plain (.received [attOpError, attOpFindInfoReq, 1, 0, attEcodeAttrNotFound]) =
        .error (.list .nullList) := by
  have asked : Reachable (Binding.step plain) (Binding.new leConnection) _ :=
    ⟨[.invoke .findInformation [.uint32 1, .uint32 0xFFFF, .function 7]], _, rfl⟩
  exact ⟨_, asked, (binding_faults_iff asked _ _).mpr
    (.inr ⟨rfl, _, 1, 0, [], rfl, rfl, .inl ⟨rfl, rfl⟩⟩)⟩

end Btle.Wire.Peripheral

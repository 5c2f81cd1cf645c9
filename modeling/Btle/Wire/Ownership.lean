import Mathlib.Data.Multiset.UnionInter
import Mathlib.Tactic.Abel
import Btle.Wire.Callbacks

namespace Btle.Wire.Peripheral

open Client Machine

/-- The callback in `Att` that a method asks with. -/
def Method.kind : Method → Option ReadCallback
  | .findInformation => some .onFindInfo
  | .findByTypeValue => some .onFindByType
  | .readByType => some .onReadByType
  | .readByGroupType => some .onReadByGroupType
  | .readHandle => some .onReadAttribute
  | .writeCommand | .addNotificationListener => none

/-- What a method that gets past its checks calls `Att` with. -/
inductive Calls (outside : Outside) (data : Nat) : Method → List Argument → CallbackData → Call → Prop
  | request {method : Method} {args : List Argument} {cd : CallbackData} {call : Call} {callback : Nat}
      {kind : ReadCallback} (asks : method.kind = some kind) (has : cd.data = some callback)
      (token : call.token = some data) (called : call.callback = some kind) :
      Calls outside data method args cd call
  | write {args : List Argument} {cd : CallbackData} (handle : UInt16) (value : List UInt8) :
      Calls outside data .writeCommand args cd (.writeCommand handle value)
  | listen {cd : CallbackData} (number : UInt32) (callback : Nat) (rest : List Argument)
      (has : cd.data = some callback) :
      Calls outside data .addNotificationListener (.uint32 number :: .function callback :: rest) cd
        (.listenForNotifications (outside.handle 0 number) data)

theorem prepared_calls {outside : Outside} {method : Method} {args : List Argument} {cd : CallbackData}
    {call : Nat → Call} (prepared : method.prepare outside args = .ok (cd, call)) (data : Nat) :
    Calls outside data method args cd (call data) := by
  have accepted : Accepts method args := prepare_ok_iff.mp ⟨_, prepared⟩
  cases accepted with
  | findInformation | findByTypeValue | readByType | readByGroupType | readHandle =>
    cases prepared
    exact .request rfl rfl rfl rfl
  | writeCommand | writeCommandCallback =>
    cases prepared
    exact .write _ _
  | addNotificationListener number callback rest =>
    cases prepared
    exact .listen number callback rest rfl

/-- How often the callback of a record is called, but for those of listeners. -/
def Output.answers (data : Nat) : Output → Nat
  | .called method token _ _ => if token = data ∧ method ≠ .addNotificationListener then 1 else 0
  | .threw _ | .wrote _ | .emitted _ => 0

namespace Binding

def count (binding : Binding) : Nat := binding.callbackData.length

/-- All records that were made. -/
def all (binding : Binding) : Multiset Nat := ↑(List.range binding.count)

/-- The records that are deleted when a callback returns. -/
def returning (binding : Binding) : Multiset Nat := (binding.running.map account).sum

def listening (binding : Binding) : Multiset Nat := ↑(binding.att.notificationMap.map Prod.snd)

/-- The records that something still points to. -/
def held (binding : Binding) : Multiset Nat :=
  outstanding binding.att + binding.listening + ↑binding.writing + binding.returning

/-- The record for a listener for a handle that has one already. -/
def ignores (outside : Outside) : Binding × BindingEvent → Multiset Nat
  | (binding, .invoke .addNotificationListener (.uint32 number :: .function _ :: _)) =>
    if (binding.att.notificationMap.lookup (outside.handle 0 number)).isSome then {binding.count} else 0
  | _ => 0

/-- A method that calls back once made the record, and was given a function. -/
def expects (binding : Binding) (data : Nat) : Bool :=
  match binding.methods[data]?, binding.callbackData[data]? with
  | some method, some cd => method ≠ .addNotificationListener && cd.data.isSome
  | _, _ => false

/-- The function that is called is the one in the record. -/
def Own (binding : Binding) : Output → Prop
  | .called method data callback _ => binding.methods[data]? = some method ∧
      ∃ cd, binding.callbackData[data]? = some cd ∧ cd.data = some callback
  | .threw _ | .wrote _ | .emitted _ => True

section Deliveries

variable {binding next : Binding} {effects : List Effect} {out : List Output}

/-- Effects are delivered without a change but of what is running. -/
structure Delivered (binding : Binding) (effects : List Effect) (next : Binding) (out : List Output) :
    Prop where
  connected : next.toConnected = binding.toConnected
  methods : next.methods = binding.methods
  writing : next.writing = binding.writing
  deleted : next.deleted = binding.deleted
  books : binding.returning + answered effects = next.returning + (out.map Output.forgets).sum
  answers : ∀ data, (out.map (Output.answers data)).sum =
    if binding.expects data then (answered effects).count data else 0
  own : ∀ output ∈ out, binding.Own output

theorem expects_of {data : Nat} {method : Method} {cd : CallbackData}
    (known : binding.methods[data]? = some method) (recorded : binding.callbackData[data]? = some cd) :
    binding.expects data = (decide (method ≠ .addNotificationListener) && cd.data.isSome) := by
  simp only [expects, known, recorded]

theorem answers_single (output : Output) (data : Nat) :
    ([output].map (Output.answers data)).sum = output.answers data := by
  rw [List.map_singleton, List.sum_singleton]

theorem called_answers {data : Nat} {method : Method} {cd : CallbackData} {callback : Nat} (argv : Argv)
    (follows : binding.follow data = .ok (method, cd)) (has : cd.data = some callback) (other : Nat) :
    (Output.called method data callback argv).answers other =
      if binding.expects other then if other = data then 1 else 0 else 0 := by
  obtain ⟨_, known, recorded⟩ := follow_ok follows
  by_cases this_one : data = other
  · subst this_one
    rw [expects_of known recorded, has]
    simp [Output.answers]
  · simp [Output.answers, this_one, Ne.symm this_one]

theorem Told.delivered {effect : Effect} (told : Told binding effect next out) :
    Delivered binding [effect] next out := by
  cases told with
  | wrote | emitted =>
    refine ⟨rfl, rfl, rfl, rfl, rfl, fun data => ?_, List.forall_mem_singleton.mpr trivial⟩
    rw [answered_single]
    exact (ite_self 0).symm
  | answered own follows has once kept =>
    obtain ⟨_, known, recorded⟩ := follow_ok follows
    refine ⟨rfl, rfl, rfl, rfl, ?_, fun data => ?_, List.forall_mem_singleton.mpr ⟨known, _, recorded, has⟩⟩
    · rw [answered_single, own]
      simp only [returning, List.map_cons, List.sum_cons, List.map_nil, List.sum_nil, add_zero]
      rw [add_right_comm, kept, add_comm]
      rfl
    · rw [answers_single, called_answers _ follows has, answered_single, own, account,
        Multiset.count_singleton]
  | notified unanswered follows has =>
    obtain ⟨_, known, recorded⟩ := follow_ok follows
    refine ⟨rfl, rfl, rfl, rfl, ?_, fun data => ?_, List.forall_mem_singleton.mpr ⟨known, _, recorded, has⟩⟩
    · rw [answered_single, unanswered]
      simp [returning, account, Output.forgets]
    · rw [answers_single, answered_single, unanswered, account, Multiset.count_zero, ite_self]
      simp [Output.answers]

theorem Delivered.nothing (binding : Binding) : Delivered binding [] binding [] where
  connected := rfl
  methods := rfl
  writing := rfl
  deleted := rfl
  books := rfl
  answers _ := (ite_self 0).symm
  own _ member := nomatch member

theorem Delivered.append {middle : Binding} {effect : Effect} {first rest : List Output}
    (here : Delivered binding [effect] middle first) (onward : Delivered middle effects next rest) :
    Delivered binding (effect :: effects) next (first ++ rest) := by
  have answers : answered (effect :: effects) = answered [effect] + answered effects := by
    simp [answered]
  refine ⟨onward.connected.trans here.connected, onward.methods.trans here.methods,
    onward.writing.trans here.writing, onward.deleted.trans here.deleted, ?_, ?_, ?_⟩
  · calc binding.returning + answered (effect :: effects)
        = (binding.returning + answered [effect]) + answered effects := by rw [answers, add_assoc]
      _ = (middle.returning + answered effects) + (first.map Output.forgets).sum := by
          rw [here.books, add_right_comm]
      _ = next.returning + ((first ++ rest).map Output.forgets).sum := by
          rw [onward.books, List.map_append, List.sum_append, add_assoc, add_comm (List.sum _)]
  · intro data
    have expects : middle.expects data = binding.expects data := by
      unfold Binding.expects
      rw [here.methods, here.connected]
    rw [List.map_append, List.sum_append, here.answers data, onward.answers data, expects, answers,
      Multiset.count_add]
    split <;> rfl
  · intro output member
    rcases List.mem_append.mp member with member | member
    · exact here.own output member
    · have own := onward.own output member
      cases output with
      | threw | wrote | emitted => trivial
      | called =>
        unfold Own at own
        rwa [here.methods, here.connected] at own

theorem deliverAll_delivered (done : binding.deliverAll effects = .ok (next, out)) :
    Delivered binding effects next out := by
  induction effects generalizing binding out with
  | nil =>
    cases done
    exact .nothing _
  | cons effect effects ih =>
    obtain ⟨⟨middle, first⟩, delivered, done⟩ := bindingBind_ok done
    obtain ⟨⟨last, rest⟩, onward, done⟩ := bindingBind_ok done
    cases done
    exact (deliver_told delivered).delivered.append (ih onward)

end Deliveries

section Books

variable {outside : Outside} {binding next : Binding} {event : BindingEvent} {out : List Output}

theorem all_succ (connected : Connected) {cd : CallbackData}
    (more : connected.callbackData = binding.callbackData ++ [cd]) (method : Method) :
    (binding.made connected method).all = binding.all + {binding.count} := by
  have counted : (binding.made connected method).count = binding.count + 1 := by
    rw [count, count, made, more, List.length_append, List.length_singleton]
  rw [all, all, counted, List.range_succ]
  rfl

theorem handled_ok {result : Result} (arrived : binding.handled result = .ok (next, out)) :
    ∃ att effects, result = .ok (att, effects) ∧ Delivered { binding with att } effects next out := by
  cases result with
  | error => cases arrived
  | ok done => exact ⟨_, _, rfl, deliverAll_delivered arrived⟩

theorem arrive_books {event : Event} (unasked : event.token = none)
    (kept : ∀ att effects, Client.step binding.att event = .ok (att, effects) →
      att.notificationMap = binding.att.notificationMap)
    (arrived : binding.handled (Client.step binding.att event) = .ok (next, out)) :
    next.all = binding.all ∧ next.deleted = binding.deleted ∧
      binding.held = next.held + (out.map Output.forgets).sum := by
  obtain ⟨att, effects, stepped, delivered⟩ := handled_ok arrived
  have slot := Client.step_books _ _ _ _ stepped
  rw [unasked, account, add_zero] at slot
  have books : binding.returning + answered effects = next.returning + (out.map Output.forgets).sum :=
    delivered.books
  have att_same : next.att = att := congrArg Connected.att delivered.connected
  have listening : next.listening = binding.listening := by
    rw [Binding.listening, Binding.listening, att_same, kept _ _ stepped]
  refine ⟨?_, delivered.deleted, ?_⟩
  · rw [all, all, count, count, delivered.connected]
  · rw [held, held, listening, delivered.writing, att_same, slot]
    calc answered effects + outstanding att + binding.listening + ↑binding.writing + binding.returning
        = outstanding att + binding.listening + ↑binding.writing + (binding.returning + answered effects) := by
          abel
      _ = outstanding att + binding.listening + ↑binding.writing + next.returning +
            (out.map Output.forgets).sum := by rw [books, ← add_assoc]

/-- A completed write calls back, or tells that there is no callback to call, and deletes its record. -/
inductive Wrote (binding : Binding) (data : Nat) : Binding → List Output → Prop
  | called {method : Method} {cd : CallbackData} {callback : Nat} {argv : Argv}
      (follows : binding.follow data = .ok (method, cd)) (has : cd.data = some callback)
      (kept : (Output.called method data callback argv).forgets = 0) :
      Wrote binding data { binding with running := some data :: binding.running }
        [.called method data callback argv]
  | emitted {method : Method} {cd : CallbackData} (follows : binding.follow data = .ok (method, cd))
      (has : cd.data = none) (text : String) :
      Wrote binding data { binding with running := some data :: binding.running } [.emitted text]
  | silent {method : Method} {cd : CallbackData} (follows : binding.follow data = .ok (method, cd))
      (has : cd.data = none) : Wrote binding data { binding with deleted := data :: binding.deleted } []

theorem delete_ok {data : Nat} (done : binding.delete data = .ok (next, out)) :
    data ∉ binding.deleted ∧ next = { binding with deleted := data :: binding.deleted } ∧ out = [] := by
  unfold delete at done
  split at done
  · cases done
  · rename_i alive
    cases done
    exact ⟨alive, rfl, rfl⟩

theorem onWrite_wrote {data : Nat} {error : Option String}
    (done : binding.onWrite data error = .ok (next, out)) : Wrote binding data next out := by
  obtain ⟨⟨method, cd⟩, follows, done⟩ := bindingBind_ok done
  cases has : cd.data with
  | none =>
    cases error with
    | none =>
      simp only [has] at done
      obtain ⟨_, rfl, rfl⟩ := delete_ok done
      exact .silent follows has
    | some text =>
      simp only [has] at done
      cases done
      exact .emitted follows has text
  | some callback =>
    have called : ∃ argv, binding.call method data cd argv (some data) = .ok (next, out) ∧
        (Output.called method data callback argv).forgets = 0 := by
      cases error with
      | none =>
        simp only [has] at done
        exact ⟨.done, done, by cases method <;> rfl⟩
      | some text =>
        simp only [has] at done
        exact ⟨.failed text, done, by cases method <;> rfl⟩
    obtain ⟨argv, called, kept⟩ := called
    obtain ⟨given, found, rfl, rfl⟩ := call_ok called
    cases found.symm.trans has
    exact .called follows found kept

theorem invoke_cases {method : Method} {args : List Argument}
    (stepped : binding.step outside (.invoke method args) = .ok (next, out)) :
    (∃ message, method.prepare outside args = .error message ∧ next = binding ∧ out = [.threw message]) ∨
      ∃ cd call att effects, Calls outside binding.count method args cd call ∧
        binding.att.perform call = .ok (att, effects) ∧
        Delivered (binding.made ⟨att, binding.callbackData ++ [cd]⟩ method) effects next out := by
  unfold step at stepped
  dsimp only at stepped
  unfold Peripheral.invoke at stepped
  cases prepared : method.prepare outside args with
  | error message =>
    rw [prepared] at stepped
    cases stepped
    exact .inl ⟨message, rfl, rfl, rfl⟩
  | ok given =>
    obtain ⟨cd, call⟩ := given
    rw [prepared] at stepped
    dsimp only at stepped
    cases performed : binding.att.perform (call binding.callbackData.length) with
    | error fault =>
      rw [performed] at stepped
      cases stepped
    | ok done =>
      obtain ⟨att, effects⟩ := done
      rw [performed] at stepped
      exact .inr ⟨cd, _, att, effects, prepared_calls prepared _, performed, deliverAll_delivered stepped⟩

theorem ignores_rejected {method : Method} {args : List Argument} {message : String}
    (rejected : method.prepare outside args = .error message) :
    ignores outside (binding, .invoke method args) = 0 := by
  unfold ignores
  split
  · rename_i same
    cases same
    cases rejected
  · rfl

theorem ignores_other {method : Method} {args : List Argument} (other : method ≠ .addNotificationListener) :
    ignores outside (binding, .invoke method args) = 0 := by
  cases method with
  | addNotificationListener => exact absurd rfl other
  | findInformation | findByTypeValue | readByType | readByGroupType | readHandle | writeCommand => rfl

theorem invoke_books {method : Method} {args : List Argument} {cd : CallbackData} {call : Call} {att : Att}
    {effects : List Effect} (calls : Calls outside binding.count method args cd call)
    (performed : binding.att.perform call = .ok (att, effects))
    (delivered : Delivered (binding.made ⟨att, binding.callbackData ++ [cd]⟩ method) effects next out) :
    binding.held + {binding.count} =
      next.held + (out.map Output.forgets).sum + ignores outside (binding, .invoke method args) := by
  have att_same : next.att = att := congrArg Connected.att delivered.connected
  have books : binding.returning + answered effects = next.returning + (out.map Output.forgets).sum :=
    delivered.books
  have writing := delivered.writing
  unfold made at writing
  dsimp only at writing
  rw [held, held, Binding.listening, Binding.listening, att_same, writing]
  cases calls with
  | request asks has token called =>
    have slot := Client.step_books binding.att (.call call) att effects performed
    have unwritten : method ≠ .writeCommand := by
      rintro rfl
      cases asks
    have unlistened : method ≠ .addNotificationListener := by
      rintro rfl
      cases asks
    rw [Event.token, token, account] at slot
    rw [if_neg unwritten, ignores_other unlistened, add_zero, (perform_asked token called performed).frames]
    calc outstanding binding.att + ↑(binding.att.notificationMap.map Prod.snd) + ↑binding.writing +
            binding.returning + {binding.count}
        = (outstanding binding.att + {binding.count}) + ↑(binding.att.notificationMap.map Prod.snd) +
            ↑binding.writing + binding.returning := by abel
      _ = outstanding att + ↑(binding.att.notificationMap.map Prod.snd) + ↑binding.writing +
            (binding.returning + answered effects) := by rw [slot]; abel
      _ = _ := by rw [books, ← add_assoc]
  | write handle value =>
    obtain ⟨rfl, pdu, rfl⟩ := perform_write performed
    have unchanged : binding.returning = next.returning + (out.map Output.forgets).sum :=
      (add_zero _).symm.trans books
    rw [if_pos rfl, ignores_other Method.noConfusion, add_zero, unchanged, ← Multiset.coe_add,
      Multiset.coe_singleton, count]
    abel
  | listen number callback rest has =>
    obtain ⟨rfl, slot, listeners⟩ := perform_listen performed
    have unchanged : binding.returning = next.returning + (out.map Output.forgets).sum :=
      (add_zero _).symm.trans books
    rw [if_neg Method.noConfusion, outstanding, outstanding, slot, listeners, unchanged]
    unfold ignores
    dsimp only
    split
    · abel
    · rw [List.map_cons, ← Multiset.cons_coe, ← Multiset.singleton_add]
      abel

/-- The records that were made are those that something points to, those deleted and those lost. -/
theorem step_books (stepped : binding.step outside event = .ok (next, out)) :
    binding.held + ↑binding.deleted + next.all =
      binding.all + (next.held + ↑next.deleted + (out.map Output.forgets).sum +
        ignores outside (binding, event)) := by
  have arrived {event : Event} {other : BindingEvent} (unasked : event.token = none)
      (kept : ∀ att effects, Client.step binding.att event = .ok (att, effects) →
        att.notificationMap = binding.att.notificationMap)
      (ignored : ignores outside (binding, other) = 0)
      (arrived : binding.handled (Client.step binding.att event) = .ok (next, out)) :
      binding.held + ↑binding.deleted + next.all = binding.all + (next.held + ↑next.deleted +
        (out.map Output.forgets).sum + ignores outside (binding, other)) := by
    obtain ⟨all, deleted, books⟩ := arrive_books unasked kept arrived
    rw [all, deleted, books, ignored]
    abel
  cases event with
  | invoke method args =>
    rcases invoke_cases stepped with ⟨message, rejected, rfl, rfl⟩ |
      ⟨cd, call, att, effects, calls, performed, delivered⟩
    · rw [ignores_rejected rejected]
      simp only [List.map_cons, List.map_nil, List.sum_cons, List.sum_nil, Output.forgets]
      abel
    · have more : next.all = binding.all + {binding.count} := by
        rw [← all_succ ⟨att, _⟩ rfl method, all, all, count, count, delivered.connected]
      have deleted : next.deleted = binding.deleted := delivered.deleted
      have books := invoke_books calls performed delivered
      rw [more, deleted]
      calc binding.held + ↑binding.deleted + (binding.all + {binding.count})
          = binding.all + ((binding.held + {binding.count}) + ↑binding.deleted) := by abel
        _ = _ := by rw [books]; abel
  | received bytes =>
    refine arrived rfl (fun att effects => ?_) rfl stepped
    exact arrival_frames notificationMap_unlisted (received_arrival binding.att bytes)
  | readError message =>
    refine arrived rfl (fun att effects => ?_) rfl stepped
    exact arrival_frames notificationMap_unlisted (.disconnected message)
  | written error =>
    unfold step at stepped
    dsimp only at stepped
    split at stepped
    · cases stepped
      simp only [List.map_nil, List.sum_nil, ignores]
      abel
    · rename_i data writing pending
      have unlocked : binding.held =
          outstanding binding.att + binding.listening + (data ::ₘ ↑writing) + binding.returning := by
        rw [held, pending]
        rfl
      rw [unlocked, ← Multiset.singleton_add]
      cases onWrite_wrote stepped with
      | called follows has kept =>
        simp only [List.map_cons, List.map_nil, List.sum_cons, List.sum_nil, kept, ignores, held, all, count,
          returning, listening, account]
        abel
      | emitted =>
        simp only [List.map_cons, List.map_nil, List.sum_cons, List.sum_nil, Output.forgets, ignores, held,
          all, count, returning, listening, account]
        abel
      | silent =>
        simp only [List.map_nil, List.sum_nil, ignores, held, all, count, returning, listening,
          ← Multiset.cons_coe, ← Multiset.singleton_add]
        abel
  | returned =>
    unfold step at stepped
    dsimp only at stepped
    split at stepped
    · cases stepped
      simp only [List.map_nil, List.sum_nil, ignores]
      abel
    · rename_i running pending
      cases stepped
      simp only [List.map_nil, List.sum_nil, ignores, held, all, count, returning, listening, pending,
        List.map_cons, List.sum_cons, account]
      abel
    · rename_i data running pending
      obtain ⟨_, rfl, rfl⟩ := delete_ok stepped
      simp only [List.map_nil, List.sum_nil, ignores, held, all, count, returning, listening, pending,
        List.map_cons, List.sum_cons, account, ← Multiset.cons_coe, ← Multiset.singleton_add]
      abel

end Books

/-- No record is held in two places, nor held when it is deleted. -/
def Owned (binding : Binding) : Prop := ∃ lost, binding.held + ↑binding.deleted + lost = binding.all

section Owned

variable {outside : Outside} {binding : Binding} {data : Nat}

theorem new_owned (connection : Connection) : (new connection).Owned := ⟨0, rfl⟩

theorem step_owned : Preserves (step outside) Owned := by
  rintro binding event next out ⟨lost, owned⟩ stepped
  have books := step_books stepped
  rw [← owned] at books
  refine ⟨lost + (out.map Output.forgets).sum + ignores outside (binding, event), ?_⟩
  apply add_left_cancel (a := binding.held + ↑binding.deleted)
  rw [books]
  abel

theorem Owned.nodup (owned : binding.Owned) : (binding.held + ↑binding.deleted).Nodup := by
  obtain ⟨lost, owned⟩ := owned
  have distinct : binding.all.Nodup := List.nodup_range
  rw [← owned] at distinct
  exact (Multiset.nodup_add.mp distinct).1

theorem Owned.alive (owned : binding.Owned) (holds : data ∈ binding.held) : data ∉ binding.deleted := by
  have apart := (Multiset.nodup_add.mp owned.nodup).2.2
  exact Multiset.disjoint_left.mp apart holds

theorem Owned.made (owned : binding.Owned) (known : data ∈ binding.held + ↑binding.deleted) :
    data < binding.count := by
  obtain ⟨lost, owned⟩ := owned
  have member : data ∈ binding.all := by
    rw [← owned]
    exact Multiset.mem_add.mpr (.inl known)
  exact List.mem_range.mp member

end Owned

/-- The records whose callback is still to be called. -/
def waiting (binding : Binding) : Multiset Nat := outstanding binding.att + ↑binding.writing

/-- How often the callback of the record is still to be called. -/
def due (data : Nat) (binding : Binding) : Nat :=
  if binding.expects data then binding.waiting.count data else 0

def expected (data : Nat) (binding : Binding) : Nat := if binding.expects data then 1 else 0

section Calls

variable {outside : Outside} {binding next : Binding} {event : BindingEvent} {out : List Output} {data : Nat}

theorem expects_congr {other : Binding} (methods : next.methods = other.methods)
    (records : next.callbackData = other.callbackData) : next.expects data = other.expects data := by
  unfold expects
  rw [methods, records]

theorem arrive_answers {event : Event} (unasked : event.token = none)
    (arrived : binding.handled (Client.step binding.att event) = .ok (next, out)) :
    due data binding + expected data next =
      expected data binding + (due data next + (out.map (Output.answers data)).sum) := by
  obtain ⟨att, effects, stepped, delivered⟩ := handled_ok arrived
  have slot := Client.step_books _ _ _ _ stepped
  rw [unasked, account, add_zero] at slot
  have expects : next.expects data = binding.expects data :=
    expects_congr delivered.methods (by rw [delivered.connected])
  have answers := delivered.answers data
  have waiting : next.waiting = outstanding att + ↑binding.writing := by
    rw [Binding.waiting, delivered.connected, delivered.writing]
  have same : ({ binding with att } : Binding).expects data = binding.expects data := expects_congr rfl rfl
  rw [answers, same, due, due, expected, expected, expects, waiting, Binding.waiting, slot]
  split
  · rw [Multiset.count_add, Multiset.count_add, Multiset.count_add]
    omega
  · rfl

theorem made_expects_new {att : Att} {cd : CallbackData} {method : Method}
    (length : binding.methods.length = binding.count) :
    (binding.made ⟨att, binding.callbackData ++ [cd]⟩ method).expects binding.count =
      (decide (method ≠ .addNotificationListener) && cd.data.isSome) := by
  apply expects_of
  · rw [made, ← length, List.getElem?_concat_length]
  · exact List.getElem?_concat_length

theorem made_expects_old {att : Att} {cd : CallbackData} {method : Method}
    (length : binding.methods.length = binding.count) (old : data ≠ binding.count) :
    (binding.made ⟨att, binding.callbackData ++ [cd]⟩ method).expects data = binding.expects data := by
  have methods : (binding.methods ++ [method])[data]? = binding.methods[data]? := by
    rcases Nat.lt_or_gt_of_ne old with before | behind
    · exact List.getElem?_append_left (by omega)
    · rw [List.getElem?_eq_none (by rw [List.length_append, List.length_singleton]; omega),
        List.getElem?_eq_none (by omega)]
  have records : (binding.callbackData ++ [cd])[data]? = binding.callbackData[data]? := by
    unfold count at old
    rcases Nat.lt_or_gt_of_ne old with before | behind
    · exact List.getElem?_append_left before
    · rw [List.getElem?_eq_none (by rw [List.length_append, List.length_singleton]; omega),
        List.getElem?_eq_none (by omega)]
  unfold expects made
  rw [methods, records]

theorem new_unexpected (binding : Binding) : binding.expects binding.count = false := by
  have nothing : binding.callbackData[binding.count]? = none := List.getElem?_eq_none (Nat.le_refl _)
  unfold expects
  rw [nothing]
  cases binding.methods[binding.count]? <;> rfl

theorem Owned.waiting_new (owned : binding.Owned) : binding.waiting.count binding.count = 0 := by
  rw [Multiset.count_eq_zero]
  intro member
  have held : binding.count ∈ binding.held + ↑binding.deleted := by
    rw [Multiset.mem_add]
    rcases Multiset.mem_add.mp member with slot | written
    · simp only [Binding.held, Multiset.mem_add]
      tauto
    · simp only [Binding.held, Multiset.mem_add]
      tauto
  exact Nat.lt_irrefl _ (owned.made held)

/-- A method that calls back once has its record wait, unless it answers at once. -/
theorem made_waiting {method : Method} {args : List Argument} {cd : CallbackData} {call : Call} {att : Att}
    {effects : List Effect} (calls : Calls outside binding.count method args cd call)
    (performed : binding.att.perform call = .ok (att, effects)) :
    binding.waiting + (if method = .addNotificationListener then 0 else {binding.count}) =
      answered effects + outstanding att +
        ↑(if method = .writeCommand then binding.writing ++ [binding.count] else binding.writing) := by
  rw [waiting]
  cases calls with
  | request asks has token called =>
    have slot := Client.step_books binding.att (.call call) att effects performed
    have unwritten : method ≠ .writeCommand := by
      rintro rfl
      cases asks
    have unlistened : method ≠ .addNotificationListener := by
      rintro rfl
      cases asks
    rw [Event.token, token, account] at slot
    rw [if_neg unlistened, if_neg unwritten, add_right_comm, slot]
  | write handle value =>
    obtain ⟨rfl, pdu, rfl⟩ := perform_write performed
    have silent : answered [Effect.write pdu] = 0 := rfl
    rw [if_neg Method.noConfusion, if_pos rfl, silent, zero_add, ← Multiset.coe_add, Multiset.coe_singleton,
      add_assoc]
  | listen number callback rest has =>
    obtain ⟨rfl, slot, _⟩ := perform_listen performed
    have silent : answered [] = 0 := rfl
    rw [if_pos rfl, if_neg Method.noConfusion, silent, zero_add, add_zero, outstanding, outstanding, slot]

theorem invoke_answers {method : Method} {args : List Argument} {cd : CallbackData} {call : Call} {att : Att}
    {effects : List Effect} (owned : binding.Owned) (length : binding.methods.length = binding.count)
    (calls : Calls outside binding.count method args cd call)
    (performed : binding.att.perform call = .ok (att, effects))
    (delivered : Delivered (binding.made ⟨att, binding.callbackData ++ [cd]⟩ method) effects next out) :
    due data binding + expected data next =
      expected data binding + (due data next + (out.map (Output.answers data)).sum) := by
  have waits := made_waiting calls performed
  have waiting : next.waiting = outstanding att +
      ↑(if method = .writeCommand then binding.writing ++ [binding.count] else binding.writing) := by
    rw [Binding.waiting, delivered.connected, delivered.writing]
    rfl
  have expects : next.expects data =
      (binding.made ⟨att, binding.callbackData ++ [cd]⟩ method).expects data :=
    expects_congr delivered.methods (by rw [delivered.connected])
  rw [add_assoc, ← waiting] at waits
  have counts := congrArg (Multiset.count data) waits
  rw [Multiset.count_add, Multiset.count_add] at counts
  rw [delivered.answers data, due, due, expected, expected, expects]
  by_cases this_one : data = binding.count
  · subst this_one
    rw [new_unexpected, made_expects_new length]
    rw [owned.waiting_new] at counts
    by_cases listens : method = .addNotificationListener
    · simp [listens]
    · rw [if_neg listens, Multiset.count_singleton_self] at counts
      simp only [listens, ne_eq, not_false_eq_true, decide_true, Bool.true_and, Bool.false_eq_true, if_false]
      split <;> omega
  · rw [made_expects_old length this_one]
    have old : Multiset.count data (if method = .addNotificationListener then 0 else {binding.count}) = 0 := by
      split
      · exact Multiset.count_zero data
      · rw [Multiset.count_singleton, if_neg this_one]
    rw [old] at counts
    split <;> omega

theorem written_answers {data' : Nat} {writing : List Nat} (pending : binding.writing = data' :: writing)
    (wrote : Wrote { binding with writing } data' next out) :
    due data binding + expected data next =
      expected data binding + (due data next + (out.map (Output.answers data)).sum) := by
  have same : ({ binding with writing } : Binding).expects data = binding.expects data := expects_congr rfl rfl
  have unlocked : binding.waiting = (outstanding binding.att + ↑writing) + {data'} := by
    rw [waiting, pending, ← Multiset.cons_coe, ← Multiset.singleton_add]
    abel
  have counted : binding.waiting.count data =
      (outstanding binding.att + ↑writing).count data + if data = data' then 1 else 0 := by
    rw [unlocked, Multiset.count_add, Multiset.count_singleton]
  have uncalled {method : Method} {cd : CallbackData}
      (follows : ({ binding with writing } : Binding).follow data' = .ok (method, cd)) (has : cd.data = none) :
      binding.expects data' = false := by
    obtain ⟨_, known, recorded⟩ := follow_ok follows
    have told : ({ binding with writing } : Binding).expects data' = _ := expects_of known recorded
    rw [has, Option.isSome_none, Bool.and_false] at told
    exact told
  have silent (expects : next.expects data = binding.expects data)
      (waits : next.waiting = outstanding binding.att + ↑writing) (uncalled : binding.expects data' = false)
      (quiet : (out.map (Output.answers data)).sum = 0) :
      due data binding + expected data next =
        expected data binding + (due data next + (out.map (Output.answers data)).sum) := by
    rw [due, due, expected, expected, expects, waits, quiet, counted]
    by_cases this_one : data = data'
    · rw [this_one, uncalled]
      rfl
    · rw [if_neg this_one]
      split <;> omega
  cases wrote with
  | called follows has kept =>
    have expects :
        ({ binding with writing, running := some data' :: binding.running } : Binding).expects data =
          binding.expects data := expects_congr rfl rfl
    have waits : ({ binding with writing, running := some data' :: binding.running } : Binding).waiting =
        outstanding binding.att + ↑writing := rfl
    rw [answers_single, called_answers _ follows has, same, due, due, expected, expected]
    dsimp only at expects waits ⊢
    rw [expects, waits, counted]
    split <;> omega
  | emitted follows has text => exact silent (expects_congr rfl rfl) rfl (uncalled follows has) rfl
  | silent follows has => exact silent (expects_congr rfl rfl) rfl (uncalled follows has) rfl

/-- No record is held in two places, and each has a method. -/
structure Kept (binding : Binding) : Prop where
  owned : binding.Owned
  length : binding.methods.length = binding.count

theorem Delivered.length {effects : List Effect} (delivered : Delivered binding effects next out)
    (length : binding.methods.length = binding.count) : next.methods.length = next.count := by
  rw [delivered.methods, count, delivered.connected]
  exact length

theorem step_length (stepped : binding.step outside event = .ok (next, out))
    (length : binding.methods.length = binding.count) : next.methods.length = next.count := by
  have arrived {event : Event} (arrived : binding.handled (Client.step binding.att event) = .ok (next, out)) :
      next.methods.length = next.count := by
    obtain ⟨_, _, _, delivered⟩ := handled_ok arrived
    exact delivered.length length
  cases event with
  | invoke method args =>
    rcases invoke_cases stepped with ⟨message, rejected, rfl, rfl⟩ |
      ⟨cd, call, att, effects, calls, performed, delivered⟩
    · exact length
    · apply delivered.length
      rw [made, count, List.length_append, List.length_append, length]
      rfl
  | received | readError => exact arrived stepped
  | written error =>
    unfold step at stepped
    dsimp only at stepped
    split at stepped
    · cases stepped
      exact length
    · cases onWrite_wrote stepped <;> exact length
  | returned =>
    unfold step at stepped
    dsimp only at stepped
    split at stepped
    · cases stepped
      exact length
    · cases stepped
      exact length
    · obtain ⟨_, rfl, rfl⟩ := delete_ok stepped
      exact length

theorem new_kept (connection : Connection) : (new connection).Kept := ⟨new_owned connection, rfl⟩

theorem step_kept : Preserves (step outside) Kept :=
  fun _ _ _ _ kept stepped => ⟨step_owned _ _ _ _ kept.owned stepped, step_length stepped kept.length⟩

theorem step_answers (kept : binding.Kept) (stepped : binding.step outside event = .ok (next, out)) :
    due data binding + expected data next =
      expected data binding + (due data next + (out.map (Output.answers data)).sum) := by
  have still (unchanged : due data next = due data binding ∧ expected data next = expected data binding)
      (quiet : (out.map (Output.answers data)).sum = 0) :
      due data binding + expected data next =
        expected data binding + (due data next + (out.map (Output.answers data)).sum) := by
    omega
  cases event with
  | invoke method args =>
    rcases invoke_cases stepped with ⟨message, rejected, rfl, rfl⟩ |
      ⟨cd, call, att, effects, calls, performed, delivered⟩
    · exact still ⟨rfl, rfl⟩ rfl
    · exact invoke_answers kept.owned kept.length calls performed delivered
  | received | readError => exact arrive_answers rfl stepped
  | written error =>
    unfold step at stepped
    dsimp only at stepped
    split at stepped
    · cases stepped
      exact still ⟨rfl, rfl⟩ rfl
    · rename_i data' writing pending
      exact written_answers pending (onWrite_wrote stepped)
  | returned =>
    unfold step at stepped
    dsimp only at stepped
    split at stepped
    · cases stepped
      exact still ⟨rfl, rfl⟩ rfl
    · cases stepped
      exact still ⟨rfl, rfl⟩ rfl
    · obtain ⟨_, rfl, rfl⟩ := delete_ok stepped
      exact still ⟨rfl, rfl⟩ rfl

/-- Records stay where they are. -/
structure Extends (binding next : Binding) : Prop where
  methods : binding.methods <+: next.methods
  records : binding.callbackData <+: next.callbackData

theorem Extends.refl (binding : Binding) : Extends binding binding :=
  ⟨List.prefix_refl _, List.prefix_refl _⟩

theorem Extends.trans {middle : Binding} (first : Extends binding middle) (second : Extends middle next) :
    Extends binding next :=
  ⟨first.methods.trans second.methods, first.records.trans second.records⟩

theorem Extends.own (extended : Extends binding next) {output : Output} (own : binding.Own output) :
    next.Own output := by
  cases output with
  | threw | wrote | emitted => trivial
  | called method token callback argv =>
    obtain ⟨known, cd, recorded, has⟩ := own
    obtain ⟨_, methods⟩ := extended.methods
    obtain ⟨_, records⟩ := extended.records
    refine ⟨?_, cd, ?_, has⟩
    · rw [← methods, List.getElem?_append_left (List.getElem?_eq_some_iff.mp known).1, known]
    · rw [← records, List.getElem?_append_left (List.getElem?_eq_some_iff.mp recorded).1, recorded]

theorem Delivered.extends {effects : List Effect} (delivered : Delivered binding effects next out) :
    Extends binding next ∧ ∀ output ∈ out, next.Own output := by
  have same : Extends binding next :=
    ⟨delivered.methods ▸ List.prefix_refl _, delivered.connected ▸ List.prefix_refl _⟩
  exact ⟨same, fun output member => same.own (delivered.own output member)⟩

theorem step_extends (stepped : binding.step outside event = .ok (next, out)) :
    Extends binding next ∧ ∀ output ∈ out, next.Own output := by
  have arrived {event : Event} (arrived : binding.handled (Client.step binding.att event) = .ok (next, out)) :
      Extends binding next ∧ ∀ output ∈ out, next.Own output := by
    obtain ⟨_, _, _, delivered⟩ := handled_ok arrived
    exact ⟨⟨delivered.extends.1.methods, delivered.extends.1.records⟩, delivered.extends.2⟩
  cases event with
  | invoke method args =>
    rcases invoke_cases stepped with ⟨message, rejected, rfl, rfl⟩ |
      ⟨cd, call, att, effects, calls, performed, delivered⟩
    · exact ⟨.refl _, List.forall_mem_singleton.mpr trivial⟩
    · have extended := delivered.extends
      refine ⟨⟨?_, ?_⟩, extended.2⟩
      · exact (List.prefix_append _ _).trans extended.1.methods
      · exact (List.prefix_append _ _).trans extended.1.records
  | received | readError => exact arrived stepped
  | written error =>
    unfold step at stepped
    dsimp only at stepped
    split at stepped
    · cases stepped
      exact ⟨.refl _, List.forall_mem_nil _⟩
    · cases onWrite_wrote stepped with
      | called follows has =>
        obtain ⟨_, known, recorded⟩ := follow_ok follows
        exact ⟨⟨List.prefix_refl _, List.prefix_refl _⟩,
          List.forall_mem_singleton.mpr ⟨known, _, recorded, has⟩⟩
      | emitted => exact ⟨⟨List.prefix_refl _, List.prefix_refl _⟩, List.forall_mem_singleton.mpr trivial⟩
      | silent => exact ⟨⟨List.prefix_refl _, List.prefix_refl _⟩, List.forall_mem_nil _⟩
  | returned =>
    unfold step at stepped
    dsimp only at stepped
    split at stepped
    · cases stepped
      exact ⟨.refl _, List.forall_mem_nil _⟩
    · cases stepped
      exact ⟨⟨List.prefix_refl _, List.prefix_refl _⟩, List.forall_mem_nil _⟩
    · obtain ⟨_, rfl, rfl⟩ := delete_ok stepped
      exact ⟨⟨List.prefix_refl _, List.prefix_refl _⟩, List.forall_mem_nil _⟩

theorem run_extends {events : List BindingEvent} (ran : run (step outside) binding events = .ok (next, out)) :
    Extends binding next ∧ ∀ output ∈ out, next.Own output := by
  induction events generalizing binding out with
  | nil =>
    cases ran
    exact ⟨.refl _, List.forall_mem_nil _⟩
  | cons event events ih =>
    obtain ⟨middle, first, rest, stepped, onward, rfl⟩ := run_cons_ok ran
    have here := step_extends stepped
    have later := ih onward
    refine ⟨here.1.trans later.1, fun output member => ?_⟩
    rcases List.mem_append.mp member with member | member
    · exact later.1.own (here.2 output member)
    · exact later.2 output member

/-- With a method that calls back once, all calls of the record's callback count. -/
theorem answers_names {method : Method} (own : ∀ output ∈ out, binding.Own output)
    (known : binding.methods[data]? = some method) (once : method ≠ .addNotificationListener) :
    (out.map (Output.answers data)).sum = (out.filter (Output.names data)).length := by
  induction out with
  | nil => rfl
  | cons output out ih =>
    rw [List.forall_mem_cons] at own
    rw [List.map_cons, List.sum_cons, ih own.2]
    cases output with
    | threw | wrote | emitted => exact Nat.zero_add _
    | called made token callback argv =>
      by_cases this_one : token = data
      · subst this_one
        cases own.1.1.symm.trans known
        simp [Output.answers, Output.names, once, Nat.add_comm]
      · simp [Output.answers, Output.names, this_one]

end Calls

end Binding

section Runs

variable {outside : Outside} {connection : Connection} {events : List BindingEvent} {binding : Binding}
  {out : List Output}

/-- After any events, also from inside callbacks: each record that was made is in one place where
    something points to it, was deleted once, or is lost, and lost are exactly those of reads answered
    with an error and of listeners for a handle that had one. -/
theorem records_accounted
    (ran : run (Binding.step outside) (Binding.new connection) events = .ok (binding, out)) :
    binding.all = binding.held + ↑binding.deleted + (out.map Output.forgets).sum +
      ((visited (Binding.step outside) (Binding.new connection) events).map
        (Binding.ignores outside)).sum := by
  have always : Preserves (Binding.step outside) (fun _ => True) := fun _ _ _ _ _ _ => trivial
  have books := run_ledger (Binding.ignores outside) always
    (fun _ _ _ _ _ stepped => Binding.step_books stepped) trivial ran
  have none_made : (Binding.new connection).all = 0 := rfl
  have none_held : (Binding.new connection).held + ↑(Binding.new connection).deleted = 0 := rfl
  rwa [none_made, none_held, zero_add, zero_add] at books

end Runs

def plain : Outside where
  uninitialised _ := 0
  btStringToUuid _ := .unspec

/-- A read, another that is refused and lost, the value of the first, and two listeners for one handle,
    the second of which is lost as well. -/
def readAndListen : List BindingEvent :=
  [.invoke .readHandle [.uint32 3, .function 7], .invoke .readHandle [.uint32 4, .function 8], .returned,
    .received [attOpReadResp, 42], .returned, .invoke .addNotificationListener [.uint32 5, .function 9],
    .invoke .addNotificationListener [.uint32 5, .function 10]]

theorem readAndListen_accounted : ∃ binding out,
    run (Binding.step plain) (Binding.new leConnection) readAndListen = .ok (binding, out) ∧
      binding.deleted = [0] ∧ binding.all = binding.held + ↑binding.deleted + (out.map Output.forgets).sum +
        ((visited (Binding.step plain) (Binding.new leConnection) readAndListen).map
          (Binding.ignores plain)).sum :=
  ⟨_, _, rfl, rfl, records_accounted rfl⟩

section Runs

variable {outside : Outside} {connection : Connection} {events : List BindingEvent} {binding : Binding}
  {out : List Output}

/-- The callback of a record, unless it is a listener's, is called exactly once, as the function that was
    given for it, and until then the record waits: in the slot, or for its write to complete. -/
theorem called_once (ran : run (Binding.step outside) (Binding.new connection) events = .ok (binding, out))
    {data callback : Nat} {method : Method} {cd : CallbackData}
    (known : binding.methods[data]? = some method) (once : method ≠ .addNotificationListener)
    (recorded : binding.callbackData[data]? = some cd) (has : cd.data = some callback) :
    data ∈ binding.waiting ∧ out.filter (Output.names data) = [] ∨
      data ∉ binding.waiting ∧ ∃ argv,
        out.filter (Output.names data) = [.called method data callback argv] := by
  have own := (Binding.run_extends ran).2
  have expects : binding.expects data = true := by
    rw [Binding.expects_of known recorded, has]
    simp [once]
  have books : Binding.due data (Binding.new connection) + Binding.expected data binding =
      Binding.expected data (Binding.new connection) + (Binding.due data binding +
        (out.map (Output.answers data)).sum + _) :=
    run_ledger (fun _ => 0) Binding.step_kept (fun _ _ _ _ sound stepped => Binding.step_answers sound stepped)
      (Binding.new_kept connection) ran
  have nothing_due : Binding.due data (Binding.new connection) = 0 := rfl
  have nothing_expected : Binding.expected data (Binding.new connection) = 0 := rfl
  rw [nothing_due, nothing_expected, Binding.due, Binding.expected, expects, if_pos rfl, if_pos rfl,
    Binding.answers_names own known once, List.map_const', List.sum_replicate, nsmul_zero] at books
  by_cases waits : data ∈ binding.waiting
  · have counted := Multiset.count_pos.mpr waits
    refine .inl ⟨waits, List.eq_nil_iff_length_eq_zero.mpr (by omega)⟩
  · rw [Multiset.count_eq_zero_of_notMem waits] at books
    have single : (out.filter (Output.names data)).length = 1 := by omega
    obtain ⟨output, only⟩ := List.length_eq_one_iff.mp single
    refine .inr ⟨waits, ?_⟩
    have member : output ∈ out.filter (Output.names data) := by
      rw [only]
      exact List.mem_singleton_self output
    obtain ⟨member, named⟩ := List.mem_filter.mp member
    have record := own output member
    cases output with
    | threw | wrote | emitted => cases named
    | called made token given argv =>
      cases of_decide_eq_true named
      cases record.1.symm.trans known
      obtain ⟨other, found, function⟩ := record.2
      cases found.symm.trans recorded
      cases function.symm.trans has
      exact ⟨argv, only⟩

end Runs

theorem readAndListen_called : ∃ binding out,
    run (Binding.step plain) (Binding.new leConnection) readAndListen = .ok (binding, out) ∧
      (0 ∈ binding.waiting ∧ out.filter (Output.names 0) = [] ∨
        0 ∉ binding.waiting ∧ ∃ argv, out.filter (Output.names 0) = [.called .readHandle 0 7 argv]) := by
  have ran : run (Binding.step plain) (Binding.new leConnection) readAndListen = .ok (_, _) := rfl
  exact ⟨_, _, ran, called_once ran rfl nofun rfl rfl⟩

end Btle.Wire.Peripheral

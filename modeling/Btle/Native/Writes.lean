import Btle.Library.Machine

namespace Btle.Native

/-- An argument from JavaScript. A function is told by a number. -/
inductive WriteArgument
  | buffer (data : List UInt8)
  | function (callback : Nat)
  | number (value : Int)
  | other
  deriving DecidableEq, Repr

structure WriteData where
  callback : Option Nat
  deriving DecidableEq, Repr

/-- A `uv_write_t`; each one that is made has a number of its own. -/
structure WriteRequest where
  id : Nat
  data : WriteData
  deriving DecidableEq, Repr

inductive WriteEffect
  | threw (message : String)
  | uvWrite (id : Nat) (data : List UInt8)
  | called (callback : Nat) (error : Option String)
  | emitted (event error : String)
  | deleted (id : Nat)
  deriving DecidableEq, Repr

/-- The `Central`, as far as it writes, with the requests that libuv has not completed. -/
structure Writer where
  mtu : Nat
  next : Nat
  requests : List WriteRequest
  deriving DecidableEq, Repr

/-- `completed` is libuv calling back for a request, with a status and the text of its last error. What
    listeners of 'error' call comes afterwards. -/
inductive WriteEvent
  | write (arguments : List WriteArgument)
  | setMTU (arguments : List WriteArgument)
  | completed (id : Nat) (status : Int) (error : String)
  deriving DecidableEq, Repr

def overlong (len mtu : Nat) : String :=
  s!"Data length of {len} is greater than MTU value of {mtu}"

namespace Writer

def new (mtu : Nat) : Writer := { mtu, next := 0, requests := [] }

def uvWrite (writer : Writer) (data : List UInt8) (wdData : Option WriteData) :
    Writer × List WriteEffect :=
  let wd := wdData.getD ⟨none⟩
  ({ writer with next := writer.next + 1, requests := writer.requests ++ [⟨writer.next, wd⟩] },
    [.uvWrite writer.next data])

/-- A buffer that is too long throws, and is written all the same. -/
def send (writer : Writer) (data : List UInt8) (callback : Option Nat) : Writer × List WriteEffect :=
  let thrown := if writer.mtu < data.length then [.threw (overlong data.length writer.mtu)] else []
  let (next, written) := writer.uvWrite data (some ⟨callback⟩)
  (next, thrown ++ written)

/-- `Central::Write`. -/
def write (writer : Writer) : List WriteArgument → Writer × List WriteEffect
  | [] => (writer, [.threw "Wrong number of arguments"])
  | .buffer data :: [] => writer.send data none
  | .buffer data :: .function callback :: _ => writer.send data (some callback)
  | .buffer _ :: _ :: _ => (writer, [.threw "Second argument must be a callback"])
  | _ :: _ => (writer, [.threw "First argument must be a Buffer"])

def setMTU (writer : Writer) : List WriteArgument → Writer × List WriteEffect
  | [] => (writer, [.threw "No argument provided"])
  | .number value :: _ => ({ writer with mtu := (value % 2 ^ 64).toNat }, [])
  | _ :: _ => (writer, [.threw "Argument must be a number"])

end Writer

/-- `Central::onWrite`, before it deletes the request. -/
def onWrite (wd : WriteData) (status : Int) (error : String) : List WriteEffect :=
  if wd.callback.isNone then
    if status < 0 then
      match wd.callback with
      | none => [.emitted "error" error]
      | some callback => [.called callback (some error)]
    else
      match wd.callback with
      | some callback => [.called callback none]
      | none => []
  else []

namespace Writer

def request? (writer : Writer) (id : Nat) : Option WriteRequest :=
  writer.requests.find? fun request => request.id = id

def complete (writer : Writer) (id : Nat) (status : Int) (error : String) :
    Writer × List WriteEffect :=
  match writer.request? id with
  | some request =>
    ({ writer with requests := writer.requests.eraseP fun other => other.id = id },
      onWrite request.data status error ++ [.deleted id])
  | none => (writer, [])

def handle (writer : Writer) : WriteEvent → Writer × List WriteEffect
  | .write arguments => writer.write arguments
  | .setMTU arguments => writer.setMTU arguments
  | .completed id status error => writer.complete id status error

def step : Machine.Step Writer WriteEvent WriteEffect Empty :=
  fun writer event => .ok (writer.handle event)

end Writer

def givenWrite : List WriteArgument → Option (List UInt8 × Option Nat)
  | .buffer data :: [] => some (data, none)
  | .buffer data :: .function callback :: _ => some (data, some callback)
  | _ => none

/-- A buffer that is not too long is handed over, and any other is refused. -/
def dueWrite (writer : Writer) (data : List UInt8) : List WriteEffect :=
  if writer.mtu < data.length then [.threw (overlong data.length writer.mtu)]
  else [.uvWrite writer.next data]

/-- A completion goes to the callback, or is an 'error' event if it failed and there is none. -/
def dueReport (callback : Option Nat) (status : Int) (error : String) : List WriteEffect :=
  match callback with
  | some callback => [.called callback (if status < 0 then some error else none)]
  | none => if status < 0 then [.emitted "error" error] else []

/-- Nothing comes of a write but what is due, and nothing of a completion but its report. -/
def Writer.Handled (writer : Writer) : WriteEvent → Prop
  | .write arguments => ∀ data callback, givenWrite arguments = some (data, callback) →
    (writer.handle (.write arguments)).2 = dueWrite writer data
  | .completed id status error => ∀ request, writer.request? id = some request →
    (writer.handle (.completed id status error)).2 =
      dueReport request.data.callback status error ++ [.deleted id]
  | .setMTU _ => True

/-- No buffer is too long, and no request that completes was given a callback. -/
def Writer.Careful (writer : Writer) : WriteEvent → Prop
  | .write arguments => ∀ data callback, givenWrite arguments = some (data, callback) →
    data.length ≤ writer.mtu
  | .completed id _ _ => ∀ request, writer.request? id = some request → request.data.callback = none
  | .setMTU _ => True

namespace Writer

variable {writer : Writer}

theorem write_given {arguments : List WriteArgument} {data : List UInt8} {callback : Option Nat}
    (given : givenWrite arguments = some (data, callback)) :
    writer.write arguments = writer.send data callback := by
  unfold givenWrite at given
  split at given
  · cases given
    rfl
  · cases given
    rfl
  · cases given

theorem send_due (data : List UInt8) (callback : Option Nat) :
    (writer.send data callback).2 = dueWrite writer data ↔ data.length ≤ writer.mtu := by
  unfold send uvWrite dueWrite
  by_cases long : writer.mtu < data.length
  · rw [if_pos long, if_pos long]
    exact iff_of_false (by simp) (Nat.not_le.mpr long)
  · rw [if_neg long, if_neg long]
    exact iff_of_true rfl (Nat.not_lt.mp long)

/-- All that `onWrite` reports stands behind the question whether there is no callback. -/
theorem onWrite_due (wd : WriteData) (status : Int) (error : String) :
    onWrite wd status error = dueReport wd.callback status error ↔ wd.callback = none := by
  obtain ⟨callback⟩ := wd
  cases callback with
  | none => exact iff_of_true rfl rfl
  | some callback => exact iff_of_false (by simp [onWrite, dueReport]) (by simp)

theorem handled_iff (event : WriteEvent) : writer.Handled event ↔ writer.Careful event := by
  cases event with
  | setMTU arguments => exact Iff.rfl
  | write arguments =>
    apply forall₂_congr
    intro data callback
    apply imp_congr_right
    intro given
    rw [handle, write_given given]
    exact send_due data callback
  | completed id status error =>
    apply forall_congr'
    intro request
    apply imp_congr_right
    intro found
    simp only [handle, complete, found, List.append_cancel_right_eq]
    exact onWrite_due request.data status error

end Writer

section Once

def handsOver (id : Nat) : WriteEffect → Bool
  | .uvWrite other _ => other = id
  | .threw _ | .called _ _ | .emitted _ _ | .deleted _ => false

def deletes (id : Nat) : WriteEffect → Bool
  | .deleted other => other = id
  | .threw _ | .uvWrite _ _ | .called _ _ | .emitted _ _ => false

def Writer.unused (writer : Writer) (id : Nat) : Nat := if writer.next ≤ id then 1 else 0

def Writer.waiting (writer : Writer) (id : Nat) : Nat :=
  writer.requests.countP fun request => request.id = id

variable {writer next : Writer} {event : WriteEvent} {out : List WriteEffect}

theorem thrown_counts {counted : WriteEffect → Bool}
    (never : ∀ message, counted (.threw message) = false)
    (threw : ∀ effect ∈ out, ∃ message, effect = .threw message) : out.countP counted = 0 := by
  apply List.countP_eq_zero.mpr
  intro effect member
  obtain ⟨message, rfl⟩ := threw effect member
  rw [never]
  exact Bool.false_ne_true

theorem onWrite_counts {counted : WriteEffect → Bool} (called : ∀ callback error,
    counted (.called callback error) = false) (emitted : ∀ event error,
      counted (.emitted event error) = false) (wd : WriteData) (status : Int) (error : String) :
    (onWrite wd status error).countP counted = 0 := by
  apply List.countP_eq_zero.mpr
  intro effect member
  unfold onWrite at member
  split at member
  · split at member
    · split at member
      · rw [List.mem_singleton.mp member, emitted]
        exact Bool.false_ne_true
      · rw [List.mem_singleton.mp member, called]
        exact Bool.false_ne_true
    · split at member
      · rw [List.mem_singleton.mp member, called]
        exact Bool.false_ne_true
      · cases member
  · cases member

/-- A step throws or leaves all as it is, or hands a new request over, or completes one. -/
theorem step_cases (stepped : Writer.step writer event = .ok (next, out)) :
    (next.next = writer.next ∧ next.requests = writer.requests ∧
        ∀ effect ∈ out, ∃ message, effect = .threw message) ∨
      (∃ data callback, next = (writer.send data callback).1 ∧
        out = (writer.send data callback).2) ∨
      ∃ id status error request, writer.request? id = some request ∧
        next = { writer with requests := writer.requests.eraseP fun other => other.id = id } ∧
        out = onWrite request.data status error ++ [.deleted id] := by
  obtain ⟨rfl, rfl⟩ : next = (writer.handle event).1 ∧ out = (writer.handle event).2 := by
    have same := Except.ok.inj stepped
    exact ⟨(congrArg Prod.fst same).symm, (congrArg Prod.snd same).symm⟩
  cases event with
  | setMTU arguments =>
    left
    rcases arguments with _ | ⟨_ | _ | _ | _, _⟩ <;> simp [Writer.handle, Writer.setMTU]
  | write arguments =>
    rcases arguments with _ | ⟨⟨data⟩ | _ | _ | _, _ | ⟨_ | callback | _ | _, _⟩⟩
    case cons.buffer.nil => exact .inr (.inl ⟨data, none, rfl, rfl⟩)
    case cons.buffer.cons.function => exact .inr (.inl ⟨data, some callback, rfl, rfl⟩)
    all_goals
      left
      simp [Writer.handle, Writer.write]
  | completed id status error =>
    cases found : writer.request? id with
    | none =>
      left
      simp [Writer.handle, Writer.complete, found]
    | some request =>
      refine .inr (.inr ⟨id, status, error, request, found, ?_, ?_⟩)
      · simp only [Writer.handle, Writer.complete, found]
      · simp only [Writer.handle, Writer.complete, found]

theorem send_counts (writer : Writer) (data : List UInt8) (callback : Option Nat)
    {counted : WriteEffect → Bool} (thrown : ∀ message, counted (.threw message) = false) :
    (writer.send data callback).2.countP counted =
      if counted (.uvWrite writer.next data) = true then 1 else 0 := by
  unfold Writer.send Writer.uvWrite
  by_cases long : writer.mtu < data.length
  · simp [long, thrown, List.countP_cons]
  · simp [long, List.countP_cons]

theorem handed_books (id : Nat) (stepped : Writer.step writer event = .ok (next, out)) :
    writer.unused id = out.countP (handsOver id) + next.unused id := by
  rcases step_cases stepped with ⟨same, _, threw⟩ | ⟨data, callback, rfl, rfl⟩ |
    ⟨other, status, error, request, _, rfl, rfl⟩
  · rw [thrown_counts (fun _ => rfl) threw, Writer.unused, Writer.unused, same, Nat.zero_add]
  · have never : ∀ message, handsOver id (.threw message) = false := fun _ => rfl
    rw [send_counts writer data callback never]
    show (if writer.next ≤ id then 1 else 0) = _ + (if writer.next + 1 ≤ id then 1 else 0)
    simp only [handsOver, decide_eq_true_eq]
    split <;> split <;> split <;> omega
  · rw [List.countP_append, onWrite_counts (fun _ _ => rfl) (fun _ _ => rfl)]
    exact (Nat.zero_add _).symm

theorem deleted_books (id : Nat) (stepped : Writer.step writer event = .ok (next, out)) :
    writer.unused id + writer.waiting id =
      out.countP (deletes id) + (next.unused id + next.waiting id) := by
  rcases step_cases stepped with ⟨same, kept, threw⟩ | ⟨data, callback, rfl, rfl⟩ |
    ⟨other, status, error, request, found, rfl, rfl⟩
  · rw [thrown_counts (fun _ => rfl) threw, Writer.unused, Writer.unused, Writer.waiting,
      Writer.waiting, same, kept, Nat.zero_add]
  · have never : ∀ message, deletes id (.threw message) = false := fun _ => rfl
    rw [send_counts writer data callback never]
    show (if writer.next ≤ id then 1 else 0) + writer.waiting id = 0 +
      ((if writer.next + 1 ≤ id then 1 else 0) +
        (writer.requests ++ [WriteRequest.mk writer.next ⟨callback⟩]).countP
          fun request => request.id = id)
    rw [List.countP_append, List.countP_singleton, Nat.zero_add, Writer.waiting]
    simp only [decide_eq_true_eq]
    split <;> split <;> split <;> omega
  · have member := List.mem_of_find?_eq_some found
    have named := List.find?_some found
    obtain ⟨erased, before, after, _, erased_named, split, left⟩ :
        ∃ erased before after, (∀ earlier ∈ before, ¬ decide (earlier.id = other) = true) ∧
          decide (erased.id = other) = true ∧ writer.requests = before ++ erased :: after ∧
            (writer.requests.eraseP fun request => request.id = other) = before ++ after :=
      List.exists_of_eraseP member named
    have called : erased.id = other := of_decide_eq_true erased_named
    rw [List.countP_append, onWrite_counts (fun _ _ => rfl) (fun _ _ => rfl), List.countP_singleton]
    show writer.unused id + writer.waiting id = 0 + (if decide (other = id) = true then 1 else 0) +
      (writer.unused id + (writer.requests.eraseP fun request => request.id = other).countP
        fun request => request.id = id)
    rw [Writer.waiting, left, split, List.countP_append, List.countP_append, List.countP_cons, called]
    omega

theorem once_in_run {mtu : Nat} {events : List WriteEvent} {last : Writer}
    (ran : Machine.run Writer.step (Writer.new mtu) events = .ok (last, out)) (id : Nat) :
    out.countP (handsOver id) ≤ 1 ∧ out.countP (deletes id) ≤ 1 := by
  have handed : ∀ writer event next out, Writer.step writer event = .ok (next, out) →
      writer.unused id = out.countP (handsOver id) + next.unused id :=
    fun _ _ _ _ stepped => handed_books id stepped
  have deleted : ∀ writer event next out, Writer.step writer event = .ok (next, out) →
      writer.unused id + writer.waiting id =
        out.countP (deletes id) + (next.unused id + next.waiting id) :=
    fun _ _ _ _ stepped => deleted_books id stepped
  have start : (Writer.new mtu).unused id = 1 ∧ (Writer.new mtu).waiting id = 0 := ⟨rfl, rfl⟩
  have all_handed := Machine.run_counts handed ran
  have all_deleted := Machine.run_counts deleted ran
  omega

end Once

/-- What comes of a run of writes and completions: each is handled as it should be, and none twice. -/
def ReportedOnce (mtu : Nat) (events : List WriteEvent) : Prop :=
  (∀ taken ∈ Machine.visited Writer.step (Writer.new mtu) events, taken.1.Handled taken.2) ∧
    ∀ last out, Machine.run Writer.step (Writer.new mtu) events = .ok (last, out) →
      ∀ id, out.countP (handsOver id) ≤ 1 ∧ out.countP (deletes id) ≤ 1

/-- In any order of writes and completions, each comes out as it should exactly if no buffer is too
    long and no request with a callback completes. -/
theorem writes_reported_once_iff (mtu : Nat) (events : List WriteEvent) :
    ReportedOnce mtu events ↔
      ∀ taken ∈ Machine.visited Writer.step (Writer.new mtu) events, taken.1.Careful taken.2 := by
  have steps : (∀ taken ∈ Machine.visited Writer.step (Writer.new mtu) events,
      taken.1.Handled taken.2) ↔
      ∀ taken ∈ Machine.visited Writer.step (Writer.new mtu) events, taken.1.Careful taken.2 :=
    forall₂_congr fun taken _ => Writer.handled_iff taken.2
  rw [ReportedOnce, steps]
  exact and_iff_left fun last out ran id => once_in_run ran id

theorem write_unreported :
    ¬ ReportedOnce 1 [.write [.buffer [1, 2]]] ∧
      ¬ ReportedOnce 1 [.write [.buffer [1], .function 0], .completed 0 0 ""] := by
  constructor
  · rintro ⟨handled, _⟩
    have due := handled _ List.mem_cons_self [1, 2] none rfl
    cases due
  · rintro ⟨handled, _⟩
    have due := handled _ (List.mem_cons_of_mem _ List.mem_cons_self) ⟨0, ⟨some 0⟩⟩ rfl
    cases due

end Btle.Native

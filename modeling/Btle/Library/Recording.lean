import Btle.Library.Machine

namespace Machine

universe u v w x y z

variable {State : Type u} {Event : Type v} {Output : Type w} {Fault : Type x} {Log : Type y}
  {Turn : Type z}

/-- A machine with a log beside its state. A turn is an event with what the log has to know of it;
    the log takes no part in what the machine does. -/
def recording (step : Step State Event Output Fault) (event : Turn → Event)
    (record : State → Log → Turn → Log) : Step (State × Log) Turn Output Fault :=
  fun (state, log) turn =>
    match step state (event turn) with
    | .error fault => .error fault
    | .ok (next, out) => .ok ((next, record state log turn), out)

variable {step : Step State Event Output Fault} {event : Turn → Event}
  {record : State → Log → Turn → Log}

theorem recording_ok {state next : State} {log later : Log} {turn : Turn} {out : List Output}
    (h : recording step event record (state, log) turn = .ok ((next, later), out)) :
    step state (event turn) = .ok (next, out) ∧ later = record state log turn := by
  simp only [recording] at h
  split at h
  · cases h
  · rename_i last emitted stepped
    cases h
    exact ⟨stepped, rfl⟩

theorem recording_of_step {state next : State} {turn : Turn} {out : List Output} (log : Log)
    (stepped : step state (event turn) = .ok (next, out)) :
    recording step event record (state, log) turn = .ok ((next, record state log turn), out) := by
  simp only [recording, stepped]

theorem recording_of_fault {state : State} {turn : Turn} {fault : Fault} (log : Log)
    (stepped : step state (event turn) = .error fault) :
    recording step event record (state, log) turn = .error fault := by
  simp only [recording, stepped]

/-- Without its log a recorded run is the run itself. -/
theorem visited_recording (state : State) (log : Log) (turns : List Turn) :
    (visited (recording step event record) (state, log) turns).map
        (fun taken => (taken.1.1, event taken.2)) =
      visited step state (turns.map event) := by
  induction turns generalizing state log with
  | nil => rfl
  | cons turn turns ih =>
    rw [List.map_cons]
    cases stepped : step state (event turn) with
    | error fault =>
      rw [visited_cons_of_fault stepped, visited_cons_of_fault (recording_of_fault log stepped)]
      rfl
    | ok result =>
      rcases result with ⟨next, out⟩
      rw [visited_cons_of_step stepped, visited_cons_of_step (recording_of_step log stepped),
        List.map_cons, ih]

/-- As `recording`, with a log that is told what comes out of a step. -/
def watching (step : Step State Event Output Fault) (watch : State → Log → Event → List Output → Log) :
    Step (State × Log) Event Output Fault :=
  fun (state, log) event => (step state event).map fun done => ((done.1, watch state log event done.2), done.2)

variable {watch : State → Log → Event → List Output → Log}

theorem watching_ok {state next : State} {log later : Log} {event : Event} {out : List Output}
    (h : watching step watch (state, log) event = .ok ((next, later), out)) :
    step state event = .ok (next, out) ∧ later = watch state log event out := by
  cases stepped : step state event with
  | error fault =>
    simp only [watching, stepped] at h
    cases h
  | ok done =>
    simp only [watching, stepped] at h
    cases h
    exact ⟨rfl, rfl⟩

end Machine

import Btle.Library.Machine

namespace Duplex

open Machine

universe u v w x y z r s

/-- One end of a connection: what it does with an event of its own and with a message it takes.
    Either way it may write messages to the other end, and emits what it likes. -/
structure Peer (State : Type u) (Event : Type v) (Message : Type w) (Output : Type x)
    (Fault : Type y) where
  act : State → Event → Except Fault (State × List Message × List Output)
  take : State → Message → Except Fault (State × List Message × List Output)

/-- Two ends with what is on the way between them, the first to arrive first. -/
structure Link (Left : Type u) (Right : Type v) (Message : Type w) where
  left : Left
  right : Right
  toRight : List Message
  toLeft : List Message

inductive Action (LeftEvent : Type u) (RightEvent : Type v)
  | left (event : LeftEvent)
  | right (event : RightEvent)
  | deliverRight
  | deliverLeft
  deriving DecidableEq, Repr

/-- What is to be seen of a connection: messages written and taken by the two ends, and what these
    emit. -/
inductive Sight (Message : Type u) (LeftOutput : Type v) (RightOutput : Type w)
  | wroteLeft (message : Message)
  | wroteRight (message : Message)
  | tookLeft (message : Message)
  | tookRight (message : Message)
  | left (output : LeftOutput)
  | right (output : RightOutput)
  deriving DecidableEq, Repr

namespace Sight

variable {Message : Type u} {LeftOutput : Type v} {RightOutput : Type w}

def wroteLeft? : Sight Message LeftOutput RightOutput → Option Message
  | wroteLeft message => some message
  | wroteRight _ | tookLeft _ | tookRight _ | left _ | right _ => none

def wroteRight? : Sight Message LeftOutput RightOutput → Option Message
  | wroteRight message => some message
  | wroteLeft _ | tookLeft _ | tookRight _ | left _ | right _ => none

def tookLeft? : Sight Message LeftOutput RightOutput → Option Message
  | tookLeft message => some message
  | wroteLeft _ | wroteRight _ | tookRight _ | left _ | right _ => none

def tookRight? : Sight Message LeftOutput RightOutput → Option Message
  | tookRight message => some message
  | wroteLeft _ | wroteRight _ | tookLeft _ | left _ | right _ => none

def left? : Sight Message LeftOutput RightOutput → Option LeftOutput
  | left output => some output
  | wroteLeft _ | wroteRight _ | tookLeft _ | tookRight _ | right _ => none

theorem mem_left {out : List (Sight Message LeftOutput RightOutput)} {output : LeftOutput} :
    output ∈ out.filterMap left? ↔ .left output ∈ out := by
  rw [List.mem_filterMap]
  constructor
  · rintro ⟨sight, member, same⟩
    cases sight with
    | left other =>
      cases same
      exact member
    | wroteLeft | wroteRight | tookLeft | tookRight | right => cases same
  · exact fun member => ⟨.left output, member, rfl⟩

end Sight

variable {Left : Type u} {Right : Type v} {LeftEvent : Type w} {RightEvent : Type x}
  {Message : Type y} {LeftOutput : Type z} {RightOutput : Type r} {Fault : Type s}

namespace Link

variable (link : Link Left Right Message)

def leftDone (result : Left × List Message × List LeftOutput) :
    Link Left Right Message × List (Sight Message LeftOutput RightOutput) :=
  ({ link with left := result.1, toRight := link.toRight ++ result.2.1 },
    result.2.1.map .wroteLeft ++ result.2.2.map .left)

def rightDone (result : Right × List Message × List RightOutput) :
    Link Left Right Message × List (Sight Message LeftOutput RightOutput) :=
  ({ link with right := result.1, toLeft := link.toLeft ++ result.2.1 },
    result.2.1.map .wroteRight ++ result.2.2.map .right)

end Link

/-- Nothing happens when nothing is there to be delivered. -/
def step (leftPeer : Peer Left LeftEvent Message LeftOutput Fault)
    (rightPeer : Peer Right RightEvent Message RightOutput Fault) :
    Step (Link Left Right Message) (Action LeftEvent RightEvent)
      (Sight Message LeftOutput RightOutput) Fault
  | link, .left event => (leftPeer.act link.left event).map link.leftDone
  | link, .right event => (rightPeer.act link.right event).map link.rightDone
  | link, .deliverRight =>
    match link.toRight with
    | [] => .ok (link, [])
    | message :: rest =>
      ((rightPeer.take link.right message).map { link with toRight := rest }.rightDone).map
        fun done => (done.1, .tookRight message :: done.2)
  | link, .deliverLeft =>
    match link.toLeft with
    | [] => .ok (link, [])
    | message :: rest =>
      ((leftPeer.take link.left message).map { link with toLeft := rest }.leftDone).map
        fun done => (done.1, .tookLeft message :: done.2)

section Cases

variable {leftPeer : Peer Left LeftEvent Message LeftOutput Fault}
  {rightPeer : Peer Right RightEvent Message RightOutput Fault} {link next : Link Left Right Message}
  {out : List (Sight Message LeftOutput RightOutput)}

/-- All a step can do. -/
inductive StepCase (leftPeer : Peer Left LeftEvent Message LeftOutput Fault)
    (rightPeer : Peer Right RightEvent Message RightOutput Fault) (link : Link Left Right Message) :
    Action LeftEvent RightEvent → Link Left Right Message →
      List (Sight Message LeftOutput RightOutput) → Prop
  | left (event : LeftEvent) (state : Left) (written : List Message) (emitted : List LeftOutput)
      (acted : leftPeer.act link.left event = .ok (state, written, emitted)) :
      StepCase leftPeer rightPeer link (.left event)
        { link with left := state, toRight := link.toRight ++ written }
        (written.map .wroteLeft ++ emitted.map .left)
  | right (event : RightEvent) (state : Right) (written : List Message) (emitted : List RightOutput)
      (acted : rightPeer.act link.right event = .ok (state, written, emitted)) :
      StepCase leftPeer rightPeer link (.right event)
        { link with right := state, toLeft := link.toLeft ++ written }
        (written.map .wroteRight ++ emitted.map .right)
  | deliverRight (message : Message) (rest : List Message) (waiting : link.toRight = message :: rest)
      (state : Right) (written : List Message) (emitted : List RightOutput)
      (taken : rightPeer.take link.right message = .ok (state, written, emitted)) :
      StepCase leftPeer rightPeer link .deliverRight
        { link with right := state, toRight := rest, toLeft := link.toLeft ++ written }
        (.tookRight message :: (written.map .wroteRight ++ emitted.map .right))
  | deliverLeft (message : Message) (rest : List Message) (waiting : link.toLeft = message :: rest)
      (state : Left) (written : List Message) (emitted : List LeftOutput)
      (taken : leftPeer.take link.left message = .ok (state, written, emitted)) :
      StepCase leftPeer rightPeer link .deliverLeft
        { link with left := state, toLeft := rest, toRight := link.toRight ++ written }
        (.tookLeft message :: (written.map .wroteLeft ++ emitted.map .left))
  | idleRight (none_waiting : link.toRight = []) :
      StepCase leftPeer rightPeer link .deliverRight link []
  | idleLeft (none_waiting : link.toLeft = []) :
      StepCase leftPeer rightPeer link .deliverLeft link []

theorem map_ok {α : Type u} {β : Type v} {first : Except Fault α} {change : α → β} {result : β}
    (h : first.map change = .ok result) : ∃ value, first = .ok value ∧ change value = result := by
  cases first with
  | error fault => cases h
  | ok value => exact ⟨value, rfl, Except.ok.inj h⟩

theorem step_cases {action : Action LeftEvent RightEvent}
    (h : step leftPeer rightPeer link action = .ok (next, out)) :
    StepCase leftPeer rightPeer link action next out := by
  cases action with
  | left event =>
    obtain ⟨⟨state, written, emitted⟩, acted, same⟩ := map_ok h
    cases same
    exact .left event state written emitted acted
  | right event =>
    obtain ⟨⟨state, written, emitted⟩, acted, same⟩ := map_ok h
    cases same
    exact .right event state written emitted acted
  | deliverRight =>
    cases waiting : link.toRight with
    | nil =>
      simp only [step, waiting] at h
      cases h
      exact .idleRight waiting
    | cons message rest =>
      simp only [step, waiting] at h
      obtain ⟨done, handled, same⟩ := map_ok h
      obtain ⟨⟨state, written, emitted⟩, taken, rfl⟩ := map_ok handled
      cases same
      exact .deliverRight message rest waiting state written emitted taken
  | deliverLeft =>
    cases waiting : link.toLeft with
    | nil =>
      simp only [step, waiting] at h
      cases h
      exact .idleLeft waiting
    | cons message rest =>
      simp only [step, waiting] at h
      obtain ⟨done, handled, same⟩ := map_ok h
      obtain ⟨⟨state, written, emitted⟩, taken, rfl⟩ := map_ok handled
      cases same
      exact .deliverLeft message rest waiting state written emitted taken

/-- The left end emits something on an event of its own, or on the message it takes. -/
theorem step_left_emits {action : Action LeftEvent RightEvent} {output : LeftOutput}
    (h : step leftPeer rightPeer link action = .ok (next, out)) (member : Sight.left output ∈ out) :
    (∃ event state written emitted, leftPeer.act link.left event = .ok (state, written, emitted) ∧
      output ∈ emitted) ∨
    ∃ message rest state written emitted, link.toLeft = message :: rest ∧
      leftPeer.take link.left message = .ok (state, written, emitted) ∧ output ∈ emitted := by
  cases step_cases h with
  | left event state written emitted acted =>
    exact .inl ⟨event, state, written, emitted, acted, by simpa using member⟩
  | deliverLeft message rest waiting state written emitted taken =>
    exact .inr ⟨message, rest, state, written, emitted, waiting, taken, by simpa using member⟩
  | right | deliverRight => simp at member
  | idleRight | idleLeft => cases member

end Cases

section Order

variable {leftPeer : Peer Left LeftEvent Message LeftOutput Fault}
  {rightPeer : Peer Right RightEvent Message RightOutput Fault} {link next : Link Left Right Message}

/-- What the left end takes is what was on the way, and what the right end wrote since, in order. -/
structure InOrder (link next : Link Left Right Message)
    (out : List (Sight Message LeftOutput RightOutput)) : Prop where
  toLeft : link.toLeft ++ out.filterMap Sight.wroteRight? =
    out.filterMap Sight.tookLeft? ++ next.toLeft
  toRight : link.toRight ++ out.filterMap Sight.wroteLeft? =
    out.filterMap Sight.tookRight? ++ next.toRight

theorem filterMap_own {α β : Type*} {make : α → β} {read : β → Option α}
    (own : ∀ item, read (make item) = some item) (items : List α) :
    (items.map make).filterMap read = items := by
  rw [List.filterMap_map]
  have same : read ∘ make = some := funext own
  rw [same, List.filterMap_some]

theorem filterMap_other {α β γ : Type*} {make : α → β} {read : β → Option γ}
    (other : ∀ item, read (make item) = none) (items : List α) :
    (items.map make).filterMap read = [] := by
  rw [List.filterMap_map, List.filterMap_eq_nil_iff]
  exact fun item _ => other item

section Sights

theorem leftSights (RightOutput : Type r) (written : List Message) (emitted : List LeftOutput) :
    let out : List (Sight Message LeftOutput RightOutput) :=
      written.map .wroteLeft ++ emitted.map .left
    out.filterMap Sight.wroteLeft? = written ∧ out.filterMap Sight.wroteRight? = [] ∧
      out.filterMap Sight.tookLeft? = [] ∧ out.filterMap Sight.tookRight? = [] := by
  refine ⟨?_, ?_, ?_, ?_⟩ <;> rw [List.filterMap_append]
  · rw [filterMap_own (show ∀ message, Sight.wroteLeft? (.wroteLeft message) = some message from fun _ => rfl),
      filterMap_other fun _ => rfl, List.append_nil]
  all_goals rw [filterMap_other fun _ => rfl, filterMap_other fun _ => rfl, List.append_nil]

theorem rightSights (LeftOutput : Type z) (written : List Message) (emitted : List RightOutput) :
    let out : List (Sight Message LeftOutput RightOutput) :=
      written.map .wroteRight ++ emitted.map .right
    out.filterMap Sight.wroteRight? = written ∧ out.filterMap Sight.wroteLeft? = [] ∧
      out.filterMap Sight.tookLeft? = [] ∧ out.filterMap Sight.tookRight? = [] := by
  refine ⟨?_, ?_, ?_, ?_⟩ <;> rw [List.filterMap_append]
  · rw [filterMap_own (show ∀ message, Sight.wroteRight? (.wroteRight message) = some message from fun _ => rfl),
      filterMap_other fun _ => rfl, List.append_nil]
  all_goals rw [filterMap_other fun _ => rfl, filterMap_other fun _ => rfl, List.append_nil]

end Sights

theorem step_inOrder {action : Action LeftEvent RightEvent}
    {out : List (Sight Message LeftOutput RightOutput)}
    (h : step leftPeer rightPeer link action = .ok (next, out)) : InOrder link next out := by
  cases step_cases h with
  | left event state written emitted acted =>
    obtain ⟨wroteLeft, wroteRight, tookLeft, tookRight⟩ :=
      leftSights RightOutput written emitted
    constructor
    · rw [wroteRight, tookLeft, List.append_nil, List.nil_append]
    · rw [wroteLeft, tookRight, List.nil_append]
  | right event state written emitted acted =>
    obtain ⟨wroteRight, wroteLeft, tookLeft, tookRight⟩ :=
      rightSights LeftOutput written emitted
    constructor
    · rw [wroteRight, tookLeft, List.nil_append]
    · rw [wroteLeft, tookRight, List.append_nil, List.nil_append]
  | deliverRight message rest waiting state written emitted taken =>
    obtain ⟨wroteRight, wroteLeft, tookLeft, tookRight⟩ :=
      rightSights LeftOutput written emitted
    constructor
    · rw [List.filterMap_cons_none rfl, List.filterMap_cons_none rfl, wroteRight, tookLeft,
        List.nil_append]
    · rw [List.filterMap_cons_none rfl, List.filterMap_cons, wroteLeft, waiting,
        List.append_nil, Sight.tookRight?, tookRight]
      rfl
  | deliverLeft message rest waiting state written emitted taken =>
    obtain ⟨wroteLeft, wroteRight, tookLeft, tookRight⟩ :=
      leftSights RightOutput written emitted
    constructor
    · rw [List.filterMap_cons_none rfl, List.filterMap_cons, wroteRight, waiting,
        List.append_nil, Sight.tookLeft?, tookLeft]
      rfl
    · rw [List.filterMap_cons_none rfl, List.filterMap_cons_none rfl, wroteLeft, tookRight,
        List.nil_append]
  | idleRight | idleLeft => constructor <;> simp

theorem InOrder.trans {last : Link Left Right Message}
    {first second : List (Sight Message LeftOutput RightOutput)}
    (one : InOrder link next first) (two : InOrder next last second) :
    InOrder link last (first ++ second) := by
  constructor
  · rw [List.filterMap_append, List.filterMap_append, ← List.append_assoc, one.toLeft,
      List.append_assoc, two.toLeft, List.append_assoc]
  · rw [List.filterMap_append, List.filterMap_append, ← List.append_assoc, one.toRight,
      List.append_assoc, two.toRight, List.append_assoc]

/-- Nothing is lost, doubled or overtaken, whatever the two ends do. -/
theorem run_inOrder {actions : List (Action LeftEvent RightEvent)} {last : Link Left Right Message}
    {out : List (Sight Message LeftOutput RightOutput)}
    (ran : run (step leftPeer rightPeer) link actions = .ok (last, out)) : InOrder link last out := by
  induction actions generalizing link out with
  | nil =>
    cases ran
    constructor <;> simp
  | cons action actions ih =>
    obtain ⟨next, first, rest, stepped, later, rfl⟩ := run_cons_ok ran
    exact (step_inOrder stepped).trans (ih later)

end Order

section Invariants

variable {leftPeer : Peer Left LeftEvent Message LeftOutput Fault}
  {rightPeer : Peer Right RightEvent Message RightOutput Fault}
  {invariant : Link Left Right Message → Prop}

/-- What is to be shown of an invariant: each end keeps it, with an event of its own and with the
    first message on the way to it. Of the events of the right end some may be allowed only. -/
structure Kept (leftPeer : Peer Left LeftEvent Message LeftOutput Fault)
    (rightPeer : Peer Right RightEvent Message RightOutput Fault) (allowed : RightEvent → Prop)
    (invariant : Link Left Right Message → Prop) : Prop where
  left : ∀ link event state written emitted, invariant link →
    leftPeer.act link.left event = .ok (state, written, emitted) →
      invariant { link with left := state, toRight := link.toRight ++ written }
  right : ∀ link event state written emitted, invariant link → allowed event →
    rightPeer.act link.right event = .ok (state, written, emitted) →
      invariant { link with right := state, toLeft := link.toLeft ++ written }
  deliverRight : ∀ link message rest state written emitted, invariant link →
    link.toRight = message :: rest → rightPeer.take link.right message = .ok (state, written, emitted) →
      invariant { link with right := state, toRight := rest, toLeft := link.toLeft ++ written }
  deliverLeft : ∀ link message rest state written emitted, invariant link →
    link.toLeft = message :: rest → leftPeer.take link.left message = .ok (state, written, emitted) →
      invariant { link with left := state, toLeft := rest, toRight := link.toRight ++ written }

variable {allowed : RightEvent → Prop} {start last : Link Left Right Message}
  {actions : List (Action LeftEvent RightEvent)} {out : List (Sight Message LeftOutput RightOutput)}

/-- The right end does only what is allowed. -/
def Allows (allowed : RightEvent → Prop) (action : Action LeftEvent RightEvent) : Prop :=
  ∀ event, action = .right event → allowed event

theorem Kept.step (kept : Kept leftPeer rightPeer allowed invariant)
    (link : Link Left Right Message) (action : Action LeftEvent RightEvent) (next : Link Left Right Message)
    (out : List (Sight Message LeftOutput RightOutput)) (holds : invariant link)
    (fine : Allows allowed action) (stepped : step leftPeer rightPeer link action = .ok (next, out)) :
    invariant next := by
  cases step_cases stepped with
  | left event state written emitted acted => exact kept.left _ _ _ _ _ holds acted
  | right event state written emitted acted => exact kept.right _ _ _ _ _ holds (fine event rfl) acted
  | deliverRight message rest waiting state written emitted taken =>
    exact kept.deliverRight _ _ _ _ _ _ holds waiting taken
  | deliverLeft message rest waiting state written emitted taken =>
    exact kept.deliverLeft _ _ _ _ _ _ holds waiting taken
  | idleRight | idleLeft => exact holds

theorem Kept.run (kept : Kept leftPeer rightPeer allowed invariant) (initial : invariant start)
    (fine : ∀ action ∈ actions, Allows allowed action)
    (ran : run (Duplex.step leftPeer rightPeer) start actions = .ok (last, out)) : invariant last :=
  run_preserves_of_valid kept.step initial fine ran

/-- What the left end emits, on an event of its own and on the first message on the way to it, it
    emits in every run. -/
theorem Kept.run_left_emits {property : LeftOutput → Prop}
    (kept : Kept leftPeer rightPeer allowed invariant)
    (acts : ∀ link event state written emitted, invariant link →
      leftPeer.act link.left event = .ok (state, written, emitted) → ∀ output ∈ emitted, property output)
    (takes : ∀ link message rest state written emitted, invariant link → link.toLeft = message :: rest →
      leftPeer.take link.left message = .ok (state, written, emitted) →
        ∀ output ∈ emitted, property output)
    (initial : invariant start) (fine : ∀ action ∈ actions, Allows allowed action)
    (ran : Machine.run (Duplex.step leftPeer rightPeer) start actions = .ok (last, out)) :
    ∀ output, .left output ∈ out → property output := by
  have each : ∀ sight ∈ out, ∀ output, sight = .left output → property output := by
    refine run_emits_of_valid kept.step ?_ initial fine ran
    rintro link action next emitted holds _ stepped _ member output rfl
    rcases step_left_emits stepped member with
      ⟨event, state, written, mine, acted, here⟩ | ⟨message, rest, state, written, mine, waiting, taken, here⟩
    · exact acts _ _ _ _ _ holds acted output here
    · exact takes _ _ _ _ _ _ holds waiting taken output here
  exact fun output member => each _ member output rfl

end Invariants

section Relaying

variable {leftPeer : Peer Left LeftEvent Message LeftOutput Fault}
  {rightPeer : Peer Right RightEvent Message RightOutput Fault} {Item : Type v}

/-- A left end that keeps `invariant` on its valid events, and emits one item for each message that
    means one, and none otherwise. -/
structure Relays (leftPeer : Peer Left LeftEvent Message LeftOutput Fault) (invariant : Left → Prop)
    (valid : LeftEvent → Prop) (read : LeftOutput → Option Item) (meant : Message → Option Item) :
    Prop where
  act : ∀ state event next written emitted, invariant state → valid event →
    leftPeer.act state event = .ok (next, written, emitted) →
      invariant next ∧ emitted.filterMap read = []
  take : ∀ state message next written emitted, invariant state →
    leftPeer.take state message = .ok (next, written, emitted) →
      invariant next ∧ emitted.filterMap read = (meant message).toList

variable {invariant : Left → Prop} {valid : LeftEvent → Prop} {read : LeftOutput → Option Item}
  {meant : Message → Option Item} {link next : Link Left Right Message}

theorem leftSights_left (RightOutput : Type r) (written : List Message) (emitted : List LeftOutput) :
    (written.map .wroteLeft ++ emitted.map .left : List (Sight Message LeftOutput RightOutput)).filterMap
      Sight.left? = emitted := by
  rw [List.filterMap_append, filterMap_other fun _ => rfl,
    filterMap_own (show ∀ output, Sight.left? (.left output) = some output from fun _ => rfl),
    List.nil_append]

theorem rightSights_left (LeftOutput : Type z) (written : List Message) (emitted : List RightOutput) :
    (written.map .wroteRight ++ emitted.map .right : List (Sight Message LeftOutput RightOutput)).filterMap
      Sight.left? = [] := by
  rw [List.filterMap_append, filterMap_other fun _ => rfl, filterMap_other fun _ => rfl,
    List.nil_append]

theorem Relays.step (relays : Relays leftPeer invariant valid read meant)
    {action : Action LeftEvent RightEvent} {out : List (Sight Message LeftOutput RightOutput)}
    (holds : invariant link.left) (allowed : ∀ event, action = .left event → valid event)
    (h : step leftPeer rightPeer link action = .ok (next, out)) : invariant next.left ∧
      (out.filterMap Sight.left?).filterMap read = (out.filterMap Sight.tookLeft?).filterMap meant := by
  cases step_cases h with
  | left event state written emitted acted =>
    obtain ⟨kept, silent⟩ := relays.act _ _ _ _ _ holds (allowed event rfl) acted
    refine ⟨kept, ?_⟩
    rw [leftSights_left, silent, (leftSights RightOutput written emitted).2.2.1, List.filterMap_nil]
  | right event state written emitted acted =>
    refine ⟨holds, ?_⟩
    rw [rightSights_left, (rightSights LeftOutput written emitted).2.2.1, List.filterMap_nil,
      List.filterMap_nil]
  | deliverRight message rest waiting state written emitted taken =>
    refine ⟨holds, ?_⟩
    rw [List.filterMap_cons_none rfl, List.filterMap_cons_none rfl, rightSights_left,
      (rightSights LeftOutput written emitted).2.2.1, List.filterMap_nil, List.filterMap_nil]
  | deliverLeft message rest waiting state written emitted taken =>
    obtain ⟨kept, relayed⟩ := relays.take _ _ _ _ _ holds taken
    refine ⟨kept, ?_⟩
    rw [List.filterMap_cons_none rfl, List.filterMap_cons, leftSights_left, relayed, Sight.tookLeft?,
      (leftSights RightOutput written emitted).2.2.1]
    show (meant message).toList = [message].filterMap meant
    cases item : meant message with
    | none => rw [List.filterMap_cons_none item, Option.toList_none, List.filterMap_nil]
    | some value => rw [List.filterMap_cons_some item, Option.toList_some, List.filterMap_nil]
  | idleRight | idleLeft => exact ⟨holds, rfl⟩

/-- What was meant by the messages on the way and by those written since is what the left end emitted
    and what is still on the way, in order. -/
theorem Relays.run (relays : Relays leftPeer invariant valid read meant)
    {actions : List (Action LeftEvent RightEvent)} {last : Link Left Right Message}
    {out : List (Sight Message LeftOutput RightOutput)} (holds : invariant link.left)
    (allowed : ∀ event, .left event ∈ actions → valid event)
    (ran : Machine.run (Duplex.step leftPeer rightPeer) link actions = .ok (last, out)) :
    (link.toLeft ++ out.filterMap Sight.wroteRight?).filterMap meant =
      (out.filterMap Sight.left?).filterMap read ++ last.toLeft.filterMap meant := by
  rw [(run_inOrder ran).toLeft, List.filterMap_append]
  congr 1
  induction actions generalizing link out with
  | nil =>
    cases ran
    rfl
  | cons action actions ih =>
    obtain ⟨next, first, rest, stepped, later, rfl⟩ := run_cons_ok ran
    obtain ⟨kept, same⟩ := relays.step holds
      (fun event here => allowed event (here ▸ List.mem_cons_self)) stepped
    have onward := ih kept (fun event member => allowed event (List.mem_cons_of_mem _ member)) later
    simp only [List.filterMap_append, onward, same]

end Relaying

end Duplex

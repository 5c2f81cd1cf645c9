import Btle.Library.Turns
import Btle.Server.MtuInForce

namespace Btle.Server

open Machine Throwing

/-- What bears on the indications to one central: a value is assigned, indications of an attribute
    are enabled or disabled, a confirmation comes in, with whatever is behind its opcode. -/
inductive PushEvent
  | setValue (ref : AttrRef) (value : JsValue)
  | enableIndications (ref : AttrRef)
  | disableIndications (ref : AttrRef)
  | confirm (data : Buffer)
  deriving DecidableEq, Repr

/-- What goes over the connection of the central. -/
inductive Exchange
  | confirmed
  | wrote (pdu : Buffer)
  deriving DecidableEq, Repr

def pushProgram (host : Host) (central : CentralRef) : PushEvent → Js Unit
  | .setValue ref value => setValue host ref value
  | .enableIndications ref => enableIndications host ref central
  | .disableIndications ref => disableIndications ref
  | .confirm data => createHandler host central (opHandleValueConfirm :: data)

def PushEvent.received : PushEvent → List Exchange
  | .confirm _ => [.confirmed]
  | .setValue _ _ | .enableIndications _ | .disableIndications _ => []

def exchanges (central : CentralRef) (sent : List (CentralRef × Buffer)) : List Exchange :=
  sent.filterMap fun entry => if entry.1 = central then some (.wrote entry.2) else none

def pushStep (host : Host) (central : CentralRef) : Step World PushEvent Exchange Empty :=
  fun world event =>
    .ok (after (pushProgram host central event) world,
      event.received ++ exchanges central (written (pushProgram host central event) world))

def Exchange.indicates : Exchange → Bool
  | .wrote pdu => pdu.head? = some opHandleIndicate
  | .confirmed => false

def Exchange.confirms : Exchange → Bool
  | .confirmed => true
  | .wrote _ => false

/-- What `Central::Write` does not throw at. -/
def Exchange.Fits (limit : Nat) (exchange : Exchange) : Prop :=
  ∀ pdu, exchange = .wrote pdu → pdu.length ≤ limit

def World.waiting (world : World) (central : CentralRef) : Bool :=
  (world.central central).waitingForConfirmation

def World.limit (world : World) (central : CentralRef) : Nat := (world.central central).mtu.toNat

/-- The flag of the central says whether an indication is out, as long as its writes go through. -/
structure Flagged (central : CentralRef) (world next : World) : Prop where
  limit : next.limit central = world.limit central
  sent : ∃ pushed, next.sent = world.sent ++ pushed ∧
    ((∀ exchange ∈ exchanges central pushed, exchange.Fits (world.limit central)) →
      (exchanges central pushed).foldlM (Turns.next Exchange.indicates Exchange.confirms)
        (world.waiting central) = some (next.waiting central))

theorem exchanges_append (central : CentralRef) (first second : List (CentralRef × Buffer)) :
    exchanges central (first ++ second) = exchanges central first ++ exchanges central second :=
  List.filterMap_append

section Flagged

variable {central : CentralRef} {world : World}

/-- Nothing is sent, and the central stays as it is. -/
theorem flagged_silent {next : World} (sent : next.sent = world.sent)
    (same : next.central central = world.central central) : Flagged central world next := by
  constructor
  · rw [World.limit, same, World.limit]
  · refine ⟨[], by rw [sent, List.append_nil], fun _ => ?_⟩
    show some (world.waiting central) = some (next.waiting central)
    rw [World.waiting, World.waiting, same]

/-- What goes to another central does not count. -/
theorem flagged_elsewhere {next : World} {target : CentralRef} {pdu : Buffer}
    (other : target ≠ central) (sent : next.sent = world.sent ++ [(target, pdu)])
    (same : next.central central = world.central central) : Flagged central world next := by
  have unseen : exchanges central [(target, pdu)] = [] := by simp [exchanges, other]
  refine ⟨by rw [World.limit, same, World.limit], [(target, pdu)], sent, fun _ => ?_⟩
  rw [unseen]
  show some (world.waiting central) = some (next.waiting central)
  rw [World.waiting, World.waiting, same]

instance : Std.Refl (Flagged central) := ⟨fun _ => flagged_silent rfl rfl⟩

instance : IsTrans World (Flagged central) where
  trans first second third one two := by
    rcases one.sent with ⟨pushed, sent, accepted⟩
    rcases two.sent with ⟨more, more_sent, more_accepted⟩
    refine ⟨two.limit.trans one.limit, pushed ++ more, ?_, ?_⟩
    · rw [more_sent, sent, List.append_assoc]
    · rw [exchanges_append]
      intro fits
      have here := accepted fun exchange member => fits exchange (List.mem_append_left _ member)
      have later := more_accepted fun exchange member => by
        rw [one.limit]
        exact fits exchange (List.mem_append_right _ member)
      rw [List.foldlM_append, here]
      exact later

theorem notify_flagged (host : Host) (ref : AttrRef) (target : CentralRef) :
    Keeps (Flagged central) (notify host ref target) := by
  intro world
  rcases sendValue_after host opHandleNotify ref target world with ⟨pushed, left, each⟩
  rw [notify, left]
  refine ⟨rfl, pushed, rfl, fun _ => ?_⟩
  have quiet : ∀ exchange ∈ exchanges central pushed,
      exchange.indicates = false ∧ exchange.confirms = false := by
    intro exchange member
    rcases List.mem_filterMap.mp member with ⟨entry, inside, sent⟩
    split at sent
    · cases sent
      simp [Exchange.indicates, Exchange.confirms, (each entry inside).2.1, opHandleNotify,
        opHandleIndicate]
    · cases sent
  exact Turns.idle_accepted quiet (world.waiting central)

/-- An indication goes out only while none is, and if it goes through it is waited for. -/
theorem indicate_flagged (host : Host) (ref : AttrRef) (target : CentralRef) :
    Keeps (Flagged central) (indicate host ref target) := by
  intro world
  cases waiting : (world.central target).waitingForConfirmation with
  | true =>
    rw [after_ok (indicate_run_waiting waiting)]
    exact Std.Refl.refl world
  | false =>
    have start := indicate_run host ref waiting
    rw [EStateM.run_bind] at start
    by_cases prepared : Prepared host world ref
    · rcases sendValue_prepared opHandleIndicate target prepared with ⟨pdu, same, _, head⟩
      rw [same, write_run] at start
      by_cases fits : pdu.length ≤ (world.central target).mtu.toNat
      · rw [if_pos fits] at start
        rw [after_ok start]
        by_cases own : target = central
        · subst own
          refine ⟨by simp [World.limit, World.setCentral], [(target, pdu)], rfl, fun _ => ?_⟩
          simp [exchanges, Turns.next, Exchange.indicates, Exchange.confirms, head, waiting,
            World.waiting, World.setCentral]
        · have kept : (({ world with sent := world.sent ++ [(target, pdu)] } : World).setCentral target
              { world.central target with waitingForConfirmation := true }).central central =
                world.central central := Function.update_of_ne (Ne.symm own) _ _
          exact flagged_elsewhere own rfl kept
      · rw [if_neg fits] at start
        rw [after_error start]
        by_cases own : target = central
        · subst own
          refine ⟨rfl, [(target, pdu)], rfl, fun all => absurd ?_ fits⟩
          exact all (.wrote pdu) (by simp [exchanges]) pdu rfl
        · exact flagged_elsewhere own rfl rfl
    · rcases sendValue_unprepared opHandleIndicate target prepared with ⟨thrown, ran⟩
      rw [ran] at start
      rw [after_error start]
      exact Std.Refl.refl world

theorem setValue_flagged (host : Host) (ref : AttrRef) (value : JsValue) :
    Keeps (Flagged central) (setValue host ref value) :=
  setValue_keeps_with value (fun _ _ => flagged_silent rfl rfl) (notify_flagged host ref)
    (indicate_flagged host ref)

theorem enableIndications_flagged (host : Host) (ref : AttrRef) (target : CentralRef) :
    Keeps (Flagged central) (enableIndications host ref target) := by
  intro world
  rcases enableIndications_cases host world ref target with ⟨_, thrown, ran⟩ | ⟨_, ran⟩
  · rw [after_error ran]
    exact Std.Refl.refl world
  · rw [after_congr ran]
    have enabled : Flagged central world (world.indicating ref target) := flagged_silent rfl rfl
    exact IsTrans.trans _ _ _ enabled (indicate_flagged host ref target _)

theorem disableIndications_flagged (ref : AttrRef) :
    Keeps (Flagged central) (disableIndications ref) := by
  intro world
  rcases disableIndications_cases world ref with silent | ⟨listeners, left⟩
  · rw [silent]
    exact Std.Refl.refl world
  · rw [left]
    exact flagged_silent rfl rfl

theorem Flagged.accepts {program : Js Unit} (flagged : Keeps (Flagged central) program)
    (fits : ∀ exchange ∈ exchanges central (written program world),
      exchange.Fits (world.limit central)) :
    (exchanges central (written program world)).foldlM
      (Turns.next Exchange.indicates Exchange.confirms) (world.waiting central) =
        some ((after program world).waiting central) := by
  rcases (flagged world).sent with ⟨pushed, sent, accepted⟩
  rw [written_of_sent sent] at fits ⊢
  exact accepted fits

theorem confirm_run (host : Host) (central : CentralRef) (data : Buffer) (world : World) :
    (pushProgram host central (.confirm data)).run world =
      .ok () (world.setCentral central
        { world.central central with waitingForConfirmation := false }) := rfl

theorem confirm_written (host : Host) (central : CentralRef) (data : Buffer) (world : World) :
    written (pushProgram host central (.confirm data)) world = [] := by
  apply written_of_sent
  rw [after_ok (confirm_run host central data world), List.append_nil]
  rfl

/-- One event leaves the flag as its exchanges have it. -/
theorem pushStep_accepted {host : Host} {next : World} {event : PushEvent} {out : List Exchange}
    (stepped : pushStep host central world event = .ok (next, out)) :
    next.limit central = world.limit central ∧
      ((∀ exchange ∈ out, exchange.Fits (world.limit central)) →
        out.foldlM (Turns.next Exchange.indicates Exchange.confirms) (world.waiting central) =
          some (next.waiting central)) := by
  cases stepped
  cases event with
  | setValue ref value =>
    have flagged : Keeps (Flagged central) (setValue host ref value) :=
      setValue_flagged host ref value
    exact ⟨(flagged world).limit, fun fits => Flagged.accepts flagged fits⟩
  | enableIndications ref =>
    have flagged : Keeps (Flagged central) (enableIndications host ref central) :=
      enableIndications_flagged host ref central
    exact ⟨(flagged world).limit, fun fits => Flagged.accepts flagged fits⟩
  | disableIndications ref =>
    have flagged : Keeps (Flagged central) (disableIndications ref) :=
      disableIndications_flagged ref
    exact ⟨(flagged world).limit, fun fits => Flagged.accepts flagged fits⟩
  | confirm data =>
    rw [confirm_written, after_ok (confirm_run host central data world)]
    simp [exchanges, PushEvent.received, Turns.next, Exchange.confirms, World.limit, World.waiting,
      World.setCentral]

end Flagged

/-- Between any two indications written to a central it confirmed one, whatever the order of what
    happens, as long as its writes go through. -/
theorem indications_one_at_a_time (host : Host) (central : CentralRef) (world last : World)
    (events : List PushEvent) (out : List Exchange)
    (ran : run (pushStep host central) world events = .ok (last, out))
    (writes : ∀ pdu, .wrote pdu ∈ out → pdu.length ≤ (world.central central).mtu.toNat) :
    ∀ before first between second after,
      out = before ++ .wrote first :: (between ++ .wrote second :: after) →
        first.head? = some opHandleIndicate → second.head? = some opHandleIndicate →
          .confirmed ∈ between := by
  have fits : ∀ exchange ∈ out, exchange.Fits (world.limit central) := by
    intro exchange member pdu same
    subst same
    exact writes pdu member
  have each : ∀ now event next emitted, now.limit central = world.limit central →
      pushStep host central now event = .ok (next, emitted) →
        next.limit central = world.limit central ∧
          ((∀ exchange ∈ emitted, exchange.Fits (world.limit central)) →
            emitted.foldlM (Turns.next Exchange.indicates Exchange.confirms) (now.waiting central) =
              some (next.waiting central)) := by
    intro now event next emitted same stepped
    rcases pushStep_accepted stepped with ⟨limit, accepts⟩
    refine ⟨limit.trans same, fun all => accepts ?_⟩
    rwa [same]
  have accepted := Turns.run_accepted each rfl ran fits
  intro before first between second after whole one two
  have disjoint : ∀ exchange : Exchange, exchange.indicates = true → exchange.confirms = false := by
    intro exchange indicates
    cases exchange with
    | confirmed => cases indicates
    | wrote pdu => rfl
  have indicated : ∀ {pdu : Buffer}, pdu.head? = some opHandleIndicate →
      (Exchange.wrote pdu).indicates = true := by
    intro pdu head
    simp [Exchange.indicates, head]
  rcases Turns.apart_of_accepted disjoint accepted _ _ _ _ _ whole (indicated one)
    (indicated two) with ⟨exchange, member, confirms⟩
  cases exchange with
  | confirmed => exact member
  | wrote pdu => cases confirms

/-- One attribute at handle 1, and a central that takes PDUs of 23 bytes. -/
def thermometer : World :=
  (after (do
    let _ ← createAttribute plainHost none (.buffer [20]) (some 1) none : Js Unit)
      .initial).setCentral 0 ⟨23, false⟩

/-- The free name `value` as the value of the attribute. -/
def valueHost : Host := { plainHost with freeValue := Attribute.value }

def warming : List PushEvent :=
  [.enableIndications 0, .setValue 0 (.buffer [21]), .confirm [], .setValue 0 (.buffer [22])]

def Exchange.outputs (result : Except Empty (World × List Exchange)) : List Exchange :=
  (result.toOption.map Prod.snd).getD []

theorem thermometer_indications :
    ∃ last, run (pushStep valueHost 0) thermometer warming = .ok (last,
        [.wrote [opHandleIndicate, 1, 0, 20], .confirmed, .wrote [opHandleIndicate, 1, 0, 22]]) ∧
      ∀ before first between second after,
        [.wrote [opHandleIndicate, 1, 0, 20], .confirmed, .wrote [opHandleIndicate, 1, 0, 22]] =
            before ++ .wrote first :: (between ++ .wrote second :: after) →
          first.head? = some opHandleIndicate → second.head? = some opHandleIndicate →
            Exchange.confirmed ∈ between := by
  have emitted : Exchange.outputs (run (pushStep valueHost 0) thermometer warming) =
      [.wrote [opHandleIndicate, 1, 0, 20], .confirmed, .wrote [opHandleIndicate, 1, 0, 22]] := by
    decide +kernel
  cases ran : run (pushStep valueHost 0) thermometer warming with
  | error fault => cases fault
  | ok result =>
    rcases result with ⟨last, out⟩
    rw [ran] at emitted
    have same : out = _ := emitted
    subst same
    refine ⟨last, rfl, indications_one_at_a_time valueHost 0 thermometer last warming _ ran ?_⟩
    intro pdu member
    have short : pdu.length = 4 := by
      simp at member
      rcases member with rfl | rfl <;> rfl
    rw [short]
    decide +kernel

end Btle.Server

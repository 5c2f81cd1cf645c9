import Btle.Server.Updates

namespace Btle.Server

open Machine Throwing

inductive SubscriptionEvent
  | enableNotifications (central : CentralRef)
  | disableNotifications
  | setValue (value : JsValue)
  deriving DecidableEq, Repr

def subscriptionProgram (host : Host) (ref : AttrRef) : SubscriptionEvent → Js Unit
  | .enableNotifications central => enableNotifications host ref central
  | .disableNotifications => disableNotifications ref
  | .setValue value => setValue host ref value

def subscriptionStep (host : Host) (ref : AttrRef) :
    Step World SubscriptionEvent (CentralRef × Buffer) Empty :=
  fun world event =>
    .ok (after (subscriptionProgram host ref event) world,
      written (subscriptionProgram host ref event) world)

/-- The calls made so far. `held` is the central of the last of them if that enabled notifications;
    `left` are those of earlier ones that were followed by another such call. -/
structure Calls where
  left : List CentralRef
  held : Option CentralRef
  deriving DecidableEq, Repr

def Calls.none : Calls := ⟨[], Option.none⟩

def Calls.noting (calls : Calls) : SubscriptionEvent → Calls
  | .enableNotifications central => ⟨calls.left ++ calls.held.toList, some central⟩
  | .disableNotifications => ⟨calls.left, Option.none⟩
  | .setValue _ => calls

def subscribedStep (host : Host) (ref : AttrRef) :
    Step (World × Calls) SubscriptionEvent (CentralRef × Buffer) Empty :=
  recording (subscriptionStep host ref) id fun _ calls event => calls.noting event

def isNotification (entry : CentralRef × Buffer) : Bool := entry.2.head? = some opHandleNotify

/-- An assignment writes one notification if the last call enabled them, and otherwise none. -/
def Accounted (host : Host) (ref : AttrRef) (state : World × Calls) : SubscriptionEvent → Prop
  | .setValue value =>
    (written (setValue host ref value) state.1).countP isNotification =
      if state.2.held.isSome then 1 else 0
  | .enableNotifications _ | .disableNotifications => True

instance (host : Host) (ref : AttrRef) (state : World × Calls) :
    (event : SubscriptionEvent) → Decidable (Accounted host ref state event)
  | .setValue _ => inferInstanceAs (Decidable (_ = _))
  | .enableNotifications _ | .disableNotifications => inferInstanceAs (Decidable True)

/-- A listener that is not one for notifications, and does not emit again. -/
def Listener.IsPlain : Listener → Prop
  | .reemit | .notification _ _ => False
  | .application _ | .indication _ _ => True

/-- An assignment is one of these bytes, and comes to write a notification if there is a listener for
    one: indications are not enabled, the PDU has room and the handle fits it, and no other listener
    throws. -/
structure Notifies (host : Host) (world : World) (ref : AttrRef) (value : JsValue) (bytes : Buffer) :
    Prop where
  enabled : (world.attrib ref).indicationListener = none
  stored : value.stored world = some (some bytes)
  room : 3 ≤ world.mtuSize.toNat
  handle : ∃ handle, (world.attrib ref).handle = some handle ∧ handle ≤ 0xFFFF
  quiet : ∀ listener ∈ (world.attrib ref).listeners, listener.IsPlain →
    QuietFor host (world.assigned ref (some bytes)) ref listener

def notificationSize (world : World) (bytes : Buffer) : Nat :=
  min (bytes.length + 3) world.mtuSize.toNat

/-- With notifications enabled, an assignment comes to write them, and nobody was left behind, unless
    the PDU is too long for the first who was. With notifications not enabled, nobody was left behind,
    or the assignment does not come to that. -/
def AssignedWell (host : Host) (ref : AttrRef) (state : World × Calls) : SubscriptionEvent → Prop
  | .setValue value =>
    match state.2.held with
    | some _ => ∃ bytes, Notifies host state.1 ref value bytes ∧
      ∀ first, state.2.left.head? = some first →
        state.1.limit first < notificationSize state.1 bytes
    | none => state.2.left ≠ [] → ∀ bytes, ¬ Notifies host state.1 ref value bytes
  | .enableNotifications _ | .disableNotifications => True

section Counting

def Notified (count : Nat) (world next : World) : Prop :=
  ∃ pushed, next.sent = world.sent ++ pushed ∧ pushed.countP isNotification = count

theorem Notified.trans {first second : Nat} {world middle last : World}
    (one : Notified first world middle) (two : Notified second middle last) :
    Notified (first + second) world last := by
  obtain ⟨pushed, sent, count⟩ := one
  obtain ⟨more, more_sent, more_count⟩ := two
  refine ⟨pushed ++ more, ?_, ?_⟩
  · rw [more_sent, sent, List.append_assoc]
  · rw [List.countP_append, count, more_count]

theorem notified_silent {world next : World} (same : next.sent = world.sent) :
    Notified 0 world next :=
  ⟨[], by rw [same, List.append_nil], rfl⟩

instance : Std.Refl (Notified 0) := ⟨fun _ => notified_silent rfl⟩

instance : IsTrans World (Notified 0) := ⟨fun _ _ _ one two => one.trans two⟩

theorem Notified.count {program : Js Unit} {count : Nat} {world start : World}
    (notified : Notified count start (after program world)) (same : start.sent = world.sent) :
    (written program world).countP isNotification = count := by
  obtain ⟨pushed, sent, counted⟩ := notified
  rw [same] at sent
  rw [written_of_sent sent, counted]

/-- How many of the centrals are written to, when the first for which the PDU does not fit is the
    last. -/
def reached (fits : CentralRef → Bool) : List CentralRef → Nat
  | [] => 0
  | central :: rest => if fits central then 1 + reached fits rest else 1

theorem reached_eq_zero {fits : CentralRef → Bool} {centrals : List CentralRef} :
    reached fits centrals = 0 ↔ centrals = [] := by
  cases centrals with
  | nil => exact iff_of_true rfl rfl
  | cons central rest =>
    unfold reached
    split <;> simp

theorem reached_eq_one {fits : CentralRef → Bool} {left : List CentralRef} {held : CentralRef} :
    reached fits (left ++ [held]) = 1 ↔ ∀ first, left.head? = some first → fits first = false := by
  cases left with
  | nil =>
    apply iff_of_true
    · show reached fits [held] = 1
      unfold reached
      split <;> rfl
    · intro first none_there
      cases none_there
  | cons central rest =>
    have more : reached fits (rest ++ [held]) ≠ 0 := by
      intro nothing
      simpa using reached_eq_zero.mp nothing
    show reached fits (central :: (rest ++ [held])) = 1 ↔ _
    unfold reached
    cases fit : fits central with
    | true => simp [more, fit]
    | false => simp [fit]

end Counting

section Emitting

variable {host : Host} {ref : AttrRef} {world : World}

def stamped (entry : Nat × CentralRef) : Listener := .notification entry.1 entry.2

def fitsFor (host : Host) (world : World) (ref : AttrRef) (central : CentralRef) : Bool :=
  pushLength host world ref ≤ world.limit central

theorem fitsFor_after {next : World} (pushes : Pushes world next) :
    fitsFor host next ref = fitsFor host world ref := by
  funext central
  unfold fitsFor pushLength World.limit
  rw [pushes.mtuSize, pushes.attrib, pushes.mtu]

theorem notify_prepared (prepared : Prepared host world ref) (central : CentralRef) :
    Notified 1 world (after (notify host ref central) world) ∧
      (Returns (notify host ref central) world ↔ fitsFor host world ref central = true) := by
  obtain ⟨pdu, same, length, head⟩ := sendValue_prepared opHandleNotify central prepared
  have left : after (notify host ref central) world = after (Central.write central pdu) world :=
    after_congr same
  have returns : Returns (notify host ref central) world ↔ Pushable host world ref central :=
    sendValue_returns opHandleNotify
  constructor
  · rw [left, write_after]
    exact ⟨[(central, pdu)], rfl, by simp [isNotification, head]⟩
  · rw [returns, Pushable, and_iff_right prepared]
    exact decide_eq_true_iff.symm

/-- Where notifications can be made, one is written to each central up to the first for which it does
    not fit. -/
theorem notifications_reach {again : Js Unit} (keeps : Keeps Pushes again)
    (entries : List (Nat × CentralRef)) (prepared : Prepared host world ref) :
    Notified (reached (fitsFor host world ref) (entries.map Prod.snd)) world
      (after ((entries.map stamped).forM (callListener host ref again)) world) := by
  induction entries generalizing world with
  | nil => exact notified_silent rfl
  | cons entry entries ih =>
    obtain ⟨one, returns⟩ := notify_prepared prepared entry.2
    have pushes : Pushes world (after (notify host ref entry.2) world) :=
      callListener_keeps host ref keeps (stamped entry) world
    show Notified (reached _ (entry.2 :: entries.map Prod.snd)) world
      (after (notify host ref entry.2 >>= fun _ =>
        (entries.map stamped).forM (callListener host ref again)) world)
    unfold reached
    cases ran : (notify host ref entry.2).run world with
    | error thrown next =>
      have stopped : ¬ Returns (notify host ref entry.2) world := by
        rw [returns_iff, ran]
        simp
      have whole : (notify host ref entry.2 >>= fun _ =>
          (entries.map stamped).forM (callListener host ref again)).run world = .error thrown next := by
        rw [EStateM.run_bind, ran]
      rw [if_neg fun fits => stopped (returns.mpr fits), after_error whole, ← after_error ran]
      exact one
    | ok done next =>
      have returned := returns_iff.mpr ⟨_, _, ran⟩
      have onward : after (notify host ref entry.2 >>= fun _ =>
          (entries.map stamped).forM (callListener host ref again)) world =
            after ((entries.map stamped).forM (callListener host ref again)) next := by
        rw [after, EStateM.run_bind, ran, after]
      rw [after_ok ran] at one pushes
      have later := ih ((prepared_after pushes).mpr prepared)
      rw [fitsFor_after pushes] at later
      rw [if_pos (returns.mp returned), onward]
      exact one.trans later

theorem notifications_unprepared {again : Js Unit} (entries : List (Nat × CentralRef))
    (unprepared : ¬ Prepared host world ref) :
    Notified 0 world (after ((entries.map stamped).forM (callListener host ref again)) world) := by
  cases entries with
  | nil => exact notified_silent rfl
  | cons entry entries =>
    obtain ⟨thrown, ran⟩ := sendValue_unprepared opHandleNotify entry.2 unprepared
    have whole : ((stamped entry :: entries.map stamped).forM (callListener host ref again)).run world =
        .error thrown world := by
      show (notify host ref entry.2 >>= fun _ => _).run world = _
      rw [EStateM.run_bind, notify, ran]
    rw [List.map_cons, after_error whole]
    exact notified_silent rfl

theorem indicate_notifies_nobody (host : Host) (ref : AttrRef) (central : CentralRef) :
    Keeps (Notified 0) (indicate host ref central) := by
  have awaited : Keeps (Notified 0) (modify fun world => world.setCentral central
      { world.central central with waitingForConfirmation := true } : Js Unit) :=
    Keeps.modify fun world => notified_silent rfl
  have sent : Keeps (Notified 0) (sendValue host opHandleIndicate ref central) := by
    intro world
    obtain ⟨pushed, left, each⟩ := sendValue_after host opHandleIndicate ref central world
    rw [left]
    refine ⟨pushed, rfl, List.countP_eq_zero.mpr ?_⟩
    intro entry member
    simp [isNotification, (each entry member).2.1, opHandleNotify, opHandleIndicate]
  refine Keeps.get.bind fun world => ?_
  dsimp only
  split
  · exact Keeps.pure _
  · exact sent.bind fun _ => awaited

theorem plain_notifies_nobody {again : Js Unit} {base : List Listener}
    (plain : ∀ listener ∈ base, listener.IsPlain) :
    Keeps (Notified 0) (base.forM (callListener host ref again)) := by
  refine Keeps.forM fun listener member => ?_
  cases listener with
  | reemit => exact (plain _ member).elim
  | notification stamp central => exact (plain _ member).elim
  | application number =>
    intro world
    rw [callListener, callApplication_after]
    exact Std.Refl.refl world
  | indication stamp central => exact indicate_notifies_nobody host ref central

theorem plain_returns {again : Js Unit} (keeps : Keeps Pushes again) {base : List Listener}
    (plain : ∀ listener ∈ base, listener.IsPlain) :
    Returns (base.forM (callListener host ref again)) world ↔
      ∀ listener ∈ base, QuietFor host world ref listener :=
  forM_returns keeps fun member => (plain _ member).elim

/-- The listeners of the attribute, of which those for notifications come last. -/
theorem listeners_notify {again : Js Unit} (keeps : Keeps Pushes again) {base : List Listener}
    (plain : ∀ listener ∈ base, listener.IsPlain) (entries : List (Nat × CentralRef)) :
    ((∀ listener ∈ base, QuietFor host world ref listener) → Prepared host world ref →
      Notified (reached (fitsFor host world ref) (entries.map Prod.snd)) world
        (after ((base ++ entries.map stamped).forM (callListener host ref again)) world)) ∧
    (¬ ((∀ listener ∈ base, QuietFor host world ref listener) ∧ Prepared host world ref) →
      Notified 0 world
        (after ((base ++ entries.map stamped).forM (callListener host ref again)) world)) := by
  have first : Notified 0 world (after (base.forM (callListener host ref again)) world) :=
    plain_notifies_nobody plain world
  have pushes : Pushes world (after (base.forM (callListener host ref again)) world) :=
    Keeps.forM (fun listener _ => callListener_keeps host ref keeps listener) world
  have apart : (base ++ entries.map stamped).forM (callListener host ref again) =
      (base.forM (callListener host ref again) >>= fun _ =>
        (entries.map stamped).forM (callListener host ref again)) := List.forM_append
  rw [apart, ← plain_returns keeps plain]
  cases ran : (base.forM (callListener host ref again)).run world with
  | error thrown next =>
    have stopped : ¬ Returns (base.forM (callListener host ref again)) world := by
      rw [returns_iff, ran]
      simp
    have whole : (base.forM (callListener host ref again) >>= fun _ =>
        (entries.map stamped).forM (callListener host ref again)).run world = .error thrown next := by
      rw [EStateM.run_bind, ran]
    rw [after_error whole, ← after_error ran]
    exact ⟨fun returned => absurd returned stopped, fun _ => first⟩
  | ok done next =>
    have onward : after (base.forM (callListener host ref again) >>= fun _ =>
        (entries.map stamped).forM (callListener host ref again)) world =
          after ((entries.map stamped).forM (callListener host ref again)) next := by
      rw [after, EStateM.run_bind, ran, after]
    have returned := returns_iff.mpr ⟨_, _, ran⟩
    rw [after_ok ran] at first pushes
    rw [onward]
    constructor
    · intro _ prepared
      have later := notifications_reach keeps entries ((prepared_after pushes).mpr prepared)
      rw [fitsFor_after pushes] at later
      simpa only [Nat.zero_add] using first.trans later
    · intro missing
      have unprepared : ¬ Prepared host next ref := fun prepared =>
        missing ⟨returned, (prepared_after pushes).mp prepared⟩
      exact first.trans (notifications_unprepared entries unprepared)

/-- What an assignment writes, for an attribute whose listeners for notifications come last. -/
theorem assignment_notifies (host : Host) (value : JsValue) {base : List Listener} {bytes : Option Buffer}
    (plain : ∀ listener ∈ base, listener.IsPlain) {entries : List (Nat × CentralRef)}
    (listed : (world.attrib ref).listeners = base ++ entries.map stamped)
    (stored : value.stored world = some bytes) :
    let live := (∀ listener ∈ base, QuietFor host (world.assigned ref bytes) ref listener) ∧
      Prepared host (world.assigned ref bytes) ref
    (live → (written (setValue host ref value) world).countP isNotification =
      reached (fitsFor host (world.assigned ref bytes) ref) (entries.map Prod.snd)) ∧
    (¬ live → (written (setValue host ref value) world).countP isNotification = 0) := by
  have emits : ∀ depth, ∃ again, Keeps Pushes again ∧
      emitValueChanged host ref depth = callListeners host ref again := by
    intro depth
    cases depth with
    | zero => exact ⟨_, Keeps.throw _, rfl⟩
    | succ depth => exact ⟨_, emitValueChanged_keeps host ref depth, rfl⟩
  obtain ⟨again, keeps, emitted⟩ := emits host.stack
  have ran : after (setValue host ref value) world =
      after ((base ++ entries.map stamped).forM (callListener host ref again))
        (world.assigned ref bytes) := by
    rw [after_congr (setValue_stored_run host ref stored), emitted, ← listed,
      ← assigned_listeners world ref bytes]
    rfl
  have sent : (world.assigned ref bytes).sent = world.sent := rfl
  constructor
  · rintro ⟨quiet, prepared⟩
    have reaches := (listeners_notify keeps plain entries).1 quiet prepared
    rw [← ran] at reaches
    exact reaches.count sent
  · intro dead
    have fails := (listeners_notify keeps plain entries).2 dead
    rw [← ran] at fails
    exact fails.count sent

end Emitting

section Following

variable {host : Host} {ref : AttrRef} {world : World} {calls : Calls}

/-- The attribute has a listener for every call that was left behind, and the one that it remembers
    for the last; while indications are enabled no call has had an effect. -/
def Follows (base : List Listener) (ref : AttrRef) (state : World × Calls) : Prop :=
  let attrib := state.1.attrib ref
  (attrib.indicationListener ≠ none ∧ attrib.listeners = base ∧ attrib.notificationListener = none) ∨
    (attrib.indicationListener = none ∧ ∃ left : List (Nat × CentralRef),
      ∃ held : Option (Nat × CentralRef),
        attrib.listeners = base ++ (left ++ held.toList).map stamped ∧
        attrib.notificationListener = held.map stamped ∧
        (∀ entry, held = some entry → stamped entry ∉ base ++ left.map stamped) ∧
        state.2.left = left.map Prod.snd ∧ state.2.held = held.map Prod.snd)

/-- What only ever rises is above what any of the items raises it beyond. -/
theorem lt_foldl {raise : Nat → Listener → Nat} (rises : ∀ stamp listener, stamp ≤ raise stamp listener)
    {used : Nat} {listener : Listener} (beyond : ∀ stamp, used < raise stamp listener)
    {listeners : List Listener} (member : listener ∈ listeners) (start : Nat) :
    used < listeners.foldl raise start := by
  have least : ∀ (rest : List Listener) (stamp : Nat), stamp ≤ rest.foldl raise stamp := by
    intro rest
    induction rest with
    | nil => exact fun stamp => Nat.le_refl stamp
    | cons next rest ih => exact fun stamp => Nat.le_trans (rises stamp next) (ih _)
  induction listeners generalizing start with
  | nil => cases member
  | cons first listeners ih =>
    rw [List.foldl_cons]
    rcases List.mem_cons.mp member with rfl | later
    · exact Nat.lt_of_lt_of_le (beyond start) (least listeners _)
    · exact ih later _

theorem stampOf_unused (attrib : Attribute) (central : CentralRef) :
    Listener.notification (stampOf attrib) central ∉ attrib.listeners := by
  intro member
  apply Nat.lt_irrefl (stampOf attrib)
  apply lt_foldl _ _ member
  · intro stamp listener
    cases listener <;> dsimp only <;> omega
  · intro stamp
    dsimp only
    omega

def listening (ref : AttrRef) (world : World) : List Listener × Option Listener × Option Listener :=
  ((world.attrib ref).listeners, (world.attrib ref).notificationListener,
    (world.attrib ref).indicationListener)

theorem Follows.same {base : List Listener} {next : World}
    (same : listening ref next = listening ref world) (follows : Follows base ref (world, calls)) :
    Follows base ref (next, calls) := by
  have listeners : (next.attrib ref).listeners = (world.attrib ref).listeners :=
    congrArg Prod.fst same
  have remembered : (next.attrib ref).notificationListener =
      (world.attrib ref).notificationListener := congrArg (fun seen => seen.2.1) same
  have indications : (next.attrib ref).indicationListener = (world.attrib ref).indicationListener :=
    congrArg (fun seen => seen.2.2) same
  unfold Follows at follows ⊢
  simp only [listeners, remembered, indications]
  exact follows

instance (ref : AttrRef) : Std.Refl fun world next : World => listening ref next = listening ref world :=
  ⟨fun _ => rfl⟩

instance (ref : AttrRef) : IsTrans World fun world next => listening ref next = listening ref world :=
  ⟨fun _ _ _ one two => two.trans one⟩

theorem setValue_listening (host : Host) (ref : AttrRef) (value : JsValue) :
    Keeps (fun world next : World => listening ref next = listening ref world)
      (setValue host ref value) := by
  apply setValue_keeps_of
  · intro world bytes
    unfold listening World.setAttribute
    simp only [Function.update_self]
  · intro world next pushes
    rw [listening, pushes.attrib, listening]

theorem notifying_self (world : World) (ref : AttrRef) (central : CentralRef) :
    (world.notifying ref central).attrib ref = { world.attrib ref with
      notificationListener := some (.notification (stampOf (world.attrib ref)) central)
      listeners := (world.attrib ref).listeners ++
        [.notification (stampOf (world.attrib ref)) central] } :=
  Function.update_self ref _ _

theorem enableNotifications_follows {base : List Listener} (central : CentralRef)
    (follows : Follows base ref (world, calls)) :
    Follows base ref (after (enableNotifications host ref central) world,
      calls.noting (.enableNotifications central)) := by
  rcases enableNotifications_cases host world ref central with ⟨other, thrown, ran⟩ | ⟨free, ran⟩
  · rw [after_error ran]
    rcases follows with ⟨_, unchanged⟩ | ⟨free, _⟩
    · exact .inl ⟨other, unchanged⟩
    · exact absurd free other
  · have pushes := sendValue_keeps host ref central (.inl rfl) (world.notifying ref central)
    have seen : listening ref (after (enableNotifications host ref central) world) =
        listening ref (world.notifying ref central) := by
      rw [after_congr ran, listening, notify, pushes.attrib, listening]
    apply Follows.same seen
    rcases follows with ⟨taken, _⟩ | ⟨_, left, held, listed, remembered, apart, behind, last⟩
    · exact absurd free taken
    · refine .inr ⟨?_, left ++ held.toList, some (stampOf (world.attrib ref), central), ?_, ?_, ?_, ?_,
        rfl⟩
      · rw [notifying_self]
        exact free
      · rw [notifying_self]
        show (world.attrib ref).listeners ++ _ = _
        rw [show (world.attrib ref).listeners = _ from listed, List.append_assoc]
        simp [stamped]
      · rw [notifying_self]
        rfl
      · intro entry same
        cases same
        rw [← show (world.attrib ref).listeners = _ from listed]
        exact stampOf_unused (world.attrib ref) central
      · show calls.left ++ calls.held.toList = _
        rw [show calls.left = _ from behind, show calls.held = _ from last, List.map_append]
        cases held <;> rfl

theorem disableNotifications_follows {base : List Listener}
    (follows : Follows base ref (world, calls)) :
    Follows base ref (after (disableNotifications ref) world, calls.noting .disableNotifications) := by
  have none_there : (world.attrib ref).notificationListener = none →
      after (disableNotifications ref) world = world := by
    intro nothing
    simp only [disableNotifications, after, EStateM.run_bind, EStateM.run_get, nothing]
    rfl
  rcases follows with ⟨other, unchanged, nothing⟩ |
    ⟨free, left, held, listed, remembered, apart, behind, last⟩
  · rw [none_there nothing]
    exact .inl ⟨other, unchanged, nothing⟩
  · cases held with
    | none =>
      rw [none_there remembered]
      exact .inr ⟨free, left, none, listed, remembered, apart, behind, rfl⟩
    | some entry =>
      have ran : after (disableNotifications ref) world = world.setAttribute ref
          { world.attrib ref with
            notificationListener := none
            listeners := (world.attrib ref).listeners.erase (stamped entry) } := by
        simp only [disableNotifications, after, EStateM.run_bind, EStateM.run_get]
        rw [show (world.attrib ref).notificationListener = _ from remembered]
        rfl
      have self : (after (disableNotifications ref) world).attrib ref =
          { world.attrib ref with
            notificationListener := none
            listeners := (world.attrib ref).listeners.erase (stamped entry) } := by
        rw [ran]
        exact Function.update_self ref _ _
      have erased : (world.attrib ref).listeners.erase (stamped entry) =
          base ++ (left ++ (none : Option (Nat × CentralRef)).toList).map stamped := by
        have apart_here := apart entry rfl
        rw [show (world.attrib ref).listeners = _ from listed, List.map_append, ← List.append_assoc,
          List.erase_append_right _ apart_here]
        simp
      refine .inr ⟨?_, left, none, ?_, ?_, ?_, behind, rfl⟩
      · rw [self]
        exact free
      · rw [self]
        exact erased
      · rw [self]
        rfl
      · intro entry nothing
        cases nothing

theorem subscribedStep_follows (host : Host) (base : List Listener) (ref : AttrRef) :
    Preserves (subscribedStep host ref) (Follows base ref) := by
  rintro ⟨world, calls⟩ event ⟨next, later⟩ out follows stepped
  obtain ⟨pushed, rfl⟩ := recording_ok stepped
  cases pushed
  cases event with
  | enableNotifications central => exact enableNotifications_follows central follows
  | disableNotifications => exact disableNotifications_follows follows
  | setValue value => exact follows.same (setValue_listening host ref value world)

/-- To come to a notification is to be given bytes that the other listeners let pass. -/
theorem notifies_iff (named : ∀ attrib, host.freeValue attrib = attrib.value) {base : List Listener}
    (plain : ∀ listener ∈ base, listener.IsPlain) {entries : List (Nat × CentralRef)}
    (listed : (world.attrib ref).listeners = base ++ entries.map stamped)
    (enabled : (world.attrib ref).indicationListener = none) {value : JsValue} {bytes : Buffer}
    (stored : value.stored world = some (some bytes)) :
    Notifies host world ref value bytes ↔
      (∀ listener ∈ base, QuietFor host (world.assigned ref (some bytes)) ref listener) ∧
        Prepared host (world.assigned ref (some bytes)) ref := by
  have self := assigned_self world ref (some bytes)
  constructor
  · intro notifies
    constructor
    · intro listener member
      apply notifies.quiet listener _ (plain listener member)
      rw [listed]
      exact List.mem_append_left _ member
    · refine ⟨notifies.room, ?_, ?_, ?_⟩
      · rw [named, self]
        simp
      · rw [self]
        simp
      · rw [self]
        exact notifies.handle
  · rintro ⟨quiet, room, _, _, handle⟩
    rw [self] at handle
    refine ⟨enabled, stored, room, handle, ?_⟩
    intro listener member plain_listener
    rw [listed] at member
    rcases List.mem_append.mp member with here | stamped_here
    · exact quiet listener here
    · obtain ⟨entry, _, rfl⟩ := List.mem_map.mp stamped_here
      exact plain_listener.elim

theorem fitsFor_assigned (named : ∀ attrib, host.freeValue attrib = attrib.value) (bytes : Buffer)
    (central : CentralRef) :
    fitsFor host (world.assigned ref (some bytes)) ref central = false ↔
      world.limit central < notificationSize world bytes := by
  have size : pushLength host (world.assigned ref (some bytes)) ref = notificationSize world bytes := by
    rw [pushLength, named, assigned_self]
    rfl
  unfold fitsFor
  rw [size]
  exact decide_eq_false_iff_not.trans Nat.not_le

/-- Where no notification can come, all is well exactly if none should. -/
theorem accounted_silent {value : JsValue}
    (count : (written (setValue host ref value) world).countP isNotification = 0)
    (never : ∀ bytes, ¬ Notifies host world ref value bytes) :
    Accounted host ref (world, calls) (.setValue value) ↔
      AssignedWell host ref (world, calls) (.setValue value) := by
  show _ = (if calls.held.isSome then 1 else 0) ↔ _
  unfold AssignedWell
  rw [count]
  cases calls.held with
  | none => exact iff_of_true rfl fun _ => never
  | some central => exact iff_of_false (by simp) fun ⟨bytes, notifies, _⟩ => never bytes notifies

/-- Where notifications come, it is exactly one if the listener of the last call is the only one that
    is reached, and none if there is no listener. -/
theorem accounted_reached (named : ∀ attrib, host.freeValue attrib = attrib.value) {value : JsValue}
    {kept : Buffer} (notifies : Notifies host world ref value kept) {left : List (Nat × CentralRef)}
    {held : Option (Nat × CentralRef)} (behind : calls.left = left.map Prod.snd)
    (last : calls.held = held.map Prod.snd)
    (count : (written (setValue host ref value) world).countP isNotification =
      reached (fitsFor host (world.assigned ref (some kept)) ref)
        ((left ++ held.toList).map Prod.snd)) :
    Accounted host ref (world, calls) (.setValue value) ↔
      AssignedWell host ref (world, calls) (.setValue value) := by
  show _ = (if calls.held.isSome then 1 else 0) ↔ _
  unfold AssignedWell
  rw [count]
  simp only [behind, last]
  cases held with
  | none =>
    have all : (left ++ (none : Option (Nat × CentralRef)).toList).map Prod.snd =
        left.map Prod.snd := by simp
    rw [all]
    show reached _ _ = 0 ↔ _
    rw [reached_eq_zero]
    constructor
    · exact fun nobody somebody => absurd nobody somebody
    · intro well
      by_contra somebody
      exact well somebody kept notifies
  | some entry =>
    have all : (left ++ (some entry).toList).map Prod.snd = left.map Prod.snd ++ [entry.2] := by
      simp
    rw [all]
    show reached _ _ = 1 ↔ _
    rw [reached_eq_one]
    constructor
    · intro stopped
      refine ⟨kept, notifies, fun first head => ?_⟩
      exact (fitsFor_assigned named kept first).mp (stopped first head)
    · rintro ⟨other, more, stopped⟩ first head
      have same : other = kept :=
        Option.some.inj (Option.some.inj (more.stored.symm.trans notifies.stored))
      rw [same] at stopped
      exact (fitsFor_assigned named kept first).mpr (stopped first head)

theorem accounted_iff (named : ∀ attrib, host.freeValue attrib = attrib.value) {base : List Listener}
    (plain : ∀ listener ∈ base, listener.IsPlain) (follows : Follows base ref (world, calls))
    (event : SubscriptionEvent) :
    Accounted host ref (world, calls) event ↔ AssignedWell host ref (world, calls) event := by
  cases event with
  | enableNotifications central => exact Iff.rfl
  | disableNotifications => exact Iff.rfl
  | setValue value =>
    cases stored : value.stored world with
    | none =>
      have ignored : after (setValue host ref value) world = world := setValue_ignored stored
      apply accounted_silent
      · rw [written, ignored, List.drop_length]
        rfl
      · intro bytes notifies
        rw [notifies.stored] at stored
        cases stored
    | some bytes =>
      rcases follows with ⟨other, listed, _⟩ | ⟨enabled, left, held, listed, _, _, behind, last⟩
      · have alone : (world.attrib ref).listeners =
            base ++ ([] : List (Nat × CentralRef)).map stamped :=
          listed.trans (List.append_nil base).symm
        obtain ⟨reaches, fails⟩ := assignment_notifies host value plain alone stored
        apply accounted_silent
        · by_cases live : (∀ listener ∈ base, QuietFor host (world.assigned ref bytes) ref listener) ∧
            Prepared host (world.assigned ref bytes) ref
          · exact reaches live
          · exact fails live
        · exact fun bytes notifies => other notifies.enabled
      · obtain ⟨reaches, fails⟩ := assignment_notifies host value plain listed stored
        by_cases live : (∀ listener ∈ base, QuietFor host (world.assigned ref bytes) ref listener) ∧
          Prepared host (world.assigned ref bytes) ref
        · obtain ⟨kept, rfl⟩ : ∃ kept, bytes = some kept := by
            have present := live.2.2.2.1
            rw [assigned_self] at present
            exact Option.ne_none_iff_exists'.mp present
          have notifies := (notifies_iff named plain listed enabled stored).mpr live
          exact accounted_reached named notifies behind last (reaches live)
        · apply accounted_silent (fails live)
          intro other notifies
          have same : bytes = some other := Option.some.inj (stored.symm.trans notifies.stored)
          subst same
          exact live ((notifies_iff named plain listed enabled stored).mp notifies)

end Following

/-- In a run of calls and assignments each assignment writes one notification after a call that
    enables them, and none otherwise, exactly if each is a good one. -/
theorem notifications_accounted_iff (host : Host)
    (named : ∀ attrib, host.freeValue attrib = attrib.value) (ref : AttrRef) (world : World)
    (uncalled : (world.attrib ref).notificationListener = none)
    (plain : ∀ listener ∈ (world.attrib ref).listeners, listener.IsPlain)
    (events : List SubscriptionEvent) :
    (∀ taken ∈ visited (subscribedStep host ref) (world, Calls.none) events,
      Accounted host ref taken.1 taken.2) ↔
    ∀ taken ∈ visited (subscribedStep host ref) (world, Calls.none) events,
      AssignedWell host ref taken.1 taken.2 := by
  have start : Follows (world.attrib ref).listeners ref (world, Calls.none) := by
    cases other : (world.attrib ref).indicationListener with
    | some listener => exact .inl ⟨by simp [other], rfl, uncalled⟩
    | none =>
      refine .inr ⟨other, [], none, ?_, uncalled, nofun, rfl, rfl⟩
      exact (List.append_nil _).symm
  apply visited_forall_congr (subscribedStep_follows host (world.attrib ref).listeners ref) start
  rintro ⟨now, calls⟩ event follows
  exact accounted_iff named plain follows event

def subscribedWarming : List SubscriptionEvent :=
  [.setValue (.buffer [21]), .enableNotifications 0, .setValue (.buffer [22]), .disableNotifications,
    .setValue (.buffer [23])]

theorem thermometer_plain :
    ∀ listener ∈ (thermometer.attrib 0).listeners, listener.IsPlain := by
  have nobody : (thermometer.attrib 0).listeners = [] := rfl
  rw [nobody]
  nofun

theorem subscribedWarming_accounted :
    (∀ taken ∈ visited (subscribedStep valueHost 0) (thermometer, Calls.none) subscribedWarming,
      Accounted valueHost 0 taken.1 taken.2) ↔
    ∀ taken ∈ visited (subscribedStep valueHost 0) (thermometer, Calls.none) subscribedWarming,
      AssignedWell valueHost 0 taken.1 taken.2 :=
  notifications_accounted_iff valueHost (fun _ => rfl) 0 thermometer rfl thermometer_plain
    subscribedWarming

example : ∀ taken ∈ visited (subscribedStep valueHost 0) (thermometer, Calls.none) subscribedWarming,
    Accounted valueHost 0 taken.1 taken.2 := by decide +kernel

/-- Enabled twice and disabled, the attribute still notifies of what is assigned. -/
theorem enabledTwice_notifies :
    ¬ ∀ taken ∈ visited (subscribedStep valueHost 0) (thermometer, Calls.none)
        [.enableNotifications 0, .enableNotifications 0, .disableNotifications, .setValue (.buffer [21])],
      Accounted valueHost 0 taken.1 taken.2 := by decide +kernel

end Btle.Server

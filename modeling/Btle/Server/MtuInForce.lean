import Btle.Library.Machine
import Btle.Server.Limits

namespace Btle.Server

open Machine Throwing

/-- What happens to a server with its database in place: a central connects, on a new connection
    with its own MTU, or sends a PDU; a value is assigned, or pushed from now on or no longer. -/
inductive LinkEvent
  | connect (central : CentralRef) (mtu : UInt16)
  | data (central : CentralRef) (pdu : Buffer)
  | setValue (ref : AttrRef) (value : JsValue)
  | enableNotifications (ref : AttrRef) (central : CentralRef)
  | disableNotifications (ref : AttrRef)
  | enableIndications (ref : AttrRef) (central : CentralRef)
  | disableIndications (ref : AttrRef)
  deriving DecidableEq, Repr

def linkProgram (host : Host) : LinkEvent → Js Unit
  | .connect central mtu =>
    modify fun world => world.setCentral central { world.central central with mtu }
  | .data central pdu => createHandler host central pdu
  | .setValue ref value => setValue host ref value
  | .enableNotifications ref central => enableNotifications host ref central
  | .disableNotifications ref => disableNotifications ref
  | .enableIndications ref central => enableIndications host ref central
  | .disableIndications ref => disableIndications ref

/-- The server's world, and beside it the MTU in force on the connection of each central. -/
structure Link where
  world : World
  inForce : CentralRef → Nat

def Link.start (world : World) : Link where
  world := world
  inForce _ := defaultMtu.toNat

/-- A connection starts with the default MTU. An exchange on it leaves the smaller of the two sides'
    values in force, and at least the default. -/
def Link.inForceAfter (link : Link) : LinkEvent → CentralRef → Nat
  | .connect central _ => Function.update link.inForce central defaultMtu.toNat
  | .data central (opcode :: data) =>
    if opcode = opMtuRequest ∧ 2 ≤ data.length then
      Function.update link.inForce central
        (max defaultMtu.toNat (min (word data 0) (link.world.central central).mtu.toNat))
    else link.inForce
  | .data _ [] | .setValue _ _ | .enableNotifications _ _ | .disableNotifications _
  | .enableIndications _ _ | .disableIndications _ => link.inForce

/-- One event, done to the end or to where it throws; it emits the PDUs that are written. -/
def linkStep (host : Host) : Step Link LinkEvent (CentralRef × Buffer) Empty := fun link event =>
  .ok (⟨after (linkProgram host event) link.world, link.inForceAfter event⟩,
    written (linkProgram host event) link.world)

/-- Every PDU written is no longer than the MTU in force on its connection. -/
def RespectsMtu (host : Host) (link : Link) (event : LinkEvent) : Prop :=
  ∀ next out, linkStep host link event = .ok (next, out) →
    ∀ entry ∈ out, entry.2.length ≤ link.inForce entry.1

def World.notifying (world : World) (ref : AttrRef) (central : CentralRef) : World :=
  let attrib := world.attrib ref
  let listener := Listener.notification (stampOf attrib) central
  world.setAttribute ref { attrib with
    notificationListener := some listener, listeners := attrib.listeners ++ [listener] }

def World.indicating (world : World) (ref : AttrRef) (central : CentralRef) : World :=
  let attrib := world.attrib ref
  let listener := Listener.indication (stampOf attrib) central
  world.setAttribute ref { attrib with
    indicationListener := some listener, listeners := attrib.listeners ++ [listener] }

/-- What is cut to the size kept for the whole module, or is small anyway, fits the connection it
    goes to: replies that hold attributes, notifications and indications. -/
def Moderate (host : Host) (link : Link) : LinkEvent → Prop
  | .data central (opcode :: data) =>
    ∀ handler, handlers.lookup opcode = some handler →
      handler.Moderate host link.inForce central link.world data
  | .setValue ref value => ∀ bytes, value.stored link.world = some bytes →
      PushesFit host link.inForce (link.world.assigned ref bytes) ref
        (link.world.attrib ref).listeners
  | .enableNotifications ref central => (link.world.attrib ref).indicationListener = none →
      PushFits host link.inForce (link.world.notifying ref central) ref central
  | .enableIndications ref central => (link.world.attrib ref).notificationListener = none →
      (link.world.central central).waitingForConfirmation = false →
        PushFits host link.inForce (link.world.indicating ref central) ref central
  | .connect _ _ | .data _ [] | .disableNotifications _ | .disableIndications _ => True

section Step

variable {host : Host} {link : Link}

theorem respectsMtu_iff (event : LinkEvent) :
    RespectsMtu host link event ↔ Within link.inForce (linkProgram host event) link.world := by
  constructor
  · exact fun respects => respects _ _ rfl
  · intro within next out stepped
    cases stepped
    exact within

theorem enableNotifications_cases (host : Host) (world : World) (ref : AttrRef)
    (central : CentralRef) :
    ((world.attrib ref).indicationListener ≠ none ∧
      ∃ thrown, (enableNotifications host ref central).run world = .error thrown world) ∨
    (world.attrib ref).indicationListener = none ∧
      (enableNotifications host ref central).run world =
        (notify host ref central).run (world.notifying ref central) := by
  unfold enableNotifications
  rw [EStateM.run_bind, EStateM.run_get]
  cases other : (world.attrib ref).indicationListener with
  | some listener =>
    refine .inl ⟨by simp,
      .error "Cannot enable notifications and indications on the same attribute", ?_⟩
    simp only [other]
    rfl
  | none =>
    refine .inr ⟨rfl, ?_⟩
    simp only
    rw [if_neg (by simp [other])]
    rfl

theorem enableIndications_cases (host : Host) (world : World) (ref : AttrRef)
    (central : CentralRef) :
    ((world.attrib ref).notificationListener ≠ none ∧
      ∃ thrown, (enableIndications host ref central).run world = .error thrown world) ∨
    (world.attrib ref).notificationListener = none ∧
      (enableIndications host ref central).run world =
        (indicate host ref central).run (world.indicating ref central) := by
  unfold enableIndications
  rw [EStateM.run_bind, EStateM.run_get]
  cases other : (world.attrib ref).notificationListener with
  | some listener =>
    refine .inl ⟨by simp,
      .error "Cannot enable notifications and indications on the same attribute", ?_⟩
    simp only [other]
    rfl
  | none =>
    refine .inr ⟨rfl, ?_⟩
    simp only
    rw [if_neg (by simp [other])]
    rfl

/-- Disabling takes at most the listener of one attribute away. -/
theorem disableIndications_cases (world : World) (ref : AttrRef) :
    after (disableIndications ref) world = world ∨
      ∃ listeners, after (disableIndications ref) world = world.setAttribute ref
        { world.attrib ref with indicationListener := none, listeners } := by
  simp only [disableIndications, after, EStateM.run_bind, EStateM.run_get]
  cases (world.attrib ref).indicationListener with
  | none => exact .inl rfl
  | some listener => exact .inr ⟨_, rfl⟩

theorem enableNotifications_within {limit : CentralRef → Nat} {world : World} (ref : AttrRef)
    (central : CentralRef) :
    Within limit (enableNotifications host ref central) world ↔
      ((world.attrib ref).indicationListener = none →
        PushFits host limit (world.notifying ref central) ref central) := by
  rcases enableNotifications_cases host world ref central with ⟨other, thrown, ran⟩ | ⟨none, ran⟩
  · exact iff_of_true (within_silent (by rw [after_error ran])) fun none => absurd none other
  · rw [within_same (after_congr ran) rfl, imp_iff_right none]
    exact sendValue_within

theorem enableIndications_within {limit : CentralRef → Nat} {world : World} (ref : AttrRef)
    (central : CentralRef) :
    Within limit (enableIndications host ref central) world ↔
      ((world.attrib ref).notificationListener = none →
        (world.central central).waitingForConfirmation = false →
          PushFits host limit (world.indicating ref central) ref central) := by
  rcases enableIndications_cases host world ref central with ⟨other, thrown, ran⟩ | ⟨none, ran⟩
  · exact iff_of_true (within_silent (by rw [after_error ran])) fun none => absurd none other
  · rw [within_same (after_congr ran) rfl, imp_iff_right none]
    exact indicate_within (stampOf (world.attrib ref))

theorem respectsMtu_iff_moderate (least : ∀ central, defaultMtu.toNat ≤ link.inForce central)
    (event : LinkEvent) : RespectsMtu host link event ↔ Moderate host link event := by
  rw [respectsMtu_iff]
  cases event with
  | connect central mtu => exact iff_of_true (within_silent rfl) trivial
  | data central pdu =>
    cases pdu with
    | nil =>
      exact iff_of_true ((unsupported_settles host central 0 link.world).within_five (least central))
        trivial
    | cons opcode data =>
      simp only [linkProgram, createHandler, Moderate]
      cases handlers.lookup opcode with
      | none =>
        exact iff_of_true
          ((unsupported_settles host central opcode link.world).within_five (least central)) nofun
      | some handler =>
        simp only [Option.some.injEq, forall_eq']
        exact handler.call_within (least central)
  | setValue ref value => exact setValue_within host link.inForce link.world ref value
  | enableNotifications ref central => exact enableNotifications_within ref central
  | disableNotifications ref =>
    refine iff_of_true (within_silent ?_) trivial
    simp only [linkProgram, disableNotifications, after, EStateM.run_bind, EStateM.run_get]
    cases (link.world.attrib ref).notificationListener <;> rfl
  | enableIndications ref central => exact enableIndications_within ref central
  | disableIndications ref =>
    refine iff_of_true (within_silent ?_) trivial
    simp only [linkProgram, disableIndications, after, EStateM.run_bind, EStateM.run_get]
    cases (link.world.attrib ref).indicationListener <;> rfl

end Step

theorem linkStep_least (host : Host) :
    Preserves (linkStep host) fun link => ∀ central, defaultMtu.toNat ≤ link.inForce central := by
  intro link event next out least stepped central
  cases stepped
  have updated : ∀ (other : CentralRef) (size : Nat), defaultMtu.toNat ≤ size →
      defaultMtu.toNat ≤ Function.update link.inForce other size central := by
    intro other size enough
    by_cases same : central = other
    · subst same
      rwa [Function.update_self]
    · rw [Function.update_of_ne same]
      exact least central
  cases event with
  | connect other mtu => exact updated other _ (le_refl _)
  | data other pdu =>
    cases pdu with
    | nil => exact least central
    | cons opcode data =>
      simp only [Link.inForceAfter]
      split
      · exact updated other _ (Nat.le_max_left _ _)
      · exact least central
  | setValue | enableNotifications | disableNotifications | enableIndications
  | disableIndications => exact least central

section Cut

variable {limit : CentralRef → Nat}

def Listener.central? : Listener → Option CentralRef
  | .notification _ central | .indication _ central => some central
  | .reemit | .application _ => none

/-- A change of the attribute's value is pushed on the connection. -/
def World.PushesTo (world : World) (ref : AttrRef) (central : CentralRef) : Prop :=
  ∃ listener ∈ (world.attrib ref).listeners, listener.central? = some central

/-- The connections on which a request makes the server write what it cuts to `mtuSize`. -/
def Handler.Cuts (world : World) (sender : CentralRef) (data : Buffer) (central : CentralRef) :
    Handler → Prop
  | .findByType | .readByType | .readByGroup => sender = central
  | .write => ∃ ref, writeTarget world (word data 0) true = some ref ∧ world.PushesTo ref central
  | .writeCmd => ∃ ref, writeTarget world (word data 0) false = some ref ∧ world.PushesTo ref central
  | .error | .mtu | .findInfo | .read | .readBlob | .readMulti | .valueConfirm => False

/-- So it does for an event: a reply goes to its sender, a push to who listens. -/
def LinkEvent.Cuts (world : World) (central : CentralRef) : LinkEvent → Prop
  | .data sender (opcode :: fields) =>
    ∃ handler, handlers.lookup opcode = some handler ∧ handler.Cuts world sender fields central
  | .setValue ref _ => world.PushesTo ref central
  | .enableNotifications _ target | .enableIndications _ target => target = central
  | .connect _ _ | .data _ [] | .disableNotifications _ | .disableIndications _ => False

/-- The one size kept for all connections is not above the MTU in force on those for which the event
    uses it. -/
def Current (link : Link) (event : LinkEvent) : Prop :=
  ∀ central, event.Cuts link.world central → link.world.mtuSize.toNat ≤ link.inForce central

theorem pushFits_of_current (host : Host) (world : World) (ref : AttrRef) {central : CentralRef}
    (current : world.mtuSize.toNat ≤ limit central) : PushFits host limit world ref central :=
  fun _ => le_trans pushLength_le current

theorem pushesFit_of_current (host : Host) (world : World) (ref : AttrRef) {listeners : List Listener}
    (current : ∀ listener ∈ listeners, ∀ central, listener.central? = some central →
      world.mtuSize.toNat ≤ limit central) : PushesFit host limit world ref listeners := by
  induction listeners with
  | nil => trivial
  | cons listener listeners ih =>
    have own := current listener List.mem_cons_self
    refine ⟨?_, fun _ => ih fun other member => current other (List.mem_cons_of_mem _ member)⟩
    cases listener with
    | reemit | application => trivial
    | notification stamp central => exact pushFits_of_current host world ref (own central rfl)
    | indication stamp central => exact fun _ => pushFits_of_current host world ref (own central rfl)

theorem Settles.replyFits {program : Js Unit} {central : CentralRef} {world : World}
    {request response : UInt8} {condition : (Nat → Prop) → Prop}
    (settles : Settles program central world (IsReply request response world.mtuSize) condition)
    {limit : Nat} (current : world.mtuSize.toNat ≤ limit) (least : defaultMtu.toNat ≤ limit) :
    ReplyFits limit condition := by
  intro answers
  rcases settles.sent with ⟨_, never⟩ | ⟨pdu, _, reply, exactly⟩
  · exact absurd answers (never _)
  · apply (exactly _).mpr
    rcases reply with error | response
    · rw [error.1]
      exact le_trans (by decide) least
    · exact le_trans response.1 current

theorem Handler.moderate_of_current (host : Host) {world : World} (handler : Handler)
    {sender : CentralRef} {data : Buffer} (least : ∀ central, defaultMtu.toNat ≤ limit central)
    (current : ∀ central, handler.Cuts world sender data central →
      world.mtuSize.toNat ≤ limit central) : handler.Moderate host limit sender world data := by
  have pushed {ref : AttrRef}
      (fits : ∀ central, world.PushesTo ref central → world.mtuSize.toNat ≤ limit central)
      (value : Option Buffer) :
      PushesFit host limit (world.assigned ref value) ref (world.attrib ref).listeners :=
    pushesFit_of_current host (world.assigned ref value) ref fun listener member central own =>
      fits central ⟨listener, member, own⟩
  cases handler with
  | findByType =>
    exact (handleFindByType_settles host sender data world).replyFits (current sender rfl) (least sender)
  | readByType =>
    exact (handleReadByType_settles host sender data world).replyFits (current sender rfl) (least sender)
  | readByGroup =>
    exact (handleReadByGroup_settles host sender data world).replyFits (current sender rfl) (least sender)
  | write =>
    exact fun _ ref target => pushed (fun central tells => current central ⟨ref, target, tells⟩) _
  | writeCmd =>
    exact fun _ ref target => pushed (fun central tells => current central ⟨ref, target, tells⟩) _
  | error | mtu | findInfo | read | readBlob | readMulti | valueConfirm => trivial

/-- All that is cut to the size kept for the module is short enough where that size is. -/
theorem moderate_of_current (host : Host) {link : Link} {event : LinkEvent}
    (current : Current link event) (least : ∀ central, defaultMtu.toNat ≤ link.inForce central) :
    Moderate host link event := by
  cases event with
  | data sender pdu =>
    cases pdu with
    | nil => trivial
    | cons opcode data =>
      exact fun handler looked => handler.moderate_of_current host least fun central cuts =>
        current central ⟨handler, looked, cuts⟩
  | setValue ref value =>
    exact fun bytes _ => pushesFit_of_current host (link.world.assigned ref bytes) ref
      fun listener member central own => current central ⟨listener, member, own⟩
  | enableNotifications ref central =>
    exact fun _ => pushFits_of_current host (link.world.notifying ref central) ref (current central rfl)
  | enableIndications ref central =>
    exact fun _ _ => pushFits_of_current host (link.world.indicating ref central) ref (current central rfl)
  | connect | disableNotifications | disableIndications => trivial

end Cut

/-- Over any run of connections, a server that keeps one size for all of them respects their MTUs as
    long as it uses that size only on connections whose MTU is not below it. -/
theorem mtu_respected (host : Host) (world : World) (events : List LinkEvent)
    (current : ∀ taken ∈ visited (linkStep host) (.start world) events, Current taken.1 taken.2) :
    ∀ taken ∈ visited (linkStep host) (.start world) events, RespectsMtu host taken.1 taken.2 := by
  intro taken member
  have least : ∀ central, defaultMtu.toNat ≤ taken.1.inForce central :=
    visited_preserves (linkStep_least host) (fun _ => le_refl _) taken member
  exact (respectsMtu_iff_moderate least taken.2).mpr (moderate_of_current host (current taken member) least)

def longName : World :=
  after (do
    let type ← getUuidOf (.number 0x2A00)
    let _ ← createAttribute plainHost type (.buffer (List.replicate 30 0x61)) (some 1) none
    return : Js Unit) .initial

def readName : LinkEvent := .data 0 [opReadByTypeRequest, 1, 0, 2, 0, 0x00, 0x2A]

def agreedRead : List LinkEvent := [.connect 0 64, .data 0 [opMtuRequest, 64, 0], readName]

theorem agreedRead_current : ∀ taken ∈ visited (linkStep plainHost) (.start longName) agreedRead,
    Current taken.1 taken.2 := by
  intro taken member central cuts
  have inForce : ∀ taken ∈ visited (linkStep plainHost) (.start longName) agreedRead,
      taken.1.world.mtuSize.toNat ≤ taken.1.inForce 0 := by decide +kernel
  have event := visited_event member
  simp only [agreedRead, List.mem_cons, List.not_mem_nil, or_false] at event
  rcases event with same | same | same
  · rw [same] at cuts
    exact cuts.elim
  · rw [same] at cuts
    obtain ⟨handler, looked, here⟩ := cuts
    cases looked
    exact here.elim
  · rw [same] at cuts
    obtain ⟨handler, looked, here⟩ := cuts
    cases looked
    have sender : 0 = central := here
    exact sender ▸ inForce taken member

/-- On the connection on which it was agreed on the size is in force, and a reply may be as long. -/
theorem longName_respected : ∃ taken ∈ visited (linkStep plainHost) (.start longName) agreedRead,
    (written (linkProgram plainHost taken.2) taken.1.world).map (fun entry => entry.2.length) = [34] ∧
      RespectsMtu plainHost taken.1 taken.2 := by
  have long : ∃ taken ∈ visited (linkStep plainHost) (.start longName) agreedRead,
      (written (linkProgram plainHost taken.2) taken.1.world).map (fun entry => entry.2.length) = [34] := by
    decide +kernel
  obtain ⟨taken, member, replies⟩ := long
  exact ⟨taken, member, replies,
    mtu_respected plainHost longName agreedRead agreedRead_current taken member⟩

/-- An MTU of 64 agreed on one connection is still used on the next, where 23 is in force. -/
theorem mtu_outlives_connection :
    ¬ ∀ taken ∈ visited (linkStep plainHost) (.start longName)
      [.connect 0 64, .data 0 [opMtuRequest, 64, 0], .connect 0 64, readName],
      RespectsMtu plainHost taken.1 taken.2 := by
  intro respects
  have within := fun taken member => (respectsMtu_iff taken.2).mp (respects taken member)
  exact absurd within (by decide +kernel)

end Btle.Server

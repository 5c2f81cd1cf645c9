import Btle.Server.MtuInForce

namespace Btle.Server

open Machine Throwing

/-- The MTU that an event asks for, if it is a whole MTU request. -/
def LinkEvent.requestedMtu : LinkEvent → Option Nat
  | .data _ (opcode :: rest) =>
    if opcode = opMtuRequest ∧ 2 ≤ rest.length then some (word rest 0) else none
  | _ => none

/-- Nothing happens but on the one connection there is. -/
def LinkEvent.On (central : CentralRef) : LinkEvent → Prop
  | .connect _ _ => False
  | .data other _ => other = central
  | _ => True

/-- What is agreed on once these MTUs have been asked for, where the central's own was the first. -/
def agreed (mtu : Nat) (requests : List Nat) : Nat :=
  max defaultMtu.toNat (requests.foldl min mtu)

theorem agreed_append (mtu : Nat) (requests : List Nat) (requested : Nat) :
    agreed mtu (requests ++ [requested]) =
      max defaultMtu.toNat (min (agreed mtu requests) requested) := by
  simp only [agreed, List.foldl_append, List.foldl_cons, List.foldl_nil]
  omega

theorem agreed_least (mtu : Nat) (requests : List Nat) :
    defaultMtu.toNat ≤ agreed mtu requests :=
  Nat.le_max_left _ _

theorem negotiated_toNat (requested : Nat) {mtu : UInt16} (least : defaultMtu.toNat ≤ mtu.toNat) :
    (negotiated requested mtu).toNat = max defaultMtu.toNat (min mtu.toNat requested) := by
  unfold negotiated
  split
  · omega
  · split
    · have bound := mtu.toNat_lt
      have small : requested < 2 ^ 16 := by omega
      rw [UInt16.toNat_ofNat_of_lt' small]
      omega
    · omega

structure SameMtus (world next : World) : Prop where
  mtuSize : next.mtuSize = world.mtuSize
  mtu : ∀ central, (next.central central).mtu = (world.central central).mtu

instance : Std.Refl SameMtus := ⟨fun _ => ⟨rfl, fun _ => rfl⟩⟩

instance : IsTrans World SameMtus :=
  ⟨fun _ _ _ first second => ⟨second.mtuSize.trans first.mtuSize,
    fun central => (second.mtu central).trans (first.mtu central)⟩⟩

section SameMtus

variable {host : Host} {central : CentralRef} {world : World}

theorem Pushes.sameMtus {next : World} (pushes : Pushes world next) : SameMtus world next :=
  ⟨pushes.mtuSize, pushes.mtu⟩

theorem Settles.sameMtus {program : Js Unit} {answer : Buffer → Prop}
    {condition : (Nat → Prop) → Prop}
    (settles : Settles program central world answer condition) :
    SameMtus world (after program world) := by
  rcases settles.left with ⟨uuids, sent, left⟩
  rw [left]
  exact ⟨rfl, fun _ => rfl⟩

theorem setValue_keepsMtus (host : Host) (ref : AttrRef) (value : JsValue) :
    Keeps SameMtus (setValue host ref value) :=
  setValue_keeps_of host ref value (fun _ _ => ⟨rfl, fun _ => rfl⟩) fun _ _ => Pushes.sameMtus

theorem handleError_keepsMtus (central : CentralRef) (data : Buffer) :
    Keeps SameMtus (handleError central data) := by
  unfold handleError
  refine (keeps_ofExcept _).bind fun handle => ?_
  exact Keeps.modify fun _ => ⟨rfl, fun _ => rfl⟩

theorem doWrite_keepsMtus (host : Host) (central : CentralRef) {handle : Nat}
    (small : handle ≤ 0xFFFF) (value : Buffer) (respond : Bool) :
    Keeps SameMtus (doWrite host central handle value respond) := by
  intro world
  cases target : writeTarget world handle respond with
  | none => exact (doWrite_refused host central small value target).sameMtus
  | some ref =>
    rcases doWrite_permitted host central value target with ⟨_, answer, calls, left, _⟩
    have pushes := setValue_buffer_pushes host world ref value
    rw [left]
    exact ⟨pushes.mtuSize, pushes.mtu⟩

theorem write_field_keepsMtus (host : Host) (central : CentralRef) (data : Buffer)
    (respond : Bool) :
    Keeps SameMtus (Js.ofExcept (Buffer.readUInt16LE data 0) >>= fun handle =>
      doWrite host central handle (data.drop 2) respond) := by
  intro world
  by_cases long : 2 ≤ data.length
  · have ran := field_read (show 0 + 1 < data.length by omega)
      (fun handle => doWrite host central handle (data.drop 2) respond) world
    rw [after_congr ran]
    exact doWrite_keepsMtus host central (word_small data 0) _ respond world
  · obtain ⟨_, left⟩ := threw _ world (field_missing (show data.length ≤ 0 + 1 by omega)
      (fun handle => doWrite host central handle (data.drop 2) respond) world)
    rw [left]
    exact Std.Refl.refl world

theorem handleValueConfirm_keepsMtus (central : CentralRef) :
    Keeps SameMtus (handleValueConfirm central) := by
  refine Keeps.modify fun world => ⟨rfl, fun other => ?_⟩
  by_cases same : other = central
  · subst same
    simp [World.setCentral]
  · simp [World.setCentral, same]

theorem Handler.call_keepsMtus (host : Host) (central : CentralRef) (data : Buffer)
    {handler : Handler} (other : handler ≠ .mtu) :
    Keeps SameMtus (handler.call host central data) := by
  intro world
  cases handler with
  | error => exact handleError_keepsMtus central data world
  | mtu => exact absurd rfl other
  | findInfo => exact (handleFindInfo_settles host central data world).sameMtus
  | findByType => exact (handleFindByType_settles host central data world).sameMtus
  | readByType => exact (handleReadByType_settles host central data world).sameMtus
  | read => exact (handleRead_settles host central data world).sameMtus
  | readBlob =>
    rw [call, (handleReadBlob_outcome data world).2]
    exact Std.Refl.refl world
  | readMulti =>
    rw [call, (handleReadMulti_outcome data world).2]
    exact Std.Refl.refl world
  | readByGroup => exact (handleReadByGroup_settles host central data world).sameMtus
  | write => exact write_field_keepsMtus host central data true world
  | writeCmd => exact write_field_keepsMtus host central data false world
  | valueConfirm => exact handleValueConfirm_keepsMtus central world

theorem sendValue_keepsMtus {opcode : UInt8} (host : Host) (ref : AttrRef) (central : CentralRef)
    (kind : opcode = opHandleNotify ∨ opcode = opHandleIndicate) :
    Keeps SameMtus (sendValue host opcode ref central) :=
  fun world => (sendValue_keeps host ref central kind world).sameMtus

theorem setAttribute_keepsMtus (attrib : Attribute) (ref : AttrRef) :
    Keeps SameMtus (modify fun world => world.setAttribute ref attrib : Js Unit) :=
  Keeps.modify fun _ => ⟨rfl, fun _ => rfl⟩

theorem enableNotifications_keepsMtus (host : Host) (ref : AttrRef) (central : CentralRef) :
    Keeps SameMtus (enableNotifications host ref central) := by
  unfold enableNotifications
  refine Keeps.get.bind fun world => ?_
  dsimp only
  split
  · exact (Keeps.throw _).bind fun _ => (setAttribute_keepsMtus _ ref).bind fun _ =>
      sendValue_keepsMtus host ref central (.inl rfl)
  · exact (setAttribute_keepsMtus _ ref).bind fun _ =>
      sendValue_keepsMtus host ref central (.inl rfl)

theorem enableIndications_keepsMtus (host : Host) (ref : AttrRef) (central : CentralRef) :
    Keeps SameMtus (enableIndications host ref central) := by
  have indicated : Keeps SameMtus (indicate host ref central) :=
    fun world => (indicate_keeps host ref central world).sameMtus
  unfold enableIndications
  refine Keeps.get.bind fun world => ?_
  dsimp only
  split
  · exact (Keeps.throw _).bind fun _ => (setAttribute_keepsMtus _ ref).bind fun _ => indicated
  · exact (setAttribute_keepsMtus _ ref).bind fun _ => indicated

theorem disableNotifications_keepsMtus (ref : AttrRef) :
    Keeps SameMtus (disableNotifications ref) := by
  unfold disableNotifications
  refine Keeps.get.bind fun world => ?_
  dsimp only
  split
  · exact Keeps.pure _
  · exact setAttribute_keepsMtus _ ref

theorem disableIndications_keepsMtus (ref : AttrRef) :
    Keeps SameMtus (disableIndications ref) := by
  unfold disableIndications
  refine Keeps.get.bind fun world => ?_
  dsimp only
  split
  · exact Keeps.pure _
  · exact setAttribute_keepsMtus _ ref

theorem createHandler_keepsMtus (host : Host) (central : CentralRef) {pdu : Buffer}
    (other : (LinkEvent.data central pdu).requestedMtu = none) :
    Keeps SameMtus (createHandler host central pdu) := by
  intro world
  cases pdu with
  | nil => exact (unsupported_settles host central 0 world).sameMtus
  | cons opcode data =>
    unfold createHandler
    dsimp only
    cases looked : handlers.lookup opcode with
    | none => exact (unsupported_settles host central opcode world).sameMtus
    | some handler =>
      by_cases exchange : handler = .mtu
      · subst exchange
        have request : opcode = opMtuRequest := opcode_of_lookup (by decide) looked
        have short : data.length < 2 := by
          simpa [LinkEvent.requestedMtu, request] using other
        have left := (threw (handleMtu host central data) world
          (field_missing (by omega) _ world)).2
        dsimp only
        rw [Handler.call, left]
        exact Std.Refl.refl world
      · exact Handler.call_keepsMtus host central data exchange world

theorem linkProgram_keepsMtus (host : Host) {event : LinkEvent} (on : event.On central)
    (other : event.requestedMtu = none) : Keeps SameMtus (linkProgram host event) := by
  cases event with
  | connect => exact absurd on not_false
  | data target pdu => exact createHandler_keepsMtus host target other
  | setValue ref value => exact setValue_keepsMtus host ref value
  | enableNotifications ref target => exact enableNotifications_keepsMtus host ref target
  | disableNotifications ref => exact disableNotifications_keepsMtus ref
  | enableIndications ref target => exact enableIndications_keepsMtus host ref target
  | disableIndications ref => exact disableIndications_keepsMtus ref

end SameMtus

section Request

variable {host : Host} {central : CentralRef} {world : World} {event : LinkEvent} {requested : Nat}

theorem LinkEvent.requestedMtu_some (on : event.On central)
    (asks : event.requestedMtu = some requested) :
    ∃ data, event = .data central (opMtuRequest :: data) ∧ 2 ≤ data.length ∧
      requested = word data 0 := by
  cases event with
  | data target pdu =>
    cases pdu with
    | nil => cases asks
    | cons opcode rest =>
      simp only [requestedMtu] at asks
      split at asks
      · rename_i whole
        rcases whole with ⟨rfl, long⟩
        cases on
        cases asks
        exact ⟨rest, rfl, long, rfl⟩
      · cases asks
  | connect | setValue | enableNotifications | disableNotifications | enableIndications
  | disableIndications => cases asks

theorem request_after (host : Host) (on : event.On central)
    (asks : event.requestedMtu = some requested)
    (least : defaultMtu.toNat ≤ (world.central central).mtu.toNat) :
    let next := after (linkProgram host event) world
    next.mtuSize = negotiated requested (world.central central).mtu ∧
      (next.central central).mtu = negotiated requested (world.central central).mtu ∧
      next.sent = world.sent ++ [(central, mtuResponse (world.central central).mtu.toNat)] := by
  rcases LinkEvent.requestedMtu_some on asks with ⟨data, rfl, long, rfl⟩
  intro next
  have handled : next = after (handleMtu host central data) world := rfl
  have room : 3 ≤ (world.central central).mtu.toNat := le_trans (by decide) least
  have left := (handleMtu_outcome host central data world long).2
  rw [if_pos room] at left
  rw [handled]
  refine ⟨?_, ?_, handleMtu_sent host central world long⟩
  · rw [left]
    rfl
  · rw [left]
    simp [World.adopt, World.setCentral]

end Request

theorem written_within_mtuSize (host : Host) {world : World}
    (least : defaultMtu.toNat ≤ world.mtuSize.toNat) (event : LinkEvent) :
    Within (fun _ => world.mtuSize.toNat) (linkProgram host event) world := by
  let link : Link := ⟨world, fun _ => world.mtuSize.toNat⟩
  have respects : RespectsMtu host link event :=
    (respectsMtu_iff_moderate (fun _ => least) event).mpr
      (moderate_of_current host (fun _ _ => le_refl _) fun _ => least)
  exact (respectsMtu_iff event).mp respects

/-- The central's MTU is what was agreed on, and so is the size kept for the module, but for the
    default it has before the first request. -/
structure Negotiated (central : CentralRef) (mtu : Nat) (requests : List Nat) (world : World) :
    Prop where
  own : (world.central central).mtu.toNat = agreed mtu requests
  size : world.mtuSize.toNat = if requests = [] then defaultMtu.toNat else agreed mtu requests

section Run

variable {host : Host} {central : CentralRef} {mtu : Nat} {requests : List Nat}

theorem Negotiated.least {world : World} (negotiated : Negotiated central mtu requests world) :
    defaultMtu.toNat ≤ (world.central central).mtu.toNat := by
  rw [negotiated.own]
  exact agreed_least mtu requests

theorem Negotiated.least_size {world : World} (negotiated : Negotiated central mtu requests world) :
    defaultMtu.toNat ≤ world.mtuSize.toNat := by
  rw [negotiated.size]
  split
  · exact le_refl _
  · exact agreed_least mtu requests

theorem Negotiated.size_le {world : World} (negotiated : Negotiated central mtu requests world) :
    world.mtuSize.toNat ≤ (world.central central).mtu.toNat := by
  rw [negotiated.size, negotiated.own]
  split
  · exact agreed_least mtu requests
  · exact le_refl _

theorem Negotiated.step {link next : Link} {event : LinkEvent} {sent : List (CentralRef × Buffer)}
    (negotiated : Negotiated central mtu requests link.world) (on : event.On central)
    (stepped : linkStep host link event = .ok (next, sent)) :
    Negotiated central mtu (requests ++ event.requestedMtu.toList) next.world := by
  cases stepped
  cases asks : event.requestedMtu with
  | none =>
    have same := linkProgram_keepsMtus host on asks link.world
    rw [Option.toList_none, List.append_nil]
    constructor
    · rw [same.mtu, negotiated.own]
    · rw [same.mtuSize, negotiated.size]
  | some requested =>
    rcases request_after host on asks negotiated.least with ⟨size, own, _⟩
    have result : (Server.negotiated requested (link.world.central central).mtu).toNat =
        agreed mtu (requests ++ [requested]) := by
      rw [negotiated_toNat requested negotiated.least, agreed_append, negotiated.own]
    have some_asked : requests ++ [requested] ≠ [] := by simp
    rw [Option.toList_some]
    constructor
    · rw [own, result]
    · rw [size, result, if_neg some_asked]

theorem Negotiated.run {link last : Link} {events : List LinkEvent}
    {out : List (CentralRef × Buffer)} (negotiated : Negotiated central mtu requests link.world)
    (single : ∀ event ∈ events, event.On central)
    (ran : Machine.run (linkStep host) link events = .ok (last, out)) :
    Negotiated central mtu (requests ++ events.filterMap LinkEvent.requestedMtu) last.world := by
  induction events generalizing link requests out with
  | nil =>
    cases ran
    rwa [List.filterMap_nil, List.append_nil]
  | cons event events ih =>
    rcases run_cons_ok ran with ⟨next, first, rest, stepped, later, _⟩
    rw [List.forall_mem_cons] at single
    have onward := ih (negotiated.step single.1 stepped) single.2 later
    have split : requests ++ (event :: events).filterMap LinkEvent.requestedMtu =
        requests ++ event.requestedMtu.toList ++ events.filterMap LinkEvent.requestedMtu := by
      rw [List.filterMap_cons, List.append_assoc]
      cases event.requestedMtu <;> rfl
    rwa [split]

end Run

/-- Where the server is after these requests, and what any next event gets from it. An MTU request
    is answered with `mtuSize` set to the central's MTU, so what is written has to be within both, and
    within what `mtuSize` is in the end. -/
structure MtuHolds (host : Host) (central : CentralRef) (mtu : Nat) (requests : List Nat)
    (link : Link) : Prop where
  both : requests ≠ [] → link.world.mtuSize.toNat = agreed mtu requests ∧
    (link.world.central central).mtu.toNat = agreed mtu requests
  answered : ∀ event, event.On central → event.requestedMtu.isSome →
    ∀ next sent, linkStep host link event = .ok (next, sent) →
      sent = [(central, mtuResponse (agreed mtu requests))]
  fits : ∀ event, event.On central → ∀ next sent, linkStep host link event = .ok (next, sent) →
    ∀ entry ∈ sent, entry.2.length ≤ link.world.mtuSize.toNat ∧
      entry.2.length ≤ (link.world.central central).mtu.toNat ∧
      entry.2.length ≤ next.world.mtuSize.toNat

theorem Negotiated.holds {central : CentralRef} {mtu : Nat} {requests : List Nat} {link : Link}
    (host : Host) (negotiated : Negotiated central mtu requests link.world) :
    MtuHolds host central mtu requests link := by
  have answered : ∀ event, event.On central → event.requestedMtu.isSome →
      ∀ next sent, linkStep host link event = .ok (next, sent) →
        sent = [(central, mtuResponse (agreed mtu requests))] := by
    intro event on asks next sent stepped
    cases stepped
    rcases Option.isSome_iff_exists.mp asks with ⟨requested, asks⟩
    rcases request_after host on asks negotiated.least with ⟨_, _, sent⟩
    rw [written_of_sent sent, negotiated.own]
  apply MtuHolds.mk ?_ answered
  · intro event on next sent stepped entry member
    have within : entry.2.length ≤ link.world.mtuSize.toNat := by
      cases stepped
      exact written_within_mtuSize host negotiated.least_size event entry member
    have within_next : entry.2.length ≤ next.world.mtuSize.toNat := by
      cases asks : event.requestedMtu with
      | none =>
        cases stepped
        rwa [(linkProgram_keepsMtus host on asks link.world).mtuSize]
      | some requested =>
        have exchanged := negotiated.step on stepped
        have asked : event.requestedMtu.isSome := by
          rw [asks]
          rfl
        rw [answered event on asked next sent stepped] at member
        rw [List.mem_singleton.mp member, mtuResponse_length]
        exact le_trans (by decide) exchanged.least_size
    exact ⟨within, le_trans within negotiated.size_le, within_next⟩
  · intro asked
    have size := negotiated.size
    rw [if_neg asked] at size
    exact ⟨size, negotiated.own⟩

/-- On one connection each MTU response tells what all requests before it came to, and nothing that
    is written is longer than the MTU kept, whatever the database. -/
theorem mtu_negotiated (host : Host) (world : World) (central : CentralRef)
    (fresh : world.mtuSize = defaultMtu)
    (least : defaultMtu.toNat ≤ (world.central central).mtu.toNat) (events : List LinkEvent)
    (single : ∀ event ∈ events, event.On central) (link : Link) (out : List (CentralRef × Buffer))
    (ran : run (linkStep host) (.start world) events = .ok (link, out)) :
    MtuHolds host central (world.central central).mtu.toNat
      (events.filterMap LinkEvent.requestedMtu) link := by
  have start : Negotiated central (world.central central).mtu.toNat [] (Link.start world).world := by
    constructor
    · exact (Nat.max_eq_right least).symm
    · exact congrArg UInt16.toNat fresh
  exact (start.run single ran).holds host

def oneCentral : World := { World.initial with central := fun _ => ⟨64, false⟩ }

def threeRequests : List LinkEvent :=
  [.data 0 [opMtuRequest, 100, 0], .data 0 [opMtuRequest, 10, 0], .data 0 [opMtuRequest, 48, 0]]

theorem threeRequests_negotiated :
    ∃ link out, run (linkStep plainHost) (.start oneCentral) threeRequests = .ok (link, out) ∧
      MtuHolds plainHost 0 64 [100, 10, 48] link := by
  have single : ∀ event ∈ threeRequests, event.On 0 := by
    intro event member
    simp only [threeRequests, List.mem_cons, List.not_mem_nil, or_false] at member
    rcases member with rfl | rfl | rfl <;> rfl
  refine ⟨_, _, rfl, ?_⟩
  exact mtu_negotiated plainHost oneCentral 0 rfl (by decide) threeRequests single _ _ rfl

end Btle.Server

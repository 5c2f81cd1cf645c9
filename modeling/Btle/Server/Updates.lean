import Btle.Library.Recording
import Btle.Server.Indications

namespace Btle.Server

open Machine Throwing

/-- The indication of a value, as much of it as goes into a PDU. -/
def indicationOf (mtuSize : UInt16) (handle : Nat) (value : Buffer) : Buffer :=
  opHandleIndicate :: LittleEndian.bytes 2 handle ++ value.take (mtuSize.toNat - 3)

/-- The indication that was last written to the central for each attribute. -/
abbrev Indicated := AttrRef → Option Buffer

def IsIndicationTo (central : CentralRef) (entry : CentralRef × Buffer) : Bool :=
  entry.1 = central ∧ entry.2.head? = some opHandleIndicate

def lastIndication (central : CentralRef) (sent : List (CentralRef × Buffer)) : Option Buffer :=
  (sent.filter (IsIndicationTo central)).getLast?.map Prod.snd

/-- The attribute whose listeners an event may call. -/
def PushEvent.about : PushEvent → Option AttrRef
  | .setValue ref _ | .enableIndications ref => some ref
  | .disableIndications _ | .confirm _ => none

def Indicated.noting (indicated : Indicated) : Option AttrRef → Option Buffer → Indicated
  | some ref, some pdu => Function.update indicated ref (some pdu)
  | _, _ => indicated

/-- The server with a log of the last indications. -/
def indicatedStep (host : Host) (central : CentralRef) :
    Step (World × Indicated) PushEvent Exchange Empty :=
  recording (pushStep host central) id fun world indicated event =>
    indicated.noting event.about
      (lastIndication central (written (pushProgram host central event) world))

/-- What an attribute holds, if anything, is what was last indicated of it. -/
def Heard (world : World) (indicated : Indicated) (ref : AttrRef) : Prop :=
  ∀ value, (world.attrib ref).value = some value →
    ∃ handle, (world.attrib ref).handle = some handle ∧
      indicated ref = some (indicationOf world.mtuSize handle value)

/-- This holds of each attribute with indications enabled. -/
def UpToDate (state : World × Indicated) : Prop :=
  ∀ ref, (state.1.attrib ref).indicationListener ≠ none → Heard state.1 state.2 ref

/-- The listeners that are called before an indication to the central is tried. -/
def beforeIndication (central : CentralRef) (listeners : List Listener) : List Listener :=
  listeners.takeWhile fun listener =>
    match listener with
    | .indication _ target => target ≠ central
    | .reemit | .application _ | .notification _ _ => true

/-- An indication of the attribute goes out: none is awaited, no listener before throws, and there
    is room for it and for the handle in it. -/
structure GoesOut (host : Host) (central : CentralRef) (world : World) (ref : AttrRef)
    (before : List Listener) : Prop where
  free : world.waiting central = false
  room : 3 ≤ world.mtuSize.toNat
  handle : ∃ handle, (world.attrib ref).handle = some handle ∧ handle ≤ 0xFFFF
  quiet : ∀ listener ∈ before, QuietFor host world ref listener

/-- An event that gives a value to an attribute with indications, or enables indications of one that
    has a value, takes place while an indication goes out, unless that very value was last indicated. -/
def Timely (host : Host) (central : CentralRef) (state : World × Indicated) : PushEvent → Prop
  | .setValue ref value => (state.1.attrib ref).indicationListener ≠ none →
    ∀ bytes, value.stored state.1 = some bytes →
      Heard (state.1.assigned ref bytes) state.2 ref ∨
        GoesOut host central (state.1.assigned ref bytes) ref
          (beforeIndication central (state.1.attrib ref).listeners)
  | .enableIndications ref => (state.1.attrib ref).notificationListener = none →
    Heard state.1 state.2 ref ∨ GoesOut host central (state.1.indicating ref central) ref []
  | .disableIndications _ | .confirm _ => True

/-- The listener that an attribute has for indications is one to the central, and is called. -/
def HasListener (central : CentralRef) (world : World) : Prop :=
  ∀ ref listener, (world.attrib ref).indicationListener = some listener →
    (∃ stamp, listener = .indication stamp central) ∧ listener ∈ (world.attrib ref).listeners

/-- What listeners send as indications to the central are the value that the attribute holds. -/
structure Tells (central : CentralRef) (ref : AttrRef) (world next : World) : Prop where
  mtuSize : next.mtuSize = world.mtuSize
  attrib : next.attrib = world.attrib
  sent : ∃ pushed, next.sent = world.sent ++ pushed ∧
    ∀ entry ∈ pushed, IsIndicationTo central entry = true →
      ∃ handle value, (world.attrib ref).handle = some handle ∧
        (world.attrib ref).value = some value ∧ entry.2 = indicationOf world.mtuSize handle value

instance (central : CentralRef) (ref : AttrRef) : Std.Refl (Tells central ref) :=
  ⟨fun _ => ⟨rfl, rfl, [], by simp, by simp⟩⟩

instance (central : CentralRef) (ref : AttrRef) : IsTrans World (Tells central ref) where
  trans first second third one two := by
    rcases one.sent with ⟨pushed, sent, each⟩
    rcases two.sent with ⟨more, more_sent, more_each⟩
    refine ⟨two.mtuSize.trans one.mtuSize, two.attrib.trans one.attrib, pushed ++ more, ?_, ?_⟩
    · rw [more_sent, sent, List.append_assoc]
    · rw [one.mtuSize, one.attrib] at more_each
      intro entry member
      rcases List.mem_append.mp member with here | here
      · exact each entry here
      · exact more_each entry here

/-- Among what is sent there is an indication to the central. -/
def Indicates (central : CentralRef) (world next : World) : Prop :=
  ∃ pushed, next.sent = world.sent ++ pushed ∧ ∃ entry ∈ pushed, IsIndicationTo central entry = true

section Telling

variable {host : Host} {central : CentralRef} {ref : AttrRef} {world : World}

theorem Indicates.later {middle next : World} (indicates : Indicates central world middle)
    (pushes : Pushes middle next) : Indicates central world next := by
  rcases indicates with ⟨pushed, sent, entry, member, indication⟩
  rcases pushes.sent with ⟨more, more_sent, _⟩
  refine ⟨pushed ++ more, ?_, entry, List.mem_append_left _ member, indication⟩
  rw [more_sent, sent, List.append_assoc]

theorem Indicates.earlier {middle next : World} (pushes : Pushes world middle)
    (indicates : Indicates central middle next) : Indicates central world next := by
  rcases indicates with ⟨pushed, sent, entry, member, indication⟩
  rcases pushes.sent with ⟨first, first_sent, _⟩
  refine ⟨first ++ pushed, ?_, entry, List.mem_append_right _ member, indication⟩
  rw [sent, first_sent, List.append_assoc]

theorem pushOf_value {number handle : Nat} {value : Buffer} (opcode : UInt8)
    (free : host.freeValue (world.attrib ref) = some value) :
    pushOf host opcode number handle (pushLength host world ref) value =
      opcode :: LittleEndian.bytes 2 handle ++ value.take (world.mtuSize.toNat - 3) := by
  have size : pushLength host world ref = min (value.length + 3) world.mtuSize.toNat := by
    rw [pushLength, free, Option.getD_some]
  have spent : (host.newBuffer number (pushLength host world ref)).drop (3 + value.length) = [] := by
    apply List.drop_eq_nil_of_le
    rw [newBuffer_length, size]
    omega
  have taken : value.take (pushLength host world ref - 3) =
      value.take (world.mtuSize.toNat - 3) := by
    rw [size, List.take_eq_take_iff]
    omega
  rw [pushOf, spent, List.append_nil, taken]

theorem notify_tells (host : Host) (ref : AttrRef) (target : CentralRef) :
    Keeps (Tells central ref) (notify host ref target) := by
  intro world
  rcases sendValue_after host opHandleNotify ref target world with ⟨pushed, left, each⟩
  rw [notify, left]
  refine ⟨rfl, rfl, pushed, rfl, ?_⟩
  intro entry member indication
  have head := (each entry member).2.1
  simp [IsIndicationTo, head, opHandleNotify, opHandleIndicate] at indication

theorem indicate_tells (named : ∀ attrib, host.freeValue attrib = attrib.value) (ref : AttrRef)
    (target : CentralRef) :
    Keeps (Tells central ref) (indicate host ref target) := by
  intro world
  cases waiting : (world.central target).waitingForConfirmation with
  | true =>
    rw [after_ok (indicate_run_waiting waiting)]
    exact Std.Refl.refl world
  | false =>
    have start := indicate_run host ref waiting
    have sent : Tells central ref world (after (sendValue host opHandleIndicate ref target) world) := by
      by_cases prepared : Prepared host world ref
      · rcases prepared with ⟨room, bound, present, handle, held, small⟩
        rcases Option.ne_none_iff_exists'.mp present with ⟨value, present⟩
        have content := sendValue_run opHandleIndicate target room bound present held small
        rw [after_congr content, write_after]
        refine ⟨rfl, rfl, _, rfl, ?_⟩
        intro entry member _
        rw [List.mem_singleton.mp member]
        exact ⟨handle, value, held, present,
          pushOf_value opHandleIndicate ((named _).trans present)⟩
      · rcases sendValue_unprepared opHandleIndicate target prepared with ⟨thrown, ran⟩
        rw [after_error ran]
        exact Std.Refl.refl world
    rw [after_congr start]
    apply IsTrans.trans _ _ _ sent
    refine Keeps.after_bind (fun _ => Keeps.modify fun now => ?_) _ world
    exact ⟨rfl, rfl, [], by simp [World.setCentral], by simp⟩

theorem emission_tells (named : ∀ attrib, host.freeValue attrib = attrib.value) (ref : AttrRef)
    (depth : Nat) : Keeps (Tells central ref) (emitValueChanged host ref depth) :=
  emitValueChanged_keeps_of (notify_tells host ref) (indicate_tells named ref) depth

/-- An indication that is tried when it can go out does. -/
theorem indicate_indicates (free : world.waiting central = false) (prepared : Prepared host world ref) :
    Indicates central world (after (indicate host ref central) world) := by
  have start := indicate_run host ref free
  rcases sendValue_prepared opHandleIndicate central prepared with ⟨pdu, same, _, head⟩
  have sent : Indicates central world (after (sendValue host opHandleIndicate ref central) world) := by
    rw [after_congr same, write_after]
    exact ⟨_, rfl, (central, pdu), List.mem_singleton_self _, by simp [IsIndicationTo, head]⟩
  rw [after_congr start]
  apply sent.later
  exact Keeps.after_bind (fun _ => await_keeps central) _ world

theorem prepared_after {next : World} (pushes : Pushes world next) :
    Prepared host next ref ↔ Prepared host world ref := by
  unfold Prepared
  rw [pushes.mtuSize, pushes.attrib]

/-- A listener that returns and is not for the central leaves the flag of that alone. -/
theorem callListener_waiting {again : Js Unit} {listener : Listener}
    (quiet : QuietFor host world ref listener) (other : ∀ stamp, listener ≠ .indication stamp central) :
    (after (callListener host ref again listener) world).waiting central = world.waiting central := by
  cases listener with
  | reemit => exact absurd quiet not_false
  | application number => rw [callListener, callApplication_after]
  | notification stamp target =>
    rw [World.waiting, callListener, notify_waiting]
    rfl
  | indication stamp target =>
    have different : central ≠ target := by
      intro same
      subst same
      exact other stamp rfl
    rw [World.waiting, callListener, indicate_waiting quiet, if_neg different]
    rfl

/-- After listeners that return, the one for the indication sends it. -/
theorem listeners_indicate {again : Js Unit} (keeps : Keeps Pushes again) {before rest : List Listener}
    (stamp : Nat) (quiet : ∀ listener ∈ before, QuietFor host world ref listener)
    (others : ∀ listener ∈ before, ∀ stamp, listener ≠ .indication stamp central)
    (free : world.waiting central = false) (prepared : Prepared host world ref) :
    Indicates central world
      (after ((before ++ .indication stamp central :: rest).forM (callListener host ref again))
        world) := by
  induction before generalizing world with
  | nil =>
    have onward : Keeps Pushes (rest.forM (callListener host ref again)) :=
      Keeps.forM fun listener _ => callListener_keeps host ref keeps listener
    have sent := indicate_indicates free prepared
    exact sent.later (Keeps.after_bind (fun _ => onward) (indicate host ref central) world)
  | cons listener before ih =>
    rw [List.forall_mem_cons] at quiet others
    have single : listener ≠ .reemit := by
      intro same
      subst same
      exact quiet.1
    have returned : Returns (callListener host ref again listener) world :=
      (callListener_returns host ref listener fun same => absurd same single).mpr quiet.1
    rcases returns_iff.mp returned with ⟨done, next, ran⟩
    have pushes := callListener_keeps host ref keeps listener world
    have waiting : (after (callListener host ref again listener) world).waiting central =
        world.waiting central := callListener_waiting quiet.1 others.1
    rw [after_ok ran] at pushes waiting
    have onward : ∀ other ∈ before, QuietFor host next ref other := by
      intro other member
      have same := quietFor_after again quiet.1 other
      rw [after_ok ran] at same
      exact same.mpr (quiet.2 other member)
    have later := ih onward others.2 (waiting.trans free) ((prepared_after pushes).mpr prepared)
    have whole : after ((listener :: before ++ .indication stamp central :: rest).forM
        (callListener host ref again)) world =
          after ((before ++ .indication stamp central :: rest).forM
            (callListener host ref again)) next := by
      show after (callListener host ref again listener >>= fun _ => _) world = _
      rw [after, EStateM.run_bind, ran]
      rfl
    rw [whole]
    exact Indicates.earlier pushes later

theorem beforeIndication_split {listeners : List Listener} {stamp : Nat}
    (there : .indication stamp central ∈ listeners) :
    (∃ first rest, listeners =
        beforeIndication central listeners ++ .indication first central :: rest) ∧
      ∀ listener ∈ beforeIndication central listeners,
        ∀ stamp, listener ≠ .indication stamp central := by
  induction listeners with
  | nil => cases there
  | cons listener listeners ih =>
    by_cases own : ∃ first, listener = .indication first central
    · rcases own with ⟨first, rfl⟩
      have nothing : beforeIndication central (.indication first central :: listeners) = [] := by
        simp [beforeIndication]
      rw [nothing]
      exact ⟨⟨first, listeners, rfl⟩, by simp⟩
    · have other : ∀ stamp, listener ≠ .indication stamp central :=
        fun first same => own ⟨first, same⟩
      have onward : beforeIndication central (listener :: listeners) =
          listener :: beforeIndication central listeners := by
        cases listener with
        | reemit | application | notification => rfl
        | indication first target =>
          have different : target ≠ central := by
            intro same
            subst same
            exact other first rfl
          simp [beforeIndication, different]
      rcases List.mem_cons.mp there with same | inside
      · exact absurd same.symm (other stamp)
      · rcases ih inside with ⟨⟨first, rest, whole⟩, none_own⟩
        rw [onward]
        refine ⟨⟨first, rest, congrArg (listener :: ·) whole⟩, ?_⟩
        rw [List.forall_mem_cons]
        exact ⟨other, none_own⟩

theorem emission_indicates (named : ∀ attrib, host.freeValue attrib = attrib.value) {stamp : Nat}
    (there : .indication stamp central ∈ (world.attrib ref).listeners)
    (valued : (world.attrib ref).value ≠ none)
    (goes_out : GoesOut host central world ref
      (beforeIndication central (world.attrib ref).listeners)) (depth : Nat) :
    Indicates central world (after (emitValueChanged host ref depth) world) := by
  rcases beforeIndication_split there with ⟨⟨first, rest, whole⟩, others⟩
  have prepared : Prepared host world ref :=
    ⟨goes_out.room, by rwa [named], valued, goes_out.handle⟩
  have sends : ∀ {again : Js Unit}, Keeps Pushes again →
      Indicates central world (after (callListeners host ref again) world) := by
    intro again keeps
    have sent : Indicates central world (after
        ((beforeIndication central (world.attrib ref).listeners ++
          .indication first central :: rest).forM (callListener host ref again)) world) :=
      listeners_indicate keeps first goes_out.quiet others goes_out.free prepared
    rw [← whole] at sent
    exact sent
  cases depth with
  | zero => exact sends (Keeps.throw _)
  | succ depth => exact sends (emitValueChanged_keeps host ref depth)

theorem lastIndication_some {sent : List (CentralRef × Buffer)} {pdu : Buffer}
    (last : lastIndication central sent = some pdu) :
    ∃ entry ∈ sent, IsIndicationTo central entry = true ∧ entry.2 = pdu := by
  rcases Option.map_eq_some_iff.mp last with ⟨entry, found, same⟩
  rcases List.mem_filter.mp (List.mem_of_getLast? found) with ⟨member, indication⟩
  exact ⟨entry, member, indication, same⟩

theorem lastIndication_none {sent : List (CentralRef × Buffer)}
    (none_last : lastIndication central sent = none) :
    ∀ entry ∈ sent, IsIndicationTo central entry = false := by
  intro entry member
  have empty : sent.filter (IsIndicationTo central) = [] := by
    simpa [lastIndication] using none_last
  simpa using List.filter_eq_nil_iff.mp empty entry member

/-- An attribute is heard of after its listeners were called, if it was before or an indication is
    among what they sent. -/
theorem Tells.heard {next : World} {indicated : Indicated} {pushed : List (CentralRef × Buffer)}
    (tells : Tells central ref world next) (sent : next.sent = world.sent ++ pushed)
    (timely : Heard world indicated ref ∨
      ((world.attrib ref).value ≠ none → Indicates central world next)) :
    Heard next (indicated.noting (some ref) (lastIndication central pushed)) ref := by
  intro value valued
  rw [tells.attrib] at valued ⊢
  rw [tells.mtuSize]
  rcases tells.sent with ⟨same_pushed, same_sent, each⟩
  have same : same_pushed = pushed := List.append_cancel_left (same_sent.symm.trans sent)
  subst same
  cases last : lastIndication central same_pushed with
  | some pdu =>
    rcases lastIndication_some last with ⟨entry, member, indication, rfl⟩
    rcases each entry member indication with ⟨handle, held, number, present, content⟩
    rw [valued] at present
    cases present
    refine ⟨handle, number, ?_⟩
    rw [content]
    exact Function.update_self ref _ indicated
  | none =>
    rcases timely with heard | indicates
    · exact heard value valued
    · rcases indicates (by simp [valued]) with ⟨other, other_sent, entry, member, indication⟩
      have same : other = same_pushed := List.append_cancel_left (other_sent.symm.trans sent)
      subst same
      rw [lastIndication_none last entry member] at indication
      cases indication

end Telling

section Steps

variable {host : Host} {central : CentralRef} {world next : World} {indicated : Indicated}

structure Tracked (central : CentralRef) (state : World × Indicated) : Prop where
  listening : HasListener central state.1
  upToDate : UpToDate state

/-- What changes one attribute and neither the size of PDUs nor the log of the others keeps those. -/
theorem Tracked.changed {ref : AttrRef} {later : Indicated} (tracked : Tracked central (world, indicated))
    (mtuSize : next.mtuSize = world.mtuSize)
    (others : ∀ other, other ≠ ref → next.attrib other = world.attrib other)
    (log : ∀ other, other ≠ ref → later other = indicated other)
    (listening : ∀ listener, (next.attrib ref).indicationListener = some listener →
      (∃ stamp, listener = .indication stamp central) ∧ listener ∈ (next.attrib ref).listeners)
    (heard : (next.attrib ref).indicationListener ≠ none → Heard next later ref) :
    Tracked central (next, later) := by
  constructor
  · intro other listener enabled
    by_cases same : other = ref
    · subst same
      exact listening listener enabled
    · have kept : next.attrib other = world.attrib other := others other same
      show _ ∧ listener ∈ (next.attrib other).listeners
      rw [kept]
      exact tracked.listening other listener (by rwa [← kept])
  · intro other enabled
    by_cases same : other = ref
    · subst same
      exact heard enabled
    · have kept : next.attrib other = world.attrib other := others other same
      have before : (world.attrib other).indicationListener ≠ none := by rwa [← kept]
      have known := tracked.upToDate other before
      unfold Heard at known ⊢
      simp only [kept, mtuSize, log other same]
      exact known

theorem noting_other {ref other : AttrRef} (different : other ≠ ref) (pdu : Option Buffer) :
    indicated.noting (some ref) pdu other = indicated other := by
  cases pdu with
  | none => rfl
  | some bytes => exact Function.update_of_ne different _ _

theorem noting_none (about : Option AttrRef) : indicated.noting about none = indicated := by
  cases about <;> rfl

theorem written_silent {program : Js Unit} (silent : after program world = world) :
    lastIndication central (written program world) = none := by
  rw [written, silent, List.drop_length]
  rfl

theorem setValue_ignored {ref : AttrRef} {value : JsValue} (ignored : value.stored world = none) :
    after (setValue host ref value) world = world := by
  cases value with
  | null | other => rfl
  | uuid | buffer | string | number | array => cases ignored

theorem setValue_tracked (named : ∀ attrib, host.freeValue attrib = attrib.value) {ref : AttrRef}
    {value : JsValue} (tracked : Tracked central (world, indicated))
    (timely : Timely host central (world, indicated) (.setValue ref value)) :
    Tracked central (after (setValue host ref value) world,
      indicated.noting (some ref)
        (lastIndication central (written (setValue host ref value) world))) := by
  cases stored : value.stored world with
  | none =>
    have silent : after (setValue host ref value) world = world := setValue_ignored stored
    rw [written_silent silent, noting_none, silent]
    exact tracked
  | some bytes =>
    have ran := after_congr (setValue_stored_run host ref stored)
    have tells : Tells central ref (world.assigned ref bytes)
        (after (emitValueChanged host ref host.stack) (world.assigned ref bytes)) :=
      emission_tells named ref host.stack _
    rcases tells.sent with ⟨pushed, sent, _⟩
    have wrote : written (setValue host ref value) world = pushed := by
      apply written_of_sent
      rw [ran]
      exact sent
    rw [wrote, ran]
    have kept := tells.attrib
    have self : (after (emitValueChanged host ref host.stack) (world.assigned ref bytes)).attrib ref =
        { world.attrib ref with value := bytes } := by
      rw [kept]
      exact assigned_self world ref bytes
    apply tracked.changed tells.mtuSize
    · intro other different
      rw [kept]
      exact assigned_other different bytes
    · intro other different
      exact noting_other different _
    · intro listener enabled
      rw [self] at enabled ⊢
      exact tracked.listening ref listener enabled
    · intro enabled
      rw [self] at enabled
      apply tells.heard sent
      rcases timely enabled bytes stored with heard | goes_out
      · exact .inl heard
      · right
        intro valued
        rcases Option.ne_none_iff_exists'.mp enabled with ⟨listener, enabled⟩
        rcases tracked.listening ref listener enabled with ⟨⟨stamp, rfl⟩, there⟩
        rw [← assigned_listeners world ref bytes] at there goes_out
        exact emission_indicates named there valued goes_out host.stack

theorem indicating_self (world : World) (ref : AttrRef) (central : CentralRef) :
    (world.indicating ref central).attrib ref = { world.attrib ref with
      indicationListener := some (.indication (stampOf (world.attrib ref)) central)
      listeners := (world.attrib ref).listeners ++
        [.indication (stampOf (world.attrib ref)) central] } :=
  Function.update_self ref _ _

theorem enableIndications_tracked (named : ∀ attrib, host.freeValue attrib = attrib.value)
    {ref : AttrRef} (tracked : Tracked central (world, indicated))
    (timely : Timely host central (world, indicated) (.enableIndications ref)) :
    Tracked central (after (enableIndications host ref central) world,
      indicated.noting (some ref)
        (lastIndication central (written (enableIndications host ref central) world))) := by
  rcases enableIndications_cases host world ref central with ⟨_, thrown, ran⟩ | ⟨none_other, ran⟩
  · have silent := after_error ran
    rw [written_silent silent, noting_none, silent]
    exact tracked
  · have tells : Tells central ref (world.indicating ref central)
        (after (indicate host ref central) (world.indicating ref central)) :=
      indicate_tells named ref central _
    rcases tells.sent with ⟨pushed, sent, _⟩
    have wrote : written (enableIndications host ref central) world = pushed := by
      apply written_of_sent
      rw [after_congr ran]
      exact sent
    have self := indicating_self world ref central
    rw [wrote, after_congr ran]
    apply tracked.changed tells.mtuSize
    · intro other different
      rw [tells.attrib]
      exact Function.update_of_ne different _ _
    · intro other different
      exact noting_other different _
    · intro listener enabled
      rw [tells.attrib, self] at enabled ⊢
      cases enabled
      exact ⟨⟨_, rfl⟩, List.mem_append_right _ List.mem_cons_self⟩
    · intro _
      apply tells.heard sent
      rcases timely none_other with heard | goes_out
      · left
        intro value valued
        rw [self] at valued ⊢
        exact heard value valued
      · right
        intro valued
        have prepared : Prepared host (world.indicating ref central) ref :=
          ⟨goes_out.room, by rwa [named], valued, goes_out.handle⟩
        exact indicate_indicates goes_out.free prepared

theorem disableIndications_tracked {ref : AttrRef} (tracked : Tracked central (world, indicated)) :
    Tracked central (after (disableIndications ref) world, indicated) := by
  rcases disableIndications_cases world ref with silent | ⟨listeners, left⟩
  · rw [silent]
    exact tracked
  · rw [left]
    have self : (world.setAttribute ref { world.attrib ref with
        indicationListener := none, listeners }).attrib ref =
          { world.attrib ref with indicationListener := none, listeners } :=
      Function.update_self ref _ _
    have kept : (world.setAttribute ref { world.attrib ref with
        indicationListener := none, listeners }).mtuSize = world.mtuSize := rfl
    apply tracked.changed kept
    · intro other different
      exact Function.update_of_ne different _ _
    · intro other _
      rfl
    · intro other enabled
      rw [self] at enabled
      cases enabled
    · intro enabled
      rw [self] at enabled
      exact absurd rfl enabled

theorem indicatedStep_tracked (named : ∀ attrib, host.freeValue attrib = attrib.value)
    (state : World × Indicated) (event : PushEvent) (last : World × Indicated)
    (out : List Exchange) (tracked : Tracked central state) (timely : Timely host central state event)
    (stepped : indicatedStep host central state event = .ok (last, out)) : Tracked central last := by
  rcases state with ⟨world, indicated⟩
  rcases last with ⟨next, later⟩
  rcases recording_ok stepped with ⟨pushed, rfl⟩
  cases pushed
  cases event with
  | setValue ref value => exact setValue_tracked named tracked timely
  | enableIndications ref => exact enableIndications_tracked named tracked timely
  | disableIndications ref => exact disableIndications_tracked tracked
  | confirm data => exact ⟨tracked.listening, tracked.upToDate⟩

end Steps

/-- As long as values are given while an indication can go out, whatever is waited for, each attribute
    with indications enabled has its value indicated last. -/
theorem updates_indicated (host : Host) (named : ∀ attrib, host.freeValue attrib = attrib.value)
    (central : CentralRef) (world : World) (indicated : Indicated)
    (disabled : ∀ ref, (world.attrib ref).indicationListener = none) (events : List PushEvent)
    (timely : ∀ taken ∈ visited (indicatedStep host central) (world, indicated) events,
      Timely host central taken.1 taken.2) :
    Stays (indicatedStep host central) (world, indicated) events fun state =>
      state.1.waiting central = false → UpToDate state := by
  have start : Tracked central (world, indicated) := by
    constructor
    · intro ref listener enabled
      rw [show _ = _ from disabled ref] at enabled
      cases enabled
    · intro ref enabled
      exact absurd (disabled ref) enabled
  intro earlier inside last out ran _
  exact (stays_of_valid (indicatedStep_tracked named) start timely earlier inside last out ran).upToDate

theorem thermometer_disabled (ref : AttrRef) : (thermometer.attrib ref).indicationListener = none := by
  cases ref with
  | zero => rfl
  | succ other => rfl

def nothingIndicated : Indicated := fun _ => none

def confirmedWarming : List PushEvent :=
  [.enableIndications 0, .confirm [], .setValue 0 (.buffer [21])]

theorem confirmedWarming_timely :
    ∀ taken ∈ visited (indicatedStep valueHost 0) (thermometer, nothingIndicated) confirmedWarming,
      Timely valueHost 0 taken.1 taken.2 := by
  intro taken member
  rcases List.mem_cons.mp member with rfl | member
  · intro _
    exact .inr ⟨by decide +kernel, by decide +kernel, ⟨1, by decide +kernel, by decide⟩, by simp⟩
  · rcases List.mem_cons.mp member with rfl | member
    · trivial
    · rcases List.mem_cons.mp member with rfl | member
      · intro _ bytes stored
        cases stored
        have early : beforeIndication 0 [Listener.indication 0 0] = [] := rfl
        refine .inr ⟨by decide +kernel, by decide +kernel, ⟨1, by decide +kernel, by decide⟩, ?_⟩
        intro listener before
        have nothing : listener ∈ beforeIndication 0 [Listener.indication 0 0] := before
        rw [early] at nothing
        cases nothing
      · cases member

theorem confirmedWarming_indicated :
    (∀ ref, (thermometer.attrib ref).indicationListener = none) ∧
      Stays (indicatedStep valueHost 0) (thermometer, nothingIndicated) confirmedWarming fun state =>
        state.1.waiting 0 = false → UpToDate state :=
  ⟨thermometer_disabled, updates_indicated valueHost (fun _ => rfl) 0 thermometer nothingIndicated
    thermometer_disabled confirmedWarming confirmedWarming_timely⟩

def earlyWarming : List PushEvent :=
  [.enableIndications 0, .setValue 0 (.buffer [21]), .confirm []]

def sensed (state : World × Indicated) : Bool × Option Listener × Option Buffer × Option Buffer :=
  (state.1.waiting 0, (state.1.attrib 0).indicationListener, (state.1.attrib 0).value, state.2 0)

theorem earlyWarming_sensed :
    (run (indicatedStep valueHost 0) (thermometer, nothingIndicated) earlyWarming).toOption.map
        (fun result => sensed result.1) =
      some (false, some (.indication 0 0), some [21], some [opHandleIndicate, 1, 0, 20]) := by
  decide +kernel

/-- A value that is set before the last indication is confirmed is not indicated afterwards. -/
theorem earlyWarming_lost :
    ¬ Stays (indicatedStep valueHost 0) (thermometer, nothingIndicated) earlyWarming fun state =>
      state.1.waiting 0 = false → UpToDate state := by
  intro stays
  have sensed_last := earlyWarming_sensed
  cases ran : run (indicatedStep valueHost 0) (thermometer, nothingIndicated) earlyWarming with
  | error fault => cases fault
  | ok result =>
    rcases result with ⟨last, out⟩
    rw [ran] at sensed_last
    have same := Option.some.inj sensed_last
    have free : last.1.waiting 0 = false := congrArg (fun seen => seen.1) same
    have enabled : (last.1.attrib 0).indicationListener = some (.indication 0 0) :=
      congrArg (fun seen => seen.2.1) same
    have value : (last.1.attrib 0).value = some [21] := congrArg (fun seen => seen.2.2.1) same
    have indicated : last.2 0 = some [opHandleIndicate, 1, 0, 20] :=
      congrArg (fun seen => seen.2.2.2) same
    have current := stays earlyWarming (List.prefix_refl _) last out ran free 0 (by simp [enabled])
    rcases current [21] value with ⟨handle, _, last_sent⟩
    rw [indicated] at last_sent
    have payload : ([20] : Buffer) = List.take (last.1.mtuSize.toNat - 3) [21] :=
      congrArg (List.drop 3) (Option.some.inj last_sent)
    cases room : last.1.mtuSize.toNat - 3 with
    | zero =>
      rw [room] at payload
      cases payload
    | succ size =>
      rw [room] at payload
      simp at payload

end Btle.Server

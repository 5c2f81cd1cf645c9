import Btle.Native.Sockets

namespace Btle.Native.Btio

open Calling

section Setting

variable {secures : Bool} {sock : Fd}

theorem after_yields {good : Bool → Prop} {failing : Sys (Except Errno Unit)} {next : Sys Bool}
    (refused : good false) (yields : Yields good next) : Yields good (after failing next) := by
  apply (yields_of_all (fun _ => trivial) failing : Yields (fun _ => True) failing).bind
  rintro (errno | _) _
  · exact refused
  · exact yields

/-- A level is in the table of link modes wherever one was set. -/
def InTable (opts : SetOpts) (done : Bool) : Prop :=
  done = true → opts.secLevel.val ≠ 0 →
    btSecurityLow ≤ opts.secLevel.val ∧ opts.secLevel.val ≤ btSecurityHigh

theorem secLevel_yields (mode : LinkMode) (opts : SetOpts) : Yields (InTable opts)
    (if opts.secLevel.val ≠ 0 then setSecLevel mode sock opts.secLevel.val else pure true) := by
  split
  · unfold setSecLevel
    split
    · exact nofun
    · rename_i inside
      exact yields_of_all (fun _ _ _ => ⟨Int.not_lt.mp fun below => inside (.inl below),
        Int.not_lt.mp fun above => inside (.inr above)⟩) _
  · exact fun _ asked => absurd asked ‹_›

/-- The kernel tells what socket it is, or fails. -/
theorem btIoGetType_tells (state : Sockets) :
    Ensures (sockets secures) (btIoGetType sock) state fun type after =>
      after = state ∧ (type = .invalid ∨ BtIOType.transport? type = some (state sock).transport) := by
  apply getsockopt_bind
  rintro (errno | domain) shown
  · exact ⟨rfl, .inl rfl⟩
  · dsimp only
    split
    · exact ⟨rfl, .inl rfl⟩
    · apply getsockopt_bind
      rintro (errno | proto) number
      · exact ⟨rfl, .inl rfl⟩
      · have number : proto.val = (state sock).transport.proto := number
        dsimp only
        rw [number]
        cases (state sock).transport <;> exact ⟨rfl, .inr rfl⟩

/-- Whichever way it ends, nothing is changed that was not asked for, and where it succeeds everything
    is. -/
theorem btIoSet_applies (opts : SetOpts) (state : Sockets) :
    Ensures (sockets secures) (btIoSet sock opts) state fun done after =>
      Frames (Asks opts (state sock).transport) (state sock) (after sock) ∧
      (∀ other ≠ sock, after other = state other) ∧
      (done = true → after sock = applied secures opts (state sock) (state sock).transport) := by
  refine (btIoGetType_tells state).bind ?_
  rintro type mid ⟨rfl, told⟩
  have applies {transport : Transport} {set : Sys Bool} (kind : some transport = some (mid sock).transport)
      (only : Only (Syscall.Within sock (Asks opts transport)) set)
      (turns : Turns secures sock set (· = true) fun socket => applied secures opts socket transport) :
      Ensures (sockets secures) set mid fun done after =>
        Frames (Asks opts (mid sock).transport) (mid sock) (after sock) ∧
        (∀ other ≠ sock, after other = mid other) ∧
        (done = true → after sock = applied secures opts (mid sock) (mid sock).transport) := by
    cases kind
    refine ((within_frames only mid).and (turns mid)).mono ?_
    rintro done after ⟨⟨frames, elsewhere⟩, becomes⟩
    exact ⟨frames, elsewhere, becomes⟩
  rcases told with rfl | kind
  · exact ⟨.refl _ _, fun _ _ => rfl, nofun⟩
  · cases type with
    | l2cap => exact applies kind (l2capSet_only opts) (turns_l2capSet opts)
    | rfcomm => exact applies kind (rfcommSet_only opts) (turns_rfcommSet opts)
    | sco => exact applies kind (scoSet_only opts) (turns_scoSet opts)
    | invalid => cases kind

theorem l2capSet_yields (opts : SetOpts) : Yields (InTable opts) (l2capSet sock opts) :=
  after_yields nofun (after_yields nofun (after_yields nofun (after_yields nofun
    (secLevel_yields .l2cap opts))))

theorem rfcommSet_yields (opts : SetOpts) : Yields (InTable opts) (rfcommSet sock opts) := by
  apply (secLevel_yields .rfcomm opts).bind
  intro levels inside
  cases levels with
  | false => exact nofun
  | true => exact after_yields nofun fun _ => inside rfl

theorem btIoSet_inTable (opts : SetOpts) (state : Sockets) :
    Ensures (sockets secures) (btIoSet sock opts) state fun done _ =>
      (state sock).transport ≠ .sco → InTable opts done := by
  refine (btIoGetType_tells state).bind ?_
  rintro type mid ⟨rfl, told⟩
  cases type with
  | l2cap => exact ((l2capSet_yields opts).ensures (sockets_free _ mid)).mono fun _ _ both _ => both.1
  | rfcomm => exact ((rfcommSet_yields opts).ensures (sockets_free _ mid)).mono fun _ _ both _ => both.1
  | sco =>
    refine (sockets_free _ mid).mono fun _ _ _ secured => ?_
    rcases told with none | kind
    · cases none
    · exact absurd (Option.some.inj kind).symm secured
  | invalid => exact fun _ => nofun

end Setting

section Getting

variable {secures : Bool} {sock : Fd} {state : Sockets}

/-- What `bt_io_get` is to store for an option; an address is not the concern of a socket's options. -/
def Reports (socket : SocketState) : Transport → BtIOOption → OptionResult → Prop
  | .l2cap, .imtu, shown => shown = .number socket.l2cap.imtu.val
  | .l2cap, .omtu, shown => shown = .number socket.l2cap.omtu.val
  | .l2cap, .mode, shown => shown = .number socket.l2cap.mode.val
  | .l2cap, .flushable, shown => shown = .flag (socket.flushable.val ≠ 0)
  | .l2cap, .priority, shown => shown = .number socket.priority.val
  | .l2cap, .master, shown => shown = .flag (socket.master .l2cap)
  | .rfcomm, .master, shown => shown = .flag (socket.master .rfcomm)
  | .l2cap, .secLevel, shown | .rfcomm, .secLevel, shown => shown = .number socket.level.val
  | .sco, .mtu, shown | .sco, .imtu, shown | .sco, .omtu, shown => shown = .number socket.scoMtu.val
  | _, _, _ => True

/-- Code that reads a socket and stores what is to be stored. -/
def Tells (secures : Bool) (state : Sockets) (one : Sys (Option OptionResult))
    (right : OptionResult → Prop) : Prop :=
  Ensures (sockets secures) one state fun result after =>
    after = state ∧ ∀ shown, result = some shown → right shown

theorem getNumber_tells {option : SockOpt} {number : option.Value → OptionResult}
    {right : OptionResult → Prop}
    (each : ∀ value, (state sock).Shows secures option (.ok value) → right (number value)) :
    Tells secures state (getNumber sock option number) right := by
  apply getsockopt_bind
  rintro (errno | value) shown
  · exact ⟨rfl, nofun⟩
  · refine ⟨rfl, ?_⟩
    rintro _ ⟨⟩
    exact each value shown

theorem getMaster_tells (mode : LinkMode) :
    Tells secures state (getMaster mode sock) (· = .flag ((state sock).master mode)) := by
  refine getNumber_tells fun flags shown => congrArg OptionResult.flag ?_
  rw [Bool.eq_iff_iff, decide_eq_true_iff]
  exact shown.1

theorem getLm_tells (mode : LinkMode) :
    Ensures (sockets secures) (getLm mode sock) state fun result after =>
      after = state ∧ ∀ level, result = .ok level → level = ((state sock).level.val : Int) := by
  apply getsockopt_bind
  rintro (errno | flags) shown
  · exact ⟨rfl, nofun⟩
  · refine ⟨rfl, ?_⟩
    rintro _ ⟨⟩
    exact shown.2

/-- The level is the same with and without `BT_SECURITY`. -/
theorem getLevel_tells (mode : LinkMode) :
    Tells secures state (getLevel mode sock) (· = .number ((state sock).level.val : Int)) := by
  have level : Ensures (sockets secures) (getSecLevel mode sock) state fun found after =>
      after = state ∧ ∀ level, found = some level → level = ((state sock).level.val : Int) := by
    apply getsockopt_bind
    rintro (errno | sec) shown
    · cases errno with
      | noProtoOpt =>
        refine (getLm_tells mode).bind ?_
        rintro (errno | level) _ ⟨rfl, right⟩
        · exact ⟨rfl, nofun⟩
        · refine ⟨rfl, ?_⟩
          rintro _ ⟨⟩
          exact right level rfl
      | again | inProgress | other => exact ⟨rfl, nofun⟩
    · refine ⟨rfl, ?_⟩
      rintro _ ⟨⟩
      exact shown.2
  refine level.bind ?_
  rintro (_ | found) _ ⟨rfl, right⟩
  · exact ⟨rfl, nofun⟩
  · refine ⟨rfl, ?_⟩
    rintro _ ⟨⟩
    exact congrArg OptionResult.number (right found rfl)

theorem tells_pure {result : Option OptionResult} {right : OptionResult → Prop}
    (each : ∀ shown, result = some shown → right shown) : Tells secures state (pure result) right :=
  ⟨rfl, each⟩

theorem tells_anything {one : Sys (Option OptionResult)}
    (only : Only (Syscall.Within sock fun _ => False) one) : Tells secures state one fun _ => True :=
  (unset_keeps only state).mono fun _ _ same => ⟨same, fun _ _ => trivial⟩

theorem l2capGetOption_tells (src dst : SockaddrL2) (option : BtIOOption) :
    Tells secures state (l2capGetOption sock (state sock).l2cap src dst option)
      (Reports (state sock) .l2cap option) := by
  cases option with
  | imtu | omtu | mode =>
    refine tells_pure ?_
    rintro _ ⟨⟩
    rfl
  | secLevel => exact getLevel_tells .l2cap
  | master => exact getMaster_tells .l2cap
  | flushable => exact getNumber_tells fun value shown => by rw [shown]; rfl
  | priority => exact getNumber_tells fun value shown => by rw [shown]; rfl
  | keySize => exact tells_anything (l2capGetOption_only _ src dst .keySize)
  | deferTimeout | handle | devClass => exact tells_anything (getNumber_only _ _)
  | source | sourceBdaddr | sourceType | dest | destBdaddr | destType | channel | sourceChannel
  | destChannel | psm | cid | mtu => exact tells_pure fun _ _ => trivial

theorem rfcommGetOption_tells (src dst : SockaddrRc) (option : BtIOOption) :
    Tells secures state (rfcommGetOption sock src dst option) (Reports (state sock) .rfcomm option) := by
  cases option with
  | secLevel => exact getLevel_tells .rfcomm
  | master => exact getMaster_tells .rfcomm
  | deferTimeout | handle | devClass => exact tells_anything (getNumber_only _ _)
  | source | sourceBdaddr | sourceType | dest | destBdaddr | destType | channel | sourceChannel
  | destChannel | psm | cid | mtu | omtu | imtu | mode | flushable | priority | keySize =>
    exact tells_pure fun _ _ => trivial

theorem scoGetOption_tells (src dst : SockaddrSco) (option : BtIOOption) :
    Tells secures state (scoGetOption sock (state sock).scoMtu src dst option)
      (Reports (state sock) .sco option) := by
  cases option with
  | mtu | imtu | omtu =>
    refine tells_pure ?_
    rintro _ ⟨⟩
    rfl
  | handle | devClass => exact tells_anything (getNumber_only _ _)
  | source | sourceBdaddr | sourceType | dest | destBdaddr | destType | channel | sourceChannel
  | destChannel | psm | cid | mode | flushable | priority | keySize | secLevel | deferTimeout
  | master => exact tells_pure fun _ _ => trivial

/-- What was stored, for the first of the options that are wanted, and for all if none failed. -/
def Stored (right : BtIOOption → OptionResult → Prop) (wanted : List BtIOOption)
    (got : List OptionResult × Bool) : Prop :=
  List.Forall₂ right (wanted.take got.1.length) got.1 ∧
    (got.2 = true → got.1.length = wanted.length)

theorem stored_nothing (right : BtIOOption → OptionResult → Prop) (wanted : List BtIOOption) :
    Stored right wanted ([], false) := ⟨.nil, nofun⟩

theorem getEach_tells {one : BtIOOption → Sys (Option OptionResult)}
    {right : BtIOOption → OptionResult → Prop}
    (each : ∀ option, Tells secures state (one option) (right option)) (wanted : List BtIOOption) :
    Ensures (sockets secures) (getEach one wanted) state fun got after =>
      after = state ∧ Stored right wanted got := by
  induction wanted with
  | nil => exact ⟨rfl, .nil, fun _ => rfl⟩
  | cons option rest ih =>
    refine (each option).bind ?_
    rintro (_ | result) _ ⟨rfl, holds⟩
    · exact ⟨rfl, stored_nothing _ _⟩
    · refine ih.bind ?_
      rintro ⟨more, all⟩ _ ⟨rfl, rights, whole⟩
      refine ⟨rfl, .cons (holds result rfl) rights, fun done => ?_⟩
      exact congrArg (· + 1) (whole done)

theorem getPeers_keeps (transport : Transport) :
    Ensures (sockets secures) (getPeers sock transport) state fun _ after => after = state :=
  unset_keeps (getPeers_only transport) state

theorem btIoGet_tells (wanted : List BtIOOption) (state : Sockets) :
    Ensures (sockets secures) (btIoGet sock wanted) state fun got after =>
      after = state ∧ Stored (Reports (state sock) (state sock).transport) wanted got := by
  refine (btIoGetType_tells state).bind ?_
  rintro type mid ⟨rfl, told⟩
  rcases told with rfl | kind
  · exact ⟨rfl, stored_nothing _ _⟩
  · cases type with
    | invalid => cases kind
    | l2cap =>
      rw [← Option.some.inj kind]
      apply getsockopt_bind
      rintro (errno | l2o) shown
      · exact ⟨rfl, stored_nothing _ _⟩
      · cases shown
        refine (getPeers_keeps _).bind ?_
        rintro (_ | ⟨src, dst⟩) _ rfl
        · exact ⟨rfl, stored_nothing _ _⟩
        · exact getEach_tells (l2capGetOption_tells src dst) wanted
    | rfcomm =>
      rw [← Option.some.inj kind]
      refine (getPeers_keeps _).bind ?_
      rintro (_ | ⟨src, dst⟩) _ rfl
      · exact ⟨rfl, stored_nothing _ _⟩
      · exact getEach_tells (rfcommGetOption_tells src dst) wanted
    | sco =>
      rw [← Option.some.inj kind]
      apply getsockopt_bind
      rintro (errno | mtu) shown
      · exact ⟨rfl, stored_nothing _ _⟩
      · cases shown
        refine (getPeers_keeps _).bind ?_
        rintro (_ | ⟨src, dst⟩) _ rfl
        · exact ⟨rfl, stored_nothing _ _⟩
        · exact getEach_tells (scoGetOption_tells src dst) wanted

end Getting

section ReadingBack

variable {secures : Bool} {opts : SetOpts} {socket : SocketState}

/-- What an option that was asked for is to be read as. With a level set through the link mode an L2CAP
    socket is no master. -/
def Requested (secures : Bool) (opts : SetOpts) : Transport → BtIOOption → OptionResult → Prop
  | .l2cap, .imtu, shown => opts.imtu.val ≠ 0 → shown = .number opts.imtu.val
  | .l2cap, .omtu, shown => opts.omtu.val ≠ 0 → shown = .number opts.omtu.val
  | .l2cap, .mode, shown => opts.mode.val ≠ 0 → shown = .number opts.mode.val
  | .l2cap, .flushable, shown => 0 ≤ opts.flushable.val → shown = .flag (opts.flushable.val ≠ 0)
  | .l2cap, .priority, shown => 0 < opts.priority.val → shown = .number opts.priority.val
  | .l2cap, .master, shown => 0 ≤ opts.master.val →
      shown = .flag (opts.master.val ≠ 0 ∧ (secures = true ∨ opts.secLevel.val = 0))
  | .rfcomm, .master, shown => 0 ≤ opts.master.val → shown = .flag (opts.master.val ≠ 0)
  | .l2cap, .secLevel, shown | .rfcomm, .secLevel, shown =>
    opts.secLevel.val ≠ 0 → shown = .number opts.secLevel.val
  | .sco, .mtu, shown | .sco, .imtu, shown | .sco, .omtu, shown =>
    opts.mtu.val ≠ 0 → shown = .number opts.mtu.val
  | _, _, _ => True

theorem applied_l2cap : (applied secures opts socket .l2cap).l2cap =
    filled socket.l2cap opts.imtu opts.omtu opts.mode := by
  unfold applied levelled secured mastered
  split_ifs <;> rfl

theorem applied_flushable (asked : 0 ≤ opts.flushable.val) :
    (applied secures opts socket .l2cap).flushable =
      int.convert (if opts.flushable.val ≠ 0 then 1 else 0) := by
  simp only [applied, levelled, secured, if_pos asked]
  split_ifs <;> rfl

theorem applied_priority (asked : 0 < opts.priority.val) :
    (applied secures opts socket .l2cap).priority = opts.priority := by
  simp only [applied, levelled, secured, if_pos asked]
  split_ifs <;> rfl

theorem applied_level {transport : Transport} (secured_kind : transport ≠ .sco) (asked : opts.secLevel.val ≠ 0)
    (inside : InTable opts true) :
    ((applied secures opts socket transport).level.val : Int) = opts.secLevel.val := by
  obtain ⟨low, high⟩ := inside rfl asked
  have level : (applied secures opts socket transport).level = levelFor opts.secLevel.val := by
    cases transport with
    | sco => exact absurd rfl secured_kind
    | l2cap =>
      simp only [applied, levelled, secured, if_pos asked]
      split_ifs <;> rfl
    | rfcomm =>
      simp only [applied, levelled, mastered, secured, if_pos asked]
      split_ifs <;> rfl
  unfold btSecurityLow at low
  unfold btSecurityHigh at high
  rw [level, levelFor_small (by omega) high]

theorem mastered_master (mode : LinkMode) (asked : 0 ≤ opts.master.val) :
    (mastered mode opts socket).master mode = decide (opts.master.val ≠ 0) := by
  rw [mastered, if_pos asked]
  show Function.update socket.master mode _ mode = _
  rw [Function.update_self]

/-- A level that is set through the link mode takes the role away. -/
theorem levelled_master (mode : LinkMode) : (levelled secures mode opts socket).master mode =
    if opts.secLevel.val ≠ 0 ∧ secures = false then false else socket.master mode := by
  unfold levelled secured
  by_cases levels : opts.secLevel.val ≠ 0
  · cases secures with
    | true => simp only [if_pos levels, if_true, Bool.true_eq_false, and_false, if_false]
    | false =>
      simp only [if_pos levels, Bool.false_eq_true, if_false, and_true]
      show Function.update socket.master mode false mode = false
      rw [Function.update_self]
  · rw [if_neg levels, if_neg fun both => levels both.1]

theorem applied_master_l2cap (asked : 0 ≤ opts.master.val) :
    (applied secures opts socket .l2cap).master .l2cap =
      decide (opts.master.val ≠ 0 ∧ (secures = true ∨ opts.secLevel.val = 0)) := by
  have role (other : SocketState) (same : other.master .l2cap = decide (opts.master.val ≠ 0)) :
      (levelled secures .l2cap opts other).master .l2cap =
        decide (opts.master.val ≠ 0 ∧ (secures = true ∨ opts.secLevel.val = 0)) := by
    rw [levelled_master, same]
    by_cases levels : opts.secLevel.val = 0
    · simp only [levels, ne_eq, not_true_eq_false, false_and, if_false, or_true, and_true]
    · cases secures <;> simp [levels]
  apply role
  split_ifs <;> exact mastered_master .l2cap asked

theorem applied_master_rfcomm (asked : 0 ≤ opts.master.val) :
    (applied secures opts socket .rfcomm).master .rfcomm = decide (opts.master.val ≠ 0) := by
  simp only [applied, mastered, if_pos asked, Function.update_self]

theorem applied_scoMtu (asked : opts.mtu.val ≠ 0) :
    (applied secures opts socket .sco).scoMtu = opts.mtu := by
  simp only [applied, if_pos asked]

theorem flushable_kept (flushable : Int) :
    decide ((int.convert (if flushable ≠ 0 then 1 else 0)).val ≠ 0) = decide (flushable ≠ 0) := by
  by_cases zero : flushable = 0
  · rw [zero]
    rfl
  · simp only [ne_eq, zero, not_false_eq_true, if_true]
    rfl

theorem requested_of_reports {transport : Transport} (inside : transport ≠ .sco → InTable opts true)
    {option : BtIOOption} {shown : OptionResult}
    (reports : Reports (applied secures opts socket transport) transport option shown) :
    Requested secures opts transport option shown := by
  cases transport with
  | l2cap =>
    cases option with
    | imtu | omtu | mode =>
      intro asked
      rw [reports, applied_l2cap]
      unfold filled
      split_ifs <;> rfl
    | flushable =>
      intro asked
      rw [reports, applied_flushable asked, flushable_kept]
    | priority =>
      intro asked
      rw [reports, applied_priority asked]
    | master =>
      intro asked
      rw [reports, applied_master_l2cap asked]
    | secLevel =>
      intro asked
      have apart : Transport.l2cap ≠ .sco := by decide
      rw [reports, applied_level apart asked (inside apart)]
    | source | sourceBdaddr | sourceType | dest | destBdaddr | destType | deferTimeout | keySize | channel
    | sourceChannel | destChannel | psm | cid | mtu | handle | devClass => trivial
  | rfcomm =>
    cases option with
    | master =>
      intro asked
      rw [reports, applied_master_rfcomm asked]
    | secLevel =>
      intro asked
      have apart : Transport.rfcomm ≠ .sco := by decide
      rw [reports, applied_level apart asked (inside apart)]
    | source | sourceBdaddr | sourceType | dest | destBdaddr | destType | deferTimeout | keySize | channel
    | sourceChannel | destChannel | psm | cid | mtu | omtu | imtu | mode | flushable | priority | handle
    | devClass => trivial
  | sco =>
    cases option with
    | mtu | imtu | omtu =>
      intro asked
      rw [reports, applied_scoMtu asked]
    | source | sourceBdaddr | sourceType | dest | destBdaddr | destType | deferTimeout | keySize | channel
    | sourceChannel | destChannel | psm | cid | mode | flushable | priority | master | secLevel | handle
    | devClass => trivial

/-- Options that were set are read back as they were asked for, by any list of options. -/
theorem options_read_back (secures : Bool) (sock : Fd) (opts : SetOpts) (wanted : List BtIOOption)
    (state : Sockets) :
    Ensures (sockets secures)
      (do
        let done ← btIoSet sock opts
        let got ← btIoGet sock wanted
        return (done, got)) state fun both _ =>
      both.1 = true → Stored (Requested secures opts (state sock).transport) wanted both.2 := by
  refine ((btIoSet_applies opts state).and (btIoSet_inTable opts state)).bind ?_
  rintro done mid ⟨⟨frames, _, becomes⟩, inside⟩
  refine (btIoGet_tells wanted mid).bind ?_
  rintro got after ⟨_, reports, whole⟩ succeeds
  cases succeeds
  refine ⟨reports.imp fun option shown right => ?_, whole⟩
  rw [frames.transport, becomes rfl] at right
  exact requested_of_reports inside right

end ReadingBack

section Keeping

def shownMode (socket : SocketState) (mode : LinkMode) : Flags :=
  lmMap socket.level.val ||| if socket.master mode then lmMaster else 0

def keptAddress : (transport : Transport) → transport.Address
  | .l2cap => l2Address 0 (uint8.convert 0) (uint16.convert 0) (uint16.convert 4)
  | .rfcomm => ⟨0, uint8.convert 1⟩
  | .sco => ⟨0⟩

/-- A kernel that keeps what it is told. -/
def keeping (secures : Bool) (state : Sockets) : (call : Syscall) → call.Answer × Sockets
  | .getsockopt _ .domain => (.ok (int.convert afBluetooth), state)
  | .getsockopt sock .protocol => (.ok (int.convert (state sock).transport.proto), state)
  | .getsockopt sock .l2capOptions => (.ok (state sock).l2cap, state)
  | .getsockopt sock (.linkMode mode) => (.ok (shownMode (state sock) mode), state)
  | .getsockopt sock .security =>
    if secures then (.ok ⟨uint8.convert (state sock).level.val, uint8.convert 16⟩, state)
    else (.error .noProtoOpt, state)
  | .getsockopt sock .flushable => (.ok (state sock).flushable, state)
  | .getsockopt sock .priority => (.ok (state sock).priority, state)
  | .getsockopt sock .scoOptions => (.ok (state sock).scoMtu, state)
  | .getsockopt _ .deferSetup => (.ok (int.convert 30), state)
  | .getsockopt _ (.connInfo _) => (.ok ⟨uint16.convert 64, 0⟩, state)
  | .setsockopt sock .l2capOptions value =>
    (.ok (), Function.update state sock { state sock with l2cap := value })
  | .setsockopt sock (.linkMode mode) (flags : Flags) =>
    (.ok (), Function.update state sock
      { state sock with
        master := Function.update (state sock).master mode (flags &&& lmMaster ≠ 0)
        level := levelFor (levelOf flags) })
  | .setsockopt sock .security value =>
    if secures then
      if value.level.val ≤ 3 then
        (.ok (), Function.update state sock { state sock with level := levelFor value.level.val })
      else (.error .again, state)
    else (.error .noProtoOpt, state)
  | .setsockopt sock .flushable value =>
    (.ok (), Function.update state sock { state sock with flushable := value })
  | .setsockopt sock .priority value =>
    (.ok (), Function.update state sock { state sock with priority := value })
  | .setsockopt sock .scoOptions value =>
    (.ok (), Function.update state sock { state sock with scoMtu := value })
  | .setsockopt .. => (.error .noProtoOpt, state)
  | .getsockname _ transport | .getpeername _ transport => (.ok (keptAddress transport), state)
  | .connect sock .. => (.ok (), state.reach sock .connecting)
  | .listen sock _ => (.ok (), state.reach sock .listening)
  | .bind .. | .close _ | .setfl .. => (.ok (), state)
  | .getfl _ => (.ok (0 : Flags), state)
  | .socket transport =>
    (.ok (3 : Fd), Function.update state 3 { state 3 with transport, stage := .unconnected })
  | .accept _ => (.ok (3 : Fd), state)

theorem shownMode_level : ∀ (level : Fin 4) (master : Bool),
    levelOf (lmMap level.val ||| if master then lmMaster else 0) = (level.val : Int) := by
  decide

theorem shownMode_master : ∀ (level : Fin 4) (master : Bool),
    (lmMap level.val ||| if master then lmMaster else 0) &&& lmMaster ≠ 0 ↔ master = true := by
  decide

theorem shownLevel : ∀ level : Fin 4, (uint8.convert level.val).val = (level.val : Int) := by decide

theorem levelOf_small (flags : Flags) : 0 ≤ levelOf flags ∧ levelOf flags ≤ 3 := by
  unfold levelOf
  split_ifs <;> decide

theorem keeping_able (secures : Bool) (state : Sockets) (call : Syscall) :
    (sockets secures).Answers state call (keeping secures state call).1 (keeping secures state call).2 := by
  cases call with
  | getsockopt sock option =>
    cases option with
    | domain => exact ⟨rfl, rfl⟩
    | protocol =>
      refine ⟨rfl, ?_⟩
      show (int.convert (state sock).transport.proto).val = (state sock).transport.proto
      cases (state sock).transport <;> rfl
    | linkMode mode => exact ⟨rfl, shownMode_master _ _, shownMode_level _ _⟩
    | security =>
      cases secures with
      | false => exact ⟨rfl, rfl⟩
      | true =>
        refine ⟨rfl, rfl, ?_⟩
        exact shownLevel (state sock).level
    | l2capOptions | flushable | priority | scoOptions => exact ⟨rfl, rfl⟩
    | deferSetup | connInfo => exact ⟨rfl, trivial⟩
  | setsockopt sock option value =>
    cases option with
    | l2capOptions | flushable | priority | scoOptions => exact ⟨_, rfl, rfl⟩
    | linkMode mode =>
      have small := levelOf_small value
      exact ⟨_, ⟨_, .inl (levelFor_small small.1 small.2).symm, rfl⟩, rfl⟩
    | security =>
      cases secures with
      | false => exact ⟨state sock, ⟨rfl, rfl⟩, (Function.update_eq_self sock state).symm⟩
      | true =>
        have least : 0 ≤ value.level.val := value.level.property.1
        by_cases most : value.level.val ≤ 3
        · simp only [keeping, if_true, if_pos most]
          exact ⟨_, ⟨rfl, _, (levelFor_small least most).symm, rfl⟩, rfl⟩
        · simp only [keeping, if_true, if_neg most]
          exact ⟨state sock, rfl, (Function.update_eq_self sock state).symm⟩
    | domain | protocol | deferSetup | connInfo =>
      exact ⟨state sock, rfl, (Function.update_eq_self sock state).symm⟩
  | socket transport =>
    have now (socket : SocketState) : Function.update state 3 socket 3 = socket :=
      Function.update_self ..
    exact ⟨congrArg SocketState.transport (now _), congrArg SocketState.stage (now _),
      fun other apart => Function.update_of_ne apart _ _⟩
  | accept => exact fun _ _ => rfl
  | bind | connect | listen | close | getfl | setfl | getsockname | getpeername => rfl

def plainSocket : SocketState where
  transport := .l2cap
  stage := .unconnected
  l2cap := { omtu := uint16.convert 672, imtu := uint16.convert 672, flushTo := uint16.convert 0,
             mode := uint8.convert 0, fcs := uint8.convert 1, maxTx := uint8.convert 3,
             txwinSize := uint16.convert 63 }
  master _ := false
  level := levelFor btSecurityLow
  flushable := int.convert 0
  priority := uint32.convert 0
  scoMtu := uint16.convert 0

def mediumMaster : SetOpts :=
  { SetOpts.defaults with master := int.convert 1, secLevel := int.convert 2 }

/-- On a kernel without `BT_SECURITY` a socket that was to be master is none, and all that was set is
    reported as set. -/
theorem master_lost : ∃ last, Ends (sockets false)
    (do
      let done ← btIoSet 3 mediumMaster
      let got ← btIoGet 3 [.secLevel, .master]
      return (done, got)) (fun _ => plainSocket) (true, ([.number 2, .flag false], true)) last ∧
    Stored (Requested false mediumMaster .l2cap) [.secLevel, .master]
      ([.number 2, .flag false], true) := by
  have ends := ends_runOn (keeping_able false) (do
    let done ← btIoSet 3 mediumMaster
    let got ← btIoGet 3 [.secLevel, .master]
    return (done, got)) (fun _ => plainSocket)
  have stored := options_read_back false 3 mediumMaster [.secLevel, .master] (fun _ => plainSocket)
  exact ⟨_, ends, stored.ends ends rfl⟩

/-- The options that there are for a socket; the size of a key is told by `BT_SECURITY` only. -/
def Offers (secures : Bool) : Transport → BtIOOption → Prop
  | .l2cap, .keySize => secures = true
  | .l2cap, .destType | .l2cap, .sourceType | .l2cap, .channel | .l2cap, .sourceChannel
  | .l2cap, .destChannel | .l2cap, .mtu => False
  | .rfcomm, .sourceType | .rfcomm, .destType | .rfcomm, .keySize | .rfcomm, .psm | .rfcomm, .cid
  | .rfcomm, .mtu | .rfcomm, .omtu | .rfcomm, .imtu | .rfcomm, .mode | .rfcomm, .flushable
  | .rfcomm, .priority => False
  | .sco, .sourceType | .sco, .destType | .sco, .deferTimeout | .sco, .secLevel | .sco, .keySize
  | .sco, .channel | .sco, .sourceChannel | .sco, .destChannel | .sco, .psm | .sco, .cid
  | .sco, .master | .sco, .mode | .sco, .flushable | .sco, .priority => False
  | _, _ => True

section Answering

variable {secures : Bool} {sock : Fd} {state : Sockets}

/-- Code that changes nothing and does not fail. -/
def Gets (secures : Bool) (state : Sockets) (one : Sys (Option OptionResult)) : Prop :=
  ∃ result, one.runOn (keeping secures) state = (some result, state)

theorem getLevel_gets (mode : LinkMode) : Gets secures state (getLevel mode sock) := by
  cases secures <;> exact ⟨_, rfl⟩

theorem l2capGetOption_gets {option : BtIOOption} (l2o : L2capOptions) (src dst : SockaddrL2)
    (offered : Offers secures .l2cap option) :
    Gets secures state (l2capGetOption sock l2o src dst option) := by
  cases option with
  | keySize =>
    cases offered
    exact ⟨_, rfl⟩
  | secLevel => exact getLevel_gets .l2cap
  | source | sourceBdaddr | dest | destBdaddr | deferTimeout | psm | cid | omtu | imtu | master
  | handle | devClass | mode | flushable | priority => exact ⟨_, rfl⟩
  | sourceType | destType | channel | sourceChannel | destChannel | mtu => exact offered.elim

theorem rfcommGetOption_gets {option : BtIOOption} (src dst : SockaddrRc)
    (offered : Offers secures .rfcomm option) :
    Gets secures state (rfcommGetOption sock src dst option) := by
  cases option with
  | secLevel => exact getLevel_gets .rfcomm
  | source | sourceBdaddr | dest | destBdaddr | deferTimeout | channel | sourceChannel
  | destChannel | master | handle | devClass => exact ⟨_, rfl⟩
  | sourceType | destType | keySize | psm | cid | mtu | omtu | imtu | mode | flushable
  | priority => exact offered.elim

theorem scoGetOption_gets {option : BtIOOption} (mtu : uint16.Value) (src dst : SockaddrSco)
    (offered : Offers secures .sco option) :
    Gets secures state (scoGetOption sock mtu src dst option) := by
  cases option with
  | source | sourceBdaddr | dest | destBdaddr | mtu | omtu | imtu | handle | devClass =>
    exact ⟨_, rfl⟩
  | sourceType | destType | deferTimeout | secLevel | keySize | channel | sourceChannel | destChannel
  | psm | cid | master | mode | flushable | priority => exact offered.elim

theorem getEach_gets {one : BtIOOption → Sys (Option OptionResult)} {wanted : List BtIOOption}
    (each : ∀ option ∈ wanted, Gets secures state (one option)) :
    ((getEach one wanted).runOn (keeping secures) state).1.2 = true := by
  induction wanted with
  | nil => rfl
  | cons option rest ih =>
    obtain ⟨result, gets⟩ := each option List.mem_cons_self
    have onward := ih fun other member => each other (List.mem_cons_of_mem option member)
    rw [getEach, Program.runOn_bind, gets]
    dsimp only
    rw [Program.runOn_bind]
    exact onward

theorem btIoGetType_gets (secures : Bool) (sock : Fd) (state : Sockets) : ∃ type,
    (btIoGetType sock).runOn (keeping secures) state = (type, state) ∧
      BtIOType.transport? type = some (state sock).transport := by
  -- what is left to do once the domain is known
  have onward : (btIoGetType sock).runOn (keeping secures) state =
      (if (int.convert (state sock).transport.proto).val = btprotoRfcomm then pure BtIOType.rfcomm
      else if (int.convert (state sock).transport.proto).val = btprotoSco then pure .sco
      else if (int.convert (state sock).transport.proto).val = btprotoL2cap then pure .l2cap
      else pure .invalid : Sys BtIOType).runOn (keeping secures) state := rfl
  rw [onward]
  cases (state sock).transport with
  | l2cap => exact ⟨.l2cap, rfl, rfl⟩
  | rfcomm => exact ⟨.rfcomm, rfl, rfl⟩
  | sco => exact ⟨.sco, rfl, rfl⟩

/-- A kernel that answers is asked for nothing in vain. -/
theorem btIoGet_succeeds (secures : Bool) (sock : Fd) (wanted : List BtIOOption) (state : Sockets)
    (offered : ∀ option ∈ wanted, Offers secures (state sock).transport option) :
    ∃ got last, Ends (sockets secures) (btIoGet sock wanted) state (got, true) last := by
  have succeeds : ((btIoGet sock wanted).runOn (keeping secures) state).1.2 = true := by
    obtain ⟨type, runs, kind⟩ := btIoGetType_gets secures sock state
    rw [btIoGet, Program.runOn_bind, runs]
    cases type with
    | invalid => cases kind
    | l2cap =>
      rw [← Option.some.inj kind] at offered
      exact getEach_gets fun option member => l2capGetOption_gets _ _ _ (offered option member)
    | rfcomm =>
      rw [← Option.some.inj kind] at offered
      exact getEach_gets fun option member => rfcommGetOption_gets _ _ (offered option member)
    | sco =>
      rw [← Option.some.inj kind] at offered
      exact getEach_gets fun option member => scoGetOption_gets _ _ _ (offered option member)
  have ends := ends_runOn (keeping_able secures) (btIoGet sock wanted) state
  cases result : (btIoGet sock wanted).runOn (keeping secures) state with
  | mk got last =>
    rw [result] at ends succeeds
    refine ⟨got.1, last, ?_⟩
    rw [← succeeds]
    exact ends

end Answering

end Keeping

end Btle.Native.Btio

import Mathlib.Logic.Function.Basic
import Btle.Native.SocketCalls

namespace Btle.Native

open Btio Calling

/-- The security level with a number. -/
def levelFor (number : Int) : Fin 4 := Fin.ofNat 4 number.toNat

theorem levelFor_val (level : Fin 4) : levelFor level.val = level := by
  rw [levelFor, Int.toNat_natCast]
  exact Fin.ofNat_val_eq_self level

theorem levelFor_small {level : Int} (least : 0 ≤ level) (most : level ≤ 3) :
    ((levelFor level).val : Int) = level := by
  rw [levelFor, Fin.val_ofNat]
  omega

inductive Stage
  | unconnected
  | connecting
  | listening
  deriving DecidableEq, Repr

/-- What a socket keeps; a connection that is made is still `connecting` here. The link mode shows the
    security level beside the role. -/
structure SocketState where
  transport : Transport
  stage : Stage
  l2cap : L2capOptions
  master : LinkMode → Bool
  level : Fin 4
  flushable : int.Value
  priority : uint32.Value
  scoMtu : uint16.Value

def Transport.proto : Transport → Int
  | .l2cap => btprotoL2cap
  | .rfcomm => btprotoRfcomm
  | .sco => btprotoSco

namespace SocketState

variable (secures : Bool) (socket : SocketState)

/-- What `getsockopt` may answer; `secures` stands for a kernel that has `BT_SECURITY`. -/
def Shows : (option : SockOpt) → Except Errno option.Value → Prop
  | .domain, .ok (value : int.Value) => value.val = afBluetooth
  | .protocol, .ok (value : int.Value) => value.val = socket.transport.proto
  | .l2capOptions, .ok value => value = socket.l2cap
  | .linkMode mode, .ok (flags : Flags) =>
    (flags &&& lmMaster ≠ 0 ↔ socket.master mode = true) ∧ levelOf flags = (socket.level.val : Int)
  | .security, .ok (sec : BtSecurity) => secures = true ∧ sec.level.val = (socket.level.val : Int)
  | .security, .error .noProtoOpt => secures = false
  | .flushable, .ok value => value = socket.flushable
  | .priority, .ok value => value = socket.priority
  | .scoOptions, .ok value => value = socket.scoMtu
  | _, _ => True

/-- What `setsockopt` may make of a socket. A link mode without a level takes none away, or all. -/
def Stores : (option : SockOpt) → option.Value → Except Errno Unit → SocketState → Prop
  | .l2capOptions, value, .ok _, next => next = { socket with l2cap := value }
  | .linkMode mode, (flags : Flags), .ok _, next => ∃ level : Fin 4,
      (levelOf flags = (level.val : Int) ∨ levelOf flags = 0 ∧ level = socket.level) ∧
      next = { socket with master := Function.update socket.master mode (flags &&& lmMaster ≠ 0), level }
  | .security, (value : BtSecurity), .ok _, next => secures = true ∧ ∃ level : Fin 4,
      value.level.val = (level.val : Int) ∧ next = { socket with level }
  | .security, _, .error .noProtoOpt, next => secures = false ∧ next = socket
  | .flushable, value, .ok _, next => next = { socket with flushable := value }
  | .priority, value, .ok _, next => next = { socket with priority := value }
  | .scoOptions, (value : uint16.Value), .ok _, next => next = { socket with scoMtu := value }
  | _, _, _, next => next = socket

end SocketState

abbrev Sockets := Fd → SocketState

def Sockets.reach (state : Sockets) (sock : Fd) (stage : Stage) : Sockets :=
  Function.update state sock { state sock with stage }

/-- A new socket may have any options. -/
def Sockets.Answers (secures : Bool) (state : Sockets) :
    (call : Syscall) → call.Answer → Sockets → Prop
  | .socket transport, .ok (sock : Fd), after =>
    (after sock).transport = transport ∧ (after sock).stage = .unconnected ∧
      ∀ other ≠ sock, after other = state other
  | .connect sock .., .ok _, after | .connect sock .., .error .again, after
  | .connect sock .., .error .inProgress, after => after = state.reach sock .connecting
  | .listen sock _, .ok _, after => after = state.reach sock .listening
  | .accept _, .ok sock, after => ∀ other ≠ sock, after other = state other
  | .getsockopt sock option, answer, after => after = state ∧ (state sock).Shows secures option answer
  | .setsockopt sock option value, answer, after => ∃ next,
      (state sock).Stores secures option value answer next ∧ after = Function.update state sock next
  | _, _, after => after = state

def sockets (secures : Bool) : Environment Sockets Syscall Syscall.Answer where
  Legal _ _ := True
  Answers := Sockets.Answers secures

theorem sockets_free {α : Type} {secures : Bool} (program : Sys α) (state : Sockets) :
    Ensures (sockets secures) program state fun _ _ => True := by
  induction program generalizing state with
  | done value => trivial
  | ask call next ih => exact ⟨trivial, fun answer after _ => ih answer after⟩

/-- Where the code succeeds, the socket is turned into what it is to be. -/
def Turns {α : Type} (secures : Bool) (sock : Fd) (program : Sys α) (success : α → Prop)
    (become : SocketState → SocketState) : Prop :=
  ∀ state, Ensures (sockets secures) program state fun value after =>
    success value → after sock = become (state sock)

namespace Btio

section Turns

variable {secures : Bool} {sock : Fd}

def succeeded : Except Errno Unit → Prop
  | .ok _ => True
  | .error _ => False

theorem getsockopt_bind {α : Type} {option : SockOpt} {state : Sockets}
    {next : Except Errno option.Value → Sys α} {goal : α → Sockets → Prop}
    (answers : ∀ answer, (state sock).Shows secures option answer →
      Ensures (sockets secures) (next answer) state goal) :
    Ensures (sockets secures) (getsockopt sock option >>= next) state goal := by
  refine ⟨trivial, ?_⟩
  rintro answer after ⟨rfl, shown⟩
  exact answers answer shown

theorem setsockopt_bind {α : Type} {option : SockOpt} {value : option.Value} {state : Sockets}
    {next : Except Errno Unit → Sys α} {goal : α → Sockets → Prop}
    (answers : ∀ answer socket, (state sock).Stores secures option value answer socket →
      Ensures (sockets secures) (next answer) (Function.update state sock socket) goal) :
    Ensures (sockets secures) (setsockopt sock option value >>= next) state goal := by
  refine ⟨trivial, ?_⟩
  rintro answer after ⟨socket, stored, rfl⟩
  exact answers answer socket stored

theorem setsockopt_ensures {option : SockOpt} {value : option.Value} {state : Sockets}
    {goal : Except Errno Unit → Sockets → Prop}
    (answers : ∀ answer socket, (state sock).Stores secures option value answer socket →
      goal answer (Function.update state sock socket)) :
    Ensures (sockets secures) (setsockopt sock option value) state goal := by
  refine ⟨trivial, ?_⟩
  rintro answer after ⟨socket, stored, rfl⟩
  exact answers answer socket stored

/-- An option that is stored as it is. -/
theorem turns_setsockopt {option : SockOpt} {value : option.Value} {become : SocketState → SocketState}
    (stores : ∀ socket next : SocketState,
      socket.Stores secures option value (.ok ()) next → next = become socket) :
    Turns secures sock (setsockopt sock option value) succeeded become := by
  refine fun state => setsockopt_ensures ?_
  rintro (errno | _) next stored
  · exact nofun
  · intro _
    rw [Function.update_self]
    exact stores _ _ stored

theorem turns_skipped : Turns secures sock skipped succeeded fun socket => socket := fun _ _ => rfl

theorem turns_true : Turns secures sock (pure true) (· = true) fun socket => socket := fun _ _ => rfl

theorem turns_after {failing : Sys (Except Errno Unit)} {next : Sys Bool}
    {first second : SocketState → SocketState}
    (one : Turns secures sock failing succeeded first) (two : Turns secures sock next (· = true) second) :
    Turns secures sock (after failing next) (· = true) fun socket => second (first socket) := by
  intro state
  apply (one state).bind
  rintro (errno | _) mid reached
  · exact nofun
  · refine (two mid).mono fun done last becomes succeeds => ?_
    rw [becomes succeeds, reached trivial]

theorem turns_when {asked : Prop} [Decidable asked] {set : Sys (Except Errno Unit)}
    {become : SocketState → SocketState} (turns : Turns secures sock set succeeded become) :
    Turns secures sock (if asked then set else skipped) succeeded
      fun socket => if asked then become socket else socket := by
  by_cases needed : asked
  · simpa only [if_pos needed] using turns
  · simpa only [if_neg needed] using turns_skipped

theorem turns_priority (prio : uint32.Value) : Turns secures sock (setPriority sock prio) succeeded
    fun socket => { socket with priority := prio } := turns_setsockopt fun _ _ stored => stored

theorem turns_flushable (flushable : Bool) :
    Turns secures sock (l2capSetFlushable sock flushable) succeeded
      fun socket => { socket with flushable := int.convert (if flushable then 1 else 0) } :=
  turns_setsockopt fun _ _ stored => stored

theorem turns_l2cap (l2o : L2capOptions) : Turns secures sock (setsockopt sock .l2capOptions l2o)
    succeeded fun socket => { socket with l2cap := l2o } := turns_setsockopt fun _ _ stored => stored

theorem turns_l2capOptions (imtu omtu : uint16.Value) (mode : uint8.Value) :
    Turns secures sock (l2capSetOptions sock imtu omtu mode) succeeded
      fun socket => { socket with l2cap := filled socket.l2cap imtu omtu mode } := by
  intro state
  unfold l2capSetOptions
  split
  · apply getsockopt_bind
    rintro (errno | l2o) shown
    · exact nofun
    · refine (turns_l2cap _ state).mono fun answer after stored success => ?_
      rw [stored success, shown]
  · have nothing : imtu.val = 0 ∧ omtu.val = 0 ∧ mode.val = 0 := by
      simpa only [not_or, not_not] using ‹¬(imtu.val ≠ 0 ∨ omtu.val ≠ 0 ∨ mode.val ≠ 0)›
    intro _
    simp only [filled, nothing, ne_eq, not_true_eq_false, if_false]

end Turns

section LinkMode

variable {secures : Bool} {sock : Fd} {mode : LinkMode}

theorem levelOf_congr {flags other : Flags} (secure : other &&& lmSecure = flags &&& lmSecure)
    (encrypt : other &&& lmEncrypt = flags &&& lmEncrypt) (auth : other &&& lmAuth = flags &&& lmAuth) :
    levelOf other = levelOf flags := by
  unfold levelOf
  rw [secure, encrypt, auth]

theorem or_master (flags : Flags) {mask : Flags} (apart : lmMaster &&& mask = 0) :
    (flags ||| lmMaster) &&& mask = flags &&& mask := by
  rw [BitVec.and_or_distrib_right, apart]
  exact BitVec.or_zero

theorem and_not_master (flags : Flags) {mask : Flags} (apart : ~~~lmMaster &&& mask = mask) :
    (flags &&& ~~~lmMaster) &&& mask = flags &&& mask := by
  rw [BitVec.and_assoc, apart]

theorem levelOf_or_master (flags : Flags) : levelOf (flags ||| lmMaster) = levelOf flags :=
  levelOf_congr (or_master flags (by decide)) (or_master flags (by decide)) (or_master flags (by decide))

theorem levelOf_and_not_master (flags : Flags) : levelOf (flags &&& ~~~lmMaster) = levelOf flags :=
  levelOf_congr (and_not_master flags (by decide)) (and_not_master flags (by decide))
    (and_not_master flags (by decide))

theorem levelOf_lmMap {level : Int} (low : btSecurityLow ≤ level) (high : level ≤ btSecurityHigh) :
    levelOf (lmMap level) = level := by
  have cases : level = 1 ∨ level = 2 ∨ level = 3 := by
    unfold btSecurityLow at low
    unfold btSecurityHigh at high
    omega
  rcases cases with rfl | rfl | rfl <;> decide

theorem lmMap_master (level : Int) : lmMap level &&& lmMaster = 0 := by
  unfold lmMap
  split_ifs <;> decide

theorem master_set (flags : Flags) : decide ((flags ||| lmMaster) &&& lmMaster ≠ 0) = true := by
  rw [decide_eq_true_iff, BitVec.and_or_distrib_right]
  intro zero
  exact absurd (BitVec.or_eq_zero_iff.mp zero).2 (by decide)

theorem master_unset (flags : Flags) : decide ((flags &&& ~~~lmMaster) &&& lmMaster ≠ 0) = false := by
  have none : ~~~lmMaster &&& lmMaster = 0 := by decide
  rw [decide_eq_false_iff_not, not_not, BitVec.and_assoc, none]
  exact BitVec.and_zero

/-- The role is set, and the level that the link mode shows along with it stays. -/
theorem turns_master (master : Bool) : Turns secures sock (setMaster mode sock master) succeeded
    fun socket => { socket with master := Function.update socket.master mode master } := by
  have set (state : Sockets) (flags : Flags) (level : levelOf flags = ((state sock).level.val : Int))
      (bit : decide (flags &&& lmMaster ≠ 0) = master) :
      Ensures (sockets secures) (setsockopt sock (.linkMode mode) flags) state fun result after =>
        succeeded result → after sock =
          { state sock with master := Function.update (state sock).master mode master } := by
    apply setsockopt_ensures
    rintro (errno | _) next stored
    · exact nofun
    · obtain ⟨now, levels, rfl⟩ := stored
      have same : now = (state sock).level := by
        rcases levels with shown | ⟨_, same⟩
        · exact Fin.ext (Int.ofNat.inj (shown.symm.trans level))
        · exact same
      intro _
      rw [Function.update_self, bit, same]
  have unset (state : Sockets) (already : (state sock).master mode = master) :
      state sock = { state sock with master := Function.update (state sock).master mode master } := by
    rw [← already, Function.update_eq_self]
  intro state
  apply getsockopt_bind
  rintro (errno | flags) shown
  · exact nofun
  · obtain ⟨role, level⟩ := shown
    dsimp only
    cases master with
    | true =>
      rw [if_pos rfl]
      split
      · exact fun _ => unset state (role.mp ‹_›)
      · exact set state _ ((levelOf_or_master flags).trans level) (master_set flags)
    | false =>
      rw [if_neg Bool.false_ne_true]
      split
      · rename_i slave
        refine fun _ => unset state ?_
        rw [← Bool.not_eq_true, ← role, not_not]
        exact slave
      · exact set state _ ((levelOf_and_not_master flags).trans level) (master_unset flags)

end LinkMode

section Applied

variable {secures : Bool} {sock : Fd}

/-- A socket on which a level is set; the link mode that stands in for `BT_SECURITY` takes the role
    away. -/
def secured (secures : Bool) (mode : LinkMode) (level : Int) (socket : SocketState) : SocketState :=
  let socket := { socket with level := levelFor level }
  if secures then socket else { socket with master := Function.update socket.master mode false }

def levelled (secures : Bool) (mode : LinkMode) (opts : SetOpts) (socket : SocketState) : SocketState :=
  if opts.secLevel.val ≠ 0 then secured secures mode opts.secLevel.val socket else socket

def mastered (mode : LinkMode) (opts : SetOpts) (socket : SocketState) : SocketState :=
  if 0 ≤ opts.master.val then
    { socket with master := Function.update socket.master mode (opts.master.val ≠ 0) }
  else socket

/-- What a socket is to be with the options that are asked for. -/
def applied (secures : Bool) (opts : SetOpts) (socket : SocketState) : Transport → SocketState
  | .l2cap =>
    let socket := { socket with l2cap := filled socket.l2cap opts.imtu opts.omtu opts.mode }
    let socket := mastered .l2cap opts socket
    let socket := if 0 ≤ opts.flushable.val then
        { socket with flushable := int.convert (if opts.flushable.val ≠ 0 then 1 else 0) }
      else socket
    let socket := if 0 < opts.priority.val then { socket with priority := opts.priority } else socket
    levelled secures .l2cap opts socket
  | .rfcomm => mastered .rfcomm opts (levelled secures .rfcomm opts socket)
  | .sco => if opts.mtu.val ≠ 0 then { socket with scoMtu := opts.mtu } else socket

theorem turns_secLevel (mode : LinkMode) (level : Int) :
    Turns secures sock (setSecLevel mode sock level) (· = true) (secured secures mode level) := by
  intro state
  unfold setSecLevel
  split
  · exact nofun
  · rename_i inside
    have low : btSecurityLow ≤ level := Int.not_lt.mp fun below => inside (.inl below)
    have high : level ≤ btSecurityHigh := Int.not_lt.mp fun above => inside (.inr above)
    have is_level {now : Fin 4} (same : level = (now.val : Int)) : levelFor level = now := by
      rw [same, levelFor_val]
    apply setsockopt_bind
    rintro (errno | _) next stored
    · cases errno with
      | noProtoOpt =>
        obtain ⟨lacks, rfl⟩ := stored
        rw [Function.update_eq_self]
        apply setsockopt_bind
        rintro (errno | _) socket stored
        · exact nofun
        · obtain ⟨now, levels, rfl⟩ := stored
          intro _
          have shown : level = (now.val : Int) := by
            rcases levels with shown | ⟨none, _⟩
            · exact (levelOf_lmMap low high).symm.trans shown
            · rw [levelOf_lmMap low high] at none
              rw [none] at low
              exact absurd low (by decide)
          rw [Function.update_self, secured, is_level shown, lacks, lmMap_master]
          rfl
      | again | inProgress | other => exact nofun
    · obtain ⟨has, now, shown, rfl⟩ := stored
      intro _
      have kept : (uint8.convert level).val = level :=
        Narrowing.IntType.convert_eq_iff.mpr ⟨low.trans' (by decide), high.trans (by decide)⟩
      rw [Function.update_self, secured, is_level (kept.symm.trans shown), has]
      rfl

theorem turns_levelled (mode : LinkMode) (opts : SetOpts) : Turns secures sock
    (if opts.secLevel.val ≠ 0 then setSecLevel mode sock opts.secLevel.val else pure true) (· = true)
    (levelled secures mode opts) := by
  unfold levelled
  by_cases asked : opts.secLevel.val ≠ 0
  · simpa only [if_pos asked] using turns_secLevel mode opts.secLevel.val
  · simpa only [if_neg asked] using turns_true

theorem turns_mastered (mode : LinkMode) (opts : SetOpts) : Turns secures sock
    (if 0 ≤ opts.master.val then setMaster mode sock (opts.master.val ≠ 0) else skipped) succeeded
    (mastered mode opts) := turns_when (turns_master _)

theorem turns_l2capSet (opts : SetOpts) : Turns secures sock (l2capSet sock opts) (· = true)
    fun socket => applied secures opts socket .l2cap := by
  have flushes : Turns secures sock
      (if 0 ≤ opts.flushable.val then l2capSetFlushable sock (opts.flushable.val ≠ 0) else skipped)
      succeeded _ := turns_when (turns_flushable _)
  have ranks : Turns secures sock
      (if 0 < opts.priority.val then setPriority sock opts.priority else skipped) succeeded _ :=
    turns_when (turns_priority opts.priority)
  have all := turns_after flushes (turns_after ranks (turns_levelled .l2cap opts))
  have whole := turns_after (turns_l2capOptions opts.imtu opts.omtu opts.mode)
    (turns_after (turns_mastered .l2cap opts) all)
  simp only [decide_eq_true_eq] at whole
  exact whole

theorem turns_rfcommSet (opts : SetOpts) : Turns secures sock (rfcommSet sock opts) (· = true)
    fun socket => applied secures opts socket .rfcomm := by
  intro state
  refine (turns_levelled .rfcomm opts state).bind ?_
  intro levels mid reached
  cases levels with
  | false => exact nofun
  | true =>
    refine (turns_after (turns_mastered .rfcomm opts) turns_true mid).mono fun done last becomes succeeds => ?_
    rw [becomes succeeds, reached rfl]
    rfl

theorem turns_scoSet (opts : SetOpts) : Turns secures sock (scoSet sock opts.mtu) (· = true)
    fun socket => applied secures opts socket .sco := by
  intro state
  unfold scoSet
  split
  · rename_i nothing
    intro _
    exact (if_neg (not_not.mpr nothing)).symm
  · rename_i asked
    apply getsockopt_bind
    rintro (errno | _) shown
    · exact nofun
    · have stores : Turns secures sock (setsockopt sock .scoOptions opts.mtu) succeeded
          fun socket => { socket with scoMtu := opts.mtu } := turns_setsockopt fun _ _ stored => stored
      refine (turns_after stores turns_true state).mono fun done last becomes succeeds => ?_
      rw [becomes succeeds]
      exact (if_pos asked).symm

end Applied

section Frame

variable {secures : Bool} {sock : Fd} {options : SockOpt → Prop} {socket next last : SocketState}
  {state after : Sockets}

/-- Nothing of a socket is changed but the given options. -/
structure Frames (options : SockOpt → Prop) (socket next : SocketState) : Prop where
  transport : next.transport = socket.transport
  stage : next.stage = socket.stage
  l2cap : ¬ options .l2capOptions → next.l2cap = socket.l2cap
  master : ∀ mode, ¬ options (.linkMode mode) → next.master mode = socket.master mode
  level : ¬ options .security → (∀ mode, ¬ options (.linkMode mode)) → next.level = socket.level
  flushable : ¬ options .flushable → next.flushable = socket.flushable
  priority : ¬ options .priority → next.priority = socket.priority
  scoMtu : ¬ options .scoOptions → next.scoMtu = socket.scoMtu

theorem Frames.refl (options : SockOpt → Prop) (socket : SocketState) : Frames options socket socket := by
  constructor <;> intros <;> rfl

theorem Frames.trans (first : Frames options socket next) (second : Frames options next last) :
    Frames options socket last where
  transport := second.transport.trans first.transport
  stage := second.stage.trans first.stage
  l2cap free := (second.l2cap free).trans (first.l2cap free)
  master mode free := (second.master mode free).trans (first.master mode free)
  level free none := (second.level free none).trans (first.level free none)
  flushable free := (second.flushable free).trans (first.flushable free)
  priority free := (second.priority free).trans (first.priority free)
  scoMtu free := (second.scoMtu free).trans (first.scoMtu free)

theorem stores_frames {option : SockOpt} {value : option.Value} {answer : Except Errno Unit}
    (fine : options option) (stored : socket.Stores secures option value answer next) :
    Frames options socket next := by
  cases answer with
  | error errno =>
    have same : next = socket := by
      cases option with
      | security =>
        cases errno with
        | noProtoOpt => exact stored.2
        | again | inProgress | other => exact stored
      | domain | protocol | priority | deferSetup | flushable | l2capOptions | linkMode | scoOptions
      | connInfo => exact stored
    rw [same]
    exact .refl options socket
  | ok result =>
    cases option with
    | l2capOptions =>
      cases stored
      exact { Frames.refl options socket with l2cap := fun free => absurd fine free }
    | flushable =>
      cases stored
      exact { Frames.refl options socket with flushable := fun free => absurd fine free }
    | priority =>
      cases stored
      exact { Frames.refl options socket with priority := fun free => absurd fine free }
    | scoOptions =>
      cases stored
      exact { Frames.refl options socket with scoMtu := fun free => absurd fine free }
    | security =>
      obtain ⟨_, now, _, rfl⟩ := stored
      exact { Frames.refl options socket with level := fun free => absurd fine free }
    | linkMode mode =>
      obtain ⟨now, _, rfl⟩ := stored
      refine { Frames.refl options socket with
        master := fun other free => ?_, level := fun _ none => absurd fine (none mode) }
      have apart : other ≠ mode := fun same => free (same ▸ fine)
      exact Function.update_of_ne apart _ _
    | domain | protocol | deferSetup | connInfo =>
      cases stored
      exact .refl options socket

theorem within_frames {α : Type} {program : Sys α} (only : Only (Syscall.Within sock options) program)
    (state : Sockets) : Ensures (sockets secures) program state fun _ after =>
      Frames options (state sock) (after sock) ∧ ∀ other ≠ sock, after other = state other := by
  refine only.ensures (fun _ _ _ _ => trivial) ?_ ⟨.refl options (state sock), fun _ _ => rfl⟩
  intro before call answer after frames within answered
  cases call with
  | setsockopt other option value =>
    obtain ⟨rfl, fine⟩ := within
    obtain ⟨next, stored, rfl⟩ := answered
    refine ⟨?_, fun elsewhere apart => ?_⟩
    · rw [Function.update_self]
      exact frames.1.trans (stores_frames fine stored)
    · rw [Function.update_of_ne apart]
      exact frames.2 elsewhere apart
  | getsockopt =>
    obtain ⟨rfl, _⟩ := answered
    exact frames
  | socket | accept | close | setfl | connect | listen => exact within.elim
  | bind | getfl | getsockname | getpeername =>
    cases answered
    exact frames

theorem Frames.nothing (frames : Frames (fun _ => False) socket next) : next = socket := by
  obtain ⟨transport, stage, l2cap, master, level, flushable, priority, scoMtu⟩ := frames
  cases next
  cases socket
  rw [SocketState.mk.injEq]
  exact ⟨transport, stage, l2cap id, funext fun mode => master mode id, level id fun _ => id, flushable id,
    priority id, scoMtu id⟩

/-- Code that sets no option changes nothing. -/
theorem unset_keeps {α : Type} {program : Sys α}
    (only : Only (Syscall.Within sock fun _ => False) program) (state : Sockets) :
    Ensures (sockets secures) program state fun _ after => after = state := by
  refine (within_frames only state).mono ?_
  rintro _ after ⟨frames, elsewhere⟩
  funext other
  by_cases same : other = sock
  · subst same
    exact frames.nothing
  · exact elsewhere other same

theorem reach_self (state : Sockets) (stage : Stage) :
    state.reach sock stage sock = { state sock with stage } := Function.update_self ..

end Frame

end Btio

end Btle.Native

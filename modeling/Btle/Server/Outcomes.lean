import Btle.Server.Replies

namespace Btle.Server

open Throwing

theorem handlers_mem {opcode : UInt8} {handler : Handler}
    (looked : handlers.lookup opcode = some handler) : (opcode, handler) ∈ handlers := by
  rcases List.lookup_eq_some_iff.mp looked with ⟨earlier, later, split, _⟩
  rw [split]
  exact List.mem_append_right earlier List.mem_cons_self

theorem opcode_of_lookup {opcode expected : UInt8} {handler : Handler}
    (only : ∀ entry ∈ handlers, entry.2 = handler → entry.1 = expected)
    (looked : handlers.lookup opcode = some handler) : opcode = expected :=
  only _ (handlers_mem looked) rfl

section Fields

variable {α : Type} {program : Js α} {central : CentralRef} {data : Buffer} {world : World}

theorem field_missing {offset : Nat} (short : data.length ≤ offset + 1) (next : Nat → Js Unit)
    (world : World) :
    ∃ thrown, (Js.ofExcept (Buffer.readUInt16LE data offset) >>= next).run world =
      .error thrown world := by
  unfold Buffer.readUInt16LE
  rw [if_neg (by omega)]
  exact ⟨_, rfl⟩

theorem field_read {offset : Nat} (long : offset + 1 < data.length) (next : Nat → Js Unit)
    (world : World) :
    (Js.ofExcept (Buffer.readUInt16LE data offset) >>= next).run world =
      (next (word data offset)).run world := by
  rw [readUInt16LE_iff.mpr ⟨long, rfl⟩]
  rfl

theorem threw (program : Js Unit) (world : World)
    (threw : ∃ thrown, program.run world = .error thrown world) :
    ¬ Returns program world ∧ after program world = world := by
  rcases threw with ⟨thrown, ran⟩
  rw [Returns, after_error ran, ran]
  exact ⟨not_false, rfl⟩

theorem unsupported_settles (host : Host) (central : CentralRef) (opcode : UInt8) (world : World) :
    Settles (sendError host central errorReqNotSupported opcode 0) central world (IsError opcode)
      (fun goal => goal 5) :=
  sendError_settles host central errorReqNotSupported opcode (by decide) world

theorem handleRead_settles (host : Host) (central : CentralRef) (data : Buffer) (world : World) :
    Settles (handleRead host central data) central world (IsError opReadRequest)
      (fun goal => 2 ≤ data.length ∧ goal 5) := by
  refine (settles_ofExcept fun handle read => settles_get
    (sendError_settles host central errorAttrNotFound opReadRequest ?_ world)).congr _ fun goal => ?_
  · exact (readUInt16LE_iff.mp read).2 ▸ word_small data 0
  · simp only [readUInt16LE_iff]
    constructor
    · intro fits
      rcases fits with ⟨long, five⟩
      exact ⟨_, ⟨long, rfl⟩, five⟩
    · intro read
      rcases read with ⟨_, ⟨long, _⟩, five⟩
      exact ⟨long, five⟩

theorem handleError_outcome (central : CentralRef) (data : Buffer) (world : World) :
    (Returns (handleError central data) world ↔ 4 ≤ data.length) ∧
      (after (handleError central data) world).sent = world.sent := by
  by_cases long : 4 ≤ data.length
  · have ran : (handleError central data).run world = .ok () { world with
        remoteErrors := world.remoteErrors ++ [(central,
          { opcode := data[1]?, handle := word data 2, errCode := data[4]? })] } :=
      field_read (by omega) _ world
    have returned := returns_iff.mpr ⟨_, _, ran⟩
    exact ⟨iff_of_true returned long, by rw [after_ok ran]⟩
  · obtain ⟨stopped, left⟩ := threw (handleError central data) world
      (field_missing (by omega) _ world)
    exact ⟨iff_of_false stopped long, by rw [left]⟩

theorem handleReadBlob_outcome (data : Buffer) (world : World) :
    (Returns (handleReadBlob data) world ↔ 4 ≤ data.length) ∧
      after (handleReadBlob data) world = world := by
  by_cases two : 2 ≤ data.length
  · have first : (handleReadBlob data).run world =
        (Js.ofExcept (Buffer.readUInt16LE data 2) >>= fun _ => pure () : Js Unit).run world :=
      field_read (by omega) _ world
    by_cases long : 4 ≤ data.length
    · have ran := first.trans (field_read (by omega) _ world)
      exact ⟨iff_of_true (returns_iff.mpr ⟨_, _, ran⟩) long, after_ok ran⟩
    · obtain ⟨thrown, failed⟩ := field_missing (show data.length ≤ 2 + 1 by omega)
        (fun _ => pure ()) world
      rcases threw (handleReadBlob data) world ⟨thrown, first.trans failed⟩ with ⟨stopped, left⟩
      exact ⟨iff_of_false stopped long, left⟩
  · obtain ⟨stopped, left⟩ := threw (handleReadBlob data) world
      (field_missing (by omega) _ world)
    exact ⟨iff_of_false stopped (by omega), left⟩

theorem handlesFrom_cases : ∀ data : Buffer,
    (data.length % 2 = 0 ∧ ∃ handles, handleReadMulti.handlesFrom data = .ok handles) ∨
    (data.length % 2 = 1 ∧ ∃ thrown, handleReadMulti.handlesFrom data = .error thrown)
  | [] => .inl ⟨rfl, [], rfl⟩
  | [_] => .inr ⟨rfl, _, rfl⟩
  | low :: high :: rest => by
    rcases handlesFrom_cases rest with ⟨even, handles, taken⟩ | ⟨odd, thrown, failed⟩
    · exact .inl ⟨(Nat.add_mod_right rest.length 2).trans even, _, by
        rw [handleReadMulti.handlesFrom, taken]
        rfl⟩
    · exact .inr ⟨(Nat.add_mod_right rest.length 2).trans odd, thrown, by
        rw [handleReadMulti.handlesFrom, failed]
        rfl⟩

theorem handleReadMulti_outcome (data : Buffer) (world : World) :
    (Returns (handleReadMulti data) world ↔ data.length % 2 = 0) ∧
      after (handleReadMulti data) world = world := by
  unfold handleReadMulti
  rcases handlesFrom_cases data with ⟨even, handles, taken⟩ | ⟨odd, thrown, failed⟩
  · rw [taken]
    exact ⟨iff_of_true trivial even, rfl⟩
  · rw [failed]
    exact ⟨iff_of_false not_false (by omega), rfl⟩

end Fields

section Mtu

def negotiated (requested : Nat) (mtu : UInt16) : UInt16 :=
  if requested < defaultMtu.toNat then defaultMtu
  else if requested < mtu.toNat then UInt16.ofNat requested
  else mtu

def World.adopt (world : World) (central : CentralRef) (mtu : UInt16) : World :=
  { world.setCentral central { world.central central with mtu } with mtuSize := mtu }

def mtuResponse (mtu : Nat) : Buffer := opMtuResponse :: LittleEndian.bytes 2 mtu

@[simp] theorem mtuResponse_length (mtu : Nat) : (mtuResponse mtu).length = 3 := rfl

theorem mtuResponse_head (mtu : Nat) : (mtuResponse mtu).head? = some opMtuResponse := rfl

theorem writeMtu (host : Host) (number : Nat) (mtu : UInt16) :
    Buffer.writeUInt16LE ((host.newBuffer number 3).set 0 opMtuResponse) (some mtu.toNat) 1 =
      .ok (mtuResponse mtu.toNat) := by
  have small : mtu.toNat ≤ 0xFFFF := Nat.le_of_lt_succ mtu.toNat_lt
  have inside : 1 + 1 < ((host.newBuffer number 3).set 0 opMtuResponse).length := by simp
  simp only [Buffer.writeUInt16LE, if_pos inside, if_pos small]
  rfl

/-- The server's own MTU is answered, and what is agreed on then holds. -/
theorem handleMtu_outcome (host : Host) (central : CentralRef) (data : Buffer) (world : World)
    (long : 2 ≤ data.length) :
    let mtu := (world.central central).mtu
    let answered := { world with
      mtuSize := mtu, sent := world.sent ++ [(central, mtuResponse mtu.toNat)] }
    (Returns (handleMtu host central data) world ↔ 3 ≤ mtu.toNat) ∧
      after (handleMtu host central data) world =
        if 3 ≤ mtu.toNat then answered.adopt central (negotiated (word data 0) mtu)
        else answered := by
  intro mtu answered
  have wrote := writeMtu host world.sent.length mtu
  have read : Buffer.readUInt16LE data 0 = .ok (word data 0) := readUInt16LE_iff.mpr ⟨by omega, rfl⟩
  by_cases room : (mtuResponse mtu.toNat).length ≤ (world.central central).mtu.toNat
  · have ran : (handleMtu host central data).run world =
        .ok () (answered.adopt central (negotiated (word data 0) mtu)) := by
      simp only [handleMtu, EStateM.run_bind, EStateM.run_get, EStateM.run_modify, read, wrote, mtu,
        Js.ofExcept, EStateM.run_pure, write_run, if_pos room]
      unfold negotiated
      split
      · rfl
      · split
        · rfl
        · simp [World.adopt, World.setCentral, answered, mtu]
    have returned := returns_iff.mpr ⟨_, _, ran⟩
    exact ⟨iff_of_true returned room, (after_ok ran).trans (if_pos room).symm⟩
  · have ran : (handleMtu host central data).run world =
        .error (overlong 3 mtu.toNat) answered := by
      simp only [handleMtu, EStateM.run_bind, EStateM.run_get, EStateM.run_modify, read, wrote, mtu,
        Js.ofExcept, EStateM.run_pure, write_run, if_neg room]
      rfl
    refine ⟨iff_of_false (fun returned => ?_) room, (after_error ran).trans (if_neg room).symm⟩
    rw [Returns, ran] at returned
    exact returned

theorem handleMtu_sent (host : Host) (central : CentralRef) {data : Buffer} (world : World)
    (long : 2 ≤ data.length) : (after (handleMtu host central data) world).sent =
      world.sent ++ [(central, mtuResponse (world.central central).mtu.toNat)] := by
  rw [(handleMtu_outcome host central data world long).2]
  split <;> rfl

end Mtu

section Write

variable {host : Host} {world : World} {ref : AttrRef} {value : Buffer}

def World.assigned (world : World) (ref : AttrRef) (value : Option Buffer) : World :=
  world.setAttribute ref { world.attrib ref with value }

theorem assigned_self (world : World) (ref : AttrRef) (value : Option Buffer) :
    (world.assigned ref value).attrib ref = { world.attrib ref with value } :=
  Function.update_self ref _ _

theorem assigned_other {other : AttrRef} (different : other ≠ ref) (value : Option Buffer) :
    (world.assigned ref value).attrib other = world.attrib other :=
  Function.update_of_ne different _ _

@[simp] theorem assigned_listeners (world : World) (ref : AttrRef) (value : Option Buffer) :
    ((world.assigned ref value).attrib ref).listeners = (world.attrib ref).listeners := by
  rw [assigned_self]

def TakesValue (host : Host) (world : World) (ref : AttrRef) (value : Buffer) : Prop :=
  ∀ listener ∈ (world.attrib ref).listeners, QuietFor host (world.assigned ref (some value)) ref listener

theorem setValue_buffer_run (host : Host) (world : World) (ref : AttrRef) (value : Buffer) :
    (setValue host ref (.buffer value)).run world =
      (emitValueChanged host ref host.stack).run (world.assigned ref (some value)) := rfl

theorem setValue_buffer_returns (host : Host) (world : World) (ref : AttrRef) (value : Buffer) :
    Returns (setValue host ref (.buffer value)) world ↔ TakesValue host world ref value := by
  rw [Returns, setValue_buffer_run]
  apply (emitValueChanged_returns host.stack).trans
  simp [TakesValue, World.assigned, World.setAttribute]

theorem setValue_buffer_pushes (host : Host) (world : World) (ref : AttrRef) (value : Buffer) :
    Pushes (world.assigned ref (some value)) (after (setValue host ref (.buffer value)) world) := by
  rw [after, setValue_buffer_run]
  exact emitValueChanged_keeps host ref host.stack (world.assigned ref (some value))

def writeTarget (world : World) (handle : Nat) (respond : Bool) : Option AttrRef :=
  (getAttribute world handle).filter fun ref => (world.attrib ref).permitsWrite respond

theorem doWrite_refused (host : Host) (central : CentralRef) {handle : Nat} (small : handle ≤ 0xFFFF)
    (value : Buffer) {respond : Bool} (refused : writeTarget world handle respond = none) :
    Settles (doWrite host central handle value respond) central world (IsError opWriteRequest)
      (fun goal => goal 5) := by
  apply settles_get
  cases found : getAttribute world handle with
  | none => exact sendError_settles host central _ _ small world
  | some ref =>
    have denied : (world.attrib ref).permitsWrite respond = false := by
      simpa [writeTarget, found, Option.filter] using refused
    simp only [denied]
    exact sendError_settles host central _ _ small world

def World.calls (world : World) (ref : AttrRef) : List AttrRef :=
  if (world.attrib ref).writeCallback then [ref] else []

theorem callWriteCallback_run (ref : AttrRef) (world : World) :
    (callWriteCallback ref).run world =
      .ok () { world with writeCalls := world.writeCalls ++ world.calls ref } := by
  simp only [callWriteCallback, World.calls, EStateM.run_bind, EStateM.run_get]
  by_cases called : (world.attrib ref).writeCallback = true
  · rw [if_pos called, if_pos called]
    rfl
  · rw [if_neg called, if_neg called, List.append_nil]
    rfl

theorem calls_own {other : AttrRef} (member : other ∈ world.calls ref) : other = ref := by
  unfold World.calls at member
  split at member
  · exact List.mem_singleton.mp member
  · cases member

/-- A write that is permitted pushes what the listeners send. After these returned its callback is
    called, and it is answered if an answer is wanted. -/
theorem doWrite_permitted (host : Host) (central : CentralRef) {handle : Nat} (value : Buffer)
    {respond : Bool} (target : writeTarget world handle respond = some ref) :
    (Returns (doWrite host central handle value respond) world ↔ TakesValue host world ref value ∧
      (respond = true → 1 ≤ (world.central central).mtu.toNat)) ∧
    let next := after (setValue host ref (.buffer value)) world
    ∃ answer calls, after (doWrite host central handle value respond) world =
        { next with sent := next.sent ++ answer, writeCalls := next.writeCalls ++ calls } ∧
      (respond = true ∧ TakesValue host world ref value → answer = [(central, [opWriteResponse])]) ∧
      (¬ (respond = true ∧ TakesValue host world ref value) → answer = []) ∧
      ∀ other ∈ calls, other = ref := by
  rcases Option.filter_eq_some_iff.mp target with ⟨found, permits⟩
  have start : (doWrite host central handle value respond).run world =
      (do setValue host ref (.buffer value)
          callWriteCallback ref
          if respond then Central.write central ((host.newBuffer (← get).sent.length 1).set 0 opWriteResponse)
            : Js Unit).run world := by
    unfold doWrite
    rw [EStateM.run_bind, EStateM.run_get]
    simp only [found, permits, if_true]
  rw [EStateM.run_bind] at start
  have whole := setValue_buffer_returns host world ref value
  cases ran : (setValue host ref (.buffer value)).run world with
  | error thrown next =>
    rw [Returns, ran] at whole
    have stuck : ¬ TakesValue host world ref value := fun takes => whole.mpr takes
    rw [ran] at start
    refine ⟨iff_of_false ?_ fun both => stuck both.1, [], [], ?_,
      fun both => absurd both.2 stuck, fun _ => rfl, by simp⟩
    · rw [Returns, start]
      exact not_false
    · rw [after_error start, after_error ran, List.append_nil, List.append_nil]
  | ok done next =>
    rw [Returns, ran] at whole
    have takes : TakesValue host world ref value := whole.mp trivial
    rw [ran] at start
    have called : (callWriteCallback ref).run next = .ok () { next with
        writeCalls := next.writeCalls ++ next.calls ref } := callWriteCallback_run ref next
    have own : ∀ other ∈ next.calls ref, other = ref := fun _ member => calls_own member
    simp only [EStateM.run_bind, called] at start
    cases respond with
    | false =>
      refine ⟨iff_of_true (returns_iff.mpr ⟨_, _, start⟩) ⟨takes, by simp⟩, [], next.calls ref, ?_,
        by simp, fun _ => rfl, own⟩
      rw [after_ok start, after_ok ran, List.append_nil]
    | true =>
      have same : (doWrite host central handle value true).run world =
          (Central.write central [opWriteResponse]).run
            { next with writeCalls := next.writeCalls ++ next.calls ref } := start
      refine ⟨?_, [(central, [opWriteResponse])], next.calls ref, ?_, fun _ => rfl,
        fun without => absurd ⟨rfl, takes⟩ without, own⟩
      · rw [Returns, same]
        apply write_returns.trans
        have mtu := (setValue_buffer_pushes host world ref value).mtu central
        rw [after_ok ran] at mtu
        rw [mtu]
        simp [takes, World.assigned, World.setAttribute]
      · rw [after, same, ← after, write_after, after_ok ran]

theorem doWrite_attrib (host : Host) (central : CentralRef) {handle : Nat} (value : Buffer)
    {respond : Bool} (target : writeTarget world handle respond = some ref) :
    (after (doWrite host central handle value respond) world).attrib =
      (world.assigned ref (some value)).attrib := by
  rcases doWrite_permitted host central value target with ⟨_, answer, calls, left, _⟩
  rw [left]
  exact (setValue_buffer_pushes host world ref value).attrib

end Write

end Btle.Server

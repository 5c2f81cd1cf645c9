import Btle.Library.Twins
import Btle.Server.Mirrors
import Btle.Server.ReadBack

namespace Btle.Server

open Machine Relating Throwing

/-- A listener that comes to push something, if it can. -/
def Tries (world : World) : Listener → Prop
  | .notification _ _ => True
  | .indication _ central => (world.central central).waitingForConfirmation = false
  | .reemit | .application _ => False

/-- An emission pushes something: a listener tries to, and none before it throws. -/
def PushGoesOut (host : Host) (world : World) (ref : AttrRef) : Prop :=
  Prepared host world ref ∧ ∃ before listener rest,
    (world.attrib ref).listeners = before ++ listener :: rest ∧
      (∀ other ∈ before, QuietFor host world ref other) ∧ Tries world listener

/-- What is pushed is no longer than the value that is copied into it. -/
def Filled (host : Host) (world : World) (ref : AttrRef) : Prop :=
  ∀ value, (world.attrib ref).value = some value → pushLength host world ref ≤ value.length + 3

/-- Nothing that is answered or pushed has bytes in it that are not written: there is an opcode that
    is supported, no error is about handle 0, and what a write pushes is filled by the value. -/
def Initialised (host : Host) (world : World) (pdu : Buffer) : Prop :=
  (∃ opcode data handler, pdu = opcode :: data ∧ handlers.lookup opcode = some handler ∧
    (handler.Errs host world data → word data 0 ≠ 0)) ∧
  ∀ ref value, writeIn world pdu = some (ref, value) →
    PushGoesOut host (world.assigned ref (some value)) ref →
      Filled host (world.assigned ref (some value)) ref

section Emission

variable {host : Host} {world : World} {ref : AttrRef}

theorem sendValue_silent {opcode : UInt8} {central : CentralRef}
    (unprepared : ¬ Prepared host world ref) :
    after (sendValue host opcode ref central) world = world ∧
      ¬ Returns (sendValue host opcode ref central) world := by
  rcases sendValue_unprepared opcode central unprepared with ⟨thrown, ran⟩
  refine ⟨after_error ran, ?_⟩
  rw [Returns, ran]
  exact not_false

/-- A listener that has nothing to push leaves all as it is, and returns only if it is quiet. -/
theorem callListener_silent {again : Js Unit} {listener : Listener}
    (nested : listener = .reemit → after again world = world ∧ ¬ Returns again world)
    (idle : ¬ (Prepared host world ref ∧ Tries world listener)) :
    after (callListener host ref again listener) world = world ∧
      (Returns (callListener host ref again listener) world → QuietFor host world ref listener) := by
  cases listener with
  | reemit =>
    rcases nested rfl with ⟨silent, stopped⟩
    exact ⟨silent, fun returned => absurd returned stopped⟩
  | application number =>
    exact ⟨callApplication_after host number ref world, callApplication_returns.mp⟩
  | notification stamp central =>
    have unprepared : ¬ Prepared host world ref := fun prepared => idle ⟨prepared, trivial⟩
    rcases sendValue_silent unprepared with ⟨silent, stopped⟩
    exact ⟨silent, fun returned => absurd returned stopped⟩
  | indication stamp central =>
    cases waiting : (world.central central).waitingForConfirmation with
    | true => exact ⟨after_ok (indicate_run_waiting waiting), fun _ => .inl waiting⟩
    | false =>
      have unprepared : ¬ Prepared host world ref := fun prepared => idle ⟨prepared, waiting⟩
      rcases sendValue_unprepared opHandleIndicate central unprepared with ⟨thrown, ran⟩
      have start := indicate_run host ref waiting
      rw [EStateM.run_bind, ran] at start
      refine ⟨after_error start, fun returned => ?_⟩
      rw [callListener, Returns, start] at returned
      exact absurd returned not_false

theorem listeners_silent {again : Js Unit} (before : List Listener) {rest : List Listener}
    (listed : (world.attrib ref).listeners = before ++ rest)
    (quiet : ∀ listener ∈ before, QuietFor host world ref listener)
    (nested : .reemit ∈ rest → after again world = world ∧ ¬ Returns again world)
    (nothing : ¬ PushGoesOut host world ref) :
    after (rest.forM (callListener host ref again)) world = world := by
  induction rest generalizing before with
  | nil => rfl
  | cons listener rest ih =>
    have idle : ¬ (Prepared host world ref ∧ Tries world listener) := fun both =>
      nothing ⟨both.1, before, listener, rest, listed, quiet, both.2⟩
    rcases callListener_silent (fun same => nested (same ▸ List.mem_cons_self)) idle with
      ⟨silent, quiet_then⟩
    show after (callListener host ref again listener >>= fun _ => _) world = world
    cases ran : (callListener host ref again listener).run world with
    | error thrown next =>
      rw [after_error ran] at silent
      rw [after, EStateM.run_bind, ran, silent]
    | ok done next =>
      rw [after_ok ran] at silent
      subst silent
      have returned := returns_iff.mpr ⟨_, _, ran⟩
      have onward := ih (before ++ [listener]) (by simpa using listed) ?_
        fun member => nested (List.mem_cons_of_mem _ member)
      · rw [after, EStateM.run_bind, ran, ← after]
        exact onward
      · intro other member
        rcases List.mem_append.mp member with here | here
        · exact quiet other here
        · rw [List.mem_singleton.mp here]
          exact quiet_then returned

/-- Where no push goes out an emission leaves all as it is. -/
theorem emission_silent (nothing : ¬ PushGoesOut host world ref) (depth : Nat) :
    after (emitValueChanged host ref depth) world = world := by
  induction depth with
  | zero => exact listeners_silent [] rfl (by simp) (fun _ => ⟨rfl, not_false⟩) nothing
  | succ depth ih =>
    refine listeners_silent [] rfl (by simp) (fun member => ⟨ih, fun returned => ?_⟩) nothing
    exact (emitValueChanged_returns depth).mp returned .reemit member

end Emission

section Twins

variable {host : Host} {garbage : Nat → Nat → UInt8} {clean : Prop}
  {base twin : List (CentralRef × Buffer)} {world other : World} {ref : AttrRef}

abbrev SameBut (clean : Prop) (base twin : List (CentralRef × Buffer)) : World → World → Prop :=
  Mirrored Eq clean base twin

/-- In an emission what is pushed is filled, if all is clean. -/
def Emitting (host : Host) (ref : AttrRef) (clean : Prop) (base twin : List (CentralRef × Buffer))
    (world other : World) : Prop :=
  SameBut clean base twin world other ∧ (clean → Filled host world ref)

theorem filled_after {next : World} (pushes : Pushes world next) (filled : Filled host world ref) :
    Filled host next ref := by
  unfold Filled pushLength at *
  rw [pushes.attrib, pushes.mtuSize]
  exact filled

theorem prepared_twin (same : SameBut clean base twin world other) :
    Prepared (host.refilled garbage) other ref ↔ Prepared host world ref := by
  unfold Prepared
  rw [same.mtuSize, ← same.attrib]
  rfl

theorem pushLength_twin (same : SameBut clean base twin world other) :
    pushLength (host.refilled garbage) other ref = pushLength host world ref := by
  unfold pushLength
  rw [same.mtuSize, ← same.attrib]
  rfl

theorem pushOf_filled {number twin_number handle size : Nat} {opcode : UInt8} {value : Buffer}
    (filled : size ≤ value.length + 3) :
    pushOf (host.refilled garbage) opcode twin_number handle size value =
      pushOf host opcode number handle size value := by
  have spent (other : Host) (number : Nat) :
      (other.newBuffer number size).drop (3 + value.length) = [] := by
    apply List.drop_eq_nil_of_le
    rw [newBuffer_length]
    omega
  rw [pushOf, pushOf, spent, spent]

theorem sendValue_alike {opcode : UInt8} (kind : opcode = opHandleNotify ∨ opcode = opHandleIndicate)
    (central : CentralRef) :
    Matches (Emitting host ref clean base twin) Eq (sendValue host opcode ref central)
      (sendValue (host.refilled garbage) opcode ref central) := by
  intro world other emitting
  rcases emitting with ⟨same, filled⟩
  have kept : clean → Filled host (after (sendValue host opcode ref central) world) ref :=
    fun ok => filled_after (sendValue_keeps host ref central kind world) (filled ok)
  suffices Alike (SameBut clean base twin) Eq ((sendValue host opcode ref central).run world)
      ((sendValue (host.refilled garbage) opcode ref central).run other) from this.also kept
  by_cases prepared : Prepared host world ref
  · rcases prepared with ⟨room, bound, present, handle, held, small⟩
    rcases Option.ne_none_iff_exists'.mp present with ⟨value, present⟩
    have twin_room : 3 ≤ other.mtuSize.toNat := by rwa [same.mtuSize]
    have twin_bound : (host.refilled garbage).freeValue (other.attrib ref) ≠ none := by
      rw [← same.attrib]
      exact bound
    have twin_present : (other.attrib ref).value = some value := by rw [← same.attrib, present]
    have twin_held : (other.attrib ref).handle = some handle := by rw [← same.attrib, held]
    have enough : 3 ≤ pushLength host world ref := by
      rw [pushLength]
      omega
    rw [sendValue_run opcode central room bound present held small,
      sendValue_run opcode central twin_room twin_bound twin_present twin_held small,
      pushLength_twin same]
    apply write_alike same central
    · rw [pushOf_length _ _ _ _ _ enough, pushOf_length _ _ _ _ _ enough]
    · intro ok
      exact (pushOf_filled (filled ok value present)).symm
  · rcases sendValue_unprepared opcode central prepared with ⟨thrown, ran⟩
    rcases sendValue_unprepared opcode central (mt (prepared_twin same).mp prepared) with
      ⟨instead, twin_ran⟩
    rw [ran, twin_ran]
    exact .error same

theorem setWaiting_same (same : SameBut clean base twin world other) (central : CentralRef)
    (waiting : Bool) :
    SameBut clean base twin
      (world.setCentral central { world.central central with waitingForConfirmation := waiting })
      (other.setCentral central { other.central central with waitingForConfirmation := waiting }) :=
  same.changed rfl rfl rfl rfl (by rw [same.same]; rfl)

theorem indicate_alike (central : CentralRef) :
    Matches (Emitting host ref clean base twin) Eq (indicate host ref central)
      (indicate (host.refilled garbage) ref central) := by
  intro world other emitting
  have flag : (other.central central).waitingForConfirmation =
      (world.central central).waitingForConfirmation := by rw [emitting.1.central]
  cases waiting : (world.central central).waitingForConfirmation with
  | true =>
    rw [indicate_run_waiting waiting, indicate_run_waiting (flag.trans waiting)]
    exact .ok rfl emitting
  | false =>
    rw [indicate_run host ref waiting, indicate_run _ ref (flag.trans waiting)]
    apply (sendValue_alike (.inr rfl) central world other emitting).bind
    intro _ _ middle between _ kept
    exact .ok rfl ⟨setWaiting_same kept.1 central true, fun ok => kept.2 ok⟩

theorem callListener_alike {again again' : Js Unit}
    (nested : Matches (Emitting host ref clean base twin) Eq again again') (listener : Listener) :
    Matches (Emitting host ref clean base twin) Eq (callListener host ref again listener)
      (callListener (host.refilled garbage) ref again' listener) := by
  cases listener with
  | reemit => exact nested
  | application number =>
    intro world other emitting
    have unchanged : (host.refilled garbage).application = host.application := rfl
    rw [callListener, callListener, callApplication_run, callApplication_run, ← emitting.1.attrib, unchanged]
    cases host.application number (world.attrib ref) with
    | none => exact .ok rfl emitting
    | some thrown => exact .error emitting
  | notification stamp central => exact sendValue_alike (.inl rfl) central
  | indication stamp central => exact indicate_alike central

theorem callListeners_alike {again again' : Js Unit}
    (nested : Matches (Emitting host ref clean base twin) Eq again again') :
    Matches (Emitting host ref clean base twin) Eq (callListeners host ref again)
      (callListeners (host.refilled garbage) ref again') := by
  intro world other emitting
  have each : Matches (Emitting host ref clean base twin) Eq
      ((world.attrib ref).listeners.forM (callListener host ref again))
      ((world.attrib ref).listeners.forM (callListener (host.refilled garbage) ref again')) :=
    matches_forM fun listener _ => callListener_alike nested listener
  have alike := each world other emitting
  unfold callListeners
  rw [EStateM.run_bind, EStateM.run_bind, EStateM.run_get, EStateM.run_get]
  dsimp only
  rw [← emitting.1.attrib]
  exact alike

theorem emission_alike (depth : Nat) :
    Matches (Emitting host ref clean base twin) Eq (emitValueChanged host ref depth)
      (emitValueChanged (host.refilled garbage) ref depth) := by
  induction depth with
  | zero => exact callListeners_alike (matches_throw _ _)
  | succ depth ih => exact callListeners_alike ih

theorem quietFor_twin (same : SameBut clean base twin world other) (listener : Listener) :
    QuietFor (host.refilled garbage) other ref listener ↔ QuietFor host world ref listener := by
  have pushable : ∀ central, Pushable (host.refilled garbage) other ref central ↔
      Pushable host world ref central := by
    intro central
    unfold Pushable
    rw [prepared_twin same, pushLength_twin same, same.central]
  cases listener with
  | reemit => exact Iff.rfl
  | application number =>
    unfold QuietFor
    rw [← same.attrib]
    exact Iff.rfl
  | notification stamp central => exact pushable central
  | indication stamp central =>
    simp only [QuietFor]
    rw [pushable, same.central]

theorem pushGoesOut_twin (same : SameBut clean base twin world other) :
    PushGoesOut (host.refilled garbage) other ref ↔ PushGoesOut host world ref := by
  have tries : ∀ listener, Tries other listener ↔ Tries world listener := by
    intro listener
    cases listener with
    | reemit | application | notification => exact Iff.rfl
    | indication stamp central =>
      simp only [Tries]
      rw [same.central]
  unfold PushGoesOut
  simp only [prepared_twin same, quietFor_twin same, tries, ← same.attrib]

/-- What an emission leaves does not depend on the bytes of new buffers, as long as all that is
    pushed is filled. -/
theorem emission_same (same : SameBut clean base twin world other) (depth : Nat)
    (filled : clean → PushGoesOut host world ref → Filled host world ref) :
    Alike (SameBut clean base twin) Eq ((emitValueChanged host ref depth).run world)
      ((emitValueChanged (host.refilled garbage) ref depth).run other) := by
  by_cases goes_out : PushGoesOut host world ref
  · have emitting : Emitting host ref clean base twin world other :=
      ⟨same, fun ok => filled ok goes_out⟩
    exact (emission_alike depth world other emitting).mono fun _ _ kept => kept.1
  · rcases same.sent with ⟨added, more, sent, twin_sent, length, _⟩
    have loose : SameBut False base twin world other :=
      ⟨same.attrib, same.same, added, more, sent, twin_sent, length, nofun⟩
    have emitting : Emitting host ref False base twin world other := ⟨loose, nofun⟩
    apply (emission_alike depth world other emitting).unchanged
    · exact emission_silent goes_out depth
    · exact emission_silent (mt (pushGoesOut_twin same).mp goes_out) depth
    · exact same

theorem setValue_same (same : SameBut clean base twin world other) (ref : AttrRef) (value : Buffer)
    (filled : clean → PushGoesOut host (world.assigned ref (some value)) ref →
      Filled host (world.assigned ref (some value)) ref) :
    Alike (SameBut clean base twin) Eq ((setValue host ref (.buffer value)).run world)
      ((setValue (host.refilled garbage) ref (.buffer value)).run other) := by
  have assigned : SameBut clean base twin (world.assigned ref (some value))
      (other.assigned ref (some value)) := by
    refine ⟨?_, ?_, same.sent⟩
    · simp only [World.assigned, World.setAttribute, same.attrib]
    · rw [same.same]
      rfl
  rw [setValue_buffer_run, setValue_buffer_run]
  exact emission_same assigned host.stack filled

theorem callWriteCallback_same (same : SameBut clean base twin world other) (ref : AttrRef) :
    Alike (SameBut clean base twin) Eq ((callWriteCallback ref).run world)
      ((callWriteCallback ref).run other) := by
  have calls : other.calls ref = world.calls ref := by
    rw [World.calls, World.calls, ← same.attrib]
  have changed : SameBut clean base twin
      { world with writeCalls := world.writeCalls ++ world.calls ref }
      { other with writeCalls := other.writeCalls ++ other.calls ref } :=
    same.changed rfl rfl rfl rfl (by rw [calls, same.same])
  rw [callWriteCallback_run, callWriteCallback_run]
  exact .ok rfl changed

theorem getAttribute_same (same : SameBut clean base twin world other) (handle : Nat) :
    getAttribute other handle = getAttribute world handle := by
  rw [getAttribute, getAttribute, same.handles]

theorem doWrite_same (same : SameBut clean base twin world other) (central : CentralRef)
    {handle : Nat} (small : handle ≤ 0xFFFF) (value : Buffer) (respond : Bool)
    (named : clean → writeTarget world handle respond = none → handle ≠ 0)
    (filled : clean → ∀ ref, writeTarget world handle respond = some ref →
      PushGoesOut host (world.assigned ref (some value)) ref →
        Filled host (world.assigned ref (some value)) ref) :
    Alike (SameBut clean base twin) Eq ((doWrite host central handle value respond).run world)
      ((doWrite (host.refilled garbage) central handle value respond).run other) := by
  unfold doWrite
  rw [EStateM.run_bind, EStateM.run_bind, EStateM.run_get, EStateM.run_get]
  dsimp only
  rw [getAttribute_same same]
  unfold writeTarget at named filled
  cases found : getAttribute world handle with
  | none =>
    exact sendError_alike same central _ _ small fun ok => .inr (named ok (by rw [found]; rfl))
  | some ref =>
    rw [found] at named filled
    dsimp only
    rw [← same.attrib]
    by_cases permits : (world.attrib ref).permitsWrite respond = true
    · have target : Option.filter (fun ref => (world.attrib ref).permitsWrite respond) (some ref) =
          some ref := by rw [Option.filter_some, if_pos permits]
      rw [if_pos permits, if_pos permits]
      apply (setValue_same same ref value fun ok => filled ok ref target).bind
      intro _ _ middle between _ kept
      apply (callWriteCallback_same kept ref).bind
      intro _ _ middle between _ kept
      cases respond with
      | false => exact .ok rfl kept
      | true => exact write_alike kept central rfl fun _ => rfl
    · have target : Option.filter (fun ref => (world.attrib ref).permitsWrite respond) (some ref) =
          none := by rw [Option.filter_some, if_neg permits]
      rw [if_neg permits, if_neg permits]
      exact sendError_alike same central _ _ small fun ok => .inr (named ok target)

section Handlers

variable (central : CentralRef) (data : Buffer)

theorem handleError_same (same : SameBut clean base twin world other) :
    Alike (SameBut clean base twin) Eq ((handleError central data).run world)
      ((handleError central data).run other) := by
  unfold handleError
  refine ofExcept_alike same fun handle _ => ?_
  exact .ok rfl (same.changed rfl rfl rfl rfl (by rw [same.same]))

theorem handleMtu_same (same : SameBut clean base twin world other) :
    Alike (SameBut clean base twin) Eq ((handleMtu host central data).run world)
      ((handleMtu (host.refilled garbage) central data).run other) := by
  have mtu : (other.central central).mtu = (world.central central).mtu := by rw [same.central]
  unfold handleMtu
  refine ofExcept_alike same fun requested _ => ?_
  rw [EStateM.run_bind, EStateM.run_bind, EStateM.run_get, EStateM.run_get]
  dsimp only
  rw [mtu, EStateM.run_bind, EStateM.run_bind, EStateM.run_modify, EStateM.run_modify]
  dsimp only
  rw [EStateM.run_bind, EStateM.run_bind, EStateM.run_get, EStateM.run_get]
  dsimp only
  rw [writeMtu, writeMtu]
  have changed : SameBut clean base twin { world with mtuSize := (world.central central).mtu }
      { other with mtuSize := (world.central central).mtu } :=
    same.changed rfl rfl rfl rfl (by rw [same.same])
  apply (write_alike changed central rfl fun _ => rfl).bind
  intro _ _ middle between _ kept
  have set : ∀ size, SameBut clean base twin (after (setMtu central size) middle)
      (after (setMtu central size) between) := by
    intro size
    exact kept.changed rfl rfl rfl rfl (by rw [kept.same]; rfl)
  split
  · exact .ok rfl (set _)
  · split
    · exact .ok rfl (set _)
    · exact .ok rfl kept

theorem types_same (same : SameBut clean base twin world other) (ref : AttrRef) :
    (other.attrib ref).type = (world.attrib ref).type := by
  rw [same.attrib]

theorem handleFindInfo_same (same : SameBut clean base twin world other)
    (named : clean → Handler.findInfo.Errs host world data → word data 0 ≠ 0) :
    Alike (SameBut clean base twin) Eq ((handleFindInfo host central data).run world)
      ((handleFindInfo (host.refilled garbage) central data).run other) :=
  handleFindInfo_alike central data same (types_same same) fun ok => .inr (named ok)

theorem handleFindByType_same (same : SameBut clean base twin world other)
    (named : clean → Handler.findByType.Errs host world data → word data 0 ≠ 0) :
    Alike (SameBut clean base twin) Eq ((handleFindByType host central data).run world)
      ((handleFindByType (host.refilled garbage) central data).run other) := by
  have present : ∀ ref, (other.attrib ref).value = none ↔ (world.attrib ref).value = none := by
    intro ref
    rw [same.attrib]
  apply handleFindByType_alike central data same (types_same same) present fun ok => .inr (named ok)
  intro uuids type long got printable valid refs found twin_found
  have same_found : twin_found = found := by
    show matching other.attrib _ _ = matching world.attrib _ _
    rw [same.attrib]
  have kept := same.with_uuids uuids
  rw [same_found, ← same.attrib]
  refine ⟨Iff.rfl, fun _ => ?_⟩
  have held : ∀ attrib ∈ found.map world.attrib, attrib.value = some (data.drop 6) := by
    intro attrib member
    rcases List.mem_map.mp member with ⟨ref, chosen, rfl⟩
    exact of_decide_eq_true (List.mem_filter.mp chosen).2
  have few : (found.map world.attrib).length ≤ 0xFFFF := by
    rw [List.length_map]
    exact matching_few world.attrib data type
  exact (findByTypeResponse_contents host { world with uuids } held few).paired
    (findByTypeResponse_contents (host.refilled garbage) { other with uuids } held few)
    kept.mtuSize (by rw [kept.mtuSize]) (by rw [kept.mtuSize]) fun _ => by rw [kept.mtuSize]

theorem handleReadByType_same (same : SameBut clean base twin world other)
    (named : clean → Handler.readByType.Errs host world data → word data 0 ≠ 0) :
    Alike (SameBut clean base twin) Eq ((handleReadByType host central data).run world)
      ((handleReadByType (host.refilled garbage) central data).run other) := by
  apply handleReadByType_alike central data same (types_same same) fun ok => .inr (named ok)
  intro uuids type _ _ _ refs _
  have kept := same.with_uuids uuids
  rw [← same.attrib]
  exact (readByTypeResponse_contents host { world with uuids } _).paired
    (readByTypeResponse_contents (host.refilled garbage) { other with uuids } _)
    kept.mtuSize (by rw [kept.mtuSize]) (by rw [kept.mtuSize]) fun _ => by rw [kept.mtuSize]

theorem handleReadByGroup_same (same : SameBut clean base twin world other)
    (named : clean → Handler.readByGroup.Errs host world data → word data 0 ≠ 0) :
    Alike (SameBut clean base twin) Eq ((handleReadByGroup host central data).run world)
      ((handleReadByGroup (host.refilled garbage) central data).run other) := by
  apply handleReadByGroup_alike central data same (types_same same) fun ok => .inr (named ok)
  intro uuids type _ _ _ refs _
  have kept := same.with_uuids uuids
  rw [← same.attrib]
  exact (readByGroupResponse_contents host { world with uuids } _).paired
    (readByGroupResponse_contents (host.refilled garbage) { other with uuids } _)
    kept.mtuSize (by rw [kept.mtuSize]) (by rw [kept.mtuSize]) fun _ => by rw [kept.mtuSize]

theorem write_same (same : SameBut clean base twin world other) (respond : Bool)
    (named : clean → 2 ≤ data.length ∧ writeTarget world (word data 0) respond = none →
      word data 0 ≠ 0)
    (filled : clean → 2 ≤ data.length → ∀ ref, writeTarget world (word data 0) respond = some ref →
      PushGoesOut host (world.assigned ref (some (data.drop 2))) ref →
        Filled host (world.assigned ref (some (data.drop 2))) ref) :
    Alike (SameBut clean base twin) Eq
      ((Js.ofExcept (Buffer.readUInt16LE data 0) >>= fun handle =>
        doWrite host central handle (data.drop 2) respond).run world)
      ((Js.ofExcept (Buffer.readUInt16LE data 0) >>= fun handle =>
        doWrite (host.refilled garbage) central handle (data.drop 2) respond).run other) := by
  refine ofExcept_alike same fun handle read => ?_
  rcases readUInt16LE_iff.mp read with ⟨long, rfl⟩
  apply doWrite_same same central (word_small data 0)
  · exact fun ok refused => named ok ⟨by omega, refused⟩
  · exact fun ok => filled ok (by omega)

theorem writeIn_of_request {ref : AttrRef} (long : 2 ≤ data.length)
    (target : writeTarget world (word data 0) true = some ref) :
    writeIn world (opWriteRequest :: data) = some (ref, data.drop 2) := by
  simp only [writeIn, if_neg (Nat.not_lt.mpr long), if_true, target]
  rfl

theorem writeIn_of_command {ref : AttrRef} (long : 2 ≤ data.length)
    (target : writeTarget world (word data 0) false = some ref) :
    writeIn world (opWriteCmd :: data) = some (ref, data.drop 2) := by
  have not_request : opWriteCmd ≠ opWriteRequest := by decide
  simp only [writeIn, if_neg (Nat.not_lt.mpr long), if_neg not_request, if_true, target]
  rfl

theorem Handler.call_same (same : SameBut clean base twin world other) {opcode : UInt8}
    {handler : Handler} (looked : handlers.lookup opcode = some handler)
    (named : clean → handler.Errs host world data → word data 0 ≠ 0)
    (filled : clean → ∀ ref value, writeIn world (opcode :: data) = some (ref, value) →
      PushGoesOut host (world.assigned ref (some value)) ref →
        Filled host (world.assigned ref (some value)) ref) :
    Alike (SameBut clean base twin) Eq ((handler.call host central data).run world)
      ((handler.call (host.refilled garbage) central data).run other) := by
  cases handler with
  | error => exact handleError_same central data same
  | mtu => exact handleMtu_same central data same
  | findInfo => exact handleFindInfo_same central data same named
  | findByType => exact handleFindByType_same central data same named
  | readByType => exact handleReadByType_same central data same named
  | read => exact handleRead_alike central data same fun ok => .inr (named ok)
  | readBlob => exact silent_alike same (handleReadBlob_outcome data)
  | readMulti => exact silent_alike same (handleReadMulti_outcome data)
  | readByGroup => exact handleReadByGroup_same central data same named
  | write =>
    have request : opcode = opWriteRequest := opcode_of_lookup (by decide) looked
    subst request
    apply write_same central data same true named
    intro ok long ref target
    exact filled ok ref _ (writeIn_of_request data long target)
  | writeCmd =>
    have command : opcode = opWriteCmd := opcode_of_lookup (by decide) looked
    subst command
    apply write_same central data same false named
    intro ok long ref target
    exact filled ok ref _ (writeIn_of_command data long target)
  | valueConfirm => exact .ok rfl (setWaiting_same same central false)

/-- What one PDU leads to does not depend on the bytes of new buffers, if all there is of them is
    written before it is sent. -/
theorem createHandler_same (host : Host) (garbage : Nat → Nat → UInt8)
    (same : SameBut (Initialised host world data) base twin world other) :
    Alike (SameBut (Initialised host world data) base twin) Eq
      ((createHandler host central data).run world)
      ((createHandler (host.refilled garbage) central data).run other) := by
  cases data with
  | nil =>
    refine sendError_alike same central errorReqNotSupported 0 (Nat.zero_le _) fun initialised => ?_
    rcases initialised.1 with ⟨opcode, rest, handler, split, _⟩
    cases split
  | cons opcode data =>
    unfold createHandler
    dsimp only
    cases looked : handlers.lookup opcode with
    | none =>
      apply sendError_alike same central _ _ (by decide)
      intro initialised
      rcases initialised.1 with ⟨_, _, handler, split, supported, _⟩
      cases split
      rw [looked] at supported
      cases supported
    | some handler =>
      apply Handler.call_same central data same looked
      · intro initialised
        rcases initialised.1 with ⟨_, _, other_handler, split, supported, named⟩
        cases split
        rw [looked] at supported
        cases supported
        exact named
      · exact fun initialised => initialised.2

end Handlers

end Twins

theorem handlerStep_same (host : Host) (garbage : Nat → Nat → UInt8) (world other : World)
    (given : CentralRef × Buffer) (same : other = { world with sent := other.sent })
    (initialised : Initialised host world given.2) :
    ∃ next out onward emitted, handlerStep host world given = .ok (next, out) ∧
      handlerStep (host.refilled garbage) other given = .ok (onward, emitted) ∧
        onward = { next with sent := onward.sent } ∧ out = emitted := by
  have attrib : other.attrib = world.attrib := by rw [same]
  have start : SameBut (Initialised host world given.2) world.sent other.sent world other := by
    apply mirrored_refl attrib.symm
    rw [attrib]
    exact same
  have left := (createHandler_same given.1 given.2 host garbage start).after
  refine ⟨_, _, _, _, rfl, rfl, ?_, left.written initialised⟩
  rw [left.same, left.attrib]

end Btle.Server

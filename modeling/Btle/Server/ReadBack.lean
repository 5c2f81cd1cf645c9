import Btle.Library.Recording
import Btle.Server.AccessControl
import Btle.Server.HandleTable
import Btle.Server.MtuInForce

namespace Btle.Server

open Machine Throwing

/-- What happens to a server from its start: attributes are made and given their properties, beside
    what happens on its connections. -/
inductive StoreEvent
  | create (type : Option UuidRef) (value : JsValue) (handle endHandle : Option Nat)
  | permit (ref : AttrRef) (properties : Nat)
  | link (event : LinkEvent)
  deriving DecidableEq, Repr

def storeProgram (host : Host) : StoreEvent → Js Unit
  | .create type value handle endHandle => do
    let _ ← createAttribute host type value handle endHandle
  | .permit ref properties =>
    modify fun world => world.setAttribute ref { world.attrib ref with properties }
  | .link event => linkProgram host event

def storeStep (host : Host) : Step World StoreEvent (CentralRef × Buffer) Empty :=
  fun world event =>
    .ok (after (storeProgram host event) world, written (storeProgram host event) world)

/-- The attribute that a PDU may write, and the value it has for it. -/
def writeIn (world : World) : Buffer → Option (AttrRef × Buffer)
  | [] => none
  | opcode :: data =>
    if data.length < 2 then none
    else if opcode = opWriteRequest then
      (writeTarget world (word data 0) true).map fun ref => (ref, data.drop 2)
    else if opcode = opWriteCmd then
      (writeTarget world (word data 0) false).map fun ref => (ref, data.drop 2)
    else none

/-- The attribute that is given a value, at its creation, locally or by a permitted write, and what
    the value is once it is converted. -/
def StoreEvent.gives (world : World) : StoreEvent → Option (AttrRef × Option Buffer)
  | .create _ value _ _ => (value.stored world).map fun bytes => (world.allocated, bytes)
  | .link (.setValue ref value) => (value.stored world).map fun bytes => (ref, bytes)
  | .link (.data _ pdu) => (writeIn world pdu).map fun write => (write.1, some write.2)
  | .permit _ _ | .link _ => none

abbrev Values := AttrRef → Option Buffer

def World.values (world : World) : Values := fun ref => (world.attrib ref).value

def Values.giving (values : Values) : Option (AttrRef × Option Buffer) → Values
  | none => values
  | some (ref, bytes) => Function.update values ref bytes

/-- The server with a log of the value last given to each attribute. -/
def givenStep (host : Host) : Step (World × Values) StoreEvent (CentralRef × Buffer) Empty :=
  recording (storeStep host) id fun world given event => given.giving (event.gives world)

def nothingGiven : Values := fun _ => none

/-- A READ_REQUEST for the handle of an attribute whose value is set. -/
def ReadsValue (world : World) (event : StoreEvent) (central : CentralRef) (data : Buffer)
    (ref : AttrRef) : Prop :=
  event = .link (.data central (opReadRequest :: data)) ∧ 2 ≤ data.length ∧
    (world.attrib ref).handle = some (word data 0) ∧ world.values ref ≠ none

/-- Such a request is answered with as much of the value last given as goes into a PDU. -/
def ReadsBack (host : Host) (world : World) (given : Values) (event : StoreEvent) : Prop :=
  ∀ central data ref, ReadsValue world event central data ref →
    ∃ value, given ref = some value ∧ written (storeProgram host event) world =
      [(central, opReadResponse :: value.take (world.mtuSize.toNat - 1))]

structure SameValues (world next : World) : Prop where
  uuids : next.uuids = world.uuids
  values : next.values = world.values

instance : Std.Refl SameValues := ⟨fun _ => ⟨rfl, rfl⟩⟩

instance : IsTrans World SameValues :=
  ⟨fun _ _ _ first second =>
    ⟨second.uuids.trans first.uuids, second.values.trans first.values⟩⟩

section Values

variable {host : Host} {world : World} {ref : AttrRef}

theorem setAttribute_values (world : World) (ref : AttrRef) (attrib : Attribute) :
    (world.setAttribute ref attrib).values = Function.update world.values ref attrib.value := by
  funext other
  by_cases same : other = ref
  · subst same
    simp [World.values, World.setAttribute]
  · simp [World.values, World.setAttribute, same]

theorem setAttribute_sameValues (world : World) (ref : AttrRef) (attrib : Attribute)
    (kept : attrib.value = (world.attrib ref).value) :
    SameValues world (world.setAttribute ref attrib) := by
  refine ⟨rfl, ?_⟩
  rw [setAttribute_values, kept]
  exact Function.update_eq_self ref world.values

theorem Pushes.values {next : World} (pushes : Pushes world next) : next.values = world.values := by
  funext other
  rw [World.values, pushes.attrib, World.values]

theorem SameDatabase.values {next : World} (same : SameDatabase world next) :
    next.values = world.values := by
  funext other
  rw [World.values, same.attrib, World.values]

/-- The setter leaves the value as it is converted, whatever the listeners do then. -/
theorem setValue_values (host : Host) (world : World) (ref : AttrRef) (value : JsValue) :
    (after (setValue host ref value) world).values =
      world.values.giving ((value.stored world).map fun bytes => (ref, bytes)) := by
  have emitted : ∀ bytes, (after (emitValueChanged host ref host.stack)
      (world.assigned ref bytes)).values = Function.update world.values ref bytes := by
    intro bytes
    rw [(emitValueChanged_keeps host ref host.stack _).values]
    exact setAttribute_values world ref _
  cases value with
  | null | other => rfl
  | uuid | buffer | string | number | array => exact emitted _

theorem doWrite_values (host : Host) (central : CentralRef) (world : World) {handle : Nat}
    (small : handle ≤ 0xFFFF) (value : Buffer) (respond : Bool) :
    (after (doWrite host central handle value respond) world).values =
      world.values.giving
        ((writeTarget world handle respond).map fun ref => (ref, some value)) := by
  cases target : writeTarget world handle respond with
  | none => exact (doWrite_refused host central small value target).sameDatabase.values
  | some ref =>
    funext other
    rw [World.values, doWrite_attrib host central value target]
    exact congrFun (setAttribute_values world ref _) other

theorem write_field_values (host : Host) (central : CentralRef) (world : World) (data : Buffer)
    (respond : Bool) :
    (after (Js.ofExcept (Buffer.readUInt16LE data 0) >>= fun handle =>
      doWrite host central handle (data.drop 2) respond) world).values =
    world.values.giving (if data.length < 2 then none
      else (writeTarget world (word data 0) respond).map fun ref => (ref, some (data.drop 2))) := by
  by_cases short : data.length < 2
  · obtain ⟨_, left⟩ := threw _ world (field_missing (show data.length ≤ 0 + 1 by omega)
      (fun handle => doWrite host central handle (data.drop 2) respond) world)
    rw [left, if_pos short]
    rfl
  · have ran := field_read (show 0 + 1 < data.length by omega)
      (fun handle => doWrite host central handle (data.drop 2) respond) world
    rw [after_congr ran, if_neg short]
    exact doWrite_values host central world (word_small data 0) (data.drop 2) respond

theorem writeIn_request (world : World) (data : Buffer) :
    (writeIn world (opWriteRequest :: data)).map (fun write => (write.1, some write.2)) =
      if data.length < 2 then none
      else (writeTarget world (word data 0) true).map fun ref => (ref, some (data.drop 2)) := by
  simp only [writeIn, if_pos]
  split
  · rfl
  · rw [Option.map_map]
    rfl

theorem writeIn_command (world : World) (data : Buffer) :
    (writeIn world (opWriteCmd :: data)).map (fun write => (write.1, some write.2)) =
      if data.length < 2 then none
      else (writeTarget world (word data 0) false).map fun ref => (ref, some (data.drop 2)) := by
  have other : opWriteCmd ≠ opWriteRequest := by decide
  simp only [writeIn, if_neg other, if_pos]
  split
  · rfl
  · rw [Option.map_map]
    rfl

theorem writeIn_other (world : World) {opcode : UInt8} (data : Buffer)
    (request : opcode ≠ opWriteRequest) (command : opcode ≠ opWriteCmd) :
    writeIn world (opcode :: data) = none := by
  simp only [writeIn, if_neg request, if_neg command, ite_self]

theorem createHandler_values (host : Host) (central : CentralRef) (world : World) (pdu : Buffer) :
    (after (createHandler host central pdu) world).values =
      world.values.giving ((writeIn world pdu).map fun write => (write.1, some write.2)) := by
  cases pdu with
  | nil => exact (unsupported_settles host central 0 world).sameDatabase.values
  | cons opcode data =>
    by_cases request : opcode = opWriteRequest
    · subst request
      rw [writeIn_request]
      exact write_field_values host central world data true
    · by_cases command : opcode = opWriteCmd
      · subst command
        rw [writeIn_command]
        exact write_field_values host central world data false
      · rw [writeIn_other world data request command]
        unfold createHandler
        dsimp only
        cases looked : handlers.lookup opcode with
        | none => exact (unsupported_settles host central opcode world).sameDatabase.values
        | some handler =>
          have not_write : handler ≠ .write := by
            intro same
            subst same
            exact request (opcode_of_lookup (by decide) looked)
          have not_command : handler ≠ .writeCmd := by
            intro same
            subst same
            exact command (opcode_of_lookup (by decide) looked)
          exact (Handler.call_sameDatabase host central data not_write not_command world).values

theorem notifying_values (world : World) (ref : AttrRef) (central : CentralRef) :
    (world.notifying ref central).values = world.values := by
  apply SameValues.values
  exact setAttribute_sameValues world ref _ rfl

theorem indicating_values (world : World) (ref : AttrRef) (central : CentralRef) :
    (world.indicating ref central).values = world.values := by
  apply SameValues.values
  exact setAttribute_sameValues world ref _ rfl

theorem enableNotifications_values (host : Host) (world : World) (ref : AttrRef)
    (central : CentralRef) :
    (after (enableNotifications host ref central) world).values = world.values := by
  rcases enableNotifications_cases host world ref central with ⟨_, thrown, ran⟩ | ⟨_, ran⟩
  · rw [after_error ran]
  · have pushes := sendValue_keeps host ref central (.inl rfl) (world.notifying ref central)
    rw [after_congr ran, ← notifying_values world ref central]
    exact pushes.values

theorem enableIndications_values (host : Host) (world : World) (ref : AttrRef)
    (central : CentralRef) :
    (after (enableIndications host ref central) world).values = world.values := by
  rcases enableIndications_cases host world ref central with ⟨_, thrown, ran⟩ | ⟨_, ran⟩
  · rw [after_error ran]
  · rw [after_congr ran, ← indicating_values world ref central]
    exact (indicate_keeps host ref central (world.indicating ref central)).values

theorem disableNotifications_values (world : World) (ref : AttrRef) :
    (after (disableNotifications ref) world).values = world.values := by
  simp only [disableNotifications, after, EStateM.run_bind, EStateM.run_get]
  cases (world.attrib ref).notificationListener with
  | none => rfl
  | some listener =>
    apply SameValues.values
    exact setAttribute_sameValues world ref _ rfl

theorem disableIndications_values (world : World) (ref : AttrRef) :
    (after (disableIndications ref) world).values = world.values := by
  simp only [disableIndications, after, EStateM.run_bind, EStateM.run_get]
  cases (world.attrib ref).indicationListener with
  | none => rfl
  | some listener =>
    apply SameValues.values
    exact setAttribute_sameValues world ref _ rfl

theorem setHandle_keepsValues (ref : AttrRef) (handle : Option Nat) :
    Keeps SameValues (setHandle ref handle) := by
  intro world
  have entered : ∀ n, SameValues world (world.moved ref n) := by
    intro n
    refine ⟨rfl, ?_⟩
    exact (setAttribute_values _ ref _).trans (Function.update_eq_self ref world.values)
  match handle with
  | none =>
    rw [after_ok (setHandle_none world ref)]
    exact setAttribute_sameValues world ref _ rfl
  | some 0 =>
    rw [after_ok (setHandle_zero world ref)]
    exact setAttribute_sameValues world ref _ rfl
  | some (n + 1) =>
    cases slot : slotAt world.handles (n + 1) with
    | some other =>
      rcases setHandle_taken ref slot with ⟨thrown, ran⟩
      rw [after_error ran]
      exact Std.Refl.refl world
    | none =>
      rw [after_ok (setHandle_free ref slot)]
      exact entered (n + 1)

/-- A new attribute has the value it is made with, or none if it could not be made. -/
theorem newAttribute_values (host : Host) (world : World) (handle : Option Nat)
    (type : Option UuidRef) (value : JsValue) (endHandle : Option Nat) :
    (after (newAttribute host handle type value endHandle) world).values = world.fresh.values ∨
      (after (newAttribute host handle type value endHandle) world).values =
        world.fresh.values.giving
          ((value.stored world).map fun bytes => (world.allocated, bytes)) := by
  have handled := setHandle_keepsValues world.allocated handle world.fresh
  have start : (newAttribute host handle type value endHandle).run world =
      (setHandle world.allocated handle >>= fun _ => do
        modify fun world' =>
          world'.setAttribute world.allocated { world'.attrib world.allocated with type }
        setValue host world.allocated value
        modify fun world' =>
          world'.setAttribute world.allocated { world'.attrib world.allocated with endHandle }
        return world.allocated : Js AttrRef).run world.fresh := rfl
  rw [EStateM.run_bind] at start
  cases ran : (setHandle world.allocated handle).run world.fresh with
  | error thrown next =>
    rw [ran] at start
    rw [after_error ran] at handled
    rw [after_error start]
    exact .inl handled.values
  | ok done next =>
    rw [ran] at start
    rw [after_ok ran] at handled
    let typed := next.setAttribute world.allocated { next.attrib world.allocated with type }
    have typing : SameValues world.fresh typed :=
      IsTrans.trans _ _ _ handled (setAttribute_sameValues next world.allocated _ rfl)
    have ended : ∀ _ : Unit, Keeps SameValues (do
        modify fun world' =>
          world'.setAttribute world.allocated { world'.attrib world.allocated with endHandle }
        return world.allocated : Js AttrRef) := by
      intro _ world'
      exact setAttribute_sameValues world' world.allocated _ rfl
    have tail := Keeps.after_bind ended (setValue host world.allocated value) typed
    have stored : value.stored typed = value.stored world := by
      have uuids : typed.uuids = world.uuids := typing.uuids
      cases value <;> simp only [JsValue.stored, uuids]
    right
    rw [after_congr start, ← typing.values, ← stored, ← setValue_values]
    exact tail.values

theorem createAttribute_sameValues (host : Host) (world : World) (type : Option UuidRef)
    (value : JsValue) (handle endHandle : Option Nat) :
    SameValues
      (after (newAttribute host handle type value
        (if endHandle.getD 0 = 0 then handle else endHandle)) world)
      (after (createAttribute host type value handle endHandle) world) := by
  unfold createAttribute
  refine Keeps.after_bind (fun ref => ?_) _ world
  intro next
  match handle with
  | none => exact Std.Refl.refl next
  | some 0 => exact Std.Refl.refl next
  | some (n + 1) => exact ⟨rfl, rfl⟩

theorem fresh_values (world : World) :
    world.fresh.values = Function.update world.values world.allocated none :=
  setAttribute_values world world.allocated .blank

/-- A creation that throws half way leaves an attribute without a value. -/
theorem create_values (host : Host) (world : World) (type : Option UuidRef) (value : JsValue)
    (handle endHandle : Option Nat) (ref : AttrRef)
    (held : (after (createAttribute host type value handle endHandle) world).values ref ≠ none) :
    (after (createAttribute host type value handle endHandle) world).values ref =
      world.values.giving
        ((StoreEvent.create type value handle endHandle).gives world) ref := by
  rw [(createAttribute_sameValues host world type value handle endHandle).values] at held ⊢
  have others : ref ≠ world.allocated → world.fresh.values ref = world.values ref := by
    intro different
    rw [fresh_values, Function.update_of_ne different]
  have own : world.fresh.values ref ≠ none → ref ≠ world.allocated := by
    intro some_value same
    apply some_value
    rw [same, fresh_values, Function.update_self]
  rw [StoreEvent.gives]
  rcases newAttribute_values host world handle type value
    (if endHandle.getD 0 = 0 then handle else endHandle) with left | left
  · rw [left] at held ⊢
    have different := own held
    rw [others different]
    cases value.stored world with
    | none => rfl
    | some bytes => exact (Function.update_of_ne different _ _).symm
  · rw [left] at held ⊢
    cases stored : value.stored world with
    | none =>
      rw [stored] at held
      exact others (own held)
    | some bytes =>
      by_cases same : ref = world.allocated
      · subst same
        simp [Values.giving]
      · simp only [Option.map_some, Values.giving, Function.update_of_ne same, others same]

theorem linkProgram_values (host : Host) (world : World) (event : LinkEvent) :
    (after (linkProgram host event) world).values =
      world.values.giving ((StoreEvent.link event).gives world) := by
  cases event with
  | connect central mtu => rfl
  | data central pdu => exact createHandler_values host central world pdu
  | setValue target value => exact setValue_values host world target value
  | enableNotifications target central => exact enableNotifications_values host world target central
  | disableNotifications target => exact disableNotifications_values world target
  | enableIndications target central => exact enableIndications_values host world target central
  | disableIndications target => exact disableIndications_values world target

/-- What an event leaves as a value is what it gives, or what was there. -/
theorem storeProgram_values (host : Host) (world : World) (event : StoreEvent) (ref : AttrRef)
    (held : (after (storeProgram host event) world).values ref ≠ none) :
    (after (storeProgram host event) world).values ref =
      world.values.giving (event.gives world) ref := by
  cases event with
  | create type value handle endHandle =>
    have whole : after (storeProgram host (.create type value handle endHandle)) world =
        after (createAttribute host type value handle endHandle) world := by
      simp only [storeProgram, after, EStateM.run_bind]
      cases (createAttribute host type value handle endHandle).run world <;> rfl
    rw [whole] at held ⊢
    exact create_values host world type value handle endHandle ref held
  | permit target properties =>
    exact congrFun (setAttribute_sameValues world target
      { world.attrib target with properties } rfl).values ref
  | link event =>
    exact congrFun (linkProgram_values host world event) ref

end Values

/-- What is stored is what was last given. -/
def Stored (state : World × Values) : Prop :=
  ∀ ref, state.1.values ref ≠ none → state.2 ref = state.1.values ref

/-- Table, conversion, permissions and listeners agree: over any run no attribute holds anything but
    the value last given to it. -/
theorem stored_preserved (host : Host) : Preserves (givenStep host) Stored := by
  intro state event next out stored stepped
  rcases state with ⟨world, given⟩
  rcases next with ⟨later, log⟩
  rcases recording_ok stepped with ⟨stepped, rfl⟩
  cases stepped
  intro ref held
  change (after (storeProgram host event) world).values ref ≠ none at held
  show given.giving (event.gives world) ref = (after (storeProgram host event) world).values ref
  have left := storeProgram_values host world event ref held
  rw [left] at held ⊢
  cases gives : event.gives world with
  | none =>
    rw [gives] at held
    exact stored ref held
  | some gift =>
    by_cases same : ref = gift.1
    · subst same
      simp [Values.giving]
    · rw [gives] at held
      simp only [Values.giving, Function.update_of_ne same] at held ⊢
      exact stored ref held

theorem stored_on_runs (host : Host) (events : List StoreEvent) :
    ∀ taken ∈ visited (givenStep host) (.initial, nothingGiven) events, Stored taken.1 := by
  apply visited_preserves (stored_preserved host)
  intro ref held
  exact absurd rfl held

/-- No READ_REQUEST is ever answered by a READ_RESPONSE. -/
theorem read_refused (host : Host) (central : CentralRef) (world : World) (data value : Buffer) :
    written (createHandler host central (opReadRequest :: data)) world ≠
      [(central, opReadResponse :: value)] := by
  intro answered
  have same : written (createHandler host central (opReadRequest :: data)) world =
      written (handleRead host central data) world := rfl
  rw [same] at answered
  rcases (handleRead_settles host central data world).sent with ⟨silent, _⟩ | ⟨pdu, sent, error, _⟩
  · rw [written_of_sent (silent.trans (List.append_nil _).symm)] at answered
    cases answered
  · rw [written_of_sent sent] at answered
    cases answered
    have opcode := error.2.1
    simp only [List.getElem?_cons_zero, Option.some.injEq] at opcode
    exact absurd opcode (by decide)

/-- A run gives back what was written exactly if nothing that has a value is read: `getAttribute` is
    indexed and not called, so that every attribute is reported as not found. -/
theorem reads_back_iff (host : Host) (events : List StoreEvent) :
    (∀ taken ∈ visited (givenStep host) (.initial, nothingGiven) events,
      ReadsBack host taken.1.1 taken.1.2 taken.2) ↔
    ∀ taken ∈ visited (givenStep host) (.initial, nothingGiven) events,
      ∀ central data ref, ¬ ReadsValue taken.1.1 taken.2 central data ref := by
  refine forall₂_congr fun taken _ => ?_
  constructor
  · intro back central data ref reads
    rcases back central data ref reads with ⟨value, _, answered⟩
    rw [reads.1] at answered
    exact read_refused host central taken.1.1 data _ answered
  · intro unread central data ref reads
    exact absurd reads (unread central data ref)

/-- An attribute made with the value 7 at handle 1, and read. -/
theorem value_not_read_back :
    ¬ ∀ taken ∈ visited (givenStep plainHost) (.initial, nothingGiven)
        [.create none (.buffer [7]) (some 1) none, .link (.connect 0 23),
          .link (.data 0 [opReadRequest, 1, 0])],
      ReadsBack plainHost taken.1.1 taken.1.2 taken.2 := by
  intro back
  have third := back _ (List.mem_cons_of_mem _ (List.mem_cons_of_mem _ List.mem_cons_self))
  rcases third 0 [1, 0] 0 ⟨rfl, by decide, rfl, by decide⟩ with ⟨value, _, answered⟩
  exact read_refused plainHost 0 _ [1, 0] _ answered

end Btle.Server

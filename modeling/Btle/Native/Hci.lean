import Btle.Library.Machine

namespace Btle.Native

inductive HciState
  | down
  | unauthorized
  | unsupported
  | unknown
  | up
  deriving DecidableEq, Repr

inductive Command
  | setAdvertisingParameters
  | setAdvertisingData
  | setScanResponseData
  | setAdvertiseEnable (enable : Bool)
  deriving DecidableEq, Repr

/-- What is done to the system and to JavaScript, in order. Behind a thrown message stands the text of
    `errno`. -/
inductive Effect
  | opened (descriptor : Option Nat)
  | closed (descriptor : Nat)
  | sent (command : Command) (socket : Int)
  | threw (message : String)
  deriving DecidableEq, Repr

/-- The `HCI` object, with the descriptors it has open. Of `hciDevInfo` it is told whether the flag
    `HCI_UP` is set. -/
structure Hci where
  hciSocket : Int
  state : HciState
  socketClosed : Bool
  isUp : Bool
  isAdvertising : Bool
  descriptors : List Nat
  effects : List Effect
  deriving DecidableEq, Repr

/-- What would come, at one use of the socket, of `hci_open_dev`, which gives a descriptor or fails; of
    the `ioctl`, which tells whether the adapter is up or fails; and of the request, which may fail, and
    whose status byte holds this. -/
structure Attempt where
  opened : Option Nat
  info : Option Bool
  refused : Bool
  status : UInt8
  deriving DecidableEq, Repr

namespace Hci

def new : Hci where
  hciSocket := -1
  state := .down
  socketClosed := true
  isUp := false
  isAdvertising := false
  descriptors := []
  effects := []

def did (hci : Hci) (effect : Effect) : Hci := { hci with effects := hci.effects ++ [effect] }

/-- `ThrowException` only schedules the exception. -/
def throwException (hci : Hci) (message : String) : Hci := hci.did (.threw message)

def closeHCISocket (hci : Hci) : Hci :=
  if hci.socketClosed = false ∧ 0 ≤ hci.hciSocket then
    { hci.did (.closed hci.hciSocket.toNat) with
      descriptors := hci.descriptors.erase hci.hciSocket.toNat, hciSocket := -1, socketClosed := true }
  else hci

def openDevice (hci : Hci) (attempt : Attempt) : Hci :=
  match attempt.opened with
  | some descriptor =>
    { hci.did (.opened (some descriptor)) with
      hciSocket := descriptor, descriptors := descriptor :: hci.descriptors, socketClosed := false }
  | none =>
    { (hci.did (.opened none)).throwException "Error opening HCI socket" with
      hciSocket := -1, socketClosed := false }

/-- The `ioctl`, which fails for a descriptor that is none. -/
def readInfo (hci : Hci) (attempt : Attempt) : Hci :=
  match if hci.hciSocket < 0 then none else attempt.info with
  | some isUp => { hci with isUp }
  | none => hci.closeHCISocket.throwException "Error getting HCI socket state"

def getAdapterState (hci : Hci) : Hci := { hci with state := if hci.isUp then .up else .down }

def checkAdapter (hci : Hci) : Hci :=
  if hci.state ≠ .up ∧ 0 ≤ hci.hciSocket then
    hci.closeHCISocket.throwException "Adapter never came up"
  else hci

/-- What it returns is the `hciSocket` it leaves. -/
def getHCISocket (hci : Hci) (attempt : Attempt) : Hci :=
  if hci.socketClosed then
    (((hci.openDevice attempt).readInfo attempt).getAdapterState).checkAdapter
  else hci

def request (hci : Hci) (command : Command) (attempt : Attempt) (message : String) : Hci :=
  let hci := hci.getHCISocket attempt
  if hci.hciSocket < 0 ∨ attempt.refused = true then
    (hci.did (.sent command hci.hciSocket)).throwException message
  else hci.did (.sent command hci.hciSocket)

def checkStatus (hci : Hci) (attempt : Attempt) (message : String) : Hci :=
  if attempt.status ≠ 0 then hci.throwException message else hci

def setAdvertisingParameters (hci : Hci) (attempt : Attempt) : Hci :=
  hci.request .setAdvertisingParameters attempt "Error setting advertising parameters"

def setAdvertisingData (hci : Hci) (attempt : Attempt) : Hci :=
  (hci.request .setAdvertisingData attempt "Error setting advertising data").checkStatus attempt
    "Error setting advertising data"

def setScanResponseData (hci : Hci) (attempt : Attempt) : Hci :=
  (hci.request .setScanResponseData attempt "Error setting advertising data").checkStatus attempt
    "Error setting advertising data"

/-- Whether the command fails is not asked. -/
def stopAdvertising (hci : Hci) (attempt : Attempt) : Hci :=
  let hci := hci.getHCISocket attempt
  { hci.did (.sent (.setAdvertiseEnable false) hci.hciSocket) with isAdvertising := false }

def startAdvertising (hci : Hci) (disable enable data : Attempt) : Hci :=
  let hci := hci.stopAdvertising disable
  let hci := hci.request (.setAdvertiseEnable true) enable "Error enabling advertising"
  { hci.setAdvertisingData data with isAdvertising := true }

end Hci

/-- An argument from JavaScript; the bytes of an empty buffer are at no address. -/
inductive Argument
  | null
  | object
  | buffer (empty : Bool)
  | other
  deriving DecidableEq, Repr

def Argument.isBuffer : Argument → Bool
  | .buffer _ => true
  | .null | .object | .other => false

def Argument.isObject : Argument → Bool
  | .object | .buffer _ => true
  | .null | .other => false

def Argument.hasBytes : Argument → Bool
  | .buffer empty => !empty
  | .null | .object | .other => false

structure Parsed where
  options : Bool
  scanData : Bool
  deriving DecidableEq, Repr

/-- The arguments of `startAdvertising`. A buffer is an object too, so the branch for one that comes
    first is never taken. -/
def parseArguments : List Argument → Except String Parsed
  | [] => .error "Wrong number of arguments"
  | first :: rest =>
    if first.isObject ∨ first = .null then
      match rest with
      | [] => .error "Wrong number of arguments"
      | second :: more =>
        if second.isBuffer then
          match more with
          | [] => .ok ⟨first ≠ .null, false⟩
          | third :: _ =>
            if third.isBuffer ∨ third = .null then .ok ⟨first ≠ .null, third.hasBytes⟩
            else .error "Third parameter must be a Buffer"
        else .error "Second parameter must be a Buffer"
    else if first.isBuffer then
      match rest with
      | [] => .ok ⟨false, false⟩
      | second :: _ =>
        if second.isBuffer then .ok ⟨false, second.hasBytes⟩
        else .error "Second parameter must be a Buffer"
    else .error "First parameter must be an object, or a buffer"

/-- What comes of the socket at each of its uses, if they are made. -/
structure Attempts where
  parameters : Attempt
  scanResponse : Attempt
  disable : Attempt
  enable : Attempt
  data : Attempt
  deriving DecidableEq, Repr

inductive AdvertisingCall
  | startAdvertising (arguments : List Argument) (attempts : Attempts)
  | stopAdvertising (attempt : Attempt)
  deriving DecidableEq, Repr

namespace Hci

/-- `HCI::StartAdvertising`. Options of a wrong type throw, and are sent all the same. -/
def start (hci : Hci) (arguments : List Argument) (attempts : Attempts) : Hci :=
  match parseArguments arguments with
  | .error message => hci.throwException message
  | .ok parsed =>
    let hci := if parsed.options then hci.setAdvertisingParameters attempts.parameters else hci
    let hci := if parsed.scanData then hci.setScanResponseData attempts.scanResponse else hci
    hci.startAdvertising attempts.disable attempts.enable attempts.data

def make (hci : Hci) : AdvertisingCall → Hci
  | .startAdvertising arguments attempts => hci.start arguments attempts
  | .stopAdvertising attempt => hci.stopAdvertising attempt

def step : Machine.Step Hci AdvertisingCall Empty Empty := fun hci call => .ok (hci.make call, [])

def HasDescriptor (hci : Hci) : Prop := ∃ descriptor ∈ hci.descriptors, hci.hciSocket = (descriptor : Int)

def TriesAgain (hci : Hci) : Prop :=
  ∀ attempt, ∃ more,
    (hci.getHCISocket attempt).effects = hci.effects ++ .opened attempt.opened :: more

/-- The socket does not count as closed unless it is open, and if it is not the next use tries to
    open it. -/
structure Coherent (hci : Hci) : Prop where
  descriptor : hci.socketClosed = false → hci.HasDescriptor
  retries : ¬ hci.HasDescriptor → hci.TriesAgain

end Hci

def AdvertisingCall.attempts : AdvertisingCall → List Attempt
  | .startAdvertising arguments attempts =>
    match parseArguments arguments with
    | .error _ => []
    | .ok parsed =>
      (if parsed.options then [attempts.parameters] else []) ++
        (if parsed.scanData then [attempts.scanResponse] else []) ++
          [attempts.disable, attempts.enable, attempts.data]
  | .stopAdvertising attempt => [attempt]

/-- Each attempt to open the device succeeds, until one finds the adapter up. -/
def OpensUntilUp : List Attempt → Prop
  | [] => True
  | attempt :: rest => attempt.opened ≠ none ∧ (attempt.info = some true ∨ OpensUntilUp rest)

def Hci.OpensWell (hci : Hci) (call : AdvertisingCall) : Prop :=
  hci.socketClosed = true → OpensUntilUp call.attempts

/-- What the flag and the descriptor stand for together. -/
inductive Device
  | closed
  | held (descriptor : Nat)
  | lost
  deriving DecidableEq, Repr

/-- Once the device is held or lost, no more attempts are made. -/
def Device.attempt : Device → Attempt → Device
  | .closed, attempt =>
    match attempt.opened with
    | some descriptor => if attempt.info = some true then .held descriptor else .closed
    | none => .lost
  | .held descriptor, _ => .held descriptor
  | .lost, _ => .lost

section Devices

variable {attempt : Attempt} {descriptor : Nat}

theorem attempt_failed (failed : attempt.opened = none) : Device.closed.attempt attempt = .lost := by
  rw [Device.attempt, failed]

theorem attempt_up (opened : attempt.opened = some descriptor) (up : attempt.info = some true) :
    Device.closed.attempt attempt = .held descriptor := by
  rw [Device.attempt, opened]
  exact if_pos up

theorem attempt_down (opened : attempt.opened = some descriptor) (down : attempt.info ≠ some true) :
    Device.closed.attempt attempt = .closed := by
  rw [Device.attempt, opened]
  exact if_neg down

theorem lost_stays (attempts : List Attempt) : attempts.foldl Device.attempt .lost = .lost := by
  induction attempts with
  | nil => rfl
  | cons attempt attempts ih => exact ih

theorem held_stays (descriptor : Nat) (attempts : List Attempt) :
    attempts.foldl Device.attempt (.held descriptor) = .held descriptor := by
  induction attempts with
  | nil => rfl
  | cons attempt attempts ih => exact ih

/-- From a closed device, attempts lose it exactly if one of them fails before one succeeds. -/
theorem opensUntilUp_iff (attempts : List Attempt) :
    OpensUntilUp attempts ↔ attempts.foldl Device.attempt .closed ≠ .lost := by
  induction attempts with
  | nil => exact iff_of_true trivial (by simp)
  | cons attempt attempts ih =>
    rw [List.foldl_cons, OpensUntilUp]
    cases opened : attempt.opened with
    | none =>
      rw [attempt_failed opened, lost_stays]
      simp
    | some descriptor =>
      by_cases up : attempt.info = some true
      · rw [attempt_up opened up, held_stays]
        simp [up]
      · rw [attempt_down opened up, ← ih]
        simp [up]

end Devices

namespace Hci

def Represents (hci : Hci) : Device → Prop
  | .closed => hci.socketClosed = true ∧ hci.hciSocket < 0
  | .held descriptor =>
    hci.socketClosed = false ∧ hci.hciSocket = (descriptor : Int) ∧ descriptor ∈ hci.descriptors
  | .lost => hci.socketClosed = false ∧ hci.hciSocket < 0

variable {hci : Hci} {device : Device}

section Frame

@[simp] theorem did_represents (effect : Effect) :
    (hci.did effect).Represents device ↔ hci.Represents device := by
  cases device <;> rfl

@[simp] theorem throwException_represents (message : String) :
    (hci.throwException message).Represents device ↔ hci.Represents device :=
  did_represents _

@[simp] theorem advertising_represents (isAdvertising : Bool) :
    ({ hci with isAdvertising } : Hci).Represents device ↔ hci.Represents device := by
  cases device <;> rfl

@[simp] theorem getAdapterState_represents :
    hci.getAdapterState.Represents device ↔ hci.Represents device := by
  cases device <;> rfl

theorem checkStatus_represents (attempt : Attempt) (message : String) :
    (hci.checkStatus attempt message).Represents device ↔ hci.Represents device := by
  unfold checkStatus
  split
  · exact throwException_represents message
  · rfl

end Frame

theorem closeHCISocket_held {descriptor : Nat} (held : hci.Represents (.held descriptor)) :
    hci.closeHCISocket.Represents .closed := by
  have inside : hci.socketClosed = false ∧ 0 ≤ hci.hciSocket := by
    rw [held.2.1]
    exact ⟨held.1, by omega⟩
  rw [closeHCISocket, if_pos inside]
  exact ⟨rfl, show (-1 : Int) < 0 by decide⟩

theorem closeHCISocket_nothing (none_there : hci.hciSocket < 0) : hci.closeHCISocket = hci :=
  if_neg fun inside => by omega

theorem checkAdapter_nothing (none_there : hci.hciSocket < 0) (represents : hci.Represents device) :
    hci.getAdapterState.checkAdapter.Represents device := by
  have below : hci.getAdapterState.hciSocket < 0 := none_there
  rw [checkAdapter, if_neg fun inside => by omega]
  exact getAdapterState_represents.mpr represents

theorem readInfo_failed {attempt : Attempt} (failed : hci.hciSocket < 0 ∨ attempt.info = none) :
    hci.readInfo attempt = hci.closeHCISocket.throwException "Error getting HCI socket state" := by
  unfold readInfo
  rcases failed with below | failed
  · rw [if_pos below]
  · rw [failed, ite_self]

theorem readInfo_read {attempt : Attempt} {isUp : Bool} (there : 0 ≤ hci.hciSocket)
    (read : attempt.info = some isUp) : hci.readInfo attempt = { hci with isUp } := by
  rw [readInfo, if_neg (by omega), read]

/-- A socket that is not open is lost as soon as opening it fails: what would close it asks for a
    descriptor. -/
theorem openDevice_failed {attempt : Attempt} (failed : attempt.opened = none) :
    (((hci.openDevice attempt).readInfo attempt).getAdapterState).checkAdapter.Represents .lost := by
  have lost : (hci.openDevice attempt).Represents .lost := by
    rw [openDevice, failed]
    exact ⟨rfl, show (-1 : Int) < 0 by decide⟩
  have threw : ((hci.openDevice attempt).throwException "Error getting HCI socket state").Represents
      .lost := (throwException_represents _).mpr lost
  rw [readInfo_failed (.inl lost.2), closeHCISocket_nothing lost.2]
  exact checkAdapter_nothing threw.2 threw

theorem openDevice_held {attempt : Attempt} {descriptor : Nat}
    (opened : attempt.opened = some descriptor) :
    (hci.openDevice attempt).Represents (.held descriptor) := by
  rw [openDevice, opened]
  exact ⟨rfl, rfl, List.mem_cons_self⟩

/-- One use of the socket does to the flag and the descriptor what one attempt does to the device. -/
theorem getHCISocket_represents (represents : hci.Represents device) (attempt : Attempt) :
    (hci.getHCISocket attempt).Represents (device.attempt attempt) := by
  unfold getHCISocket
  cases device with
  | held descriptor =>
    rw [if_neg (by simp [represents.1])]
    exact represents
  | lost =>
    rw [if_neg (by simp [represents.1])]
    exact represents
  | closed =>
    rw [if_pos represents.1]
    cases opened : attempt.opened with
    | none =>
      rw [attempt_failed opened]
      exact openDevice_failed opened
    | some descriptor =>
      have held : (hci.openDevice attempt).Represents (.held descriptor) := openDevice_held opened
      have there : 0 ≤ (hci.openDevice attempt).hciSocket := by
        rw [held.2.1]
        omega
      cases info : attempt.info with
      | none =>
        have threw := (throwException_represents "Error getting HCI socket state").mpr
          (closeHCISocket_held held)
        rw [attempt_down opened (by simp [info]), readInfo_failed (.inr info)]
        exact checkAdapter_nothing threw.2 threw
      | some isUp =>
        rw [readInfo_read there info]
        cases isUp with
        | true =>
          rw [attempt_up opened info, checkAdapter, if_neg fun down => down.1 rfl]
          exact held
        | false =>
          have down : HciState.down ≠ .up := by decide
          rw [attempt_down opened (by simp [info]), checkAdapter, if_pos ⟨down, there⟩,
            throwException_represents]
          exact closeHCISocket_held held

section Calls

theorem request_represents (represents : hci.Represents device) (command : Command) (attempt : Attempt)
    (message : String) : (hci.request command attempt message).Represents (device.attempt attempt) := by
  have used := getHCISocket_represents represents attempt
  unfold request
  dsimp only
  split
  · simpa using used
  · simpa using used

theorem setAdvertisingData_represents (represents : hci.Represents device) (attempt : Attempt) :
    (hci.setAdvertisingData attempt).Represents (device.attempt attempt) :=
  (checkStatus_represents attempt _).mpr (request_represents represents _ attempt _)

theorem setScanResponseData_represents (represents : hci.Represents device) (attempt : Attempt) :
    (hci.setScanResponseData attempt).Represents (device.attempt attempt) :=
  (checkStatus_represents attempt _).mpr (request_represents represents _ attempt _)

theorem stopAdvertising_represents (represents : hci.Represents device) (attempt : Attempt) :
    (hci.stopAdvertising attempt).Represents (device.attempt attempt) := by
  have used := getHCISocket_represents represents attempt
  exact (advertising_represents false).mpr ((did_represents _).mpr used)

theorem startAdvertising_represents (represents : hci.Represents device)
    (disable enable data : Attempt) :
    (hci.startAdvertising disable enable data).Represents
      ([disable, enable, data].foldl Device.attempt device) := by
  have stopped := stopAdvertising_represents represents disable
  have enabled := request_represents stopped (.setAdvertiseEnable true) enable
    "Error enabling advertising"
  exact (advertising_represents true).mpr (setAdvertisingData_represents enabled data)

theorem make_represents (represents : hci.Represents device) (call : AdvertisingCall) :
    (hci.make call).Represents (call.attempts.foldl Device.attempt device) := by
  cases call with
  | stopAdvertising attempt => exact stopAdvertising_represents represents attempt
  | startAdvertising arguments attempts =>
    cases read : parseArguments arguments with
    | error message =>
      simp only [make, start, AdvertisingCall.attempts, read]
      exact (throwException_represents message).mpr represents
    | ok parsed =>
      obtain ⟨options, scanData⟩ := parsed
      have given : (if options then hci.setAdvertisingParameters attempts.parameters else hci).Represents
          ((if options then [attempts.parameters] else []).foldl Device.attempt device) := by
        cases options with
        | false => exact represents
        | true => exact request_represents represents _ attempts.parameters _
      have answered := setScanResponseData_represents given attempts.scanResponse
      simp only [make, start, AdvertisingCall.attempts, read, List.foldl_append]
      apply startAdvertising_represents
      cases scanData with
      | false => exact given
      | true => exact answered

end Calls

section Trying

def Extends (hci next : Hci) : Prop := hci.effects <+: next.effects

theorem extends_did (hci : Hci) (effect : Effect) : hci.Extends (hci.did effect) :=
  ⟨[effect], rfl⟩

theorem closeHCISocket_extends (hci : Hci) : hci.Extends hci.closeHCISocket := by
  unfold closeHCISocket
  split
  · exact extends_did hci _
  · exact List.prefix_refl _

theorem closing_extends (hci : Hci) (message : String) :
    hci.Extends (hci.closeHCISocket.throwException message) :=
  (closeHCISocket_extends hci).trans (extends_did _ _)

theorem readInfo_extends (hci : Hci) (attempt : Attempt) : hci.Extends (hci.readInfo attempt) := by
  unfold readInfo
  split
  · exact List.prefix_refl _
  · exact closing_extends hci _

theorem checkAdapter_extends (hci : Hci) : hci.Extends hci.checkAdapter := by
  unfold checkAdapter
  split
  · exact closing_extends hci _
  · exact List.prefix_refl _

theorem tries_of_closed (closed : hci.socketClosed = true) : hci.TriesAgain := by
  intro attempt
  have opened : (hci.effects ++ [Effect.opened attempt.opened]) <+: (hci.openDevice attempt).effects := by
    unfold openDevice
    cases attempt.opened with
    | none => exact extends_did (hci.did _) _
    | some descriptor => exact List.prefix_refl _
  have read : (hci.openDevice attempt).effects <+: ((hci.openDevice attempt).readInfo attempt).effects :=
    readInfo_extends _ attempt
  have checked := checkAdapter_extends ((hci.openDevice attempt).readInfo attempt).getAdapterState
  have whole : hci.getHCISocket attempt =
      (((hci.openDevice attempt).readInfo attempt).getAdapterState).checkAdapter := if_pos closed
  obtain ⟨more, same⟩ := (opened.trans read).trans checked
  refine ⟨more, ?_⟩
  rw [whole, ← same, List.append_assoc]
  rfl

theorem coherent_iff (represents : hci.Represents device) : hci.Coherent ↔ device ≠ .lost := by
  cases device with
  | closed =>
    apply iff_of_true _ (by simp)
    refine ⟨fun there => ?_, fun _ => tries_of_closed represents.1⟩
    rw [represents.1] at there
    cases there
  | held descriptor =>
    have there : hci.HasDescriptor := ⟨descriptor, represents.2.2, represents.2.1⟩
    exact iff_of_true ⟨fun _ => there, fun missing => absurd there missing⟩ (by simp)
  | lost =>
    apply iff_of_false _ (by simp)
    intro coherent
    obtain ⟨descriptor, _, same⟩ := coherent.descriptor represents.1
    have below : hci.hciSocket < 0 := represents.2
    omega

end Trying

/-- The object is in order, with the device closed or held. -/
def Sound (hci : Hci) : Prop := ∃ device, hci.Represents device ∧ device ≠ .lost

theorem opensWell_iff (represents : hci.Represents device) (unlost : device ≠ .lost)
    (call : AdvertisingCall) :
    hci.OpensWell call ↔ call.attempts.foldl Device.attempt device ≠ .lost := by
  cases device with
  | closed =>
    rw [OpensWell, imp_iff_right represents.1]
    exact opensUntilUp_iff call.attempts
  | held descriptor =>
    rw [held_stays]
    apply iff_of_true _ (by simp)
    intro closed
    rw [represents.1] at closed
    cases closed
  | lost => exact absurd rfl unlost

/-- Whatever is called, the socket counts as open only where it is, and is opened again where it is
    not, exactly if each call opens the device at its first attempt and at all others it makes. -/
theorem socket_coherent_iff (calls : List AdvertisingCall) :
    Machine.Stays step new calls Coherent ↔
      ∀ taken ∈ Machine.visited step new calls, taken.1.OpensWell taken.2 := by
  have start : new.Sound := ⟨.closed, ⟨rfl, by decide⟩, by simp⟩
  have total : ∀ (hci : Hci) (call : AdvertisingCall),
      ∃ next out, step hci call = .ok (next, out) := fun hci call => ⟨_, _, rfl⟩
  have holds : ∀ hci : Hci, hci.Sound → hci.Coherent := by
    rintro hci ⟨device, represents, unlost⟩
    exact (coherent_iff represents).mpr unlost
  have exact_step : ∀ (hci : Hci) call next out, hci.Sound → True → step hci call = .ok (next, out) →
      (hci.OpensWell call → next.Sound) ∧ (next.Coherent → hci.OpensWell call) := by
    rintro hci call next out ⟨device, represents, unlost⟩ _ stepped
    cases stepped
    have made := make_represents represents call
    rw [opensWell_iff represents unlost, coherent_iff made]
    exact ⟨fun found => ⟨_, made, found⟩, fun found => found⟩
  exact Machine.stays_iff total holds exact_step start fun _ _ => trivial

def noDevice : Attempt := ⟨none, none, true, 0⟩

/-- After one failure the object counts its socket as open, and never tries again. -/
theorem noDevice_incoherent :
    ¬ Machine.Stays step new [.stopAdvertising noDevice] Coherent := by
  intro stays
  have coherent := stays _ List.prefix_rfl _ _ rfl
  obtain ⟨descriptor, _, same⟩ := coherent.descriptor rfl
  have socket : (new.stopAdvertising noDevice).hciSocket = -1 := rfl
  have there : (new.stopAdvertising noDevice).hciSocket = (descriptor : Int) := same
  omega

end Hci

end Btle.Native

import Btle.Library.Throwing
import Btle.Native.Numbers

namespace Btle.Native

open Narrowing

inductive BtIOType
  | l2cap
  | rfcomm
  | sco
  | invalid
  deriving DecidableEq, Repr

def BtIOType.number : BtIOType → Int
  | .l2cap => 0
  | .rfcomm => 1
  | .sco => 2
  | .invalid => 3

def BtIOType.ofNumber (number : Int) : BtIOType :=
  if number = 0 then .l2cap else if number = 1 then .rfcomm else if number = 2 then .sco else .invalid

abbrev BdAddr := BitVec 48

def bdaddrAny : BdAddr := 0
def bdaddrBredr : Int := 0
def bdaddrLePublic : Int := 1
def bdaddrLeRandom : Int := 2
def btSecuritySdp : Int := 0
def btSecurityLow : Int := 1
def btSecurityHigh : Int := 3
def l2capModeBasic : Int := 0
def l2capModeStreaming : Int := 4
def attCid : Int := 4

/-- `struct set_opts`. -/
structure SetOpts where
  src : BdAddr
  dst : BdAddr
  type : BtIOType
  srcType : uint8.Value
  dstType : uint8.Value
  defer : int.Value
  secLevel : int.Value
  channel : uint8.Value
  psm : uint16.Value
  cid : uint16.Value
  mtu : uint16.Value
  imtu : uint16.Value
  omtu : uint16.Value
  master : int.Value
  mode : uint8.Value
  flushable : int.Value
  priority : uint32.Value

/-- The struct after `memset`, and after the defaults behind it. -/
def SetOpts.defaults : SetOpts where
  src := 0
  dst := 0
  type := .l2cap
  srcType := uint8.convert bdaddrLePublic
  dstType := uint8.convert bdaddrLePublic
  defer := int.convert 30
  secLevel := int.convert btSecurityLow
  channel := uint8.convert 0
  psm := uint16.convert 0
  cid := uint16.convert attCid
  mtu := uint16.convert 0
  imtu := uint16.convert 0
  omtu := uint16.convert 0
  master := int.convert (-1)
  mode := uint8.convert l2capModeBasic
  flushable := int.convert (-1)
  priority := uint32.convert 0

inductive OptionValue
  | number (value : Server.JsNumber)
  | boolean (value : Bool)
  | string (text : List Char)
  | other
  deriving DecidableEq, Repr

/-- What the object has for each key, if it has anything. -/
abbrev Options := String → Option OptionValue

/-- `hci_devba` and `str2ba`, with what they leave of the address that is there. -/
structure Bluetooth where
  hciDevba : Int → BdAddr → BdAddr
  str2ba : List Char → BdAddr → BdAddr

/-- Code that fills the struct, and may throw and return false. -/
abbrev Filling := EStateM String SetOpts

/-- The digits at the front of a text, behind blanks and a sign. -/
def atoi (text : List Char) : Int :=
  match text.dropWhile isSpace with
  | '-' :: rest => -digits rest
  | '+' :: rest => digits rest
  | rest => digits rest
where
  isSpace (char : Char) : Bool := char = ' ' || (9 ≤ char.toNat && char.toNat ≤ 13)
  digits (text : List Char) : Int :=
    (text.takeWhile Char.isDigit).foldl (fun number digit => 10 * number + (digit.toNat - '0'.toNat)) 0

def getSourceAddr (bluetooth : Bluetooth) : OptionValue → Filling Unit
  | .string text =>
    modify fun opts =>
      if text.take 3 = ['h', 'c', 'i'] then
        { opts with src := bluetooth.hciDevba (atoi (text.drop 3)) opts.src }
      else { opts with src := bluetooth.str2ba text opts.src }
  | .number _ | .boolean _ | .other => throw "Source option must be a string"

/-- The options that are numbers. -/
inductive NumberOption
  | type
  | sourceType
  | destType
  | defer
  | securityLevel
  | channel
  | psm
  | cid
  | mtu
  | imtu
  | omtu
  | master
  | mode
  | priority
  deriving DecidableEq, Repr

namespace NumberOption

def key : NumberOption → String
  | .type => "type"
  | .sourceType => "sourceType"
  | .destType => "destType"
  | .defer => "defer"
  | .securityLevel => "securityLevel"
  | .channel => "channel"
  | .psm => "psm"
  | .cid => "cid"
  | .mtu => "mtu"
  | .imtu => "imtu"
  | .omtu => "omtu"
  | .master => "master"
  | .mode => "mode"
  | .priority => "priority"

def name : NumberOption → String
  | .type => "Type"
  | .sourceType => "SourceType"
  | .destType => "DestType"
  | .defer => "Defer"
  | .securityLevel => "SecurityLevel"
  | .channel => "Channel"
  | .psm => "PSM"
  | .cid => "CID"
  | .mtu => "MTU"
  | .imtu => "IMTU"
  | .omtu => "OMTU"
  | .master => "Master"
  | .mode => "Mode"
  | .priority => "Priority"

def expected : NumberOption → String
  | .type => "one of the BtIOType values"
  | .sourceType | .destType => "one of the BtAddrType values"
  | .securityLevel => "one of the BtSecurityLevel values"
  | .mode => "an integer and one of the BtMode values"
  | .defer | .channel | .psm | .cid | .mtu | .imtu | .omtu | .master | .priority => "an integer"

/-- What is asked of the number besides that `getIntValue` takes it. -/
def Allows (value : Int) : NumberOption → Prop
  | .type => BtIOType.l2cap.number ≤ value ∧ value ≤ BtIOType.sco.number
  | .sourceType | .destType => bdaddrBredr ≤ value ∧ value ≤ bdaddrLeRandom
  | .securityLevel => btSecuritySdp ≤ value ∧ value ≤ btSecurityHigh
  | .mode => l2capModeBasic ≤ value ∧ value ≤ l2capModeStreaming
  | .defer | .channel | .psm | .cid | .mtu | .imtu | .omtu | .master | .priority => True

instance (value : Int) : (option : NumberOption) → Decidable (option.Allows value)
  | .type | .sourceType | .destType | .securityLevel | .mode => inferInstanceAs (Decidable (_ ∧ _))
  | .defer | .channel | .psm | .cid | .mtu | .imtu | .omtu | .master | .priority =>
    inferInstanceAs (Decidable True)

def store (value : Int) (opts : SetOpts) : NumberOption → SetOpts
  | .type => { opts with type := .ofNumber value }
  | .sourceType => { opts with srcType := uint8.convert value }
  | .destType => { opts with dstType := uint8.convert value }
  | .defer => { opts with defer := int.convert value }
  | .securityLevel => { opts with secLevel := int.convert value }
  | .channel => { opts with channel := uint8.convert value }
  | .psm => { opts with psm := uint16.convert value }
  | .cid => { opts with cid := uint16.convert value }
  | .mtu => { opts with mtu := uint16.convert value }
  | .imtu => { opts with imtu := uint16.convert value }
  | .omtu => { opts with omtu := uint16.convert value }
  | .master => { opts with master := int.convert value }
  | .mode => { opts with mode := uint8.convert value }
  | .priority => { opts with priority := uint32.convert value }

def load (opts : SetOpts) : NumberOption → Int
  | .type => opts.type.number
  | .sourceType => opts.srcType.val
  | .destType => opts.dstType.val
  | .defer => opts.defer.val
  | .securityLevel => opts.secLevel.val
  | .channel => opts.channel.val
  | .psm => opts.psm.val
  | .cid => opts.cid.val
  | .mtu => opts.mtu.val
  | .imtu => opts.imtu.val
  | .omtu => opts.omtu.val
  | .master => opts.master.val
  | .mode => opts.mode.val
  | .priority => opts.priority.val

/-- The type of the field. -/
def kind : NumberOption → IntType
  | .type => ⟨BtIOType.l2cap.number, BtIOType.invalid.number, by decide⟩
  | .sourceType | .destType | .channel | .mode => uint8
  | .psm | .cid | .mtu | .imtu | .omtu => uint16
  | .defer | .securityLevel | .master => int
  | .priority => uint32

end NumberOption

/-- The block for an option that is a number. -/
def setNumber (options : Options) (option : NumberOption) : Filling Unit :=
  match options option.key with
  | none => pure ()
  | some (.number number) =>
    match getIntValue number with
    | some value =>
      if option.Allows value then modify fun opts => option.store value opts
      else throw s!"{option.name} option must be {option.expected}"
    | none => throw s!"{option.name} option must be {option.expected}"
  | some _ => throw s!"{option.name} option must be a number"

def setFlushable (options : Options) : Filling Unit :=
  match options "flushable" with
  | none => pure ()
  | some (.boolean value) => modify fun opts => { opts with flushable := int.convert (if value then 1 else 0) }
  | some _ => throw "Flushable option must be true or false"

def setSource (bluetooth : Bluetooth) (options : Options) : Filling Unit :=
  match options "source" with
  | none => modify fun opts => { opts with src := bdaddrAny }
  | some value => getSourceAddr bluetooth value

/-- The options that come before `flushable`, in order. -/
def numbersBefore : List NumberOption :=
  [.type, .sourceType, .destType, .defer, .securityLevel, .channel, .psm, .cid, .mtu, .imtu, .omtu,
    .master, .mode]

def setOpts (bluetooth : Bluetooth) (options : Options) : Filling Unit := do
  set SetOpts.defaults
  setSource bluetooth options
  numbersBefore.forM (setNumber options)
  setFlushable options
  setNumber options .priority

namespace NumberOption

variable {options : Options} {option other : NumberOption} {opts : SetOpts} {number : Int}

def Takes (option : NumberOption) (value : OptionValue) : Prop :=
  ∃ number : Int, value = .number (.finite number) ∧ int.Holds number ∧ option.Allows number

def Accepts (options : Options) (option : NumberOption) : Prop :=
  ∀ value, options option.key = some value → option.Takes value

def given (options : Options) (option : NumberOption) : Option Int :=
  match options option.key with
  | some (.number number) => getIntValue number
  | none | some _ => none

def fill (options : Options) (option : NumberOption) (opts : SetOpts) : SetOpts :=
  (option.given options).elim opts fun number => option.store number opts

/-- What the field has after the number is assigned to it. -/
def held (option : NumberOption) (number : Int) : Int := option.load (option.store number .defaults)

theorem load_store : option.load (option.store number opts) = option.held number := by
  cases option <;> rfl

theorem load_store_of_ne (different : other ≠ option) :
    other.load (option.store number opts) = other.load opts := by
  cases option <;> cases other <;> first | rfl | exact absurd rfl different

theorem number_ofNumber_iff :
    (BtIOType.ofNumber number).number = number ↔ type.kind.Holds number := by
  have ends : type.kind.Holds number ↔ 0 ≤ number ∧ number ≤ 3 := Iff.rfl
  rw [ends]
  unfold BtIOType.ofNumber
  split_ifs <;> simp only [BtIOType.number] <;> omega

/-- The field has the number itself when that fits, and never otherwise. -/
theorem held_iff : option.held number = number ↔ option.kind.Holds number := by
  cases option with
  | type => exact number_ofNumber_iff
  | _ => exact IntType.convert_eq_iff

theorem given_of_none (absent : options option.key = none) : option.given options = none := by
  rw [given, absent]

theorem given_eq_iff :
    option.given options = some number ↔
      options option.key = some (.number (.finite number)) ∧ int.Holds number := by
  unfold given
  cases options option.key with
  | none => simp
  | some value =>
    cases value with
    | number value =>
      rw [getIntValue_iff]
      simp
    | _ => simp

theorem fill_given (found : option.given options = some number) :
    option.fill options opts = option.store number opts := by
  rw [fill, found, Option.elim_some]

theorem load_fill_given (found : option.given options = some number) :
    option.load (option.fill options opts) = option.held number := by
  rw [fill_given found, load_store]

theorem load_fill_of_ne (different : other ≠ option) :
    other.load (option.fill options opts) = other.load opts := by
  unfold fill
  cases option.given options with
  | none => rfl
  | some number => exact load_store_of_ne different

theorem load_fill_absent (absent : other.given options = none) :
    other.load (option.fill options opts) = other.load opts := by
  by_cases same : other = option
  · rw [fill, ← same, absent, Option.elim_none]
  · exact load_fill_of_ne same

def fillAll (options : Options) (items : List NumberOption) (opts : SetOpts) : SetOpts :=
  items.foldl (fun last option => option.fill options last) opts

variable {items : List NumberOption}

theorem load_fillAll_absent (absent : option.given options = none) :
    option.load (fillAll options items opts) = option.load opts := by
  induction items generalizing opts with
  | nil => rfl
  | cons item items ih =>
    calc
      option.load (fillAll options items (item.fill options opts))
          = option.load (item.fill options opts) := ih
      _ = option.load opts := load_fill_absent absent

theorem load_fillAll_of_notMem (unlisted : option ∉ items) :
    option.load (fillAll options items opts) = option.load opts := by
  induction items generalizing opts with
  | nil => rfl
  | cons item items ih =>
    rw [List.mem_cons, not_or] at unlisted
    rcases unlisted with ⟨different, unlisted⟩
    calc
      option.load (fillAll options items (item.fill options opts))
          = option.load (item.fill options opts) := ih unlisted
      _ = option.load opts := load_fill_of_ne different

theorem load_fillAll_given (distinct : items.Nodup) (member : option ∈ items)
    (found : option.given options = some number) :
    option.load (fillAll options items opts) = option.held number := by
  induction items generalizing opts with
  | nil => cases member
  | cons item items ih =>
    rw [List.nodup_cons] at distinct
    rcases distinct with ⟨fresh, distinct⟩
    rcases List.mem_cons.mp member with rfl | member
    · calc
        option.load (fillAll options items (option.fill options opts))
            = option.load (option.fill options opts) := load_fillAll_of_notMem fresh
        _ = option.held number := load_fill_given found
    · exact ih distinct member

theorem accepts_of_given (found : option.given options = some number) :
    option.Accepts options ↔ option.Allows number := by
  rw [given_eq_iff] at found
  rcases found with ⟨found, fits⟩
  unfold Accepts Takes
  rw [found]
  simp [fits]

theorem not_accepts (present : options option.key ≠ none) (unfit : option.given options = none) :
    ¬option.Accepts options := by
  intro accepts
  rcases Option.ne_none_iff_exists'.mp present with ⟨value, found⟩
  rcases accepts value found with ⟨number, rfl, fits, allowed⟩
  rw [given_eq_iff.mpr ⟨found, fits⟩] at unfit
  cases unfit

theorem setNumber_throws (present : options option.key ≠ none) (unfit : option.given options = none)
    (state : SetOpts) : ∃ thrown last, (setNumber options option).run state = .error thrown last := by
  unfold setNumber
  unfold given at unfit
  cases found : options option.key with
  | none => exact absurd found present
  | some value =>
    rw [found] at unfit
    cases value with
    | number number =>
      have refused : getIntValue number = none := unfit
      dsimp only
      rw [refused]
      exact ⟨_, state, rfl⟩
    | _ => exact ⟨_, state, rfl⟩

theorem setNumber_passes (options : Options) (option : NumberOption) :
    Throwing.Passes (option.Accepts options) (option.fill options) (setNumber options option) := by
  cases found : option.given options with
  | some number =>
    have present := (given_eq_iff.mp found).1
    have taken : getIntValue (.finite number) = some number :=
      getIntValue_iff.mpr ⟨rfl, (given_eq_iff.mp found).2⟩
    rw [accepts_of_given found]
    unfold setNumber
    rw [present]
    dsimp only
    rw [taken]
    dsimp only
    constructor
    · intro allowed state
      rw [if_pos allowed, fill_given found]
      rfl
    · intro refused state
      rw [if_neg refused]
      exact ⟨_, state, rfl⟩
  | none =>
    by_cases absent : options option.key = none
    · have unchanged : ∀ state,
          (setNumber options option).run state = .ok () (option.fill options state) := by
        intro state
        rw [setNumber, absent, fill, found]
        rfl
      apply (Throwing.Passes.always unchanged).congr
      unfold Accepts
      rw [absent]
      simp
    · apply (Throwing.Passes.never (setNumber_throws absent found)).congr
      simp [not_accepts absent found]

end NumberOption

section Setting

variable {bluetooth : Bluetooth} {options : Options}

def sourced (bluetooth : Bluetooth) (options : Options) (opts : SetOpts) : SetOpts :=
  match options "source" with
  | none => { opts with src := bdaddrAny }
  | some value => Throwing.after (getSourceAddr bluetooth value) opts

def flushed (options : Options) (opts : SetOpts) : SetOpts :=
  match options "flushable" with
  | some (.boolean value) => { opts with flushable := int.convert (if value then 1 else 0) }
  | none | some _ => opts

def SourceAccepted (options : Options) : Prop :=
  ∀ value, options "source" = some value → ∃ text, value = .string text

def FlushableAccepted (options : Options) : Prop :=
  ∀ value, options "flushable" = some value → ∃ flag, value = .boolean flag

theorem setSource_passes :
    Throwing.Passes (SourceAccepted options) (sourced bluetooth options) (setSource bluetooth options) := by
  unfold setSource sourced SourceAccepted
  cases options "source" with
  | none => exact (Throwing.Passes.always fun _ => rfl).congr (by simp)
  | some value =>
    cases value with
    | string text => exact (Throwing.Passes.always fun _ => rfl).congr (by simp)
    | _ => exact (Throwing.Passes.never fun state => ⟨_, state, rfl⟩).congr (by simp)

theorem setFlushable_passes :
    Throwing.Passes (FlushableAccepted options) (flushed options) (setFlushable options) := by
  unfold setFlushable flushed FlushableAccepted
  cases options "flushable" with
  | none => exact (Throwing.Passes.always fun _ => rfl).congr (by simp)
  | some value =>
    cases value with
    | boolean flag => exact (Throwing.Passes.always fun _ => rfl).congr (by simp)
    | _ => exact (Throwing.Passes.never fun state => ⟨_, state, rfl⟩).congr (by simp)

theorem load_src {opts : SetOpts} {address : BdAddr} (option : NumberOption) :
    option.load { opts with src := address } = option.load opts := by
  cases option <;> rfl

theorem load_flushable {opts : SetOpts} {value : int.Value} (option : NumberOption) :
    option.load { opts with flushable := value } = option.load opts := by
  cases option <;> rfl

theorem load_sourced {opts : SetOpts} (option : NumberOption) :
    option.load (sourced bluetooth options opts) = option.load opts := by
  unfold sourced
  cases options "source" with
  | none => exact load_src option
  | some value =>
    cases value with
    | string text =>
      show option.load (if text.take 3 = ['h', 'c', 'i'] then _ else _) = _
      split_ifs
      · exact load_src option
      · exact load_src option
    | _ => rfl

theorem load_flushed {opts : SetOpts} (option : NumberOption) :
    option.load (flushed options opts) = option.load opts := by
  unfold flushed
  cases options "flushable" with
  | none => rfl
  | some value =>
    cases value with
    | boolean flag => exact load_flushable option
    | _ => rfl

/-- The checks that `setOpts` makes of the options. -/
def Accepted (options : Options) : Prop :=
  SourceAccepted options ∧ FlushableAccepted options ∧ ∀ option : NumberOption, option.Accepts options

def settled (bluetooth : Bluetooth) (options : Options) : SetOpts :=
  NumberOption.priority.fill options <| flushed options <|
    NumberOption.fillAll options numbersBefore <| sourced bluetooth options .defaults

theorem mem_numbersBefore {option : NumberOption} (early : option ≠ .priority) : option ∈ numbersBefore := by
  revert early
  cases option <;> decide

theorem numbersBefore_nodup : numbersBefore.Nodup := by decide

theorem setOpts_passes :
    Throwing.Passes (Accepted options) (fun _ => settled bluetooth options) (setOpts bluetooth options) := by
  have cleared : Throwing.Passes True (fun _ => SetOpts.defaults)
      (set SetOpts.defaults : Filling PUnit) := Throwing.Passes.always fun _ => rfl
  have numbers := Throwing.Passes.forM fun option (_ : option ∈ numbersBefore) =>
    NumberOption.setNumber_passes options option
  have last := NumberOption.setNumber_passes options .priority
  apply (cleared.bind <| setSource_passes.bind <| numbers.bind <| setFlushable_passes.bind last).congr
  unfold Accepted
  rw [true_and]
  constructor
  · rintro ⟨source, early, flushable, priority⟩
    refine ⟨source, flushable, fun option => ?_⟩
    by_cases late : option = .priority
    · rw [late]
      exact priority
    · exact early option (mem_numbersBefore late)
  · rintro ⟨source, flushable, each⟩
    exact ⟨source, fun option _ => each option, flushable, each .priority⟩

theorem load_settled_given {option : NumberOption} {number : Int}
    (found : option.given options = some number) :
    option.load (settled bluetooth options) = option.held number := by
  unfold settled
  by_cases late : option = .priority
  · rw [← late]
    exact NumberOption.load_fill_given found
  · rw [NumberOption.load_fill_of_ne late, load_flushed]
    exact NumberOption.load_fillAll_given numbersBefore_nodup (mem_numbersBefore late) found

theorem load_settled_absent {option : NumberOption} (absent : options option.key = none) :
    option.load (settled bluetooth options) = option.load .defaults := by
  have unset := NumberOption.given_of_none absent
  unfold settled
  rw [NumberOption.load_fill_absent unset, load_flushed, NumberOption.load_fillAll_absent unset,
    load_sourced]

/-- Each option that is there has its number in the struct, and each other one its default. -/
def StoredExactly (options : Options) (opts : SetOpts) : Prop :=
  ∀ option : NumberOption,
    match options option.key with
    | some value => value = .number (.finite (option.load opts))
    | none => option.load opts = option.load .defaults

def ExactOrRefused (options : Options) : EStateM.Result String SetOpts Unit → Prop
  | .ok _ opts => StoredExactly options opts
  | .error _ _ => True

/-- The options whose fields are narrower than `int`, or unsigned, and whose numbers have no bound. -/
def narrowed : List NumberOption := [.channel, .psm, .cid, .mtu, .imtu, .omtu, .priority]

def FitTheirFields (options : Options) : Prop :=
  ∀ option ∈ narrowed, ∀ number : Int, options option.key = some (.number (.finite number)) →
    option.kind.Holds number

theorem kind_holds {option : NumberOption} {number : Int} (wide : option ∉ narrowed)
    (fits : int.Holds number) (allowed : option.Allows number) : option.kind.Holds number := by
  cases option with
  | type | sourceType | destType | mode =>
    rcases allowed with ⟨least, most⟩
    exact ⟨least, most.trans (by decide)⟩
  | defer | securityLevel | master => exact fits
  | _ => exact absurd (by decide) wide

theorem load_settled_iff (bluetooth : Bluetooth) {option : NumberOption} {number : Int}
    (accepted : option.Accepts options) (found : options option.key = some (.number (.finite number))) :
    option.load (settled bluetooth options) = number ↔ option.kind.Holds number := by
  rcases accepted _ found with ⟨taken, same, fits, _⟩
  have whole : number = taken := by simpa using same
  rw [load_settled_given (NumberOption.given_eq_iff.mpr ⟨found, whole ▸ fits⟩)]
  exact NumberOption.held_iff

theorem storedExactly_settled_iff (accepted : Accepted options) :
    StoredExactly options (settled bluetooth options) ↔ FitTheirFields options := by
  constructor
  · intro stored option _ number found
    have exactly := stored option
    rw [found] at exactly
    apply (load_settled_iff bluetooth (accepted.2.2 option) found).mp
    simpa using exactly.symm
  · intro fit option
    cases found : options option.key with
    | none => exact load_settled_absent found
    | some value =>
      rcases accepted.2.2 option value found with ⟨number, rfl, fits, allowed⟩
      have held : option.kind.Holds number := by
        by_cases narrow : option ∈ narrowed
        · exact fit option narrow number found
        · exact kind_holds narrow fits allowed
      show OptionValue.number _ = .number _
      rw [(load_settled_iff bluetooth (accepted.2.2 option) found).mpr held]

/-- `setOpts` stores the options exactly or turns them down, but for those that it cuts. -/
theorem setOpts_exact_iff (bluetooth : Bluetooth) (options : Options) (opts : SetOpts) :
    ExactOrRefused options ((setOpts bluetooth options).run opts) ↔
      ¬Accepted options ∨ FitTheirFields options := by
  by_cases accepted : Accepted options
  · rw [setOpts_passes.1 accepted opts]
    simp only [accepted, not_true_eq_false, false_or]
    exact storedExactly_settled_iff accepted
  · rcases setOpts_passes.2 accepted opts with ⟨thrown, last, ran⟩
    rw [ran]
    exact iff_of_true trivial (.inl accepted)

/-- A channel number one past those that the field can have. -/
def wideCid : Options := fun key => if key = "cid" then some (.number (.finite 65540)) else none

theorem wideCid_cut :
    ¬ExactOrRefused wideCid
      ((setOpts ⟨fun _ address => address, fun _ address => address⟩ wideCid).run .defaults) := by
  intro exact
  have kept : OptionValue.number (.finite 65540) = .number (.finite (NumberOption.cid.load _)) :=
    exact .cid
  revert kept
  decide +kernel

end Setting

end Btle.Native

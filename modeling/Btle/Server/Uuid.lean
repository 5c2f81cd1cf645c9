import Btle.Library.Hex
import Btle.Server.Buffer

namespace Btle.Server

open Utf16

/-- A string, and what `toUpperCase` gives for it: the capitals of a text that is all ASCII. Of any other
    text no more is said than that no small letter is left, for the upper case may be longer. -/
structure JsString where
  units : Text
  upperCase : Text
  ascii : IsAscii units → upperCase = upperText units
  unlowered : ∀ unit ∈ upperCase, ¬ (0x61 ≤ unit.toNat ∧ unit.toNat ≤ 0x7A)
  deriving DecidableEq, Repr

/-- A string that is written out. -/
def JsString.of (string : String) : JsString where
  units := ofString string
  upperCase := upperText (ofString string)
  ascii _ := rfl
  unlowered unit member := by
    rcases List.mem_map.mp member with ⟨lower, _, rfl⟩
    exact upper_unlowered lower

def dash : UInt16 := 0x2D

def baseUuid : Text := ofString "-0000-1000-8000-00805f9b34fb"

/-- A `UUID` object. An odd string leaves its buffer undefined. -/
structure Uuid where
  longString : Text
  shortString : Option Text
  buffer : Option Buffer
  deriving DecidableEq, Repr

abbrev UuidRef := Nat

/-- The objects made so far and the cache `uuids` of the module, newest entry first. -/
structure UuidStore where
  objects : List Uuid
  uuids : List (Text × UuidRef)

def UuidStore.empty : UuidStore := ⟨[], []⟩

/-- What `getUUID` may be given. An object is one that `getUUID` returned earlier, for the
    constructor is not exported. -/
inductive UuidValue
  | string (value : JsString)
  | number (value : Nat)
  | buffer (value : Buffer)
  | object (ref : UuidRef)
  deriving DecidableEq, Repr

def hexBuffer : Text → Except JsError Buffer
  | high :: low :: rest =>
    match Hex.digit? high, Hex.digit? low with
    | some upper, some lower => do
      return UInt8.ofNat (16 * upper + lower) :: (← hexBuffer rest)
    | _, _ => .error (.typeError "Invalid hex string")
  | [_] => .error (.typeError "Invalid hex string")
  | [] => .ok []

def HasHexPrefix (string : Text) : Prop :=
  string.take 2 = ofString "0x" ∨ string.take 2 = ofString "0X"

instance (string : Text) : Decidable (HasHexPrefix string) :=
  inferInstanceAs (Decidable (_ ∨ _))

/-- What a string counts as where bits of it are taken: `0x` with digits is a number, and no other
    string that gets here is. -/
def toInt32 (string : Text) : Nat :=
  if HasHexPrefix string ∧ Hex.IsDigits (string.drop 2) then Hex.value (string.drop 2) else 0

def hexPieces (str : Text) : Text :=
  str.take 8 ++ (str.drop 9).take 4 ++ (str.drop 14).take 4 ++ (str.drop 19).take 4 ++ str.drop 24

/-- The arguments of `writeUInt16LE(str, 0, 4, 'hex')` make it skip its checks. -/
def stringToBuffer (str : Text) : Except JsError (Option Buffer) :=
  if str.length = 36 then do
    return some (← hexBuffer (hexPieces str)).reverse
  else if str.length ≤ 6 then .ok (some (LittleEndian.bytes 2 (toInt32 str)))
  else .ok none

def Uuid.new (longString : Text) (shortString : Option Text) : Except JsError Uuid := do
  match shortString with
  | some short => return ⟨longString, some short, ← stringToBuffer short⟩
  | none => return ⟨longString, none, ← stringToBuffer longString⟩

/-- The end of every parse function: the object cached under a key, or a new one put there. -/
def UuidStore.cached (store : UuidStore) (key : Text) (make : Except JsError Uuid) :
    Except JsError (UuidStore × Option UuidRef) :=
  match store.uuids.lookup key with
  | some ref => .ok (store, some ref)
  | none => do
    let uuid ← make
    let ref := store.objects.length
    return (⟨store.objects ++ [uuid], (key, ref) :: store.uuids⟩, some ref)

def parseLongUuid (store : UuidStore) (string : JsString) :
    Except JsError (UuidStore × Option UuidRef) :=
  if dash ∈ string.units then store.cached string.units (Uuid.new string.upperCase none)
  else .ok (store, none)

def shortToLong (string : Text) : Text := ofString "0000" ++ string.drop 2 ++ baseUuid

def longToShort (string : Text) : Option Text :=
  if string.take 4 = ofString "0000" ∧ string.drop 8 = baseUuid then
    some (ofString "0x" ++ (string.drop 4).take 4)
  else none

def IsShort (string : Text) : Prop :=
  HasHexPrefix string ∧ string.length = 6 ∧ Hex.IsDigits (string.drop 2)

instance (string : Text) : Decidable (IsShort string) :=
  inferInstanceAs (Decidable (_ ∧ _ ∧ _))

def parseShortUuid (store : UuidStore) (string : JsString) :
    Except JsError (UuidStore × Option UuidRef) :=
  if IsShort string.units then
    let longString := shortToLong string.upperCase
    store.cached longString (Uuid.new longString (some string.units))
  else .ok (store, none)

def parseString (store : UuidStore) (string : JsString) :
    Except JsError (UuidStore × Option UuidRef) :=
  if string.units.length = 36 then parseLongUuid store string
  else if string.units.length ≤ 6 then parseShortUuid store string
  else .ok (store, none)

def parseNumber (store : UuidStore) (num : Nat) : Except JsError (UuidStore × Option UuidRef) :=
  if 0 < num ∧ num ≤ 0xFFFF then
    let shortString := ofString "0x" ++ upperText (Hex.ofNat num)
    let longString := shortToLong shortString
    store.cached longString (Uuid.new longString (some shortString))
  else .ok (store, none)

/-- Two bytes are a short UUID; any other number of bytes is turned around and cut at the places
    of a long one. -/
def bufferToString (buffer : Buffer) : Text :=
  match buffer with
  | [low, high] => Hex.ofBytes [0, 0, high, low] ++ baseUuid
  | _ =>
    let str := Hex.ofBytes buffer.reverse
    str.take 8 ++ [dash] ++ (str.drop 8).take 4 ++ [dash] ++ (str.drop 12).take 4 ++ [dash] ++
      (str.drop 16).take 4 ++ [dash] ++ str.drop 20

def parseBuffer (store : UuidStore) (buf : Buffer) : Except JsError (UuidStore × Option UuidRef) :=
  let longString := bufferToString buf
  store.cached longString (Uuid.new longString (longToShort longString))

/-- `getUUID`; `none` is `null`. A given object is also cached under its long string, unless
    something is cached there already. -/
def getUuid (store : UuidStore) : UuidValue → Except JsError (UuidStore × Option UuidRef)
  | .string value => parseString store value
  | .number value => parseNumber store value
  | .buffer value => parseBuffer store value
  | .object ref =>
    match store.objects[ref]? with
    | none => .ok (store, none)
    | some uuid =>
      match store.uuids.lookup uuid.longString with
      | some _ => .ok (store, some ref)
      | none => .ok ({ store with uuids := (uuid.longString, ref) :: store.uuids }, some ref)

end Btle.Server

import Btle.Library.LittleEndian

namespace Btle.Server

open LittleEndian

inductive JsError
  | error (message : String)
  | typeError (message : String)
  | rangeError (message : String)
  | referenceError (message : String)
  | assertionError (message : String)
  deriving DecidableEq, Repr

abbrev Buffer := List UInt8

namespace Buffer

def readUInt16LE (buffer : Buffer) (offset : Nat) : Except JsError Nat :=
  if offset + 1 < buffer.length then .ok (number ((buffer.drop offset).take 2))
  else .error (.assertionError "Trying to read beyond buffer length")

/-- The value may be `undefined`, and a number out of range is refused. -/
def writeUInt16LE (buffer : Buffer) (value : Option Nat) (offset : Nat) : Except JsError Buffer :=
  match value with
  | none => .error (.assertionError "missing value")
  | some value =>
    if offset + 1 < buffer.length then
      if value ≤ 0xFFFF then
        .ok ((buffer.set offset (UInt8.ofNat value)).set (offset + 1) (UInt8.ofNat (value / 256)))
      else .error (.assertionError "value is out of bounds")
    else .error (.assertionError "trying to write beyond buffer length")

def copy (source target : Buffer) (targetStart : Nat) (sourceEnd : Int) : Except JsError Buffer :=
  let sourceEnd := if sourceEnd < source.length then sourceEnd else source.length
  if sourceEnd = 0 ∨ target.length = 0 ∨ source.length = 0 then .ok target
  else if sourceEnd < 0 then .error (.rangeError "sourceEnd < sourceStart")
  else if target.length ≤ targetStart then .error (.rangeError "targetStart out of bounds")
  else
    let count := min sourceEnd.toNat (target.length - targetStart)
    .ok (target.take targetStart ++ source.take count ++ target.drop (targetStart + count))

end Buffer

end Btle.Server

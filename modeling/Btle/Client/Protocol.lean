import Mathlib.Data.Nat.Digits.Defs

namespace Btle.Client

abbrev attOpError : UInt8 := 0x01
abbrev attOpMtuReq : UInt8 := 0x02
abbrev attOpMtuResp : UInt8 := 0x03
abbrev attOpFindInfoReq : UInt8 := 0x04
abbrev attOpFindInfoResp : UInt8 := 0x05
abbrev attOpFindByTypeReq : UInt8 := 0x06
abbrev attOpFindByTypeResp : UInt8 := 0x07
abbrev attOpReadByTypeReq : UInt8 := 0x08
abbrev attOpReadByTypeResp : UInt8 := 0x09
abbrev attOpReadReq : UInt8 := 0x0A
abbrev attOpReadResp : UInt8 := 0x0B
abbrev attOpReadBlobReq : UInt8 := 0x0C
abbrev attOpReadBlobResp : UInt8 := 0x0D
abbrev attOpReadMultiReq : UInt8 := 0x0E
abbrev attOpReadMultiResp : UInt8 := 0x0F
abbrev attOpReadByGroupReq : UInt8 := 0x10
abbrev attOpReadByGroupResp : UInt8 := 0x11
abbrev attOpWriteReq : UInt8 := 0x12
abbrev attOpWriteResp : UInt8 := 0x13
abbrev attOpWriteCmd : UInt8 := 0x52
abbrev attOpPrepWriteReq : UInt8 := 0x16
abbrev attOpPrepWriteResp : UInt8 := 0x17
abbrev attOpExecWriteReq : UInt8 := 0x18
abbrev attOpExecWriteResp : UInt8 := 0x19
abbrev attOpHandleNotify : UInt8 := 0x1B
abbrev attOpHandleInd : UInt8 := 0x1D
abbrev attOpHandleCnf : UInt8 := 0x1E
abbrev attOpSignedWriteCmd : UInt8 := 0xD2

abbrev attEcodeInvalidHandle : UInt8 := 0x01
abbrev attEcodeReadNotPerm : UInt8 := 0x02
abbrev attEcodeWriteNotPerm : UInt8 := 0x03
abbrev attEcodeInvalidPdu : UInt8 := 0x04
abbrev attEcodeAuthentication : UInt8 := 0x05
abbrev attEcodeReqNotSupp : UInt8 := 0x06
abbrev attEcodeInvalidOffset : UInt8 := 0x07
abbrev attEcodeAuthorization : UInt8 := 0x08
abbrev attEcodePrepQueueFull : UInt8 := 0x09
abbrev attEcodeAttrNotFound : UInt8 := 0x0A
abbrev attEcodeAttrNotLong : UInt8 := 0x0B
abbrev attEcodeInsuffEncrKeySize : UInt8 := 0x0C
abbrev attEcodeInvalAttrValueLen : UInt8 := 0x0D
abbrev attEcodeUnlikely : UInt8 := 0x0E
abbrev attEcodeInsuffEnc : UInt8 := 0x0F
abbrev attEcodeUnsuppGrpType : UInt8 := 0x10
abbrev attEcodeInsuffResources : UInt8 := 0x11

abbrev attCid : UInt16 := 4
abbrev attDefaultLeMtu : Nat := 23
abbrev attFindInfoRespFmt16Bit : UInt8 := 0x01
abbrev attFindInfoRespFmt128Bit : UInt8 := 0x02

def errorStrings : List (UInt8 × String) :=
  [(attEcodeInvalidHandle, "Invalid handle"),
    (attEcodeReadNotPerm, "Attribute cannot be read"),
    (attEcodeWriteNotPerm, "Attribute cannot be written"),
    (attEcodeInvalidPdu, "Attribute PDU is invalid"),
    (attEcodeAuthentication, "Authentication required"),
    (attEcodeReqNotSupp, "Client request not supported"),
    (attEcodeInvalidOffset, "Offset specified was past end of attribute"),
    (attEcodeAuthorization, "Authorization required"),
    (attEcodePrepQueueFull, "Too many prepare writes have been queued"),
    (attEcodeAttrNotFound, "No attribute found corresponding to the given handle"),
    (attEcodeAttrNotLong, "Attribute cannot be read using the Read Blob request"),
    (attEcodeInsuffEncrKeySize, "Encryption key size is insufficient"),
    (attEcodeInvalAttrValueLen, "Attribute value length was invalid for this operation"),
    (attEcodeUnlikely, "Attribute request encountered unlikely error"),
    (attEcodeInsuffEnc, "Attribute requires encryption before it can be read or written"),
    (attEcodeUnsuppGrpType, "Attribute type is not a supported grouping attribute"),
    (attEcodeInsuffResources, "Insufficient Resources to complete the request")]

def getErrorString (errorCode : UInt8) : Option String := errorStrings.lookup errorCode

def opcodeNames : List (UInt8 × String) :=
  [(attOpError, "error response"),
    (attOpMtuReq, "exchange MTU request"),
    (attOpMtuResp, "exchange MTU response"),
    (attOpFindInfoReq, "find info request"),
    (attOpFindInfoResp, "find info response"),
    (attOpFindByTypeReq, "find by type request"),
    (attOpFindByTypeResp, "find by type response"),
    (attOpReadByTypeReq, "read by type request"),
    (attOpReadByTypeResp, "read by type response"),
    (attOpReadReq, "read request"),
    (attOpReadResp, "read response"),
    (attOpReadBlobReq, "read blob request"),
    (attOpReadBlobResp, "read blob response"),
    (attOpReadMultiReq, "read multiple request"),
    (attOpReadMultiResp, "read multiple response"),
    (attOpReadByGroupReq, "read by group type request"),
    (attOpReadByGroupResp, "read by group type response"),
    (attOpWriteReq, "write request"),
    (attOpWriteResp, "write response"),
    (attOpWriteCmd, "write command"),
    (attOpPrepWriteReq, "prepare write request"),
    (attOpPrepWriteResp, "prepare write response"),
    (attOpExecWriteReq, "execute write request"),
    (attOpExecWriteResp, "execute write response"),
    (attOpHandleNotify, "handle value notification"),
    (attOpHandleInd, "handle value indication"),
    (attOpHandleCnf, "handle value confirmation"),
    (attOpSignedWriteCmd, "signed write command")]

def getOpcodeName (opcode : UInt8) : Option String := opcodeNames.lookup opcode

def printed : Option String → String
  | some text => text
  | none => "(null)"

/-- `%x`, or `%02X` with `upper`: the digits, padded with zeros to the given width. -/
def hexadecimal (upper : Bool) (width value : Nat) : String :=
  let digits := Nat.toDigits 16 value
  let padded := List.replicate (width - digits.length) '0' ++ digits
  String.ofList (if upper then padded.map Char.toUpper else padded)

def errorMessage (request errorCode : UInt8) (handle : UInt16) : String :=
  "Error on " ++ printed (getOpcodeName request) ++ " for handle 0x" ++
    hexadecimal true 2 handle.toNat ++ ": " ++
    match getErrorString errorCode with
    | some message => message
    | none => "0x" ++ hexadecimal true 2 errorCode.toNat

def pendingMessage (request : UInt8) : String :=
  "Request already pending: " ++ printed (getOpcodeName request)

def unexpectedNotification (handle : UInt16) : String :=
  "Got unexpected notification for handle " ++ hexadecimal false 1 handle.toNat

def unexpectedData (opcode : UInt8) : String :=
  "Got unexpected data with opcode " ++ hexadecimal false 1 opcode.toNat ++ "\n"

example : errorMessage attOpReadReq 0x80 0x25 = "Error on read request for handle 0x25: 0x80" := by
  decide

end Btle.Client

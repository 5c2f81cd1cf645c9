import Mathlib.Data.Finset.Basic
import Btle.Library.Calling
import Btle.Native.Options

namespace Btle.Native

open Calling

abbrev Fd := Nat

/-- `errno` of a call that failed. -/
inductive Errno
  | again
  | inProgress
  | noProtoOpt
  | other (number : Nat)
  deriving DecidableEq, Repr

/-- The protocols that there are sockets of. -/
inductive Transport
  | l2cap
  | rfcomm
  | sco
  deriving DecidableEq, Repr

structure SockaddrL2 where
  psm : uint16.Value
  bdaddr : BdAddr
  cid : uint16.Value
  bdaddrType : uint8.Value

structure SockaddrRc where
  bdaddr : BdAddr
  channel : uint8.Value

structure SockaddrSco where
  bdaddr : BdAddr

def Transport.Address : Transport → Type
  | .l2cap => SockaddrL2
  | .rfcomm => SockaddrRc
  | .sco => SockaddrSco

/-- `struct bt_security`. -/
structure BtSecurity where
  level : uint8.Value
  keySize : uint8.Value

structure L2capOptions where
  omtu : uint16.Value
  imtu : uint16.Value
  flushTo : uint16.Value
  mode : uint8.Value
  fcs : uint8.Value
  maxTx : uint8.Value
  txwinSize : uint16.Value

structure ConnInfo where
  hciHandle : uint16.Value
  devClass : BitVec 24

/-- The protocols with a link mode, of which the bits are the same. -/
inductive LinkMode
  | l2cap
  | rfcomm
  deriving DecidableEq, Repr

abbrev Flags := BitVec 32

def lmMaster : Flags := 0x0001
def lmAuth : Flags := 0x0002
def lmEncrypt : Flags := 0x0004
def lmSecure : Flags := 0x0020
def oNonblock : Flags := 0x0800

/-- The options of `getsockopt` and `setsockopt`, each with its level. -/
inductive SockOpt
  | domain
  | protocol
  | priority
  | security
  | deferSetup
  | flushable
  | l2capOptions
  | linkMode (mode : LinkMode)
  | scoOptions
  | connInfo (transport : Transport)
  deriving DecidableEq, Repr

def SockOpt.Value : SockOpt → Type
  | .domain | .protocol | .deferSetup | .flushable => int.Value
  | .priority => uint32.Value
  | .security => BtSecurity
  | .l2capOptions => L2capOptions
  | .linkMode _ => Flags
  | .scoOptions => uint16.Value
  | .connInfo _ => ConnInfo

inductive Syscall
  | socket (transport : Transport)
  | bind (sock : Fd) (transport : Transport) (address : transport.Address)
  | connect (sock : Fd) (transport : Transport) (address : transport.Address)
  | listen (sock : Fd) (backlog : Nat)
  | accept (sock : Fd)
  | close (sock : Fd)
  | getfl (sock : Fd)
  | setfl (sock : Fd) (flags : Flags)
  | getsockopt (sock : Fd) (option : SockOpt)
  | setsockopt (sock : Fd) (option : SockOpt) (value : option.Value)
  | getsockname (sock : Fd) (transport : Transport)
  | getpeername (sock : Fd) (transport : Transport)

/-- What a call gives if it does not fail. -/
def Syscall.Returns : Syscall → Type
  | .socket _ | .accept _ => Fd
  | .bind .. | .connect .. | .listen .. | .close _ | .setfl .. | .setsockopt .. => Unit
  | .getfl _ => Flags
  | .getsockopt _ option => option.Value
  | .getsockname _ transport | .getpeername _ transport => transport.Address

abbrev Syscall.Answer (call : Syscall) : Type := Except Errno call.Returns

/-- Code that makes system calls. -/
abbrev Sys := Program Syscall Syscall.Answer

/-- The socket that a call is about. -/
def Syscall.sock? : Syscall → Option Fd
  | .socket _ => none
  | .bind sock .. | .connect sock .. | .listen sock _ | .accept sock | .close sock | .getfl sock
  | .setfl sock _ | .getsockopt sock _ | .setsockopt sock .. | .getsockname sock _
  | .getpeername sock _ => some sock

end Btle.Native

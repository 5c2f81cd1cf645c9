import Btle.Native.Syscalls

namespace Btle.Native.Btio

open Calling

section Syscalls

def getsockopt (sock : Fd) (option : SockOpt) : Sys (Except Errno option.Value) :=
  Program.perform (Syscall.getsockopt sock option)

def setsockopt (sock : Fd) (option : SockOpt) (value : option.Value) : Sys (Except Errno Unit) :=
  Program.perform (Syscall.setsockopt sock option value)

def bind (sock : Fd) (transport : Transport) (address : transport.Address) : Sys (Except Errno Unit) :=
  Program.perform (Syscall.bind sock transport address)

def connect (sock : Fd) (transport : Transport) (address : transport.Address) :
    Sys (Except Errno Unit) := Program.perform (Syscall.connect sock transport address)

def close (sock : Fd) : Sys (Except Errno Unit) :=
  Program.perform (Syscall.close sock)

def fcntlGetfl (sock : Fd) : Sys (Except Errno Flags) := Program.perform (Syscall.getfl sock)

def fcntlSetfl (sock : Fd) (flags : Flags) : Sys (Except Errno Unit) :=
  Program.perform (Syscall.setfl sock flags)

def socket (transport : Transport) : Sys (Except Errno Fd) := Program.perform (Syscall.socket transport)

def listen (sock : Fd) (backlog : Nat) : Sys (Except Errno Unit) :=
  Program.perform (Syscall.listen sock backlog)

def accept (sock : Fd) : Sys (Except Errno Fd) := Program.perform (Syscall.accept sock)

def getsockname (sock : Fd) (transport : Transport) : Sys (Except Errno transport.Address) :=
  Program.perform (Syscall.getsockname sock transport)

def getpeername (sock : Fd) (transport : Transport) : Sys (Except Errno transport.Address) :=
  Program.perform (Syscall.getpeername sock transport)

end Syscalls

def afBluetooth : Int := 31
def btprotoL2cap : Int := 0
def btprotoSco : Int := 2
def btprotoRfcomm : Int := 3

def btIoGetType (sock : Fd) : Sys BtIOType := do
  match ← getsockopt sock .domain with
  | .error _ => return .invalid
  | .ok domain =>
    if domain.val ≠ afBluetooth then return .invalid
    else match ← getsockopt sock .protocol with
      | .error _ => return .invalid
      | .ok proto =>
        if proto.val = btprotoRfcomm then return .rfcomm
        else if proto.val = btprotoSco then return .sco
        else if proto.val = btprotoL2cap then return .l2cap
        else return .invalid

/-- The address of an L2CAP socket has a PSM only if there is no CID. -/
def l2Address (bdaddr : BdAddr) (bdaddrType : uint8.Value) (psm cid : uint16.Value) : SockaddrL2 :=
  if cid.val ≠ 0 then { psm := uint16.convert 0, bdaddr, cid, bdaddrType }
  else { psm, bdaddr, cid := uint16.convert 0, bdaddrType }

def l2capBind (sock : Fd) (src : BdAddr) (srcType : uint8.Value) (psm cid : uint16.Value) :
    Sys (Except Errno Unit) := bind sock .l2cap (l2Address src srcType psm cid)

/-- A connection that is still to be made is none that failed. -/
def connectTo (sock : Fd) (transport : Transport) (address : transport.Address) :
    Sys (Except Errno Unit) := do
  match ← connect sock transport address with
  | .error .again | .error .inProgress => return .ok ()
  | .error errno => return .error errno
  | .ok () => return .ok ()

def l2capConnect (sock : Fd) (dst : BdAddr) (dstType : uint8.Value) (psm cid : uint16.Value) :
    Sys (Except Errno Unit) := connectTo sock .l2cap (l2Address dst dstType psm cid)

def setMaster (mode : LinkMode) (sock : Fd) (master : Bool) : Sys (Except Errno Unit) := do
  match ← getsockopt sock (.linkMode mode) with
  | .error errno => return .error errno
  | .ok (flags : Flags) =>
    if master then
      if flags &&& lmMaster ≠ 0 then return .ok ()
      else setsockopt sock (.linkMode mode) (flags ||| lmMaster)
    else
      if flags &&& lmMaster = 0 then return .ok ()
      else setsockopt sock (.linkMode mode) (flags &&& ~~~lmMaster)

def l2capSetMaster : Fd → Bool → Sys (Except Errno Unit) := setMaster .l2cap
def rfcommSetMaster : Fd → Bool → Sys (Except Errno Unit) := setMaster .rfcomm

/-- `lm_map`, for the levels that are asked for. -/
def lmMap (level : Int) : Flags :=
  if level = 1 then lmAuth
  else if level = 2 then lmAuth ||| lmEncrypt
  else if level = 3 then lmAuth ||| lmEncrypt ||| lmSecure
  else 0

def setLm (mode : LinkMode) (sock : Fd) (level : Int) : Sys (Except Errno Unit) :=
  setsockopt sock (.linkMode mode) (lmMap level)

def l2capSetLm : Fd → Int → Sys (Except Errno Unit) := setLm .l2cap
def rfcommSetLm : Fd → Int → Sys (Except Errno Unit) := setLm .rfcomm

/-- The link mode stands in for a security option that the kernel does not have. -/
def setSecLevel (mode : LinkMode) (sock : Fd) (level : Int) : Sys Bool := do
  if level < btSecurityLow ∨ btSecurityHigh < level then return false
  else match ← setsockopt sock .security ⟨uint8.convert level, uint8.convert 0⟩ with
    | .ok () => return true
    | .error .noProtoOpt => do
      match ← setLm mode sock level with
      | .error _ => return false
      | .ok () => return true
    | .error _ => return false

def levelOf (flags : Flags) : Int :=
  if flags &&& lmSecure ≠ 0 then 3
  else if flags &&& lmEncrypt ≠ 0 then 2
  else if flags &&& lmAuth ≠ 0 then 1
  else 0

def getLm (mode : LinkMode) (sock : Fd) : Sys (Except Errno Int) := do
  match ← getsockopt sock (.linkMode mode) with
  | .error errno => return .error errno
  | .ok (flags : Flags) => return .ok (levelOf flags)

def l2capGetLm : Fd → Sys (Except Errno Int) := getLm .l2cap
def rfcommGetLm : Fd → Sys (Except Errno Int) := getLm .rfcomm

def getSecLevel (mode : LinkMode) (sock : Fd) : Sys (Option Int) := do
  match ← getsockopt sock .security with
  | .ok (sec : BtSecurity) => return some sec.level.val
  | .error .noProtoOpt => do
    match ← getLm mode sock with
    | .error _ => return none
    | .ok level => return some level
  | .error _ => return none

def l2capSetFlushable (sock : Fd) (flushable : Bool) : Sys (Except Errno Unit) :=
  setsockopt sock .flushable (int.convert (if flushable then 1 else 0))

def setPriority (sock : Fd) (prio : uint32.Value) : Sys (Except Errno Unit) :=
  setsockopt sock .priority prio

def getKeySize (sock : Fd) : Sys (Option Int) := do
  match ← getsockopt sock .security with
  | .ok (sec : BtSecurity) => return some sec.keySize.val
  | .error _ => return none

/-- The fields that are asked for; 0 leaves a field as it is. -/
def filled (l2o : L2capOptions) (imtu omtu : uint16.Value) (mode : uint8.Value) :
    L2capOptions :=
  let l2o := if imtu.val ≠ 0 then { l2o with imtu } else l2o
  let l2o := if omtu.val ≠ 0 then { l2o with omtu } else l2o
  if mode.val ≠ 0 then { l2o with mode } else l2o

def l2capSetOptions (sock : Fd) (imtu omtu : uint16.Value) (mode : uint8.Value) :
    Sys (Except Errno Unit) := do
  if imtu.val ≠ 0 ∨ omtu.val ≠ 0 ∨ mode.val ≠ 0 then
    match ← getsockopt sock .l2capOptions with
    | .error errno => return .error errno
    | .ok (l2o : L2capOptions) =>
      setsockopt sock .l2capOptions (filled l2o imtu omtu mode)
  else return .ok ()

/-- To go on only after what did not fail. -/
def after (failing : Sys (Except Errno Unit)) (next : Sys Bool) : Sys Bool := do
  match ← failing with
  | .error _ => return false
  | .ok () => next

def skipped : Sys (Except Errno Unit) := pure (.ok ())

def l2capSet (sock : Fd) (opts : SetOpts) : Sys Bool :=
  after (l2capSetOptions sock opts.imtu opts.omtu opts.mode) <|
  after (if 0 ≤ opts.master.val then l2capSetMaster sock (opts.master.val ≠ 0) else skipped) <|
  after (if 0 ≤ opts.flushable.val then l2capSetFlushable sock (opts.flushable.val ≠ 0) else skipped) <|
  after (if 0 < opts.priority.val then setPriority sock opts.priority else skipped) <|
  if opts.secLevel.val ≠ 0 then setSecLevel .l2cap sock opts.secLevel.val else pure true

def rfcommBind (sock : Fd) (src : BdAddr) (channel : uint8.Value) : Sys (Except Errno Unit) :=
  bind sock .rfcomm ⟨src, channel⟩

def rfcommConnect (sock : Fd) (dst : BdAddr) (channel : uint8.Value) : Sys (Except Errno Unit) :=
  connectTo sock .rfcomm ⟨dst, channel⟩

def rfcommSet (sock : Fd) (opts : SetOpts) : Sys Bool := do
  if ← (if opts.secLevel.val ≠ 0 then setSecLevel .rfcomm sock opts.secLevel.val else pure true) then
    after (if 0 ≤ opts.master.val then rfcommSetMaster sock (opts.master.val ≠ 0) else skipped)
      (pure true)
  else return false

def scoBind (sock : Fd) (src : BdAddr) : Sys (Except Errno Unit) := bind sock .sco ⟨src⟩

def scoConnect (sock : Fd) (dst : BdAddr) : Sys (Except Errno Unit) := connectTo sock .sco ⟨dst⟩

def scoSet (sock : Fd) (mtu : uint16.Value) : Sys Bool := do
  if mtu.val = 0 then return true
  else match ← getsockopt sock .scoOptions with
    | .error _ => return false
    | .ok _ => after (setsockopt sock .scoOptions mtu) (pure true)

def btIoSet (sock : Fd) (opts : SetOpts) : Sys Bool := do
  match ← btIoGetType sock with
  | .l2cap => l2capSet sock opts
  | .rfcomm => rfcommSet sock opts
  | .sco => scoSet sock opts.mtu
  | .invalid => return false

/-- The options of `bt_io_get`, but for the one that ends the list. -/
inductive BtIOOption
  | source
  | sourceBdaddr
  | sourceType
  | dest
  | destBdaddr
  | destType
  | deferTimeout
  | secLevel
  | keySize
  | channel
  | sourceChannel
  | destChannel
  | psm
  | cid
  | mtu
  | omtu
  | imtu
  | master
  | handle
  | devClass
  | mode
  | flushable
  | priority
  deriving DecidableEq, Repr

/-- What is stored where an argument points to. -/
inductive OptionResult
  | str (address : BdAddr)
  | bdaddr (address : BdAddr)
  | number (value : Int)
  | flag (value : Bool)
  | devClass (bytes : BitVec 24)
  deriving DecidableEq, Repr

/-- `getsockopt` into the argument itself. -/
def getNumber (sock : Fd) (option : SockOpt) (number : option.Value → OptionResult) :
    Sys (Option OptionResult) := do
  match ← getsockopt sock option with
  | .error _ => return none
  | .ok value => return some (number value)

def getMaster (mode : LinkMode) (sock : Fd) : Sys (Option OptionResult) :=
  getNumber sock (.linkMode mode) fun flags : Flags => .flag (flags &&& lmMaster ≠ 0)

def getHandle (transport : Transport) (sock : Fd) : Sys (Option OptionResult) :=
  getNumber sock (.connInfo transport) fun info : ConnInfo => .number info.hciHandle.val

def getDevClass (transport : Transport) (sock : Fd) : Sys (Option OptionResult) :=
  getNumber sock (.connInfo transport) fun info : ConnInfo => .devClass info.devClass

def getLevel (mode : LinkMode) (sock : Fd) : Sys (Option OptionResult) := do
  return (← getSecLevel mode sock).map .number

def deferSetup (sock : Fd) : Sys (Option OptionResult) :=
  getNumber sock .deferSetup fun value : int.Value => .number value.val

/-- The number of the socket itself, or the one of its peer if that is 0. -/
def either {kind : Narrowing.IntType} (src dst : kind.Value) : Int :=
  if src.val ≠ 0 then src.val else dst.val

def l2capGetOption (sock : Fd) (l2o : L2capOptions) (src dst : SockaddrL2) :
    BtIOOption → Sys (Option OptionResult)
  | .source => pure (some (.str src.bdaddr))
  | .sourceBdaddr => pure (some (.bdaddr src.bdaddr))
  | .dest => pure (some (.str dst.bdaddr))
  | .destBdaddr => pure (some (.bdaddr dst.bdaddr))
  | .deferTimeout => deferSetup sock
  | .secLevel => getLevel .l2cap sock
  | .keySize => do return (← getKeySize sock).map .number
  | .psm => pure (some (.number (either src.psm dst.psm)))
  | .cid => pure (some (.number (either src.cid dst.cid)))
  | .omtu => pure (some (.number l2o.omtu.val))
  | .imtu => pure (some (.number l2o.imtu.val))
  | .master => getMaster .l2cap sock
  | .handle => getHandle .l2cap sock
  | .devClass => getDevClass .l2cap sock
  | .mode => pure (some (.number l2o.mode.val))
  | .flushable => getNumber sock .flushable fun value : int.Value => .flag (value.val ≠ 0)
  | .priority => getNumber sock .priority fun value : uint32.Value => .number value.val
  | .destType | .sourceType | .channel | .sourceChannel | .destChannel | .mtu => pure none

def rfcommGetOption (sock : Fd) (src dst : SockaddrRc) : BtIOOption → Sys (Option OptionResult)
  | .source => pure (some (.str src.bdaddr))
  | .sourceBdaddr => pure (some (.bdaddr src.bdaddr))
  | .dest => pure (some (.str dst.bdaddr))
  | .destBdaddr => pure (some (.bdaddr dst.bdaddr))
  | .deferTimeout => deferSetup sock
  | .secLevel => getLevel .rfcomm sock
  | .channel => pure (some (.number (either src.channel dst.channel)))
  | .sourceChannel => pure (some (.number src.channel.val))
  | .destChannel => pure (some (.number dst.channel.val))
  | .master => getMaster .rfcomm sock
  | .handle => getHandle .rfcomm sock
  | .devClass => getDevClass .rfcomm sock
  | .sourceType | .destType | .keySize | .psm | .cid | .mtu | .omtu | .imtu | .mode | .flushable
  | .priority => pure none

def scoGetOption (sock : Fd) (mtu : uint16.Value) (src dst : SockaddrSco) :
    BtIOOption → Sys (Option OptionResult)
  | .source => pure (some (.str src.bdaddr))
  | .sourceBdaddr => pure (some (.bdaddr src.bdaddr))
  | .dest => pure (some (.str dst.bdaddr))
  | .destBdaddr => pure (some (.bdaddr dst.bdaddr))
  | .mtu | .imtu | .omtu => pure (some (.number mtu.val))
  | .handle => getHandle .sco sock
  | .devClass => getDevClass .sco sock
  | .sourceType | .destType | .deferTimeout | .secLevel | .keySize | .channel | .sourceChannel
  | .destChannel | .psm | .cid | .master | .mode | .flushable | .priority => pure none

/-- The loop over the options: what was stored before one that fails stays stored. -/
def getEach (one : BtIOOption → Sys (Option OptionResult)) :
    List BtIOOption → Sys (List OptionResult × Bool)
  | [] => return ([], true)
  | option :: rest => do
    match ← one option with
    | none => return ([], false)
    | some result => do
      let (more, all) ← getEach one rest
      return (result :: more, all)

def getPeers (sock : Fd) (transport : Transport) :
    Sys (Option (transport.Address × transport.Address)) := do
  match ← getsockname sock transport with
  | .error _ => return none
  | .ok src => do
    match ← getpeername sock transport with
    | .error _ => return none
    | .ok dst => return some (src, dst)

def l2capGet (sock : Fd) (options : List BtIOOption) : Sys (List OptionResult × Bool) := do
  match ← getsockopt sock .l2capOptions with
  | .error _ => return ([], false)
  | .ok (l2o : L2capOptions) => do
    match ← getPeers sock .l2cap with
    | none => return ([], false)
    | some (src, dst) => getEach (l2capGetOption sock l2o src dst) options

def rfcommGet (sock : Fd) (options : List BtIOOption) : Sys (List OptionResult × Bool) := do
  match ← getPeers sock .rfcomm with
  | none => return ([], false)
  | some (src, dst) => getEach (rfcommGetOption sock src dst) options

def scoGet (sock : Fd) (options : List BtIOOption) : Sys (List OptionResult × Bool) := do
  match ← getsockopt sock .scoOptions with
  | .error _ => return ([], false)
  | .ok (mtu : uint16.Value) => do
    match ← getPeers sock .sco with
    | none => return ([], false)
    | some (src, dst) => getEach (scoGetOption sock mtu src dst) options

def btIoGet (fd : Fd) (options : List BtIOOption) : Sys (List OptionResult × Bool) := do
  match ← btIoGetType fd with
  | .l2cap => l2capGet fd options
  | .rfcomm => rfcommGet fd options
  | .sco => scoGet fd options
  | .invalid => return ([], false)

/-- The steps of `create_handle` on a socket; `failed` closes it. -/
def bindAndSet (server : Bool) (opts : SetOpts) (sock : Fd) : Transport → Sys Bool
  | .l2cap =>
    after (l2capBind sock opts.src opts.srcType (if server then opts.psm else uint16.convert 0) opts.cid)
      (l2capSet sock opts)
  | .rfcomm =>
    after (rfcommBind sock opts.src (if server then opts.channel else uint8.convert 0))
      (rfcommSet sock opts)
  | .sco => after (scoBind sock opts.src) (scoSet sock opts.mtu)

def setNonblock (sock : Fd) : Sys Bool := do
  match ← fcntlGetfl sock with
  | .error _ => return false
  | .ok flags =>
    after (fcntlSetfl sock (flags ||| oNonblock)) (pure true)

def BtIOType.transport? : BtIOType → Option Transport
  | .l2cap => some .l2cap
  | .rfcomm => some .rfcomm
  | .sco => some .sco
  | .invalid => none

/-- `none` stands for -1. -/
def createHandle (server : Bool) (opts : SetOpts) : Sys (Option Fd) := do
  match BtIOType.transport? opts.type with
  | none => return none
  | some transport =>
    match ← socket transport with
    | .error _ => return none
    | .ok sock => do
      if ← bindAndSet server opts sock transport then
        if ← setNonblock sock then return some sock
      let _ ← close sock
      return none

def connectSock (opts : SetOpts) (sock : Fd) : Transport → Sys (Except Errno Unit)
  | .l2cap => l2capConnect sock opts.dst opts.dstType opts.psm opts.cid
  | .rfcomm => rfcommConnect sock opts.dst opts.channel
  | .sco => scoConnect sock opts.dst

def btIoConnect (opts : SetOpts) : Sys (Option Fd) := do
  match ← createHandle false opts with
  | none => return none
  | some sock =>
    match BtIOType.transport? opts.type with
    | none => return none
    | some transport => do
      match ← connectSock opts sock transport with
      | .ok () => return some sock
      | .error _ => do
        let _ ← close sock
        return none

def btIoListen (opts : SetOpts) : Sys (Option Fd) := do
  match ← createHandle true opts with
  | none => return none
  | some sock => do
    match ← listen sock 5 with
    | .ok () => return some sock
    | .error _ => do
      let _ ← close sock
      return none

end Btle.Native.Btio

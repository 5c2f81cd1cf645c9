import Mathlib.Order.Lattice.Nat
import Btle.Library.Shares
import Btle.Native.SocketCalls

namespace Btle.Native

open Btio Calling

/-- A `Peripheral` with its connection, or a `Central`. -/
inductive Role
  | client
  | central
  deriving DecidableEq, Repr

/-- What a pointer to a libuv handle leads to: nothing, a handle that works on a descriptor, or one that
    was told to close. -/
inductive Held
  | nothing
  | running (sock : Fd)
  | told (sock : Fd)
  deriving DecidableEq, Repr

namespace Held

def fds : Held → List Fd
  | .running sock => [sock]
  | .nothing | .told _ => []

def isTold : Held → Bool
  | .told _ => true
  | .nothing | .running _ => false

/-- `uv_close`. -/
def tell : Held → Held
  | .nothing => .nothing
  | .running sock | .told sock => .told sock

/-- `uv_close` for a TCP handle, which closes its descriptor; the one for a poll handle leaves it open. -/
def closeStream : Held → Sys Unit
  | .nothing => return ()
  | .running sock | .told sock => do
    let _ ← Btio.close sock

theorem tell_fds (held : Held) : held.tell.fds = [] := by cases held <;> rfl

theorem fds_of_told {held : Held} (told : held.isTold = true) : held.fds = [] := by
  cases held with
  | nothing | told => rfl
  | running => cases told

end Held

/-- The pointers of a `Central`, with its `sock`, or of the last `Connection` of a `Peripheral`. Beside
    them the descriptors that the poll handles of earlier calls still poll, and those that are left
    open. -/
structure Endpoint where
  sock : Option Fd
  poll : Held
  earlier : List Fd
  tcp : Held
  lost : List Fd
  deriving DecidableEq, Repr

/-- `opened` stands for `connect` and `listen`; a poll handle is told by its descriptor. -/
inductive EndpointEvent
  | opened (opts : SetOpts)
  | polled (sock : Fd) (status : Int)
  | close
  | pollClosed
  | tcpClosed

namespace Endpoint

def new : Endpoint := { sock := none, poll := .nothing, earlier := [], tcp := .nothing, lost := [] }

/-- `Peripheral::Connect`: the `Att` there was is not closed, and its connection may go on to poll. -/
def connect (opts : SetOpts) (endpoint : Endpoint) : Sys Endpoint := do
  let fresh : Endpoint :=
    { sock := none, poll := .nothing, earlier := endpoint.poll.fds ++ endpoint.earlier,
      tcp := .nothing, lost := endpoint.tcp.fds ++ endpoint.lost }
  match ← btIoConnect opts with
  | none => return fresh
  | some sock => return { fresh with poll := .running sock }

/-- A poll handle is stopped and told to close. -/
def stopped (sock : Fd) (endpoint : Endpoint) : Endpoint :=
  if endpoint.poll = .running sock then { endpoint with poll := .told sock }
  else { endpoint with earlier := endpoint.earlier.erase sock }

/-- `Connection::onConnect`. Nothing closes what comes of a connection that was replaced. -/
def connected (sock : Fd) (status : Int) (endpoint : Endpoint) : Sys Endpoint := do
  let left := { endpoint.stopped sock with lost := sock :: endpoint.lost }
  if status = 0 then
    let _ ← btIoGet sock [.imtu, .cid]
    if endpoint.poll = .running sock then
      return { endpoint.stopped sock with tcp := .running sock }
    else return left
  else return left

/-- `Central::Listen`. -/
def listen (opts : SetOpts) (endpoint : Endpoint) : Sys Endpoint := do
  match ← btIoListen opts with
  | none => return { endpoint with sock := none }
  | some sock =>
    return { endpoint with
      sock := some sock
      poll := .running sock
      earlier := endpoint.poll.fds ++ endpoint.earlier }

/-- A connection is accepted only if the poll did not fail; -1 is no socket to accept one from. -/
def acceptFrom (status : Int) : Option Fd → Sys (Option Fd)
  | none => return none
  | some sock => do
    if status = 0 then
      match ← accept sock with
      | .ok cliSock => return some cliSock
      | .error _ => return none
    else return none

def closeSock : Option Fd → Sys Unit
  | none => return ()
  | some sock => do
    let _ ← Btio.close sock

/-- `Central::onConnect`, which accepts from and closes `sock`, whatever the handle polls. -/
def accepted (sock : Fd) (status : Int) (endpoint : Endpoint) : Sys Endpoint := do
  let stray := if endpoint.sock = some sock then [] else [sock]
  let alone := { endpoint.stopped sock with lost := stray ++ endpoint.lost }
  match ← acceptFrom status endpoint.sock with
  | some cliSock => do
    closeSock endpoint.sock
    let _ ← btIoGet cliSock [.sourceBdaddr, .dest, .cid, .imtu]
    return { alone with
      sock := some cliSock
      tcp := .running cliSock
      lost := endpoint.tcp.fds ++ alone.lost }
  | none => do
    closeSock endpoint.sock
    return { alone with sock := none }

/-- `Connection::close` and `Central::close`; only the latter stops to poll. -/
def close (role : Role) (endpoint : Endpoint) : Sys Endpoint := do
  endpoint.tcp.closeStream
  match role with
  | .client => return { endpoint with tcp := endpoint.tcp.tell }
  | .central =>
    return { endpoint with
      poll := endpoint.poll.tell
      tcp := endpoint.tcp.tell
      lost := endpoint.poll.fds ++ endpoint.lost }

/-- libuv tells of a connection only to a handle that polls, and that a handle is closed only once it was
    told to close; `Connection::onClose` resets no pointer. -/
def handle (role : Role) (endpoint : Endpoint) : EndpointEvent → Option (Sys Endpoint)
  | .opened opts =>
    match role with
    | .client => some (endpoint.connect opts)
    | .central => some (endpoint.listen opts)
  | .polled sock status =>
    if endpoint.poll = .running sock ∨ sock ∈ endpoint.earlier then
      match role with
      | .client => some (endpoint.connected sock status)
      | .central => some (endpoint.accepted sock status)
    else none
  | .close => some (endpoint.close role)
  | .pollClosed =>
    if role = .central ∧ endpoint.poll.isTold then some (pure { endpoint with poll := .nothing })
    else none
  | .tcpClosed =>
    if role = .central ∧ endpoint.tcp.isTold then some (pure { endpoint with tcp := .nothing })
    else none

/-- A central does not listen while it polls, and no handle is told to close twice. -/
def Careful (role : Role) (endpoint : Endpoint) : EndpointEvent → Prop
  | .opened _ => role = .central → endpoint.poll.fds = []
  | .close => endpoint.tcp.isTold = false ∧ (role = .central → endpoint.poll.isTold = false)
  | .polled .. | .pollClosed | .tcpClosed => True

/-- How many descriptors an event leaves open with nothing that would close them: of an attempt that
    failed or was replaced, of a listening socket that is not polled any more, of a connection that
    another one replaces. -/
def leaks (role : Role) (endpoint : Endpoint) (event : EndpointEvent) (next : Endpoint) : Nat :=
  match role, event with
  | .client, .opened _ => endpoint.tcp.fds.length
  | .client, .polled sock status => if status = 0 ∧ endpoint.poll = .running sock then 0 else 1
  | .central, .polled .. => if next.tcp = endpoint.tcp then 0 else endpoint.tcp.fds.length
  | .central, .close => endpoint.poll.fds.length
  | .client, .close | .central, .opened _ | _, .pollClosed | _, .tcpClosed => 0

def fds (endpoint : Endpoint) : List Fd :=
  endpoint.poll.fds ++ (endpoint.earlier ++ (endpoint.tcp.fds ++ endpoint.lost))

/-- The descriptors that the endpoint works with. -/
def inUse (endpoint : Endpoint) : Nat :=
  endpoint.poll.fds.length + endpoint.earlier.length + endpoint.tcp.fds.length

end Endpoint

section Trading

variable {mine next last : List Fd} {state mid after : Descriptors} {sock : Fd}

/-- From one state of the kernel to another somebody has given descriptors for others. -/
structure Trades (mine : List Fd) (state : Descriptors) (next : List Fd) (after : Descriptors) : Prop where
  nodup : next.Nodup
  opened : after.opened = state.opened \ mine.toFinset ∪ next.toFinset
  fresh : Disjoint next.toFinset (state.opened \ mine.toFinset)

theorem trades_nothing (nodup : mine.Nodup) (held : mine.toFinset ⊆ state.opened)
    (same : after.opened = state.opened) : Trades mine state mine after where
  nodup := nodup
  opened := same.trans (Finset.sdiff_union_of_subset held).symm
  fresh := Finset.disjoint_sdiff

theorem Trades.held (trades : Trades mine state next after) : next.toFinset ⊆ after.opened := by
  rw [trades.opened]
  exact Finset.subset_union_right

theorem Trades.trans (first : Trades mine state next mid) (second : Trades next mid last after) :
    Trades mine state last after := by
  have rest : mid.opened \ next.toFinset = state.opened \ mine.toFinset := by
    rw [first.opened, Finset.union_sdiff_right]
    exact Finset.sdiff_eq_self_of_disjoint first.fresh.symm
  refine ⟨second.nodup, ?_, ?_⟩
  · rw [second.opened, rest]
  · rw [← rest]
    exact second.fresh

theorem Trades.perm (trades : Trades mine state next after) (same : next.Perm last) :
    Trades mine state last after := by
  have items : last.toFinset = next.toFinset := (List.toFinset_eq_of_perm _ _ same).symm
  refine ⟨same.nodup trades.nodup, ?_, ?_⟩
  · rw [items]
    exact trades.opened
  · rw [items]
    exact trades.fresh

theorem Descriptors.Opens.trades (opens : state.Opens sock after) (nodup : mine.Nodup)
    (held : mine.toFinset ⊆ state.opened) : Trades mine state (sock :: mine) after := by
  have foreign : sock ∉ mine := fun member => opens.fresh (held (List.mem_toFinset.mpr member))
  refine ⟨List.nodup_cons.mpr ⟨foreign, nodup⟩, ?_, ?_⟩
  · rw [opens.opened, List.toFinset_cons, Finset.union_insert, Finset.sdiff_union_of_subset held]
  · rw [List.toFinset_cons, Finset.disjoint_insert_left]
    exact ⟨fun member => opens.fresh (Finset.mem_sdiff.mp member).1, Finset.disjoint_sdiff⟩

theorem trades_close (nodup : (sock :: mine).Nodup) (held : (sock :: mine).toFinset ⊆ state.opened) :
    Trades (sock :: mine) state mine { state with opened := state.opened.erase sock } := by
  obtain ⟨apart, nodup⟩ := List.nodup_cons.mp nodup
  refine ⟨nodup, ?_, ?_⟩
  · ext other
    have mine_open : other ∈ mine → other ∈ state.opened := fun member =>
      held (List.mem_toFinset.mpr (List.mem_cons_of_mem sock member))
    by_cases same : other = sock
    · subst same
      simp [apart]
    · by_cases member : other ∈ mine
      · simp [same, member, mine_open member]
      · simp [same, member]
  · rw [List.toFinset_cons]
    exact Finset.disjoint_of_subset_left (Finset.subset_insert sock _) Finset.disjoint_sdiff

end Trading

namespace Endpoint

section Handling

variable {role : Role} {endpoint : Endpoint} {state after : Descriptors} {sock : Fd}

/-- The descriptors of an endpoint are open and each is there once. A client that polls has no other
    connection, and a central polls the socket that it accepts from and no other. -/
structure Holds (endpoint : Endpoint) (role : Role) (state : Descriptors) : Prop where
  nodup : endpoint.fds.Nodup
  held : endpoint.fds.toFinset ⊆ state.opened
  alone : role = .client → endpoint.poll.fds ≠ [] → endpoint.tcp.fds = []
  listens : role = .central → endpoint.earlier = [] ∧ ∀ sock, endpoint.poll = .running sock →
    endpoint.sock = some sock

theorem Holds.mem (holds : endpoint.Holds role state) (member : sock ∈ endpoint.fds) :
    sock ∈ state.opened := holds.held (List.mem_toFinset.mpr member)

theorem Holds.nothing (holds : endpoint.Holds role state) (same : after.opened = state.opened) :
    Trades endpoint.fds state endpoint.fds after := trades_nothing holds.nodup holds.held same

theorem Holds.onward (holds : endpoint.Holds role state) {next : List Fd} (same : endpoint.fds.Perm next) :
    Trades endpoint.fds state next state := (holds.nothing rfl).perm same

/-- What an event makes of an endpoint and of the kernel. -/
structure Becomes (endpoint : Endpoint) (role : Role) (event : EndpointEvent) (state : Descriptors)
    (next : Endpoint) (after : Descriptors) : Prop where
  trades : Trades endpoint.fds state next.fds after
  alone : role = .client → next.poll.fds ≠ [] → next.tcp.fds = []
  listens : role = .central → next.earlier = [] ∧ ∀ sock, next.poll = .running sock →
    next.sock = some sock
  lost : next.lost.length = endpoint.lost.length + leaks role endpoint event next

theorem close_ensures {goal : Except Errno Unit → Descriptors → Prop} (opened : sock ∈ state.opened)
    (reached : ∀ answer, goal answer { state with opened := state.opened.erase sock }) :
    Ensures descriptors (Btio.close sock) state goal := by
  refine ⟨?_, fun answer after answered => ?_⟩
  · rintro other ⟨⟩
    exact opened
  · cases answered
    exact reached answer

theorem closeSock_ensures (opened : sock ∈ state.opened) : Ensures descriptors (closeSock (some sock)) state
    fun _ after => after = { state with opened := state.opened.erase sock } := by
  refine Ensures.bind (close_ensures opened fun _ => rfl) ?_
  rintro _ _ rfl
  rfl

@[simp] theorem stopped_lost : (endpoint.stopped sock).lost = endpoint.lost := by
  unfold stopped
  split <;> rfl

@[simp] theorem stopped_tcp : (endpoint.stopped sock).tcp = endpoint.tcp := by
  unfold stopped
  split <;> rfl

/-- The descriptor of a handle that is stopped is put aside. -/
theorem stopped_perm (polls : endpoint.poll = .running sock ∨ sock ∈ endpoint.earlier) :
    endpoint.fds.Perm (sock :: (endpoint.stopped sock).fds) := by
  unfold stopped
  split
  · rw [fds, ‹endpoint.poll = .running sock›]
    rfl
  · have member : sock ∈ endpoint.earlier := polls.resolve_left ‹_›
    apply List.perm_iff_count.mpr
    intro item
    have counts := (List.perm_cons_erase member).count_eq item
    simp only [fds, List.count_append, List.count_cons] at counts ⊢
    omega

theorem lost_perm : (sock :: endpoint.fds).Perm { endpoint with lost := sock :: endpoint.lost }.fds := by
  apply List.perm_iff_count.mpr
  intro item
  simp only [fds, List.count_append, List.count_cons]
  omega

theorem streamed_perm (alone : endpoint.tcp.fds = []) :
    (sock :: endpoint.fds).Perm { endpoint with tcp := .running sock }.fds := by
  apply List.perm_iff_count.mpr
  intro item
  have running : (Held.running sock).fds = [sock] := rfl
  simp only [fds, alone, running, List.count_append, List.count_cons, List.count_nil]
  omega

/-- A new connection takes the place of the one there was, which is left open. -/
theorem replaced_perm {cliSock : Fd} : (cliSock :: endpoint.fds).Perm
    { endpoint with
      sock := some cliSock
      tcp := .running cliSock
      lost := endpoint.tcp.fds ++ endpoint.lost }.fds := by
  apply List.perm_iff_count.mpr
  intro item
  have running : (Held.running cliSock).fds = [cliSock] := rfl
  simp only [fds, running, List.count_append, List.count_cons, List.count_nil]
  omega

theorem connect_becomes (opts : SetOpts) (holds : endpoint.Holds .client state) :
    Ensures descriptors (endpoint.connect opts) state (endpoint.Becomes .client (.opened opts) state) := by
  have counts : (endpoint.tcp.fds ++ endpoint.lost).length =
      endpoint.lost.length + endpoint.tcp.fds.length := by
    rw [List.length_append, Nat.add_comm]
  have same : endpoint.poll.fds ++ endpoint.earlier ++ (endpoint.tcp.fds ++ endpoint.lost) =
      endpoint.fds := List.append_assoc ..
  refine (btIoConnect_gives opts state).bind ?_
  rintro (_ | sock) after given
  · refine ⟨?_, fun _ waits => absurd rfl waits, nofun, counts⟩
    show Trades endpoint.fds state (endpoint.poll.fds ++ endpoint.earlier ++ (endpoint.tcp.fds ++ endpoint.lost))
      after
    rw [same]
    exact holds.nothing given.1
  · refine ⟨?_, fun _ _ => rfl, nofun, counts⟩
    show Trades endpoint.fds state
      (sock :: (endpoint.poll.fds ++ endpoint.earlier ++ (endpoint.tcp.fds ++ endpoint.lost))) after
    rw [same]
    exact given.1.trades holds.nodup holds.held

theorem connected_becomes (status : Int) (holds : endpoint.Holds .client state)
    (polls : endpoint.poll = .running sock ∨ sock ∈ endpoint.earlier) :
    Ensures descriptors (endpoint.connected sock status) state
      (endpoint.Becomes .client (.polled sock status) state) := by
  have trades := holds.onward (stopped_perm polls)
  have opened : sock ∈ state.opened := trades.held (List.mem_toFinset.mpr List.mem_cons_self)
  have alone : (endpoint.stopped sock).poll.fds ≠ [] → endpoint.tcp.fds = [] := by
    unfold stopped
    split
    · exact fun waits => absurd rfl waits
    · exact holds.alone rfl
  have left (failed : ¬ (status = 0 ∧ endpoint.poll = .running sock)) :
      endpoint.Becomes .client (.polled sock status) state
        { endpoint.stopped sock with lost := sock :: endpoint.lost } state := by
    refine ⟨?_, fun _ waits => ?_, nofun, ?_⟩
    · have kept : (endpoint.stopped sock).lost = endpoint.lost := stopped_lost
      rw [← kept]
      exact trades.perm lost_perm
    · rw [← alone waits, stopped_tcp]
    · exact congrArg (endpoint.lost.length + ·) (if_neg failed).symm
  unfold connected
  split
  · refine (within_leaves (btIoGet_only _) opened).bind ?_
    rintro _ _ rfl
    split
    · rename_i current
      have closed : endpoint.tcp.fds = [] :=
        holds.alone rfl (by rw [current]; exact List.cons_ne_nil _ _)
      refine ⟨?_, fun _ waits => ?_, nofun, ?_⟩
      · exact trades.perm (streamed_perm (by rw [stopped_tcp, closed]))
      · rw [stopped, if_pos current] at waits
        exact absurd rfl waits
      · rw [leaks, if_pos ⟨‹status = 0›, current⟩]
        exact congrArg List.length stopped_lost
    · exact left fun both => absurd both.2 ‹_›
  · exact left fun both => absurd both.1 ‹_›

theorem listen_becomes (opts : SetOpts) (holds : endpoint.Holds .central state)
    (idle : endpoint.poll.fds = []) : Ensures descriptors (endpoint.listen opts) state
      (endpoint.Becomes .central (.opened opts) state) := by
  obtain ⟨none, _⟩ := holds.listens rfl
  refine (btIoListen_gives opts state).bind ?_
  rintro (_ | sock) after given
  · refine ⟨holds.nothing given.1, nofun, fun _ => ⟨none, fun sock polls => ?_⟩, rfl⟩
    rw [show endpoint.poll = .running sock from polls] at idle
    cases idle
  · refine ⟨?_, nofun, fun _ => ⟨?_, ?_⟩, rfl⟩
    · have trades := given.1.trades holds.nodup holds.held
      rw [fds, idle] at trades ⊢
      exact trades
    · exact List.append_eq_nil_iff.mpr ⟨idle, none⟩
    · rintro _ ⟨⟩
      rfl

theorem acceptFrom_ensures (status : Int) (opened : sock ∈ state.opened) :
    Ensures descriptors (acceptFrom status (some sock)) state fun cliSock mid =>
      (cliSock = none → mid = state) ∧ ∀ fresh, cliSock = some fresh → state.Opens fresh mid := by
  by_cases fine : status = 0
  · simp only [acceptFrom, if_pos fine]
    refine ⟨?_, ?_⟩
    · rintro other ⟨⟩
      exact opened
    · rintro (errno | cliSock) mid answered
      · exact ⟨fun _ => answered, nofun⟩
      · refine ⟨nofun, ?_⟩
        rintro _ ⟨⟩
        exact answered
  · simp only [acceptFrom, if_neg fine]
    exact ⟨fun _ => rfl, nofun⟩

theorem leaks_accepted {sock cliSock : Fd} (status : Int) (holds : endpoint.Holds .central state)
    (fresh : cliSock ∉ state.opened) {next : Endpoint} (now : next.tcp = .running cliSock) :
    leaks .central endpoint (.polled sock status) next = endpoint.tcp.fds.length := by
  show (if next.tcp = endpoint.tcp then 0 else endpoint.tcp.fds.length) = _
  rw [now, if_neg]
  intro same
  apply fresh (holds.mem _)
  rw [fds, ← same]
  exact List.mem_append_right _ (List.mem_append_right _ List.mem_cons_self)

theorem accepted_becomes (status : Int) (holds : endpoint.Holds .central state)
    (polls : endpoint.poll = .running sock ∨ sock ∈ endpoint.earlier) :
    Ensures descriptors (endpoint.accepted sock status) state
      (endpoint.Becomes .central (.polled sock status) state) := by
  obtain ⟨idle, listens⟩ := holds.listens rfl
  have current : endpoint.poll = .running sock := by
    refine polls.resolve_right fun member => ?_
    rw [idle] at member
    cases member
  have same : endpoint.stopped sock = { endpoint with poll := .told sock } := if_pos current
  have trades := holds.onward (stopped_perm polls)
  have opened : sock ∈ state.opened := trades.held (List.mem_toFinset.mpr List.mem_cons_self)
  simp only [accepted, listens sock current, if_true, List.nil_append]
  rw [same] at trades ⊢
  refine (acceptFrom_ensures status opened).bind ?_
  rintro (_ | cliSock) mid ⟨still, opens⟩
  · cases still rfl
    refine (closeSock_ensures opened).bind ?_
    rintro _ _ rfl
    refine ⟨trades.trans (trades_close trades.nodup trades.held), nofun, fun _ => ⟨idle, nofun⟩, ?_⟩
    exact (congrArg (endpoint.lost.length + ·) (if_pos rfl : leaks .central endpoint
      (.polled sock status) { endpoint with sock := none, poll := .told sock } = 0)).symm
  · have opens := opens cliSock rfl
    have both := (trades.trans (opens.trades trades.nodup trades.held)).perm (.swap _ _ _)
    have listening := both.held (List.mem_toFinset.mpr List.mem_cons_self)
    refine (closeSock_ensures listening).bind ?_
    rintro _ _ rfl
    have swapped := both.trans (trades_close both.nodup both.held)
    have connected := swapped.held (List.mem_toFinset.mpr List.mem_cons_self)
    refine (within_leaves (btIoGet_only _) connected).bind ?_
    rintro _ _ rfl
    refine ⟨swapped.perm replaced_perm, nofun, fun _ => ⟨idle, nofun⟩, ?_⟩
    rw [leaks_accepted status holds opens.fresh rfl]
    exact List.length_append.trans (Nat.add_comm _ _)

theorem Holds.closes (holds : endpoint.Holds role state) (untold : endpoint.tcp.isTold = false) :
    Ensures descriptors endpoint.tcp.closeStream state fun _ after =>
      Trades endpoint.fds state (endpoint.poll.fds ++ (endpoint.earlier ++ endpoint.lost)) after := by
  cases tcp : endpoint.tcp with
  | told sock =>
    rw [tcp] at untold
    cases untold
  | nothing =>
    have kept := holds.nothing (rfl : state.opened = state.opened)
    rw [fds, tcp] at kept ⊢
    exact kept
  | running sock =>
    have all : Trades endpoint.fds state
        (sock :: (endpoint.poll.fds ++ (endpoint.earlier ++ endpoint.lost))) state := by
      apply holds.onward
      apply List.perm_iff_count.mpr
      intro item
      have running : (Held.running sock).fds = [sock] := rfl
      simp only [fds, tcp, running, List.count_append, List.count_cons, List.count_nil]
      omega
    have opened : sock ∈ state.opened := all.held (List.mem_toFinset.mpr List.mem_cons_self)
    refine Ensures.bind (close_ensures opened fun _ => rfl) ?_
    rintro _ _ rfl
    exact all.trans (trades_close all.nodup all.held)

theorem close_becomes (holds : endpoint.Holds role state) (careful : endpoint.Careful role .close) :
    Ensures descriptors (endpoint.close role) state (endpoint.Becomes role .close state) := by
  refine (holds.closes careful.1).bind ?_
  intro _ after trades
  cases role with
  | client =>
    refine ⟨trades.perm (List.perm_iff_count.mpr fun item => ?_), fun _ _ => Held.tell_fds _, nofun, rfl⟩
    simp only [fds, Held.tell_fds, List.count_append, List.count_nil]
    omega
  | central =>
    obtain ⟨idle, _⟩ := holds.listens rfl
    refine ⟨?_, nofun, fun _ => ⟨idle, fun sock polls => ?_⟩, ?_⟩
    · refine trades.perm (List.perm_iff_count.mpr fun item => ?_)
      simp only [fds, Held.tell_fds, List.count_append, List.count_nil]
      omega
    · have none : (Held.running sock).fds = [] := polls ▸ Held.tell_fds endpoint.poll
      cases none
    · exact List.length_append.trans (Nat.add_comm _ _)

theorem handle_becomes {event : EndpointEvent} {program : Sys Endpoint}
    (handled : endpoint.handle role event = some program) (careful : endpoint.Careful role event)
    (holds : endpoint.Holds role state) :
    Ensures descriptors program state (endpoint.Becomes role event state) := by
  cases event with
  | opened opts =>
    cases role with
    | client =>
      cases handled
      exact connect_becomes opts holds
    | central =>
      cases handled
      exact listen_becomes opts holds (careful rfl)
  | polled sock status =>
    by_cases polls : endpoint.poll = .running sock ∨ sock ∈ endpoint.earlier
    · simp only [handle, if_pos polls] at handled
      cases role with
      | client =>
        cases handled
        exact connected_becomes status holds polls
      | central =>
        cases handled
        exact accepted_becomes status holds polls
    · simp only [handle, if_neg polls] at handled
      cases handled
  | close =>
    cases handled
    exact close_becomes holds careful
  | pollClosed =>
    by_cases closed : role = .central ∧ endpoint.poll.isTold
    · simp only [handle, if_pos closed] at handled
      obtain ⟨rfl, told⟩ := closed
      cases handled
      refine ⟨?_, nofun, fun _ => ⟨(holds.listens rfl).1, nofun⟩, rfl⟩
      apply holds.onward
      rw [fds, Held.fds_of_told told]
      exact .rfl
    · simp only [handle, if_neg closed] at handled
      cases handled
  | tcpClosed =>
    by_cases closed : role = .central ∧ endpoint.tcp.isTold
    · simp only [handle, if_pos closed] at handled
      obtain ⟨rfl, told⟩ := closed
      cases handled
      refine ⟨?_, nofun, holds.listens, rfl⟩
      apply holds.onward
      rw [fds, Held.fds_of_told told]
      exact .rfl
    · simp only [handle, if_neg closed] at handled
      cases handled

end Handling

end Endpoint

section Process

variable {Name : Type} {role : Name → Role} {start : Descriptors}

/-- The endpoints of a process, and what the kernel keeps for it. -/
structure Process (Name : Type) where
  endpoints : Name → Endpoint
  kernel : Descriptors

/-- The states of a process in which any endpoint may handle the next event that is a careful one, whatever
    the kernel answers; with each, how many descriptors were left open on the way. -/
inductive Reaches [DecidableEq Name] (role : Name → Role) (start : Descriptors) :
    Process Name → Nat → Prop
  | start : Reaches role start ⟨fun _ => .new, start⟩ 0
  | step {process : Process Name} {left : Nat} (reached : Reaches role start process left) (name : Name)
      {event : EndpointEvent} {program : Sys Endpoint} {next : Endpoint} {after : Descriptors}
      (careful : (process.endpoints name).Careful (role name) event)
      (handled : (process.endpoints name).handle (role name) event = some program)
      (ends : Ends descriptors program process.kernel next after) :
      Reaches role start ⟨Function.update process.endpoints name next, after⟩
        (left + Endpoint.leaks (role name) (process.endpoints name) event next)

/-- Each descriptor that the process has opened is held by one endpoint. -/
structure Accounted [Fintype Name] (role : Name → Role) (start : Descriptors) (process : Process Name)
    (left : Nat) : Prop where
  shared : Shares.Shared start.opened (fun name => (process.endpoints name).fds.toFinset)
    process.kernel.opened
  holds : ∀ name, (process.endpoints name).Holds (role name) process.kernel
  lost : ∑ name, (process.endpoints name).lost.length = left

theorem accounted_start [Fintype Name] :
    Accounted role start (⟨fun _ => .new, start⟩ : Process Name) 0 where
  shared := Shares.shared_none start.opened
  holds _ := ⟨List.nodup_nil, Finset.empty_subset _, fun _ waits => absurd rfl waits,
    fun _ => ⟨rfl, nofun⟩⟩
  lost := Finset.sum_eq_zero fun _ _ => rfl

theorem Accounted.step [Fintype Name] [DecidableEq Name] {process : Process Name} {left : Nat} {name : Name}
    {event : EndpointEvent} {next : Endpoint} {after : Descriptors}
    (accounted : Accounted role start process left)
    (becomes : (process.endpoints name).Becomes (role name) event process.kernel next after) :
    Accounted role start ⟨Function.update process.endpoints name next, after⟩
      (left + Endpoint.leaks (role name) (process.endpoints name) event next) := by
  have trades := becomes.trades
  have owned : (fun other => (Function.update process.endpoints name next other).fds.toFinset) =
      Function.update (fun other => (process.endpoints other).fds.toFinset) name next.fds.toFinset :=
    Function.comp_update (fun endpoint : Endpoint => endpoint.fds.toFinset) process.endpoints name next
  constructor
  · rw [owned, trades.opened]
    exact accounted.shared.trade name _ trades.fresh
  · intro other
    show (Function.update process.endpoints name next other).Holds (role other) after
    by_cases same : other = name
    · subst same
      rw [Function.update_self]
      exact ⟨trades.nodup, trades.held, becomes.alone, becomes.listens⟩
    · rw [Function.update_of_ne same]
      have holds := accounted.holds other
      refine ⟨holds.nodup, ?_, holds.alone, holds.listens⟩
      show _ ⊆ after.opened
      rw [trades.opened]
      have apart := accounted.shared.disjoint other name same
      exact (Finset.subset_sdiff.mpr ⟨holds.held, apart⟩).trans Finset.subset_union_left
  · have lengths : (fun other => (Function.update process.endpoints name next other).lost.length) =
        Function.update (fun other => (process.endpoints other).lost.length) name next.lost.length :=
      Function.comp_update (fun endpoint : Endpoint => endpoint.lost.length) process.endpoints name next
    rw [lengths, Finset.sum_update_of_mem (Finset.mem_univ name), becomes.lost, ← accounted.lost,
      Finset.sum_eq_add_sum_sdiff_singleton_of_mem (Finset.mem_univ name)]
    omega

theorem Reaches.accounted [Fintype Name] [DecidableEq Name] {process : Process Name} {left : Nat}
    (reached : Reaches role start process left) : Accounted role start process left := by
  induction reached with
  | start => exact accounted_start
  | step reached name careful handled ends accounted =>
    exact accounted.step ((Endpoint.handle_becomes handled careful (accounted.holds name)).ends ends)

theorem Accounted.card [Fintype Name] {process : Process Name} {left : Nat}
    (accounted : Accounted role start process left) :
    process.kernel.opened.card = start.opened.card + ∑ name, (process.endpoints name).inUse + left := by
  have each (name : Name) : (process.endpoints name).fds.toFinset.card =
      (process.endpoints name).inUse + (process.endpoints name).lost.length := by
    rw [List.toFinset_card_of_nodup (accounted.holds name).nodup, Endpoint.fds, Endpoint.inUse]
    simp only [List.length_append, Nat.add_assoc]
  rw [accounted.shared.card, Finset.sum_congr rfl fun name _ => each name, Finset.sum_add_distrib,
    accounted.lost, Nat.add_assoc]

/-- Whatever the kernel answers and in whatever order endpoints handle their events, as long as no central
    listens while it polls and no handle is told to close twice, no system call is made about a
    descriptor that is not open, and the descriptors that are open are those there were before, one for
    each that is polled or connected, and one for each that was left open. -/
theorem descriptors_accounted [Fintype Name] [DecidableEq Name] (role : Name → Role) (start : Descriptors)
    (process : Process Name) (left : Nat) (reached : Reaches role start process left) :
    start.opened ⊆ process.kernel.opened ∧
      process.kernel.opened.card = start.opened.card + ∑ name, (process.endpoints name).inUse + left ∧
      ∀ name event program, (process.endpoints name).Careful (role name) event →
        (process.endpoints name).handle (role name) event = some program →
        Ensures descriptors program process.kernel fun _ _ => True := by
  have accounted := reached.accounted
  refine ⟨accounted.shared.common_subset, accounted.card, ?_⟩
  intro name event program careful handled
  exact (Endpoint.handle_becomes handled careful (accounted.holds name)).mono fun _ _ _ => trivial

end Process

section Obliging

/-- A kernel that opens what it is asked for, and has no options. -/
def obliging (state : Descriptors) : (call : Syscall) → call.Answer × Descriptors
  | .socket _ | .accept _ =>
    (.ok (state.opened.sup id + 1),
      { state with opened := insert (state.opened.sup id + 1) state.opened })
  | .close sock => (.ok (), { state with opened := state.opened.erase sock })
  | .getfl sock => (.ok (state.flags sock), state)
  | .setfl sock flags => (.ok (), { state with flags := Function.update state.flags sock flags })
  | .bind .. | .connect .. | .listen .. => (.ok (), state)
  | .getsockopt .. | .setsockopt .. | .getsockname .. | .getpeername .. =>
    (.error .noProtoOpt, state)

theorem obliging_able (state : Descriptors) (call : Syscall) :
    descriptors.Answers state call (obliging state call).1 (obliging state call).2 := by
  have opens : state.Opens (state.opened.sup id + 1)
      { state with opened := insert (state.opened.sup id + 1) state.opened } := by
    refine ⟨fun member => ?_, rfl, fun _ _ => rfl⟩
    have bound : id (state.opened.sup id + 1) ≤ state.opened.sup id := Finset.le_sup member
    exact Nat.not_succ_le_self _ bound
  cases call with
  | socket | accept => exact opens
  | getfl => exact ⟨rfl, rfl⟩
  | close | setfl | bind | connect | listen | getsockopt | setsockopt | getsockname | getpeername => rfl

def scoOptions : SetOpts := { SetOpts.defaults with type := .sco }

def onePeripheral : Bool → Role
  | true => .central
  | false => .client

def noDescriptors : Descriptors := { opened := ∅, flags := fun _ => 0 }

theorem Reaches.obliged {role : Bool → Role} {start : Descriptors} {process : Process Bool} {left : Nat}
    (reached : Reaches role start process left) (name : Bool) (event : EndpointEvent)
    {program : Sys Endpoint} (careful : (process.endpoints name).Careful (role name) event)
    (handled : (process.endpoints name).handle (role name) event = some program) :
    Reaches role start
      ⟨Function.update process.endpoints name (program.runOn obliging process.kernel).1,
        (program.runOn obliging process.kernel).2⟩
      (left + Endpoint.leaks (role name) (process.endpoints name) event
        (program.runOn obliging process.kernel).1) :=
  .step reached name careful handled (ends_runOn obliging_able program process.kernel)

theorem stray_accounted : ∃ process : Process Bool,
    Reaches onePeripheral noDescriptors process 2 ∧ process.kernel.opened.card = 0 + 0 + 2 := by
  have listening := Reaches.obliged (.start : Reaches onePeripheral noDescriptors _ 0) true
    (.opened scoOptions) (fun _ => rfl) rfl
  have closed := listening.obliged true .close ⟨rfl, fun _ => rfl⟩ rfl
  have connecting := closed.obliged false (.opened scoOptions) nofun rfl
  have failed := connecting.obliged false (.polled 2 1) trivial rfl
  exact ⟨_, failed, (descriptors_accounted onePeripheral noDescriptors _ _ failed).2.1⟩

end Obliging

end Btle.Native

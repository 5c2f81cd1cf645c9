import Btle.Wire.Handles
import Btle.Wire.Tracking

namespace Btle.Wire

open Duplex Machine Server Throwing

section Matching

variable {host : Host} {central : CentralRef} {catches : Bool} {session : Session} {rd : Client.ReadData}

theorem answer_kind (coherent : rd.Coherent) {answer : Buffer} (answers : IsAnswerTo rd.request answer)
    (some_bytes : answer ≠ []) : Client.AnswersPending rd answer := by
  rcases answers with empty | ⟨_, first, second⟩ | ⟨head, _⟩
  · exact absurd empty some_bytes
  · exact .inr ⟨List.head?_eq_getElem? ▸ first, second⟩
  · exact .inl (coherent.response ▸ head)

/-- What the client takes next answers the request that is pending, or is handled without touching
    it. Without a request it is never taken for an answer. -/
theorem Tracked.next_matches (tracked : Tracked central session) {pdu : Buffer} {rest : List Buffer}
    (waiting : session.toLeft = pdu :: rest) :
    Client.MatchesResponses session.left (.received pdu) ∧
      (session.left.currentRequest = none →
        ∃ next out, Client.step session.left (.received pdu) = .ok (next, out) ∧
          Client.Untouched session.left next out) := by
  constructor
  · intro some_bytes rd pending
    have underway := tracked.pending rd pending
    rw [waiting] at underway
    rcases underway.next_down with ⟨foreign, _⟩ | ⟨⟨answers, _⟩, _, _⟩
    · exact .inr (foreign_untouched tracked.coherent foreign)
    · exact .inl (answer_kind (tracked.coherent rd pending) answers some_bytes)
  · intro free
    obtain ⟨_, down⟩ := tracked.idle free
    rw [waiting] at down
    exact foreign_untouched tracked.coherent (List.forall_mem_cons.mp down).1

/-- Between the client and the server of this repository responses are matched with requests, in
    whatever order the two and the application take their turns. -/
theorem session_tracked (host : Host) (central : CentralRef) (catches : Bool)
    (connection : Client.Connection) (world : World) (quiet : Unindicated central world)
    (actions : List (Action Exposed (LocalEvent central))) (still : LeavesQuiet actions)
    (last : Session) (out : List Seen)
    (ran : run (sessionStep host central catches) (.start connection world) actions = .ok (last, out)) :
    Tracked central last ∧ ∀ pdu rest, last.toLeft = pdu :: rest →
      Client.MatchesResponses last.left (.received pdu) ∧
        (last.left.currentRequest = none →
          ∃ next out, Client.step last.left (.received pdu) = .ok (next, out) ∧
            Client.Untouched last.left next out) := by
  have tracked : Tracked central last :=
    (tracked_kept host central catches).run (Session.start_tracked connection quiet) still ran
  exact ⟨tracked, fun pdu rest waiting => tracked.next_matches waiting⟩

end Matching

theorem twoServices_unheard : ∀ ref, (twoServices.attrib ref).listeners = []
  | 0 => rfl
  | 1 => rfl
  | _ + 2 => rfl

theorem twoServices_unindicated : Unindicated 0 twoServices := by
  intro ref stamp
  rw [twoServices_unheard ref]
  exact List.not_mem_nil

def connectedServices : World := twoServices.setCentral 0 { twoServices.central 0 with mtu := 23 }

def askValue : Exposed := ⟨.readAttribute 3 8, nofun⟩

theorem askValue_tracked : ∃ last out,
    run (sessionStep plainHost 0 true) (.start Client.leConnection twoServices)
      [.left askValue, .deliverRight] = .ok (last, out) ∧ last.toLeft ≠ [] ∧ Tracked 0 last :=
  ⟨_, _, rfl, by decide, (session_tracked plainHost 0 true Client.leConnection twoServices
    twoServices_unindicated [.left askValue, .deliverRight] (by simp [LeavesQuiet, Allows]) _ _ rfl).1⟩

/-- A host on which the free `value` is the one of the attribute. -/
def boundHost : Host := { plainHost with freeValue := Attribute.value }

-- What is indicated meanwhile is taken for the value that was asked for.
example : ∃ last out, run (sessionStep boundHost 0 true) (.start Client.leConnection connectedServices)
      [.left askValue, .right ⟨.enableIndications 0 0, trivial⟩, .deliverLeft] = .ok (last, out) ∧
    .left (.readAttrCb 8 0 (some [1, 0, 0x00, 0x18]) 4 none) ∈ out ∧ last.left.currentRequest = none :=
  ⟨_, _, rfl, by decide, rfl⟩

section Blocking

variable {host : Host} {central : CentralRef} {catches : Bool} {session : Session} {rd : Client.ReadData}

/-- A request is pending, and nothing that could answer it is on the way. -/
structure Blocked (central : CentralRef) (rd : Client.ReadData) (session : Session) : Prop where
  coherent : rd.Coherent
  quiet : Unindicated central session.right
  slot : session.left.currentRequest = some rd
  up : ∀ pdu ∈ session.toRight, IsCommand pdu
  down : ∀ pdu ∈ session.toLeft, IsForeign pdu

theorem Blocked.all_coherent (blocked : Blocked central rd session) : Client.Coherent session.left := by
  intro other pending
  cases blocked.slot.symm.trans pending
  exact blocked.coherent

theorem blocked_kept (host : Host) (central : CentralRef) (catches : Bool) (rd : Client.ReadData) :
    Kept client (server host central catches) Unindicating (Blocked central rd) where
  left := by
    intro session call att pdus out blocked acted
    obtain ⟨performed, rfl⟩ := clientDone_ok acted
    cases token : call.val.token with
    | none =>
      obtain ⟨same, commands⟩ := unrequested_writes token performed
      exact ⟨blocked.coherent, blocked.quiet, same.trans blocked.slot,
        forall_mem_behind blocked.up commands, blocked.down⟩
    | some data =>
      obtain ⟨opcode, _, called⟩ := Client.Att.perform_called token performed
      cases called with
      | accepted other pdu free => cases blocked.slot.symm.trans free
      | refused other effect pending own text same =>
        have unwritten : [effect].filterMap written? = [] := by
          rw [List.filterMap_cons_none (written_none own), List.filterMap_nil]
        rw [unwritten, List.append_nil, same]
        exact blocked
  right := by
    intro session event world pdus thrown blocked unindicating acted
    obtain ⟨rfl, rfl⟩ := serverDone_ok acted
    obtain ⟨quiet, foreign⟩ := spares_done (linkProgram_spares host unindicating) blocked.quiet
    exact ⟨blocked.coherent, quiet, blocked.slot, blocked.up, forall_mem_behind blocked.down foreign⟩
  deliverRight := by
    intro session pdu rest world pdus thrown blocked waiting taken
    obtain ⟨rfl, rfl⟩ := serverDone_ok taken
    have up := blocked.up
    rw [waiting] at up
    obtain ⟨command, commands⟩ := List.forall_mem_cons.mp up
    obtain ⟨quiet, foreign⟩ := spares_done (command_spares host command) blocked.quiet
    exact ⟨blocked.coherent, quiet, blocked.slot, commands, forall_mem_behind blocked.down foreign⟩
  deliverLeft := by
    intro session pdu rest att pdus out blocked waiting taken
    obtain ⟨stepped, rfl⟩ := clientDone_ok taken
    have down := blocked.down
    rw [waiting] at down
    obtain ⟨foreign, others⟩ := List.forall_mem_cons.mp down
    obtain ⟨next, more, untouching, untouched⟩ := foreign_untouched blocked.all_coherent foreign
    cases stepped.symm.trans untouching
    rw [untouched_unwritten untouched, List.append_nil]
    exact ⟨blocked.coherent, blocked.quiet, untouched.currentRequest.trans blocked.slot, blocked.up, others⟩

/-- A callback is called for nothing but to refuse a request with a text that names another. -/
def Refuses (request : UInt8) (effect : Client.Effect) : Prop :=
  ∀ data, effect.answered = some data →
    effect.outcome = some (data, some (Client.pendingMessage request))

theorem Blocked.refuses (blocked : Blocked central rd session)
    {actions : List (Action Exposed (LocalEvent central))} (still : LeavesQuiet actions)
    {last : Session} {out : List Seen}
    (ran : run (sessionStep host central catches) session actions = .ok (last, out)) :
    last.left.currentRequest = some rd ∧ ∀ effect, .left effect ∈ out → Refuses rd.request effect := by
  have kept := blocked_kept host central catches rd
  refine ⟨(kept.run blocked still ran).slot, kept.run_left_emits ?_ ?_ blocked still ran⟩
  · intro link call att pdus emitted blocked acted effect member data answered
    obtain ⟨performed, rfl⟩ := clientDone_ok acted
    cases token : call.val.token with
    | none =>
      cases ((Client.perform_unrequested token performed).uncalled effect member).symm.trans answered
    | some own =>
      obtain ⟨opcode, _, called⟩ := Client.Att.perform_called token performed
      cases called with
      | accepted other pdu free => cases blocked.slot.symm.trans free
      | refused other refusal pending own text same =>
        cases blocked.slot.symm.trans pending
        cases List.mem_singleton.mp member
        cases own.symm.trans answered
        exact text
  · intro link pdu rest att pdus emitted blocked waiting taken effect member data answered
    obtain ⟨stepped, rfl⟩ := clientDone_ok taken
    have down := blocked.down
    rw [waiting] at down
    obtain ⟨next, more, untouching, untouched⟩ :=
      foreign_untouched blocked.all_coherent (List.forall_mem_cons.mp down).1
    cases stepped.symm.trans untouching
    cases (untouched.uncalled effect member).symm.trans answered

/-- A request that is delivered and for which nothing is written gets lost. -/
theorem Tracked.unanswered (tracked : Tracked central session) {pdu : Buffer} {rest : List Buffer}
    (waiting : session.toRight = pdu :: rest) (uncommanded : ¬ IsCommand pdu)
    (silent : receivedBy central (written (onRead host central pdu) session.right) = [])
    {next : Session} {out : List Seen}
    (stepped : sessionStep host central catches session .deliverRight = .ok (next, out)) :
    ∃ rd, session.left.currentRequest = some rd ∧ Client.OfKind rd.request pdu ∧
      Blocked central rd next ∧ ∀ effect, .left effect ∉ out := by
  cases step_cases stepped with
  | idleRight nothing => cases nothing.symm.trans waiting
  | deliverRight message others same state pdus thrown taken =>
    cases same.symm.trans waiting
    obtain ⟨rfl, rfl⟩ := serverDone_ok taken
    cases slot : session.left.currentRequest with
    | none =>
      have up := (tracked.idle slot).1
      rw [waiting] at up
      exact absurd (List.forall_mem_cons.mp up).1 uncommanded
    | some rd =>
      have coherent := tracked.coherent rd slot
      have underway := tracked.pending rd slot
      rw [waiting] at underway
      rcases underway.next_up with ⟨command, _⟩ | ⟨⟨kind, _⟩, commands, foreign⟩
      · exact absurd command uncommanded
      · have quiet := (request_answers host central tracked.quiet (coherent_reads coherent) kind).1
        rw [silent, List.append_nil]
        exact ⟨rd, rfl, kind, ⟨coherent, quiet, slot, commands, foreign⟩, by simp⟩

end Blocking

section Barren

variable {host : Host} {central : CentralRef} {catches : Bool} {session : Session}

theorem looks_unlisted {rd : Client.ReadData} (coherent : rd.Coherent) (looks : rd.callback.Looks) :
    rd.request ∉ listedRequests := by
  rw [coherent.request]
  cases kind : rd.callback with
  | onFindInfo | onReadAttribute => decide
  | onFindByType | onReadByType | onReadByGroupType =>
    rw [kind] at looks
    exact looks.elim

/-- An answer to a request for information or for one attribute is an error. -/
theorem Tracked.heard_barren (tracked : Tracked central session)
    (nothing : session.left.attributeList = none) {pdu : Buffer} {rest : List Buffer}
    (waiting : session.toLeft = pdu :: rest) {att : Client.Att} {out : List Client.Effect}
    (stepped : Client.step session.left (.received pdu) = .ok (att, out)) :
    att.attributeList = none ∧ ∀ effect ∈ out, effect.Barren := by
  have left_alone (foreign : IsForeign pdu) :
      att.attributeList = none ∧ ∀ effect ∈ out, effect.Barren := by
    obtain ⟨next, more, untouching, untouched⟩ := foreign_untouched tracked.coherent foreign
    cases stepped.symm.trans untouching
    exact ⟨untouched.attributeList.trans nothing, fun effect member =>
      Client.barren_unanswered (untouched.uncalled effect member)⟩
  cases slot : session.left.currentRequest with
  | none =>
    have down := (tracked.idle slot).2
    rw [waiting] at down
    exact left_alone (List.forall_mem_cons.mp down).1
  | some rd =>
    have coherent := tracked.coherent rd slot
    have underway := tracked.pending rd slot
    rw [waiting] at underway
    rcases underway.next_down with ⟨foreign, _⟩ | ⟨⟨answers, _⟩, _, _⟩
    · exact left_alone foreign
    · rcases answers with rfl | ⟨length, first, second⟩ | ⟨head, listed⟩
      · cases stepped
      · rw [← List.head?_eq_getElem?] at first
        obtain ⟨request, low, high, errorCode, others, rfl⟩ := Client.error_shape first length.ge
        cases Option.some.inj second
        rw [Client.step_received_error] at stepped
        simp only [slot, Option.map_some, if_pos] at stepped
        exact Client.Att.callbackCurrentRequest_barren slot nothing (fun _ => rfl) stepped
      · obtain ⟨status, buf, len, error, handled⟩ :=
          answer_delivered slot coherent (.inr (.inr ⟨head, listed⟩)) stepped
        exact Client.Att.callbackCurrentRequest_barren slot nothing
          (fun looks => absurd listed (looks_unlisted coherent looks)) handled

theorem barren_kept (host : Host) (central : CentralRef) (catches : Bool) :
    Kept client (server host central catches) Unindicating
      fun session => Tracked central session ∧ session.left.attributeList = none where
  left _ _ _ _ _ both acted := ⟨(tracked_kept host central catches).left _ _ _ _ _ both.1 acted,
    (Client.Att.perform_barren (clientDone_ok acted).1).1.trans both.2⟩
  right _ _ _ _ _ both unindicating acted :=
    ⟨(tracked_kept host central catches).right _ _ _ _ _ both.1 unindicating acted, both.2⟩
  deliverRight _ _ _ _ _ _ both waiting taken :=
    ⟨(tracked_kept host central catches).deliverRight _ _ _ _ _ _ both.1 waiting taken, both.2⟩
  deliverLeft _ _ _ _ _ _ both waiting taken :=
    ⟨(tracked_kept host central catches).deliverLeft _ _ _ _ _ _ both.1 waiting taken,
      (both.1.heard_barren both.2 waiting (clientDone_ok taken).1).1⟩

/-- Neither information on attributes nor the value of one is ever had from this server by its
    handle. -/
theorem session_barren (host : Host) (central : CentralRef) (catches : Bool)
    (connection : Client.Connection) (world : World) (quiet : Unindicated central world)
    (actions : List (Action Exposed (LocalEvent central))) (still : LeavesQuiet actions)
    (last : Session) (out : List Seen)
    (ran : run (sessionStep host central catches) (.start connection world) actions = .ok (last, out)) :
    ∀ effect, .left effect ∈ out → effect.Barren := by
  refine (barren_kept host central catches).run_left_emits ?_ ?_
    ⟨Session.start_tracked connection quiet, rfl⟩ still ran
  · intro link call att pdus emitted both acted
    exact (Client.Att.perform_barren (clientDone_ok acted).1).2
  · intro link pdu rest att pdus emitted both waiting taken
    exact (both.1.heard_barren both.2 waiting (clientDone_ok taken).1).2

theorem askValue_barren : ∃ last out,
    run (sessionStep plainHost 0 true) (.start Client.leConnection twoServices)
      [.left askValue, .deliverRight, .deliverLeft] = .ok (last, out) ∧
    last.left.currentRequest = none ∧ ∀ effect, .left effect ∈ out → effect.Barren :=
  ⟨_, _, rfl, rfl, session_barren plainHost 0 true Client.leConnection twoServices
    twoServices_unindicated [.left askValue, .deliverRight, .deliverLeft] (by simp [LeavesQuiet, Allows])
    _ _ rfl⟩

end Barren

end Btle.Wire

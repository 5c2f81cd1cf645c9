import Btle.Wire.Session

namespace Btle.Wire

open Duplex Machine Server Throwing

/-- Where the request is that a client waits for: one PDU of it is on the way to the server, or one
    answer is on the way back, or the server has taken it and has not answered. All else that is on
    the way are commands one way and what leaves the request alone the other. -/
inductive Underway (asked answers : Buffer → Prop) (toRight toLeft : List Buffer) : Prop
  | asked (before after : List Buffer) (pdu : Buffer) (up : toRight = before ++ pdu :: after)
      (kind : asked pdu) (commands : ∀ other ∈ before ++ after, IsCommand other)
      (foreign : ∀ other ∈ toLeft, IsForeign other)
  | answered (before after : List Buffer) (answer : Buffer) (down : toLeft = before ++ answer :: after)
      (kind : answers answer) (commands : ∀ other ∈ toRight, IsCommand other)
      (foreign : ∀ other ∈ before ++ after, IsForeign other)
  | lost (commands : ∀ other ∈ toRight, IsCommand other) (foreign : ∀ other ∈ toLeft, IsForeign other)

/-- What holds of a session at all times, if nothing is indicated to the central. More may be known of
    the PDU that was sent for a request, and of an answer to it, than their kinds. -/
structure TrackedAs (central : CentralRef) (known found : Client.ReadData → Buffer → Prop)
    (session : Session) : Prop where
  coherent : Client.Coherent session.left
  quiet : Unindicated central session.right
  idle : session.left.currentRequest = none →
    (∀ pdu ∈ session.toRight, IsCommand pdu) ∧ ∀ pdu ∈ session.toLeft, IsForeign pdu
  pending : ∀ rd, session.left.currentRequest = some rd →
    Underway (fun pdu => Client.OfKind rd.request pdu ∧ known rd pdu)
      (fun pdu => IsAnswerTo rd.request pdu ∧ found rd pdu) session.toRight session.toLeft

def Tracked (central : CentralRef) : Session → Prop := TrackedAs central (fun _ _ => True) fun _ _ => True

section Underway

variable {asked answers : Buffer → Prop} {up down more : List Buffer}

theorem forall_mem_behind {goal : Buffer → Prop} {before more : List Buffer}
    (each : ∀ other ∈ before, goal other) (added : ∀ other ∈ more, goal other) :
    ∀ other ∈ before ++ more, goal other :=
  fun other member => (List.mem_append.mp member).elim (each other) (added other)

theorem forall_mem_insert {goal : Buffer → Prop} {before after more : List Buffer}
    (each : ∀ other ∈ before ++ after, goal other) (added : ∀ other ∈ more, goal other) :
    ∀ other ∈ before ++ (after ++ more), goal other := by
  rw [← List.append_assoc]
  exact forall_mem_behind each added

theorem Underway.commanded (underway : Underway asked answers up down)
    (commands : ∀ pdu ∈ more, IsCommand pdu) : Underway asked answers (up ++ more) down := by
  cases underway with
  | asked before after pdu split kind others foreign =>
    refine .asked before (after ++ more) pdu ?_ kind (forall_mem_insert others commands) foreign
    rw [split, List.append_assoc, List.cons_append]
  | answered before after answer split kind others foreign =>
    exact .answered before after answer split kind (forall_mem_behind others commands) foreign
  | lost others foreign => exact .lost (forall_mem_behind others commands) foreign

theorem Underway.pushed (underway : Underway asked answers up down)
    (foreign : ∀ pdu ∈ more, IsForeign pdu) : Underway asked answers up (down ++ more) := by
  cases underway with
  | asked before after pdu split kind commands others =>
    exact .asked before after pdu split kind commands (forall_mem_behind others foreign)
  | answered before after answer split kind commands others =>
    refine .answered before (after ++ more) answer ?_ kind commands (forall_mem_insert others foreign)
    rw [split, List.append_assoc, List.cons_append]
  | lost commands others => exact .lost commands (forall_mem_behind others foreign)

/-- What comes next to the server is a command, or the request itself. -/
theorem Underway.next_up {pdu : Buffer} (underway : Underway asked answers (pdu :: up) down) :
    IsCommand pdu ∧ Underway asked answers up down ∨
      asked pdu ∧ (∀ other ∈ up, IsCommand other) ∧ ∀ other ∈ down, IsForeign other := by
  cases underway with
  | asked before after pdu split kind commands foreign =>
    cases before with
    | nil =>
      cases split
      exact .inr ⟨kind, commands, foreign⟩
    | cons first before =>
      cases split
      obtain ⟨command, commands⟩ := List.forall_mem_cons.mp commands
      exact .inl ⟨command, .asked before after pdu rfl kind commands foreign⟩
  | answered before after answer split kind commands foreign =>
    obtain ⟨command, commands⟩ := List.forall_mem_cons.mp commands
    exact .inl ⟨command, .answered before after answer split kind commands foreign⟩
  | lost commands foreign =>
    obtain ⟨command, commands⟩ := List.forall_mem_cons.mp commands
    exact .inl ⟨command, .lost commands foreign⟩

/-- What comes next to the client is foreign, or the answer. -/
theorem Underway.next_down {pdu : Buffer} (underway : Underway asked answers up (pdu :: down)) :
    IsForeign pdu ∧ Underway asked answers up down ∨
      answers pdu ∧ (∀ other ∈ up, IsCommand other) ∧ ∀ other ∈ down, IsForeign other := by
  cases underway with
  | asked before after pdu split kind commands foreign =>
    obtain ⟨first, foreign⟩ := List.forall_mem_cons.mp foreign
    exact .inl ⟨first, .asked before after pdu split kind commands foreign⟩
  | answered before after answer split kind commands foreign =>
    cases before with
    | nil =>
      cases split
      exact .inr ⟨kind, commands, foreign⟩
    | cons first before =>
      cases split
      obtain ⟨first, foreign⟩ := List.forall_mem_cons.mp foreign
      exact .inl ⟨first, .answered before after answer rfl kind commands foreign⟩
  | lost commands foreign =>
    obtain ⟨first, foreign⟩ := List.forall_mem_cons.mp foreign
    exact .inl ⟨first, .lost commands foreign⟩

theorem Underway.weaken {wider more_answers : Buffer → Prop} (underway : Underway asked answers up down)
    (wide : ∀ pdu, asked pdu → wider pdu) (wide_answers : ∀ pdu, answers pdu → more_answers pdu) :
    Underway wider more_answers up down := by
  cases underway with
  | asked before after pdu split kind commands foreign =>
    exact .asked before after pdu split (wide pdu kind) commands foreign
  | answered before after answer split kind commands foreign =>
    exact .answered before after answer split (wide_answers answer kind) commands foreign
  | lost commands foreign => exact .lost commands foreign

end Underway

section Tracking

variable {host : Host} {central : CentralRef} {catches : Bool} {session : Session} {att : Client.Att}
  {world : World} {up down : List Buffer} {rd : Client.ReadData}
  {known found : Client.ReadData → Buffer → Prop}

theorem TrackedAs.idling (slot : att.currentRequest = none) (quiet : Unindicated central world)
    (commands : ∀ pdu ∈ up, IsCommand pdu) (foreign : ∀ pdu ∈ down, IsForeign pdu) :
    TrackedAs central known found ⟨att, world, up, down⟩ where
  coherent _ pending := absurd (slot.symm.trans pending) nofun
  quiet := quiet
  idle _ := ⟨commands, foreign⟩
  pending _ pending := absurd (slot.symm.trans pending) nofun

theorem TrackedAs.waiting (slot : att.currentRequest = some rd) (coherent : rd.Coherent)
    (quiet : Unindicated central world)
    (underway : Underway (fun pdu => Client.OfKind rd.request pdu ∧ known rd pdu)
      (fun pdu => IsAnswerTo rd.request pdu ∧ found rd pdu) up down) :
    TrackedAs central known found ⟨att, world, up, down⟩ where
  coherent _ pending := Option.some.inj (slot.symm.trans pending) ▸ coherent
  quiet := quiet
  idle free := absurd (slot.symm.trans free) nofun
  pending _ pending := Option.some.inj (slot.symm.trans pending) ▸ underway

theorem TrackedAs.weaken {wider more : Client.ReadData → Buffer → Prop}
    (tracked : TrackedAs central known found session) (wide : ∀ rd pdu, known rd pdu → wider rd pdu)
    (wide_found : ∀ rd pdu, found rd pdu → more rd pdu) : TrackedAs central wider more session where
  coherent := tracked.coherent
  quiet := tracked.quiet
  idle := tracked.idle
  pending rd pending := (tracked.pending rd pending).weaken
    (fun pdu both => ⟨both.1, wide rd pdu both.2⟩) fun pdu both => ⟨both.1, wide_found rd pdu both.2⟩

theorem Session.start_tracked (connection : Client.Connection) (quiet : Unindicated central world) :
    TrackedAs central known found (.start connection world) :=
  .idling rfl quiet (List.forall_mem_nil _) (List.forall_mem_nil _)

/-- A call that is accepted sends one PDU; any other leaves what is known as it is. -/
theorem TrackedAs.called (tracked : TrackedAs central known found session) {call : Exposed}
    {pdus : List Buffer} {out : List Client.Effect}
    (acted : client.act session.left call = .ok (att, pdus, out)) :
    (att.currentRequest = session.left.currentRequest ∧ (call.val.token.isSome → pdus = []) ∧
      TrackedAs central known found
        { session with left := att, toRight := session.toRight ++ pdus }) ∨
    ∃ rd pdu, session.left.currentRequest = none ∧ call.val.token = some rd.data ∧
      att = { session.left with currentRequest := some rd } ∧ pdus = [pdu] ∧
      ∀ {asked answers : Client.ReadData → Buffer → Prop}, asked rd pdu → TrackedAs central asked answers
        { session with left := att, toRight := session.toRight ++ pdus } := by
  obtain ⟨performed, rfl⟩ := clientDone_ok acted
  cases token : call.val.token with
  | none =>
    obtain ⟨same, commands⟩ := unrequested_writes token performed
    refine .inl ⟨same, nofun, ?_⟩
    cases slot : att.currentRequest with
    | none =>
      obtain ⟨up, down⟩ := tracked.idle (same.symm.trans slot)
      exact .idling slot tracked.quiet (forall_mem_behind up commands) down
    | some rd =>
      have pending := same.symm.trans slot
      exact .waiting slot (tracked.coherent rd pending) tracked.quiet
        ((tracked.pending rd pending).commanded commands)
  | some data =>
    obtain ⟨opcode, _, called⟩ := Client.Att.perform_called token performed
    cases called with
    | accepted rd pdu free coherent kind own asks taken =>
      obtain ⟨up, down⟩ := tracked.idle free
      refine .inr ⟨rd, pdu, free, own ▸ rfl, taken, rfl, fun own_known => ?_⟩
      refine .waiting (by rw [taken]) coherent tracked.quiet
        (.asked session.toRight [] pdu rfl ⟨kind ▸ asks, own_known⟩ ?_ down)
      rwa [List.append_nil]
    | refused rd effect pending own text same =>
      have unwritten : [effect].filterMap written? = [] := by
        rw [List.filterMap_cons_none (written_none own), List.filterMap_nil]
      rw [unwritten, List.append_nil, same]
      exact .inl ⟨rfl, fun _ => rfl, tracked⟩

theorem TrackedAs.happened (tracked : TrackedAs central known found session) {event : LocalEvent central}
    (unindicating : Unindicating event) {pdus : List Buffer} {thrown : List JsError}
    (acted : (server host central catches).act session.right event = .ok (world, pdus, thrown)) :
    TrackedAs central known found { session with right := world, toLeft := session.toLeft ++ pdus } := by
  obtain ⟨rfl, rfl⟩ := serverDone_ok acted
  obtain ⟨quiet, foreign⟩ := spares_done (linkProgram_spares host unindicating) tracked.quiet
  cases slot : session.left.currentRequest with
  | none =>
    obtain ⟨up, down⟩ := tracked.idle slot
    exact .idling slot quiet up (forall_mem_behind down foreign)
  | some rd =>
    exact .waiting slot (tracked.coherent rd slot) quiet ((tracked.pending rd slot).pushed foreign)

/-- A request that the server takes is answered from the world it finds. -/
theorem TrackedAs.served (tracked : TrackedAs central known found session) {pdu : Buffer}
    {rest : List Buffer} (waiting : session.toRight = pdu :: rest) {pdus : List Buffer}
    {thrown : List JsError}
    (taken : (server host central catches).take session.right pdu = .ok (world, pdus, thrown))
    (made : ∀ rd answer, session.left.currentRequest = some rd → known rd pdu →
      receivedBy central (written (onRead host central pdu) session.right) = [answer] → found rd answer) :
    TrackedAs central known found
      { session with right := world, toRight := rest, toLeft := session.toLeft ++ pdus } := by
  obtain ⟨rfl, rfl⟩ := serverDone_ok taken
  cases slot : session.left.currentRequest with
  | none =>
    obtain ⟨up, down⟩ := tracked.idle slot
    rw [waiting] at up
    obtain ⟨command, commands⟩ := List.forall_mem_cons.mp up
    obtain ⟨quiet, foreign⟩ := spares_done (command_spares host command) tracked.quiet
    exact .idling slot quiet commands (forall_mem_behind down foreign)
  | some rd =>
    have coherent := tracked.coherent rd slot
    have underway := tracked.pending rd slot
    rw [waiting] at underway
    rcases underway.next_up with ⟨command, still⟩ | ⟨⟨kind, own⟩, commands, foreign⟩
    · obtain ⟨quiet, more⟩ := spares_done (command_spares host command) tracked.quiet
      exact .waiting slot coherent quiet (still.pushed more)
    · obtain ⟨quiet, answered⟩ :=
        request_answers host central tracked.quiet (coherent_reads coherent) kind
      rcases answered with silent | ⟨answer, sent, answers⟩
      · rw [silent, List.append_nil]
        exact .waiting slot coherent quiet (.lost commands foreign)
      · have here := made rd answer slot own sent
        rw [sent]
        refine .waiting slot coherent quiet (.answered session.toLeft [] answer rfl ⟨answers, here⟩
          commands ?_)
        rwa [List.append_nil]

/-- An answer frees the slot, or makes the client ask for the next page. What is no answer leaves the
    slot as it is. -/
theorem TrackedAs.heard (tracked : TrackedAs central known found session) {pdu : Buffer}
    {rest : List Buffer} (waiting : session.toLeft = pdu :: rest) {pdus : List Buffer}
    {out : List Client.Effect} (taken : client.take session.left pdu = .ok (att, pdus, out)) :
    (pdus = [] ∧ (∀ rd, att.currentRequest = some rd → session.left.currentRequest = some rd) ∧
      TrackedAs central known found
        { session with left := att, toLeft := rest, toRight := session.toRight ++ pdus }) ∨
    ∃ rd next, session.left.currentRequest = some rd ∧ att.currentRequest = some rd ∧
      rd.callback ≠ .onReadByType ∧ pdus = [next] ∧
      ∀ {asked answers : Client.ReadData → Buffer → Prop}, asked rd next → TrackedAs central asked answers
        { session with left := att, toLeft := rest, toRight := session.toRight ++ pdus } := by
  obtain ⟨stepped, rfl⟩ := clientDone_ok taken
  have left_alone (foreign : IsForeign pdu) : att.currentRequest = session.left.currentRequest ∧
      out.filterMap written? = [] := by
    obtain ⟨next, more, untouching, untouched⟩ := foreign_untouched tracked.coherent foreign
    cases stepped.symm.trans untouching
    exact ⟨untouched.currentRequest, untouched_unwritten untouched⟩
  cases slot : session.left.currentRequest with
  | none =>
    obtain ⟨up, down⟩ := tracked.idle slot
    rw [waiting] at down
    obtain ⟨foreign, others⟩ := List.forall_mem_cons.mp down
    obtain ⟨same, unwritten⟩ := left_alone foreign
    rw [unwritten, List.append_nil]
    exact .inl ⟨rfl, fun rd pending => slot ▸ same ▸ pending,
      .idling (same.trans slot) tracked.quiet up others⟩
  | some rd =>
    have coherent := tracked.coherent rd slot
    have underway := tracked.pending rd slot
    rw [waiting] at underway
    rcases underway.next_down with ⟨foreign, still⟩ | ⟨⟨answers, _⟩, commands, foreign⟩
    · obtain ⟨same, unwritten⟩ := left_alone foreign
      rw [unwritten, List.append_nil]
      exact .inl ⟨rfl, fun other pending => slot ▸ same ▸ pending,
        .waiting (same.trans slot) coherent tracked.quiet still⟩
    · obtain ⟨status, buf, len, error, handled⟩ := answer_delivered slot coherent answers stepped
      cases Client.Att.callbackCurrentRequest_answered slot handled with
      | again next asks kept paged =>
        refine .inr ⟨rd, next, rfl, kept, paged, rfl, fun own => ?_⟩
        refine .waiting kept coherent tracked.quiet
          (.asked session.toRight [] next rfl ⟨coherent.request ▸ asks, own⟩ ?_ foreign)
        rwa [List.append_nil]
      | done effect own unwritten freed =>
        have silent : [effect].filterMap written? = [] := by
          rw [List.filterMap_cons_none (written_none own), List.filterMap_nil]
        rw [silent, List.append_nil]
        exact .inl ⟨rfl, fun other pending => absurd (freed.symm.trans pending) nofun,
          .idling freed tracked.quiet commands foreign⟩

theorem tracked_kept (host : Host) (central : CentralRef) (catches : Bool) :
    Kept client (server host central catches) Unindicating (Tracked central) where
  left := by
    intro session call att pdus out tracked acted
    rcases tracked.called acted with ⟨_, _, still⟩ | ⟨rd, pdu, _, _, _, _, asked⟩
    · exact still
    · exact asked trivial
  right _ _ _ _ _ tracked unindicating acted := tracked.happened unindicating acted
  deliverRight _ _ _ _ _ _ tracked waiting taken := tracked.served waiting taken fun _ _ _ _ _ => trivial
  deliverLeft := by
    intro session pdu rest att pdus out tracked waiting taken
    rcases tracked.heard waiting taken with ⟨_, _, still⟩ | ⟨rd, next, _, _, _, _, asked⟩
    · exact still
    · exact asked trivial

end Tracking

end Btle.Wire

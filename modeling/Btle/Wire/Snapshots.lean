import Btle.Library.Recording
import Btle.Wire.Matching
import Btle.Wire.Types

namespace Btle.Wire

open Duplex Machine Server Throwing

/-- The call the slot was taken for last, the PDU sent for it, and the worlds since. -/
structure Question where
  call : Option Client.Call
  pdu : Buffer
  worlds : List World

def Question.unasked : Question := ⟨none, [], []⟩

def Question.passed (question : Question) (world : World) : Question :=
  { question with worlds := question.worlds ++ [world] }

/-- A request that is sent begins a new question, and so does the next page. -/
def watchQuestion {central : CentralRef} (session : Session) (question : Question)
    (action : Action Exposed (LocalEvent central)) (out : List Seen) : Question :=
  match action, out.filterMap Sight.wroteLeft? with
  | .left call, pdu :: _ =>
    if call.val.token.isSome then ⟨some call.val, pdu, []⟩ else question.passed session.right
  | .deliverLeft, pdu :: _ => { question with pdu, worlds := [] }
  | _, _ => question.passed session.right

abbrev watchedStep (host : Host) (central : CentralRef) (catches : Bool) :
    Step (Session × Question) (Action Exposed (LocalEvent central)) Seen Stop :=
  watching (sessionStep host central catches) watchQuestion

/-- The server's answer to the question, in one of the worlds since it was asked. -/
def AnswerSince (host : Host) (central : CentralRef) (question : Question) (answer : Buffer) : Prop :=
  ∃ world ∈ question.worlds,
    receivedBy central (written (onRead host central question.pdu) world) = [answer]

/-- A call that reads by a type of 16 bits asks for the type in the range. -/
def AskedBy (rd : Client.ReadData) (question : Question) : Prop :=
  ∃ call, question.call = some call ∧ call.token = some rd.data ∧
    ∀ start stop type data, call = .readByType start stop (.uuid16 type) data →
      rd.callback = .onReadByType ∧ (question.pdu = [] ∨ question.pdu =
        Client.rangeHeader Client.attOpReadByTypeReq start stop ++ Client.attPutU16 type)

/-- The request that is pending is the question, and an answer that is on the way was made since. -/
structure Questioned (host : Host) (central : CentralRef) (watched : Session × Question) : Prop where
  tracked : TrackedAs central (fun _ pdu => pdu = watched.2.pdu)
    (fun _ answer => AnswerSince host central watched.2 answer) watched.1
  asked : ∀ rd, watched.1.left.currentRequest = some rd → AskedBy rd watched.2

section Asking

variable {att next : Client.Att} {start stop type : UInt16} {data : Nat} {pdu : Buffer}

theorem readByType_writes {connection : Client.Connection} {out : List Client.Effect}
    (sent : Client.Att.write (Client.encodeRange Client.attOpReadByTypeReq start stop (some (.uuid16 type))
      connection.getBuffer none) = .ok out) :
    out = [.write []] ∨
      out = [.write (Client.rangeHeader Client.attOpReadByTypeReq start stop ++ Client.attPutU16 type)] := by
  have two := Client.attPutU16_length type
  by_cases short : connection.getBuffer.length < 5
  · have nothing : Client.encodeRange Client.attOpReadByTypeReq start stop (some (.uuid16 type))
        connection.getBuffer none = .ok (connection.getBuffer, 0) := by
      unfold Client.encodeRange
      rw [if_pos short]
    rw [nothing] at sent
    cases sent
    exact .inl rfl
  · right
    rw [Client.encodeRange_header _ _ _ _ _ _ (by omega)] at sent
    simp only [Option.map_some, Client.uuidBytes] at sent
    by_cases fits : 7 ≤ connection.getBuffer.length
    · have placed := Client.store_next (Client.rangeHeader Client.attOpReadByTypeReq start stop)
        (connection.getBuffer.drop 5) (Client.attPutU16 type) (by
          rw [two, List.length_drop]
          omega)
      rw [Client.rangeHeader_length] at placed
      rw [placed] at sent
      cases sent
      rw [two, List.take_left' (by rw [List.length_append, Client.rangeHeader_length, two])]
    · have overflows : Client.store (Client.rangeHeader Client.attOpReadByTypeReq start stop ++
          connection.getBuffer.drop 5) 5 (Client.attPutU16 type) = .error .bufferOverflow := by
        unfold Client.store
        rw [if_neg (List.ne_nil_of_length_pos (by omega)), if_neg]
        rw [List.length_append, Client.rangeHeader_length, List.length_drop, two]
        omega
      rw [overflows] at sent
      cases sent

/-- What an accepted call asks. -/
theorem performed_asked {call : Exposed} {rd : Client.ReadData} {out : List Client.Effect}
    (free : att.currentRequest = none) (token : call.val.token = some rd.data)
    (taken : next = { att with currentRequest := some rd })
    (performed : att.perform call.val = .ok (next, out)) (wrote : out.filterMap written? = [pdu]) :
    AskedBy rd ⟨some call.val, pdu, []⟩ := by
  refine ⟨call.val, rfl, token, ?_⟩
  rintro start stop type data same
  rw [same] at performed
  unfold Client.Att.perform Client.Att.readByType Client.Att.request Client.Att.setCurrentRequest at performed
  simp only [free] at performed
  obtain ⟨written, sent, returned⟩ := Client.bind_ok performed
  cases returned
  have slot := congrArg Client.Att.currentRequest taken
  cases Option.some.inj slot
  refine ⟨rfl, ?_⟩
  rcases readByType_writes sent with rfl | rfl
  · cases wrote
    exact .inl rfl
  · cases wrote
    exact .inr rfl

end Asking

section Watching

variable {host : Host} {central : CentralRef} {catches : Bool} {session : Session} {question : Question}

theorem AnswerSince.passed {answer : Buffer} (since : AnswerSince host central question answer)
    (world : World) : AnswerSince host central (question.passed world) answer := by
  obtain ⟨earlier, member, made⟩ := since
  exact ⟨earlier, List.mem_append_left _ member, made⟩

theorem AskedBy.passed {rd : Client.ReadData} (asked : AskedBy rd question) (world : World) :
    AskedBy rd (question.passed world) := asked

/-- A world that passes takes nothing away from what is known. -/
theorem Questioned.passed (questioned : Questioned host central (session, question)) (world : World) :
    Questioned host central (session, question.passed world) where
  tracked := questioned.tracked.weaken (fun _ _ same => same) fun _ _ since => since.passed world
  asked rd pending := (questioned.asked rd pending).passed world

theorem questioned_kept {host : Host} {central : CentralRef} {catches : Bool} :
    ∀ state action next out, Questioned host central state → Allows Unindicating action →
      watchedStep host central catches state action = .ok (next, out) → Questioned host central next := by
  rintro ⟨session, question⟩ action ⟨next, later⟩ out questioned unindicating watched
  obtain ⟨stepped, rfl⟩ := watching_ok watched
  have passed := questioned.passed session.right
  cases step_cases stepped with
  | idleRight | idleLeft => exact passed
  | right event state written emitted acted =>
    exact ⟨passed.tracked.happened (unindicating event rfl) acted, passed.asked⟩
  | deliverRight message rest waiting state written emitted taken =>
    refine ⟨passed.tracked.served waiting taken ?_, passed.asked⟩
    rintro rd answer pending rfl made
    exact ⟨session.right, List.mem_append_right _ (List.mem_singleton_self _), made⟩
  | left call att pdus emitted acted =>
    have wrote := (leftSights JsError pdus emitted).1
    simp only [watchQuestion, wrote]
    rcases passed.tracked.called acted with
      ⟨same, silent, still⟩ | ⟨rd, pdu, free, token, taken, rfl, asks⟩
    · have asked : ∀ rd, att.currentRequest = some rd → AskedBy rd (question.passed session.right) :=
        fun rd pending => passed.asked rd (same.symm.trans pending)
      cases pdus with
      | nil => exact ⟨still, asked⟩
      | cons pdu others =>
        have untaken : ¬ call.val.token.isSome := fun some_token => absurd (silent some_token) nofun
        simp only [if_neg untaken]
        exact ⟨still, asked⟩
    · obtain ⟨performed, unwritten⟩ := clientDone_ok acted
      simp only [token, Option.isSome_some, if_true]
      refine ⟨asks rfl, fun other pending => ?_⟩
      have same : some rd = some other := by rw [← pending, taken]
      cases same
      exact performed_asked free token taken performed unwritten.symm
  | deliverLeft message rest waiting att pdus emitted taken =>
    have wrote : (Sight.tookLeft message ::
        (pdus.map .wroteLeft ++ emitted.map .left) : List Seen).filterMap Sight.wroteLeft? = pdus := by
      rw [List.filterMap_cons_none rfl]
      exact (leftSights JsError pdus emitted).1
    simp only [watchQuestion, wrote]
    rcases passed.tracked.heard waiting taken with
      ⟨rfl, slot, still⟩ | ⟨rd, pdu, slot, kept, paged, rfl, asks⟩
    · exact ⟨still, fun rd pending => passed.asked rd (slot rd pending)⟩
    · refine ⟨asks rfl, fun other pending => ?_⟩
      cases kept.symm.trans pending
      obtain ⟨call, called, token, reads⟩ := questioned.asked rd slot
      refine ⟨call, called, token, fun start stop type data same => ?_⟩
      exact absurd (reads start stop type data same).1 paged

end Watching

section Origin

variable {host : Host} {central : CentralRef} {world : World} {start stop : UInt16} {fields : List UInt8}
  {uuids : UuidStore} {type : Option UuidRef}

theorem readByType_untyped (long : 2 ≤ fields.length) {thrown : JsError}
    (failed : getUuid world.uuids (.number (word fields 0)) = .error thrown) :
    written (createHandler host central (Client.rangeHeader Client.attOpReadByTypeReq start stop ++ fields))
      world = [] := by
  have size := rangeData_length start stop fields
  rw [rangeHeader_eq]
  rw [← rangeData_type start stop fields] at failed
  have ran : (handleReadByType host central (rangeData start stop fields)).run world =
      .error thrown world :=
    (field_read (by omega) _ world).trans ((field_read (by omega) _ world).trans
      ((field_read (by omega) _ world).trans (getUuidOf_error failed)))
  exact written_error ran

theorem readByType_missing (host : Host) (central : CentralRef) (long : 2 ≤ fields.length)
    (got : getUuid world.uuids (.number (word fields 0)) = .ok (uuids, type))
    (search : findAttributes { world with uuids } start.toNat stop.toNat type none = .ok []) :
    SendsIf (Printable host uuids type ∧ True)
      (createHandler host central (Client.rangeHeader Client.attOpReadByTypeReq start stop ++ fields))
      world central (errorPdu host world.sent.length errorAttrNotFound opReadByTypeRequest start.toNat) := by
  have size := rangeData_length start stop fields
  have small : start.toNat ≤ 0xFFFF := Nat.le_of_lt_succ start.toNat_lt
  have reports : SendsIf True (searchFor host central opReadByTypeRequest (rangeData start stop fields)
      (fun _ => readByTypeResponse host) none type) { world with uuids } central
      (errorPdu host world.sent.length errorAttrNotFound opReadByTypeRequest start.toNat) := by
    refine .inl ⟨trivial, ?_⟩
    have ran : (searchFor host central opReadByTypeRequest (rangeData start stop fields)
        (fun _ => readByTypeResponse host) none type).run { world with uuids } =
          (Central.write central
            (errorPdu host world.sent.length errorAttrNotFound opReadByTypeRequest start.toNat)).run
              { world with uuids } := by
      refine Eq.trans ?_ (sendError_run host { world with uuids } central _ _ small)
      simp only [searchFor, EStateM.run_bind, EStateM.run_get, rangeData_start, rangeData_stop, search,
        Js.ofExcept, EStateM.run_pure, respond]
    rw [written_congr ran rfl, written_write]
  rw [rangeHeader_eq]
  rw [← rangeData_type start stop fields] at got
  refine (typed_sends _ got reports).of_run ?_ rfl
  exact (field_read (by omega) _ world).trans
    ((field_read (by omega) _ world).trans (field_read (by omega) _ world))

/-- A response tells of the values that are found, beginning with the first. -/
theorem readByType_origin (long : 2 ≤ fields.length) {payload : Buffer} (some_bytes : payload ≠ [])
    (sent : written (createHandler host central
      (Client.rangeHeader Client.attOpReadByTypeReq start stop ++ fields)) world =
        [(central, opReadByTypeResponse :: payload)]) :
    ∃ uuids type first rest value, getUuid world.uuids (.number (word fields 0)) = .ok (uuids, type) ∧
      attributesIn world start.toNat stop.toNat type = first :: rest ∧
      (world.attrib first).value = some value ∧
      payload = valuesPage world value.length (first :: rest) := by
  cases got : getUuid world.uuids (.number (word fields 0)) with
  | error thrown =>
    rw [readByType_untyped long got] at sent
    cases sent
  | ok both =>
    obtain ⟨uuids, type⟩ := both
    have search : findAttributes { world with uuids } start.toNat stop.toNat type none =
        .ok (attributesIn world start.toNat stop.toNat type) := findAttributes_any _ _ _ _
    refine ⟨uuids, type, ?_⟩
    cases found : attributesIn world start.toNat stop.toNat type with
    | nil =>
      rw [found] at search
      obtain ⟨_, same⟩ := ((readByType_missing host central long got search).iff _).mp sent
      cases same
    | cons first rest =>
      rw [found] at search
      have raw := readByType_sends host central long got search (List.cons_ne_nil first rest)
      obtain ⟨⟨_, value, valued, _⟩, content⟩ := (raw.iff _).mp sent
      have room : 2 ≤ world.mtuSize.toNat := by
        have most := List.length_take_le world.mtuSize.toNat
          (readByTypeContents world.mtuSize ((first :: rest).map world.attrib))
        have one := List.length_pos_of_ne_nil some_bytes
        rw [← content, List.length_cons] at most
        omega
      have sends := readByType_replies host central room long got search valued
      obtain ⟨_, page⟩ := (sends.iff _).mp sent
      exact ⟨first, rest, value, rfl, rfl, valued, (List.cons.inj page).2⟩

theorem written_of_receivedBy {request : UInt8} (reads : request ∈ readRequests) {data answer : Buffer}
    (received : receivedBy central (written (onRead host central (request :: data)) world) = [answer]) :
    written (createHandler host central (request :: data)) world = [(central, answer)] := by
  obtain ⟨condition, settles⟩ := readRequest_settles host central world reads data
  rcases settles.sent with ⟨silent, _⟩ | ⟨other, wrote, _⟩
  · rw [show receivedBy central (written (onRead host central (request :: data)) world) = [] from
      receivedBy_written (silent.trans (List.append_nil _).symm)] at received
    cases received
  · rw [show receivedBy central (written (onRead host central (request :: data)) world) =
      receivedBy central [(central, other)] from receivedBy_written wrote] at received
    rw [written_of_sent wrote]
    simpa [receivedBy] using received

/-- What a client parses from the answer to a read by type is of the first value's length, and of one
    world. -/
theorem answer_listed {session : Session} {rd : Client.ReadData} {pdu : Buffer} {att : Client.Att}
    {out : List Client.Effect} {data : Nat} {list : List Client.AttributeData}
    (pending : session.left.currentRequest = some rd) (kind : rd.callback = .onReadByType)
    (coherent : rd.Coherent) (answers : IsAnswerTo rd.request pdu)
    (stepped : Client.step session.left (.received pdu) = .ok (att, out))
    (told : .attrListCb data 0 (some (.values list)) none ∈ out) :
    ∃ payload, pdu = opReadByTypeResponse :: payload ∧
      Client.parseAttributeDataList [] (some payload) payload.length = .ok list := by
  have request : rd.request = opReadByTypeRequest := by
    rw [coherent.request, kind]
    rfl
  rcases answers with rfl | ⟨length, first, second⟩ | ⟨head, _⟩
  · cases stepped
  · rw [← List.head?_eq_getElem?] at first
    obtain ⟨request, low, high, errorCode, rest, rfl⟩ := Client.error_shape first length.ge
    cases Option.some.inj second
    rw [Client.step_received_error] at stepped
    simp only [pending, Option.map_some, if_pos, Client.Att.callbackCurrentRequest, kind,
      Client.Att.handleReadByType] at stepped
    cases stepped
    cases List.mem_singleton.mp told
  · obtain ⟨payload, rfl⟩ := List.head?_eq_some_iff.mp head
    rw [request] at stepped
    rw [show opReadByTypeRequest + 1 = opReadByTypeResponse from rfl,
      Client.step_received_response _ payload (by decide) (by decide)] at stepped
    simp only [pending, Client.Att.callbackCurrentRequest, kind, Client.Att.handleReadByType] at stepped
    obtain ⟨parsed, read, returned⟩ := Client.bind_ok stepped
    cases returned
    cases List.mem_singleton.mp told
    exact ⟨payload, by rw [request]; rfl, read⟩

end Origin

/-- A read by type is one look at the server: the list that the callback is given tells of the handles
    and values in one of the worlds there were between the call and the answer, whatever the
    application and other centrals do meanwhile. -/
theorem reads_are_snapshots (host : Host) (central : CentralRef) (catches : Bool)
    (connection : Client.Connection) (world : World) (quiet : Unindicated central world)
    (actions : List (Action Exposed (LocalEvent central))) (still : LeavesQuiet actions)
    (session : Session) (question : Question) (out : List Seen) (ran : run (watchedStep host central catches)
      (.start connection world, .unasked) actions = .ok ((session, question), out))
    (start stop type : UInt16) (data : Nat)
    (called : question.call = some (.readByType start stop (.uuid16 type) data))
    (next : Session) (emitted : List Seen)
    (stepped : sessionStep host central catches session .deliverLeft = .ok (next, emitted))
    (list : List Client.AttributeData)
    (told : .left (.attrListCb data 0 (some (.values list)) none) ∈ emitted) :
    ∃ moment ∈ question.worlds, ∃ uuids ref first rest value,
      getUuid moment.uuids (.number type.toNat) = .ok (uuids, ref) ∧
      attributesIn moment start.toNat stop.toNat ref = first :: rest ∧
      (moment.attrib first).value = some value ∧
      (value.length ≤ 253 →
        list = (shownValues moment value.length (first :: rest)).map (dataOf moment)) := by
  have initial : Questioned host central (.start connection world, .unasked) :=
    ⟨Session.start_tracked connection quiet, nofun⟩
  have questioned := run_preserves_of_valid questioned_kept initial still ran
  have tracked := questioned.tracked
  cases step_cases stepped with
  | idleLeft => cases told
  | deliverLeft pdu rest waiting att pdus effects taken =>
    have here : .attrListCb data 0 (some (.values list)) none ∈ effects := by simpa using told
    obtain ⟨received, _⟩ := clientDone_ok taken
    have answered (foreign : IsForeign pdu) : False := by
      obtain ⟨other, more, untouching, untouched⟩ := foreign_untouched tracked.coherent foreign
      cases received.symm.trans untouching
      cases untouched.uncalled _ here
    cases slot : session.left.currentRequest with
    | none =>
      have down := (tracked.idle slot).2
      rw [waiting] at down
      exact (answered (List.forall_mem_cons.mp down).1).elim
    | some rd =>
      have coherent := tracked.coherent rd slot
      have underway := tracked.pending rd slot
      rw [waiting] at underway
      rcases underway.next_down with ⟨foreign, _⟩ | ⟨⟨answers, moment, member, made⟩, _, _⟩
      · exact (answered foreign).elim
      · obtain ⟨call, same, _, reads⟩ := questioned.asked rd slot
        cases called.symm.trans same
        obtain ⟨kind, asked⟩ := reads start stop type data rfl
        obtain ⟨payload, rfl, parsed⟩ := answer_listed slot kind coherent answers received here
        have some_bytes : payload ≠ [] := by
          rintro rfl
          cases parsed
        have sent : written (createHandler host central (Client.rangeHeader Client.attOpReadByTypeReq
            start stop ++ Client.attPutU16 type)) moment = [(central, opReadByTypeResponse :: payload)] := by
          rcases asked with nothing | asked
          · rw [nothing] at made
            have silent : receivedBy central (written (onRead host central []) moment) = [] :=
              congrArg (receivedBy central) (onRead_silent host central moment)
            cases silent.symm.trans made
          · rw [asked, rangeHeader_eq] at made
            rw [rangeHeader_eq]
            exact written_of_receivedBy (by decide) made
        obtain ⟨uuids, ref, first, others, value, got, found, valued, rfl⟩ :=
          readByType_origin (Client.attPutU16_length type).ge some_bytes sent
        rw [← List.append_nil (Client.attPutU16 type), word_put] at got
        refine ⟨moment, member, uuids, ref, first, others, value, got, found, valued, fun short => ?_⟩
        exact Except.ok.inj (parsed.symm.trans (valuesPage_parsed moment short (first :: others)))

theorem connectedServices_unindicated : Unindicated 0 connectedServices := twoServices_unindicated

def askServices : Exposed := ⟨.readByType 1 0xFF (.uuid16 0x2800) 7, nofun⟩

/-- A value is set on either side of the moment at which the server answers. -/
def readServices : List (Action Exposed (LocalEvent 0)) :=
  [.left askServices, .right ⟨.setValue 0 (.buffer [0x0A, 0x18]), trivial⟩, .deliverRight,
    .right ⟨.setValue 0 (.buffer [0x0B, 0x18]), trivial⟩]

theorem readServices_quiet : LeavesQuiet readServices := by
  intro action member event same
  rw [same] at member
  simp only [readServices, List.mem_cons, List.not_mem_nil, reduceCtorEq, Action.right.injEq, false_or,
    or_false] at member
  rcases member with set | set
  · exact fun ref => set ▸ LinkEvent.noConfusion
  · exact fun ref => set ▸ LinkEvent.noConfusion

def readServicesRun : Except Stop ((Session × Question) × List Seen) :=
  run (watchedStep plainHost 0 true) (.start Client.leConnection connectedServices, .unasked) readServices

def servicesListed : List Client.AttributeData := [⟨1, [0x0A, 0x18]⟩, ⟨4, [0x0F, 0x18]⟩]

theorem readServices_snapshot : ∃ moment : World, ∃ uuids ref first rest value,
      getUuid moment.uuids (.number 0x2800) = .ok (uuids, ref) ∧
      attributesIn moment 1 0xFF ref = first :: rest ∧
      (moment.attrib first).value = some value ∧
      (value.length ≤ 253 → servicesListed =
        (shownValues moment value.length (first :: rest)).map (dataOf moment)) := by
  have called : readServicesRun.toOption.map (fun done => done.1.2.call) = some (some askServices.val) := by
    decide +kernel
  have told : readServicesRun.toOption.bind (fun done =>
      (sessionStep plainHost 0 true done.1.1 .deliverLeft).toOption.map fun last =>
        last.2.filterMap Sight.left?) =
      some [.attrListCb 7 0 (some (.values servicesListed)) none] := by decide +kernel
  cases ran : readServicesRun with
  | error stop => rw [ran] at called; cases called
  | ok done =>
    rw [ran] at called told
    cases stepped : sessionStep plainHost 0 true done.1.1 .deliverLeft with
    | error stop => simp [stepped, Except.toOption] at told
    | ok last =>
      simp only [Except.toOption, Option.bind_some, stepped, Option.map_some, Option.some.injEq] at told
      have member : .left (.attrListCb 7 0 (some (.values servicesListed)) none) ∈ last.2 := by
        rw [← Sight.mem_left, told]
        exact List.mem_singleton_self _
      obtain ⟨moment, _, found⟩ := reads_are_snapshots plainHost 0 true Client.leConnection
        connectedServices connectedServices_unindicated readServices readServices_quiet
        done.1.1 done.1.2 done.2 ran 1 0xFF 0x2800 7 (Option.some.inj called)
        last.1 last.2 stepped servicesListed member
      exact ⟨moment, found⟩

end Btle.Wire

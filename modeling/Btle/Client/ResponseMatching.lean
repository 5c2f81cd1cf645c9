import Btle.Client.Steps

namespace Btle.Client

open Machine

def AnswersPending (rd : ReadData) (bytes : List UInt8) : Prop :=
  bytes.head? = some rd.expectedResponse ∨
    (bytes.head? = some attOpError ∧ bytes[1]? = some rd.request)

/-- Nothing that belongs to requests moved: slot, collected pages, callbacks and writes. -/
structure Untouched (att next : Att) (out : List Effect) : Prop where
  currentRequest : next.currentRequest = att.currentRequest
  attributeList : next.attributeList = att.attributeList
  handlesInfoList : next.handlesInfoList = att.handlesInfoList
  groupAttributeList : next.groupAttributeList = att.groupAttributeList
  uncalled : ∀ effect ∈ out, effect.answered = none
  unwritten : ∀ pdu, Effect.write pdu ∉ out

/-- While a request is pending, a PDU it does not wait for is handled without touching it. -/
def MatchesResponses (att : Att) : Event → Prop
  | .received bytes => bytes ≠ [] → ∀ rd, att.currentRequest = some rd →
      AnswersPending rd bytes ∨
        ∃ next out, step att (.received bytes) = .ok (next, out) ∧ Untouched att next out
  | _ => True

def ArrivesInKind (att : Att) : Event → Prop
  | .received bytes => bytes ≠ [] → ∀ rd, att.currentRequest = some rd →
      AnswersPending rd bytes ∨ (bytes.head? = some attOpError ∧ 5 ≤ bytes.length) ∨
        (bytes.head? = some attOpHandleNotify ∧ 3 ≤ bytes.length)
  | _ => True

theorem Advances.touches {att next : Att} {rd : ReadData} {out : List Effect}
    (h : Advances rd next out) : ¬ Untouched att next out := by
  intro untouched
  cases h with
  | asksAgain pdu => exact untouched.unwritten pdu (by simp)
  | completes effect _ own =>
    have silent := untouched.uncalled effect (by simp)
    rw [own] at silent
    cases silent

theorem reportError_untouched (att : Att) (message : String) :
    ∃ next out, att.reportError message = .ok (next, out) ∧ Untouched att next out := by
  unfold Att.reportError
  split
  · exact ⟨_, _, rfl, rfl, rfl, rfl, rfl, by simp [Effect.answered], by simp⟩
  · exact ⟨_, _, rfl, rfl, rfl, rfl, rfl, by simp, by simp⟩

theorem foreign_error_untouched {att : Att} {rd : ReadData} {bytes : List UInt8}
    (pending : att.currentRequest = some rd) (kind : bytes.head? = some attOpError)
    (complete : 5 ≤ bytes.length) (foreign : ¬ AnswersPending rd bytes) :
    ∃ next out, step att (.received bytes) = .ok (next, out) ∧ Untouched att next out := by
  rcases error_shape kind complete with ⟨request, low, high, errorCode, rest, rfl⟩
  have other : att.currentRequest.map ReadData.request ≠ some request := by
    rw [pending]
    intro same
    cases same
    exact foreign (.inr ⟨rfl, rfl⟩)
  rw [step_received_error]
  simp only [if_neg other]
  exact reportError_untouched _ _

theorem notification_untouched (att : Att) {bytes : List UInt8}
    (kind : bytes.head? = some attOpHandleNotify) (complete : 3 ≤ bytes.length) :
    ∃ next out, step att (.received bytes) = .ok (next, out) ∧ Untouched att next out := by
  rcases notify_shape kind complete with ⟨low, high, payload, rfl⟩
  rw [step_received_notify]
  dsimp only
  split
  · exact ⟨_, _, rfl, rfl, rfl, rfl, rfl, by simp [Effect.answered], by simp⟩
  · exact reportError_untouched _ _

/-- Every other PDU is taken for the answer, whatever its opcode. -/
theorem stray_touches {att : Att} {rd : ReadData} {bytes : List UInt8}
    (pending : att.currentRequest = some rd) (some_bytes : bytes ≠ [])
    (notError : bytes.head? ≠ some attOpError) (notNotify : bytes.head? ≠ some attOpHandleNotify) :
    ¬ ∃ next out, step att (.received bytes) = .ok (next, out) ∧ Untouched att next out := by
  rcases List.exists_cons_of_ne_nil some_bytes with ⟨opcode, payload, rfl⟩
  intro possible
  rcases possible with ⟨next, out, stepped, untouched⟩
  rw [step_received_response att payload (by simpa using notError) (by simpa using notNotify),
    pending] at stepped
  rcases Att.callbackCurrentRequest_advances stepped with ⟨rd, _, advances⟩
  exact advances.touches untouched

theorem matchesResponses_iff (att : Att) (event : Event) :
    MatchesResponses att event ↔ ArrivesInKind att event := by
  cases event with
  | call | readError => exact Iff.rfl
  | received bytes =>
    constructor
    · intro matching some_bytes rd pending
      rcases matching some_bytes rd pending with answers | untouched
      · exact .inl answers
      · rcases id untouched with ⟨next, out, stepped, _⟩
        by_cases notError : bytes.head? = some attOpError
        · refine .inr (.inl ⟨notError, ?_⟩)
          by_contra short
          rw [step_received_short_error att notError (by omega)] at stepped
          cases stepped
        · by_cases notNotify : bytes.head? = some attOpHandleNotify
          · refine .inr (.inr ⟨notNotify, ?_⟩)
            by_contra short
            rw [step_received_short_notify att notNotify (by omega)] at stepped
            cases stepped
          · exact absurd untouched (stray_touches pending some_bytes notError notNotify)
    · intro inKind some_bytes rd pending
      by_cases answers : AnswersPending rd bytes
      · exact .inl answers
      · rcases inKind some_bytes rd pending with same | ⟨kind, complete⟩ | ⟨kind, complete⟩
        · exact .inl same
        · exact .inr (foreign_error_untouched pending kind complete answers)
        · exact .inr (notification_untouched att kind complete)

/-- In a run of `Att` responses are matched with requests as long as, and only as long as, no
    stray PDU arrives while a request is pending: `expectedResponse` is stored and never read. -/
theorem responses_matched_iff (connection : Connection) (events : List Event) :
    (∀ taken ∈ visited step (Att.new connection) events, MatchesResponses taken.1 taken.2) ↔
      ∀ taken ∈ visited step (Att.new connection) events, ArrivesInKind taken.1 taken.2 := by
  constructor
  · intro h taken member
    exact (matchesResponses_iff _ _).mp (h taken member)
  · intro h taken member
    exact (matchesResponses_iff _ _).mpr (h taken member)

theorem write_response_completes_read :
    ¬ ∀ taken ∈ visited step (Att.new leConnection)
        [.call (.writeRequest 0x26 [1, 0]), .call (.readAttribute 0x25 7), .received [attOpWriteResp]],
      MatchesResponses taken.1 taken.2 := by
  intro matched
  have pending := matched _ (.tail _ (.tail _ (.head _)))
  rcases pending (by decide) _ rfl with (expected | ⟨error, _⟩) | ⟨next, out, stepped, untouched⟩
  · exact absurd expected (by decide)
  · exact absurd error (by decide)
  · cases stepped
    exact absurd (untouched.uncalled _ (.head _)) (by decide)

end Btle.Client

import Btle.Client.Steps

namespace Btle.Client

open Machine

/-- A list is only kept while the discovery it belongs to holds the slot. -/
structure Collecting (att : Att) : Prop where
  attributeList : att.attributeList = none ∨
    att.currentRequest.map ReadData.callback = some .onFindInfo
  handlesInfoList : att.handlesInfoList = none ∨
    att.currentRequest.map ReadData.callback = some .onFindByType
  groupAttributeList : att.groupAttributeList = none ∨
    att.currentRequest.map ReadData.callback = some .onReadByGroupType

theorem Collecting.of_lists {att next : Att} (collecting : Collecting att)
    (slot : next.currentRequest = att.currentRequest)
    (infos : next.attributeList = att.attributeList)
    (handles : next.handlesInfoList = att.handlesInfoList)
    (groups : next.groupAttributeList = att.groupAttributeList) : Collecting next := by
  rcases collecting with ⟨first, second, third⟩
  exact ⟨by rwa [infos, slot], by rwa [handles, slot], by rwa [groups, slot]⟩

theorem Collecting.of_empty {att : Att} (infos : att.attributeList = none)
    (handles : att.handlesInfoList = none) (groups : att.groupAttributeList = none) :
    Collecting att := ⟨.inl infos, .inl handles, .inl groups⟩

theorem Collecting.idle {att : Att} (collecting : Collecting att)
    (free : att.currentRequest = none) :
    att.attributeList = none ∧ att.handlesInfoList = none ∧ att.groupAttributeList = none := by
  rcases collecting with ⟨infos, handles, groups⟩
  simp only [free, Option.map_none, reduceCtorEq, or_false] at infos handles groups
  exact ⟨infos, handles, groups⟩

namespace Att

section Handlers

variable {att next : Att} {rd : ReadData} {out : List Effect} {error : Option String}
  {status : UInt8} {buf : Buf} {len : Int}

theorem collectPage_next {α : Type} {accumulator : Accumulator α}
    {parse : List α → Except Fault (List α)} {handle : α → UInt16}
    {again : Att → UInt16 → Except Fault (List Effect)}
    (h : collectPage accumulator att rd parse handle again error = .ok (next, out)) :
    ∃ list, next = accumulator.set att (some list) ∨
      next = (accumulator.set (accumulator.set att (some list)) none).removeCurrentRequest := by
  rcases collectPage_cases h with ⟨list, back, _, ⟨written, _, rfl, rfl⟩ | ended⟩
  · exact ⟨list, .inl rfl⟩
  · cases ended
    exact ⟨list, .inr rfl⟩

theorem handleFindInfo_collecting (collecting : Collecting att)
    (kind : att.currentRequest.map ReadData.callback = some .onFindInfo)
    (h : att.handleFindInfo status rd buf len error = .ok (next, out)) : Collecting next := by
  rcases collecting with ⟨_, handles, groups⟩
  simp only [kind, Option.some.injEq, reduceCtorEq, or_false] at handles groups
  unfold handleFindInfo at h
  split at h
  · rcases collectPage_next h with ⟨list, kept | ended⟩
    · subst kept
      exact ⟨.inr kind, .inl handles, .inl groups⟩
    · subst ended
      exact .of_empty rfl handles groups
  · split at h <;> cases h <;> exact .of_empty rfl handles groups

theorem handleFindByType_collecting (collecting : Collecting att)
    (kind : att.currentRequest.map ReadData.callback = some .onFindByType)
    (h : att.handleFindByType status rd buf len error = .ok (next, out)) : Collecting next := by
  rcases collecting with ⟨infos, _, groups⟩
  simp only [kind, Option.some.injEq, reduceCtorEq, or_false] at infos groups
  unfold handleFindByType at h
  split at h
  · rcases collectPage_next h with ⟨list, kept | ended⟩
    · subst kept
      exact ⟨.inl infos, .inr kind, .inl groups⟩
    · subst ended
      exact .of_empty infos rfl groups
  · split at h
    · split at h
      · rename_i empty
        cases h
        exact .of_empty infos empty groups
      · cases h
        exact .of_empty infos rfl groups
    · cases h
      exact .of_empty infos rfl groups

theorem handleReadByType_collecting (collecting : Collecting att)
    (kind : att.currentRequest.map ReadData.callback = some .onReadByType)
    (h : att.handleReadByType status rd buf len error = .ok (next, out)) : Collecting next := by
  rcases collecting with ⟨infos, handles, groups⟩
  simp only [kind, Option.some.injEq, reduceCtorEq, or_false] at infos handles groups
  unfold handleReadByType at h
  split at h
  · cases h
    exact .of_empty infos handles groups
  · rcases bind_ok h with ⟨_, _, returned⟩
    cases returned
    exact .of_empty infos handles groups

theorem handleReadByGroupType_collecting (collecting : Collecting att)
    (kind : att.currentRequest.map ReadData.callback = some .onReadByGroupType)
    (h : att.handleReadByGroupType status rd buf len error = .ok (next, out)) :
    Collecting next := by
  rcases collecting with ⟨infos, handles, _⟩
  simp only [kind, Option.some.injEq, reduceCtorEq, or_false] at infos handles
  unfold handleReadByGroupType at h
  split at h
  · rcases collectPage_next h with ⟨list, kept | ended⟩
    · subst kept
      exact ⟨.inl infos, .inl handles, .inr kind⟩
    · subst ended
      exact .of_empty infos handles rfl
  · split at h <;> cases h <;> exact .of_empty infos handles rfl

theorem callbackCurrentRequest_collecting (collecting : Collecting att)
    (h : att.callbackCurrentRequest status buf len error = .ok (next, out)) :
    Collecting next := by
  unfold callbackCurrentRequest at h
  split at h
  · cases h
  · rename_i rd pending
    have kind : att.currentRequest.map ReadData.callback = some rd.callback := by
      rw [pending, Option.map_some]
    split at h <;> rename_i named <;> rw [named] at kind
    · exact handleFindInfo_collecting collecting kind h
    · exact handleFindByType_collecting collecting kind h
    · exact handleReadByType_collecting collecting kind h
    · exact handleReadByGroupType_collecting collecting kind h
    · cases h
      rcases collecting with ⟨infos, handles, groups⟩
      simp only [kind, Option.some.injEq, reduceCtorEq, or_false] at infos handles groups
      exact .of_empty infos handles groups

end Handlers

end Att

theorem step_collecting : Preserves step Collecting := by
  intro att event next out collecting stepped
  cases step_cases stepped with
  | advances _ _ _ delivered _ =>
    rcases delivered with ⟨_, _, _, _, handled⟩
    exact Att.callbackCurrentRequest_collecting collecting handled
  | requested data _ request =>
    cases request with
    | accepted rd pdu free taken =>
      rcases collecting.idle free with ⟨infos, handles, groups⟩
      subst taken
      exact .of_empty infos handles groups
    | refused _ _ _ unchanged => exact unchanged ▸ collecting
  | quiet _ still =>
    exact collecting.of_lists still.currentRequest still.attributeList still.handlesInfoList
      still.groupAttributeList

theorem reachable_collecting {connection : Connection} {att : Att}
    (reached : Reachable step (Att.new connection) att) : Collecting att :=
  reached.preserved step_collecting (.of_empty rfl rfl rfl)

end Btle.Client

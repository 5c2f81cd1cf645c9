import Btle.Client.Completeness
import Btle.Client.Isolation
import Btle.Client.Progress

namespace Btle.Client

open Machine

/-- What goes wrong with a list pointer: it is followed although null, or cast to another list. -/
inductive ListFault
  | nullList
  | foreignList
  deriving DecidableEq, Repr

/-- The arguments of a JavaScript callback: an object for every entry, or an error object. -/
inductive Answer
  | response (entries : List Entry)
  | error (errorCode : UInt8) (errorMessage : String)
  deriving DecidableEq, Repr

namespace Peripheral

def createErrorMessage (err : UInt8) : String :=
  match getErrorString err with
  | some msg => msg
  | none => "Error code " ++ hexadecimal true 2 err.toNat

def sendError (err : UInt8) (error : Option String) : Answer :=
  .error err (error.getD (createErrorMessage err))

/-- The shape of the four list handlers, which differ in their entries alone. -/
def handleList {α : Type} (entry : α → Entry) (status : UInt8) (list : Option (List α))
    (error : Option String) : Except ListFault Answer :=
  match error with
  | some _ => .ok (sendError status error)
  | none =>
    if status = 0 then
      match list with
      | none => .error .nullList
      | some list => .ok (.response (list.map entry))
    else .ok (sendError status error)

def handleFindInformation : UInt8 → Option (List AttributeInfo) → Option String →
    Except ListFault Answer := handleList .info

def handleFindByType : UInt8 → Option (List HandlesInfo) → Option String →
    Except ListFault Answer := handleList .handles

def handleReadByType : UInt8 → Option (List AttributeData) → Option String →
    Except ListFault Answer := handleList .value

def handleReadByGroupType : UInt8 → Option (List GroupAttributeData) → Option String →
    Except ListFault Answer := handleList .group

def onFindInformation (status : UInt8) (list : Option AttributeList) (error : Option String) :
    Except ListFault Answer :=
  match list with
  | none => handleFindInformation status none error
  | some (.infos infoList) => handleFindInformation status (some infoList) error
  | some _ => .error .foreignList

def onFindByType (status : UInt8) (list : Option AttributeList) (error : Option String) :
    Except ListFault Answer :=
  match list with
  | none => handleFindByType status none error
  | some (.handles infoList) => handleFindByType status (some infoList) error
  | some _ => .error .foreignList

def onReadByType (status : UInt8) (list : Option AttributeList) (error : Option String) :
    Except ListFault Answer :=
  match list with
  | none => handleReadByType status none error
  | some (.values dataList) => handleReadByType status (some dataList) error
  | some _ => .error .foreignList

def onReadByGroupType (status : UInt8) (list : Option AttributeList) (error : Option String) :
    Except ListFault Answer :=
  match list with
  | none => handleReadByGroupType status none error
  | some (.groups dataList) => handleReadByGroupType status (some dataList) error
  | some _ => .error .foreignList

end Peripheral

/-- The callback that the peripheral gives to each discovery. -/
def Discovery.onList : Discovery → UInt8 → Option AttributeList → Option String →
    Except ListFault Answer
  | .findInformation => Peripheral.onFindInformation
  | .findByTypeValue .. => Peripheral.onFindByType
  | .readByGroupType _ => Peripheral.onReadByGroupType

/-- A discovery the peripheral asks for, with the server that answers it. -/
structure Search where
  discovery : Discovery
  startHandle : UInt16
  endHandle : UInt16
  data : Nat
  server : Server

def Search.call (search : Search) : Call :=
  search.discovery.call search.startHandle search.endHandle search.data

def Database.found (database : Database) (search : Search) : List Attribute :=
  database.matching search.discovery search.startHandle search.endHandle

/-- A search of a valid range, which can be sent, of a server that conforms. -/
structure Search.Valid (search : Search) (connection : Connection) (database : Database) (room : Nat) :
    Prop where
  conforms : search.server.Conforms database room search.discovery
  positive : 1 ≤ search.startHandle
  ordered : search.startHandle ≤ search.endHandle
  known : ∀ type, search.discovery = .readByGroupType type → type ≠ .unspec
  fits : (search.discovery.requestPdu search.startHandle search.endHandle).length ≤
    connection.getBuffer.length

/-- What a call of the list callback has to be: a success comes with a list, and the peripheral's
    handler gets through it. -/
def Search.Accepts (search : Search) (status : UInt8) (list : Option AttributeList)
    (error : Option String) : Prop :=
  (status = 0 → error = none → list ≠ none) ∧
    ∃ answer, search.discovery.onList status list error = .ok answer

/-- Searches one after the other, each of which comes to an end and calls back as it has to. -/
def ListsGiven (fuel : Nat) : Att → List Search → Prop
  | _, [] => True
  | att, search :: rest =>
    ∃ next out, discover search.server fuel att search.call = some (.ok (next, out)) ∧
      (∀ data status list error, .attrListCb data status list error ∈ out →
        search.Accepts status list error) ∧
      ListsGiven fuel next rest

def Search.Telling (database : Database) (search : Search) : Prop :=
  database.found search ≠ [] ∨ ∃ type value, search.discovery = .findByTypeValue type value

section Converse

variable {invariant : Att → Prop} {server : Server}

theorem converse_preserves (preserve : Preserves step invariant) {fuel : Nat}
    {earlier : List (List UInt8)} {att last : Att} {out all : List Effect} (start : invariant att)
    (h : converse server fuel earlier att out = some (.ok (last, all))) : invariant last := by
  induction fuel generalizing earlier att out with
  | zero => cases h
  | succ fuel ih =>
    rcases out with _ | ⟨effect, _ | ⟨second, rest⟩⟩
    · cases h
      exact start
    · cases effect with
      | write request =>
        simp only [converse] at h
        split at h
        · cases h
        · rename_i next more stepped
          exact ih (preserve _ _ _ _ start stepped) h
      | attrListCb | readAttrCb | notification | errorHandler =>
        cases h
        exact start
    · cases effect <;> cases h <;> exact start

theorem discover_preserves (preserve : Preserves step invariant) {fuel : Nat} {att last : Att}
    {action : Call} {all : List Effect} (start : invariant att)
    (h : discover server fuel att action = some (.ok (last, all))) : invariant last := by
  unfold discover at h
  split at h
  · cases h
  · rename_i next out stepped
    exact converse_preserves preserve (preserve _ _ _ _ start stepped) h

end Converse

section Searches

variable {connection : Connection} {database : Database} {room : Nat} {att : Att}

theorem onList_lists {discovery : Discovery} {list : AttributeList} {found : List Attribute}
    (lists : discovery.Lists room list found) :
    ∃ answer, discovery.onList 0 (some list) none = .ok answer := by
  cases discovery with
  | findInformation =>
    cases list with
    | infos list => exact ⟨_, rfl⟩
    | handles | values | groups => exact absurd lists not_false
  | findByTypeValue =>
    cases list with
    | handles list => exact ⟨_, rfl⟩
    | infos | values | groups => exact absurd lists not_false
  | readByGroupType =>
    cases list with
    | groups list => exact ⟨_, rfl⟩
    | infos | handles | values => exact absurd lists not_false

theorem found_accepted {search : Search} {list : AttributeList} {requests : List (List UInt8)}
    (lists : search.discovery.Lists room list (database.found search)) :
    ∀ data status list' error,
      .attrListCb data status list' error ∈
        requests.map Effect.write ++ [.attrListCb search.data 0 (some list) none] →
      search.Accepts status list' error := by
  intro data status list' error member
  rcases List.mem_append.mp member with written | called
  · rcases List.mem_map.mp written with ⟨_, _, absurd_write⟩
    cases absurd_write
  · cases List.mem_singleton.mp called
    exact ⟨fun _ _ => Option.some_ne_none list, onList_lists lists⟩

/-- A search comes to an end, and calls back as it has to exactly if it tells nothing from success. -/
theorem search_ends (collecting : Collecting att) (idle : att.currentRequest = none)
    {search : Search} (valid : search.Valid att.connection database room) :
    ∃ turns last out, last.currentRequest = none ∧
      ((∀ data status list error, .attrListCb data status list error ∈ out →
        search.Accepts status list error) ↔ search.Telling database) ∧
      ∀ fuel, turns < fuel → discover search.server fuel att search.call = some (.ok (last, out)) := by
  rcases valid with ⟨conforms, positive, ordered, known, fits⟩
  by_cases found : database.found search = []
  · rcases discovery_nothing collecting idle conforms positive ordered known fits found search.data with
      ⟨last, free, ran⟩
    refine ⟨1, last, _, free, ?_, ran⟩
    constructor
    · intro accepted
      have called := (accepted search.data 0 none search.discovery.nothingFound (.tail _ (.head _))).1 rfl
      cases kind : search.discovery with
      | findByTypeValue type value => exact .inr ⟨type, value, kind⟩
      | findInformation | readByGroupType =>
        rw [kind] at called
        exact absurd rfl (called rfl)
    · intro telling data status list error member
      rcases telling with some_found | ⟨type, value, kind⟩
      · exact absurd found some_found
      · have text : search.discovery.nothingFound = getErrorString attEcodeAttrNotFound := by
          rw [kind]
          rfl
        rw [text] at member
        cases member with
        | tail _ member =>
          cases List.mem_singleton.mp member
          refine ⟨?_, ?_⟩
          · intro _ absent
            exact absurd absent (by decide)
          · rw [kind]
            exact ⟨_, rfl⟩
  · rcases discovery_found collecting idle conforms positive ordered fits found search.data with
      ⟨last, requests, list, free, lists, ran⟩
    exact ⟨_, last, _, free, iff_of_true (found_accepted lists) (.inl found), ran⟩

theorem searches_iff (collecting : Collecting att) (idle : att.currentRequest = none)
    (linked : att.connection = connection) {searches : List Search}
    (valid : ∀ search ∈ searches, search.Valid connection database room) :
    ∃ turns, ∀ fuel, turns < fuel →
      (ListsGiven fuel att searches ↔ ∀ search ∈ searches, search.Telling database) := by
  induction searches generalizing att with
  | nil => exact ⟨0, fun _ _ => iff_of_true trivial (List.forall_mem_nil _)⟩
  | cons search searches ih =>
    rw [List.forall_mem_cons] at valid
    have here : search.Valid att.connection database room := linked.symm ▸ valid.1
    rcases search_ends collecting idle here with ⟨turns, last, out, free, accepts, ran⟩
    have after : Collecting last :=
      discover_preserves step_collecting collecting (ran (turns + 1) (Nat.lt_succ_self turns))
    have same : last.connection = connection :=
      discover_preserves (step_linked connection) linked (ran (turns + 1) (Nat.lt_succ_self turns))
    rcases ih after free same valid.2 with ⟨more, later⟩
    refine ⟨max turns more, ?_⟩
    intro fuel enough
    have finished := ran fuel (by omega)
    have rest := later fuel (by omega)
    rw [List.forall_mem_cons, ← accepts, ← rest]
    constructor
    · intro given
      rcases given with ⟨next, found, again, accepted, others⟩
      rw [finished] at again
      cases again
      exact ⟨accepted, others⟩
    · intro given
      exact ⟨last, out, finished, given.1, given.2⟩

end Searches

/-- In a run of searches of conforming servers the list callbacks are given lists to go through as
    long as, and only as long as, every search finds something or is one by type: the two others
    take a first reply that nothing matches for a success without a list. -/
theorem lists_given_iff {connection : Connection} {att : Att}
    (reached : Reachable step (Att.new connection) att) (idle : att.currentRequest = none)
    {database : Database} {room : Nat} {searches : List Search}
    (valid : ∀ search ∈ searches, search.Valid att.connection database room) :
    ∃ turns, ∀ fuel, turns < fuel →
      (ListsGiven fuel att searches ↔ ∀ search ∈ searches, search.Telling database) :=
  searches_iff (reachable_collecting reached) idle rfl valid

def batterySearch : Search := ⟨batteryServices, 1, 0xFFFF, 7, oneByOne⟩

theorem batterySearch_valid : batterySearch.Valid leConnection twoServices 20 where
  conforms := oneByOne_conforms
  positive := by decide
  ordered := by decide
  known := by
    intro type same
    cases same
  fits := by decide

theorem batterySearch_given_iff :
    ∃ turns, ∀ fuel, turns < fuel →
      (ListsGiven fuel (Att.new leConnection) [batterySearch] ↔
        ∀ search ∈ [batterySearch], search.Telling twoServices) := by
  have valid : ∀ search ∈ [batterySearch],
      search.Valid (Att.new leConnection).connection twoServices 20 := by
    intro search member
    rw [List.mem_singleton.mp member]
    exact batterySearch_valid
  exact lists_given_iff ⟨[], [], rfl⟩ rfl valid

def noAttributes : Database := ⟨[], List.Pairwise.nil⟩

def nothingThere : Server := fun _ _ => [attOpError, attOpFindInfoReq, 1, 0, attEcodeAttrNotFound]

def vainSearch : Search := ⟨.findInformation, 1, 0xFFFF, 7, nothingThere⟩

theorem vainSearch_null_list :
    vainSearch.Valid leConnection noAttributes 20 ∧
      ¬ ListsGiven 2 (Att.new leConnection) [vainSearch] := by
  refine ⟨⟨?_, by decide, by decide, ?_, by decide⟩, ?_⟩
  · intro earlier startHandle endHandle _ _
    exact .notFound 1 0 rfl
  · intro type same
    cases same
  · intro given
    rcases given with ⟨next, out, ran, accepted, _⟩
    cases ran
    exact absurd rfl ((accepted 7 0 none none (.tail _ (.head _))).1 rfl rfl)

end Btle.Client

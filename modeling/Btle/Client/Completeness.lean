import Btle.Client.Discovery
import Btle.Client.Pages

namespace Btle.Client

open Machine Paging

theorem Att.collectPage_page {α : Type} {accumulator : Accumulator α} {att : Att} {rd : ReadData}
    {parse : List α → Except Fault (List α)} {handle : α → UInt16}
    {again : Att → UInt16 → Except Fault (List Effect)} {list : List α} {back : α}
    (request : UInt16 → List UInt8)
    (parsed : ∀ collected, parse collected = .ok (collected ++ list))
    (ends : list.getLast? = some back)
    (asks : ∀ next start, next.connection = att.connection →
      again next start = .ok [.write (request start)]) :
    collectPage accumulator att rd parse handle again none =
      let collected := (accumulator.get att).getD [] ++ list
      if handle back < rd.handle then
        .ok (accumulator.set att (some collected), [.write (request (handle back + 1))])
      else
        .ok ((accumulator.set (accumulator.set att (some collected)) none).removeCurrentRequest,
          [.attrListCb rd.data 0 (some (accumulator.list collected)) none]) := by
  have last : ((accumulator.get att).getD [] ++ list).getLast? = some back := by
    rw [List.getLast?_append, ends, Option.some_or]
  have asked := asks (accumulator.set att (some ((accumulator.get att).getD [] ++ list)))
    (handle back + 1) (accumulator.connection_set _ _)
  unfold collectPage
  simp only [parsed, bind, Except.bind, last]
  split
  · simp only [asked, pure, Except.pure]
  · simp only [finish, accumulator.get_set, Option.map_some]

theorem notFound_failed : ¬ attEcodeAttrNotFound = 0 := by decide

theorem step_error_named {att : Att} {rd : ReadData} (low high errorCode : UInt8)
    (pending : att.currentRequest = some rd) :
    ∃ message, step att (.received [attOpError, rd.request, low, high, errorCode]) =
      att.callbackCurrentRequest errorCode none 0 (some message) := by
  rw [step_received_error]
  simp only [pending, Option.map_some, if_true]
  exact ⟨_, rfl⟩

section Responses

variable {att : Att} {rd : ReadData} {opcode : UInt8} (payload : List UInt8)
  (pending : att.currentRequest = some rd) (notError : opcode ≠ attOpError)
  (notNotify : opcode ≠ attOpHandleNotify)

include pending notError notNotify

theorem step_findInfo (kind : rd.callback = .onFindInfo) :
    step att (.received (opcode :: payload)) =
      Att.collectPage .attributeList att rd
        (fun list => parseAttributeList list (some payload) payload.length) AttributeInfo.handle
        (fun att start => att.doFindInformation start rd.handle) none := by
  rw [step_received_response att payload notError notNotify]
  simp only [pending, Att.callbackCurrentRequest, kind, Att.handleFindInfo, if_true]

theorem step_findByType (kind : rd.callback = .onFindByType) :
    step att (.received (opcode :: payload)) =
      Att.collectPage .handlesInfoList att rd
        (fun list => parseHandlesInformationList list (some payload) payload.length)
        HandlesInfo.handle
        (fun att start => att.doFindByType start rd.handle rd.type rd.value) none := by
  rw [step_received_response att payload notError notNotify]
  simp only [pending, Att.callbackCurrentRequest, kind, Att.handleFindByType, if_true]

theorem step_readByGroupType (kind : rd.callback = .onReadByGroupType) :
    step att (.received (opcode :: payload)) =
      Att.collectPage .groupAttributeList att rd
        (fun list => parseGroupAttributeDataList list (some payload) payload.length)
        GroupAttributeData.handle
        (fun att start => att.doReadByGroupType start rd.handle rd.type) none := by
  rw [step_received_response att payload notError notNotify]
  simp only [pending, Att.callbackCurrentRequest, kind, Att.handleReadByGroupType, if_true]

end Responses

section Takes

variable {connection : Connection} {rd : ReadData} {request : UInt16 → List UInt8}

/-- What a discovery's handler does with its two answers, whatever bytes its own requests have. -/
theorem findInfo_takes (kind : rd.callback = .onFindInfo)
    (asks : ∀ (att : Att) start, att.connection = connection →
      att.doFindInformation start rd.handle = .ok [.write (request start)]) :
    TakesPages .attributeList rd connection AttributeInfo.handle request
      (fun list pdu => Discovery.findInformation.Encodes (.infos list) pdu) where
  page := by
    intro att list pdu back pending linked encoded ends
    cases encoded with
    | infos format list uniform =>
      rw [step_findInfo _ pending (by decide) (by decide) kind]
      exact Att.collectPage_page request (fun collected => parseAttributeList_encoded collected uniform)
        ends fun next start same => asks next start (same.trans linked)
  notFound := by
    intro att list low high pending kept
    rcases step_error_named low high attEcodeAttrNotFound pending with ⟨message, answered⟩
    apply answered.trans
    simp only [Att.callbackCurrentRequest, pending, kind, Att.handleFindInfo, if_neg notFound_failed,
      if_true, Att.finish, kept, Option.map_some]

theorem findByType_takes (kind : rd.callback = .onFindByType)
    (asks : ∀ (att : Att) start, att.connection = connection →
      att.doFindByType start rd.handle rd.type rd.value = .ok [.write (request start)])
    (type : UInt16) (value : Option (List UInt8)) :
    TakesPages .handlesInfoList rd connection HandlesInfo.handle request
      (fun list pdu => (Discovery.findByTypeValue type value).Encodes (.handles list) pdu) where
  page := by
    intro att list pdu back pending linked encoded ends
    cases encoded with
    | handles _ _ list =>
      rw [step_findByType _ pending (by decide) (by decide) kind]
      exact Att.collectPage_page request
        (fun collected => parseHandlesInformationList_encoded collected list)
        ends fun next start same => asks next start (same.trans linked)
  notFound := by
    intro att list low high pending kept
    rcases step_error_named low high attEcodeAttrNotFound pending with ⟨message, answered⟩
    apply answered.trans
    have held : att.handlesInfoList = some list := kept
    simp only [Att.callbackCurrentRequest, pending, kind, Att.handleFindByType,
      if_neg notFound_failed, if_true, held, Att.finish, kept, Option.map_some]

theorem readByGroupType_takes (kind : rd.callback = .onReadByGroupType)
    (asks : ∀ (att : Att) start, att.connection = connection →
      att.doReadByGroupType start rd.handle rd.type = .ok [.write (request start)])
    (type : BtUuid) :
    TakesPages .groupAttributeList rd connection GroupAttributeData.handle request
      (fun list pdu => (Discovery.readByGroupType type).Encodes (.groups list) pdu) where
  page := by
    intro att list pdu back pending linked encoded ends
    cases encoded with
    | groups _ length list uniform =>
      rw [step_readByGroupType _ pending (by decide) (by decide) kind]
      exact Att.collectPage_page request
        (fun collected => parseGroupAttributeDataList_encoded collected uniform)
        ends fun next start same => asks next start (same.trans linked)
  notFound := by
    intro att list low high pending kept
    rcases step_error_named low high attEcodeAttrNotFound pending with ⟨message, answered⟩
    apply answered.trans
    simp only [Att.callbackCurrentRequest, pending, kind, Att.handleReadByGroupType,
      if_neg notFound_failed, if_true, Att.finish, kept, Option.map_some]

end Takes

namespace Discovery

def readData (discovery : Discovery) (endHandle : UInt16) (data : Nat) : ReadData :=
  match discovery with
  | .findInformation =>
    { request := attOpFindInfoReq, expectedResponse := attOpFindInfoResp, data,
      handle := endHandle, type := .unspec, value := none, callback := .onFindInfo }
  | .findByTypeValue type value =>
    { request := attOpFindByTypeReq, expectedResponse := attOpFindByTypeResp, data,
      handle := endHandle, type := .uuid16 type, value, callback := .onFindByType }
  | .readByGroupType type =>
    { request := attOpReadByGroupReq, expectedResponse := attOpReadByGroupResp, data,
      handle := endHandle, type, value := none, callback := .onReadByGroupType }

theorem requestPdu_length (discovery : Discovery)
    (firstHandle secondHandle startHandle endHandle : UInt16) :
    (discovery.requestPdu firstHandle secondHandle).length =
      (discovery.requestPdu startHandle endHandle).length := by
  simp [requestPdu]

section Takes

variable {connection : Connection} (endHandle : UInt16) (data : Nat)

theorem findInformation_takes
    (fits : (findInformation.requestPdu 1 endHandle).length ≤ connection.getBuffer.length) :
    TakesPages .attributeList (findInformation.readData endHandle data) connection
      AttributeInfo.handle (fun first => findInformation.requestPdu first endHandle)
      (fun list pdu => findInformation.Encodes (.infos list) pdu) := by
  apply findInfo_takes rfl
  intro att start linked
  apply doFindInformation_writes
  rw [linked, requestPdu_length _ _ _ 1 endHandle]
  exact fits

theorem findByTypeValue_takes (type : UInt16) (value : Option (List UInt8))
    (fits : ((findByTypeValue type value).requestPdu 1 endHandle).length ≤
      connection.getBuffer.length) :
    TakesPages .handlesInfoList ((findByTypeValue type value).readData endHandle data) connection
      HandlesInfo.handle (fun first => (findByTypeValue type value).requestPdu first endHandle)
      (fun list pdu => (findByTypeValue type value).Encodes (.handles list) pdu) := by
  apply findByType_takes rfl _ type value
  intro att start linked
  apply doFindByType_writes
  rw [linked, requestPdu_length _ _ _ 1 endHandle]
  exact fits

theorem readByGroup_takes {type : BtUuid} (known : type ≠ .unspec)
    (fits : ((readByGroupType type).requestPdu 1 endHandle).length ≤
      connection.getBuffer.length) :
    TakesPages .groupAttributeList ((readByGroupType type).readData endHandle data) connection
      GroupAttributeData.handle (fun first => (readByGroupType type).requestPdu first endHandle)
      (fun list pdu => (readByGroupType type).Encodes (.groups list) pdu) := by
  apply readByGroupType_takes rfl _ type
  intro att start linked
  apply doReadByGroupType_writes known
  rw [linked, requestPdu_length _ _ _ 1 endHandle]
  exact fits

end Takes

section Serves

variable {server : Server} {database : Database} {room : Nat} (endHandle : UInt16) (data : Nat)

theorem findInformation_serves (conforms : server.Conforms database room .findInformation) :
    Serves server (findInformation.readData endHandle data)
      (fun first => findInformation.requestPdu first endHandle)
      (fun list pdu => findInformation.Encodes (.infos list) pdu) AttributeInfo.Shows
      (database.attributes.filter findInformation.selects) := by
  intro earlier first positive inside
  generalize pdu_is : server earlier (findInformation.requestPdu first endHandle) = pdu
  cases pdu_is ▸ conforms earlier first endHandle positive inside with
  | page page list _ some_page front lists encoded =>
    cases encoded with
    | infos format list uniform =>
      exact .inl ⟨page, list, some_page, front, lists, .infos format list uniform⟩
  | notFound low high nothing => exact .inr ⟨nothing, low, high, rfl⟩

theorem findByTypeValue_serves (type : UInt16) (value : Option (List UInt8))
    (conforms : server.Conforms database room (findByTypeValue type value)) :
    Serves server ((findByTypeValue type value).readData endHandle data)
      (fun first => (findByTypeValue type value).requestPdu first endHandle)
      (fun list pdu => (findByTypeValue type value).Encodes (.handles list) pdu) HandlesInfo.Shows
      (database.attributes.filter (findByTypeValue type value).selects) := by
  intro earlier first positive inside
  generalize pdu_is : server earlier ((findByTypeValue type value).requestPdu first endHandle) = pdu
  cases pdu_is ▸ conforms earlier first endHandle positive inside with
  | page page list _ some_page front lists encoded =>
    cases encoded with
    | handles _ _ list => exact .inl ⟨page, list, some_page, front, lists, .handles type value list⟩
  | notFound low high nothing => exact .inr ⟨nothing, low, high, rfl⟩

theorem readByGroupType_serves (type : BtUuid)
    (conforms : server.Conforms database room (readByGroupType type)) :
    Serves server ((readByGroupType type).readData endHandle data)
      (fun first => (readByGroupType type).requestPdu first endHandle)
      (fun list pdu => (readByGroupType type).Encodes (.groups list) pdu)
      (GroupAttributeData.Shows room)
      (database.attributes.filter (readByGroupType type).selects) := by
  intro earlier first positive inside
  generalize pdu_is : server earlier ((readByGroupType type).requestPdu first endHandle) = pdu
  cases pdu_is ▸ conforms earlier first endHandle positive inside with
  | page page list _ some_page front lists encoded =>
    cases encoded with
    | groups _ length list uniform =>
      exact .inl ⟨page, list, some_page, front, lists, .groups type length list uniform⟩
  | notFound low high nothing => exact .inr ⟨nothing, low, high, rfl⟩

end Serves

theorem call_writes {att : Att} {discovery : Discovery} {startHandle endHandle : UInt16}
    (data : Nat) (idle : att.currentRequest = none)
    (known : ∀ type, discovery = .readByGroupType type → type ≠ .unspec)
    (fits : (discovery.requestPdu startHandle endHandle).length ≤
      att.connection.getBuffer.length) :
    step att (.call (discovery.call startHandle endHandle data)) =
      .ok ({ att with currentRequest := some (discovery.readData endHandle data) },
        [.write (discovery.requestPdu startHandle endHandle)]) := by
  cases discovery with
  | findInformation => exact Att.request_accepted idle (doFindInformation_writes fits)
  | findByTypeValue type value => exact Att.request_accepted idle (doFindByType_writes fits)
  | readByGroupType type =>
    exact Att.request_accepted idle (doReadByGroupType_writes (known type rfl) fits)

theorem collectsFrom_start {α : Type} {accumulator : Accumulator α} {rd : ReadData} {att : Att}
    {shows : α → Attribute → Prop} {items : List Attribute} {startHandle : UInt16}
    (positive : 1 ≤ startHandle) (ordered : startHandle ≤ rd.handle)
    (empty : accumulator.get { att with currentRequest := some rd } = none)
    (found : window Attribute.key startHandle.toNat rd.handle.toNat items ≠ []) :
    CollectsFrom accumulator rd att.connection shows items
      (window Attribute.key startHandle.toNat rd.handle.toNat items) startHandle
      { att with currentRequest := some rd } where
  positive := positive
  inside := ordered
  pending := rfl
  linked := rfl
  covers := ⟨[], by rw [empty]; exact .nil, rfl⟩
  fresh _ := found

end Discovery

theorem EndsWithin.discovered {α : Type} {server : Server} {turns : Nat} {att next : Att}
    {action : Call} {out : List Effect} {accumulator : Accumulator α} {rd : ReadData}
    {shows : α → Attribute → Prop} {all : List Attribute}
    (stepped : step att (.call action) = .ok (next, out))
    (ends : EndsWithin server turns [] next out (HandsOver accumulator rd shows all)) :
    ∃ (last : Att) (requests : List (List UInt8)) (list : List α), last.currentRequest = none ∧
      List.Forall₂ shows list all ∧ ∀ fuel, turns < fuel →
        discover server fuel att action = some (.ok (last, requests.map Effect.write ++
          [.attrListCb rd.data 0 (some (accumulator.list list)) none])) := by
  rcases ends with ⟨requests, _, ⟨last, list, idle, complete, rfl⟩, conversed⟩
  refine ⟨last, requests, list, idle, complete, ?_⟩
  intro fuel enough
  simp only [discover, stepped]
  exact conversed fuel enough

/-- A discovery of something there is, called for on an idle `Att` without lists. -/
theorem discovery_found {att : Att} (collecting : Collecting att) (idle : att.currentRequest = none)
    {database : Database} {room : Nat} {discovery : Discovery} {server : Server}
    (conforms : server.Conforms database room discovery) {startHandle endHandle : UInt16}
    (positive : 1 ≤ startHandle) (ordered : startHandle ≤ endHandle)
    (fits : (discovery.requestPdu startHandle endHandle).length ≤
      att.connection.getBuffer.length)
    (found : database.matching discovery startHandle endHandle ≠ []) (data : Nat) :
    ∃ (last : Att) (requests : List (List UInt8)) (list : AttributeList),
      last.currentRequest = none ∧
      discovery.Lists room list (database.matching discovery startHandle endHandle) ∧
      ∀ fuel, (database.matching discovery startHandle endHandle).length + 1 < fuel →
        discover server fuel att (discovery.call startHandle endHandle data) =
          some (.ok (last, requests.map Effect.write ++ [.attrListCb data 0 (some list) none])) := by
  rcases collecting.idle idle with ⟨infos, handles, groups⟩
  have ascending : Ascending Attribute.key (database.attributes.filter discovery.selects) :=
    database.ascending.sublist List.filter_sublist
  cases discovery with
  | findInformation =>
    have stepped := Discovery.call_writes data idle (by simp) fits
    have ends := converse_collects (Discovery.findInformation_takes endHandle data fits)
      (fun _ _ shown => shown.1) ascending (Discovery.findInformation_serves endHandle data conforms)
      [] (Discovery.collectsFrom_start positive ordered infos found)
      (Nat.lt_succ_self _)
    rcases ends.discovered stepped with ⟨last, requests, list, free, complete, ran⟩
    exact ⟨last, requests, .infos list, free, complete, ran⟩
  | findByTypeValue type value =>
    have stepped := Discovery.call_writes data idle (by simp) fits
    have ends := converse_collects (Discovery.findByTypeValue_takes endHandle data type value fits)
      (fun _ _ shown => shown.1) ascending
      (Discovery.findByTypeValue_serves endHandle data type value conforms)
      [] (Discovery.collectsFrom_start positive ordered handles found)
      (Nat.lt_succ_self _)
    rcases ends.discovered stepped with ⟨last, requests, list, free, complete, ran⟩
    exact ⟨last, requests, .handles list, free, complete, ran⟩
  | readByGroupType type =>
    have known : type ≠ .unspec := by
      intro unspec
      subst unspec
      rcases List.exists_mem_of_ne_nil _ found with ⟨attr, member⟩
      have selected := (List.mem_filter.mp (mem_window.mp member).1).2
      simp [Discovery.selects, BtUuid.denotes] at selected
    have specified : ∀ other, Discovery.readByGroupType type = .readByGroupType other →
        other ≠ .unspec := by
      intro other same
      cases same
      exact known
    have stepped := Discovery.call_writes data idle specified fits
    have ends := converse_collects (Discovery.readByGroup_takes endHandle data known fits)
      (fun _ _ shown => shown.1) ascending
      (Discovery.readByGroupType_serves endHandle data type conforms)
      [] (Discovery.collectsFrom_start positive ordered groups found)
      (Nat.lt_succ_self _)
    rcases ends.discovered stepped with ⟨last, requests, list, free, complete, ran⟩
    exact ⟨last, requests, .groups list, free, complete, ran⟩

/-- Of its three handlers only the one of a search by type tells a range in which nothing matches from
    an empty success. -/
def Discovery.nothingFound : Discovery → Option String
  | .findByTypeValue .. => getErrorString attEcodeAttrNotFound
  | _ => none

theorem discovery_nothing {att : Att} (collecting : Collecting att) (idle : att.currentRequest = none)
    {database : Database} {room : Nat} {discovery : Discovery} {server : Server}
    (conforms : server.Conforms database room discovery) {startHandle endHandle : UInt16}
    (positive : 1 ≤ startHandle) (ordered : startHandle ≤ endHandle)
    (known : ∀ type, discovery = .readByGroupType type → type ≠ .unspec)
    (fits : (discovery.requestPdu startHandle endHandle).length ≤
      att.connection.getBuffer.length)
    (nothing : database.matching discovery startHandle endHandle = []) (data : Nat) :
    ∃ last : Att, last.currentRequest = none ∧ ∀ fuel, 1 < fuel →
      discover server fuel att (discovery.call startHandle endHandle data) =
        some (.ok (last, [.write (discovery.requestPdu startHandle endHandle),
          .attrListCb data 0 none discovery.nothingFound])) := by
  rcases collecting.idle idle with ⟨infos, handles, groups⟩
  have stepped := Discovery.call_writes data idle known fits
  have pending : ({ att with currentRequest := some (discovery.readData endHandle data) } :
      Att).currentRequest = some (discovery.readData endHandle data) := rfl
  have named : (discovery.readData endHandle data).request = discovery.opcode := by
    cases discovery <;> rfl
  generalize reply : server [] (discovery.requestPdu startHandle endHandle) = pdu
  cases reply ▸ conforms [] startHandle endHandle positive ordered with
  | page page list _ some_page front =>
    rw [nothing, List.prefix_nil] at front
    exact absurd front some_page
  | notFound low high _ =>
    rcases step_error_named low high attEcodeAttrNotFound pending with ⟨message, answered⟩
    rw [named] at answered
    have ended : ∃ last : Att, last.currentRequest = none ∧
        step { att with currentRequest := some (discovery.readData endHandle data) }
          (.received [attOpError, discovery.opcode, low, high, attEcodeAttrNotFound]) =
            .ok (last, [.attrListCb data 0 none discovery.nothingFound]) := by
      rw [answered]
      cases discovery with
      | findInformation | readByGroupType =>
        simp only [Att.callbackCurrentRequest, Discovery.readData, Att.handleFindInfo,
          Att.handleReadByGroupType, if_neg notFound_failed, if_true, Att.finish,
          Accumulator.attributeList, Accumulator.groupAttributeList, infos, groups, Option.map_none]
        exact ⟨_, rfl, rfl⟩
      | findByTypeValue =>
        simp only [Att.callbackCurrentRequest, Discovery.readData, Att.handleFindByType,
          if_neg notFound_failed, if_true, handles]
        exact ⟨_, rfl, rfl⟩
    rcases ended with ⟨last, free, finished⟩
    refine ⟨last, free, ?_⟩
    intro fuel enough
    obtain ⟨fewer, rfl⟩ : ∃ fewer, fuel = fewer + 2 := ⟨fuel - 2, by omega⟩
    simp only [discover, stepped, converse, reply, finished, List.nil_append, List.map_cons,
      List.map_nil, List.cons_append]

/-- Discovery is complete: against any server that cuts the matching attributes of a range into
    pages, a discovery called for on an idle `Att` comes to an end, writes nothing but requests
    on the way, and then calls back once, with status 0 and all that matches in handle order. -/
theorem discovery_complete {connection : Connection} {att : Att}
    (reached : Reachable step (Att.new connection) att) (idle : att.currentRequest = none)
    {database : Database} {room : Nat} {discovery : Discovery} {server : Server}
    (conforms : server.Conforms database room discovery) {startHandle endHandle : UInt16}
    (positive : 1 ≤ startHandle) (ordered : startHandle ≤ endHandle)
    (fits : (discovery.requestPdu startHandle endHandle).length ≤
      att.connection.getBuffer.length)
    (found : database.matching discovery startHandle endHandle ≠ []) (data : Nat) :
    ∃ (last : Att) (requests : List (List UInt8)) (list : AttributeList),
      last.currentRequest = none ∧
      discovery.Lists room list (database.matching discovery startHandle endHandle) ∧
      ∀ fuel, (database.matching discovery startHandle endHandle).length + 1 < fuel →
        discover server fuel att (discovery.call startHandle endHandle data) =
          some (.ok (last, requests.map Effect.write ++ [.attrListCb data 0 (some list) none])) :=
  discovery_found (reachable_collecting reached) idle conforms positive ordered fits found data

def twoServices : Database where
  attributes := [⟨0x10, 0x0000280000001000800000805F9B34FB, [0x0F, 0x18], 0x1F⟩,
    ⟨0x20, 0x0000280000001000800000805F9B34FB, [0x0A, 0x18], 0x2F⟩,
    ⟨0x30, 0x0000280000001000800000805F9B34FB, [0x0F, 0x18], 0xFFFF⟩]
  ascending := by simp [Ascending, Attribute.key]

def batteryServices : Discovery := .findByTypeValue 0x2800 (some [0x0F, 0x18])

def oneByOne : Server := fun _ request =>
  let startHandle := ((attGetU16 (some request) 1).toOption).getD 0
  let endHandle := ((attGetU16 (some request) 3).toOption).getD 0
  match twoServices.matching batteryServices startHandle endHandle with
  | [] => [attOpError, batteryServices.opcode, 0, 0, attEcodeAttrNotFound]
  | attr :: _ => attOpFindByTypeResp :: encodeHandles ⟨attr.handle, attr.groupEndHandle⟩

theorem oneByOne_conforms : oneByOne.Conforms twoServices 20 batteryServices := by
  intro earlier startHandle endHandle _ _
  have first : attGetU16 (some (batteryServices.requestPdu startHandle endHandle)) 1 =
      .ok startHandle :=
    attGetU16_laid [attOpFindByTypeReq] (attPutU16 endHandle ++ (attPutU16 0x2800 ++ [0x0F, 0x18])) rfl
      (by simp [batteryServices, Discovery.requestPdu, Discovery.opcode, rangeHeader])
  have second : attGetU16 (some (batteryServices.requestPdu startHandle endHandle)) 3 =
      .ok endHandle :=
    attGetU16_laid ([attOpFindByTypeReq] ++ attPutU16 startHandle) (attPutU16 0x2800 ++ [0x0F, 0x18]) rfl
      (by simp [batteryServices, Discovery.requestPdu, Discovery.opcode, rangeHeader])
  simp only [oneByOne, first, second, Except.toOption, Option.getD_some]
  split
  · rename_i nothing
    exact .notFound 0 0 nothing
  · rename_i attr rest found
    have lists : batteryServices.Lists 20 (.handles [⟨attr.handle, attr.groupEndHandle⟩]) [attr] :=
      .cons ⟨rfl, rfl⟩ .nil
    have encoded := Discovery.Encodes.handles 0x2800 (some [0x0F, 0x18])
      [⟨attr.handle, attr.groupEndHandle⟩]
    simp only [List.flatMap_cons, List.flatMap_nil, List.append_nil] at encoded
    have front : [attr] <+: twoServices.matching batteryServices startHandle endHandle := by
      rw [found]
      exact ⟨rest, rfl⟩
    exact .page [attr] _ _ (by simp) front lists encoded

theorem battery_services_discovered :
    ∃ (last : Att) (requests : List (List UInt8)) (list : AttributeList),
      last.currentRequest = none ∧
      batteryServices.Lists 20 list (twoServices.matching batteryServices 1 0xFFFF) ∧
      ∀ fuel, 3 < fuel →
        discover oneByOne fuel (Att.new leConnection) (batteryServices.call 1 0xFFFF 7) =
          some (.ok (last, requests.map Effect.write ++ [.attrListCb 7 0 (some list) none])) :=
  discovery_complete ⟨[], [], rfl⟩ rfl oneByOne_conforms (by decide) (by decide) (by decide)
    (by decide) 7

end Btle.Client

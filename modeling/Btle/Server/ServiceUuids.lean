import Btle.Server.Advertising

namespace Btle.Server

open Records Utf16

/-- The variables `uuid16` and `uuid128`. -/
structure Separated where
  uuid16 : List Buffer
  uuid128 : List Buffer
  deriving DecidableEq, Repr

def Separated.push (separated : Separated) (uuid : Buffer) : Separated :=
  if uuid.length = 2 then { separated with uuid16 := separated.uuid16 ++ [uuid] }
  else { separated with uuid128 := separated.uuid128 ++ [uuid] }

/-- The loop over `serviceUUIDs`. -/
def separateUUIDs : List Text → Separated → Except JsError Separated
  | [], separated => .ok separated
  | service :: rest, separated =>
    if service = [] then .error (.typeError "Cannot call method 'reverse' of null")
    else do
      let uuid ← hexBuffer (matchPairs service).reverse.flatten
      separateUUIDs rest (separated.push uuid)

/-- What is done with `uuid16` and `uuid128` alike. -/
def addUUIDs (host : Host) (uuids : List Buffer) (width : Nat) (type : UInt8) (encoded : Encoded) :
    Encoded :=
  if 0 < uuids.length then
    let buffer := ((host.newBuffer encoded.buffers.length 2).set 0
      (UInt8.ofNat (uuids.length * width + 1))).set 1 type
    ⟨encoded.length + (uuids.length * width + 2),
      encoded.buffers ++ [host.concat (buffer :: uuids) (uuids.length * width + 2)]⟩
  else encoded

/-- Both names of types are not in the table. -/
def encodeServiceUUIDs (host : Host) (serviceUUIDs : List Text) : Except JsError Encoded := do
  let separated ← separateUUIDs serviceUUIDs ⟨[], []⟩
  let encoded := addUUIDs host separated.uuid16 2
    (advertisingDataType "MORE_16_BIT_SERVICE_UUIDS") ⟨0, []⟩
  return addUUIDs host separated.uuid128 16
    (advertisingDataType "MORE_128_BIT_SERVICE_UUIDS") encoded

def typeofArray : String := "object"

/-- The `service` of the values, where it is an array of strings. -/
def addServices (host : Host) (service : Option (List Text)) (encoded : Encoded) :
    Except JsError Encoded :=
  match service with
  | none => .ok encoded
  | some serviceUUIDs =>
    if typeofArray ≠ "array" then .error (.typeError "Service value must be an array")
    else do
      let ret ← encodeServiceUUIDs host serviceUUIDs
      return ⟨encoded.length + ret.length, encoded.buffers ++ ret.buffers⟩

/-- `encodeAdvData`, for values of which the `service` is told in full. -/
def encodeAdvDataWith (host : Host) (values : AdvValues) (service : Option (List Text))
    (isScanResponse : Bool) : Except JsError Buffer := do
  let encoded ← addFlags host values isScanResponse
  let encoded ← addServices host service encoded
  let encoded := addName host values encoded
  let encoded ← addTxPowerLevel values encoded
  let encoded ← addMfgSpecific host values encoded
  if 31 < encoded.length then throw (.error "Advertising data too long")
  return host.concat encoded.buffers encoded.length

def IsServiceUuid (service : Text) : Prop :=
  Hex.IsDigits service ∧ (service.length = 4 ∨ service.length = 32)

instance (service : Text) : Decidable (IsServiceUuid service) :=
  inferInstanceAs (Decidable (_ ∧ _))

/-- The services of a number of digits, each with its low byte first. -/
def uuidsOf (digits : Nat) (services : List Text) : List Buffer :=
  (services.filter fun service => service.length = digits).map fun service =>
    (hexBytes service).reverse

def listRecord (type : UInt8) (uuids : List Buffer) : List Record :=
  if uuids = [] then [] else [⟨type, uuids.flatten⟩]

def serviceRecords (short long : UInt8) (services : List Text) : List Record :=
  listRecord short (uuidsOf 4 services) ++ listRecord long (uuidsOf 32 services)

def serviceFields (services : List Text) : List Record :=
  serviceRecords (advertisingDataType "MORE_16BIT_SERVICE_UUIDS")
    (advertisingDataType "MORE_128BIT_SERVICE_UUIDS") services

def hasType (name : String) (record : Record) : Bool := record.type = advertisingDataType name

/-- The values are accepted, and what is made of them splits into structures, of which there is one
    with all the short services and one with all the long ones, where there are any. -/
def AdvertisesServices (host : Host) (values : AdvValues) (services : List Text)
    (isScanResponse : Bool) : Prop :=
  ∃ bytes structures, encodeAdvDataWith host values (some services) isScanResponse = .ok bytes ∧
    Splits bytes structures ∧ bytes.length = total structures ∧
      structures.filter (hasType "MORE_16BIT_SERVICE_UUIDS") =
        listRecord (advertisingDataType "MORE_16BIT_SERVICE_UUIDS") (uuidsOf 4 services) ∧
      structures.filter (hasType "MORE_128BIT_SERVICE_UUIDS") =
        listRecord (advertisingDataType "MORE_128BIT_SERVICE_UUIDS") (uuidsOf 32 services)

section Separating

theorem hexBytes_length {hex : Text} (digits : Hex.IsDigits hex) (even : hex.length % 2 = 0) :
    (hexBytes hex).length * 2 = hex.length := by
  obtain ⟨bytes, read, length, _⟩ := hexBuffer_number digits even
  rw [hexBytes, read]
  show bytes.length * 2 = hex.length
  omega

theorem IsServiceUuid.read {service : Text} (formed : IsServiceUuid service) :
    service ≠ [] ∧ hexBuffer (matchPairs service).reverse.flatten = .ok (hexBytes service).reverse ∧
      ((hexBytes service).reverse.length = 2 ↔ service.length = 4) := by
  obtain ⟨digits, length⟩ := formed
  have even : service.length % 2 = 0 := by omega
  have bytes := hexBytes_length digits even
  have some_digits : service ≠ [] := by
    rintro rfl
    simp at length
  refine ⟨some_digits, hexBuffer_matchPairs digits even, ?_⟩
  rw [List.length_reverse]
  omega

/-- Of services that are well formed those with four digits are the short ones, and all others the
    long ones, in the order in which they come. -/
theorem separateUUIDs_run {services : List Text}
    (formed : ∀ service ∈ services, IsServiceUuid service)
    (separated : Separated) :
    separateUUIDs services separated = .ok ⟨separated.uuid16 ++ uuidsOf 4 services,
      separated.uuid128 ++ uuidsOf 32 services⟩ := by
  induction services generalizing separated with
  | nil => simp [separateUUIDs, uuidsOf]
  | cons service services ih =>
    have here := formed service List.mem_cons_self
    have later := ih fun other member => formed other (List.mem_cons_of_mem _ member)
    obtain ⟨some_digits, read, short⟩ := here.read
    rw [separateUUIDs, if_neg some_digits, read]
    show separateUUIDs services (separated.push (hexBytes service).reverse) = _
    rw [later]
    unfold Separated.push uuidsOf
    rcases here.2 with four | long
    · rw [if_pos (short.mpr four)]
      simp [four]
    · have other : ¬ service.length = 4 := by omega
      rw [if_neg fun same => other (short.mp same)]
      simp [long]

theorem uuidsOf_length {digits width : Nat} {services : List Text}
    (formed : ∀ service ∈ services, IsServiceUuid service) (twice : digits = 2 * width) :
    ∀ uuid ∈ uuidsOf digits services, uuid.length = width := by
  intro uuid member
  obtain ⟨service, inside, rfl⟩ := List.mem_map.mp member
  obtain ⟨listed, length⟩ := List.mem_filter.mp inside
  have digits_length : service.length = digits := of_decide_eq_true length
  have bytes := hexBytes_length (formed service listed).1 (by omega)
  rw [List.length_reverse]
  omega

end Separating

section Encoding

variable (host : Host)

theorem flatten_width {width : Nat} {uuids : List Buffer} (wide : ∀ uuid ∈ uuids, uuid.length = width) :
    uuids.flatten.length = uuids.length * width := by
  rw [List.length_flatten, List.map_congr_left wide, List.map_const', List.sum_replicate]
  rfl

/-- The two bytes before the UUIDs and the UUIDs are one structure, and its length is what is
    counted. -/
theorem addUUIDs_run {width : Nat} {uuids : List Buffer} (wide : ∀ uuid ∈ uuids, uuid.length = width)
    (type : UInt8) (records : List Record) :
    addUUIDs host uuids width type (Encoded.of records 0) =
      Encoded.of (records ++ listRecord type uuids) 0 := by
  unfold addUUIDs listRecord
  by_cases none_there : uuids = []
  · subst none_there
    rw [if_neg (by simp), if_pos rfl, List.append_nil]
  · have length := flatten_width wide
    have header (number : Nat) :
        ((host.newBuffer number 2).set 0 (UInt8.ofNat (uuids.length * width + 1))).set 1 type =
          [UInt8.ofNat (uuids.length * width + 1), type] := rfl
    have whole := concat_flatten host ([UInt8.ofNat (uuids.length * width + 1), type] :: uuids)
    rw [List.flatten_cons, List.length_append, length] at whole
    have room : [UInt8.ofNat (uuids.length * width + 1), type].length + uuids.length * width =
        uuids.length * width + 2 := Nat.add_comm _ _
    rw [room] at whole
    have one := push_record records 0 ⟨type, uuids.flatten⟩
    rw [if_pos (List.length_pos_iff.mpr none_there), if_neg none_there, ← one]
    simp only [header, whole]
    unfold Encoded.push Record.encode
    simp only [length, List.length_cons]
    rfl

/-- What is encoded of the services: the right bytes, of the right length, but each under a type that
    is not in the table. -/
theorem encodeServiceUUIDs_run {services : List Text}
    (formed : ∀ service ∈ services, IsServiceUuid service) :
    encodeServiceUUIDs host services = .ok (Encoded.of (serviceRecords 0 0 services) 0) := by
  have short := addUUIDs_run host (uuidsOf_length formed (show 4 = 2 * 2 from rfl)) 0 []
  have long := addUUIDs_run host (uuidsOf_length formed (show 32 = 2 * 16 from rfl)) 0
    ([] ++ listRecord 0 (uuidsOf 4 services))
  unfold encodeServiceUUIDs
  rw [separateUUIDs_run formed]
  show Except.ok (addUUIDs host _ 16 0 (addUUIDs host _ 2 0 (Encoded.of [] 0))) = _
  simp only [List.nil_append] at short long ⊢
  rw [short, long]
  rfl

theorem listRecord_type {type : UInt8} {uuids : List Buffer} :
    ∀ record ∈ listRecord type uuids, record.type = type := by
  intro record member
  unfold listRecord at member
  split at member
  · cases member
  · rw [List.mem_singleton.mp member]

theorem encodeServiceUUIDs_untyped {services : List Text}
    (formed : ∀ service ∈ services, IsServiceUuid service) :
    ∃ records, encodeServiceUUIDs host services = .ok (Encoded.of records 0) ∧
      records.filter (hasType "MORE_16BIT_SERVICE_UUIDS") = [] ∧
        records.filter (hasType "MORE_128BIT_SERVICE_UUIDS") = [] := by
  have untyped : ∀ record ∈ serviceRecords 0 0 services, record.type = 0 := by
    intro record member
    rcases List.mem_append.mp member with short | long
    · exact listRecord_type record short
    · exact listRecord_type record long
  have none_of : ∀ name, advertisingDataType name ≠ 0 →
      (serviceRecords 0 0 services).filter (hasType name) = [] := by
    intro name named
    apply List.filter_eq_nil_iff.mpr
    intro record member typed
    exact named ((of_decide_eq_true typed).symm.trans (untyped record member))
  exact ⟨_, encodeServiceUUIDs_run host formed, none_of _ (by decide), none_of _ (by decide)⟩

theorem encodeAdvDataWith_eq (values : AdvValues) (service : Option (List Text))
    (isScanResponse : Bool) :
    encodeAdvDataWith host values service isScanResponse =
      encodeAdvData host { values with service := service.isSome } isScanResponse := by
  unfold encodeAdvDataWith encodeAdvData
  cases service with
  | none => rfl
  | some services =>
    show _ = (addFlags host values isScanResponse >>= fun _ => _)
    cases addFlags host values isScanResponse <;> rfl

theorem encodeAdvData_service {values : AdvValues} (serves : values.service = true)
    (isScanResponse : Bool) :
    ∃ thrown, encodeAdvData host values isScanResponse = .error thrown := by
  unfold encodeAdvData
  rw [serves]
  cases addFlags host values isScanResponse with
  | error thrown => exact ⟨thrown, rfl⟩
  | ok encoded => exact ⟨_, rfl⟩

theorem encodeAdvDataWith_refused (values : AdvValues) (services : List Text)
    (isScanResponse : Bool) :
    ∃ thrown, encodeAdvDataWith host values (some services) isScanResponse = .error thrown := by
  rw [encodeAdvDataWith_eq]
  apply encodeAdvData_service
  rfl

theorem refused_not_advertised {values : AdvValues} {services : List Text}
    {isScanResponse : Bool}
    (refused : ∃ thrown, encodeAdvDataWith host values (some services) isScanResponse = .error thrown) :
    ¬ AdvertisesServices host values services isScanResponse := by
  rintro ⟨bytes, structures, accepted, _⟩
  obtain ⟨thrown, refused⟩ := refused
  rw [refused] at accepted
  cases accepted

end Encoding

theorem services_never_advertised (host : Host) (values : AdvValues) (services : List Text)
    (isScanResponse : Bool) : ¬ AdvertisesServices host values services isScanResponse := by
  apply refused_not_advertised
  apply encodeAdvDataWith_refused

def flagsOnly : AdvValues where
  flags := some 0x06
  service := true
  completeName := none
  shortName := none
  txPowerLevel := none
  mfgSpecific := none

theorem battery_not_advertised :
    (∀ service ∈ [ofString "180F"], IsServiceUuid service) ∧
      total (flagsOnly.fields ++ serviceFields [ofString "180F"]) = 7 ∧
        ¬ AdvertisesServices plainHost flagsOnly [ofString "180F"] false := by
  refine ⟨by decide, by decide, ?_⟩
  apply refused_not_advertised
  apply encodeAdvDataWith_refused

end Btle.Server

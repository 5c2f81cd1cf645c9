import Btle.Library.Records
import Btle.Library.Utf16
import Btle.Server.Pushes
import Btle.Server.UuidHistories

namespace Btle.Server

open Records Utf16

def advertisingDataTypes : List (String × UInt8) :=
  [("FLAGS", 0x01), ("MORE_16BIT_SERVICE_UUIDS", 0x02), ("COMPLETE_16BIT_SERVICE_UUIDS", 0x03),
    ("MORE_32BIT_SERVICE_UUIDS", 0x04), ("COMPLETE_32BIT_SERVICE_UUIDS", 0x05),
    ("MORE_128BIT_SERVICE_UUIDS", 0x06), ("COMPLETE_128BIT_SERVICE_UUIDS", 0x07),
    ("SHORTENED_LOCAL_NAME", 0x08), ("COMPLETE_LOCAL_NAME", 0x09), ("TX_POWER_LEVEL", 0x0A),
    ("MFG_SPECIFIC_DATA", 0xFF)]

/-- The code of a type, as a byte of a buffer: a name that is not in the table is `undefined`, which
    is stored as 0. -/
def advertisingDataType (name : String) : UInt8 := (advertisingDataTypes.lookup name).getD 0

inductive MfgSpecific
  | string (hex : Text)
  | buffer (bytes : Buffer)
  | object (companyId data : Text)
  deriving DecidableEq, Repr

/-- The `values` to advertise. Of a `service` it is told whether there is one, for its `typeof` is
    never the `'array'` that is asked for. -/
structure AdvValues where
  flags : Option UInt8
  service : Bool
  completeName : Option Utf16.Text
  shortName : Option Utf16.Text
  txPowerLevel : Option Int
  mfgSpecific : Option MfgSpecific
  deriving DecidableEq, Repr

/-- `buffer.write(text, offset)`, which leaves out the characters from the first that does not fit. -/
def Buffer.writeUtf8 (buffer : Buffer) (text : Utf16.Text) (offset : Nat) : Buffer :=
  let bytes := Utf16.fitting (Utf16.characters text) (buffer.length - offset)
  buffer.take offset ++ bytes ++ buffer.drop (offset + bytes.length)

/-- `Buffer.concat(list, length)`. Two buffers or more are copied into a new one of this length; one
    is returned as it is. -/
def Host.concat (host : Host) (list : List Buffer) (length : Nat) : Buffer :=
  match list with
  | [] => []
  | [buffer] => buffer
  | _ => (list.flatten ++ (host.newBuffer list.length length).drop list.flatten.length).take length

def encodeAdvFlags (host : Host) (flags : UInt8) : Buffer :=
  (((host.newBuffer 0 3).set 0 2).set 1 (advertisingDataType "FLAGS")).set 2 flags

def encodeName (host : Host) (number : Nat) (name : Utf16.Text) (type : UInt8) : Buffer :=
  let buffer :=
    ((host.newBuffer number (name.length + 2)).set 0 (UInt8.ofNat (name.length + 1))).set 1 type
  Buffer.writeUtf8 buffer name 2

/-- `companyID.match(/.{1,2}/g)`, which finds nothing in the empty string. -/
def matchPairs : Text → List Text
  | [] => []
  | [last] => [[last]]
  | first :: second :: rest => [first, second] :: matchPairs rest

def encodeMfgSpecific (host : Host) (mfgSpecific : MfgSpecific) : Except JsError Buffer := do
  let buffer ←
    match mfgSpecific with
    | .string hex => hexBuffer hex
    | .buffer bytes => pure bytes
    | .object companyId data =>
      if companyId = [] then throw (.typeError "Cannot call method 'reverse' of null")
      else
        let company ← hexBuffer (matchPairs companyId).reverse.flatten
        let rest ← hexBuffer data
        pure (host.concat [company, rest] (company.length + rest.length))
  return host.concat
    [[UInt8.ofNat (buffer.length + 1), advertisingDataType "MFG_SPECIFIC_DATA"], buffer]
      (buffer.length + 2)

/-- The variables `length` and `buffers`. -/
structure Encoded where
  length : Nat
  buffers : List Buffer

def Encoded.push (encoded : Encoded) (buffer : Buffer) : Encoded :=
  ⟨encoded.length + buffer.length, encoded.buffers ++ [buffer]⟩

def addFlags (host : Host) (values : AdvValues) (isScanResponse : Bool) : Except JsError Encoded :=
  if isScanResponse then .ok ⟨0, []⟩
  else
    match values.flags with
    | some flags => .ok (Encoded.push ⟨0, []⟩ (encodeAdvFlags host flags))
    | none => .error (.typeError "Must specify flags in advertisement data")

def addName (host : Host) (values : AdvValues) (encoded : Encoded) : Encoded :=
  match values.completeName with
  | some name =>
    encoded.push (encodeName host encoded.buffers.length name
      (advertisingDataType "COMPLETE_LOCAL_NAME"))
  | none =>
    match values.shortName with
    | some name =>
      encoded.push (encodeName host encoded.buffers.length name
        (advertisingDataType "SHORT_LOCAL_NAME"))
    | none => encoded

/-- The buffer that is made for the power level is never pushed. -/
def addTxPowerLevel (values : AdvValues) (encoded : Encoded) : Except JsError Encoded :=
  match values.txPowerLevel with
  | none => .ok encoded
  | some level =>
    if 127 < level ∨ level < -127 then
      .error (.typeError "txPowerLevel value must be between -127 and 127")
    else .ok { encoded with length := encoded.length + 3 }

def addMfgSpecific (host : Host) (values : AdvValues) (encoded : Encoded) : Except JsError Encoded :=
  match values.mfgSpecific with
  | none => .ok encoded
  | some mfgSpecific => do return encoded.push (← encodeMfgSpecific host mfgSpecific)

def encodeAdvData (host : Host) (values : AdvValues) (isScanResponse : Bool) :
    Except JsError Buffer := do
  let encoded ← addFlags host values isScanResponse
  if values.service then throw (.typeError "Service value must be an array")
  let encoded := addName host values encoded
  let encoded ← addTxPowerLevel values encoded
  let encoded ← addMfgSpecific host values encoded
  if 31 < encoded.length then throw (.error "Advertising data too long")
  return host.concat encoded.buffers encoded.length

/-- The bytes that a hex string is for. -/
def hexBytes (hex : Text) : Buffer := (hexBuffer hex).toOption.getD []

/-- What is to be told of a manufacturer: a company identifier goes with its low byte first. -/
def MfgSpecific.payload : MfgSpecific → Buffer
  | .string hex => hexBytes hex
  | .buffer bytes => bytes
  | .object companyId data => (hexBytes companyId).reverse ++ hexBytes data

/-- A structure for each field that is given, with the code of its type. -/
def AdvValues.fields (values : AdvValues) : List Record :=
  (values.flags.map fun flags => ⟨advertisingDataType "FLAGS", [flags]⟩).toList ++
    (values.completeName.map fun name =>
      ⟨advertisingDataType "COMPLETE_LOCAL_NAME", Utf16.utf8 name⟩).toList ++
    (values.shortName.map fun name =>
      ⟨advertisingDataType "SHORTENED_LOCAL_NAME", Utf16.utf8 name⟩).toList ++
    (values.txPowerLevel.map fun level =>
      ⟨advertisingDataType "TX_POWER_LEVEL", [UInt8.ofInt level]⟩).toList ++
    (values.mfgSpecific.map fun mfgSpecific =>
      ⟨advertisingDataType "MFG_SPECIFIC_DATA", mfgSpecific.payload⟩).toList

def MfgSpecific.WellTyped : MfgSpecific → Prop
  | .string hex => Hex.IsDigits hex ∧ hex.length % 2 = 0
  | .buffer _ => True
  | .object companyId data =>
    (Hex.IsDigits companyId ∧ companyId.length % 2 = 0) ∧ Hex.IsDigits data ∧ data.length % 2 = 0

structure AdvValues.WellTyped (values : AdvValues) : Prop where
  service : values.service = false
  level : ∀ level, values.txPowerLevel = some level → -127 ≤ level ∧ level ≤ 127
  mfgSpecific : ∀ mfgSpecific, values.mfgSpecific = some mfgSpecific → mfgSpecific.WellTyped

def AdvValues.MissesFlags (values : AdvValues) (isScanResponse : Bool) : Prop :=
  isScanResponse = false ∧ values.flags = none

/-- What is advertised splits into the given fields, whatever new buffers hold, and it is refused
    exactly if it is too long or has no flags. -/
def AdvertisesWell (values : AdvValues) (isScanResponse : Bool) : Prop :=
  ∀ host,
    (total values.fields ≤ 31 → ¬ values.MissesFlags isScanResponse →
      ∃ bytes structures, encodeAdvData host values isScanResponse = .ok bytes ∧
        Splits bytes structures ∧ structures.Perm values.fields) ∧
    ((∃ thrown, encodeAdvData host values isScanResponse = .error thrown) ↔
      31 < total values.fields ∨ values.MissesFlags isScanResponse)

/-- What is counted for a name that is given: its units, not its bytes. -/
def AdvValues.nameRoom (values : AdvValues) : Nat :=
  match values.completeName.or values.shortName with
  | some name => name.length + 2
  | none => 0

/-- What is added up of all that is given. -/
def AdvValues.room (values : AdvValues) (isScanResponse : Bool) : Nat :=
  (if isScanResponse = false ∧ values.flags.isSome then 3 else 0) + values.nameRoom +
    (if values.txPowerLevel.isSome then 3 else 0) +
      (values.mfgSpecific.map fun mfgSpecific => mfgSpecific.payload.length + 2).getD 0

def AdvValues.NamesNoCompany (values : AdvValues) : Prop :=
  ∃ data, values.mfgSpecific = some (.object [] data)

/-- Nothing is given of what is lost, cut off or has a wrong type, and no flags with a scan
    response. -/
structure AdvValues.Faultless (values : AdvValues) (isScanResponse : Bool) : Prop where
  level : values.txPowerLevel = none
  shortName : values.shortName = none
  ascii : ∀ name, values.completeName = some name → Utf16.IsAscii name
  flags : isScanResponse = true → values.flags = none
  company : ¬ values.NamesNoCompany

section Buffers

variable (host : Host)

theorem hexBuffer_append : ∀ {first second : Text} {bytes more : Buffer},
    hexBuffer first = .ok bytes → hexBuffer second = .ok more →
      hexBuffer (first ++ second) = .ok (bytes ++ more)
  | [], second, bytes, more, read, read_more => by
    cases read
    exact read_more
  | [_], _, _, _, read, _ => by cases read
  | high :: low :: rest, second, bytes, more, read, read_more => by
    unfold hexBuffer at read
    cases first : Hex.digit? high with
    | none => simp [first] at read
    | some upper =>
      cases second_digit : Hex.digit? low with
      | none => simp [first, second_digit] at read
      | some lower =>
        cases read_rest : hexBuffer rest with
        | error thrown => simp [first, second_digit, read_rest, bind, Except.bind] at read
        | ok tail =>
          simp only [first, second_digit, read_rest, bind, Except.bind, pure, Except.pure,
            Except.ok.injEq] at read
          subst read
          have whole : hexBuffer (rest ++ second) = .ok (tail ++ more) :=
            hexBuffer_append read_rest read_more
          simp only [List.cons_append, hexBuffer, first, second_digit, whole, bind, Except.bind, pure,
            Except.pure]

theorem hexBuffer_hexBytes {hex : Text} (digits : Hex.IsDigits hex) (even : hex.length % 2 = 0) :
    hexBuffer hex = .ok (hexBytes hex) := by
  rcases hexBuffer_number digits even with ⟨bytes, read, _⟩
  rw [hexBytes, read]
  rfl

/-- To turn the pairs of digits around is to turn the bytes around. -/
theorem hexBuffer_matchPairs : ∀ {hex : Text}, Hex.IsDigits hex → hex.length % 2 = 0 →
    hexBuffer (matchPairs hex).reverse.flatten = .ok (hexBytes hex).reverse
  | [], _, _ => rfl
  | [_], _, even => by simp at even
  | high :: low :: rest, digits, even => by
    have rest_digits : Hex.IsDigits rest := fun c member => digits c (by simp [member])
    have rest_even : rest.length % 2 = 0 := by
      simp at even
      omega
    have pair_digits : Hex.IsDigits [high, low] := by
      intro c member
      apply digits c
      simp only [List.mem_cons, List.not_mem_nil, or_false] at member
      rcases member with rfl | rfl <;> simp
    have pair := hexBuffer_hexBytes pair_digits (by simp)
    have one : (hexBytes [high, low]).reverse = hexBytes [high, low] := by
      rcases hexBuffer_number pair_digits (by simp) with ⟨bytes, read, length, _⟩
      have single : bytes.length = 1 := by
        simp at length
        omega
      rw [hexBytes, read]
      rcases List.length_eq_one_iff.mp single with ⟨byte, rfl⟩
      rfl
    have whole := hexBuffer_append pair (hexBuffer_hexBytes rest_digits rest_even)
    have all : hexBytes (high :: low :: rest) = hexBytes [high, low] ++ hexBytes rest := by
      have read := hexBuffer_hexBytes digits even
      exact Except.ok.inj (read.symm.trans whole)
    rw [matchPairs, List.reverse_cons, List.flatten_append, all, List.reverse_append, one]
    exact hexBuffer_append (hexBuffer_matchPairs rest_digits rest_even) (by simpa using pair)

theorem concat_flatten (list : List Buffer) :
    host.concat list list.flatten.length = list.flatten := by
  rcases list with _ | ⟨first, _ | ⟨second, list⟩⟩
  · rfl
  · rw [List.flatten_singleton]
    rfl
  · have nothing : (host.newBuffer (first :: second :: list).length
        (first :: second :: list).flatten.length).drop (first :: second :: list).flatten.length = [] := by
      apply List.drop_eq_nil_of_le
      rw [newBuffer_length]
    show ((first :: second :: list).flatten ++ _).take _ = _
    rw [nothing, List.append_nil, List.take_length]

theorem concat_two (first second : Buffer) :
    host.concat [first, second] (first.length + second.length) = first ++ second := by
  have both : ([first, second] : List Buffer).flatten = first ++ second := by
    rw [List.flatten_cons, List.flatten_singleton]
  have whole := concat_flatten host [first, second]
  rw [both, List.length_append] at whole
  exact whole

/-- What there is behind the header of a name: its characters as far as they fit, and then whatever
    was there. -/
def namePayload (number : Nat) (name : Utf16.Text) : Buffer :=
  let bytes := Utf16.fitting (Utf16.characters name) name.length
  bytes ++ (host.newBuffer number (name.length + 2)).drop (2 + bytes.length)

theorem namePayload_length (number : Nat) (name : Utf16.Text) :
    (namePayload host number name).length = name.length := by
  have bound := Utf16.fitting_length (Utf16.characters name) name.length
  simp only [namePayload, List.length_append, List.length_drop, newBuffer_length]
  omega

theorem namePayload_ascii (number : Nat) {name : Utf16.Text} (ascii : Utf16.IsAscii name) :
    namePayload host number name = Utf16.utf8 name := by
  have length := Utf16.utf8_length_ascii ascii
  have whole : Utf16.fitting (Utf16.characters name) name.length = Utf16.utf8 name :=
    Utf16.fitting_all (Nat.le_of_eq length)
  have nothing :
      (host.newBuffer number (name.length + 2)).drop (2 + (Utf16.utf8 name).length) = [] := by
    apply List.drop_eq_nil_of_le
    rw [newBuffer_length, length]
    omega
  simp only [namePayload, whole, nothing, List.append_nil]

theorem encodeName_record (number : Nat) (name : Utf16.Text) (type : UInt8) :
    encodeName host number name type = (⟨type, namePayload host number name⟩ : Record).encode := by
  have made : ∃ first second rest,
      host.newBuffer number (name.length + 2) = first :: second :: rest := by
    refine ⟨host.garbage number 0, host.garbage number 1,
      (List.range name.length).map fun i => host.garbage number (i + 2), ?_⟩
    rw [Host.newBuffer, List.range_succ_eq_map, List.range_succ_eq_map]
    simp [Function.comp_def]
  rcases made with ⟨first, second, rest, made⟩
  have size := newBuffer_length host number (name.length + 2)
  rw [made] at size
  have room : rest.length = name.length := by simpa using size
  unfold encodeName Buffer.writeUtf8 Record.encode
  dsimp only
  rw [namePayload_length, namePayload, made]
  have left : name.length + 1 + 1 - 2 = name.length := by omega
  simp only [List.set_cons_zero, List.set_cons_succ, List.length_cons, room, left, List.take_succ_cons,
    List.take_zero, Nat.add_comm 2, List.drop_succ_cons, List.cons_append, List.nil_append]

theorem encodeMfgSpecific_record {mfgSpecific : MfgSpecific} (typed : mfgSpecific.WellTyped)
    (company : ∀ data, mfgSpecific ≠ .object [] data) :
    encodeMfgSpecific host mfgSpecific =
      .ok (⟨advertisingDataType "MFG_SPECIFIC_DATA", mfgSpecific.payload⟩ : Record).encode := by
  have framed : ∀ buffer : Buffer, host.concat
      [[UInt8.ofNat (buffer.length + 1), advertisingDataType "MFG_SPECIFIC_DATA"], buffer]
        (buffer.length + 2) =
      (⟨advertisingDataType "MFG_SPECIFIC_DATA", buffer⟩ : Record).encode := by
    intro buffer
    have two := concat_two host
      [UInt8.ofNat (buffer.length + 1), advertisingDataType "MFG_SPECIFIC_DATA"] buffer
    rw [Nat.add_comm buffer.length 2]
    exact two
  unfold encodeMfgSpecific
  cases mfgSpecific with
  | string hex =>
    have read := hexBuffer_hexBytes typed.1 typed.2
    simp only [read, bind, Except.bind, framed, MfgSpecific.payload]
    rfl
  | buffer bytes =>
    simp only [bind, Except.bind, pure, Except.pure, framed, MfgSpecific.payload]
  | object companyId data =>
    have some_company : ¬ companyId = [] := by
      rintro rfl
      exact company data rfl
    have turned := hexBuffer_matchPairs typed.1.1 typed.1.2
    have read := hexBuffer_hexBytes typed.2.1 typed.2.2
    simp only [if_neg some_company, turned, read, bind, Except.bind, pure, Except.pure, concat_two,
      framed, MfgSpecific.payload]

end Buffers

section Written

variable (host : Host) (values : AdvValues) (isScanResponse : Bool)

def writtenFlags : List Record :=
  if isScanResponse then []
  else (values.flags.map fun flags => ⟨advertisingDataType "FLAGS", [flags]⟩).toList

def writtenName (number : Nat) : List Record :=
  match values.completeName with
  | some name => [⟨advertisingDataType "COMPLETE_LOCAL_NAME", namePayload host number name⟩]
  | none =>
    match values.shortName with
    | some name => [⟨advertisingDataType "SHORT_LOCAL_NAME", namePayload host number name⟩]
    | none => []

def writtenMfgSpecific : List Record :=
  (values.mfgSpecific.map fun mfgSpecific =>
    ⟨advertisingDataType "MFG_SPECIFIC_DATA", mfgSpecific.payload⟩).toList

/-- The structures of which the buffers are pushed. -/
def writtenAll : List Record :=
  writtenFlags values isScanResponse ++
    writtenName host values (writtenFlags values isScanResponse).length ++ writtenMfgSpecific values

def Encoded.of (records : List Record) (more : Nat) : Encoded :=
  ⟨total records + more, records.map Record.encode⟩

theorem total_append (records others : List Record) :
    total (records ++ others) = total records + total others := by
  unfold total
  rw [List.map_append, List.sum_append]

theorem push_record (records : List Record) (more : Nat) (record : Record) :
    (Encoded.of records more).push record.encode = Encoded.of (records ++ [record]) more := by
  unfold Encoded.push Encoded.of
  rw [total_append, List.map_append, encode_length]
  have one : total [record] = record.payload.length + 2 := by simp [total]
  rw [one, Nat.add_right_comm]
  rfl

variable {values isScanResponse}

theorem addFlags_run (flagged : ¬ values.MissesFlags isScanResponse) :
    addFlags host values isScanResponse = .ok (Encoded.of (writtenFlags values isScanResponse) 0) := by
  unfold addFlags writtenFlags
  cases isScanResponse with
  | true => rfl
  | false =>
    cases given : values.flags with
    | none => exact absurd ⟨rfl, given⟩ flagged
    | some flags => rfl

theorem addFlags_missing (missing : values.MissesFlags isScanResponse) :
    addFlags host values isScanResponse =
      .error (.typeError "Must specify flags in advertisement data") := by
  rcases missing with ⟨rfl, none_given⟩
  simp only [addFlags, none_given, Bool.false_eq_true, if_false]

theorem addName_run (values : AdvValues) (records : List Record) (more : Nat) :
    addName host values (Encoded.of records more) =
      Encoded.of (records ++ writtenName host values records.length) more := by
  have pushed : (Encoded.of records more).buffers.length = records.length := List.length_map _
  unfold addName writtenName
  rw [pushed]
  cases values.completeName with
  | some name =>
    dsimp only
    rw [encodeName_record, push_record]
  | none =>
    cases values.shortName with
    | some name =>
      dsimp only
      rw [encodeName_record, push_record]
    | none =>
      dsimp only
      rw [List.append_nil]

theorem addTxPowerLevel_run (typed : values.WellTyped) (records : List Record) :
    addTxPowerLevel values (Encoded.of records 0) =
      .ok (Encoded.of records (if values.txPowerLevel.isSome then 3 else 0)) := by
  unfold addTxPowerLevel
  cases given : values.txPowerLevel with
  | none => rfl
  | some level =>
    have range := typed.level level given
    have inside : ¬ (127 < level ∨ level < -127) := by omega
    simp only [if_neg inside]
    rfl

theorem addMfgSpecific_run (typed : values.WellTyped) (company : ¬ values.NamesNoCompany)
    (records : List Record) (more : Nat) :
    addMfgSpecific host values (Encoded.of records more) =
      .ok (Encoded.of (records ++ writtenMfgSpecific values) more) := by
  unfold addMfgSpecific writtenMfgSpecific
  cases given : values.mfgSpecific with
  | none =>
    dsimp only
    rw [Option.map_none, Option.toList_none, List.append_nil]
  | some mfgSpecific =>
    have encoded := encodeMfgSpecific_record host (typed.mfgSpecific mfgSpecific given)
      fun data same => company ⟨data, given.trans (congrArg some same)⟩
    simp only [encoded, bind, Except.bind, pure, Except.pure, push_record, Option.map_some,
      Option.toList_some]

theorem room_eq (flagged : ¬ values.MissesFlags isScanResponse) :
    values.room isScanResponse = total (writtenAll host values isScanResponse) +
      if values.txPowerLevel.isSome then 3 else 0 := by
  have flags : total (writtenFlags values isScanResponse) =
      if isScanResponse = false ∧ values.flags.isSome then 3 else 0 := by
    unfold writtenFlags
    cases isScanResponse with
    | true => rfl
    | false =>
      cases given : values.flags with
      | none => exact absurd ⟨rfl, given⟩ flagged
      | some flags => rfl
  have name (number : Nat) : total (writtenName host values number) = values.nameRoom := by
    unfold writtenName AdvValues.nameRoom
    cases values.completeName with
    | some name => simp [total, namePayload_length]
    | none =>
      cases values.shortName with
      | some name => simp [total, namePayload_length]
      | none => rfl
  have mfgSpecific : total (writtenMfgSpecific values) =
      (values.mfgSpecific.map fun mfgSpecific => mfgSpecific.payload.length + 2).getD 0 := by
    unfold writtenMfgSpecific
    cases values.mfgSpecific with
    | none => rfl
    | some mfgSpecific => simp [total]
  rw [AdvValues.room, writtenAll, total_append, total_append, flags, name, mfgSpecific]
  omega

theorem encodeAdvData_run (typed : values.WellTyped) (flagged : ¬ values.MissesFlags isScanResponse)
    (company : ¬ values.NamesNoCompany) :
    encodeAdvData host values isScanResponse =
      if 31 < values.room isScanResponse then .error (.error "Advertising data too long")
      else .ok (host.concat ((writtenAll host values isScanResponse).map Record.encode)
        (values.room isScanResponse)) := by
  unfold encodeAdvData
  rw [addFlags_run host flagged, typed.service]
  simp only [bind, Except.bind, Bool.false_eq_true, if_false, pure, Except.pure, addName_run,
    addTxPowerLevel_run typed, addMfgSpecific_run host typed company]
  rw [room_eq host flagged]
  show (if 31 < total (writtenAll host values isScanResponse) + _ then _ else _) = _
  split <;> rfl

theorem encodeAdvData_missing (missing : values.MissesFlags isScanResponse) :
    ∃ thrown, encodeAdvData host values isScanResponse = .error thrown := by
  unfold encodeAdvData
  rw [addFlags_missing host missing]
  exact ⟨_, rfl⟩

theorem encodeAdvData_nobody (typed : values.WellTyped) (flagged : ¬ values.MissesFlags isScanResponse)
    (nobody : values.NamesNoCompany) :
    ∃ thrown, encodeAdvData host values isScanResponse = .error thrown := by
  rcases nobody with ⟨data, given⟩
  unfold encodeAdvData
  rw [addFlags_run host flagged, typed.service]
  simp only [bind, Except.bind, Bool.false_eq_true, if_false, pure, Except.pure, addName_run,
    addTxPowerLevel_run typed, addMfgSpecific, given]
  exact ⟨_, rfl⟩

/-- With two buffers or more what is counted too much is left as it was in a new buffer; otherwise
    there is just what was pushed. -/
theorem concat_written (records : List Record) (more : Nat) :
    host.concat (records.map Record.encode) (total records + more) =
      encodeAll records ++ if 2 ≤ records.length then
        (host.newBuffer records.length (total records + more)).drop (total records) else [] := by
  rcases records with _ | ⟨first, _ | ⟨second, records⟩⟩
  · rfl
  · show first.encode = _
    simp
  · have flat : ((first :: second :: records).map Record.encode).flatten =
        encodeAll (first :: second :: records) := List.flatten_eq_flatMap.trans (by
      rw [List.flatMap_map]
      rfl)
    have two : 2 ≤ (first :: second :: records).length := by simp
    rw [if_pos two]
    show (((first :: second :: records).map Record.encode).flatten ++ _).take _ = _
    rw [flat, List.length_map, encodeAll_length]
    apply List.take_of_length_le
    rw [List.length_append, List.length_drop, newBuffer_length, encodeAll_length]
    omega

end Written

section Fields

variable {values : AdvValues} {isScanResponse : Bool}

theorem fields_total (values : AdvValues) :
    total values.fields = (if values.flags.isSome then 3 else 0) +
      (values.completeName.map fun name => (Utf16.utf8 name).length + 2).getD 0 +
      (values.shortName.map fun name => (Utf16.utf8 name).length + 2).getD 0 +
      (if values.txPowerLevel.isSome then 3 else 0) +
      (values.mfgSpecific.map fun mfgSpecific => mfgSpecific.payload.length + 2).getD 0 := by
  have one : ∀ {Given : Type} (given : Option Given) (type : UInt8) (payload : Given → Buffer),
      total (given.map fun found => Record.mk type (payload found)).toList =
        (given.map fun found => (payload found).length + 2).getD 0 := by
    intro Given given type payload
    cases given with
    | none => rfl
    | some found => simp [total]
  have byte : ∀ {Given : Type} (given : Option Given),
      (given.map fun _ => 1 + 2).getD 0 = if given.isSome then 3 else 0 := by
    intro Given given
    cases given <;> rfl
  unfold AdvValues.fields
  simp only [total_append, one, List.length_cons, List.length_nil, Nat.zero_add, byte]

theorem fields_type : ∀ record ∈ values.fields, record.type ≠ 0 := by
  have one : ∀ {Given : Type} {given : Option Given} {type : UInt8} {payload : Given → Buffer},
      type ≠ 0 → ∀ record ∈ (given.map fun found => Record.mk type (payload found)).toList,
        record.type ≠ 0 := by
    intro Given given type payload nonzero record member
    cases given with
    | none => cases member
    | some found =>
      rw [List.mem_singleton.mp member]
      exact nonzero
  intro record member
  simp only [AdvValues.fields, List.mem_append] at member
  rcases member with (((member | member) | member) | member) | member
  · exact one (by decide) record member
  · exact one (by decide) record member
  · exact one (by decide) record member
  · exact one (by decide) record member
  · exact one (by decide) record member

/-- No more is counted than the fields take, and as much only if all of them are written. -/
theorem room_le (values : AdvValues) (isScanResponse : Bool) :
    values.room isScanResponse ≤ total values.fields ∧
      (total values.fields ≤ values.room isScanResponse →
        (isScanResponse = true → values.flags = none) ∧
          ∀ name, values.completeName = some name → Utf16.IsAscii name ∧ values.shortName = none) := by
  have flags : (if isScanResponse = false ∧ values.flags.isSome then 3 else 0) ≤
        (if values.flags.isSome then 3 else 0) ∧
      ((if values.flags.isSome then 3 else 0) ≤
        (if isScanResponse = false ∧ values.flags.isSome then 3 else 0) →
          isScanResponse = true → values.flags = none) := by
    cases isScanResponse <;> cases values.flags <;> simp
  have names : values.nameRoom ≤
        (values.completeName.map fun name => (Utf16.utf8 name).length + 2).getD 0 +
          (values.shortName.map fun name => (Utf16.utf8 name).length + 2).getD 0 ∧
      ((values.completeName.map fun name => (Utf16.utf8 name).length + 2).getD 0 +
          (values.shortName.map fun name => (Utf16.utf8 name).length + 2).getD 0 ≤ values.nameRoom →
        ∀ name, values.completeName = some name → Utf16.IsAscii name ∧ values.shortName = none) := by
    unfold AdvValues.nameRoom
    cases values.completeName with
    | none =>
      cases values.shortName with
      | none => simp
      | some name =>
        have bytes := (Utf16.utf8_length name).1
        simp only [Option.none_or, Option.map_none, Option.getD_none, Option.map_some,
          Option.getD_some, Nat.zero_add]
        exact ⟨by omega, fun _ _ => nofun⟩
    | some name =>
      rcases Utf16.utf8_length name with ⟨bytes, more⟩
      simp only [Option.some_or, Option.map_some, Option.getD_some, Option.some.injEq,
        forall_eq']
      refine ⟨by omega, fun few => ⟨?_, ?_⟩⟩
      · by_contra other
        have longer := more other
        omega
      · cases short : values.shortName with
        | none => rfl
        | some other =>
          rw [short, Option.map_some, Option.getD_some] at few
          omega
  rw [fields_total, AdvValues.room]
  exact ⟨by omega, fun few => ⟨flags.2 (by omega), names.2 (by omega)⟩⟩

theorem plain_rest (number length more : Nat) :
    (plainHost.newBuffer number (length + more)).drop length = List.replicate more 0 := by
  have zeros : plainHost.newBuffer number (length + more) = List.replicate (length + more) 0 := by
    apply List.eq_replicate_iff.mpr
    refine ⟨newBuffer_length _ _ _, fun byte member => ?_⟩
    rcases List.mem_map.mp member with ⟨_, _, same⟩
    exact same.symm
  rw [zeros, List.drop_replicate, Nat.add_sub_cancel_left]

/-- If what is written splits into the given fields, nothing was given that is lost or mistaken. -/
theorem faultless_of_splits (flagged : ¬ values.MissesFlags isScanResponse)
    (company : ¬ values.NamesNoCompany) (small : values.room isScanResponse ≤ 31)
    {structures : List Record} (perm : structures.Perm values.fields)
    (splits : Splits (plainHost.concat ((writtenAll plainHost values isScanResponse).map Record.encode)
      (values.room isScanResponse)) structures) : values.Faultless isScanResponse := by
  rcases room_le values isScanResponse with ⟨fewer, all⟩
  have room := room_eq plainHost flagged
  rw [room, concat_written, plain_rest] at splits
  generalize writtenAll_eq : writtenAll plainHost values isScanResponse = written at splits room
  generalize more_eq : (if values.txPowerLevel.isSome then 3 else 0) = more at splits room
  have length := congrArg List.length splits.1
  rw [encodeAll_length, total_perm perm, List.length_append, encodeAll_length] at length
  have written_fit : ∀ record ∈ written, record.Fits := by
    apply fits_of_total (show 31 < 256 by decide)
    omega
  have level : values.txPowerLevel = none := by
    cases given : values.txPowerLevel with
    | none => rfl
    | some level =>
      rw [given, Option.isSome_some, if_pos rfl] at more_eq
      subst more_eq
      by_cases two : 2 ≤ written.length
      · rw [if_pos two] at splits
        rcases splits_append written_fit splits with ⟨_, _, rest⟩
        exact absurd rest not_splits_zero
      · rw [if_neg two, List.length_nil] at length
        omega
  rw [level, Option.isSome_none, if_neg Bool.false_ne_true] at more_eq
  subst more_eq
  rw [List.replicate_zero, ite_self, List.append_nil] at splits
  rw [List.replicate_zero, ite_self, List.length_nil] at length
  have same : structures = written := splits_unique written_fit splits
  rcases all (by omega) with ⟨flags, names⟩
  refine ⟨level, ?_, fun name given => (names name given).1, flags, company⟩
  cases short : values.shortName with
  | none => rfl
  | some name =>
    have alone : values.completeName = none := by
      cases given : values.completeName with
      | none => rfl
      | some other => exact absurd ((names other given).2.symm.trans short) (by simp)
    have nameless : Record.mk (advertisingDataType "SHORT_LOCAL_NAME")
        (namePayload plainHost (writtenFlags values isScanResponse).length name) ∈ values.fields := by
      rw [← perm.mem_iff, same, ← writtenAll_eq, writtenAll, writtenName, alone, short]
      simp
    exact absurd rfl (fields_type _ nameless)

theorem faultless_written (host : Host) (faultless : values.Faultless isScanResponse) :
    writtenAll host values isScanResponse = values.fields := by
  have flags : writtenFlags values isScanResponse =
      (values.flags.map fun flags => Record.mk (advertisingDataType "FLAGS") [flags]).toList := by
    unfold writtenFlags
    cases scan : isScanResponse with
    | true =>
      rw [faultless.flags scan]
      rfl
    | false => rfl
  have name (number : Nat) : writtenName host values number = (values.completeName.map fun name =>
      Record.mk (advertisingDataType "COMPLETE_LOCAL_NAME") (Utf16.utf8 name)).toList := by
    unfold writtenName
    cases given : values.completeName with
    | none =>
      rw [faultless.shortName]
      rfl
    | some name =>
      dsimp only
      rw [namePayload_ascii host number (faultless.ascii name given)]
      rfl
  rw [writtenAll, AdvValues.fields, flags, name, faultless.shortName, faultless.level]
  simp only [Option.map_none, Option.toList_none, List.append_nil]
  rfl

theorem faultless_room (flagged : ¬ values.MissesFlags isScanResponse)
    (faultless : values.Faultless isScanResponse) : values.room isScanResponse = total values.fields := by
  rw [room_eq plainHost flagged, faultless_written plainHost faultless, faultless.level]
  rfl

theorem faultless_encoded (host : Host) (typed : values.WellTyped)
    (flagged : ¬ values.MissesFlags isScanResponse) (company : ¬ values.NamesNoCompany)
    (fits : ¬ 31 < values.room isScanResponse) (faultless : values.Faultless isScanResponse) :
    encodeAdvData host values isScanResponse = .ok (encodeAll values.fields) := by
  have room := faultless_room flagged faultless
  have written := concat_written host values.fields 0
  rw [Nat.add_zero, ← room] at written
  have nothing : (host.newBuffer values.fields.length (total values.fields)).drop
      (total values.fields) = [] := by
    apply List.drop_eq_nil_of_le
    rw [newBuffer_length]
  rw [encodeAdvData_run host typed flagged company, if_neg fits, faultless_written host faultless,
    written, room, nothing, ite_self, List.append_nil]

end Fields

/-- What is advertised is encoded as it should be exactly if nothing is given that the encoder
    mistakes, or if it is refused anyway. -/
theorem advertises_well_iff (values : AdvValues) (typed : values.WellTyped) (isScanResponse : Bool) :
    AdvertisesWell values isScanResponse ↔
      values.MissesFlags isScanResponse ∨ 31 < values.room isScanResponse ∨
        (values.NamesNoCompany ∧ 31 < total values.fields) ∨ values.Faultless isScanResponse := by
  rcases room_le values isScanResponse with ⟨fewer, all⟩
  by_cases missing : values.MissesFlags isScanResponse
  · apply iff_of_true ?_ (.inl missing)
    intro host
    exact ⟨fun _ flagged => absurd missing flagged,
      iff_of_true (encodeAdvData_missing host missing) (.inr missing)⟩
  by_cases nobody : values.NamesNoCompany
  · have refused := fun host => encodeAdvData_nobody host typed missing nobody
    constructor
    · intro well
      have long := ((well plainHost).2.mp (refused plainHost)).resolve_right missing
      exact .inr (.inr (.inl ⟨nobody, long⟩))
    · intro condition
      have long : 31 < total values.fields := by
        rcases condition with misses | long | ⟨_, long⟩ | faultless
        · exact absurd misses missing
        · omega
        · exact long
        · exact absurd nobody faultless.company
      intro host
      exact ⟨fun small => absurd small (by omega), iff_of_true (refused host) (.inl long)⟩
  have ran := fun host => encodeAdvData_run host typed missing nobody
  have rooms := fun host => room_eq host missing
  by_cases long : 31 < values.room isScanResponse
  · apply iff_of_true ?_ (.inr (.inl long))
    intro host
    refine ⟨fun small => absurd small (by omega), iff_of_true ⟨_, (ran host).trans (if_pos long)⟩ ?_⟩
    exact .inl (by omega)
  constructor
  · intro well
    have encoded := (ran plainHost).trans (if_neg long)
    rcases well plainHost with ⟨splits, refused⟩
    have small : total values.fields ≤ 31 := by
      by_contra large
      rcases refused.mpr (.inl (by omega)) with ⟨thrown, failed⟩
      rw [encoded] at failed
      cases failed
    rcases splits small missing with ⟨bytes, structures, same, parts, perm⟩
    cases encoded.symm.trans same
    exact .inr (.inr (.inr (faultless_of_splits missing nobody (by omega) perm parts)))
  · intro condition
    have faultless : values.Faultless isScanResponse := by
      rcases condition with misses | beyond | ⟨nobody', _⟩ | faultless
      · exact absurd misses missing
      · exact absurd beyond long
      · exact absurd nobody' nobody
      · exact faultless
    have room := faultless_room missing faultless
    intro host
    rw [faultless_encoded host typed missing nobody long faultless]
    refine ⟨fun small _ => ⟨_, values.fields, rfl, ?_, List.Perm.refl _⟩, ?_⟩
    · exact splits_encodeAll (show 31 < 256 by decide) small
    · apply iff_of_false
      · rintro ⟨thrown, failed⟩
        cases failed
      · rintro (beyond | misses)
        · omega
        · exact missing misses

/-- `btle` and two bytes of a manufacturer. -/
def namedBeacon : AdvValues where
  flags := some 0x06
  service := false
  completeName := some [0x62, 0x74, 0x6C, 0x65]
  shortName := none
  txPowerLevel := none
  mfgSpecific := some (.object (ofString "004C") (ofString "0215"))

theorem namedBeacon_typed : namedBeacon.WellTyped where
  service := rfl
  level level given := by cases given
  mfgSpecific mfgSpecific given := by
    cases given
    exact ⟨by decide, by decide⟩

example : encodeAdvData plainHost namedBeacon false =
    .ok [2, 1, 6, 5, 9, 0x62, 0x74, 0x6C, 0x65, 5, 0xFF, 0x4C, 0x00, 0x02, 0x15] := by decide

theorem namedBeacon_advertises :
    namedBeacon.WellTyped ∧ (AdvertisesWell namedBeacon false ↔ namedBeacon.MissesFlags false ∨
      31 < namedBeacon.room false ∨ (namedBeacon.NamesNoCompany ∧ 31 < total namedBeacon.fields) ∨
        namedBeacon.Faultless false) :=
  ⟨namedBeacon_typed, advertises_well_iff namedBeacon namedBeacon_typed false⟩

def poweredBeacon : AdvValues where
  flags := some 0x06
  service := false
  completeName := none
  shortName := none
  txPowerLevel := some (-20)
  mfgSpecific := none

/-- The power level is not sent. -/
theorem poweredBeacon_silent :
    poweredBeacon.WellTyped ∧ total poweredBeacon.fields = 6 ∧ ¬ AdvertisesWell poweredBeacon false := by
  refine ⟨⟨rfl, ?_, nofun⟩, by decide, fun well => ?_⟩
  · intro level given
    cases given
    decide
  · have flagged : ¬ poweredBeacon.MissesFlags false := by
      rintro ⟨_, missing⟩
      cases missing
    rcases (well plainHost).1 (by decide) flagged with ⟨bytes, structures, same, splits, perm⟩
    have encoded : encodeAdvData plainHost poweredBeacon false = .ok [2, 1, 6] := by decide
    cases encoded.symm.trans same
    have length := congrArg List.length splits.1
    rw [encodeAll_length, total_perm perm] at length
    revert length
    decide

end Btle.Server

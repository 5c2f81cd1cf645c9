import Btle.Client.Encode
import Btle.Client.Protocol
import Btle.Server.Outcomes

namespace Btle.Wire

open Server Throwing

section Fields

variable (opcode : UInt8) (start stop : UInt16) (fields : List UInt8)

/-- The fields of a range request as the handlers get them, without the opcode. -/
def rangeData : Buffer := Client.attPutU16 start ++ Client.attPutU16 stop ++ fields

theorem rangeHeader_eq :
    Client.rangeHeader opcode start stop ++ fields = opcode :: rangeData start stop fields := by
  simp [Client.rangeHeader, rangeData]

theorem rangeData_length : (rangeData start stop fields).length = 4 + fields.length := by
  simp only [rangeData, List.length_append, Client.attPutU16_length]

theorem rangeData_start : word (rangeData start stop fields) 0 = start.toNat := by
  have bound : start.toNat < 256 ^ 2 := start.toNat_lt
  rw [rangeData, List.append_assoc, word, List.drop_zero,
    List.take_left' (Client.attPutU16_length start), Client.attPutU16, LittleEndian.number_bytes,
    Nat.mod_eq_of_lt bound]

theorem rangeData_stop : word (rangeData start stop fields) 2 = stop.toNat := by
  have bound : stop.toNat < 256 ^ 2 := stop.toNat_lt
  rw [rangeData, List.append_assoc, word, List.drop_left' (Client.attPutU16_length start),
    List.take_left' (Client.attPutU16_length stop), Client.attPutU16, LittleEndian.number_bytes,
    Nat.mod_eq_of_lt bound]

theorem rangeData_fields : (rangeData start stop fields).drop 4 = fields := by
  have four : (Client.attPutU16 start ++ Client.attPutU16 stop).length = 4 := by simp
  exact List.drop_left' four

theorem rangeData_type : word (rangeData start stop fields) 4 = word fields 0 := by
  rw [word, rangeData_fields, word, List.drop_zero]

theorem word_put (type : UInt16) : word (Client.attPutU16 type ++ fields) 0 = type.toNat := by
  have bound : type.toNat < 256 ^ 2 := type.toNat_lt
  rw [word, List.drop_zero, List.take_left' (Client.attPutU16_length type), Client.attPutU16,
    LittleEndian.number_bytes, Nat.mod_eq_of_lt bound]

theorem put_ofNat (number : Nat) :
    Client.attPutU16 (UInt16.ofNat number) = LittleEndian.bytes 2 number := by
  simp only [Client.attPutU16, LittleEndian.bytes, UInt16.toNat_ofNat', List.cons.injEq, and_true,
    ← UInt8.toNat_inj, UInt8.toNat_ofNat']
  constructor <;> omega

end Fields

section Written

variable {host : Host} {central : CentralRef} {world : World}

theorem written_congr {program other : Js Unit} {start : World}
    (ran : program.run world = other.run start) (same : start.sent = world.sent) :
    written program world = written other start := by
  rw [written, after_congr ran, written, same]

theorem written_error {program : Js Unit} {thrown : JsError}
    (ran : program.run world = .error thrown world) : written program world = [] := by
  rw [written, after_error ran, List.drop_length]

theorem written_write (pdu : Buffer) : written (Central.write central pdu) world = [(central, pdu)] :=
  written_of_sent (by rw [write_after])

/-- One PDU is sent to the central under the condition, and nothing otherwise. -/
def SendsIf (condition : Prop) (program : Js Unit) (world : World) (central : CentralRef)
    (pdu : Buffer) : Prop :=
  condition ∧ written program world = [(central, pdu)] ∨ ¬ condition ∧ written program world = []

theorem SendsIf.iff {condition : Prop} {program : Js Unit} {pdu : Buffer}
    (sends : SendsIf condition program world central pdu) (response : Buffer) :
    written program world = [(central, response)] ↔ condition ∧ response = pdu := by
  rcases sends with ⟨met, sent⟩ | ⟨unmet, silent⟩
  · rw [sent, List.cons.injEq, Prod.mk.injEq]
    constructor
    · exact fun same => ⟨met, same.1.2.symm⟩
    · exact fun both => ⟨⟨rfl, both.2.symm⟩, rfl⟩
  · rw [silent]
    exact iff_of_false (by simp) fun both => unmet both.1

theorem SendsIf.of_run {condition : Prop} {program other : Js Unit} {start : World} {pdu : Buffer}
    (sends : SendsIf condition other start central pdu) (ran : program.run world = other.run start)
    (same : start.sent = world.sent) : SendsIf condition program world central pdu := by
  unfold SendsIf
  rw [written_congr ran same]
  exact sends

theorem SendsIf.congr {condition other : Prop} {program : Js Unit} {pdu : Buffer}
    (sends : SendsIf condition program world central pdu) (same : other ↔ condition) :
    SendsIf other program world central pdu := by
  have equal : other = condition := propext same
  exact equal ▸ sends

theorem SendsIf.pdu {condition : Prop} {program : Js Unit} {pdu other : Buffer}
    (sends : SendsIf condition program world central pdu) (same : condition → pdu = other) :
    SendsIf condition program world central other := by
  rcases sends with ⟨met, sent⟩ | unmet
  · exact .inl ⟨met, same met ▸ sent⟩
  · exact .inr unmet

/-- What is found is sent as far as it goes into a PDU, if it can be encoded. -/
theorem respond_sends (host : Host) (request : UInt8) (start : Nat) {found : List AttrRef}
    {encode : World → List Attribute → Except JsError Buffer} {content : Buffer} {success : Prop}
    (some_found : found ≠ [])
    (contents : ContentsOf world.mtuSize content (encode world (found.map world.attrib)) success) :
    SendsIf success (respond host central request start found encode) world central
      (content.take world.mtuSize.toNat) := by
  obtain ⟨ref, rest, rfl⟩ := List.exists_cons_of_ne_nil some_found
  rcases contents with ⟨thrown, failed, never⟩ | ⟨encoded, success⟩
  · have ran : (respond host central request start (ref :: rest) encode).run world =
        .error thrown world := by
      simp only [respond, EStateM.run_bind, EStateM.run_get, failed, Js.ofExcept]
      rfl
    exact .inr ⟨never, written_error ran⟩
  · have ran : (respond host central request start (ref :: rest) encode).run world =
        (Central.write central (content.take world.mtuSize.toNat)).run world := by
      simp only [respond, EStateM.run_bind, EStateM.run_get, encoded, Js.ofExcept, EStateM.run_pure]
    refine .inl ⟨success, ?_⟩
    rw [written_congr ran rfl, written_write]

variable {data : Buffer} {uuids : UuidStore} {type : Option UuidRef}

/-- A typed request that comes to its search: the type is looked up, and printed if that is on. -/
theorem typed_sends {value : UuidValue} (next : Option UuidRef → Js Unit) {condition : Prop}
    {pdu : Buffer} (got : getUuid world.uuids value = .ok (uuids, type))
    (sends : SendsIf condition (next type) { world with uuids } central pdu) :
    SendsIf (Printable host uuids type ∧ condition)
      (getUuidOf value >>= fun type => logType host type >>= fun _ => next type) world central pdu := by
  have looked : (getUuidOf value >>= fun type => logType host type >>= fun _ => next type).run world =
      (logType host type >>= fun _ => next type).run { world with uuids } := getUuidOf_ok got
  by_cases printable : Printable host uuids type
  · exact ((sends.of_run (logType_printable printable) rfl).congr (and_iff_right printable)).of_run
      looked rfl
  · obtain ⟨thrown, failed⟩ : ∃ thrown, (logType host type >>= fun _ => next type).run
        { world with uuids } = .error thrown { world with uuids } := logType_hidden (next type) printable
    refine .inr ⟨fun both => printable both.1, ?_⟩
    rw [written_congr looked rfl, written_error failed]

variable {start stop : UInt16} {fields : List UInt8} {found : List AttrRef}

/-- What is left of a handler once it knows the type: the search of the range, and the report. -/
def searchFor (host : Host) (central : CentralRef) (request : UInt8) (data : Buffer)
    (encode : Option UuidRef → World → List Attribute → Except JsError Buffer) (value : Option Buffer)
    (type : Option UuidRef) : Js Unit := do
  let attributes ← Js.ofExcept (findAttributes (← get) (word data 0) (word data 2) type value)
  respond host central request (word data 0) attributes (encode type)

theorem search_sends (host : Host) (request : UInt8) (fields : List UInt8) {value : Option Buffer}
    {encode : Option UuidRef → World → List Attribute → Except JsError Buffer} {content : Buffer}
    {success : Prop}
    (search : findAttributes world start.toNat stop.toNat type value = .ok found)
    (some_found : found ≠ [])
    (contents : ContentsOf world.mtuSize content (encode type world (found.map world.attrib)) success) :
    SendsIf success (searchFor host central request (rangeData start stop fields) encode value type)
      world central (content.take world.mtuSize.toNat) := by
  refine (respond_sends host request (word (rangeData start stop fields) 0) some_found
    contents).of_run ?_ rfl
  simp only [searchFor, EStateM.run_bind, EStateM.run_get, rangeData_start, rangeData_stop, search,
    Js.ofExcept, EStateM.run_pure]

theorem readByType_sends (host : Host) (central : CentralRef) (long : 2 ≤ fields.length)
    (got : getUuid world.uuids (.number (word fields 0)) = .ok (uuids, type))
    (search : findAttributes { world with uuids } start.toNat stop.toNat type none = .ok found)
    (some_found : found ≠ []) :
    SendsIf (Printable host uuids type ∧
        FirstSucceeds (readByTypeEffect world.mtuSize) (found.map world.attrib))
      (createHandler host central (Client.rangeHeader Client.attOpReadByTypeReq start stop ++ fields))
      world central
      ((readByTypeContents world.mtuSize (found.map world.attrib)).take world.mtuSize.toNat) := by
  have size := rangeData_length start stop fields
  have searches : SendsIf (FirstSucceeds (readByTypeEffect world.mtuSize) (found.map world.attrib))
      (searchFor host central opReadByTypeRequest (rangeData start stop fields)
        (fun _ => readByTypeResponse host) none type) { world with uuids } central
      ((readByTypeContents world.mtuSize (found.map world.attrib)).take world.mtuSize.toNat) :=
    search_sends host _ fields search some_found (readByTypeResponse_contents host _ _)
  rw [rangeHeader_eq]
  rw [← rangeData_type start stop fields] at got
  refine (typed_sends _ got searches).of_run ?_ rfl
  exact (field_read (by omega) _ world).trans
    ((field_read (by omega) _ world).trans (field_read (by omega) _ world))

theorem readByGroup_sends (host : Host) (central : CentralRef)
    (got : getUuid world.uuids (.buffer fields) = .ok (uuids, type))
    (search : findAttributes { world with uuids } start.toNat stop.toNat type none = .ok found)
    (some_found : found ≠ []) :
    SendsIf (Printable host uuids type ∧
        FirstSucceeds (fun _ => readByGroupEffect world.mtuSize) (found.map world.attrib))
      (createHandler host central
        (Client.rangeHeader Client.attOpReadByGroupReq start stop ++ fields))
      world central
      ((readByGroupContents world.mtuSize (found.map world.attrib)).take world.mtuSize.toNat) := by
  have size := rangeData_length start stop fields
  have searches : SendsIf
      (FirstSucceeds (fun _ => readByGroupEffect world.mtuSize) (found.map world.attrib))
      (searchFor host central opReadByGroupRequest (rangeData start stop fields)
        (fun _ => readByGroupResponse host) none type) { world with uuids } central
      ((readByGroupContents world.mtuSize (found.map world.attrib)).take world.mtuSize.toNat) :=
    search_sends host _ fields search some_found (readByGroupResponse_contents host _ _)
  rw [rangeHeader_eq]
  rw [← rangeData_fields start stop fields] at got
  refine (typed_sends _ got searches).of_run ?_ rfl
  exact (field_read (by omega) _ world).trans (field_read (by omega) _ world)

/-- What is found has the value searched for, and is no more than a range has handles. -/
theorem findByTypeResponse_found (host : Host) {value : Buffer}
    (search : findAttributes world start.toNat stop.toNat type (some value) = .ok found) :
    ContentsOf world.mtuSize (findByTypeContents world.mtuSize type (found.map world.attrib))
      (findByTypeResponse host type value world (found.map world.attrib))
      (Looping.Ends (findByTypeEffect world.mtuSize type) (fun _ => True)
        (found.map world.attrib).zipIdx 1) := by
  obtain ⟨_, rfl⟩ := (findAttributes_valued world _ _ _ value).mp search
  apply findByTypeResponse_contents
  · intro attrib member
    obtain ⟨ref, chosen, rfl⟩ := List.mem_map.mp member
    exact of_decide_eq_true (List.mem_filter.mp chosen).2
  · have few := attributesIn_length world start.toNat stop.toNat type
    have bound := stop.toNat_lt
    rw [List.length_map]
    exact (List.length_filter_le _ _).trans (few.trans (by omega))

theorem findByType_sends (host : Host) (central : CentralRef) (valid : start ≠ 0 ∧ start ≤ stop)
    {number : UInt16} {value : Buffer}
    (got : getUuid world.uuids (.number number.toNat) = .ok (uuids, type))
    (search : findAttributes { world with uuids } start.toNat stop.toNat type (some value) = .ok found)
    (some_found : found ≠ []) :
    SendsIf (Printable host uuids type ∧
        Looping.Ends (findByTypeEffect world.mtuSize type) (fun _ => True)
          (found.map world.attrib).zipIdx 1)
      (createHandler host central (Client.rangeHeader Client.attOpFindByTypeReq start stop ++
        (Client.attPutU16 number ++ value)))
      world central
      ((findByTypeContents world.mtuSize type (found.map world.attrib)).take world.mtuSize.toNat) := by
  have size := rangeData_length start stop (Client.attPutU16 number ++ value)
  have fields : (Client.attPutU16 number ++ value).length = 2 + value.length := by simp
  have content : (rangeData start stop (Client.attPutU16 number ++ value)).drop 6 = value := by
    rw [show 6 = 4 + 2 from rfl, ← List.drop_drop, rangeData_fields]
    exact List.drop_left' (Client.attPutU16_length number)
  have in_range : ¬ (word (rangeData start stop (Client.attPutU16 number ++ value)) 0 = 0 ∨
      word (rangeData start stop (Client.attPutU16 number ++ value)) 2 <
        word (rangeData start stop (Client.attPutU16 number ++ value)) 0) := by
    rw [rangeData_start, rangeData_stop]
    obtain ⟨nonzero, ordered⟩ := valid
    have positive : start.toNat ≠ 0 := fun zero => nonzero (UInt16.toNat_inj.mp zero)
    have most : start.toNat ≤ stop.toNat := UInt16.le_iff_toNat_le.mp ordered
    omega
  have searches : SendsIf (Looping.Ends (findByTypeEffect world.mtuSize type) (fun _ => True)
        (found.map world.attrib).zipIdx 1)
      (searchFor host central opFindByTypeRequest
        (rangeData start stop (Client.attPutU16 number ++ value))
        (fun type => findByTypeResponse host type value) (some value) type) { world with uuids } central
      ((findByTypeContents world.mtuSize type (found.map world.attrib)).take world.mtuSize.toNat) :=
    search_sends host _ _ search some_found (findByTypeResponse_found host search)
  rw [rangeHeader_eq]
  rw [← word_put value number, ← rangeData_type start stop] at got
  have handled : (handleFindByType host central
      (rangeData start stop (Client.attPutU16 number ++ value))).run world =
      (getUuidOf (.number (word (rangeData start stop (Client.attPutU16 number ++ value)) 4)) >>=
        fun type => logType host type >>= fun _ =>
          searchFor host central opFindByTypeRequest
            (rangeData start stop (Client.attPutU16 number ++ value))
            (fun type => findByTypeResponse host type value) (some value) type).run world := by
    refine (field_read (by omega) _ world).trans
      ((field_read (by omega) _ world).trans ((field_read (by omega) _ world).trans ?_))
    simp only [if_neg in_range, content]
    rfl
  exact (typed_sends _ got searches).of_run handled rfl

end Written

end Btle.Wire

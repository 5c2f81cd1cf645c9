import Btle.Client.Att
import Btle.Server.Outcomes

namespace Btle.Wire

open Server

/-- What the encoder puts in front of the buffer, of the length it returns. -/
def Builds (encoded : Except Client.Fault (List UInt8 × Nat)) (pdu : List UInt8) : Prop :=
  ∃ written len, encoded = .ok (written, len) ∧ pdu = written.take len

theorem encodeHandle_builds (opcode : UInt8) (handle : UInt16) {buffer : List UInt8}
    (room : 3 ≤ buffer.length) (value : List UInt8) :
    Builds (Client.encodeHandle opcode handle buffer value)
      (opcode :: (Client.attPutU16 handle ++ value.take (min value.length (buffer.length - 3)))) := by
  have cut : value.take (min value.length (buffer.length - 3)) = value.take (buffer.length - 3) := by
    rw [← List.take_take]
    exact List.take_of_length_le (List.length_take_le' _ _)
  have first := Client.store_first buffer [opcode] (by simp; omega)
  have second := Client.store_next [opcode] (buffer.drop 1) (Client.attPutU16 handle) (by simp; omega)
  have third := Client.store_next ([opcode] ++ Client.attPutU16 handle) (buffer.drop 3)
    (value.take (buffer.length - 3)) (by simp)
  simp only [List.length_cons, List.length_nil, List.length_append, Client.attPutU16_length,
    List.drop_drop, Nat.zero_add, Nat.reduceAdd] at first second third
  rw [cut]
  refine ⟨[opcode] ++ Client.attPutU16 handle ++ value.take (buffer.length - 3) ++
    buffer.drop (3 + (value.take (buffer.length - 3)).length),
    3 + (value.take (buffer.length - 3)).length, ?_, ?_⟩
  · unfold Client.encodeHandle
    rw [if_neg (by omega)]
    simp only [first, second, third, bind, Except.bind, pure, Except.pure]
  · have size : 3 + (value.take (buffer.length - 3)).length =
        ([opcode] ++ Client.attPutU16 handle ++ value.take (buffer.length - 3)).length := by
      rw [List.length_append, List.length_append, Client.attPutU16_length]
      rfl
    rw [size, List.take_left]
    simp

theorem readUInt16LE_put (handle : UInt16) (rest : List UInt8) :
    Buffer.readUInt16LE (Client.attPutU16 handle ++ rest) 0 = .ok handle.toNat := by
  have two := Client.attPutU16_length handle
  have bound : handle.toNat < 256 ^ 2 := handle.toNat_lt
  rw [Buffer.readUInt16LE, if_pos (by rw [List.length_append]; omega), List.drop_zero,
    List.take_left' two, Client.attPutU16, LittleEndian.number_bytes, Nat.mod_eq_of_lt bound]

theorem drop_put (handle : UInt16) (rest : List UInt8) :
    (Client.attPutU16 handle ++ rest).drop 2 = rest :=
  List.drop_left' (Client.attPutU16_length handle)

/-- A read and the two writes of the client come to the handler of the server that is for them, with
    the handle and with so much of the value as the client's buffer has room for. All that a read
    does with its handle is to report that there is no such attribute. -/
theorem single_handles_agree (host : Host) (central : CentralRef) (handle : UInt16)
    (value buffer : List UInt8) (room : 3 ≤ buffer.length) :
    (∃ pdu data, Builds (Client.encodeHandle Client.attOpWriteCmd handle buffer value) pdu ∧
      createHandler host central pdu = handleWriteCmd host central data ∧
      Buffer.readUInt16LE data 0 = .ok handle.toNat ∧
      handleWriteCmd host central data = doWrite host central handle.toNat
        (value.take (min value.length (buffer.length - 3))) false) ∧
    (∃ pdu data, Builds (Client.encodeHandle Client.attOpWriteReq handle buffer value) pdu ∧
      createHandler host central pdu = handleWrite host central data ∧
      Buffer.readUInt16LE data 0 = .ok handle.toNat ∧
      handleWrite host central data = doWrite host central handle.toNat
        (value.take (min value.length (buffer.length - 3))) true) ∧
    ∃ pdu data, Builds (Client.encodeHandle Client.attOpReadReq handle buffer []) pdu ∧
      createHandler host central pdu = handleRead host central data ∧
      Buffer.readUInt16LE data 0 = .ok handle.toNat ∧
      handleRead host central data =
        sendError host central errorAttrNotFound opReadRequest handle.toNat := by
  have read := readUInt16LE_put handle
  refine ⟨?_, ?_, ?_⟩
  · refine ⟨_, _, encodeHandle_builds Client.attOpWriteCmd handle room value, rfl, read _, ?_⟩
    rw [handleWriteCmd, read, drop_put]
    rfl
  · refine ⟨_, _, encodeHandle_builds Client.attOpWriteReq handle room value, rfl, read _, ?_⟩
    rw [handleWrite, read, drop_put]
    rfl
  · refine ⟨_, _, encodeHandle_builds Client.attOpReadReq handle room [], rfl, read _, ?_⟩
    rw [handleRead, read]
    rfl

theorem shortPdu_agrees :
    ∃ pdu data, Builds (Client.encodeHandle Client.attOpWriteReq 1 (List.replicate 5 0) [7, 8, 9]) pdu ∧
      createHandler plainHost 0 pdu = handleWrite plainHost 0 data ∧
      Buffer.readUInt16LE data 0 = .ok 1 ∧
      handleWrite plainHost 0 data = doWrite plainHost 0 1 [7, 8] true :=
  (single_handles_agree plainHost 0 1 [7, 8, 9] (List.replicate 5 0) (by decide)).2.1

end Btle.Wire

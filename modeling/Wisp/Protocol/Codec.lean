import Wisp.Protocol.Wire

/-!
# Decoding what was encoded

A CONNECT that is sent and received whole is decoded to the same message.
-/

namespace Wisp

/-- Decoding finds the field that starts at this offset. -/
theorem leU32_of_drop {bytes rest : List UInt8} {offset : Nat} (value : UInt32)
    (field : bytes.drop offset = u32Bytes value ++ rest) : leU32 bytes offset = value := by
  have byte (i : Nat) (small : i < 4) :
      bytes.getD (offset + i) 0 = (u32Bytes value).getD i 0 := by
    have size : (u32Bytes value).length = 4 := rfl
    rw [List.getD_eq_getElem?_getD, ← List.getElem?_drop, field,
      List.getElem?_append_left (by omega), ← List.getD_eq_getElem?_getD]
  have bound := value.toNat_lt
  simp only [leU32]
  rw [byte 0 (by omega), byte 1 (by omega), byte 2 (by omega), byte 3 (by omega)]
  simp only [u32Bytes, List.getD_cons_zero, List.getD_cons_succ, UInt8.toNat_ofNat']
  apply UInt32.toNat_inj.mp
  rw [UInt32.toNat_ofNat']
  omega

namespace ConnectMsg

theorem toBytes_length (msg : ConnectMsg) : msg.toBytes.length = size := rfl

/-- What is decoded is what was sent. -/
theorem ofBytes_toBytes (msg : ConnectMsg) : ofBytes msg.toBytes = msg := by
  have modes (i : Fin maxModes) : (ofBytes msg.toBytes).modes i = msg.modes i := by
    have triple {width height fps : UInt32} (w : width = (msg.modes i).width)
        (h : height = (msg.modes i).height) (f : fps = (msg.modes i).fps) :
        (⟨width, height, fps⟩ : RenderMode) = msg.modes i := by
      rw [w, h, f]
    -- the offsets of the modes are numbers only once the index is one
    match i with
    | 0 | 1 | 2 | 3 =>
        exact triple (leU32_of_drop _ rfl) (leU32_of_drop _ rfl) (leU32_of_drop _ rfl)
  have name (i : Fin clientIdLen) : (ofBytes msg.toBytes).clientId i = msg.clientId i := by
    have field : msg.toBytes.drop 12 = List.ofFn msg.clientId ++ msg.toBytes.drop 44 := rfl
    show msg.toBytes.getD (12 + i.val) 0 = _
    rw [List.getD_eq_getElem?_getD, ← List.getElem?_drop, field,
      List.getElem?_append_left (by rw [List.length_ofFn]; exact i.isLt), List.getElem?_ofFn,
      dif_pos i.isLt]
    rfl
  have magic : (ofBytes msg.toBytes).protocolMagic = msg.protocolMagic := leU32_of_drop _ rfl
  have major : (ofBytes msg.toBytes).protocolMajor = msg.protocolMajor := leU32_of_drop _ rfl
  have minor : (ofBytes msg.toBytes).protocolMinor = msg.protocolMinor := leU32_of_drop _ rfl
  have count : (ofBytes msg.toBytes).numModes = msg.numModes := leU32_of_drop _ rfl
  calc ofBytes msg.toBytes
      = ⟨(ofBytes msg.toBytes).protocolMagic, (ofBytes msg.toBytes).protocolMajor,
          (ofBytes msg.toBytes).protocolMinor, (ofBytes msg.toBytes).clientId,
          (ofBytes msg.toBytes).numModes, (ofBytes msg.toBytes).modes⟩ := rfl
    _ = msg := by rw [magic, major, minor, funext name, count, funext modes]

end ConnectMsg

end Wisp

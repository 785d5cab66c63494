import GpuDirectFabric.Protocol

/-!
# The frame codec

Every frame with a payload within the bound has one image, and a byte string that is accepted is the
image of the frame it is read as.  `decodeFrameWithin` makes the accesses of `decode_frame` to the
byte string explicit, in their order, with no result at all when one of them falls outside of it.
-/

namespace GpuDirectFabric

open Codec Persistence

/-- A value that is chosen is that of the first case, or is chosen among the other ones. -/
theorem of_ite_eq_some {α : Type} {c : Prop} [Decidable c] {a b : α} {o : Option α}
    (h : (if c then some a else o) = some b) :
  c ∧ a = b ∨ o = some b
  := by
  split at h
  next hc => exact .inl ⟨hc, Option.some.inj h⟩
  next => exact .inr h

theorem MessageType.toU8_of_ofU8 {b : UInt8} {t : MessageType} (h : ofU8 b = some t) :
  t.toU8 = b
  := by
  rw [ofU8] at h
  iterate 11
    obtain ⟨rfl, rfl⟩ | h := of_ite_eq_some h
    · rfl
  cases h

namespace Protocol

/-! ### Accesses -/

/-- The `n` bytes from the offset `i` on, if they are all there. -/
def bytesAt (wire : Bytes) (i n : ℕ) : Option Bytes :=
  if i + n ≤ wire.length then some ((wire.drop i).take n) else none

theorem bytesAt_eq {wire : Bytes} {i n : ℕ} (h : i + n ≤ wire.length) :
  bytesAt wire i n = some ((wire.drop i).take n)
  := if_pos h

/-- `decode_frame` by its accesses. -/
def decodeFrameWithin (wire : Bytes) : Option (Except Str Frame) :=
  if wire.length < kProtoHeaderSize then some (.error "frame too short (truncated)")
  else (bytesAt wire 0 4).bind fun magic =>
    if magic ≠ kProtoMagic then some (.error "bad magic")
    else (bytesAt wire 4 2).bind fun version =>
      if leNat version ≠ kProtoVersion then some (.error "unsupported protocol version")
      else (bytesAt wire 8 4).bind fun len =>
        if leNat len > kProtoMaxPayload then some (.error "absurd payload length")
        else if wire.length ≠ kProtoHeaderSize + leNat len then
          some (.error "frame length mismatch")
        else
          let crcOff := wire.length - 4
          (bytesAt wire crcOff 4).bind fun storedCrc =>
          (bytesAt wire 0 crcOff).bind fun checked =>
          if leNat storedCrc ≠ (crc32 checked).toNat then some (.error "invalid checksum")
          else wire[6]?.bind fun typeval =>
            wire[7]?.bind fun flags =>
            (bytesAt wire 12 (crcOff - 12)).bind fun payload =>
            match MessageType.ofU8 typeval with
            | none => some (.error "malformed message type")
            | some type => some (.ok { type := type, flags := flags, payload := payload })

/-- No access falls outside of the byte string. -/
theorem decodeFrameWithin_eq (wire : Bytes) :
  decodeFrameWithin wire = some (decodeFrame wire)
  := by
  rw [decodeFrameWithin, decodeFrame]
  by_cases hsize : wire.length < kProtoHeaderSize
  · rw [if_pos hsize, if_pos hsize]
  rw [if_neg hsize, if_neg hsize]
  rw [kProtoHeaderSize, not_lt] at hsize
  rw [bytesAt_eq (by omega), Option.bind_some, List.drop_zero]
  by_cases hmagic : wire.take 4 ≠ kProtoMagic
  · rw [if_pos hmagic, if_pos hmagic]
  rw [if_neg hmagic, if_neg hmagic, bytesAt_eq (by omega), Option.bind_some]
  by_cases hversion : leNat ((wire.drop 4).take 2) ≠ kProtoVersion
  · rw [if_pos hversion, if_pos hversion]
  rw [if_neg hversion, if_neg hversion, bytesAt_eq (by omega), Option.bind_some]
  dsimp only
  generalize leNat ((wire.drop 8).take 4) = payloadLen
  by_cases hmax : payloadLen > kProtoMaxPayload
  · rw [if_pos hmax, if_pos hmax]
  rw [if_neg hmax, if_neg hmax]
  by_cases hlength : wire.length ≠ kProtoHeaderSize + payloadLen
  · rw [if_pos hlength, if_pos hlength]
  have hstored : (wire.drop (wire.length - 4)).take 4 = wire.drop (wire.length - 4) := by
    apply List.take_of_length_le
    rw [List.length_drop]
    omega
  rw [if_neg hlength, if_neg hlength, bytesAt_eq (by omega), Option.bind_some,
    bytesAt_eq (by omega), Option.bind_some, List.drop_zero, hstored]
  generalize hoff : wire.length - 4 = crcOff at hstored
  by_cases hcrc : leNat (wire.drop crcOff) ≠ (crc32 (wire.take crcOff)).toNat
  · rw [if_pos hcrc, if_pos hcrc]
  have hbyte : ∀ i, i < 16 → wire[i]? = some (wire.getD i 0) := by
    intro i hi
    have hlt : i < wire.length := by omega
    rw [List.getD_eq_getElem?_getD, List.getElem?_eq_getElem hlt]
    rfl
  rw [if_neg hcrc, if_neg hcrc, hbyte 6 (by omega), hbyte 7 (by omega), Option.bind_some,
    Option.bind_some, bytesAt_eq (by omega), Option.bind_some, List.drop_take]
  cases MessageType.ofU8 (wire.getD 6 0) with
  | none => rfl
  | some type => rfl

/-! ### Accepted frames -/

/-- A word of as many bytes as there are is their image. -/
theorem eq_putLE {bs : Bytes} {w n : ℕ} (hlength : bs.length = w) (h : leNat bs = n) :
  bs = putLE w n
  := by
  rw [← hlength, ← h, putLE_leNat]

/-- A byte string that is accepted is the image of its frame. -/
theorem encodeFrame_of_decodeFrame {wire : Bytes} {frame : Frame}
    (h : decodeFrame wire = .ok frame) :
  encodeFrame frame = wire
  := by
  have hdecodes := decodes_of_decodeFrame h
  have hlength := hdecodes.length
  have hcrc := hdecodes.checksum
  have hframe : frame = ⟨frame.type, wire.getD 7 0, (wire.take (wire.length - 4)).drop 12⟩ := by
    rw [← hdecodes.flags, ← hdecodes.payload]
  rw [kProtoHeaderSize] at hlength
  generalize hlen : leNat ((wire.drop 8).take 4) = payloadLen at hlength
  have hoff : wire.length - 4 = 12 + payloadLen := by omega
  rw [hoff] at hcrc hframe
  have hpayload : (wire.take (12 + payloadLen)).drop 12 = (wire.drop 12).take payloadLen := by
    rw [List.drop_take, Nat.add_sub_cancel_left]
  have hlengthPayload : ((wire.drop 12).take payloadLen).length = payloadLen := by
    rw [List.length_take, List.length_drop]
    omega
  have hword : ∀ i n, i + n ≤ 16 → ((wire.drop i).take n).length = n := by
    intro i n hi
    rw [List.length_take, List.length_drop]
    omega
  have hbyte : ∀ i, i < 16 → wire.drop i = wire.getD i 0 :: wire.drop (i + 1) := by
    intro i hi
    rw [List.drop_eq_getElem_cons (by omega), List.getD_eq_getElem?_getD,
      List.getElem?_eq_getElem (by omega)]
    rfl
  have hbytes : (wire.drop 6).take 2 = [frame.type.toU8, wire.getD 7 0] := by
    rw [MessageType.toU8_of_ofU8 hdecodes.type, hbyte 6 (by omega), hbyte 7 (by omega)]
    rfl
  have hchecked : checkedFrame ⟨frame.type, wire.getD 7 0, (wire.drop 12).take payloadLen⟩
      = wire.take (12 + payloadLen) := by
    rw [checkedFrame, hlengthPayload, ← hdecodes.magic,
      ← eq_putLE (hword 4 2 (by omega)) hdecodes.version,
      ← hbytes, putU32, ← eq_putLE (hword 8 4 (by omega)) hlen]
    have hfour : wire.take 6 = wire.take 4 ++ (wire.drop 4).take 2 :=
      List.take_add (i := 4) (j := 2)
    have hsix : wire.take 8 = wire.take 6 ++ (wire.drop 6).take 2 :=
      List.take_add (i := 6) (j := 2)
    have height : wire.take 12 = wire.take 8 ++ (wire.drop 8).take 4 :=
      List.take_add (i := 8) (j := 4)
    rw [List.take_add, height, hsix, hfour]
    simp only [List.flatten_cons, List.flatten_nil, List.append_nil, List.append_assoc]
  have hstored : wire.drop (12 + payloadLen) = putLE 4 (leNat (wire.drop (12 + payloadLen))) := by
    apply eq_putLE _ rfl
    rw [List.length_drop]
    omega
  rw [hframe, hpayload, encodeFrame, hchecked, ← hcrc, putU32, ← hstored, List.take_append_drop]

/-- Every frame within the bound is read back from its image; every byte string is read without an
access outside of it, and if it is accepted, it is the image of the frame. -/
theorem frame_codec_exact :
  (∀ frame : Frame, frame.payload.length ≤ kProtoMaxPayload →
    decodeFrame (encodeFrame frame) = .ok frame) ∧
  ∀ wire : Bytes, decodeFrameWithin wire = some (decodeFrame wire) ∧
    ∀ frame, decodeFrame wire = .ok frame → encodeFrame frame = wire
  := by
  constructor
  · intro frame hbound
    exact decodeFrame_encodeFrame hbound
  · intro wire
    use decodeFrameWithin_eq wire
    intro frame hframe
    exact encodeFrame_of_decodeFrame hframe

theorem frame_codec_exact_ready :
  decodeFrame (encodeFrame { type := .ready, flags := 7, payload := [1, 2, 3] })
    = .ok { type := .ready, flags := 7, payload := [1, 2, 3] }
  := frame_codec_exact.1 _ (by decide)

end Protocol

end GpuDirectFabric

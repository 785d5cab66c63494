import GpuDirectFabric.Persistence

/-!
# The protocol

Workers and the coordinator's server exchange frames: a magic number, a version, a type, flags, the
length of a payload, the payload, and a checksum of all of these.

A payload is read field by field.  A `PayloadReader` does not stop at a field that is cut off: it
sets a flag, leaves its offset where it is and returns zero.  Only for a string does it say at
once that it failed.

A *layout* lists the fields a message is read for.  It says which payloads are complete for them,
and which of these have an enumeration byte out of range.
-/

namespace GpuDirectFabric

open Codec Persistence

/-! ### Frames -/

/-- Types of messages. -/
inductive MessageType where
  | hello | registerWorker | publishDevice | publishEndpoint | publishCapability | registerBuffer
  | ready | createBuffer | ack | nack | queryState
deriving DecidableEq

namespace MessageType

/-- The byte of a type. -/
def toU8 : MessageType → UInt8
  | .hello => 1
  | .registerWorker => 2
  | .publishDevice => 3
  | .publishEndpoint => 4
  | .publishCapability => 5
  | .registerBuffer => 6
  | .ready => 7
  | .createBuffer => 9
  | .ack => 40
  | .nack => 41
  | .queryState => 8

/-- The type of a byte, if it is that of one. -/
def ofU8 (typeval : UInt8) : Option MessageType :=
  if typeval = 1 then some .hello
  else if typeval = 2 then some .registerWorker
  else if typeval = 3 then some .publishDevice
  else if typeval = 4 then some .publishEndpoint
  else if typeval = 5 then some .publishCapability
  else if typeval = 6 then some .registerBuffer
  else if typeval = 7 then some .ready
  else if typeval = 9 then some .createBuffer
  else if typeval = 40 then some .ack
  else if typeval = 41 then some .nack
  else if typeval = 8 then some .queryState
  else none

theorem ofU8_toU8 (t : MessageType) :
  ofU8 t.toU8 = some t
  := by
  cases t <;> rfl

end MessageType

structure Frame where
  type : MessageType := .hello
  flags : UInt8 := 0
  payload : Bytes := []
deriving DecidableEq

namespace Protocol

def kProtoMagic : Bytes := str "GDF1"

def kProtoVersion : ℕ := 1

/-- The longest payload accepted, 1 MiB. -/
def kProtoMaxPayload : ℕ := 1 <<< 20

/-- The bytes of a frame besides its payload. -/
def kProtoHeaderSize : ℕ := 16

/-- The part of a frame the checksum covers. -/
def checkedFrame (frame : Frame) : Bytes :=
  [kProtoMagic, putLE 2 kProtoVersion, [frame.type.toU8, frame.flags],
    putU32 frame.payload.length, frame.payload].flatten

/-- The checksum is the one of state files, of which the protocol has a copy of its own. -/
def encodeFrame (frame : Frame) : Bytes :=
  checkedFrame frame ++ putU32 (crc32 (checkedFrame frame)).toNat

def decodeFrame (wire : Bytes) : Except Str Frame :=
  if wire.length < kProtoHeaderSize then .error "frame too short (truncated)"
  else if wire.take 4 ≠ kProtoMagic then .error "bad magic"
  else if leNat ((wire.drop 4).take 2) ≠ kProtoVersion then .error "unsupported protocol version"
  else
    let payloadLen := leNat ((wire.drop 8).take 4)
    let crcOff := wire.length - 4
    if payloadLen > kProtoMaxPayload then .error "absurd payload length"
    else if wire.length ≠ kProtoHeaderSize + payloadLen then .error "frame length mismatch"
    else if leNat (wire.drop crcOff) ≠ (crc32 (wire.take crcOff)).toNat then
      .error "invalid checksum"
    else match MessageType.ofU8 (wire.getD 6 0) with
      | none => .error "malformed message type"
      | some type =>
        .ok { type := type, flags := wire.getD 7 0, payload := (wire.take crcOff).drop 12 }

theorem leNat_putU32 {v : ℕ} (h : v < 2 ^ 32) :
  leNat (putU32 v) = v
  := by
  rw [putU32, leNat_putLE]
  exact Nat.mod_eq_of_lt h

/-- The first bytes of a frame. -/
theorem checkedFrame_eq (frame : Frame) :
  checkedFrame frame = 71 :: 68 :: 70 :: 49 :: 1 :: 0 :: frame.type.toU8 :: frame.flags ::
    (putU32 frame.payload.length ++ frame.payload)
  := by
  have hmagic : kProtoMagic = [71, 68, 70, 49] := by decide
  have hversion : putLE 2 kProtoVersion = [1, 0] := by decide
  simp [checkedFrame, hmagic, hversion]

theorem length_checkedFrame (frame : Frame) :
  (checkedFrame frame).length = 12 + frame.payload.length
  := by
  simp only [checkedFrame_eq, List.length_cons, List.length_append, length_putU32]
  omega

theorem length_encodeFrame (frame : Frame) :
  (encodeFrame frame).length = kProtoHeaderSize + frame.payload.length
  := by
  rw [encodeFrame, List.length_append, length_checkedFrame, length_putU32, kProtoHeaderSize]
  omega

theorem magic_encodeFrame (frame : Frame) :
  (encodeFrame frame).take 4 = kProtoMagic
  := by
  rw [encodeFrame, checkedFrame_eq]
  rfl

theorem version_encodeFrame (frame : Frame) :
  leNat (((encodeFrame frame).drop 4).take 2) = kProtoVersion
  := by
  rw [encodeFrame, checkedFrame_eq]
  rfl

theorem payloadLen_encodeFrame {frame : Frame} (h : frame.payload.length ≤ kProtoMaxPayload) :
  leNat (((encodeFrame frame).drop 8).take 4) = frame.payload.length
  := by
  have hmax : kProtoMaxPayload = 2 ^ 20 := by decide
  rw [encodeFrame, checkedFrame_eq]
  simp only [List.cons_append, List.append_assoc, List.drop_succ_cons, List.drop_zero]
  rw [List.take_left' (length_putU32 _)]
  exact leNat_putU32 (by omega)

/-- A frame with a payload within the bound is read back from its bytes. -/
theorem decodeFrame_encodeFrame {frame : Frame}
    (h : frame.payload.length ≤ kProtoMaxPayload) :
  decodeFrame (encodeFrame frame) = .ok frame
  := by
  have hsize : kProtoHeaderSize = 16 := rfl
  have hlength := length_encodeFrame frame
  have hcrcOff : (encodeFrame frame).length - 4 = (checkedFrame frame).length := by
    rw [hlength, length_checkedFrame]
    omega
  have hchecked : (encodeFrame frame).take (checkedFrame frame).length = checkedFrame frame :=
    List.take_left
  have hpayload : (checkedFrame frame).drop 12 = frame.payload := by
    rw [checkedFrame_eq]
    exact List.drop_left' (length_putU32 _)
  have hcrc : leNat ((encodeFrame frame).drop (checkedFrame frame).length)
      = (crc32 (checkedFrame frame)).toNat := by
    rw [encodeFrame, List.drop_left]
    exact leNat_putU32 (crc32 (checkedFrame frame)).toNat_lt
  have htype : MessageType.ofU8 ((encodeFrame frame).getD 6 0) = some frame.type := by
    rw [encodeFrame, checkedFrame_eq]
    exact MessageType.ofU8_toU8 frame.type
  have hflags : (encodeFrame frame).getD 7 0 = frame.flags := by
    rw [encodeFrame, checkedFrame_eq]
    rfl
  rw [decodeFrame, if_neg (by omega), if_neg (not_not_intro (magic_encodeFrame frame)),
    if_neg (not_not_intro (version_encodeFrame frame))]
  dsimp only
  rw [payloadLen_encodeFrame h, if_neg (by omega), if_neg (by omega), hcrcOff, hchecked,
    if_neg (not_not_intro hcrc), htype, hflags, hpayload]

/-- The byte string passes the checks, and the frame has the parts that stand in it. -/
structure Decodes (wire : Bytes) (frame : Frame) : Prop where
  size : kProtoHeaderSize ≤ wire.length
  magic : wire.take 4 = kProtoMagic
  version : leNat ((wire.drop 4).take 2) = kProtoVersion
  bound : leNat ((wire.drop 8).take 4) ≤ kProtoMaxPayload
  length : wire.length = kProtoHeaderSize + leNat ((wire.drop 8).take 4)
  checksum : leNat (wire.drop (wire.length - 4)) = (crc32 (wire.take (wire.length - 4))).toNat
  type : MessageType.ofU8 (wire.getD 6 0) = some frame.type
  flags : frame.flags = wire.getD 7 0
  payload : frame.payload = (wire.take (wire.length - 4)).drop 12

/-- What is true of a byte string that is accepted. -/
theorem decodes_of_decodeFrame {wire : Bytes} {frame : Frame}
    (h : decodeFrame wire = .ok frame) :
  Decodes wire frame
  := by
  rw [decodeFrame] at h
  split at h
  next => cases h
  next hsize =>
  split at h
  next => cases h
  next hmagic =>
  split at h
  next => cases h
  next hversion =>
  dsimp only at h
  split at h
  next => cases h
  next hbound =>
  split at h
  next => cases h
  next hlength =>
  split at h
  next => cases h
  next hcrc =>
  split at h
  next => cases h
  next type htype =>
    cases h
    exact
      { size := not_lt.mp hsize
        magic := not_not.mp hmagic
        version := not_not.mp hversion
        bound := not_lt.mp hbound
        length := not_not.mp hlength
        checksum := not_not.mp hcrc
        type := htype
        flags := rfl
        payload := rfl }

/-- The payload of a frame that is accepted is within the bound. -/
theorem length_of_decodeFrame {wire : Bytes} {frame : Frame} (h : decodeFrame wire = .ok frame) :
  frame.payload.length ≤ kProtoMaxPayload
  := by
  have hdecodes := decodes_of_decodeFrame h
  have hlength := hdecodes.length
  have hbound := hdecodes.bound
  rw [kProtoHeaderSize] at hlength
  rw [hdecodes.payload, List.length_drop, List.length_take]
  omega

end Protocol

/-! ### Payloads -/

/-- A reader of the payload `p`, at the offset `off`. -/
structure PayloadReader where
  p : Bytes
  off : ℕ := 0
  fail : Bool := false

/-- The reader of a frame's payload. -/
def Frame.reader (f : Frame) : PayloadReader := { p := f.payload }

namespace PayloadReader

/-- What is left to read. -/
def rest (r : PayloadReader) : Bytes := r.p.drop r.off

/-- The reader has failed. -/
def failed (r : PayloadReader) : PayloadReader := { r with fail := true }

/-- The reader has gone on by `k` bytes. -/
def advanced (r : PayloadReader) (k : ℕ) : PayloadReader := { r with off := r.off + k }

/-- Read a little-endian word of `w` bytes, or zero when there are not that many left. -/
def word (w : ℕ) : StateM PayloadReader ℕ := fun r =>
  if r.off + w > r.p.length then (0, r.failed)
  else (leNat ((r.p.drop r.off).take w), r.advanced w)

def u8 : StateM PayloadReader ℕ := word 1

def u32 : StateM PayloadReader ℕ := word 4

def u64 : StateM PayloadReader ℕ := word 8

/-- The longest string read, 1 MiB. -/
def maxStr : ℕ := 1 <<< 20

/-- Read a string, if it is not cut off. -/
def str : StateM PayloadReader (Option Str) := fun r =>
  let (len, r) := u32 r
  if r.fail || len > maxStr || r.off + len > r.p.length then (none, r.failed)
  else (some ((r.p.drop r.off).take len), r.advanced len)

/-- Read a string and go on with it, or stop where it is cut off. -/
def withStr {α : Type} (k : Str → StateM PayloadReader (Option α)) :
    StateM PayloadReader (Option α) := fun r =>
  match str r with
  | (some s, r) => k s r
  | (none, r) => (none, r)

/-! ### One read -/

theorem length_rest (r : PayloadReader) :
  r.rest.length = r.p.length - r.off
  := by rw [rest, List.length_drop]

theorem rest_advanced (r : PayloadReader) (k : ℕ) :
  (r.advanced k).rest = r.rest.drop k
  := by
  rw [rest, rest, advanced, List.drop_drop]

theorem advanced_advanced (r : PayloadReader) (k l : ℕ) :
  (r.advanced k).advanced l = r.advanced (k + l)
  := by
  rw [advanced, advanced, advanced, Nat.add_assoc]

/-- A word is read where there are enough bytes left. -/
theorem word_apply {w : ℕ} (hw : 0 < w) (r : PayloadReader) :
  word w r = if w ≤ r.rest.length then (leNat (r.rest.take w), r.advanced w) else (0, r.failed)
  := by
  rw [word, length_rest, rest]
  split
  next h => rw [if_neg (by omega)]
  next h => rw [if_pos (by omega)]

theorem fail_word (w : ℕ) {r : PayloadReader} (h : r.fail = true) :
  (word w r).2.fail = true
  := by
  rw [word]
  split
  · rfl
  · exact h

end PayloadReader

/-! ### Layouts -/

/-- A field of a message: a byte, a word of eight bytes, a string with its length before it, or the
byte of an enumeration with so many values. -/
inductive Field where
  | u8
  | u64
  | str
  | enum (values : ℕ)

namespace Field

/-- The size of the field at the front of `bs`. -/
def size : Field → Bytes → ℕ
  | .u8, _ => 1
  | .u64, _ => 8
  | .str, bs => 4 + leNat (bs.take 4)
  | .enum _, _ => 1

/-- The field at the front of `bs` has one of its values. -/
def InRange : Field → Bytes → Prop
  | .enum values, b :: _ => b.toNat < values
  | _, _ => True

instance : (f : Field) → (bs : Bytes) → Decidable (f.InRange bs)
  | .u8, _ => .isTrue trivial
  | .u64, _ => .isTrue trivial
  | .str, _ => .isTrue trivial
  | .enum _, [] => .isTrue trivial
  | .enum values, b :: _ => inferInstanceAs (Decidable (b.toNat < values))

end Field

/-- The fields a message is read for, in this order. -/
abbrev Layout := List Field

namespace Layout

/-- The size of the fields at the front of `bs`. -/
def size : Layout → Bytes → ℕ
  | [], _ => 0
  | f :: fs, bs => f.size bs + size fs (bs.drop (f.size bs))

/-- The payload is long enough for its fields. -/
def Complete : Layout → Bytes → Prop
  | [], _ => True
  | f :: fs, bs => f.size bs ≤ bs.length ∧ Complete fs (bs.drop (f.size bs))

/-- The enumeration bytes the payload carries are in range. -/
def EnumsInRange : Layout → Bytes → Prop
  | [], _ => True
  | f :: fs, bs => f.InRange bs ∧ EnumsInRange fs (bs.drop (f.size bs))

/-- The payload is too short for its fields, or has an enumeration byte out of range. -/
def Malformed (fs : Layout) (bs : Bytes) : Prop := ¬fs.Complete bs ∨ ¬fs.EnumsInRange bs

instance decidableComplete : (fs : Layout) → (bs : Bytes) → Decidable (fs.Complete bs)
  | [], _ => .isTrue trivial
  | f :: fs, bs =>
    have := decidableComplete fs (bs.drop (f.size bs))
    inferInstanceAs (Decidable (_ ∧ _))

instance decidableEnumsInRange : (fs : Layout) → (bs : Bytes) → Decidable (fs.EnumsInRange bs)
  | [], _ => .isTrue trivial
  | f :: fs, bs =>
    have := decidableEnumsInRange fs (bs.drop (f.size bs))
    inferInstanceAs (Decidable (_ ∧ _))

instance (fs : Layout) (bs : Bytes) : Decidable (fs.Malformed bs) :=
  inferInstanceAs (Decidable (_ ∨ _))

end Layout

/-! ### What a read does -/

namespace PayloadReader

variable {α β : Type}

/-- A string that is complete is read, and the offset moves past it. -/
theorem str_of_complete {r : PayloadReader} (hfail : r.fail = false)
    (hbound : r.p.length ≤ maxStr) (hcomplete : Field.str.size r.rest ≤ r.rest.length) :
  ∃ s, str r = (some s, r.advanced (Field.str.size r.rest))
  := by
  rw [Field.size] at hcomplete ⊢
  have hlen : u32 r = (leNat (r.rest.take 4), r.advanced 4) := by
    rw [u32, word_apply (by decide), if_pos (by omega)]
  have hrest := r.length_rest
  rw [str, hlen]
  dsimp only
  rw [if_neg]
  · exact ⟨_, by rw [advanced_advanced]⟩
  · simp only [advanced, hfail, Bool.false_or, Bool.or_eq_true, decide_eq_true_eq]
    omega

/-- A string is not read when it is cut off, or after a failure. -/
theorem str_of_cut {r : PayloadReader}
    (hcut : r.fail = true ∨ r.rest.length < Field.str.size r.rest) :
  ∃ r', str r = (none, r') ∧ r'.fail = true
  := by
  rw [Field.size] at hcut
  rw [str]
  by_cases hword : 4 ≤ r.rest.length
  · have hlen : u32 r = (leNat (r.rest.take 4), r.advanced 4) := by
      rw [u32, word_apply (by decide), if_pos hword]
    have hrest := r.length_rest
    rw [hlen]
    dsimp only
    rw [if_pos]
    · exact ⟨_, rfl, rfl⟩
    · simp only [advanced, Bool.or_eq_true, decide_eq_true_eq]
      obtain hfail | hshort := hcut
      · exact .inl (.inl hfail)
      · right
        rw [hrest] at hshort hword
        exact decide_eq_true (by omega)
  · have hlen : u32 r = (0, r.failed) := by rw [u32, word_apply (by decide), if_neg hword]
    rw [hlen]
    exact ⟨_, rfl, rfl⟩

theorem bind_apply (m : StateM PayloadReader α) (k : α → StateM PayloadReader β)
    (r : PayloadReader) :
  (m >>= k) r = k (m r).1 (m r).2
  := rfl

/-- What is read after a string comes from the rest of the read. -/
theorem withStr_eq_some {k : Str → StateM PayloadReader (Option α)} {r : PayloadReader} {a : α}
    (h : (withStr k r).1 = some a) :
  ∃ s r', (k s r').1 = some a
  := by
  rw [withStr] at h
  split at h
  next s r' _ => exact ⟨s, r', h⟩
  next => cases h

/-- The read gives no value exactly when the fields of the layout are cut off. -/
structure Stops (fs : Layout) (m : StateM PayloadReader (Option α)) : Prop where
  complete : ∀ r : PayloadReader, r.fail = false → r.p.length ≤ maxStr → fs.Complete r.rest →
    (m r).1 ≠ none
  cut : ∀ r : PayloadReader, r.fail = false → r.p.length ≤ maxStr → ¬fs.Complete r.rest →
    (m r).1 = none
  fails : fs ≠ [] → ∀ r : PayloadReader, r.fail = true → (m r).1 = none

namespace Stops

theorem some {m : StateM PayloadReader (Option α)} (h : ∀ r, (m r).1 ≠ none) :
  Stops [] m
  where
  complete r _ _ _ := h r
  cut _ _ _ hcut := absurd trivial hcut
  fails hfs := absurd rfl hfs

theorem word {w : ℕ} (hw : 0 < w) {f : Field} (hf : ∀ bs, f.size bs = w) {fs : Layout}
    {k : ℕ → StateM PayloadReader (Option β)} (hfs : fs ≠ []) (hk : ∀ n, Stops fs (k n)) :
  Stops (f :: fs) (PayloadReader.word w >>= k)
  where
  complete := by
    rintro r hfail hbound ⟨hsize, hcomplete⟩
    rw [bind_apply]
    rw [hf] at hsize
    rw [hf, ← rest_advanced] at hcomplete
    rw [word_apply hw, if_pos hsize]
    exact (hk _).complete (r.advanced w) hfail hbound hcomplete
  cut := by
    intro r hfail hbound hcut
    rw [bind_apply]
    rw [Layout.Complete, hf, ← rest_advanced] at hcut
    rw [word_apply hw]
    split
    next hsize => exact (hk _).cut (r.advanced w) hfail hbound fun h => hcut ⟨hsize, h⟩
    next => exact (hk _).fails hfs r.failed rfl
  fails := by
    intro _ r hfail
    exact (hk _).fails hfs _ (fail_word w hfail)

theorem str {fs : Layout} {k : Str → StateM PayloadReader (Option β)}
    (hk : ∀ s, Stops fs (k s)) :
  Stops (.str :: fs) (withStr k)
  where
  complete := by
    rintro r hfail hbound ⟨hsize, hcomplete⟩
    obtain ⟨s, hs⟩ := str_of_complete hfail hbound hsize
    rw [← rest_advanced] at hcomplete
    rw [withStr, hs]
    exact (hk s).complete (r.advanced _) hfail hbound hcomplete
  cut := by
    intro r hfail hbound hcut
    by_cases hsize : Field.str.size r.rest ≤ r.rest.length
    · obtain ⟨s, hs⟩ := str_of_complete hfail hbound hsize
      rw [Layout.Complete, ← rest_advanced] at hcut
      rw [withStr, hs]
      exact (hk s).cut (r.advanced _) hfail hbound fun h => hcut ⟨hsize, h⟩
    · obtain ⟨r', hr', -⟩ := str_of_cut (.inr (not_le.mp hsize))
      rw [withStr, hr']
  fails := by
    intro _ r hfail
    obtain ⟨r', hr', -⟩ := str_of_cut (.inl hfail)
    rw [withStr, hr']

theorem none_iff {fs : Layout} {m : StateM PayloadReader (Option α)} (h : Stops fs m) {f : Frame}
    (hbound : f.payload.length ≤ maxStr) :
  (m f.reader).1 = none ↔ ¬fs.Complete f.payload
  := by
  constructor
  · intro hnone hcomplete
    exact h.complete f.reader rfl hbound hcomplete hnone
  · exact h.cut f.reader rfl hbound

end Stops

end PayloadReader

end GpuDirectFabric

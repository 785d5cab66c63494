import GpuDirectFabric.FrameCodec
import GpuDirectFabric.Library.Pipe

/-!
# The transport

A connection carries frames as a stream of bytes, which its socket accepts and delivers in pieces of
any size.  A frame is received in two reads: that of as many bytes as an empty frame has, and that
of as many more as its payload is long.  How a connection is made and closed is not part of the
model.
-/

namespace GpuDirectFabric

open Codec Persistence Protocol

/-- A connection: whether its socket is invalid, whether it listens, the bytes that its socket still
delivers, and those that it has accepted. -/
structure TcpConn where
  invalid : Bool := false
  listener : Bool := false
  inbound : Pipe UInt8 := {}
  outbound : Pipe UInt8 := {}

namespace TcpConn

def sendFrame (frame : Frame) (c : TcpConn) : Bool × TcpConn :=
  if c.invalid || c.listener then (false, c)
  else
    let (sent, outbound) := c.outbound.writeAll (encodeFrame frame)
    (sent, { c with outbound := outbound })

def recvAll (n : ℕ) (c : TcpConn) : Option Bytes × TcpConn :=
  let (bytes, inbound) := c.inbound.readAll n
  (bytes, { c with inbound := inbound })

def recvFrame (c : TcpConn) : Except Str Frame × TcpConn :=
  if c.invalid || c.listener then (.error "not a connected socket", c)
  else match c.recvAll kProtoHeaderSize with
  | (none, c) => (.error "connection closed / truncated header", c)
  | (some header, c) =>
    if header.take 4 ≠ kProtoMagic then (.error "bad magic", c)
    else if leNat ((header.drop 4).take 2) ≠ kProtoVersion then
      (.error "unsupported protocol version", c)
    else
      let payloadLen := leNat ((header.drop 8).take 4)
      if payloadLen > kProtoMaxPayload then (.error "absurd payload length", c)
      else if payloadLen > 0 then
        match c.recvAll payloadLen with
        | (none, c) => (.error "connection closed / truncated payload", c)
        | (some rest, c) => (decodeFrame (header ++ rest), c)
      else (decodeFrame header, c)

/-- Send frames one after another. -/
def sendFrames : List Frame → TcpConn → List Bool × TcpConn
  | [], c => ([], c)
  | frame :: frames, c =>
    let (sent, c) := c.sendFrame frame
    let (others, c) := sendFrames frames c
    (sent :: others, c)

/-- Receive so many frames one after another. -/
def recvFrames : ℕ → TcpConn → List (Except Str Frame) × TcpConn
  | 0, c => ([], c)
  | n + 1, c =>
    let (received, c) := c.recvFrame
    let (others, c) := recvFrames n c
    (received :: others, c)

/-! ### One frame -/

/-- The connection is connected, and its socket accepts some bytes at each call. -/
structure Sends (c : TcpConn) : Prop where
  connected : (c.invalid || c.listener) = false
  flows : c.outbound.Flows

/-- The connection is connected, and its socket delivers some bytes at each call until there are
no more. -/
structure Receives (c : TcpConn) : Prop where
  connected : (c.invalid || c.listener) = false
  flows : c.inbound.Flows

/-- The image of a frame is put on the stream. -/
theorem Sends.sendFrame {c : TcpConn} (h : c.Sends) (frame : Frame) :
  ∃ c', c.sendFrame frame = (true, c') ∧
    c'.outbound.queue = c.outbound.queue ++ encodeFrame frame ∧ c'.Sends
  := by
  obtain ⟨p, hwrite, hqueue, hflows⟩ := h.flows.writeAll (encodeFrame frame)
  rw [TcpConn.sendFrame, h.connected, hwrite]
  exact ⟨_, rfl, hqueue, h.connected, hflows⟩

/-- The bytes at the front of the stream are received. -/
theorem Receives.recvAll {c : TcpConn} (h : c.Receives) {bytes rest : Bytes}
    (hqueue : c.inbound.queue = bytes ++ rest) :
  ∃ c', c.recvAll bytes.length = (some bytes, c') ∧ c'.inbound.queue = rest ∧ c'.Receives
  := by
  obtain ⟨p, hread, hrest, hflows⟩ := h.flows.readAll_append hqueue
  rw [TcpConn.recvAll, hread]
  exact ⟨_, rfl, hrest, h.connected, hflows⟩

theorem recvAll_none {c : TcpConn} {n : ℕ} (h : c.inbound.queue.length < n) :
  ∃ c', c.recvAll n = (none, c')
  := by
  have hnone := Pipe.readAll_none h
  rw [recvAll]
  cases hread : c.inbound.readAll n with
  | mk result p =>
      rw [hread] at hnone
      obtain rfl := hnone
      exact ⟨_, rfl⟩

/-- The fields before the payload are among the first bytes of a frame. -/
theorem take_header (wire : Bytes) {i n : ℕ} (h : i + n ≤ kProtoHeaderSize) :
  ((wire.take kProtoHeaderSize).drop i).take n = (wire.drop i).take n
  := by
  rw [List.drop_take, List.take_take, Nat.min_eq_left (by omega)]

/-- What `recv_frame` does once it has the first bytes of the image of a frame. -/
theorem recvFrame_of_header {c c' : TcpConn} {frame : Frame}
    (hbound : frame.payload.length ≤ kProtoMaxPayload)
    (hconnected : (c.invalid || c.listener) = false)
    (hheader : c.recvAll kProtoHeaderSize
      = (some ((encodeFrame frame).take kProtoHeaderSize), c')) :
  c.recvFrame = if frame.payload.length > 0 then
      match c'.recvAll frame.payload.length with
      | (none, c) => (.error "connection closed / truncated payload", c)
      | (some rest, c) => (decodeFrame ((encodeFrame frame).take kProtoHeaderSize ++ rest), c)
    else (decodeFrame ((encodeFrame frame).take kProtoHeaderSize), c')
  := by
  have hmagic : ((encodeFrame frame).take kProtoHeaderSize).take 4 = kProtoMagic := by
    have htake := take_header (encodeFrame frame) (by decide : 0 + 4 ≤ kProtoHeaderSize)
    rw [List.drop_zero, List.drop_zero] at htake
    rw [htake, magic_encodeFrame]
  rw [recvFrame, hconnected, hheader]
  simp only [Bool.false_eq_true, if_false]
  rw [if_neg (not_not_intro hmagic), take_header _ (by decide), version_encodeFrame,
    if_neg (not_not_intro rfl), take_header _ (by decide), payloadLen_encodeFrame hbound,
    if_neg (not_lt.mpr hbound)]

theorem length_header (frame : Frame) :
  ((encodeFrame frame).take kProtoHeaderSize).length = kProtoHeaderSize
  := by
  rw [List.length_take, length_encodeFrame]
  omega

theorem length_afterHeader (frame : Frame) :
  ((encodeFrame frame).drop kProtoHeaderSize).length = frame.payload.length
  := by
  rw [List.length_drop, length_encodeFrame]
  omega

/-- A frame whose image is at the front of the stream is received, and the stream goes on after
it. -/
theorem Receives.recvFrame {c : TcpConn} (h : c.Receives) {frame : Frame} {rest : Bytes}
    (hbound : frame.payload.length ≤ kProtoMaxPayload)
    (hqueue : c.inbound.queue = encodeFrame frame ++ rest) :
  ∃ c', c.recvFrame = (.ok frame, c') ∧ c'.inbound.queue = rest ∧ c'.Receives
  := by
  rw [← List.take_append_drop kProtoHeaderSize (encodeFrame frame), List.append_assoc] at hqueue
  obtain ⟨c₁, hheader, hqueue₁, h₁⟩ := h.recvAll hqueue
  rw [length_header] at hheader
  rw [recvFrame_of_header hbound h.connected hheader]
  split
  next =>
    obtain ⟨c₂, hpayload, hqueue₂, h₂⟩ := h₁.recvAll hqueue₁
    rw [length_afterHeader] at hpayload
    rw [hpayload]
    dsimp only
    rw [List.take_append_drop, decodeFrame_encodeFrame hbound]
    exact ⟨c₂, rfl, hqueue₂, h₂⟩
  next hempty =>
    have hlength := length_encodeFrame frame
    rw [List.take_of_length_le (by omega), decodeFrame_encodeFrame hbound]
    rw [List.drop_eq_nil_of_le (by omega)] at hqueue₁
    exact ⟨c₁, rfl, hqueue₁, h₁⟩

/-- When the stream ends before the image of a frame does, no frame is received. -/
theorem Receives.recvFrame_cut {c : TcpConn} (h : c.Receives) {frame : Frame} {k : ℕ}
    (hbound : frame.payload.length ≤ kProtoMaxPayload) (hk : k < (encodeFrame frame).length)
    (hqueue : c.inbound.queue = (encodeFrame frame).take k) :
  ∃ error c', c.recvFrame = (.error error, c')
  := by
  have hlength : c.inbound.queue.length = k := by
    rw [hqueue, List.length_take]
    omega
  rw [length_encodeFrame] at hk
  by_cases hheader : k < kProtoHeaderSize
  · obtain ⟨c', hnone⟩ := recvAll_none (hlength.trans_lt hheader)
    rw [TcpConn.recvFrame, h.connected, hnone]
    exact ⟨_, _, rfl⟩
  · have hsplit : c.inbound.queue = (encodeFrame frame).take kProtoHeaderSize ++
        ((encodeFrame frame).drop kProtoHeaderSize).take (k - kProtoHeaderSize) := by
      rw [hqueue, ← List.take_add, Nat.add_sub_cancel' (not_lt.mp hheader)]
    obtain ⟨c₁, hread, hqueue₁, h₁⟩ := h.recvAll hsplit
    rw [length_header] at hread
    have hshort : c₁.inbound.queue.length < frame.payload.length := by
      rw [hqueue₁, List.length_take]
      omega
    obtain ⟨c', hnone⟩ := recvAll_none hshort
    rw [recvFrame_of_header hbound h.connected hread, if_pos (by omega), hnone]
    exact ⟨_, _, rfl⟩

/-! ### Lists of frames -/

/-- The images of the frames are put on the stream one after another. -/
theorem Sends.sendFrames {c : TcpConn} (h : c.Sends) (frames : List Frame) :
  ∃ c', c.sendFrames frames = (frames.map fun _ => true, c') ∧
    c'.outbound.queue = c.outbound.queue ++ frames.flatMap encodeFrame ∧ c'.Sends
  := by
  induction frames generalizing c with
  | nil => exact ⟨c, rfl, by simp, h⟩
  | cons frame frames ih =>
      obtain ⟨c₁, hsend, hqueue, h₁⟩ := h.sendFrame frame
      obtain ⟨c₂, hsends, hqueues, h₂⟩ := ih h₁
      refine ⟨c₂, ?_, ?_, h₂⟩
      · rw [TcpConn.sendFrames, hsend]
        dsimp only
        rw [hsends]
        rfl
      · rw [hqueues, hqueue, List.flatMap_cons, List.append_assoc]

/-- The frames at the front of the stream are received one after another. -/
theorem Receives.recvFrames {c : TcpConn} (h : c.Receives) {frames : List Frame} {rest : Bytes}
    (hbound : ∀ frame ∈ frames, frame.payload.length ≤ kProtoMaxPayload)
    (hqueue : c.inbound.queue = frames.flatMap encodeFrame ++ rest) :
  ∃ c', c.recvFrames frames.length = (frames.map .ok, c') ∧ c'.inbound.queue = rest ∧ c'.Receives
  := by
  induction frames generalizing c with
  | nil => exact ⟨c, rfl, hqueue, h⟩
  | cons frame frames ih =>
      rw [List.forall_mem_cons] at hbound
      rw [List.flatMap_cons, List.append_assoc] at hqueue
      obtain ⟨c₁, hrecv, hqueue₁, h₁⟩ := h.recvFrame hbound.1 hqueue
      obtain ⟨c₂, hrecvs, hqueue₂, h₂⟩ := ih h₁ hbound.2 hqueue₁
      refine ⟨c₂, ?_, hqueue₂, h₂⟩
      rw [List.length_cons, TcpConn.recvFrames, hrecv]
      dsimp only
      rw [hrecvs]
      rfl

/-- Whatever the sizes of the pieces in which the sockets accept and deliver them, the bytes of the
frames that `c` has sent are received by `d` as these frames, with none left; and when the bytes end
inside a frame, the frames before it are received and then none. -/
theorem framing_lossless {c d : TcpConn} (hc : c.Sends) (hnew : c.outbound.queue = [])
    (hd : d.Receives) {frames : List Frame}
    (hbound : ∀ frame ∈ frames, frame.payload.length ≤ kProtoMaxPayload) :
  (c.sendFrames frames).1 = frames.map (fun _ => true) ∧
  (d.inbound.queue = (c.sendFrames frames).2.outbound.queue →
    (d.recvFrames frames.length).1 = frames.map .ok ∧
    (d.recvFrames frames.length).2.inbound.queue = []) ∧
  ∀ frame : Frame, frame.payload.length ≤ kProtoMaxPayload → ∀ k < (encodeFrame frame).length,
    d.inbound.queue = (c.sendFrames frames).2.outbound.queue ++ (encodeFrame frame).take k →
    (d.recvFrames frames.length).1 = frames.map .ok ∧
    ∃ error, (d.recvFrames frames.length).2.recvFrame.1 = .error error
  := by
  obtain ⟨c', hsends, hsent, -⟩ := hc.sendFrames frames
  rw [hnew, List.nil_append] at hsent
  rw [hsends, hsent]
  refine ⟨rfl, ?_, ?_⟩
  · intro hstream
    rw [← List.append_nil (frames.flatMap encodeFrame)] at hstream
    obtain ⟨d', hrecvs, hrest, -⟩ := hd.recvFrames hbound hstream
    rw [hrecvs]
    exact ⟨rfl, hrest⟩
  · intro frame hframe k hk hstream
    obtain ⟨d', hrecvs, hrest, hd'⟩ := hd.recvFrames hbound hstream
    obtain ⟨error, d'', hcut⟩ := hd'.recvFrame_cut hframe hk hrest
    rw [hrecvs, hcut]
    exact ⟨rfl, error, rfl⟩

namespace Fixture

def frames : List Frame := [{ type := .publishDevice, payload := [1, 2, 3] }, { type := .ready }]

/-- A connection whose socket accepts up to five bytes at a time. -/
def sending : TcpConn := { outbound := { limits := fun _ => 5 } }

/-- A connection whose socket delivers what the other one has sent, one, two or three bytes at a
time. -/
def receiving : TcpConn :=
  { inbound :=
      { queue := (sending.sendFrames frames).2.outbound.queue
        limits := fun i => i % 3 + 1 } }

theorem sends_sending :
  sending.Sends
  := ⟨rfl, fun _ => Nat.succ_pos _⟩

theorem receives_receiving :
  receiving.Receives
  := ⟨rfl, fun _ => Nat.succ_pos _⟩

end Fixture

theorem framing_lossless_fixture :
  (Fixture.receiving.recvFrames Fixture.frames.length).1 = Fixture.frames.map .ok ∧
  (Fixture.receiving.recvFrames Fixture.frames.length).2.inbound.queue = []
  := (framing_lossless Fixture.sends_sending rfl Fixture.receives_receiving (by decide)).2.1 rfl

end TcpConn

end GpuDirectFabric

import GpuDirectFabric.Library.PrefixCode
import GpuDirectFabric.Transport

/-!
# Streams

A thread of the server receives frames until one can not be received.  What it receives is a
function of the bytes that arrive: the images of frames are a prefix code, so a stream of bytes has
one parse into images, and the loop goes through it, in whatever pieces the bytes are delivered.
A socket that fails earlier delivers the first frames of the parse.  Where the bytes at hand are not
the image of a frame, nothing is skipped to find one: the loop ends there.
-/

namespace GpuDirectFabric

open Codec Persistence Protocol

namespace TcpConn

/-- Receive frames until one can not be received, or `n` have been: the frames, and why the loop has
ended. -/
def recvLoop : ℕ → TcpConn → List Frame × Option Str
  | 0, _ => ([], none)
  | n + 1, c =>
    match c.recvFrame with
    | (.error e, _) => ([], some e)
    | (.ok frame, c) =>
      let (frames, e) := recvLoop n c
      (frame :: frames, e)

end TcpConn

namespace Protocol

/-- The payload of the frame is within the bound. -/
def Sendable (frame : Frame) : Prop := frame.payload.length ≤ kProtoMaxPayload

/-- What `recv_frame` makes of a stream of bytes: the frame at its front and the bytes after it. -/
def parseFrame (stream : Bytes) : Except Str (Frame × Bytes) :=
  if stream.length < kProtoHeaderSize then .error "connection closed / truncated header"
  else if (stream.take kProtoHeaderSize).take 4 ≠ kProtoMagic then .error "bad magic"
  else if leNat (((stream.take kProtoHeaderSize).drop 4).take 2) ≠ kProtoVersion then
    .error "unsupported protocol version"
  else
    let payloadLen := leNat (((stream.take kProtoHeaderSize).drop 8).take 4)
    if payloadLen > kProtoMaxPayload then .error "absurd payload length"
    else if stream.length < kProtoHeaderSize + payloadLen then
      .error "connection closed / truncated payload"
    else
      (decodeFrame (stream.take (kProtoHeaderSize + payloadLen))).map
        fun frame => (frame, stream.drop (kProtoHeaderSize + payloadLen))

/-- The images of frames are a prefix code: where an image ends is said in its header. -/
theorem prefixCode_encodeFrame :
  PrefixCode Sendable encodeFrame
  := by
  intro f g r r' hf hg heq
  have hfield : ∀ {frame : Frame} (rest : Bytes), Sendable frame →
      leNat (((encodeFrame frame ++ rest).drop 8).take 4) = frame.payload.length := by
    intro frame rest hframe
    have hlength := length_encodeFrame frame
    rw [kProtoHeaderSize] at hlength
    rw [List.drop_append_of_le_length (by omega), List.take_append_of_le_length,
      payloadLen_encodeFrame hframe]
    rw [List.length_drop]
    omega
  have hpayload : f.payload.length = g.payload.length := by
    rw [← hfield r hf, heq, hfield r' hg]
  have hlength : (encodeFrame f).length = (encodeFrame g).length := by
    rw [length_encodeFrame, length_encodeFrame, hpayload]
  have himage := (List.append_inj heq hlength).1
  have hdecode := decodeFrame_encodeFrame hf
  rw [himage, decodeFrame_encodeFrame hg] at hdecode
  apply (Except.ok.inj hdecode).symm

end Protocol

namespace TcpConn

variable {c : TcpConn} {frame : Frame} {stream rest : Bytes}

/-! ### Receiving from any socket -/

/-- What is received was at the front of the stream. -/
theorem queue_of_recvAll {c' : TcpConn} {n : ℕ} {bytes : Bytes}
    (h : c.recvAll n = (some bytes, c')) :
  c.inbound.queue = bytes ++ c'.inbound.queue
  := by
  rw [recvAll] at h
  cases hread : c.inbound.readAll n with
  | mk result p =>
      rw [hread] at h
      obtain ⟨rfl, rfl⟩ := Prod.mk.inj h
      apply (Pipe.queue_of_readAll hread).1

/-- A frame that is received was at the front of the stream, whether or not its socket fails
later. -/
theorem queue_of_recvFrame {c' : TcpConn} (h : c.recvFrame = (.ok frame, c')) :
  Sendable frame ∧ c.inbound.queue = encodeFrame frame ++ c'.inbound.queue
  := by
  rw [recvFrame] at h
  split at h
  next => cases h
  split at h
  next => cases h
  next header c₁ hheader =>
  split at h
  next => cases h
  split at h
  next => cases h
  dsimp only at h
  split at h
  next => cases h
  split at h
  next =>
    split at h
    next => cases h
    next payload c₂ hpayload =>
      obtain ⟨hdecode, rfl⟩ := Prod.mk.inj h
      use length_of_decodeFrame hdecode
      rw [queue_of_recvAll hheader, queue_of_recvAll hpayload, encodeFrame_of_decodeFrame hdecode,
        List.append_assoc]
  next =>
    obtain ⟨hdecode, rfl⟩ := Prod.mk.inj h
    use length_of_decodeFrame hdecode
    rw [queue_of_recvAll hheader, encodeFrame_of_decodeFrame hdecode]

/-- The frames of the loop are at the front of the stream. -/
theorem queue_of_recvLoop (n : ℕ) (c : TcpConn) :
  (∀ frame ∈ (c.recvLoop n).1, Sendable frame) ∧
    ∃ rest, c.inbound.queue = (c.recvLoop n).1.flatMap encodeFrame ++ rest
  := by
  induction n generalizing c with
  | zero => exact ⟨List.forall_mem_nil _, c.inbound.queue, rfl⟩
  | succ n ih =>
      rw [recvLoop]
      split
      next => exact ⟨List.forall_mem_nil _, c.inbound.queue, rfl⟩
      next frame c' hrecv =>
        obtain ⟨hframe, hqueue⟩ := queue_of_recvFrame hrecv
        obtain ⟨hframes, rest, hrest⟩ := ih c'
        use List.forall_mem_cons.mpr ⟨hframe, hframes⟩, rest
        rw [hqueue, hrest, List.flatMap_cons, List.append_assoc]

/-- The loop ends, since every frame takes bytes off the stream. -/
theorem recvLoop_ends (n : ℕ) (c : TcpConn) (hn : c.inbound.queue.length < n) :
  (c.recvLoop n).2.isSome = true
  := by
  induction n generalizing c with
  | zero => omega
  | succ n ih =>
      rw [recvLoop]
      split
      next => rfl
      next frame c' hrecv =>
        apply ih c'
        have hlength := congrArg List.length (queue_of_recvFrame hrecv).2
        rw [List.length_append, length_encodeFrame, kProtoHeaderSize] at hlength
        omega

/-! ### Receiving from a socket that delivers -/

/-- As many bytes as there are can be received. -/
theorem Receives.recvAll_take (h : c.Receives) {n : ℕ} (hn : n ≤ c.inbound.queue.length) :
  ∃ c', c.recvAll n = (some (c.inbound.queue.take n), c') ∧
    c'.inbound.queue = c.inbound.queue.drop n ∧ c'.Receives
  := by
  obtain ⟨c', hrecv, hqueue, hc'⟩ := h.recvAll (List.take_append_drop n c.inbound.queue).symm
  rw [List.length_take, Nat.min_eq_left hn] at hrecv
  exact ⟨c', hrecv, hqueue, hc'⟩

/-- What is received is what has been parsed, and the connection goes on with the rest. -/
def Delivers : Except Str (Frame × Bytes) → Except Str Frame × TcpConn → Prop
  | .error e, received => received.1 = .error e
  | .ok (frame, rest), received =>
    received.1 = .ok frame ∧ received.2.inbound.queue = rest ∧ received.2.Receives

/-- Both fail by the same check, or neither does. -/
theorem Delivers.check {p : Prop} [Decidable p] {e : Str} {c' : TcpConn}
    {parsed : Except Str (Frame × Bytes)} {received : Except Str Frame × TcpConn}
    (h : ¬p → Delivers parsed received) :
  Delivers (if p then .error e else parsed) (if p then (.error e, c') else received)
  := by
  by_cases hp : p
  · rw [if_pos hp, if_pos hp]
    rfl
  · rw [if_neg hp, if_neg hp]
    apply h hp

theorem Delivers.decode (h : c.Receives) (hqueue : c.inbound.queue = rest) (bytes : Bytes) :
  Delivers ((decodeFrame bytes).map fun frame => (frame, rest)) (decodeFrame bytes, c)
  := by
  cases decodeFrame bytes with
  | error e => rfl
  | ok frame => exact ⟨rfl, hqueue, h⟩

/-- A connection receives what the stream of its bytes says. -/
theorem Receives.delivers (h : c.Receives) :
  Delivers (parseFrame c.inbound.queue) c.recvFrame
  := by
  rw [parseFrame, TcpConn.recvFrame, h.connected]
  by_cases hlength : c.inbound.queue.length < kProtoHeaderSize
  · obtain ⟨c', hnone⟩ := recvAll_none hlength
    rw [if_pos hlength, hnone]
    rfl
  obtain ⟨c₁, hheader, hqueue, h₁⟩ := h.recvAll_take (not_lt.mp hlength)
  rw [if_neg hlength, hheader]
  generalize hstream : c.inbound.queue = stream at hqueue
  dsimp only
  apply Delivers.check
  intro
  apply Delivers.check
  intro
  apply Delivers.check
  intro
  generalize leNat (((stream.take kProtoHeaderSize).drop 8).take 4) = payloadLen
  rw [hstream] at hlength
  by_cases hshort : stream.length < kProtoHeaderSize + payloadLen
  · have hrest : c₁.inbound.queue.length < payloadLen := by
      rw [hqueue, List.length_drop]
      omega
    obtain ⟨c', hnone⟩ := recvAll_none hrest
    rw [if_pos hshort, if_pos (by omega), hnone]
    rfl
  rw [if_neg hshort]
  by_cases hpos : payloadLen > 0
  · have hrest : payloadLen ≤ c₁.inbound.queue.length := by
      rw [hqueue, List.length_drop]
      omega
    obtain ⟨c₂, hpayload, hqueue₂, h₂⟩ := h₁.recvAll_take hrest
    rw [if_pos hpos, hpayload, hqueue]
    dsimp only
    rw [← List.take_add]
    apply Delivers.decode h₂
    rw [hqueue₂, hqueue, List.drop_drop]
  · obtain rfl : payloadLen = 0 := by omega
    rw [if_neg hpos]
    apply Delivers.decode h₁ hqueue

/-- A connection whose socket delivers the bytes one at a time. -/
def ofStream (stream : Bytes) : TcpConn := { inbound := { queue := stream, limits := fun _ => 1 } }

theorem receives_ofStream (stream : Bytes) :
  (ofStream stream).Receives
  := ⟨rfl, fun _ => Nat.one_pos⟩

/-- The stream starts with the image of a frame exactly when a frame is parsed. -/
theorem parseFrame_eq_ok_iff :
  parseFrame stream = .ok (frame, rest) ↔ Sendable frame ∧ stream = encodeFrame frame ++ rest
  := by
  have hone := receives_ofStream stream
  have hdelivers := hone.delivers
  rw [ofStream] at hdelivers
  dsimp only at hdelivers
  rw [← ofStream] at hdelivers
  constructor
  · intro hparse
    rw [hparse] at hdelivers
    obtain ⟨hframe, hrest, -⟩ := hdelivers
    have hreceived := queue_of_recvFrame (Prod.ext hframe rfl)
    rw [hrest] at hreceived
    apply hreceived
  · rintro ⟨hframe, hstream⟩
    obtain ⟨c', hrecv, hrest, -⟩ := hone.recvFrame hframe hstream
    rw [hrecv] at hdelivers
    cases hparse : parseFrame stream with
    | error e =>
        rw [hparse] at hdelivers
        cases hdelivers
    | ok parsed =>
        rw [hparse] at hdelivers
        obtain ⟨hframe', hrest', -⟩ := hdelivers
        obtain rfl := Except.ok.inj hframe'
        rw [← hrest, hrest']

/-- A loop that goes on for long enough receives the frames of the parse, and ends for the reason
that the rest is not the image of a frame. -/
theorem Receives.recvLoop_parses (h : c.Receives) {n : ℕ} (hn : c.inbound.queue.length < n) :
  ∃ rest e, PrefixCode.Parses Sendable encodeFrame c.inbound.queue (c.recvLoop n).1 rest ∧
    parseFrame rest = .error e ∧ (c.recvLoop n).2 = some e
  := by
  induction n generalizing c with
  | zero => omega
  | succ n ih =>
      have hdelivers := h.delivers
      rw [recvLoop]
      cases hparse : parseFrame c.inbound.queue with
      | error e =>
          rw [hparse] at hdelivers
          split
          next e' c' hrecv =>
            rw [hrecv] at hdelivers
            obtain rfl := Except.error.inj hdelivers
            use c.inbound.queue, e'
            refine ⟨.nil ?_, hparse, rfl⟩
            intro frame rest hframe hqueue
            rw [parseFrame_eq_ok_iff.mpr ⟨hframe, hqueue⟩] at hparse
            cases hparse
          next frame c' hrecv =>
            rw [hrecv] at hdelivers
            cases hdelivers
      | ok parsed =>
          obtain ⟨frame, rest⟩ := parsed
          rw [hparse] at hdelivers
          obtain ⟨hframe, hqueue⟩ := parseFrame_eq_ok_iff.mp hparse
          split
          next e' c' hrecv =>
            rw [hrecv] at hdelivers
            cases hdelivers.1
          next frame' c' hrecv =>
            rw [hrecv] at hdelivers
            obtain ⟨hsame, hrest, hc'⟩ := hdelivers
            obtain rfl := Except.ok.inj hsame
            dsimp only at hrest
            have hlength := congrArg List.length hqueue
            rw [List.length_append, length_encodeFrame, kProtoHeaderSize] at hlength
            obtain ⟨rest', e, hparses, herror, hend⟩ := ih hc' (by rw [hrest]; omega)
            rw [hrest] at hparses
            use rest', e
            rw [hqueue]
            use hparses.cons hframe, herror, hend

/-- What a loop of `recv_frame` receives is a function of the bytes.  Each stream of bytes has one
parse into frames and a rest, and only one.  Every socket that delivers these bytes gets some of
the first frames of the parse out of the loop, which always ends; and every socket that delivers
them to the end, in pieces of any size, gets all of them, and the same error after them. -/
theorem stream_unambiguous (stream : Bytes) :
  ∃ frames rest error, PrefixCode.Parses Sendable encodeFrame stream frames rest ∧
    (∀ frames' rest', PrefixCode.Parses Sendable encodeFrame stream frames' rest' →
      frames' = frames ∧ rest' = rest) ∧
    ∀ (c : TcpConn) (n : ℕ), c.inbound.queue = stream → stream.length < n →
      (c.recvLoop n).1 <+: frames ∧ (c.recvLoop n).2.isSome = true ∧
      (c.Receives → (c.recvLoop n).1 = frames ∧ (c.recvLoop n).2 = some error)
  := by
  obtain ⟨rest, error, hparses, herror, -⟩ :=
    (receives_ofStream stream).recvLoop_parses (Nat.lt_succ_self stream.length)
  refine ⟨_, rest, error, hparses, ?_, ?_⟩
  · intro frames' rest' hparses'
    apply hparses'.unique prefixCode_encodeFrame hparses
  rintro c n rfl hn
  obtain ⟨hframes, rest', hqueue⟩ := queue_of_recvLoop n c
  use hparses.starts prefixCode_encodeFrame hframes hqueue, recvLoop_ends n c hn
  intro hc
  obtain ⟨rest'', error', hparses', herror', hend⟩ := hc.recvLoop_parses hn
  obtain ⟨hsame, rfl⟩ := hparses'.unique prefixCode_encodeFrame hparses
  rw [herror] at herror'
  rw [hend, hsame, Except.error.inj herror']
  use rfl

end TcpConn

end GpuDirectFabric

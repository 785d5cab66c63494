import GpuDirectFabric.FrameCodec
import GpuDirectFabric.Library.Burst
import Mathlib.Data.Nat.Bitwise

/-!
# Corrupted bytes

The checksum is that of a shift register of four bytes: the entries of the CRC table have distinct
highest bytes, so the highest byte of the register shows which entry has come in last.  The frames
of the protocol and of state files are sealed by it, and an accepted byte string is sealed as well;
so what differs from a frame in a burst of at most four bytes is rejected.
-/

namespace GpuDirectFabric

open Codec

namespace Persistence

/-! ### The CRC table -/

theorem and_one_cases (c : UInt32) :
  c &&& 1 = 0 ∨ c &&& 1 = 1
  := by
  have hmod : (c &&& 1).toNat = c.toNat % 2 := by
    rw [UInt32.toNat_and]
    exact Nat.and_one_is_mod _
  obtain heven | hodd := Nat.mod_two_eq_zero_or_one c.toNat
  · exact .inl (UInt32.toNat_inj.mp (hmod.trans heven))
  · exact .inr (UInt32.toNat_inj.mp (hmod.trans hodd))

theorem xor_and (a b m : UInt32) :
  (a ^^^ b) &&& m = (a &&& m) ^^^ (b &&& m)
  := by
  apply UInt32.toNat_inj.mp
  simp only [UInt32.toNat_and, UInt32.toNat_xor]
  exact Nat.and_xor_distrib_right

theorem toNat_and_byte (c : UInt32) :
  (c &&& 0xFF).toNat = c.toNat % 256
  := by
  rw [UInt32.toNat_and]
  exact Nat.and_two_pow_sub_one_eq_mod c.toNat 8

theorem byte_and (b : UInt8) :
  b.toUInt32 &&& 0xFF = b.toUInt32
  := by
  apply UInt32.toNat_inj.mp
  rw [toNat_and_byte, UInt8.toNat_toUInt32]
  exact Nat.mod_eq_of_lt b.toNat_lt

/-- A step of the division is linear. -/
theorem crcStep_xor (a b : UInt32) :
  crcStep (a ^^^ b) = crcStep a ^^^ crcStep b
  := by
  rw [crcStep, crcStep, crcStep, xor_and, UInt32.shiftRight_xor]
  obtain ha | ha := and_one_cases a
  · obtain hb | hb := and_one_cases b
    · rw [ha, hb]
      simp
    · rw [ha, hb]
      simp
      ac_rfl
  · obtain hb | hb := and_one_cases b
    · rw [ha, hb]
      simp
      ac_rfl
    · have hcancel : ∀ p x y : UInt32, p ^^^ x ^^^ (p ^^^ y) = p ^^^ p ^^^ (x ^^^ y) := by
        intro p x y
        ac_rfl
      rw [ha, hb]
      simp
      rw [hcancel, UInt32.xor_self, UInt32.zero_xor]

theorem crcEntry_xor (a b : UInt32) :
  crcEntry (a ^^^ b) = crcEntry a ^^^ crcEntry b
  := Function.Semiconj₂.iterate crcStep_xor 8 a b

theorem crcEntry_high_eq_zero :
  ∀ i : Fin 256, crcEntry (UInt32.ofNat i) >>> 24 = 0 → i = 0
  := by decide +kernel

/-- The highest bytes of the entries of the table are distinct. -/
theorem crcEntry_high_injective {i j : UInt32} (hi : i.toNat < 256) (hj : j.toNat < 256)
    (h : crcEntry i >>> 24 = crcEntry j >>> 24) :
  i = j
  := by
  have hlt : (i ^^^ j).toNat < 256 := by
    rw [UInt32.toNat_xor]
    exact Nat.xor_lt_two_pow (n := 8) hi hj
  have hzero : crcEntry (UInt32.ofNat (i ^^^ j).toNat) >>> 24 = 0 := by
    rw [UInt32.ofNat_toNat, crcEntry_xor, UInt32.shiftRight_xor, h, UInt32.xor_self]
  have hxor : (i ^^^ j).toNat = 0 := congrArg Fin.val (crcEntry_high_eq_zero ⟨_, hlt⟩ hzero)
  exact UInt32.xor_eq_zero_iff.mp (UInt32.toNat_inj.mp hxor)

/-! ### The register -/

/-- The entry of the table a byte selects. -/
def crcIndex (c : UInt32) (b : UInt8) : UInt32 := (c ^^^ b.toUInt32) &&& 0xFF

/-- The register takes a byte in. -/
def crcNext (c : UInt32) (b : UInt8) : UInt32 := crcEntry (crcIndex c b) ^^^ (c >>> 8)

/-- The registers agree above the `k` lowest bytes. -/
def CrcAgree (k : ℕ) (c c' : UInt32) : Prop := c.toNat >>> (8 * k) = c'.toNat >>> (8 * k)

theorem crcIndex_lt (c : UInt32) (b : UInt8) :
  (crcIndex c b).toNat < 256
  := by
  rw [crcIndex, toNat_and_byte]
  exact Nat.mod_lt _ (by decide)

theorem crcNext_shift (c : UInt32) (b : UInt8) (m : ℕ) :
  (crcNext c b).toNat >>> m = ((crcEntry (crcIndex c b)).toNat >>> m) ^^^ (c.toNat >>> (8 + m))
  := by
  rw [crcNext, UInt32.toNat_xor, UInt32.toNat_shiftRight, Nat.shiftRight_xor_distrib,
    Nat.shiftRight_add]
  rfl

/-- Where registers agree above some place after a byte, the byte has selected the same entry, and
they agreed above the next place. -/
theorem crcAgree_back {k : ℕ} {c c' : UInt32} {b b' : UInt8} (hk : k < 4)
    (h : CrcAgree k (crcNext c b) (crcNext c' b')) :
  crcIndex c b = crcIndex c' b' ∧ CrcAgree (k + 1) c c'
  := by
  have hhigh : ∀ c : UInt32, c.toNat >>> 32 = 0 := by
    intro c
    rw [Nat.shiftRight_eq_div_pow]
    exact Nat.div_eq_of_lt c.toNat_lt
  have htop : ∀ (c : UInt32) (b : UInt8), (crcNext c b).toNat >>> 24
      = (crcEntry (crcIndex c b) >>> 24).toNat := by
    intro c b
    rw [crcNext_shift, hhigh, Nat.xor_zero]
    rfl
  have hindex : crcIndex c b = crcIndex c' b' := by
    have hsum : 8 * k + (24 - 8 * k) = 24 := by omega
    apply crcEntry_high_injective (crcIndex_lt c b) (crcIndex_lt c' b')
    apply UInt32.toNat_inj.mp
    rw [← htop, ← htop, ← hsum, Nat.shiftRight_add, h, ← Nat.shiftRight_add]
  use hindex
  rw [CrcAgree, crcNext_shift, crcNext_shift, hindex] at h
  rw [CrcAgree, Nat.mul_succ, Nat.add_comm]
  exact Nat.xor_right_injective h

/-- A register and the entry a byte has selected determine the byte. -/
theorem crcIndex_injective (c : UInt32) :
  Function.Injective (crcIndex c)
  := by
  intro b b' h
  rw [crcIndex, crcIndex, xor_and, xor_and, UInt32.xor_right_inj, byte_and, byte_and] at h
  exact UInt8.toUInt32_inj.mp h

/-- A byte and the entry it has selected determine the lowest byte of the register. -/
theorem low_of_crcIndex {c c' : UInt32} {b : UInt8} (h : crcIndex c b = crcIndex c' b) :
  c.toNat % 256 = c'.toNat % 256
  := by
  rw [crcIndex, crcIndex, xor_and, xor_and, UInt32.xor_left_inj] at h
  rw [← toNat_and_byte, ← toNat_and_byte, h]

/-- The register of the checksum. -/
def crcRegister : ShiftRegister UInt32 UInt8 where
  step := crcNext
  depth := 4
  Agree := CrcAgree
  agree_zero := by
    intro c c'
    exact UInt32.toNat_inj
  step_injective := by
    intro b c c' h
    obtain ⟨hindex, hhigh⟩ := crcAgree_back (k := 0) (by decide) (congrArg UInt32.toNat h)
    have hlow := low_of_crcIndex hindex
    apply UInt32.toNat_inj.mp
    rw [CrcAgree, Nat.shiftRight_eq_div_pow, Nat.shiftRight_eq_div_pow] at hhigh
    omega
  back := fun hk h => (crcAgree_back hk h).2
  symbol := fun hk h => crcIndex_injective _ (crcAgree_back hk h).1

/-- The checksum, as it is written after what it covers. -/
def crcSeal : Seal crcRegister where
  image c := putU32 (c ^^^ 0xFFFFFFFF).toNat
  length_image _ := length_putLE 4 _
  agree := by
    intro k c c' h
    have hword : ∀ c : UInt32, leNat ((putU32 c.toNat).drop k) = c.toNat >>> (8 * k) := by
      intro c
      have hlt : c.toNat < 256 ^ 4 := c.toNat_lt
      rw [leNat_drop, putU32, leNat_putLE, Nat.mod_eq_of_lt hlt, Nat.shiftRight_eq_div_pow,
        Nat.pow_mul]
    have hshift := congrArg leNat h
    rw [hword, hword, UInt32.toNat_xor, UInt32.toNat_xor, Nat.shiftRight_xor_distrib,
      Nat.shiftRight_xor_distrib] at hshift
    exact Nat.xor_left_inj.mp hshift

/-- Byte strings with their checksums do not differ in a burst. -/
theorem not_burst_crc32 (data data' : Bytes) :
  ¬Burst 4 (data ++ putU32 (crc32 data).toNat) (data' ++ putU32 (crc32 data').toNat)
  := crcSeal.not_burst 0xFFFFFFFF data data'

end Persistence

open Persistence Protocol Coordinator

/-! ### Corrupted frames and files -/

/-- What differs from a frame or from a state file in a burst of at most four bytes is rejected. -/
theorem short_bursts_rejected :
  (∀ (frame : Frame) (wire : Bytes), frame.payload.length ≤ kProtoMaxPayload →
    Burst 4 (encodeFrame frame) wire → ∃ e, decodeFrame wire = .error e) ∧
  ∀ (s : State) (file : Bytes), (stateBody s).length ≤ kMaxPayload →
    Burst 4 (persistToFile s) file → ∀ out, ∃ e, recoverFromFile file out = (.error e, out)
  := by
  constructor
  · intro frame wire _ hburst
    cases hdecode : decodeFrame wire with
    | error e => exact ⟨e, rfl⟩
    | ok frame' =>
        rw [← encodeFrame_of_decodeFrame hdecode] at hburst
        exact absurd hburst (not_burst_crc32 _ _)
  · intro s file _ hburst out
    cases hopen : openFrame file with
    | error e =>
        use e
        rw [recoverFromFile, hopen]
    | ok body =>
        rw [(frame_of_openFrame hopen).1] at hburst
        exact absurd hburst (not_burst_crc32 _ _)

namespace Fixture

/-- A frame, and the same with two bytes of it changed, the last one of the payload and the first
one of the checksum. -/
def intact : Frame := { type := .ready, payload := [1, 2, 3] }

def corrupt : Bytes := (encodeFrame intact).set 14 0 |>.set 15 0

theorem burst_corrupt :
  Burst 4 (encodeFrame intact) corrupt
  where
  length := by decide +kernel
  ne := by decide +kernel
  window := ⟨14, by decide +kernel, by decide +kernel⟩

end Fixture

theorem short_bursts_rejected_corrupt :
  ∃ e, decodeFrame Fixture.corrupt = .error e
  := short_bursts_rejected.1 Fixture.intact Fixture.corrupt (by decide) Fixture.burst_corrupt

end GpuDirectFabric

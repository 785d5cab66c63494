import GpuDirectFabric.PayloadCalls

/-!
# Payloads read back

A payload is written field by field with the `pw_*` functions.  The calls of the payload reader that
match the fields return them again and end where the payload does, exactly when none of the strings
is longer than the reader accepts.
-/

namespace GpuDirectFabric

open Codec Persistence

/-! ### Written payloads -/

namespace Protocol

def pwU8 (b : Bytes) (v : UInt8) : Bytes := b ++ [v]

def pwU16 (b : Bytes) (v : UInt16) : Bytes := b ++ putLE 2 v.toNat

def pwU32 (b : Bytes) (v : UInt32) : Bytes := b ++ putU32 v.toNat

def pwU64 (b : Bytes) (v : UInt64) : Bytes := b ++ putU64 v.toNat

/-- Of the length, the low 32 bits are written. -/
def pwStr (b : Bytes) (s : Str) : Bytes := b ++ putStr s

end Protocol

/-- A field that is written to a payload. -/
inductive PayloadField where
  | u8 (v : UInt8)
  | u16 (v : UInt16)
  | u32 (v : UInt32)
  | u64 (v : UInt64)
  | str (s : Str)

namespace PayloadField

open Protocol in
def write (b : Bytes) : PayloadField → Bytes
  | .u8 v => pwU8 b v
  | .u16 v => pwU16 b v
  | .u32 v => pwU32 b v
  | .u64 v => pwU64 b v
  | .str s => pwStr b s

/-- The call that reads the field. -/
def call : PayloadField → ReadCall
  | .u8 _ => .u8
  | .u16 _ => .u16
  | .u32 _ => .u32
  | .u64 _ => .u64
  | .str _ => .str

def value : PayloadField → ReadValue
  | .u8 v => .number v.toNat
  | .u16 v => .number v.toNat
  | .u32 v => .number v.toNat
  | .u64 v => .number v.toNat
  | .str s => .bytes s

/-- The bytes that are written for the field. -/
def image (f : PayloadField) : Bytes := f.write []

theorem write_eq (b : Bytes) (f : PayloadField) :
  f.write b = b ++ f.image
  := by
  cases f <;> rfl

end PayloadField

/-- Write the fields to a new payload. -/
def writeAll (fs : List PayloadField) : Bytes := fs.foldl PayloadField.write []

theorem writeAll_eq (fs : List PayloadField) :
  writeAll fs = (fs.map PayloadField.image).flatten
  := by
  have hfoldl : ∀ b : Bytes,
      fs.foldl PayloadField.write b = b ++ (fs.map PayloadField.image).flatten := by
    induction fs with
    | nil => exact fun b => (List.append_nil b).symm
    | cons f fs ih =>
        intro b
        rw [List.foldl_cons, ih, f.write_eq, List.append_assoc, List.map_cons, List.flatten_cons]
  exact (hfoldl []).trans (List.nil_append _)

/-- Make the calls one after another, and collect what they come to. -/
def readAll : List ReadCall → PayloadReader → List (ReadResult ReadValue) × PayloadReader
  | [], r => ([], r)
  | c :: cs, r => ((c.run r).1 :: (readAll cs (c.run r).2).1, (readAll cs (c.run r).2).2)

/-- The calls that match the fields return them, and end where the payload does. -/
def ReadsBack (fs : List PayloadField) : Prop :=
  (readAll (fs.map PayloadField.call) { p := writeAll fs }).1 =
      fs.map (fun f => .returned f.value) ∧
    (readAll (fs.map PayloadField.call) { p := writeAll fs }).2.off = (writeAll fs).length

/-! ### Reading back -/

/-- The reader has not failed, and the bytes `bs` come next in its payload. -/
structure Ahead (bs : Bytes) (r : PayloadReader) : Prop where
  fail : r.fail = false
  off : r.off ≤ r.p.length
  size : r.p.length < 2 ^ 64
  rest : bs <+: r.rest

section

variable {r : PayloadReader} {bs bs' : Bytes}

namespace Ahead

theorem left (h : Ahead (bs ++ bs') r) :
  Ahead bs r
  where
  fail := h.fail
  off := h.off
  size := h.size
  rest := (List.prefix_append bs bs').trans h.rest

theorem length_le (h : Ahead bs r) :
  r.off + bs.length ≤ r.p.length
  := by
  have hle := h.rest.length_le
  rw [PayloadReader.length_rest] at hle
  have hoff := h.off
  omega

theorem take_eq (h : Ahead bs r) :
  r.rest.take bs.length = bs
  := (List.prefix_iff_eq_take.mp h.rest).symm

/-- What comes after the first bytes. -/
theorem next (h : Ahead (bs ++ bs') r) :
  Ahead bs' (r.advanced bs.length)
  where
  fail := h.fail
  off := h.left.length_le
  size := h.size
  rest := by
    obtain ⟨rest, hrest⟩ := h.rest
    rw [PayloadReader.rest_advanced, ← hrest, List.append_assoc, List.drop_left]
    exact List.prefix_append bs' rest

end Ahead

theorem readWord_putLE {w n : ℕ} (hn : n < 256 ^ w) (h : Ahead (putLE w n) r) :
  PayloadReader.readWord w r = (.returned n, r.advanced w)
  := by
  have hend := h.length_le
  have hsize := h.size
  have htake := h.take_eq
  rw [length_putLE] at hend htake
  rw [PayloadReader.readWord_eq h.off (by omega), PayloadReader.length_rest, if_pos (by omega),
    htake, leNat_putLE, Nat.mod_eq_of_lt hn]

/-- The length that comes before a string, of which the low 32 bits are written. -/
theorem leNat_putStr {s : Str} (h : Ahead (putStr s) r) :
  leNat (r.rest.take 4) = s.length % 2 ^ 32
  := by
  have hleft : Ahead (putU32 s.length) r := h.left
  have htake := hleft.take_eq
  rw [length_putU32] at htake
  rw [htake, putU32, leNat_putLE]
  rfl

theorem readStr_putStr {s : Str} (hs : s.length ≤ PayloadReader.maxStr) (h : Ahead (putStr s) r) :
  PayloadReader.readStr r = (.returned s, r.advanced (putStr s).length)
  := by
  have hmax : PayloadReader.maxStr = 2 ^ 20 := by decide
  have hlen : leNat (r.rest.take 4) = s.length := by
    rw [leNat_putStr h]
    exact Nat.mod_eq_of_lt (by omega)
  have hsize : Field.str.size r.rest = (putStr s).length := by
    rw [Field.size, hlen, length_putStr]
  have hstr : (r.rest.drop 4).take s.length = s := by
    have hnext : Ahead s (r.advanced (putU32 s.length).length) := h.next
    rw [length_putU32] at hnext
    rw [← PayloadReader.rest_advanced]
    exact hnext.take_eq
  have hend := h.length_le
  have hbound := h.size
  rw [PayloadReader.readStr_eq h.off (by omega), hlen, hsize, hstr, if_pos]
  exact ⟨h.fail, hs, h.rest.length_le⟩

/-- No call returns a string that is longer than the bound. -/
theorem le_of_readStr {s : Str} (h : Ahead (putStr s) r)
    (hreturned : (PayloadReader.readStr r).1 = .returned s) :
  s.length ≤ PayloadReader.maxStr
  := by
  have hlen := Nat.mod_le s.length (2 ^ 32)
  rw [← leNat_putStr h] at hlen
  have hend := h.length_le
  rw [length_putStr] at hend
  have hbound := h.size
  have hfaithful := PayloadReader.readStr_faithful h.off (by rw [Field.size]; omega)
  obtain ⟨hout, -⟩ | ⟨front, a, hout, ⟨-, -, -, -, hmax⟩, -⟩ := hfaithful.outcome
  · rw [hout] at hreturned
    cases hreturned
  · rw [hout] at hreturned
    cases hreturned
    exact hmax

/-- A field that comes next is read, unless it is too long. -/
theorem run_image {f : PayloadField} (hf : ∀ s, f = .str s → s.length ≤ PayloadReader.maxStr)
    (h : Ahead f.image r) :
  f.call.run r = (.returned f.value, r.advanced f.image.length)
  := by
  cases f with
  | u8 v =>
      have himage : putLE 1 v.toNat = [v] := putLE_leNat [v]
      change Ahead [v] r at h
      rw [← himage] at h
      rw [PayloadField.call, ReadCall.run, PayloadReader.readU8, readWord_putLE v.toNat_lt h]
      rfl
  | u16 v =>
      rw [PayloadField.call, ReadCall.run, PayloadReader.readU16, readWord_putLE v.toNat_lt h]
      rfl
  | u32 v =>
      rw [PayloadField.call, ReadCall.run, PayloadReader.readU32, readWord_putLE v.toNat_lt h]
      rfl
  | u64 v =>
      rw [PayloadField.call, ReadCall.run, PayloadReader.readU64, readWord_putLE v.toNat_lt h]
      rfl
  | str s =>
      rw [PayloadField.call, ReadCall.run, readStr_putStr (hf s rfl) h]
      rfl

/-- A field that is read back is not too long. -/
theorem le_of_run {f : PayloadField} (h : Ahead f.image r)
    (hreturned : (f.call.run r).1 = .returned f.value) (s : Str) (hs : f = .str s) :
  s.length ≤ PayloadReader.maxStr
  := by
  obtain rfl := hs
  apply le_of_readStr h
  change (PayloadReader.readStr r).1.map ReadValue.bytes = .returned (.bytes s) at hreturned
  revert hreturned
  cases (PayloadReader.readStr r).1 with
  | returned a =>
      rintro ⟨⟩
      rfl
  | _ => rintro ⟨⟩

/-- Fields that come next are read, unless a string among them is too long. -/
theorem readAll_images {fs : List PayloadField}
    (hfs : ∀ s, .str s ∈ fs → s.length ≤ PayloadReader.maxStr)
    (h : Ahead (fs.map PayloadField.image).flatten r) :
  readAll (fs.map PayloadField.call) r =
    (fs.map (fun f => .returned f.value), r.advanced (fs.map PayloadField.image).flatten.length)
  := by
  induction fs generalizing r with
  | nil => rfl
  | cons f fs ih =>
      rw [List.map_cons, List.flatten_cons] at h
      have hf : ∀ s, f = .str s → s.length ≤ PayloadReader.maxStr := by
        rintro s rfl
        exact hfs s List.mem_cons_self
      rw [List.map_cons, readAll, run_image hf h.left]
      dsimp only
      rw [ih (fun s hs => hfs s (List.mem_cons_of_mem f hs)) h.next,
        PayloadReader.advanced_advanced, ← List.length_append]
      rfl

/-- Of the fields that are read back, no string is too long. -/
theorem le_of_readAll {fs : List PayloadField}
    (h : Ahead (fs.map PayloadField.image).flatten r)
    (hreturned : (readAll (fs.map PayloadField.call) r).1 = fs.map (fun f => .returned f.value)) :
  ∀ s, .str s ∈ fs → s.length ≤ PayloadReader.maxStr
  := by
  induction fs generalizing r with
  | nil => exact fun s hs => absurd hs List.not_mem_nil
  | cons f fs ih =>
      rw [List.map_cons, List.flatten_cons] at h
      rw [List.map_cons, readAll, List.map_cons, List.cons.injEq] at hreturned
      obtain ⟨hfirst, hothers⟩ := hreturned
      have hf := le_of_run h.left hfirst
      rw [run_image hf h.left] at hothers
      intro s hs
      obtain rfl | hs := List.mem_cons.mp hs
      · exact hf s rfl
      · exact ih h.next hothers s hs

end

/-- Fields are read back exactly when no string among them is too long. -/
theorem readsBack_iff {fs : List PayloadField} (hsize : (writeAll fs).length < 2 ^ 64) :
  ReadsBack fs ↔ ∀ s, .str s ∈ fs → s.length ≤ PayloadReader.maxStr
  := by
  have hahead : Ahead (fs.map PayloadField.image).flatten { p := writeAll fs } := by
    rw [← writeAll_eq]
    exact ⟨rfl, Nat.zero_le _, hsize, List.prefix_refl _⟩
  constructor
  · rintro ⟨hreturned, -⟩
    exact le_of_readAll hahead hreturned
  · intro hfs
    rw [ReadsBack, readAll_images hfs hahead, ← writeAll_eq]
    exact ⟨rfl, Nat.zero_add _⟩

/-! ### The reader -/

/-- In a run of calls of which none wraps around, the reader keeps within its payload; and what is
written is read back exactly when no string is longer than 1 MiB. -/
theorem payload_calls_faithful {p : Bytes} {h : List (PayloadReader × ReadCall)} {r : PayloadReader}
    (hrun : (payloadReader p).Run h r) (hwrap : ∀ t ∈ h, ¬t.2.Wraps t.1)
    {fs : List PayloadField} (hsize : (writeAll fs).length < 2 ^ 64) :
  WithinPayload p h r ∧ (ReadsBack fs ↔ ∀ s, .str s ∈ fs → s.length ≤ PayloadReader.maxStr)
  := ⟨within_of_run hrun hwrap, readsBack_iff hsize⟩

/-- A payload with a byte, a string and another byte. -/
def mixedPayload : Bytes := [7, 2, 0, 0, 0, 71, 68, 9]

/-- The byte and the string are read; then there are too few bytes for a word, but the last one can
still be copied. -/
def mixedCalls : List (PayloadReader × ReadCall) :=
  [({ p := mixedPayload, off := 7, fail := true }, .readBytes 1),
    ({ p := mixedPayload, off := 7 }, .u16), ({ p := mixedPayload, off := 1 }, .str),
    ({ p := mixedPayload }, .u8)]

theorem payload_calls_faithful_fixture :
  WithinPayload mixedPayload mixedCalls { p := mixedPayload, off := 8, fail := true } ∧
    ReadsBack [.u8 7, .str [71, 68], .u64 9]
  := by
  have hrun : (payloadReader mixedPayload).Run mixedCalls
      { p := mixedPayload, off := 8, fail := true } :=
    .step (.step (.step (.step (.start rfl) rfl) rfl) rfl) rfl
  have hwrap : ∀ t ∈ mixedCalls, ¬t.2.Wraps t.1 := by decide +kernel
  have hsize : (writeAll [.u8 7, .str [71, 68], .u64 9]).length < 2 ^ 64 := by decide +kernel
  obtain ⟨hwithin, hback⟩ := payload_calls_faithful hrun hwrap hsize
  refine ⟨hwithin, hback.mpr ?_⟩
  intro s hs
  have hstr : s = [71, 68] := by simpa using hs
  rw [hstr]
  decide

/-- A string of 1 MiB and one byte is written, but its length is not accepted when it is read.  With
the largest length of all, after one byte, the reader leaves its payload. -/
theorem long_string_not_read_back :
  (writeAll [.str (List.replicate (2 ^ 20 + 1) 0)]).length = 2 ^ 20 + 5 ∧
    ¬ReadsBack [.str (List.replicate (2 ^ 20 + 1) 0)] ∧
    (ReadCall.run (ReadCall.run { p := [7] } .u8).2 (.readBytes 0xFFFFFFFFFFFFFFFF)).1 = .outside
  := by
  have hmax : PayloadReader.maxStr = 2 ^ 20 := by decide
  have hlength : (writeAll [.str (List.replicate (2 ^ 20 + 1) 0)]).length = 2 ^ 20 + 5 := by
    change (putStr (List.replicate (2 ^ 20 + 1) 0)).length = 2 ^ 20 + 5
    rw [length_putStr, List.length_replicate]
    rfl
  refine ⟨hlength, ?_, by decide⟩
  rw [readsBack_iff (by omega)]
  intro hs
  have hle := hs _ (List.mem_singleton_self _)
  rw [List.length_replicate] at hle
  omega

end GpuDirectFabric

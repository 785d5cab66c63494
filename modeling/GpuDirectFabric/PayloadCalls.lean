import GpuDirectFabric.Library.Transition
import GpuDirectFabric.Protocol

/-!
# Calls of the payload reader

The payload reader tests its bounds by adding the length of a call to its offset, in numbers of the
width of `std::size_t`.  In a payload that a vector can hold, the sum wraps around only for the
lengths that `read_bytes` is given.  As long as none does, the reader stays within the payload.

The reads of messages are such calls: `word_eq_readWord` and `str_eq_readStr`.
-/

namespace GpuDirectFabric

open Codec

/-- What a call of the reader comes to: it fails, it returns a value, or it copies bytes that are
not all in the payload. -/
inductive ReadResult (α : Type) where
  | failed
  | returned (a : α)
  | outside
deriving DecidableEq

namespace ReadResult

variable {α β : Type}

def map (f : α → β) : ReadResult α → ReadResult β
  | .failed => .failed
  | .returned a => .returned (f a)
  | .outside => .outside

/-- The value returned, if there is one. -/
def value? : ReadResult α → Option α
  | .returned a => some a
  | _ => none

end ReadResult

namespace PayloadReader

/-! ### The calls -/

/-- The sum of two values of type `std::size_t`. -/
def addSize (a b : ℕ) : ℕ := (a + b) % 2 ^ 64

/-- The `len` bytes at the offset. -/
def fetch (len : ℕ) (r : PayloadReader) : ReadResult Bytes :=
  if r.off + len ≤ r.p.length then .returned (r.rest.take len) else .outside

/-- Test that `len` bytes are left, and copy them. -/
def copy (len : ℕ) (r : PayloadReader) : ReadResult Bytes × PayloadReader :=
  if addSize r.off len > r.p.length then (.failed, r.failed)
  else (r.fetch len, { r with off := addSize r.off len })

/-- Copy a little-endian word of `w` bytes. -/
def readWord (w : ℕ) (r : PayloadReader) : ReadResult ℕ × PayloadReader :=
  ((r.copy w).1.map leNat, (r.copy w).2)

def readU8 : PayloadReader → ReadResult ℕ × PayloadReader := readWord 1

def readU16 : PayloadReader → ReadResult ℕ × PayloadReader := readWord 2

def readU32 : PayloadReader → ReadResult ℕ × PayloadReader := readWord 4

def readU64 : PayloadReader → ReadResult ℕ × PayloadReader := readWord 8

def readStr (r : PayloadReader) : ReadResult Str × PayloadReader :=
  match readU32 r with
  | (.outside, r) => (.outside, r)
  | (.failed, r) => (.failed, r.failed)
  | (.returned len, r) =>
    if r.fail || len > maxStr || addSize r.off len > r.p.length then (.failed, r.failed)
    else (r.fetch len, { r with off := addSize r.off len })

def readBytes (len : UInt64) : PayloadReader → ReadResult Bytes × PayloadReader := copy len.toNat

end PayloadReader

/-- A call of the reader. -/
inductive ReadCall where
  | u8 | u16 | u32 | u64 | str
  | readBytes (len : UInt64)
deriving DecidableEq

/-- What a call returns: a number, or bytes. -/
inductive ReadValue where
  | number (n : ℕ)
  | bytes (bs : Bytes)
deriving DecidableEq

/-- The call, and the reader after it. -/
def ReadCall.run (r : PayloadReader) : ReadCall → ReadResult ReadValue × PayloadReader
  | .u8 => ((PayloadReader.readU8 r).1.map .number, (PayloadReader.readU8 r).2)
  | .u16 => ((PayloadReader.readU16 r).1.map .number, (PayloadReader.readU16 r).2)
  | .u32 => ((PayloadReader.readU32 r).1.map .number, (PayloadReader.readU32 r).2)
  | .u64 => ((PayloadReader.readU64 r).1.map .number, (PayloadReader.readU64 r).2)
  | .str => ((PayloadReader.readStr r).1.map .bytes, (PayloadReader.readStr r).2)
  | .readBytes len =>
    ((PayloadReader.readBytes len r).1.map .bytes, (PayloadReader.readBytes len r).2)

/-- A reader of the payload `p`, and the calls of it. -/
def payloadReader (p : Bytes) : System PayloadReader ReadCall where
  start r := r = { p := p }
  step r c r' := r' = (c.run r).2
  handover _ _ _ _ := False

/-! ### Faithful calls -/

/-- The call returns the value for these bytes, when they come next. -/
inductive ReadCall.Represents : ReadCall → Bytes → ReadValue → Prop
  | u8 {bs : Bytes} (hbs : bs.length = 1) : Represents .u8 bs (.number (leNat bs))
  | u16 {bs : Bytes} (hbs : bs.length = 2) : Represents .u16 bs (.number (leNat bs))
  | u32 {bs : Bytes} (hbs : bs.length = 4) : Represents .u32 bs (.number (leNat bs))
  | u64 {bs : Bytes} (hbs : bs.length = 8) : Represents .u64 bs (.number (leNat bs))
  | str {len s : Bytes} (hlen : len.length = 4) (hs : s.length = leNat len)
      (hmax : s.length ≤ PayloadReader.maxStr) : Represents .str (len ++ s) (.bytes s)
  | readBytes {len : UInt64} {bs : Bytes} (hbs : bs.length = len.toNat) :
      Represents (.readBytes len) bs (.bytes bs)

/-- A call of the reader `r` that comes to `out` stays within the payload.  It fails, or returns a
value that `R` relates to the next bytes, and moves past these. -/
structure Faithful {α : Type} (R : Bytes → α → Prop) (r : PayloadReader)
    (out : ReadResult α × PayloadReader) : Prop where
  payload : out.2.p = r.p
  bound : out.2.off ≤ r.p.length
  outcome : out.1 = .failed ∧ out.2.fail = true ∨
    ∃ front a, out.1 = .returned a ∧ R front a ∧ r.rest = front ++ out.2.rest ∧
      out.2.off = r.off + front.length ∧ out.2.fail = r.fail

namespace Faithful

variable {α β : Type} {R : Bytes → α → Prop} {r : PayloadReader}
  {out : ReadResult α × PayloadReader}

/-- What is true of a call is true of it with its value under another name. -/
theorem map {R' : Bytes → β → Prop} {f : α → β} (h : Faithful R r out)
    (hR : ∀ front a, R front a → R' front (f a)) :
  Faithful R' r (out.1.map f, out.2)
  where
  payload := h.payload
  bound := h.bound
  outcome := by
    obtain ⟨hout, hfail⟩ | ⟨front, a, hout, hfront, hnext⟩ := h.outcome
    · left
      dsimp only
      rw [hout]
      exact ⟨rfl, hfail⟩
    · right
      use front, f a
      dsimp only
      rw [hout]
      exact ⟨rfl, hR front a hfront, hnext⟩

end Faithful

/-- The number of bytes that the call goes past, where the payload goes on with `bs`. -/
def ReadCall.size : ReadCall → Bytes → ℕ
  | .u8, _ => 1
  | .u16, _ => 2
  | .u32, _ => 4
  | .u64, _ => 8
  | .str, bs => Field.str.size bs
  | .readBytes len, _ => len.toNat

/-- The sum of the offset and the size of the call wraps around. -/
def ReadCall.Wraps (r : PayloadReader) (c : ReadCall) : Prop := 2 ^ 64 ≤ r.off + c.size r.rest

instance (r : PayloadReader) (c : ReadCall) : Decidable (c.Wraps r) :=
  inferInstanceAs (Decidable (_ ≤ _))

namespace PayloadReader

variable {r : PayloadReader}

theorem addSize_eq {a b : ℕ} (h : a + b < 2 ^ 64) :
  addSize a b = a + b
  := Nat.mod_eq_of_lt h

/-- A call that does not wrap around copies the next bytes, if there are enough. -/
theorem copy_eq {len : ℕ} (hoff : r.off ≤ r.p.length) (hsum : r.off + len < 2 ^ 64) :
  r.copy len = if len ≤ r.rest.length then (.returned (r.rest.take len), r.advanced len)
    else (.failed, r.failed)
  := by
  rw [copy, fetch, addSize_eq hsum, length_rest]
  split
  next h => rw [if_neg (by omega)]
  next h => rw [if_pos (by omega), if_pos (by omega), advanced]

theorem copy_faithful {len : ℕ} (hoff : r.off ≤ r.p.length) (hsum : r.off + len < 2 ^ 64) :
  Faithful (fun bs a => bs.length = len ∧ a = bs) r (r.copy len)
  := by
  rw [copy_eq hoff hsum]
  split
  next h =>
    refine ⟨rfl, ?_, .inr ⟨r.rest.take len, _, rfl, ⟨List.length_take_of_le h, rfl⟩, ?_, ?_, rfl⟩⟩
    · rw [length_rest] at h
      change r.off + len ≤ _
      omega
    · rw [rest_advanced, List.take_append_drop]
    · rw [List.length_take_of_le h, advanced]
  next h => exact ⟨rfl, hoff, .inl ⟨rfl, rfl⟩⟩

/-- A call that returns the next word is faithful. -/
theorem readWord_faithful {c : ReadCall} {w : ℕ}
    (hc : ∀ {bs : Bytes}, bs.length = w → c.Represents bs (.number (leNat bs)))
    (hoff : r.off ≤ r.p.length) (hsum : r.off + w < 2 ^ 64) :
  Faithful c.Represents r ((readWord w r).1.map .number, (readWord w r).2)
  := by
  have hword : Faithful (fun bs n => bs.length = w ∧ n = leNat bs) r (readWord w r) := by
    apply (copy_faithful hoff hsum).map
    rintro bs _ ⟨hbs, rfl⟩
    exact ⟨hbs, rfl⟩
  apply hword.map
  rintro bs _ ⟨hbs, rfl⟩
  exact hc hbs

/-- A word is the one read when it is in the payload, and else the read fails. -/
theorem readWord_eq {w : ℕ} (hoff : r.off ≤ r.p.length) (hsum : r.off + w < 2 ^ 64) :
  readWord w r = if w ≤ r.rest.length then (.returned (leNat (r.rest.take w)), r.advanced w)
    else (.failed, r.failed)
  := by
  rw [readWord, copy_eq hoff hsum]
  split
  next => rfl
  next => rfl

/-- A string is returned when it is in the payload and within the bound, unless a call has failed
before. -/
theorem readStr_eq (hoff : r.off ≤ r.p.length) (hsum : r.off + Field.str.size r.rest < 2 ^ 64) :
  readStr r = if r.fail = false ∧ leNat (r.rest.take 4) ≤ maxStr ∧
      Field.str.size r.rest ≤ r.rest.length then
    (.returned ((r.rest.drop 4).take (leNat (r.rest.take 4))), r.advanced (Field.str.size r.rest))
    else (.failed, (if 4 ≤ r.rest.length then r.advanced 4 else r).failed)
  := by
  have hlength := length_rest r
  rw [Field.size] at hsum ⊢
  by_cases hword : 4 ≤ r.rest.length
  · have hlen : readU32 r = (.returned (leNat (r.rest.take 4)), r.advanced 4) := by
      rw [readU32, readWord_eq hoff (by omega), if_pos hword]
    have hoff' : (r.advanced 4).off = r.off + 4 := rfl
    have hp' : (r.advanced 4).p = r.p := rfl
    have hfail' : (r.advanced 4).fail = r.fail := rfl
    rw [readStr, hlen]
    dsimp only
    rw [fetch, addSize_eq (by omega), hoff', hp', hfail', if_pos hword]
    split
    next h =>
      rw [Bool.or_eq_true, Bool.or_eq_true, decide_eq_true_eq, decide_eq_true_eq] at h
      rw [if_neg]
      rintro ⟨hfail, hmax, hsize⟩
      obtain (h | h) | h := h
      · exact absurd h (Bool.eq_false_iff.mp hfail)
      · omega
      · omega
    next h =>
      rw [Bool.or_eq_true, Bool.or_eq_true, decide_eq_true_eq, decide_eq_true_eq] at h
      rw [if_pos (by omega), if_pos, rest_advanced, Nat.add_assoc]
      · rfl
      · refine ⟨?_, by omega, by omega⟩
        rw [← Bool.not_eq_true]
        exact fun hfail => h (.inl (.inl hfail))
  · have hlen : readU32 r = (.failed, r.failed) := by
      rw [readU32, readWord_eq hoff (by omega), if_neg hword]
    rw [readStr, hlen, if_neg hword, if_neg (by omega)]
    rfl

theorem readStr_faithful (hoff : r.off ≤ r.p.length)
    (hsum : r.off + Field.str.size r.rest < 2 ^ 64) :
  Faithful (fun bs s => ∃ len, bs = len ++ s ∧ len.length = 4 ∧ s.length = leNat len ∧
    s.length ≤ maxStr) r (readStr r)
  := by
  have hlength := length_rest r
  rw [readStr_eq hoff hsum]
  rw [Field.size] at hsum ⊢
  split
  next h =>
    obtain ⟨hfail, hmax, hsize⟩ := h
    have hlen : (r.rest.take 4).length = 4 := List.length_take_of_le (by omega)
    have hs : ((r.rest.drop 4).take (leNat (r.rest.take 4))).length = leNat (r.rest.take 4) :=
      List.length_take_of_le (by rw [List.length_drop]; omega)
    refine ⟨rfl, ?_, .inr ⟨r.rest.take 4 ++ _, _, rfl, ⟨_, rfl, hlen, hs, hs.trans_le hmax⟩, ?_, ?_,
      rfl⟩⟩
    · change r.off + (4 + _) ≤ _
      omega
    · rw [rest_advanced, List.append_assoc, ← List.drop_drop, List.take_append_drop,
        List.take_append_drop]
    · rw [List.length_append, hlen, hs, advanced]
  next =>
    split
    next =>
      refine ⟨rfl, ?_, .inl ⟨rfl, rfl⟩⟩
      change r.off + 4 ≤ _
      omega
    next => exact ⟨rfl, hoff, .inl ⟨rfl, rfl⟩⟩

/-- Every call that does not wrap around is faithful. -/
theorem run_faithful {c : ReadCall} (hoff : r.off ≤ r.p.length) (hwrap : ¬c.Wraps r) :
  Faithful c.Represents r (c.run r)
  := by
  have hsum : r.off + c.size r.rest < 2 ^ 64 := not_le.mp hwrap
  cases c with
  | u8 => exact readWord_faithful .u8 hoff hsum
  | u16 => exact readWord_faithful .u16 hoff hsum
  | u32 => exact readWord_faithful .u32 hoff hsum
  | u64 => exact readWord_faithful .u64 hoff hsum
  | str =>
      apply (readStr_faithful hoff hsum).map
      rintro _ s ⟨len, rfl, hlen, hs, hmax⟩
      exact .str hlen hs hmax
  | readBytes len =>
      apply (copy_faithful hoff hsum).map
      rintro bs _ ⟨hbs, rfl⟩
      exact .readBytes hbs

/-! ### The flag -/

theorem fail_copy {len : ℕ} (h : r.fail = true) :
  (r.copy len).2.fail = true
  := by
  rw [copy]
  split
  · rfl
  · exact h

theorem fail_readStr (h : r.fail = true) :
  (readStr r).2.fail = true
  := by
  have hword : (readU32 r).2.fail = true := fail_copy h
  rw [readStr]
  split
  next hr =>
    rw [hr] at hword
    exact hword
  next => rfl
  next hr =>
    rw [hr] at hword
    split
    · rfl
    · exact hword

/-- A failure is not forgotten. -/
theorem fail_run (c : ReadCall) (h : r.fail = true) :
  (c.run r).2.fail = true
  := by
  cases c with
  | str => exact fail_readStr h
  | _ => exact fail_copy h

/-! ### Reads of messages -/

/-- The words that messages are read from are the ones that the calls return. -/
theorem word_eq_readWord {w : ℕ} (hw : 0 < w) (hoff : r.off ≤ r.p.length)
    (hsum : r.off + w < 2 ^ 64) :
  word w r = ((readWord w r).1.value?.getD 0, (readWord w r).2)
  := by
  rw [word_apply hw, readWord_eq hoff hsum]
  split
  next => rfl
  next => rfl

/-- The strings that messages are read from are the ones that the calls return. -/
theorem str_eq_readStr (hoff : r.off ≤ r.p.length)
    (hsum : r.off + Field.str.size r.rest < 2 ^ 64) :
  str r = ((readStr r).1.value?, (readStr r).2)
  := by
  rw [Field.size] at hsum
  have hlen : u32 r = ((readU32 r).1.value?.getD 0, (readU32 r).2) :=
    word_eq_readWord (by decide) hoff (by omega)
  by_cases hword : 4 ≤ r.rest.length
  · have hread : readU32 r = (.returned (leNat (r.rest.take 4)), r.advanced 4) := by
      rw [readU32, readWord_eq hoff (by omega), if_pos hword]
    have hoff' : (r.advanced 4).off = r.off + 4 := rfl
    rw [str, hlen, readStr, hread]
    dsimp only [ReadResult.value?, Option.getD_some]
    rw [fetch, addSize_eq (by omega)]
    split
    next => rfl
    next h =>
      rw [Bool.or_eq_true, decide_eq_true_eq, not_or, not_lt] at h
      rw [if_pos h.2]
      rfl
  · have hread : readU32 r = (.failed, r.failed) := by
      rw [readU32, readWord_eq hoff (by omega), if_neg hword]
    rw [str, hlen, readStr, hread]
    rfl

end PayloadReader

/-! ### Sequences of calls -/

/-- The reader keeps within the payload `p` throughout a run of calls: its offset does, every call
is faithful, and a failure is never forgotten. -/
structure WithinPayload (p : Bytes) (h : List (PayloadReader × ReadCall)) (r : PayloadReader) :
    Prop where
  bound : ∀ v ∈ System.visited h r, v.p = p ∧ v.off ≤ p.length
  faithful : ∀ t ∈ h, Faithful t.2.Represents t.1 (t.2.run t.1)
  sticky : (System.visited h r).Pairwise fun v u => u.fail = true → v.fail = true

namespace WithinPayload

variable {p : Bytes} {h : List (PayloadReader × ReadCall)} {r : PayloadReader}

theorem start (p : Bytes) :
  WithinPayload p [] { p := p }
  where
  bound := by
    intro v hv
    obtain rfl := List.mem_singleton.mp hv
    exact ⟨rfl, Nat.zero_le _⟩
  faithful := List.forall_mem_nil _
  sticky := List.pairwise_singleton _ _

/-- One more call that does not wrap around. -/
theorem step {c : ReadCall} (hwithin : WithinPayload p h r) (hwrap : ¬c.Wraps r) :
  WithinPayload p ((r, c) :: h) (c.run r).2
  := by
  obtain ⟨rfl, hoff⟩ := hwithin.bound r List.mem_cons_self
  have hfaithful := PayloadReader.run_faithful hoff hwrap
  constructor
  case bound =>
    rw [System.visited, List.map_cons, List.forall_mem_cons]
    exact ⟨⟨hfaithful.payload, hfaithful.bound⟩, hwithin.bound⟩
  case faithful =>
    rw [List.forall_mem_cons]
    exact ⟨hfaithful, hwithin.faithful⟩
  case sticky =>
    apply List.pairwise_cons.mpr
    refine ⟨fun u hu hfail => PayloadReader.fail_run c ?_, hwithin.sticky⟩
    obtain rfl | hu := List.mem_cons.mp hu
    · exact hfail
    · exact (List.pairwise_cons.mp hwithin.sticky).1 u hu hfail

end WithinPayload

/-- Calls that do not wrap around keep the reader within its payload. -/
theorem within_of_run {p : Bytes} {h : List (PayloadReader × ReadCall)} {r : PayloadReader}
    (hrun : (payloadReader p).Run h r) (hwrap : ∀ t ∈ h, ¬t.2.Wraps t.1) :
  WithinPayload p h r
  := by
  induction hrun with
  | start hw =>
      obtain rfl := hw
      exact .start p
  | step _ hs ih =>
      obtain rfl := hs
      obtain ⟨hlast, hbefore⟩ := List.forall_mem_cons.mp hwrap
      exact (ih hbefore).step hlast
  | handover _ _ hs => exact hs.elim

end GpuDirectFabric

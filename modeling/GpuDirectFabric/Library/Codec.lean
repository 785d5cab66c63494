import Mathlib.Data.List.Basic
import Mathlib.Tactic.Ring

/-!
# Byte images and their readers

A *reader* consumes bytes from the front of its input and returns a value, or fails.  A
*decoder* is a reader that also updates a state as it goes; when it fails, the state stays
as the reads before the failure left it.

A writer gives the image of a value as a list of bytes.  `Reads g bs v a` states how the
reader `g` treats an image `bs`, whatever follows it: if `v` holds it returns `a` and leaves
exactly what follows, and otherwise it fails.  The rules `Reads.pure`, `Reads.bind` and
`Reads.field` derive such a statement for a composite reader from those for its parts.
`Returns` states what a reader guarantees of its values on any input.  `Decoder.Keeps` and
`Decoder.KeepsOn` are the corresponding rules for an invariant of the state of a decoder, on
any input and on the images of given values, and `Decoder.Triple` the one for a condition that
changes from part to part.
-/

/-- Byte strings. -/
abbrev Bytes := List UInt8

namespace Codec

/-! ### Little-endian words -/

/-- The `w` low bytes of `v`, lowest first. -/
def putLE (w v : ℕ) : Bytes := (List.range w).map fun i => UInt8.ofNat (v >>> (8 * i))

/-- The number whose bytes, lowest first, are `bs`. -/
def leNat : Bytes → ℕ
  | [] => 0
  | b :: bs => b.toNat + 256 * leNat bs

theorem putLE_succ (w v : ℕ) :
  putLE (w + 1) v = UInt8.ofNat v :: putLE w (v / 256)
  := by
  simp only [putLE, List.range_succ_eq_map, List.map_cons, List.map_map]
  congr 1
  apply List.map_congr_left
  intro i _
  simp only [Function.comp, Nat.shiftRight_eq_div_pow, Nat.div_div_eq_div_mul]
  congr 2
  rw [Nat.mul_succ, Nat.pow_add, Nat.mul_comm]

@[simp]
theorem length_putLE (w v : ℕ) :
  (putLE w v).length = w
  := by
  simp [putLE]

theorem leNat_putLE (w v : ℕ) :
  leNat (putLE w v) = v % 256 ^ w
  := by
  induction w generalizing v with
  | zero => simp [putLE, leNat, Nat.mod_one]
  | succ w ih =>
      rw [putLE_succ, leNat, ih, UInt8.toNat_ofNat', pow_succ 256 w,
        Nat.mul_comm (256 ^ w) 256, Nat.mod_mul]

theorem leNat_lt (bs : Bytes) :
  leNat bs < 256 ^ bs.length
  := by
  induction bs with
  | nil => exact Nat.one_pos
  | cons b bs ih =>
      have hlow := b.toNat_lt
      rw [leNat, List.length_cons, Nat.pow_succ]
      omega

/-- Without its lowest bytes, the number is divided by the weight of the lowest byte left. -/
theorem leNat_drop (k : ℕ) (bs : Bytes) :
  leNat (bs.drop k) = leNat bs / 256 ^ k
  := by
  induction k generalizing bs with
  | zero => rw [List.drop_zero, Nat.pow_zero, Nat.div_one]
  | succ k ih =>
      cases bs with
      | nil => rw [List.drop_nil, leNat, Nat.zero_div]
      | cons b bs =>
          have hdiv : (b.toNat + 256 * leNat bs) / 256 = leNat bs := by
            have := b.toNat_lt
            omega
          rw [List.drop_succ_cons, ih, leNat, Nat.pow_succ', ← Nat.div_div_eq_div_mul, hdiv]

/-- The bytes are the image of the number they stand for. -/
theorem putLE_leNat (bs : Bytes) :
  putLE bs.length (leNat bs) = bs
  := by
  induction bs with
  | nil => rfl
  | cons b bs ih =>
      have hlow : UInt8.ofNat (b.toNat + 256 * leNat bs) = b := by
        apply UInt8.toNat_inj.mp
        rw [UInt8.toNat_ofNat', Nat.add_mul_mod_self_left, Nat.mod_eq_of_lt b.toNat_lt]
      have hhigh : (b.toNat + 256 * leNat bs) / 256 = leNat bs := by
        have := b.toNat_lt
        omega
      rw [List.length_cons, leNat, putLE_succ, hlow, hhigh, ih]

/-! ### Readers -/

/-- A reader: from the unread bytes, a value and the bytes after it, or an error. -/
def Reader (ε α : Type) := Bytes → Except ε (α × Bytes)

namespace Reader

variable {ε α β : Type}

instance : Monad (Reader ε) where
  pure a := fun bs => .ok (a, bs)
  bind g f := fun bs =>
    match g bs with
    | .ok (a, bs') => f a bs'
    | .error e => .error e

theorem bind_apply (g : Reader ε α) (f : α → Reader ε β) (bs : Bytes) :
  (g >>= f) bs = match g bs with
    | .ok (a, bs') => f a bs'
    | .error e => .error e
  := rfl

theorem bind_ok {g : Reader ε α} {bs bs' : Bytes} {a : α} (h : g bs = .ok (a, bs'))
    (f : α → Reader ε β) :
  (g >>= f) bs = f a bs'
  := by
  rw [bind_apply, h]

theorem bind_error {g : Reader ε α} {bs : Bytes} {e : ε} (h : g bs = .error e)
    (f : α → Reader ε β) :
  (g >>= f) bs = .error e
  := by
  rw [bind_apply, h]

theorem bind_eq_ok {g : Reader ε α} {f : α → Reader ε β} {bs : Bytes} {r : β × Bytes} :
  (g >>= f) bs = .ok r ↔ ∃ a bs', g bs = .ok (a, bs') ∧ f a bs' = .ok r
  := by
  rw [bind_apply]
  constructor
  · intro h
    rcases hg : g bs with e | ⟨a, bs'⟩
    · rw [hg] at h
      cases h
    · rw [hg] at h
      exact ⟨a, bs', rfl, h⟩
  · rintro ⟨a, bs', hg, h⟩
    rw [hg]
    exact h

/-- The reader that fails with `e`. -/
def fail (e : ε) : Reader ε α := fun _ => .error e

/-- Fail with `e` unless `c` holds. -/
def guard (c : Bool) (e : ε) : Reader ε Unit := if c then pure () else fail e

/-- Read `n` bytes, failing with `e` when fewer are left. -/
def take (n : ℕ) (e : ε) : Reader ε Bytes :=
  fun bs => if bs.length < n then .error e else .ok (bs.take n, bs.drop n)

/-- Read a little-endian word of `w` bytes. -/
def word (w : ℕ) (e : ε) : Reader ε ℕ := do
  let bs ← take w e
  pure (leNat bs)

/-- A word is read exactly when there are enough bytes. -/
theorem word_eq_ok {w n : ℕ} {e : ε} {bs rest : Bytes} :
  word w e bs = .ok (n, rest) ↔ w ≤ bs.length ∧ n = leNat (bs.take w) ∧ rest = bs.drop w
  := by
  rw [word, bind_eq_ok]
  constructor
  · rintro ⟨bs', rest', htake, heq⟩
    rw [take] at htake
    split at htake
    next => cases htake
    next h =>
      cases htake
      cases heq
      exact ⟨not_lt.mp h, rfl, rfl⟩
  · rintro ⟨h, rfl, rfl⟩
    use bs.take w, bs.drop w
    rw [take, if_neg (not_lt.mpr h)]
    exact ⟨rfl, rfl⟩

/-- A word that is read is followed by what is left unread. -/
theorem eq_of_word {w n : ℕ} {e : ε} {bs rest : Bytes} (h : word w e bs = .ok (n, rest)) :
  bs = putLE w n ++ rest
  := by
  obtain ⟨hlen, rfl, rfl⟩ := word_eq_ok.mp h
  have himage := putLE_leNat (bs.take w)
  rw [List.length_take_of_le hlen] at himage
  rw [himage, List.take_append_drop]

/-- Read `n` values one after another. -/
def many (g : Reader ε α) : ℕ → Reader ε (List α)
  | 0 => pure []
  | n + 1 => do
    let a ← g
    let as ← many g n
    pure (a :: as)

/-- Whatever a reader reads satisfies `Q`. -/
def Returns (Q : α → Prop) (g : Reader ε α) : Prop := ∀ bs a bs', g bs = .ok (a, bs') → Q a

namespace Returns

variable {Q : β → Prop}

theorem pure {b : β} (h : Q b) :
  Returns Q (Pure.pure b : Reader ε β)
  := by
  rintro bs _ _ ⟨⟩
  exact h

theorem bind {g : Reader ε α} {f : α → Reader ε β} (hf : ∀ a, Returns Q (f a)) :
  Returns Q (g >>= f)
  := by
  intro bs b bs' h
  rw [bind_apply] at h
  rcases hg : g bs with e | ⟨a, rest⟩
  · rw [hg] at h
    cases h
  · rw [hg] at h
    exact hf a rest b bs' h

end Returns

/-- How a reader treats the image `bs`, whatever bytes follow it: if `valid` holds it reads
`a` and leaves what follows, and otherwise it fails. -/
structure Reads (g : Reader ε α) (bs : Bytes) (valid : Prop) (a : α) : Prop where
  ok : valid → ∀ rest, g (bs ++ rest) = .ok (a, rest)
  fails : ¬valid → ∀ rest, ∃ e, g (bs ++ rest) = .error e

namespace Reads

variable {g : Reader ε α} {bs bs' : Bytes} {v v' : Prop} {a : α} {b : β}

theorem pure (a : α) :
  Reads (Pure.pure a : Reader ε α) [] True a
  where
  ok _ _ := rfl
  fails h := absurd trivial h

theorem bind {f : α → Reader ε β} (hg : Reads g bs v a) (hf : Reads (f a) bs' v' b) :
  Reads (g >>= f) (bs ++ bs') (v ∧ v') b
  where
  ok h rest := by
    rw [List.append_assoc, bind_ok (hg.ok h.1 _)]
    apply hf.ok h.2
  fails h rest := by
    rw [List.append_assoc]
    by_cases hv : v
    · rw [bind_ok (hg.ok hv _)]
      apply hf.fails
      intro hv'
      exact h ⟨hv, hv'⟩
    · obtain ⟨e, he⟩ := hg.fails hv (bs' ++ rest)
      exact ⟨e, bind_error he f⟩

/-- A continuation that reads nothing. -/
theorem last {f : α → Reader ε β} (hg : Reads g bs v a) (hf : Reads (f a) [] v' b) :
  Reads (g >>= f) bs (v ∧ v') b
  := by
  rw [← List.append_nil bs]
  apply hg.bind hf

/-- One field of a record whose image is the concatenation of the images of its fields. -/
theorem field {f : α → Reader ε β} {images : List Bytes} (hg : Reads g bs v a)
    (hf : Reads (f a) images.flatten v' b) :
  Reads (g >>= f) (bs :: images).flatten (v ∧ v') b
  := by
  rw [List.flatten_cons]
  apply hg.bind hf

theorem congr (h : Reads g bs v a) (hv : v ↔ v') :
  Reads g bs v' a
  where
  ok h' := h.ok (hv.mpr h')
  fails h' := h.fails (fun h'' => h' (hv.mp h''))

/-- A condition on the value just read. -/
theorem guard (c : Bool) (e : ε) :
  Reads (Reader.guard c e) [] (c = true) ()
  where
  ok h rest := by
    rw [h]
    rfl
  fails h rest := by
    rw [Bool.not_eq_true] at h
    rw [h]
    exact ⟨e, rfl⟩

theorem take {n : ℕ} (h : bs.length = n) (e : ε) :
  Reads (Reader.take n e) bs True bs
  where
  ok _ rest := by
    subst h
    simp [Reader.take]
  fails h' := absurd trivial h'

theorem word (w n : ℕ) (e : ε) :
  Reads (Reader.word w e) (putLE w n) True (n % 256 ^ w)
  := by
  apply congr
  · apply (take (length_putLE w n) e).last
    rw [leNat_putLE]
    apply pure
  · simp

/-- The images of a list of values, read one after another. -/
theorem many {ρ : Type} {put : ρ → Bytes} {valid : ρ → Prop} {f : ρ → α} {rs : List ρ}
    (h : ∀ r ∈ rs, Reads g (put r) (valid r) (f r)) :
  Reads (Reader.many g rs.length) (rs.map put).flatten (∀ r ∈ rs, valid r) (rs.map f)
  := by
  induction rs with
  | nil =>
      apply (pure _).congr
      simp
  | cons r rs ih =>
      rw [List.forall_mem_cons] at h
      apply congr
      · apply h.1.field
        apply (ih h.2).last
        apply pure
      · simp

end Reads

end Reader

/-- A format of records: their images, the reader of an image, and what the reader makes of
the image of a record that fits, if it is readable. -/
structure Format (ε ρ : Type) where
  put : ρ → Bytes
  read : Reader ε ρ
  recovered : ρ → ρ
  Fits : ρ → Prop
  Readable : ρ → Prop
  [decidableReadable : DecidablePred Readable]
  reads : ∀ r, Fits r → read.Reads (put r) (Readable r) (recovered r)

instance {ε ρ : Type} (F : Format ε ρ) : DecidablePred F.Readable := F.decidableReadable

/-! ### Decoders -/

/-- A decoder: a reader that also updates a state, which a failure leaves as it stands. -/
def Decoder (σ ε α : Type) := Bytes → σ → Except ε (α × Bytes) × σ

namespace Decoder

variable {σ ε α β ρ : Type}

instance : Monad (Decoder σ ε) where
  pure a := fun bs s => (.ok (a, bs), s)
  bind d f := fun bs s =>
    match d bs s with
    | (.ok (a, bs'), s') => f a bs' s'
    | (.error e, s') => (.error e, s')

theorem bind_apply (d : Decoder σ ε α) (f : α → Decoder σ ε β) (bs : Bytes) (s : σ) :
  (d >>= f) bs s = match d bs s with
    | (.ok (a, bs'), s') => f a bs' s'
    | (.error e, s') => (.error e, s')
  := rfl

theorem bind_ok {d : Decoder σ ε α} {bs bs' : Bytes} {s s' : σ} {a : α}
    (h : d bs s = (.ok (a, bs'), s')) (f : α → Decoder σ ε β) :
  (d >>= f) bs s = f a bs' s'
  := by
  rw [bind_apply, h]

theorem bind_error {d : Decoder σ ε α} {bs : Bytes} {s s' : σ} {e : ε}
    (h : d bs s = (.error e, s')) (f : α → Decoder σ ε β) :
  (d >>= f) bs s = (.error e, s')
  := by
  rw [bind_apply, h]

/-- A reader, as a decoder that leaves the state alone. -/
def lift (g : Reader ε α) : Decoder σ ε α :=
  fun bs s =>
    match g bs with
    | .ok r => (.ok r, s)
    | .error e => (.error e, s)

/-- Update the state. -/
def modify (f : σ → σ) : Decoder σ ε Unit := fun bs s => (.ok ((), bs), f s)

/-- Read `n` values one after another, storing each as soon as it has been read. -/
def storeMany (g : Reader ε ρ) (store : ρ → σ → σ) : ℕ → Decoder σ ε Unit
  | 0 => pure ()
  | n + 1 => do
    let r ← lift g
    modify (store r)
    storeMany g store n

@[simp]
theorem modify_apply (f : σ → σ) (bs : Bytes) (s : σ) :
  modify (ε := ε) f bs s = (.ok ((), bs), f s)
  := rfl

theorem lift_ok {g : Reader ε α} {bs bs' : Bytes} {a : α} (h : g bs = .ok (a, bs')) (s : σ) :
  lift g bs s = (.ok (a, bs'), s)
  := by
  rw [lift, h]

theorem lift_error {g : Reader ε α} {bs : Bytes} {e : ε} (h : g bs = .error e) (s : σ) :
  lift g bs s = (.error e, s)
  := by
  rw [lift, h]

/-! ### Invariants of a decoder's state -/

/-- `d` keeps the invariant `P` of its state on every input, whether it succeeds or fails. -/
def Keeps (P : σ → Prop) (d : Decoder σ ε α) : Prop := ∀ bs s, P s → P (d bs s).2

namespace Keeps

variable {P : σ → Prop}

theorem pure (a : α) :
  Keeps P (Pure.pure a : Decoder σ ε α)
  := fun _ _ h => h

theorem bind {d : Decoder σ ε α} {f : α → Decoder σ ε β} (hd : Keeps P d)
    (hf : ∀ a, Keeps P (f a)) :
  Keeps P (d >>= f)
  := by
  intro bs s hs
  have hP := hd bs s hs
  rw [bind_apply]
  rcases h : d bs s with ⟨⟨e⟩ | ⟨a, bs'⟩, s'⟩
  · rw [h] at hP
    exact hP
  · rw [h] at hP
    exact hf a bs' s' hP

theorem lift (g : Reader ε α) :
  Keeps P (Decoder.lift g : Decoder σ ε α)
  := by
  intro bs s hs
  rw [Decoder.lift]
  cases g bs
  · exact hs
  · exact hs

theorem modify {f : σ → σ} (hf : ∀ s, P s → P (f s)) :
  Keeps P (Decoder.modify f : Decoder σ ε Unit)
  := fun _ s hs => hf s hs

/-- What follows a read may rely on what the reader returns. -/
theorem lift_bind {Q : α → Prop} {g : Reader ε α} {f : α → Decoder σ ε β} (hg : g.Returns Q)
    (hf : ∀ a, Q a → Keeps P (f a)) :
  Keeps P (Decoder.lift g >>= f)
  := by
  intro bs s hs
  rcases h : g bs with e | ⟨a, bs'⟩
  · rw [bind_error (lift_error h s)]
    exact hs
  · rw [bind_ok (lift_ok h s)]
    exact hf a (hg bs a bs' h) bs' s hs

theorem storeMany {Q : ρ → Prop} {g : Reader ε ρ} {store : ρ → σ → σ} (hg : g.Returns Q)
    (hstore : ∀ r, Q r → ∀ s, P s → P (store r s)) (n : ℕ) :
  Keeps P (Decoder.storeMany g store n)
  := by
  induction n with
  | zero => exact pure ()
  | succ n ih =>
      rw [Decoder.storeMany]
      refine lift_bind hg fun r hr => ?_
      refine bind (modify (hstore r hr)) fun _ => ?_
      exact ih

end Keeps

/-- Storing at most `n` values, each of which takes `P m` to `P (m + 1)`. -/
theorem storeMany_counted {P : ℕ → σ → Prop} {Q : ρ → Prop} {g : Reader ε ρ} {store : ρ → σ → σ}
    (hg : g.Returns Q) (hmono : ∀ m s, P m s → P (m + 1) s)
    (hstore : ∀ r, Q r → ∀ m s, P m s → P (m + 1) (store r s)) (n m : ℕ) (bs : Bytes) (s : σ)
    (hs : P m s) :
  P (m + n) (storeMany g store n bs s).2
  := by
  induction n generalizing m bs s with
  | zero => exact hs
  | succ n ih =>
      rw [storeMany, Nat.add_succ, ← Nat.succ_add]
      rcases h : g bs with e | ⟨r, bs'⟩
      · rw [bind_error (lift_error h s)]
        have hstay : ∀ k, P (m + k) s := by
          intro k
          induction k with
          | zero => exact hs
          | succ k ihk => exact hmono _ _ ihk
        rw [Nat.succ_add]
        exact hstay (n + 1)
      · rw [bind_ok (lift_ok h s), bind_ok (modify_apply _ _ _)]
        exact ih (m + 1) bs' (store r s) (hstore r (hg bs r bs' h) m s hs)

/-- `d` keeps the invariant `P` of its state on the image `bs`, whatever bytes follow it, and
when it succeeds it returns `a` and leaves exactly what follows. -/
def KeepsOn (P : σ → Prop) (d : Decoder σ ε α) (bs : Bytes) (a : α) : Prop :=
  ∀ rest s, P s →
    P (d (bs ++ rest) s).2 ∧ ∀ r, (d (bs ++ rest) s).1 = .ok r → r = (a, rest)

namespace KeepsOn

variable {P : σ → Prop} {bs bs' : Bytes} {a : α} {b : β}

theorem pure (a : α) :
  KeepsOn P (Pure.pure a : Decoder σ ε α) [] a
  := by
  intro rest s hs
  use hs
  rintro r ⟨⟩
  rfl

theorem bind {d : Decoder σ ε α} {f : α → Decoder σ ε β} (hd : KeepsOn P d bs a)
    (hf : KeepsOn P (f a) bs' b) :
  KeepsOn P (d >>= f) (bs ++ bs') b
  := by
  intro rest s hs
  obtain ⟨hP, hok⟩ := hd (bs' ++ rest) s hs
  rw [List.append_assoc, bind_apply]
  rcases h : d (bs ++ (bs' ++ rest)) s with ⟨⟨e⟩ | r, s'⟩
  · rw [h] at hP
    use hP
    rintro r ⟨⟩
  · rw [h] at hP hok
    obtain rfl := hok r rfl
    apply hf rest s' hP

/-- A decoder that reads nothing, before another one. -/
theorem first {d : Decoder σ ε α} {f : α → Decoder σ ε β} (hd : KeepsOn P d [] a)
    (hf : KeepsOn P (f a) bs b) :
  KeepsOn P (d >>= f) bs b
  := hd.bind hf

/-- The first of several images. -/
theorem field {images : List Bytes} {d : Decoder σ ε α} {f : α → Decoder σ ε β}
    (hd : KeepsOn P d bs a) (hf : KeepsOn P (f a) images.flatten b) :
  KeepsOn P (d >>= f) (bs :: images).flatten b
  := hd.bind hf

theorem lift {g : Reader ε α} {v : Prop} (h : g.Reads bs v a) :
  KeepsOn P (Decoder.lift g : Decoder σ ε α) bs a
  := by
  intro rest s hs
  by_cases hv : v
  · rw [lift_ok (h.ok hv rest)]
    use hs
    rintro r ⟨⟩
    rfl
  · obtain ⟨e, he⟩ := h.fails hv rest
    rw [lift_error he]
    use hs
    rintro r ⟨⟩

theorem modify {f : σ → σ} (hf : ∀ s, P s → P (f s)) :
  KeepsOn P (Decoder.modify f : Decoder σ ε Unit) [] ()
  := by
  intro rest s hs
  use hf s hs
  rintro r ⟨⟩
  rfl

theorem storeMany {γ : Type} {g : Reader ε ρ} {store : ρ → σ → σ} {put : γ → Bytes}
    {valid : γ → Prop} {f : γ → ρ} {rs : List γ}
    (hg : ∀ r ∈ rs, g.Reads (put r) (valid r) (f r))
    (hstore : ∀ r ∈ rs, ∀ s, P s → P (store (f r) s)) :
  KeepsOn P (Decoder.storeMany g store rs.length) (rs.map put).flatten ()
  := by
  induction rs with
  | nil => apply pure
  | cons r rs ih =>
      rw [List.forall_mem_cons] at hg hstore
      apply (lift hg.1).bind
      apply (modify hstore.1).first
      apply ih hg.2 hstore.2

end KeepsOn

/-- `d` keeps the invariant `P` of its state on the input `bs`. -/
def KeepsAt (P : σ → Prop) (d : Decoder σ ε α) (bs : Bytes) : Prop := ∀ s, P s → P (d bs s).2

theorem KeepsOn.bind_at {P : σ → Prop} {bs bs' : Bytes} {a : α} {d : Decoder σ ε α}
    {f : α → Decoder σ ε β} (hd : KeepsOn P d bs a) (hf : KeepsAt P (f a) bs') :
  KeepsAt P (d >>= f) (bs ++ bs')
  := by
  intro s hs
  obtain ⟨hP, hok⟩ := hd bs' s hs
  rw [bind_apply]
  rcases h : d (bs ++ bs') s with ⟨⟨e⟩ | r, s'⟩
  · rw [h] at hP
    exact hP
  · rw [h] at hP hok
    obtain rfl := hok r rfl
    exact hf s' hP

theorem KeepsOn.first_at {P : σ → Prop} {bs : Bytes} {a : α} {d : Decoder σ ε α}
    {f : α → Decoder σ ε β} (hd : KeepsOn P d [] a) (hf : KeepsAt P (f a) bs) :
  KeepsAt P (d >>= f) bs
  := hd.bind_at hf

/-- The first part of an input that is the concatenation of several images. -/
theorem KeepsOn.field_at {P : σ → Prop} {bs : Bytes} {images : List Bytes} {a : α}
    {d : Decoder σ ε α} {f : α → Decoder σ ε β} (hd : KeepsOn P d bs a)
    (hf : KeepsAt P (f a) images.flatten) :
  KeepsAt P (d >>= f) (bs :: images).flatten
  := hd.bind_at hf

/-! ### Decoding images -/

/-- How a decoder treats the image `bs`, whatever bytes follow it: if `valid` holds it returns `a`,
leaves exactly what follows and updates the state by `post`, and otherwise it fails. -/
structure Decodes (d : Decoder σ ε α) (bs : Bytes) (valid : Prop) (a : α) (post : σ → σ) :
    Prop where
  ok : valid → ∀ rest s, d (bs ++ rest) s = (.ok (a, rest), post s)
  fails : ¬valid → ∀ rest s, ∃ e s', d (bs ++ rest) s = (.error e, s')

namespace Decodes

variable {d : Decoder σ ε α} {bs bs' : Bytes} {images : List Bytes} {v v' : Prop} {a : α} {b : β}
  {post post' : σ → σ}

theorem pure (a : α) :
  Decodes (Pure.pure a : Decoder σ ε α) [] True a id
  where
  ok _ _ _ := rfl
  fails h := absurd trivial h

theorem lift {g : Reader ε α} (h : g.Reads bs v a) :
  Decodes (Decoder.lift g : Decoder σ ε α) bs v a id
  where
  ok hv rest s := lift_ok (h.ok hv rest) s
  fails hv rest s := by
    obtain ⟨e, he⟩ := h.fails hv rest
    exact ⟨e, s, lift_error he s⟩

theorem modify (f : σ → σ) :
  Decodes (Decoder.modify f : Decoder σ ε Unit) [] True () f
  where
  ok _ _ _ := rfl
  fails h := absurd trivial h

theorem bind {f : α → Decoder σ ε β} (hd : Decodes d bs v a post)
    (hf : Decodes (f a) bs' v' b post') :
  Decodes (d >>= f) (bs ++ bs') (v ∧ v') b (post' ∘ post)
  where
  ok h rest s := by
    rw [List.append_assoc, bind_ok (hd.ok h.1 _ s), hf.ok h.2]
    rfl
  fails h rest s := by
    rw [List.append_assoc]
    by_cases hv : v
    · rw [bind_ok (hd.ok hv _ s)]
      apply hf.fails
      intro hv'
      exact h ⟨hv, hv'⟩
    · obtain ⟨e, s', he⟩ := hd.fails hv (bs' ++ rest) s
      exact ⟨e, s', bind_error he f⟩

/-- A decoder that reads nothing, before another one. -/
theorem first {f : α → Decoder σ ε β} (hd : Decodes d [] v a post)
    (hf : Decodes (f a) bs v' b post') :
  Decodes (d >>= f) bs (v ∧ v') b (post' ∘ post)
  := hd.bind hf

/-- The first of several images. -/
theorem field {f : α → Decoder σ ε β} (hd : Decodes d bs v a post)
    (hf : Decodes (f a) images.flatten v' b post') :
  Decodes (d >>= f) (bs :: images).flatten (v ∧ v') b (post' ∘ post)
  := hd.bind hf

theorem congr (h : Decodes d bs v a post) (hv : v ↔ v') (hpost : ∀ s, post s = post' s) :
  Decodes d bs v' a post'
  where
  ok h' rest s := by
    rw [h.ok (hv.mpr h'), hpost]
  fails h' := h.fails fun h'' => h' (hv.mp h'')

/-- The images of a list of values are all read back and stored in order. -/
theorem storeMany {γ : Type} {g : Reader ε ρ} {store : ρ → σ → σ} {put : γ → Bytes}
    {valid : γ → Prop} {f : γ → ρ} {rs : List γ}
    (hg : ∀ r ∈ rs, g.Reads (put r) (valid r) (f r)) :
  Decodes (Decoder.storeMany g store rs.length) (rs.map put).flatten (∀ r ∈ rs, valid r) ()
    fun s => (rs.map f).foldl (fun s r => store r s) s
  := by
  induction rs with
  | nil =>
      apply (pure ()).congr
      · simp
      · intro s
        rfl
  | cons r rs ih =>
      rw [List.forall_mem_cons] at hg
      apply congr
      · apply (lift hg.1).field
        apply (modify _).first
        exact ih hg.2
      · simp
      · intro s
        rfl

end Decodes

/-- Of the images of a list of values, those before the first that is not valid are stored. -/
theorem storeMany_state {γ : Type} {g : Reader ε ρ} {store : ρ → σ → σ} {put : γ → Bytes}
    {valid : γ → Prop} [DecidablePred valid] {f : γ → ρ} {rs : List γ}
    (hg : ∀ r ∈ rs, g.Reads (put r) (valid r) (f r)) (rest : Bytes) (s : σ) :
  (storeMany g store rs.length ((rs.map put).flatten ++ rest) s).2
    = ((rs.takeWhile fun r => decide (valid r)).map f).foldl (fun s r => store r s) s
  := by
  induction rs generalizing s with
  | nil => rfl
  | cons r rs ih =>
      rw [List.forall_mem_cons] at hg
      rw [List.length_cons, storeMany, List.map_cons, List.flatten_cons, List.append_assoc]
      by_cases hr : valid r
      · have htake : (r :: rs).takeWhile (fun r => decide (valid r))
            = r :: rs.takeWhile fun r => decide (valid r) :=
          List.takeWhile_cons_of_pos (decide_eq_true hr)
        rw [bind_ok (lift_ok (hg.1.ok hr _) s), bind_ok (modify_apply _ _ _), ih hg.2, htake]
        rfl
      · obtain ⟨e, he⟩ := hg.1.fails hr ((rs.map put).flatten ++ rest)
        have htake : (r :: rs).takeWhile (fun r => decide (valid r)) = [] :=
          List.takeWhile_cons_of_neg (by simpa using hr)
        rw [bind_error (lift_error he s), htake]
        rfl

/-! ### Triples -/

/-- A triple for a decoder on the image `bs`, whatever bytes follow it: from a state of `P` it
returns `a`, leaves exactly what follows and ends in a state of `Q`, or it fails in a state of
`R`. -/
def Triple (P Q R : σ → Prop) (d : Decoder σ ε α) (bs : Bytes) (a : α) : Prop :=
  ∀ rest s, P s →
    (∀ r, (d (bs ++ rest) s).1 = .ok r → r = (a, rest) ∧ Q (d (bs ++ rest) s).2) ∧
    (∀ e, (d (bs ++ rest) s).1 = .error e → R (d (bs ++ rest) s).2)

namespace Triple

variable {P Q Q' R : σ → Prop} {d : Decoder σ ε α} {f : α → Decoder σ ε β} {bs bs' : Bytes}
  {images : List Bytes} {a : α} {b : β}

theorem bind (hd : Triple P Q R d bs a) (hf : Triple Q Q' R (f a) bs' b) :
  Triple P Q' R (d >>= f) (bs ++ bs') b
  := by
  intro rest s hs
  obtain ⟨hok, herror⟩ := hd (bs' ++ rest) s hs
  rw [List.append_assoc, bind_apply]
  rcases h : d (bs ++ (bs' ++ rest)) s with ⟨⟨e⟩ | r, s'⟩
  · rw [h] at herror
    constructor
    · rintro r ⟨⟩
    · intro e' he
      apply herror e rfl
  · rw [h] at hok
    obtain ⟨rfl, hQ⟩ := hok r rfl
    apply hf rest s' hQ

/-- The first of several images. -/
theorem field (hd : Triple P Q R d bs a) (hf : Triple Q Q' R (f a) images.flatten b) :
  Triple P Q' R (d >>= f) (bs :: images).flatten b
  := hd.bind hf

/-- What is kept on an image, and what the image is decoded to. -/
theorem of_keepsOn {v : Prop} {post : σ → σ} (hkeeps : KeepsOn P d bs a)
    (hdecodes : Decodes d bs v a post) (hQ : ∀ s, P s → v → Q (post s)) (hR : ∀ s, P s → R s) :
  Triple P Q R d bs a
  := by
  intro rest s hs
  obtain ⟨hP, hok⟩ := hkeeps rest s hs
  by_cases hv : v
  · rw [hdecodes.ok hv] at hP hok ⊢
    constructor
    · intro r hr
      apply And.intro (hok r hr) (hQ s hs hv)
    · rintro e ⟨⟩
  · obtain ⟨e, s', he⟩ := hdecodes.fails hv rest s
    rw [he] at hP ⊢
    constructor
    · rintro r ⟨⟩
    · intro e' he'
      apply hR s' hP

/-- The triple may be entered from less. -/
theorem consequence {P' : σ → Prop} (hd : Triple P Q R d bs a) (hP : ∀ s, P' s → P s) :
  Triple P' Q R d bs a
  := fun rest s hs => hd rest s (hP s hs)

/-- What holds whatever the state may be assumed. -/
theorem assuming {v : Prop} (h : v → Triple P Q R d bs a) :
  Triple (fun s => P s ∧ v) Q R d bs a
  := fun rest s hs => h hs.2 rest s hs.1

/-- On an input that goes on with `bs'`, the rest of the decoding starts where the first part
ends. -/
theorem bind_at (hd : Triple P Q R d bs a) (hf : ∀ s, Q s → R (f a bs' s).2) {s : σ} (hs : P s) :
  R ((d >>= f) (bs ++ bs') s).2
  := by
  obtain ⟨hok, herror⟩ := hd bs' s hs
  rw [bind_apply]
  rcases h : d (bs ++ bs') s with ⟨⟨e⟩ | r, s'⟩
  · rw [h] at herror
    apply herror e rfl
  · rw [h] at hok
    obtain ⟨rfl, hQ⟩ := hok r rfl
    apply hf s' hQ

end Triple

end Decoder

end Codec

import GpuDirectFabric.Library.Codec

/-!
# What readers accept

`Reads` follows a reader along a given image.  Here a reader is followed on any input at all:
`Accepts g Q` states that whenever `g` succeeds it has consumed bytes that `Q` relates to the value
it returns, and left the rest.  The rules for composite readers mirror those for `Reads`.  A format
is *exact* when its reader accepts nothing but the images of its records.

A decoder that stores what it reads succeeds exactly when a reader of the same values does, and what
it leaves in the state is given by these values.
-/

namespace Codec

namespace Reader

variable {ε α β ρ : Type}

/-- The reader consumes only what `Q` relates to the value it returns. -/
def Accepts (g : Reader ε α) (Q : α → Bytes → Prop) : Prop :=
  ∀ bs a rest, g bs = .ok (a, rest) → ∃ used, Q a used ∧ bs = used ++ rest

namespace Accepts

variable {g : Reader ε α} {Q Q' : α → Bytes → Prop} {R : β → Bytes → Prop}

theorem mono (h : Accepts g Q) (hQ : ∀ a used, Q a used → Q' a used) :
  Accepts g Q'
  := by
  intro bs a rest hok
  obtain ⟨used, hused, heq⟩ := h bs a rest hok
  exact ⟨used, hQ a used hused, heq⟩

theorem pure {a : α} (h : Q a []) :
  Accepts (Pure.pure a : Reader ε α) Q
  := by
  rintro bs _ _ ⟨⟩
  exact ⟨[], h, rfl⟩

/-- What follows a read has the bytes consumed by it before its own. -/
theorem bind {f : α → Reader ε β} (hg : Accepts g Q)
    (hf : ∀ a used, Q a used → Accepts (f a) fun b used' => R b (used ++ used')) :
  Accepts (g >>= f) R
  := by
  intro bs b rest h
  obtain ⟨a, bs', hok, hok'⟩ := bind_eq_ok.mp h
  obtain ⟨used, hQ, rfl⟩ := hg bs a bs' hok
  obtain ⟨used', hR, rfl⟩ := hf a used hQ bs' b rest hok'
  exact ⟨used ++ used', hR, (List.append_assoc _ _ _).symm⟩

/-- One field of a record, whose image is that of its value. -/
theorem field {P : α → Prop} {put : α → Bytes} {f : α → Reader ε β}
    (hg : Accepts g fun a used => P a ∧ used = put a)
    (hf : ∀ a, P a → Accepts (f a) fun b used => R b (put a ++ used)) :
  Accepts (g >>= f) R
  := by
  apply hg.bind
  rintro a _ ⟨hP, rfl⟩
  exact hf a hP

theorem guard (c : Bool) (e : ε) :
  Accepts (Reader.guard c e) fun _ used => c = true ∧ used = []
  := by
  cases c with
  | false => rintro bs _ _ ⟨⟩
  | true => exact pure ⟨rfl, rfl⟩

theorem take (n : ℕ) (e : ε) :
  Accepts (Reader.take n e) fun bs used => bs.length = n ∧ used = bs
  := by
  intro bs a rest h
  rw [Reader.take] at h
  split at h
  next => cases h
  next hle =>
    cases h
    exact ⟨_, ⟨List.length_take_of_le (not_lt.mp hle), rfl⟩, (List.take_append_drop n bs).symm⟩

theorem word (w : ℕ) (e : ε) :
  Accepts (Reader.word w e) fun n used => n < 256 ^ w ∧ used = putLE w n
  := by
  rw [Reader.word]
  apply (take w e).bind
  rintro bs _ ⟨hlength, rfl⟩
  apply pure
  rw [List.append_nil, ← hlength, putLE_leNat]
  exact ⟨leNat_lt _, rfl⟩

/-- Values read one after another, each made of one whose image was consumed. -/
theorem many {put : ρ → Bytes} {valid : ρ → Prop} {f : ρ → α}
    (hg : Accepts g fun a used => ∃ r, valid r ∧ a = f r ∧ used = put r) (n : ℕ) :
  Accepts (Reader.many g n) fun as used => ∃ rs : List ρ, rs.length = n ∧ (∀ r ∈ rs, valid r) ∧
    as = rs.map f ∧ used = (rs.map put).flatten
  := by
  induction n with
  | zero =>
      apply pure
      exact ⟨[], rfl, List.forall_mem_nil _, rfl, rfl⟩
  | succ n ih =>
      rw [Reader.many]
      apply hg.bind
      rintro _ _ ⟨r, hr, rfl, rfl⟩
      apply ih.bind
      rintro _ _ ⟨rs, rfl, hrs, rfl, rfl⟩
      apply pure
      refine ⟨r :: rs, rfl, List.forall_mem_cons.mpr ⟨hr, hrs⟩, rfl, ?_⟩
      rw [List.append_nil, List.map_cons, List.flatten_cons]

/-- What a reader returns satisfies what the bytes it accepts say of it. -/
theorem returns {P : α → Prop} (h : Accepts g Q) (hQ : ∀ a used, Q a used → P a) :
  g.Returns P
  := by
  intro bs a rest hok
  obtain ⟨used, hused, -⟩ := h bs a rest hok
  exact hQ a used hused

end Accepts

end Reader

/-- The reader of the format accepts only the images of its readable records. -/
def Format.Exact {ε ρ : Type} (F : Format ε ρ) : Prop :=
  F.read.Accepts fun a used =>
    ∃ r, (F.Fits r ∧ F.Readable r) ∧ a = F.recovered r ∧ used = F.put r

/-! ### Decoders that store what they read -/

namespace Decoder

variable {σ ε α β ρ : Type}

theorem bind_eq_ok {d : Decoder σ ε α} {f : α → Decoder σ ε β} {bs : Bytes} {s s' : σ}
    {r : β × Bytes} :
  (d >>= f) bs s = (.ok r, s') ↔
    ∃ a bs₁ s₁, d bs s = (.ok (a, bs₁), s₁) ∧ f a bs₁ s₁ = (.ok r, s')
  := by
  rw [bind_apply]
  constructor
  · intro h
    rcases hd : d bs s with ⟨⟨e⟩ | ⟨a, bs₁⟩, s₁⟩
    · rw [hd] at h
      cases h
    · rw [hd] at h
      exact ⟨a, bs₁, s₁, rfl, h⟩
  · rintro ⟨a, bs₁, s₁, hd, h⟩
    rw [hd]
    exact h

theorem lift_eq_ok {g : Reader ε α} {bs : Bytes} {s s' : σ} {r : α × Bytes} :
  lift g bs s = (.ok r, s') ↔ g bs = .ok r ∧ s' = s
  := by
  rw [lift]
  cases g bs with
  | error e =>
      constructor
      · rintro ⟨⟩
      · rintro ⟨⟨⟩, -⟩
  | ok r' =>
      constructor
      · rintro ⟨⟩
        exact ⟨rfl, rfl⟩
      · rintro ⟨⟨⟩, rfl⟩
        rfl

/-- Storing values as they are read succeeds when reading them all does. -/
theorem storeMany_eq_ok {g : Reader ε ρ} {store : ρ → σ → σ} {n : ℕ} {bs rest : Bytes} {s s' : σ} :
  storeMany g store n bs s = (.ok ((), rest), s') ↔
    ∃ rs, Reader.many g n bs = .ok (rs, rest) ∧ s' = rs.foldl (fun s r => store r s) s
  := by
  induction n generalizing bs s with
  | zero =>
      constructor
      · rintro ⟨⟩
        exact ⟨[], rfl, rfl⟩
      · rintro ⟨_, ⟨⟩, rfl⟩
        rfl
  | succ n ih =>
      rw [storeMany, bind_eq_ok]
      constructor
      · rintro ⟨r, bs₁, s₁, hread, hstore⟩
        obtain ⟨hr, rfl⟩ := lift_eq_ok.mp hread
        rw [bind_ok (modify_apply _ _ _)] at hstore
        obtain ⟨rs, hrs, rfl⟩ := ih.mp hstore
        refine ⟨r :: rs, ?_, rfl⟩
        rw [Reader.many, Reader.bind_ok hr, Reader.bind_ok hrs]
        rfl
      · rintro ⟨rs, hmany, rfl⟩
        rw [Reader.many, Reader.bind_eq_ok] at hmany
        obtain ⟨r, bs₁, hr, hmany⟩ := hmany
        obtain ⟨rs', bs₂, hrs, hpure⟩ := Reader.bind_eq_ok.mp hmany
        cases hpure
        refine ⟨r, bs₁, s, lift_eq_ok.mpr ⟨hr, rfl⟩, ?_⟩
        rw [bind_ok (modify_apply _ _ _)]
        exact ih.mpr ⟨rs', hrs, rfl⟩

end Decoder

end Codec

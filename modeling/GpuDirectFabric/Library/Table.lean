import Mathlib.Algebra.GroupWithZero.Nat
import Mathlib.Data.List.AList

/-!
# Tables

A `Table V` is a finite map from natural numbers to `V`, as an association list with
distinct keys.  The order of the entries is the order in which the table is traversed; two
tables are *rearrangements* of each other when they have the same entries in some order,
and then every key is looked up with the same result in both.
-/

/-- A finite map from natural numbers to `V`. -/
abbrev Table (V : Type) := AList (fun _ : ℕ => V)

namespace Table

variable {V W : Type}

/-- The number of entries of a table. -/
def size (t : Table V) : ℕ := t.entries.length

/-- The values of a table, in traversal order. -/
def values (t : Table V) : List V := t.entries.map Sigma.snd

/-- The table with `f` applied to every value. -/
def mapVals (f : V → W) (t : Table V) : Table W :=
  ⟨t.entries.map (Sigma.map id fun _ => f), t.nodupKeys.map₂ fun _ => f⟩

/-- The table holding the values `rs`, each under its key; a later value replaces an
earlier one with the same key. -/
def ofList (key : V → ℕ) (rs : List V) : Table V :=
  rs.foldl (fun t r => t.insert (key r) r) ∅

/-! ### Looking up -/

theorem lookup_insert_eq (t : Table V) (k k' : ℕ) (v : V) :
  (t.insert k v).lookup k' = if k' = k then some v else t.lookup k'
  := by
  split
  next h => rw [h, AList.lookup_insert]
  next h => rw [AList.lookup_insert_ne h]

/-- What is looked up after an insertion is the new value, or was there before. -/
theorem lookup_insert_some {t : Table V} {k k' : ℕ} {v v' : V}
    (h : (t.insert k v).lookup k' = some v') :
  k' = k ∧ v' = v ∨ k' ≠ k ∧ t.lookup k' = some v'
  := by
  rw [lookup_insert_eq] at h
  split at h
  next hk => exact .inl ⟨hk, (Option.some.inj h).symm⟩
  next hk => exact .inr ⟨hk, h⟩

theorem lookup_erase_eq (t : Table V) (k k' : ℕ) :
  (t.erase k).lookup k' = if k' = k then none else t.lookup k'
  := by
  split
  next h => rw [h, AList.lookup_erase]
  next h => rw [AList.lookup_erase_ne h]

@[simp]
theorem lookup_mapVals (f : V → W) (t : Table V) (k : ℕ) :
  (t.mapVals f).lookup k = (t.lookup k).map f
  := List.dlookup_map₂ k

/-- The values of a table are the results of its lookups. -/
theorem mem_values {t : Table V} {v : V} :
  v ∈ t.values ↔ ∃ k, t.lookup k = some v
  := by
  simp only [values, List.mem_map, ← Option.mem_def, AList.mem_lookup_iff]
  constructor
  · rintro ⟨⟨k, w⟩, hmem, rfl⟩
    exact ⟨k, hmem⟩
  · rintro ⟨k, hmem⟩
    exact ⟨⟨k, v⟩, hmem, rfl⟩

@[simp]
theorem length_values (t : Table V) :
  t.values.length = t.size
  := List.length_map _

/-- Values with distinct keys `key` at distinct places of the table. -/
theorem nodup_map_values {t : Table V} {key : V → ℕ}
    (h : ∀ k k' v v', t.lookup k = some v → t.lookup k' = some v' → key v = key v' → k = k') :
  (t.values.map key).Nodup
  := by
  have hentries : t.entries.Nodup := t.nodupKeys.nodup
  rw [values, List.map_map]
  apply List.Nodup.map_on _ hentries
  rintro ⟨k, v⟩ hmem ⟨k', v'⟩ hmem' heq
  rw [← AList.mem_lookup_iff, Option.mem_def] at hmem hmem'
  obtain rfl := h k k' v v' hmem hmem' heq
  obtain rfl := Option.some.inj (hmem.symm.trans hmem')
  rfl

/-- An insertion adds an entry unless it replaces one. -/
theorem size_insert (t : Table V) (k : ℕ) (v : V) :
  size (t.insert k v) = if (t.lookup k).isSome then t.size else t.size + 1
  := by
  have hmem : (t.lookup k).isSome = true ↔ k ∈ t.keys := AList.lookup_isSome
  have hsize : ∀ u : Table V, u.size = u.keys.length := fun u => (List.length_map _).symm
  rw [hsize, hsize, AList.keys_insert, List.length_cons, List.length_erase]
  by_cases hk : k ∈ t.keys
  · rw [if_pos (hmem.mpr hk), if_pos hk]
    exact Nat.succ_pred_eq_of_pos (List.length_pos_of_mem hk)
  · rw [if_neg (mt hmem.mp hk), if_neg hk]

theorem size_erase_le (t : Table V) (k : ℕ) :
  size (t.erase k) ≤ t.size
  := by
  have hsize : ∀ u : Table V, u.size = u.keys.length := fun u => (List.length_map _).symm
  rw [hsize, hsize, AList.keys_erase]
  exact List.length_erase_le

/-- Tables with the same keys are of one size. -/
theorem size_congr {W : Type} {t : Table V} {t' : Table W}
    (h : ∀ k, (t.lookup k).isSome = (t'.lookup k).isSome) :
  t.size = t'.size
  := by
  have hkeys : t.keys.Perm t'.keys := by
    apply (List.perm_ext_iff_of_nodup t.keys_nodup t'.keys_nodup).mpr
    intro k
    rw [← AList.mem_keys, ← AList.mem_keys, ← AList.lookup_isSome, ← AList.lookup_isSome, h]
  have hsize := hkeys.length_eq
  rwa [AList.keys, AList.keys, List.keys, List.keys, List.length_map, List.length_map] at hsize

/-! ### Properties of all entries -/

/-- Every entry satisfies `P`. -/
def All (P : ℕ → V → Prop) (t : Table V) : Prop := ∀ k v, t.lookup k = some v → P k v

namespace All

variable {P Q : ℕ → V → Prop} {t : Table V}

theorem empty :
  All P ∅
  := by
  rintro k v ⟨⟩

theorem mono (h : All P t) (hPQ : ∀ k v, P k v → Q k v) :
  All Q t
  := fun k v hv => hPQ k v (h k v hv)

theorem insert {k : ℕ} {v : V} (h : All P t) (hv : P k v) :
  All P (AList.insert k v t)
  := by
  intro k' v' hv'
  obtain ⟨rfl, rfl⟩ | ⟨-, hold⟩ := lookup_insert_some hv'
  · exact hv
  · exact h k' v' hold

/-- Replace the value at a key. -/
theorem modify {k : ℕ} {v v' : V} (h : All P t) (hv : t.lookup k = some v)
    (hP : P k v → P k v') :
  All P (AList.insert k v' t)
  := h.insert (hP (h k v hv))

theorem erase {k : ℕ} (h : All P t) :
  All P (AList.erase k t)
  := by
  intro k' v' hv'
  rw [lookup_erase_eq] at hv'
  split at hv'
  next => cases hv'
  next => exact h k' v' hv'

theorem mapVals {R : ℕ → W → Prop} {f : V → W} (h : All P t) (hf : ∀ k v, P k v → R k (f v)) :
  All R (t.mapVals f)
  := by
  intro k w hw
  rw [lookup_mapVals] at hw
  obtain ⟨v, hv, rfl⟩ := Option.map_eq_some_iff.mp hw
  exact hf k v (h k v hv)

/-- Values stored under their keys have distinct keys. -/
theorem nodup_map_values {key : V → ℕ} (h : All (fun k v => key v = k) t) :
  (t.values.map key).Nodup
  := by
  apply Table.nodup_map_values
  intro k k' v v' hv hv' heq
  rw [← h k v hv, heq, h k' v' hv']

theorem of_mem_values {v : V} (h : All P t) (hv : v ∈ t.values) :
  ∃ k, P k v
  := by
  obtain ⟨k, hk⟩ := mem_values.mp hv
  exact ⟨k, h k v hk⟩

end All

theorem forall_values {P : V → Prop} {t : Table V} :
  (∀ v ∈ t.values, P v) ↔ t.All fun _ v => P v
  := by
  constructor
  · intro h k v hv
    exact h v (mem_values.mpr ⟨k, hv⟩)
  · intro h v hv
    exact (h.of_mem_values hv).choose_spec

/-! ### Tables of a list -/

theorem lookup_foldl_insert (key : V → ℕ) (k : ℕ) :
  ∀ (rs : List V) (t : Table V), (rs.map key).Nodup →
    (rs.foldl (fun t r => t.insert (key r) r) t).lookup k
      = (rs.find? fun r => key r = k).or (t.lookup k)
  | [], t, _ => by simp
  | r :: rs, t, hnd => by
      rw [List.map_cons, List.nodup_cons] at hnd
      rw [List.foldl_cons, lookup_foldl_insert key k rs _ hnd.2, lookup_insert_eq,
        List.find?_cons]
      by_cases hk : key r = k
      · have hnone : rs.find? (fun r => key r = k) = none := by
          apply List.find?_eq_none.mpr
          intro r' hr'
          simp only [decide_eq_true_eq]
          intro hr
          apply hnd.1
          rw [hk, ← hr]
          apply List.mem_map_of_mem hr'
        simp [hk, hnone]
      · simp [hk, Ne.symm hk]

/-- A value with key `k` among values with distinct keys is the one looked up at `k`. -/
theorem lookup_ofList {key : V → ℕ} {rs : List V} (hnd : (rs.map key).Nodup) {k : ℕ} {v : V} :
  (ofList key rs).lookup k = some v ↔ v ∈ rs ∧ key v = k
  := by
  rw [ofList, lookup_foldl_insert key k rs ∅ hnd, AList.lookup_empty, Option.or_none]
  constructor
  · intro h
    exact ⟨List.mem_of_find?_eq_some h, by simpa using List.find?_some h⟩
  · rintro ⟨hmem, rfl⟩
    induction rs with
    | nil => cases hmem
    | cons r rs ih =>
        rw [List.map_cons, List.nodup_cons] at hnd
        rw [List.find?_cons]
        obtain rfl | hmem := List.mem_cons.mp hmem
        · simp
        · have hne : key r ≠ key v := by
            intro h
            apply hnd.1
            rw [h]
            apply List.mem_map_of_mem hmem
          simp [hne, ih hnd.2 hmem]

/-- A property of all entries of a table of values with distinct keys. -/
theorem all_ofList {key : V → ℕ} {rs : List V} (hnd : (rs.map key).Nodup) {P : ℕ → V → Prop} :
  (ofList key rs).All P ↔ ∀ r ∈ rs, P (key r) r
  := by
  constructor
  · intro h r hr
    exact h (key r) r ((lookup_ofList hnd).mpr ⟨hr, rfl⟩)
  · intro h k v hv
    obtain ⟨hmem, rfl⟩ := (lookup_ofList hnd).mp hv
    exact h v hmem

/-- The keys of a table of values with distinct keys. -/
theorem exists_lookup_ofList {key : V → ℕ} {rs : List V} (hnd : (rs.map key).Nodup) {k : ℕ} :
  (∃ v, (ofList key rs).lookup k = some v) ↔ ∃ v ∈ rs, key v = k
  := by
  simp only [lookup_ofList hnd]

/-! ### Rearrangements -/

/-- Two tables with the same entries, possibly traversed in different orders. -/
def Rearranged (t t' : Table V) : Prop := t.entries.Perm t'.entries

theorem Rearranged.refl (t : Table V) :
  Rearranged t t
  := List.Perm.refl _

theorem Rearranged.lookup {t t' : Table V} (h : Rearranged t t') (k : ℕ) :
  t'.lookup k = t.lookup k
  := AList.perm_lookup h.symm

theorem Rearranged.all {P : ℕ → V → Prop} {t t' : Table V} (h : Rearranged t t')
    (hP : t.All P) :
  t'.All P
  := by
  intro k v hv
  rw [h.lookup] at hv
  exact hP k v hv

theorem Rearranged.size {t t' : Table V} (h : Rearranged t t') :
  t'.size = t.size
  := (List.Perm.length_eq h).symm

theorem Rearranged.trans {t t' t'' : Table V} (h : Rearranged t t') (h' : Rearranged t' t'') :
  Rearranged t t''
  := List.Perm.trans h h'

theorem Rearranged.perm_values {t t' : Table V} (h : Rearranged t t') :
  t.values.Perm t'.values
  := by
  rw [values, values]
  apply List.Perm.map _ h

theorem Rearranged.insert {t t' : Table V} (h : Rearranged t t') (k : ℕ) (v : V) :
  Rearranged (AList.insert k v t) (AList.insert k v t')
  := AList.perm_insert h

theorem Rearranged.erase {t t' : Table V} (h : Rearranged t t') (k : ℕ) :
  Rearranged (AList.erase k t) (AList.erase k t')
  := AList.perm_erase h

theorem Rearranged.map {t t' : Table V} (h : Rearranged t t') (f : V → W) :
  Rearranged (mapVals f t) (mapVals f t')
  := by
  rw [Rearranged, mapVals, mapVals]
  apply List.Perm.map _ h

/-! ### Weights -/

/-- The sum of the weights of the values of a table. -/
def weight (w : V → ℕ) (t : Table V) : ℕ := (t.values.map w).sum

/-- The weight of the value at a key, if there is one. -/
def weightAt (w : V → ℕ) (t : Table V) (k : ℕ) : ℕ := ((t.lookup k).map w).getD 0

theorem weight_erase (w : V → ℕ) (t : Table V) (k : ℕ) :
  weight w (t.erase k) + weightAt w t k = weight w t
  := by
  rw [weight, weight, weightAt, values, values]
  by_cases hk : k ∈ t.entries.keys
  · obtain ⟨v, l₁, l₂, -, hentries, herase⟩ := List.exists_of_kerase hk
    have hv : t.lookup k = some v := by
      rw [← Option.mem_def, AList.mem_lookup_iff, hentries]
      exact List.mem_append_right _ List.mem_cons_self
    change ((List.kerase k t.entries).map Sigma.snd |>.map w).sum + _ = _
    rw [herase, hv, hentries]
    simp only [List.map_append, List.map_cons, List.sum_append, List.sum_cons, Option.map_some,
      Option.getD_some]
    omega
  · have hnone : t.lookup k = none := AList.lookup_eq_none.mpr hk
    change ((List.kerase k t.entries).map Sigma.snd |>.map w).sum + _ = _
    rw [List.kerase_of_notMem_keys hk, hnone]
    rfl

theorem weight_insert (w : V → ℕ) (t : Table V) (k : ℕ) (v : V) :
  weight w (t.insert k v) + weightAt w t k = weight w t + w v
  := by
  have hinsert : weight w (t.insert k v) = w v + weight w (t.erase k) := by
    rw [weight, values, AList.entries_insert, List.map_cons, List.map_cons, List.sum_cons]
    rfl
  rw [hinsert, ← weight_erase w t k]
  omega

theorem weightAt_of_lookup {w : V → ℕ} {t : Table V} {k : ℕ} {v : V} (h : t.lookup k = some v) :
  weightAt w t k = w v
  := by
  rw [weightAt, h]
  rfl

theorem weight_mapVals {w w' : V → ℕ} {f : V → V} (t : Table V) (hf : ∀ v, w' (f v) = w v) :
  weight w' (t.mapVals f) = weight w t
  := by
  have hvalues : (t.mapVals f).values = t.values.map f := by
    simp only [values, mapVals, List.map_map]
    rfl
  have hweights : w' ∘ f = w := funext hf
  rw [weight, weight, hvalues, List.map_map, hweights]

theorem Rearranged.weight {t t' : Table V} (h : Rearranged t t') (w : V → ℕ) :
  weight w t' = weight w t
  := by
  have hentries : t.entries.Perm t'.entries := h
  have hvalues : t.values.Perm t'.values := by
    rw [values, values]
    exact hentries.map _
  exact (hvalues.map w).sum_nat.symm

/-- Values found among `rs`, each under a key of its own, weigh no more than these. -/
theorem weight_le_sum {w : V → ℕ} (key : V → ℕ) {rs : List V} {t : Table V}
    (h : t.All fun k v => ∃ r ∈ rs, key r = k ∧ w v = w r) :
  weight w t ≤ (rs.map w).sum
  := by
  induction rs generalizing t with
  | nil =>
      have hnil : t.values = [] := by
        apply List.eq_nil_iff_forall_not_mem.mpr
        intro v hv
        obtain ⟨k, hk⟩ := mem_values.mp hv
        obtain ⟨r, hr, -⟩ := h k v hk
        cases hr
      rw [weight, hnil]
  | cons r rs ih =>
      rw [List.map_cons, List.sum_cons]
      by_cases hrest : t.All fun k v => ∃ r ∈ rs, key r = k ∧ w v = w r
      · exact Nat.le_trans (ih hrest) (Nat.le_add_left _ _)
      · simp only [All, not_forall] at hrest
        obtain ⟨k, v, hv, hnot⟩ := hrest
        obtain ⟨r', hr', hkey, hw⟩ := h k v hv
        obtain rfl : r' = r := by
          obtain rfl | hr' := List.mem_cons.mp hr'
          · rfl
          · exact absurd ⟨r', hr', hkey, hw⟩ hnot
        have herase : weight w (t.erase k) ≤ (rs.map w).sum := by
          apply ih
          intro k' v' hv'
          rw [lookup_erase_eq] at hv'
          split at hv'
          next => cases hv'
          next hk =>
            obtain ⟨r'', hr'', hkey', hw'⟩ := h k' v' hv'
            obtain rfl | hr'' := List.mem_cons.mp hr''
            · exact absurd (hkey'.symm.trans hkey) hk
            · exact ⟨r'', hr'', hkey', hw'⟩
        rw [← weight_erase w t k, weightAt_of_lookup hv, hw]
        omega

end Table

import GpuDirectFabric.Library.Table
import Mathlib.Data.List.Sort
import Mathlib.Logic.Function.Basic

/-!
# Directories

A table keeps its values under numbers.  It is a *directory* when its values have names, and no two
entries have one name.  Then the numbers do not matter: the table stands for the map that takes a
name to the value with that name, a value is found by its name in whatever order the table is
traversed, and the values sorted by their names are one list.
-/

namespace Table

variable {V K : Type} {name : V → K} {t t' : Table V}

/-- No two entries have one name. -/
def Named (name : V → K) (t : Table V) : Prop :=
  ∀ k k' v v', t.lookup k = some v → t.lookup k' = some v' → name v = name v' → k = k'

theorem Named.eq {v v' : V} (h : Named name t) (hv : v ∈ t.values) (hv' : v' ∈ t.values)
    (hname : name v = name v') :
  v = v'
  := by
  obtain ⟨k, hk⟩ := mem_values.mp hv
  obtain ⟨k', hk'⟩ := mem_values.mp hv'
  obtain rfl := h k k' v v' hk hk' hname
  apply Option.some.inj (hk.symm.trans hk')

/-- Values that are stored under their names have distinct names. -/
theorem All.named {name : V → ℕ} (h : t.All fun k v => name v = k) :
  Named name t
  := by
  intro k k' v v' hv hv' hname
  rw [← h k v hv, hname, h k' v' hv']

theorem Named.empty :
  Named name (∅ : Table V)
  := by
  rintro k k' v v' ⟨⟩

/-- A value may be stored where no other entry has its name. -/
theorem Named.insert {k : ℕ} {v : V} (h : Named name t)
    (hother : ∀ k' v', t.lookup k' = some v' → name v' = name v → k' = k) :
  Named name (AList.insert k v t)
  := by
  intro k₁ k₂ v₁ v₂ h₁ h₂ hname
  obtain ⟨rfl, rfl⟩ | ⟨-, hold₁⟩ := lookup_insert_some h₁
  · obtain ⟨rfl, rfl⟩ | ⟨-, hold₂⟩ := lookup_insert_some h₂
    · rfl
    · symm
      apply hother k₂ v₂ hold₂ hname.symm
  · obtain ⟨rfl, rfl⟩ | ⟨-, hold₂⟩ := lookup_insert_some h₂
    · apply hother k₁ v₁ hold₁ hname
    · apply h k₁ k₂ v₁ v₂ hold₁ hold₂ hname

theorem Named.erase {k : ℕ} (h : Named name t) :
  Named name (AList.erase k t)
  := by
  intro k₁ k₂ v₁ v₂ h₁ h₂ hname
  rw [lookup_erase_eq] at h₁ h₂
  split at h₁
  · cases h₁
  · split at h₂
    · cases h₂
    · apply h k₁ k₂ v₁ v₂ h₁ h₂ hname

/-! ### The map a directory stands for -/

section

variable [DecidableEq K]

/-- The value with a given name. -/
def view (name : V → K) (t : Table V) (x : K) : Option V := t.values.find? fun v => name v = x

theorem view_eq_some (h : Named name t) {x : K} {v : V} :
  view name t x = some v ↔ (∃ k, t.lookup k = some v) ∧ name v = x
  := by
  rw [← mem_values, view]
  constructor
  · intro hfind
    constructor
    · apply List.mem_of_find?_eq_some hfind
    · simpa using List.find?_some hfind
  · rintro ⟨hmem, rfl⟩
    cases hfind : t.values.find? fun v' => name v' = name v with
    | none =>
        have hnot := List.find?_eq_none.mp hfind v hmem
        simp at hnot
    | some v' =>
        congr 1
        apply h.eq (List.mem_of_find?_eq_some hfind) hmem
        simpa using List.find?_some hfind

theorem view_eq_none {x : K} :
  view name t x = none ↔ ∀ k v, t.lookup k = some v → name v ≠ x
  := by
  rw [view, List.find?_eq_none]
  simp only [mem_values, decide_eq_true_eq, forall_exists_index]
  constructor
  · intro h k v hv
    apply h v k hv
  · intro h v k hv
    apply h k v hv

/-- Directories with the same lookups stand for one map. -/
theorem view_congr (h : Named name t) (h' : Named name t')
    (hlookup : ∀ k, t'.lookup k = t.lookup k) :
  view name t' = view name t
  := by
  funext x
  apply Option.ext
  intro v
  rw [view_eq_some h', view_eq_some h]
  simp only [hlookup]

/-- To store a value in place of one with its name, or anew, is to write the map at its name. -/
theorem view_insert {k : ℕ} {v : V} (h : Named name t)
    (hother : ∀ k' v', t.lookup k' = some v' → name v' = name v → k' = k)
    (hold : ∀ v', t.lookup k = some v' → name v' = name v) :
  view name (AList.insert k v t) = Function.update (view name t) (name v) (some v)
  := by
  funext x
  apply Option.ext
  intro v'
  rw [view_eq_some (h.insert hother), Function.update_apply]
  split
  next hx =>
    constructor
    · rintro ⟨⟨k', hk'⟩, hname⟩
      obtain ⟨-, rfl⟩ | ⟨hne, hlookup⟩ := lookup_insert_some hk'
      · rfl
      · apply absurd (hother k' v' hlookup (hname.trans hx)) hne
    · rintro ⟨⟩
      use ⟨k, AList.lookup_insert t⟩, hx.symm
  next hx =>
    rw [view_eq_some h]
    constructor
    · rintro ⟨⟨k', hk'⟩, rfl⟩
      obtain ⟨-, rfl⟩ | ⟨-, hlookup⟩ := lookup_insert_some hk'
      · contradiction
      · use ⟨k', hlookup⟩
    · rintro ⟨⟨k', hk'⟩, rfl⟩
      have hne : k' ≠ k := by
        rintro rfl
        apply hx (hold v' hk')
      use ⟨k', (AList.lookup_insert_ne hne).trans hk'⟩

/-- To erase a value is to erase its name from the map. -/
theorem view_erase {k : ℕ} {v : V} (h : Named name t) (hv : t.lookup k = some v) :
  view name (AList.erase k t) = Function.update (view name t) (name v) none
  := by
  funext x
  apply Option.ext
  intro v'
  rw [view_eq_some h.erase, Function.update_apply]
  split
  next hx =>
    constructor
    · rintro ⟨⟨k', hk'⟩, rfl⟩
      rw [lookup_erase_eq] at hk'
      split at hk'
      next => cases hk'
      next hne => apply absurd (h k' k v' v hk' hv hx) hne
    · rintro ⟨⟩
  next hx =>
    rw [view_eq_some h]
    constructor
    · rintro ⟨⟨k', hk'⟩, rfl⟩
      rw [lookup_erase_eq] at hk'
      split at hk'
      next => cases hk'
      next => use ⟨k', hk'⟩
    · rintro ⟨⟨k', hk'⟩, rfl⟩
      have hne : k' ≠ k := by
        rintro rfl
        obtain rfl := Option.some.inj (hk'.symm.trans hv)
        contradiction
      use ⟨k', (AList.lookup_erase_ne hne).trans hk'⟩

end

/-! ### Listings -/

section

variable [LinearOrder K]

/-- The values of a table in the order of their names. -/
def listing (name : V → K) (t : Table V) : List V :=
  t.values.insertionSort fun a b => name a ≤ name b

theorem mem_listing {v : V} :
  v ∈ listing name t ↔ ∃ k, t.lookup k = some v
  := by
  rw [listing, List.mem_insertionSort, mem_values]

theorem length_listing :
  (listing name t).length = t.size
  := by
  rw [listing, List.length_insertionSort, length_values]

theorem listing_le :
  (listing name t).Pairwise fun a b => name a ≤ name b
  := by
  have : Std.Total fun a b : V => name a ≤ name b := ⟨fun a b => le_total (name a) (name b)⟩
  have : IsTrans V fun a b => name a ≤ name b := ⟨fun _ _ _ => le_trans⟩
  apply List.pairwise_insertionSort

/-- The names of a listing increase. -/
theorem listing_lt (h : Named name t) :
  (listing name t).Pairwise fun a b => name a < name b
  := by
  have hnodup : (t.values.map fun v => v).Nodup := by
    rw [List.map_id']
    apply List.Nodup.map_on _ t.nodupKeys.nodup
    rintro ⟨k, v⟩ hmem ⟨k', v'⟩ hmem' heq
    obtain rfl : v = v' := heq
    rw [← AList.mem_lookup_iff, Option.mem_def] at hmem hmem'
    rw [h k k' v v hmem hmem' rfl]
  rw [List.map_id'] at hnodup
  have hdistinct : (listing name t).Nodup :=
    (List.perm_insertionSort _ t.values).nodup_iff.mpr hnodup
  apply ((List.pairwise_and_iff.mpr ⟨listing_le, hdistinct⟩).imp_of_mem)
  rintro a b ha hb ⟨hle, hne⟩
  apply lt_of_le_of_ne hle
  intro hname
  apply hne
  apply h.eq (mem_values.mpr (mem_listing.mp ha)) (mem_values.mpr (mem_listing.mp hb)) hname

/-- The list holds the values of the table, each once, in the order of their names. -/
structure Lists (name : V → K) (t : Table V) (l : List V) : Prop where
  mem : ∀ v, v ∈ l ↔ ∃ k, t.lookup k = some v
  length : l.length = t.size
  increasing : l.Pairwise fun a b => name a < name b

theorem Named.lists_listing (h : Named name t) :
  Lists name t (listing name t)
  where
  mem _ := mem_listing
  length := length_listing
  increasing := listing_lt h

/-- There is one such list. -/
theorem Lists.unique {l l' : List V} (h : Lists name t l) (h' : Lists name t l') :
  l = l'
  := by
  have hperm : l.Perm l' := by
    apply (List.perm_ext_iff_of_nodup _ _).mpr
    · intro v
      rw [h.mem, h'.mem]
    · apply h.increasing.imp fun hlt heq => hlt.ne (congrArg name heq)
    · apply h'.increasing.imp fun hlt heq => hlt.ne (congrArg name heq)
  apply hperm.eq_of_pairwise _ h.increasing h'.increasing
  intro a b _ _ hab hba
  apply absurd (hab.trans hba) (lt_irrefl _)

/-- The listing does not depend on the order of traversal. -/
theorem Rearranged.listing (ht : Rearranged t t') (h : Named name t) :
  Table.listing name t' = Table.listing name t
  := by
  apply List.Perm.eq_of_pairwise _ listing_le listing_le
  · apply (List.perm_insertionSort _ _).trans
    apply ht.perm_values.symm.trans (List.perm_insertionSort _ _).symm
  · intro a b ha hb hab hba
    rw [mem_listing] at ha hb
    simp only [ht.lookup] at ha
    apply h.eq (mem_values.mpr ha) (mem_values.mpr hb) (le_antisymm hab hba)

end

/-! ### Tables made from lists -/

section

variable {key : V → ℕ} {vs : List V}

theorem perm_values_ofList (h : (vs.map key).Nodup) :
  (ofList key vs).values.Perm vs
  := by
  have hkeyed : (ofList key vs).All fun k v => key v = k := (all_ofList h).mpr fun _ _ => rfl
  apply (List.perm_ext_iff_of_nodup (hkeyed.nodup_map_values.of_map _) (h.of_map _)).mpr
  intro v
  rw [mem_values]
  simp only [lookup_ofList h, exists_and_left, exists_eq', and_true]

/-- The listing of a table made from a list in order is the list. -/
theorem listing_ofList (h : vs.Pairwise fun a b => key a < key b) :
  listing key (ofList key vs) = vs
  := by
  have hnodup : (vs.map key).Nodup := List.pairwise_map.mpr (h.imp fun hlt => hlt.ne)
  have hlists : Lists key (ofList key vs) vs := by
    constructor
    · intro v
      rw [← mem_values, (perm_values_ofList hnodup).mem_iff]
    · rw [← length_values, (perm_values_ofList hnodup).length_eq]
    · apply h
  have hnamed : Named key (ofList key vs) := ((all_ofList hnodup).mpr fun _ _ => rfl).named
  apply hnamed.lists_listing.unique hlists

theorem entries_mapVals (f : V → V) (t : Table V) :
  (mapVals f t).entries = t.entries.map (Sigma.map id fun _ => f)
  := rfl

theorem mapVals_insert (f : V → V) (t : Table V) (k : ℕ) (v : V) :
  mapVals f (AList.insert k v t) = AList.insert k (f v) (mapVals f t)
  := by
  apply AList.ext
  rw [entries_mapVals, AList.entries_insert, AList.entries_insert, entries_mapVals, List.map_cons]
  congr 1
  symm
  apply List.eraseP_map

/-- Values may be changed before they are stored, or after. -/
theorem mapVals_ofList {f : V → V} (hf : ∀ v, key (f v) = key v) :
  mapVals f (ofList key vs) = ofList key (vs.map f)
  := by
  have hfold : ∀ t : Table V, mapVals f (vs.foldl (fun t v => AList.insert (key v) v t) t)
      = (vs.map f).foldl (fun t v => AList.insert (key v) v t) (mapVals f t) := by
    induction vs with
    | nil =>
        intro t
        rfl
    | cons v vs ih =>
        intro t
        rw [List.foldl_cons, ih, mapVals_insert, List.map_cons, List.foldl_cons, hf]
  apply hfold

theorem mapVals_eq_self {f : V → V} {t : Table V} (h : ∀ v ∈ t.values, f v = v) :
  mapVals f t = t
  := by
  apply AList.ext
  rw [entries_mapVals]
  conv_rhs => rw [← List.map_id t.entries]
  apply List.map_congr_left
  rintro ⟨k, v⟩ hmem
  have hv : f v = v := h v (List.mem_map_of_mem hmem)
  rw [Sigma.map, hv]
  rfl

end

end Table

import Mathlib.Data.List.Basic

/-!
# Pipes

A *pipe* carries items in order.  A write puts some items at its end and a read takes some from its
front, as many as the pipe happens to accept or to deliver, and none when it has failed.  The loops
`writeAll` and `readAll` make such calls until a whole list is written or a number of items is read.

What is read is always what is at the front.  When no call fails, a list is written whole, and as
many items as are in the pipe are read.
-/

/-- The items in a pipe, and how many of them the coming calls move at most. -/
structure Pipe (α : Type) where
  queue : List α := []
  limits : ℕ → ℕ := fun _ => 0

namespace Pipe

variable {α : Type}

/-- The pipe with other items in it, after a call. -/
def after (p : Pipe α) (queue : List α) : Pipe α :=
  { queue := queue, limits := fun i => p.limits (i + 1) }

/-- Read up to `n` items. -/
def read (n : ℕ) (p : Pipe α) : List α × Pipe α :=
  let k := min n (p.limits 0)
  (p.queue.take k, p.after (p.queue.drop k))

/-- Write some of the items, and return how many. -/
def write (xs : List α) (p : Pipe α) : ℕ × Pipe α :=
  let k := min xs.length (p.limits 0)
  (k, p.after (p.queue ++ xs.take k))

/-- Read `n` items, unless a read delivers none. -/
def readAll (n : ℕ) (p : Pipe α) : Option (List α) × Pipe α :=
  if n = 0 then (some [], p)
  else
    let (xs, p) := p.read n
    if xs.length = 0 then (none, p)
    else
      let (rest, p) := readAll (n - xs.length) p
      (rest.map (xs ++ ·), p)
termination_by n

/-- Write all items, unless a write accepts none. -/
def writeAll (xs : List α) (p : Pipe α) : Bool × Pipe α :=
  if xs.length = 0 then (true, p)
  else
    let (k, p) := p.write xs
    if k = 0 then (false, p)
    else writeAll (xs.drop k) p
termination_by xs.length

/-- No call fails. -/
def Flows (p : Pipe α) : Prop := ∀ i, 0 < p.limits i

theorem Flows.after {p : Pipe α} (h : p.Flows) (queue : List α) :
  (p.after queue).Flows
  := fun i => h (i + 1)

/-! ### Reads -/

/-- What one read delivers was at the front. -/
theorem queue_of_read {p p' : Pipe α} {n : ℕ} {xs : List α} (h : p.read n = (xs, p')) :
  p.queue = xs ++ p'.queue ∧ xs.length ≤ n
  := by
  obtain ⟨rfl, rfl⟩ := Prod.mk.inj h
  constructor
  · exact (List.take_append_drop _ _).symm
  · exact Nat.le_trans (List.length_take_le _ _) (Nat.min_le_left _ _)

/-- What is read was at the front. -/
theorem queue_of_readAll {p p' : Pipe α} {n : ℕ} {xs : List α} (h : p.readAll n = (some xs, p')) :
  p.queue = xs ++ p'.queue ∧ xs.length = n
  := by
  fun_induction Pipe.readAll n p generalizing xs p' with
  | case1 p =>
      cases h
      exact ⟨rfl, rfl⟩
  | case2 => cases h
  | case3 n p hn ys q hread hsome rest q' hrest ih =>
      obtain ⟨hxs, rfl⟩ := Prod.mk.inj h
      obtain ⟨zs, rfl, rfl⟩ := Option.map_eq_some_iff.mp hxs
      obtain ⟨hfront, hle⟩ := queue_of_read hread
      obtain ⟨hback, hlength⟩ := ih hrest
      constructor
      · rw [hfront, hback, List.append_assoc]
      · rw [List.length_append, hlength]
        omega

/-- No more is read than there is. -/
theorem readAll_none {p : Pipe α} {n : ℕ} (h : p.queue.length < n) :
  (p.readAll n).1 = none
  := by
  cases hread : p.readAll n with
  | mk result p' =>
      cases result with
      | none => rfl
      | some xs =>
          obtain ⟨hqueue, hlength⟩ := queue_of_readAll hread
          rw [hqueue, List.length_append, hlength] at h
          omega

namespace Flows

variable {p : Pipe α}

/-- As many items as there are can be read. -/
theorem readAll (h : p.Flows) {n : ℕ} (hn : n ≤ p.queue.length) :
  ∃ xs p', p.readAll n = (some xs, p') ∧ p'.Flows
  := by
  fun_induction Pipe.readAll n p with
  | case1 p => exact ⟨[], p, rfl, h⟩
  | case2 n p hn₀ ys q hread hnone =>
      obtain ⟨rfl, -⟩ := Prod.mk.inj hread
      have := h 0
      rw [List.length_take] at hnone
      omega
  | case3 n p hn₀ ys q hread hsome rest q' hrest ih =>
      obtain ⟨hfront, hle⟩ := queue_of_read hread
      obtain ⟨-, rfl⟩ := Prod.mk.inj hread
      rw [hfront, List.length_append] at hn
      obtain ⟨zs, q'', hrest', hflows⟩ := ih (h.after _) (by omega)
      obtain ⟨rfl, rfl⟩ := Prod.mk.inj (hrest.symm.trans hrest')
      exact ⟨ys ++ zs, q', rfl, hflows⟩

/-- The items at the front are read. -/
theorem readAll_append (h : p.Flows) {xs rest : List α} (hqueue : p.queue = xs ++ rest) :
  ∃ p', p.readAll xs.length = (some xs, p') ∧ p'.queue = rest ∧ p'.Flows
  := by
  have hn : xs.length ≤ p.queue.length := by
    rw [hqueue, List.length_append]
    exact Nat.le_add_right _ _
  obtain ⟨ys, p', hread, hflows⟩ := h.readAll hn
  obtain ⟨hfront, hlength⟩ := queue_of_readAll hread
  obtain ⟨rfl, hrest⟩ := List.append_inj (hfront.symm.trans hqueue) hlength
  exact ⟨p', hread, hrest, hflows⟩

/-- All items are written at the end. -/
theorem writeAll (h : p.Flows) (xs : List α) :
  ∃ p', p.writeAll xs = (true, p') ∧ p'.queue = p.queue ++ xs ∧ p'.Flows
  := by
  fun_induction Pipe.writeAll xs p with
  | case1 xs p hnil =>
      obtain rfl := List.eq_nil_of_length_eq_zero hnil
      exact ⟨p, rfl, (List.append_nil _).symm, h⟩
  | case2 xs p hxs q hwrite =>
      obtain ⟨hk, -⟩ := Prod.mk.inj hwrite
      have := h 0
      omega
  | case3 xs p hxs k q hwrite hk ih =>
      obtain ⟨rfl, rfl⟩ := Prod.mk.inj hwrite
      obtain ⟨p', hwritten, hqueue, hflows⟩ := ih (h.after _)
      refine ⟨p', hwritten, ?_, hflows⟩
      rw [hqueue, Pipe.after, List.append_assoc, List.take_append_drop]

end Flows

end Pipe

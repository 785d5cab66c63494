import Mathlib.Data.List.Forall2

/-!
# Machines that answer calls

A machine takes calls one after another, and answers each of them.  Its states may drift: between
two calls, a state may be exchanged for another one that is related to it.  When the relation is a
*bisimulation*, drifting changes no answer, up to a relation of answers.
-/

/-- A machine on the states `S`, with calls `C` and answers `A`. -/
structure Machine (S C A : Type) where
  answer : C → S → A
  next : C → S → S

namespace Machine

variable {S C A : Type}

/-- The state after a list of calls. -/
def run (M : Machine S C A) (s : S) (calls : List C) : S :=
  calls.foldl (fun s c => M.next c s) s

/-- The answers to a list of calls. -/
def answers (M : Machine S C A) : S → List C → List A
  | _, [] => []
  | s, c :: calls => M.answer c s :: M.answers (M.next c s) calls

/-- `M.Drifts R s calls as t`: with drifts within `R`, the machine gives the answers `as` to the
calls, from the state `s` to the state `t`. -/
inductive Drifts (M : Machine S C A) (R : S → S → Prop) : S → List C → List A → S → Prop
  | done {s t : S} (hdrift : R s t) : Drifts M R s [] [] t
  | call {s s' t : S} {c : C} {calls : List C} {as : List A} (hdrift : R s s')
      (hrest : Drifts M R (M.next c s') calls as t) :
      Drifts M R s (c :: calls) (M.answer c s' :: as) t

/-- On the states that satisfy `I`, those that are related by `R` give answers that are alike, and
go on to states that are related. -/
structure Bisimulation (M : Machine S C A) (I : S → Prop) (R : S → S → Prop)
    (alike : A → A → Prop) : Prop where
  trans : ∀ s t u, R s t → R t u → R s u
  related : ∀ s t, I s → R s t → I t
  keeps : ∀ c s, I s → I (M.next c s)
  answer : ∀ c s t, I s → R s t → alike (M.answer c s) (M.answer c t)
  next : ∀ c s t, I s → R s t → R (M.next c s) (M.next c t)

/-- What a machine answers does not show the drifts within a bisimulation. -/
theorem Bisimulation.unobservable {M : Machine S C A} {I : S → Prop} {R : S → S → Prop}
    {alike : A → A → Prop} (h : M.Bisimulation I R alike) {s s' t : S} {calls : List C}
    {as : List A} (hs : I s) (hrelated : R s s') (hdrifts : M.Drifts R s' calls as t) :
  List.Forall₂ alike (M.answers s calls) as ∧ R (M.run s calls) t
  := by
  induction hdrifts generalizing s with
  | done hdrift =>
      constructor
      · apply List.Forall₂.nil
      · apply h.trans _ _ _ hrelated hdrift
  | @call _ s'' _ c _ _ hdrift _ ih =>
      have hrelated' : R s s'' := h.trans _ _ _ hrelated hdrift
      obtain ⟨hrest, hfinal⟩ := ih (h.keeps c s hs) (h.next c s s'' hs hrelated')
      constructor
      · apply List.Forall₂.cons (h.answer c s s'' hs hrelated') hrest
      · apply hfinal

end Machine

import Mathlib.Logic.Basic

/-!
# Computations that draw numbers

A computation draws numbers from a generator, and goes on as they tell it.  A property that its
results have wherever the generator stands does not depend on the numbers: it is proved for every
number that could be drawn.
-/

namespace Draws

variable {G α β : Type} {P : α → Prop} {Q : β → Prop}

/-- The results of the computation satisfy `P`, whatever is drawn. -/
def Always (P : α → Prop) (m : StateM G α) : Prop := ∀ g, P (m g).1

theorem Always.pure {a : α} (h : P a) :
  Always P (pure a : StateM G α)
  := fun _ => h

theorem Always.bind {m : StateM G α} {f : α → StateM G β} (hm : Always P m)
    (hf : ∀ a, P a → Always Q (f a)) :
  Always Q (m >>= f)
  := fun g => hf (m g).1 (hm g) (m g).2

/-- What is drawn may be anything. -/
theorem Always.draw {m : StateM G α} {f : α → StateM G β} (hf : ∀ a, Always Q (f a)) :
  Always Q (m >>= f)
  := fun g => hf (m g).1 (m g).2

end Draws

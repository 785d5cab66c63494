import Mathlib.Logic.Function.Basic

/-!
# File systems

A file system gives names to contents.  Writing, removing and renaming act on the names they
mention, and leave what has another name alone.
-/

/-- The contents of the files with names `N`; a name that no file has is given `none`. -/
abbrev Files (N C : Type) := N → Option C

namespace Files

variable {N C : Type} [DecidableEq N] {fs : Files N C} {n m src dst : N} {c : C}

/-- The file `n` gets the contents `c`. -/
def write (fs : Files N C) (n : N) (c : C) : Files N C := Function.update fs n (some c)

/-- The file `n` loses its name. -/
def remove (fs : Files N C) (n : N) : Files N C := Function.update fs n none

/-- The file `src` gets the name `dst`, which any other file loses, in one step. -/
def rename (fs : Files N C) (src dst : N) : Files N C :=
  Function.update (Function.update fs src none) dst (fs src)

@[simp]
theorem write_self :
  fs.write n c n = some c
  := Function.update_self ..

theorem write_of_ne (h : m ≠ n) :
  fs.write n c m = fs m
  := Function.update_of_ne h ..

@[simp]
theorem remove_self :
  fs.remove n n = none
  := Function.update_self ..

theorem remove_of_ne (h : m ≠ n) :
  fs.remove n m = fs m
  := Function.update_of_ne h ..

@[simp]
theorem rename_target :
  fs.rename src dst dst = fs src
  := Function.update_self ..

end Files

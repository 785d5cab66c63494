import Mathlib.Data.List.Infix

/-!
# Prefix codes

A *prefix code* writes letters as words such that a stream starts with the word of at most one
letter.  So a stream has one *parse*: the letters whose words are at its front, one after another,
and the rest, which starts with no word.  Words at the front of a stream are the words of the first
letters of its parse.
-/

/-- No stream starts with the words of two letters of `P`. -/
def PrefixCode {α β : Type} (P : α → Prop) (enc : α → List β) : Prop :=
  ∀ a b r r', P a → P b → enc a ++ r = enc b ++ r' → a = b

namespace PrefixCode

variable {α β : Type} {P : α → Prop} {enc : α → List β} {s r r' : List β} {as bs : List α}

/-- The stream consists of the words of the letters and the rest, which starts with no word. -/
structure Parses (P : α → Prop) (enc : α → List β) (s : List β) (as : List α) (r : List β) :
    Prop where
  letters : ∀ a ∈ as, P a
  stream : s = as.flatMap enc ++ r
  maximal : ∀ a r', P a → r ≠ enc a ++ r'

theorem Parses.nil (h : ∀ a r', P a → s ≠ enc a ++ r') :
  Parses P enc s [] s
  := ⟨List.forall_mem_nil _, rfl, h⟩

theorem Parses.cons {a : α} (ha : P a) (h : Parses P enc s as r) :
  Parses P enc (enc a ++ s) (a :: as) r
  where
  letters := List.forall_mem_cons.mpr ⟨ha, h.letters⟩
  stream := by
    rw [List.flatMap_cons, List.append_assoc, ← h.stream]
  maximal := h.maximal

/-- Words at the front of a stream are those of the first letters of its parse. -/
theorem Parses.starts (hcode : PrefixCode P enc) (h : Parses P enc s as r)
    (hletters : ∀ b ∈ bs, P b) (hstream : s = bs.flatMap enc ++ r') :
  bs <+: as
  := by
  induction bs generalizing s as with
  | nil => exact ⟨as, rfl⟩
  | cons b bs ih =>
      rw [List.forall_mem_cons] at hletters
      rw [List.flatMap_cons, List.append_assoc] at hstream
      obtain ⟨has, hs, hmaximal⟩ := h
      cases as with
      | nil =>
          rw [List.flatMap_nil, List.nil_append] at hs
          exact absurd (hs.symm.trans hstream) (hmaximal b _ hletters.1)
      | cons a as =>
          rw [List.forall_mem_cons] at has
          rw [List.flatMap_cons, List.append_assoc] at hs
          have heq := hs.symm.trans hstream
          obtain rfl := hcode a b _ _ has.1 hletters.1 heq
          apply List.cons_prefix_cons.mpr
          use rfl
          apply ih ⟨has.2, rfl, hmaximal⟩ hletters.2 (List.append_cancel_left heq)

/-- A stream has one parse. -/
theorem Parses.unique (hcode : PrefixCode P enc) (h : Parses P enc s as r)
    (h' : Parses P enc s bs r') :
  as = bs ∧ r = r'
  := by
  have hsame : as = bs := by
    apply (h'.starts hcode h.letters h.stream).eq_of_length_le
    apply (h.starts hcode h'.letters h'.stream).length_le
  subst hsame
  use rfl
  apply List.append_cancel_left (h.stream.symm.trans h'.stream)

end PrefixCode

import GpuDirectFabric.Library.PrefixCode
import GpuDirectFabric.Library.Transition
import Mathlib.Logic.Function.Basic
import Mathlib.Logic.Relation

/-!
# Calls over streams

Callers share an object, and call it over lines, each of which carries a stream of letters either
way.  A caller makes one call at a time: it writes the word of its request and waits for the answer.
The object's side of a line reads a word off the stream when it is there, carries out the request
and writes the word of the answer.  Words travel in pieces of any size, and a line may be cut at any
time, so that what is still to be written is lost, and some of what is on the way.  The caller is
then told that its call has failed, and so it is of all later calls.

This is the *concrete* system.  In the *atomic* one a caller has a request carried out and is told
the answer in one step.  When the words are a prefix code, the concrete system refines the atomic
one: the object goes through the same states, and a caller has been told the same answers, and then
that its calls fail.  Of the calls it waits for or that have failed, only the first may have been
carried out.
-/

/-- An object that carries out the requests `Q` of the callers `ι`, with answers `A`, and takes
steps `E` of its own; and the words of the requests and answers. -/
structure Service (ι S Q A E β : Type) where
  start : S → Prop
  serves : ι → Q → S → A → S → Prop
  own : S → E → S → Prop
  request : Q → List β
  answer : A → List β

namespace Service

variable {ι S Q A E β : Type}

/-- A line with its two ends.  The caller has been `told` an answer to each of its calls, or that it
has failed, and may be `waiting` for one more; of its request, `unsent` is still to be written and
`up` is on the way.  Of the answer, `unanswered` is still to be written and `down` is on the way.
Once the line is `cut`, the caller neither writes nor reads. -/
structure Line (A β : Type) where
  told : List (Option A) := []
  waiting : Bool := false
  unsent : List β := []
  up : List β := []
  unanswered : List β := []
  down : List β := []
  cut : Bool := false

/-- The object and the lines to it. -/
structure Lines (ι S A β : Type) where
  object : S
  line : ι → Line A β := fun _ => {}

/-- What can happen at the object and its lines. -/
inductive LineEvent (ι Q A E : Type) where
  | ask (i : ι)
  | send (i : ι) (n : ℕ)
  | serve (i : ι) (q : Q) (a : A)
  | reply (i : ι) (n : ℕ)
  | hear (i : ι) (a : A)
  | cut (i : ι) (n : ℕ)
  | fail (i : ι)
  | own (e : E)

/-- The event is one of the line `i`. -/
def LineEvent.On (i : ι) : LineEvent ι Q A E → Prop
  | ask j | send j _ | serve j _ _ | reply j _ | hear j _ | cut j _ | fail j => j = i
  | own _ => False

section

variable [DecidableEq ι]

/-- The same with another line. -/
def Lines.withLine (w : Lines ι S A β) (i : ι) (l : Line A β) : Lines ι S A β :=
  { w with line := Function.update w.line i l }

/-- The steps of callers that follow scripts, which say what to ask for after what they have been
told so far.  What is asked on a line that is cut is not written. -/
inductive Step (V : Service ι S Q A E β) (script : ι → List (Option A) → Option Q) :
    Lines ι S A β → LineEvent ι Q A E → Lines ι S A β → Prop
  | ask {w : Lines ι S A β} {i : ι} {q : Q} (hwaiting : (w.line i).waiting = false)
      (hscript : script i (w.line i).told = some q) :
      Step V script w (.ask i) (w.withLine i { w.line i with
        waiting := true
        unsent := if (w.line i).cut then [] else V.request q })
  | send {w : Lines ι S A β} {i : ι} (n : ℕ) (hcut : (w.line i).cut = false) :
      Step V script w (.send i n) (w.withLine i { w.line i with
        unsent := (w.line i).unsent.drop n
        up := (w.line i).up ++ (w.line i).unsent.take n })
  | serve {w : Lines ι S A β} {i : ι} {q : Q} {a : A} {rest : List β} {s : S}
      (hanswered : (w.line i).unanswered = []) (hup : (w.line i).up = V.request q ++ rest)
      (hserves : V.serves i q w.object a s) :
      Step V script w (.serve i q a) { (w.withLine i { w.line i with
        up := rest
        unanswered := V.answer a }) with object := s }
  | reply {w : Lines ι S A β} {i : ι} (n : ℕ) :
      Step V script w (.reply i n) (w.withLine i { w.line i with
        unanswered := (w.line i).unanswered.drop n
        down := (w.line i).down ++ (w.line i).unanswered.take n })
  | hear {w : Lines ι S A β} {i : ι} {a : A} {rest : List β}
      (hwaiting : (w.line i).waiting = true) (hsent : (w.line i).unsent = [])
      (hcut : (w.line i).cut = false) (hdown : (w.line i).down = V.answer a ++ rest) :
      Step V script w (.hear i a) (w.withLine i { w.line i with
        told := (w.line i).told ++ [some a]
        waiting := false
        down := rest })
  | cut {w : Lines ι S A β} {i : ι} (n : ℕ) :
      Step V script w (.cut i n) (w.withLine i { w.line i with
        unsent := []
        up := (w.line i).up.take n
        cut := true })
  | fail {w : Lines ι S A β} {i : ι} (hwaiting : (w.line i).waiting = true)
      (hcut : (w.line i).cut = true) :
      Step V script w (.fail i) (w.withLine i { w.line i with
        told := (w.line i).told ++ [none]
        waiting := false })
  | own {w : Lines ι S A β} {e : E} {s : S} (hown : V.own w.object e s) :
      Step V script w (.own e) { w with object := s }

/-- The concrete system. -/
def lines (V : Service ι S Q A E β) (script : ι → List (Option A) → Option Q) :
    System (Lines ι S A β) (LineEvent ι Q A E) where
  start w := V.start w.object ∧ ∀ i, w.line i = {}
  step := V.Step script
  handover _ _ _ _ := False

end

/-! ### Atomic calls -/

/-- The object, and what the callers have been told. -/
structure Told (ι S A : Type) where
  object : S
  answers : ι → List A := fun _ => []

/-- What can happen when calls are atomic. -/
inductive CallEvent (ι Q A E : Type) where
  | call (i : ι) (q : Q) (a : A)
  | own (e : E)

section

variable [DecidableEq ι]

/-- A call is carried out and answered in one step. -/
inductive AtomicStep (V : Service ι S Q A E β) (script : ι → List (Option A) → Option Q) :
    Told ι S A → CallEvent ι Q A E → Told ι S A → Prop
  | call {u : Told ι S A} {i : ι} {q : Q} {a : A} {s : S}
      (hscript : script i ((u.answers i).map some) = some q)
      (hserves : V.serves i q u.object a s) :
      AtomicStep V script u (.call i q a)
        { object := s, answers := Function.update u.answers i (u.answers i ++ [a]) }
  | own {u : Told ι S A} {e : E} {s : S} (hown : V.own u.object e s) :
      AtomicStep V script u (.own e) { u with object := s }

/-- The atomic system. -/
def atomic (V : Service ι S Q A E β) (script : ι → List (Option A) → Option Q) :
    System (Told ι S A) (CallEvent ι Q A E) where
  start u := V.start u.object ∧ ∀ i, u.answers i = []
  step := V.AtomicStep script
  handover _ _ _ _ := False

end

/-! ### The refinement -/

/-- Requests and answers are told apart by their words, which are not empty. -/
structure Coded (V : Service ι S Q A E β) : Prop where
  request : PrefixCode (fun _ => True) V.request
  answer : PrefixCode (fun _ => True) V.answer
  request_ne : ∀ q, V.request q ≠ []
  answer_ne : ∀ a, V.answer a ≠ []

/-- How far the call of a line is, when `answers` are those to the calls of its caller that have
been carried out: there is none, the request is on its way, or the answer is; or the caller has
been told that the call has failed, and the request may still arrive, or it has been carried out.
-/
inductive Stage (V : Service ι S Q A E β) (script : List (Option A) → Option Q) (l : Line A β) :
    List A → Prop
  | idle {answers : List A} (hwaiting : l.waiting = false) (htold : l.told = answers.map some)
      (hempty : l.unsent = [] ∧ l.up = [] ∧ l.unanswered = [] ∧ l.down = []) :
      Stage V script l answers
  | asked {answers : List A} {q : Q} {missing : List β} (hwaiting : l.waiting = true)
      (htold : l.told = answers.map some) (hscript : script (answers.map some) = some q)
      (hup : l.up ++ missing = V.request q) (hmissing : l.cut = false → missing = l.unsent)
      (hcut : l.cut = true → l.unsent = []) (hempty : l.unanswered = [] ∧ l.down = []) :
      Stage V script l answers
  | served {answers : List A} {q : Q} {a : A} (hwaiting : l.waiting = true)
      (htold : l.told = answers.map some) (hscript : script (answers.map some) = some q)
      (hempty : l.unsent = [] ∧ l.up = []) (hdown : l.down ++ l.unanswered = V.answer a) :
      Stage V script l (answers ++ [a])
  | lost {answers : List A} {n : ℕ} {q : Q} {missing : List β} (hcut : l.cut = true)
      (htold : l.told = answers.map some ++ List.replicate (n + 1) none)
      (hscript : script (answers.map some) = some q) (hup : l.up ++ missing = V.request q)
      (hempty : l.unsent = [] ∧ l.unanswered = [] ∧ l.down = []) :
      Stage V script l answers
  | spent {answers : List A} {n : ℕ} {q : Q} {a : A} (hcut : l.cut = true)
      (htold : l.told = answers.map some ++ List.replicate (n + 1) none)
      (hscript : script (answers.map some) = some q) (hempty : l.unsent = [] ∧ l.up = []) :
      Stage V script l (answers ++ [a])

/-- The object is the same, and every line is at some stage of its call. -/
structure Matches (V : Service ι S Q A E β) (script : ι → List (Option A) → Option Q)
    (w : Lines ι S A β) (u : Told ι S A) : Prop where
  object : u.object = w.object
  stage : ∀ i, Stage V (script i) (w.line i) (u.answers i)

/-- A word at the front of part of a word is the whole of it. -/
theorem eq_of_starts {α : Type} {enc : α → List β} (hcode : PrefixCode (fun _ => True) enc)
    {a b : α} {s rest missing : List β} (hs : s ++ missing = enc a) (hstarts : s = enc b ++ rest) :
  a = b ∧ rest = [] ∧ missing = []
  := by
  have heq : enc a ++ [] = enc b ++ (rest ++ missing) := by
    rw [List.append_nil, ← hs, hstarts, List.append_assoc]
  obtain rfl := hcode a b _ _ trivial trivial heq
  use rfl
  apply List.append_eq_nil_iff.mp
  apply (List.append_cancel_left heq).symm

section

variable {V : Service ι S Q A E β} {script : List (Option A) → Option Q} {l : Line A β}
  {answers : List A}

/-- The caller has been told answers to some calls and then, only on a line that is cut, that calls
have failed.  The calls that have been carried out are those it was told the answers to, and at
most one more: the one it waits for, or the first that failed. -/
theorem Stage.told (h : Stage V script l answers) :
  ∃ heard n, l.told = heard.map some ++ List.replicate n none ∧
    (0 < n → l.cut = true ∧ ∃ q, script (heard.map some) = some q) ∧
    (answers = heard ∨
      (l.waiting = true ∨ 0 < n) ∧ (∃ q, script (heard.map some) = some q) ∧
        ∃ a, answers = heard ++ [a])
  := by
  cases h with
  | idle _ htold =>
      refine ⟨answers, 0, ?_, nofun, .inl rfl⟩
      rw [htold, List.replicate_zero, List.append_nil]
  | asked _ htold =>
      refine ⟨answers, 0, ?_, nofun, .inl rfl⟩
      rw [htold, List.replicate_zero, List.append_nil]
  | @served heard q a hwaiting htold hscript =>
      refine ⟨heard, 0, ?_, nofun, .inr ⟨.inl hwaiting, ⟨q, hscript⟩, a, rfl⟩⟩
      rw [htold, List.replicate_zero, List.append_nil]
  | @lost _ n q _ hcut htold hscript =>
      use answers, n + 1, htold, fun _ => ⟨hcut, q, hscript⟩
      left
      rfl
  | @spent heard n q a hcut htold hscript =>
      use heard, n + 1, htold, fun _ => ⟨hcut, q, hscript⟩
      right
      use .inr n.succ_pos, ⟨q, hscript⟩, a

theorem Stage.ask (h : Stage V script l answers) (hwaiting : l.waiting = false) {q : Q}
    (hscript : script l.told = some q) :
  Stage V script { l with waiting := true, unsent := if l.cut then [] else V.request q } answers
  := by
  cases h with
  | idle _ htold hempty =>
      obtain ⟨-, hup, hrest⟩ := hempty
      have hword : l.up ++ V.request q = V.request q := by rw [hup, List.nil_append]
      apply Stage.asked
      · rfl
      · apply htold
      · rw [← htold]
        apply hscript
      · apply hword
      · intro hcut
        dsimp only at hcut ⊢
        rw [hcut, if_neg Bool.false_ne_true]
      · intro hcut
        dsimp only at hcut ⊢
        rw [if_pos hcut]
      · apply hrest
  | asked hwaiting' | served hwaiting' =>
      rw [hwaiting] at hwaiting'
      cases hwaiting'
  | lost hcut htold hscript' hup hempty =>
      apply Stage.lost
      · apply hcut
      · apply htold
      · apply hscript'
      · apply hup
      · dsimp only
        use if_pos hcut, hempty.2.1, hempty.2.2
  | spent hcut htold hscript' hempty =>
      apply Stage.spent
      · apply hcut
      · apply htold
      · apply hscript'
      · dsimp only
        use if_pos hcut, hempty.2

theorem Stage.send (h : Stage V script l answers) (n : ℕ) (hcut : l.cut = false) :
  Stage V script { l with unsent := l.unsent.drop n, up := l.up ++ l.unsent.take n } answers
  := by
  cases h with
  | idle hwaiting htold hempty =>
      apply Stage.idle
      · apply hwaiting
      · apply htold
      · simp [hempty]
  | asked hwaiting htold hscript hup hmissing _ hempty =>
      apply Stage.asked
      · apply hwaiting
      · apply htold
      · apply hscript
      · rw [← hup, hmissing hcut, List.append_assoc, List.take_append_drop]
      · intro _
        rfl
      · intro htrue
        simp [hcut] at htrue
      · apply hempty
  | served hwaiting htold hscript hempty hdown =>
      apply Stage.served
      · apply hwaiting
      · apply htold
      · apply hscript
      · simp [hempty]
      · apply hdown
  | lost hcut' | spent hcut' =>
      rw [hcut] at hcut'
      cases hcut'

/-- What is served is what the script says after the answers so far, and its answer is on its way,
or lost. -/
theorem Stage.serve (hV : V.Coded) (h : Stage V script l answers) {q : Q} {a : A} {rest : List β}
    (hup : l.up = V.request q ++ rest) :
  script (answers.map some) = some q ∧
    Stage V script { l with up := rest, unanswered := V.answer a } (answers ++ [a])
  := by
  have hsome : l.up ≠ [] := by
    rw [hup]
    intro hnil
    apply hV.request_ne q (List.append_eq_nil_iff.mp hnil).1
  cases h with
  | idle _ _ hempty => cases hsome hempty.2.1
  | asked hwaiting htold hscript hword hmissing hcut hempty =>
      obtain ⟨rfl, rfl, rfl⟩ := eq_of_starts hV.request hword hup
      use hscript
      apply Stage.served
      · apply hwaiting
      · apply htold
      · apply hscript
      · constructor
        · cases hc : l.cut with
          | true => apply hcut hc
          | false => apply (hmissing hc).symm
        · rfl
      · simp [hempty.2]
  | served _ _ _ hempty => cases hsome hempty.2
  | lost hcut htold hscript hword hempty =>
      obtain ⟨rfl, rfl, rfl⟩ := eq_of_starts hV.request hword hup
      use hscript
      apply Stage.spent
      · apply hcut
      · apply htold
      · apply hscript
      · use hempty.1
  | spent _ _ _ hempty => cases hsome hempty.2

theorem Stage.reply (h : Stage V script l answers) (n : ℕ) :
  Stage V script
    { l with unanswered := l.unanswered.drop n, down := l.down ++ l.unanswered.take n } answers
  := by
  cases h with
  | idle hwaiting htold hempty =>
      apply Stage.idle
      · apply hwaiting
      · apply htold
      · simp [hempty]
  | asked hwaiting htold hscript hup hmissing hcut hempty =>
      apply Stage.asked
      · apply hwaiting
      · apply htold
      · apply hscript
      · apply hup
      · apply hmissing
      · apply hcut
      · simp [hempty]
  | served hwaiting htold hscript hempty hdown =>
      apply Stage.served
      · apply hwaiting
      · apply htold
      · apply hscript
      · apply hempty
      · rw [List.append_assoc, List.take_append_drop, hdown]
  | lost hcut htold hscript hup hempty =>
      apply Stage.lost
      · apply hcut
      · apply htold
      · apply hscript
      · apply hup
      · simp [hempty]
  | spent hcut htold hscript hempty =>
      apply Stage.spent
      · apply hcut
      · apply htold
      · apply hscript
      · apply hempty

/-- What is heard is the answer to the call that has been carried out. -/
theorem Stage.hear (hV : V.Coded) (h : Stage V script l answers) {a : A} {rest : List β}
    (hwaiting : l.waiting = true) (hcut : l.cut = false) (hdown : l.down = V.answer a ++ rest) :
  Stage V script { l with told := l.told ++ [some a], waiting := false, down := rest } answers
  := by
  cases h with
  | idle hwaiting' =>
      rw [hwaiting] at hwaiting'
      cases hwaiting'
  | asked _ _ _ _ _ _ hempty =>
      rw [hempty.2] at hdown
      apply absurd (List.append_eq_nil_iff.mp hdown.symm).1 (hV.answer_ne a)
  | served _ htold _ hempty hword =>
      obtain ⟨rfl, rfl, hunanswered⟩ := eq_of_starts hV.answer hword hdown
      apply Stage.idle
      · rfl
      · dsimp only
        rw [htold, List.map_append, List.map_singleton]
      · use hempty.1, hempty.2, hunanswered
  | lost hcut' | spent hcut' =>
      rw [hcut] at hcut'
      cases hcut'

theorem Stage.severed (h : Stage V script l answers) (n : ℕ) :
  Stage V script { l with unsent := [], up := l.up.take n, cut := true } answers
  := by
  have hpart : ∀ {q : Q} {missing : List β}, l.up ++ missing = V.request q →
      l.up.take n ++ (l.up.drop n ++ missing) = V.request q := by
    intro q missing hup
    rw [← List.append_assoc, List.take_append_drop, hup]
  cases h with
  | idle hwaiting htold hempty =>
      apply Stage.idle
      · apply hwaiting
      · apply htold
      · simp [hempty]
  | asked hwaiting htold hscript hup _ _ hempty =>
      apply Stage.asked
      · apply hwaiting
      · apply htold
      · apply hscript
      · apply hpart hup
      · intro hfalse
        cases hfalse
      · intro _
        rfl
      · apply hempty
  | served hwaiting htold hscript hempty hdown =>
      apply Stage.served
      · apply hwaiting
      · apply htold
      · apply hscript
      · simp [hempty]
      · apply hdown
  | lost hcut htold hscript hup hempty =>
      apply Stage.lost
      · rfl
      · apply htold
      · apply hscript
      · apply hpart hup
      · use rfl, hempty.2.1, hempty.2.2
  | spent hcut htold hscript hempty =>
      apply Stage.spent
      · rfl
      · apply htold
      · apply hscript
      · simp [hempty]

/-- A call that fails may have been carried out, or may still be: the first one that fails. -/
theorem Stage.fail (h : Stage V script l answers) (hwaiting : l.waiting = true)
    (hcut : l.cut = true) :
  Stage V script { l with told := l.told ++ [none], waiting := false } answers
  := by
  have hone : ∀ {answers : List A}, l.told = answers.map some →
      l.told ++ [none] = answers.map some ++ List.replicate (0 + 1) none := by
    intro answers htold
    rw [htold]
    rfl
  have hmore : ∀ {answers : List A} {n : ℕ},
      l.told = answers.map some ++ List.replicate (n + 1) none →
      l.told ++ [none] = answers.map some ++ List.replicate (n + 1 + 1) none := by
    intro answers n htold
    rw [htold, List.append_assoc, List.replicate_succ' (n := n + 1)]
  cases h with
  | idle hwaiting' =>
      rw [hwaiting] at hwaiting'
      cases hwaiting'
  | asked _ htold hscript hup _ hsent hempty =>
      apply Stage.lost
      · apply hcut
      · apply hone htold
      · apply hscript
      · apply hup
      · use hsent hcut, hempty.1, hempty.2
  | served _ htold hscript hempty =>
      apply Stage.spent
      · apply hcut
      · apply hone htold
      · apply hscript
      · apply hempty
  | lost _ htold hscript hup hempty =>
      apply Stage.lost
      · apply hcut
      · apply hmore htold
      · apply hscript
      · apply hup
      · apply hempty
  | spent _ htold hscript hempty =>
      apply Stage.spent
      · apply hcut
      · apply hmore htold
      · apply hscript
      · apply hempty

end

section

variable [DecidableEq ι] {V : Service ι S Q A E β} {script : ι → List (Option A) → Option Q}
  {w : Lines ι S A β} {u : Told ι S A}

/-- A step of one line keeps the other lines at their stages. -/
theorem Matches.withLine (h : V.Matches script w u) {i : ι} {l : Line A β}
    (hstage : Stage V (script i) l (u.answers i)) :
  V.Matches script (w.withLine i l) u
  where
  object := h.object
  stage := by
    intro j
    rw [Lines.withLine]
    dsimp only
    by_cases hj : j = i
    · obtain rfl := hj
      rw [Function.update_self]
      apply hstage
    · rw [Function.update_of_ne hj]
      apply h.stage

/-- A step of the concrete system is a step of the atomic one, or does not show there. -/
theorem Matches.step (hV : V.Coded) (h : V.Matches script w u) {e : LineEvent ι Q A E}
    {w' : Lines ι S A β} (hstep : V.Step script w e w') :
  ∃ u', (u' = u ∨ ∃ c, V.AtomicStep script u c u') ∧ V.Matches script w' u'
  := by
  cases hstep with
  | ask hwaiting hscript =>
      use u, .inl rfl
      apply h.withLine ((h.stage _).ask hwaiting hscript)
  | send n hcut =>
      use u, .inl rfl
      apply h.withLine ((h.stage _).send n hcut)
  | @serve i q a rest s _ hup hserves =>
      obtain ⟨hscript, hstage⟩ := (h.stage i).serve (a := a) hV hup
      rw [← h.object] at hserves
      refine ⟨_, .inr ⟨.call i q a, .call hscript hserves⟩, rfl, ?_⟩
      intro j
      rw [Lines.withLine]
      dsimp only
      by_cases hj : j = i
      · obtain rfl := hj
        rw [Function.update_self, Function.update_self]
        apply hstage
      · rw [Function.update_of_ne hj, Function.update_of_ne hj]
        apply h.stage
  | reply n =>
      use u, .inl rfl
      apply h.withLine ((h.stage _).reply n)
  | hear hwaiting _ hcut hdown =>
      use u, .inl rfl
      apply h.withLine ((h.stage _).hear hV hwaiting hcut hdown)
  | cut n =>
      use u, .inl rfl
      apply h.withLine ((h.stage _).severed n)
  | fail hwaiting hcut =>
      use u, .inl rfl
      apply h.withLine ((h.stage _).fail hwaiting hcut)
  | own hown =>
      rw [← h.object] at hown
      refine ⟨_, .inr ⟨.own _, .own hown⟩, rfl, ?_⟩
      apply h.stage

/-- The concrete system refines the atomic one. -/
theorem refines_atomic (hV : V.Coded) (h : (V.lines script).Reachable w) :
  ∃ u, (V.atomic script).Reachable u ∧ V.Matches script w u
  := by
  apply h.invariant (P := fun w => ∃ u, (V.atomic script).Reachable u ∧ V.Matches script w u)
  · rintro w ⟨hstart, hline⟩
    refine ⟨{ object := w.object }, ⟨[], .start ⟨hstart, fun _ => rfl⟩⟩, rfl, ?_⟩
    intro i
    rw [hline]
    apply Stage.idle
    · rfl
    · rfl
    · use rfl, rfl, rfl
  · rintro w e w' ⟨u, ⟨history, hrun⟩, hmatches⟩ hstep
    obtain ⟨u', rfl | ⟨c, hc⟩, hmatches'⟩ := hmatches.step hV hstep
    · exact ⟨u', ⟨history, hrun⟩, hmatches'⟩
    · exact ⟨u', ⟨_, hrun.step hc⟩, hmatches'⟩
  · rintro d w e w' _ _ ⟨⟩

/-! ### Progress -/

theorem Lines.line_withLine (w : Lines ι S A β) (i : ι) (l : Line A β) :
  (w.withLine i l).line i = l
  := by
  rw [Lines.withLine]
  apply Function.update_self

theorem Lines.line_withLine_of_ne (w : Lines ι S A β) {i j : ι} (hj : j ≠ i) (l : Line A β) :
  (w.withLine i l).line j = w.line j
  := by
  rw [Lines.withLine]
  apply Function.update_of_ne hj

/-- Some steps of the line `i` alone lead to a world in which its caller has heard one answer
more. -/
def Hears (V : Service ι S Q A E β) (script : ι → List (Option A) → Option Q) (i : ι)
    (w : Lines ι S A β) : Prop :=
  ∃ w' a, Relation.ReflTransGen (fun w w' => ∃ e : LineEvent ι Q A E, e.On i ∧ V.Step script w e w')
      w w' ∧
    (w'.line i).told = (w.line i).told ++ [some a] ∧ (w'.line i).waiting = false ∧
    ∀ j ≠ i, w'.line j = w.line j

/-- What is heard after a step that tells the caller nothing is heard before it. -/
theorem Hears.of_step {i : ι} {w' : Lines ι S A β} {e : LineEvent ι Q A E}
    (hstep : V.Step script w e w') (hon : e.On i) (htold : (w'.line i).told = (w.line i).told)
    (hother : ∀ j ≠ i, w'.line j = w.line j) (h : V.Hears script i w') :
  V.Hears script i w
  := by
  obtain ⟨w'', a, hsteps, hheard, hwaiting, hother'⟩ := h
  refine ⟨w'', a, .head ⟨e, hon, hstep⟩ hsteps, ?_, hwaiting, ?_⟩
  · rw [hheard, htold]
  · intro j hj
    rw [hother' j hj, hother j hj]

/-- An answer that is on its way is heard. -/
theorem hears_answer {i : ι} (hwaiting : (w.line i).waiting = true)
    (hsent : (w.line i).unsent = []) (hcut : (w.line i).cut = false) {a : A}
    (hdown : (w.line i).down ++ (w.line i).unanswered = V.answer a) :
  V.Hears script i w
  := by
  apply Hears.of_step (Step.reply (i := i) (w.line i).unanswered.length) rfl
  · rw [Lines.line_withLine]
  · intro j hj
    apply w.line_withLine_of_ne hj
  have hl := w.line_withLine i { w.line i with
    unanswered := (w.line i).unanswered.drop (w.line i).unanswered.length
    down := (w.line i).down ++ (w.line i).unanswered.take (w.line i).unanswered.length }
  generalize w.withLine i _ = w' at hl
  have hhear : V.Step script w' (.hear i a) (w'.withLine i { w'.line i with
      told := (w'.line i).told ++ [some a]
      waiting := false
      down := [] }) := by
    apply Step.hear
    · rw [hl]
      apply hwaiting
    · rw [hl]
      apply hsent
    · rw [hl]
      apply hcut
    · rw [hl, List.append_nil, ← hdown, List.take_length]
  refine ⟨_, a, .single ⟨.hear i a, rfl, hhear⟩, ?_, ?_, ?_⟩
  · rw [Lines.line_withLine]
  · rw [Lines.line_withLine]
  · intro j hj
    apply w'.line_withLine_of_ne hj

/-- A request that has arrived is carried out, and the answer is heard. -/
theorem hears_request {i : ι} (hwaiting : (w.line i).waiting = true)
    (hsent : (w.line i).unsent = []) (hcut : (w.line i).cut = false) {q : Q}
    (hup : (w.line i).up = V.request q)
    (hempty : (w.line i).unanswered = [] ∧ (w.line i).down = []) {a : A} {s : S}
    (hserves : V.serves i q w.object a s) :
  V.Hears script i w
  := by
  have hword : (w.line i).up = V.request q ++ [] := by rw [hup, List.append_nil]
  apply Hears.of_step (Step.serve hempty.1 hword hserves) rfl
  · dsimp only
    rw [Lines.line_withLine]
  · intro j hj
    apply w.line_withLine_of_ne hj
  · apply hears_answer
    · dsimp only
      rw [Lines.line_withLine]
      apply hwaiting
    · dsimp only
      rw [Lines.line_withLine]
      apply hsent
    · dsimp only
      rw [Lines.line_withLine]
      apply hcut
    · dsimp only
      rw [Lines.line_withLine]
      dsimp only
      rw [hempty.2, List.nil_append]

/-- A caller that waits on a line that is not cut hears an answer, whatever the other lines are
doing, if the object carries out its request. -/
theorem hears (hV : V.Coded) (h : (V.lines script).Reachable w) {i : ι}
    (hwaiting : (w.line i).waiting = true) (hcut : (w.line i).cut = false)
    (hserves : ∀ q, script i (w.line i).told = some q → ∃ a s, V.serves i q w.object a s) :
  V.Hears script i w
  := by
  obtain ⟨u, -, hmatches⟩ := refines_atomic hV h
  have hstage := hmatches.stage i
  generalize hl : w.line i = l at hstage
  generalize u.answers i = answers at hstage
  cases hstage with
  | idle hidle =>
      rw [← hl, hwaiting] at hidle
      cases hidle
  | asked _ htold hscript hup hmissing _ hempty =>
      rw [← htold] at hscript
      rw [← hl] at hscript hup hmissing hempty
      obtain ⟨a, s, hs⟩ := hserves _ hscript
      rw [hmissing hcut] at hup
      apply Hears.of_step (Step.send (w.line i).unsent.length hcut) rfl
      · rw [Lines.line_withLine]
      · intro j hj
        apply w.line_withLine_of_ne hj
      · apply hears_request
        · rw [Lines.line_withLine]
          apply hwaiting
        · rw [Lines.line_withLine]
          apply List.drop_length
        · rw [Lines.line_withLine]
          apply hcut
        · rw [Lines.line_withLine]
          dsimp only
          rw [List.take_length, hup]
        · rw [Lines.line_withLine]
          apply hempty
        · apply hs
  | served _ _ _ hempty hdown =>
      rw [← hl] at hempty hdown
      apply hears_answer hwaiting hempty.1 hcut hdown
  | lost hcut' | spent hcut' =>
      rw [← hl, hcut] at hcut'
      cases hcut'

end

end Service

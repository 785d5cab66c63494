import GpuDirectFabric.Library.Files
import GpuDirectFabric.Library.Transition
import GpuDirectFabric.Persistence

/-!
# Replacing the state file

`persist_to_file` writes the bytes of the state to a temporary file beside the state file, and
`atomic_replace_file` gives it the name of the state file.  On POSIX systems the latter removes the
state file first, so that for a moment there is none; and what the stream still holds when it is
closed is written without a check.

A call goes through its steps on the file system one after another.  Each of them may fail, a
stream may write less than it was given, and the process may stop after any of them.
-/

namespace GpuDirectFabric

open Coordinator

/-! ### The steps of a call -/

/-- The name of the temporary file. -/
def tmpName (path : Str) : Str := path ++ str ".gdfstate.tmp"

/-- How far a call of `persist_to_file` is: about to open the temporary file, to write it, to close
it, to remove the state file, to rename the temporary file, or back at its caller. -/
inductive SaveStage where
  | opening | writing | closing | removing | moving
  | returned (result : Result Unit)

/-- The files, and a call of `persist_to_file`. -/
structure Saving where
  files : Files Str Bytes
  stage : SaveStage

/-- What becomes of a step on the file system: whether it succeeds, and for a stream how many bytes
the file holds after it. -/
inductive SaveStep where
  | opened (ok : Bool)
  | written (n : ℕ) (ok : Bool)
  | closed (n : ℕ)
  | removed (ok : Bool)
  | renamed (ok : Bool)
deriving DecidableEq

/-- The call after a step, for a state whose bytes are `file`. -/
def Saving.next (path : Str) (file : Bytes) (v : Saving) : SaveStep → Saving
  | .opened ok =>
    if ok then { files := v.files.write (tmpName path) [], stage := .writing }
    else { v with
      stage := .returned (err .persistenceError "cannot open temp state file for write") }
  | .written n ok =>
    { files := v.files.write (tmpName path) (file.take n)
      stage := if ok then .closing
        else .returned (err .persistenceError "failed writing state file") }
  | .closed n => { files := v.files.write (tmpName path) (file.take n), stage := .removing }
  | .removed ok => { files := if ok then v.files.remove path else v.files, stage := .moving }
  | .renamed ok =>
    if ok then { files := v.files.rename (tmpName path) path, stage := .returned (.ok ()) }
    else { v with
      stage := .returned (err .persistenceError "atomic replace of state file failed") }

/-- The step may be next; only a file that exists is removed. -/
def SaveStep.Enabled (path : Str) (v : Saving) : SaveStep → Prop
  | .opened _ => v.stage = .opening
  | .written _ _ => v.stage = .writing
  | .closed _ => v.stage = .closing
  | .removed ok => v.stage = .removing ∧ (ok = true → v.files path ≠ none)
  | .renamed _ => v.stage = .moving

/-- A call that persists the state `s` to `path`, among the files `fs`. -/
def saving (fs : Files Str Bytes) (path : Str) (s : State) : System Saving SaveStep where
  start v := v = { files := fs, stage := .opening }
  step v e v' := e.Enabled path v ∧ v' = v.next path (persistToFile s) e
  handover _ _ _ _ := False

theorem tmpName_ne (path : Str) :
  path ≠ tmpName path
  := by
  intro h
  have hlength : path.length = path.length + (str ".gdfstate.tmp").length := by
    rw [← List.length_append, ← tmpName, ← h]
  have hsuffix : (str ".gdfstate.tmp").length ≠ 0 := by decide +kernel
  omega

/-! ### What a call has done -/

/-- What the steps that a call has made, the latest one first, say of the files. -/
inductive Stands (fs : Files Str Bytes) (path : Str) (file : Bytes) :
    List SaveStep → Saving → Prop
  | opening : Stands fs path file [] { files := fs, stage := .opening }
  | writing {files : Files Str Bytes} (hpath : files path = fs path) :
      Stands fs path file [.opened true] { files := files, stage := .writing }
  | closing {files : Files Str Bytes} {n : ℕ} (hpath : files path = fs path) :
      Stands fs path file [.written n true, .opened true] { files := files, stage := .closing }
  | removing {files : Files Str Bytes} {n m : ℕ} (hpath : files path = fs path)
      (htmp : files (tmpName path) = some (file.take m)) :
      Stands fs path file [.closed m, .written n true, .opened true]
        { files := files, stage := .removing }
  | occupied {files : Files Str Bytes} {n m : ℕ} (hpath : files path = fs path)
      (htmp : files (tmpName path) = some (file.take m)) :
      Stands fs path file [.removed false, .closed m, .written n true, .opened true]
        { files := files, stage := .moving }
  | vacant {files : Files Str Bytes} {n m : ℕ} (hprevious : fs path ≠ none)
      (hpath : files path = none) (htmp : files (tmpName path) = some (file.take m)) :
      Stands fs path file [.removed true, .closed m, .written n true, .opened true]
        { files := files, stage := .moving }
  | failed {files : Files Str Bytes} {steps : List SaveStep} {e : Error}
      (hpath : files path = fs path) (hremoved : SaveStep.removed true ∉ steps)
      (hrenamed : SaveStep.renamed true ∉ steps) :
      Stands fs path file steps { files := files, stage := .returned (.error e) }
  | lost {files : Files Str Bytes} {n m : ℕ} {e : Error} (hprevious : fs path ≠ none)
      (hpath : files path = none) :
      Stands fs path file
        [.renamed false, .removed true, .closed m, .written n true, .opened true]
        { files := files, stage := .returned (.error e) }
  | replaced {files : Files Str Bytes} {n m : ℕ} {ok : Bool}
      (hpath : files path = some (file.take m)) :
      Stands fs path file
        [.renamed true, .removed ok, .closed m, .written n true, .opened true]
        { files := files, stage := .returned (.ok ()) }

theorem Stands.next {fs : Files Str Bytes} {path : Str} {file : Bytes} {steps : List SaveStep}
    {v : Saving} (h : Stands fs path file steps v) {e : SaveStep} (he : e.Enabled path v) :
  Stands fs path file (e :: steps) (v.next path file e)
  := by
  have hne := tmpName_ne path
  cases h with
  | opening =>
      cases e with
      | opened ok =>
          cases ok with
          | true => exact .writing (Files.write_of_ne hne)
          | false => exact .failed rfl (by decide) (by decide)
      | removed => cases he.1
      | _ => cases he
  | writing hpath =>
      cases e with
      | written n ok =>
          have hkept := (Files.write_of_ne (c := file.take n) hne).trans hpath
          cases ok with
          | true => exact .closing hkept
          | false => exact .failed hkept (by simp) (by simp)
      | removed => cases he.1
      | _ => cases he
  | closing hpath =>
      cases e with
      | closed m => exact .removing ((Files.write_of_ne hne).trans hpath) Files.write_self
      | removed => cases he.1
      | _ => cases he
  | removing hpath htmp =>
      cases e with
      | removed ok =>
          cases ok with
          | true =>
              refine .vacant ?_ Files.remove_self ((Files.remove_of_ne hne.symm).trans htmp)
              rw [← hpath]
              exact he.2 rfl
          | false => exact .occupied hpath htmp
      | _ => cases he
  | occupied hpath htmp =>
      cases e with
      | renamed ok =>
          cases ok with
          | true => exact .replaced (Files.rename_target.trans htmp)
          | false => exact .failed hpath (by simp) (by simp)
      | removed => cases he.1
      | _ => cases he
  | vacant hprevious hpath htmp =>
      cases e with
      | renamed ok =>
          cases ok with
          | true => exact .replaced (Files.rename_target.trans htmp)
          | false => exact .lost hprevious hpath
      | removed => cases he.1
      | _ => cases he
  | failed | lost | replaced =>
      cases e with
      | removed => cases he.1
      | _ => cases he

theorem stands_of_run {fs : Files Str Bytes} {path : Str} {s : State}
    {h : List (Saving × SaveStep)} {v : Saving} (hrun : (saving fs path s).Run h v) :
  Stands fs path (persistToFile s) (h.map Prod.snd) v
  := by
  induction hrun with
  | start hv =>
      rw [hv]
      exact .opening
  | step _ hs ih =>
      obtain ⟨he, rfl⟩ := hs
      exact ih.next he
  | handover _ _ hs => exact hs.elim

/-! ### Atomic replacement -/

/-- The state file is the previous one or the complete new one, and the latter when the call has
succeeded. -/
structure Replaces (fs : Files Str Bytes) (path : Str) (file : Bytes) (v : Saving) : Prop where
  either : v.files path = fs path ∨ v.files path = some file
  succeeded : v.stage = .returned (.ok ()) → v.files path = some file

/-- The steps rename the temporary file if they remove the state file, and they rename it only once
all its bytes are written. -/
structure Finishes (file : Bytes) (steps : List SaveStep) : Prop where
  renames : SaveStep.removed true ∈ steps → SaveStep.renamed true ∈ steps
  flushes : ∀ n, SaveStep.closed n ∈ steps → SaveStep.renamed true ∈ steps → file.length ≤ n

/-- Before the state file is touched, it is the previous one. -/
theorem replaces_iff_of_untouched {fs : Files Str Bytes} {path : Str} {file : Bytes}
    {steps : List SaveStep} {v : Saving} (hpath : v.files path = fs path)
    (hstage : v.stage ≠ .returned (.ok ())) (hremoved : SaveStep.removed true ∉ steps)
    (hrenamed : SaveStep.renamed true ∉ steps) :
  Replaces fs path file v ↔ Finishes file steps
  := by
  apply iff_of_true
  · exact ⟨.inl hpath, fun h => absurd h hstage⟩
  · exact ⟨fun h => absurd h hremoved, fun _ _ h => absurd h hrenamed⟩

/-- Once the state file is removed, it is neither the previous one nor the new one. -/
theorem replaces_iff_of_vacant {fs : Files Str Bytes} {path : Str} {file : Bytes}
    {steps : List SaveStep} {v : Saving} (hprevious : fs path ≠ none) (hpath : v.files path = none)
    (hremoved : SaveStep.removed true ∈ steps) (hrenamed : SaveStep.renamed true ∉ steps) :
  Replaces fs path file v ↔ Finishes file steps
  := by
  apply iff_of_false
  · rintro ⟨hsame | hnew, -⟩
    · exact hprevious (hsame.symm.trans hpath)
    · rw [hpath] at hnew
      cases hnew
  · intro h
    exact hrenamed (h.renames hremoved)

theorem Stands.replaces_iff_finishes {fs : Files Str Bytes} {path : Str} {file : Bytes}
    {steps : List SaveStep} {v : Saving} (h : Stands fs path file steps v) :
  Replaces fs path file v ↔ Finishes file steps
  := by
  cases h with
  | opening => exact replaces_iff_of_untouched rfl (by simp) (by simp) (by simp)
  | writing hpath | closing hpath | removing hpath | occupied hpath =>
      exact replaces_iff_of_untouched hpath (by simp) (by simp) (by simp)
  | failed hpath hremoved hrenamed =>
      exact replaces_iff_of_untouched hpath (by simp) hremoved hrenamed
  | vacant hprevious hpath | lost hprevious hpath =>
      exact replaces_iff_of_vacant hprevious hpath (by simp) (by simp)
  | @replaced files n m ok hpath =>
      constructor
      · rintro ⟨-, hsucceeded⟩
        have hnew := Option.some.inj (hpath.symm.trans (hsucceeded rfl))
        refine ⟨fun _ => List.mem_cons_self, fun n' hn' _ => ?_⟩
        obtain rfl : n' = m := by simpa using hn'
        have hlength : min n' file.length = file.length := by
          rw [← List.length_take, hnew]
        exact min_eq_right_iff.mp hlength
      · intro h
        have hnew : file.take m = file :=
          List.take_of_length_le (h.flushes m (by simp) List.mem_cons_self)
        rw [hnew] at hpath
        exact ⟨.inr hpath, fun _ => hpath⟩

/-- Wherever a call stops or returns, the state file is the previous one or the complete new one,
and the latter when the call has succeeded, exactly when its steps finish the replacement. -/
theorem replaces_iff {fs : Files Str Bytes} {path : Str} {s : State}
    {h : List (Saving × SaveStep)} {v : Saving} (hrun : (saving fs path s).Run h v) :
  Replaces fs path (persistToFile s) v ↔ Finishes (persistToFile s) (h.map Prod.snd)
  := (stands_of_run hrun).replaces_iff_finishes

/-! ### Harm -/

/-- A step that may be next takes a run on. -/
theorem saving_next {fs : Files Str Bytes} {path : Str} {s : State}
    {h : List (Saving × SaveStep)} {v : Saving} (hrun : (saving fs path s).Run h v) {e : SaveStep}
    (he : e.Enabled path v) :
  (saving fs path s).Run ((v, e) :: h) (v.next path (persistToFile s) e)
  := hrun.step ⟨he, rfl⟩

/-- Every call can write any part of the file, and remove the previous one. -/
theorem run_vacant {fs : Files Str Bytes} {path : Str} (hprevious : fs path ≠ none) (s : State)
    (m : ℕ) :
  ∃ h v, (saving fs path s).Run h v ∧
    h.map Prod.snd = [.removed true, .closed m, .written 0 true, .opened true] ∧
    v.stage = .moving
  := by
  have hstart : (saving fs path s).Run [] { files := fs, stage := .opening } := .start rfl
  have hopened := saving_next hstart (e := .opened true) rfl
  have hwritten := saving_next hopened (e := .written 0 true) rfl
  have hclosed := saving_next hwritten (e := .closed m) rfl
  have hkept := stands_of_run hclosed
  refine ⟨_, _, saving_next hclosed (e := .removed true) ⟨rfl, fun _ => ?_⟩, rfl, rfl⟩
  generalize Saving.next path (persistToFile s) _ (.closed m) = v at hkept
  cases hkept with
  | removing hpath | failed hpath => exact fun hnone => hprevious (hpath.symm.trans hnone)

theorem persistToFile_ne_nil (s : State) :
  persistToFile s ≠ []
  := by
  rw [persistToFile, Persistence.frame]
  intro h
  have hchecked := (List.append_eq_nil_iff.mp h).1
  rw [Persistence.checkedPart, List.flatten_cons] at hchecked
  exact absurd (List.append_eq_nil_iff.mp hchecked).1 (by decide +kernel)

namespace Fixture

/-- Every file holds one byte. -/
def disk : Files Str Bytes := fun _ => some [7]

theorem disk_state :
  disk (str "state") ≠ none
  := Option.some_ne_none _

end Fixture

/-- Among these files, a call whose steps all succeed replaces the state file. -/
theorem replaces_fixture :
  ∃ h v, (saving Fixture.disk (str "state") (Coordinator 1)).Run h v ∧
    v.stage = .returned (.ok ()) ∧
    Replaces Fixture.disk (str "state") (persistToFile (Coordinator 1)) v
  := by
  obtain ⟨h, v, hrun, hsteps, hstage⟩ := run_vacant Fixture.disk_state (Coordinator 1)
    (persistToFile (Coordinator 1)).length
  have hrenamed := saving_next hrun (e := .renamed true) hstage
  refine ⟨_, _, hrenamed, rfl, (replaces_iff hrenamed).mpr ?_⟩
  rw [List.map_cons, hsteps]
  refine ⟨fun _ => List.mem_cons_self, fun n hn _ => ?_⟩
  obtain rfl : n = (persistToFile (Coordinator 1)).length := by simpa using hn
  exact le_rfl

/-- A call that stops once it has removed the previous file leaves none, and one whose stream loses
its bytes when it is closed succeeds with an empty file. -/
theorem previous_file_lost :
  (∃ h v, (saving Fixture.disk (str "state") (Coordinator 1)).Run h v ∧
    v.files (str "state") = none ∧
    ¬Replaces Fixture.disk (str "state") (persistToFile (Coordinator 1)) v) ∧
  ∃ h v, (saving Fixture.disk (str "state") (Coordinator 1)).Run h v ∧
    v.stage = .returned (.ok ()) ∧ v.files (str "state") = some [] ∧
    ¬Replaces Fixture.disk (str "state") (persistToFile (Coordinator 1)) v
  := by
  obtain ⟨h, v, hrun, hsteps, hstage⟩ := run_vacant Fixture.disk_state (Coordinator 1) 0
  constructor
  · have hstands := stands_of_run hrun
    rw [hsteps] at hstands
    refine ⟨h, v, hrun, ?_, ?_⟩
    · cases hstands with
      | vacant _ hpath => exact hpath
      | failed _ hremoved => exact absurd List.mem_cons_self hremoved
    · rw [hstands.replaces_iff_finishes]
      intro hcompletes
      exact absurd (hcompletes.renames List.mem_cons_self) (by decide)
  · have hrenamed := saving_next hrun (e := .renamed true) hstage
    have hstands := stands_of_run hrenamed
    rw [List.map_cons, hsteps] at hstands
    refine ⟨_, _, hrenamed, rfl, ?_, ?_⟩
    · generalize Saving.next (str "state") (persistToFile (Coordinator 1)) v (.renamed true) = u
        at hstands
      cases hstands with
      | failed _ _ hnot => exact absurd List.mem_cons_self hnot
      | replaced hpath => exact hpath
    · rw [hstands.replaces_iff_finishes]
      intro hcompletes
      have hempty := hcompletes.flushes 0 (by simp) List.mem_cons_self
      exact persistToFile_ne_nil _ (List.length_eq_zero_iff.mp (Nat.le_zero.mp hempty))

end GpuDirectFabric

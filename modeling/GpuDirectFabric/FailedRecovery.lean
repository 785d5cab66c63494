import GpuDirectFabric.World

/-!
# Failed recoveries

A recovery replaces the state as soon as it has read the header record.  So when it fails, the
state is what it was exactly if it failed by then.
-/

namespace GpuDirectFabric

open Codec Coordinator Persistence

namespace Persistence

/-- The file is a right frame, of a body with a header record at least. -/
def HasHeader (file : Bytes) : Prop :=
  ∃ body, file = frame body ∧ body.length ≤ kMaxPayload ∧ 24 ≤ body.length

theorem u64_ok {bs : Bytes} (h : 8 ≤ bs.length) (message : Str) :
  u64 message bs = .ok (leNat (bs.take 8), bs.drop 8)
  := Reader.word_eq_ok.mpr ⟨h, rfl, rfl⟩

theorem length_of_u64 {bs rest : Bytes} {n : ℕ} {message : Str}
    (h : u64 message bs = .ok (n, rest)) :
  bs.length = 8 + rest.length
  := by
  rw [Reader.eq_of_word h, List.length_append, length_putLE]

/-- The header record takes 24 bytes. -/
theorem readHeader_ok_iff {bs : Bytes} :
  (∃ r, readHeader bs = .ok r) ↔ 24 ≤ bs.length
  := by
  constructor
  · rintro ⟨r, hr⟩
    simp only [readHeader, Reader.bind_eq_ok] at hr
    obtain ⟨epoch, bs₁, hepoch, nextId, bs₂, hnextId, freshness, bs₃, hfreshness, -⟩ := hr
    have h₁ := length_of_u64 hepoch
    have h₂ := length_of_u64 hnextId
    have h₃ := length_of_u64 hfreshness
    omega
  · intro h
    rw [readHeader, Reader.bind_ok (u64_ok (by omega) _), Reader.bind_ok (u64_ok _ _),
      Reader.bind_ok (u64_ok _ _)]
    · exact ⟨_, rfl⟩
    · simp only [List.length_drop]
      omega
    · rw [List.length_drop]
      omega

/-- A file without a header record is rejected, and the state left as it is. -/
theorem recoverFromFile_unread {file : Bytes} (h : ¬HasHeader file) (out : State) :
  ∃ e, recoverFromFile file out = (.error e, out)
  := by
  rw [recoverFromFile]
  rcases hopen : openFrame file with e | body
  · exact ⟨e, rfl⟩
  · obtain ⟨hframe, hmax⟩ := frame_of_openFrame hopen
    dsimp only
    rcases hheader : readHeader body with e | r
    · exact ⟨e, rfl⟩
    · exact absurd ⟨body, hframe, hmax, readHeader_ok_iff.mp ⟨r, hheader⟩⟩ h

/-- Nothing is kept of the state before once the header record has been read. -/
theorem recoverFromFile_read {file : Bytes} (h : HasHeader file) :
  ∃ result, ∀ out, recoverFromFile file out = result
  := by
  obtain ⟨body, rfl, hmax, hlength⟩ := h
  obtain ⟨⟨header, sections⟩, hheader⟩ := readHeader_ok_iff.mpr hlength
  use recoverFromFile (frame body) {}
  intro out
  rw [recoverFromFile, recoverFromFile, openFrame_frame hmax]
  dsimp only
  rw [hheader]

end Persistence

/-- Of a file that is rejected, a recovery leaves the state it finds as it is, whatever it is,
exactly when the file is no right frame or its body ends before the header record does. -/
theorem recover_atomic_iff {file : Bytes} {out₀ : State} {e₀ : Error}
    (h : (recoverFromFile file out₀).1 = .error e₀) :
  (∀ out e, (recoverFromFile file out).1 = .error e → (recoverFromFile file out).2 = out) ↔
    ¬HasHeader file
  := by
  constructor
  · intro hatomic hheader
    obtain ⟨⟨answer, s⟩, hresult⟩ := recoverFromFile_read hheader
    rw [hresult] at h
    -- the state left by the failure would have any limits
    have hleft : ∀ out, s = out := by
      intro out
      have hout := hatomic out e₀
      rw [hresult] at hout
      exact hout h
    have hlimits := (hleft { maxPlans := 0 }).symm.trans (hleft { maxPlans := 1 })
    cases congrArg State.maxPlans hlimits
  · intro hheader out e _
    obtain ⟨e', heq⟩ := recoverFromFile_unread hheader out
    rw [heq]

namespace Fixture

/-- The frame of a body that ends after the header record. -/
def headerOnly : Bytes := frame ([putU64 7, putU64 100, putU64 50].flatten)

end Fixture

theorem recover_atomic_fixture :
  ¬∀ out e, (recoverFromFile Fixture.headerOnly out).1 = .error e →
    (recoverFromFile Fixture.headerOnly out).2 = out
  := by
  intro hatomic
  have hrejected : (recoverFromFile Fixture.headerOnly {}).1
      = .error (malformed "invalid buffer count") := by decide +kernel
  exact (recover_atomic_iff hrejected).mp hatomic ⟨_, rfl, by decide, by decide⟩

/-- A file without sections is rejected, but the state of a coordinator that registered a buffer is
replaced. -/
theorem rejected_not_atomic :
  (recoverFromFile Fixture.headerOnly Fixture.registered.state).1
    = .error (malformed "invalid buffer count") ∧
  (recoverFromFile Fixture.headerOnly Fixture.registered.state).2 ≠ Fixture.registered.state
  := by
  have hepoch : (recoverFromFile Fixture.headerOnly Fixture.registered.state).2.epoch = 7 := by
    decide +kernel
  use by decide +kernel
  intro heq
  rw [heq] at hepoch
  cases hepoch

end GpuDirectFabric

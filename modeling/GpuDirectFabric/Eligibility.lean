import GpuDirectFabric.Planner

/-!
# When the direct path is allowed

The checks of the planner run one after another until one fails.  Each of them stands for a
requirement, and the outcome is direct exactly when all the requirements are met.
-/

namespace GpuDirectFabric

namespace PathPlanner

/-- The requirements of the direct path. -/
structure DirectRequirements (req : PathRequest) (ev : PathEvidence) : Prop where
  source : valid ev.source.id = true ∧ ev.source.lifecycle = .active
  size : req.size ≤ ev.source.size
  destination : valid ev.destination.id = true ∧ ev.destination.endpointClass ≠ .unknown
  supported : ev.destination.support ≠ .unsupported
  healthy : ev.destination.healthy = true
  generation : ∀ latest, latestEndpoint ev ev.destination.id = some latest →
    latest.generation = ev.destination.generation
  domain : isGpuMemory ev.source.domain = true
  device : valid ev.device.id = true ∧ ∀ latest, latestDevice ev ev.device.id = some latest →
    latest.generation = ev.device.generation
  provider : providerAvailable ev (providerFor ev.destination.endpointClass) = true
  capability : ∃ cap, capabilityFor ev (providerFor ev.destination.endpointClass)
      (capFor ev.destination.endpointClass) = some cap ∧
    cap.value = "true" ∧ cap.support ≠ .unsupported
  registration : ∃ reg, findRegistration ev ev.source.id ev.destination.id = some reg ∧
    reg.state = .registered ∧ reg.bufferGeneration = ev.source.generation ∧
    reg.endpointGeneration = ev.destination.generation ∧ authorityLive reg.authority ev = true
  alignment : 64 ≤ ev.source.alignment ∧ req.size % ev.source.alignment = 0

/-- Any provider of the name will do. -/
theorem providerAvailable_iff {ev : PathEvidence} {provider : Str} :
  providerAvailable ev provider = true ↔
    ∃ v ∈ ev.providers, v.name = provider ∧ v.available = true ∧ v.support ≠ .unsupported
  := by
  rw [providerAvailable, List.any_eq_true]
  simp [and_assoc]

/-! ### Checks in sequence -/

/-- An evaluation in which the requirement `P` has been checked: it is met and the outcome is
open, or it is not and the outcome is settled, not directly. -/
def Checked (P : Prop) (e : Evaluation) : Prop :=
  P ∧ e.direct = .unsupported ∨ ¬P ∧ e.direct ≠ .unsupported ∧ e.direct.isDirect = false

/-- A check of the requirement `Q`. -/
def Checks (Q : Prop) (check : Evaluation → Evaluation) : Prop :=
  ∀ e, e.direct = .unsupported → Checked Q (check e)

/-- A check after others checks one requirement more. -/
theorem Checked.next {P Q : Prop} {e : Evaluation} {check : Evaluation → Evaluation}
    (h : Checked P e) (hcheck : Checks Q check) :
  Checked (P ∧ Q) (unlessSettled check e)
  := by
  rw [unlessSettled]
  obtain ⟨hP, hopen⟩ | ⟨hP, hsettled, hnot⟩ := h
  · rw [if_pos hopen]
    obtain ⟨hQ, hnext⟩ | ⟨hQ, hnext⟩ := hcheck e hopen
    · exact .inl ⟨⟨hP, hQ⟩, hnext⟩
    · exact .inr ⟨fun h => hQ h.2, hnext⟩
  · rw [if_neg hsettled]
    exact .inr ⟨fun h => hP h.1, hsettled, hnot⟩

/-- The check of the source asks for an id and for activity. -/
theorem checkSource_checks (ev : PathEvidence) :
  Checks (valid ev.source.id = true ∧ ev.source.lifecycle = .active) (checkSource ev)
  := by
  intro e he
  rw [checkSource]
  split
  next hvalid => exact .inr ⟨fun h => by simp [h.1] at hvalid, nofun, rfl⟩
  next hvalid =>
    split
    next hactive => exact .inr ⟨fun h => by simp [h.2] at hactive, nofun, rfl⟩
    next hactive => exact .inl ⟨⟨by simpa using hvalid, by simpa using hactive⟩, he⟩

/-- That of the size compares it with the size of the source. -/
theorem checkSize_checks (req : PathRequest) (ev : PathEvidence) :
  Checks (req.size ≤ ev.source.size) (checkSize req ev)
  := by
  intro e he
  rw [checkSize]
  split
  next hsize => exact .inr ⟨not_le.mpr hsize, nofun, rfl⟩
  next hsize => exact .inl ⟨not_lt.mp hsize, he⟩

/-- That of the destination asks for an id and a class. -/
theorem checkDestination_checks (ev : PathEvidence) :
  Checks (valid ev.destination.id = true ∧ ev.destination.endpointClass ≠ .unknown)
    (checkDestination ev)
  := by
  intro e he
  rw [checkDestination]
  split
  next h =>
    refine .inr ⟨?_, nofun, rfl⟩
    rintro ⟨hvalid, hclass⟩
    simp [hvalid, hclass] at h
  next h => exact .inl ⟨by simpa [not_or] using h, he⟩

/-- Only the label for lack of support is rejected. -/
theorem checkDestinationSupported_checks (ev : PathEvidence) :
  Checks (ev.destination.support ≠ .unsupported) (checkDestinationSupported ev)
  := by
  intro e he
  rw [checkDestinationSupported]
  split
  next h => exact .inr ⟨fun h' => h' h, nofun, rfl⟩
  next h => exact .inl ⟨h, he⟩

theorem checkDestinationHealthy_checks (ev : PathEvidence) :
  Checks (ev.destination.healthy = true) (checkDestinationHealthy ev)
  := by
  intro e he
  rw [checkDestinationHealthy]
  split
  next h => exact .inr ⟨fun h' => by simp [h'] at h, nofun, rfl⟩
  next h => exact .inl ⟨by simpa using h, he⟩

/-- A destination without a record in the evidence passes. -/
theorem checkDestinationGeneration_checks (ev : PathEvidence) :
  Checks (∀ latest, latestEndpoint ev ev.destination.id = some latest →
    latest.generation = ev.destination.generation) (checkDestinationGeneration ev)
  := by
  intro e he
  rw [checkDestinationGeneration]
  cases hlatest : latestEndpoint ev ev.destination.id with
  | none =>
      rw [Option.any_none, if_neg Bool.false_ne_true]
      refine .inl ⟨?_, he⟩
      rintro _ ⟨⟩
  | some latest =>
      rw [Option.any_some]
      split
      next h =>
        refine .inr ⟨fun h' => ?_, nofun, rfl⟩
        simp [h' latest rfl] at h
      next h =>
        refine .inl ⟨?_, he⟩
        rintro _ ⟨⟩
        simpa using h

theorem checkSourceDomain_checks (ev : PathEvidence) :
  Checks (isGpuMemory ev.source.domain = true) (checkSourceDomain ev)
  := by
  intro e he
  rw [checkSourceDomain]
  split
  next h => exact .inr ⟨fun h' => by simp [h'] at h, nofun, rfl⟩
  next =>
    split
    next h => exact .inr ⟨fun h' => by simp [h'] at h, nofun, rfl⟩
    next h => exact .inl ⟨by simpa using h, he⟩

/-- So does a device, if it has an id. -/
theorem checkDevice_checks (ev : PathEvidence) :
  Checks (valid ev.device.id = true ∧ ∀ latest, latestDevice ev ev.device.id = some latest →
    latest.generation = ev.device.generation) (checkDevice ev)
  := by
  intro e he
  rw [checkDevice]
  split
  next h => exact .inr ⟨fun h' => by simp [h'.1] at h, nofun, rfl⟩
  next hvalid =>
    cases hlatest : latestDevice ev ev.device.id with
    | none =>
        rw [Option.any_none, if_neg Bool.false_ne_true]
        refine .inl ⟨⟨by simpa using hvalid, ?_⟩, he⟩
        rintro _ ⟨⟩
    | some latest =>
        rw [Option.any_some]
        split
        next h =>
          refine .inr ⟨fun h' => ?_, nofun, rfl⟩
          simp [h'.2 latest rfl] at h
        next h =>
          refine .inl ⟨⟨by simpa using hvalid, ?_⟩, he⟩
          rintro _ ⟨⟩
          simpa using h

/-- The name of the provider depends on the class of the destination. -/
theorem checkProvider_checks (ev : PathEvidence) :
  Checks (providerAvailable ev (providerFor ev.destination.endpointClass) = true)
    (checkProvider ev)
  := by
  intro e he
  rw [checkProvider]
  split
  next h => exact .inr ⟨fun h' => by simp [h'] at h, nofun, rfl⟩
  next h => exact .inl ⟨by simpa using h, he⟩

/-- The capability has to be observed as true. -/
theorem checkCapability_checks (ev : PathEvidence) :
  Checks (∃ cap, capabilityFor ev (providerFor ev.destination.endpointClass)
      (capFor ev.destination.endpointClass) = some cap ∧
    cap.value = "true" ∧ cap.support ≠ .unsupported) (checkCapability ev)
  := by
  intro e he
  rw [checkCapability]
  dsimp only
  split
  next hcap =>
    refine .inr ⟨?_, nofun, rfl⟩
    rintro ⟨cap, hcap', -⟩
    rw [hcap] at hcap'
    cases hcap'
  next cap hcap =>
    split
    next h =>
      refine .inr ⟨?_, nofun, rfl⟩
      rintro ⟨cap', hcap', hvalue, hsupport⟩
      obtain rfl := Option.some.inj (hcap.symm.trans hcap')
      simp [hvalue, hsupport] at h
    next h => exact .inl ⟨⟨cap, hcap, by simpa [not_or] using h⟩, he⟩

/-- The latest registration of the pair has to be in force. -/
theorem checkRegistration_checks (ev : PathEvidence) :
  Checks (∃ reg, findRegistration ev ev.source.id ev.destination.id = some reg ∧
    reg.state = .registered ∧ reg.bufferGeneration = ev.source.generation ∧
    reg.endpointGeneration = ev.destination.generation ∧ authorityLive reg.authority ev = true)
    (checkRegistration ev)
  := by
  intro e he
  rw [checkRegistration]
  split
  next hreg =>
    refine .inr ⟨?_, nofun, rfl⟩
    rintro ⟨reg, hreg', -⟩
    rw [hreg] at hreg'
    cases hreg'
  next reg hreg =>
    have hunique : ∀ {P : Registration → Prop},
        (∃ reg, findRegistration ev ev.source.id ev.destination.id = some reg ∧ P reg) → P reg := by
      rintro P ⟨reg', hreg', h⟩
      obtain rfl := Option.some.inj (hreg.symm.trans hreg')
      exact h
    split
    next hstate => exact .inr ⟨fun h => by simp [(hunique h).1] at hstate, nofun, rfl⟩
    next hstate =>
      split
      next hgeneration =>
        refine .inr ⟨fun h => ?_, nofun, rfl⟩
        simp [(hunique h).2.1, (hunique h).2.2.1] at hgeneration
      next hgeneration =>
        split
        next hlive => exact .inr ⟨fun h => by simp [(hunique h).2.2.2] at hlive, nofun, rfl⟩
        next hlive =>
          have hgeneration : reg.bufferGeneration = ev.source.generation ∧
              reg.endpointGeneration = ev.destination.generation := by
            simpa [not_or] using hgeneration
          exact .inl ⟨⟨reg, hreg, by simpa using hstate, hgeneration.1, hgeneration.2,
            by simpa using hlive⟩, he⟩

/-- The last check grants the direct path when all requirements before it and its own are
met. -/
theorem checkAlignment_isDirect {P : Prop} {e : Evaluation} (req : PathRequest)
    (ev : PathEvidence) (h : Checked P e) :
  (unlessSettled (checkAlignment req ev) e).direct.isDirect = true ↔
    P ∧ 64 ≤ ev.source.alignment ∧ req.size % ev.source.alignment = 0
  := by
  rw [unlessSettled]
  obtain ⟨hP, hopen⟩ | ⟨hP, hsettled, hnot⟩ := h
  · rw [if_pos hopen, checkAlignment]
    split
    next halign =>
      constructor
      · nofun
      · rintro ⟨-, hle, hmod⟩
        simp [hmod, not_lt.mpr hle] at halign
    next halign =>
      have halign : 64 ≤ ev.source.alignment ∧ req.size % ev.source.alignment = 0 := by
        simpa [not_or] using halign
      constructor
      · intro
        exact ⟨hP, halign⟩
      · intro
        dsimp only
        split
        next => rfl
        next => rfl
  · rw [if_neg hsettled, hnot]
    constructor
    · nofun
    · rintro ⟨hP', -⟩
      exact absurd hP' hP

/-- The last two checks are made of an evaluation in which all the requirements before them have
been checked. -/
theorem checkDirect_eq (req : PathRequest) (ev : PathEvidence) :
  ∃ (P : Prop) (e : Evaluation), Checked P e ∧
    checkDirect req ev
      = unlessSettled (checkAlignment req ev) (unlessSettled (checkRegistration ev) e) ∧
    (DirectRequirements req ev ↔
      (P ∧ ∃ reg, findRegistration ev ev.source.id ev.destination.id = some reg ∧
        reg.state = .registered ∧ reg.bufferGeneration = ev.source.generation ∧
        reg.endpointGeneration = ev.destination.generation ∧
        authorityLive reg.authority ev = true) ∧
      64 ≤ ev.source.alignment ∧ req.size % ev.source.alignment = 0)
  := by
  let d : PathDecision :=
    { directClass := classifyDirect req ev
      sourceGeneration := ev.source.generation
      destinationGeneration := ev.destination.generation }
  have h₁ := checkSource_checks ev ⟨d, .unsupported⟩ rfl
  have h₂ := h₁.next (checkSize_checks req ev)
  have h₃ := h₂.next (checkDestination_checks ev)
  have h₄ := h₃.next (checkDestinationSupported_checks ev)
  have h₅ := h₄.next (checkDestinationHealthy_checks ev)
  have h₆ := h₅.next (checkDestinationGeneration_checks ev)
  have h₇ := h₆.next (checkSourceDomain_checks ev)
  have h₈ := h₇.next (checkDevice_checks ev)
  have h₉ := h₈.next (checkProvider_checks ev)
  have h₁₀ := h₉.next (checkCapability_checks ev)
  refine ⟨_, _, h₁₀, rfl, ?_⟩
  constructor
  · rintro ⟨h₁, h₂, h₃, h₄, h₅, h₆, h₇, h₈, h₉, h₁₀, h₁₁, h₁₂⟩
    exact ⟨⟨⟨⟨⟨⟨⟨⟨⟨⟨⟨h₁, h₂⟩, h₃⟩, h₄⟩, h₅⟩, h₆⟩, h₇⟩, h₈⟩, h₉⟩, h₁₀⟩, h₁₁⟩, h₁₂⟩
  · rintro ⟨⟨⟨⟨⟨⟨⟨⟨⟨⟨⟨h₁, h₂⟩, h₃⟩, h₄⟩, h₅⟩, h₆⟩, h₇⟩, h₈⟩, h₉⟩, h₁₀⟩, h₁₁⟩, h₁₂⟩
    exact ⟨h₁, h₂, h₃, h₄, h₅, h₆, h₇, h₈, h₉, h₁₀, h₁₁, h₁₂⟩

/-- The outcome is direct exactly when no check has failed. -/
theorem checkDirect_isDirect (req : PathRequest) (ev : PathEvidence) :
  (checkDirect req ev).direct.isDirect = true ↔ DirectRequirements req ev
  := by
  obtain ⟨P, e, hchecked, heq, hrequirements⟩ := checkDirect_eq req ev
  rw [heq, hrequirements]
  exact checkAlignment_isDirect req ev (hchecked.next (checkRegistration_checks ev))

/-- The policy decides between the fallback and a refusal only, never for the direct path. -/
theorem outcome_isDirect (req : PathRequest) (ev : PathEvidence) (e : Evaluation) :
  (outcome req ev e).eligibility.isDirect = true ↔ e.direct.isDirect = true
  := by
  rw [outcome]
  split
  next h => rfl
  next h =>
    dsimp only
    split
    next => rfl
    next =>
      split
      next =>
        constructor
        · nofun
        · intro h'
          exact absurd h' h
      next => rfl

/-- The decision is direct exactly when the requirements of the direct path are met. -/
theorem evaluate_isDirect (req : PathRequest) (ev : PathEvidence) :
  (evaluate req ev).eligibility.isDirect = true ↔ DirectRequirements req ev
  := by
  rw [evaluate, ← checkDirect_isDirect]
  generalize checkDirect req ev = e
  exact outcome_isDirect req ev e

end PathPlanner

end GpuDirectFabric

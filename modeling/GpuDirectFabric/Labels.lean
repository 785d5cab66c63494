import GpuDirectFabric.Integrity
import GpuDirectFabric.Stages

/-!
# The label of a plan

A plan takes its classification from the planner, which keeps that of the evidence it looked at
last.  When the direct path is rejected this is what it was when the check failed, although the
path is then staged, and the stages of a fallback are synthetic.
-/

namespace GpuDirectFabric

open Coordinator PathPlanner

namespace PathPlanner

/-! ### Rejections on real evidence -/

/-- The requirements on the two ends of the path, which are checked first. -/
structure EndRequirements (req : PathRequest) (ev : PathEvidence) : Prop where
  source : valid ev.source.id = true ∧ ev.source.lifecycle = .active
  size : req.size ≤ ev.source.size
  destination : valid ev.destination.id = true ∧ ev.destination.endpointClass ≠ .unknown
  supported : ev.destination.support ≠ .unsupported
  healthy : ev.destination.healthy = true
  generation : ∀ latest, latestEndpoint ev ev.destination.id = some latest →
    latest.generation = ev.destination.generation
  domain : isGpuMemory ev.source.domain = true

/-- The requirement on the device. -/
def DeviceCurrent (ev : PathEvidence) : Prop :=
  valid ev.device.id = true ∧ ∀ latest, latestDevice ev ev.device.id = some latest →
    latest.generation = ev.device.generation

/-- The provider and the capability that the direct path needs. -/
def neededCapability (ev : PathEvidence) : Option CapabilityObservation :=
  capabilityFor ev (providerFor ev.destination.endpointClass)
    (capFor ev.destination.endpointClass)

/-- The requirement on the registration. -/
def RegistrationUsable (ev : PathEvidence) : Prop :=
  ∃ reg, findRegistration ev ev.source.id ev.destination.id = some reg ∧
    reg.state = .registered ∧ reg.bufferGeneration = ev.source.generation ∧
    reg.endpointGeneration = ev.destination.generation ∧ authorityLive reg.authority ev = true

/-- The requirements on the ends, the device and the provider are met. -/
structure Provided (req : PathRequest) (ev : PathEvidence) : Prop extends
    EndRequirements req ev where
  device : DeviceCurrent ev
  provider : providerAvailable ev (providerFor ev.destination.endpointClass) = true

/-- The direct path is rejected by the first check that fails, and the evidence classified before
that check was classified real: the source for the check of the device, the capability for its own
check and that of the registration, and the registration for the check of the alignment. -/
inductive RejectedReal (req : PathRequest) (ev : PathEvidence) : Prop
  | device (h : EndRequirements req ev) (hreal : ev.source.support = .real)
      (hnot : ¬DeviceCurrent ev) : RejectedReal req ev
  | capability (h : Provided req ev) {cap : CapabilityObservation}
      (hcap : neededCapability ev = some cap) (hreal : cap.support = .real)
      (hnot : cap.value ≠ "true") : RejectedReal req ev
  | registration (h : Provided req ev) {cap : CapabilityObservation}
      (hcap : neededCapability ev = some cap) (hreal : cap.support = .real)
      (hvalue : cap.value = "true") (hnot : ¬RegistrationUsable ev) : RejectedReal req ev
  | alignment (h : Provided req ev) {cap : CapabilityObservation} {reg : Registration}
      (hcap : neededCapability ev = some cap) (hsupported : cap.support ≠ .unsupported)
      (hvalue : cap.value = "true") (hcurrent : RegistrationUsable ev)
      (hreg : findRegistration ev ev.source.id ev.destination.id = some reg)
      (hreal : reg.support = .real)
      (hnot : ¬(64 ≤ ev.source.alignment ∧ req.size % ev.source.alignment = 0)) :
      RejectedReal req ev

/-- A path that is rejected does not meet the requirements. -/
theorem RejectedReal.not_requirements {req : PathRequest} {ev : PathEvidence}
    (h : RejectedReal req ev) :
  ¬DirectRequirements req ev
  := by
  intro hreq
  cases h with
  | device _ _ hnot => exact hnot hreq.device
  | capability _ hcap _ hnot =>
      obtain ⟨cap, hcap', hvalue, -⟩ := hreq.capability
      obtain rfl := Option.some.inj (hcap.symm.trans hcap')
      exact hnot hvalue
  | registration _ _ _ _ hnot => exact hnot hreq.registration
  | alignment _ _ _ _ _ _ _ hnot => exact hnot hreq.alignment

/-! ### The running label -/

/-- An evaluation in which the requirement `P` has been checked: it is met and the label is real
under `L`, or it is not and the label was real at the check that failed, under `R`. -/
def Traced (P L R : Prop) (e : Evaluation) : Prop :=
  P ∧ e.direct = .unsupported ∧ (e.decision.support = .real ↔ L) ∨
    ¬P ∧ e.direct ≠ .unsupported ∧ (e.decision.support = .real ↔ R)

/-- A check of `Q`, before which the label is real under `L`, makes it real under `M` if it
succeeds and under `F` if it fails. -/
def Relabels (L Q M F : Prop) (check : Evaluation → Evaluation) : Prop :=
  ∀ e, e.direct = .unsupported → (e.decision.support = .real ↔ L) →
    (Q → ((check e).decision.support = .real ↔ M)) ∧
      (¬Q → ((check e).decision.support = .real ↔ F))

theorem Traced.next {P L R Q M F : Prop} {e : Evaluation} {check : Evaluation → Evaluation}
    (h : Traced P L R e) (hcheck : Checks Q check) (hlabel : Relabels L Q M F check) :
  Traced (P ∧ Q) M (¬P ∧ R ∨ P ∧ F) (unlessSettled check e)
  := by
  rw [unlessSettled]
  obtain ⟨hP, hopen, hL⟩ | ⟨hP, hsettled, hR⟩ := h
  · rw [if_pos hopen]
    obtain ⟨hM, hF⟩ := hlabel e hopen hL
    obtain ⟨hQ, hnext⟩ | ⟨hQ, hnext, -⟩ := hcheck e hopen
    · exact .inl ⟨⟨hP, hQ⟩, hnext, hM hQ⟩
    · refine .inr ⟨fun h => hQ h.2, hnext, (hF hQ).trans ?_⟩
      simp [hP]
  · rw [if_neg hsettled]
    refine .inr ⟨fun h => hP h.1, hsettled, hR.trans ?_⟩
    simp [hP]

/-- A check that labels nothing real. -/
def NeverReal (check : Evaluation → Evaluation) : Prop :=
  ∀ e, e.decision.support ≠ .real → (check e).decision.support ≠ .real

theorem Traced.next_neverReal {P Q : Prop} {e : Evaluation} {check : Evaluation → Evaluation}
    (h : Traced P False False e) (hcheck : Checks Q check) (hnever : NeverReal check) :
  Traced (P ∧ Q) False False (unlessSettled check e)
  := by
  have hlabel : Relabels False Q False False check := by
    intro e _ hL
    have hnot := hnever e fun hreal => hL.mp hreal
    simp [hnot]
  have hnext := h.next hcheck hlabel
  rwa [and_false, and_false, or_self] at hnext

theorem checkSource_neverReal (ev : PathEvidence) :
  NeverReal (checkSource ev)
  := by
  intro e he
  rw [checkSource]
  split
  · exact he
  · split
    · exact he
    · exact he

theorem checkSize_neverReal (req : PathRequest) (ev : PathEvidence) :
  NeverReal (checkSize req ev)
  := by
  intro e he
  rw [checkSize]
  split
  · exact he
  · exact he

theorem checkDestination_neverReal (ev : PathEvidence) :
  NeverReal (checkDestination ev)
  := by
  intro e he
  rw [checkDestination]
  split
  · exact he
  · exact he

theorem checkDestinationSupported_neverReal (ev : PathEvidence) :
  NeverReal (checkDestinationSupported ev)
  := by
  intro e he
  rw [checkDestinationSupported]
  split
  · rintro ⟨⟩
  · exact he

theorem checkDestinationHealthy_neverReal (ev : PathEvidence) :
  NeverReal (checkDestinationHealthy ev)
  := by
  intro e he
  rw [checkDestinationHealthy]
  split
  · exact he
  · exact he

theorem checkDestinationGeneration_neverReal (ev : PathEvidence) :
  NeverReal (checkDestinationGeneration ev)
  := by
  intro e he
  rw [checkDestinationGeneration]
  split
  · exact he
  · exact he

/-- The check of the domain labels the path as the source. -/
theorem checkSourceDomain_relabels (ev : PathEvidence) :
  Relabels False (isGpuMemory ev.source.domain = true) (ev.source.support = .real) False
    (checkSourceDomain ev)
  := by
  intro e _ hL
  rw [checkSourceDomain]
  constructor
  · intro hdomain
    simp only [hdomain, Bool.not_true, Bool.false_and, Bool.false_eq_true, if_false]
    rfl
  · intro hdomain
    rw [Bool.not_eq_true] at hdomain
    simp only [hdomain, Bool.not_false, Bool.true_and, if_true]
    split
    · exact hL
    · exact hL

theorem checkDevice_relabels {L : Prop} (ev : PathEvidence) :
  Relabels L (DeviceCurrent ev) L L (checkDevice ev)
  := by
  intro e _ hL
  have hsame : (checkDevice ev e).decision.support = e.decision.support := by
    rw [checkDevice]
    split
    · rfl
    · split
      · rfl
      · rfl
  rw [hsame]
  exact ⟨fun _ => hL, fun _ => hL⟩

theorem checkProvider_relabels {L : Prop} (ev : PathEvidence) :
  Relabels L (providerAvailable ev (providerFor ev.destination.endpointClass) = true) L False
    (checkProvider ev)
  := by
  intro e _ hL
  rw [checkProvider]
  constructor
  · intro havailable
    rw [havailable]
    exact hL
  · intro hunavailable
    rw [Bool.not_eq_true] at hunavailable
    rw [hunavailable]
    simp only [Bool.not_false, if_true]
    constructor <;> rintro ⟨⟩

/-- The check of the capability labels the path as the capability, whether or not it succeeds. -/
theorem checkCapability_relabels {L Q : Prop} (ev : PathEvidence) :
  Relabels L Q (∃ cap, neededCapability ev = some cap ∧ cap.support = .real)
    (∃ cap, neededCapability ev = some cap ∧ cap.support = .real) (checkCapability ev)
  := by
  intro e _ _
  have hlabel : (checkCapability ev e).decision.support = .real ↔
      ∃ cap, neededCapability ev = some cap ∧ cap.support = .real := by
    rw [checkCapability, neededCapability]
    dsimp only
    split
    next hnone =>
      rw [hnone]
      constructor
      · rintro ⟨⟩
      · rintro ⟨_, ⟨⟩, -⟩
    next cap hcap =>
      have hsupport : ∀ {σ : Support}, σ = cap.support → (σ = .real ↔
          ∃ cap, capabilityFor ev (providerFor ev.destination.endpointClass)
            (capFor ev.destination.endpointClass) = some cap ∧ cap.support = .real) := by
        rintro _ rfl
        rw [hcap]
        constructor
        · intro hreal
          exact ⟨cap, rfl, hreal⟩
        · rintro ⟨_, ⟨⟩, hreal⟩
          exact hreal
      split
      · exact hsupport rfl
      · exact hsupport rfl
  exact ⟨fun _ => hlabel, fun _ => hlabel⟩

/-- The check of the registration labels the path as the registration, if it succeeds. -/
theorem checkRegistration_relabels {L : Prop} (ev : PathEvidence) :
  Relabels L (RegistrationUsable ev)
    (∃ reg, findRegistration ev ev.source.id ev.destination.id = some reg ∧ reg.support = .real)
    L (checkRegistration ev)
  := by
  intro e he hL
  constructor
  · rintro ⟨reg, hreg, hstate, hbuffer, hendpoint, hlive⟩
    rw [(checkRegistration_support hreg hstate hbuffer hendpoint hlive).2, hreg]
    constructor
    · intro hreal
      exact ⟨reg, rfl, hreal⟩
    · rintro ⟨_, ⟨⟩, hreal⟩
      exact hreal
  · intro hnot
    obtain ⟨h, -⟩ | ⟨-, hsettled, -⟩ := checkRegistration_checks ev e he
    · exact absurd h hnot
    · have hsame : (checkRegistration ev e).direct = e.direct ∨
          (checkRegistration ev e).decision.support = e.decision.support := by
        rw [checkRegistration]
        split
        · exact .inr rfl
        · split
          · exact .inr rfl
          · split
            · exact .inr rfl
            · split
              · exact .inr rfl
              · exact .inl rfl
      obtain hdirect | hsame := hsame
      · exact absurd (hdirect.trans he) hsettled
      · rw [hsame]
        exact hL

/-- The last check keeps the label. -/
theorem checkAlignment_support (req : PathRequest) (ev : PathEvidence) (e : Evaluation) :
  (checkAlignment req ev e).decision.support = e.decision.support
  := by
  rw [checkAlignment]
  split
  · rfl
  · rfl

theorem Traced.congr {P P' L R R' : Prop} {e : Evaluation} (h : Traced P L R e)
    (hP : P ↔ P') (hR : ¬P' → (R ↔ R')) :
  Traced P' L R' e
  := by
  obtain ⟨hmet, hopen, hL⟩ | ⟨hnot, hsettled, hlabel⟩ := h
  · exact .inl ⟨hP.mp hmet, hopen, hL⟩
  · have hnot' := fun h => hnot (hP.mpr h)
    exact .inr ⟨hnot', hsettled, hlabel.trans (hR hnot')⟩

/-- Where the ends meet their requirements the label is that of the source, and where they do not
nothing real has been looked at. -/
theorem traced_ends (req : PathRequest) (ev : PathEvidence) :
  ∃ e, Traced (EndRequirements req ev) (ev.source.support = .real) False e ∧
    checkDirect req ev = unlessSettled (checkAlignment req ev)
      (unlessSettled (checkRegistration ev) (unlessSettled (checkCapability ev)
        (unlessSettled (checkProvider ev) (unlessSettled (checkDevice ev) e))))
  := by
  let d : PathDecision :=
    { directClass := classifyDirect req ev
      sourceGeneration := ev.source.generation
      destinationGeneration := ev.destination.generation }
  have h₀ : Traced True False False ⟨d, .unsupported⟩ := .inl ⟨trivial, rfl, by simp [d]⟩
  have h₁ := h₀.next_neverReal (checkSource_checks ev) (checkSource_neverReal ev)
  rw [unlessSettled, if_pos rfl] at h₁
  have h₂ := h₁.next_neverReal (checkSize_checks req ev) (checkSize_neverReal req ev)
  have h₃ := h₂.next_neverReal (checkDestination_checks ev) (checkDestination_neverReal ev)
  have h₄ := h₃.next_neverReal (checkDestinationSupported_checks ev)
    (checkDestinationSupported_neverReal ev)
  have h₅ := h₄.next_neverReal (checkDestinationHealthy_checks ev)
    (checkDestinationHealthy_neverReal ev)
  have h₆ := h₅.next_neverReal (checkDestinationGeneration_checks ev)
    (checkDestinationGeneration_neverReal ev)
  have h₇ := h₆.next (checkSourceDomain_checks ev) (checkSourceDomain_relabels ev)
  refine ⟨_, h₇.congr ?_ ?_, rfl⟩
  · constructor
    · rintro ⟨⟨⟨⟨⟨⟨⟨-, h₁⟩, h₂⟩, h₃⟩, h₄⟩, h₅⟩, h₆⟩, h₇⟩
      exact ⟨h₁, h₂, h₃, h₄, h₅, h₆, h₇⟩
    · rintro ⟨h₁, h₂, h₃, h₄, h₅, h₆, h₇⟩
      exact ⟨⟨⟨⟨⟨⟨⟨trivial, h₁⟩, h₂⟩, h₃⟩, h₄⟩, h₅⟩, h₆⟩, h₇⟩
  · intro
    simp

/-- The checks of the device and of the provider keep the label of the source, or are rejections,
of which only that of the device is labelled as the source. -/
theorem Traced.provided {req : PathRequest} {ev : PathEvidence} {e : Evaluation}
    (h : Traced (EndRequirements req ev) (ev.source.support = .real) False e) :
  Traced (Provided req ev) (ev.source.support = .real)
    (EndRequirements req ev ∧ ¬DeviceCurrent ev ∧ ev.source.support = .real)
    (unlessSettled (checkProvider ev) (unlessSettled (checkDevice ev) e))
  := by
  have h₈ := h.next (checkDevice_checks ev) (checkDevice_relabels ev)
  have h₉ := h₈.next (checkProvider_checks ev) (checkProvider_relabels ev)
  refine h₉.congr ?_ ?_
  · constructor
    · rintro ⟨⟨hends, hdevice⟩, hprovider⟩
      exact ⟨hends, hdevice, hprovider⟩
    · rintro ⟨hends, hdevice, hprovider⟩
      exact ⟨⟨hends, hdevice⟩, hprovider⟩
  · intro
    constructor
    · rintro (⟨hnot, ⟨-, ⟨⟩⟩ | ⟨hends, hreal⟩⟩ | ⟨-, ⟨⟩⟩)
      exact ⟨hends, fun hdevice => hnot ⟨hends, hdevice⟩, hreal⟩
    · rintro ⟨hends, hdevice, hreal⟩
      exact .inl ⟨fun h => hdevice h.2, .inr ⟨hends, hreal⟩⟩

/-- A rejected path is labelled real exactly when real evidence was looked at last. -/
theorem rejected_real_iff {req : PathRequest} {ev : PathEvidence}
    (h : ¬DirectRequirements req ev) :
  (checkDirect req ev).decision.support = .real ↔ RejectedReal req ev
  := by
  obtain ⟨e, htraced, heq⟩ := traced_ends req ev
  have h₁₀ := htraced.provided.next (checkCapability_checks ev) (checkCapability_relabels ev)
  have h₁₁ := h₁₀.next (checkRegistration_checks ev) (checkRegistration_relabels ev)
  rw [heq, unlessSettled]
  obtain ⟨⟨⟨hprovided, cap, hcap, hvalue, hsupported⟩, hcurrent⟩, hopen, hlabel⟩ |
    ⟨hnot, hsettled, hlabel⟩ := h₁₁
  · rw [if_pos hopen, checkAlignment_support, hlabel]
    constructor
    · rintro ⟨reg, hreg, hreal⟩
      refine .alignment hprovided hcap hsupported hvalue hcurrent hreg hreal fun halign => h ?_
      obtain ⟨⟨h₁, h₂, h₃, h₄, h₅, h₆, h₇⟩, h₈, h₉⟩ := hprovided
      exact ⟨h₁, h₂, h₃, h₄, h₅, h₆, h₇, h₈, h₉, ⟨cap, hcap, hvalue, hsupported⟩, hcurrent, halign⟩
    · intro hrejected
      cases hrejected with
      | device _ _ hnot => exact absurd hprovided.device hnot
      | capability _ hcap' _ hnot =>
          obtain rfl := Option.some.inj (hcap.symm.trans hcap')
          exact absurd hvalue hnot
      | registration _ _ _ _ hnot => exact absurd hcurrent hnot
      | alignment _ _ _ _ _ hreg hreal => exact ⟨_, hreg, hreal⟩
  · rw [if_neg hsettled, hlabel]
    constructor
    · rintro (⟨-, ⟨-, hends, hdevice, hreal⟩ | ⟨hprovided, cap, hcap, hreal⟩⟩ |
        ⟨⟨hprovided, cap', hcap', hvalue, hsupported⟩, cap, hcap, hreal⟩)
      · exact .device hends hreal hdevice
      · by_cases hvalue : cap.value = "true"
        · refine .registration hprovided hcap hreal hvalue fun hcurrent => hnot ?_
          refine ⟨⟨hprovided, cap, hcap, hvalue, ?_⟩, hcurrent⟩
          rw [hreal]
          rintro ⟨⟩
        · exact .capability hprovided hcap hreal hvalue
      · obtain rfl := Option.some.inj (hcap.symm.trans hcap')
        refine .registration hprovided hcap hreal hvalue fun hcurrent => hnot ⟨?_, hcurrent⟩
        exact ⟨hprovided, cap, hcap, hvalue, hsupported⟩
    · intro hrejected
      cases hrejected with
      | device hends hreal hdevice =>
          exact .inl ⟨fun h => hdevice h.1.device, .inl ⟨fun h => hdevice h.device, hends, hdevice,
            hreal⟩⟩
      | @capability hprovided cap hcap hreal hvalue =>
          refine .inl ⟨?_, .inr ⟨hprovided, cap, hcap, hreal⟩⟩
          rintro ⟨-, cap', hcap', hvalue', -⟩
          obtain rfl := Option.some.inj (hcap.symm.trans hcap')
          exact hvalue hvalue'
      | @registration hprovided cap hcap hreal hvalue hcurrent =>
          refine .inr ⟨⟨hprovided, cap, hcap, hvalue, ?_⟩, cap, hcap, hreal⟩
          rw [hreal]
          rintro ⟨⟩
      | alignment hprovided hcap hsupported hvalue hcurrent hreg hreal =>
          exact absurd ⟨⟨hprovided, _, hcap, hvalue, hsupported⟩, hcurrent⟩ hnot

/-- The label of a decision is the last of the evaluation. -/
theorem evaluate_support (req : PathRequest) (ev : PathEvidence) :
  (evaluate req ev).support = (checkDirect req ev).decision.support
  := by
  rw [(evaluate_verdict req ev).support]
  generalize checkDirect req ev = e
  rw [verdict]
  split
  · rfl
  · rfl

end PathPlanner

/-! ### Attempts and their receipts -/

/-- The plan is stored with the label and the stages of `plan`. -/
def KeptAt (plan : TransferPlan) (s : State) : Prop :=
  ∃ b, s.plans.lookup plan.id = some { plan with authoritative := b }

/-- The attempt under `k` has the label `σ`, and so has its receipt. -/
def SupportedAt (k : TransferAttemptId) (σ : Support) (s : State) : Prop :=
  (∃ a, s.attempts.lookup k = some a ∧ a.support = σ) ∧
    ∀ r, s.receipts.lookup k = some r → r.support = σ

theorem verdict_support (a : TransferAttempt) :
  (verdict a).support = a.support
  := by
  rw [verdict]
  split
  · rfl
  · rfl

theorem AttemptStep.supported {e : Event} {s s' : State} {k : TransferAttemptId}
    {a : TransferAttempt} (hstep : AttemptStep e s s' k a)
    (hreceipts : ∀ r, s.receipts.lookup k = some r → r.support = a.support) :
  SupportedAt k a.support s'
  := by
  cases hstep with
  | rest hattempt hreceipt =>
      refine ⟨⟨a, hattempt, rfl⟩, ?_⟩
      rw [hreceipt]
      exact hreceipts
  | reported _ hattempt hreceipt =>
      refine ⟨⟨a, hattempt, rfl⟩, ?_⟩
      rw [hreceipt]
      rintro r ⟨⟩
      rfl
  | decided _ _ hattempt hreceipt =>
      refine ⟨⟨_, hattempt, rfl⟩, ?_⟩
      rw [hreceipt]
      rintro r ⟨⟩
      exact verdict_support a
  | cancelled _ _ hattempt hreceipt =>
      refine ⟨⟨_, hattempt, rfl⟩, ?_⟩
      rw [hreceipt]
      rintro r ⟨⟩
      rfl

/-- A process keeps the labels and stages of plans, and the labels of attempts. -/
theorem kept_of_run {u v : World} (hu : persistedFabric.Reachable u)
    (hv : (process (· = u)).Reachable v) {plan : TransferPlan} (hkept : KeptAt plan u.state) :
  KeptAt plan v.state
  := by
  apply process_invariant hu hv hkept
  rintro w e hw hrecover hallowed ⟨b, hplan⟩
  obtain ⟨b', hplan'⟩ := hallowed.effect.keeps_plan (wellFormed_of_reachable hw) hrecover hplan
  exact ⟨b', hplan'⟩

theorem supported_of_run {u v : World} (hu : persistedFabric.Reachable u)
    (hv : (process (· = u)).Reachable v) {k : TransferAttemptId} {σ : Support}
    (hsupported : SupportedAt k σ u.state) :
  SupportedAt k σ v.state
  := by
  apply process_invariant hu hv hsupported
  rintro w e hw hrecover hallowed ⟨⟨a, ha, rfl⟩, hreceipts⟩
  have hstep := hallowed.effect.attemptStep hrecover (wellFormed_of_reachable hw) ha
  exact hstep.supported hreceipts

/-- An attempt begun without a backend has the label of its plan. -/
theorem begun_support {planId : TransferPlanId} {caller : Authority} {s : State}
    {a : TransferAttempt} (h : (beginTransfer planId caller none s).1 = .ok a) :
  ∃ plan, s.plans.lookup planId = some plan ∧ a.support = plan.support
  := by
  obtain ⟨plan, buffer, hplan, -, -, hstart⟩ := beginTransfer_ok h
  rw [hstart] at h
  obtain rfl := Except.ok.inj h
  exact ⟨plan, hplan, rfl⟩

/-- A new attempt has its label, and no receipt yet. -/
theorem supportedAt_begun {u : World} (hu : persistedFabric.Reachable u)
    {planId : TransferPlanId} {caller : Authority} {backend : Option Backend}
    {a : TransferAttempt} (h : (beginTransfer planId caller backend u.state).1 = .ok a) :
  SupportedAt a.id a.support (u.next (.beginTransfer planId caller backend)).state
  := by
  obtain ⟨plan, hbegins⟩ := begins_of_ok h
  rw [World.next_state, apply, hbegins.result, hbegins.id]
  refine ⟨⟨a, AList.lookup_insert _, rfl⟩, ?_⟩
  intro r hr
  have hnone := receipt_fresh (wellFormed_of_reachable hu) (settled_of_reachable hu)
    (Nat.lt_succ_self u.state.nextId)
  cases hnone.symm.trans hr

/-! ### Labels -/

/-- A plan labelled real has real stages only; and in the process that goes on from `w`, an attempt
begun on it without a backend, and the receipt of such an attempt, are labelled real only when none
of its stages is synthetic. -/
structure TrulyLabelled (plan : TransferPlan) (w : World) : Prop where
  stages : plan.support = .real → ∀ stage ∈ plan.stages, stage.support = .real
  attempts : ∀ v caller a, (process (· = w)).Reachable v →
    (beginTransfer plan.id caller none v.state).1 = .ok a → a.support = .real →
    ∀ stage ∈ plan.stages, stage.support ≠ .synthetic
  receipts : ∀ v caller a x r, (process (· = w)).Reachable v →
    (beginTransfer plan.id caller none v.state).1 = .ok a →
    (process (· = v.next (.beginTransfer plan.id caller none))).Reachable x →
    x.state.receipts.lookup a.id = some r → r.support = .real →
    ∀ stage ∈ plan.stages, stage.support ≠ .synthetic

/-- If the stages of a plan are labelled truly, so are its attempts and their receipts. -/
theorem trulyLabelled_of_stages {w : World} (hw : persistedFabric.Reachable w)
    {plan : TransferPlan} (hkept : KeptAt plan w.state)
    (hstages : plan.support = .real → ∀ stage ∈ plan.stages, stage.support = .real) :
  TrulyLabelled plan w
  := by
  have hnot : plan.support = .real → ∀ stage ∈ plan.stages, stage.support ≠ .synthetic := by
    intro hreal stage hstage
    rw [hstages hreal stage hstage]
    rintro ⟨⟩
  have hbegun : ∀ v caller a, (process (· = w)).Reachable v →
      (beginTransfer plan.id caller none v.state).1 = .ok a → a.support = plan.support := by
    intro v caller a hv hok
    obtain ⟨plan', hplan', hsupport⟩ := begun_support hok
    obtain ⟨b, hplan⟩ := kept_of_run hw hv hkept
    obtain rfl := Option.some.inj (hplan.symm.trans hplan')
    exact hsupport
  constructor
  · exact hstages
  · intro v caller a hv hok hreal
    exact hnot ((hbegun v caller a hv hok).symm.trans hreal)
  · intro v caller a x r hv hok hx hr hreal
    have hv' : persistedFabric.Reachable v := reachable_of_process_from hw hv
    have hnext : persistedFabric.Reachable (v.next (.beginTransfer plan.id caller none)) :=
      reachable_next hv' trivial
    obtain ⟨-, hreceipts⟩ := supported_of_run hnext hx (supportedAt_begun hv' hok)
    have hsupport := (hreceipts r hr).trans (hbegun v caller a hv hok)
    exact hnot (hsupport.symm.trans hreal)

/-- A plan is stored by its commit. -/
theorem keptAt_committed {p : PlanRequestParams} {d : PathDecision} {s : State}
    {plan : TransferPlan} (h : (planTransferCommit p d s).1 = .ok plan) :
  KeptAt plan (planTransferCommit p d s).2
  := by
  obtain ⟨e, heq⟩ | ⟨src, dst, -, -, -, -, -, -, heq⟩ := planTransferCommit_cases p d s
  · rw [heq] at h
    cases h
  · rw [heq, storePlan] at h ⊢
    split at h
    next hdirect =>
      rw [if_pos hdirect]
      obtain rfl := Except.ok.inj h
      exact ⟨true, AList.lookup_insert _⟩
    next hdirect =>
      rw [if_neg hdirect]
      obtain rfl := Except.ok.inj h
      exact ⟨true, AList.lookup_insert _⟩

theorem support_directStage (d : PathDecision) (src : BufferId) (dst : EndpointId) :
  (directStage d src dst).support = d.support
  := rfl

theorem synthetic_fallbackStages (d : PathDecision) (src tmp : BufferId) (dst : EndpointId) :
  ∃ stage ∈ fallbackStages d src tmp dst, stage.support = .synthetic
  := ⟨_, List.mem_cons_self, rfl⟩

/-- A plan is labelled truly exactly when its decision was not a rejection of the direct path by a
check that came after real evidence. -/
theorem trulyLabelled_iff {u w : World} (hw : persistedFabric.Reachable w)
    {p : PlanRequestParams} {plan : TransferPlan}
    (hpending : (p, evaluatePath p u.state) ∈ w.pending)
    (hcommit : (planTransferCommit p (evaluatePath p u.state) w.state).1 = .ok plan) :
  TrulyLabelled plan (w.next (.planCommit p (evaluatePath p u.state))) ↔
    ¬RejectedReal (pathRequest p) (buildEvidenceLocked p u.state)
  := by
  have hnext : persistedFabric.Reachable (w.next (.planCommit p (evaluatePath p u.state))) :=
    reachable_next hw hpending
  have hkept : KeptAt plan (w.next (.planCommit p (evaluatePath p u.state))).state := by
    rw [World.next_state, apply]
    exact keptAt_committed hcommit
  have hlabel : (evaluatePath p u.state).support
      = (checkDirect (pathRequest p) (buildEvidenceLocked p u.state)).decision.support :=
    evaluate_support _ _
  obtain ⟨src, dst, -, -, hsupport, hstages⟩ := committed_stages hcommit
  obtain ⟨hdirect, -, hstages⟩ | ⟨hfallback, -, hstages, -⟩ := hstages
  · have hrequirements := (evaluate_isDirect _ _).mp hdirect
    refine iff_of_true (trulyLabelled_of_stages hnext hkept ?_) ?_
    · intro hreal stage hstage
      rw [hstages, List.mem_singleton] at hstage
      rw [hstage, support_directStage, ← hsupport]
      exact hreal
    · intro hrejected
      exact hrejected.not_requirements hrequirements
  · have hclosed := ((evaluate_eligibility_iff _ _).2.2.mp hfallback).2.1
    rw [← directRequirements_iff] at hclosed
    rw [← rejected_real_iff hclosed, ← hlabel, ← hsupport]
    constructor
    · intro htruly hreal
      obtain ⟨stage, hstage, hsynthetic⟩ := synthetic_fallbackStages (evaluatePath p u.state) src.id
        (w.state.nextId + 3) dst.id
      rw [← hstages] at hstage
      cases hsynthetic.symm.trans (htruly.stages hreal stage hstage)
    · intro hnot
      apply trulyLabelled_of_stages hnext hkept
      intro hreal
      exact absurd hreal hnot

namespace Fixture

/-- The world in which the fallback is decided and still to commit. -/
def fallbackDecided : World := stageable.next (.planSnapshot request)

theorem reachable_fallbackDecided :
  persistedFabric.Reachable fallbackDecided
  := reachable_next (reachable_stageable _) trivial

theorem commit_fallbackDecided :
  (planTransferCommit request (evaluatePath request stageable.state) fallbackDecided.state).1
    = .ok fallbackPlan
  := by decide +kernel

end Fixture

theorem trulyLabelled_iff_fixture :
  TrulyLabelled Fixture.fallbackPlan (Fixture.fallbackDecided.next
      (.planCommit Fixture.request (evaluatePath Fixture.request Fixture.stageable.state))) ↔
    ¬RejectedReal (pathRequest Fixture.request)
      (buildEvidenceLocked Fixture.request Fixture.stageable.state)
  := trulyLabelled_iff Fixture.reachable_fallbackDecided List.mem_cons_self
    Fixture.commit_fallbackDecided

/-- A plan that goes through a synthetic staging buffer is labelled real, as the capability of the
direct path is, for which the buffer is not registered. -/
theorem fallback_labelled_real :
  persistedFabric.Reachable Fixture.fallback ∧
    (planTransfer Fixture.request Fixture.stageable.state).1 = .ok Fixture.fallbackPlan ∧
    Fixture.fallbackPlan.support = .real ∧
    ¬TrulyLabelled Fixture.fallbackPlan Fixture.fallback
  := by
  refine ⟨Fixture.reachable_fallback _, by decide +kernel, by decide +kernel, fun h => ?_⟩
  have hsynthetic : ∃ stage ∈ Fixture.fallbackPlan.stages, stage.support ≠ .real := by
    decide +kernel
  obtain ⟨stage, hstage, hnot⟩ := hsynthetic
  exact hnot (h.stages (by decide +kernel) stage hstage)

end GpuDirectFabric

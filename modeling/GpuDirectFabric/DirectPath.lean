import GpuDirectFabric.Eligibility
import GpuDirectFabric.Library.Search
import Mathlib.Data.List.Induction

/-!
# The direct path

What the planner says of the direct path, of every request and all evidence: the conditions
under which the path is allowed, stated without the planner's own searches; that the policy has
no part in it; and how the classification of the decision comes from those of the evidence.
-/

namespace GpuDirectFabric

namespace PathPlanner

open Search

/-! ### The searches of the planner -/

section

variable {α : Type} {p : α → Bool} {key : α → ℕ} {xs : List α} {x : α}

theorem latest_concat (a : α) :
  latest p key (xs ++ [a])
    = if p a && (latest p key xs).all (fun b => key b < key a) then some a
      else latest p key xs
  := by
  rw [latest, List.foldl_append]
  rfl

/-- The strict comparison finds the newest value. -/
theorem latest_eq_some_iff :
  latest p key xs = some x ↔ Newest (fun x => p x = true) key xs x
  := by
  induction xs using List.reverseRecOn generalizing x with
  | nil =>
      constructor
      · rintro ⟨⟩
      · exact fun h => absurd h not_newest_nil
  | append_singleton xs a ih =>
      rw [latest_concat, newest_concat]
      split
      next hstep =>
        rw [Bool.and_eq_true] at hstep
        obtain ⟨hp, hall⟩ := hstep
        have hbelow : ∀ y ∈ xs, p y = true → key y < key a := by
          intro y hy hpy
          have hsome : ∃ b, latest p key xs = some b := latest_isSome hy hpy
          obtain ⟨b, hb⟩ := hsome
          rw [hb, Option.all_some, decide_eq_true_eq] at hall
          exact (latest_max hb hy hpy).trans_lt hall
        constructor
        · intro h
          exact .inl ⟨(Option.some.inj h).symm, hp, hbelow⟩
        · rintro (⟨rfl, -, -⟩ | ⟨hnewest, hle⟩)
          · rfl
          · exact absurd (hbelow x hnewest.mem hnewest.1) (not_lt.mpr (hle hp))
      next hstep =>
        rw [ih]
        constructor
        · intro h
          refine .inr ⟨h, fun hp => ?_⟩
          rw [ih.mpr h] at hstep
          simpa [hp] using hstep
        · rintro (⟨rfl, hp, hbelow⟩ | ⟨hnewest, -⟩)
          · apply absurd _ hstep
            rw [hp, Bool.true_and, Option.all_eq_true]
            intro b hb
            obtain ⟨hmem, hpb⟩ := latest_mem hb
            simpa using hbelow b hmem hpb
          · exact hnewest

end

/-! ### The conditions of the direct path -/

/-- The conditions of the direct path, in terms of what the evidence lists. -/
structure DirectConditions (req : PathRequest) (ev : PathEvidence) : Prop where
  source : ev.source.id ≠ 0 ∧ ev.source.lifecycle = .active
  size : req.size ≤ ev.source.size
  destination : ev.destination.id ≠ 0 ∧ ev.destination.endpointClass ≠ .unknown ∧
    ev.destination.support ≠ .unsupported ∧ ev.destination.healthy = true
  destinationCurrent : ∀ e, Newest (fun e => e.id = ev.destination.id) EndpointRecord.generation
    ev.endpoints e → e.generation = ev.destination.generation
  domain : ev.source.domain = .cudaDevice ∨ ev.source.domain = .cudaManaged ∨
    ev.source.domain = .registeredGpuMemory
  device : ev.device.id ≠ 0
  deviceCurrent : ∀ d, Newest (fun d => d.id = ev.device.id) DeviceRecord.generation
    ev.devices d → d.generation = ev.device.generation
  provider : ∃ v ∈ ev.providers, v.name = providerFor ev.destination.endpointClass ∧
    v.available = true ∧ v.support ≠ .unsupported
  capability : ∃ c, First (fun c => c.provider = providerFor ev.destination.endpointClass ∧
      c.capability = capFor ev.destination.endpointClass) ev.capabilities c ∧
    c.value = "true" ∧ c.support ≠ .unsupported
  registration : ∃ r, Newest (fun r => r.buffer = ev.source.id ∧ r.endpoint = ev.destination.id)
      Registration.generation ev.registrations r ∧
    r.state = .registered ∧ r.bufferGeneration = ev.source.generation ∧
    r.endpointGeneration = ev.destination.generation ∧ r.authority.epoch = ev.epoch ∧
    (r.authority.worker ≠ 0 → (r.authority.worker, r.authority.boot) ∈ ev.liveWorkers)
  alignment : 64 ≤ ev.source.alignment ∧ ev.source.alignment ∣ req.size

theorem valid_iff {id : ℕ} :
  valid id = true ↔ id ≠ 0
  := by simp [valid]

theorem isGpuMemory_iff {d : MemoryDomain} :
  isGpuMemory d = true ↔ d = .cudaDevice ∨ d = .cudaManaged ∨ d = .registeredGpuMemory
  := by
  rw [isGpuMemory, Bool.or_eq_true, Bool.or_eq_true, or_assoc]
  simp

theorem latestEndpoint_eq_some_iff {ev : PathEvidence} {id : EndpointId} {e : EndpointRecord} :
  latestEndpoint ev id = some e ↔
    Newest (fun e => e.id = id) EndpointRecord.generation ev.endpoints e
  := by simp [latestEndpoint, latest_eq_some_iff]

theorem latestDevice_eq_some_iff {ev : PathEvidence} {id : DeviceId} {d : DeviceRecord} :
  latestDevice ev id = some d ↔
    Newest (fun d => d.id = id) DeviceRecord.generation ev.devices d
  := by simp [latestDevice, latest_eq_some_iff]

theorem findRegistration_eq_some_iff {ev : PathEvidence} {buffer : BufferId}
    {endpoint : EndpointId} {r : Registration} :
  findRegistration ev buffer endpoint = some r ↔
    Newest (fun r => r.buffer = buffer ∧ r.endpoint = endpoint) Registration.generation
      ev.registrations r
  := by simp [findRegistration, latest_eq_some_iff]

theorem capabilityFor_eq_some_iff {ev : PathEvidence} {provider capability : Str}
    {c : CapabilityObservation} :
  capabilityFor ev provider capability = some c ↔
    First (fun c => c.provider = provider ∧ c.capability = capability) ev.capabilities c
  := by simp [capabilityFor, ← first_iff_find?]

theorem authorityLive_iff {a : Authority} {ev : PathEvidence} :
  authorityLive a ev = true ↔
    a.epoch = ev.epoch ∧ (a.worker ≠ 0 → (a.worker, a.boot) ∈ ev.liveWorkers)
  := by
  rw [authorityLive, Authority.workerOwned, valid]
  split
  next hepoch =>
    constructor
    · rintro ⟨⟩
    · rintro ⟨h, -⟩
      simp [h] at hepoch
  next hepoch =>
    have hepoch : a.epoch = ev.epoch := by simpa using hepoch
    split
    next hworker =>
      have hworker : a.worker = 0 := by simpa using hworker
      simp [hepoch, hworker]
    next hworker =>
      have hworker : a.worker ≠ 0 := by simpa using hworker
      rw [List.any_eq_true]
      constructor
      · rintro ⟨w, hw, hmatch⟩
        obtain ⟨hworker, hboot⟩ : w.1 = a.worker ∧ w.2 = a.boot := by simpa using hmatch
        rw [← hworker, ← hboot]
        exact ⟨hepoch, fun _ => hw⟩
      · rintro ⟨-, h⟩
        exact ⟨_, h hworker, by simp⟩

/-- What the checks require are the conditions of the direct path. -/
theorem directRequirements_iff (req : PathRequest) (ev : PathEvidence) :
  DirectRequirements req ev ↔ DirectConditions req ev
  := by
  constructor
  · intro h
    constructor
    · exact ⟨valid_iff.mp h.source.1, h.source.2⟩
    · exact h.size
    · exact ⟨valid_iff.mp h.destination.1, h.destination.2, h.supported, h.healthy⟩
    · intro e he
      exact h.generation e (latestEndpoint_eq_some_iff.mpr he)
    · exact isGpuMemory_iff.mp h.domain
    · exact valid_iff.mp h.device.1
    · intro d hd
      exact h.device.2 d (latestDevice_eq_some_iff.mpr hd)
    · exact providerAvailable_iff.mp h.provider
    · obtain ⟨c, hc, hcap⟩ := h.capability
      exact ⟨c, capabilityFor_eq_some_iff.mp hc, hcap⟩
    · obtain ⟨r, hr, hstate, hbuffer, hendpoint, hlive⟩ := h.registration
      exact ⟨r, findRegistration_eq_some_iff.mp hr, hstate, hbuffer, hendpoint,
        authorityLive_iff.mp hlive⟩
    · exact ⟨h.alignment.1, Nat.dvd_of_mod_eq_zero h.alignment.2⟩
  · intro h
    constructor
    · exact ⟨valid_iff.mpr h.source.1, h.source.2⟩
    · exact h.size
    · exact ⟨valid_iff.mpr h.destination.1, h.destination.2.1⟩
    · exact h.destination.2.2.1
    · exact h.destination.2.2.2
    · intro e he
      exact h.destinationCurrent e (latestEndpoint_eq_some_iff.mp he)
    · exact isGpuMemory_iff.mpr h.domain
    · use valid_iff.mpr h.device
      intro d hd
      exact h.deviceCurrent d (latestDevice_eq_some_iff.mp hd)
    · exact providerAvailable_iff.mpr h.provider
    · obtain ⟨c, hc, hcap⟩ := h.capability
      exact ⟨c, capabilityFor_eq_some_iff.mpr hc, hcap⟩
    · obtain ⟨r, hr, hstate, hbuffer, hendpoint, hlive⟩ := h.registration
      exact ⟨r, findRegistration_eq_some_iff.mpr hr, hstate, hbuffer, hendpoint,
        authorityLive_iff.mpr hlive⟩
    · exact ⟨h.alignment.1, Nat.mod_eq_zero_of_dvd h.alignment.2⟩

theorem isDirect_iff {e : PathEligibility} :
  e.isDirect = true ↔ e = .directAllowed ∨ e = .directAllowedDegraded
  := by simp [PathEligibility.isDirect]

/-- The decision reports the direct outcome of the checks, whatever the policy makes of it. -/
theorem outcome_directEligibility (req : PathRequest) (ev : PathEvidence) (e : Evaluation) :
  (outcome req ev e).directEligibility = e.direct
  := by
  rw [outcome]
  split
  · rfl
  · dsimp only
    split
    · rfl
    · split
      · rfl
      · rfl

theorem evaluate_directEligibility (req : PathRequest) (ev : PathEvidence) :
  (evaluate req ev).directEligibility = (checkDirect req ev).direct
  := by
  rw [evaluate]
  generalize checkDirect req ev = e
  exact outcome_directEligibility req ev e

/-- The direct path is allowed exactly under its conditions, for every request and all
evidence. -/
theorem direct_allowed_iff (req : PathRequest) (ev : PathEvidence) :
  (evaluate req ev).directEligibility = .directAllowed ∨
      (evaluate req ev).directEligibility = .directAllowedDegraded ↔
    DirectConditions req ev
  := by
  rw [← isDirect_iff, evaluate_directEligibility, checkDirect_isDirect, directRequirements_iff]

/-! ### The policy -/

/-- The decisions agree on the direct path. -/
structure SameVerdict (d d' : PathDecision) : Prop where
  directEligibility : d.directEligibility = d'.directEligibility
  directClass : d.directClass = d'.directClass
  violations : d.violations = d'.violations
  directCandidates : d.directCandidates = d'.directCandidates
  support : d.support = d'.support
  provenance : d.provenance = d'.provenance
  directRejection : d.directRejection = d'.directRejection

theorem SameVerdict.symm {d d' : PathDecision} (h : SameVerdict d d') :
  SameVerdict d' d
  := ⟨h.1.symm, h.2.symm, h.3.symm, h.4.symm, h.5.symm, h.6.symm, h.7.symm⟩

theorem SameVerdict.trans {d d' d'' : PathDecision} (h : SameVerdict d d')
    (h' : SameVerdict d' d'') :
  SameVerdict d d''
  := ⟨h.1.trans h'.1, h.2.trans h'.2, h.3.trans h'.3, h.4.trans h'.4, h.5.trans h'.5,
    h.6.trans h'.6, h.7.trans h'.7⟩

/-- The decision a direct outcome leads to before the policy is asked. -/
def verdict (e : Evaluation) : PathDecision :=
  let d := { e.decision with directEligibility := e.direct }
  if e.direct.isDirect then
    { d with directCandidates := d.directCandidates ++ [
      { pathClass := d.directClass
        direct := true
        stageCount := 1
        support := d.support
        provenance := d.provenance
        description := "direct " ++ d.directClass.toString ++ " (" ++
          CEnum.toString d.support ++ ")" }] }
  else d

theorem outcome_verdict (req : PathRequest) (ev : PathEvidence) (e : Evaluation) :
  SameVerdict (outcome req ev e) (verdict e)
  := by
  rw [outcome, verdict]
  split
  · constructor <;> rfl
  · dsimp only
    split
    · constructor <;> rfl
    · split
      · constructor <;> rfl
      · constructor <;> rfl

/-- The checks do not look at the policy. -/
theorem checkDirect_policy (req : PathRequest) (ev : PathEvidence) (policy : PathPolicy) :
  checkDirect { req with policy := policy } ev = checkDirect req ev
  := rfl

theorem evaluate_verdict (req : PathRequest) (ev : PathEvidence) :
  SameVerdict (evaluate req ev) (verdict (checkDirect req ev))
  := by
  rw [evaluate]
  generalize checkDirect req ev = e
  have h := outcome_verdict req ev e
  exact ⟨h.1, h.2, h.3, h.4, h.5, h.6, h.7⟩

/-! ### What the checks report -/

/-- The direct outcome refuses the direct path. -/
def Refused (direct : PathEligibility) : Prop :=
  direct ≠ .unsupported ∧ direct ≠ .fallbackRequired ∧ direct.isDirect = false

instance (direct : PathEligibility) : Decidable (Refused direct) :=
  inferInstanceAs (Decidable (_ ∧ _))

/-- The parts of a decision that the checks leave alone. -/
def Untouched (d d' : PathDecision) : Prop :=
  d'.sourceGeneration = d.sourceGeneration ∧
    d'.destinationGeneration = d.destinationGeneration ∧
    d'.directCandidates = d.directCandidates ∧ d'.fallbackAvailable = d.fallbackAvailable ∧
    d'.fallbackCandidates = d.fallbackCandidates ∧ d'.selectedFallback = d.selectedFallback

/-- What a check does: it reports one requirement, and refuses the direct path exactly when the
requirement is not satisfied. -/
structure Reports (e e' : Evaluation) : Prop where
  entry : ∃ v, e'.decision.violations = e.decision.violations ++ [v] ∧
    (v.satisfied = true ∧ (e'.direct = e.direct ∨ e'.direct.isDirect = true) ∨
      v.satisfied = false ∧ Refused e'.direct)
  untouched : Untouched e.decision e'.decision

section

variable {e e' : Evaluation} {req detail : Str}

theorem reports_satisfied :
  Reports e (e.satisfied req detail)
  where
  entry := ⟨_, rfl, .inl ⟨rfl, .inl rfl⟩⟩
  untouched := ⟨rfl, rfl, rfl, rfl, rfl, rfl⟩

theorem reports_violated {direct : PathEligibility} (hdirect : Refused direct) :
  Reports e (e.violated req detail direct)
  where
  entry := ⟨_, rfl, .inr ⟨rfl, hdirect⟩⟩
  untouched := ⟨rfl, rfl, rfl, rfl, rfl, rfl⟩

theorem Reports.withSupport (h : Reports e e') {s : Support} :
  Reports e (e'.withSupport s)
  := ⟨h.entry, h.untouched⟩

theorem Reports.withProvenance (h : Reports e e') {p : Provenance} :
  Reports e (e'.withProvenance p)
  := ⟨h.entry, h.untouched⟩

theorem Reports.withRejection (h : Reports e e') {r : Str} :
  Reports e (e'.withRejection r)
  := ⟨h.entry, h.untouched⟩

end

/-- The checks after the first. -/
def laterChecks (req : PathRequest) (ev : PathEvidence) : List (Evaluation → Evaluation) :=
  [checkSize req ev, checkDestination ev, checkDestinationSupported ev,
    checkDestinationHealthy ev, checkDestinationGeneration ev, checkSourceDomain ev,
    checkDevice ev, checkProvider ev, checkCapability ev, checkRegistration ev,
    checkAlignment req ev]

theorem checkSource_reports (ev : PathEvidence) (e : Evaluation) :
  Reports e (checkSource ev e)
  := by
  rw [checkSource]
  split
  · exact reports_violated (by decide)
  · split
    · exact reports_violated (by decide)
    · exact reports_satisfied

theorem laterChecks_reports {req : PathRequest} {ev : PathEvidence}
    {check : Evaluation → Evaluation} (hcheck : check ∈ laterChecks req ev) (e : Evaluation) :
  Reports e (check e)
  := by
  simp only [laterChecks, List.mem_cons, List.not_mem_nil, or_false] at hcheck
  obtain rfl | rfl | rfl | rfl | rfl | rfl | rfl | rfl | rfl | rfl | rfl := hcheck
  · rw [checkSize]
    split
    · exact reports_violated (by decide)
    · exact reports_satisfied
  · rw [checkDestination]
    split
    · exact reports_violated (by decide)
    · exact reports_satisfied.withProvenance
  · rw [checkDestinationSupported]
    split
    · exact (reports_violated (by decide)).withSupport.withRejection
    · exact reports_satisfied
  · rw [checkDestinationHealthy]
    split
    · exact (reports_violated (by decide)).withRejection
    · exact reports_satisfied
  · rw [checkDestinationGeneration]
    split
    · exact (reports_violated (by decide)).withRejection
    · exact reports_satisfied
  · rw [checkSourceDomain]
    split
    · exact (reports_violated (by decide)).withRejection
    · split
      · exact (reports_violated (by decide)).withRejection
      · exact reports_satisfied.withSupport
  · rw [checkDevice]
    split
    · exact reports_violated (by decide)
    · split
      · exact (reports_violated (by decide)).withRejection
      · exact reports_satisfied
  · rw [checkProvider]
    split
    · exact (reports_violated (by decide)).withSupport.withRejection
    · exact reports_satisfied
  · rw [checkCapability]
    split
    · exact (reports_violated (by decide)).withSupport.withRejection
    · split
      · exact (reports_violated (by decide)).withSupport.withRejection
      · exact reports_satisfied.withSupport.withProvenance
  · rw [checkRegistration]
    split
    · exact (reports_violated (by decide)).withRejection
    · split
      · exact (reports_violated (by decide)).withRejection
      · split
        · exact (reports_violated (by decide)).withRejection
        · split
          · exact (reports_violated (by decide)).withRejection
          · exact reports_satisfied.withSupport.withProvenance
  · rw [checkAlignment]
    split
    · exact (reports_violated (by decide)).withRejection
    · have h : Reports e (e.satisfied "alignment" "alignment supported") := reports_satisfied
      refine ⟨⟨_, rfl, .inl ⟨rfl, .inr ?_⟩⟩, h.untouched⟩
      split
      · rfl
      · rfl

/-- The evaluation before the first check. -/
def opening (req : PathRequest) (ev : PathEvidence) : Evaluation :=
  ⟨{ directClass := classifyDirect req ev
     sourceGeneration := ev.source.generation
     destinationGeneration := ev.destination.generation }, .unsupported⟩

/-- What holds before the checks and is kept by every report of an open evaluation holds after
them. -/
theorem checkDirect_induction {motive : Evaluation → Prop} {req : PathRequest} {ev : PathEvidence}
    (hopening : motive (opening req ev))
    (hreports : ∀ e e', motive e → e.direct = .unsupported → Reports e e' → motive e') :
  motive (checkDirect req ev)
  := by
  have heq : checkDirect req ev
      = (laterChecks req ev).foldl (fun e check => unlessSettled check e)
        (checkSource ev (opening req ev)) := by
    simp only [checkDirect, laterChecks, List.foldl_cons, List.foldl_nil, opening]
  rw [heq]
  apply List.foldlRecOn (motive := motive)
  · exact hreports _ _ hopening rfl (checkSource_reports ev _)
  · intro e h check hcheck
    rw [unlessSettled]
    split
    next hopen => exact hreports _ _ h hopen (laterChecks_reports hcheck e)
    next => exact h

/-- No fallback has been chosen or asked for. -/
def Unstaged (e : Evaluation) : Prop :=
  e.direct ≠ .fallbackRequired ∧ e.decision.fallbackAvailable = false ∧
    e.decision.fallbackCandidates = [] ∧ e.decision.selectedFallback = none

theorem Reports.unstaged {e e' : Evaluation} (h : Reports e e') (hunstaged : Unstaged e) :
  Unstaged e'
  := by
  obtain ⟨hdirect, havailable, hcandidates, hselected⟩ := hunstaged
  obtain ⟨-, -, -, havailable', hcandidates', hselected'⟩ := h.untouched
  refine ⟨?_, havailable'.trans havailable, hcandidates'.trans hcandidates,
    hselected'.trans hselected⟩
  obtain ⟨v, -, ⟨-, hkept | hgranted⟩ | ⟨-, hrefused⟩⟩ := h.entry
  · rw [hkept]
    exact hdirect
  · intro hstaged
    rw [hstaged] at hgranted
    cases hgranted
  · exact hrefused.2.1

/-- The checks leave the fallback alone. -/
theorem checkDirect_unstaged (req : PathRequest) (ev : PathEvidence) :
  Unstaged (checkDirect req ev)
  := by
  apply checkDirect_induction
  · exact ⟨by rintro ⟨⟩, rfl, rfl, rfl⟩
  · intro e e' h _ hreports
    exact hreports.unstaged h

/-- Staging through host memory would reach the destination. -/
structure StagingOpen (ev : PathEvidence) : Prop where
  destination : ev.destination.id ≠ 0 ∧ ev.destination.healthy = true ∧
    ev.destination.endpointClass ≠ .unknown
  staging : ∃ c ∈ ev.capabilities, c.capability = "host_staging" ∧ c.value = "true" ∧
    c.support ≠ .unsupported ∧ c.authority.epoch = ev.epoch

theorem stagingOpen_iff {ev : PathEvidence} :
  (valid ev.destination.id && ev.destination.healthy &&
      ev.destination.endpointClass != .unknown && hostStagingAvailable ev) = true ↔
    StagingOpen ev
  := by
  rw [Bool.and_eq_true, hostStagingAvailable, List.any_eq_true]
  constructor
  · rintro ⟨hdestination, c, hc, hmatch⟩
    refine ⟨by simpa [valid, and_assoc] using hdestination, c, hc, ?_⟩
    simpa [and_assoc] using hmatch
  · rintro ⟨hdestination, c, hc, hmatch⟩
    refine ⟨by simpa [valid, and_assoc] using hdestination, c, hc, ?_⟩
    simpa [and_assoc] using hmatch

/-- A request for the direct path alone is never staged. -/
theorem outcome_directOnly {req : PathRequest} {e : Evaluation} (ev : PathEvidence)
    (hpolicy : req.policy = .directOnly) (he : Unstaged e) :
  (outcome req ev e).eligibility = e.direct ∧ (outcome req ev e).fallbackAvailable = false ∧
    (outcome req ev e).fallbackCandidates = [] ∧ (outcome req ev e).selectedFallback = none
  := by
  rw [outcome]
  split
  · exact ⟨rfl, he.2⟩
  · exact ⟨rfl, he.2⟩

/-- Any other request is staged exactly when the direct path is not allowed and staging would
reach the destination. -/
theorem outcome_staged {req : PathRequest} {ev : PathEvidence} {e : Evaluation}
    (hpolicy : req.policy ≠ .directOnly) (he : Unstaged e) :
  ((outcome req ev e).eligibility = .fallbackRequired ↔
      e.direct.isDirect = false ∧ StagingOpen ev) ∧
    ((outcome req ev e).eligibility = .fallbackRequired →
      ∃ c, (outcome req ev e).fallbackCandidates = [c] ∧
        (outcome req ev e).selectedFallback = some c)
  := by
  rw [outcome, ← stagingOpen_iff]
  split
  next hdirect =>
    constructor
    · constructor
      · intro h
        exact absurd h he.1
      · rintro ⟨h, -⟩
        rw [hdirect] at h
        cases h
    · intro h
      exact absurd h he.1
  next hdirect =>
    have hdirect : e.direct.isDirect = false := by simpa using hdirect
    dsimp only
    split
    next hopen =>
      constructor
      · exact ⟨fun _ => ⟨hdirect, hopen⟩, fun _ => rfl⟩
      · intro
        rw [addFallbackCandidates]
        dsimp only
        rw [he.2.2.1]
        exact ⟨_, rfl, rfl⟩
    next hopen =>
      constructor
      · constructor
        · intro h
          exact absurd h he.1
        · rintro ⟨-, h⟩
          exact absurd h hopen
      · intro h
        exact absurd h he.1

/-! ### Classifications -/

/-- A registration that meets its requirement gives the evaluation its support. -/
theorem checkRegistration_support {ev : PathEvidence} {e : Evaluation} {reg : Registration}
    (hreg : findRegistration ev ev.source.id ev.destination.id = some reg)
    (hstate : reg.state = .registered) (hbuffer : reg.bufferGeneration = ev.source.generation)
    (hendpoint : reg.endpointGeneration = ev.destination.generation)
    (hlive : authorityLive reg.authority ev = true) :
  (checkRegistration ev e).direct = e.direct ∧
    (checkRegistration ev e).decision.support = reg.support
  := by
  rw [checkRegistration, hreg]
  simp only [hstate, hbuffer, hendpoint, hlive, bne_self_eq_false, Bool.or_self,
    Bool.not_true, Bool.false_eq_true, if_false]
  exact ⟨rfl, rfl⟩

/-- The direct path is granted with the support of the registration, whatever the supports of the
other evidence. -/
theorem checkDirect_support {req : PathRequest} {ev : PathEvidence}
    (h : DirectRequirements req ev) :
  ∃ reg, findRegistration ev ev.source.id ev.destination.id = some reg ∧
    (checkDirect req ev).decision.support = reg.support ∧
    (checkDirect req ev).direct
      = if reg.support = .real then .directAllowed else .directAllowedDegraded
  := by
  obtain ⟨P, e, hchecked, heq, hrequirements⟩ := checkDirect_eq req ev
  obtain ⟨⟨hP, reg, hreg, hstate, hbuffer, hendpoint, hlive⟩, hle, hmod⟩ := hrequirements.mp h
  have hopen : e.direct = .unsupported := by
    obtain ⟨-, hopen⟩ | ⟨hnot, -⟩ := hchecked
    · exact hopen
    · exact absurd hP hnot
  obtain ⟨hdirect, hsupport⟩ :=
    checkRegistration_support (e := e) hreg hstate hbuffer hendpoint hlive
  have halign : ¬(ev.source.alignment < 64 || req.size % ev.source.alignment != 0) = true := by
    simp [hmod, hle]
  refine ⟨reg, hreg, ?_⟩
  rw [heq, unlessSettled, unlessSettled, if_pos hopen, if_pos (hdirect.trans hopen), checkAlignment,
    if_neg halign]
  constructor
  · exact hsupport
  · dsimp only
    rw [hsupport]

/-- The decision on a direct path, which is the outcome of the checks. -/
theorem evaluate_of_direct {req : PathRequest} {ev : PathEvidence}
    (h : (checkDirect req ev).direct.isDirect = true) :
  (evaluate req ev).eligibility = (checkDirect req ev).direct ∧
    (evaluate req ev).support = (checkDirect req ev).decision.support
  := by
  rw [evaluate]
  generalize checkDirect req ev = e at h
  rw [outcome, if_pos h]
  exact ⟨rfl, rfl⟩

/-- A decision that meets the requirements takes eligibility and support from the registration. -/
theorem evaluate_of_requirements {req : PathRequest} {ev : PathEvidence}
    (h : DirectRequirements req ev) :
  ∃ reg, findRegistration ev ev.source.id ev.destination.id = some reg ∧
    (evaluate req ev).support = reg.support ∧
    (evaluate req ev).eligibility
      = if reg.support = .real then .directAllowed else .directAllowedDegraded
  := by
  obtain ⟨reg, hreg, hsupport, hdirect⟩ := checkDirect_support h
  obtain ⟨heligibility, hsupport'⟩ := evaluate_of_direct ((checkDirect_isDirect req ev).mpr h)
  exact ⟨reg, hreg, hsupport'.trans hsupport, heligibility.trans hdirect⟩

/-- The registration found is classified real. -/
def RealRegistration (ev : PathEvidence) : Prop :=
  ∃ r, Newest (fun r => r.buffer = ev.source.id ∧ r.endpoint = ev.destination.id)
    Registration.generation ev.registrations r ∧ r.support = .real

theorem realRegistration_iff {ev : PathEvidence} {reg : Registration}
    (hreg : findRegistration ev ev.source.id ev.destination.id = some reg) :
  RealRegistration ev ↔ reg.support = .real
  := by
  constructor
  · rintro ⟨r, hr, hreal⟩
    obtain rfl := Option.some.inj (hreg.symm.trans (findRegistration_eq_some_iff.mpr hr))
    exact hreal
  · intro hreal
    exact ⟨reg, findRegistration_eq_some_iff.mp hreg, hreal⟩

/-- What the final eligibility stands for: a direct path on a real registration, one on another
registration, or staging. -/
theorem evaluate_eligibility_iff (req : PathRequest) (ev : PathEvidence) :
  ((evaluate req ev).eligibility = .directAllowed ↔
      DirectConditions req ev ∧ RealRegistration ev) ∧
    ((evaluate req ev).eligibility = .directAllowedDegraded ↔
      DirectConditions req ev ∧ ¬RealRegistration ev) ∧
    ((evaluate req ev).eligibility = .fallbackRequired ↔
      req.policy ≠ .directOnly ∧ ¬DirectConditions req ev ∧ StagingOpen ev)
  := by
  have hdirect := evaluate_isDirect req ev
  rw [directRequirements_iff] at hdirect
  by_cases h : DirectConditions req ev
  · obtain ⟨reg, hreg, -, heligibility⟩ :=
      evaluate_of_requirements ((directRequirements_iff req ev).mpr h)
    rw [heligibility, realRegistration_iff hreg]
    split
    next hreal => simp [h, hreal]
    next hreal => simp [h, hreal]
  · have hnot : (evaluate req ev).eligibility.isDirect = false := by
      rw [Bool.eq_false_iff]
      exact fun hd => h (hdirect.mp hd)
    refine ⟨?_, ?_, ?_⟩
    · constructor
      · intro heq
        rw [heq] at hnot
        cases hnot
      · rintro ⟨h', -⟩
        exact absurd h' h
    · constructor
      · intro heq
        rw [heq] at hnot
        cases hnot
      · rintro ⟨h', -⟩
        exact absurd h' h
    · have hunstaged := checkDirect_unstaged req ev
      have hclosed : (checkDirect req ev).direct.isDirect = false := by
        rw [Bool.eq_false_iff]
        intro hd
        rw [checkDirect_isDirect, directRequirements_iff] at hd
        exact h hd
      rw [evaluate]
      generalize checkDirect req ev = e at hunstaged hclosed
      by_cases hpolicy : req.policy = .directOnly
      · have hsame := (outcome_directOnly ev hpolicy hunstaged).1
        constructor
        · intro heq
          exact absurd (hsame.symm.trans heq) hunstaged.1
        · rintro ⟨h', -⟩
          exact absurd hpolicy h'
      · refine (outcome_staged hpolicy hunstaged).1.trans ?_
        simp [hclosed, hpolicy, h]

/-- The supports of the evidence the direct verdict is based on. -/
def directSupports (ev : PathEvidence) : List Support :=
  [ev.destination.support, ev.source.support, ev.device.support] ++
    ((capabilityFor ev (providerFor ev.destination.endpointClass)
      (capFor ev.destination.endpointClass)).map CapabilityObservation.support).toList ++
    ((findRegistration ev ev.source.id ev.destination.id).map Registration.support).toList

/-- The direct path is allowed as real on real evidence only, and degraded on known and supported
evidence only. -/
structure Classified (req : PathRequest) (ev : PathEvidence) : Prop where
  real : (evaluate req ev).eligibility = .directAllowed → (evaluate req ev).support = .real →
    ∀ s ∈ directSupports ev, s = .real
  known : (evaluate req ev).eligibility = .directAllowedDegraded →
    ∀ s ∈ directSupports ev, s ≠ .unknown ∧ s ≠ .unsupported

/-- Where the requirements are met, the endpoint, the buffer, its device and the direct capability
are real if the registration found is, and otherwise they and the registration are known and
supported. -/
def NoWorseThanRegistration (req : PathRequest) (ev : PathEvidence) : Prop :=
  DirectRequirements req ev → ∀ reg cap,
    findRegistration ev ev.source.id ev.destination.id = some reg →
    capabilityFor ev (providerFor ev.destination.endpointClass)
      (capFor ev.destination.endpointClass) = some cap →
    if reg.support = .real then
      ev.destination.support = .real ∧ ev.source.support = .real ∧ ev.device.support = .real ∧
        cap.support = .real
    else
      ev.destination.support ≠ .unknown ∧
        (ev.source.support ≠ .unknown ∧ ev.source.support ≠ .unsupported) ∧
        (ev.device.support ≠ .unknown ∧ ev.device.support ≠ .unsupported) ∧
        cap.support ≠ .unknown ∧ (reg.support ≠ .unknown ∧ reg.support ≠ .unsupported)

theorem directSupports_eq {ev : PathEvidence} {cap : CapabilityObservation} {reg : Registration}
    (hcap : capabilityFor ev (providerFor ev.destination.endpointClass)
      (capFor ev.destination.endpointClass) = some cap)
    (hreg : findRegistration ev ev.source.id ev.destination.id = some reg) :
  directSupports ev = [ev.destination.support, ev.source.support, ev.device.support, cap.support,
    reg.support]
  := by
  rw [directSupports, hcap, hreg]
  rfl

/-- The classification of a direct decision is right exactly when the rest of its evidence is no
worse than the registration, the last piece that is looked at. -/
theorem classified_iff (req : PathRequest) (ev : PathEvidence) :
  Classified req ev ↔ NoWorseThanRegistration req ev
  := by
  constructor
  · intro h hreq reg cap hreg hcap
    obtain ⟨reg', hreg', hsupport, heligibility⟩ := evaluate_of_requirements hreq
    obtain rfl := Option.some.inj (hreg.symm.trans hreg')
    split
    next hreal =>
      rw [if_pos hreal] at heligibility
      have hall := h.real heligibility (hsupport.trans hreal)
      rw [directSupports_eq hcap hreg] at hall
      simp only [List.forall_mem_cons] at hall
      obtain ⟨hdestination, hsource, hdevice, hcapability, -⟩ := hall
      exact ⟨hdestination, hsource, hdevice, hcapability⟩
    next hreal =>
      rw [if_neg hreal] at heligibility
      have hall := h.known heligibility
      rw [directSupports_eq hcap hreg] at hall
      simp only [List.forall_mem_cons] at hall
      obtain ⟨hdestination, hsource, hdevice, hcapability, hregistration, -⟩ := hall
      exact ⟨hdestination.1, hsource, hdevice, hcapability.1, hregistration⟩
  · intro h
    have hrequirements : (evaluate req ev).eligibility.isDirect = true →
        ∃ reg cap, DirectRequirements req ev ∧
          findRegistration ev ev.source.id ev.destination.id = some reg ∧
          capabilityFor ev (providerFor ev.destination.endpointClass)
            (capFor ev.destination.endpointClass) = some cap ∧ cap.support ≠ .unsupported ∧
          (evaluate req ev).eligibility
            = if reg.support = .real then .directAllowed else .directAllowedDegraded := by
      intro hdirect
      have hreq := (evaluate_isDirect req ev).mp hdirect
      obtain ⟨reg, hreg, -, heligibility⟩ := evaluate_of_requirements hreq
      obtain ⟨cap, hcap, -, hsupported⟩ := hreq.capability
      exact ⟨reg, cap, hreq, hreg, hcap, hsupported, heligibility⟩
    constructor
    · intro hallowed
      obtain ⟨reg, cap, hreq, hreg, hcap, -, heligibility⟩ :=
        hrequirements (isDirect_iff.mpr (.inl hallowed))
      have hgood := h hreq reg cap hreg hcap
      intro
      rw [directSupports_eq hcap hreg]
      split at hgood
      next hreal =>
        obtain ⟨hdestination, hsource, hdevice, hcapability⟩ := hgood
        simp [hdestination, hsource, hdevice, hcapability, hreal]
      next hreal =>
        rw [if_neg hreal, hallowed] at heligibility
        cases heligibility
    · intro hdegraded
      obtain ⟨reg, cap, hreq, hreg, hcap, hsupported, heligibility⟩ :=
        hrequirements (isDirect_iff.mpr (.inr hdegraded))
      have hgood := h hreq reg cap hreg hcap
      rw [directSupports_eq hcap hreg]
      split at hgood
      next hreal =>
        rw [if_pos hreal, hdegraded] at heligibility
        cases heligibility
      next hreal =>
        obtain ⟨hdestination, hsource, hdevice, hcapability, hregistration⟩ := hgood
        simp only [List.forall_mem_cons]
        refine ⟨⟨hdestination, hreq.supported⟩, hsource, hdevice, ⟨hcapability, hsupported⟩,
          hregistration, ?_⟩
        rintro _ ⟨⟩

namespace Fixture

/-- Evidence for a direct path, in which only the registration is classified: it is real. -/
def unclassified : PathEvidence :=
  { source :=
      { id := 6, generation := 1, domain := .cudaDevice, size := 4096, alignment := 64,
        device := 3 }
    destination := { id := 4, generation := 1, endpointClass := .nic, healthy := true }
    device := { id := 3, generation := 1 }
    registrations :=
      [{ id := 7, generation := 1, buffer := 6, bufferGeneration := 1, endpoint := 4,
         endpointGeneration := 1, authority := { epoch := 1 }, state := .registered,
         support := .real }]
    capabilities := [{ id := 5, provider := "rdma", capability := "direct_nic", value := "true" }]
    providers := [{ id := 2, name := "rdma", available := true }]
    epoch := 1 }

/-- A request for the direct path of `unclassified`. -/
def unclassifiedRequest : PathRequest := { source := 6, destination := 4, size := 4096 }

end Fixture

/-- A real registration makes unknown evidence a real direct path. -/
theorem not_classified :
  ¬∀ req ev, Classified req ev
  := by
  intro h
  have hreal := (h Fixture.unclassifiedRequest Fixture.unclassified).real (by decide +kernel)
    (by decide +kernel)
  exact absurd (hreal .unknown (by decide +kernel)) (by decide)

end PathPlanner

end GpuDirectFabric

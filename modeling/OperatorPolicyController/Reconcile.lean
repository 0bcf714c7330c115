import OperatorPolicyController.Health

/-!
# The pipeline and the reconcile entry point

`handleResources` builds the desired objects and runs the stages in dependency order, each on
the previous one's output. It stops at the first stage that returns an error, keeping the early
compliance events collected so far and whether any stage changed the status.

`reconcile` is `Reconcile`: it fetches the policy, brackets the pipeline with the query batch
of the dependency watcher, saves the status when it changed, and emits the early compliance
events followed by the final one. The errors it collects are returned together. The deferred
`EndQueryBatch` runs last, after the events.
-/

namespace OperatorPolicyController

open Reconciler

/-- `handleResources`: the early compliance events, whether the status changed, and an error. -/
def handleResources (defaultNS : String) (policy : OperatorPolicy) :
    Reconciler (List Condition × Bool × Option String) := do
  let (desiredSub, desiredOG, changed, err) ← buildResources defaultNS policy
  if let some err := err then return ([], changed, some err)
  let (earlyConds, ogChanged, err) ← handleOpGroup policy desiredOG
  let condChanged := changed || ogChanged
  if let some err := err then return (earlyConds, condChanged, some err)
  let (subscription, subEarlyConds, subChanged, err) ← handleSubscription policy desiredSub
  let earlyConds := earlyConds ++ subEarlyConds
  let condChanged := condChanged || subChanged
  if let some err := err then return (earlyConds, condChanged, some err)
  let (ipChanged, err) ← handleInstallPlan policy subscription
  let condChanged := condChanged || ipChanged
  if let some err := err then return (earlyConds, condChanged, some err)
  let (csv, csvChanged, err) ← handleCSV subscription
  let condChanged := condChanged || csvChanged
  if let some err := err then return (earlyConds, condChanged, some err)
  let (depChanged, err) ← handleDeployment csv
  let condChanged := condChanged || depChanged
  if let some err := err then return (earlyConds, condChanged, some err)
  let (catChanged, err) ← handleCatalogSource subscription
  let condChanged := condChanged || catChanged
  if let some err := err then return (earlyConds, condChanged, some err)
  return (earlyConds, condChanged, none)

/-- The loop that emits the compliance events, collecting the errors. -/
def emitComplianceEvents : List Condition → Reconciler (List String)
  | [] => pure []
  | cond :: conds => do
    let res ← emitComplianceEvent cond
    let errs ← emitComplianceEvents conds
    return (match res with
      | .error err => [err.message]
      | .ok () => []) ++ errs

/-- The part of `Reconcile` after the policy was fetched: the errors of the run. -/
def reconcilePolicy (defaultNS : String) (policy : OperatorPolicy) : Reconciler (List String) := do
  match ← startQueryBatch with
  | .error err => return [err.message]
  | .ok () =>
    let (conditionsToEmit, conditionChanged, err) ← handleResources defaultNS policy
    let errs := err.toList
    let (conditionsToEmit, errs) ← if conditionChanged then do
        let final ← complianceCondition
        match ← statusUpdate with
        | .error e => pure (conditionsToEmit ++ [final], errs ++ [e.message])
        | .ok () => pure (conditionsToEmit ++ [final], errs)
      else pure (conditionsToEmit, errs)
    let emitErrs ← emitComplianceEvents conditionsToEmit
    let _ ← endQueryBatch
    return errs ++ emitErrs

/-- `Reconcile`: the errors of the run. A policy that is gone has its watcher removed, and a
failure to remove it is ignored. -/
def reconcile (defaultNS : String) : Reconciler (List String) := do
  match ← getPolicy with
  | .error err =>
    if err.reason = .notFound then
      let _ ← removeWatcher
      return []
    else return [err.message]
  | .ok policy => reconcilePolicy defaultNS policy

/-! ## The pipeline contract -/

/-- **The pipeline.** The stages' contracts compose: in inform mode `handleResources` writes
nothing, it reports every status change, and its early events are announced in order, at most
one by the OperatorGroup stage and then at most one by the Subscription stage, each right after
its status change and before its write that succeeded. -/
theorem handleResources_run (defaultNS : String) (policy : OperatorPolicy) :
    (handleResources defaultNS policy).wp fun es res ↦
      StageRun policy.spec.remediationAction.isInform [condType "OperatorGroup", condType "Subscription"]
        es res.1 res.2.1 := by
  have hog : [condType "OperatorGroup"].Sublist [condType "OperatorGroup", condType "Subscription"] :=
    List.singleton_sublist.2 (List.mem_cons_self _ _)
  simp only [handleResources, wp_bind]
  refine wp_mono (buildResources_run policy.spec.remediationAction.isInform defaultNS policy) ?_
  rintro es₁ ⟨desiredSub, desiredOG, changed, _ | err⟩ h
  swap
  · simpa using h.mono_dims (List.nil_sublist _)
  simp only [wp_bind, wp_pure]
  refine wp_mono (handleOpGroup_run policy desiredOG) ?_
  rintro es₂ ⟨early₂, changed₂, _ | err⟩ h₂ <;> replace h := h.append h₂
  swap
  · simpa using h.mono_dims hog
  simp only [wp_bind, wp_pure]
  refine wp_mono (handleSubscription_run policy desiredSub) ?_
  rintro es₃ ⟨sub, early₃, changed₃, _ | err⟩ h₃ <;> replace h := h.append h₃
  swap
  · simpa using h
  simp only [wp_bind, wp_pure]
  refine wp_mono (handleInstallPlan_run policy sub) ?_
  rintro es₄ ⟨changed₄, _ | err⟩ h₄ <;> replace h := h.append h₄
  swap
  · simpa using h
  simp only [wp_bind, wp_pure]
  refine wp_mono (handleCSV_run policy.spec.remediationAction.isInform sub) ?_
  rintro es₅ ⟨csv, changed₅, _ | err⟩ h₅ <;> replace h := h.append h₅
  swap
  · simpa using h
  simp only [wp_bind, wp_pure]
  refine wp_mono (handleDeployment_run policy.spec.remediationAction.isInform csv) ?_
  rintro es₆ ⟨changed₆, _ | err⟩ h₆ <;> replace h := h.append h₆
  swap
  · simpa using h
  simp only [wp_bind, wp_pure]
  refine wp_mono (handleCatalogSource_run policy.spec.remediationAction.isInform sub) ?_
  rintro es₇ ⟨changed₇, _ | err⟩ h₇ <;> simpa using h.append h₇

/-- The dimensions that depend on the desired Subscription. -/
def subscriptionDimensions : List String :=
  [condType "Subscription", condType "InstallPlan", condType "ClusterServiceVersion", condType "Deployment",
    condType "CatalogSource"]

/-- Every condition the calls `es` record for a dimension that depends on the Subscription is
unknown or reports non-compliance. -/
def NoDependentCompliance (es : List Event) : Prop :=
  ∀ e ∈ es, ∀ c, e.recordedCondition? = some c → c.type ∈ subscriptionDimensions →
    c.status = .conditionUnknown ∨ c.reportsNonCompliance = true

theorem NoDependentCompliance.of_type {es : List Event} {t : String} (ht : t ∉ subscriptionDimensions)
    (h : ∀ e ∈ es, ∀ c, e.recordedCondition? = some c → c.type = t) : NoDependentCompliance es :=
  fun e he c hc hd ↦ absurd (h e he c hc ▸ hd) ht

theorem NoDependentCompliance.append {es₁ es₂ : List Event} (h₁ : NoDependentCompliance es₁)
    (h₂ : NoDependentCompliance es₂) : NoDependentCompliance (es₁ ++ es₂) :=
  fun e he ↦ (List.mem_append.1 he).elim (h₁ e) (h₂ e)

/-- Without a desired Subscription, the pipeline records the validity condition, the OperatorGroup
stage's conditions, and for each dimension after it a condition that is unknown or reports
non-compliance. -/
theorem handleResources_invalidSubscription (defaultNS : String) (policy : OperatorPolicy)
    (h : (buildSubscription policy defaultNS).toOption = none) :
    (handleResources defaultNS policy).wp fun es _ ↦ NoDependentCompliance es := by
  simp only [handleResources, wp_bind]
  refine wp_mono (buildResources_desired defaultNS policy) ?_
  rintro es₁ ⟨desiredSub, desiredOG, changed, err⟩ ⟨hsub, -, h₁⟩
  replace h₁ : NoDependentCompliance es₁ := .of_type (by decide) h₁
  obtain rfl : desiredSub = none := hsub.trans h
  rcases err with _ | err
  swap
  · simpa using h₁
  simp only [wp_bind, wp_pure]
  refine wp_mono (handleOpGroup_records policy desiredOG) ?_
  rintro es₂ ⟨early₂, changed₂, err⟩ h₂
  replace h₁ := h₁.append (.of_type (by decide) h₂)
  rcases err with _ | err
  swap
  · simpa using h₁
  -- the later stages run on no Subscription
  simp only [handleSubscription, handleInstallPlan, handleCSV, handleDeployment, handleCatalogSource, wp_bind,
    wp_pure, wp_updateStatus, ite_false, ite_true, Option.isSome_none]
  intro _ _ _ _ _
  simp only [List.nil_append, List.append_nil, List.singleton_append, ← List.append_assoc]
  refine h₁.append ?_
  simp only [NoDependentCompliance, List.forall_mem_cons, List.not_mem_nil, Event.recordedCondition?,
    Option.some.injEq, forall_eq', false_implies, implies_true, and_true]
  decide

/-! ## The end of a run -/

/-- The emission loop makes one `emitComplianceEvent` call per condition, in order, and no other. -/
theorem emitComplianceEvents_calls (conds : List Condition) :
    (emitComplianceEvents conds).wp fun es _ ↦ es.map Event.call = conds.map Call.emitComplianceEvent := by
  induction conds with
  | nil => simp [emitComplianceEvents]
  | cons c conds ih =>
    simp only [emitComplianceEvents, wp_bind, wp_emitComplianceEvent, wp_pure]
    exact ⟨fun _ ↦ wp_mono ih (by simp), wp_mono ih (by simp)⟩

/-- What `reconcilePolicy` does once the pipeline returned the early events `early` and the flag:
when the flag is raised, it computes the final compliance and saves the status; then it emits the
early events and the final one, and ends the query batch. `final` is the final event, if any. -/
inductive Finish (early : List Condition) : Bool → Option Condition → List Event → Prop
  | unchanged {esE : List Event} (rEnd : Except ApiError Unit) :
      esE.map Event.call = early.map Call.emitComplianceEvent →
      Finish early false none (esE ++ [⟨.endQueryBatch, rEnd⟩])
  | changed {c : Condition} {esE : List Event} (r rEnd : Except ApiError Unit) :
      esE.map Event.call = (early ++ [c]).map Call.emitComplianceEvent →
      Finish early true (some c) (⟨.complianceCondition, c⟩ :: ⟨.statusUpdate, r⟩ :: (esE ++ [⟨.endQueryBatch, rEnd⟩]))

namespace Finish

variable {early : List Condition} {final : Option Condition} {changed : Bool} {es : List Event}

theorem quiet_of_emits {esE : List Event} {conds : List Condition}
    (h : esE.map Event.call = conds.map Call.emitComplianceEvent) :
    ∀ e ∈ esE, e.call.isWrite = false ∧ e.recordedCondition? = none ∧ e.changedStatus = false := by
  rintro ⟨call, r⟩ he
  obtain ⟨c, -, rfl⟩ := List.mem_map.1 (h ▸ List.mem_map_of_mem Event.call he)
  exact ⟨rfl, rfl, rfl⟩

/-- The end of a run writes nothing and records no condition. -/
theorem quiet (h : Finish early changed final es) :
    ∀ e ∈ es, e.call.isWrite = false ∧ e.recordedCondition? = none ∧ e.changedStatus = false := by
  cases h with
  | unchanged _ hE =>
    simp only [List.mem_append, List.mem_singleton]
    rintro e (he | rfl)
    · exact quiet_of_emits hE e he
    · exact ⟨rfl, rfl, rfl⟩
  | changed _ _ hE =>
    simp only [List.mem_cons, List.mem_append, List.not_mem_nil, or_false]
    rintro e (rfl | rfl | he | rfl)
    · exact ⟨rfl, rfl, rfl⟩
    · exact ⟨rfl, rfl, rfl⟩
    · exact quiet_of_emits hE e he
    · exact ⟨rfl, rfl, rfl⟩

end Finish

/-- The shape of a run of `reconcilePolicy` whose pipeline makes calls and returns early events and
a flag of which `H` holds: either the query batch could not start, or the pipeline ran and the run
finished. -/
def PolicyRun (H : List Event → List Condition → Bool → Prop) (es : List Event) : Prop :=
  (∃ e, es = [⟨.startQueryBatch, .error e⟩]) ∨
    ∃ esH early changed final esT, H esH early changed ∧ Finish early changed final esT ∧
      es = ⟨.startQueryBatch, .ok ()⟩ :: (esH ++ esT)

namespace PolicyRun

variable {i : Bool} {dims : List String} {es : List Event}

/-- In inform mode a run writes nothing. -/
theorem noWrite (h : PolicyRun (StageRun i dims) es) (hi : i = true) : ∀ e ∈ es, e.call.isWrite = false := by
  rcases h with ⟨e, rfl⟩ | ⟨esH, early, changed, final, esT, hH, hT, rfl⟩
  · simp [Call.isWrite]
  simp only [List.mem_cons, List.mem_append]
  rintro e (rfl | he | he)
  · rfl
  · exact hH.noWrite hi e he
  · exact (hT.quiet e he).1

/-- Every status change is saved, after every condition of the run was recorded. -/
theorem statusUpdate_of_changedStatus (h : PolicyRun (StageRun i dims) es) (hc : ∃ e ∈ es, e.changedStatus = true) :
    ∃ pre r post, es = pre ++ ⟨.statusUpdate, r⟩ :: post ∧ ∀ e ∈ post, e.recordedCondition? = none := by
  rcases h with ⟨e, rfl⟩ | ⟨esH, early, changed, final, esT, hH, hT, rfl⟩
  · simp [Event.changedStatus] at hc
  have hq := hT.quiet
  obtain ⟨e, he, hce⟩ := hc
  have hchanged : changed = true := by
    refine hH.changed_of_changedStatus ⟨e, ?_, hce⟩
    simp only [List.mem_cons, List.mem_append] at he
    rcases he with rfl | he | he
    · simp [Event.changedStatus] at hce
    · exact he
    · simp [(hq e he).2.2] at hce
  subst hchanged
  cases hT with
  | @changed c esE r rEnd _ =>
    refine ⟨⟨.startQueryBatch, .ok ()⟩ :: esH ++ [⟨.complianceCondition, c⟩], r, esE ++ [⟨.endQueryBatch, rEnd⟩],
      by simp, fun e he ↦ (hq e ?_).2.1⟩
    simp [he]

theorem mono {H H' : List Event → List Condition → Bool → Prop} (h : PolicyRun H es)
    (hH : ∀ esH early changed, H esH early changed → H' esH early changed) : PolicyRun H' es := by
  rcases h with h | ⟨esH, early, changed, final, esT, hH', hT, rfl⟩
  · exact .inl h
  · exact .inr ⟨esH, early, changed, final, esT, hH _ _ _ hH', hT, rfl⟩

/-- A run records only the conditions its pipeline records. -/
theorem recorded {R : Condition → Prop}
    (h : PolicyRun (fun esH _ _ ↦ ∀ e ∈ esH, ∀ c, e.recordedCondition? = some c → R c) es) :
    ∀ e ∈ es, ∀ c, e.recordedCondition? = some c → R c := by
  rcases h with ⟨e, rfl⟩ | ⟨esH, early, changed, final, esT, hH, hT, rfl⟩
  · simp [Event.recordedCondition?]
  simp only [List.mem_cons, List.mem_append]
  rintro e (rfl | he | he) c hc
  · cases hc
  · exact hH e he c hc
  · simp [(hT.quiet e he).2.1] at hc

end PolicyRun

/-- **The run of one policy.** What the pipeline guarantees holds of its part of the run. -/
theorem reconcilePolicy_run (defaultNS : String) (policy : OperatorPolicy)
    (H : List Event → List Condition → Bool → Prop)
    (hH : (handleResources defaultNS policy).wp fun es res ↦ H es res.1 res.2.1) :
    (reconcilePolicy defaultNS policy).wp fun es _ ↦ PolicyRun H es := by
  simp only [reconcilePolicy, wp_bind, wp_startQueryBatch, wp_pure]
  refine ⟨fun e ↦ .inl ⟨e, rfl⟩, wp_mono hH ?_⟩
  rintro esH ⟨early, _ | _, err⟩ h
  · simp only [Bool.false_eq_true, ite_false, wp_pure, wp_bind]
    refine wp_mono (emitComplianceEvents_calls early) fun esE _ hE ↦ ?_
    simp only [wp_endQueryBatch]
    exact fun rEnd ↦ .inr ⟨esH, early, false, none, _, h, .unchanged rEnd hE, by simp⟩
  · simp only [ite_true, wp_pure, wp_bind, wp_complianceCondition, wp_statusUpdate]
    refine fun c ↦ ⟨fun e ↦ ?_, ?_⟩ <;> refine wp_mono (emitComplianceEvents_calls _) fun esE _ hE ↦ ?_ <;>
      simp only [wp_endQueryBatch]
    · exact fun rEnd ↦ .inr ⟨esH, early, true, some c, _, h, .changed (.error e) rEnd hE, by simp⟩
    · exact fun rEnd ↦ .inr ⟨esH, early, true, some c, _, h, .changed (.ok ()) rEnd hE, by simp⟩

/-- **A reconcile run.** Either the policy could not be fetched, and at most its watcher is
removed, or the run of the fetched policy follows. -/
theorem reconcile_run (defaultNS : String) (H : OperatorPolicy → List Event → List Condition → Bool → Prop)
    (hH : ∀ policy, (handleResources defaultNS policy).wp fun es res ↦ H policy es res.1 res.2.1) :
    (reconcile defaultNS).wp fun es _ ↦
      (∃ e, es = [⟨.getPolicy, .error e⟩] ∨ ∃ r, es = [⟨.getPolicy, .error e⟩, ⟨.removeWatcher, r⟩]) ∨
      ∃ policy esP, es = ⟨.getPolicy, .ok policy⟩ :: esP ∧ PolicyRun (H policy) esP := by
  simp only [reconcile, wp_bind, wp_getPolicy]
  refine ⟨fun e ↦ ?_, fun policy ↦ wp_mono (reconcilePolicy_run defaultNS policy _ (hH policy)) fun es _ h ↦
    .inr ⟨policy, es, rfl, h⟩⟩
  by_cases he : e.reason = .notFound <;> simp [he]

/-! ## Whole runs -/

/-- **Inform mode changes nothing on the cluster.** A run for a policy in inform mode makes no
create and no update other than the dry runs of the merge engine; the controller has no call that
deletes. -/
theorem reconcile_inform_noWrite (defaultNS : String) :
    (reconcile defaultNS).wp fun es _ ↦ ∀ policy : OperatorPolicy,
      es.head? = some ⟨.getPolicy, .ok policy⟩ → policy.spec.remediationAction.isInform = true →
        ∀ e ∈ es, e.call.isWrite = false := by
  refine wp_mono (reconcile_run defaultNS _ (handleResources_run defaultNS)) ?_
  rintro es - (⟨e, rfl | ⟨r, rfl⟩⟩ | ⟨p, esP, rfl, hrun⟩) policy hhead hi
  · simp at hhead
  · simp at hhead
  simp only [List.head?_cons, Option.some.injEq, Event.mk.injEq, heq_eq_eq, true_and] at hhead
  obtain rfl : p = policy := Except.ok.inj hhead
  simp only [List.mem_cons, forall_eq_or_imp]
  exact ⟨rfl, hrun.noWrite hi⟩

/-- **Status changes are saved.** The pipeline reports every status change of its stages, also
when a later stage fails, and then the run saves the status with `Status().Update`, after the last
condition was recorded. -/
theorem reconcile_changedStatus_saved (defaultNS : String) :
    (∀ policy, (handleResources defaultNS policy).wp fun es res ↦
      (∃ e ∈ es, e.changedStatus = true) → res.2.1 = true) ∧
    (reconcile defaultNS).wp fun es _ ↦ (∃ e ∈ es, e.changedStatus = true) →
      ∃ pre r post, es = pre ++ ⟨.statusUpdate, r⟩ :: post ∧ ∀ e ∈ post, e.recordedCondition? = none := by
  refine ⟨fun policy ↦ wp_mono (handleResources_run defaultNS policy) fun _ _ h ↦ h.changed_of_changedStatus,
    wp_mono (reconcile_run defaultNS _ (handleResources_run defaultNS)) ?_⟩
  rintro es - (⟨e, rfl | ⟨r, rfl⟩⟩ | ⟨p, esP, rfl, hrun⟩) hc
  · simp [Event.changedStatus] at hc
  · simp [Event.changedStatus] at hc
  obtain ⟨pre, r, post, rfl, hpost⟩ := hrun.statusUpdate_of_changedStatus (by simpa [Event.changedStatus] using hc)
  exact ⟨⟨.getPolicy, .ok p⟩ :: pre, r, post, rfl, hpost⟩

/-- **A Subscription that does not build is never compliant.** When `spec.subscription` does not
build, every condition a run records for a dimension that depends on the Subscription (the
Subscription, InstallPlan, ClusterServiceVersion, Deployment and CatalogSource dimensions) is
unknown or reports non-compliance. -/
theorem reconcile_invalidSubscription_notCompliant (defaultNS : String) :
    (reconcile defaultNS).wp fun es _ ↦ ∀ policy : OperatorPolicy,
      es.head? = some ⟨.getPolicy, .ok policy⟩ → (buildSubscription policy defaultNS).toOption = none →
        ∀ e ∈ es, ∀ c, e.recordedCondition? = some c → c.type ∈ subscriptionDimensions →
          c.status = .conditionUnknown ∨ c.reportsNonCompliance = true := by
  refine wp_mono (reconcile_run defaultNS
    (fun policy esH _ _ ↦ (buildSubscription policy defaultNS).toOption = none → NoDependentCompliance esH)
    fun policy ↦ wp_imp (handleResources_invalidSubscription defaultNS policy)) ?_
  rintro es - (⟨e, rfl | ⟨r, rfl⟩⟩ | ⟨p, esP, rfl, hrun⟩) policy hhead hsub
  · simp [Event.recordedCondition?]
  · simp [Event.recordedCondition?]
  simp only [List.head?_cons, Option.some.injEq, Event.mk.injEq, heq_eq_eq, true_and] at hhead
  obtain rfl : p = policy := Except.ok.inj hhead
  have hP := (hrun.mono fun _ _ _ h ↦ h hsub).recorded
  simp only [List.mem_cons, forall_eq_or_imp]
  exact ⟨fun c hc ↦ absurd hc (by simp [Event.recordedCondition?]), hP⟩

end OperatorPolicyController

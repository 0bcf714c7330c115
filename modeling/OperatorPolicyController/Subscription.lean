import OperatorPolicyController.OpGroup
import OperatorPolicyController.Regex

/-!
# The Subscription stage

`handleSubscription` looks the desired Subscription up by namespace and name. A missing one is
reported and, when enforcing, created. A found one goes through the merge engine; when no update
is needed, a `ResolutionFailed` condition OLM set on it is checked against the Subscription with
`messageIncludesSubscription`, since OLM copies one Subscription's resolution failure onto every
Subscription of the namespace. A mismatch is reported and, when enforcing, the merged object is
sent as an update.

## What the later stages see

The stage returns the Subscription the install-plan, CSV and catalog-source stages read. On the
found path it is `mergedSub`: the object `mergeObjects` leaves behind, converted to the Go type.
That object is the merged copy of the one found, or the stripped answer of the dry run when the
dry run was made and accepted (`mergeObjects_update`), which has lost the status the later stages
read (`handleFoundSubscription_dryRun_status`).

The typed client decodes the answer of a `Create` into the object it sent; a decoding failure is
an error of the `Create` call.
-/

namespace OperatorPolicyController

open Reconciler

/-- The type of the condition OLM sets on a Subscription it cannot resolve. -/
def subscriptionResolutionFailed : String := "ResolutionFailed"

/-- The condition recorded when OLM's resolution failure concerns this Subscription: OLM's reason
and message under the Subscription's condition type. -/
def resolutionFailedCond (failed : SubscriptionCondition) : Condition :=
  ⟨condType "Subscription", .conditionFalse, failed.reason, failed.message⟩

/-- Whether a resolution failure concerns the Subscription: an error of the regular expression
counts as a yes. -/
def resolutionFailureIncludes (sub : Subscription) (message : String) : Bool :=
  match messageIncludesSubscription sub message with
  | .ok b => b
  | .error _ => true

/-- The branch of `handleSubscription` for a Subscription that is not on the cluster. -/
def handleMissingSubscription (policy : OperatorPolicy) (desiredSub : Subscription) :
    Reconciler (Option Subscription × List Condition × Bool × Option String) := do
  let changed ← updateStatus (missingWantedCond "Subscription") [missingWantedObj desiredSub.toUnstructured]
  if policy.spec.remediationAction.isInform then return (some desiredSub, [], changed, none)
  let earlyConds ← earlyCompliance changed
  match ← create desiredSub.toUnstructured with
  | .error err => return (none, [], changed, some s!"error creating the Subscription: {err.message}")
  | .ok created =>
    match Subscription.fromUnstructured created with
    | .error e => return (none, [], changed, some s!"error creating the Subscription: {e}")
    | .ok desiredSub =>
      let _ ← updateStatus (createdCond "Subscription")
        [createdObj (created.setGroupVersionKind subscriptionGVK.groupVersion subscriptionGVK.kind)]
      return (some desiredSub, earlyConds, true, none)

/-- The verdict on a found Subscription that needs no update: OLM's resolution failure when it
concerns this Subscription, a match otherwise. -/
def subscriptionMatchVerdict (foundSub : Unstructured) (mergedSub : Subscription) :
    Condition × List RelatedObject :=
  let subResFailed := mergedSub.status.getCondition subscriptionResolutionFailed
  if subResFailed.status = "True" && resolutionFailureIncludes mergedSub subResFailed.message then
    (resolutionFailedCond subResFailed, [nonCompObj foundSub subResFailed.reason])
  else (matchesCond "Subscription", [matchedObj foundSub])

/-- The branch of `handleSubscription` for a Subscription found on the cluster, once the merge
engine has answered whether an update is needed, whether it is forbidden, an error, and the
merged object. -/
def handleMergedSubscription (policy : OperatorPolicy) (foundSub : Unstructured)
    (mergeResult : Bool × Bool × Option String × Unstructured) :
    Reconciler (Option Subscription × List Condition × Bool × Option String) := do
  let (updateNeeded, skipUpdate, mergeErr, merged) := mergeResult
  if let some err := mergeErr then
    return (none, [], false, some s!"error checking if the Subscription needs an update: {err}")
  match Subscription.fromUnstructured merged with
  | .error e =>
    return (none, [], false, some s!"error converting the retrieved Subscription to the go type: {e}")
  | .ok mergedSub =>
    if !updateNeeded then
      let (cond, objs) := subscriptionMatchVerdict foundSub mergedSub
      return (some mergedSub, [], ← updateStatus cond objs, none)
    if policy.spec.remediationAction.isEnforce && skipUpdate then
      return (some mergedSub, [],
        ← updateStatus (mismatchCondUnfixable "Subscription") [mismatchedObj foundSub], none)
    let changed ← updateStatus (mismatchCond "Subscription") [mismatchedObj foundSub]
    if policy.spec.remediationAction.isInform then return (some mergedSub, [], changed, none)
    let earlyConds ← earlyCompliance changed
    match ← update merged with
    | .error err =>
      return (some mergedSub, [], changed, some s!"error updating the Subscription: {err.message}")
    | .ok updated =>
      let _ ← updateStatus (updatedCond "Subscription")
        [updatedObj (updated.setGroupVersionKind subscriptionGVK.groupVersion subscriptionGVK.kind)]
      return (some mergedSub, earlyConds, true, none)

/-- The branch of `handleSubscription` for a Subscription found on the cluster. -/
def handleFoundSubscription (policy : OperatorPolicy) (desiredSub : Subscription)
    (foundSub : Unstructured) :
    Reconciler (Option Subscription × List Condition × Bool × Option String) := do
  handleMergedSubscription policy foundSub
    (← mergeObjects desiredSub.toUnstructured foundSub policy.spec.complianceType)

/-- `handleSubscription`: the Subscription the later stages read, the early compliance events,
whether the status changed, and an error. -/
def handleSubscription (policy : OperatorPolicy) (desiredSub : Option Subscription) :
    Reconciler (Option Subscription × List Condition × Bool × Option String) := do
  let some desiredSub := desiredSub
    | return (none, [], ← updateStatus (invalidCausingUnknownCond "Subscription") [], none)
  match ← watchGet subscriptionGVK desiredSub.namespace desiredSub.name with
  | .error err => return (none, [], false, some s!"error getting the Subscription: {err.message}")
  | .ok none => handleMissingSubscription policy desiredSub
  | .ok (some foundSub) => handleFoundSubscription policy desiredSub foundSub

/-! ## The stage contract -/

theorem handleMissingSubscription_run (policy : OperatorPolicy) (desiredSub : Subscription) :
    (handleMissingSubscription policy desiredSub).wp fun es res ↦
      StageRun policy.spec.remediationAction.isInform [condType "Subscription"] es res.2.1 res.2.2.1 := by
  simp only [handleMissingSubscription, wp_bind, wp_pure, wp_ite, wp_updateStatus, wp_create,
    wp_earlyCompliance, List.cons_append, List.nil_append]
  simp +contextual only [StageRun.report, StageRun.cons_iff, StageRun.raised_iff, StageRun.nil_iff,
    Event.changedStatus, Call.isWrite, Call.isStageCall, List.forall_mem_cons, List.not_mem_nil,
    Bool.not_eq_true, implies_true, and_self, Bool.false_eq_true, false_implies, forall_const, true_and,
    missingWantedCond_type]
  -- what is left is the decoding of the created object
  refine fun changed _ ↦ ⟨fun _ c u ↦ ?_, fun _ u ↦ ?_⟩ <;> split <;>
    simp [Event.changedStatus, Event.succeededWrite, Call.isWrite, Call.isStageCall]

theorem handleMergedSubscription_run (policy : OperatorPolicy) (foundSub : Unstructured)
    (mergeResult : Bool × Bool × Option String × Unstructured) :
    (handleMergedSubscription policy foundSub mergeResult).wp fun es res ↦
      StageRun policy.spec.remediationAction.isInform [condType "Subscription"] es res.2.1 res.2.2.1 := by
  obtain ⟨updateNeeded, skipUpdate, _ | err, merged⟩ := mergeResult
  · rcases hd : Subscription.fromUnstructured merged with e | mergedSub
    · simp [handleMergedSubscription, hd]
    simp only [handleMergedSubscription, hd, wp_bind, wp_pure, wp_ite, wp_updateStatus, wp_update,
      wp_earlyCompliance, List.cons_append, List.nil_append]
    simp +contextual only [StageRun.report, StageRun.cons_iff, StageRun.raised_iff, StageRun.enforced,
      StageRun.nil_iff, Event.changedStatus, Event.succeededWrite, Call.isWrite, Call.isStageCall,
      List.forall_mem_cons, List.not_mem_nil, Bool.not_eq_true,
      implies_true, and_self, RemediationAction.isEnforce_eq_not_isInform, Bool.false_eq_true,
      false_implies, forall_const, true_and, mismatchCond_type]
  · simp [handleMergedSubscription]

theorem handleFoundSubscription_run (policy : OperatorPolicy) (desiredSub : Subscription)
    (foundSub : Unstructured) :
    (handleFoundSubscription policy desiredSub foundSub).wp fun es res ↦
      StageRun policy.spec.remediationAction.isInform [condType "Subscription"] es res.2.1 res.2.2.1 :=
  wp_bind_quiet mergeObjects_run (handleMergedSubscription_run policy foundSub)

theorem handleSubscription_run (policy : OperatorPolicy) (desiredSub : Option Subscription) :
    (handleSubscription policy desiredSub).wp fun es res ↦
      StageRun policy.spec.remediationAction.isInform [condType "Subscription"] es res.2.1 res.2.2.1 := by
  rcases desiredSub with _ | desiredSub
  · simp [handleSubscription]
  simp only [handleSubscription, wp_bind, wp_watchGet]
  refine ⟨fun _ ↦ by simp [Event.changedStatus, Call.isWrite, Call.isStageCall], ?_, fun u ↦ ?_⟩
  · exact wp_stageRun_cons rfl rfl rfl (handleMissingSubscription_run policy desiredSub)
  · exact wp_stageRun_cons rfl rfl rfl (handleFoundSubscription_run policy desiredSub u)

/-! ## The Subscription the later stages read -/

theorem SubscriptionStatus.fromFields_nil : SubscriptionStatus.fromFields [] = .ok {} := rfl

/-- An object without a status decodes to a Subscription with the empty status. -/
theorem Subscription.fromUnstructured_status {u : Unstructured} {s : Subscription}
    (hu : Fields.get? u.object "status" = none) (h : Subscription.fromUnstructured u = .ok s) :
    s.status = {} := by
  unfold Subscription.fromUnstructured at h
  simp only [Except.bind_eq_ok] at h
  obtain ⟨_, _, _, _, st, hst, _, _, _, _, _, _, _, _, _, _, _, _, _, _, _, _, status, hfs, hs⟩ := h
  obtain rfl : st = [] := by simpa [objectField, hu] using hst.symm
  cases hs
  simpa [SubscriptionStatus.fromFields_nil] using hfs.symm

/-- The found branch makes no dry run, and hands on the merged object, decoded. -/
theorem handleMergedSubscription_sub (policy : OperatorPolicy) (foundSub : Unstructured)
    (mergeResult : Bool × Bool × Option String × Unstructured) :
    (handleMergedSubscription policy foundSub mergeResult).wp fun es res ↦
      es.any Event.acceptedDryRun = false ∧
      ∀ s, res.1 = some s → Subscription.fromUnstructured mergeResult.2.2.2 = .ok s := by
  obtain ⟨updateNeeded, skipUpdate, _ | err, merged⟩ := mergeResult
  · rcases hd : Subscription.fromUnstructured merged with e | mergedSub
    · simp only [handleMergedSubscription, hd, wp_bind, wp_pure]
      simp
    simp only [handleMergedSubscription, hd, wp_bind, wp_pure, wp_ite, wp_updateStatus, wp_update,
      wp_earlyCompliance]
    simp [Event.acceptedDryRun]
  · simp [handleMergedSubscription]

/-- **A dry run drops the status.** When the merge engine made its dry run and the server
accepted it, the Subscription the stage hands on is decoded from the stripped answer, so its
status is empty, whatever the status of the Subscription found. -/
theorem handleFoundSubscription_dryRun_status (policy : OperatorPolicy) (desiredSub : Subscription)
    (foundSub : Unstructured) :
    (handleFoundSubscription policy desiredSub foundSub).wp fun es res ↦
      es.any Event.acceptedDryRun = true → ∀ s, res.1 = some s → s.status = {} := by
  rw [handleFoundSubscription, wp_bind, mergeObjects_wp]
  have found := handleMergedSubscription_sub policy foundSub
  -- a dry run that was not made or failed leaves no accepted dry run among the calls
  have noDryRun (es₁ : List Event) (h₁ : es₁.any Event.acceptedDryRun = false) (r) :
      (handleMergedSubscription policy foundSub r).wp fun es res ↦
        (es₁ ++ es).any Event.acceptedDryRun = true → ∀ s, res.1 = some s → s.status = {} :=
    wp_mono (found r) fun es _ h ha ↦ by rw [List.any_append, h₁, h.1] at ha; cases ha
  refine ⟨fun _ ↦ noDryRun [] rfl _, fun _ ↦ ⟨fun _ _ ↦ noDryRun _ (by rfl) _, fun _ _ ↦ noDryRun _ (by rfl) _,
    fun u ↦ wp_mono (found _) fun _ _ h _ s hs ↦ ?_⟩⟩
  exact Subscription.fromUnstructured_status (removeFieldsForComparison_status u) (h.2 s hs)

/-- A Subscription on the cluster, on channel `beta`, whose status names its installed CSV. -/
def installedSubscription : Unstructured :=
  ⟨[("apiVersion", .str "operators.coreos.com/v1alpha1"), ("kind", .str "Subscription"),
    ("metadata", .obj [("name", .str "p"), ("namespace", .str "ns"), ("resourceVersion", .str "42")]),
    ("spec", .obj [("channel", .str "beta"), ("installPlanApproval", .str "Automatic"), ("name", .str "p"),
      ("source", .str "cat"), ("sourceNamespace", .str "olm")]),
    ("status", .obj [("installedCSV", .str "p.v1")])]⟩

/-- The same Subscription, wanted on channel `stable`. -/
def stableSubscription : Subscription :=
  { name := "p", «namespace» := "ns"
    spec := { catalogSource := "cat", catalogSourceNamespace := "olm", package := "p"
              channel := "stable", installPlanApproval := "Automatic" } }

/-- An enforcing policy; the stage reads nothing else of it. -/
def enforcingPolicy : OperatorPolicy := ⟨"default", "op", ⟨.enforce, "musthave", none, .null, []⟩⟩

/-- At the example, the Subscription on the cluster names its installed CSV, while the one the
stage hands on to the later stages, after a dry run the server accepted, names none. -/
theorem handleSubscription_drops_installedCSV :
    (Subscription.fromUnstructured installedSubscription).toOption.map (·.status.installedCSV) = some "p.v1" ∧
      let r := run (acceptingCluster enforcingPolicy (fun _ _ _ ↦ some installedSubscription) fun _ _ ↦ [])
        (handleSubscription enforcingPolicy (some stableSubscription)) {}
      (handleSubscription enforcingPolicy (some stableSubscription)).Trace r.1 r.2.1 ∧
        r.2.1.1.map (·.status.installedCSV) = some "" := by
  refine ⟨by decide, run_trace _ _ _, ?_⟩
  -- the lookup finds the Subscription, so the run is the found branch's, which makes a dry run
  let rf := run (acceptingCluster enforcingPolicy (fun _ _ _ ↦ some installedSubscription) fun _ _ ↦ [])
    (handleFoundSubscription enforcingPolicy stableSubscription installedSubscription) {}
  have hstatus := (wp_iff_trace _ _).1
    (handleFoundSubscription_dryRun_status enforcingPolicy stableSubscription installedSubscription)
    rf.1 rf.2.1 (run_trace _ _ _) (by decide)
  obtain ⟨s, hs⟩ := Option.isSome_iff_exists.1 (show rf.2.1.1.isSome by decide)
  show rf.2.1.1.map (·.status.installedCSV) = some ""
  rw [hs, Option.map_some', hstatus s hs]

/-! ## Where the stage writes -/

/-- A missing Subscription is at most created, as desired. -/
theorem handleMissingSubscription_writes (policy : OperatorPolicy) (desiredSub : Subscription) :
    (handleMissingSubscription policy desiredSub).wp fun es _ ↦
      ∀ e ∈ es, e.call.isWrite = true → e.call = .create desiredSub.toUnstructured := by
  simp only [handleMissingSubscription, wp_bind, wp_pure, wp_ite, wp_updateStatus, wp_create,
    wp_earlyCompliance, List.cons_append, List.nil_append]
  refine fun _ ↦ ⟨by simp [Call.isWrite], fun _ ↦ ⟨fun _ _ ↦ ⟨by simp [Call.isWrite], fun _ ↦ ?_⟩,
    fun _ ↦ ⟨by simp [Call.isWrite], fun _ ↦ ?_⟩⟩⟩ <;> split <;> simp [Call.isWrite]

/-- The found branch updates at most the merged object, and only when the merge engine asked for
an update it can make. -/
theorem handleMergedSubscription_writes (policy : OperatorPolicy) (foundSub : Unstructured)
    (mergeResult : Bool × Bool × Option String × Unstructured) :
    (handleMergedSubscription policy foundSub mergeResult).wp fun es _ ↦
      ∀ e ∈ es, e.call.isWrite = true →
        e.call = .update mergeResult.2.2.2 ∧ mergeResult.1 = true ∧ mergeResult.2.1 = false ∧
          mergeResult.2.2.1 = none := by
  obtain ⟨updateNeeded, skipUpdate, _ | err, merged⟩ := mergeResult
  · rcases hd : Subscription.fromUnstructured merged with e | mergedSub
    · simp only [handleMergedSubscription, hd, wp_bind, wp_pure]
      simp
    simp only [handleMergedSubscription, hd, wp_bind, wp_pure, wp_ite, wp_updateStatus, wp_update,
      wp_earlyCompliance, List.cons_append, List.nil_append]
    simp +contextual [Call.isWrite]
  · simp [handleMergedSubscription]

/-- A found Subscription is at most updated, with the stripped answer of the dry run of the
desired Subscription merged into it. -/
theorem handleFoundSubscription_writes (policy : OperatorPolicy) (desiredSub : Subscription)
    (foundSub : Unstructured) :
    (handleFoundSubscription policy desiredSub foundSub).wp fun es _ ↦
      ∀ e ∈ es, e.call.isWrite = true → ∃ u,
        (⟨.dryRunUpdate (mergedObject desiredSub.toUnstructured foundSub policy.spec.complianceType),
          .ok u⟩ : Event) ∈ es ∧ e.call = .update (removeFieldsForComparison u) := by
  rw [handleFoundSubscription, wp_bind]
  refine wp_mono (wp_and (@mergeObjects_run _ _ _ true) mergeObjects_update) fun es₁ r ⟨h₁, hu⟩ ↦
    wp_mono (handleMergedSubscription_writes policy foundSub r) fun es₂ _ h₂ e he hw ↦ ?_
  rcases List.mem_append.1 he with he | he
  · simp [h₁.noWrite rfl e he] at hw
  · obtain ⟨hc, hn, hk, herr⟩ := h₂ e he hw
    obtain ⟨u, rfl, hr⟩ := hu hn hk herr
    exact ⟨u, .head _, hr ▸ hc⟩

/-- What a write of the Subscription stage can be, once the lookup of the desired Subscription
answered `found` in the calls `es`: the creation of the desired Subscription when none was found,
or the update of the one found `f` with the stripped answer of the dry run of the desired
Subscription merged into `f`, which carries no resource version. -/
def SubscriptionWrite (policy : OperatorPolicy) (desiredSub : Subscription) (found : Option Unstructured)
    (es : List Event) (call : Call) : Prop :=
  (found = none ∧ call = .create desiredSub.toUnstructured) ∨
    ∃ f u, found = some f ∧
      (⟨.dryRunUpdate (mergedObject desiredSub.toUnstructured f policy.spec.complianceType), .ok u⟩ : Event) ∈ es ∧
      call = .update (removeFieldsForComparison u)

/-- **What the Subscription stage writes.** Every write follows the lookup of the desired
Subscription, and is one that `SubscriptionWrite` allows. -/
theorem handleSubscription_writes (policy : OperatorPolicy) (desiredSub : Subscription) :
    (handleSubscription policy (some desiredSub)).wp fun es _ ↦
      ∀ e ∈ es, e.call.isWrite = true → ∃ found,
        es.head? = some ⟨.get subscriptionGVK desiredSub.namespace desiredSub.name, .ok found⟩ ∧
          SubscriptionWrite policy desiredSub found es e.call := by
  simp only [handleSubscription, wp_bind, wp_watchGet]
  refine ⟨fun _ ↦ by simp [Call.isWrite],
    wp_mono (handleMissingSubscription_writes policy desiredSub) fun es _ h ↦ ?_,
    fun f ↦ wp_mono (handleFoundSubscription_writes policy desiredSub f) fun es _ h ↦ ?_⟩
  · rintro e (_ | ⟨_, he⟩) hw
    · cases hw
    · exact ⟨none, rfl, .inl ⟨rfl, h e he hw⟩⟩
  · rintro e (_ | ⟨_, he⟩) hw
    · cases hw
    · obtain ⟨u, hd, hc⟩ := h e he hw
      exact ⟨some f, rfl, .inr ⟨f, u, rfl, .tail _ hd, hc⟩⟩

/-! ## How many writes -/

theorem subscriptionMatchVerdict_type (foundSub : Unstructured) (mergedSub : Subscription) :
    (subscriptionMatchVerdict foundSub mergedSub).1.type = condType "Subscription" := by
  simp only [subscriptionMatchVerdict]
  split <;> rfl

theorem handleMissingSubscription_dimension (policy : OperatorPolicy) (desiredSub : Subscription) :
    (handleMissingSubscription policy desiredSub).wp fun es res ↦
      RecordsDimension (condType "Subscription") es res.2.2.2 := by
  simp only [handleMissingSubscription, wp_bind, wp_pure, wp_ite, wp_updateStatus, wp_create,
    wp_earlyCompliance, List.cons_append, List.nil_append]
  refine fun _ ↦ ⟨by simp [RecordsDimension, Event.recordedCondition?], fun _ ↦
    ⟨fun _ _ ↦ ⟨by simp [RecordsDimension, Event.recordedCondition?], fun _ ↦ ?_⟩,
      fun _ ↦ ⟨by simp [RecordsDimension, Event.recordedCondition?], fun _ ↦ ?_⟩⟩⟩ <;>
    split <;> simp [RecordsDimension, Event.recordedCondition?]

theorem handleMergedSubscription_dimension (policy : OperatorPolicy) (foundSub : Unstructured)
    (mergeResult : Bool × Bool × Option String × Unstructured) :
    (handleMergedSubscription policy foundSub mergeResult).wp fun es res ↦
      RecordsDimension (condType "Subscription") es res.2.2.2 := by
  obtain ⟨updateNeeded, skipUpdate, _ | err, merged⟩ := mergeResult
  · rcases hd : Subscription.fromUnstructured merged with e | mergedSub
    · simp [handleMergedSubscription, hd, RecordsDimension]
    simp only [handleMergedSubscription, hd, wp_bind, wp_pure, wp_ite, wp_updateStatus, wp_update,
      wp_earlyCompliance, List.cons_append, List.nil_append]
    simp [RecordsDimension, Event.recordedCondition?, subscriptionMatchVerdict_type]
  · simp [handleMergedSubscription, RecordsDimension]

/-- The stage records the Subscription condition, unless it fails. -/
theorem handleSubscription_dimension (policy : OperatorPolicy) (desiredSub : Option Subscription) :
    (handleSubscription policy desiredSub).wp fun es res ↦
      RecordsDimension (condType "Subscription") es res.2.2.2 := by
  rcases desiredSub with _ | desiredSub
  · simp [handleSubscription, RecordsDimension, Event.recordedCondition?]
  simp only [handleSubscription, wp_bind, wp_watchGet]
  refine ⟨fun _ ↦ by simp [RecordsDimension, Event.recordedCondition?],
    wp_mono (handleMissingSubscription_dimension policy desiredSub) fun _ _ h ↦ h.quiet_append rfl, fun u ↦ ?_⟩
  rw [handleFoundSubscription, wp_bind]
  exact wp_mono mergeObjects_records fun _ r h₁ ↦
    wp_mono (handleMergedSubscription_dimension policy u r) fun _ _ h₂ ↦
      (h₂.quiet_append (recordedTypes_eq_nil h₁)).quiet_append rfl

end OperatorPolicyController

import OperatorPolicyController.Merge

/-!
# The OperatorGroup stage

`handleOpGroup` lists the OperatorGroups of the desired namespace and branches on how many there
are. With none, it reports the missing group and, when enforcing, creates the desired one. With
one, it first checks the identity of the group found against the desired one: the name, or for
the default group (which has no name) the generated-name prefix. A group of another identity is
assumed correct when the policy specifies no OperatorGroup, and is a mismatch otherwise; a group
of the right identity goes through the merge engine, and is updated when enforcing. With two or
more, nothing can be fixed safely and the stage reports them all.

Every write of the stage is in one of two places: the creation of the desired group, and the
update of the single group found.
-/

namespace OperatorPolicyController

open Reconciler

/-- `opGroupPreexistingCond`, as the tests show it. -/
def opGroupPreexistingCond : Condition :=
  ⟨condType "OperatorGroup", .conditionTrue, "PreexistingOperatorGroupFound",
    "the policy does not specify an OperatorGroup but one already exists in the namespace - " ++
      "assuming that OperatorGroup is correct"⟩

/-- `opGroupTooManyCond`, as the tests show it. -/
def opGroupTooManyCond : Condition :=
  ⟨condType "OperatorGroup", .conditionFalse, "TooManyOperatorGroups",
    "there is more than one OperatorGroup in the namespace"⟩

/-- `opGroupTooManyObjs`: every group found, as the tests show them. -/
def opGroupTooManyObjs (opGroups : List Unstructured) : List RelatedObject :=
  opGroups.map fun og ↦ relatedObj og "NonCompliant" "There is more than one OperatorGroup in this namespace"

/-- The early event of an enforcement: the compliance before the write, when the status changed. -/
def earlyCompliance (changed : Bool) : Reconciler (List Condition) :=
  if changed then (fun c ↦ [c]) <$> complianceCondition else pure []

theorem wp_earlyCompliance (changed : Bool) (Q : List Event → List Condition → Prop) :
    (earlyCompliance changed).wp Q ↔
      (changed = true → ∀ c, Q [⟨.complianceCondition, c⟩] [c]) ∧ (changed = false → Q [] []) := by
  cases changed <;> simp [earlyCompliance]

/-- The identity check of the single OperatorGroup found: the same name, or, for a desired group
without a name, the same generated-name prefix. -/
def opGroupIdentityMatches (desiredOpGroup : OperatorGroup) (opGroup : Unstructured) : Bool :=
  opGroup.getName = desiredOpGroup.name ||
    (desiredOpGroup.name = "" && opGroup.getGenerateName = desiredOpGroup.generateName)

/-- The branch of `handleOpGroup` for one OperatorGroup of the right identity, once the merge
engine has answered whether an update is needed, whether it is forbidden, an error, and the
merged object. -/
def handleMergedOpGroup (policy : OperatorPolicy) (desiredOpGroup : OperatorGroup)
    (opGroup : Unstructured) (mergeResult : Bool × Bool × Option String × Unstructured) :
    Reconciler (List Condition × Bool × Option String) := do
  let (updateNeeded, skipUpdate, mergeErr, merged) := mergeResult
  if let some err := mergeErr then
    return ([], false, some s!"error checking if the OperatorGroup needs an update: {err}")
  if !updateNeeded then
    return ([], ← updateStatus (matchesCond "OperatorGroup") [matchedObj opGroup], none)
  if policy.spec.operatorGroup.isNone then
    return ([], ← updateStatus opGroupPreexistingCond [matchedObj opGroup], none)
  if policy.spec.remediationAction.isEnforce && skipUpdate then
    return ([], ← updateStatus (mismatchCondUnfixable "OperatorGroup") [mismatchedObj opGroup], none)
  let changed ← updateStatus (mismatchCond "OperatorGroup") [mismatchedObj opGroup]
  if policy.spec.remediationAction.isInform then return ([], changed, none)
  let earlyConds ← earlyCompliance changed
  let desiredOpGroup := { desiredOpGroup with resourceVersion := opGroup.getResourceVersion }
  match ← update merged with
  | .error err => return ([], changed, some s!"error updating the OperatorGroup: {err.message}")
  | .ok _ =>
    let _ ← updateStatus (updatedCond "OperatorGroup")
      [updatedObj (desiredOpGroup.toUnstructured.setGroupVersionKind
        operatorGroupGVK.groupVersion operatorGroupGVK.kind)]
    return (earlyConds, true, none)

/-- The branch of `handleOpGroup` for exactly one OperatorGroup found. -/
def handleOneOpGroup (policy : OperatorPolicy) (desiredOpGroup : OperatorGroup)
    (opGroup : Unstructured) : Reconciler (List Condition × Bool × Option String) := do
  let desired := desiredOpGroup.toUnstructured
  if !opGroupIdentityMatches desiredOpGroup opGroup then
    if policy.spec.operatorGroup.isNone then
      return ([], ← updateStatus opGroupPreexistingCond [matchedObj opGroup], none)
    return ([], ← updateStatus (mismatchCond "OperatorGroup")
      [missingWantedObj desired, mismatchedObj opGroup], none)
  else
    handleMergedOpGroup policy desiredOpGroup opGroup
      (← mergeObjects desired opGroup policy.spec.complianceType)

/-- `handleOpGroup`: the early compliance events, whether the status changed, and an error. -/
def handleOpGroup (policy : OperatorPolicy) (desiredOpGroup : Option OperatorGroup) :
    Reconciler (List Condition × Bool × Option String) := do
  let some desiredOpGroup := desiredOpGroup
    | return ([], ← updateStatus (invalidCausingUnknownCond "OperatorGroup") [], none)
  if desiredOpGroup.namespace = "" then
    return ([], ← updateStatus (invalidCausingUnknownCond "OperatorGroup") [], none)
  let desired := desiredOpGroup.toUnstructured
  match ← watchList operatorGroupGVK desiredOpGroup.namespace with
  | .error err => return ([], false, some s!"error listing OperatorGroups: {err.message}")
  | .ok [] =>
    let changed ← updateStatus (missingWantedCond "OperatorGroup") [missingWantedObj desired]
    if policy.spec.remediationAction.isInform then return ([], changed, none)
    let earlyConds ← earlyCompliance changed
    match ← create desired with
    | .error err => return ([], changed, some s!"error creating the OperatorGroup: {err.message}")
    | .ok created =>
      let _ ← updateStatus (createdCond "OperatorGroup")
        [createdObj (created.setGroupVersionKind operatorGroupGVK.groupVersion operatorGroupGVK.kind)]
      return (earlyConds, true, none)
  | .ok [opGroup] => handleOneOpGroup policy desiredOpGroup opGroup
  | .ok foundOpGroups =>
    return ([], ← updateStatus opGroupTooManyCond (opGroupTooManyObjs foundOpGroups), none)

/-! ## The stage contract -/

theorem handleMergedOpGroup_run (policy : OperatorPolicy) (desiredOpGroup : OperatorGroup)
    (opGroup : Unstructured) (mergeResult : Bool × Bool × Option String × Unstructured) :
    (handleMergedOpGroup policy desiredOpGroup opGroup mergeResult).wp fun es res ↦
      StageRun policy.spec.remediationAction.isInform [condType "OperatorGroup"] es res.1 res.2.1 := by
  obtain ⟨updateNeeded, skipUpdate, _ | err, merged⟩ := mergeResult
  · simp only [handleMergedOpGroup, wp_bind, wp_pure, wp_ite, wp_updateStatus, wp_update,
      wp_earlyCompliance, List.cons_append, List.nil_append]
    simp +contextual only [StageRun.report, StageRun.cons_iff, StageRun.raised_iff, StageRun.enforced,
      StageRun.nil_iff, Event.changedStatus, Event.succeededWrite, Call.isWrite, Call.isStageCall,
      List.forall_mem_cons, List.not_mem_nil, Bool.not_eq_true,
      implies_true, and_self, RemediationAction.isEnforce_eq_not_isInform, Bool.false_eq_true,
      false_implies, forall_const, true_and, mismatchCond_type]
  · simp [handleMergedOpGroup]

theorem handleOneOpGroup_run (policy : OperatorPolicy) (desiredOpGroup : OperatorGroup)
    (opGroup : Unstructured) :
    (handleOneOpGroup policy desiredOpGroup opGroup).wp fun es res ↦
      StageRun policy.spec.remediationAction.isInform [condType "OperatorGroup"] es res.1 res.2.1 := by
  rw [handleOneOpGroup, wp_ite]
  refine ⟨fun _ ↦ ?_, fun _ ↦ wp_bind_quiet mergeObjects_run (handleMergedOpGroup_run policy _ _)⟩
  simp only [wp_bind, wp_pure, wp_ite, wp_updateStatus, List.append_nil, List.nil_append]
  exact ⟨fun _ _ ↦ StageRun.report .., fun _ _ ↦ StageRun.report ..⟩

theorem handleOpGroup_run (policy : OperatorPolicy) (desiredOpGroup : Option OperatorGroup) :
    (handleOpGroup policy desiredOpGroup).wp fun es res ↦
      StageRun policy.spec.remediationAction.isInform [condType "OperatorGroup"] es res.1 res.2.1 := by
  rcases desiredOpGroup with _ | desiredOpGroup
  · simp [handleOpGroup]
  simp only [handleOpGroup, wp_bind, wp_pure, wp_ite, wp_updateStatus, wp_watchList]
  refine ⟨fun _ _ ↦ StageRun.report .., fun _ ↦ ⟨fun _ ↦ by simp [Event.changedStatus, Call.isWrite, Call.isStageCall], ?_⟩⟩
  rintro (_ | ⟨opGroup, _ | ⟨opGroup', opGroups⟩⟩)
  · simp only [wp_bind, wp_pure, wp_ite, wp_updateStatus, wp_create, wp_earlyCompliance, List.cons_append,
      List.nil_append]
    simp +contextual only [StageRun.report, StageRun.cons_iff, StageRun.raised_iff, StageRun.enforced,
      StageRun.nil_iff, Event.changedStatus, Event.succeededWrite, Call.isWrite, Call.isStageCall,
      List.forall_mem_cons, List.not_mem_nil, Bool.not_eq_true,
      implies_true, and_self, Bool.false_eq_true, false_implies, forall_const, true_and, missingWantedCond_type]
  · exact wp_stageRun_cons rfl rfl rfl (handleOneOpGroup_run policy desiredOpGroup opGroup)
  · simp [Event.changedStatus, Call.isWrite, Call.isStageCall]

/-! ## Where the stage writes -/

/-- The branch of one OperatorGroup of the right identity writes at most the merged object, as an
update, and only when the policy specifies an OperatorGroup and the merge engine asked for an
update it can make. -/
theorem handleMergedOpGroup_writes (policy : OperatorPolicy) (desiredOpGroup : OperatorGroup)
    (opGroup : Unstructured) (mergeResult : Bool × Bool × Option String × Unstructured) :
    (handleMergedOpGroup policy desiredOpGroup opGroup mergeResult).wp fun es _ ↦
      ∀ e ∈ es, e.call.isWrite = true →
        e.call = .update mergeResult.2.2.2 ∧ policy.spec.operatorGroup ≠ none ∧
          mergeResult.1 = true ∧ mergeResult.2.1 = false ∧ mergeResult.2.2.1 = none := by
  obtain ⟨updateNeeded, skipUpdate, _ | err, merged⟩ := mergeResult
  · simp only [handleMergedOpGroup, wp_bind, wp_pure, wp_ite, wp_updateStatus, wp_update,
      wp_earlyCompliance, List.cons_append, List.nil_append]
    simp +contextual [Call.isWrite]
  · simp [handleMergedOpGroup]

/-- The branch of one OperatorGroup found writes at most that group: the stripped answer of the dry
run of the desired group merged into it, sent as an update, and only when the group has the
desired identity and the policy specifies an OperatorGroup. -/
theorem handleOneOpGroup_writes (policy : OperatorPolicy) (desiredOpGroup : OperatorGroup)
    (opGroup : Unstructured) :
    (handleOneOpGroup policy desiredOpGroup opGroup).wp fun es _ ↦
      ∀ e ∈ es, e.call.isWrite = true →
        opGroupIdentityMatches desiredOpGroup opGroup = true ∧ policy.spec.operatorGroup ≠ none ∧
          ∃ u, (⟨.dryRunUpdate (mergedObject desiredOpGroup.toUnstructured opGroup policy.spec.complianceType),
            .ok u⟩ : Event) ∈ es ∧ e.call = .update (removeFieldsForComparison u) := by
  rw [handleOneOpGroup, wp_ite]
  refine ⟨fun _ ↦ by simp [Call.isWrite], fun hid ↦ ?_⟩
  rw [wp_bind]
  refine wp_mono (wp_and (@mergeObjects_run _ _ _ true) mergeObjects_update) fun es₁ r ⟨h₁, hu⟩ ↦
    wp_mono (handleMergedOpGroup_writes policy desiredOpGroup opGroup r) fun es₂ _ h₂ e he hw ↦ ?_
  rcases List.mem_append.1 he with he | he
  · simp [h₁.noWrite rfl e he] at hw
  · obtain ⟨hc, hs, hn, hk, herr⟩ := h₂ e he hw
    obtain ⟨u, rfl, hr⟩ := hu hn hk herr
    exact ⟨by simpa using hid, hs, u, .head _, hr ▸ hc⟩

/-- What a write of the OperatorGroup stage can be, once the OperatorGroups `G` of the namespace
are listed in the calls `es`: the creation of the desired group when there are none, or, when the
single one `g` has the desired identity and the policy specifies an OperatorGroup, the update of
`g` with the stripped answer of the dry run of the desired group merged into it. -/
def OpGroupWrite (policy : OperatorPolicy) (desiredOpGroup : OperatorGroup) (G : List Unstructured)
    (es : List Event) (call : Call) : Prop :=
  (G = [] ∧ call = .create desiredOpGroup.toUnstructured) ∨
    ∃ g u, G = [g] ∧ opGroupIdentityMatches desiredOpGroup g = true ∧ policy.spec.operatorGroup ≠ none ∧
      (⟨.dryRunUpdate (mergedObject desiredOpGroup.toUnstructured g policy.spec.complianceType), .ok u⟩ : Event) ∈ es ∧
      call = .update (removeFieldsForComparison u)

/-- The stage's calls after a listing answered `found`, given what their writes are. -/
theorem OpGroupWrite.listed {policy : OperatorPolicy} {desiredOpGroup : OperatorGroup} {found : List Unstructured}
    {es : List Event} (h : ∀ e ∈ es, e.call.isWrite = true → OpGroupWrite policy desiredOpGroup found es e.call) :
    ∀ e ∈ (⟨.list operatorGroupGVK desiredOpGroup.namespace, .ok found⟩ :: es : List Event),
      e.call.isWrite = true → ∃ G,
        (⟨.list operatorGroupGVK desiredOpGroup.namespace, .ok found⟩ :: es : List Event).head? =
          some ⟨.list operatorGroupGVK desiredOpGroup.namespace, .ok G⟩ ∧
        OpGroupWrite policy desiredOpGroup G
          (⟨.list operatorGroupGVK desiredOpGroup.namespace, .ok found⟩ :: es) e.call := by
  rintro e (_ | ⟨_, he⟩) hw
  · cases hw
  · exact ⟨found, rfl, (h e he hw).imp id fun ⟨g, u, hG, hid, hs, hd, hc⟩ ↦ ⟨g, u, hG, hid, hs, .tail _ hd, hc⟩⟩

/-- **What the OperatorGroup stage writes.** Every write follows the listing of the OperatorGroups
`G` of the desired namespace, and is one that `OpGroupWrite` allows. -/
theorem handleOpGroup_writes (policy : OperatorPolicy) (desiredOpGroup : OperatorGroup) :
    (handleOpGroup policy (some desiredOpGroup)).wp fun es _ ↦
      ∀ e ∈ es, e.call.isWrite = true → ∃ G,
        es.head? = some ⟨.list operatorGroupGVK desiredOpGroup.namespace, .ok G⟩ ∧
          OpGroupWrite policy desiredOpGroup G es e.call := by
  simp only [handleOpGroup, wp_bind, wp_pure, wp_ite, wp_updateStatus, wp_watchList]
  refine ⟨fun _ _ ↦ by simp [Call.isWrite], fun _ ↦ ⟨fun _ ↦ by simp [Call.isWrite], ?_⟩⟩
  rintro (_ | ⟨opGroup, _ | ⟨opGroup', opGroups⟩⟩)
  · simp only [wp_bind, wp_pure, wp_ite, wp_updateStatus, wp_create, wp_earlyCompliance, List.cons_append,
      List.nil_append]
    refine fun _ ↦ ⟨fun _ ↦ OpGroupWrite.listed ?_, fun _ ↦ ⟨fun _ _ ↦ ⟨fun _ ↦ OpGroupWrite.listed ?_,
      fun _ _ ↦ OpGroupWrite.listed ?_⟩, fun _ ↦ ⟨fun _ ↦ OpGroupWrite.listed ?_,
      fun _ _ ↦ OpGroupWrite.listed ?_⟩⟩⟩ <;> simp [Call.isWrite, OpGroupWrite]
  · exact wp_mono (handleOneOpGroup_writes policy desiredOpGroup opGroup) fun es _ h ↦
      OpGroupWrite.listed fun e he hw ↦
        let ⟨hid, hs, u, hd, hc⟩ := h e he hw
        .inr ⟨opGroup, u, rfl, hid, hs, hd, hc⟩
  · simp only [wp_bind, wp_updateStatus, wp_pure, List.append_nil, List.singleton_append]
    exact fun _ ↦ OpGroupWrite.listed (by simp [Call.isWrite])

/-- An enforcing policy whose `spec.operatorGroup` gives the empty name and a target namespace. -/
def emptyNamePolicy : OperatorPolicy :=
  ⟨"default", "op", ⟨.enforce, "musthave",
    some (.obj [("name", .str ""), ("targetNamespaces", .arr [.str "ns"])]), .null, []⟩⟩

/-- An OperatorGroup `foo` of namespace `ns`, created under its own name, at resource version 42,
with no target namespaces. -/
def fooOpGroup : Unstructured :=
  ⟨[("apiVersion", .str "operators.coreos.com/v1"), ("kind", .str "OperatorGroup"),
    ("metadata", .obj [("name", .str "foo"), ("namespace", .str "ns"), ("resourceVersion", .str "42")]),
    ("spec", .obj [])]⟩

/-- At the example, the policy specifies an OperatorGroup with the empty name, which the identity
check compares as the generated-name prefix of the default group: the stage updates the
OperatorGroup `foo` found in the namespace, which the policy does not name. -/
theorem handleOpGroup_updates_unnamed_opGroup :
    (buildOperatorGroup emptyNamePolicy "ns").toOption.map (·.name) = some "" ∧
      let r := run (acceptingCluster emptyNamePolicy (fun _ _ _ ↦ none) fun _ _ ↦ [fooOpGroup])
        (handleOpGroup emptyNamePolicy (buildOperatorGroup emptyNamePolicy "ns").toOption) {}
      (handleOpGroup emptyNamePolicy (buildOperatorGroup emptyNamePolicy "ns").toOption).Trace r.1 r.2.1 ∧
        (r.1.filterMap fun e ↦ e.call.writtenObject?).map Unstructured.getName = ["foo"] :=
  ⟨by decide, run_trace _ _ _, by decide⟩

/-- An enforcing policy whose `spec.operatorGroup` names `foo` and gives a target namespace. -/
def fooOpGroupPolicy : OperatorPolicy :=
  ⟨"default", "op", ⟨.enforce, "musthave",
    some (.obj [("name", .str "foo"), ("targetNamespaces", .arr [.str "ns"])]), .null, []⟩⟩

/-- At the example, the OperatorGroup `foo` was read at resource version 42, and the update the
stage sends for it carries no resource version, so the server applies it whatever happened to the
group since it was read. -/
theorem handleOpGroup_update_drops_resourceVersion :
    fooOpGroup.getResourceVersion = "42" ∧
      let r := run (acceptingCluster fooOpGroupPolicy (fun _ _ _ ↦ none) fun _ _ ↦ [fooOpGroup])
        (handleOpGroup fooOpGroupPolicy (buildOperatorGroup fooOpGroupPolicy "ns").toOption) {}
      (handleOpGroup fooOpGroupPolicy (buildOperatorGroup fooOpGroupPolicy "ns").toOption).Trace r.1 r.2.1 ∧
        (r.1.filterMap fun e ↦ match e.call with
          | .update obj => some (obj.getName, obj.getResourceVersion)
          | _ => none) = [("foo", "")] :=
  ⟨by decide, run_trace _ _ _, by decide⟩

/-! ## How many writes -/

theorem handleMergedOpGroup_records (policy : OperatorPolicy) (desiredOpGroup : OperatorGroup)
    (opGroup : Unstructured) (mergeResult : Bool × Bool × Option String × Unstructured) :
    (handleMergedOpGroup policy desiredOpGroup opGroup mergeResult).wp fun es _ ↦
      ∀ e ∈ es, ∀ c, e.recordedCondition? = some c → c.type = condType "OperatorGroup" := by
  obtain ⟨updateNeeded, skipUpdate, _ | err, merged⟩ := mergeResult
  · simp only [handleMergedOpGroup, wp_bind, wp_pure, wp_ite, wp_updateStatus, wp_update,
      wp_earlyCompliance, List.cons_append, List.nil_append]
    simp only [List.forall_mem_cons, List.not_mem_nil, Event.recordedCondition?, Option.some.injEq, forall_eq',
      matchesCond_type, mismatchCond_type, mismatchCondUnfixable_type, updatedCond_type, opGroupPreexistingCond,
      reduceCtorEq, false_implies, implies_true, and_true, true_and, and_self]
  · simp [handleMergedOpGroup]

theorem handleOneOpGroup_records (policy : OperatorPolicy) (desiredOpGroup : OperatorGroup)
    (opGroup : Unstructured) :
    (handleOneOpGroup policy desiredOpGroup opGroup).wp fun es _ ↦
      ∀ e ∈ es, ∀ c, e.recordedCondition? = some c → c.type = condType "OperatorGroup" := by
  rw [handleOneOpGroup, wp_ite]
  refine ⟨fun _ ↦ ?_, fun _ ↦ ?_⟩
  · simp only [wp_bind, wp_pure, wp_ite, wp_updateStatus, List.append_nil, List.nil_append]
    simp only [List.forall_mem_cons, List.not_mem_nil, Event.recordedCondition?, Option.some.injEq, forall_eq',
      matchesCond_type, mismatchCond_type, mismatchCondUnfixable_type, updatedCond_type, opGroupPreexistingCond,
      reduceCtorEq, false_implies, implies_true, and_true, true_and, and_self]
  rw [wp_bind]
  exact wp_mono mergeObjects_records fun es₁ r h₁ ↦
    wp_mono (handleMergedOpGroup_records policy desiredOpGroup opGroup r) fun es₂ _ h₂ e he c hc ↦
      (List.mem_append.1 he).elim (fun he ↦ by simp [h₁ e he] at hc) (h₂ e · c hc)

/-- The stage records only conditions of the OperatorGroup dimension. -/
theorem handleOpGroup_records (policy : OperatorPolicy) (desiredOpGroup : Option OperatorGroup) :
    (handleOpGroup policy desiredOpGroup).wp fun es _ ↦
      ∀ e ∈ es, ∀ c, e.recordedCondition? = some c → c.type = condType "OperatorGroup" := by
  rcases desiredOpGroup with _ | og
  · simp [handleOpGroup, Event.recordedCondition?]
  simp only [handleOpGroup, wp_bind, wp_pure, wp_ite, wp_updateStatus, wp_watchList]
  refine ⟨fun _ _ ↦ by simp [Event.recordedCondition?], fun _ ↦ ⟨fun _ ↦ by simp [Event.recordedCondition?], ?_⟩⟩
  rintro (_ | ⟨opGroup, _ | ⟨opGroup', opGroups⟩⟩)
  · simp only [wp_bind, wp_pure, wp_ite, wp_updateStatus, wp_create, wp_earlyCompliance, List.cons_append,
      List.nil_append]
    simp only [List.forall_mem_cons, List.not_mem_nil, Event.recordedCondition?, Option.some.injEq, forall_eq',
      invalidCausingUnknownCond_type, missingWantedCond_type, createdCond_type, opGroupTooManyCond,
      reduceCtorEq, false_implies, implies_true, and_true, true_and, and_self]
  · exact wp_mono (handleOneOpGroup_records policy og opGroup) fun es _ h e he c hc ↦
      (List.mem_cons.1 he).elim (fun he ↦ by simp [he, Event.recordedCondition?] at hc) (h e · c hc)
  · simp only [wp_bind, wp_updateStatus, wp_pure, List.append_nil, List.nil_append, List.singleton_append]
    simp only [List.forall_mem_cons, List.not_mem_nil, Event.recordedCondition?, Option.some.injEq, forall_eq',
      invalidCausingUnknownCond_type, missingWantedCond_type, createdCond_type, opGroupTooManyCond,
        reduceCtorEq, false_implies, implies_true, and_true, true_and, and_self]

/-! ## Which dimension the stage records -/

theorem handleMergedOpGroup_dimension (policy : OperatorPolicy) (desiredOpGroup : OperatorGroup)
    (opGroup : Unstructured) (mergeResult : Bool × Bool × Option String × Unstructured) :
    (handleMergedOpGroup policy desiredOpGroup opGroup mergeResult).wp fun es res ↦
      RecordsDimension (condType "OperatorGroup") es res.2.2 := by
  obtain ⟨updateNeeded, skipUpdate, _ | err, merged⟩ := mergeResult
  · simp only [handleMergedOpGroup, wp_bind, wp_pure, wp_ite, wp_updateStatus, wp_update,
      wp_earlyCompliance, List.cons_append, List.nil_append]
    simp [RecordsDimension, Event.recordedCondition?, opGroupPreexistingCond]
  · simp [handleMergedOpGroup, RecordsDimension]

theorem handleOneOpGroup_dimension (policy : OperatorPolicy) (desiredOpGroup : OperatorGroup)
    (opGroup : Unstructured) :
    (handleOneOpGroup policy desiredOpGroup opGroup).wp fun es res ↦
      RecordsDimension (condType "OperatorGroup") es res.2.2 := by
  rw [handleOneOpGroup, wp_ite]
  refine ⟨fun _ ↦ ?_, fun _ ↦ ?_⟩
  · simp only [wp_bind, wp_pure, wp_ite, wp_updateStatus, List.append_nil, List.nil_append]
    simp [RecordsDimension, Event.recordedCondition?, opGroupPreexistingCond]
  rw [wp_bind]
  exact wp_mono mergeObjects_records fun _ r h₁ ↦
    wp_mono (handleMergedOpGroup_dimension policy desiredOpGroup opGroup r) fun _ _ h₂ ↦
      h₂.quiet_append (recordedTypes_eq_nil h₁)

/-- The stage records the OperatorGroup condition, unless it fails. -/
theorem handleOpGroup_dimension (policy : OperatorPolicy) (desiredOpGroup : Option OperatorGroup) :
    (handleOpGroup policy desiredOpGroup).wp fun es res ↦
      RecordsDimension (condType "OperatorGroup") es res.2.2 := by
  rcases desiredOpGroup with _ | og
  · simp [handleOpGroup, RecordsDimension, Event.recordedCondition?]
  simp only [handleOpGroup, wp_bind, wp_pure, wp_ite, wp_updateStatus, wp_watchList]
  refine ⟨fun _ _ ↦ by simp [RecordsDimension, Event.recordedCondition?],
    fun _ ↦ ⟨fun _ ↦ by simp [RecordsDimension, Event.recordedCondition?], ?_⟩⟩
  rintro (_ | ⟨opGroup, _ | ⟨opGroup', opGroups⟩⟩)
  · simp only [wp_bind, wp_pure, wp_ite, wp_updateStatus, wp_create, wp_earlyCompliance, List.cons_append,
      List.nil_append]
    simp [RecordsDimension, Event.recordedCondition?]
  · exact wp_mono (handleOneOpGroup_dimension policy og opGroup) fun _ _ h ↦ h.quiet_append rfl
  · simp [RecordsDimension, Event.recordedCondition?, opGroupTooManyCond]

end OperatorPolicyController

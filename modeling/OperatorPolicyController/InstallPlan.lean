import OperatorPolicyController.Subscription

/-!
# The InstallPlan stage

`handleInstallPlan` lists the InstallPlans of the Subscription's namespace, keeps those owned by
the Subscription, and decides from their phases. A failed current plan comes first, then a plan
being installed, then the absence of plans awaiting approval. Otherwise there are plans awaiting
approval: in inform mode they are reported, and in enforce mode exactly one approvable plan, one
that targets a single CSV the policy allows, is approved by setting `spec.approved`.

A plan counts as failed when its phase is `string(operatorv1alpha1.InstallPlanFailed)`
(`installPlanFailedPhase`). That constant is `InstallPlanFailed`, the reason of a Subscription
condition, while a failed plan is in the phase `Failed`: the comparison is kept as the source
makes it.

## The loops

The source walks the lists with loops that append to accumulators. They are kept as folds with
the source's accumulators: `ownedInstallPlans` (the inner loop over owner references stops at the
first match, so a plan is kept once), `scanInstallPlans` (related objects, plans requiring
approval, and the two flags) and `scanApprovable`. Each fold is shown equal to a filter or an
`any` over the list once (`ownedInstallPlans_eq_filter`, `scanInstallPlans_eq`,
`scanApprovable_eq`), and the properties of the stage are proved from those.

## The specification's words

The approval rule (`approvedPlan`) and the status the stage reports (`installPlanReport`) are
written a second time in the words of the specification, over the listed plans, with the phase
that counts as failed as a parameter: the specification's `Failed`, or the source's
`installPlanFailedPhase`. With the source's phase each is shown to be what the stage does, through
`handleInstallPlan_listed`, which reads a run of the stage as a failed listing or a run over the
listed plans (`ListedRun`). With the specification's phase the stage departs from both when the
current plan has failed.

The conditions and related objects live in the status file, which is not part of the modelled
source; each docstring says where its text comes from.
-/

namespace OperatorPolicyController

open Reconciler

/-! ## Conditions and related objects -/

/-- `noInstallPlansCond`, as the tests show it. -/
def noInstallPlansCond : Condition :=
  ⟨condType "InstallPlan", .conditionTrue, "NoInstallPlansFound",
    "there are no relevant InstallPlans in the namespace"⟩

/-- `noInstallPlansObj`, as the tests show it: a placeholder without a name. -/
def noInstallPlansObj (ns : String) : RelatedObject :=
  ⟨installPlanGVK.kind, installPlanGVK.groupVersion, "-", ns, "Compliant",
    "There are no relevant InstallPlans in this namespace"⟩

/-- Modelled from the spec: `installPlanFailed`, the current plan failed. -/
def installPlanFailed : Condition :=
  ⟨condType "InstallPlan", .conditionFalse, "InstallPlanFailed", "the current InstallPlan has failed"⟩

/-- Modelled from the spec: `installPlanInstallingCond`, a plan is being installed. -/
def installPlanInstallingCond : Condition :=
  ⟨condType "InstallPlan", .conditionFalse, "InstallPlansInstalling",
    "a relevant InstallPlan is actively installing"⟩

/-- `installPlansNoApprovals`, as the tests show it. -/
def installPlansNoApprovals : Condition :=
  ⟨condType "InstallPlan", .conditionTrue, "NoInstallPlansRequiringApproval",
    "no InstallPlans requiring approval were found"⟩

/-- `installPlanUpgradeCond`: the versions awaiting approval and, when enforcing, the approvable
plans. The tests show the message for one version and the suffix for no approvable plan; the
message for several versions and the suffix for several approvable plans are modelled from the
spec. -/
def installPlanUpgradeCond (versions : List String) (approvableIPs : Option (List Unstructured)) :
    Condition :=
  let base := match versions with
    | [v] => "an InstallPlan to update to " ++ v ++ " is available for approval"
    | _ => "there are multiple InstallPlans available for approval (" ++ ", or ".intercalate versions ++ ")"
  let suffix := match approvableIPs with
    | some [] => " but not allowed by the specified versions in the policy"
    | some (_ :: _ :: _) => " but multiple of those match the versions specified in the policy"
    | _ => ""
  ⟨condType "InstallPlan", .conditionFalse, "InstallPlanRequiresApproval", base ++ suffix⟩

/-- `installPlanApprovedCond`; the tests show its message in the event after an approval. -/
def installPlanApprovedCond (version : String) : Condition :=
  ⟨condType "InstallPlan", .conditionTrue, "InstallPlanApproved",
    "the InstallPlan for " ++ version ++ " was approved"⟩

/-- `existingInstallPlanObj`: the plan with its phase. The tests show a plan awaiting approval as
non-compliant and a completed plan without a verdict. -/
def existingInstallPlanObj (ip : Unstructured) (phase : String) : RelatedObject :=
  relatedObj ip (if phase = "RequiresApproval" then "NonCompliant" else "") ("The InstallPlan is " ++ phase)

/-! ## The loops -/

/-- The owner reference check: the Subscription by name, kind and API version. -/
def ownerIsSubscription (sub : Subscription) (owner : OwnerReference) : Bool :=
  owner.name = sub.name && owner.kind = subscriptionGVK.kind &&
    owner.apiVersion = subscriptionGVK.groupVersion

/-- The loop that collects the owned plans; the inner loop stops at the first matching owner. -/
def ownedInstallPlans (sub : Subscription) (found : List Unstructured) : List Unstructured :=
  found.foldl (fun owned ip ↦
    if ip.getOwnerReferences.any (ownerIsSubscription sub) then owned ++ [ip] else owned) []

/-- The phase of a plan: `status.phase`, or `""` when it cannot be read. -/
def installPlanPhase (ip : Unstructured) : String :=
  (nestedString ip.object ["status", "phase"]).getD ""

/-- `string(operatorv1alpha1.InstallPlanFailed)`, the phase the loop compares with for a failed
plan: the constant OLM defines as the reason of the `InstallPlanFailed` Subscription condition. -/
def installPlanFailedPhase : String := "InstallPlanFailed"

/-- The plan is in phase `failedPhase` and the Subscription names it as its current plan. -/
def isFailedCurrentPlan (failedPhase : String) (sub : Subscription) (ip : Unstructured) : Bool :=
  installPlanPhase ip = failedPhase && sub.status.installPlanRef = some ip.getName

/-- The accumulators of the loop over the owned plans. -/
structure PlanScan where
  related : List RelatedObject := []
  ipsRequiringApproval : List Unstructured := []
  anyInstalling : Bool := false
  currentPlanFailed : Bool := false

/-- One iteration of the loop over the owned plans. -/
def scanInstallPlan (sub : Subscription) (acc : PlanScan) (ip : Unstructured) : PlanScan :=
  let phase := installPlanPhase ip
  let acc :=
    if phase = "RequiresApproval" then { acc with ipsRequiringApproval := acc.ipsRequiringApproval ++ [ip] }
    else if phase = "Installing" then { acc with anyInstalling := true }
    else if phase = installPlanFailedPhase && sub.status.installPlanRef = some ip.getName then
      { acc with currentPlanFailed := true }
    else acc
  { acc with related := acc.related ++ [existingInstallPlanObj ip phase] }

/-- The loop over the owned plans. -/
def scanInstallPlans (sub : Subscription) (owned : List Unstructured) : PlanScan :=
  owned.foldl (scanInstallPlan sub) {}

/-- The CSV names a plan targets, `spec.clusterServiceVersionNames`. -/
def installPlanCSVs (ip : Unstructured) : Option (List String) :=
  nestedStringSlice ip.object ["spec", "clusterServiceVersionNames"]

/-- `fmt.Sprintf("%v", csvNames)` of a list of strings. -/
def formatStrings (ss : List String) : String := "[" ++ " ".intercalate ss ++ "]"

/-- The version a plan offers, `[unknown]` when its CSV names cannot be read. -/
def upgradeVersion (ip : Unstructured) : String := formatStrings ((installPlanCSVs ip).getD ["unknown"])

/-- The accumulators of the loop over the plans awaiting approval. -/
structure ApprovalScan where
  approvedVersion : String := ""
  approvableInstallPlans : List Unstructured := []

/-- One iteration of the approval loop: a plan for a single CSV the policy allows is approvable. -/
def scanApprovable (versions : List String) (acc : ApprovalScan) (ip : Unstructured) : ApprovalScan :=
  match installPlanCSVs ip with
  | some [csv] =>
    if versions.isEmpty || versions.any (· = csv) then
      { approvedVersion := csv, approvableInstallPlans := acc.approvableInstallPlans ++ [ip] }
    else acc
  | _ => acc

/-! ## The stage -/

/-- The approval of the single approvable plan: `spec.approved` set, then the update. -/
def approveInstallPlan (ip : Unstructured) (approvedVersion : String) (related : List RelatedObject) :
    Reconciler (Bool × Option String) :=
  match setNestedField ip.object (.bool true) ["spec", "approved"] with
  | .error e => return (false, some s!"error approving InstallPlan: {e}")
  | .ok approved => do
    match ← update ⟨approved⟩ with
    | .error err => return (false, some s!"error updating approved InstallPlan: {err.message}")
    | .ok _ => return (← updateStatus (installPlanApprovedCond approvedVersion) related, none)

/-- The decision on the owned plans, once they are known. -/
def handleOwnedInstallPlans (policy : OperatorPolicy) (sub : Subscription) (owned : List Unstructured) :
    Reconciler (Bool × Option String) := do
  let scan := scanInstallPlans sub owned
  if scan.currentPlanFailed then return (← updateStatus installPlanFailed scan.related, none)
  if scan.anyInstalling then return (← updateStatus installPlanInstallingCond scan.related, none)
  if scan.ipsRequiringApproval.isEmpty then
    return (← updateStatus installPlansNoApprovals scan.related, none)
  let allUpgradeVersions := scan.ipsRequiringApproval.map upgradeVersion
  if policy.spec.remediationAction.isInform then
    return (← updateStatus (installPlanUpgradeCond allUpgradeVersions none) scan.related, none)
  let approval := scan.ipsRequiringApproval.foldl (scanApprovable policy.spec.versions) {}
  match approval.approvableInstallPlans with
  | [ip] => approveInstallPlan ip approval.approvedVersion scan.related
  | approvable =>
    return (← updateStatus (installPlanUpgradeCond allUpgradeVersions (some approvable)) scan.related,
      none)

/-- `handleInstallPlan`: whether the status changed, and an error. -/
def handleInstallPlan (policy : OperatorPolicy) (sub : Option Subscription) :
    Reconciler (Bool × Option String) := do
  let some sub := sub
    | return (← updateStatus (invalidCausingUnknownCond "InstallPlan") [], none)
  match ← watchList installPlanGVK sub.namespace with
  | .error err => return (false, some s!"error listing InstallPlans: {err.message}")
  | .ok foundInstallPlans =>
    match ownedInstallPlans sub foundInstallPlans with
    | [] => return (← updateStatus noInstallPlansCond [noInstallPlansObj sub.namespace], none)
    | owned => handleOwnedInstallPlans policy sub owned

/-! ## The stage contract -/

theorem approveInstallPlan_run {inform : Bool} (hi : inform = false) (ip : Unstructured)
    (approvedVersion : String) (related : List RelatedObject) :
    (approveInstallPlan ip approvedVersion related).wp fun es res ↦ StageRun inform [] es [] res.1 := by
  unfold approveInstallPlan
  split
  · simp
  · simp [hi, Event.changedStatus, Call.isStageCall]

theorem handleOwnedInstallPlans_run (policy : OperatorPolicy) (sub : Subscription)
    (owned : List Unstructured) :
    (handleOwnedInstallPlans policy sub owned).wp fun es res ↦
      StageRun policy.spec.remediationAction.isInform [] es [] res.1 := by
  simp only [handleOwnedInstallPlans, wp_bind, wp_pure, wp_ite, wp_updateStatus, List.append_nil, List.nil_append,
    StageRun.report, implies_true, true_and]
  intro _ _ _ hi
  split
  · exact approveInstallPlan_run (by simpa using hi) ..
  · simp

theorem handleInstallPlan_run (policy : OperatorPolicy) (sub : Option Subscription) :
    (handleInstallPlan policy sub).wp fun es res ↦
      StageRun policy.spec.remediationAction.isInform [] es [] res.1 := by
  rcases sub with _ | sub
  · simp [handleInstallPlan]
  simp only [handleInstallPlan, wp_bind, wp_watchList]
  refine ⟨fun _ ↦ by simp [Event.changedStatus, Call.isWrite, Call.isStageCall], fun found ↦ ?_⟩
  split
  · simp [Event.changedStatus, Call.isWrite, Call.isStageCall]
  · exact wp_stageRun_cons rfl rfl rfl (handleOwnedInstallPlans_run policy sub _)

/-! ## The loops as filters -/

/-- A loop that appends the elements satisfying `p` to an accumulator is a filter. -/
theorem foldl_append_ite {α : Type} (p : α → Bool) :
    ∀ l acc : List α, l.foldl (fun acc x ↦ if p x then acc ++ [x] else acc) acc = acc ++ l.filter p
  | [], acc => by simp
  | x :: l, acc => by
    rw [List.foldl_cons, foldl_append_ite p l]
    by_cases h : p x <;> simp [h, List.filter_cons]

theorem ownedInstallPlans_eq_filter (sub : Subscription) (found : List Unstructured) :
    ownedInstallPlans sub found = found.filter fun ip ↦ ip.getOwnerReferences.any (ownerIsSubscription sub) :=
  (foldl_append_ite _ found []).trans (List.nil_append _)

section Scan

variable (sub : Subscription) (acc : PlanScan) (ip : Unstructured)

theorem scanInstallPlan_related :
    (scanInstallPlan sub acc ip).related = acc.related ++ [existingInstallPlanObj ip (installPlanPhase ip)] := by
  unfold scanInstallPlan
  dsimp only
  split_ifs <;> rfl

theorem scanInstallPlan_ipsRequiringApproval :
    (scanInstallPlan sub acc ip).ipsRequiringApproval =
      if installPlanPhase ip = "RequiresApproval" then acc.ipsRequiringApproval ++ [ip]
      else acc.ipsRequiringApproval := by
  unfold scanInstallPlan
  dsimp only
  split_ifs <;> rfl

theorem scanInstallPlan_anyInstalling :
    (scanInstallPlan sub acc ip).anyInstalling = (acc.anyInstalling || installPlanPhase ip = "Installing") := by
  unfold scanInstallPlan
  dsimp only
  split_ifs with h₁ h₂ <;> simp_all

theorem scanInstallPlan_currentPlanFailed :
    (scanInstallPlan sub acc ip).currentPlanFailed =
      (acc.currentPlanFailed || isFailedCurrentPlan installPlanFailedPhase sub ip) := by
  unfold scanInstallPlan isFailedCurrentPlan installPlanFailedPhase
  dsimp only
  split_ifs with h₁ h₂ h₃ <;> simp_all

end Scan

/-- **The scan of the owned plans.** One related object per owned plan, in order, with its phase;
the plans awaiting approval; and whether one is being installed or the current one failed, read
off the owned plans directly. -/
theorem scanInstallPlans_eq (sub : Subscription) (owned : List Unstructured) :
    (scanInstallPlans sub owned).related = owned.map (fun ip ↦ existingInstallPlanObj ip (installPlanPhase ip)) ∧
      (scanInstallPlans sub owned).ipsRequiringApproval =
        owned.filter (fun ip ↦ installPlanPhase ip = "RequiresApproval") ∧
      (scanInstallPlans sub owned).anyInstalling = owned.any (fun ip ↦ installPlanPhase ip = "Installing") ∧
      (scanInstallPlans sub owned).currentPlanFailed = owned.any (isFailedCurrentPlan installPlanFailedPhase sub) := by
  suffices ∀ acc : PlanScan, (owned.foldl (scanInstallPlan sub) acc).related =
        acc.related ++ owned.map (fun ip ↦ existingInstallPlanObj ip (installPlanPhase ip)) ∧
      (owned.foldl (scanInstallPlan sub) acc).ipsRequiringApproval =
        acc.ipsRequiringApproval ++ owned.filter (fun ip ↦ installPlanPhase ip = "RequiresApproval") ∧
      (owned.foldl (scanInstallPlan sub) acc).anyInstalling =
        (acc.anyInstalling || owned.any (fun ip ↦ installPlanPhase ip = "Installing")) ∧
      (owned.foldl (scanInstallPlan sub) acc).currentPlanFailed =
        (acc.currentPlanFailed || owned.any (isFailedCurrentPlan installPlanFailedPhase sub)) by
    simpa using this {}
  induction owned with
  | nil => simp
  | cons ip owned ih =>
    intro acc
    obtain ⟨h₀, h₁, h₂, h₃⟩ := ih (scanInstallPlan sub acc ip)
    rw [List.foldl_cons, h₀, h₁, h₂, h₃, scanInstallPlan_related, scanInstallPlan_ipsRequiringApproval,
      scanInstallPlan_anyInstalling, scanInstallPlan_currentPlanFailed]
    refine ⟨by simp, ?_, by simp [Bool.or_assoc], by simp [Bool.or_assoc]⟩
    split_ifs with h <;> simp [h, List.filter_cons]

/-- Whether the approval loop accepts a plan: it targets exactly one CSV, which the policy's
versions allow. -/
def approvablePlan (versions : List String) (ip : Unstructured) : Bool :=
  match installPlanCSVs ip with
  | some [csv] => versions.isEmpty || versions.any (· = csv)
  | _ => false

/-- The CSV of a plan for a single CSV, the version the approval loop records for it. -/
def soleCSV (ip : Unstructured) : String :=
  match installPlanCSVs ip with
  | some [csv] => csv
  | _ => ""

theorem scanApprovable_approvableInstallPlans (versions : List String) (acc : ApprovalScan)
    (ip : Unstructured) :
    (scanApprovable versions acc ip).approvableInstallPlans =
      if approvablePlan versions ip then acc.approvableInstallPlans ++ [ip] else acc.approvableInstallPlans := by
  unfold scanApprovable approvablePlan
  split
  · split_ifs <;> rfl
  · rfl

theorem scanApprovable_approvedVersion (versions : List String) (acc : ApprovalScan) (ip : Unstructured) :
    (scanApprovable versions acc ip).approvedVersion =
      if approvablePlan versions ip then soleCSV ip else acc.approvedVersion := by
  unfold scanApprovable approvablePlan soleCSV
  split
  · split_ifs <;> rfl
  · rfl

/-- **The approval loop.** The approvable plans are the plans that target one allowed CSV, and
the approved version is the CSV of the last of them. -/
theorem scanApprovable_eq (versions : List String) :
    ∀ (l : List Unstructured) (acc : ApprovalScan),
      (l.foldl (scanApprovable versions) acc).approvableInstallPlans =
        acc.approvableInstallPlans ++ l.filter (approvablePlan versions) ∧
      (l.foldl (scanApprovable versions) acc).approvedVersion =
        ((l.filter (approvablePlan versions)).map soleCSV).getLast?.getD acc.approvedVersion
  | [], acc => by simp
  | ip :: l, acc => by
    obtain ⟨h₁, h₂⟩ := scanApprovable_eq versions l (scanApprovable versions acc ip)
    rw [List.foldl_cons, h₁, h₂, scanApprovable_approvableInstallPlans, scanApprovable_approvedVersion]
    by_cases h : approvablePlan versions ip <;> simp [h, List.filter_cons, List.getLast?_cons]

/-! ## The approval rule

The rule in the words of the specification, over the listed plans `L`, and the proof that the
stage follows it with the source's failed phase: an enforced policy approves a plan exactly when
no owned plan is being installed, the current one is not in the failed phase, and exactly one
owned plan awaits approval for a single allowed CSV. -/

/-- A plan owned by the Subscription: an owner reference with its name, kind `Subscription` and
API version `operators.coreos.com/v1alpha1`. -/
def ownsInstallPlan (sub : Subscription) (ip : Unstructured) : Bool :=
  ip.getOwnerReferences.any fun o ↦
    o.name = sub.name && o.kind = "Subscription" && o.apiVersion = "operators.coreos.com/v1alpha1"

/-- A plan that may be approved: it awaits approval, its CSV names are readable and are exactly
one CSV `c`, and `c` is one of the versions, or no versions are given. -/
def qualifiesForApproval (versions : List String) (ip : Unstructured) : Bool :=
  installPlanPhase ip = "RequiresApproval" &&
    match installPlanCSVs ip with
    | some [c] => versions.isEmpty || c ∈ versions
    | _ => false

/-- The plan approved among the owned plans, if any, when a current plan in phase `failedPhase`
counts as failed. -/
def approvalAmong (failedPhase : String) (policy : OperatorPolicy) (sub : Subscription)
    (owned : List Unstructured) : Option Unstructured :=
  if policy.spec.remediationAction.isInform then none
  else if owned.any (fun ip ↦ installPlanPhase ip = "Installing") then none
  else if owned.any (isFailedCurrentPlan failedPhase sub) then none
  else match owned.filter (qualifiesForApproval policy.spec.versions) with
    | [p] => some p
    | _ => none

/-- The plan approved among the listed plans `L`, if any. -/
def approvedPlan (failedPhase : String) (policy : OperatorPolicy) (sub : Subscription)
    (L : List Unstructured) : Option Unstructured :=
  approvalAmong failedPhase policy sub (L.filter (ownsInstallPlan sub))

/-- The decision does not depend on the order of the listed plans. -/
theorem approvedPlan_perm (failedPhase : String) (policy : OperatorPolicy) (sub : Subscription)
    {L L' : List Unstructured} (h : L.Perm L') :
    approvedPlan failedPhase policy sub L = approvedPlan failedPhase policy sub L' := by
  have hown := h.filter (ownsInstallPlan sub)
  have hany (q : Unstructured → Bool) :
      (L.filter (ownsInstallPlan sub)).any q = (L'.filter (ownsInstallPlan sub)).any q :=
    Bool.eq_iff_iff.2 (by simp only [List.any_eq_true, hown.mem_iff])
  have hq := hown.filter (qualifiesForApproval policy.spec.versions)
  unfold approvedPlan approvalAmong
  rw [hany, hany]
  split_ifs
  · rfl
  · rfl
  · rfl
  rcases hl : (L.filter (ownsInstallPlan sub)).filter (qualifiesForApproval policy.spec.versions) with
    _ | ⟨p, _ | ⟨p', ps⟩⟩ <;> rw [hl] at hq
  · rw [← List.Perm.nil_eq hq]
  · rw [List.perm_singleton.1 hq.symm]
  · rcases hl' : (L'.filter (ownsInstallPlan sub)).filter (qualifiesForApproval policy.spec.versions) with
      _ | ⟨_, _ | _⟩
    · simp [hl'] at hq
    · simpa [hl'] using hq.length_eq
    · rfl

theorem ownsInstallPlan_eq (sub : Subscription) :
    ownsInstallPlan sub = fun ip ↦ ip.getOwnerReferences.any (ownerIsSubscription sub) := rfl

/-- A run of the stage on a Subscription: the listing of the plans of its namespace failed and the
stage returned the error, having done nothing else, or it answered the plans `L` and `P L` holds
of the calls and the result. -/
def ListedRun (sub : Subscription) (P : List Unstructured → List Event → Bool × Option String → Prop)
    (es : List Event) (res : Bool × Option String) : Prop :=
  (∃ err : ApiError, es = [⟨.list installPlanGVK sub.namespace, .error err⟩] ∧
      res = (false, some s!"error listing InstallPlans: {err.message}")) ∨
    ∃ L, es.head? = some ⟨.list installPlanGVK sub.namespace, .ok L⟩ ∧ P L es res

/-- A run of the stage on a Subscription, read over the listed plans `L`: the placeholder report
when the Subscription owns none of them, and the decision on the owned plans otherwise. -/
theorem handleInstallPlan_listed (policy : OperatorPolicy) (sub : Subscription)
    {P : List Unstructured → List Event → Bool × Option String → Prop}
    (hnone : ∀ L changed, L.filter (ownsInstallPlan sub) = [] →
      P L [⟨.list installPlanGVK sub.namespace, .ok L⟩,
        ⟨.updateStatus noInstallPlansCond [noInstallPlansObj sub.namespace], changed⟩] (changed, none))
    (howned : ∀ L ip owned, L.filter (ownsInstallPlan sub) = ip :: owned →
      (handleOwnedInstallPlans policy sub (ip :: owned)).wp fun es res ↦
        P L (⟨.list installPlanGVK sub.namespace, .ok L⟩ :: es) res) :
    (handleInstallPlan policy (some sub)).wp (ListedRun sub P) := by
  simp only [handleInstallPlan, wp_bind, wp_watchList, wp_pure]
  refine ⟨fun err ↦ .inl ⟨err, rfl, rfl⟩, fun found ↦ ?_⟩
  have hfilter : found.filter (ownsInstallPlan sub) = ownedInstallPlans sub found := by
    rw [ownedInstallPlans_eq_filter, ownsInstallPlan_eq]
  generalize ownedInstallPlans sub found = owned at hfilter
  rcases owned with _ | ⟨ip, owned⟩
  · simp only [wp_bind, wp_updateStatus, wp_pure]
    exact fun changed ↦ .inr ⟨found, rfl, hnone found changed hfilter⟩
  · exact wp_mono (howned found ip owned hfilter) fun es res h ↦ .inr ⟨found, rfl, h⟩

theorem qualifiesForApproval_eq (versions : List String) (ip : Unstructured) :
    qualifiesForApproval versions ip =
      (approvablePlan versions ip && installPlanPhase ip = "RequiresApproval") := by
  unfold qualifiesForApproval approvablePlan
  rw [Bool.and_comm]
  rcases installPlanCSVs ip with _ | _ | ⟨c, _ | _⟩ <;> try rfl
  congr 2
  exact Bool.eq_iff_iff.2 (by simp [List.any_eq_true])

/-- The approval loop over the owned plans awaiting approval: the approvable plans are the owned
plans that qualify, and the approved version is the CSV of the last of them. -/
theorem scanApprovable_pending (versions : List String) (owned : List Unstructured) :
    ((owned.filter fun ip ↦ installPlanPhase ip = "RequiresApproval").foldl (scanApprovable versions)
        {}).approvableInstallPlans = owned.filter (qualifiesForApproval versions) ∧
      ((owned.filter fun ip ↦ installPlanPhase ip = "RequiresApproval").foldl (scanApprovable versions)
        {}).approvedVersion = ((owned.filter (qualifiesForApproval versions)).map soleCSV).getLast?.getD "" := by
  have hq : (owned.filter fun ip ↦ installPlanPhase ip = "RequiresApproval").filter (approvablePlan versions) =
      owned.filter (qualifiesForApproval versions) := by
    rw [List.filter_filter]
    congr 1
    funext ip
    exact (qualifiesForApproval_eq versions ip).symm
  obtain ⟨h₁, h₂⟩ := scanApprovable_eq versions (owned.filter fun ip ↦ installPlanPhase ip = "RequiresApproval") {}
  rw [h₁, h₂, hq]
  exact ⟨List.nil_append _, rfl⟩

/-- The plans the approval loop finds approvable are the owned plans that qualify. -/
theorem approvableInstallPlans_eq (versions : List String) (sub : Subscription) (owned : List Unstructured) :
    ((scanInstallPlans sub owned).ipsRequiringApproval.foldl (scanApprovable versions) {}).approvableInstallPlans =
      owned.filter (qualifiesForApproval versions) := by
  rw [(scanInstallPlans_eq sub owned).2.1]
  exact (scanApprovable_pending versions owned).1

/-- An approvable plan can be marked approved: its `spec` is an object. -/
theorem setNestedField_approved {ip : Unstructured} {cs : List String} (h : installPlanCSVs ip = some cs) :
    ∃ approved, setNestedField ip.object (.bool true) ["spec", "approved"] = .ok approved := by
  unfold installPlanCSVs nestedStringSlice nestedField at h
  unfold setNestedField
  rcases hs : Fields.get? ip.object "spec" with _ | ⟨_ | _ | _ | _ | _ | m⟩ <;>
    simp [hs, nestedField, setNestedField, Except.map] at h ⊢

/-- A plan that qualifies for approval can be marked approved. -/
theorem setNestedField_approved_of_qualifies {versions : List String} {ip : Unstructured}
    (hq : qualifiesForApproval versions ip = true) :
    ∃ approved, setNestedField ip.object (.bool true) ["spec", "approved"] = .ok approved := by
  unfold qualifiesForApproval at hq
  split at hq
  · exact setNestedField_approved ‹_›
  · simp at hq

/-- The writes `es` make are the approval of the plan `d`, if any: the plan with `spec.approved`
set to true, sent as an update, and nothing else. -/
def ApprovalWrites (d : Option Unstructured) (es : List Event) : Prop :=
  (∀ p, d = some p → ∃ approved, setNestedField p.object (.bool true) ["spec", "approved"] = .ok approved ∧
      (es.filter fun e ↦ e.call.isWrite).map Event.call = [.update ⟨approved⟩]) ∧
    (d = none → ∀ e ∈ es, e.call.isWrite = false)

theorem ApprovalWrites.none_iff {es : List Event} :
    ApprovalWrites none es ↔ ∀ e ∈ es, e.call.isWrite = false := by
  simp [ApprovalWrites]

theorem ApprovalWrites.cons {d : Option Unstructured} {e : Event} {es : List Event}
    (he : e.call.isWrite = false) (h : ApprovalWrites d es) : ApprovalWrites d (e :: es) :=
  ⟨fun p hp ↦ by simpa [he] using h.1 p hp, fun hd ↦ by simpa [he] using h.2 hd⟩

theorem approveInstallPlan_writes {ip : Unstructured} {approved : Fields} (approvedVersion : String)
    (related : List RelatedObject) (h : setNestedField ip.object (.bool true) ["spec", "approved"] = .ok approved) :
    (approveInstallPlan ip approvedVersion related).wp fun es _ ↦
      (es.filter fun e ↦ e.call.isWrite).map Event.call = [.update ⟨approved⟩] := by
  simp only [approveInstallPlan, h, wp_bind, wp_update, wp_pure, wp_updateStatus]
  simp [Call.isWrite]

theorem approvalAmong_eq_none {failedPhase : String} {policy : OperatorPolicy} {sub : Subscription}
    {owned : List Unstructured}
    (h : policy.spec.remediationAction.isInform = true ∨
      owned.any (fun ip ↦ installPlanPhase ip = "Installing") = true ∨
      owned.any (isFailedCurrentPlan failedPhase sub) = true ∨
      ∀ p, owned.filter (qualifiesForApproval policy.spec.versions) ≠ [p]) :
    approvalAmong failedPhase policy sub owned = none := by
  unfold approvalAmong
  split_ifs with h₁ h₂ h₃
  · rfl
  · rfl
  · rfl
  · rcases h with h | h | h | h
    · exact absurd h h₁
    · exact absurd h h₂
    · exact absurd h h₃
    · split
      · exact absurd ‹_› (h _)
      · rfl

theorem approvalAmong_eq_some {failedPhase : String} {policy : OperatorPolicy} {sub : Subscription}
    {owned : List Unstructured} {p : Unstructured} (hi : policy.spec.remediationAction.isInform = false)
    (hinst : owned.any (fun ip ↦ installPlanPhase ip = "Installing") = false)
    (hfail : owned.any (isFailedCurrentPlan failedPhase sub) = false)
    (hp : owned.filter (qualifiesForApproval policy.spec.versions) = [p]) :
    approvalAmong failedPhase policy sub owned = some p := by
  simp [approvalAmong, hi, hinst, hfail, hp]

/-- An approval sends the plan with `spec.approved` set, and nothing else. -/
theorem approveInstallPlan_approval {ip : Unstructured} {versions : List String}
    (hq : qualifiesForApproval versions ip = true) (approvedVersion : String) (related : List RelatedObject) :
    (approveInstallPlan ip approvedVersion related).wp fun es _ ↦ ApprovalWrites (some ip) es := by
  obtain ⟨approved, ha⟩ := setNestedField_approved_of_qualifies hq
  refine wp_mono (approveInstallPlan_writes approvedVersion related ha) fun es _ h ↦ ⟨?_, by simp⟩
  rintro p ⟨⟩
  exact ⟨approved, ha, h⟩

/-- **The decision on the owned plans.** The stage approves exactly the plan `approvalAmong`
names with the source's failed phase. -/
theorem handleOwnedInstallPlans_approval (policy : OperatorPolicy) (sub : Subscription)
    (owned : List Unstructured) :
    (handleOwnedInstallPlans policy sub owned).wp fun es _ ↦
      ApprovalWrites (approvalAmong installPlanFailedPhase policy sub owned) es := by
  obtain ⟨-, -, hinst, hfail⟩ := scanInstallPlans_eq sub owned
  have happ := approvableInstallPlans_eq policy.spec.versions sub owned
  have report (c : Condition) (o : List RelatedObject) (x : Bool)
      (h : approvalAmong installPlanFailedPhase policy sub owned = none) :
      ApprovalWrites (approvalAmong installPlanFailedPhase policy sub owned) [⟨.updateStatus c o, x⟩] := by
    rw [h, ApprovalWrites.none_iff]
    simp [Call.isWrite]
  simp only [handleOwnedInstallPlans, wp_bind, wp_pure, wp_ite, wp_updateStatus, List.nil_append,
    List.append_nil]
  refine ⟨fun hf _ ↦ report _ _ _ (approvalAmong_eq_none (.inr (.inr (.inl (hfail ▸ hf))))),
    fun hf ↦ ⟨fun hi _ ↦ report _ _ _ (approvalAmong_eq_none (.inr (.inl (hinst ▸ hi)))),
    fun hi ↦ ⟨fun he _ ↦ report _ _ _ (approvalAmong_eq_none (.inr (.inr (.inr fun p hp ↦ ?_)))),
    fun he ↦ ⟨fun hinf _ ↦ report _ _ _ (approvalAmong_eq_none (.inl hinf)), fun hinf ↦ ?_⟩⟩⟩⟩
  · -- nothing awaits approval, so nothing qualifies
    rw [← happ, List.isEmpty_iff.1 he] at hp
    exact List.cons_ne_nil p [] hp.symm
  · split
    · rename_i ip hip
      have hp : owned.filter (qualifiesForApproval policy.spec.versions) = [ip] := happ ▸ hip
      rw [approvalAmong_eq_some (by simpa using hinf) (by simpa [hinst] using hi) (by simpa [hfail] using hf) hp]
      exact approveInstallPlan_approval (List.of_mem_filter (hp ▸ List.mem_singleton_self ip)) _ _
    · rename_i approvable hne
      simp only [wp_bind, wp_updateStatus, wp_pure, List.append_nil]
      exact fun _ ↦ report _ _ _ (approvalAmong_eq_none (.inr (.inr (.inr fun p hp ↦ hne p (happ ▸ hp)))))

/-- **The approval rule.** Over every list `L` of InstallPlans the cache returns for the
Subscription's namespace, the stage's only write is the approval of the plan `approvedPlan` names
with the source's failed phase: that plan with `spec.approved` set to true, and nothing when it
names none. The decision does not depend on the order of `L`. A listing that fails is returned as
the stage's error, with no other call. -/
theorem handleInstallPlan_approval (policy : OperatorPolicy) (sub : Subscription) :
    (∀ L L' : List Unstructured, L.Perm L' →
      approvedPlan installPlanFailedPhase policy sub L = approvedPlan installPlanFailedPhase policy sub L') ∧
      (handleInstallPlan policy (some sub)).wp
        (ListedRun sub fun L es _ ↦ ApprovalWrites (approvedPlan installPlanFailedPhase policy sub L) es) := by
  refine ⟨fun _ _ ↦ approvedPlan_perm installPlanFailedPhase policy sub,
    handleInstallPlan_listed policy sub (fun L _ h ↦ ?_) fun L ip owned h ↦ ?_⟩
  · -- no plan is owned, so none is approved
    rw [approvedPlan, h, approvalAmong_eq_none (.inr (.inr (.inr fun p ↦ by simp))), ApprovalWrites.none_iff]
    simp [Call.isWrite]
  · rw [approvedPlan, h]
    exact wp_mono (handleOwnedInstallPlans_approval policy sub _) fun es _ h ↦ h.cons rfl

/-! ## Where the stage writes -/

/-- The report on the owned plans, by the specification's priority, when a current plan in phase
`failedPhase` counts as failed. -/
def ownedPlansReport (failedPhase : String) (policy : OperatorPolicy) (sub : Subscription)
    (owned : List Unstructured) : Condition × List RelatedObject :=
  let related := owned.map fun ip ↦ existingInstallPlanObj ip (installPlanPhase ip)
  let pending := owned.filter fun ip ↦ installPlanPhase ip = "RequiresApproval"
  if owned.any (isFailedCurrentPlan failedPhase sub) then (installPlanFailed, related)
  else if owned.any fun ip ↦ installPlanPhase ip = "Installing" then (installPlanInstallingCond, related)
  else if pending.isEmpty then (installPlansNoApprovals, related)
  else if policy.spec.remediationAction.isInform then
    (installPlanUpgradeCond (pending.map upgradeVersion) none, related)
  else match owned.filter (qualifiesForApproval policy.spec.versions) with
    | [ip] => (installPlanApprovedCond (soleCSV ip), related)
    | approvable => (installPlanUpgradeCond (pending.map upgradeVersion) (some approvable), related)

/-- The InstallPlan status over the listed plans `L`: the namespace placeholder when the
Subscription owns none of them, and the report on the owned plans otherwise. -/
def installPlanReport (failedPhase : String) (policy : OperatorPolicy) (sub : Subscription)
    (L : List Unstructured) : Condition × List RelatedObject :=
  match L.filter (ownsInstallPlan sub) with
  | [] => (noInstallPlansCond, [noInstallPlansObj sub.namespace])
  | owned => ownedPlansReport failedPhase policy sub owned

/-- The decision on the owned plans records the report on them with the source's failed phase,
unless the approval it attempts fails. -/
theorem handleOwnedInstallPlans_report (policy : OperatorPolicy) (sub : Subscription)
    (owned : List Unstructured) :
    (handleOwnedInstallPlans policy sub owned).wp fun es res ↦
      (res.2 = none ∧ es.filterMap Event.recordedStatus? = [ownedPlansReport installPlanFailedPhase policy sub owned]) ∨
        (res.2 ≠ none ∧ (approvalAmong installPlanFailedPhase policy sub owned).isSome ∧
          es.filterMap Event.recordedStatus? = []) := by
  obtain ⟨hrel, hreq, hinst, hfail⟩ := scanInstallPlans_eq sub owned
  obtain ⟨happ, hver⟩ := scanApprovable_pending policy.spec.versions owned
  unfold handleOwnedInstallPlans ownedPlansReport
  simp only [hrel, hreq, hinst, hfail, happ, hver]
  split_ifs with h₁ h₂ h₃ h₄
  pick_goal 5
  -- enforce mode: the owned plans that qualify decide, and a single one is approved
  rcases hq : owned.filter (qualifiesForApproval policy.spec.versions) with _ | ⟨ip, _ | ⟨ip', rest⟩⟩
  pick_goal 2
  · obtain ⟨approved, ha⟩ :=
      setNestedField_approved_of_qualifies (List.of_mem_filter (hq ▸ List.mem_singleton_self ip))
    have happr : approvalAmong installPlanFailedPhase policy sub owned = some ip :=
      approvalAmong_eq_some (by simpa using h₄) (by simpa using h₂) (by simpa using h₁) hq
    simp only [approveInstallPlan, ha, wp_bind, wp_update, wp_pure, wp_updateStatus]
    exact ⟨fun _ ↦ .inr ⟨nofun, by rw [happr]; rfl, rfl⟩, fun _ _ ↦ .inl ⟨trivial, rfl⟩⟩
  -- every other branch records its report
  all_goals simp only [wp_bind, wp_pure, wp_updateStatus]; exact fun _ ↦ .inl ⟨trivial, rfl⟩

/-- **The InstallPlan status.** Over every list `L` of InstallPlans the cache returns for the
Subscription's namespace, the stage records one status update, the condition and related objects
`installPlanReport` gives with the source's failed phase: the namespace placeholder when the
Subscription owns no plan, and otherwise one related object per owned plan, in the order of `L`
and with its phase, and the condition by the specification's priority. The one exception is an
approval that fails: the stage then returns the error and records nothing. A listing that fails is
returned as the stage's error, and nothing is recorded either. -/
theorem handleInstallPlan_report (policy : OperatorPolicy) (sub : Subscription) :
    (handleInstallPlan policy (some sub)).wp (ListedRun sub fun L es res ↦
      (res.2 = none ∧ es.filterMap Event.recordedStatus? = [installPlanReport installPlanFailedPhase policy sub L]) ∨
        (res.2 ≠ none ∧ (approvedPlan installPlanFailedPhase policy sub L).isSome ∧
          es.filterMap Event.recordedStatus? = [])) := by
  refine handleInstallPlan_listed policy sub (fun L _ h ↦ ?_) fun L ip owned h ↦ ?_
  · -- no plan is owned: the namespace placeholder
    simp only [installPlanReport, h]
    exact .inl ⟨trivial, rfl⟩
  · refine wp_mono (handleOwnedInstallPlans_report policy sub _) fun es res h' ↦ ?_
    simpa only [installPlanReport, approvedPlan, h] using h'

/-! ## A failed current plan

The source's phase is not the specification's: at a Subscription whose current plan `ip1` has
failed, beside a plan `ip2` awaiting approval, the stage approves `ip2` and reports on it, where
the specification's rule approves nothing and reports the failed plan. -/

/-- An InstallPlan of namespace `ns` owned by the Subscription `p`, in phase `phase`, for the CSV
`csv`. -/
def ownedPlan (name phase csv : String) : Unstructured :=
  ⟨[("apiVersion", .str "operators.coreos.com/v1alpha1"), ("kind", .str "InstallPlan"),
    ("metadata", .obj [("name", .str name), ("namespace", .str "ns"),
      ("ownerReferences", .arr [.obj [("apiVersion", .str "operators.coreos.com/v1alpha1"),
        ("kind", .str "Subscription"), ("name", .str "p")]])]),
    ("spec", .obj [("approved", .bool false), ("clusterServiceVersionNames", .arr [.str csv])]),
    ("status", .obj [("phase", .str phase)])]⟩

/-- The Subscription `p` of namespace `ns`, whose current InstallPlan is `ip1`. -/
def failedPlanSub : Subscription :=
  { name := "p", «namespace» := "ns", spec := {}, status := { installPlanRef := some "ip1" } }

/-- The current plan `ip1` failed; the plan `ip2`, for `p.v2`, awaits approval. -/
def failedAndPendingPlans : List Unstructured :=
  [ownedPlan "ip1" "Failed" "p.v1", ownedPlan "ip2" "RequiresApproval" "p.v2"]

/-- An informing policy; the stage reads nothing else of it. -/
def informingPolicy : OperatorPolicy := ⟨"default", "op", ⟨.inform, "musthave", none, .null, []⟩⟩

/-- At the example, the specification's rule approves nothing, as the current plan failed, while
the stage, enforcing, approves `ip2`. -/
theorem handleInstallPlan_approves_beside_failed_plan :
    (approvedPlan "Failed" enforcingPolicy failedPlanSub failedAndPendingPlans).map Unstructured.getName = none ∧
      let r := run (acceptingCluster enforcingPolicy (fun _ _ _ ↦ none) fun _ _ ↦ failedAndPendingPlans)
        (handleInstallPlan enforcingPolicy (some failedPlanSub)) {}
      (handleInstallPlan enforcingPolicy (some failedPlanSub)).Trace r.1 r.2.1 ∧
        (r.1.filterMap fun e ↦ e.call.writtenObject?).map Unstructured.getName = ["ip2"] :=
  ⟨by decide, run_trace _ _ _, by decide⟩

/-- At the example, the specification's priority reports the failed current plan, while the
stage, informing, reports `ip2` as awaiting approval. -/
theorem handleInstallPlan_reports_beside_failed_plan :
    (installPlanReport "Failed" informingPolicy failedPlanSub failedAndPendingPlans).1 = installPlanFailed ∧
      let r := run (acceptingCluster informingPolicy (fun _ _ _ ↦ none) fun _ _ ↦ failedAndPendingPlans)
        (handleInstallPlan informingPolicy (some failedPlanSub)) {}
      (handleInstallPlan informingPolicy (some failedPlanSub)).Trace r.1 r.2.1 ∧
        r.1.filterMap Event.recordedCondition? = [installPlanUpgradeCond ["[p.v2]"] none] :=
  ⟨by decide, run_trace _ _ _, by decide⟩

/-! ## Which dimension the stage records -/

theorem ownedPlansReport_type (failedPhase : String) (policy : OperatorPolicy) (sub : Subscription)
    (owned : List Unstructured) : (ownedPlansReport failedPhase policy sub owned).1.type = condType "InstallPlan" := by
  simp only [ownedPlansReport]
  split_ifs <;> try rfl
  split <;> rfl

theorem handleOwnedInstallPlans_dimension (policy : OperatorPolicy) (sub : Subscription)
    (owned : List Unstructured) :
    (handleOwnedInstallPlans policy sub owned).wp fun es res ↦
      RecordsDimension (condType "InstallPlan") es res.2 :=
  wp_mono (handleOwnedInstallPlans_report policy sub owned) fun es _ h ↦ by
    rcases h with ⟨hok, h⟩ | ⟨herr, -, h⟩ <;>
      simp [RecordsDimension, recordedTypes_eq_recordedStatus, h, ownedPlansReport_type, *]

/-- The stage records the InstallPlan condition, unless it fails. -/
theorem handleInstallPlan_dimension (policy : OperatorPolicy) (sub : Option Subscription) :
    (handleInstallPlan policy sub).wp fun es res ↦ RecordsDimension (condType "InstallPlan") es res.2 := by
  rcases sub with _ | sub
  · simp [handleInstallPlan, RecordsDimension, Event.recordedCondition?]
  simp only [handleInstallPlan, wp_bind, wp_watchList]
  refine ⟨fun _ ↦ by simp [RecordsDimension, Event.recordedCondition?], fun found ↦ ?_⟩
  split
  · simp [RecordsDimension, Event.recordedCondition?, noInstallPlansCond]
  · exact wp_mono (handleOwnedInstallPlans_dimension policy sub _) fun _ _ h ↦ h.quiet_append rfl

end OperatorPolicyController

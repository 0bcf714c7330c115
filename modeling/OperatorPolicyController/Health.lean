import OperatorPolicyController.InstallPlan

/-!
# The health stages

The last three stages report on what OLM made of the Subscription. `handleCSV` reads the
installed ClusterServiceVersion the Subscription's status names, `handleDeployment` the
Deployments that CSV's install strategy lists, and `handleCatalogSource` the catalog the
Subscription resolves from. They write nothing to the cluster.

Each decodes what it reads into the Go type with `FromUnstructured`; only the fields the stages
read are kept, and a field of the wrong JSON type is a conversion error.

## The conditions

The conditions and related objects live in the status file, which is not part of the modelled
source; each docstring says where its text comes from. The verdicts for a missing CSV and for the
Deployments of a missing CSV are modelled from the spec: a dimension whose desired object is
absent is reported as unknown.

## What the Deployment stage reports

`deploymentReport` states in closed form, over the answers to the stage's lookups, the related
objects and the counts the loop accumulates; `handleDeployment_report` shows the stage records
exactly that report when its lookups succeed. Each stage also reports on its own dimension only
(`handleCSV_dimension` and the two after it).
-/

namespace OperatorPolicyController

open Reconciler

/-! ## Typed views -/

/-- An integer field of a struct being converted from unstructured content. -/
def intField (m : Fields) (k : String) : Except String Int :=
  match Fields.get? m k with
  | none | some .null => .ok 0
  | some (.int n) => .ok n
  | some v => .error s!"{k}: expected number, got {v.typeName}"

/-- The fields of `operatorv1alpha1.ClusterServiceVersion` the stages read. -/
structure ClusterServiceVersion where
  name : String
  «namespace» : String
  /-- The names in `spec.install.spec.deployments`. -/
  deploymentNames : List String
  phase : String
  reason : String
  message : String

/-- The name of one deployment of an install strategy. -/
def deploymentSpecName : Value → Except String String
  | .obj d => stringField d "name"
  | v => .error s!"deployments: expected object, got {v.typeName}"

/-- `FromUnstructured` into a ClusterServiceVersion. -/
def ClusterServiceVersion.fromUnstructured (u : Unstructured) : Except String ClusterServiceVersion := do
  let metadata ← objectField u.object "metadata"
  let spec ← objectField u.object "spec"
  let install ← objectField spec "install"
  let strategy ← objectField install "spec"
  let deployments ← match Fields.get? strategy "deployments" with
    | none | some .null => pure []
    | some (.arr ds) => ds.mapM deploymentSpecName
    | some v => throw s!"deployments: expected array, got {v.typeName}"
  let status ← objectField u.object "status"
  return {
    name := ← stringField metadata "name"
    «namespace» := ← stringField metadata "namespace"
    deploymentNames := deployments
    phase := ← stringField status "phase"
    reason := ← stringField status "reason"
    message := ← stringField status "message" }

/-- The fields of `appsv1.Deployment` the stage reads. -/
structure Deployment where
  name : String
  «namespace» : String
  unavailableReplicas : Int

/-- `FromUnstructured` into a Deployment. -/
def Deployment.fromUnstructured (u : Unstructured) : Except String Deployment := do
  let metadata ← objectField u.object "metadata"
  let status ← objectField u.object "status"
  return {
    name := ← stringField metadata "name"
    «namespace» := ← stringField metadata "namespace"
    unavailableReplicas := ← intField status "unavailableReplicas" }

/-- The connection state of `operatorv1alpha1.CatalogSource`: absent when the pointer is nil. -/
def catalogSourceState (u : Unstructured) : Except String (Option String) := do
  let status ← objectField u.object "status"
  match Fields.get? status "connectionState" with
  | none | some .null => return none
  | some (.obj state) => return some (← stringField state "lastObservedState")
  | some v => throw s!"connectionState: expected object, got {v.typeName}"

/-! ## The ClusterServiceVersion stage -/

/-- Modelled from the spec: `noCSVCond`, no installed CSV is known, so its dimension is unknown. -/
def noCSVCond : Condition :=
  ⟨condType "ClusterServiceVersion", .conditionUnknown, "RelevantCSVNotFound",
    "A relevant installed ClusterServiceVersion could not be found"⟩

/-- Modelled from the spec: `noExistingCSVObj`. -/
def noExistingCSVObj : RelatedObject :=
  ⟨clusterServiceVersionGVK.kind, clusterServiceVersionGVK.groupVersion, "-", "", "NonCompliant",
    "No relevant ClusterServiceVersion found"⟩

/-- `missingCSVObj`, like the other objects that should exist. -/
def missingCSVObj (name ns : String) : RelatedObject :=
  ⟨clusterServiceVersionGVK.kind, clusterServiceVersionGVK.groupVersion, name, ns, "NonCompliant",
    "Resource not found but should exist"⟩

/-- `buildCSVCond`: OLM's reason and message, compliant when the install succeeded, as the tests
show for a succeeded and a failed CSV. -/
def buildCSVCond (csv : ClusterServiceVersion) : Condition :=
  ⟨condType "ClusterServiceVersion",
    if csv.phase = "Succeeded" then .conditionTrue else .conditionFalse, csv.reason,
    "ClusterServiceVersion - " ++ csv.message⟩

/-- `existingCSVObj`, as the tests show it. -/
def existingCSVObj (csv : ClusterServiceVersion) : RelatedObject :=
  ⟨clusterServiceVersionGVK.kind, clusterServiceVersionGVK.groupVersion, csv.name, csv.namespace,
    if csv.phase = "Succeeded" then "Compliant" else "NonCompliant", csv.reason⟩

/-- `handleCSV`: the installed CSV, whether the status changed, and an error. -/
def handleCSV (sub : Option Subscription) :
    Reconciler (Option ClusterServiceVersion × Bool × Option String) := do
  let some sub := sub | return (none, ← updateStatus noCSVCond [noExistingCSVObj], none)
  if sub.status.installedCSV = "" then return (none, ← updateStatus noCSVCond [noExistingCSVObj], none)
  match ← watchGet clusterServiceVersionGVK sub.namespace sub.status.installedCSV with
  | .error err => return (none, false, some err.message)
  | .ok none =>
    return (none, ← updateStatus (missingWantedCond "ClusterServiceVersion")
      [missingCSVObj sub.name sub.namespace], none)
  | .ok (some foundCSV) =>
    match ClusterServiceVersion.fromUnstructured foundCSV with
    | .error e => return (none, false, some e)
    | .ok csv => return (some csv, ← updateStatus (buildCSVCond csv) [existingCSVObj csv], none)

/-! ## The Deployment stage -/

/-- Modelled from the spec: `noDeploymentsCond`, no CSV means no Deployment can be checked, so its
dimension is unknown. -/
def noDeploymentsCond : Condition :=
  ⟨condType "Deployment", .conditionUnknown, "NoRelevantDeployments",
    "there are no relevant Deployments because the ClusterServiceVersion is missing"⟩

/-- Modelled from the spec: `noExistingDeploymentObj`. -/
def noExistingDeploymentObj : RelatedObject :=
  ⟨deploymentGVK.kind, deploymentGVK.groupVersion, "-", "", "NonCompliant",
    "No relevant Deployments found"⟩

/-- `missingDeploymentObj`, as the tests show it. -/
def missingDeploymentObj (name ns : String) : RelatedObject :=
  ⟨deploymentGVK.kind, deploymentGVK.groupVersion, name, ns, "NonCompliant",
    "Resource not found but should exist"⟩

/-- `existingDeploymentObj`; the tests show an available Deployment. -/
def existingDeploymentObj (dep : Deployment) : RelatedObject :=
  ⟨deploymentGVK.kind, deploymentGVK.groupVersion, dep.name, dep.namespace,
    if dep.unavailableReplicas > 0 then "NonCompliant" else "Compliant",
    if dep.unavailableReplicas > 0 then "Deployment Unavailable" else "Deployment Available"⟩

/-- `buildDeploymentCond`: the tests show the verdicts for no Deployment and for available ones;
the one for unavailable Deployments is modelled from the spec. -/
def buildDeploymentCond (depsExist : Bool) (unavailableDeps : List Deployment) : Condition :=
  if !depsExist then
    ⟨condType "Deployment", .conditionTrue, "NoExistingDeployments", "No existing operator Deployments"⟩
  else if unavailableDeps.isEmpty then
    ⟨condType "Deployment", .conditionTrue, "DeploymentsAvailable",
      "All operator Deployments have their minimum availability"⟩
  else
    ⟨condType "Deployment", .conditionFalse, "DeploymentsUnavailable",
      "Deployments " ++ ", ".intercalate (unavailableDeps.map (·.name)) ++
        " do not have their minimum availability"⟩

/-- The accumulators of the loop over the CSV's Deployments. -/
structure DeploymentScan where
  relatedObjects : List RelatedObject := []
  unavailableDeployments : List Deployment := []
  depNum : Nat := 0

/-- The loop over the CSV's Deployments: a failed lookup ends the stage; a Deployment that cannot
be converted is skipped. -/
def scanDeployments (ns : String) : List String → DeploymentScan →
    Reconciler (Except String DeploymentScan)
  | [], acc => pure (.ok acc)
  | name :: names, acc => do
    match ← watchGet deploymentGVK ns name with
    | .error err => return .error s!"error getting the Deployment: {err.message}"
    | .ok none =>
      scanDeployments ns names
        { acc with relatedObjects := acc.relatedObjects ++ [missingDeploymentObj name ns] }
    | .ok (some foundDep) =>
      match Deployment.fromUnstructured foundDep with
      | .error _ => scanDeployments ns names acc
      | .ok dep =>
        scanDeployments ns names
          { relatedObjects := acc.relatedObjects ++ [existingDeploymentObj dep]
            unavailableDeployments :=
              if dep.unavailableReplicas > 0 then acc.unavailableDeployments ++ [dep]
              else acc.unavailableDeployments
            depNum := acc.depNum + 1 }

/-- `handleDeployment`: whether the status changed, and an error. -/
def handleDeployment (csv : Option ClusterServiceVersion) : Reconciler (Bool × Option String) := do
  let some csv := csv | return (← updateStatus noDeploymentsCond [noExistingDeploymentObj], none)
  match ← scanDeployments csv.namespace csv.deploymentNames {} with
  | .error e => return (false, some e)
  | .ok scan =>
    return (← updateStatus (buildDeploymentCond (scan.depNum > 0) scan.unavailableDeployments)
      scan.relatedObjects, none)

/-! ## The CatalogSource stage -/

/-- `CatalogSourceReady`. -/
def catalogSourceReady : String := "READY"

/-- Modelled from the spec: `catalogSourceUnknownCond`, the connection state is not reported. -/
def catalogSourceUnknownCond : Condition :=
  ⟨condType "CatalogSource", .conditionUnknown, "LastObservedUnknown",
    "Could not determine last observed state of CatalogSource"⟩

/-- Modelled from the spec: `catalogSrcUnknownObj`. -/
def catalogSrcUnknownObj (name ns : String) : RelatedObject :=
  ⟨catalogSrcGVK.kind, catalogSrcGVK.groupVersion, name, ns, "NonCompliant",
    "Resource found but current state is unknown"⟩

/-- `catalogSourceFindCond`, as the tests show its three verdicts. -/
def catalogSourceFindCond (isUnhealthy isMissing : Bool) (name : String) : Condition :=
  if isMissing then
    ⟨condType "CatalogSource", .conditionTrue, "CatalogSourcesNotFound",
      "CatalogSource '" ++ name ++ "' was not found"⟩
  else if isUnhealthy then
    ⟨condType "CatalogSource", .conditionTrue, "CatalogSourcesFoundUnhealthy",
      "CatalogSource was found but is unhealthy"⟩
  else ⟨condType "CatalogSource", .conditionFalse, "CatalogSourcesFound", "CatalogSource was found"⟩

/-- `catalogSourceObj`, as the tests show it. -/
def catalogSourceObj (name ns : String) (isUnhealthy isMissing : Bool) : RelatedObject :=
  ⟨catalogSrcGVK.kind, catalogSrcGVK.groupVersion, name, ns,
    if isMissing || isUnhealthy then "NonCompliant" else "Compliant",
    if isMissing then "Resource not found but should exist"
    else if isUnhealthy then "Resource found as expected but is unhealthy"
    else "Resource found as expected"⟩

/-- `handleCatalogSource`: whether the status changed, and an error. -/
def handleCatalogSource (sub : Option Subscription) : Reconciler (Bool × Option String) := do
  let some sub := sub
    | return (← updateStatus (invalidCausingUnknownCond "CatalogSource") [], none)
  let catalogName := sub.spec.catalogSource
  let catalogNS := sub.spec.catalogSourceNamespace
  match ← watchGet catalogSrcGVK catalogNS catalogName with
  | .error err => return (false, some s!"error getting CatalogSource: {err.message}")
  | .ok none =>
    return (← updateStatus (catalogSourceFindCond true true catalogName)
      [catalogSourceObj catalogName catalogNS true true], none)
  | .ok (some foundCatalogSrc) =>
    match catalogSourceState foundCatalogSrc with
    | .error e =>
      return (false, some s!"error converting the retrieved CatalogSource to the Go type: {e}")
    | .ok none =>
      return (← updateStatus catalogSourceUnknownCond [catalogSrcUnknownObj catalogName catalogNS], none)
    | .ok (some state) =>
      let isUnhealthy := state ≠ catalogSourceReady
      return (← updateStatus (catalogSourceFindCond isUnhealthy false catalogName)
        [catalogSourceObj catalogName catalogNS isUnhealthy false], none)

/-! ## The stage contracts

The three stages only read and report. -/

theorem handleCSV_run (inform : Bool) (sub : Option Subscription) :
    (handleCSV sub).wp fun es res ↦ StageRun inform [] es [] res.2.1 := by
  rcases sub with _ | sub
  · simp [handleCSV]
  simp only [handleCSV, wp_bind, wp_pure, wp_ite, wp_updateStatus, wp_watchGet, List.nil_append,
    List.append_nil, StageRun.report, implies_true, true_and]
  refine fun _ ↦ ⟨fun _ ↦ by simp [Event.changedStatus, Call.isWrite, Call.isStageCall],
    by simp [Event.changedStatus, Call.isWrite, Call.isStageCall], fun u ↦ ?_⟩
  split <;> simp [Event.changedStatus, Call.isWrite, Call.isStageCall]

theorem scanDeployments_run (inform : Bool) (ns : String) (names : List String) (acc : DeploymentScan) :
    (scanDeployments ns names acc).wp fun es _ ↦ StageRun inform [] es [] false := by
  induction names generalizing acc with
  | nil => simp [scanDeployments]
  | cons name names ih =>
    simp only [scanDeployments, wp_bind, wp_watchGet]
    refine ⟨fun _ ↦ by simp [Event.changedStatus, Call.isWrite, Call.isStageCall], wp_stageRun_cons rfl rfl rfl (ih _),
      fun u ↦ ?_⟩
    split <;> exact wp_stageRun_cons rfl rfl rfl (ih _)

theorem handleDeployment_run (inform : Bool) (csv : Option ClusterServiceVersion) :
    (handleDeployment csv).wp fun es res ↦ StageRun inform [] es [] res.1 := by
  rcases csv with _ | csv
  · simp [handleDeployment]
  refine wp_bind_quiet (scanDeployments_run _ _ _ _) fun scan ↦ ?_
  rcases scan with _ | scan <;> simp

theorem handleCatalogSource_run (inform : Bool) (sub : Option Subscription) :
    (handleCatalogSource sub).wp fun es res ↦ StageRun inform [] es [] res.1 := by
  rcases sub with _ | sub
  · simp [handleCatalogSource]
  simp only [handleCatalogSource, wp_bind, wp_pure, wp_updateStatus, wp_watchGet, List.nil_append,
    List.append_nil]
  refine ⟨fun _ ↦ by simp [Event.changedStatus, Call.isWrite, Call.isStageCall], by simp [Event.changedStatus, Call.isWrite, Call.isStageCall],
    fun u ↦ ?_⟩
  split <;> simp [Event.changedStatus, Call.isWrite, Call.isStageCall]

/-! ## What the Deployment stage reports

In closed form, over the answers `found` to the lookups of the Deployments the CSV names: one
related object per Deployment, in the order of the install strategy (a missing one is reported
missing, one that converts with its availability, and one that does not convert is left out),
the number of converted Deployments and the unavailable ones, which the condition names. -/

/-- The Deployment a lookup found, converted to the Go type; none when it is missing or does not
convert. -/
def convertedDeployment (found : Option Unstructured) : Option Deployment :=
  found.bind fun u ↦ (Deployment.fromUnstructured u).toOption

/-- The related object reported for the lookup of `name`. -/
def deploymentObj (ns name : String) : Option Unstructured → Option RelatedObject
  | none => some (missingDeploymentObj name ns)
  | some u => (Deployment.fromUnstructured u).toOption.map existingDeploymentObj

/-- The report on the answers `found` to the lookups of `names`. -/
def deploymentReport (ns : String) (names : List String) (found : List (Option Unstructured)) :
    DeploymentScan :=
  let deps := found.filterMap convertedDeployment
  { relatedObjects := (List.zipWith (deploymentObj ns) names found).filterMap id
    unavailableDeployments := deps.filter fun dep ↦ dep.unavailableReplicas > 0
    depNum := deps.length }

/-- The lookups of the Deployments `names` in `ns` that answered `found`. -/
def deploymentLookups (ns : String) (names : List String) (found : List (Option Unstructured)) :
    List Event :=
  List.zipWith (fun name f ↦ ⟨.get deploymentGVK ns name, .ok f⟩) names found

/-- Two scans one after the other. -/
def DeploymentScan.append (a b : DeploymentScan) : DeploymentScan :=
  ⟨a.relatedObjects ++ b.relatedObjects, a.unavailableDeployments ++ b.unavailableDeployments,
    a.depNum + b.depNum⟩

namespace DeploymentScan

@[simp] theorem empty_append (s : DeploymentScan) : ({} : DeploymentScan).append s = s := by
  simp [append]

theorem append_assoc (a b c : DeploymentScan) : (a.append b).append c = a.append (b.append c) := by
  simp [append, Nat.add_assoc]

end DeploymentScan

/-- The report is built one lookup at a time. -/
theorem deploymentReport_cons (ns name : String) (names : List String) (f : Option Unstructured)
    (found : List (Option Unstructured)) :
    deploymentReport ns (name :: names) (f :: found) =
      (deploymentReport ns [name] [f]).append (deploymentReport ns names found) := by
  rcases f with _ | u
  · simp [deploymentReport, DeploymentScan.append, convertedDeployment, deploymentObj]
  rcases hd : Deployment.fromUnstructured u with _ | dep
  · simp [deploymentReport, DeploymentScan.append, convertedDeployment, deploymentObj, Except.toOption, hd]
  · by_cases h : dep.unavailableReplicas > 0 <;>
      simp [deploymentReport, DeploymentScan.append, convertedDeployment, deploymentObj, Except.toOption,
        List.filter_cons, hd, h, Nat.add_comm]

/-- What the loop over the Deployments did from the scan `acc`: every lookup succeeded and the
scan gained the report on the answers, or the lookup of `name` failed after those of `pre`
succeeded. -/
def ScanOutcome (ns : String) (names : List String) (acc : DeploymentScan) (es : List Event)
    (r : Except String DeploymentScan) : Prop :=
  (∃ found, found.length = names.length ∧ es = deploymentLookups ns names found ∧
    r = .ok (acc.append (deploymentReport ns names found))) ∨
  ∃ pre name post found e, names = pre ++ name :: post ∧ found.length = pre.length ∧
    es = deploymentLookups ns pre found ++ [⟨.get deploymentGVK ns name, .error e⟩] ∧
    r = .error s!"error getting the Deployment: {e.message}"

/-- The loop adds the report on its lookups to the scan it starts from, or stops at the first
lookup that fails. -/
theorem scanDeployments_report (ns : String) (names : List String) (acc : DeploymentScan) :
    (scanDeployments ns names acc).wp (ScanOutcome ns names acc) := by
  induction names generalizing acc with
  | nil =>
    simp only [scanDeployments, wp_pure]
    exact .inl ⟨[], rfl, rfl, by simp [deploymentReport, DeploymentScan.append]⟩
  | cons name names ih =>
    -- an answer that is not an error adds its report and continues the loop
    have step : ∀ f, (scanDeployments ns names (acc.append (deploymentReport ns [name] [f]))).wp
        fun es r ↦ ScanOutcome ns (name :: names) acc ([⟨.get deploymentGVK ns name, .ok f⟩] ++ es) r :=
      fun f ↦ wp_mono (ih _) fun es r h ↦ by
        rcases h with ⟨found, hlen, rfl, rfl⟩ | ⟨pre, n, post, found, e, rfl, hlen, rfl, rfl⟩
        · exact .inl ⟨f :: found, by simp [hlen], rfl, by rw [deploymentReport_cons ns name names f found, DeploymentScan.append_assoc]⟩
        · exact .inr ⟨name :: pre, n, post, f :: found, e, rfl, by simp [hlen], rfl, rfl⟩
    simp only [scanDeployments, wp_bind, wp_watchGet, wp_pure]
    refine ⟨fun e ↦ .inr ⟨[], name, names, [], e, rfl, rfl, rfl, rfl⟩, ?_, fun u ↦ ?_⟩
    · convert step none using 2
      simp [deploymentReport, DeploymentScan.append, deploymentObj, convertedDeployment]
    rcases hd : Deployment.fromUnstructured u with _ | dep
    · convert step (some u) using 2
      simp [deploymentReport, DeploymentScan.append, deploymentObj, convertedDeployment, hd, Except.toOption]
    · convert step (some u) using 2
      by_cases h : dep.unavailableReplicas > 0 <;>
        simp [deploymentReport, DeploymentScan.append, deploymentObj, convertedDeployment, hd, Except.toOption, h]

/-- **What the Deployment stage reports.** For an installed CSV, the stage looks up the
Deployments its install strategy names, in order, in the CSV's namespace. When every lookup
succeeds, it records one condition and the related objects of the specification's report on the
answers; the first lookup that fails ends the stage with its error, and nothing is recorded. -/
theorem handleDeployment_report (csv : ClusterServiceVersion) :
    (handleDeployment (some csv)).wp fun es res ↦
      (∃ found changed, found.length = csv.deploymentNames.length ∧
        es = deploymentLookups csv.namespace csv.deploymentNames found ++
          [⟨.updateStatus
              (buildDeploymentCond
                ((deploymentReport csv.namespace csv.deploymentNames found).depNum > 0)
                (deploymentReport csv.namespace csv.deploymentNames found).unavailableDeployments)
              (deploymentReport csv.namespace csv.deploymentNames found).relatedObjects, changed⟩] ∧
        res = (changed, none)) ∨
      ∃ pre name post found e, csv.deploymentNames = pre ++ name :: post ∧ found.length = pre.length ∧
        es = deploymentLookups csv.namespace pre found ++ [⟨.get deploymentGVK csv.namespace name, .error e⟩] ∧
        res = (false, some s!"error getting the Deployment: {e.message}") := by
  simp only [handleDeployment, wp_bind]
  refine wp_mono (scanDeployments_report _ _ _) ?_
  rintro es _ (⟨found, hlen, rfl, rfl⟩ | ⟨pre, name, post, found, e, hnames, hlen, rfl, rfl⟩)
  · simp only [wp_bind, wp_pure, wp_updateStatus, DeploymentScan.empty_append, List.append_nil]
    exact fun changed ↦ .inl ⟨found, changed, hlen, rfl, rfl⟩
  · simp only [wp_pure, List.append_nil]
    exact .inr ⟨pre, name, post, found, e, hnames, hlen, rfl, rfl⟩

/-! ## Which dimension the stages record -/

theorem buildDeploymentCond_type (depsExist : Bool) (unavailableDeps : List Deployment) :
    (buildDeploymentCond depsExist unavailableDeps).type = condType "Deployment" := by
  unfold buildDeploymentCond
  split_ifs <;> rfl

theorem catalogSourceFindCond_type (isUnhealthy isMissing : Bool) (name : String) :
    (catalogSourceFindCond isUnhealthy isMissing name).type = condType "CatalogSource" := by
  unfold catalogSourceFindCond
  split_ifs <;> rfl

/-- The lookups of the Deployments record nothing. -/
theorem deploymentLookups_recordedTypes (ns : String) (names : List String) (found : List (Option Unstructured)) :
    recordedTypes (deploymentLookups ns names found) = [] := by
  induction names generalizing found with
  | nil => rfl
  | cons name names ih =>
    cases found with
    | nil => rfl
    | cons f found =>
      show recordedTypes (_ :: deploymentLookups ns names found) = []
      simp [Event.recordedCondition?, ih]

theorem handleCSV_dimension (sub : Option Subscription) :
    (handleCSV sub).wp fun es res ↦ RecordsDimension (condType "ClusterServiceVersion") es res.2.2 := by
  rcases sub with _ | sub
  · simp [handleCSV, RecordsDimension, Event.recordedCondition?, noCSVCond]
  simp only [handleCSV, wp_bind, wp_pure, wp_ite, wp_updateStatus, wp_watchGet, List.nil_append,
    List.append_nil]
  refine ⟨fun _ _ ↦ by simp [RecordsDimension, Event.recordedCondition?, noCSVCond], fun _ ↦
    ⟨fun _ ↦ by simp [RecordsDimension, Event.recordedCondition?], by simp [RecordsDimension, Event.recordedCondition?],
      fun u ↦ ?_⟩⟩
  split <;> simp [RecordsDimension, Event.recordedCondition?, buildCSVCond]

theorem handleDeployment_dimension (csv : Option ClusterServiceVersion) :
    (handleDeployment csv).wp fun es res ↦ RecordsDimension (condType "Deployment") es res.2 := by
  rcases csv with _ | csv
  · simp [handleDeployment, RecordsDimension, Event.recordedCondition?, noDeploymentsCond]
  simp only [handleDeployment, wp_bind]
  refine wp_mono (scanDeployments_report _ _ _) ?_
  rintro es _ (⟨found, -, rfl, rfl⟩ | ⟨pre, name, post, found, e, -, -, rfl, rfl⟩)
  · simp only [wp_bind, wp_pure, wp_updateStatus]
    exact fun _ ↦ by simp [RecordsDimension, deploymentLookups_recordedTypes, Event.recordedCondition?,
      buildDeploymentCond_type]
  · simp [RecordsDimension, deploymentLookups_recordedTypes, Event.recordedCondition?]

theorem handleCatalogSource_dimension (sub : Option Subscription) :
    (handleCatalogSource sub).wp fun es res ↦ RecordsDimension (condType "CatalogSource") es res.2 := by
  rcases sub with _ | sub
  · simp [handleCatalogSource, RecordsDimension, Event.recordedCondition?]
  simp only [handleCatalogSource, wp_bind, wp_pure, wp_updateStatus, wp_watchGet, List.nil_append,
    List.append_nil]
  refine ⟨fun _ ↦ by simp [RecordsDimension, Event.recordedCondition?],
    by simp [RecordsDimension, Event.recordedCondition?, catalogSourceFindCond_type], fun u ↦ ?_⟩
  split <;> simp [RecordsDimension, Event.recordedCondition?, catalogSourceFindCond_type, catalogSourceUnknownCond]

end OperatorPolicyController

import OperatorPolicyController.Status
import OperatorPolicyController.Stage

/-!
# The desired state

`buildSubscription` and `buildOperatorGroup` turn the raw fragments of the policy into the
desired objects; `buildResources` runs both, checks that the operator namespace exists, and
records the validity condition.

The namespace is resolved once, by `buildSubscription`: the fragment's `namespace` entry when it
is a string, the reconciler's default namespace otherwise. The OperatorGroup follows the
Subscription into that namespace only when the Subscription builds; when it does not, the
OperatorGroup is built in the default namespace. Both desired objects live in `opGroupNamespace`,
the namespace the OperatorGroup stage looks in (`buildSubscription_toOption_namespace`,
`buildOperatorGroup_toOption_namespace`).
-/

namespace OperatorPolicyController

/-- `validation.IsDNS1123Label` holds: at most 63 characters of `[a-z0-9-]`, starting and ending
with an alphanumeric. -/
def isDNS1123Label (s : String) : Bool :=
  let cs := s.toList
  0 < cs.length && cs.length ≤ 63 && cs.all (fun c ↦ c.isLower || c.isDigit || c = '-') &&
    cs.head? != some '-' && cs.getLast? != some '-'

/-- The namespace lookup of `buildSubscription`: a string `namespace` entry, or the default. -/
def resolveNamespace (sub : Fields) (defaultNS : String) : Except String String :=
  match Fields.get? sub "namespace" with
  | some (.str ns) => .ok ns
  | _ => if defaultNS = "" then .error "namespace is required in spec.subscription" else .ok defaultNS

/-- The namespace name check of `buildSubscription`. -/
def checkNamespace (ns : String) : Except String Unit :=
  if isDNS1123Label ns then .ok ()
  else .error s!"the namespace '{ns}' used for the subscription is not a valid namespace identifier"

/-- The `installPlanApproval` check of `buildSubscription`, which the CRD does not make. -/
def checkInstallPlanApproval (spec : SubscriptionSpec) : Except String Unit :=
  if spec.installPlanApproval = "Manual" || spec.installPlanApproval = "Automatic" then .ok ()
  else .error s!"the policy spec.subscription.installPlanApproval ('{spec.installPlanApproval}') is invalid: must be 'Automatic' or 'Manual'"

/-- The approval mode is forced to `Manual` when an enforced policy restricts the versions, so that
upgrades go through the approval of `handleInstallPlan`. -/
def approvalOverride (policy : OperatorPolicy) (spec : SubscriptionSpec) : SubscriptionSpec :=
  if policy.spec.remediationAction.isEnforce && !policy.spec.versions.isEmpty then
    { spec with installPlanApproval := "Manual" } else spec

/-- `buildSubscription`: the desired Subscription, or why the policy's `spec.subscription` is
invalid. -/
def buildSubscription (policy : OperatorPolicy) (defaultNS : String) : Except String Subscription := do
  let sub ← (unmarshalObject policy.spec.subscription).mapError
    fun e ↦ s!"the policy spec.subscription is invalid: {e}"
  let ns ← resolveNamespace sub defaultNS
  checkNamespace ns
  let spec ← (decodeFields SubscriptionSpec.set {} (Fields.erase sub "namespace")).mapError
    fun e ↦ s!"the policy spec.subscription is invalid: {e}"
  checkInstallPlanApproval spec
  let spec := approvalOverride policy spec
  return { name := spec.package, «namespace» := ns, spec }

/-- The check of a namespace given in `spec.operatorGroup` against the Subscription's. -/
def checkOpGroupNamespace (opGroup : Fields) (ns : String) : Except String Unit :=
  match Fields.get? opGroup "namespace" with
  | some (.str specifiedNS) =>
    if specifiedNS ≠ "" && specifiedNS ≠ ns && ns ≠ "" then
      .error s!"the namespace specified in spec.operatorGroup ('{specifiedNS}') must match the namespace used for the subscription ('{ns}')"
    else .ok ()
  | _ => .ok ()

/-- The `name` of `spec.operatorGroup`, which must be a string. -/
def opGroupName (opGroup : Fields) : Except String String :=
  match Fields.get? opGroup "name" with
  | some (.str name) => .ok name
  | _ => .error "name is required in spec.operatorGroup"

/-- `buildOperatorGroup`: the OperatorGroup the policy specifies, or the default one the console
would create, in namespace `ns`. -/
def buildOperatorGroup (policy : OperatorPolicy) (ns : String) : Except String OperatorGroup :=
  match policy.spec.operatorGroup with
  | none => .ok { generateName := ns ++ "-", «namespace» := ns, spec := {} }
  | some raw => do
    let opGroup ← (unmarshalObject raw).mapError
      fun e ↦ s!"the policy spec.operatorGroup is invalid: {e}"
    checkOpGroupNamespace opGroup ns
    let name ← opGroupName opGroup
    let spec ← (decodeFields OperatorGroupSpec.set {}
        (Fields.erase (Fields.erase opGroup "name") "namespace")).mapError
      fun e ↦ s!"the policy spec.operatorGroup is invalid: {e}"
    return { name, «namespace» := ns, spec }

/-- The namespace `buildResources` builds the OperatorGroup in. -/
def opGroupNamespace (sub : Except String Subscription) (defaultNS : String) : String :=
  match sub with
  | .ok s => if s.namespace ≠ "" then s.namespace else defaultNS
  | .error _ => defaultNS

/-- The validation errors of a build result. -/
def buildErrors {α : Type} : Except String α → List String
  | .ok _ => []
  | .error e => [e]

/-- `buildResources`: the desired Subscription and OperatorGroup (absent when invalid), whether
the validity condition changed the status, and an error when the namespace lookup failed. -/
def buildResources (defaultNS : String) (policy : OperatorPolicy) :
    Reconciler (Option Subscription × Option OperatorGroup × Bool × Option String) := do
  let sub := buildSubscription policy defaultNS
  let opGroupNS := opGroupNamespace sub defaultNS
  let opGroup := buildOperatorGroup policy opGroupNS
  match ← Reconciler.watchGet namespaceGVK "" opGroupNS with
  | .error err =>
    return (sub.toOption, opGroup.toOption, false, some s!"error getting operator namespace: {err.message}")
  | .ok gotNamespace =>
    let missing := if gotNamespace.isNone then
      [s!"the operator namespace ('{opGroupNS}') does not exist"] else []
    let changed ← Reconciler.updateStatus
      (validationCond (buildErrors sub ++ buildErrors opGroup ++ missing)) []
    return (sub.toOption, opGroup.toOption, changed, none)

/-! ## Where the desired objects live -/

theorem Except.bind_eq_ok {ε α β : Type} {x : Except ε α} {f : α → Except ε β} {b : β} :
    x >>= f = .ok b ↔ ∃ a, x = .ok a ∧ f a = .ok b := by
  cases x <;> simp [bind, Except.bind]

section Contract

open Reconciler

/-- The validation step writes nothing and returns no early event. -/
theorem buildResources_run (inform : Bool) (defaultNS : String) (policy : OperatorPolicy) :
    (buildResources defaultNS policy).wp fun es res ↦ StageRun inform [] es [] res.2.2.1 := by
  simp only [buildResources, wp_bind, wp_watchGet]
  refine ⟨fun _ ↦ ?_, ?_, fun _ ↦ ?_⟩ <;> simp [Event.changedStatus, Call.isWrite, Call.isStageCall]

/-- The desired objects `buildResources` hands on are the built ones, and the only condition it
records is the validity condition. -/
theorem buildResources_desired (defaultNS : String) (policy : OperatorPolicy) :
    (buildResources defaultNS policy).wp fun es res ↦
      res.1 = (buildSubscription policy defaultNS).toOption ∧
      res.2.1 = (buildOperatorGroup policy (opGroupNamespace (buildSubscription policy defaultNS) defaultNS)).toOption ∧
      ∀ e ∈ es, ∀ c, e.recordedCondition? = some c → c.type = "ValidPolicySpec" := by
  simp only [buildResources, wp_bind, wp_watchGet, wp_updateStatus, wp_pure]
  simp [Event.recordedCondition?]

/-- The validation step records the validity condition, unless the namespace lookup fails. -/
theorem buildResources_dimension (defaultNS : String) (policy : OperatorPolicy) :
    (buildResources defaultNS policy).wp fun es res ↦ RecordsDimension "ValidPolicySpec" es res.2.2.2 := by
  simp only [buildResources, wp_bind, wp_watchGet]
  refine ⟨fun _ ↦ ?_, ?_, fun _ ↦ ?_⟩ <;> simp [RecordsDimension, Event.recordedCondition?]

end Contract

end OperatorPolicyController

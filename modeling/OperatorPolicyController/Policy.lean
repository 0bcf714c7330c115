import OperatorPolicyController.Unstructured

/-!
# The operator policy and its status vocabulary

The governed object, `policyv1beta1.OperatorPolicy`, with the fields of its spec the controller
reads, and the two kinds of record the controller writes into its status: conditions
(`metav1.Condition`) and related objects (`policyv1.RelatedObject`).

The remediation action is a two-valued type. The CRD admits only `Inform`, `inform`, `Enforce`
and `enforce`, and `IsInform`/`IsEnforce` compare case-insensitively, so two values are every
policy the controller can receive.

The raw fragments `spec.subscription` and `spec.operatorGroup` are `runtime.RawExtension`s; they
are held here as the JSON they decode to, since the API server only stores valid JSON.
-/

namespace OperatorPolicyController

/-! ## Group, version and kind -/

/-- `schema.GroupVersionKind`. -/
structure GroupVersionKind where
  group : String
  version : String
  kind : String
  deriving DecidableEq, Repr

/-- `GroupVersion().String()`: the core group is written without a group part. -/
def GroupVersionKind.groupVersion (gvk : GroupVersionKind) : String :=
  if gvk.group = "" then gvk.version else gvk.group ++ "/" ++ gvk.version

def namespaceGVK : GroupVersionKind := ⟨"", "v1", "Namespace"⟩

def subscriptionGVK : GroupVersionKind := ⟨"operators.coreos.com", "v1alpha1", "Subscription"⟩

def operatorGroupGVK : GroupVersionKind := ⟨"operators.coreos.com", "v1", "OperatorGroup"⟩

def clusterServiceVersionGVK : GroupVersionKind :=
  ⟨"operators.coreos.com", "v1alpha1", "ClusterServiceVersion"⟩

def deploymentGVK : GroupVersionKind := ⟨"apps", "v1", "Deployment"⟩

def catalogSrcGVK : GroupVersionKind := ⟨"operators.coreos.com", "v1alpha1", "CatalogSource"⟩

def installPlanGVK : GroupVersionKind := ⟨"operators.coreos.com", "v1alpha1", "InstallPlan"⟩

/-! ## The policy -/

/-- `policyv1.RemediationAction`, as the CRD admits it. -/
inductive RemediationAction where
  | inform
  | enforce
  deriving DecidableEq, Repr

/-- `IsInform`. -/
def RemediationAction.isInform : RemediationAction → Bool
  | .inform => true
  | .enforce => false

/-- `IsEnforce`. -/
def RemediationAction.isEnforce : RemediationAction → Bool
  | .inform => false
  | .enforce => true

@[simp] theorem RemediationAction.isEnforce_eq_not_isInform (a : RemediationAction) :
    a.isEnforce = !a.isInform := by
  cases a <;> rfl

/-- The fields of `OperatorPolicySpec` the reconciler reads. -/
structure OperatorPolicySpec where
  remediationAction : RemediationAction
  /-- Passed unchanged to the merge engine. -/
  complianceType : String
  /-- `spec.operatorGroup`, absent when the policy leaves the OperatorGroup to the default. -/
  operatorGroup : Option Value
  /-- `spec.subscription`. -/
  subscription : Value
  /-- `spec.versions`: the CSV names an approval may target; empty allows every version. -/
  versions : List String

/-- `policyv1beta1.OperatorPolicy`: its identity and its spec. The status is owned by the status
operations of `OperatorPolicyController.Reconciler`. -/
structure OperatorPolicy where
  «namespace» : String
  name : String
  spec : OperatorPolicySpec

/-! ## Conditions and related objects -/

/-- `metav1.ConditionStatus`. -/
inductive ConditionStatus where
  | conditionTrue
  | conditionFalse
  | conditionUnknown
  deriving DecidableEq, Repr

/-- `metav1.Condition`. The transition time is not modelled. -/
structure Condition where
  type : String
  status : ConditionStatus
  reason : String
  message : String
  deriving DecidableEq, Repr

/-- `policyv1.RelatedObject`, flattened: the object's identity and the verdict on it. -/
structure RelatedObject where
  kind : String
  apiVersion : String
  name : String
  «namespace» : String
  compliant : String
  reason : String
  deriving DecidableEq, Repr

end OperatorPolicyController

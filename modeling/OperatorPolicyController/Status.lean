import OperatorPolicyController.Reconciler

/-!
# The status vocabulary and the status operations

The conditions, related objects, `updateStatus` and `calculateComplianceCondition` the reconciler
uses live in `operatorpolicy_status.go`, which is not part of the modelled source. The values
below are taken from the end-to-end tests where those show them (each docstring says so) and are
otherwise modelled from the specification.

## Status operations

`updateStatus` keeps exactly one condition per type and replaces the related objects of the
kind it is given wholesale (spec §3); it answers whether anything changed.
`calculateComplianceCondition` summarizes the dimensions in pipeline order. `Reconciler.run`
answers the cluster calls from a given function and the status calls with these two, on a
concrete status; `run_trace` shows that every such run is a trace, so everything proved over
all traces holds of it. `acceptingCluster` is the cluster such runs use: it holds given objects
and accepts every write.
-/

namespace OperatorPolicyController

/-! ## Conditions -/

/-- The condition type of a dimension. The CatalogSource dimension is reported as
`CatalogSourcesUnhealthy` in the end-to-end tests. -/
def condType (kind : String) : String :=
  if kind = "CatalogSource" then "CatalogSourcesUnhealthy" else kind ++ "Compliant"

/-- Modelled from the spec: a dimension's condition reports non-compliance. The
`CatalogSourcesUnhealthy` condition is stated negatively, so there `True` is the bad verdict. -/
def Condition.reportsNonCompliance (c : Condition) : Bool :=
  if c.type = "CatalogSourcesUnhealthy" then c.status = .conditionTrue
  else c.status = .conditionFalse

/-- `validationCond`, as the validation end-to-end tests show it: the messages of the
validation errors without their leading "the policy ". -/
def validationCond (errs : List String) : Condition :=
  if errs = [] then ⟨"ValidPolicySpec", .conditionTrue, "PolicyValidated", "the policy spec is valid"⟩
  else ⟨"ValidPolicySpec", .conditionFalse, "InvalidPolicySpec",
    ", ".intercalate (errs.map fun e ↦ if e.startsWith "the policy " then e.drop 11 else e)⟩

/-- `invalidCausingUnknownCond`; its message is the one the validation tests show. -/
def invalidCausingUnknownCond (kind : String) : Condition :=
  ⟨condType kind, .conditionUnknown, "InvalidPolicySpec",
    "the status of the " ++ kind ++ " could not be determined because the policy is invalid"⟩

/-- `missingWantedCond`, as the tests show it for OperatorGroups and Subscriptions. -/
def missingWantedCond (kind : String) : Condition :=
  ⟨condType kind, .conditionFalse, kind ++ "Missing",
    "the " ++ kind ++ " required by the policy was not found"⟩

/-- `createdCond`; the tests show its message in the event after a creation. -/
def createdCond (kind : String) : Condition :=
  ⟨condType kind, .conditionTrue, kind ++ "Created",
    "the " ++ kind ++ " required by the policy was created"⟩

/-- `matchesCond`, as the tests show it. -/
def matchesCond (kind : String) : Condition :=
  ⟨condType kind, .conditionTrue, kind ++ "Matches",
    "the " ++ kind ++ " matches what is required by the policy"⟩

/-- `mismatchCond`, as the tests show it. -/
def mismatchCond (kind : String) : Condition :=
  ⟨condType kind, .conditionFalse, kind ++ "Mismatch",
    "the " ++ kind ++ " found on the cluster does not match the policy"⟩

/-- Modelled from the spec: `mismatchCondUnfixable`, the mismatch enforcement cannot close. -/
def mismatchCondUnfixable (kind : String) : Condition :=
  ⟨condType kind, .conditionFalse, kind ++ "Mismatch",
    "the " ++ kind ++ " found on the cluster does not match the policy and can't be enforced"⟩

/-- `updatedCond`; the tests show its message in the event after an update. -/
def updatedCond (kind : String) : Condition :=
  ⟨condType kind, .conditionTrue, kind ++ "Updated", "the " ++ kind ++ " was updated to match the policy"⟩

/-- Each condition is of the dimension it is built for. -/
@[simp] theorem validationCond_type (errs : List String) : (validationCond errs).type = "ValidPolicySpec" := by
  unfold validationCond
  split <;> rfl

section CondType

variable (kind : String)

@[simp] theorem invalidCausingUnknownCond_type : (invalidCausingUnknownCond kind).type = condType kind := rfl

@[simp] theorem missingWantedCond_type : (missingWantedCond kind).type = condType kind := rfl

@[simp] theorem createdCond_type : (createdCond kind).type = condType kind := rfl

@[simp] theorem matchesCond_type : (matchesCond kind).type = condType kind := rfl

@[simp] theorem mismatchCond_type : (mismatchCond kind).type = condType kind := rfl

@[simp] theorem mismatchCondUnfixable_type : (mismatchCondUnfixable kind).type = condType kind := rfl

@[simp] theorem updatedCond_type : (updatedCond kind).type = condType kind := rfl

end CondType

/-! ## Related objects -/

/-- A related object for `u`; an object without a name is listed as `-`, as the tests show for
the default OperatorGroup. -/
def relatedObj (u : Unstructured) (compliant reason : String) : RelatedObject :=
  ⟨u.getKind, u.getAPIVersion, if u.getName = "" then "-" else u.getName, u.getNamespace,
    compliant, reason⟩

def missingWantedObj (u : Unstructured) : RelatedObject :=
  relatedObj u "NonCompliant" "Resource not found but should exist"

/-- Modelled from the spec. -/
def createdObj (u : Unstructured) : RelatedObject := relatedObj u "Compliant" "Resource was created"

def matchedObj (u : Unstructured) : RelatedObject :=
  relatedObj u "Compliant" "Resource found as expected"

def mismatchedObj (u : Unstructured) : RelatedObject :=
  relatedObj u "NonCompliant" "Resource found but does not match"

/-- Modelled from the spec. -/
def updatedObj (u : Unstructured) : RelatedObject :=
  relatedObj u "Compliant" "Resource was updated to match"

def nonCompObj (u : Unstructured) (reason : String) : RelatedObject :=
  relatedObj u "NonCompliant" reason

/-! ## The status and its operations -/

/-- The status of an operator policy: its conditions and related objects. -/
structure PolicyStatus where
  conditions : List Condition := []
  relatedObjects : List RelatedObject := []

/-- Modelled from the spec: `updateStatus` sets the condition of `cond`'s type and replaces the
related objects of the given kind, answering whether either changed. -/
def PolicyStatus.updateStatus (st : PolicyStatus) (cond : Condition) (objs : List RelatedObject) :
    PolicyStatus × Bool :=
  let others := st.conditions.filter fun c ↦ c.type ≠ cond.type
  let condChanged := !(st.conditions.contains cond) || st.conditions.length ≠ others.length + 1
  match objs with
  | [] => (⟨others ++ [cond], st.relatedObjects⟩, condChanged)
  | o :: _ =>
    let kept := st.relatedObjects.filter fun r ↦ r.kind ≠ o.kind
    let previous := st.relatedObjects.filter fun r ↦ r.kind = o.kind
    (⟨others ++ [cond], kept ++ objs⟩, condChanged || previous != objs)

/-- The dimensions in pipeline order. -/
def dimensionTypes : List String :=
  ["ValidPolicySpec", condType "OperatorGroup", condType "Subscription", condType "InstallPlan",
    condType "ClusterServiceVersion", condType "Deployment", condType "CatalogSource"]

/-- Modelled from the spec: the policy is compliant when every dimension has a condition and
none of them is unknown or reports non-compliance. -/
def PolicyStatus.calculateComplianceCondition (st : PolicyStatus) : Condition :=
  let conds := dimensionTypes.filterMap fun t ↦ st.conditions.find? fun c ↦ c.type = t
  let compliant := conds.length = dimensionTypes.length &&
    conds.all fun c ↦ c.status ≠ .conditionUnknown && !c.reportsNonCompliance
  ⟨"Compliant", if compliant then .conditionTrue else .conditionFalse,
    if compliant then "Compliant" else "NonCompliant", "; ".intercalate (conds.map (·.message))⟩

namespace Reconciler

/-- Run `m` with the cluster calls answered by `answer` and the status calls on `st`: the
answered calls, the result and the final status. -/
def run {α : Type} (answer : (c : Call) → c.Resp) : Reconciler α → PolicyStatus →
    List Event × α × PolicyStatus
  | .ret a, st => ([], a, st)
  | .call c k, st =>
    match c, k with
    | .updateStatus cond objs, k =>
      let (st', changed) := st.updateStatus cond objs
      let (es, a, st'') := run answer (k changed) st'
      (⟨.updateStatus cond objs, changed⟩ :: es, a, st'')
    | .complianceCondition, k =>
      let cond := st.calculateComplianceCondition
      let (es, a, st') := run answer (k cond) st
      (⟨.complianceCondition, cond⟩ :: es, a, st')
    | c, k =>
      let (es, a, st') := run answer (k (answer c)) st
      (⟨c, answer c⟩ :: es, a, st')

/-- **Concrete runs are traces.** -/
theorem run_trace {α : Type} (answer : (c : Call) → c.Resp) (m : Reconciler α) (st : PolicyStatus) :
    m.Trace (run answer m st).1 (run answer m st).2.1 := by
  induction m generalizing st with
  | ret a => exact .ret a
  | call c k ih =>
    cases c <;> simp only [run] <;> exact .call _ (ih _ _)

/-- A cluster that holds `policy` and the objects `get` and `list` describe, and accepts every
write and dry run, answering the object it was sent. `run` answers the status calls itself. -/
def acceptingCluster (policy : OperatorPolicy) (get : GroupVersionKind → String → String → Option Unstructured)
    (list : GroupVersionKind → String → List Unstructured) : (c : Call) → c.Resp
  | .getPolicy => .ok policy
  | .get gvk ns name => .ok (get gvk ns name)
  | .list gvk ns => .ok (list gvk ns)
  | .create obj | .update obj | .dryRunUpdate obj => .ok obj
  | .removeWatcher | .startQueryBatch | .endQueryBatch | .statusUpdate | .emitComplianceEvent _ => .ok ()
  | .updateStatus .. => false
  | .complianceCondition => ⟨"", .conditionUnknown, "", ""⟩

end Reconciler

end OperatorPolicyController

import OperatorPolicyController.Build

/-!
# The merge engine

`mergeObjects` decides whether an existing object already satisfies a desired one. It strips the
server-managed fields from a copy of the existing object, lets `handleKeys` merge the desired
keys into the existing object and compare them with the copy, and, when that reports a
difference, asks the API server for a dry-run update. A dry run rejected as forbidden (an
immutable field) is reported as needed but forbidden; a dry run that changes nothing once the
same fields are stripped means no update is needed.

`removeFieldsForComparison` and `handleKeys` are not part of the modelled source. They are
modelled from the spec (§4.2): the stripped fields are the resource version, the managed-field
metadata, the generated timestamp and generation, and the status subtree; must-have merges the
desired keys into the existing object, keeping the keys only the existing object has,
must-only-have keeps exactly the keys the desired object specifies, and arrays and scalars are
replaced as whole values.

## What the dry run leaves behind

The object `mergeObjects` returns is the one the controller sends in its enforcement update.
When an update is needed and can be made, the engine made exactly one call, the dry run of
`mergedObject`, and the object it returns is the server's answer to it with the same fields
stripped: no resource version and no status (`mergeObjects_update`).
-/

namespace OperatorPolicyController

/-- Modelled from the spec: the paths `removeFieldsForComparison` removes. -/
def fieldsRemovedForComparison : List (List String) :=
  [["metadata", "managedFields"], ["metadata", "creationTimestamp"], ["metadata", "generation"],
    ["metadata", "resourceVersion"], ["status"]]

/-- Modelled from the spec: `removeFieldsForComparison`. -/
def removeFieldsForComparison (u : Unstructured) : Unstructured :=
  ⟨fieldsRemovedForComparison.foldl removeNestedField u.object⟩

mutual

/-- Modelled from the spec: the value a desired value merges to over an existing one. -/
def mergeValue (mustOnly : Bool) : Value → Value → Value
  | .obj d, .obj e => .obj (mergeFields mustOnly d e)
  | d, _ => d

/-- Modelled from the spec: object merge; must-only-have drops the keys `d` does not give. -/
def mergeFields (mustOnly : Bool) : Fields → Fields → Fields
  | [], e => if mustOnly then [] else e
  | (k, dv) :: d, e =>
    Fields.insert (mergeFields mustOnly d e) k (mergeValue mustOnly dv ((Fields.get? e k).getD .null))

end

/-- Modelled from the spec: one key of `handleKeys`. A key other than `metadata` and `status` is
merged into the existing object, compared with the stripped copy, and written back on a
difference. The desired objects carry no labels or annotations, the only metadata the engine
merges, and a status difference never asks for an update. -/
def handleKey (existingCopy : Unstructured) (mustOnly : Bool) (acc : String × Bool × Unstructured)
    (e : String × Value) : String × Bool × Unstructured :=
  if e.1 = "metadata" || e.1 = "status" then acc
  else
    let current := (Fields.get? existingCopy.object e.1).getD .null
    let merged := mergeValue mustOnly e.2 current
    if merged.deepEqual current then acc
    else (acc.1, true, ⟨Fields.insert acc.2.2.object e.1 merged⟩)

/-- Modelled from the spec: `handleKeys` over the top-level keys of the desired object. Answers
the error message (none arises here), whether an update is needed, and the merged object. -/
def handleKeys (desired existing existingCopy : Unstructured) (complianceType : String) :
    String × Bool × Unstructured :=
  desired.object.foldl (handleKey existingCopy (asciiLower complianceType = "mustonlyhave"))
    ("", false, existing)

/-- What `mergeObjects` concludes from the answer to its dry run of `merged`: forbidden means an
update is needed but cannot be made; an accepted dry run replaces the merged object by the
server's answer, stripped, and an update is needed only when that differs from the stripped copy
of the existing object. -/
def dryRunOutcome (merged existingObjectCopy : Unstructured) :
    Except ApiError Unstructured → Bool × Bool × Option String × Unstructured
  | .error err =>
    if err.reason = .forbidden then (true, true, none, merged) else (true, false, some err.message, merged)
  | .ok response =>
    let existing := removeFieldsForComparison response
    (!Value.deepEqual (.obj existing.object) (.obj existingObjectCopy.object), false, none, existing)

/-- The object `handleKeys` merges the desired object into: the one `mergeObjects` dry-runs. -/
def mergedObject (desired existing : Unstructured) (complianceType : String) : Unstructured :=
  (handleKeys desired existing (removeFieldsForComparison existing) complianceType).2.2

/-- `mergeObjects`: whether an update is needed, whether the server forbids it, an error, and the
existing object as the controller holds it afterwards (merged, or replaced by the stripped
dry-run answer). -/
def mergeObjects (desired existing : Unstructured) (complianceType : String) :
    Reconciler (Bool × Bool × Option String × Unstructured) := do
  let existingObjectCopy := removeFieldsForComparison existing
  let (errMsg, updateNeeded, existing) := handleKeys desired existing existingObjectCopy complianceType
  if errMsg ≠ "" then return (updateNeeded, false, some errMsg, existing)
  if !updateNeeded then return (false, false, none, existing)
  return dryRunOutcome existing existingObjectCopy (← Reconciler.dryRunUpdate existing)

/-! ## What the merge keeps -/

section Merge

variable {desired existing existingCopy : Unstructured} {complianceType : String}

theorem handleKey_errMsg (c : Unstructured) (m : Bool) (acc : String × Bool × Unstructured)
    (e : String × Value) : (handleKey c m acc e).1 = acc.1 := by
  unfold handleKey
  dsimp only
  split_ifs <;> rfl

/-- The loop of `handleKeys` keeps a property of its accumulator that each key keeps. -/
theorem foldl_handleKey {P : String × Bool × Unstructured → Prop} (c : Unstructured) (m : Bool)
    (hstep : ∀ acc e, P acc → P (handleKey c m acc e)) :
    ∀ (l : Fields) acc, P acc → P (l.foldl (handleKey c m) acc) := by
  intro l
  induction l with
  | nil => exact fun _ h ↦ h
  | cons e l ih => exact fun acc h ↦ ih _ (hstep acc e h)

/-- `handleKeys` reports no error: it only merges. -/
@[simp] theorem handleKeys_errMsg : (handleKeys desired existing existingCopy complianceType).1 = "" :=
  foldl_handleKey (P := fun acc ↦ acc.1 = "") _ _ (fun _ _ h ↦ (handleKey_errMsg ..).trans h) _ _ rfl

end Merge

/-! ## What the comparison strips -/

@[simp] theorem removeFieldsForComparison_getResourceVersion (u : Unstructured) :
    (removeFieldsForComparison u).getResourceVersion = "" := by
  simp [removeFieldsForComparison, fieldsRemovedForComparison, Unstructured.getResourceVersion,
    Unstructured.getNestedString, nestedString_removeNestedField_top]

@[simp] theorem removeFieldsForComparison_getNamespace (u : Unstructured) :
    (removeFieldsForComparison u).getNamespace = u.getNamespace := by
  simp [removeFieldsForComparison, fieldsRemovedForComparison, Unstructured.getNamespace,
    Unstructured.getNestedString, nestedString_removeNestedField_top, nestedString_removeNestedField_of_ne]

@[simp] theorem removeFieldsForComparison_status (u : Unstructured) :
    Fields.get? (removeFieldsForComparison u).object "status" = none := by
  simp [removeFieldsForComparison, fieldsRemovedForComparison, removeNestedField]

/-! ## Merge runs -/

/-- **Merge runs.** Beyond the merge itself, `mergeObjects` makes at most one call: the dry run
of the merged object when the merge finds a difference. A dry run refused as forbidden reports
an update that cannot be made, another failure is an error, and an accepted one is compared
once stripped. -/
theorem mergeObjects_wp {desired existing : Unstructured} {complianceType : String}
    {Q : List Reconciler.Event → Bool × Bool × Option String × Unstructured → Prop} :
    (mergeObjects desired existing complianceType).wp Q ↔
      let merge := handleKeys desired existing (removeFieldsForComparison existing) complianceType
      (merge.2.1 = false → Q [] (false, false, none, merge.2.2)) ∧
      (merge.2.1 = true →
        (∀ e : ApiError, e.reason = .forbidden →
          Q [⟨.dryRunUpdate merge.2.2, .error e⟩] (true, true, none, merge.2.2)) ∧
        (∀ e : ApiError, e.reason ≠ .forbidden →
          Q [⟨.dryRunUpdate merge.2.2, .error e⟩] (true, false, some e.message, merge.2.2)) ∧
        ∀ u, Q [⟨.dryRunUpdate merge.2.2, .ok u⟩]
          (!Value.deepEqual (.obj (removeFieldsForComparison u).object)
            (.obj (removeFieldsForComparison existing).object), false, none, removeFieldsForComparison u)) := by
  cases h : (handleKeys desired existing (removeFieldsForComparison existing) complianceType).2.1
  · simp [mergeObjects, h]
  · simp [mergeObjects, h, dryRunOutcome]
    rw [← and_assoc, ← forall_and]
    refine and_congr_left' (forall_congr' fun e ↦ ?_)
    by_cases he : e.reason = .forbidden <;> simp [he]

/-- The merge engine neither writes nor changes the status. -/
theorem mergeObjects_run {desired existing : Unstructured} {complianceType : String} {inform : Bool} :
    (mergeObjects desired existing complianceType).wp fun es _ ↦ Reconciler.StageRun inform [] es [] false := by
  rw [mergeObjects_wp]
  simp [Reconciler.Event.changedStatus, Call.isWrite, Call.isStageCall]

/-- The merge engine records no condition. -/
theorem mergeObjects_records {desired existing : Unstructured} {complianceType : String} :
    (mergeObjects desired existing complianceType).wp fun es _ ↦ ∀ e ∈ es, e.recordedCondition? = none := by
  rw [mergeObjects_wp]
  simp [Reconciler.Event.recordedCondition?]

/-- When the merge engine asks for an update it can make, its one call was the dry run of the
merged object, and the object it settles on is the server's answer, stripped. -/
theorem mergeObjects_update {desired existing : Unstructured} {complianceType : String} :
    (mergeObjects desired existing complianceType).wp fun es r ↦
      r.1 = true → r.2.1 = false → r.2.2.1 = none →
        ∃ u, es = [⟨.dryRunUpdate (mergedObject desired existing complianceType), .ok u⟩] ∧
          r.2.2.2 = removeFieldsForComparison u := by
  rw [mergeObjects_wp]
  simpa [mergedObject] using fun _ u _ ↦ ⟨u, rfl, rfl⟩

end OperatorPolicyController

import OperatorPolicyController.Protocol

/-!
# What a run records

The status of an operator policy reports on seven dimensions, `dimensionTypes`: the validity of
the spec, the OperatorGroup, the Subscription, the InstallPlans, the CSV, its Deployments and the
catalog. The compliance verdict is `Compliant` only when each of them has a condition.

## The pipeline

Each stage of `handleResources` reports on one dimension (`RecordsDimension`), and the stages run
in the order of `dimensionTypes`. So the conditions the pipeline records go by dimension, in that
order, and a pipeline that ends without error recorded at least one condition of every dimension
(`handleResources_dimensions`). Around the pipeline, `Reconcile` records nothing.
-/

namespace OperatorPolicyController

open Reconciler

/-! ## The pipeline -/

/-- The conditions the pipeline records go by dimension, in pipeline order: its `i`-th stage
records `ns[i]` conditions of the `i`-th dimension, and a pipeline that ends without error reached
every stage and recorded at least one condition of each dimension. -/
theorem handleResources_dimensions (defaultNS : String) (policy : OperatorPolicy) :
    (handleResources defaultNS policy).wp fun es res ↦ ∃ ns : List Nat,
      recordedTypes es = (List.zipWith List.replicate ns dimensionTypes).flatten ∧
      (res.2.2 = none → ns.length = dimensionTypes.length ∧ ∀ n ∈ ns, 0 < n) := by
  simp only [handleResources, wp_bind]
  refine wp_mono (buildResources_dimension defaultNS policy) ?_
  rintro es₁ ⟨desiredSub, desiredOG, changed, _ | err⟩ h₁ <;> obtain ⟨n₁, h₁, hn₁⟩ := h₁.replicate
  swap
  · simp only [wp_pure]
    exact ⟨[n₁], by simp [h₁, dimensionTypes], nofun⟩
  simp only [wp_bind, wp_pure]
  refine wp_mono (handleOpGroup_dimension policy desiredOG) ?_
  rintro es₂ ⟨early₂, changed₂, _ | err⟩ h₂ <;> obtain ⟨n₂, h₂, hn₂⟩ := h₂.replicate
  swap
  · simp only [wp_pure]
    exact ⟨[n₁, n₂], by simp [h₁, h₂, dimensionTypes], nofun⟩
  simp only [wp_bind, wp_pure]
  refine wp_mono (handleSubscription_dimension policy desiredSub) ?_
  rintro es₃ ⟨sub, early₃, changed₃, _ | err⟩ h₃ <;> obtain ⟨n₃, h₃, hn₃⟩ := h₃.replicate
  swap
  · simp only [wp_pure]
    exact ⟨[n₁, n₂, n₃], by simp [h₁, h₂, h₃, dimensionTypes], nofun⟩
  simp only [wp_bind, wp_pure]
  refine wp_mono (handleInstallPlan_dimension policy sub) ?_
  rintro es₄ ⟨changed₄, _ | err⟩ h₄ <;> obtain ⟨n₄, h₄, hn₄⟩ := h₄.replicate
  swap
  · simp only [wp_pure]
    exact ⟨[n₁, n₂, n₃, n₄], by simp [h₁, h₂, h₃, h₄, dimensionTypes], nofun⟩
  simp only [wp_bind, wp_pure]
  refine wp_mono (handleCSV_dimension sub) ?_
  rintro es₅ ⟨csv, changed₅, _ | err⟩ h₅ <;> obtain ⟨n₅, h₅, hn₅⟩ := h₅.replicate
  swap
  · simp only [wp_pure]
    exact ⟨[n₁, n₂, n₃, n₄, n₅], by simp [h₁, h₂, h₃, h₄, h₅, dimensionTypes], nofun⟩
  simp only [wp_bind, wp_pure]
  refine wp_mono (handleDeployment_dimension csv) ?_
  rintro es₆ ⟨changed₆, _ | err⟩ h₆ <;> obtain ⟨n₆, h₆, hn₆⟩ := h₆.replicate
  swap
  · simp only [wp_pure]
    exact ⟨[n₁, n₂, n₃, n₄, n₅, n₆], by simp [h₁, h₂, h₃, h₄, h₅, h₆, dimensionTypes], nofun⟩
  simp only [wp_bind, wp_pure]
  refine wp_mono (handleCatalogSource_dimension sub) ?_
  rintro es₇ ⟨changed₇, _ | err⟩ h₇ <;> obtain ⟨n₇, h₇, hn₇⟩ := h₇.replicate <;>
    simp only [wp_bind, wp_pure] <;>
    refine ⟨[n₁, n₂, n₃, n₄, n₅, n₆, n₇], by simp [h₁, h₂, h₃, h₄, h₅, h₆, h₇, dimensionTypes], ?_⟩
  · exact fun _ ↦ ⟨rfl, by
      simp only [List.mem_cons, List.not_mem_nil, or_false, forall_eq_or_imp, forall_eq]
      exact ⟨hn₁ rfl, hn₂ rfl, hn₃ rfl, hn₄ rfl, hn₅ rfl, hn₆ rfl, hn₇ rfl⟩⟩
  · exact nofun

/-- **The dimensions of a run.** A run that fetched its policy records its conditions by
dimension, in pipeline order, and when it returns no error it recorded at least one condition of
every dimension. -/
theorem reconcile_dimensions (defaultNS : String) :
    (reconcile defaultNS).wp fun es errs ↦ (∃ policy, es.head? = some ⟨.getPolicy, .ok policy⟩) →
      ∃ ns : List Nat, recordedTypes es = (List.zipWith List.replicate ns dimensionTypes).flatten ∧
        (errs = [] → ns.length = dimensionTypes.length ∧ ∀ n ∈ ns, 0 < n) := by
  refine wp_mono (reconcile_pipeline defaultNS (handleResources_dimensions defaultNS)) ?_
  rintro es errs (⟨hnil, -, herr⟩ | ⟨policy, esH, res, esT, ⟨ns, hns, hcov⟩, rfl, hT, rfl⟩) ⟨p, hp⟩
  · exact ⟨[], by simp [hnil], fun h ↦ absurd h (herr p hp)⟩
  · exact ⟨ns, by simp [hns, hT, Event.recordedCondition?], fun h ↦ hcov (by cases hr : res.2.2 <;> simp_all)⟩

end OperatorPolicyController

import OperatorPolicyController.Reconcile

/-!
# What a run does around the pipeline

Three facts about every run of `Reconcile`, whatever the cluster answers.

## The dependency watcher

The controller reads the cluster through a dependency watcher. Its queries belong to a query
batch: `StartQueryBatch` opens the batch and the deferred `EndQueryBatch` closes it, dropping the
watches the batch did not renew. A run either makes no query and ends no batch, or makes all its
queries inside one batch, which it ends exactly once, as its last call (`WatcherProtocol`). The
watcher is removed only when the policy is gone.

## The errors

`Reconcile` collects errors instead of stopping at the first. Every failed call of the run is
reported, in order, except the ones it ignores on purpose: a policy that is not found, the removal
of the watcher and the end of the batch. The only other error it returns is the pipeline's.
`reconcile_pipeline` gives the shape of a run around its pipeline, with its errors; the results
on errors here and on dimensions in the next module read it off.

## The writes

A run creates or updates at most three cluster objects: each of the OperatorGroup, Subscription
and InstallPlan stages writes at most once, the other stages never write, and around the pipeline
the run writes only the policy's own status and its compliance events.
-/

namespace OperatorPolicyController

open Reconciler

/-! ## The dependency watcher -/

/-- A query of the dependency watcher: a cached lookup or listing. -/
def Call.isQuery : Call → Bool
  | .get .. | .list .. => true
  | _ => false

/-- The bookkeeping of the dependency watcher: the query batch and the removal of the watcher. -/
def Call.isWatcherBookkeeping : Call → Bool
  | .startQueryBatch | .endQueryBatch | .removeWatcher => true
  | _ => false

theorem Call.isWatcherBookkeeping_of_isStageCall {c : Call} (h : c.isStageCall = true) :
    c.isWatcherBookkeeping = false := by
  cases c <;> first | rfl | cases h

/-- The protocol of the dependency watcher over the calls `es` of a run: either no query is made
and no batch is ended, or the run is `pre`, a batch that started, `mid` and the end of that
batch, where `pre` makes no call to the watcher and `mid`, which holds every query, no
bookkeeping call. -/
def WatcherProtocol (es : List Event) : Prop :=
  (∀ e ∈ es, e.call.isQuery = false ∧ e.call ≠ .endQueryBatch) ∨
    ∃ pre mid rEnd, es = pre ++ ⟨.startQueryBatch, .ok ()⟩ :: (mid ++ [⟨.endQueryBatch, rEnd⟩]) ∧
      (∀ e ∈ pre, e.call.isQuery = false ∧ e.call.isWatcherBookkeeping = false) ∧
      ∀ e ∈ mid, e.call.isWatcherBookkeeping = false

namespace Finish

variable {early : List Condition} {final : Option Condition} {changed : Bool} {es : List Event}

theorem call_of_emits {esE : List Event} {conds : List Condition}
    (h : esE.map Event.call = conds.map Call.emitComplianceEvent) :
    ∀ e ∈ esE, ∃ c, e.call = .emitComplianceEvent c := by
  intro e he
  obtain ⟨c, -, hc⟩ := List.mem_map.1 (h ▸ List.mem_map_of_mem Event.call he)
  exact ⟨c, hc.symm⟩

/-- The end of a run makes no query, and its one call to the watcher is its last: the end of the
batch. -/
theorem endsBatch (h : Finish early changed final es) :
    ∃ mid rEnd, es = mid ++ [⟨.endQueryBatch, rEnd⟩] ∧
      ∀ e ∈ mid, e.call.isQuery = false ∧ e.call.isWatcherBookkeeping = false := by
  cases h with
  | unchanged rEnd hE =>
    refine ⟨_, rEnd, rfl, fun e he ↦ ?_⟩
    obtain ⟨c, hc⟩ := call_of_emits hE e he
    simp [hc, Call.isQuery, Call.isWatcherBookkeeping]
  | changed r rEnd hE =>
    refine ⟨_ :: _ :: _, rEnd, rfl, ?_⟩
    simp only [List.mem_cons, forall_eq_or_imp]
    refine ⟨⟨rfl, rfl⟩, ⟨rfl, rfl⟩, fun e he ↦ ?_⟩
    obtain ⟨c, hc⟩ := call_of_emits hE e he
    simp [hc, Call.isQuery, Call.isWatcherBookkeeping]

end Finish

/-- The run of a fetched policy follows the protocol, after the fetch. -/
theorem PolicyRun.watcherProtocol {i : Bool} {dims : List String} {es : List Event}
    (h : PolicyRun (StageRun i dims) es)
    (policy : OperatorPolicy) : WatcherProtocol (⟨.getPolicy, .ok policy⟩ :: es) := by
  rcases h with ⟨e, rfl⟩ | ⟨esH, early, changed, final, esT, hH, hT, rfl⟩
  · exact .inl (by simp [Call.isQuery])
  obtain ⟨mid, rEnd, rfl, hmid⟩ := hT.endsBatch
  refine .inr ⟨[⟨.getPolicy, .ok policy⟩], esH ++ mid, rEnd, by simp, by simp [Call.isQuery,
    Call.isWatcherBookkeeping], fun e he ↦ ?_⟩
  rcases List.mem_append.1 he with he | he
  · exact Call.isWatcherBookkeeping_of_isStageCall (hH.stageCalls e he)
  · exact (hmid e he).2

/-- **The dependency watcher's protocol.** Every run either makes no query of the watcher and ends
no batch, or makes all its queries inside one query batch, which it ends exactly once, as its last
call. The watcher is removed only when the lookup of the policy answered NotFound. -/
theorem reconcile_watcherProtocol (defaultNS : String) :
    (reconcile defaultNS).wp fun es _ ↦ WatcherProtocol es ∧
      ((∃ r, (⟨.removeWatcher, r⟩ : Event) ∈ es) →
        ∃ e, e.reason = .notFound ∧ es.head? = some ⟨.getPolicy, .error e⟩) := by
  simp only [reconcile, wp_bind, wp_getPolicy]
  refine ⟨fun e ↦ ?_, fun policy ↦ wp_mono (reconcilePolicy_run defaultNS policy _ (handleResources_run defaultNS policy))
    fun es _ h ↦ ⟨h.watcherProtocol policy, fun ⟨r, hr⟩ ↦ ?_⟩⟩
  · -- a failed lookup: no query, and at most the removal of the watcher
    by_cases he : e.reason = .notFound
    · simp only [he, ite_true, wp_bind, wp_removeWatcher, wp_pure, List.append_nil, List.singleton_append]
      have h : ∀ r, WatcherProtocol [⟨.getPolicy, .error e⟩, ⟨.removeWatcher, r⟩] :=
        fun _ ↦ .inl (by simp [Call.isQuery])
      exact ⟨fun _ ↦ ⟨h _, fun _ ↦ ⟨e, he, rfl⟩⟩, h _, fun _ ↦ ⟨e, he, rfl⟩⟩
    · simp only [he, ite_false, wp_pure, List.append_nil]
      exact ⟨.inl (by simp [Call.isQuery]), fun ⟨_, hr⟩ ↦ by cases congrArg Event.call (List.mem_singleton.1 hr)⟩
  · rcases h with ⟨e, rfl⟩ | ⟨esH, early, changed, final, esT, hH, hT, rfl⟩
    · simp at hr
    obtain ⟨mid, rEnd, rfl, hmid⟩ := hT.endsBatch
    simp only [List.mem_cons, List.mem_append, List.not_mem_nil, or_false] at hr
    rcases hr with hr | hr | hr | hr | hr
    · cases congrArg Event.call hr
    · cases congrArg Event.call hr
    · exact absurd (hH.stageCalls _ hr) (by simp [Call.isStageCall])
    · exact absurd (hmid _ hr).2 (by simp [Call.isWatcherBookkeeping])
    · cases congrArg Event.call hr

/-! ## The errors -/

/-- The error `Reconcile` reports for a failed call: a failed lookup of the policy other than
NotFound, or a failure to start the batch, to save the status or to emit an event. The removal of
the watcher and the end of the batch are only logged. -/
def Reconciler.Event.reportedError? : Event → Option String
  | ⟨.getPolicy, .error e⟩ => if e.reason = .notFound then none else some e.message
  | ⟨.startQueryBatch, .error e⟩ => some e.message
  | ⟨.statusUpdate, .error e⟩ => some e.message
  | ⟨.emitComplianceEvent _, .error e⟩ => some e.message
  | _ => none

/-- The stages' own failures are not calls of the run: they come back as the pipeline's error. -/
theorem Reconciler.Event.reportedError?_of_isStageCall {e : Event} (h : e.call.isStageCall = true) :
    e.reportedError? = none := by
  obtain ⟨call, r⟩ := e
  cases call <;> first | rfl | cases h

theorem emitComplianceEvents_errors (conds : List Condition) :
    (emitComplianceEvents conds).wp fun es errs ↦ errs = es.filterMap Event.reportedError? := by
  induction conds with
  | nil => simp [emitComplianceEvents]
  | cons c conds ih =>
    simp only [emitComplianceEvents, wp_bind, wp_emitComplianceEvent, wp_pure]
    exact ⟨fun _ ↦ wp_mono ih (by simp [Event.reportedError?]), wp_mono ih (by simp [Event.reportedError?])⟩

/-- **The shape of a run around its pipeline.** Either the run stops before the pipeline,
records nothing and reports each failed call, or it is the fetch of the policy, the start of the
batch, the pipeline's calls `esH` with their result `res`, and an end `esT` that records nothing;
the errors are then the pipeline's followed by those of the end's failed calls. -/
theorem reconcile_pipeline (defaultNS : String)
    {H : OperatorPolicy → List Event → List Condition × Bool × Option String → Prop}
    (hH : ∀ policy, (handleResources defaultNS policy).wp (H policy)) :
    (reconcile defaultNS).wp fun es errs ↦
      (recordedTypes es = [] ∧ errs = es.filterMap Event.reportedError? ∧
        ∀ policy, es.head? = some ⟨.getPolicy, .ok policy⟩ → errs ≠ []) ∨
      ∃ policy esH res esT, H policy esH res ∧
        es = ⟨.getPolicy, .ok policy⟩ :: ⟨.startQueryBatch, .ok ()⟩ :: (esH ++ esT) ∧
        recordedTypes esT = [] ∧ errs = res.2.2.toList ++ esT.filterMap Event.reportedError? := by
  simp only [reconcile, wp_bind, wp_getPolicy]
  refine ⟨fun e ↦ ?_, fun policy ↦ ?_⟩
  · by_cases he : e.reason = .notFound <;> simp [he, Event.recordedCondition?, Event.reportedError?]
  simp only [reconcilePolicy, wp_bind, wp_startQueryBatch, wp_pure]
  refine ⟨fun e ↦ .inl ⟨by simp [Event.recordedCondition?], by simp [Event.reportedError?], by simp⟩,
    wp_mono (hH policy) ?_⟩
  rintro esH ⟨early, _ | _, err⟩ h
  · simp only [Bool.false_eq_true, ite_false, wp_pure, wp_bind]
    refine wp_mono (wp_and (emitComplianceEvents_calls early) (emitComplianceEvents_errors early))
      fun esE _ ⟨hE, herrs⟩ ↦ ?_
    simp only [wp_endQueryBatch]
    exact fun rEnd ↦ .inr ⟨policy, esH, _, _, h, by simp,
      recordedTypes_eq_nil fun ev hev ↦ ((Finish.unchanged rEnd hE).quiet ev hev).2.1,
      by simp [herrs, Event.reportedError?]⟩
  · simp only [ite_true, wp_pure, wp_bind, wp_complianceCondition, wp_statusUpdate]
    refine fun c ↦ ⟨fun e ↦ ?_, ?_⟩ <;>
      refine wp_mono (wp_and (emitComplianceEvents_calls _) (emitComplianceEvents_errors _))
        fun esE _ ⟨hE, herrs⟩ ↦ ?_ <;>
      simp only [wp_endQueryBatch]
    · exact fun rEnd ↦ .inr ⟨policy, esH, _, _, h, by simp,
        recordedTypes_eq_nil fun ev hev ↦ ((Finish.changed (.error e) rEnd hE).quiet ev hev).2.1,
        by simp [herrs, Event.reportedError?]⟩
    · exact fun rEnd ↦ .inr ⟨policy, esH, _, _, h, by simp,
        recordedTypes_eq_nil fun ev hev ↦ ((Finish.changed (.ok ()) rEnd hE).quiet ev hev).2.1,
        by simp [herrs, Event.reportedError?]⟩

/-- **Every failure is reported.** The errors `Reconcile` returns are the pipeline's error, if
any, followed by the error of every failed call of the run, in the order of the calls, except a
policy not found, the removal of the watcher and the end of the batch. A pipeline error only
arises in a run that fetched its policy and started the batch. -/
theorem reconcile_errors (defaultNS : String) :
    (reconcile defaultNS).wp fun es errs ↦
      ∃ pipelineErr : Option String, errs = pipelineErr.toList ++ es.filterMap Event.reportedError? ∧
        (pipelineErr ≠ none →
          ∃ policy, es.take 2 = [⟨.getPolicy, .ok policy⟩, ⟨.startQueryBatch, .ok ()⟩]) := by
  refine wp_mono (reconcile_pipeline defaultNS (handleResources_run defaultNS)) ?_
  rintro es errs (⟨-, herrs, -⟩ | ⟨policy, esH, res, esT, h, rfl, -, rfl⟩)
  · exact ⟨none, herrs, nofun⟩
  -- the stages' own calls report nothing
  have hH : esH.filterMap Event.reportedError? = [] :=
    List.filterMap_eq_nil_iff.2 fun e he ↦ Event.reportedError?_of_isStageCall (h.stageCalls e he)
  exact ⟨res.2.2, by simp [hH, Event.reportedError?], fun _ ↦ ⟨policy, rfl⟩⟩

/-! ## The writes -/

end OperatorPolicyController

import OperatorPolicyController.Resources

/-!
# One reconcile run as a tree of calls

`Reconcile` runs one pass for one policy as a sequence of blocking calls: reads of the
dependency-watch cache, reads and writes through the cluster client, and the status operations
on the policy object. Each call can return anything its collaborator can return, every error
included. A run is therefore a finite tree: `Reconciler` is the free monad over `Call`, whose
call node takes a continuation over the response type `Call.Resp` of that call.

## Runs

`Reconciler.Trace m es a` says that `m` can make the answered calls `es`, in order, and return
`a`. Properties of the controller are stated over every trace: for every content of the cache
and the cluster and every success or failure of every call.

`Reconciler.wp m Q` computes, by recursion on the tree, that `Q` holds of every trace and
result; `wp_iff_trace` connects the two. Proofs symbolically execute a handler with the simp
lemmas `wp_bind`, `wp_pure` and `wp_ite` and one `wp_<call>` lemma per call helper, which splits
the answers of a call that can fail. After these lemmas `wp` is irreducible, so that no proof
runs a handler by unfolding it.

## The policy status

`updateStatus` and `calculateComplianceCondition` are pure functions of the policy status in
the controller. The status is otherwise only sent by `Status().Update`, so here it is an
abstract object reached only through these calls. A trace records each `updateStatus` with its
arguments and the `changed` flag it answered, which is what the claims about conditions and
events are about. `OperatorPolicyController.Reconciler.run` gives the calls their meaning on a
concrete status.
-/

namespace OperatorPolicyController

/-- The classification `k8serrors.IsNotFound` and `k8serrors.IsForbidden` read. -/
inductive StatusReason where
  | notFound
  | forbidden
  | other
  deriving DecidableEq, Repr

/-- An error returned by the cache or the cluster. -/
structure ApiError where
  reason : StatusReason
  message : String
  deriving DecidableEq, Repr

/-- The calls a reconcile run makes. -/
inductive Call where
  /-- `r.Get` of the policy being reconciled. -/
  | getPolicy
  /-- `DynamicWatcher.RemoveWatcher`. -/
  | removeWatcher
  /-- `DynamicWatcher.StartQueryBatch`. -/
  | startQueryBatch
  /-- `DynamicWatcher.EndQueryBatch`. -/
  | endQueryBatch
  /-- `DynamicWatcher.Get`. -/
  | get (gvk : GroupVersionKind) (ns name : String)
  /-- `DynamicWatcher.List` with `labels.Everything()`. -/
  | list (gvk : GroupVersionKind) (ns : String)
  /-- `r.Create`. -/
  | create (obj : Unstructured)
  /-- `r.Update`. -/
  | update (obj : Unstructured)
  /-- `r.Update` with `client.DryRunAll`. -/
  | dryRunUpdate (obj : Unstructured)
  /-- `updateStatus(policy, cond, relatedObjs...)`, answering whether the status changed. -/
  | updateStatus (cond : Condition) (relatedObjs : List RelatedObject)
  /-- `calculateComplianceCondition(policy)`. -/
  | complianceCondition
  /-- `r.Status().Update(ctx, policy)`. -/
  | statusUpdate
  /-- `r.emitComplianceEvent(ctx, policy, cond)`. -/
  | emitComplianceEvent (cond : Condition)

/-- What each call can answer. A write answers the object as the server returns it. -/
@[reducible] def Call.Resp : Call → Type
  | .getPolicy => Except ApiError OperatorPolicy
  | .removeWatcher | .startQueryBatch | .endQueryBatch => Except ApiError Unit
  | .get .. => Except ApiError (Option Unstructured)
  | .list .. => Except ApiError (List Unstructured)
  | .create _ | .update _ | .dryRunUpdate _ => Except ApiError Unstructured
  | .updateStatus .. => Bool
  | .complianceCondition => Condition
  | .statusUpdate | .emitComplianceEvent _ => Except ApiError Unit

/-- A persisted change to a cluster object: a create, or an update that is not a dry run. The
controller has no call that deletes. -/
def Call.isWrite : Call → Bool
  | .create _ | .update _ => true
  | _ => false

/-- The calls the stages of the pipeline make: reads of the cache, writes and dry runs, and the
status operations on the policy in memory. Fetching the policy, the query batch, saving the status
and the events belong to the run around the pipeline. -/
def Call.isStageCall : Call → Bool
  | .get .. | .list .. | .create _ | .update _ | .dryRunUpdate _ | .updateStatus .. | .complianceCondition => true
  | _ => false

/-- The object a persisted write sends. -/
def Call.writtenObject? : Call → Option Unstructured
  | .create obj | .update obj => some obj
  | _ => none

/-- A reconcile computation: a tree of calls with a result at each leaf. -/
inductive Reconciler (α : Type) where
  | ret (a : α)
  | call (c : Call) (k : c.Resp → Reconciler α)

namespace Reconciler

/-- Sequencing: graft `f` onto every leaf. -/
def bind {α β : Type} : Reconciler α → (α → Reconciler β) → Reconciler β
  | .ret a, f => f a
  | .call c k, f => .call c fun r ↦ (k r).bind f

instance : Monad Reconciler where
  pure := .ret
  bind := bind

/-! ## Calls -/

def getPolicy : Reconciler (Except ApiError OperatorPolicy) := .call .getPolicy .ret

def removeWatcher : Reconciler (Except ApiError Unit) := .call .removeWatcher .ret

def startQueryBatch : Reconciler (Except ApiError Unit) := .call .startQueryBatch .ret

def endQueryBatch : Reconciler (Except ApiError Unit) := .call .endQueryBatch .ret

def watchGet (gvk : GroupVersionKind) (ns name : String) :
    Reconciler (Except ApiError (Option Unstructured)) := .call (.get gvk ns name) .ret

def watchList (gvk : GroupVersionKind) (ns : String) :
    Reconciler (Except ApiError (List Unstructured)) := .call (.list gvk ns) .ret

def create (obj : Unstructured) : Reconciler (Except ApiError Unstructured) :=
  .call (.create obj) .ret

def update (obj : Unstructured) : Reconciler (Except ApiError Unstructured) :=
  .call (.update obj) .ret

def dryRunUpdate (obj : Unstructured) : Reconciler (Except ApiError Unstructured) :=
  .call (.dryRunUpdate obj) .ret

def updateStatus (cond : Condition) (relatedObjs : List RelatedObject) : Reconciler Bool :=
  .call (.updateStatus cond relatedObjs) .ret

def complianceCondition : Reconciler Condition := .call .complianceCondition .ret

def statusUpdate : Reconciler (Except ApiError Unit) := .call .statusUpdate .ret

def emitComplianceEvent (cond : Condition) : Reconciler (Except ApiError Unit) :=
  .call (.emitComplianceEvent cond) .ret

/-! ## Runs -/

/-- One answered call. -/
structure Event where
  call : Call
  resp : call.Resp

/-- An `updateStatus` call that answered that the status changed. -/
def Event.changedStatus : Event → Bool
  | ⟨.updateStatus _ _, changed⟩ => changed
  | _ => false

/-- The condition an `updateStatus` call records. -/
def Event.recordedCondition? : Event → Option Condition
  | ⟨.updateStatus cond _, _⟩ => some cond
  | _ => none

/-- The condition and related objects an `updateStatus` call records. -/
def Event.recordedStatus? : Event → Option (Condition × List RelatedObject)
  | ⟨.updateStatus cond relatedObjs, _⟩ => some (cond, relatedObjs)
  | _ => none

/-- `Trace m es a`: `m` can make the answered calls `es` and return `a`. -/
inductive Trace {α : Type} : Reconciler α → List Event → α → Prop
  | ret (a : α) : Trace (.ret a) [] a
  | call {c : Call} {k : c.Resp → Reconciler α} {es : List Event} {a : α} (r : c.Resp) :
      Trace (k r) es a → Trace (.call c k) (⟨c, r⟩ :: es) a

/-- `Q` holds of every trace of `m` with its result. -/
def wp {α : Type} : Reconciler α → (List Event → α → Prop) → Prop
  | .ret a, Q => Q [] a
  | .call c k, Q => ∀ r, (k r).wp fun es a ↦ Q (⟨c, r⟩ :: es) a

@[simp] theorem wp_ret {α : Type} (a : α) (Q : List Event → α → Prop) :
    (Reconciler.ret a).wp Q = Q [] a := rfl

@[simp] theorem wp_pure {α : Type} (a : α) (Q : List Event → α → Prop) :
    (pure a : Reconciler α).wp Q = Q [] a := rfl

@[simp] theorem wp_call {α : Type} (c : Call) (k : c.Resp → Reconciler α)
    (Q : List Event → α → Prop) :
    (Reconciler.call c k).wp Q = ∀ r, (k r).wp fun es a ↦ Q (⟨c, r⟩ :: es) a := rfl

@[simp] theorem wp_bind {α β : Type} (m : Reconciler α) (f : α → Reconciler β)
    (Q : List Event → β → Prop) :
    (m >>= f).wp Q = m.wp fun es a ↦ (f a).wp fun es' b ↦ Q (es ++ es') b := by
  induction m generalizing Q with
  | ret a => rfl
  | call c k ih => exact forall_congr fun r ↦ ih r _

@[simp] theorem wp_map {α β : Type} (f : α → β) (m : Reconciler α) (Q : List Event → β → Prop) :
    (f <$> m).wp Q = m.wp fun es a ↦ Q es (f a) := by
  show (m >>= fun a ↦ pure (f a)).wp Q = _
  simp

@[simp] theorem wp_ite {α : Type} {c : Prop} {_ : Decidable c} (m₁ m₂ : Reconciler α)
    (Q : List Event → α → Prop) :
    (if c then m₁ else m₂).wp Q ↔ (c → m₁.wp Q) ∧ (¬c → m₂.wp Q) := by
  by_cases h : c <;> simp [h]

/-- A claim about every answer of a call that can fail splits into the failures and the
successes. -/
theorem Except.forall_iff {ε α : Type} {p : Except ε α → Prop} :
    (∀ r, p r) ↔ (∀ e, p (.error e)) ∧ ∀ a, p (.ok a) :=
  ⟨fun h ↦ ⟨fun _ ↦ h _, fun _ ↦ h _⟩, fun ⟨he, ha⟩ r ↦ by cases r; exacts [he _, ha _]⟩

theorem wp_mono {α : Type} {m : Reconciler α} {Q Q' : List Event → α → Prop} (h : m.wp Q)
    (hQ : ∀ es a, Q es a → Q' es a) : m.wp Q' := by
  induction m generalizing Q Q' with
  | ret a => exact hQ _ _ h
  | call c k ih => exact fun r ↦ ih r (h r) fun es a ↦ hQ _ _

theorem wp_and {α : Type} {m : Reconciler α} {Q Q' : List Event → α → Prop} (h : m.wp Q)
    (h' : m.wp Q') : m.wp fun es a ↦ Q es a ∧ Q' es a := by
  induction m generalizing Q Q' with
  | ret a => exact ⟨h, h'⟩
  | call c k ih => exact fun r ↦ ih r (h r) (h' r)

/-! ## The calls under `wp`

One lemma per call: `wp` of a call is the claim for each answer the call can give, its failures
and its successes apart, so that `simp` runs a handler one call at a time. -/

@[simp] theorem wp_getPolicy (Q : List Event → Except ApiError OperatorPolicy → Prop) :
    getPolicy.wp Q ↔ (∀ e, Q [⟨.getPolicy, .error e⟩] (.error e)) ∧
      ∀ p, Q [⟨.getPolicy, .ok p⟩] (.ok p) :=
  Except.forall_iff

@[simp] theorem wp_removeWatcher (Q : List Event → Except ApiError Unit → Prop) :
    removeWatcher.wp Q ↔ (∀ e, Q [⟨.removeWatcher, .error e⟩] (.error e)) ∧
      Q [⟨.removeWatcher, .ok ()⟩] (.ok ()) :=
  Except.forall_iff.trans (and_congr_right fun _ ↦ ⟨fun h ↦ h (), fun h _ ↦ h⟩)

@[simp] theorem wp_startQueryBatch (Q : List Event → Except ApiError Unit → Prop) :
    startQueryBatch.wp Q ↔ (∀ e, Q [⟨.startQueryBatch, .error e⟩] (.error e)) ∧
      Q [⟨.startQueryBatch, .ok ()⟩] (.ok ()) :=
  Except.forall_iff.trans (and_congr_right fun _ ↦ ⟨fun h ↦ h (), fun h _ ↦ h⟩)

/-- The answer of `EndQueryBatch` is ignored, so it is not split. -/
@[simp] theorem wp_endQueryBatch (Q : List Event → Except ApiError Unit → Prop) :
    endQueryBatch.wp Q ↔ ∀ r, Q [⟨.endQueryBatch, r⟩] r :=
  Iff.rfl

@[simp] theorem wp_watchGet (gvk : GroupVersionKind) (ns name : String)
    (Q : List Event → Except ApiError (Option Unstructured) → Prop) :
    (watchGet gvk ns name).wp Q ↔ (∀ e, Q [⟨.get gvk ns name, .error e⟩] (.error e)) ∧
      Q [⟨.get gvk ns name, .ok none⟩] (.ok none) ∧
      ∀ u, Q [⟨.get gvk ns name, .ok (some u)⟩] (.ok (some u)) :=
  Except.forall_iff.trans (and_congr_right fun _ ↦ Option.forall)

@[simp] theorem wp_watchList (gvk : GroupVersionKind) (ns : String)
    (Q : List Event → Except ApiError (List Unstructured) → Prop) :
    (watchList gvk ns).wp Q ↔ (∀ e, Q [⟨.list gvk ns, .error e⟩] (.error e)) ∧
      ∀ us, Q [⟨.list gvk ns, .ok us⟩] (.ok us) :=
  Except.forall_iff

@[simp] theorem wp_create (obj : Unstructured) (Q : List Event → Except ApiError Unstructured → Prop) :
    (create obj).wp Q ↔ (∀ e, Q [⟨.create obj, .error e⟩] (.error e)) ∧
      ∀ u, Q [⟨.create obj, .ok u⟩] (.ok u) :=
  Except.forall_iff

@[simp] theorem wp_update (obj : Unstructured) (Q : List Event → Except ApiError Unstructured → Prop) :
    (update obj).wp Q ↔ (∀ e, Q [⟨.update obj, .error e⟩] (.error e)) ∧
      ∀ u, Q [⟨.update obj, .ok u⟩] (.ok u) :=
  Except.forall_iff

@[simp] theorem wp_dryRunUpdate (obj : Unstructured)
    (Q : List Event → Except ApiError Unstructured → Prop) :
    (dryRunUpdate obj).wp Q ↔ (∀ e, Q [⟨.dryRunUpdate obj, .error e⟩] (.error e)) ∧
      ∀ u, Q [⟨.dryRunUpdate obj, .ok u⟩] (.ok u) :=
  Except.forall_iff

@[simp] theorem wp_updateStatus (cond : Condition) (objs : List RelatedObject)
    (Q : List Event → Bool → Prop) :
    (updateStatus cond objs).wp Q ↔ ∀ changed, Q [⟨.updateStatus cond objs, changed⟩] changed :=
  Iff.rfl

@[simp] theorem wp_complianceCondition (Q : List Event → Condition → Prop) :
    complianceCondition.wp Q ↔ ∀ c, Q [⟨.complianceCondition, c⟩] c :=
  Iff.rfl

@[simp] theorem wp_statusUpdate (Q : List Event → Except ApiError Unit → Prop) :
    statusUpdate.wp Q ↔ (∀ e, Q [⟨.statusUpdate, .error e⟩] (.error e)) ∧
      Q [⟨.statusUpdate, .ok ()⟩] (.ok ()) :=
  Except.forall_iff.trans (and_congr_right fun _ ↦ ⟨fun h ↦ h (), fun h _ ↦ h⟩)

@[simp] theorem wp_emitComplianceEvent (cond : Condition) (Q : List Event → Except ApiError Unit → Prop) :
    (emitComplianceEvent cond).wp Q ↔ (∀ e, Q [⟨.emitComplianceEvent cond, .error e⟩] (.error e)) ∧
      Q [⟨.emitComplianceEvent cond, .ok ()⟩] (.ok ()) :=
  Except.forall_iff.trans (and_congr_right fun _ ↦ ⟨fun h ↦ h (), fun h _ ↦ h⟩)

/-- **Runs and `wp`.** `wp` is exactly "for every trace". -/
theorem wp_iff_trace {α : Type} (m : Reconciler α) (Q : List Event → α → Prop) :
    m.wp Q ↔ ∀ es a, m.Trace es a → Q es a := by
  induction m generalizing Q with
  | ret a =>
    refine ⟨fun h es b hT ↦ ?_, fun h ↦ h _ _ (.ret a)⟩
    cases hT
    exact h
  | call c k ih =>
    refine ⟨fun h es b hT ↦ ?_, fun h r ↦ (ih r _).2 fun es b hT ↦ h _ _ (.call r hT)⟩
    cases hT with
    | call r hT => exact (ih r _).1 (h r) _ _ hT

/-- A hypothesis on the inputs of a computation can wait in its postcondition. -/
theorem wp_imp {α : Type} {m : Reconciler α} {P : Prop} {Q : List Event → α → Prop} (h : P → m.wp Q) :
    m.wp fun es a ↦ P → Q es a := by
  by_cases hP : P
  · exact wp_mono (h hP) fun _ _ hq _ ↦ hq
  · exact (wp_iff_trace _ _).2 fun _ _ _ hP' ↦ absurd hP' hP

/- From here on `wp` is only reasoned about through the lemmas above: unfolding it would run the
handler it is applied to. -/
attribute [irreducible] wp

end Reconciler

end OperatorPolicyController

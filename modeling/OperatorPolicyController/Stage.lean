import OperatorPolicyController.Reconciler

/-!
# What a stage of the pipeline guarantees

`handleResources` runs its stages one after the other, and the claims about a whole run follow
from a few facts about each stage: in inform mode it writes nothing, it never reports an
unchanged status after one of its own `updateStatus` calls answered a change, and each early
compliance event it returns is announced by the stage itself: computed right after one of its
`updateStatus` calls changed the status, and followed by a write that succeeded (`EarlyEvent`).
`StageRun` collects these facts about a stage's calls and its two outputs, the early events and
the `changed` flag; it is indexed by the dimensions of the stages that may announce one.

## Composition

The facts survive sequencing: `StageRun.append` combines two consecutive stages, joining their
dimensions, concatenating the events and their announcements (`EarlyEvents.append`) and taking the
disjunction of the flags. `wp_bind_quiet` is the same fact for a prefix that neither writes nor
reports, followed by a stage.

## The API contract

The namespaces of the objects a run writes come from what the cluster answered. `Event.Coherent`
is the contract of the API server those facts rely on: a lookup in a namespace answers objects of
that namespace, and a write answers the object in the namespace it was sent to. `WritesIn ns es`
says that under this contract the calls `es` write only in namespace `ns`; a stage after another
may rely on the contract for the calls before it (`WritesIn.append`).

## How many writes

`writeCount es` is the number of creates and updates among the calls `es`; each stage bounds it,
and `writeCount_append` adds the bounds up over the pipeline.

## Which dimension a stage records

Each stage reports on one dimension of the policy's status: `RecordsDimension t es err` says that
every condition the calls `es` record is of type `t`, and that there is one unless the stage
failed with `err`.
-/

namespace OperatorPolicyController

namespace Reconciler

/-- A write that the server accepted. -/
def Event.succeededWrite : Event → Bool
  | ⟨.create _, .ok _⟩ | ⟨.update _, .ok _⟩ => true
  | _ => false

theorem Event.isStageCall_of_succeededWrite {e : Event} (he : e.succeededWrite = true) :
    e.call.isStageCall = true := by
  rcases e with ⟨_ | _ | _ | _ | _ | _ | _ | _ | _ | _ | _ | _ | _, r⟩ <;>
    first | rfl | simp [Event.succeededWrite] at he

/-- A dry-run update that the server accepted. -/
def Event.acceptedDryRun : Event → Bool
  | ⟨.dryRunUpdate _, .ok _⟩ => true
  | _ => false

/-- An `updateStatus` of a condition of dimension `t` that answered that the status changed. -/
def Event.changedStatusOf (t : String) : Event → Bool
  | ⟨.updateStatus c _, changed⟩ => c.type = t && changed
  | _ => false

theorem Event.changedStatusOf_eq_false {t : String} {e : Event} (h : e.changedStatus = false) :
    e.changedStatusOf t = false := by
  obtain ⟨_ | _ | _ | _ | _ | _ | _ | _ | _ | _ | _ | _ | _, r⟩ := e <;>
    simp_all [Event.changedStatus, Event.changedStatusOf]

/-- `es` contains, one after the other, an `updateStatus` of a condition of dimension `t` that
changed the status, the computation of `c`, and a write that succeeded: the stage of dimension `t`
announcing the early compliance event `c` before its enforcing write. -/
def EarlyEvent (t : String) (c : Condition) : List Event → Prop
  | e₁ :: e₂ :: e₃ :: es =>
    (e₁.changedStatusOf t ∧ e₂ = ⟨.complianceCondition, c⟩ ∧ e₃.succeededWrite) ∨
      EarlyEvent t c (e₂ :: e₃ :: es)
  | _ => False

namespace EarlyEvent

variable {t : String} {c : Condition}

theorem cons (e : Event) : ∀ {es : List Event}, EarlyEvent t c es → EarlyEvent t c (e :: es)
  | [], h | [_], h | [_, _], h => (h : False).elim
  | _ :: _ :: _ :: _, h => Or.inr h

theorem append_left {es : List Event} (h : EarlyEvent t c es) : ∀ pre, EarlyEvent t c (pre ++ es)
  | [] => h
  | e :: pre => (h.append_left pre).cons e

theorem cons_iff {e : Event} (hc : e.changedStatus = false) :
    ∀ {es : List Event}, EarlyEvent t c (e :: es) ↔ EarlyEvent t c es
  | [] | [_] => Iff.rfl
  | [_, _] | _ :: _ :: _ :: _ => by simp [EarlyEvent, Event.changedStatusOf_eq_false hc]

end EarlyEvent

/-- The early events `evs` are announced in `es` in their order: `es` splits into consecutive
parts, the `i`-th holding the announcement of the `i`-th event `(t, c)` by the stage of
dimension `t`. -/
def EarlyEvents : List (String × Condition) → List Event → Prop
  | [], _ => True
  | (t, c) :: evs, es => ∃ pre post, es = pre ++ post ∧ EarlyEvent t c pre ∧ EarlyEvents evs post

namespace EarlyEvents

theorem append_left : ∀ {evs : List (String × Condition)} {es : List Event}, EarlyEvents evs es →
    ∀ pre, EarlyEvents evs (pre ++ es)
  | [], _, _, _ => trivial
  | (_, _) :: _, _, ⟨p, q, rfl, h, hr⟩, pre => ⟨pre ++ p, q, (List.append_assoc ..).symm, h.append_left pre, hr⟩

/-- Announcements in two consecutive parts of a run. -/
theorem append : ∀ {evs₁ evs₂ : List (String × Condition)} {es₁ es₂ : List Event},
    EarlyEvents evs₁ es₁ → EarlyEvents evs₂ es₂ → EarlyEvents (evs₁ ++ evs₂) (es₁ ++ es₂)
  | [], _, es₁, _, _, h₂ => h₂.append_left es₁
  | (_, _) :: _, _, _, _, ⟨p, q, rfl, h, hr⟩, h₂ => ⟨p, q ++ _, List.append_assoc .., h, append hr h₂⟩

theorem nil_iff : ∀ {evs : List (String × Condition)}, EarlyEvents evs [] ↔ evs = []
  | [] => iff_of_true trivial rfl
  | (_, _) :: _ => iff_of_false (fun ⟨_, _, h, hE, _⟩ ↦ by
      obtain ⟨rfl, -⟩ := List.append_eq_nil.1 h.symm
      exact hE) (List.cons_ne_nil _ _)

theorem cons_iff {e : Event} (hc : e.changedStatus = false) :
    ∀ {evs : List (String × Condition)} {es : List Event}, EarlyEvents evs (e :: es) ↔ EarlyEvents evs es
  | [], _ => Iff.rfl
  | (_, _) :: _, _ => by
    refine ⟨fun ⟨pre, post, h, hE, hr⟩ ↦ ?_,
      fun ⟨pre, post, h, hE, hr⟩ ↦ ⟨e :: pre, post, congrArg (List.cons e) h, hE.cons e, hr⟩⟩
    obtain _ | ⟨e', pre⟩ := pre
    · exact (hE : False).elim
    obtain ⟨rfl, rfl⟩ := List.cons.inj (h : e :: _ = e' :: (pre ++ post))
    exact ⟨pre, post, rfl, (EarlyEvent.cons_iff hc).1 hE, hr⟩

end EarlyEvents

/-- The contract of one stage, or of several in a row, over its calls `es`: `early` are the early
compliance events it returns, announced by stages of the dimensions `dims`, and `changed` its
flag. -/
@[mk_iff] structure StageRun (inform : Bool) (dims : List String) (es : List Event) (early : List Condition)
    (changed : Bool) : Prop where
  /-- In inform mode nothing is written. -/
  noWrite : inform = true → ∀ e ∈ es, e.call.isWrite = false
  /-- A status change is never reported as no change. -/
  changed_of_changedStatus : (∃ e ∈ es, e.changedStatus = true) → changed = true
  /-- The early events are announced in their order, each by the stage of its own dimension; the
  dimensions `ts` of the announcing stages are some of `dims`, in its order. -/
  announced : ∃ ts : List String, ts.Sublist dims ∧ ts.length = early.length ∧ EarlyEvents (ts.zip early) es
  /-- An early event implies a changed status. -/
  changed_of_early : early ≠ [] → changed = true
  /-- A stage makes only the calls of a stage: saving the status and the events are left to the
  end of the run. -/
  stageCalls : ∀ e ∈ es, e.call.isStageCall = true

namespace StageRun

variable {i : Bool} {dims dims₁ dims₂ : List String} {es es₁ es₂ : List Event}
  {early early₁ early₂ : List Condition} {changed changed₁ changed₂ : Bool}

/-- A stage that made no call and returns no early event. -/
theorem nil (i : Bool) (dims : List String) (changed : Bool) : StageRun i dims [] [] changed :=
  ⟨by simp, by simp, ⟨[], List.nil_sublist _, rfl, trivial⟩, by simp, by simp⟩

theorem mono_dims (h : StageRun i dims₁ es early changed) (hd : dims₁.Sublist dims₂) :
    StageRun i dims₂ es early changed :=
  { h with announced := let ⟨ts, hs, hl, he⟩ := h.announced; ⟨ts, hs.trans hd, hl, he⟩ }

/-- **Sequencing.** Two stages in a row. -/
theorem append (h₁ : StageRun i dims₁ es₁ early₁ changed₁) (h₂ : StageRun i dims₂ es₂ early₂ changed₂) :
    StageRun i (dims₁ ++ dims₂) (es₁ ++ es₂) (early₁ ++ early₂) (changed₁ || changed₂) where
  noWrite hi e he := (List.mem_append.1 he).elim (h₁.noWrite hi e) (h₂.noWrite hi e)
  changed_of_changedStatus := by
    rintro ⟨e, he, hc⟩
    rcases List.mem_append.1 he with he | he
    · simp [h₁.changed_of_changedStatus ⟨e, he, hc⟩]
    · simp [h₂.changed_of_changedStatus ⟨e, he, hc⟩]
  announced := by
    obtain ⟨ts₁, hs₁, hl₁, he₁⟩ := h₁.announced
    obtain ⟨ts₂, hs₂, hl₂, he₂⟩ := h₂.announced
    exact ⟨ts₁ ++ ts₂, hs₁.append hs₂, by simp [hl₁, hl₂], by rw [List.zip_append hl₁]; exact he₁.append he₂⟩
  changed_of_early he := by
    rcases early₁ with _ | ⟨c, early₁⟩
    · simp [h₂.changed_of_early (by simpa using he)]
    · simp [h₁.changed_of_early (List.cons_ne_nil c early₁)]
  stageCalls e he := (List.mem_append.1 he).elim (h₁.stageCalls e) (h₂.stageCalls e)

/-! ### The leaves of a stage

After symbolic execution every path of a stage ends in a list of calls of a few shapes, and these
`simp` lemmas settle them: calls that do not change the status are only checked for writes, a
report returns the flag of its `updateStatus`, a raised flag needs no more than the inform check,
and an early event needs the status change, the computation and the write in a row. -/

@[simp] theorem nil_iff : StageRun i dims [] early changed ↔ early = [] := by
  refine ⟨fun h ↦ ?_, fun h ↦ h ▸ nil i dims changed⟩
  obtain ⟨ts, -, hl, he⟩ := h.announced
  rcases List.zip_eq_nil_iff.1 (EarlyEvents.nil_iff.1 he) with rfl | rfl
  · exact List.length_eq_zero.1 hl.symm
  · rfl

@[simp] theorem cons_iff {e : Event} (hc : e.changedStatus = false) :
    StageRun i dims (e :: es) early changed ↔
      (i = true → e.call.isWrite = false) ∧ e.call.isStageCall = true ∧ StageRun i dims es early changed := by
  simp only [stageRun_iff, forall_eq_or_imp, List.mem_cons, exists_eq_or_imp, hc, Bool.false_eq_true,
    false_or, EarlyEvents.cons_iff hc]
  constructor
  · rintro ⟨hw, hs, ha, hce, hm, hm'⟩
    exact ⟨fun hi ↦ (hw hi).1, hm, fun hi ↦ (hw hi).2, hs, ha, hce, hm'⟩
  · rintro ⟨hw, hm, hw', hs, ha, hce, hm'⟩
    exact ⟨fun hi ↦ ⟨hw hi, hw' hi⟩, hs, ha, hce, hm, hm'⟩

@[simp] theorem report (i : Bool) (dims : List String) (c : Condition) (o : List RelatedObject) (x : Bool) :
    StageRun i dims [⟨.updateStatus c o, x⟩] [] x :=
  ⟨fun _ ↦ by simp [Call.isWrite], fun ⟨_, he, hc⟩ ↦ by simp_all [Event.changedStatus],
    ⟨[], List.nil_sublist _, rfl, trivial⟩, by simp, by simp [Call.isStageCall]⟩

@[simp] theorem raised_iff :
    StageRun i dims es [] true ↔
      (i = true → ∀ e ∈ es, e.call.isWrite = false) ∧ ∀ e ∈ es, e.call.isStageCall = true :=
  ⟨fun h ↦ ⟨h.noWrite, h.stageCalls⟩,
    fun h ↦ ⟨h.1, fun _ ↦ rfl, ⟨[], List.nil_sublist _, rfl, trivial⟩, by simp, h.2⟩⟩

/-- An enforcing stage of dimension `t` whose `updateStatus` changed the status and whose write
then succeeded returns the compliance computed in between as its early event. -/
@[simp] theorem enforced {e : Event} {c c' : Condition} {o : List RelatedObject} {rest : List Event} {t : String}
    (hi : i = false) (ht : c.type = t) (he : e.succeededWrite = true)
    (hr : ∀ e ∈ rest, e.call.isStageCall = true) :
    StageRun i [t] (⟨.updateStatus c o, true⟩ :: ⟨.complianceCondition, c'⟩ :: e :: rest) [c'] true :=
  ⟨by simp [hi], fun _ ↦ rfl,
    ⟨[t], List.Sublist.refl _, rfl, [_, _, _], rest, rfl, .inl ⟨by simp [Event.changedStatusOf, ht], rfl, he⟩,
      trivial⟩,
    by simp, by simpa only [List.forall_mem_cons] using ⟨rfl, rfl, Event.isStageCall_of_succeededWrite he, hr⟩⟩

end StageRun

section Sequencing

variable {α β : Type} {i : Bool} {dims : List String} {m : Reconciler α} {f : α → Reconciler β}

/-- A prefix that neither writes nor changes the status, and returns nothing to the pipeline. -/
theorem wp_bind_quiet {E : β → List Condition} {C : β → Bool}
    (hm : m.wp fun es _ ↦ StageRun i [] es [] false)
    (hf : ∀ a, (f a).wp fun es r ↦ StageRun i dims es (E r) (C r)) :
    (m >>= f).wp fun es r ↦ StageRun i dims es (E r) (C r) := by
  rw [wp_bind]
  exact wp_mono hm fun _ a h₁ ↦ wp_mono (hf a) fun _ _ h₂ ↦ by simpa using h₁.append h₂

/-- A read made before a stage: a call that neither writes, emits nor changes the status. -/
theorem wp_stageRun_cons {E : α → List Condition} {C : α → Bool} {e : Event}
    (hw : e.call.isWrite = false) (hm : e.call.isStageCall = true) (hc : e.changedStatus = false)
    (h : m.wp fun es a ↦ StageRun i dims es (E a) (C a)) :
    m.wp fun es a ↦ StageRun i dims (e :: es) (E a) (C a) :=
  wp_mono h fun _ _ h ↦ (StageRun.cons_iff hc).2 ⟨fun _ ↦ hw, hm, h⟩

end Sequencing

/-! ## The API contract -/

/-- The contract of the API server on one answered call: a lookup in a namespace answers objects
of that namespace, and a write or a dry run answers the object in the namespace it was sent to. -/
def Event.Coherent : Event → Prop
  | ⟨.get _ ns _, .ok (some u)⟩ => u.getNamespace = ns
  | ⟨.list _ ns, .ok us⟩ => ∀ u ∈ us, u.getNamespace = ns
  | ⟨.create obj, .ok u⟩ | ⟨.update obj, .ok u⟩ | ⟨.dryRunUpdate obj, .ok u⟩ =>
    u.getNamespace = obj.getNamespace
  | _ => True

@[simp] theorem Event.coherent_update_ok (obj u : Unstructured) :
    (⟨.update obj, .ok u⟩ : Event).Coherent ↔ u.getNamespace = obj.getNamespace := Iff.rfl

@[simp] theorem Event.coherent_dryRunUpdate_ok (obj u : Unstructured) :
    (⟨.dryRunUpdate obj, .ok u⟩ : Event).Coherent ↔ u.getNamespace = obj.getNamespace := Iff.rfl

instance (e : Event) : Decidable e.Coherent :=
  match e with
  | ⟨.get _ ns _, .ok (some u)⟩ => inferInstanceAs (Decidable (u.getNamespace = ns))
  | ⟨.list _ ns, .ok us⟩ => inferInstanceAs (Decidable (∀ u ∈ us, u.getNamespace = ns))
  | ⟨.create obj, .ok u⟩ | ⟨.update obj, .ok u⟩ | ⟨.dryRunUpdate obj, .ok u⟩ =>
    inferInstanceAs (Decidable (u.getNamespace = obj.getNamespace))
  | ⟨.get .., .ok none⟩ | ⟨.get .., .error _⟩ | ⟨.list .., .error _⟩ | ⟨.create _, .error _⟩
  | ⟨.update _, .error _⟩ | ⟨.dryRunUpdate _, .error _⟩ | ⟨.getPolicy, _⟩ | ⟨.removeWatcher, _⟩
  | ⟨.startQueryBatch, _⟩ | ⟨.endQueryBatch, _⟩ | ⟨.updateStatus .., _⟩ | ⟨.complianceCondition, _⟩
  | ⟨.statusUpdate, _⟩ | ⟨.emitComplianceEvent _, _⟩ => isTrue trivial

/-- When the server keeps its contract on the calls `es`, every object they create or update is
in namespace `ns`. -/
def WritesIn (ns : String) (es : List Event) : Prop :=
  (∀ e ∈ es, e.Coherent) → ∀ e ∈ es, ∀ obj, e.call.writtenObject? = some obj → obj.getNamespace = ns

namespace WritesIn

variable {ns : String} {e : Event} {es es₁ es₂ : List Event}

@[simp] theorem nil : WritesIn ns [] := fun _ _ he ↦ absurd he (List.not_mem_nil _)

/-- A call, and the calls after it, which may rely on its answer. -/
@[simp] theorem cons_iff : WritesIn ns (e :: es) ↔
    (e.Coherent → (∀ obj, e.call.writtenObject? = some obj → (∀ e ∈ es, e.Coherent) → obj.getNamespace = ns) ∧
      WritesIn ns es) := by
  simp only [WritesIn, List.forall_mem_cons]
  exact ⟨fun h hc ↦ ⟨fun obj hw hcs ↦ (h ⟨hc, hcs⟩).1 obj hw, fun hcs ↦ (h ⟨hc, hcs⟩).2⟩,
    fun h ⟨hc, hcs⟩ ↦ ⟨fun obj hw ↦ (h hc).1 obj hw hcs, (h hc).2 hcs⟩⟩

/-- The calls after `es₁` may rely on the server's answers to `es₁`. -/
theorem append (h₁ : WritesIn ns es₁) (h₂ : (∀ e ∈ es₁, e.Coherent) → WritesIn ns es₂) :
    WritesIn ns (es₁ ++ es₂) := by
  intro hc e he
  rw [List.forall_mem_append] at hc
  exact (List.mem_append.1 he).elim (h₁ hc.1 e) (h₂ hc.1 hc.2 e)

/-- A read, and the calls after it, which may rely on its answer. -/
theorem cons (he : e.call.writtenObject? = none) (h : e.Coherent → WritesIn ns es) :
    WritesIn ns (e :: es) :=
  (append (fun _ e' he' obj hw ↦ by simp_all) fun hc ↦ h (hc e (List.mem_singleton_self e)) :
    WritesIn ns ([e] ++ es))

end WritesIn

/-! ## How many writes -/

/-- The types of the conditions recorded among the calls `es`, in order. -/
def recordedTypes (es : List Event) : List String :=
  (es.filterMap Event.recordedCondition?).map Condition.type

@[simp] theorem recordedTypes_nil : recordedTypes [] = [] := rfl

@[simp] theorem recordedTypes_cons (e : Event) (es : List Event) :
    recordedTypes (e :: es) = (e.recordedCondition?.map Condition.type).toList ++ recordedTypes es := by
  unfold recordedTypes
  cases h : e.recordedCondition? <;> simp [List.filterMap_cons, h]

@[simp] theorem recordedTypes_append (es₁ es₂ : List Event) :
    recordedTypes (es₁ ++ es₂) = recordedTypes es₁ ++ recordedTypes es₂ := by
  simp [recordedTypes, List.filterMap_append]

theorem recordedTypes_eq_nil {es : List Event} (h : ∀ e ∈ es, e.recordedCondition? = none) :
    recordedTypes es = [] := by
  simp [recordedTypes, List.filterMap_eq_nil_iff.2 h]

theorem Event.recordedCondition?_eq (e : Event) : e.recordedCondition? = e.recordedStatus?.map Prod.fst := by
  obtain ⟨call, r⟩ := e
  cases call <;> rfl

theorem recordedTypes_eq_recordedStatus (es : List Event) :
    recordedTypes es = (es.filterMap Event.recordedStatus?).map fun s ↦ s.1.type := by
  induction es with
  | nil => rfl
  | cons e es ih => cases h : e.recordedStatus? <;> simp [ih, Event.recordedCondition?_eq, h]

/-- The record of a stage of dimension `t`: every condition it records is of type `t`, and it
records at least one unless it fails with `err`. -/
def RecordsDimension (t : String) (es : List Event) (err : Option String) : Prop :=
  (∀ ty ∈ recordedTypes es, ty = t) ∧ (err = none → recordedTypes es ≠ [])

namespace RecordsDimension

variable {t : String} {es es₁ es₂ : List Event} {err : Option String}

/-- A stage of dimension `t` records `n` conditions of type `t`, and `n` is positive unless the
stage failed. -/
theorem replicate (h : RecordsDimension t es err) :
    ∃ n, recordedTypes es = List.replicate n t ∧ (err = none → 0 < n) :=
  ⟨_, List.eq_replicate_iff.2 ⟨rfl, h.1⟩, fun he ↦ List.length_pos.2 (h.2 he)⟩

/-- Calls that record nothing may come first. -/
theorem quiet_append (h₁ : recordedTypes es₁ = []) (h₂ : RecordsDimension t es₂ err) :
    RecordsDimension t (es₁ ++ es₂) err := by
  simpa [RecordsDimension, h₁] using h₂

end RecordsDimension

end Reconciler

end OperatorPolicyController

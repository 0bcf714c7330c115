import OperatorPolicyController.Policy
import Mathlib.Data.List.Sort
import Mathlib.Data.String.Basic

/-!
# Typed Subscriptions and OperatorGroups

The two objects the policy describes, `operatorv1alpha1.Subscription` and
`operatorv1.OperatorGroup`, as the controller builds, serializes and decodes them.

## Decoding

`buildSubscription` and `buildOperatorGroup` decode a fragment with `DisallowUnknownFields`.
`encoding/json` matches keys case-insensitively, keeps decoding after an error and reports the
first one; the fragment it decodes was produced by `json.Marshal` of a map, which writes the keys
in sorted order. `decodeFields` is that loop. Keys are folded with ASCII case folding, which
differs from Go's Unicode folding only on the Kelvin sign and the long s.

The nested types are decoded as strictly (`LabelSelector`, `UpgradeStrategy`); of
`SubscriptionConfig` the names and JSON shapes of the fields are checked, and the Kubernetes core
types inside it are kept as given.

## Serialization

`toUnstructured` writes what `runtime.DefaultUnstructuredConverter.ToUnstructured` writes for the
fields modelled: `apiVersion`, `kind`, the identifying metadata with the zero `creationTimestamp`
as `null`, the spec and the status, with the `omitempty` fields left out when empty.
-/

namespace OperatorPolicyController

/-! ## JSON decoding helpers -/

/-- The JSON type name `encoding/json` reports in an `UnmarshalTypeError`. -/
def Value.typeName : Value → String
  | .null => "null"
  | .bool _ => "bool"
  | .int _ => "number"
  | .str _ => "string"
  | .arr _ => "array"
  | .obj _ => "object"

/-- `json.Unmarshal` into `map[string]interface{}`: `null` gives the nil map. -/
def unmarshalObject : Value → Except String Fields
  | .obj m => .ok m
  | .null => .ok []
  | v => .error s!"json: cannot unmarshal {v.typeName} into Go value of type map[string]interface \x7b\x7d"

/-- The `UnmarshalTypeError` of a struct field: `field` is the innermost struct being decoded and
the path of JSON names from the top, `goType` the Go type of the field. -/
def typeError (v : Value) (field goType : String) : String :=
  s!"json: cannot unmarshal {v.typeName} into Go struct field {field} of type {goType}"

/-- The error of `DisallowUnknownFields`, at any depth. -/
def unknownField (k : String) : String := s!"json: unknown field \"{k}\""

/-- A struct field of a string type named `goType`: `null` leaves the zero value. -/
def decodeStringOf (goType field : String) : Value → Except String String
  | .null => .ok ""
  | .str s => .ok s
  | v => .error (typeError v field goType)

/-- A `string` struct field. -/
def decodeString (field : String) : Value → Except String String := decodeStringOf "string" field

/-- A `bool` struct field. -/
def decodeBool (field : String) : Value → Except String Bool
  | .null => .ok false
  | .bool b => .ok b
  | v => .error (typeError v field "bool")

/-- A `[]string` struct field. -/
def decodeStrings (field : String) : Value → Except String (List String)
  | .null => .ok []
  | .arr vs => vs.mapM (decodeString field)
  | v => .error (typeError v field "[]string")

/-- A `map[string]string` struct field. -/
def decodeStringMap (field : String) : Value → Except String (List (String × String))
  | .null => .ok []
  | .obj m => m.mapM fun e ↦ (e.1, ·) <$> decodeString field e.2
  | v => .error (typeError v field "map[string]string")

/-- A struct-typed field, decoded by `decode` from the object given; `null` leaves `zero`. -/
def decodeStruct {α : Type} (goType field : String) (decode : Fields → Except String α) (zero : α) :
    Value → Except String α
  | .null => .ok zero
  | .obj m => decode m
  | v => .error (typeError v field goType)

/-- A pointer-to-struct field: `null` is the nil pointer. -/
def decodeStructPtr {α : Type} (goType field : String) (decode : Fields → Except String α) :
    Value → Except String (Option α)
  | .null => .ok none
  | .obj m => some <$> decode m
  | v => .error (typeError v field goType)

/-- A slice-of-struct field, each element decoded by `decodeStruct`. -/
def decodeStructs {α : Type} (goType field : String) (decode : Fields → Except String α) (zero : α) :
    Value → Except String (List α)
  | .null => .ok []
  | .arr vs => vs.mapM (decodeStruct goType field decode zero)
  | v => .error (typeError v field ("[]" ++ goType))

/-- `strings.ToLower` on the keys and modes these decoders compare: ASCII case folding, written
over the characters. -/
def asciiLower (s : String) : String := ⟨s.toList.map Char.toLower⟩

/-- The strict decoding loop of one struct: the keys in sorted order, each set by `set` or
rejected by it. -/
def decodeFields {α : Type} (set : α → String → Value → Except String α) (zero : α)
    (m : Fields) : Except String α :=
  (m.insertionSort fun a b ↦ a.1 ≤ b.1).foldlM (fun acc e ↦ set acc e.1 e.2) zero

/-- The entries of a field tagged `omitempty`, left out when empty. -/
def omitEmptyList (k : String) (vs : List Value) : Fields := if vs.isEmpty then [] else [(k, .arr vs)]

/-- The JSON entries of a string field tagged `omitempty`. -/
def omitEmpty (k s : String) : Fields := if s = "" then [] else [(k, .str s)]

/-! ## Nested types

`DisallowUnknownFields` holds at every depth of the decoded struct, so the nested types of the
fragments are decoded as strictly as the top level: `metav1.LabelSelector` and
`operatorv1.UpgradeStrategy` field by field. `SubscriptionConfig` is checked field by field for
its names and JSON shapes; the Kubernetes core types it holds (tolerations, resources, environment,
volumes, affinity) are kept as the JSON given, unchecked, and so is the configuration itself. -/

/-- `metav1.LabelSelectorRequirement`. -/
structure LabelSelectorRequirement where
  key : String := ""
  operator : String := ""
  values : List String := []

/-- One field of a `LabelSelectorRequirement` at the JSON path `path`. -/
def LabelSelectorRequirement.set (path : String) (r : LabelSelectorRequirement) (k : String) (v : Value) :
    Except String LabelSelectorRequirement :=
  match asciiLower k with
  | "key" => return { r with key := ← decodeString s!"LabelSelectorRequirement.{path}.key" v }
  | "operator" => do
    let operator ← decodeStringOf "v1.LabelSelectorOperator" s!"LabelSelectorRequirement.{path}.operator" v
    return { r with operator }
  | "values" => return { r with values := ← decodeStrings s!"LabelSelectorRequirement.{path}.values" v }
  | _ => .error (unknownField k)

/-- `metav1.LabelSelector`. -/
structure LabelSelector where
  matchLabels : List (String × String) := []
  matchExpressions : List LabelSelectorRequirement := []

/-- One field of a `LabelSelector` at the JSON path `path`. -/
def LabelSelector.set (path : String) (s : LabelSelector) (k : String) (v : Value) :
    Except String LabelSelector :=
  match asciiLower k with
  | "matchlabels" => return { s with matchLabels := ← decodeStringMap s!"LabelSelector.{path}.matchLabels" v }
  | "matchexpressions" => do
    let matchExpressions ← decodeStructs "v1.LabelSelectorRequirement" s!"LabelSelector.{path}.matchExpressions"
      (decodeFields (LabelSelectorRequirement.set s!"{path}.matchExpressions") {}) {} v
    return { s with matchExpressions }
  | _ => .error (unknownField k)

/-- The JSON form of a `LabelSelectorRequirement`. -/
def LabelSelectorRequirement.toValue (r : LabelSelectorRequirement) : Value :=
  .obj ([("key", .str r.key), ("operator", .str r.operator)] ++ omitEmptyList "values" (r.values.map .str))

/-- The JSON form of a `LabelSelector`. -/
def LabelSelector.toValue (s : LabelSelector) : Value :=
  .obj ((if s.matchLabels.isEmpty then [] else [("matchLabels", .obj (s.matchLabels.map fun e ↦ (e.1, .str e.2)))]) ++
    omitEmptyList "matchExpressions" (s.matchExpressions.map LabelSelectorRequirement.toValue))

/-- `operatorv1.UpgradeStrategy`, a struct whose one field `Name` is tagged `name,omitempty`. -/
structure UpgradeStrategy where
  name : String := ""

/-- One field of the `UpgradeStrategy` of an `OperatorGroupSpec`. -/
def UpgradeStrategy.set (u : UpgradeStrategy) (k : String) (v : Value) : Except String UpgradeStrategy :=
  match asciiLower k with
  | "name" => do
    let name ← decodeStringOf "v1.upgradeStrategyName" "UpgradeStrategy.upgradeStrategy.name" v
    return { u with name }
  | _ => .error (unknownField k)

/-- The JSON form of an `UpgradeStrategy`. -/
def UpgradeStrategy.toValue (u : UpgradeStrategy) : Value := .obj (omitEmpty "name" u.name)

/-- One field of `operatorv1alpha1.SubscriptionConfig`, checked by name and JSON shape. -/
def SubscriptionConfig.check (_ : Unit) (k : String) (v : Value) : Except String Unit :=
  let unchecked : Fields → Except String Unit := fun _ ↦ .ok ()
  match asciiLower k with
  | "selector" =>
    (decodeStructPtr "v1.LabelSelector" "SubscriptionConfig.config.selector"
      (decodeFields (LabelSelector.set "config.selector") {}) v).map fun _ ↦ ()
  | "nodeselector" => (decodeStringMap "SubscriptionConfig.config.nodeSelector" v).map fun _ ↦ ()
  | "tolerations" =>
    (decodeStructs "v1.Toleration" "SubscriptionConfig.config.tolerations" unchecked () v).map fun _ ↦ ()
  | "resources" =>
    (decodeStructPtr "v1.ResourceRequirements" "SubscriptionConfig.config.resources" unchecked v).map fun _ ↦ ()
  | "envfrom" =>
    (decodeStructs "v1.EnvFromSource" "SubscriptionConfig.config.envFrom" unchecked () v).map fun _ ↦ ()
  | "env" => (decodeStructs "v1.EnvVar" "SubscriptionConfig.config.env" unchecked () v).map fun _ ↦ ()
  | "volumes" => (decodeStructs "v1.Volume" "SubscriptionConfig.config.volumes" unchecked () v).map fun _ ↦ ()
  | "volumemounts" =>
    (decodeStructs "v1.VolumeMount" "SubscriptionConfig.config.volumeMounts" unchecked () v).map fun _ ↦ ()
  | "affinity" =>
    (decodeStructPtr "v1.Affinity" "SubscriptionConfig.config.affinity" unchecked v).map fun _ ↦ ()
  | "annotations" => (decodeStringMap "SubscriptionConfig.config.annotations" v).map fun _ ↦ ()
  | _ => .error (unknownField k)

/-! ## Subscriptions -/

/-- `operatorv1alpha1.SubscriptionSpec`, by its JSON names. -/
structure SubscriptionSpec where
  /-- `source`. -/
  catalogSource : String := ""
  /-- `sourceNamespace`. -/
  catalogSourceNamespace : String := ""
  /-- `name`. -/
  package : String := ""
  channel : String := ""
  startingCSV : String := ""
  installPlanApproval : String := ""
  /-- The `SubscriptionConfig` object, kept as given once checked. -/
  config : Option Value := none

/-- One field of `SubscriptionSpec` set by the strict decoder. -/
def SubscriptionSpec.set (spec : SubscriptionSpec) (k : String) (v : Value) :
    Except String SubscriptionSpec :=
  match asciiLower k with
  | "source" => return { spec with catalogSource := ← decodeString "SubscriptionSpec.source" v }
  | "sourcenamespace" =>
    return { spec with catalogSourceNamespace := ← decodeString "SubscriptionSpec.sourceNamespace" v }
  | "name" => return { spec with package := ← decodeString "SubscriptionSpec.name" v }
  | "channel" => return { spec with channel := ← decodeString "SubscriptionSpec.channel" v }
  | "startingcsv" => return { spec with startingCSV := ← decodeString "SubscriptionSpec.startingCSV" v }
  | "installplanapproval" => do
    let installPlanApproval ← decodeStringOf "v1alpha1.Approval" "SubscriptionSpec.installPlanApproval" v
    return { spec with installPlanApproval }
  | "config" => do
    let config ← decodeStructPtr "v1alpha1.SubscriptionConfig" "SubscriptionSpec.config"
      (fun m ↦ (decodeFields SubscriptionConfig.check () m).map fun _ ↦ .obj m) v
    return { spec with config }
  | _ => .error (unknownField k)

/-- One condition of `status.conditions`. -/
structure SubscriptionCondition where
  type : String
  status : String
  reason : String
  message : String
  deriving DecidableEq, Repr

/-- The fields of `operatorv1alpha1.SubscriptionStatus` the controller reads. -/
structure SubscriptionStatus where
  installedCSV : String := ""
  /-- The name in `installPlanRef`, absent when the reference is nil. -/
  installPlanRef : Option String := none
  conditions : List SubscriptionCondition := []
  deriving DecidableEq, Repr

/-- `operatorv1alpha1.Subscription`. -/
structure Subscription where
  name : String
  «namespace» : String
  spec : SubscriptionSpec
  status : SubscriptionStatus := {}

/-- `SubscriptionStatus.GetCondition`: the condition of that type, or the empty condition. -/
def SubscriptionStatus.getCondition (st : SubscriptionStatus) (type : String) :
    SubscriptionCondition :=
  (st.conditions.find? fun c ↦ c.type = type).getD ⟨"", "", "", ""⟩

/-- The JSON form of a `SubscriptionSpec`. -/
def SubscriptionSpec.toFields (spec : SubscriptionSpec) : Fields :=
  [("source", .str spec.catalogSource), ("sourceNamespace", .str spec.catalogSourceNamespace),
    ("name", .str spec.package)] ++ omitEmpty "channel" spec.channel ++
    omitEmpty "startingCSV" spec.startingCSV ++
    omitEmpty "installPlanApproval" spec.installPlanApproval ++
    (spec.config.map fun c ↦ [("config", c)]).getD []

/-- The JSON form of a `SubscriptionCondition`. -/
def SubscriptionCondition.toValue (c : SubscriptionCondition) : Value :=
  .obj ([("type", .str c.type), ("status", .str c.status)] ++ omitEmpty "reason" c.reason ++
    omitEmpty "message" c.message)

/-- The JSON form of a `SubscriptionStatus`: `lastUpdated`, a `metav1.Time` without `omitempty`,
is written as `null` when zero, and the other fields are `omitempty`. -/
def SubscriptionStatus.toFields (st : SubscriptionStatus) : Fields :=
  omitEmpty "installedCSV" st.installedCSV ++
    (st.installPlanRef.map fun n ↦ [("installPlanRef", .obj (omitEmpty "name" n))]).getD [] ++
    omitEmptyList "conditions" (st.conditions.map SubscriptionCondition.toValue) ++ [("lastUpdated", .null)]

/-- `ToUnstructured` of a Subscription. The zero `creationTimestamp` of the metadata is written
as `null`. -/
def Subscription.toUnstructured (sub : Subscription) : Unstructured :=
  ⟨[("apiVersion", .str subscriptionGVK.groupVersion), ("kind", .str subscriptionGVK.kind),
    ("metadata", .obj (omitEmpty "name" sub.name ++ omitEmpty "namespace" sub.namespace ++
      [("creationTimestamp", .null)])),
    ("spec", .obj sub.spec.toFields), ("status", .obj sub.status.toFields)]⟩

/-- An object field of a struct being converted from unstructured content: missing or `null`
is the zero value. -/
def objectField (m : Fields) (k : String) : Except String Fields :=
  match Fields.get? m k with
  | none | some .null => .ok []
  | some (.obj m') => .ok m'
  | some v => .error s!"{k}: expected object, got {v.typeName}"

/-- A string field of a struct being converted from unstructured content. -/
def stringField (m : Fields) (k : String) : Except String String :=
  match Fields.get? m k with
  | none => .ok ""
  | some v => decodeString k v

/-- One entry of `status.conditions`. -/
def SubscriptionCondition.fromValue : Value → Except String SubscriptionCondition
  | .obj c => return ⟨← stringField c "type", ← stringField c "status", ← stringField c "reason",
      ← stringField c "message"⟩
  | v => .error s!"conditions: expected object, got {v.typeName}"

/-- The status part of `FromUnstructured` into a Subscription. -/
def SubscriptionStatus.fromFields (st : Fields) : Except String SubscriptionStatus := do
  let installedCSV ← stringField st "installedCSV"
  let installPlanRef ← match Fields.get? st "installPlanRef" with
    | none | some .null => pure none
    | some (.obj r) => some <$> stringField r "name"
    | some v => throw s!"installPlanRef: expected object, got {v.typeName}"
  let conditions ← match Fields.get? st "conditions" with
    | none | some .null => pure []
    | some (.arr cs) => cs.mapM SubscriptionCondition.fromValue
    | some v => throw s!"conditions: expected array, got {v.typeName}"
  return { installedCSV, installPlanRef, conditions }

/-- `DefaultUnstructuredConverter.FromUnstructured` into a Subscription. Unknown fields are
ignored, as the converter ignores them. -/
def Subscription.fromUnstructured (u : Unstructured) : Except String Subscription := do
  let metadata ← objectField u.object "metadata"
  let spec ← objectField u.object "spec"
  let status ← objectField u.object "status"
  return {
    name := ← stringField metadata "name"
    «namespace» := ← stringField metadata "namespace"
    spec := {
      catalogSource := ← stringField spec "source"
      catalogSourceNamespace := ← stringField spec "sourceNamespace"
      package := ← stringField spec "name"
      channel := ← stringField spec "channel"
      startingCSV := ← stringField spec "startingCSV"
      installPlanApproval := ← stringField spec "installPlanApproval"
      config := Fields.get? spec "config" }
    status := ← SubscriptionStatus.fromFields status }

/-! ## OperatorGroups -/

/-- `operatorv1.OperatorGroupSpec`, by its JSON names. -/
structure OperatorGroupSpec where
  selector : Option LabelSelector := none
  targetNamespaces : List String := []
  serviceAccountName : String := ""
  staticProvidedAPIs : Bool := false
  upgradeStrategy : UpgradeStrategy := {}

/-- One field of `OperatorGroupSpec` set by the strict decoder. -/
def OperatorGroupSpec.set (spec : OperatorGroupSpec) (k : String) (v : Value) :
    Except String OperatorGroupSpec :=
  match asciiLower k with
  | "selector" => do
    let selector ← decodeStructPtr "v1.LabelSelector" "OperatorGroupSpec.selector"
      (decodeFields (LabelSelector.set "selector") {}) v
    return { spec with selector }
  | "targetnamespaces" =>
    return { spec with targetNamespaces := ← decodeStrings "OperatorGroupSpec.targetNamespaces" v }
  | "serviceaccountname" =>
    return { spec with serviceAccountName := ← decodeString "OperatorGroupSpec.serviceAccountName" v }
  | "staticprovidedapis" =>
    return { spec with staticProvidedAPIs := ← decodeBool "OperatorGroupSpec.staticProvidedAPIs" v }
  | "upgradestrategy" => do
    let upgradeStrategy ← decodeStruct "v1.UpgradeStrategy" "OperatorGroupSpec.upgradeStrategy"
      (decodeFields UpgradeStrategy.set spec.upgradeStrategy) spec.upgradeStrategy v
    return { spec with upgradeStrategy }
  | _ => .error (unknownField k)

/-- `operatorv1.OperatorGroup`. -/
structure OperatorGroup where
  name : String := ""
  generateName : String := ""
  «namespace» : String
  resourceVersion : String := ""
  spec : OperatorGroupSpec

/-- The JSON form of an `OperatorGroupSpec`. `upgradeStrategy` is a struct, which `omitempty`
never leaves out. -/
def OperatorGroupSpec.toFields (spec : OperatorGroupSpec) : Fields :=
  (spec.selector.map fun s ↦ [("selector", s.toValue)]).getD [] ++
    omitEmptyList "targetNamespaces" (spec.targetNamespaces.map .str) ++
    omitEmpty "serviceAccountName" spec.serviceAccountName ++
    (if spec.staticProvidedAPIs then [("staticProvidedAPIs", .bool true)] else []) ++
    [("upgradeStrategy", spec.upgradeStrategy.toValue)]

/-- `ToUnstructured` of an OperatorGroup built by `buildOperatorGroup`: the zero
`creationTimestamp` and the `lastUpdated` time the builder sets are written as `null`. -/
def OperatorGroup.toUnstructured (og : OperatorGroup) : Unstructured :=
  ⟨[("apiVersion", .str operatorGroupGVK.groupVersion), ("kind", .str operatorGroupGVK.kind),
    ("metadata", .obj (omitEmpty "name" og.name ++ omitEmpty "generateName" og.generateName ++
      omitEmpty "namespace" og.namespace ++ omitEmpty "resourceVersion" og.resourceVersion ++
      [("creationTimestamp", .null)])),
    ("spec", .obj og.spec.toFields), ("status", .obj [("lastUpdated", .null)])]⟩

/-! ## Where a serialized object lives -/

@[simp] theorem Fields.get?_omitEmpty (k s j : String) :
    Fields.get? (omitEmpty k s) j = if k = j ∧ s ≠ "" then some (.str s) else none := by
  by_cases hs : s = "" <;> by_cases hk : k = j <;> simp [omitEmpty, hs, hk]

end OperatorPolicyController

import Mathlib.Data.List.Basic

/-!
# Unstructured objects

Every dependency of an operator policy reaches the controller as an `unstructured.Unstructured`:
a JSON object held as `map[string]interface{}`. This file is that representation and the few
accessors of `k8s.io/apimachinery` the controller calls on it.

## Representation

A JSON object is an association list. Keys of a decoded JSON object are distinct, and every
operation here keeps them so: `Fields.insert` replaces a key in place, `Fields.erase` removes
it. Go's `reflect.DeepEqual` compares maps as sets of entries, which is `Value.deepEqual`
below, not the structural equality of the lists.

## Accessors

`NestedString` and `NestedStringSlice` return `(value, found, error)`. The controller treats a
missing field and a field of the wrong type alike, logging only the error, and logging is not
modelled, so both are `none` here.
-/

namespace OperatorPolicyController

/-- A JSON value as `encoding/json` decodes it into `interface{}`. Numbers are integers: no field
the controller reads is fractional. -/
inductive Value where
  | null
  | bool (b : Bool)
  | int (n : Int)
  | str (s : String)
  | arr (vs : List Value)
  | obj (fields : List (String × Value))
  deriving Repr, Inhabited

/-- The entries of a JSON object, `map[string]interface{}`. -/
abbrev Fields := List (String × Value)

namespace Fields

/-- `m[k]`, with `none` for a missing key. -/
def get? : Fields → String → Option Value
  | [], _ => none
  | (a, v) :: m, k => if a = k then some v else Fields.get? m k

/-- `m[k] = v`: the entry is replaced in place, or added at the end. -/
def insert : Fields → String → Value → Fields
  | [], k, v => [(k, v)]
  | (a, w) :: m, k, v => if a = k then (k, v) :: m else (a, w) :: Fields.insert m k v

/-- `delete(m, k)`. -/
def erase : Fields → String → Fields
  | [], _ => []
  | (a, w) :: m, k => if a = k then Fields.erase m k else (a, w) :: Fields.erase m k

@[simp] theorem get?_nil (k : String) : Fields.get? [] k = none := rfl

@[simp] theorem get?_cons (a k : String) (v : Value) (m : Fields) :
    Fields.get? ((a, v) :: m) k = if a = k then some v else Fields.get? m k := rfl

@[simp] theorem get?_insert (m : Fields) (k j : String) (v : Value) :
    Fields.get? (Fields.insert m k v) j = if k = j then some v else Fields.get? m j := by
  induction m with
  | nil => rfl
  | cons e m ih =>
    obtain ⟨a, w⟩ := e
    by_cases hak : a = k
    · subst hak; by_cases haj : a = j <;> simp [insert, haj]
    · by_cases haj : a = j
      · subst haj; simp [insert, hak, Ne.symm hak]
      · simp [insert, hak, haj, ih]

@[simp] theorem get?_erase (m : Fields) (k j : String) :
    Fields.get? (Fields.erase m k) j = if k = j then none else Fields.get? m j := by
  induction m with
  | nil => simp [erase]
  | cons e m ih =>
    obtain ⟨a, w⟩ := e
    by_cases hak : a = k
    · subst hak
      by_cases haj : a = j
      · subst haj; simp [erase, ih]
      · simp [erase, haj, ih]
    · by_cases haj : a = j
      · subst haj; simp [erase, hak, Ne.symm hak]
      · simp [erase, hak, haj, ih]

end Fields

/-! ## Nested fields -/

/-- `unstructured.NestedFieldNoCopy`: follow `path` through nested objects. A `null` on the way
or a missing key is "not found" (`ok none`); a non-object on the way is an accessor error. -/
def nestedField : Value → List String → Except String (Option Value)
  | v, [] => .ok (some v)
  | .null, _ :: _ => .ok none
  | .obj m, f :: fs =>
    match Fields.get? m f with
    | none => .ok none
    | some v => nestedField v fs
  | _, f :: _ => .error s!".{f} accessor error: expected map[string]interface\x7b\x7d"

/-- `unstructured.NestedString`, with "not found" and "error" both `none`. -/
def nestedString (m : Fields) (path : List String) : Option String :=
  match nestedField (.obj m) path with
  | .ok (some (.str s)) => some s
  | _ => none

/-- The string held by a JSON string. -/
def Value.getStr? : Value → Option String
  | .str s => some s
  | _ => none

/-- The entries held by a JSON object. -/
def Value.getObj? : Value → Option Fields
  | .obj m => some m
  | _ => none

/-- `unstructured.NestedStringSlice`: an array whose elements are all strings. -/
def nestedStringSlice (m : Fields) (path : List String) : Option (List String) :=
  match nestedField (.obj m) path with
  | .ok (some (.arr vs)) => vs.mapM Value.getStr?
  | _ => none

/-- `unstructured.RemoveNestedField`: delete the last key of `path`; nothing happens when an
intermediate field is missing or not an object. -/
def removeNestedField : Fields → List String → Fields
  | m, [] => m
  | m, [k] => Fields.erase m k
  | m, k :: k' :: ks =>
    match Fields.get? m k with
    | some (.obj m') => Fields.insert m k (.obj (removeNestedField m' (k' :: ks)))
    | _ => m

/-- `unstructured.SetNestedField`: missing intermediate objects are created; an intermediate
field that is not an object is an error. -/
def setNestedField : Fields → Value → List String → Except String Fields
  | m, _, [] => .ok m
  | m, v, [k] => .ok (Fields.insert m k v)
  | m, v, k :: k' :: ks =>
    match Fields.get? m k with
    | some (.obj m') => (setNestedField m' v (k' :: ks)).map fun m'' ↦ Fields.insert m k (.obj m'')
    | none => (setNestedField [] v (k' :: ks)).map fun m'' ↦ Fields.insert m k (.obj m'')
    | some _ => .error s!"value cannot be set because .{k} is not a map[string]interface\x7b\x7d"

/-- Removing a two-step path leaves nothing to read there. -/
@[simp] theorem nestedString_removeNestedField_self (m : Fields) (k k' : String) :
    nestedString (removeNestedField m [k, k']) [k, k'] = none := by
  unfold nestedString removeNestedField
  rcases h : Fields.get? m k with _ | ⟨_ | _ | _ | _ | _ | m'⟩ <;>
    simp [nestedField, h, removeNestedField]

/-- Removing a two-step path leaves every other path below the same first key as it was. -/
theorem nestedString_removeNestedField_of_ne (m : Fields) (k k' j : String) (h : k' ≠ j) :
    nestedString (removeNestedField m [k, k']) [k, j] = nestedString m [k, j] := by
  unfold nestedString removeNestedField
  rcases hk : Fields.get? m k with _ | ⟨_ | _ | _ | _ | _ | m'⟩ <;>
    simp [nestedField, hk, removeNestedField, h]

/-- Removing a top-level key leaves the paths below every other key as they were. -/
theorem nestedString_removeNestedField_top (m : Fields) (s k j : String) (h : s ≠ k) :
    nestedString (removeNestedField m [s]) [k, j] = nestedString m [k, j] := by
  simp [nestedString, removeNestedField, nestedField, h]

/-! ## Deep equality -/

mutual

/-- `reflect.DeepEqual` on decoded JSON: objects are compared as maps, arrays in order. -/
def Value.deepEqual : Value → Value → Bool
  | .null, .null => true
  | .bool a, .bool b => a == b
  | .int a, .int b => a == b
  | .str a, .str b => a == b
  | .arr as, .arr bs => Value.deepEqualList as bs
  | .obj as, .obj bs => as.length == bs.length && Value.deepEqualFields as bs
  | _, _ => false

/-- Element-wise `deepEqual` of two arrays. -/
def Value.deepEqualList : List Value → List Value → Bool
  | [], [] => true
  | a :: as, b :: bs => a.deepEqual b && Value.deepEqualList as bs
  | _, _ => false

/-- Every entry of the first object has a deep-equal entry under its key in `bs`. -/
def Value.deepEqualFields : Fields → Fields → Bool
  | [], _ => true
  | (k, a) :: as, bs =>
    (match Fields.get? bs k with
      | some b => a.deepEqual b
      | none => false) && Value.deepEqualFields as bs

end

/-! ## Object metadata -/

/-- An owner reference as `metav1.OwnerReference`; the fields the controller compares. -/
structure OwnerReference where
  apiVersion : String
  kind : String
  name : String
  deriving Repr, DecidableEq

/-- `unstructured.Unstructured`. -/
structure Unstructured where
  object : Fields
  deriving Inhabited

namespace Unstructured

/-- `getNestedString`: a string field, `""` when missing or not a string. -/
def getNestedString (u : Unstructured) (path : List String) : String :=
  (nestedString u.object path).getD ""

def getAPIVersion (u : Unstructured) : String := u.getNestedString ["apiVersion"]

def getKind (u : Unstructured) : String := u.getNestedString ["kind"]

def getName (u : Unstructured) : String := u.getNestedString ["metadata", "name"]

def getNamespace (u : Unstructured) : String := u.getNestedString ["metadata", "namespace"]

def getGenerateName (u : Unstructured) : String := u.getNestedString ["metadata", "generateName"]

def getResourceVersion (u : Unstructured) : String :=
  u.getNestedString ["metadata", "resourceVersion"]

/-- `SetGroupVersionKind`: the `apiVersion` and `kind` entries. -/
def setGroupVersionKind (u : Unstructured) (apiVersion kind : String) : Unstructured :=
  ⟨Fields.insert (Fields.insert u.object "apiVersion" (.str apiVersion)) "kind" (.str kind)⟩

/-- `extractOwnerReference`: each field read with `getNestedString`. -/
def extractOwnerReference (m : Fields) : OwnerReference where
  apiVersion := (nestedString m ["apiVersion"]).getD ""
  kind := (nestedString m ["kind"]).getD ""
  name := (nestedString m ["name"]).getD ""

/-- `GetOwnerReferences`: the whole list is dropped when any entry is not an object. -/
def getOwnerReferences (u : Unstructured) : List OwnerReference :=
  match nestedField (.obj u.object) ["metadata", "ownerReferences"] with
  | .ok (some (.arr vs)) =>
    ((vs.mapM Value.getObj?).map fun ms ↦ ms.map extractOwnerReference).getD []
  | _ => []

end Unstructured

end OperatorPolicyController

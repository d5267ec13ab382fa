/-
# Config storage: `load_all`, `process` and `safe_store`

`Config.load_all` (config.py) runs `process` on every resource whose
`ambassador_id` matches this Ambassador, and posts the error `process`
returns, if any. `process` checks the fields, defaults the namespace,
validates, and files the resource: kinds of `StorageByKind` go to their
bucket through `safe_store`, a Module through `handle_module` (also
`safe_store`), Secrets, Ingresses and Services under their `rkey`, and every
other kind through `save_object` into the bucket named by the kind.

`safe_store` files a resource under its name. A resource whose name is taken
by one in the same namespace is an error, and replaces it; one whose name is
taken by one in another namespace is renamed `name.namespace` and filed under
that name. Nothing checks that the new name is free
(`safe_store_overwrites_iff`). Kubernetes names may contain `.`, so
`x.b` in `a`, then `x` in `a`, then `x` in `b` leave the first resource in no
bucket and post no error (`load_all_overwrites_renamed`).

Strings are lists of characters; `str.lower()` is `Char.toLower` on each
character (kinds are ASCII). The state is what `process` and `post_error`
write: `self.config`, `self.errors`, and `current_resource`, which names the
resource `process` last failed on (an error posted with no resource goes
there, else under `-global-`).

Key definitions: `ACResource`, `Config`, `safe_store`, `process`, `load_all`.
Key theorems: `safe_store_get?`, `safe_store_errors`, `safe_store_overwrites_iff`.
-/
import Emissary.Basic
import Emissary.Lib.Dict

namespace Emissary
namespace Config

/-! ### Resources and the state -/

/-- The value of an `ambassadorId` or `ambassador_id` element: `null`, a
string or a list of strings. -/
inductive StringOrList where
  | null
  | str (s : Key)
  | list (ids : List Key)
  deriving DecidableEq

/-- Python's truthiness of the value. -/
def StringOrList.truthy : StringOrList → Bool
  | .null => false
  | .str s => !s.isEmpty
  | .list ids => !ids.isEmpty

/-- The list a value stands for: `typecast(StringOrList, [allowed_ids])` of a
string. -/
def StringOrList.toList : StringOrList → List Key
  | .null => []
  | .str s => [s]
  | .list ids => ids

/-- The fields of an `ACResource` that `Config` reads; `ambassadorId` and
`ambassador_id` are `none` when the element is absent. -/
structure ACResource where
  rkey : Key
  location : Key
  apiVersion : Key
  kind : Key
  name : Option Key
  «namespace» : Option Key
  errors : Option Key
  ambassadorId : Option StringOrList
  ambassador_id : Option StringOrList
  deriving DecidableEq

end Config

/-- The state of `Config` that loading writes: `config[bucket][name]`, the
errors posted, by `rkey`, and `current_resource`; with the two class
variables it reads. -/
structure Config where
  ambassador_id : Key
  ambassador_namespace : Key
  config : Dict Key (Dict Key Config.ACResource)
  errors : Dict Key (List Key)
  current_resource : Option Config.ACResource

namespace Config

/-- A fresh `Config`: nothing stored, no error. -/
def init (ambassador_id ambassador_namespace : Key) : Config := ⟨ambassador_id, ambassador_namespace, ∅, ∅, none⟩

/-- `post_error(msg, resource=resource)`: appended to `self.errors[resource.rkey]`. -/
def post_error (c : Config) (rkey msg : Key) : Config :=
  { c with errors := c.errors.set rkey ((c.errors.get? rkey).getD [] ++ [msg]) }

/-- `post_error(msg)` with no resource: against `current_resource`, else
under `-global-`. -/
def post_error_current (c : Config) (msg : Key) : Config :=
  c.post_error ((c.current_resource.map (·.rkey)).getD "-global-".toList) msg

/-- `"%s defines %s %s, which is already defined by %s" % (resource, resource.kind, key, location)`;
`str` of a resource is `<kind rkey>`. -/
def already_defined (resource : ACResource) (key location : Key) : Key :=
  "<".toList ++ resource.kind ++ " ".toList ++ resource.rkey ++ "> defines ".toList ++ resource.kind ++
    " ".toList ++ key ++ ", which is already defined by ".toList ++ location

/-- `self.config.setdefault(storage_name, {})`, read. -/
def storage (c : Config) (storage_name : Key) : Dict Key ACResource :=
  (c.config.get? storage_name).getD ∅

/-! ### Filing -/

/-- `safe_store(storage_name, resource)`, for a resource whose `name` and
`namespace` (`process` checked the one and defaulted the other) are `name`
and `ns`. -/
def safe_store (c : Config) (storage_name : Key) (resource : ACResource) (name ns : Key) : Config :=
  match (c.storage storage_name).get? name with
  | some stored =>
    if some ns = stored.«namespace» then
      -- Same name, same namespace: an error, and the new one is filed anyway.
      let c' := c.post_error resource.rkey (already_defined resource name stored.location)
      let storage := (c.storage storage_name).set name resource
      { c' with config := c.config.set storage_name storage }
    else
      -- Same name, another namespace: renamed, and filed under the new name.
      let renamed := name ++ ".".toList ++ ns
      let storage := (c.storage storage_name).set renamed { resource with name := some renamed }
      { c with config := c.config.set storage_name storage }
  | none =>
    let storage := (c.storage storage_name).set name resource
    { c with config := c.config.set storage_name storage }

/-- The handlers that file a resource under its `rkey`: a key already there
is an error, and the resource replaces it. -/
def store_by_rkey (storage_name : Key) (c : Config) (resource : ACResource) : Config :=
  let key := resource.rkey
  let c' := match (c.storage storage_name).get? key with
    | some stored => c.post_error resource.rkey (already_defined resource key stored.location)
    | none => c
  let storage := (c.storage storage_name).set key resource
  { c' with config := c.config.set storage_name storage }

/-- `handle_secret`. -/
def handle_secret : Config → ACResource → Config := store_by_rkey "secrets".toList

/-- `handle_ingress`. -/
def handle_ingress : Config → ACResource → Config := store_by_rkey "ingresses".toList

/-- `handle_service` (its `helm_chart` is not part of this model). -/
def handle_service : Config → ACResource → Config := store_by_rkey "service".toList

/-- `handle_module`: the Module, as a resource of kind `Module`, into `modules`. -/
def handle_module (c : Config) (resource : ACResource) (name ns : Key) : Config :=
  c.safe_store "modules".toList { resource with kind := "Module".toList } name ns

/-- `save_object`: into the bucket named by the kind. -/
def save_object (c : Config) (resource : ACResource) (name ns : Key) : Config :=
  c.safe_store resource.kind resource name ns

/-- `Config.StorageByKind`, by lower-cased kind. -/
def StorageByKind : List (Key × Key) :=
  [("authservice".toList, "auth_configs".toList),
   ("consulresolver".toList, "resolvers".toList),
   ("host".toList, "hosts".toList),
   ("listener".toList, "listeners".toList),
   ("mapping".toList, "mappings".toList),
   ("kubernetesendpointresolver".toList, "resolvers".toList),
   ("kubernetesserviceresolver".toList, "resolvers".toList),
   ("ratelimitservice".toList, "ratelimit_configs".toList),
   ("devportal".toList, "devportals".toList),
   ("tcpmapping".toList, "tcpmappings".toList),
   ("tlscontext".toList, "tls_contexts".toList),
   ("tracingservice".toList, "tracing_configs".toList),
   ("logservice".toList, "log_services".toList)]

/-! ### Checking and processing -/

/-- `good_ambassador_id(resource)`: the `ambassadorId` element, else the
`ambassador_id` one (`"default"` when absent); the list `["_automatic_"]`
always passes, else a truthy value must hold this Ambassador's id, and a
falsy one falls through to `None`. -/
def good_ambassador_id (c : Config) (resource : ACResource) : Bool :=
  let allowed_ids := match resource.ambassadorId with
    | none | some .null => resource.ambassador_id.getD (.str "default".toList)
    | some ids => ids
  if allowed_ids = .list ["_automatic_".toList] then true
  else if allowed_ids.truthy then decide (c.ambassador_id ∈ allowed_ids.toList)
  else false

/-- The errors `entrypoint` attached to a resource: popped, split into lines,
and the non-empty ones joined by `"; "`; any left is the error. -/
def check_errors (resource : ACResource) : Except Key ACResource :=
  match resource.errors with
  | none => .ok resource
  | some errors =>
    let watt_errors := "; ".toList.intercalate ((errors.splitOn '\n').filter (· ≠ []))
    if watt_errors = [] then .ok { resource with errors := none } else .error watt_errors

/-- `validate_object(resource)`: an `apiVersion` of Ambassador or of Knative
(an unsupported Ambassador version only posts a notice, which this model
leaves out), then the errors attached to it. The resource comes back with
its errors popped. -/
def validate_object (resource : ACResource) : Except Key ACResource :=
  if "getambassador.io/".toList.isPrefixOf resource.apiVersion then check_errors resource
  else if "networking.internal.knative.dev".toList.isPrefixOf resource.apiVersion then check_errors resource
  else .error ("apiVersion ".toList ++ resource.apiVersion ++ " unsupported".toList)

/-- Filing a checked resource with `name` in namespace `ns`: by
`StorageByKind`, else by `handle_<kind>`, else by `save_object`. -/
def file (c : Config) (resource : ACResource) (name ns : Key) : Config :=
  let lkind := resource.kind.map Char.toLower
  match StorageByKind.lookup lkind with
  | some store_as => c.safe_store store_as resource name ns
  | none =>
    if lkind = "module".toList then c.handle_module resource name ns
    else if lkind = "secret".toList then c.handle_secret resource
    else if lkind = "ingress".toList then c.handle_ingress resource
    else if lkind = "service".toList then c.handle_service resource
    else c.save_object resource name ns

/-- `process(resource)`: the state after, and the error it returns, if any. -/
def process (c : Config) (resource : ACResource) : Config × Option Key :=
  -- the resource stays `current_resource` unless it is filed
  let c := { c with current_resource := some resource }
  if resource.apiVersion = [] then (c, some "need apiVersion".toList)
  else if resource.kind = [] then (c, some "need kind".toList)
  else match resource.name with
    | none => (c, some "need name".toList)
    | some name =>
      -- An empty or missing namespace is Ambassador's own.
      let ns := match resource.«namespace» with
        | some ns => if ns = [] then c.ambassador_namespace else ns
        | none => c.ambassador_namespace
      match validate_object { resource with «namespace» := some ns } with
      | .error msg => (c, some msg)
      | .ok resource => ({ c.file resource name ns with current_resource := none }, none)

/-- `load_all(resources)`: every resource for this Ambassador is processed,
and an error it returns is posted against it. -/
def load_all (c : Config) : List ACResource → Config
  | [] => c
  | resource :: resources =>
    if c.good_ambassador_id resource then
      let r := c.process resource
      let c' := match r.2 with
        | some msg => r.1.post_error resource.rkey msg
        | none => r.1
      c'.load_all resources
    else c.load_all resources

/-! ### What `safe_store` does -/

section SafeStore

variable (c : Config) (b : Key) (r : ACResource) (name ns : Key)

/-- The key `safe_store` files under: the name, unless the name is taken in
another namespace. -/
def filed_key : Key :=
  match (c.storage b).get? name with
  | some stored => if some ns = stored.«namespace» then name else name ++ ".".toList ++ ns
  | none => name

/-- The resource as filed: renamed when its key is not its name. -/
def filed : ACResource :=
  if filed_key c b name ns = name then r else { r with name := some (filed_key c b name ns) }

/-- Whether `safe_store` posts the error: the name is taken in the same namespace. -/
def clashes : Prop :=
  ∃ stored, (c.storage b).get? name = some stored ∧ some ns = stored.«namespace»

instance : Decidable (clashes c b name ns) :=
  match h : (c.storage b).get? name with
  | some stored => decidable_of_iff (some ns = stored.«namespace») (by simp [clashes, h])
  | none => isFalse (by simp [clashes, h])

/-- `safe_store` files one resource in one bucket, and touches no other. -/
theorem safe_store_config :
    (c.safe_store b r name ns).config =
      c.config.set b ((c.storage b).set (filed_key c b name ns) (filed c b r name ns)) := by
  unfold safe_store filed filed_key
  cases hs : (c.storage b).get? name with
  | none => simp
  | some stored =>
    by_cases hns : some ns = stored.«namespace»
    · simp [hns, post_error]
    · simp [hns]

theorem safe_store_get? (k : Key) :
    (c.safe_store b r name ns).config.get? k =
      if k = b then some ((c.storage b).set (filed_key c b name ns) (filed c b r name ns))
      else c.config.get? k := by
  rw [safe_store_config, Dict.get?_set]

theorem post_error_errors_ne (rkey msg : Key) : (c.post_error rkey msg).errors ≠ c.errors := by
  intro h
  have hget := congrArg (Dict.get? · rkey) h
  simp only [post_error, Dict.get?_set_self] at hget
  have hlen := congrArg (fun l => List.length (Option.getD l [])) hget
  simp at hlen

/-- `safe_store` posts an error exactly when the name is taken in the same namespace. -/
theorem safe_store_errors : (c.safe_store b r name ns).errors = c.errors ↔ ¬ clashes c b name ns := by
  unfold safe_store clashes
  cases hs : (c.storage b).get? name with
  | none => simp
  | some stored =>
    by_cases hns : some ns = stored.«namespace»
    · simp only [hns, if_true, Option.some.injEq, exists_eq_left', not_true_eq_false, iff_false]
      exact post_error_errors_ne _ _ _
    · simp [hns]

end SafeStore

/-! ### A rename over a resource -/

/-- A Mapping for this Ambassador, with its name, namespace and `rkey`. -/
def mapping (name ns rkey : Key) : ACResource :=
  ⟨rkey, rkey, "getambassador.io/v3alpha1".toList, "Mapping".toList, some name, some ns, none, none, none⟩

/-- `x.b` in `a`, then `x` in `a`, then `x` in `b`: the third is renamed
`x.b` and replaces the first in the `mappings` bucket, and no error is posted. -/
theorem load_all_overwrites_renamed :
    (fun c : Config => ((c.config.get? "mappings".toList).map Dict.entries, c.errors.entries))
        ((init "default".toList "default".toList).load_all
          [mapping "x.b".toList "a".toList "x.b.a.1".toList, mapping "x".toList "a".toList "x.a.1".toList,
            mapping "x".toList "b".toList "x.b.1".toList]) =
      (some [("x.b".toList, { mapping "x".toList "b".toList "x.b.1".toList with name := some "x.b".toList }),
        ("x".toList, mapping "x".toList "a".toList "x.a.1".toList)], []) := by
  decide

end Config
end Emissary

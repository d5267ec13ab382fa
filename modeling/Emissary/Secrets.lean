/-
# Which secrets the Go entrypoint ships to the Python IR

`ReconcileSecrets` sends Python only the secrets some resource references,
since every secret sent is written to disk. It walks the Hosts, TLSContexts,
Modules and Ingresses for this instance, collects each secret they name as a
`SecretRef` (`findSecretRefs`, `secretRef`), adds the fallback certificate's,
and copies the matching secrets, those from the filesystem first
(`ReconcileSecrets`, `checkSecret`).

A secret name `n.ns` may name secret `n` in namespace `ns`: whether the dot
splits is "secret namespacing". Go decides it once, from the `ambassador`
Module (`ReconcileSecrets.secretNamespacing`), and a TLSContext may override
it. Python decides it per TLSContext when it resolves a secret
(`IRTLSContext.resolve_secret`), by `lookup` of `secret_namespacing` with the
module's `defaults.tls_secret_namespacing` and then `True` as fallbacks. Go
reads an absent `tls_secret_namespacing` as its zero value, `false`, while
Python's fallback is `True`.

So: the two split a name alike when they agree on namespacing
(`secretRef_resolve_secret`); they agree when the TLSContext or the module
says (`secret_namespacing_of_override`, `secret_namespacing_agree_of_module`),
and without an `ambassador` Module both split (`secret_namespacing_of_no_module`,
`ReconcileSecrets.secretNamespacing_of_no_module`);
then every secret Python resolves for a TLSContext is shipped
(`resolve_secret_mem_refs`). When the `ambassador` Module says nothing, Go
does not split and Python does, and a secret `foo.b` of a TLSContext in
namespace `a` is never shipped.

Key definitions: `secretRef`, `findSecretRefs`, `ReconcileSecrets`,
`IRResource.lookup`, `IRTLSContext.resolve_secret`.
Key theorems: `secretRef_resolve_secret`, `mem_refs_of_tlsContext`,
`resolve_secret_mem_refs`, `secret_namespacing_agree_of_module`,
`mem_ReconcileSecrets_secrets`.
-/
import Emissary.Snapshot
import Emissary.Lib.Split

namespace Emissary

namespace Secrets

open Snapshot

/-! ### Go: `ReconcileSecrets` -/

/-- `secretRef`: with namespacing on, a name with a `.` is split at the last
one into name and namespace. -/
def secretRef («namespace» name : Key) (secretNamespacing : Bool) : SecretRef :=
  if secretNamespacing then
    match Split.splitLast '.' name with
    | some (name', namespace') => ⟨namespace', name'⟩
    | none => ⟨«namespace», name⟩
  else ⟨«namespace», name⟩

/-- `ModuleSecrets`: what Go decodes from a Module's `config` to find secrets. -/
structure ModuleSecrets where
  tlsSecretNamespacing : Bool
  upstreamSecret : Key
  serverSecret : Key
  clientSecret : Key
  deriving DecidableEq, Repr

/-- The `secret` of one of the structs `upstream`, `server`, `client` of
`ModuleSecrets`. -/
def ModuleSecrets.secretOf (config : JsonObj) (field : Key) : Option Key := do
  let o ← Json.decodeObj (config.get? field)
  Json.decodeString (o.get? "secret".toList)

/-- `convert(mod.Spec.Config, &secs)`; `none` when decoding fails. -/
def ModuleSecrets.convert (config : JsonObj) : Option ModuleSecrets := do
  let defaults ← Json.decodeObj (config.get? "defaults".toList)
  let tlsSecretNamespacing ← Json.decodeBool (defaults.get? "tls_secret_namespacing".toList)
  let upstreamSecret ← secretOf config "upstream".toList
  let serverSecret ← secretOf config "server".toList
  let clientSecret ← secretOf config "client".toList
  pure ⟨tlsSecretNamespacing, upstreamSecret, serverSecret, clientSecret⟩

/-- The refs of `secretNames` that are not empty. -/
def refsOf («namespace» : Key) (secretNamespacing : Bool) (secretNames : List Key) :
    List SecretRef :=
  (secretNames.filter (· ≠ [])).map fun name => secretRef «namespace» name secretNamespacing

/-- `findSecretRefs`: the secrets one resource references, in the order it
marks them. -/
def findSecretRefs (resource : Object) (secretNamespacing : Bool) : List SecretRef :=
  match resource with
  | .host r =>
    -- `spec.tls.caSecret` is marked even when empty; `crlSecret` only when set
    (match r.tls with
      | some tls =>
        secretRef r.«namespace» tls.caSecret secretNamespacing ::
          refsOf r.«namespace» secretNamespacing [tls.crlSecret]
      | none => []) ++
    -- `tlsSecret` and the ACME key are Kubernetes references, never split
    (match r.tlsSecret with
      | some ts =>
        if ts.name ≠ [] then
          if ts.«namespace» ≠ [] then [secretRef ts.«namespace» ts.name false]
          else [secretRef r.«namespace» ts.name false]
        else []
      | none => []) ++
    (match r.acmeProvider with
      | some ⟨some key⟩ => refsOf r.«namespace» false [key]
      | _ => [])
  | .tlsContext r =>
    refsOf r.«namespace» (r.secretNamespacing.getD secretNamespacing) [r.secret, r.caSecret, r.crlSecret]
  | .module r =>
    match ModuleSecrets.convert r.config with
    | some secs =>
      refsOf r.«namespace» secretNamespacing [secs.upstreamSecret, secs.serverSecret, secs.clientSecret]
    | none => []
  | .ingress r => refsOf r.«namespace» secretNamespacing r.tls
  | _ => []

namespace ReconcileSecrets

/-- The resources allowed to mention secrets, each kind for this instance but
Ingresses: annotations, Hosts, TLSContexts, Modules, Ingresses. -/
def resources (envAmbID : Key) (s : KubernetesSnapshot) : List Object :=
  annotationsFor envAmbID s ++
    (s.hosts.filter (·.ambassadorID.Matches envAmbID)).map .host ++
    (s.tlsContexts.filter (·.ambassadorID.Matches envAmbID)).map .tlsContext ++
    (s.modules.filter (·.ambassadorID.Matches envAmbID)).map .module ++
    s.ingresses.map .ingress

/-- The loop for `secretNamespacing`: `true`, unless a Module named
`ambassador` decodes, when it is that Module's `defaults.tls_secret_namespacing`;
a Module that does not decode is skipped. -/
def secretNamespacing : List Object → Bool
  | [] => true
  | .module m :: rest =>
    if m.name = "ambassador".toList then
      match ModuleSecrets.convert m.config with
      | some secs => secs.tlsSecretNamespacing
      | none => secretNamespacing rest
    else secretNamespacing rest
  | _ :: rest => secretNamespacing rest

/-- The `refs` set: every secret the resources mark, and the fallback
certificate in the Ambassador namespace. -/
def refs (envAmbID ambNamespace : Key) (s : KubernetesSnapshot) : List SecretRef :=
  (resources envAmbID s).flatMap (findSecretRefs · (secretNamespacing (resources envAmbID s))) ++
    [secretRef ambNamespace "fallback-self-signed-cert".toList false]

end ReconcileSecrets

/-- What `ReconcileSecrets` leaves behind: the snapshot's `Secrets`, and the
secrets handed to the validator as invalid. -/
structure Shipped where
  secrets : List Secret
  invalid : List Secret
  deriving DecidableEq, Repr

/-- `checkSecret`; `isValid` stands for its PEM and x509 checks. An invalid
secret is still taken unless `AMBASSADOR_FORCE_SECRET_VALIDATION` is set. -/
def checkSecret (isValid : Secret → Bool) (forceSecretValidation : Bool) (acc : Shipped)
    (secret : Secret) : Shipped :=
  { secrets := if isValid secret || !forceSecretValidation then acc.secrets ++ [secret] else acc.secrets
    invalid := if isValid secret then acc.invalid else acc.invalid ++ [secret] }

/-- `ReconcileSecrets`: the referenced secrets from the filesystem, then the
referenced Kubernetes secrets that no filesystem secret shadows, each through
`checkSecret`. -/
def ReconcileSecrets (envAmbID ambNamespace : Key) (isValid : Secret → Bool)
    (forceSecretValidation : Bool) (s : KubernetesSnapshot) : Shipped :=
  let refs := ReconcileSecrets.refs envAmbID ambNamespace s
  let fromFS := (s.fsSecrets.filter fun e => e.1 ∈ refs).map Prod.snd
  let fromK8s := s.k8sSecrets.filter fun secret =>
    !(s.fsSecrets.any fun e => e.1 = secret.ref) && secret.ref ∈ refs
  (fromFS ++ fromK8s).foldl (checkSecret isValid forceSecretValidation) ⟨[], []⟩

/-! ### Python: `IRTLSContext.resolve_secret`

A Python value read from JSON is a `Json`, with `None` as `null`. -/

/-- `IRResource.lookup_default`: `key` in the Ambassador module's `defaults`,
first under the lookup class (the argument, else the resource's own
`default_class`) unless that is `/`; `default_value` when neither has it. -/
def IRResource.lookup_default (ambassador_module self : JsonObj) (key : Key) (default_value : Json)
    (lookup_class : Option Key) : Json :=
  let defaults := (ambassador_module.get? "defaults".toList).getD (.obj .nil)
  let lclass : Json :=
    match lookup_class with
    | some c => if c.isEmpty then (self.get? "default_class".toList).getD .null else .str c
    | none => (self.get? "default_class".toList).getD .null
  let fromClass : Option Json :=
    match lclass with
    | .str c =>
      if c.isEmpty || c = "/".toList then none
      else
        match defaults.get? c with
        | some classdict => if classdict.truthy then classdict.get? key else none
        | none => none
    | _ => none
  match fromClass with
  | some v => v
  | none => if defaults.truthy then (defaults.get? key).getD default_value else default_value

/-- `IRResource.lookup`: the resource's own `key` unless it is `None`, else
`lookup_default` of `default_key` (or `key`). -/
def IRResource.lookup (ambassador_module self : JsonObj) (key : Key) (default_value : Json)
    (default_class default_key : Option Key) : Json :=
  match (self.get? key).getD .null with
  | .null =>
    let default_key := match default_key with
      | some k => if k.isEmpty then key else k
      | none => key
    IRResource.lookup_default ambassador_module self default_key default_value default_class
  | value => value

/-- The members of the Python `IRTLSContext` that `lookup` reads: the JSON of
the spec has `secret_namespacing` only when it is set, and no `default_class`. -/
def IRTLSContext.ofSpec (t : TLSContext) : JsonObj :=
  match t.secretNamespacing with
  | some b => .cons "secret_namespacing".toList (.bool b) .nil
  | none => .nil

/-- `secret_namespacing` in `IRTLSContext.resolve_secret`, as Python tests it. -/
def IRTLSContext.secret_namespacing (ambassador_module : JsonObj) (t : TLSContext) : Bool :=
  (IRResource.lookup ambassador_module (IRTLSContext.ofSpec t) "secret_namespacing".toList
    (.bool true) none (some "tls_secret_namespacing".toList)).truthy

/-- `IRTLSContext.resolve_secret`: the name and namespace it passes to
`IR.resolve_secret`. -/
def IRTLSContext.resolve_secret (ambassador_module : JsonObj) (t : TLSContext) (secret_name : Key) :
    Key × Key :=
  if '.' ∈ secret_name ∧ IRTLSContext.secret_namespacing ambassador_module t = true then
    (Split.rsplit1 '.' secret_name).getD (secret_name, t.«namespace»)
  else (secret_name, t.«namespace»)

/-- The secrets `IRTLSContext.resolve` hands to `resolve_secret`: `secret`
whenever it is set, then `crl_secret` and `ca_secret` as far as the secrets
found so far let it go on. -/
def IRTLSContext.secretNames (t : TLSContext) : List Key :=
  [t.secret, t.crlSecret, t.caSecret].filter (· ≠ [])

/-! ### Go and Python split a name alike -/

theorem secretRef_eq_rsplit1 («namespace» name : Key) (secretNamespacing : Bool) :
    secretRef «namespace» name secretNamespacing =
      if secretNamespacing then
        match Split.rsplit1 '.' name with
        | some (name', namespace') => ⟨namespace', name'⟩
        | none => ⟨«namespace», name⟩
      else ⟨«namespace», name⟩ := by
  rw [secretRef, Split.splitLast_eq_rsplit1]

/-- With the namespacing Python decides on, Go's `secretRef` is the pair
Python resolves. -/
theorem secretRef_resolve_secret (ambassador_module : JsonObj) (t : TLSContext) (secret_name : Key) :
    secretRef t.«namespace» secret_name (IRTLSContext.secret_namespacing ambassador_module t) =
      ⟨(IRTLSContext.resolve_secret ambassador_module t secret_name).2,
        (IRTLSContext.resolve_secret ambassador_module t secret_name).1⟩ := by
  rw [secretRef_eq_rsplit1]
  unfold IRTLSContext.resolve_secret
  cases hsplit : Split.rsplit1 '.' secret_name with
  | none =>
    have hdot : '.' ∉ secret_name := Split.rsplit1_eq_none_iff.mp hsplit
    simp [hdot]
  | some p =>
    have hdot : '.' ∈ secret_name := by
      by_contra hn
      rw [Split.rsplit1_eq_none_iff.mpr hn] at hsplit
      cases hsplit
    cases IRTLSContext.secret_namespacing ambassador_module t <;> simp [hdot]

/-! ### Go marks every secret of a TLSContext -/

theorem mem_refsOf {«namespace» name : Key} {secretNamespacing : Bool} {secretNames : List Key}
    (h : name ∈ secretNames) (hne : name ≠ []) :
    secretRef «namespace» name secretNamespacing ∈ refsOf «namespace» secretNamespacing secretNames :=
  List.mem_map_of_mem (List.mem_filter.mpr ⟨h, by simpa using hne⟩)

theorem mem_resources_of_tlsContext {envAmbID : Key} {s : KubernetesSnapshot} {t : TLSContext}
    (ht : t ∈ s.tlsContexts) (hm : t.ambassadorID.Matches envAmbID = true) :
    Object.tlsContext t ∈ ReconcileSecrets.resources envAmbID s := by
  have hf : t ∈ s.tlsContexts.filter (·.ambassadorID.Matches envAmbID) := List.mem_filter.mpr ⟨ht, hm⟩
  simp only [ReconcileSecrets.resources, List.mem_append, List.mem_map]
  exact Or.inl (Or.inl (Or.inr ⟨t, hf, rfl⟩))

/-- Each secret a TLSContext for this instance names is marked, split by the
TLSContext's own namespacing or else the module's. -/
theorem mem_refs_of_tlsContext {envAmbID ambNamespace : Key} {s : KubernetesSnapshot} {t : TLSContext}
    (ht : t ∈ s.tlsContexts) (hm : t.ambassadorID.Matches envAmbID = true) {x : Key}
    (hx : x ∈ IRTLSContext.secretNames t) :
    secretRef t.«namespace» x
        (t.secretNamespacing.getD
          (ReconcileSecrets.secretNamespacing (ReconcileSecrets.resources envAmbID s))) ∈
      ReconcileSecrets.refs envAmbID ambNamespace s := by
  obtain ⟨hx, hne⟩ := List.mem_filter.mp hx
  have hne : x ≠ [] := by simpa using hne
  -- the TLSContext marks its names in the order secret, ca_secret, crl_secret
  have hx' : x ∈ [t.secret, t.caSecret, t.crlSecret] := by
    simp only [List.mem_cons, List.not_mem_nil, or_false] at hx ⊢
    tauto
  have hmark : secretRef t.«namespace» x
      (t.secretNamespacing.getD (ReconcileSecrets.secretNamespacing (ReconcileSecrets.resources envAmbID s))) ∈
      findSecretRefs (.tlsContext t) (ReconcileSecrets.secretNamespacing (ReconcileSecrets.resources envAmbID s)) :=
    mem_refsOf hx' hne
  exact List.mem_append_left _ (List.mem_flatMap.mpr ⟨_, mem_resources_of_tlsContext ht hm, hmark⟩)

/-- When Go and Python agree on a TLSContext's namespacing, every secret
Python resolves for it is shipped. -/
theorem resolve_secret_mem_refs {envAmbID ambNamespace : Key} {s : KubernetesSnapshot}
    {ambassador_module : JsonObj} {t : TLSContext}
    (ht : t ∈ s.tlsContexts) (hm : t.ambassadorID.Matches envAmbID = true) {x : Key}
    (hx : x ∈ IRTLSContext.secretNames t)
    (hagree : IRTLSContext.secret_namespacing ambassador_module t =
      t.secretNamespacing.getD
        (ReconcileSecrets.secretNamespacing (ReconcileSecrets.resources envAmbID s))) :
    (⟨(IRTLSContext.resolve_secret ambassador_module t x).2,
        (IRTLSContext.resolve_secret ambassador_module t x).1⟩ : SecretRef) ∈
      ReconcileSecrets.refs envAmbID ambNamespace s := by
  rw [← secretRef_resolve_secret, hagree]
  exact mem_refs_of_tlsContext ht hm hx

/-! ### Python's namespacing -/

section Python

variable {ambassador_module : JsonObj} {t : TLSContext}

theorem IRTLSContext.ofSpec_default_class : (IRTLSContext.ofSpec t).get? "default_class".toList = none := by
  unfold IRTLSContext.ofSpec
  cases t.secretNamespacing <;> rfl

theorem IRTLSContext.ofSpec_secret_namespacing :
    (IRTLSContext.ofSpec t).get? "secret_namespacing".toList = t.secretNamespacing.map .bool := by
  unfold IRTLSContext.ofSpec
  cases t.secretNamespacing <;> rfl

/-- The module default, for a resource without `default_class`: `key` of a
true `defaults`, else `default_value`. -/
theorem IRResource.lookup_default_of_no_class {self : JsonObj} {key : Key} {default_value : Json}
    (hc : self.get? "default_class".toList = none) :
    IRResource.lookup_default ambassador_module self key default_value none =
      let defaults := (ambassador_module.get? "defaults".toList).getD (.obj .nil)
      if defaults.truthy then (defaults.get? key).getD default_value else default_value := by
  simp only [IRResource.lookup_default, hc, Option.getD_none]

/-- A TLSContext that sets `secret_namespacing` decides for itself. -/
theorem secret_namespacing_of_override {b : Bool} (h : t.secretNamespacing = some b) :
    IRTLSContext.secret_namespacing ambassador_module t = b := by
  have hself : (IRTLSContext.ofSpec t).get? "secret_namespacing".toList = some (.bool b) := by
    rw [IRTLSContext.ofSpec_secret_namespacing, h]; rfl
  simp only [IRTLSContext.secret_namespacing, IRResource.lookup, hself, Option.getD_some]
  rfl

/-- Otherwise Python takes the module's `defaults.tls_secret_namespacing`, with
no class lookup, since a TLSContext has no `default_class`. -/
theorem secret_namespacing_of_none (h : t.secretNamespacing = none) :
    IRTLSContext.secret_namespacing ambassador_module t =
      (let defaults := (ambassador_module.get? "defaults".toList).getD (.obj .nil)
       if defaults.truthy then (defaults.get? "tls_secret_namespacing".toList).getD (.bool true)
       else .bool true).truthy := by
  have hself : (IRTLSContext.ofSpec t).get? "secret_namespacing".toList = none := by
    rw [IRTLSContext.ofSpec_secret_namespacing, h]; rfl
  rw [← IRResource.lookup_default_of_no_class IRTLSContext.ofSpec_default_class]
  simp only [IRTLSContext.secret_namespacing, IRResource.lookup, hself, Option.getD_none]
  rfl

/-- A module that sets `defaults.tls_secret_namespacing` decides for a
TLSContext that does not. -/
theorem secret_namespacing_of_module {v : Json} (h : t.secretNamespacing = none)
    (hv : (ambassador_module.get? "defaults".toList).bind (·.get? "tls_secret_namespacing".toList) =
      some v) :
    IRTLSContext.secret_namespacing ambassador_module t = v.truthy := by
  obtain ⟨defaults, hd, hget⟩ := Option.bind_eq_some_iff.mp hv
  obtain ⟨o, rfl, ho⟩ := Json.get?_eq_some_obj hget
  rw [secret_namespacing_of_none h]
  simp only [hd, Option.getD_some, Json.truthy_obj_of_get? ho, if_true, Json.get?, ho]

/-- Without that setting, Python splits. -/
theorem secret_namespacing_of_unset (h : t.secretNamespacing = none)
    (hv : (ambassador_module.get? "defaults".toList).bind (·.get? "tls_secret_namespacing".toList) =
      none) :
    IRTLSContext.secret_namespacing ambassador_module t = true := by
  rw [secret_namespacing_of_none h]
  cases hd : ambassador_module.get? "defaults".toList with
  | none => rfl
  | some defaults =>
    have hk : defaults.get? "tls_secret_namespacing".toList = none := by
      rw [hd] at hv
      exact hv
    simp only [Option.getD_some, hk, Option.getD_none]
    split <;> rfl

end Python

/-! ### Go's namespacing -/

namespace ReconcileSecrets

/-- Modules before the deciding one that are not a decodable `ambassador`
Module do not count. -/
theorem secretNamespacing_append {pre : List Object} (rest : List Object)
    (hpre : ∀ m, Object.module m ∈ pre → m.name = "ambassador".toList →
      ModuleSecrets.convert m.config = none) :
    secretNamespacing (pre ++ rest) = secretNamespacing rest := by
  induction pre with
  | nil => rfl
  | cons o pre ih =>
    have hpre' : ∀ m, Object.module m ∈ pre → m.name = "ambassador".toList →
        ModuleSecrets.convert m.config = none :=
      fun m hm => hpre m (List.mem_cons_of_mem o hm)
    cases o with
    | module m =>
      by_cases hname : m.name = "ambassador".toList
      · have hconv := hpre m List.mem_cons_self hname
        simp only [List.cons_append, secretNamespacing, if_pos hname, hconv]
        exact ih hpre'
      · simp only [List.cons_append, secretNamespacing, if_neg hname]
        exact ih hpre'
    | _ => exact ih hpre'

/-- The first decodable `ambassador` Module decides. -/
theorem secretNamespacing_of_module {pre post : List Object} {m : Module} {secs : ModuleSecrets}
    (hpre : ∀ m, Object.module m ∈ pre → m.name = "ambassador".toList →
      ModuleSecrets.convert m.config = none)
    (hname : m.name = "ambassador".toList) (hconv : ModuleSecrets.convert m.config = some secs) :
    secretNamespacing (pre ++ .module m :: post) = secs.tlsSecretNamespacing := by
  rw [secretNamespacing_append _ hpre]
  simp [secretNamespacing, hname, hconv]

/-- Without a decodable `ambassador` Module, Go splits. -/
theorem secretNamespacing_of_no_module {rs : List Object}
    (h : ∀ m, Object.module m ∈ rs → m.name = "ambassador".toList →
      ModuleSecrets.convert m.config = none) :
    secretNamespacing rs = true := by
  have happ := secretNamespacing_append [] h
  rw [List.append_nil] at happ
  rw [happ]
  rfl

end ReconcileSecrets

/-- What `convert` makes of `defaults.tls_secret_namespacing`. -/
theorem ModuleSecrets.convert_tlsSecretNamespacing {config : JsonObj} {secs : ModuleSecrets}
    (h : ModuleSecrets.convert config = some secs) :
    ∃ defaults, Json.decodeObj (config.get? "defaults".toList) = some defaults ∧
      Json.decodeBool (defaults.get? "tls_secret_namespacing".toList) = some secs.tlsSecretNamespacing := by
  unfold ModuleSecrets.convert at h
  -- keep the keys opaque, so that `simp` leaves them as the statement has them
  generalize "defaults".toList = kd at h ⊢
  generalize "tls_secret_namespacing".toList = kn at h ⊢
  cases hd : Json.decodeObj (config.get? kd) with
  | none => simp [hd] at h
  | some defaults =>
    cases hb : Json.decodeBool (defaults.get? kn) with
    | none => simp [hd, hb] at h
    | some b =>
      obtain ⟨_, _, _, _, _, _, rfl⟩ := by simpa [hd, hb, Option.bind_eq_some_iff] using h
      exact ⟨defaults, rfl, hb⟩

/-- Go decodes a boolean `tls_secret_namespacing` as it is. -/
theorem convert_tlsSecretNamespacing_of_bool {config : JsonObj} {secs : ModuleSecrets} {b : Bool}
    (hconv : ModuleSecrets.convert config = some secs)
    (hv : (config.get? "defaults".toList).bind (·.get? "tls_secret_namespacing".toList) =
      some (.bool b)) :
    secs.tlsSecretNamespacing = b := by
  obtain ⟨defaults, hd, hb⟩ := ModuleSecrets.convert_tlsSecretNamespacing hconv
  rw [Json.decodeObj_get? hd, hv, Json.decodeBool_bool] at hb
  exact (Option.some.inj hb).symm

/-! ### Where Go and Python part -/

/-- Python without an `ambassador` Module splits unless the TLSContext says not to. -/
theorem secret_namespacing_of_no_module (t : TLSContext) :
    IRTLSContext.secret_namespacing .nil t = t.secretNamespacing.getD true := by
  cases ht : t.secretNamespacing with
  | some b => exact secret_namespacing_of_override ht
  | none => exact secret_namespacing_of_unset ht rfl

/-- When the deciding `ambassador` Module sets `tls_secret_namespacing` to a
boolean, Go and Python (reading that Module) agree on every TLSContext. -/
theorem secret_namespacing_agree_of_module {pre post : List Object} {m : Module}
    {secs : ModuleSecrets} {b : Bool}
    (hpre : ∀ m, Object.module m ∈ pre → m.name = "ambassador".toList →
      ModuleSecrets.convert m.config = none)
    (hname : m.name = "ambassador".toList) (hconv : ModuleSecrets.convert m.config = some secs)
    (hv : (m.config.get? "defaults".toList).bind (·.get? "tls_secret_namespacing".toList) =
      some (.bool b))
    (t : TLSContext) :
    IRTLSContext.secret_namespacing m.config t =
      t.secretNamespacing.getD (ReconcileSecrets.secretNamespacing (pre ++ .module m :: post)) := by
  rw [ReconcileSecrets.secretNamespacing_of_module hpre hname hconv,
    convert_tlsSecretNamespacing_of_bool hconv hv]
  cases ht : t.secretNamespacing with
  | some b' => exact secret_namespacing_of_override ht
  | none => exact secret_namespacing_of_module ht hv

/-- An `ambassador` Module with an empty `config` and a TLSContext in
namespace `a` with secret `foo.b`: Python resolves secret `foo` in namespace
`b`, and Go ships only `foo.b` in `a` and the fallback certificate. -/
theorem resolve_secret_not_shipped :
    IRTLSContext.resolve_secret .nil
        { name := "ctx".toList, «namespace» := "a".toList, ambassadorID := [], secret := "foo.b".toList }
        "foo.b".toList = ("foo".toList, "b".toList) ∧
      ReconcileSecrets.refs "default".toList "default".toList
          { tlsContexts := [{ name := "ctx".toList, «namespace» := "a".toList, ambassadorID := [],
                              secret := "foo.b".toList }],
            modules := [{ name := "ambassador".toList, «namespace» := "default".toList,
                          ambassadorID := [], config := .nil }] } =
        [⟨"a".toList, "foo.b".toList⟩, ⟨"default".toList, "fallback-self-signed-cert".toList⟩] := by
  decide

/-! ### The secrets shipped -/

theorem foldl_checkSecret (isValid : Secret → Bool) (forceSecretValidation : Bool) :
    ∀ (xs : List Secret) (acc : Shipped),
      xs.foldl (checkSecret isValid forceSecretValidation) acc =
        ⟨acc.secrets ++ xs.filter (fun x => isValid x || !forceSecretValidation),
          acc.invalid ++ xs.filter (fun x => !isValid x)⟩
  | [], acc => by simp
  | x :: xs, acc => by
    rw [List.foldl_cons, foldl_checkSecret isValid forceSecretValidation xs]
    cases hv : isValid x <;> cases forceSecretValidation <;> simp [checkSecret, hv]

/-- A secret is shipped when it passes `checkSecret` and is referenced: from
the filesystem under a referenced key, or from Kubernetes when no filesystem
secret has its key. -/
theorem mem_ReconcileSecrets_secrets {envAmbID ambNamespace : Key} {isValid : Secret → Bool}
    {forceSecretValidation : Bool} {s : KubernetesSnapshot} {secret : Secret} :
    secret ∈ (ReconcileSecrets envAmbID ambNamespace isValid forceSecretValidation s).secrets ↔
      (isValid secret || !forceSecretValidation) = true ∧
        ((∃ ref, (ref, secret) ∈ s.fsSecrets ∧ ref ∈ ReconcileSecrets.refs envAmbID ambNamespace s) ∨
          (secret ∈ s.k8sSecrets ∧ (∀ e ∈ s.fsSecrets, e.1 ≠ secret.ref) ∧
            secret.ref ∈ ReconcileSecrets.refs envAmbID ambNamespace s)) := by
  unfold ReconcileSecrets
  rw [foldl_checkSecret]
  simp only [List.nil_append, List.mem_filter, List.mem_append, List.mem_map, decide_eq_true_eq,
    Bool.and_eq_true, Bool.not_eq_true', List.any_eq_false, Prod.exists, exists_eq_right]
  exact and_comm

end Secrets

end Emissary

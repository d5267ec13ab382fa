/-
# A Host's TLS secret and the TLSContext it makes

`IRHost.setup` (irhost.py) reads `spec.tlsSecret`, a name and optionally a
namespace. It resolves the secret itself (`IRHost.resolve`: in the namespace
given, else in the Host's own), and when the secret is good it makes a
TLSContext for the Host, from `spec.tls` or as `<name>-context`, unless the
Host names a context or one of that name exists already. The new context is
told the secret as one string, `name.namespace` when a namespace was given
and the bare name otherwise, and `IRTLSContext.resolve_secret` cuts that
string at its last dot again when secret namespacing is on. A namespace
given turns namespacing on for the context; otherwise the `ambassador`
Module's defaults decide, and they say on when they say nothing.

With a namespace given (a Kubernetes one, without a dot) the context cuts
back exactly the pair the Host resolved (`created_context_secret_of_namespace`),
and a name without a dot is never cut (`created_context_secret_of_no_dot`).
A name with a dot and no namespace is cut when namespacing is on, into
another secret (`implicit_context_resolves_other_secret`): a Host in
namespace `default` whose secret is `foo.bar` resolves `foo.bar` in
`default` and gets a context for secret `foo` in namespace `bar`.

Only what decides the context and its secret is modelled: the context's
`hosts` and labels, the ACME and request-policy parts of `setup`, and
`save_context` on an existing context are not.

Key definitions: `IRHost.resolve`, `IRHost.setup_tls`, `IRHost.new_context`, `TLSSetup`.
Key theorems: `setup_tls_created`, `created_context_secret_of_namespace`,
`created_context_secret_of_no_dot`, `created_context_secret_of_dot`.
-/
import Emissary.SavedSecrets
import Emissary.Secrets

namespace Emissary
namespace HostSecrets

open Snapshot Secrets SavedSecrets

/-! ### The Host -/

/-- `Host.spec.tls` after `setup` renames its camel-case keys: the members
the Host and the TLSContext it makes read. -/
structure HostTLS where
  cert_chain_file : Key := []
  private_key_file : Key := []
  ca_secret : Key := []
  crl_secret : Key := []
  min_tls_version : Option Key := none
  max_tls_version : Option Key := none
  deriving DecidableEq, Repr

/-- The members of a Host that the TLS part of `IRHost.setup` reads. A
string that is absent is empty here: Python tests both as false. -/
structure IRHost where
  name : Key
  «namespace» : Key
  tlsSecret : Option SecretReference := none
  /-- `spec.tlsContext.name`. -/
  tlsContext : Key := []
  tls : Option HostTLS := none
  deriving DecidableEq, Repr

/-- The namespace `IRHost.resolve` looks a secret up in: the one given, else
the Host's, else Ambassador's. -/
def IRHost.resolve_namespace (host : IRHost) (ambassador_namespace secret_namespace : Key) : Key :=
  if !secret_namespace.isEmpty then secret_namespace
  else if !host.«namespace».isEmpty then host.«namespace»
  else ambassador_namespace

/-- `IRHost.resolve`. -/
def IRHost.resolve (host : IRHost) (handler : SecretHandler) (hexdigest : Key → Key)
    (ambassador_namespace : Key) (ir : IR) (secret_name secret_namespace : Key) : SavedSecret × IR :=
  ir.resolve_secret handler hexdigest secret_name
    (host.resolve_namespace ambassador_namespace secret_namespace)

/-- `tls_full_name`: the secret as the Host hands it to a TLSContext. -/
def tls_full_name (tls_secret : SecretReference) : Key :=
  if tls_secret.«namespace».isEmpty then tls_secret.name
  else tls_secret.name ++ '.' :: tls_secret.«namespace»

/-! ### The TLSContext it makes -/

/-- `IRTLSContext.AllowedTLSVersions`. -/
def AllowedTLSVersions : List Key :=
  ["v1.0".toList, "v1.1".toList, "v1.2".toList, "v1.3".toList]

/-- The check of one TLS version of `spec.tls`. -/
def version_error (host_name field : Key) : Option Key → Option Key
  | some v =>
    if v ∈ AllowedTLSVersions then none
    else some ("Host ".toList ++ host_name ++ ": Invalid ".toList ++ field ++
      " set in Host.tls: ".toList ++ v)
  | none => none

/-- The checks of `spec.tls`'s TLS versions, the minimum first. -/
def HostTLS.version_error (host_name : Key) (tls : HostTLS) : Option Key :=
  (HostSecrets.version_error host_name "min_tls_version".toList tls.min_tls_version).or
    (HostSecrets.version_error host_name "max_tls_version".toList tls.max_tls_version)

/-- The errors `IRTLSContext.setup` posts on a context's certificate members;
a context without any is active. -/
def IRTLSContext.setup_errors (name secret cert_chain_file private_key_file : Key) : List Key :=
  let spec_count := (if secret.isEmpty then 0 else 1) + (if cert_chain_file.isEmpty then 0 else 1)
  (if !cert_chain_file.isEmpty && private_key_file.isEmpty then
    ["TLSContext ".toList ++ name ++ ": 'cert_chain_file' requires 'private_key_file' as well".toList]
   else []) ++
  (if spec_count = 2 then
    ["TLSContext ".toList ++ name ++
      ": exactly one of 'secret' and 'cert_chain_file' must be present".toList]
   else [])

/-- The TLSContext a Host makes, from `spec.tls` or (with no `spec.tls`, so
from nothing) as `<name>-context`: in the Host's namespace, told the secret
by `tls_full_name`. -/
def IRHost.new_context (host : IRHost) (tls_secret : SecretReference) (tls : HostTLS) : TLSContext :=
  { name := host.name ++ "-context".toList, «namespace» := host.«namespace», ambassadorID := [],
    secret := tls_full_name tls_secret, caSecret := tls.ca_secret, crlSecret := tls.crl_secret,
    -- `tls_context_init["secret_namespacing"] = True` only when a namespace was given
    secretNamespacing := if tls_secret.«namespace».isEmpty then none else some true }

/-- What the `tlsSecret` part of `IRHost.setup` ends in. -/
inductive TLSSetup where
  /-- No `tlsSecret` name: nothing to do here. -/
  | skipped
  /-- `setup` returns `False` after this error. -/
  | failed (error : Key)
  /-- `save_context(ir, ctx_name, tls_ss, tls_full_name)` decides. -/
  | saveContext (ctx_name tls_full_name : Key)
  /-- A new TLSContext, saved and made the Host's context. -/
  | created (ctx : TLSContext)
  /-- A generated TLSContext that is not active: logged, and not saved. -/
  | notCreated (error : Key)
  deriving DecidableEq, Repr

/-- The choice of context, once the Host's secret is good. -/
def IRHost.choose_context (tls_contexts : List Key) (host : IRHost) (tls_secret : SecretReference) :
    TLSSetup :=
  let ctx_name := host.name ++ "-context".toList
  if !host.tlsContext.isEmpty && host.tls.isSome then
    .failed ("Host ".toList ++ host.name ++
      ": both TLSContext name and TLS config specified, ignoring Host...".toList)
  else if !host.tlsContext.isEmpty then .saveContext host.tlsContext (tls_full_name tls_secret)
  else
    match host.tls with
    | some tls =>
      match tls.version_error host.name with
      | some error => .failed error
      | none =>
        let ctx := host.new_context tls_secret tls
        if (IRTLSContext.setup_errors ctx.name ctx.secret tls.cert_chain_file
            tls.private_key_file).isEmpty then .created ctx
        else .failed ("Host ".toList ++ host.name ++ ": generated TLSContext ".toList ++ ctx.name ++
          " from Host.tls is not valid".toList)
    | none =>
      if ctx_name ∈ tls_contexts then .saveContext ctx_name (tls_full_name tls_secret)
      else
        let ctx := host.new_context tls_secret {}
        if (IRTLSContext.setup_errors ctx.name ctx.secret [] []).isEmpty then .created ctx
        else .notCreated ("Host ".toList ++ host.name ++ ": new TLSContext ".toList ++ ctx_name ++
          " is not valid".toList)

/-- The `tlsSecret` part of `IRHost.setup`, with the secret stores after it:
`tls_contexts` are the names of the contexts `ir.has_tls_context` finds. -/
def IRHost.setup_tls (handler : SecretHandler) (hexdigest : Key → Key) (ambassador_namespace : Key)
    (tls_contexts : List Key) (ir : IR) (host : IRHost) : TLSSetup × IR :=
  match host.tlsSecret with
  | none => (.skipped, ir)
  | some tls_secret =>
    if tls_secret.name.isEmpty then (.skipped, ir)
    else
      let tls_ss := host.resolve handler hexdigest ambassador_namespace ir tls_secret.name
        tls_secret.«namespace»
      if tls_ss.1.truthy then (host.choose_context tls_contexts tls_secret, tls_ss.2)
      else (.failed ("Host ".toList ++ host.name ++ ": invalid TLS secret ".toList ++
        tls_full_name tls_secret ++ ", marking inactive".toList), tls_ss.2)

/-! ### What a created context holds -/

section Created

variable {handler : SecretHandler} {hexdigest : Key → Key} {ambassador_namespace : Key}
  {tls_contexts : List Key} {ir ir' : IR} {host : IRHost} {ctx : TLSContext}

/-- The context `choose_context` creates is the Host's new context, from
`spec.tls` or from nothing. -/
theorem choose_context_created {tls_secret : SecretReference}
    (h : host.choose_context tls_contexts tls_secret = .created ctx) :
    ∃ tls, ctx = host.new_context tls_secret tls := by
  unfold IRHost.choose_context at h
  dsimp only at h
  split at h
  · cases h
  · split at h
    · cases h
    · split at h
      · rename_i tls _
        split at h
        · cases h
        · split at h
          · cases h
            exact ⟨tls, rfl⟩
          · cases h
      · split at h
        · cases h
        · split at h
          · cases h
            exact ⟨{}, rfl⟩
          · cases h

/-- Everything a created context comes from: a Host whose `tlsSecret` has a
name, whose secret resolved to a true `SavedSecret`, and its new context. -/
theorem setup_tls_created
    (h : (IRHost.setup_tls handler hexdigest ambassador_namespace tls_contexts ir host).1 = .created ctx) :
    ∃ tls_secret tls, host.tlsSecret = some tls_secret ∧ tls_secret.name ≠ [] ∧
      (host.resolve handler hexdigest ambassador_namespace ir tls_secret.name
        tls_secret.«namespace»).1.truthy ∧
      ctx = host.new_context tls_secret tls := by
  unfold IRHost.setup_tls at h
  split at h
  · cases h
  · rename_i tls_secret htls
    split at h
    · cases h
    · rename_i hname
      dsimp only at h
      split at h
      · rename_i htruthy
        obtain ⟨tls, rfl⟩ := choose_context_created h
        exact ⟨tls_secret, tls, htls, by simpa using hname, htruthy, rfl⟩
      · cases h

end Created

/-! ### The secret a created context resolves -/

section Resolve

variable (ambassador_module : JsonObj) (host : IRHost) (tls : HostTLS) {tls_secret : SecretReference}

@[simp] theorem new_context_secret :
    (host.new_context tls_secret tls).secret = tls_full_name tls_secret := rfl

@[simp] theorem new_context_namespace :
    (host.new_context tls_secret tls).«namespace» = host.«namespace» := rfl

/-- With a Kubernetes namespace given, the context cuts its secret back into
the Host's name and namespace. -/
theorem created_context_secret_of_namespace (hns : tls_secret.«namespace» ≠ [])
    (hdot : '.' ∉ tls_secret.«namespace») :
    IRTLSContext.resolve_secret ambassador_module (host.new_context tls_secret tls)
        (host.new_context tls_secret tls).secret = (tls_secret.name, tls_secret.«namespace») := by
  have hfull : tls_full_name tls_secret = tls_secret.name ++ '.' :: tls_secret.«namespace» := by
    simp [tls_full_name, hns]
  have hon : IRTLSContext.secret_namespacing ambassador_module (host.new_context tls_secret tls) = true :=
    secret_namespacing_of_override (by simp [IRHost.new_context, hns])
  unfold IRTLSContext.resolve_secret
  rw [new_context_secret, hfull, hon, if_pos ⟨List.mem_append_right _ List.mem_cons_self, rfl⟩,
    Split.rsplit1_append hdot, Option.getD_some]

/-- A name without a dot is never cut. -/
theorem created_context_secret_of_no_dot (hns : tls_secret.«namespace» = [])
    (hdot : '.' ∉ tls_secret.name) :
    IRTLSContext.resolve_secret ambassador_module (host.new_context tls_secret tls)
        (host.new_context tls_secret tls).secret = (tls_secret.name, host.«namespace») := by
  have hfull : tls_full_name tls_secret = tls_secret.name := by simp [tls_full_name, hns]
  unfold IRTLSContext.resolve_secret
  rw [new_context_secret, hfull, if_neg (fun h => hdot h.1), new_context_namespace]

/-- A name with a dot and no namespace is cut at its last dot when the
Module's namespacing is on. -/
theorem created_context_secret_of_dot (hns : tls_secret.«namespace» = [])
    (hdot : '.' ∈ tls_secret.name)
    (hon : IRTLSContext.secret_namespacing ambassador_module (host.new_context tls_secret tls) = true) :
    ∃ name «namespace», Split.rsplit1 '.' tls_secret.name = some (name, «namespace») ∧
      IRTLSContext.resolve_secret ambassador_module (host.new_context tls_secret tls)
        (host.new_context tls_secret tls).secret = (name, «namespace») := by
  have hfull : tls_full_name tls_secret = tls_secret.name := by simp [tls_full_name, hns]
  obtain ⟨⟨name, «namespace»⟩, hsplit⟩ : ∃ p, Split.rsplit1 '.' tls_secret.name = some p :=
    Option.ne_none_iff_exists'.mp (fun h => Split.rsplit1_eq_none_iff.mp h hdot)
  refine ⟨name, «namespace», hsplit, ?_⟩
  unfold IRTLSContext.resolve_secret
  rw [new_context_secret, hfull, hon, if_pos ⟨hdot, rfl⟩, hsplit, Option.getD_some]

end Resolve

/-! ### The Host's pair and the context's -/

section Agree

variable {handler : SecretHandler} {hexdigest : Key → Key} {ambassador_namespace : Key}
  {tls_contexts : List Key} {ir : IR} {host : IRHost} {ctx : TLSContext}
  {tls_secret : SecretReference} (ambassador_module : JsonObj)

theorem implicit_context_resolves_other_secret (hsecret : host.tlsSecret = some tls_secret)
    (hns : tls_secret.«namespace» = []) (hdot : '.' ∈ tls_secret.name)
    (hmodule : (ambassador_module.get? "defaults".toList).bind
      (·.get? "tls_secret_namespacing".toList) = none)
    (h : (IRHost.setup_tls handler hexdigest ambassador_namespace tls_contexts ir host).1 = .created ctx) :
    IRTLSContext.resolve_secret ambassador_module ctx ctx.secret ≠
      (tls_secret.name, host.resolve_namespace ambassador_namespace tls_secret.«namespace») := by
  obtain ⟨tls_secret', tls, htls, -, -, rfl⟩ := setup_tls_created h
  obtain rfl : tls_secret = tls_secret' := Option.some.inj (hsecret.symm.trans htls)
  -- the context sets no namespacing of its own, and the Module says nothing: it cuts
  have hon : IRTLSContext.secret_namespacing ambassador_module (host.new_context tls_secret tls) = true :=
    secret_namespacing_of_unset (by simp [IRHost.new_context, hns]) hmodule
  obtain ⟨name, «namespace», hsplit, hresolve⟩ :=
    created_context_secret_of_dot ambassador_module host tls hns hdot hon
  rw [hresolve]
  intro heq
  have hshorter := Split.length_lt_of_rsplit1 hsplit
  rw [(Prod.mk.inj heq).1] at hshorter
  exact lt_irrefl _ hshorter

/-- A Host `example` in namespace `default` whose `tlsSecret` is `foo.bar`. -/
def fooBarHost : IRHost :=
  { name := "example".toList, «namespace» := "default".toList,
    tlsSecret := some ⟨"foo.bar".toList, []⟩ }

/-- The secret `foo.bar` in namespace `default`, as watt hands it in. -/
def fooBarDefaultSecret : AConfSecret :=
  { name := "foo.bar".toList, «namespace» := "default".toList,
    secret_type := "kubernetes.io/tls".toList, tls_crt := some "-----BEGIN CERTIFICATE-----".toList }

theorem implicit_context_resolves_other_secret_at_foo_bar :
    fooBarHost.tlsSecret = some ⟨"foo.bar".toList, []⟩ ∧
      IRTLSContext.resolve_secret .nil (fooBarHost.new_context ⟨"foo.bar".toList, []⟩ {})
          (fooBarHost.new_context ⟨"foo.bar".toList, []⟩ {}).secret ≠
        ("foo.bar".toList, fooBarHost.resolve_namespace "default".toList []) :=
  ⟨rfl, @implicit_context_resolves_other_secret ⟨"/ambassador".toList, fun _ _ => none⟩ id
    "default".toList [] (IR.empty.save_secret_info (fun _ => none) [fooBarDefaultSecret]) fooBarHost
    (fooBarHost.new_context ⟨"foo.bar".toList, []⟩ {}) ⟨"foo.bar".toList, []⟩ .nil rfl rfl
    (by decide) rfl (by decide)⟩

end Agree

end HostSecrets
end Emissary

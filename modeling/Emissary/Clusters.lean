/-
# Clusters: their names and what they point at

`IRCluster(...)` (ircluster.py) builds the cluster of a Mapping (or of an
auth service, a rate-limit service, ...). From the service it works out
whether to originate TLS (an `https://` scheme, or a TLS context with no
scheme), the context, and the URL `tcp://host:port` (`urllib.parse` splits
the host from the port, 443 or 80 by default). It names the cluster by
joining with `_` the fields `cluster`, the marker, the original service,
`otls` and the context (when TLS comes from the context), `hr-<host_rewrite>`
(when TLS is originated), the namespace, the circuit breakers and the
endpoint-routing policy, and then replacing every character outside
`[0-9A-Za-z_]` with `_`. `IR.add_cluster` (ir.py) keeps the first cluster of
a name and hands it back for every later cluster of that name.

The name does not determine the upstream. Scrubbing identifies the services
`svc-a` and `svc.a`, whose URLs differ, and the context of a Mapping whose
service has an `https://` scheme is not in the name at all; the second
Mapping of each such pair gets the first one's cluster
(`cluster_name_collides`). What the name does guarantee is its alphabet
(`IRCluster.new_name_chars`), which the envoy names rely on, and
`add_cluster` keeps every cluster under its own name over any run of
additions (`add_clusters_keyed`).

A context is given by its name (the null context is `no-cert-upstream`),
a load balancer by the keys the naming reads, a circuit breaker by its
`_name`. Not covered: IPv6 literals and zone ids in the service (CPython
parses or rejects bracketed hosts), and the arguments `IRCluster` only copies
into the cluster (DNS type, keepalive, timeouts, health checks).

Key definitions: `IRCluster.new`, `add_cluster`, `add_clusters`, `built_clusters`.
Key theorems: `IRCluster.new_name_chars`, `add_clusters_keyed`, `built_clusters_name_chars`.
-/
import Emissary.Basic
import Emissary.Lib.Dict
import Emissary.Lib.Split
import Emissary.Lib.Text

namespace Emissary
namespace Clusters

/-! ### What `IRCluster` is given -/

/-- A truthy `ctx_name`: `True` (the null context) or the name of a TLSContext. -/
inductive CtxName
  | on
  | named (name : Key)
  deriving DecidableEq, Repr

/-- `"%s" % ctx_name`. -/
def CtxName.str : CtxName → Key
  | .on => "True".toList
  | .named name => name

/-- A `load_balancer` as the naming reads it: its `policy`, the `header`, the
`cookie`'s `name`, and whether it has `source_ip`. -/
structure LoadBalancer where
  policy : Option Key := none
  header : Option Key := none
  cookie : Option Key := none
  source_ip : Bool := false
  deriving DecidableEq, Repr

/-- `bool(load_balancer)`: the dict has a key. -/
def LoadBalancer.truthy (lb : LoadBalancer) : Bool :=
  lb.policy.isSome || lb.header.isSome || lb.cookie.isSome || lb.source_ip

/-- The arguments of `IRCluster(...)` that it reads; `«namespace»` is
`parent_ir_resource.namespace`, and `none` stands for every falsy value. -/
structure ClusterArgs where
  service : Key
  «namespace» : Key
  marker : Option Key := none
  ctx_name : Option CtxName := none
  host_rewrite : Option Key := none
  circuit_breakers : List Key := []
  load_balancer : Option LoadBalancer := none
  allow_scheme : Bool := true
  stats_name : Option Key := none
  deriving DecidableEq

/-- What `IRCluster(...)` reads from the IR: the names of its TLSContexts,
the Ambassador module's `load_balancer` (and how Python prints it), and
`Config.enable_endpoints`. -/
structure ClusterEnv where
  tls_contexts : List Key
  global_load_balancer : Option LoadBalancer
  global_load_balancer_repr : Key
  enable_endpoints : Bool

/-- An `IRCluster` as built: its name, `urls`, the service without scheme,
`stats_name`, the context it originates TLS with (by name), `host_rewrite`,
circuit breakers, load balancer, `enable_endpoints`, `ignore_cluster`, and
the errors it posts. -/
structure IRCluster where
  name : Key
  urls : List Key
  service : Key
  stats_name : Key
  tls_context : Option Key
  host_rewrite : Option Key
  circuit_breakers : List Key
  load_balancer : Option LoadBalancer
  enable_endpoints : Bool
  ignore_cluster : Bool
  errors : List Key
  deriving DecidableEq

/-! ### `urllib.parse.urlparse("random://" + service)` -/

/-- The network location: the service up to its first `/`, `?` or `#`. -/
def netloc (s : Key) : Key := s.takeWhile fun c => c ∉ "/?#".toList

/-- `p.path or p.params or p.query or p.fragment`: the fragment is cut at the
first `#`, then the query at the first `?`; `random` takes no params. -/
def has_extra_components (s : Key) : Bool :=
  let rest := s.dropWhile fun c => c ∉ "/?#".toList
  let (url, fragment) := (Split.split1 "#".toList rest).getD (rest, [])
  let (path, query) := (Split.split1 "?".toList url).getD (url, [])
  path ≠ [] || query ≠ [] || fragment ≠ []

/-- `netloc.rpartition('@')[2]`. -/
def hostinfo (netloc : Key) : Key :=
  match Split.rsplit1 '@' netloc with
  | some (_, h) => h
  | none => netloc

/-- `p.hostname`: the host info up to its first `:`, `None` when empty, lower
case before a `%`. -/
def hostname (netloc : Key) : Option Key :=
  let host := ((Split.split1 ":".toList (hostinfo netloc)).map Prod.fst).getD (hostinfo netloc)
  if host = [] then none
  else
    match Split.split1 "%".toList host with
    | some (h, zone) => some (Text.lower h ++ "%".toList ++ zone)
    | none => some (Text.lower host)

/-- `p.port`: what follows the first `:` of the host info, an ASCII number up
to 65535; `ValueError` otherwise. -/
def port (netloc : Key) : Except Key (Option ℕ) :=
  let p := ((Split.split1 ":".toList (hostinfo netloc)).map Prod.snd).getD []
  if p = [] then .ok none
  else if p.all Char.isDigit then
    if Nat.ofDigitChars 10 p 0 ≤ 65535 then .ok (some (Nat.ofDigitChars 10 p 0))
    else .error "Port out of range 0-65535".toList
  else .error ("Port could not be cast to integer value as '".toList ++ p ++ "'".toList)

/-! ### `IRCluster(...)` -/

/-- The context `ctx_name` names, by name, or the error when there is none. -/
def lookup_ctx (env : ClusterEnv) : Option CtxName → Option Key × List Key
  | some .on => (some "no-cert-upstream".toList, [])
  | some (.named name) =>
    if name = [] then (none, [])
    else if name ∈ env.tls_contexts then (some name, [])
    else (none, ["Originate-TLS context ".toList ++ name ++ " is not defined".toList])
  | none => (none, [])

/-- The scheme: the service without it, whether TLS is originated, the name
fields it adds and the error it posts. -/
def scheme_stage (allow_scheme : Bool) (service : Key) (ctx_name : Option CtxName) (ctx : Option Key) :
    Key × Bool × List Key × List Key :=
  if allow_scheme ∧ "https://".toList <+: Text.lower service then
    (service.drop "https://".toList.length, true, ["otls".toList], [])
  else if allow_scheme ∧ "http://".toList <+: Text.lower service then
    match ctx with
    | some _ =>
      (service.drop "http://".toList.length, true, ["otls".toList],
        ["Originate-TLS context ".toList ++ (ctx_name.map CtxName.str).getD [] ++
          " being used even though service ".toList ++ service.drop "http://".toList.length ++
          " lists HTTP".toList])
    | none => (service.drop "http://".toList.length, false, [], [])
  else
    -- no scheme (or schemes are ignored), but maybe a context
    match ctx with
    | some name => (service, true, ["otls".toList, name], [])
    | none => (service, false, [], [])

/-- `if "://" in service`: an unknown scheme is dropped with an error. -/
def unknown_scheme_stage (allow_scheme originate_tls : Bool) (service : Key) : Key × List Key :=
  match Split.split1 "://".toList service with
  | some (scheme, rest) =>
    (rest,
      [if allow_scheme then
        "service ".toList ++ service ++ " has unknown scheme ".toList ++ scheme ++ ", assuming ".toList ++
          (if originate_tls then "HTTPS".toList else "HTTP".toList)
      else
        "ignoring scheme ".toList ++ scheme ++ " for service ".toList ++ service ++
          ", since it is being used for a non-HTTP mapping".toList])
  | none => (service, [])

/-- `self.endpoints_required(load_balancer)`. -/
def endpoints_required : Option LoadBalancer → Bool
  | some lb =>
    match lb.policy with
    | some policy => decide (policy ∈ ["round_robin", "least_request", "ring_hash", "maglev"].map String.toList)
    | none => false
  | none => false

/-- `"-".join(key_fields)` for a load balancer that needs endpoints. -/
def er_field (lb : LoadBalancer) : Key :=
  "-".toList.intercalate
    (["er".toList, Text.lower (lb.policy.getD "default".toList)] ++
      (match lb.header with
        | some h => ["hdr".toList, h]
        | none => []) ++
      (match lb.cookie with
        | some c => ["cookie".toList, c]
        | none => []) ++
      (if lb.source_ip then ["srcip".toList] else []))

/-- The load balancer: the Mapping's, or the Ambassador module's; the cluster
routes to endpoints when the policy needs them and endpoint routing is on.
Gives the load balancer, `enable_endpoints`, the name fields and the error. -/
def endpoint_stage (env : ClusterEnv) (service : Key) (load_balancer : Option LoadBalancer) :
    Option LoadBalancer × Bool × List Key × List Key :=
  let lb := if (load_balancer.map LoadBalancer.truthy).getD false then load_balancer else env.global_load_balancer
  if endpoints_required lb then
    if env.enable_endpoints then
      (lb, true,
        (match lb with
          | some l => if l.truthy then [er_field l] else []
          | none => []), [])
    else
      (env.global_load_balancer, false, [],
        [service ++ ": endpoint routing is not enabled, falling back to ".toList ++ env.global_load_balancer_repr])
  else (lb, false, [], [])

/-- The characters a cluster name keeps: `[0-9A-Za-z_]`. -/
def name_char (c : Char) : Bool := c.isAlphanum || c == '_'

/-- `IRCluster.__init__`, up to `super().__init__`. -/
def IRCluster.new (env : ClusterEnv) (args : ClusterArgs) : IRCluster :=
  let (ctx, ctx_errors) := lookup_ctx env args.ctx_name
  let (service, originate_tls, tls_fields, scheme_errors) :=
    scheme_stage args.allow_scheme args.service args.ctx_name ctx
  let (service, unknown_errors) := unknown_scheme_stage args.allow_scheme originate_tls service
  let hr_fields := match args.host_rewrite with
    | some hr => if originate_tls ∧ hr ≠ [] then ["hr-".toList ++ hr] else []
    | none => []
  let extra_errors := if has_extra_components service then
      ["service ".toList ++ service ++ " has extra URL components; ignoring everything but the host and port".toList]
    else []
  let (host, host_errors, host_ignored) := match hostname (netloc service) with
    | some h => (h, [], false)
    | none => ("unknown".toList,
        ["service ".toList ++ service ++ " has no hostname and will be ignored; please re-configure".toList], true)
  let (p, port_errors, port_ignored) := match port (netloc service) with
    | .ok p => (p.getD 0, [], false)
    | .error e => (0,
        ["found invalid port for service ".toList ++ service ++
          ". Please specify a valid port between 0 and 65535 - ".toList ++ e ++ ". Service ".toList ++ service ++
          " cluster will be ignored, please re-configure".toList], true)
  -- an unset (or zero) port follows the TLS decision
  let p := if p = 0 then (if originate_tls then 443 else 80) else p
  let (load_balancer, enable_endpoints, er_fields, lb_errors) := endpoint_stage env service args.load_balancer
  let name_fields := ["cluster".toList] ++ (args.marker.filter (· ≠ [])).toList ++ [args.service] ++ tls_fields ++
    hr_fields ++ [args.«namespace»] ++ args.circuit_breakers ++ er_fields
  { name := Text.scrub name_char '_' ("_".toList.intercalate name_fields)
    urls := ["tcp://".toList ++ host ++ ":".toList ++ Nat.toDigits 10 p]
    service
    stats_name := (args.stats_name.filter (· ≠ [])).getD (Text.scrub name_char '_' service)
    tls_context := if originate_tls then some (ctx.getD "no-cert-upstream".toList) else none
    host_rewrite := args.host_rewrite.filter (· ≠ [])
    circuit_breakers := args.circuit_breakers
    load_balancer
    enable_endpoints
    ignore_cluster := host_ignored || port_ignored
    errors := ctx_errors ++ scheme_errors ++ unknown_errors ++ extra_errors ++ host_errors ++ port_errors ++
      lb_errors }

/-- A cluster name has only letters, digits and `_`; in particular no `-`. -/
theorem IRCluster.new_name_chars (env : ClusterEnv) (args : ClusterArgs) :
    ∀ c ∈ (IRCluster.new env args).name, c.isAlphanum = true ∨ c = '_' := by
  intro c hc
  rcases Text.mem_scrub hc with h | h
  · -- kept: a letter or digit, or `_` itself
    simp only [name_char, Bool.or_eq_true, beq_iff_eq] at h
    exact h
  · exact .inr h

/-! ### `IR.add_cluster` -/

/-- `IR.add_cluster(cluster)`: the first cluster of a name stays, and the one
that stays is handed back. -/
def add_cluster (clusters : Dict Key IRCluster) (cluster : IRCluster) : Dict Key IRCluster × IRCluster :=
  if cluster.name ∈ clusters then (clusters, (clusters.get? cluster.name).getD cluster)
  else (clusters.set cluster.name cluster, cluster)

/-- The clusters of an IR after `add_cluster` of each of `added`, in order. -/
def add_clusters (clusters : Dict Key IRCluster) (added : List IRCluster) : Dict Key IRCluster :=
  added.foldl (fun d c => (add_cluster d c).1) clusters

/-- Every cluster of the IR is stored under its own name. -/
def Keyed (clusters : Dict Key IRCluster) : Prop := ∀ n c, clusters.get? n = some c → c.name = n

/-- The step lemma: `add_cluster` keeps the clusters keyed, and the cluster it
hands back has the name asked for. -/
theorem add_cluster_keyed {clusters : Dict Key IRCluster} (h : Keyed clusters) (cluster : IRCluster) :
    Keyed (add_cluster clusters cluster).1 ∧ (add_cluster clusters cluster).2.name = cluster.name := by
  unfold add_cluster
  by_cases hm : cluster.name ∈ clusters
  · -- the extant cluster of that name comes back
    rw [if_pos hm]
    obtain ⟨c, hc⟩ := Option.isSome_iff_exists.mp (Dict.mem_iff_get?.mp hm)
    rw [hc, Option.getD_some]
    exact ⟨h, h _ c hc⟩
  · rw [if_neg hm]
    refine ⟨fun n c hn => ?_, rfl⟩
    rw [Dict.get?_set] at hn
    split at hn
    · rename_i hname
      rw [← (Option.some.inj hn), hname]
    · exact h n c hn

/-- The run lemma: over any sequence of additions to the clusters of an IR,
every cluster stays under its own name. -/
theorem add_clusters_keyed :
    ∀ (clusters : Dict Key IRCluster) (added : List IRCluster), Keyed clusters → Keyed (add_clusters clusters added)
  | _, [], h => h
  | _, c :: added, h => add_clusters_keyed _ added (add_cluster_keyed h c).1

/-- A cluster name of the IR after the additions was one before them or is
the name of an added cluster. -/
theorem mem_add_clusters :
    ∀ (clusters : Dict Key IRCluster) (added : List IRCluster) (n : Key), n ∈ add_clusters clusters added →
      n ∈ clusters ∨ ∃ c ∈ added, c.name = n
  | _, [], _, h => .inl h
  | clusters, c :: added, n, h => by
    rcases mem_add_clusters _ added n h with hn | ⟨c', hc', hname⟩
    · -- the step either keeps the clusters or adds `c` under its name
      have hstep : n ∈ (add_cluster clusters c).1 := hn
      unfold add_cluster at hstep
      split at hstep
      · exact .inl hstep
      · rcases Dict.mem_set.mp hstep with rfl | hstep
        · exact .inr ⟨c, List.mem_cons_self, rfl⟩
        · exact .inl hstep
    · exact .inr ⟨c', List.mem_cons_of_mem c hc', hname⟩

/-- The clusters of an IR, each built by `IRCluster(...)` in some IR (the
cache keeps clusters of earlier builds) and added in order. -/
def built_clusters (built : List (ClusterEnv × ClusterArgs)) : Dict Key IRCluster :=
  add_clusters ∅ (built.map fun p => IRCluster.new p.1 p.2)

/-- The cluster names of an IR have only letters, digits and `_`. -/
theorem built_clusters_name_chars (built : List (ClusterEnv × ClusterArgs)) :
    ∀ n ∈ (built_clusters built).keys, ∀ c ∈ n, c.isAlphanum = true ∨ c = '_' := by
  intro n hn c hc
  rcases mem_add_clusters ∅ _ n (Dict.mem_def.mpr hn) with h | ⟨cl, hcl, rfl⟩
  · exact absurd h (Dict.not_mem_empty n)
  · obtain ⟨p, -, rfl⟩ := List.mem_map.mp hcl
    exact IRCluster.new_name_chars p.1 p.2 c hc

/-! ### One name, two upstreams -/

/-- The IR of the examples: one TLSContext `ctx`, no load balancer. -/
def exampleEnv : ClusterEnv := ⟨["ctx".toList], none, "None".toList, false⟩

/-- Services `svc-a` and `svc.a` in one namespace get one cluster name and
different URLs, and the cluster of `svc-a` is handed back for `svc.a`; the
context of an `https://` service is not in the name either. -/
theorem cluster_name_collides :
    (IRCluster.new exampleEnv { service := "svc-a".toList, «namespace» := "default".toList }).name =
        (IRCluster.new exampleEnv { service := "svc.a".toList, «namespace» := "default".toList }).name ∧
    (IRCluster.new exampleEnv { service := "svc-a".toList, «namespace» := "default".toList }).urls =
        ["tcp://svc-a:80".toList] ∧
    (IRCluster.new exampleEnv { service := "svc.a".toList, «namespace» := "default".toList }).urls =
        ["tcp://svc.a:80".toList] ∧
    (add_cluster (add_cluster ∅ (IRCluster.new exampleEnv
        { service := "svc-a".toList, «namespace» := "default".toList })).1
        (IRCluster.new exampleEnv { service := "svc.a".toList, «namespace» := "default".toList })).2.urls =
      ["tcp://svc-a:80".toList] ∧
    (IRCluster.new exampleEnv
        { service := "https://svc".toList, «namespace» := "default".toList, ctx_name := some (.named "ctx".toList) }).name =
      (IRCluster.new exampleEnv { service := "https://svc".toList, «namespace» := "default".toList }).name ∧
    (IRCluster.new exampleEnv
        { service := "https://svc".toList, «namespace» := "default".toList, ctx_name := some (.named "ctx".toList) }).tls_context =
      some "ctx".toList ∧
    (IRCluster.new exampleEnv { service := "https://svc".toList, «namespace» := "default".toList }).tls_context =
      some "no-cert-upstream".toList := by
  decide

end Clusters
end Emissary

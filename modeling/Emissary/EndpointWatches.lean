/-
# Which services the Go entrypoint watches the endpoints of

Endpoint routing needs the Endpoints of every service a cluster resolves
with a `KubernetesEndpointResolver`. Go decides which to watch before Python
builds the IR: `reconcileEndpointWatches` reads the ambassador Module's
`resolver` and `use_ambassador_namespace_for_service_resolution`
(`checkModule`) and the resolvers of the snapshot, makes `endpoint` and
`kubernetes-endpoint` endpoint resolvers unless they are defined
(`phaseOne`), and then watches `namespace:service` for every Mapping and
TCPMapping whose resolver, or the Module's default, is an endpoint resolver
(`checkMapping`, `checkTCPMapping`, `parseService`). Those are all it
watches (`mem_reconcileEndpointWatches`).

Python builds a cluster for every Mapping and TCPMapping, and for every
AuthService, RateLimitService, LogService and TracingService; the latter
clusters name no resolver, so `IR.resolve_resolver` gives them the Module's
(`resolve_resolver`). A cluster with an endpoint resolver and a host that is
not an IP address gets the `endpoint_path` `k8s/<namespace>/<service>`
(`parse_service`, `pyEndpointKeys`). So when the Module's resolver is
`endpoint`, Python routes an AuthService's cluster by endpoints that Go never
watches (`mem_pyEndpointKeys_of_service`, `auth_service_not_watched`).

IP addresses are dotted-quad IPv4 on both sides (`isIPv4`); Python's cluster
host is the service up to a port (`clusterHost`).

Key definitions: `EndpointRoutingInfo.checkModule`, `ModuleResolver.parseService`,
`phaseOne`, `reconcileEndpointWatches`, `resolve_resolver`, `parse_service`,
`pyEndpointKeys`.
Key theorems: `reconcileEndpointWatches_eq_foldl`, `mem_reconcileEndpointWatches`,
`mem_pyEndpointKeys_of_service`.
-/
import Emissary.Basic
import Emissary.Lib.Dict
import Emissary.Lib.Json
import Emissary.Lib.Split
import Emissary.Snapshot

namespace Emissary

namespace EndpointWatches

open Snapshot

/-! ### Strings -/

/-- The value of a string of decimal digits. -/
def digitsValue (p : Key) : ℕ := p.foldl (fun n c => 10 * n + (c.toNat - '0'.toNat)) 0

/-- A dotted-quad IPv4 address, as Go's `net.ParseIP` and Python's
`ipaddress.ip_address` accept one: four decimal fields of one to three digits,
each at most 255 and without a leading zero. -/
def isIPv4 (s : Key) : Bool :=
  let parts := s.splitOn '.'
  parts.length == 4 && parts.all fun p =>
    !p.isEmpty && decide (p.length ≤ 3) && p.all Char.isDigit && decide (digitsValue p ≤ 255) &&
      (p.length == 1 || p.headD '0' != '0')

/-- `strconv.Atoi` succeeds: an optional sign, then decimal digits. -/
def atoiOk (s : Key) : Bool :=
  let digits := match s with
    | '+' :: ds | '-' :: ds => ds
    | ds => ds
  !digits.isEmpty && digits.all Char.isDigit

/-! ### Go: `endpointRoutingInfo` -/

inductive ResolverType where
  | KubernetesServiceResolver
  | KubernetesEndpointResolver
  | ConsulResolver
  deriving DecidableEq, Repr

/-- `moduleResolver`: what the ambassador Module says about resolution. -/
structure ModuleResolver where
  resolver : Key := []
  useAmbassadorNamespaceForServiceResolution : Bool := false
  deriving DecidableEq, Repr

/-- `endpointRoutingInfo`: the resolvers by name, the Module's settings, and
the set of `namespace:service` keys to watch. -/
structure EndpointRoutingInfo where
  resolverTypes : Dict Key ResolverType := ∅
  module : ModuleResolver := {}
  endpointWatches : Dict Key Unit := ∅

namespace EndpointRoutingInfo

/-- `checkModule`: the ambassador Module's config decoded into
`moduleResolver`; a config that does not decode is ignored, and an empty
resolver is `kubernetes-service`. -/
def checkModule (eri : EndpointRoutingInfo) (mod : Module) : EndpointRoutingInfo :=
  if mod.name ≠ "ambassador".toList then eri
  else
    match Json.decodeString (mod.config.get? "resolver".toList),
      Json.decodeBool (mod.config.get? "use_ambassador_namespace_for_service_resolution".toList) with
    | some resolver, some useAmbassadorNamespace =>
      { eri with module :=
          { resolver := if resolver = [] then "kubernetes-service".toList else resolver
            useAmbassadorNamespaceForServiceResolution := useAmbassadorNamespace } }
    | _, _ => eri

/-- `saveResolver`. -/
def saveResolver (eri : EndpointRoutingInfo) (name : Key) (resType : ResolverType) :
    EndpointRoutingInfo :=
  { eri with resolverTypes := eri.resolverTypes.set name resType }

/-- `checkResourcePhase1`: Modules and resolvers. -/
def checkResourcePhase1 (eri : EndpointRoutingInfo) : Object → EndpointRoutingInfo
  | .module m => eri.checkModule m
  | .kubernetesServiceResolver r => eri.saveResolver r.name .KubernetesServiceResolver
  | .kubernetesEndpointResolver r => eri.saveResolver r.name .KubernetesEndpointResolver
  | .consulResolver r => eri.saveResolver r.name .ConsulResolver
  | _ => eri

end EndpointRoutingInfo

/-- `moduleResolver.parseService`: the service, namespace and port a service
string names. A scheme is dropped, a numeric port split off; a name with a
dot is `service.namespace`, otherwise the namespace is the resource's, or
Ambassador's under `use_ambassador_namespace_for_service_resolution` or when
the resource has none. -/
def ModuleResolver.parseService (m : ModuleResolver) (ambassadorNamespace : Key)
    (svcName svcNamespace : Key) : Key × Key × Key :=
  let svcName := match Split.split1 "://".toList svcName with
    | some (_, rest) => rest
    | none => svcName
  let (svcName, port) := match Split.split1 [':'] svcName with
    | some (host, p) => if atoiOk p then (host, p) else (svcName, [])
    | none => (svcName, [])
  if isIPv4 svcName then
    (svcName, if m.useAmbassadorNamespaceForServiceResolution || svcNamespace = [] then
      ambassadorNamespace else svcNamespace, port)
  else if '.' ∈ svcName then
    let parts := svcName.splitOn '.'
    (parts.headD [], (parts.drop 1).headD [], port)
  else
    (svcName, if m.useAmbassadorNamespaceForServiceResolution || svcNamespace = [] then
      ambassadorNamespace else svcNamespace, port)

namespace EndpointRoutingInfo

/-- Whether a resource's resolver, or the Module's when it names none, is an
endpoint resolver; an unknown name is the zero `ResolverType`, the service
resolver. -/
def isEndpoint (eri : EndpointRoutingInfo) (resolver : Key) : Bool :=
  (eri.resolverTypes.get? (if resolver = [] then eri.module.resolver else resolver)).getD
    .KubernetesServiceResolver == .KubernetesEndpointResolver

/-- The `namespace:service` key of a service string. -/
def watchKey (eri : EndpointRoutingInfo) (ambassadorNamespace service ns : Key) : Key :=
  let (svc, ns, _) := eri.module.parseService ambassadorNamespace service ns
  ns ++ ":".toList ++ svc

/-- What `checkMapping` and `checkTCPMapping` do with a resource's resolver,
service and namespace. -/
def watchService (eri : EndpointRoutingInfo) (ambassadorNamespace resolver service ns : Key) :
    EndpointRoutingInfo :=
  if eri.isEndpoint resolver then
    { eri with endpointWatches :=
        eri.endpointWatches.set (eri.watchKey ambassadorNamespace service ns) () }
  else eri

def checkMapping (eri : EndpointRoutingInfo) (ambassadorNamespace : Key) (mapping : Mapping) :
    EndpointRoutingInfo :=
  eri.watchService ambassadorNamespace mapping.resolver mapping.service mapping.namespace

def checkTCPMapping (eri : EndpointRoutingInfo) (ambassadorNamespace : Key) (tcpmapping : Mapping) :
    EndpointRoutingInfo :=
  eri.watchService ambassadorNamespace tcpmapping.resolver tcpmapping.service tcpmapping.namespace

/-- `checkResourcePhase2`: Mappings and TCPMappings. -/
def checkResourcePhase2 (eri : EndpointRoutingInfo) (ambassadorNamespace : Key) :
    Object → EndpointRoutingInfo
  | .mapping m => eri.checkMapping ambassadorNamespace m
  | .tcpMapping t => eri.checkTCPMapping ambassadorNamespace t
  | _ => eri

end EndpointRoutingInfo

open EndpointRoutingInfo

/-- Phase one of `reconcileEndpointWatches`: the Modules and resolvers of the
annotations and the CRDs, then the default endpoint resolvers. -/
def phaseOne (envAmbID : Key) (s : KubernetesSnapshot) : EndpointRoutingInfo :=
  let eri : EndpointRoutingInfo := {}
  let eri := (annotationsFor envAmbID s).foldl checkResourcePhase1 eri
  let eri := (s.modules.filter fun m => m.ambassadorID.Matches envAmbID).foldl checkModule eri
  let eri := (s.kubernetesServiceResolvers.filter fun r => r.ambassadorID.Matches envAmbID).foldl
    (fun eri r => eri.saveResolver r.name .KubernetesServiceResolver) eri
  let eri := (s.kubernetesEndpointResolvers.filter fun r => r.ambassadorID.Matches envAmbID).foldl
    (fun eri r => eri.saveResolver r.name .KubernetesEndpointResolver) eri
  let eri := (s.consulResolvers.filter fun r => r.ambassadorID.Matches envAmbID).foldl
    (fun eri r => eri.saveResolver r.name .ConsulResolver) eri
  ["endpoint".toList, "kubernetes-endpoint".toList].foldl (fun eri rName =>
    if rName ∈ eri.resolverTypes then eri
    else { eri with resolverTypes := eri.resolverTypes.set rName .KubernetesEndpointResolver }) eri

/-- `reconcileEndpointWatches`: phase one, then the Mappings and TCPMappings
of the annotations and of the CRDs. -/
def reconcileEndpointWatches (envAmbID ambassadorNamespace : Key) (s : KubernetesSnapshot) :
    EndpointRoutingInfo :=
  let eri := phaseOne envAmbID s
  let eri := (annotationsFor envAmbID s).foldl (fun eri a => eri.checkResourcePhase2 ambassadorNamespace a) eri
  let eri := (s.mappings.filter fun m => m.ambassadorID.Matches envAmbID).foldl
    (fun eri m => eri.checkMapping ambassadorNamespace m) eri
  (s.tcpMappings.filter fun t => t.ambassadorID.Matches envAmbID).foldl
    (fun eri t => eri.checkTCPMapping ambassadorNamespace t) eri

/-- A Mapping or TCPMapping among the annotations. -/
def Object.mapping? : Object → Option Mapping
  | .mapping m | .tcpMapping m => some m
  | _ => none

/-- The Mappings and TCPMappings `reconcileEndpointWatches` checks, in order. -/
def mappingsFor (envAmbID : Key) (s : KubernetesSnapshot) : List Mapping :=
  (annotationsFor envAmbID s).filterMap Object.mapping? ++
    s.mappings.filter (fun m => m.ambassadorID.Matches envAmbID) ++
    s.tcpMappings.filter (fun t => t.ambassadorID.Matches envAmbID)

/-! ### Python: the clusters' resolvers and endpoint paths -/

/-- `ir.ambassador_module.get("resolver", "kubernetes-service")`. -/
def moduleResolverName (config : JsonObj) : Key :=
  match config.get? "resolver".toList with
  | some (.str s) => s
  | _ => "kubernetes-service".toList

/-- `ir.ambassador_module.use_ambassador_namespace_for_service_resolution`,
as a truth value. -/
def moduleUseAmbassadorNamespace (config : JsonObj) : Bool :=
  ((config.get? "use_ambassador_namespace_for_service_resolution".toList).map Json.truthy).getD false

/-- The config of the IR's ambassador Module: the first Module named
`ambassador` for this instance. -/
def pyAmbassadorModule (envAmbID : Key) (s : KubernetesSnapshot) : JsonObj :=
  ((s.modules.find? fun m => m.name = "ambassador".toList ∧ m.ambassadorID.Matches envAmbID).map
    Module.config).getD .nil

/-- `IRServiceResolverFactory.load_all`: the snapshot's resolvers by name,
then `kubernetes-service` unless defined, and the pairs `endpoint` /
`kubernetes-endpoint` and `consul` / `consul-endpoint`: both made when
neither is defined, else the missing one a copy of the other. -/
def load_all (resolvers : List (Key × ResolverType)) : Dict Key ResolverType :=
  let ir := resolvers.foldl (fun ir r => ir.set r.1 r.2) (∅ : Dict Key ResolverType)
  let ir := if "kubernetes-service".toList ∈ ir then ir
    else ir.set "kubernetes-service".toList .KubernetesServiceResolver
  let ir := match ir.get? "endpoint".toList, ir.get? "kubernetes-endpoint".toList with
    | none, none => (ir.set "kubernetes-endpoint".toList .KubernetesEndpointResolver).set
        "endpoint".toList .KubernetesEndpointResolver
    | none, some t => ir.set "endpoint".toList t
    | some t, none => ir.set "kubernetes-endpoint".toList t
    | some _, some _ => ir
  match ir.get? "consul".toList, ir.get? "consul-endpoint".toList with
  | none, none => (ir.set "consul-endpoint".toList .ConsulResolver).set "consul".toList .ConsulResolver
  | none, some t => ir.set "consul".toList t
  | some t, none => ir.set "consul-endpoint".toList t
  | some _, some _ => ir

/-- The snapshot's resolvers for this instance, as Python files them. -/
def pyResolvers (envAmbID : Key) (s : KubernetesSnapshot) : List (Key × ResolverType) :=
  ((s.kubernetesServiceResolvers.filter fun r => r.ambassadorID.Matches envAmbID).map
      fun r => (r.name, .KubernetesServiceResolver)) ++
    ((s.kubernetesEndpointResolvers.filter fun r => r.ambassadorID.Matches envAmbID).map
      fun r => (r.name, .KubernetesEndpointResolver)) ++
    ((s.consulResolvers.filter fun r => r.ambassadorID.Matches envAmbID).map
      fun r => (r.name, .ConsulResolver))

/-- `IR.resolve_resolver`: the cluster's resolver, else the Module's. -/
def resolve_resolver (moduleResolver resolver_name : Key) : Key :=
  if resolver_name = [] then moduleResolver else resolver_name

/-- The host `IRCluster` takes from a service `host[:port]`, as `urlparse`
gives it: lowercased. -/
def clusterHost (service : Key) : Key :=
  match Split.split1 [':'] service with
  | some (host, _) => host.map Char.toLower
  | none => service.map Char.toLower

/-- `IRServiceResolver.parse_service`. -/
def parse_service (useAmbassadorNamespace : Bool) (ambassador_namespace svc_name svc_namespace : Key) :
    Key × Key :=
  if '.' ∈ svc_name ∧ isIPv4 svc_name = false then
    let parts := svc_name.splitOn '.'
    (parts.headD [], (parts.drop 1).headD [])
  else if useAmbassadorNamespace = false ∧ svc_namespace ≠ [] then (svc_name, svc_namespace)
  else (svc_name, ambassador_namespace)

/-- The `namespace:service` of the `endpoint_path` of `_k8s_clustermap_entry`,
for a cluster with an endpoint resolver; an IP address falls back to the
service resolver and has none. -/
def k8sEndpointKey (useAmbassadorNamespace : Bool) (ambassador_namespace hostname svc_namespace : Key) :
    Option Key :=
  if isIPv4 hostname then none
  else
    let (svc, ns) := parse_service useAmbassadorNamespace ambassador_namespace hostname svc_namespace
    some (ns ++ ":".toList ++ svc)

/-- The IR's clusters for the snapshot's resources for this instance, as
(resolver, service, namespace): a Mapping's or TCPMapping's names its
resolver, an AuthService's, RateLimitService's, LogService's or
TracingService's none. -/
def clusterSources (envAmbID : Key) (s : KubernetesSnapshot) : List (Key × Key × Key) :=
  ((mappingsFor envAmbID s).map fun m => (m.resolver, m.service, m.namespace)) ++
    (((s.authServices ++ s.rateLimitServices ++ s.logServices ++ s.tracingServices).filter
      fun r => r.ambassadorID.Matches envAmbID).map fun r => ([], r.service, r.namespace))

/-- The `namespace:service` of every cluster Python routes by endpoints. -/
def pyEndpointKeys (envAmbID ambassador_namespace : Key) (s : KubernetesSnapshot) : List Key :=
  let config := pyAmbassadorModule envAmbID s
  let resolvers := load_all (pyResolvers envAmbID s)
  (clusterSources envAmbID s).filterMap fun src =>
    if resolvers.get? (resolve_resolver (moduleResolverName config) src.1) =
        some .KubernetesEndpointResolver then
      k8sEndpointKey (moduleUseAmbassadorNamespace config) ambassador_namespace
        (clusterHost src.2.1) src.2.2
    else none

/-! ### What Go watches -/

namespace EndpointRoutingInfo

@[simp] theorem watchService_resolverTypes (eri : EndpointRoutingInfo) (ambassadorNamespace resolver service ns : Key) :
    (eri.watchService ambassadorNamespace resolver service ns).resolverTypes = eri.resolverTypes := by
  unfold watchService
  split <;> rfl

@[simp] theorem watchService_module (eri : EndpointRoutingInfo) (ambassadorNamespace resolver service ns : Key) :
    (eri.watchService ambassadorNamespace resolver service ns).module = eri.module := by
  unfold watchService
  split <;> rfl

theorem mem_watchService {eri : EndpointRoutingInfo} {ambassadorNamespace resolver service ns k : Key} :
    k ∈ (eri.watchService ambassadorNamespace resolver service ns).endpointWatches ↔
      k ∈ eri.endpointWatches ∨
        (eri.isEndpoint resolver = true ∧ k = eri.watchKey ambassadorNamespace service ns) := by
  unfold watchService
  split
  · rename_i h
    simp only [Dict.mem_set, h, true_and]
    exact or_comm
  · rename_i h
    simp [h]

end EndpointRoutingInfo

/-- Phase two is `watchService` on each Mapping and TCPMapping in turn. -/
theorem reconcileEndpointWatches_eq_foldl (envAmbID ambassadorNamespace : Key) (s : KubernetesSnapshot) :
    reconcileEndpointWatches envAmbID ambassadorNamespace s =
      (mappingsFor envAmbID s).foldl
        (fun eri m => eri.watchService ambassadorNamespace m.resolver m.service m.namespace)
        (phaseOne envAmbID s) := by
  have hphase2 : ∀ (as : List Object) (eri : EndpointRoutingInfo),
      as.foldl (fun eri a => eri.checkResourcePhase2 ambassadorNamespace a) eri =
        (as.filterMap Object.mapping?).foldl
          (fun eri m => eri.watchService ambassadorNamespace m.resolver m.service m.namespace) eri := by
    intro as
    induction as with
    | nil => exact fun _ => rfl
    | cons a as ih =>
      intro eri
      -- only Mappings and TCPMappings act, by `watchService`
      cases a <;> exact ih _
  dsimp only [reconcileEndpointWatches, mappingsFor]
  rw [List.foldl_append, List.foldl_append, ← hphase2]
  rfl

/-- The fold of `watchService` watches what it watched, and the services of
the resources with an endpoint resolver. -/
theorem mem_foldl_watchService (ambassadorNamespace : Key) :
    ∀ (ms : List Mapping) (eri : EndpointRoutingInfo) (k : Key),
      k ∈ (ms.foldl (fun eri m => eri.watchService ambassadorNamespace m.resolver m.service m.namespace)
          eri).endpointWatches ↔
        k ∈ eri.endpointWatches ∨ ∃ m ∈ ms, eri.isEndpoint m.resolver = true ∧
          k = eri.watchKey ambassadorNamespace m.service m.namespace
  | [], eri, k => by simp
  | m :: ms, eri, k => by
    rw [List.foldl_cons, mem_foldl_watchService ambassadorNamespace ms, mem_watchService]
    -- the resolvers and the Module stay, so later keys are read as before
    have hres : ∀ (m' : Mapping),
        (eri.watchService ambassadorNamespace m.resolver m.service m.namespace).isEndpoint m'.resolver =
          eri.isEndpoint m'.resolver := by
      intro m'
      simp [isEndpoint]
    have hkey : ∀ (m' : Mapping),
        (eri.watchService ambassadorNamespace m.resolver m.service m.namespace).watchKey
            ambassadorNamespace m'.service m'.namespace =
          eri.watchKey ambassadorNamespace m'.service m'.namespace := by
      intro m'
      simp [watchKey]
    simp only [hres, hkey, List.mem_cons, exists_eq_or_imp]
    exact or_assoc

/-- A fold of steps that leave the watches alone leaves them alone. -/
theorem foldl_endpointWatches {β : Type*} (f : EndpointRoutingInfo → β → EndpointRoutingInfo)
    (hf : ∀ eri b, (f eri b).endpointWatches = eri.endpointWatches) :
    ∀ (bs : List β) (eri : EndpointRoutingInfo), (bs.foldl f eri).endpointWatches = eri.endpointWatches
  | [], _ => rfl
  | b :: bs, eri => by rw [List.foldl_cons, foldl_endpointWatches f hf bs, hf]

/-- Phase one watches nothing. -/
theorem phaseOne_endpointWatches (envAmbID : Key) (s : KubernetesSnapshot) :
    (phaseOne envAmbID s).endpointWatches = ∅ := by
  have hmodule : ∀ (eri : EndpointRoutingInfo) (m : Module),
      (eri.checkModule m).endpointWatches = eri.endpointWatches := by
    intro eri m
    unfold checkModule
    split
    · rfl
    · split <;> rfl
  have hphase1 : ∀ (eri : EndpointRoutingInfo) (a : Object),
      (eri.checkResourcePhase1 a).endpointWatches = eri.endpointWatches := by
    intro eri a
    cases a <;> first | exact hmodule eri _ | rfl
  have hdefault : ∀ (eri : EndpointRoutingInfo) (rName : Key),
      (if rName ∈ eri.resolverTypes then eri
        else { eri with resolverTypes := eri.resolverTypes.set rName .KubernetesEndpointResolver }).endpointWatches =
        eri.endpointWatches := by
    intro eri rName
    split <;> rfl
  have hsave : ∀ (t : ResolverType) (eri : EndpointRoutingInfo) (r : Resolver),
      (eri.saveResolver r.name t).endpointWatches = eri.endpointWatches := fun _ _ _ => rfl
  unfold phaseOne
  rw [foldl_endpointWatches _ hdefault, foldl_endpointWatches _ (hsave .ConsulResolver),
    foldl_endpointWatches _ (hsave .KubernetesEndpointResolver),
    foldl_endpointWatches _ (hsave .KubernetesServiceResolver),
    foldl_endpointWatches _ hmodule, foldl_endpointWatches _ hphase1]

/-- Go watches exactly the services of the Mappings and TCPMappings for this
instance whose resolver, or the Module's, is an endpoint resolver. -/
theorem mem_reconcileEndpointWatches {envAmbID ambassadorNamespace : Key} {s : KubernetesSnapshot}
    {k : Key} :
    k ∈ (reconcileEndpointWatches envAmbID ambassadorNamespace s).endpointWatches ↔
      ∃ m ∈ mappingsFor envAmbID s, (phaseOne envAmbID s).isEndpoint m.resolver = true ∧
        k = (phaseOne envAmbID s).watchKey ambassadorNamespace m.service m.namespace := by
  rw [reconcileEndpointWatches_eq_foldl, mem_foldl_watchService, phaseOne_endpointWatches]
  simp

/-! ### What Python routes by endpoints -/

/-- An AuthService, RateLimitService, LogService or TracingService for this
instance is routed by endpoints when the Module's resolver is an endpoint
resolver and its host is not an IP address. -/
theorem mem_pyEndpointKeys_of_service {envAmbID ambassador_namespace : Key} {s : KubernetesSnapshot}
    {r : ServiceResource}
    (hr : r ∈ s.authServices ++ s.rateLimitServices ++ s.logServices ++ s.tracingServices)
    (hid : r.ambassadorID.Matches envAmbID = true)
    (hres : (load_all (pyResolvers envAmbID s)).get?
      (moduleResolverName (pyAmbassadorModule envAmbID s)) = some .KubernetesEndpointResolver)
    {k : Key} (hk : k8sEndpointKey (moduleUseAmbassadorNamespace (pyAmbassadorModule envAmbID s))
      ambassador_namespace (clusterHost r.service) r.namespace = some k) :
    k ∈ pyEndpointKeys envAmbID ambassador_namespace s := by
  unfold pyEndpointKeys
  rw [List.mem_filterMap]
  refine ⟨([], r.service, r.namespace), ?_, ?_⟩
  · -- the service's cluster names no resolver
    unfold clusterSources
    exact List.mem_append_right _ (List.mem_map.mpr ⟨r, List.mem_filter.mpr ⟨hr, hid⟩, rfl⟩)
  · simp only [resolve_resolver, if_true, hres, hk]

/-! ### An AuthService under an endpoint-resolving Module -/

/-- An ambassador Module whose resolver is `endpoint`, and an AuthService
`auth` for the service `auth`, both in `default`. -/
def authSnapshot : KubernetesSnapshot :=
  { modules := [{ name := "ambassador".toList, «namespace» := "default".toList, ambassadorID := [],
                  config := .cons "resolver".toList (.str "endpoint".toList) .nil }]
    authServices := [{ name := "auth".toList, «namespace» := "default".toList, ambassadorID := [],
                       service := "auth".toList }] }

theorem auth_service_not_watched :
    "default:auth".toList ∈ pyEndpointKeys "default".toList "default".toList authSnapshot ∧
      "default:auth".toList ∉
        (reconcileEndpointWatches "default".toList "default".toList authSnapshot).endpointWatches := by
  decide

end EndpointWatches

end Emissary

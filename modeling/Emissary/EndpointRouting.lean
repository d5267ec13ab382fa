/-
# Kubernetes endpoints, as Python and Go read them

A Kubernetes Service lists its ports (a number, maybe a name and a target
port); its Endpoints object lists subsets, each a set of addresses with the
ports they listen on. Both halves of Emissary turn the pair into endpoint
addresses for each service port.

Python's `InternalEndpointsProcessor` (`process`) keeps, per Endpoints object,
one record: the addresses of a subset with its TCP ports by number and name;
every subset that has an address and a port is stored over the one before, so
the last one wins (`process_eq_getLast?`). `ServiceProcessor.finalize` then
picks a target port for each service port (`targetPort`: the single endpoint
port, else the first of `targetPort`, `name`, `port` that names one, else a
fallback) and emits the record's addresses with it (`finalize`).

Go's `makeEndpoints` builds a `portmap` from the service's ports and walks every
subset and every TCP or UDP port, filing each address under each service port
the endpoint port stands for, as cluster `k8s/<namespace>/<name>/<port>`
(`k8sEndpointsToAmbex`, `makeEndpoints_getD`). A Service with one port takes
every endpoint port of every subset (`filter_k8sEndpointsToAmbex_of_single_port`).

With two subsets, as during a rollout that moves a named target port, Python
drops the addresses of the first (`endpoints_drop_subset`).

Key definitions: `process`, `targetPort`, `finalize`, `portmap`, `portNames`,
`k8sEndpointsToAmbex`, `makeEndpoints`.
Key theorems: `process_eq_getLast?`, `makeEndpoints_getD`,
`filter_k8sEndpointsToAmbex_of_single_port`, `endpoints_drop_subset`.
-/
import Emissary.Basic
import Emissary.Lib.Dict
import Emissary.Lib.Python
import Mathlib.Data.Nat.Digits.Defs
import Mathlib.Data.List.Count

namespace Emissary

namespace EndpointRouting

/-! ### Services and Endpoints -/

/-- `intstr.IntOrString`: a port by number or by name. -/
inductive IntOrString where
  | int (n : ℕ)
  | str (s : Key)
  deriving DecidableEq, Repr

/-- A port number in decimal: Go's `fmt.Sprintf("%d", n)`, Python's `str(n)`. -/
def decimal (n : ℕ) : Key := Nat.toDigits 10 n

/-- Go's `IntOrString.String()` and Python's `str(port_key)`. -/
def IntOrString.toKey : IntOrString → Key
  | .int n => decimal n
  | .str s => s

inductive Protocol where
  | TCP
  | UDP
  | SCTP
  deriving DecidableEq, Repr

/-- A port of a Service's spec; an unset `name` is empty and an unset
`targetPort` is `none`. -/
structure ServicePort where
  name : Key := []
  port : ℕ
  targetPort : Option IntOrString := none
  deriving DecidableEq, Repr

structure Service where
  name : Key
  «namespace» : Key
  ports : List ServicePort
  deriving DecidableEq, Repr

structure EndpointPort where
  name : Key := []
  port : ℕ
  protocol : Protocol := .TCP
  deriving DecidableEq, Repr

/-- An `EndpointSubset`: the IPs of its addresses, and its ports. -/
structure EndpointSubset where
  addresses : List Key
  ports : List EndpointPort
  deriving DecidableEq, Repr

structure Endpoints where
  name : Key
  «namespace» : Key
  subsets : List EndpointSubset
  deriving DecidableEq, Repr

theorem decimal_ne_nil (n : ℕ) : decimal n ≠ [] := by
  unfold decimal Nat.toDigits
  simp only [Nat.toDigitsCore]
  split
  · exact List.cons_ne_nil _ _
  · intro h
    have hlen := Nat.toDigitsCore_lens_eq 10 n (n / 10) (Nat.digitChar (n % 10)) []
    rw [h] at hlen
    simp at hlen

/-! ### Python: `InternalEndpointsProcessor` and `ServiceProcessor.finalize` -/

/-- What `InternalEndpointsProcessor` stores for an Endpoints object: the IPs
of a subset, and its TCP ports by number and by name (`port_dict`). -/
structure PyEndpoints where
  addresses : List Key
  ports : Dict Key ℕ

/-- `port_dict` of a subset: each TCP port under its number, and under its
name if it has one. -/
def portDict (ports : List EndpointPort) : Dict Key ℕ :=
  ports.foldl (fun port_dict port =>
    if port.protocol ≠ .TCP then port_dict
    else
      let port_dict := port_dict.set (decimal port.port) port.port
      if port.name ≠ [] then port_dict.set port.name port.port else port_dict) ∅

/-- One pass of `_process`'s loop over the subsets: the record it stores, or
`none` for a `continue` (no address with an IP, or no TCP port). -/
def subsetRecord (subset : EndpointSubset) : Option PyEndpoints :=
  let addresses := subset.addresses.filter (· ≠ [])
  if addresses = [] then none
  else
    let port_dict := portDict subset.ports
    if port_dict.keys = [] then none else some ⟨addresses, port_dict⟩

/-- `InternalEndpointsProcessor._process`: each subset that passes is stored
under the object's key, over what was stored before. -/
def process (subsets : List EndpointSubset) : Option PyEndpoints :=
  subsets.foldl (fun found subset => (subsetRecord subset).or found) none

/-- Python's truth of a port key: `0` and `""` are false. -/
def IntOrString.truthy : IntOrString → Bool
  | .int n => n != 0
  | .str s => !s.isEmpty

/-- `str(port_key).isdigit()`. -/
def IntOrString.isdigit (k : IntOrString) : Bool :=
  !k.toKey.isEmpty && k.toKey.all Char.isDigit

/-- `port_key != "name"`: a number never equals the string. -/
def IntOrString.neName : IntOrString → Bool
  | .int _ => true
  | .str s => s != "name".toList

/-- The keys `finalize` looks a service port up by: `port.get(attr)` for
`targetPort`, `name` and `port`. -/
def ServicePort.portKeys (p : ServicePort) : List (Option IntOrString) :=
  [p.targetPort, some (.str p.name), some (.int p.port)]

/-- The loop over the keys of a service port: whether a key was set
(`found_key`), the first numeric key (`fallback`), and the endpoint port the
first key that names one maps to (`k8s_target`, at the `break`). -/
def scanKeys (ports : Dict Key ℕ) :
    List (Option IntOrString) → Bool → Option IntOrString → Bool × Option IntOrString × Option ℕ
  | [], found_key, fallback => (found_key, fallback, none)
  | port_key :: rest, found_key, fallback =>
    match port_key with
    | some k =>
      if k.truthy then
        let fallback := if fallback.isNone && k.neName && k.isdigit then some k else fallback
        match ports.get? k.toKey with
        | some t => if t != 0 then (true, fallback, some t) else scanKeys ports rest true fallback
        | none => scanKeys ports rest true fallback
      else scanKeys ports rest found_key fallback
    | none => scanKeys ports rest found_key fallback

/-- The target `finalize` records for one service port, given the record's
ports; `none` is a `continue`. -/
def targetPort (ports : Dict Key ℕ) (p : ServicePort) : Option IntOrString :=
  if p.port = 0 then none
  -- just one endpoint port: that one
  else if ports.keys.length = 1 then ports.values.head?.map .int
  else
    match scanKeys ports p.portKeys false none with
    | (false, _, _) => none
    | (true, _, some t) => some (.int t)
    | (true, fallback, none) => some (fallback.getD (.int p.port))

/-- `target_ports`: each service port the loop does not skip, with its target. -/
def targetPorts (ports : Dict Key ℕ) (svcPorts : List ServicePort) : Dict ℕ IntOrString :=
  svcPorts.foldl (fun target_ports p =>
    match targetPort ports p with
    | some t => target_ports.set p.port t
    | none => target_ports) ∅

/-- `target_addrs`: the record's addresses, or the service's own name when
there are none (service routing). -/
def targetAddrs (svc : Service) (k8s_ep : Option PyEndpoints) : List Key :=
  let target_addrs := match k8s_ep with
    | some ep => ep.addresses
    | none => []
  if target_addrs = [] then [svc.name ++ ".".toList ++ svc.namespace] else target_addrs

/-- `ServiceProcessor.finalize` for one Service and what was stored for its
Endpoints: the `endpoints` of the Ambassador Service it emits, by service
port. -/
def finalize (svc : Service) (k8s_ep : Option PyEndpoints) : Dict ℕ (List (Key × IntOrString)) :=
  let target_ports := match k8s_ep with
    | some ep => targetPorts ep.ports svc.ports
    | none => ∅
  target_ports.entries.foldl (fun svc_endpoints e =>
    svc_endpoints.set e.1 ((targetAddrs svc k8s_ep).map fun a => (a, e.2))) ∅

/-- The `endpoint_path` of `_k8s_clustermap_entry`. -/
def endpoint_path (ns svc : Key) (port : ℕ) : Key :=
  "k8s/".toList ++ ns ++ "/".toList ++ svc ++ (if port ≠ 0 then "/".toList ++ decimal port else [])

/-! ### Go: `makeEndpoints` -/

/-- `key`: `namespace:name`. -/
def key (ns name : Key) : Key := ns ++ ":".toList ++ name

/-- `p.TargetPort.String()`; an unset target port is the integer `0`. -/
def ServicePort.targetPortString (p : ServicePort) : Key := (p.targetPort.getD (.int 0)).toKey

/-- `portmap`: under each name an endpoint port may go by (a target port, a
service port's name, or `""` when the service has one port), the service
ports, as numbers and names, that it stands for. -/
def portmap (ports : List ServicePort) : Dict Key (List Key) :=
  ports.foldl (fun portmap p =>
    let port := decimal p.port
    let targetPort := if p.targetPortString = [] then decimal p.port else p.targetPortString
    let portmap := portmap.push targetPort port
    let portmap := if p.name ≠ [] then (portmap.push targetPort p.name).push p.name port else portmap
    if ports.length = 1 then ((portmap.push targetPort []).push [] port).push [] []
    else portmap) ∅

/-- `portNames`: the service ports found under an endpoint port's number, its
name, and `""`, as a set. -/
def portNames (portmap : Dict Key (List Key)) (port : EndpointPort) : Dict Key Unit :=
  [decimal port.port, port.name, []].foldl (fun portNames c =>
    match portmap.get? c with
    | some pns => pns.foldl (fun portNames pn => portNames.set pn ()) portNames
    | none => portNames) ∅

/-- An `ambex.Endpoint`. -/
structure Endpoint where
  clusterName : Key
  ip : Key
  port : ℕ
  deriving DecidableEq, Repr

/-- `fmt.Sprintf("k8s/%s/%s%s%s", namespace, name, sep, pn)`, with no `/`
before an empty port name. -/
def clusterName (ns name pn : Key) : Key :=
  ("k8s/".toList ++ ns ++ "/".toList ++ name) ++ ((if pn = [] then [] else "/".toList) ++ pn)

/-- `k8sEndpointsToAmbex`: every address of every subset, for every TCP or
UDP port, under every service port that port stands for. -/
def k8sEndpointsToAmbex (ep : Endpoints) (svc : Service) : List Endpoint :=
  ep.subsets.flatMap fun subset =>
    subset.ports.flatMap fun port =>
      if port.protocol = .TCP ∨ port.protocol = .UDP then
        subset.addresses.flatMap fun addr =>
          (portNames (portmap svc.ports) port).keys.map fun pn =>
            ⟨clusterName ep.namespace ep.name pn, addr, port.port⟩
      else []

/-- `k8sServices`: the services by `key`. -/
def k8sServices (services : List Service) : Dict Key Service :=
  services.foldl (fun m svc => m.set (key svc.namespace svc.name) svc) ∅

/-- `makeEndpoints` for the Kubernetes endpoints: each Endpoints object with a
Service of its key, its endpoints filed by cluster name. -/
def makeEndpoints (services : List Service) (endpoints : List Endpoints) : Dict Key (List Endpoint) :=
  endpoints.foldl (fun result k8sEp =>
    match (k8sServices services).get? (key k8sEp.namespace k8sEp.name) with
    | none => result
    | some svc => (k8sEndpointsToAmbex k8sEp svc).foldl (fun result ep => result.push ep.clusterName ep) result) ∅

/-! ### The two paths name the same cluster -/

theorem clusterName_eq_iff {ns name pn pn' : Key} (hpn' : pn' ≠ []) :
    clusterName ns name pn = clusterName ns name pn' ↔ pn = pn' := by
  constructor
  · intro h
    unfold clusterName at h
    have h' := List.append_cancel_left h
    rw [if_neg hpn'] at h'
    by_cases hpn : pn = []
    · rw [if_pos hpn, hpn] at h'
      simp at h'
    · rw [if_neg hpn] at h'
      exact List.append_cancel_left h'
  · rintro rfl
    rfl

/-! ### What Python keeps -/

/-- Python keeps the last subset that has an address and a TCP port. -/
theorem process_eq_getLast? (subsets : List EndpointSubset) :
    process subsets = (subsets.filterMap subsetRecord).getLast? := by
  unfold process
  rw [Python.foldl_or_eq_getLast?]
  cases (subsets.filterMap subsetRecord).getLast? <;> rfl

/-! ### What Go files -/

/-- `makeEndpoints` under a cluster name: the endpoints of every Endpoints
object with a Service, in order, that carry that name. -/
theorem makeEndpoints_getD (services : List Service) (endpoints : List Endpoints) (c : Key) :
    ((makeEndpoints services endpoints).get? c).getD [] =
      (endpoints.flatMap fun k8sEp =>
        match (k8sServices services).get? (key k8sEp.namespace k8sEp.name) with
        | some svc => k8sEndpointsToAmbex k8sEp svc
        | none => []).filter fun ep => ep.clusterName = c := by
  unfold makeEndpoints
  -- the loop over the Endpoints objects, from any `result`
  suffices h : ∀ (eps : List Endpoints) (result : Dict Key (List Endpoint)),
      ((eps.foldl (fun result k8sEp =>
        match (k8sServices services).get? (key k8sEp.namespace k8sEp.name) with
        | none => result
        | some svc => (k8sEndpointsToAmbex k8sEp svc).foldl
            (fun result ep => result.push ep.clusterName ep) result) result).get? c).getD [] =
        (result.get? c).getD [] ++ (eps.flatMap fun k8sEp =>
          match (k8sServices services).get? (key k8sEp.namespace k8sEp.name) with
          | some svc => k8sEndpointsToAmbex k8sEp svc
          | none => []).filter fun ep => ep.clusterName = c by
    simpa using h endpoints ∅
  intro eps
  induction eps with
  | nil => simp
  | cons k8sEp eps ih =>
    intro result
    rw [List.foldl_cons, ih, List.flatMap_cons, List.filter_append, ← List.append_assoc]
    congr 1
    cases (k8sServices services).get? (key k8sEp.namespace k8sEp.name) with
    | none => simp
    | some svc => exact Dict.foldl_push_getD _ c _ result

theorem mem_portNames {pm : Dict Key (List Key)} {port : EndpointPort} {pn : Key} :
    pn ∈ portNames pm port ↔ ∃ c ∈ [decimal port.port, port.name, []], ∃ pns,
      pm.get? c = some pns ∧ pn ∈ pns := by
  unfold portNames
  -- the set after some candidates holds what it held, and their service ports
  suffices h : ∀ (cs : List Key) (acc : Dict Key Unit),
      pn ∈ cs.foldl (fun portNames c =>
        match pm.get? c with
        | some pns => pns.foldl (fun portNames pn => portNames.set pn ()) portNames
        | none => portNames) acc ↔ pn ∈ acc ∨ ∃ c ∈ cs, ∃ pns, pm.get? c = some pns ∧ pn ∈ pns by
    rw [h]
    simp only [Dict.not_mem_empty, false_or]
  have hset : ∀ (pns : List Key) (acc : Dict Key Unit),
      pn ∈ pns.foldl (fun portNames pn => portNames.set pn ()) acc ↔ pn ∈ acc ∨ pn ∈ pns := by
    intro pns
    induction pns with
    | nil => simp
    | cons x xs ih =>
      intro acc
      rw [List.foldl_cons, ih, Dict.mem_set, List.mem_cons]
      tauto
  intro cs
  induction cs with
  | nil => simp
  | cons c cs ih =>
    intro acc
    rw [List.foldl_cons, ih]
    cases hc : pm.get? c with
    | none =>
      simp only [List.mem_cons, exists_eq_or_imp, hc, reduceCtorEq, false_and, exists_false,
        false_or]
    | some pns =>
      simp only [hset, List.mem_cons, exists_eq_or_imp, hc, Option.some.injEq, exists_eq_left']
      tauto

/-- A Service with one port: every endpoint port stands for it, under `""`. -/
theorem portmap_single_get?_nil (P : ServicePort) :
    (portmap [P]).get? [] = some [decimal P.port, []] := by
  have htarget : (if P.targetPortString = [] then decimal P.port else P.targetPortString) ≠ [] := by
    split
    · exact decimal_ne_nil _
    · assumption
  unfold portmap
  simp only [List.foldl_cons, List.foldl_nil, List.length_singleton, if_true]
  by_cases hname : P.name ≠ []
  · simp [hname, Dict.get?_push, htarget]
  · simp [hname, Dict.get?_push, htarget]

/-- Under its own cluster name, an endpoint port of a one-port Service files
each address once. -/
theorem filter_portNames_of_single_port {P : ServicePort} {port : EndpointPort} (ns name a : Key) :
    ((portNames (portmap [P]) port).keys.map fun pn => (⟨clusterName ns name pn, a, port.port⟩ : Endpoint)).filter
        (fun ep => ep.clusterName = clusterName ns name (decimal P.port)) =
      [⟨clusterName ns name (decimal P.port), a, port.port⟩] := by
  have hmem : decimal P.port ∈ (portNames (portmap [P]) port).keys :=
    Dict.mem_def.mp (mem_portNames.mpr ⟨[], by simp, _, portmap_single_get?_nil P, List.mem_cons_self⟩)
  rw [List.filter_map]
  have hfilter : (portNames (portmap [P]) port).keys.filter
      ((fun ep : Endpoint => decide (ep.clusterName = clusterName ns name (decimal P.port))) ∘
        fun pn => ⟨clusterName ns name pn, a, port.port⟩) = [decimal P.port] := by
    have hcongr : ((fun ep : Endpoint => decide (ep.clusterName = clusterName ns name (decimal P.port))) ∘
        fun pn => (⟨clusterName ns name pn, a, port.port⟩ : Endpoint)) =
          fun pn => decide (pn = decimal P.port) := by
      funext pn
      simp [clusterName_eq_iff (decimal_ne_nil P.port)]
    rw [hcongr, List.filter_eq, List.count_eq_one_of_mem (Dict.keys_nodup _) hmem]
    rfl
  rw [hfilter]
  rfl

/-- Go files every address of every subset, for each TCP or UDP port, under
the one port of a one-port Service. -/
theorem filter_k8sEndpointsToAmbex_of_single_port {ep : Endpoints} {svc : Service} {P : ServicePort}
    (hsvc : svc.ports = [P]) :
    (k8sEndpointsToAmbex ep svc).filter
        (fun e => e.clusterName = clusterName ep.namespace ep.name (decimal P.port)) =
      ep.subsets.flatMap fun subset => subset.ports.flatMap fun port =>
        if port.protocol = .TCP ∨ port.protocol = .UDP then
          subset.addresses.map fun a => ⟨clusterName ep.namespace ep.name (decimal P.port), a, port.port⟩
        else [] := by
  unfold k8sEndpointsToAmbex
  rw [hsvc, List.filter_flatMap]
  congr 1
  funext subset
  rw [List.filter_flatMap]
  congr 1
  funext port
  split
  · rw [List.filter_flatMap, List.map_eq_flatMap]
    exact List.flatMap_congr fun a _ => filter_portNames_of_single_port ep.namespace ep.name a
  · rfl

/-! ### Two subsets -/

/-- A one-port Service `s` whose target port is the name `http`. -/
def rolloutService : Service :=
  { name := "s".toList, «namespace» := "default".toList,
    ports := [{ port := 80, targetPort := some (.str "http".toList) }] }

/-- Its Endpoints while a rollout moves `http` from 8080 to 9090: the old
pod's address in one subset, the new pod's in another. -/
def rolloutEndpoints : Endpoints :=
  { name := "s".toList, «namespace» := "default".toList,
    subsets := [{ addresses := ["10.0.0.1".toList], ports := [{ port := 8080 }] },
                { addresses := ["10.0.0.2".toList], ports := [{ port := 9090 }] }] }

theorem endpoints_drop_subset :
    (finalize rolloutService (process rolloutEndpoints.subsets)).get? 80 =
        some [("10.0.0.2".toList, .int 9090)] ∧
      ((makeEndpoints [rolloutService] [rolloutEndpoints]).get? "k8s/default/s/80".toList).getD [] =
        [⟨"k8s/default/s/80".toList, "10.0.0.1".toList, 8080⟩,
         ⟨"k8s/default/s/80".toList, "10.0.0.2".toList, 9090⟩] := by
  decide

end EndpointRouting

end Emissary

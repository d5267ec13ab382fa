/-
# The filter chains of an Envoy listener

`V3Listener.finalize` (v3listener.py) turns one `IRListener` into the
filter chains of an Envoy listener. It first collects chains (`V3Chain`)
under string keys: a TCPMapping bound to the listener's address and port
goes to `cleartext` when it has no `host` and to `tls-<host>` otherwise (the
TLS context then comes from a Host or a TLSContext for that name); a Host the
listener takes goes to `tls-<sni>` for its secure side and to
`cleartext-<hostname>` for its insecure side. TCPMappings come first and win
a chain over a Host. Then every chain holding a TCPMapping becomes a filter
chain of its own (`finalize_tcp`), and, on an HTTP listener, every
cleartext chain holding a Host collapses into one shared filter chain with an
empty match while every TLS chain holding a Host becomes its own
(`finalize_http`). A match asks for TLS when the chain has a context, and
names the chain's SNI names unless `*` is one.

Envoy rejects a listener with two filter chains of the same match. The
chains of one key collapse into one, and a chain key `tls-<s>` has the single
server name `s`, so the TLS filter chains all differ, and differ from the
cleartext ones. The cleartext TCP chain and the shared cleartext HTTP chain
both have the empty match: a TCPMapping without `host` on the port of an HTTP
listener that takes a Host for cleartext gives a listener Envoy rejects. The
proofs are in `Emissary.ListenerChains`; this module has the model and what
each step can do (`compute_tcpchain_cases`, `compute_httpchain_cases`,
`V3Chain.add_httphost_cases`, `http_filter_chain_step_cases`).

Only what decides the filter chains and their matches is modelled: routes,
virtual hosts, the TLS transport sockets and the HTTP connection manager's
settings are not. A Python set of server names is a list without repeats,
compared as a set.

Key definitions: `V3Chain.add_tcphost`, `V3Chain.add_httphost`, `chain_key`,
`V3Listener.finalize_tcp`, `V3Listener.finalize_http`, `V3Listener.finalize`.
Key theorems: `V3Listener.compute_tcpchain_cases`, `V3Listener.compute_httpchain_cases`,
`V3Chain.add_httphost_cases`, `http_filter_chain_step_cases`.
-/
import Emissary.HostGlob
import Emissary.GroupId
import Emissary.Lib.Split

namespace Emissary
namespace Listener

/-! ### Hosts, TCPMappings and Listeners -/

/-- An `IRTLSContext`: its name and namespace, which chains compare, and its
`hosts`. -/
structure IRTLSContext where
  name : Key
  «namespace» : Key
  hosts : List Key := []
  deriving DecidableEq, Repr

/-- The members of an `IRHost` the listener reads, as `IRHost.setup` leaves
them: a Host without a hostname has `*`. -/
structure IRHost where
  name : Key
  «namespace» : Key
  hostname : Key
  hostname_ne_nil : hostname ≠ []
  metadata_labels : Dict Key Key := ∅
  context : Option IRTLSContext := none
  secure_action : Key := "Route".toList
  insecure_action : Key := "Redirect".toList
  insecure_addl_port : Option ℕ := none

/-- `self.sni = self.hostname.rsplit(":", 1)[0]`. -/
def IRHost.sni (host : IRHost) : Key :=
  match Split.rsplit1 ':' host.hostname with
  | some (name, _) => name
  | none => host.hostname

/-- The members of an `IRTCPMappingGroup` the listener reads. -/
structure IRTCPMappingGroup where
  name : Key
  host : Option Key := none
  address : Key := []
  port : ℕ
  deriving DecidableEq, Repr

/-- `IRTCPMappingGroup.bind_to`. -/
def IRTCPMappingGroup.bind_to (envoy_bind_address : Key) (g : IRTCPMappingGroup) : Key :=
  "tcp-".toList ++ (if g.address.isEmpty then envoy_bind_address else g.address) ++
    '-' :: Nat.toDigits 10 g.port

inductive SocketProtocol where
  | TCP
  | UDP
  deriving DecidableEq, Repr

inductive SecurityModel where
  | XFP
  | SECURE
  | INSECURE
  deriving DecidableEq, Repr

inductive ProtocolStackElement where
  | HTTP
  | PROXY
  | TLS
  | TCP
  | UDP
  deriving DecidableEq, Repr

/-- The members of an `IRListener` the listener reads, as `IRListener.setup`
leaves them. -/
structure IRListener where
  name : Key
  bind_address : Key
  port : ℕ
  protocolStack : List ProtocolStackElement
  socket_protocol : SocketProtocol
  securityModel : SecurityModel
  insecure_only : Bool := false
  http3_enabled : Bool := false
  namespace_literal : Key
  /-- The `matchLabels` of `hostBinding.selector`. -/
  host_selector : Dict Key Key := ∅

def SocketProtocol.lower : SocketProtocol → Key
  | .TCP => "tcp".toList
  | .UDP => "udp".toList

/-- `IRListener.bind_to`, which deliberately matches `IRTCPMappingGroup.bind_to`. -/
def IRListener.bind_to (l : IRListener) : Key :=
  l.socket_protocol.lower ++ '-' :: l.bind_address ++ '-' :: Nat.toDigits 10 l.port

/-- `IRListener.matches_host`: the Host's namespace, and its labels. -/
def IRListener.matches_host (disable_strict : Bool) (l : IRListener) (host : IRHost) : Bool :=
  (decide (l.namespace_literal = "*".toList) || decide (l.namespace_literal = host.«namespace»)) &&
    GroupId.selector_matches disable_strict l.host_selector host.metadata_labels

/-- The listener terminates TLS: `TLS` is in its protocol stack. -/
def IRListener.tls_ok (l : IRListener) : Bool := decide (.TLS ∈ l.protocolStack)

/-- The listener is an HTTP/3 one: UDP with HTTP on top. -/
def IRListener.quic (l : IRListener) : Bool :=
  decide (l.socket_protocol = .UDP) && l.http3_enabled

/-- What the listener reads from the rest of the IR: its Hosts, TLSContexts
and TCPMapping groups (in `ordered_groups` order), the default bind address,
and whether selectors are strict. -/
structure ListenerEnv where
  hosts : List IRHost
  tls_contexts : List IRTLSContext
  groups : List IRTCPMappingGroup
  envoy_bind_address : Key := "0.0.0.0".toList
  disable_strict : Bool := false

/-- `sorted(hosts, key=lambda h: h.hostname)`, which is stable. -/
def sorted_hosts (hosts : List IRHost) : List IRHost :=
  hosts.insertionSort fun a b => a.hostname ≤ b.hostname

/-- `tlscontext_for_tcpmapping`: the context of the first Host (by
hostname) whose hostname glob matches the TCPMapping's host, else the first
TLSContext that lists that host. -/
def tlscontext_for_tcpmapping (hosts : List IRHost) (tls_contexts : List IRTLSContext)
    (group_host : Key) : Option IRTLSContext :=
  -- `hostglob_matches` raises only on an empty glob, and neither is empty here
  match (sorted_hosts hosts).find? (fun h =>
      h.context.isSome && (HostGlob.hostglob_matches h.hostname group_host).getD false) with
  | some irhost => irhost.context
  | none => tls_contexts.find? fun c => decide (group_host ∈ c.hosts)

/-! ### Chains -/

inductive ChainType where
  | tcp
  | http
  | https
  deriving DecidableEq, Repr

/-- What a chain holds under a hostname: a TCPMapping group or a Host. -/
inductive ChainHost where
  | tcp (g : IRTCPMappingGroup)
  | http (h : IRHost)

def ChainHost.name : ChainHost → Key
  | .tcp g => g.name
  | .http h => h.name

def ChainHost.isTCP : ChainHost → Bool
  | .tcp _ => true
  | .http _ => false

/-- `V3Chain`: its context, what it holds, and its set of SNI names. -/
structure V3Chain where
  context : Option IRTLSContext
  hosts : Dict Key ChainHost
  server_names : List Key

def V3Chain.new (context : Option IRTLSContext) : V3Chain := ⟨context, ∅, []⟩

/-- `V3Chain.add_tcphost`: a chain takes one TCPMapping, and only when it
holds nothing yet. The chain after, and the error posted. -/
def V3Chain.add_tcphost (chain : V3Chain) (tcpmapping : IRTCPMappingGroup) : V3Chain × List Key :=
  match chain.hosts.values with
  | other :: _ =>
    (chain, ["TCPMapping ".toList ++ tcpmapping.name ++
      ": discarding because it conflicts with ".toList ++
      (if other.isTCP then "TCPMapping".toList else "Host".toList) ++ ' ' :: other.name])
  | [] =>
    let hostname := tcpmapping.host.getD "*".toList
    ({ chain with
        server_names := if chain.context.isSome then chain.server_names.insert hostname
          else chain.server_names,
        hosts := chain.hosts.set hostname (.tcp tcpmapping) }, [])

/-- The error `add_httphost` posts on a Host it discards. -/
def V3Chain.discard_error (chain : V3Chain) (host : IRHost) (why : Key) : Key :=
  (if chain.context.isSome then "TLS Host".toList else "Cleartext Host".toList) ++
    ' ' :: host.name ++ ": discarding because ".toList ++ why

/-- `V3Chain.add_httphost`: a chain held by a TCPMapping turns a Host away,
and a TLS chain turns away a Host without its context. -/
def V3Chain.add_httphost (chain : V3Chain) (host : IRHost) : V3Chain × List Key :=
  match chain.hosts.values.find? ChainHost.isTCP with
  | some other =>
    (chain, [chain.discard_error host ("it conflicts with TCPMapping ".toList ++ other.name)])
  | none =>
    match chain.context with
    | none => ({ chain with hosts := chain.hosts.set host.hostname (.http host) }, [])
    | some context =>
      match host.context with
      | none => (chain, [chain.discard_error host "host is missing TLSContext".toList])
      | some host_context =>
        if context.name ≠ host_context.name ∨ context.«namespace» ≠ host_context.«namespace» then
          (chain, [chain.discard_error host
            ("mismatching TLSContext between Hosts matching on dns hostname=".toList ++ host.sni)])
        else
          ({ chain with
              server_names := chain.server_names.insert host.sni,
              hosts := chain.hosts.set host.hostname (.http host) }, [])

/-- A chain that holds something turns a TCPMapping away. -/
theorem V3Chain.add_tcphost_of_values_cons {chain : V3Chain} {other : ChainHost}
    {rest : List ChainHost} (h : chain.hosts.values = other :: rest) (tcpmapping : IRTCPMappingGroup) :
    (chain.add_tcphost tcpmapping).1 = chain := by
  simp only [V3Chain.add_tcphost, h]

/-- An empty chain takes the TCPMapping and nothing else. -/
theorem V3Chain.values_add_tcphost_of_nil {chain : V3Chain} (h : chain.hosts.values = [])
    (tcpmapping : IRTCPMappingGroup) :
    (chain.add_tcphost tcpmapping).1.hosts.values = [.tcp tcpmapping] := by
  simp only [V3Chain.add_tcphost, h]
  exact Dict.values_set_of_values_eq_nil h _ _

/-- What `add_httphost` can do: turn the Host away, or, when no TCPMapping
holds the chain, take it into a chain without a context, or into a chain
with a context, adding its SNI name. -/
theorem V3Chain.add_httphost_cases (chain : V3Chain) (host : IRHost) :
    (chain.add_httphost host).1 = chain ∨
    ((∀ h ∈ chain.hosts.values, h.isTCP = false) ∧ chain.context = none ∧
      (chain.add_httphost host).1 = { chain with hosts := chain.hosts.set host.hostname (.http host) }) ∨
    ((∀ h ∈ chain.hosts.values, h.isTCP = false) ∧ chain.context.isSome ∧
      (chain.add_httphost host).1 =
        { chain with server_names := chain.server_names.insert host.sni,
                     hosts := chain.hosts.set host.hostname (.http host) }) := by
  unfold V3Chain.add_httphost
  split
  · exact .inl rfl
  · rename_i hfind
    have hnotcp : ∀ h ∈ chain.hosts.values, h.isTCP = false := by
      intro h hh
      simpa using List.find?_eq_none.mp hfind h hh
    split
    · rename_i hctx
      exact .inr (.inl ⟨hnotcp, hctx, rfl⟩)
    · rename_i context hctx
      split
      · exact .inl rfl
      · split
        · exact .inl rfl
        · exact .inr (.inr ⟨hnotcp, by simp [hctx], rfl⟩)

@[simp] theorem V3Chain.add_httphost_context (chain : V3Chain) (host : IRHost) :
    (chain.add_httphost host).1.context = chain.context := by
  rcases chain.add_httphost_cases host with heq | ⟨-, -, heq⟩ | ⟨-, -, heq⟩ <;> rw [heq]

/-- A Host is taken into the chain, or the chain is left as it was. -/
theorem V3Chain.add_httphost_eq_or_mem (chain : V3Chain) (host : IRHost) :
    (chain.add_httphost host).1 = chain ∨ ChainHost.http host ∈ (chain.add_httphost host).1.hosts.values := by
  have hmem : ChainHost.http host ∈ (chain.hosts.set host.hostname (.http host)).values :=
    Dict.mem_values.mpr ⟨_, Dict.get?_set_self _ _ _⟩
  rcases chain.add_httphost_cases host with heq | ⟨-, -, heq⟩ | ⟨-, -, heq⟩
  · exact .inl heq
  · rw [heq]
    exact .inr hmem
  · rw [heq]
    exact .inr hmem

/-- A cleartext chain that no TCPMapping holds takes every Host. -/
theorem V3Chain.mem_add_httphost_of_cleartext {chain : V3Chain}
    (hfind : chain.hosts.values.find? ChainHost.isTCP = none) (hctx : chain.context = none)
    (host : IRHost) : ChainHost.http host ∈ (chain.add_httphost host).1.hosts.values := by
  simp only [V3Chain.add_httphost, hfind, hctx]
  exact Dict.mem_values.mpr ⟨_, Dict.get?_set_self _ _ _⟩

/-- The key `add_chain` files a chain under: by SNI with a context, else
`cleartext`; an HTTP chain also by hostname. -/
def chain_key (chain_type : ChainType) (context : Option IRTLSContext) (hostname sni : Key) : Key :=
  let hostname := if hostname.isEmpty then "*".toList else hostname
  let key := if context.isSome then "tls-".toList ++ sni else "cleartext".toList
  if chain_type = .http then key ++ '-' :: hostname else key

/-! ### Filter chains -/

structure FilterChainMatch where
  server_names : List Key := []
  transport_protocol : Option Key := none
  deriving DecidableEq, Repr

structure FilterChain where
  name : Key
  filter_chain_match : FilterChainMatch
  deriving DecidableEq, Repr

/-- Two matches Envoy cannot tell apart: the same transport and the same set
of server names. -/
def FilterChainMatch.Same (a b : FilterChainMatch) : Prop :=
  a.transport_protocol = b.transport_protocol ∧ ∀ n, n ∈ a.server_names ↔ n ∈ b.server_names

/-- The server names a match asks for: none when there are none or when `*`
is one, since Envoy does not allow `*`. -/
def server_names_match (server_names : List Key) : List Key :=
  if server_names ≠ [] ∧ "*".toList ∉ server_names then server_names else []

/-- The filter chain `finalize_tcp` makes for a TCPMapping of a chain. -/
def tcp_filter_chain (chain : V3Chain) (irgroup : IRTCPMappingGroup) : FilterChain :=
  ⟨"tcphost-".toList ++ irgroup.name,
    { server_names := server_names_match chain.server_names,
      transport_protocol := if chain.context.isSome then some "tls".toList else none }⟩

def V3Chain.tcp_filter_chains (chain : V3Chain) : List FilterChain :=
  chain.hosts.values.filterMap fun
    | .tcp g => some (tcp_filter_chain chain g)
    | .http _ => none

/-- The chain holds a Host. -/
def V3Chain.has_host (chain : V3Chain) : Bool :=
  chain.hosts.values.any fun h => !h.isTCP

theorem V3Chain.tcp_filter_chains_of_held {chain : V3Chain} {g : IRTCPMappingGroup}
    (h : chain.hosts.values = [.tcp g]) : chain.tcp_filter_chains = [tcp_filter_chain chain g] := by
  simp [V3Chain.tcp_filter_chains, h]

theorem V3Chain.has_host_of_mem {chain : V3Chain} {host : IRHost}
    (h : ChainHost.http host ∈ chain.hosts.values) : chain.has_host :=
  List.any_eq_true.mpr ⟨_, h, rfl⟩

theorem V3Chain.has_host_add_httphost {chain : V3Chain} (h : chain.has_host) (host : IRHost) :
    (chain.add_httphost host).1.has_host := by
  rcases chain.add_httphost_eq_or_mem host with heq | hmem
  · rw [heq]
    exact h
  · exact has_host_of_mem hmem

/-- One pass of the loop of `finalize_http` over the chains: cleartext
chains share the filter chain `http`, a TLS chain gets its own. -/
def http_filter_chain_step (listener : IRListener) (filter_chains : Dict Key FilterChain)
    (entry : Key × V3Chain) : Dict Key FilterChain :=
  if !entry.2.has_host then filter_chains
  else
    match entry.2.context with
    | none =>
      -- HTTP/3 has TLS built in: no cleartext chain
      if listener.quic then filter_chains
      else if "http".toList ∈ filter_chains then filter_chains
      else filter_chains.set "http".toList ⟨"httphost-shared".toList, {}⟩
    | some _ =>
      filter_chains.set entry.1
        ⟨"httpshost-".toList ++ (entry.2.hosts.values.head?.map ChainHost.name).getD [],
          { server_names := server_names_match entry.2.server_names,
            transport_protocol := some (if listener.quic then "quic".toList else "tls".toList) }⟩

/-- What a pass of `finalize_http`'s loop can do: leave the filter chains,
file the shared `http` one for a cleartext chain holding a Host, or file a
TLS chain's own under its key. -/
theorem http_filter_chain_step_cases (listener : IRListener) (filter_chains : Dict Key FilterChain)
    (entry : Key × V3Chain) :
    http_filter_chain_step listener filter_chains entry = filter_chains ∨
    (entry.2.has_host ∧ entry.2.context = none ∧ listener.quic = false ∧
      http_filter_chain_step listener filter_chains entry =
        filter_chains.set "http".toList ⟨"httphost-shared".toList, {}⟩) ∨
    (entry.2.has_host ∧ entry.2.context.isSome ∧ http_filter_chain_step listener filter_chains entry =
      filter_chains.set entry.1
        ⟨"httpshost-".toList ++ (entry.2.hosts.values.head?.map ChainHost.name).getD [],
          { server_names := server_names_match entry.2.server_names,
            transport_protocol := some (if listener.quic then "quic".toList else "tls".toList) }⟩) := by
  unfold http_filter_chain_step
  split
  · exact .inl rfl
  · rename_i hhost
    split
    · rename_i hctx
      split
      · exact .inl rfl
      · rename_i hquic
        split
        · exact .inl rfl
        · exact .inr (.inl ⟨by simpa using hhost, hctx, by simpa using hquic, rfl⟩)
    · rename_i context hctx
      exact .inr (.inr ⟨by simpa using hhost, by simp [hctx], rfl⟩)

/-! ### The listener -/

/-- A `V3Listener` as `finalize` builds it: its chains, the errors posted
on TCPMappings and Hosts, and its filter chains. -/
structure V3Listener where
  chains : Dict Key V3Chain
  errors : List Key
  filter_chains : List FilterChain

def V3Listener.empty : V3Listener := ⟨∅, [], []⟩

/-- `add_chain`: the chain under the key, or a new one. -/
def V3Listener.add_chain (l : V3Listener) (chain_type : ChainType) (context : Option IRTLSContext)
    (hostname sni : Key) : Key × V3Chain :=
  let k := chain_key chain_type context hostname sni
  (k, (l.chains.get? k).getD (V3Chain.new context))

/-- `add_chain(...).add_tcphost(irgroup)`. -/
def V3Listener.add_tcp (l : V3Listener) (context : Option IRTLSContext) (hostname sni : Key)
    (irgroup : IRTCPMappingGroup) : V3Listener :=
  let c := l.add_chain .tcp context hostname sni
  let r := c.2.add_tcphost irgroup
  { l with chains := l.chains.set c.1 r.1, errors := l.errors ++ r.2 }

/-- `add_chain(...).add_httphost(host)`. -/
def V3Listener.add_http (l : V3Listener) (chain_type : ChainType) (context : Option IRTLSContext)
    (host : IRHost) : V3Listener :=
  let c := l.add_chain chain_type context host.hostname host.sni
  let r := c.2.add_httphost host
  { l with chains := l.chains.set c.1 r.1, errors := l.errors ++ r.2 }

/-- One pass of the loop of `compute_tcpchains`. -/
def V3Listener.compute_tcpchain (env : ListenerEnv) (listener : IRListener) (l : V3Listener)
    (irgroup : IRTCPMappingGroup) : V3Listener :=
  if irgroup.bind_to env.envoy_bind_address ≠ listener.bind_to then l
  else
    match irgroup.host.filter fun h => !h.isEmpty with
    | none => l.add_tcp none "*".toList "*".toList irgroup
    | some group_host =>
      match tlscontext_for_tcpmapping env.hosts env.tls_contexts group_host with
      | none => { l with errors := l.errors ++ ["No matching TLSContext found, disabling!".toList] }
      | some context => l.add_tcp (some context) group_host group_host irgroup

/-- What a pass of `compute_tcpchains` can do: leave the chains (a TCPMapping
bound elsewhere, or one whose host has no context), add a TCPMapping without
host with no context, or add one with a host with a context. -/
theorem V3Listener.compute_tcpchain_cases (env : ListenerEnv) (listener : IRListener) (l : V3Listener)
    (irgroup : IRTCPMappingGroup) :
    (l.compute_tcpchain env listener irgroup).chains = l.chains ∨
    (irgroup.bind_to env.envoy_bind_address = listener.bind_to ∧
      (irgroup.host.filter fun h => !h.isEmpty) = none ∧
      l.compute_tcpchain env listener irgroup = l.add_tcp none "*".toList "*".toList irgroup) ∨
    (∃ group_host context, irgroup.bind_to env.envoy_bind_address = listener.bind_to ∧
      (irgroup.host.filter fun h => !h.isEmpty) = some group_host ∧
      l.compute_tcpchain env listener irgroup = l.add_tcp (some context) group_host group_host irgroup) := by
  unfold V3Listener.compute_tcpchain
  split
  · exact .inl rfl
  · rename_i hbind
    have hbind : irgroup.bind_to env.envoy_bind_address = listener.bind_to := not_not.mp hbind
    split
    · rename_i hfilter
      exact .inr (.inl ⟨hbind, hfilter, rfl⟩)
    · rename_i group_host hfilter
      split
      · exact .inl rfl
      · rename_i context _
        exact .inr (.inr ⟨group_host, context, hbind, hfilter, rfl⟩)

@[simp] theorem V3Listener.compute_tcpchain_filter_chains (env : ListenerEnv) (listener : IRListener)
    (l : V3Listener) (irgroup : IRTCPMappingGroup) :
    (l.compute_tcpchain env listener irgroup).filter_chains = l.filter_chains := by
  unfold V3Listener.compute_tcpchain
  split
  · rfl
  · split
    · rfl
    · split <;> rfl

/-- The secure side of a pass of `compute_httpchains`: an HTTPS chain for a
Host with a context on a TLS listener, unless the listener is secure-only and
the Host rejects secure requests. -/
def V3Listener.add_secure (l : V3Listener) (listener : IRListener) (host : IRHost) : V3Listener :=
  let host_will_reject_secure :=
    host.secure_action.isEmpty || decide (host.secure_action = "Reject".toList)
  if listener.tls_ok && host.context.isSome &&
      !(decide (listener.securityModel = .SECURE) && host_will_reject_secure)
  then l.add_http .https host.context host else l

/-- The insecure side: an HTTP chain, unless the listener is insecure-only
and the Host rejects insecure requests. -/
def V3Listener.add_insecure (l : V3Listener) (listener : IRListener) (host : IRHost) : V3Listener :=
  if !(decide (listener.securityModel = .INSECURE) && decide (host.insecure_action = "Reject".toList))
  then l.add_http .http none host else l

/-- One pass of the loop of `compute_httpchains`: a Host the listener takes,
unless the listener was made for another Host's insecure port. -/
def V3Listener.compute_httpchain (env : ListenerEnv) (listener : IRListener) (l : V3Listener)
    (host : IRHost) : V3Listener :=
  if !listener.matches_host env.disable_strict host then l
  else if listener.insecure_only && decide (some listener.port ≠ host.insecure_addl_port) then l
  else (l.add_secure listener host).add_insecure listener host

theorem V3Listener.add_secure_cases (l : V3Listener) (listener : IRListener) (host : IRHost) :
    l.add_secure listener host = l ∨
      (host.context.isSome ∧ l.add_secure listener host = l.add_http .https host.context host) := by
  unfold V3Listener.add_secure
  dsimp only
  split
  · rename_i hsec
    simp only [Bool.and_eq_true] at hsec
    exact .inr ⟨hsec.1.2, rfl⟩
  · exact .inl rfl

theorem V3Listener.add_insecure_cases (l : V3Listener) (listener : IRListener) (host : IRHost) :
    l.add_insecure listener host = l ∨ l.add_insecure listener host = l.add_http .http none host := by
  unfold V3Listener.add_insecure
  split
  · exact .inr rfl
  · exact .inl rfl

/-- A Host that does not reject insecure requests gets its insecure side. -/
theorem V3Listener.add_insecure_of_accepts (l : V3Listener) (listener : IRListener) {host : IRHost}
    (h : host.insecure_action ≠ "Reject".toList) :
    l.add_insecure listener host = l.add_http .http none host := by
  unfold V3Listener.add_insecure
  rw [if_pos (by simp only [decide_eq_false h, Bool.and_false, Bool.not_false])]

theorem V3Listener.compute_httpchain_cases (env : ListenerEnv) (listener : IRListener) (l : V3Listener)
    (host : IRHost) :
    l.compute_httpchain env listener host = l ∨
      l.compute_httpchain env listener host = (l.add_secure listener host).add_insecure listener host := by
  unfold V3Listener.compute_httpchain
  split
  · exact .inl rfl
  · split
    · exact .inl rfl
    · exact .inr rfl

/-- A listener that is not insecure-only takes every Host it matches. -/
theorem V3Listener.compute_httpchain_of_matches {env : ListenerEnv} {listener : IRListener} (l : V3Listener)
    {host : IRHost} (hmatch : listener.matches_host env.disable_strict host = true)
    (honly : listener.insecure_only = false) :
    l.compute_httpchain env listener host = (l.add_secure listener host).add_insecure listener host := by
  simp [V3Listener.compute_httpchain, hmatch, honly]

@[simp] theorem V3Listener.compute_httpchain_filter_chains (env : ListenerEnv) (listener : IRListener)
    (l : V3Listener) (host : IRHost) :
    (l.compute_httpchain env listener host).filter_chains = l.filter_chains := by
  have hsecure : (l.add_secure listener host).filter_chains = l.filter_chains := by
    rcases l.add_secure_cases listener host with h | ⟨-, h⟩ <;> rw [h]
    rfl
  rcases l.compute_httpchain_cases env listener host with h | h <;> rw [h]
  rcases (l.add_secure listener host).add_insecure_cases listener host with h' | h' <;> rw [h']
  · exact hsecure
  · exact hsecure

/-- `finalize_tcp`: a filter chain for every TCPMapping of every chain. -/
def V3Listener.finalize_tcp (l : V3Listener) : V3Listener :=
  { l with filter_chains := l.filter_chains ++ l.chains.values.flatMap V3Chain.tcp_filter_chains }

/-- `finalize_http`. -/
def V3Listener.finalize_http (listener : IRListener) (l : V3Listener) : V3Listener :=
  { l with filter_chains := l.filter_chains ++
      (l.chains.entries.foldl (http_filter_chain_step listener) ∅).values }

/-- `V3Listener.finalize`: TCP chains first, so that TCPMappings win over
Hosts; then, on an HTTP listener, the HTTP chains. -/
def V3Listener.finalize (env : ListenerEnv) (listener : IRListener) : V3Listener :=
  let l := (env.groups.foldl (V3Listener.compute_tcpchain env listener) V3Listener.empty).finalize_tcp
  if .HTTP ∈ listener.protocolStack then
    ((sorted_hosts env.hosts).foldl (V3Listener.compute_httpchain env listener) l).finalize_http listener
  else l

/-- `V3Listener.generate`: the listeners with at least one filter chain. -/
def V3Listener.generate (env : ListenerEnv) (listeners : List IRListener) : List V3Listener :=
  (listeners.map (V3Listener.finalize env)).filter fun l => !l.filter_chains.isEmpty

/-! ### A TCPMapping without host on an HTTP listener -/

/-- A cleartext HTTP listener on port 8080. -/
def httpListener : IRListener :=
  { name := "http-listener".toList, bind_address := "0.0.0.0".toList, port := 8080,
    protocolStack := [.HTTP, .TCP], socket_protocol := .TCP, securityModel := .XFP,
    namespace_literal := "*".toList }

/-- A Host `example.com` without TLS, and a TCPMapping without `host` on port 8080. -/
def cleartextEnv : ListenerEnv :=
  { hosts := [{ name := "example".toList, «namespace» := "default".toList,
                hostname := "example.com".toList, hostname_ne_nil := by decide }],
    tls_contexts := [],
    groups := [{ name := "forward".toList, port := 8080 }] }

example :
    ((V3Listener.finalize cleartextEnv httpListener).filter_chains.map
        FilterChain.filter_chain_match) = [{}, {}] := by
  decide

end Listener
end Emissary

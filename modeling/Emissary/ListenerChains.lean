/-
# Which filter chains of a listener Envoy can tell apart

Every chain of a `V3Listener` keeps to its key along `finalize`
(`ChainOK`): under `tls-<s>` is a TLS chain whose SNI names are all `s`, and
`s` once it holds anything; under any other key a cleartext chain without
SNI names. A chain holds a single TCPMapping and nothing else, and is then a
TLS chain or the chain `cleartext`; or it holds no TCPMapping, and then no
Host ever takes it from a TCPMapping (`add_http_get?_of_tcp`). Adding a
TCPMapping or a Host keeps all this (`ChainsOK.add_tcp`, `ChainsOK.add_http`),
so it holds of the chains after each stage of `finalize`.

`finalize` builds its filter chains in three stages (`finalize_filter_chains`):
the chains after `compute_tcpchains` (`tcp_stage`), each holding one
TCPMapping (`TCPHeld`), give one filter chain each; on an HTTP listener the
chains after `compute_httpchains` (`http_stage`) go through `finalize_http`'s
loop, which files a filter chain under the key of each TLS chain holding a
Host and one under `http` for all cleartext ones (`HttpOK`).

So each filter chain comes with a key, and its match is fixed by that key
(`KeyedMatch`): a TLS key `tls-<s>` asks for a transport and the name `s`
(none when `s` is `*`), the key `http` for nothing. The keys are distinct,
and a TLS key is held by a TCPMapping or by Hosts, not both, so filter chains
under distinct keys have matches Envoy tells apart (`pairwise_not_same`).
The one key outside this is the chain `cleartext` of a TCPMapping without
host: with every TCPMapping bound to the listener having a host, the matches
are pairwise distinct (`finalize_matches_distinct`).
Without, on an HTTP listener that takes a Host for cleartext, the chain
`cleartext` and the shared `http` chain both have the empty match, and
`generate` hands Envoy a listener it rejects (`generate_duplicate_empty_match`).

Key definitions: `TLSKey`, `ChainOK`, `TCPHeld`, `KeyedMatch`, `HttpOK`.
Key theorems: `ChainsOK.add_tcp`, `ChainsOK.add_http`, `finalize_filter_chains`,
`pairwise_not_same`, `finalize_matches_distinct`, `generate_duplicate_empty_match`.
-/
import Emissary.Listener

namespace Emissary
namespace Listener

/-! ### Chain keys -/

/-- A chain key for an SNI name: `tls-<s>`. -/
def TLSKey (k : Key) : Prop := ∃ s, k = "tls-".toList ++ s

theorem not_tlsKey_cleartext (x : Key) : ¬TLSKey ("cleartext".toList ++ x) := by
  rintro ⟨s, h⟩
  have := congrArg List.head? h
  simp at this

theorem not_tlsKey_cleartext_nil : ¬TLSKey "cleartext".toList := by
  simpa using not_tlsKey_cleartext []

theorem not_tlsKey_http : ¬TLSKey "http".toList := by
  rintro ⟨s, h⟩
  have := congrArg List.head? h
  simp at this

theorem chain_key_tcp (context : Option IRTLSContext) (hostname sni : Key) :
    chain_key .tcp context hostname sni =
      if context.isSome then "tls-".toList ++ sni else "cleartext".toList := by
  cases context <;> rfl

theorem chain_key_https (context : IRTLSContext) (hostname sni : Key) :
    chain_key .https (some context) hostname sni = "tls-".toList ++ sni := by
  simp [chain_key]

theorem chain_key_http (hostname sni : Key) : chain_key .http none hostname sni =
    "cleartext".toList ++ '-' :: (if hostname.isEmpty then "*".toList else hostname) := by
  simp [chain_key]

theorem not_tlsKey_chain_key_http (hostname sni : Key) : ¬TLSKey (chain_key .http none hostname sni) := by
  rw [chain_key_http]
  exact not_tlsKey_cleartext _

/-- A Host's cleartext chain is never the chain `cleartext` of a TCPMapping. -/
theorem chain_key_http_ne_cleartext (hostname sni : Key) :
    chain_key .http none hostname sni ≠ "cleartext".toList := by
  rw [chain_key_http]
  intro h
  have := congrArg List.length h
  simp at this

/-! ### What a chain holds under its key -/

/-- What holds of a chain under its key along `finalize`. -/
structure ChainOK (k : Key) (c : V3Chain) : Prop where
  names : (∃ s, k = "tls-".toList ++ s ∧ c.context.isSome ∧ (∀ n ∈ c.server_names, n = s) ∧
      (c.hosts.values ≠ [] → s ∈ c.server_names)) ∨
    (¬TLSKey k ∧ c.context = none ∧ c.server_names = [])
  held : (∃ g, c.hosts.values = [.tcp g] ∧ (c.context = none → k = "cleartext".toList)) ∨
    ∀ h ∈ c.hosts.values, h.isTCP = false

/-- What holds of every chain of a listener. -/
def ChainsOK (chains : Dict Key V3Chain) : Prop :=
  ∀ k c, chains.get? k = some c → ChainOK k c

theorem ChainOK.new_tls (s : Key) (context : IRTLSContext) :
    ChainOK ("tls-".toList ++ s) (V3Chain.new (some context)) where
  names := .inl ⟨s, rfl, rfl, by simp [V3Chain.new], by simp [V3Chain.new]⟩
  held := .inr (by simp [V3Chain.new])

theorem ChainOK.new_cleartext {k : Key} (hk : ¬TLSKey k) : ChainOK k (V3Chain.new none) where
  names := .inr ⟨hk, rfl, rfl⟩
  held := .inr (by simp [V3Chain.new])

/-- A chain with no context is under a key that is not a TLS one, and has no
SNI names. -/
theorem ChainOK.of_context_none {k : Key} {c : V3Chain} (hc : ChainOK k c)
    (hctx : c.context = none) : ¬TLSKey k ∧ c.server_names = [] := by
  rcases hc.names with ⟨s, -, hsome, -, -⟩ | ⟨hnot, -, hnames⟩
  · simp [hctx] at hsome
  · exact ⟨hnot, hnames⟩

/-- A chain under a key that is not a TLS one has no context and no SNI names. -/
theorem ChainOK.of_not_tls {k : Key} {c : V3Chain} (hc : ChainOK k c) (hk : ¬TLSKey k) :
    c.context = none ∧ c.server_names = [] := by
  rcases hc.names with ⟨s, hks, -, -, -⟩ | ⟨-, hctx, hnames⟩
  · exact absurd ⟨s, hks⟩ hk
  · exact ⟨hctx, hnames⟩

/-- A chain with a context is the TLS chain of one SNI name. -/
theorem ChainOK.tls_of_context {k : Key} {c : V3Chain} (hc : ChainOK k c) (hctx : c.context.isSome) :
    ∃ s, k = "tls-".toList ++ s ∧ (∀ n ∈ c.server_names, n = s) ∧
      (c.hosts.values ≠ [] → s ∈ c.server_names) := by
  rcases hc.names with ⟨s, hks, -, hall, hmem⟩ | ⟨-, hnone, -⟩
  · exact ⟨s, hks, hall, hmem⟩
  · simp [hnone] at hctx

/-- Adding a TCPMapping keeps a chain to its key, when a TLS key is the
TCPMapping's host and a cleartext chain is the chain `cleartext`. -/
theorem ChainOK.add_tcphost {k : Key} {c : V3Chain} (hc : ChainOK k c) (g : IRTCPMappingGroup)
    (hclear : c.context = none → k = "cleartext".toList)
    (hsni : ∀ s, k = "tls-".toList ++ s → g.host.getD "*".toList = s) :
    ChainOK k (c.add_tcphost g).1 := by
  unfold V3Chain.add_tcphost
  split
  · exact hc
  · rename_i hnil
    have hvalues := Dict.values_set_of_values_eq_nil hnil (g.host.getD "*".toList) (.tcp g)
    constructor
    · rcases hc.names with ⟨s, hk, hctx, hall, -⟩ | ⟨hnot, hctx, hnames⟩
      · -- a TLS chain gains the TCPMapping's host, which is its SNI name
        have hhost := hsni s hk
        refine .inl ⟨s, hk, hctx, ?_, fun _ => ?_⟩
        · intro n hn
          simp only [hctx, if_true, List.mem_insert_iff] at hn
          rcases hn with rfl | hn
          · exact hhost
          · exact hall n hn
        · simp only [hctx, if_true, hhost, List.mem_insert_iff, true_or]
      · exact .inr ⟨hnot, hctx, by simp [hctx, hnames]⟩
    · exact .inl ⟨g, hvalues, hclear⟩

/-- Adding a Host keeps a chain to its key, when a TLS key is the Host's SNI name. -/
theorem ChainOK.add_httphost {k : Key} {c : V3Chain} (hc : ChainOK k c) (host : IRHost)
    (hsni : ∀ s, k = "tls-".toList ++ s → host.sni = s) :
    ChainOK k (c.add_httphost host).1 := by
  -- a chain no TCPMapping holds stays so when it takes the Host
  have hheld : (∀ h ∈ c.hosts.values, h.isTCP = false) →
      ∀ h ∈ (c.hosts.set host.hostname (.http host)).values, h.isTCP = false := by
    intro hnotcp h hh
    rcases Dict.mem_values_set hh with rfl | hh
    · rfl
    · exact hnotcp h hh
  rcases c.add_httphost_cases host with heq | ⟨hnotcp, hctx, heq⟩ | ⟨hnotcp, hctx, heq⟩ <;> rw [heq]
  · exact hc
  · obtain ⟨hnot, hnames⟩ := hc.of_context_none hctx
    exact ⟨.inr ⟨hnot, hctx, hnames⟩, .inr (hheld hnotcp)⟩
  · -- a TLS chain gains the Host's SNI name, which is its key's
    obtain ⟨s, hk, hall, -⟩ := hc.tls_of_context hctx
    have hs := hsni s hk
    refine ⟨.inl ⟨s, hk, hctx, ?_, fun _ => by simp [hs]⟩, .inr (hheld hnotcp)⟩
    intro n hn
    rcases List.mem_insert_iff.mp hn with rfl | hn
    · exact hs
    · exact hall n hn

/-- Storing a chain that keeps to its key keeps every chain to its key. -/
theorem ChainsOK.empty : ChainsOK (∅ : Dict Key V3Chain) := by
  intro k c h
  simp at h

theorem ChainsOK.set {chains : Dict Key V3Chain} (hok : ChainsOK chains) {k : Key} {c : V3Chain}
    (hc : ChainOK k c) : ChainsOK (chains.set k c) := by
  intro k' c' hk'
  rw [Dict.get?_set] at hk'
  split at hk'
  · rename_i hkey
    cases hk'
    exact hkey ▸ hc
  · exact hok k' c' hk'

/-! ### A pass of `compute_httpchains` -/

section Passes

variable (env : ListenerEnv) (listener : IRListener) {P : Dict Key V3Chain → Prop}

/-- What every `add_http` keeps, for a Host's secure side with its context
and for its insecure side without one, a pass of `compute_httpchains` keeps. -/
theorem compute_httpchain_preserves
    (hsecure : ∀ (l : V3Listener) (host : IRHost), host.context.isSome → P l.chains →
      P (l.add_http .https host.context host).chains)
    (hinsecure : ∀ (l : V3Listener) (host : IRHost), P l.chains → P (l.add_http .http none host).chains)
    {l : V3Listener} (h : P l.chains) (host : IRHost) : P (l.compute_httpchain env listener host).chains := by
  have hsec : P (l.add_secure listener host).chains := by
    rcases l.add_secure_cases listener host with heq | ⟨hsome, heq⟩ <;> rw [heq]
    · exact h
    · exact hsecure l host hsome h
  have hboth : P ((l.add_secure listener host).add_insecure listener host).chains := by
    rcases (l.add_secure listener host).add_insecure_cases listener host with heq | heq <;> rw [heq]
    · exact hsec
    · exact hinsecure _ host hsec
  rcases l.compute_httpchain_cases env listener host with heq | heq <;> rw [heq]
  · exact h
  · exact hboth

theorem compute_httpchains_preserves
    (hsecure : ∀ (l : V3Listener) (host : IRHost), host.context.isSome → P l.chains →
      P (l.add_http .https host.context host).chains)
    (hinsecure : ∀ (l : V3Listener) (host : IRHost), P l.chains → P (l.add_http .http none host).chains) :
    ∀ (hosts : List IRHost) {l : V3Listener}, P l.chains →
      P (hosts.foldl (V3Listener.compute_httpchain env listener) l).chains
  | [], _, h => h
  | host :: hosts, _, h =>
    compute_httpchains_preserves hsecure hinsecure hosts
      (compute_httpchain_preserves env listener hsecure hinsecure h host)

end Passes

/-! ### Adding to a listener -/

section Add

variable {l : V3Listener}

/-- The chain `add_chain` hands out keeps to its key, when the key of a
chain with a context is `tls-<sni>` and that of one without is not a TLS key. -/
theorem ChainsOK.add_chain (hok : ChainsOK l.chains) (chain_type : ChainType)
    (context : Option IRTLSContext) (hostname sni : Key)
    (htls : context.isSome → chain_key chain_type context hostname sni = "tls-".toList ++ sni)
    (hclear : context = none → ¬TLSKey (chain_key chain_type context hostname sni)) :
    ChainOK (l.add_chain chain_type context hostname sni).1 (l.add_chain chain_type context hostname sni).2 := by
  unfold V3Listener.add_chain
  dsimp only
  cases hget : l.chains.get? (chain_key chain_type context hostname sni) with
  | some c => exact hok _ c hget
  | none =>
    cases context with
    | none => exact ChainOK.new_cleartext (hclear rfl)
    | some context =>
      rw [Option.getD_none, htls rfl]
      exact ChainOK.new_tls sni context

/-- Adding a TCPMapping keeps every chain to its key, when a TLS chain is for
the TCPMapping's host. -/
theorem ChainsOK.add_tcp (hok : ChainsOK l.chains) (context : Option IRTLSContext)
    (hostname sni : Key) (g : IRTCPMappingGroup) (hsni : context.isSome → g.host.getD "*".toList = sni) :
    ChainsOK (l.add_tcp context hostname sni g).chains := by
  have hkey := chain_key_tcp context hostname sni
  have hchain := hok.add_chain .tcp context hostname sni (fun h => by rw [hkey, if_pos h])
    (fun h => by rw [hkey, h]; exact not_tlsKey_cleartext_nil)
  unfold V3Listener.add_tcp
  refine hok.set (hchain.add_tcphost g (fun hnone => ?_) (fun s hs => ?_))
  · -- a chain without a context is not a TLS one, so it is `cleartext`
    have hnot := (hchain.of_context_none hnone).1
    cases context with
    | none => simp [V3Listener.add_chain, hkey]
    | some c => exact absurd ⟨sni, by simp [V3Listener.add_chain, hkey]⟩ hnot
  · cases context with
    | none =>
      simp only [V3Listener.add_chain, hkey, Option.isSome_none] at hs
      exact absurd ⟨s, hs⟩ not_tlsKey_cleartext_nil
    | some c =>
      simp only [V3Listener.add_chain, hkey, Option.isSome_some, if_true] at hs
      rw [hsni rfl]
      exact List.append_cancel_left hs

/-- Adding a Host for its secure side with its context, or for its insecure
side without one, keeps every chain to its key. -/
theorem ChainsOK.add_http (hok : ChainsOK l.chains) (chain_type : ChainType)
    (context : Option IRTLSContext) (host : IRHost)
    (hty : (chain_type = .http ∧ context = none) ∨ (chain_type = .https ∧ context.isSome)) :
    ChainsOK (l.add_http chain_type context host).chains := by
  -- the key: `tls-<sni>` on the secure side, a cleartext one on the other
  have htls : context.isSome → chain_key chain_type context host.hostname host.sni =
      "tls-".toList ++ host.sni := by
    intro hsome
    rcases hty with ⟨-, rfl⟩ | ⟨rfl, -⟩
    · simp at hsome
    · obtain ⟨c, rfl⟩ := Option.isSome_iff_exists.mp hsome
      exact chain_key_https c _ _
  have hclear : context = none → ¬TLSKey (chain_key chain_type context host.hostname host.sni) := by
    intro hnone
    rcases hty with ⟨rfl, -⟩ | ⟨-, hsome⟩
    · rw [hnone]
      exact not_tlsKey_chain_key_http _ _
    · simp [hnone] at hsome
  have hchain := hok.add_chain chain_type context host.hostname host.sni htls hclear
  unfold V3Listener.add_http
  refine hok.set (hchain.add_httphost host fun s hs => ?_)
  simp only [V3Listener.add_chain] at hs
  by_cases hsome : context.isSome
  · rw [htls hsome] at hs
    exact List.append_cancel_left hs
  · exact absurd ⟨s, hs⟩ (hclear (Option.not_isSome_iff_eq_none.mp hsome))

variable (env : ListenerEnv) (listener : IRListener)

/-- One pass of `compute_tcpchains` keeps every chain to its key. -/
theorem ChainsOK.compute_tcpchain (hok : ChainsOK l.chains) (g : IRTCPMappingGroup) :
    ChainsOK (l.compute_tcpchain env listener g).chains := by
  rcases l.compute_tcpchain_cases env listener g with
    hsame | ⟨-, -, heq⟩ | ⟨group_host, context, -, hfilter, heq⟩
  · rw [hsame]
    exact hok
  · rw [heq]
    exact hok.add_tcp none _ _ g (by simp)
  · -- the chain of a TCPMapping with a host is the one of its host
    rw [heq]
    refine hok.add_tcp (some context) group_host group_host g fun _ => ?_
    rw [(Option.filter_eq_some_iff.mp hfilter).1]
    rfl

/-- The secure side of a Host keeps every chain to its key. -/
theorem ChainsOK.add_secure (hok : ChainsOK l.chains) (host : IRHost) :
    ChainsOK (l.add_secure listener host).chains := by
  rcases l.add_secure_cases listener host with heq | ⟨hsome, heq⟩ <;> rw [heq]
  · exact hok
  · exact hok.add_http .https host.context host (.inr ⟨rfl, hsome⟩)

theorem ChainsOK.compute_tcpchains :
    ∀ (gs : List IRTCPMappingGroup) {l : V3Listener}, ChainsOK l.chains →
      ChainsOK (gs.foldl (V3Listener.compute_tcpchain env listener) l).chains
  | [], _, hok => hok
  | g :: gs, _, hok => ChainsOK.compute_tcpchains gs (hok.compute_tcpchain env listener g)

theorem ChainsOK.compute_httpchains (hosts : List IRHost) (hok : ChainsOK l.chains) :
    ChainsOK (hosts.foldl (V3Listener.compute_httpchain env listener) l).chains :=
  compute_httpchains_preserves env listener
    (fun _ host hsome hok => hok.add_http .https host.context host (.inr ⟨rfl, hsome⟩))
    (fun _ host hok => hok.add_http .http none host (.inl ⟨rfl, rfl⟩)) hosts hok

end Add

/-! ### TCPMappings keep their chains -/

section Held

variable {l : V3Listener} {k : Key} {c : V3Chain} {g : IRTCPMappingGroup}
variable (env : ListenerEnv) (listener : IRListener)

/-- A Host never takes a chain from a TCPMapping. -/
theorem add_http_get?_of_tcp (hget : l.chains.get? k = some c) (hheld : c.hosts.values = [.tcp g])
    (chain_type : ChainType) (context : Option IRTLSContext) (host : IRHost) :
    (l.add_http chain_type context host).chains.get? k = some c := by
  unfold V3Listener.add_http V3Listener.add_chain
  dsimp only
  rw [Dict.get?_set]
  split
  · rename_i hkey
    rw [← hkey, hget, Option.getD_some]
    unfold V3Chain.add_httphost
    rw [hheld]
    rfl
  · exact hget

theorem compute_httpchains_get?_of_tcp (hheld : c.hosts.values = [.tcp g]) (hosts : List IRHost)
    (hget : l.chains.get? k = some c) :
    (hosts.foldl (V3Listener.compute_httpchain env listener) l).chains.get? k = some c :=
  compute_httpchains_preserves env listener (P := fun chains => chains.get? k = some c)
    (fun _ _ _ hget => add_http_get?_of_tcp hget hheld _ _ _)
    (fun _ _ hget => add_http_get?_of_tcp hget hheld _ _ _) hosts hget

end Held

/-- The keys after adding a TCPMapping: its chain's and those there were. -/
theorem mem_add_tcp {l : V3Listener} {k : Key} (context : Option IRTLSContext) (hostname sni : Key)
    (g : IRTCPMappingGroup) :
    k ∈ (l.add_tcp context hostname sni g).chains ↔
      k = (if context.isSome then "tls-".toList ++ sni else "cleartext".toList) ∨ k ∈ l.chains := by
  unfold V3Listener.add_tcp V3Listener.add_chain
  dsimp only
  rw [Dict.mem_set, chain_key_tcp]

/-! ### No cleartext TCP chain without a TCPMapping without host -/

section NoCleartext

variable (env : ListenerEnv) (listener : IRListener)

/-- Every TCPMapping bound to the listener has a host. -/
def AllHaveHost (groups : List IRTCPMappingGroup) : Prop :=
  ∀ g ∈ groups, g.bind_to env.envoy_bind_address = listener.bind_to → ∃ h, g.host = some h ∧ h ≠ []

theorem compute_tcpchain_not_cleartext {l : V3Listener} (hnot : "cleartext".toList ∉ l.chains)
    {g : IRTCPMappingGroup}
    (hg : g.bind_to env.envoy_bind_address = listener.bind_to → ∃ h, g.host = some h ∧ h ≠ []) :
    "cleartext".toList ∉ (l.compute_tcpchain env listener g).chains := by
  rcases l.compute_tcpchain_cases env listener g with
    hsame | ⟨hbind, hfilter, -⟩ | ⟨group_host, context, -, -, heq⟩
  · rw [hsame]
    exact hnot
  · -- a TCPMapping bound here has a host, which the filter keeps
    obtain ⟨h, hh, hne⟩ := hg hbind
    rw [hh, Option.filter_some] at hfilter
    simp [hne] at hfilter
  · -- a TCPMapping with a host goes to the chain `tls-<host>`
    rw [heq, mem_add_tcp, Option.isSome_some, if_pos rfl]
    rintro (hkey | hmem)
    · exact not_tlsKey_cleartext_nil ⟨group_host, hkey⟩
    · exact hnot hmem

theorem compute_tcpchains_not_cleartext :
    ∀ (groups : List IRTCPMappingGroup) {l : V3Listener}, AllHaveHost env listener groups →
      "cleartext".toList ∉ l.chains →
      "cleartext".toList ∉ (groups.foldl (V3Listener.compute_tcpchain env listener) l).chains
  | [], _, _, hnot => hnot
  | g :: groups, _, hall, hnot =>
    compute_tcpchains_not_cleartext groups (fun g' hg' => hall g' (List.mem_cons_of_mem g hg'))
      (compute_tcpchain_not_cleartext env listener hnot (hall g List.mem_cons_self))

end NoCleartext

/-! ### After `compute_tcpchains`: a TCPMapping a chain -/

section TCPStage

variable (env : ListenerEnv) (listener : IRListener)

/-- Every chain holds a single TCPMapping, as `compute_tcpchains` leaves them. -/
def TCPHeld (chains : Dict Key V3Chain) : Prop :=
  ∀ k c, chains.get? k = some c → ∃ g, c.hosts.values = [.tcp g]

theorem TCPHeld.add_tcp {l : V3Listener} (hheld : TCPHeld l.chains) (context : Option IRTLSContext)
    (hostname sni : Key) (g : IRTCPMappingGroup) : TCPHeld (l.add_tcp context hostname sni g).chains := by
  unfold V3Listener.add_tcp V3Listener.add_chain
  dsimp only
  intro k c hk
  rw [Dict.get?_set] at hk
  split at hk
  · cases hk
    -- the chain under the key holds a TCPMapping already, or is a new one
    cases hget : l.chains.get? (chain_key .tcp context hostname sni) with
    | some c₀ =>
      obtain ⟨g₀, h₀⟩ := hheld _ c₀ hget
      rw [Option.getD_some, V3Chain.add_tcphost_of_values_cons h₀]
      exact ⟨g₀, h₀⟩
    | none =>
      rw [Option.getD_none]
      exact ⟨g, V3Chain.values_add_tcphost_of_nil rfl g⟩
  · exact hheld k c hk

theorem TCPHeld.compute_tcpchain {l : V3Listener} (hheld : TCPHeld l.chains) (g : IRTCPMappingGroup) :
    TCPHeld (l.compute_tcpchain env listener g).chains := by
  rcases l.compute_tcpchain_cases env listener g with hsame | ⟨-, -, heq⟩ | ⟨_, _, -, -, heq⟩
  · rw [hsame]
    exact hheld
  · rw [heq]
    exact hheld.add_tcp _ _ _ g
  · rw [heq]
    exact hheld.add_tcp _ _ _ g

theorem TCPHeld.compute_tcpchains :
    ∀ (gs : List IRTCPMappingGroup) {l : V3Listener}, TCPHeld l.chains →
      TCPHeld (gs.foldl (V3Listener.compute_tcpchain env listener) l).chains
  | [], _, hheld => hheld
  | g :: gs, _, hheld => TCPHeld.compute_tcpchains gs (hheld.compute_tcpchain env listener g)

theorem mem_compute_tcpchain {l : V3Listener} {k : Key} (h : k ∈ l.chains) (g : IRTCPMappingGroup) :
    k ∈ (l.compute_tcpchain env listener g).chains := by
  rcases l.compute_tcpchain_cases env listener g with hsame | ⟨-, -, heq⟩ | ⟨_, _, -, -, heq⟩
  · rw [hsame]
    exact h
  · rw [heq]
    exact (mem_add_tcp _ _ _ g).mpr (.inr h)
  · rw [heq]
    exact (mem_add_tcp _ _ _ g).mpr (.inr h)

theorem mem_compute_tcpchains {k : Key} :
    ∀ (gs : List IRTCPMappingGroup) {l : V3Listener}, k ∈ l.chains →
      k ∈ (gs.foldl (V3Listener.compute_tcpchain env listener) l).chains
  | [], _, h => h
  | g :: gs, _, h => mem_compute_tcpchains gs (mem_compute_tcpchain env listener h g)

/-- A TCPMapping without host bound to the listener files the chain `cleartext`. -/
theorem cleartext_mem_compute_tcpchain (l : V3Listener) {g : IRTCPMappingGroup}
    (hbind : g.bind_to env.envoy_bind_address = listener.bind_to) (hhostless : ∀ h ∈ g.host, h = []) :
    "cleartext".toList ∈ (l.compute_tcpchain env listener g).chains := by
  have hfilter : (g.host.filter fun h => !h.isEmpty) = none := by
    cases hh : g.host with
    | none => rfl
    | some h =>
      have hnil : h = [] := hhostless h hh
      simp [hnil]
  unfold V3Listener.compute_tcpchain
  rw [if_neg (not_not.mpr hbind)]
  simp only [hfilter]
  exact (mem_add_tcp _ _ _ g).mpr (.inl rfl)

/-- The listener after `compute_tcpchains`. -/
def tcp_stage : V3Listener :=
  env.groups.foldl (V3Listener.compute_tcpchain env listener) V3Listener.empty

theorem tcp_stage_chainsOK : ChainsOK (tcp_stage env listener).chains :=
  ChainsOK.compute_tcpchains env listener env.groups ChainsOK.empty

theorem tcp_stage_held : TCPHeld (tcp_stage env listener).chains :=
  TCPHeld.compute_tcpchains env listener env.groups fun k c h => by simp [V3Listener.empty] at h

theorem cleartext_mem_tcp_stage {g : IRTCPMappingGroup} (hg : g ∈ env.groups)
    (hbind : g.bind_to env.envoy_bind_address = listener.bind_to) (hhostless : ∀ h ∈ g.host, h = []) :
    "cleartext".toList ∈ (tcp_stage env listener).chains := by
  obtain ⟨pre, post, hsplit⟩ := List.append_of_mem hg
  unfold tcp_stage
  rw [hsplit, List.foldl_append, List.foldl_cons]
  exact mem_compute_tcpchains env listener post (cleartext_mem_compute_tcpchain env listener _ hbind hhostless)

end TCPStage

/-! ### The filter chains of `finalize` -/

section Stages

variable (env : ListenerEnv) (listener : IRListener)

/-- The listener after `compute_httpchains`. -/
def http_stage : V3Listener :=
  (sorted_hosts env.hosts).foldl (V3Listener.compute_httpchain env listener) (tcp_stage env listener).finalize_tcp

theorem finalize_eq : V3Listener.finalize env listener =
    if .HTTP ∈ listener.protocolStack then (http_stage env listener).finalize_http listener
    else (tcp_stage env listener).finalize_tcp := rfl

theorem compute_tcpchains_filter_chains :
    ∀ (gs : List IRTCPMappingGroup) (l : V3Listener),
      (gs.foldl (V3Listener.compute_tcpchain env listener) l).filter_chains = l.filter_chains
  | [], _ => rfl
  | g :: gs, l => by
    rw [List.foldl_cons, compute_tcpchains_filter_chains gs, V3Listener.compute_tcpchain_filter_chains]

theorem compute_httpchains_filter_chains :
    ∀ (hosts : List IRHost) (l : V3Listener),
      (hosts.foldl (V3Listener.compute_httpchain env listener) l).filter_chains = l.filter_chains
  | [], _ => rfl
  | host :: hosts, l => by
    rw [List.foldl_cons, compute_httpchains_filter_chains hosts, V3Listener.compute_httpchain_filter_chains]

theorem http_stage_filter_chains : (http_stage env listener).filter_chains =
    (tcp_stage env listener).chains.values.flatMap V3Chain.tcp_filter_chains := by
  rw [http_stage, compute_httpchains_filter_chains]
  simp [V3Listener.finalize_tcp, tcp_stage, compute_tcpchains_filter_chains, V3Listener.empty]

theorem http_stage_chainsOK : ChainsOK (http_stage env listener).chains :=
  ChainsOK.compute_httpchains env listener _ (tcp_stage_chainsOK env listener)

/-- The filter chains of `finalize`: one for each TCPMapping of a chain after
`compute_tcpchains`, and on an HTTP listener those `finalize_http`'s loop
builds from the chains after `compute_httpchains`. -/
theorem finalize_filter_chains : (V3Listener.finalize env listener).filter_chains =
    (tcp_stage env listener).chains.values.flatMap V3Chain.tcp_filter_chains ++
      if .HTTP ∈ listener.protocolStack then
        ((http_stage env listener).chains.entries.foldl (http_filter_chain_step listener) ∅).values
      else [] := by
  rw [finalize_eq]
  split_ifs
  · simp [V3Listener.finalize_http, http_stage_filter_chains]
  · simp [V3Listener.finalize_tcp, tcp_stage, compute_tcpchains_filter_chains, V3Listener.empty]

end Stages

/-! ### A Host's cleartext chain -/

section Hosted

variable (env : ListenerEnv) (listener : IRListener)

/-- Under the key is a chain without a context that holds a Host. -/
def HostedCleartext (chains : Dict Key V3Chain) (k : Key) : Prop :=
  ∃ c, chains.get? k = some c ∧ c.has_host ∧ c.context = none

/-- A chain that holds a Host keeps holding one, and keeps its context. -/
theorem HostedCleartext.add_http {l : V3Listener} {k : Key} (h : HostedCleartext l.chains k)
    (chain_type : ChainType) (context : Option IRTLSContext) (host : IRHost) :
    HostedCleartext (l.add_http chain_type context host).chains k := by
  obtain ⟨c, hget, hhost, hctx⟩ := h
  unfold HostedCleartext V3Listener.add_http V3Listener.add_chain
  dsimp only
  by_cases hk : k = chain_key chain_type context host.hostname host.sni
  · subst hk
    rw [hget, Option.getD_some]
    refine ⟨_, Dict.get?_set_self _ _ _, c.has_host_add_httphost hhost host, ?_⟩
    rw [V3Chain.add_httphost_context, hctx]
  · rw [Dict.get?_set_ne _ _ hk]
    exact ⟨c, hget, hhost, hctx⟩

/-- A Host's insecure side goes to its cleartext chain, which no TCPMapping
holds, so the chain takes it. -/
theorem hosted_add_http_insecure {l : V3Listener} (hok : ChainsOK l.chains) (host : IRHost) :
    HostedCleartext (l.add_http .http none host).chains (chain_key .http none host.hostname host.sni) := by
  have hchain := hok.add_chain .http none host.hostname host.sni (fun h => by simp at h)
    (fun _ => not_tlsKey_chain_key_http _ _)
  obtain ⟨hctx, -⟩ := hchain.of_not_tls (not_tlsKey_chain_key_http host.hostname host.sni)
  -- a TCPMapping's chain without a context is `cleartext`, which this key is not
  have hfind : (l.add_chain .http none host.hostname host.sni).2.hosts.values.find? ChainHost.isTCP = none := by
    rcases hchain.held with ⟨g, -, hclear⟩ | hheld
    · exact absurd (hclear hctx) (chain_key_http_ne_cleartext _ _)
    · exact List.find?_eq_none.mpr fun h hh => by simp [hheld h hh]
  unfold V3Listener.add_http
  refine ⟨_, Dict.get?_set_self _ _ _,
    V3Chain.has_host_of_mem (V3Chain.mem_add_httphost_of_cleartext hfind hctx host), ?_⟩
  rw [V3Chain.add_httphost_context, hctx]

/-- A Host the listener matches, on a listener that is not insecure-only,
and that does not reject insecure requests, leaves its cleartext chain
holding a Host. -/
theorem hosted_http_stage {host : IRHost} (hhost : host ∈ env.hosts)
    (hmatch : listener.matches_host env.disable_strict host = true) (honly : listener.insecure_only = false)
    (hins : host.insecure_action ≠ "Reject".toList) :
    HostedCleartext (http_stage env listener).chains (chain_key .http none host.hostname host.sni) := by
  have hsorted : host ∈ sorted_hosts env.hosts := (List.perm_insertionSort _ _).mem_iff.mpr hhost
  obtain ⟨pre, post, hsplit⟩ := List.append_of_mem hsorted
  have hok := ChainsOK.compute_httpchains env listener pre (l := (tcp_stage env listener).finalize_tcp)
    (tcp_stage_chainsOK env listener)
  unfold http_stage
  rw [hsplit, List.foldl_append, List.foldl_cons]
  refine compute_httpchains_preserves env listener
    (P := fun chains => HostedCleartext chains (chain_key .http none host.hostname host.sni))
    (fun _ _ _ h => h.add_http _ _ _) (fun _ _ h => h.add_http _ _ _) post ?_
  rw [V3Listener.compute_httpchain_of_matches _ hmatch honly, V3Listener.add_insecure_of_accepts _ _ hins]
  exact hosted_add_http_insecure (hok.add_secure listener host) host

end Hosted

/-! ### The loop of `finalize_http` -/

section HttpFilterChains

variable (listener : IRListener)

/-- The match of a filter chain under its key: under a TLS key `tls-<s>` a
transport and, as a set, the server names of the SNI name `s`; under the key
`http` of the shared cleartext chain, nothing. -/
def KeyedMatch (k : Key) (m : FilterChainMatch) : Prop :=
  (∃ s t, k = "tls-".toList ++ s ∧ m.transport_protocol = some t ∧
    ∀ n, n ∈ m.server_names ↔ n ∈ server_names_match [s]) ∨
  (k = "http".toList ∧ m = {})

/-- What `finalize_http`'s loop has built from the chains: each filter chain
has the match of its key, and a key other than `http` is that of a chain
holding a Host. -/
def HttpOK (chains : Dict Key V3Chain) (fcs : Dict Key FilterChain) : Prop :=
  ∀ k f, fcs.get? k = some f → KeyedMatch k f.filter_chain_match ∧
    (k ≠ "http".toList → ∃ c, chains.get? k = some c ∧ c.has_host)

/-- SNI names that are all `s`, and `s` among them, ask for what `[s]` asks for. -/
theorem server_names_match_of_all {s : Key} {ns : List Key} (hall : ∀ n ∈ ns, n = s) (hs : s ∈ ns) :
    ∀ n, n ∈ server_names_match ns ↔ n ∈ server_names_match [s] := by
  unfold server_names_match
  by_cases hstar : s = "*".toList
  · -- `*` among the names: no names asked for, on either side
    subst hstar
    have hns : ¬(ns ≠ [] ∧ "*".toList ∉ ns) := fun h => h.2 hs
    rw [if_neg hns, if_neg (by simp)]
    exact fun _ => Iff.rfl
  · have hns : ns ≠ [] ∧ "*".toList ∉ ns := ⟨List.ne_nil_of_mem hs, fun h => hstar (hall _ h).symm⟩
    have hs' : [s] ≠ [] ∧ "*".toList ∉ [s] := ⟨List.cons_ne_nil _ _, fun h => hstar (List.mem_singleton.mp h).symm⟩
    rw [if_pos hns, if_pos hs']
    intro n
    constructor
    · intro hn
      rw [hall n hn]
      exact List.mem_singleton_self s
    · intro hn
      rw [List.mem_singleton.mp hn]
      exact hs

theorem V3Chain.values_ne_nil_of_has_host {c : V3Chain} (h : c.has_host) : c.hosts.values ≠ [] := by
  intro hnil
  simp [V3Chain.has_host, hnil] at h

theorem HttpOK.empty (chains : Dict Key V3Chain) : HttpOK chains ∅ := by
  intro k f h
  simp at h

/-- One pass of `finalize_http`'s loop over an entry of the chains keeps `HttpOK`. -/
theorem HttpOK.step {chains : Dict Key V3Chain} (hok : ChainsOK chains) {fcs : Dict Key FilterChain}
    (h : HttpOK chains fcs) {k₀ : Key} {c : V3Chain} (he : chains.get? k₀ = some c) :
    HttpOK chains (http_filter_chain_step listener fcs (k₀, c)) := by
  rcases http_filter_chain_step_cases listener fcs (k₀, c) with
    heq | ⟨-, -, -, heq⟩ | ⟨hhost, hctx, heq⟩ <;> rw [heq]
  · exact h
  · -- a cleartext chain: the shared filter chain `http`
    intro k f hk
    rw [Dict.get?_set] at hk
    split at hk
    · rename_i hkey
      cases hk
      exact ⟨.inr ⟨hkey, rfl⟩, fun hne => absurd hkey hne⟩
    · exact h k f hk
  · -- a TLS chain: its own filter chain, under its key
    obtain ⟨s, hks, hall, hmem⟩ := (hok k₀ c he).tls_of_context hctx
    intro k f hk
    rw [Dict.get?_set] at hk
    split at hk
    · rename_i hkey
      subst hkey
      cases hk
      refine ⟨.inl ⟨s, _, hks, rfl, server_names_match_of_all hall ?_⟩, fun _ => ⟨c, he, hhost⟩⟩
      exact hmem (V3Chain.values_ne_nil_of_has_host hhost)
    · exact h k f hk

theorem HttpOK.foldl {chains : Dict Key V3Chain} (hok : ChainsOK chains) :
    ∀ (es : List (Key × V3Chain)), (∀ e ∈ es, chains.get? e.1 = some e.2) →
      ∀ {fcs : Dict Key FilterChain}, HttpOK chains fcs →
        HttpOK chains (es.foldl (http_filter_chain_step listener) fcs)
  | [], _, _, h => h
  | e :: es, hes, _, h =>
    HttpOK.foldl hok es (fun e' he' => hes e' (List.mem_cons_of_mem e he'))
      (h.step listener hok (hes e List.mem_cons_self))

/-- What `finalize_http`'s loop builds from all the chains. -/
theorem httpOK_finalize_http {chains : Dict Key V3Chain} (hok : ChainsOK chains) :
    HttpOK chains (chains.entries.foldl (http_filter_chain_step listener) ∅) :=
  HttpOK.foldl listener hok chains.entries (fun _ he => Dict.mem_entries.mp he) (HttpOK.empty chains)

theorem mem_http_filter_chain_step {fcs : Dict Key FilterChain} {k : Key} (h : k ∈ fcs) (e : Key × V3Chain) :
    k ∈ http_filter_chain_step listener fcs e := by
  rcases http_filter_chain_step_cases listener fcs e with heq | ⟨-, -, -, heq⟩ | ⟨-, -, heq⟩ <;> rw [heq]
  · exact h
  · exact Dict.mem_set.mpr (.inr h)
  · exact Dict.mem_set.mpr (.inr h)

theorem mem_foldl_http_filter_chain_step {k : Key} :
    ∀ (es : List (Key × V3Chain)) {fcs : Dict Key FilterChain}, k ∈ fcs →
      k ∈ es.foldl (http_filter_chain_step listener) fcs
  | [], _, h => h
  | e :: es, _, h => mem_foldl_http_filter_chain_step es (mem_http_filter_chain_step listener h e)

/-- Off HTTP/3, a cleartext chain holding a Host gives the shared filter chain `http`. -/
theorem http_mem_http_filter_chain_step (hquic : listener.quic = false) (fcs : Dict Key FilterChain)
    {e : Key × V3Chain} (hhost : e.2.has_host) (hctx : e.2.context = none) :
    "http".toList ∈ http_filter_chain_step listener fcs e := by
  unfold http_filter_chain_step
  rw [if_neg (by simp [hhost])]
  simp only [hctx, hquic, Bool.false_eq_true, if_false]
  split
  · assumption
  · exact Dict.mem_set.mpr (.inl rfl)

theorem http_mem_finalize_http (hquic : listener.quic = false) {chains : Dict Key V3Chain} {k : Key}
    (hk : HostedCleartext chains k) :
    "http".toList ∈ chains.entries.foldl (http_filter_chain_step listener) ∅ := by
  obtain ⟨c, hget, hhost, hctx⟩ := hk
  obtain ⟨pre, post, hsplit⟩ := List.append_of_mem (Dict.mem_entries.mpr hget)
  rw [hsplit, List.foldl_append, List.foldl_cons]
  exact mem_foldl_http_filter_chain_step listener post
    (http_mem_http_filter_chain_step listener hquic _ (e := (k, c)) hhost hctx)

end HttpFilterChains

/-! ### Two empty matches -/

section Duplicate

variable (env : ListenerEnv) (listener : IRListener)

/-- The chain `cleartext` of a TCPMapping gives a filter chain with the empty match. -/
theorem empty_mem_tcp_matches {chains : Dict Key V3Chain} (hok : ChainsOK chains) (hheld : TCPHeld chains)
    (hmem : "cleartext".toList ∈ chains) :
    ({} : FilterChainMatch) ∈
      (chains.values.flatMap V3Chain.tcp_filter_chains).map FilterChain.filter_chain_match := by
  obtain ⟨c, hget⟩ := Option.isSome_iff_exists.mp (Dict.mem_iff_get?.mp hmem)
  obtain ⟨g, hg⟩ := hheld _ c hget
  obtain ⟨hctx, hnames⟩ := (hok _ c hget).of_not_tls not_tlsKey_cleartext_nil
  have hfc : tcp_filter_chain c g ∈ chains.values.flatMap V3Chain.tcp_filter_chains := by
    refine List.mem_flatMap.mpr ⟨c, Dict.mem_values.mpr ⟨_, hget⟩, ?_⟩
    rw [V3Chain.tcp_filter_chains_of_held hg]
    exact List.mem_singleton_self _
  refine List.mem_map.mpr ⟨_, hfc, ?_⟩
  unfold tcp_filter_chain
  rw [hnames, hctx]
  rfl

/-- The shared filter chain `http` has the empty match. -/
theorem empty_mem_http_matches (hquic : listener.quic = false) {chains : Dict Key V3Chain}
    (hok : ChainsOK chains) {k : Key} (hk : HostedCleartext chains k) :
    ({} : FilterChainMatch) ∈
      (chains.entries.foldl (http_filter_chain_step listener) ∅).values.map FilterChain.filter_chain_match := by
  have hmem := http_mem_finalize_http listener hquic hk
  obtain ⟨f, hf⟩ := Option.isSome_iff_exists.mp (Dict.mem_iff_get?.mp hmem)
  rcases ((httpOK_finalize_http listener hok) _ f hf).1 with ⟨s, t, hks, -, -⟩ | ⟨-, hempty⟩
  · exact absurd ⟨s, hks⟩ not_tlsKey_http
  · exact List.mem_map.mpr ⟨f, Dict.mem_values.mpr ⟨_, hf⟩, hempty⟩

/-- On an HTTP listener off HTTP/3, a TCPMapping without host bound to it and
a Host it takes for cleartext give two filter chains with the empty match. -/
theorem finalize_two_empty_matches (hhttp : .HTTP ∈ listener.protocolStack) (hquic : listener.quic = false)
    {g : IRTCPMappingGroup} (hg : g ∈ env.groups)
    (hbind : g.bind_to env.envoy_bind_address = listener.bind_to) (hhostless : ∀ h ∈ g.host, h = [])
    {host : IRHost} (hhost : host ∈ env.hosts)
    (hmatch : listener.matches_host env.disable_strict host = true) (honly : listener.insecure_only = false)
    (hins : host.insecure_action ≠ "Reject".toList) :
    2 ≤ ((V3Listener.finalize env listener).filter_chains.map FilterChain.filter_chain_match).count {} := by
  have htcp := List.count_pos_iff.mpr (empty_mem_tcp_matches (tcp_stage_chainsOK env listener)
    (tcp_stage_held env listener) (cleartext_mem_tcp_stage env listener hg hbind hhostless))
  have hhttp' := List.count_pos_iff.mpr (empty_mem_http_matches listener hquic
    (http_stage_chainsOK env listener) (hosted_http_stage env listener hhost hmatch honly hins))
  rw [finalize_filter_chains, if_pos hhttp, List.map_append, List.count_append]
  omega

theorem generate_duplicate_empty_match (env : ListenerEnv) (listeners : List IRListener)
    {listener : IRListener} (hlistener : listener ∈ listeners)
    (hhttp : .HTTP ∈ listener.protocolStack) (hquic : listener.quic = false)
    {g : IRTCPMappingGroup} (hg : g ∈ env.groups)
    (hbind : g.bind_to env.envoy_bind_address = listener.bind_to) (hhostless : ∀ h ∈ g.host, h = [])
    {host : IRHost} (hhost : host ∈ env.hosts)
    (hmatch : listener.matches_host env.disable_strict host = true) (honly : listener.insecure_only = false)
    (hins : host.insecure_action ≠ "Reject".toList) :
    ∃ l ∈ V3Listener.generate env listeners,
      2 ≤ (l.filter_chains.map FilterChain.filter_chain_match).count {} := by
  have htwo := finalize_two_empty_matches env listener hhttp hquic hg hbind hhostless hhost hmatch honly hins
  -- two filter chains, so `generate` keeps the listener
  have hne : (V3Listener.finalize env listener).filter_chains ≠ [] := by
    intro hnil
    rw [hnil] at htwo
    simp at htwo
  refine ⟨V3Listener.finalize env listener, ?_, htwo⟩
  unfold V3Listener.generate
  exact List.mem_filter.mpr ⟨List.mem_map_of_mem hlistener, by simpa using hne⟩

theorem generate_duplicate_empty_match_at_cleartext :
    ∃ l ∈ V3Listener.generate cleartextEnv [httpListener],
      2 ≤ (l.filter_chains.map FilterChain.filter_chain_match).count {} :=
  generate_duplicate_empty_match cleartextEnv [httpListener] (List.mem_singleton_self _) (by decide) rfl
    (List.mem_singleton_self _) (by decide) (fun _ h => by cases h) (List.mem_singleton_self _) rfl rfl
    (by decide)

end Duplicate

/-! ### Distinct matches -/

section Distinct

variable (env : ListenerEnv) (listener : IRListener)

theorem server_names_match_singleton (s : Key) :
    server_names_match [s] = if s = "*".toList then [] else [s] := by
  unfold server_names_match
  by_cases hs : s = "*".toList
  · rw [if_pos hs, if_neg]
    rw [hs]
    simp
  · rw [if_neg hs, if_pos]
    exact ⟨List.cons_ne_nil _ _, fun h => hs (List.mem_singleton.mp h).symm⟩

/-- Two SNI names whose filter chains ask for the same names are one name. -/
theorem eq_of_server_names_match_singleton {s s' : Key}
    (h : ∀ n, n ∈ server_names_match [s] ↔ n ∈ server_names_match [s']) : s = s' := by
  rw [server_names_match_singleton, server_names_match_singleton] at h
  by_cases hs : s = "*".toList <;> by_cases hs' : s' = "*".toList
  · rw [hs, hs']
  · rw [if_pos hs, if_neg hs'] at h
    exact absurd ((h s').mpr (List.mem_singleton_self s')) List.not_mem_nil
  · rw [if_neg hs, if_pos hs'] at h
    exact absurd ((h s).mp (List.mem_singleton_self s)) List.not_mem_nil
  · rw [if_neg hs, if_neg hs'] at h
    exact List.mem_singleton.mp ((h s).mp (List.mem_singleton_self s))

/-- Filter chains under two keys have matches Envoy tells apart. -/
theorem KeyedMatch.not_same {k k' : Key} {m m' : FilterChainMatch} (hm : KeyedMatch k m)
    (hm' : KeyedMatch k' m') (hne : k ≠ k') : ¬m.Same m' := by
  rintro ⟨htransport, hnames⟩
  rcases hm with ⟨s, t, rfl, ht, hs⟩ | ⟨rfl, rfl⟩ <;>
    rcases hm' with ⟨s', t', rfl, ht', hs'⟩ | ⟨rfl, rfl⟩
  · -- two TLS keys: the SNI names differ
    apply hne
    rw [eq_of_server_names_match_singleton fun n => (hs n).symm.trans ((hnames n).trans (hs' n))]
  · exact absurd (ht.symm.trans htransport) (by simp)
  · exact absurd (htransport.trans ht') (by simp)
  · exact hne rfl

/-- Filter chains under distinct keys, each with the match of its key, have
pairwise distinct matches. -/
theorem pairwise_not_same {S : List (Key × FilterChain)} (hnd : (S.map Prod.fst).Nodup)
    (hS : ∀ e ∈ S, KeyedMatch e.1 e.2.filter_chain_match) :
    (S.map fun e => e.2.filter_chain_match).Pairwise fun a b => ¬a.Same b := by
  rw [List.pairwise_map]
  have hkeys : S.Pairwise fun a b => a.1 ≠ b.1 := List.pairwise_map.mp hnd
  exact hkeys.imp_of_mem fun ha hb hne => (hS _ ha).not_same (hS _ hb) hne

/-- The filter chains of `finalize_tcp`, each with the key of its chain. -/
def tcp_keyed (chains : Dict Key V3Chain) : List (Key × FilterChain) :=
  chains.entries.flatMap fun e => e.2.tcp_filter_chains.map (e.1, ·)

theorem tcp_keyed_snd (chains : Dict Key V3Chain) :
    (tcp_keyed chains).map Prod.snd = chains.values.flatMap V3Chain.tcp_filter_chains := by
  simp [tcp_keyed, List.map_flatMap, Dict.values, List.flatMap_map]

theorem mem_tcp_keyed {chains : Dict Key V3Chain} (hheld : TCPHeld chains) {e : Key × FilterChain}
    (he : e ∈ tcp_keyed chains) :
    ∃ c g, chains.get? e.1 = some c ∧ c.hosts.values = [.tcp g] ∧ e.2 = tcp_filter_chain c g := by
  obtain ⟨⟨k, c⟩, hkc, he⟩ := List.mem_flatMap.mp he
  have hget : chains.get? k = some c := Dict.mem_entries.mp hkc
  obtain ⟨g, hg⟩ := hheld k c hget
  rw [V3Chain.tcp_filter_chains_of_held hg] at he
  obtain rfl : e = (k, tcp_filter_chain c g) := List.mem_singleton.mp he
  exact ⟨c, g, hget, hg, rfl⟩

/-- A chain holding one TCPMapping gives one filter chain, so the keys are
those of the chains. -/
theorem tcp_keyed_fst {chains : Dict Key V3Chain} (hheld : TCPHeld chains) :
    (tcp_keyed chains).map Prod.fst = chains.keys := by
  unfold tcp_keyed Dict.keys
  rw [List.map_flatMap, List.map_eq_flatMap]
  refine List.flatMap_congr fun e he => ?_
  obtain ⟨g, hg⟩ := hheld e.1 e.2 (Dict.mem_entries.mp he)
  rw [V3Chain.tcp_filter_chains_of_held hg]
  rfl

/-- Without the chain `cleartext`, every TCPMapping's filter chain is a TLS
one, with the match of its key. -/
theorem keyedMatch_tcp {chains : Dict Key V3Chain} (hok : ChainsOK chains) (hheld : TCPHeld chains)
    (hnot : "cleartext".toList ∉ chains) {e : Key × FilterChain} (he : e ∈ tcp_keyed chains) :
    TLSKey e.1 ∧ KeyedMatch e.1 e.2.filter_chain_match := by
  obtain ⟨c, g, hget, hg, hfc⟩ := mem_tcp_keyed hheld he
  have hc := hok _ c hget
  -- a TCPMapping's chain without a context is `cleartext`
  have hctx : c.context.isSome := by
    rw [Option.isSome_iff_ne_none]
    intro hnone
    rcases hc.held with ⟨g', -, hclear⟩ | hnotcp
    · exact hnot (hclear hnone ▸ Dict.mem_of_get? hget)
    · exact absurd (hnotcp (.tcp g) (by simp [hg])) (by simp [ChainHost.isTCP])
  obtain ⟨s, hks, hall, hmem⟩ := hc.tls_of_context hctx
  refine ⟨⟨s, hks⟩, .inl ⟨s, "tls".toList, hks, ?_, ?_⟩⟩
  · rw [hfc]
    unfold tcp_filter_chain
    dsimp only
    rw [if_pos hctx]
  · rw [hfc]
    exact server_names_match_of_all hall (hmem (by simp [hg]))

/-- Every TCPMapping bound to the listener has a host: then the filter chains
of `finalize` have pairwise distinct matches. -/
theorem finalize_matches_distinct (hno : AllHaveHost env listener env.groups) :
    ((V3Listener.finalize env listener).filter_chains.map FilterChain.filter_chain_match).Pairwise
      fun a b => ¬a.Same b := by
  have hheld := tcp_stage_held env listener
  have hnot : "cleartext".toList ∉ (tcp_stage env listener).chains :=
    compute_tcpchains_not_cleartext env listener env.groups hno (by simp [V3Listener.empty])
  have htcp : ∀ e ∈ tcp_keyed (tcp_stage env listener).chains, TLSKey e.1 ∧ KeyedMatch e.1 e.2.filter_chain_match :=
    fun _ he => keyedMatch_tcp (tcp_stage_chainsOK env listener) hheld hnot he
  have hnd_tcp : ((tcp_keyed (tcp_stage env listener).chains).map Prod.fst).Nodup := by
    rw [tcp_keyed_fst hheld]
    exact Dict.keys_nodup _
  rw [finalize_filter_chains, ← tcp_keyed_snd]
  split_ifs
  · set R := (http_stage env listener).chains.entries.foldl (http_filter_chain_step listener) ∅
    have hR := httpOK_finalize_http listener (http_stage_chainsOK env listener)
    have heq : ((tcp_keyed (tcp_stage env listener).chains).map Prod.snd ++ R.values).map
        FilterChain.filter_chain_match =
        (tcp_keyed (tcp_stage env listener).chains ++ R.entries).map fun e => e.2.filter_chain_match := by
      rw [Dict.values, ← List.map_append, List.map_map]
      rfl
    rw [heq]
    refine pairwise_not_same ?_ fun e he => ?_
    · rw [List.map_append, List.nodup_append]
      refine ⟨hnd_tcp, Dict.keys_nodup R, ?_⟩
      -- a TCPMapping's chain never takes a Host, so `finalize_http` files nothing under its key
      rintro k hk k' hk' rfl
      obtain ⟨e, he, rfl⟩ := List.mem_map.mp hk
      obtain ⟨c, g, hget, hg, -⟩ := mem_tcp_keyed hheld he
      obtain ⟨f, hf⟩ := Option.isSome_iff_exists.mp (Dict.mem_iff_get?.mp (Dict.mem_def.mpr hk'))
      obtain ⟨c', hget', hhost⟩ := (hR _ f hf).2 fun h => not_tlsKey_http (h ▸ (htcp e he).1)
      have hget₂ := compute_httpchains_get?_of_tcp env listener hg (sorted_hosts env.hosts)
        (l := (tcp_stage env listener).finalize_tcp) hget
      rw [http_stage, hget₂] at hget'
      cases hget'
      simp [V3Chain.has_host, hg, ChainHost.isTCP] at hhost
    · rcases List.mem_append.mp he with he | he
      · exact (htcp e he).2
      · exact (hR _ _ (Dict.mem_entries.mp he)).1
  · rw [List.append_nil, List.map_map]
    exact pairwise_not_same hnd_tcp fun e he => (htcp e he).2

end Distinct

end Listener
end Emissary

/-
# ambex's RDS listener transform and its EDS join

Before ambex hands a snapshot to Envoy it moves the route configurations
that Ambassador writes inline into its listeners out into RDS resources
(`V3ListenerToRdsListener`, ambex/transforms.go), so that a routing change
does not make Envoy drain the listener. Each inline `RouteConfiguration` of
an HTTP connection manager is given a name if it has none (the listener's
name, the hex of the MD5 of its filter chain's match as JSON, and a counter
per such hash), collected, and replaced by an RDS reference through ADS.

The transform keeps the listener's meaning: resolving its RDS references
against the routes it extracts gives the listener back, inline route
configurations and all, up to their names
(`V3ListenerToRdsListener_resolves`), whenever the names in play are
distinct, as they are for the listeners Ambassador generates, none of whose
route configurations is named (`V3ListenerToRdsListener_names_nodup`). It
leaves its own output as it is (`V3ListenerToRdsListener_idem`).

`JoinEdsClustersV3` makes the snapshot's endpoints consistent with its
clusters: one `ClusterLoadAssignment` for each EDS cluster, under the name
the cluster looks it up by, synthesised empty when ambex has no endpoints
for it. With `edsBypass` it writes the same assignment into the cluster,
which becomes static (`joinEds_bypass_agrees`).

Protobuf messages are records of the fields the code reads and writes; what
it only copies is a type parameter or an opaque serialisation. MD5 and
`json.Marshal` are parameters.

Key definitions: `V3ListenerToRdsListener`, `Listener.inlineRouteConfigs`,
`RouteSpecifier.resolve`, `JoinEdsClustersV3`, `Endpoints.ToMap_v3`.
Key theorems: `rdsFilter_cases`, `rdsChains_routes`, `rdsChains_rel`,
`V3ListenerToRdsListener_resolves`, `V3ListenerToRdsListener_idem`,
`joinEds_bypass_agrees`.
-/
import Emissary.Basic
import Emissary.Lib.Dict
import Emissary.Lib.Text

namespace Emissary
namespace Ambex

/-! ### Listeners, as far as the transform reads them -/

inductive ApiVersion where
  | AUTO
  | V2
  | V3
  deriving DecidableEq, Repr

/-- Where an RDS reference is looked up: ADS, with its API version, or
another source, kept as its serialisation. -/
inductive ConfigSource where
  | Ads (ResourceApiVersion : ApiVersion)
  | other (spec : Key)
  deriving DecidableEq, Repr

/-- A `RouteConfiguration`: its name, and the virtual hosts and the rest,
which the transform copies. -/
structure RouteConfiguration (V : Type) where
  Name : Key
  rest : V
  deriving DecidableEq, Repr

/-- The `route_specifier` oneof of an HTTP connection manager. -/
inductive RouteSpecifier (V : Type) where
  | Rds (ConfigSource : ConfigSource) (RouteConfigName : Key)
  | RouteConfig (RouteConfig : RouteConfiguration V)
  | ScopedRoutes (spec : Key)
  | unset
  deriving DecidableEq, Repr

structure HttpConnectionManager (V : Type) where
  RouteSpecifier : RouteSpecifier V
  /-- The HTTP filters and the other settings, which the transform copies. -/
  rest : Key
  deriving DecidableEq, Repr

/-- A filter's configuration: an `HttpConnectionManager` in its typed config,
which `GetHTTPConnectionManager` unmarshals, or anything else. -/
inductive FilterConfig (V : Type) where
  | HttpConnectionManager (hcm : HttpConnectionManager V)
  | other (spec : Key)
  deriving DecidableEq, Repr

structure Filter (V : Type) where
  Name : Key
  ConfigType : FilterConfig V
  deriving DecidableEq, Repr

structure FilterChain (M V : Type) where
  FilterChainMatch : M
  Filters : List (Filter V)
  deriving DecidableEq, Repr

structure Listener (M V : Type) where
  Name : Key
  FilterChains : List (FilterChain M V)
  /-- The address, listener filters and the other settings, which the transform copies. -/
  rest : Key
  deriving DecidableEq, Repr

/-- `ecp_wellknown.HTTPConnectionManager`. -/
def HTTPConnectionManager : Key := "envoy.filters.network.http_connection_manager".toList

/-! ### Naming a route configuration -/

/-- The lowercase hex digit of `n < 16`. -/
def hexDigit (n : ℕ) : Char := "0123456789abcdef".toList.getD n '0'

/-- `hex.EncodeToString`: each byte as two lowercase hex digits. -/
def hexEncode (bs : List UInt8) : Key :=
  bs.flatMap fun b => [hexDigit (b.toNat / 16), hexDigit (b.toNat % 16)]

theorem length_hexEncode (bs : List UInt8) : (hexEncode bs).length = 2 * bs.length := by
  induction bs with
  | nil => rfl
  | cons b bs ih =>
    simp only [hexEncode, List.flatMap_cons, List.length_append, List.length_cons, List.length_nil] at ih ⊢
    omega

section Naming

variable {M : Type} (marshal : M → List UInt8) (md5 : List UInt8 → Fin 16 → UInt8)

/-- `matchKey`: the hex of `md5.Sum(json.Marshal(fc.GetFilterChainMatch()))`. -/
def matchKey (m : M) : Key := hexEncode (List.ofFn (md5 (marshal m)))

theorem length_matchKey (m : M) : (matchKey marshal md5 m).length = 32 := by
  rw [matchKey, length_hexEncode, List.length_ofFn]

end Naming

/-- `fmt.Sprintf("%s-routeconfig-%s-%d", l.Name, matchKey, matchKeyIndex[matchKey])`. -/
def routeConfigName (name key : Key) (index : ℕ) : Key :=
  name ++ "-routeconfig-".toList ++ key ++ '-' :: Nat.toDigits 10 index

/-- **Generated names are distinct**: a name made from keys of one length
gives back its key and its index. -/
theorem routeConfigName_inj {name k₁ k₂ : Key} {i₁ i₂ : ℕ} (hk : k₁.length = k₂.length)
    (h : routeConfigName name k₁ i₁ = routeConfigName name k₂ i₂) : k₁ = k₂ ∧ i₁ = i₂ := by
  unfold routeConfigName at h
  simp only [List.append_assoc, List.append_right_inj] at h
  obtain ⟨hkey, hrest⟩ := List.append_inj h hk
  exact ⟨hkey, Text.toDigits_ten_injective (List.cons.inj hrest).2⟩

/-- A name that is some listener's generated name for a key of the length
of an MD5 hex digest. -/
def IsGenerated (name n : Key) : Prop := ∃ key i, key.length = 32 ∧ n = routeConfigName name key i

/-! ### The transform -/

section Transform

variable {M V : Type} (marshal : M → List UInt8) (md5 : List UInt8 → Fin 16 → UInt8)

/-- The `if rc.Name == ""` block: a nameless route configuration of a chain
whose match is `m` is named, and `matchKeyIndex` counts the name given. -/
def nameRouteConfig (name : Key) (m : M) (rc : RouteConfiguration V) (matchKeyIndex : Dict Key ℕ) :
    RouteConfiguration V × Dict Key ℕ :=
  if rc.Name = [] then
    let key := matchKey marshal md5 m
    ({ rc with Name := routeConfigName name key ((matchKeyIndex.get? key).getD 0) },
      matchKeyIndex.set key ((matchKeyIndex.get? key).getD 0 + 1))
  else (rc, matchKeyIndex)

/-- The body of the inner loop, for filter `f` of a chain whose match is `m`,
with the routes extracted so far and `matchKeyIndex`. A filter that is not an
HTTP connection manager, or whose manager has no inline route configuration,
comes out as it was: the code re-marshals the manager unchanged. -/
def rdsFilter (name : Key) (m : M) (f : Filter V) (st : List (RouteConfiguration V) × Dict Key ℕ) :
    Filter V × (List (RouteConfiguration V) × Dict Key ℕ) :=
  if f.Name ≠ HTTPConnectionManager then (f, st)
  else
    match f.ConfigType with
    | .other _ => (f, st)
    | .HttpConnectionManager hcm =>
      match hcm.RouteSpecifier with
      | .RouteConfig rc =>
        let named := nameRouteConfig marshal md5 name m rc st.2
        ({ f with ConfigType := .HttpConnectionManager { hcm with RouteSpecifier := .Rds (.Ads .V3) named.1.Name } },
          (st.1 ++ [named.1], named.2))
      | _ => (f, st)

/-- The inner loop, over the filters of a chain whose match is `m`. -/
def rdsFilters (name : Key) (m : M) :
    List (Filter V) → List (RouteConfiguration V) × Dict Key ℕ →
      List (Filter V) × (List (RouteConfiguration V) × Dict Key ℕ)
  | [], st => ([], st)
  | f :: fs, st =>
    let r := rdsFilter marshal md5 name m f st
    let rs := rdsFilters name m fs r.2
    (r.1 :: rs.1, rs.2)

/-- The outer loop, over the filter chains. -/
def rdsChains (name : Key) :
    List (FilterChain M V) → List (RouteConfiguration V) × Dict Key ℕ →
      List (FilterChain M V) × (List (RouteConfiguration V) × Dict Key ℕ)
  | [], st => ([], st)
  | fc :: fcs, st =>
    let r := rdsFilters marshal md5 name fc.FilterChainMatch fc.Filters st
    let rs := rdsChains name fcs r.2
    ({ fc with Filters := r.1 } :: rs.1, rs.2)

/-- `V3ListenerToRdsListener`: the listener with its inline route
configurations replaced by RDS references, and those configurations. Its
error, from re-marshalling a manager, does not arise: the model's strings
are valid UTF-8. -/
def V3ListenerToRdsListener (l : Listener M V) : Listener M V × List (RouteConfiguration V) :=
  let r := rdsChains marshal md5 l.Name l.FilterChains ([], ∅)
  ({ l with FilterChains := r.1 }, r.2.1)

/-! ### What one filter does -/

/-- The inline route configuration the transform takes out of a filter: that
of an HTTP connection manager under its well-known name. -/
def Filter.inlineRouteConfig (f : Filter V) : Option (RouteConfiguration V) :=
  if f.Name ≠ HTTPConnectionManager then none
  else
    match f.ConfigType with
    | .HttpConnectionManager hcm =>
      match hcm.RouteSpecifier with
      | .RouteConfig rc => some rc
      | _ => none
    | .other _ => none

/-- The filter with its manager's route specifier rewritten by `g`. -/
def Filter.mapRouteSpecifier (g : RouteSpecifier V → RouteSpecifier V) (f : Filter V) : Filter V :=
  match f.ConfigType with
  | .HttpConnectionManager hcm =>
    { f with ConfigType := .HttpConnectionManager { hcm with RouteSpecifier := g hcm.RouteSpecifier } }
  | .other _ => f

/-- One naming step over an extracted route configuration and its chain's
match: the routes with the named configuration appended, and the counters. -/
def nameStep (name : Key) (st : List (RouteConfiguration V) × Dict Key ℕ) (c : M × RouteConfiguration V) :
    List (RouteConfiguration V) × Dict Key ℕ :=
  (st.1 ++ [(nameRouteConfig marshal md5 name c.1 c.2 st.2).1], (nameRouteConfig marshal md5 name c.1 c.2 st.2).2)

/-- **Everything one pass of the inner loop can do**: leave a filter without
inline route configuration alone, or name its configuration, collect it and
point the manager at it through ADS. -/
theorem rdsFilter_cases (name : Key) (m : M) (f : Filter V) (st : List (RouteConfiguration V) × Dict Key ℕ) :
    (f.inlineRouteConfig = none ∧ rdsFilter marshal md5 name m f st = (f, st)) ∨
    ∃ rc, f.inlineRouteConfig = some rc ∧
      rdsFilter marshal md5 name m f st =
        (f.mapRouteSpecifier fun _ => .Rds (.Ads .V3) (nameRouteConfig marshal md5 name m rc st.2).1.Name,
          nameStep marshal md5 name st (m, rc)) := by
  unfold rdsFilter Filter.inlineRouteConfig
  by_cases hn : f.Name ≠ HTTPConnectionManager
  · exact .inl ⟨if_pos hn, if_pos hn⟩
  rw [if_neg hn, if_neg hn]
  obtain ⟨fname, config⟩ := f
  cases config with
  | other spec => exact .inl ⟨rfl, rfl⟩
  | HttpConnectionManager hcm =>
    obtain ⟨spec, rest⟩ := hcm
    cases spec with
    | RouteConfig rc => exact .inr ⟨rc, rfl, rfl⟩
    | Rds src n => exact .inl ⟨rfl, rfl⟩
    | ScopedRoutes x => exact .inl ⟨rfl, rfl⟩
    | unset => exact .inl ⟨rfl, rfl⟩

theorem nameRouteConfig_rest (name : Key) (m : M) (rc : RouteConfiguration V) (idx : Dict Key ℕ) :
    (nameRouteConfig marshal md5 name m rc idx).1.rest = rc.rest := by
  unfold nameRouteConfig
  split <;> rfl

/-! ### The loops, flattened -/

/-- The inline route configurations of a chain, each with the chain's match. -/
def FilterChain.inlineRouteConfigs (fc : FilterChain M V) : List (M × RouteConfiguration V) :=
  fc.Filters.filterMap fun f => f.inlineRouteConfig.map (fc.FilterChainMatch, ·)

/-- The inline route configurations of a listener, in the order of the loops. -/
def Listener.inlineRouteConfigs (l : Listener M V) : List (M × RouteConfiguration V) :=
  l.FilterChains.flatMap FilterChain.inlineRouteConfigs

/-- The inner loop names the inline configurations of its filters in turn. -/
theorem rdsFilters_routes (name : Key) (m : M) :
    ∀ (fs : List (Filter V)) (st : List (RouteConfiguration V) × Dict Key ℕ),
      (rdsFilters marshal md5 name m fs st).2 =
        (fs.filterMap fun f => f.inlineRouteConfig.map (m, ·)).foldl (nameStep marshal md5 name) st
  | [], _ => rfl
  | f :: fs, st => by
    simp only [rdsFilters]
    rcases rdsFilter_cases marshal md5 name m f st with ⟨hnone, hr⟩ | ⟨rc, hsome, hr⟩
    · rw [hr, rdsFilters_routes name m fs st, List.filterMap_cons, hnone, Option.map_none]
    · rw [hr, rdsFilters_routes name m fs _, List.filterMap_cons, hsome, Option.map_some, List.foldl_cons]

/-- **The outer loop names the listener's inline configurations in turn**,
one counter per match hash shared by all chains. -/
theorem rdsChains_routes (name : Key) :
    ∀ (fcs : List (FilterChain M V)) (st : List (RouteConfiguration V) × Dict Key ℕ),
      (rdsChains marshal md5 name fcs st).2 =
        (fcs.flatMap FilterChain.inlineRouteConfigs).foldl (nameStep marshal md5 name) st
  | [], _ => rfl
  | fc :: fcs, st => by
    simp only [rdsChains, List.flatMap_cons, List.foldl_append]
    rw [rdsChains_routes name fcs, rdsFilters_routes]
    rfl

theorem V3ListenerToRdsListener_snd (l : Listener M V) :
    (V3ListenerToRdsListener marshal md5 l).2 =
      (l.inlineRouteConfigs.foldl (nameStep marshal md5 l.Name) ([], ∅)).1 := by
  simp only [V3ListenerToRdsListener, rdsChains_routes]
  rfl

/-- The routes only grow along the loops. -/
theorem prefix_foldl_nameStep (name : Key) :
    ∀ (cs : List (M × RouteConfiguration V)) (st : List (RouteConfiguration V) × Dict Key ℕ),
      st.1 <+: (cs.foldl (nameStep marshal md5 name) st).1
  | [], _ => List.prefix_refl _
  | c :: cs, st => by
    rw [List.foldl_cons]
    exact (List.prefix_append st.1 _).trans (prefix_foldl_nameStep name cs (nameStep marshal md5 name st c))

/-! ### What the loops make of each filter -/

/-- What the transform makes of a filter, given the routes it ends with: the
filter itself if it has no inline route configuration, or the filter
pointing through ADS at a route with the configuration's content. -/
def RdsRel (routes : List (RouteConfiguration V)) (f f' : Filter V) : Prop :=
  (f.inlineRouteConfig = none ∧ f' = f) ∨
  ∃ rc rc', f.inlineRouteConfig = some rc ∧ rc' ∈ routes ∧ rc'.rest = rc.rest ∧
    f' = f.mapRouteSpecifier fun _ => .Rds (.Ads .V3) rc'.Name

theorem RdsRel.mono {routes routes' : List (RouteConfiguration V)} (h : routes ⊆ routes') {f f' : Filter V}
    (hr : RdsRel routes f f') : RdsRel routes' f f' := by
  rcases hr with hr | ⟨rc, rc', hrc, hmem, hrest, hf⟩
  · exact .inl hr
  · exact .inr ⟨rc, rc', hrc, h hmem, hrest, hf⟩

theorem rdsFilters_rel (name : Key) (m : M) :
    ∀ (fs : List (Filter V)) (st : List (RouteConfiguration V) × Dict Key ℕ),
      List.Forall₂ (RdsRel (rdsFilters marshal md5 name m fs st).2.1) fs (rdsFilters marshal md5 name m fs st).1
  | [], _ => List.Forall₂.nil
  | f :: fs, st => by
    simp only [rdsFilters]
    refine List.Forall₂.cons ?_ (rdsFilters_rel name m fs _)
    -- what this filter adds is among the routes the rest of the loop ends with
    have hgrow : (rdsFilter marshal md5 name m f st).2.1 ⊆
        (rdsFilters marshal md5 name m fs (rdsFilter marshal md5 name m f st).2).2.1 := by
      rw [rdsFilters_routes]
      exact (prefix_foldl_nameStep marshal md5 name _ _).subset
    rcases rdsFilter_cases marshal md5 name m f st with ⟨hnone, hr⟩ | ⟨rc, hsome, hr⟩
    · rw [hr]
      exact .inl ⟨hnone, rfl⟩
    · rw [hr] at hgrow ⊢
      refine .inr ⟨rc, _, hsome, hgrow ?_, nameRouteConfig_rest marshal md5 name m rc st.2, rfl⟩
      exact List.mem_append_right _ (List.mem_singleton_self _)

/-- **Each chain keeps its match, and each filter is related to what it was**,
against the routes the whole transform ends with. -/
theorem rdsChains_rel (name : Key) :
    ∀ (fcs : List (FilterChain M V)) (st : List (RouteConfiguration V) × Dict Key ℕ),
      List.Forall₂ (fun fc fc' => fc'.FilterChainMatch = fc.FilterChainMatch ∧
          List.Forall₂ (RdsRel (rdsChains marshal md5 name fcs st).2.1) fc.Filters fc'.Filters)
        fcs (rdsChains marshal md5 name fcs st).1
  | [], _ => List.Forall₂.nil
  | fc :: fcs, st => by
    simp only [rdsChains]
    refine List.Forall₂.cons ⟨rfl, ?_⟩ (rdsChains_rel name fcs _)
    -- the chain's routes are among those the later chains end with
    have hgrow : (rdsFilters marshal md5 name fc.FilterChainMatch fc.Filters st).2.1 ⊆
        (rdsChains marshal md5 name fcs (rdsFilters marshal md5 name fc.FilterChainMatch fc.Filters st).2).2.1 := by
      rw [rdsChains_routes]
      exact (prefix_foldl_nameStep marshal md5 name _ _).subset
    exact (rdsFilters_rel marshal md5 name fc.FilterChainMatch fc.Filters st).imp fun _ _ => RdsRel.mono hgrow

/-! ### What Envoy makes of the result -/

/-- How Envoy reads a route specifier in a snapshot whose route
configurations are `routes`: an RDS reference through ADS stands for the
configuration of that name there. -/
def RouteSpecifier.resolve (routes : List (RouteConfiguration V)) : RouteSpecifier V → RouteSpecifier V
  | .Rds (.Ads v) n =>
    match routes.find? (fun rc => rc.Name = n) with
    | some rc => .RouteConfig rc
    | none => .Rds (.Ads v) n
  | s => s

/-- A route specifier without the name of its inline configuration, which
Envoy does not read. -/
def RouteSpecifier.eraseName : RouteSpecifier V → RouteSpecifier V
  | .RouteConfig rc => .RouteConfig { rc with Name := [] }
  | s => s

/-- The route specifier of a filter's HTTP connection manager. -/
def Filter.routeSpecifier? (f : Filter V) : Option (RouteSpecifier V) :=
  match f.ConfigType with
  | .HttpConnectionManager hcm => some hcm.RouteSpecifier
  | .other _ => none

/-- The route specifiers of a listener's HTTP connection managers. -/
def Listener.routeSpecifiers (l : Listener M V) : List (RouteSpecifier V) :=
  l.FilterChains.flatMap fun fc => fc.Filters.filterMap Filter.routeSpecifier?

/-- The listener with the route specifiers of its managers rewritten by `g`. -/
def Listener.mapRouteSpecifier (g : RouteSpecifier V → RouteSpecifier V) (l : Listener M V) : Listener M V :=
  { l with FilterChains := l.FilterChains.map fun fc => { fc with Filters := fc.Filters.map (Filter.mapRouteSpecifier g) } }

theorem Filter.mapRouteSpecifier_mapRouteSpecifier (g h : RouteSpecifier V → RouteSpecifier V) (f : Filter V) :
    (f.mapRouteSpecifier g).mapRouteSpecifier h = f.mapRouteSpecifier (h ∘ g) := by
  obtain ⟨name, _ | spec⟩ := f <;> rfl

/-- Rewrites that agree on a filter's route specifier agree on the filter. -/
theorem Filter.mapRouteSpecifier_congr {f : Filter V} {g h : RouteSpecifier V → RouteSpecifier V}
    (hgh : ∀ s, f.routeSpecifier? = some s → g s = h s) : f.mapRouteSpecifier g = f.mapRouteSpecifier h := by
  obtain ⟨name, hcm | spec⟩ := f
  · simp only [mapRouteSpecifier, hgh hcm.RouteSpecifier rfl]
  · rfl

theorem Filter.routeSpecifier?_of_inlineRouteConfig {f : Filter V} {rc : RouteConfiguration V}
    (h : f.inlineRouteConfig = some rc) : f.routeSpecifier? = some (.RouteConfig rc) := by
  unfold inlineRouteConfig at h
  split at h
  · cases h
  · obtain ⟨name, ⟨spec, rest⟩ | x⟩ := f
    · cases spec <;> simp_all [routeSpecifier?]
    · cases h

/-- Among routes of distinct names, a route is the one found by its name. -/
theorem find?_name_of_mem {routes : List (RouteConfiguration V)} (hnd : (routes.map (·.Name)).Nodup)
    {rc : RouteConfiguration V} (h : rc ∈ routes) : routes.find? (fun r => r.Name = rc.Name) = some rc := by
  induction routes with
  | nil => cases h
  | cons r rs ih =>
    rw [List.map_cons, List.nodup_cons] at hnd
    rcases List.mem_cons.mp h with rfl | hrs
    · simp
    · -- `r` has another name, so the search goes on past it
      have hne : r.Name ≠ rc.Name := fun he => hnd.1 (he ▸ List.mem_map_of_mem hrs)
      rw [List.find?_cons, decide_eq_false hne]
      exact ih hnd.2 hrs

/-- A specifier that is no ADS reference to one of `routes` resolves to itself. -/
theorem RouteSpecifier.resolve_eq_self {routes : List (RouteConfiguration V)} {s : RouteSpecifier V}
    (h : ∀ v n, s = .Rds (.Ads v) n → n ∉ routes.map (·.Name)) : s.resolve routes = s := by
  cases s with
  | Rds src n =>
    cases src with
    | Ads v =>
      have hnone : routes.find? (fun rc => rc.Name = n) = none := by
        rw [List.find?_eq_none]
        intro rc hrc hn
        exact h v n rfl (List.mem_map.mpr ⟨rc, hrc, of_decide_eq_true hn⟩)
      simp only [resolve, hnone]
    | other x => rfl
  | RouteConfig rc => rfl
  | ScopedRoutes x => rfl
  | unset => rfl

/-- **A filter means what it meant**: resolved against routes of distinct
names, the filter the transform makes is the filter it was, up to the names
of inline configurations. -/
theorem RdsRel.resolve {routes : List (RouteConfiguration V)} (hnd : (routes.map (·.Name)).Nodup)
    {f f' : Filter V} (h : RdsRel routes f f')
    (hrefs : ∀ v n, f.routeSpecifier? = some (.Rds (.Ads v) n) → n ∉ routes.map (·.Name)) :
    (f'.mapRouteSpecifier (RouteSpecifier.resolve routes)).mapRouteSpecifier RouteSpecifier.eraseName =
      f.mapRouteSpecifier RouteSpecifier.eraseName := by
  rw [Filter.mapRouteSpecifier_mapRouteSpecifier]
  rcases h with ⟨-, rfl⟩ | ⟨rc, rc', hrc, hmem, hrest, rfl⟩
  · -- untouched: its own references name no extracted route
    refine Filter.mapRouteSpecifier_congr fun s hs => ?_
    rw [Function.comp_apply, RouteSpecifier.resolve_eq_self fun v n hsn => hrefs v n (hsn ▸ hs)]
  · -- the reference finds the configuration, with the content it had
    rw [Filter.mapRouteSpecifier_mapRouteSpecifier]
    refine Filter.mapRouteSpecifier_congr fun s hs => ?_
    rw [Filter.routeSpecifier?_of_inlineRouteConfig hrc, Option.some.injEq] at hs
    subst hs
    simp only [Function.comp_apply, RouteSpecifier.resolve, find?_name_of_mem hnd hmem,
      RouteSpecifier.eraseName, hrest]

/-- Lists related pointwise have equal images under maps that agree on the
related pairs. -/
theorem map_eq_of_forall₂ {α β γ : Type} {R : α → β → Prop} {F : β → γ} {G : α → γ} {as : List α} {bs : List β}
    (h : List.Forall₂ R as bs) (hFG : ∀ a ∈ as, ∀ b, R a b → F b = G a) : bs.map F = as.map G := by
  induction h with
  | nil => rfl
  | cons hab _ ih =>
    rw [List.map_cons, List.map_cons, hFG _ List.mem_cons_self _ hab,
      ih fun a ha => hFG a (List.mem_cons_of_mem _ ha)]

/-- **The transform keeps the listener's meaning**: when the routes it
extracts have distinct names and none of them is named by an ADS reference
the listener already had, resolving the new listener's RDS references
against them gives the listener back, up to the names of inline route
configurations. -/
theorem V3ListenerToRdsListener_resolves (l : Listener M V)
    (hnd : ((V3ListenerToRdsListener marshal md5 l).2.map (·.Name)).Nodup)
    (hrefs : ∀ v n, RouteSpecifier.Rds (.Ads v) n ∈ l.routeSpecifiers →
      n ∉ (V3ListenerToRdsListener marshal md5 l).2.map (·.Name)) :
    ((V3ListenerToRdsListener marshal md5 l).1.mapRouteSpecifier
        (RouteSpecifier.resolve (V3ListenerToRdsListener marshal md5 l).2)).mapRouteSpecifier
          RouteSpecifier.eraseName =
      l.mapRouteSpecifier RouteSpecifier.eraseName := by
  obtain ⟨name, chains, rest⟩ := l
  simp only [V3ListenerToRdsListener, Listener.mapRouteSpecifier, List.map_map] at hnd hrefs ⊢
  congr 1
  refine map_eq_of_forall₂ (rdsChains_rel marshal md5 name chains ([], ∅)) fun fc hfc fc' ⟨hmatch, hfs⟩ => ?_
  simp only [Function.comp_apply, List.map_map]
  obtain ⟨m', fs'⟩ := fc'
  simp only at hmatch hfs ⊢
  rw [hmatch, map_eq_of_forall₂ hfs fun f hf f' hr => ?_]
  -- each filter, with the references it already had
  rw [Function.comp_apply, Filter.mapRouteSpecifier_mapRouteSpecifier, ← Filter.mapRouteSpecifier_mapRouteSpecifier]
  exact RdsRel.resolve hnd hr fun v n hs =>
    hrefs v n (List.mem_flatMap.mpr ⟨fc, hfc, List.mem_filterMap.mpr ⟨f, hf, hs⟩⟩)

/-! ### The names given -/

/-- The names the configurations carry already, in order. -/
def explicitNames (cs : List (M × RouteConfiguration V)) : List Key :=
  (cs.map (·.2.Name)).filter (· ≠ [])

/-- What naming keeps between steps, with `E` the names carried by the
configurations named so far: the routes have distinct, non-empty names, each
one of `E` or generated with an index below its key's counter. -/
structure NamesOK (name : Key) (E : List Key) (st : List (RouteConfiguration V) × Dict Key ℕ) : Prop where
  nodup : (st.1.map (·.Name)).Nodup
  nonempty : ∀ r ∈ st.1, r.Name ≠ []
  explicit : ∀ e ∈ E, ¬IsGenerated name e
  origin : ∀ r ∈ st.1, r.Name ∈ E ∨
    ∃ k i, k.length = 32 ∧ r.Name = routeConfigName name k i ∧ i < (st.2.get? k).getD 0

theorem routeConfigName_ne_nil (name key : Key) (i : ℕ) : routeConfigName name key i ≠ [] := by
  simp [routeConfigName]

/-- **One naming step keeps the names apart**: a generated name takes the
next index of its key, and a name carried already is new by hypothesis. -/
theorem NamesOK.step {name : Key} {E : List Key} {st : List (RouteConfiguration V) × Dict Key ℕ}
    (h : NamesOK name E st) (c : M × RouteConfiguration V)
    (hfresh : c.2.Name ≠ [] → c.2.Name ∉ E ∧ ¬IsGenerated name c.2.Name) :
    NamesOK name (E ++ explicitNames [c]) (nameStep marshal md5 name st c) := by
  obtain ⟨m, rc⟩ := c
  by_cases hrc : rc.Name = []
  · -- a generated name, at index `j` of key `K`
    have hE : explicitNames [(m, rc)] = [] := by simp [explicitNames, hrc]
    rw [hE, List.append_nil]
    set K := matchKey marshal md5 m with hK
    set j := (st.2.get? K).getD 0 with hj
    have hKlen : K.length = 32 := length_matchKey marshal md5 m
    have hstep : nameStep marshal md5 name st (m, rc) =
        (st.1 ++ [{ rc with Name := routeConfigName name K j }], st.2.set K (j + 1)) := by
      simp only [nameStep, nameRouteConfig, if_pos hrc]
      rfl
    -- the counters only grow
    have hgrow : ∀ k, (st.2.get? k).getD 0 ≤ ((st.2.set K (j + 1)).get? k).getD 0 := by
      intro k
      by_cases hk : k = K
      · subst hk
        simp [hj]
      · rw [Dict.get?_set_ne _ _ hk]
    have hnew : routeConfigName name K j ∉ st.1.map (·.Name) := by
      intro hmem
      obtain ⟨r, hr, hrn⟩ := List.mem_map.mp hmem
      rcases h.origin r hr with hE' | ⟨k, i, hk, hri, hi⟩
      · exact h.explicit _ hE' ⟨K, j, hKlen, hrn⟩
      · obtain ⟨rfl, rfl⟩ := routeConfigName_inj (hk.trans hKlen.symm) (hri.symm.trans hrn)
        omega
    rw [hstep]
    refine ⟨?_, ?_, h.explicit, ?_⟩
    · rw [List.map_append, List.nodup_append]
      refine ⟨h.nodup, List.nodup_singleton _, ?_⟩
      intro a ha b hb hab
      simp only [List.map_singleton, List.mem_singleton] at hb
      exact hnew (by rw [← hb, ← hab]; exact ha)
    · intro r hr
      rcases List.mem_append.mp hr with hr | hr
      · exact h.nonempty r hr
      · rw [List.mem_singleton.mp hr]
        exact routeConfigName_ne_nil name K j
    · intro r hr
      rcases List.mem_append.mp hr with hr | hr
      · rcases h.origin r hr with hE' | ⟨k, i, hk, hri, hi⟩
        · exact .inl hE'
        · exact .inr ⟨k, i, hk, hri, Nat.lt_of_lt_of_le hi (hgrow k)⟩
      · rw [List.mem_singleton.mp hr]
        exact .inr ⟨K, j, hKlen, rfl, by simp⟩
  · -- a name carried already: new, and not of the generated form
    obtain ⟨hnotE, hnotgen⟩ := hfresh hrc
    have hE : explicitNames [(m, rc)] = [rc.Name] := by simp [explicitNames, hrc]
    rw [hE]
    have hstep : nameStep marshal md5 name st (m, rc) = (st.1 ++ [rc], st.2) := by
      simp only [nameStep, nameRouteConfig, if_neg hrc]
    have hnew : rc.Name ∉ st.1.map (·.Name) := by
      intro hmem
      obtain ⟨r, hr, hrn⟩ := List.mem_map.mp hmem
      rcases h.origin r hr with hE' | ⟨k, i, hk, hri, -⟩
      · exact hnotE (hrn ▸ hE')
      · exact hnotgen ⟨k, i, hk, hrn ▸ hri⟩
    rw [hstep]
    refine ⟨?_, ?_, ?_, ?_⟩
    · rw [List.map_append, List.nodup_append]
      refine ⟨h.nodup, List.nodup_singleton _, ?_⟩
      intro a ha b hb hab
      simp only [List.map_singleton, List.mem_singleton] at hb
      exact hnew (by rw [← hb, ← hab]; exact ha)
    · intro r hr
      rcases List.mem_append.mp hr with hr | hr
      · exact h.nonempty r hr
      · rw [List.mem_singleton.mp hr]
        exact hrc
    · intro e he
      rcases List.mem_append.mp he with he | he
      · exact h.explicit e he
      · rw [List.mem_singleton.mp he]
        exact hnotgen
    · intro r hr
      rcases List.mem_append.mp hr with hr | hr
      · rcases h.origin r hr with hE' | hgen
        · exact .inl (List.mem_append_left _ hE')
        · exact .inr hgen
      · rw [List.mem_singleton.mp hr]
        exact .inl (List.mem_append_right _ (List.mem_singleton_self _))

theorem explicitNames_cons (c : M × RouteConfiguration V) (cs : List (M × RouteConfiguration V)) :
    explicitNames (c :: cs) = explicitNames [c] ++ explicitNames cs := by
  simp only [explicitNames, List.map_cons, List.map_nil, List.filter_cons, List.filter_nil]
  split <;> rfl

/-- **Naming keeps the names apart along the whole loop**, when the names
carried already are distinct and none of the generated form. -/
theorem NamesOK.foldl (name : Key) :
    ∀ (cs : List (M × RouteConfiguration V)) {E : List Key} {st : List (RouteConfiguration V) × Dict Key ℕ},
      NamesOK name E st → (E ++ explicitNames cs).Nodup →
      (∀ c ∈ cs, c.2.Name ≠ [] → ¬IsGenerated name c.2.Name) →
      NamesOK name (E ++ explicitNames cs) (cs.foldl (nameStep marshal md5 name) st)
  | [], E, st, h, _, _ => by simpa [explicitNames] using h
  | c :: cs, E, st, h, hnd, hgen => by
    rw [explicitNames_cons, ← List.append_assoc] at hnd ⊢
    rw [List.foldl_cons]
    refine NamesOK.foldl name cs (h.step marshal md5 c fun hc => ⟨?_, hgen c List.mem_cons_self hc⟩) hnd
      fun c' hc' => hgen c' (List.mem_cons_of_mem _ hc')
    -- the name `c` carries comes after `E` in a list without repeats
    have hE : explicitNames [c] = [c.2.Name] := by simp [explicitNames, hc]
    rw [hE] at hnd
    exact fun hmem => (List.nodup_append.mp (List.nodup_append.mp hnd).1).2.2 _ hmem _
      (List.mem_singleton_self _) rfl

/-- **The extracted routes have distinct, non-empty names**, each one the
configuration carried already or a generated one, when the names carried
already are distinct and none of the generated form. -/
theorem V3ListenerToRdsListener_names (l : Listener M V)
    (hexpl : (explicitNames l.inlineRouteConfigs).Nodup)
    (hgen : ∀ c ∈ l.inlineRouteConfigs, c.2.Name ≠ [] → ¬IsGenerated l.Name c.2.Name) :
    ((V3ListenerToRdsListener marshal md5 l).2.map (·.Name)).Nodup ∧
      ∀ r ∈ (V3ListenerToRdsListener marshal md5 l).2, r.Name ≠ [] ∧
        (r.Name ∈ explicitNames l.inlineRouteConfigs ∨ IsGenerated l.Name r.Name) := by
  have hinit : NamesOK (V := V) l.Name [] ([], ∅) :=
    ⟨List.nodup_nil, fun _ h => (List.not_mem_nil h).elim, fun _ h => (List.not_mem_nil h).elim,
      fun _ h => (List.not_mem_nil h).elim⟩
  have h := NamesOK.foldl marshal md5 l.Name l.inlineRouteConfigs hinit (by simpa using hexpl) hgen
  rw [List.nil_append] at h
  rw [V3ListenerToRdsListener_snd]
  refine ⟨h.nodup, fun r hr => ⟨h.nonempty r hr, ?_⟩⟩
  rcases h.origin r hr with hE | ⟨k, i, hk, hri, -⟩
  · exact .inl hE
  · exact .inr ⟨k, i, hk, hri⟩

/-- **The transform keeps a listener's meaning.** If the route
configurations a listener holds inline carry distinct names, none of the
generated form, and no ADS reference it holds already names one of them or
a generated name, then the routes the transform extracts have distinct,
non-empty names, and resolving the RDS references of the listener it makes
against them gives the listener back, up to the names of inline route
configurations. -/
theorem V3ListenerToRdsListener_keeps_meaning (l : Listener M V)
    (hexpl : (explicitNames l.inlineRouteConfigs).Nodup)
    (hgen : ∀ c ∈ l.inlineRouteConfigs, c.2.Name ≠ [] → ¬IsGenerated l.Name c.2.Name)
    (hrefs : ∀ v n, RouteSpecifier.Rds (.Ads v) n ∈ l.routeSpecifiers →
      n ∉ explicitNames l.inlineRouteConfigs ∧ ¬IsGenerated l.Name n) :
    ((V3ListenerToRdsListener marshal md5 l).1.mapRouteSpecifier
        (RouteSpecifier.resolve (V3ListenerToRdsListener marshal md5 l).2)).mapRouteSpecifier
          RouteSpecifier.eraseName = l.mapRouteSpecifier RouteSpecifier.eraseName ∧
      ((V3ListenerToRdsListener marshal md5 l).2.map (·.Name)).Nodup ∧
      ∀ r ∈ (V3ListenerToRdsListener marshal md5 l).2, r.Name ≠ [] := by
  obtain ⟨hnd, hall⟩ := V3ListenerToRdsListener_names marshal md5 l hexpl hgen
  -- an old reference names neither kind of extracted name
  have hrefs' : ∀ v n, RouteSpecifier.Rds (.Ads v) n ∈ l.routeSpecifiers →
      n ∉ (V3ListenerToRdsListener marshal md5 l).2.map (·.Name) := by
    intro v n hn hmem
    obtain ⟨r, hr, rfl⟩ := List.mem_map.mp hmem
    obtain ⟨hnotE, hnotgen⟩ := hrefs v _ hn
    rcases (hall r hr).2 with hE | hgen'
    · exact hnotE hE
    · exact hnotgen hgen'
  exact ⟨V3ListenerToRdsListener_resolves marshal md5 l hnd hrefs', hnd, fun r hr => (hall r hr).1⟩

/-! ### The transform on its own output -/

theorem Filter.inlineRouteConfig_mapRouteSpecifier_rds (f : Filter V) (src : ConfigSource) (n : Key) :
    (f.mapRouteSpecifier fun _ => .Rds src n).inlineRouteConfig = none := by
  obtain ⟨name, hcm | spec⟩ := f
  · simp only [Filter.mapRouteSpecifier, Filter.inlineRouteConfig]
    exact ite_self _
  · simp only [Filter.mapRouteSpecifier, Filter.inlineRouteConfig]
    exact ite_self _

/-- What the transform makes of a filter holds no inline configuration. -/
theorem RdsRel.inlineRouteConfig_eq_none {routes : List (RouteConfiguration V)} {f f' : Filter V}
    (h : RdsRel routes f f') : f'.inlineRouteConfig = none := by
  rcases h with ⟨hnone, rfl⟩ | ⟨-, rc', -, -, -, rfl⟩
  · exact hnone
  · exact Filter.inlineRouteConfig_mapRouteSpecifier_rds _ _ _

theorem forall_mem_of_forall₂ {α β : Type} {R : α → β → Prop} {P : β → Prop} {as : List α} {bs : List β}
    (h : List.Forall₂ R as bs) (hR : ∀ a b, R a b → P b) : ∀ b ∈ bs, P b := by
  induction h with
  | nil => exact fun _ hb => (List.not_mem_nil hb).elim
  | cons hab _ ih =>
    intro b hb
    rcases List.mem_cons.mp hb with rfl | hb
    · exact hR _ _ hab
    · exact ih b hb

theorem rdsFilters_of_inline_none (name : Key) (m : M) :
    ∀ (fs : List (Filter V)) (st : List (RouteConfiguration V) × Dict Key ℕ),
      (∀ f ∈ fs, f.inlineRouteConfig = none) → rdsFilters marshal md5 name m fs st = (fs, st)
  | [], _, _ => rfl
  | f :: fs, st, h => by
    simp only [rdsFilters]
    rcases rdsFilter_cases marshal md5 name m f st with ⟨-, hr⟩ | ⟨rc, hsome, -⟩
    · rw [hr, rdsFilters_of_inline_none name m fs st fun f' hf' => h f' (List.mem_cons_of_mem _ hf')]
    · rw [h f List.mem_cons_self] at hsome
      cases hsome

theorem rdsChains_of_inline_none (name : Key) :
    ∀ (fcs : List (FilterChain M V)) (st : List (RouteConfiguration V) × Dict Key ℕ),
      (∀ fc ∈ fcs, ∀ f ∈ fc.Filters, f.inlineRouteConfig = none) → rdsChains marshal md5 name fcs st = (fcs, st)
  | [], _, _ => rfl
  | fc :: fcs, st, h => by
    simp only [rdsChains]
    rw [rdsFilters_of_inline_none marshal md5 name _ fc.Filters st (h fc List.mem_cons_self),
      rdsChains_of_inline_none name fcs st fun fc' hfc' => h fc' (List.mem_cons_of_mem _ hfc')]

/-- **The transform leaves its own output as it is**, and extracts nothing
from it: a listener that went through it once has no inline route
configuration left. -/
theorem V3ListenerToRdsListener_idem (l : Listener M V) :
    V3ListenerToRdsListener marshal md5 (V3ListenerToRdsListener marshal md5 l).1 =
      ((V3ListenerToRdsListener marshal md5 l).1, []) := by
  have hnone : ∀ fc ∈ (rdsChains marshal md5 l.Name l.FilterChains ([], ∅)).1,
      ∀ f ∈ fc.Filters, f.inlineRouteConfig = none :=
    forall_mem_of_forall₂ (rdsChains_rel marshal md5 l.Name l.FilterChains ([], ∅))
      fun _ _ hfc => forall_mem_of_forall₂ hfc.2 fun _ _ hr => hr.inlineRouteConfig_eq_none
  simp only [V3ListenerToRdsListener]
  rw [rdsChains_of_inline_none marshal md5 l.Name _ _ hnone]

end Transform

/-- A listener as Ambassador writes it: one HTTP connection manager with an
unnamed inline route configuration. -/
def httpListener : Listener Unit Key :=
  ⟨"ambassador-listener-8080".toList,
    [⟨(), [⟨HTTPConnectionManager, .HttpConnectionManager ⟨.RouteConfig ⟨[], "vhosts".toList⟩, []⟩⟩]⟩], []⟩

/-- Its route configuration is named after the listener, the hash of the
chain's match and the first index. -/
example : (V3ListenerToRdsListener (fun _ => []) (fun _ _ => 0) httpListener).2 =
    [⟨"ambassador-listener-8080-routeconfig-".toList ++ List.replicate 32 '0' ++ "-0".toList,
      "vhosts".toList⟩] := by
  decide

theorem V3ListenerToRdsListener_keeps_meaning_http :
    (explicitNames httpListener.inlineRouteConfigs).Nodup ∧
    (∀ c ∈ httpListener.inlineRouteConfigs, c.2.Name ≠ [] → ¬IsGenerated httpListener.Name c.2.Name) ∧
    (∀ v n, RouteSpecifier.Rds (.Ads v) n ∈ httpListener.routeSpecifiers →
      n ∉ explicitNames httpListener.inlineRouteConfigs ∧ ¬IsGenerated httpListener.Name n) ∧
    (((V3ListenerToRdsListener (fun _ => []) (fun _ _ => 0) httpListener).1.mapRouteSpecifier
        (RouteSpecifier.resolve (V3ListenerToRdsListener (fun _ => []) (fun _ _ => 0) httpListener).2)).mapRouteSpecifier
          RouteSpecifier.eraseName = httpListener.mapRouteSpecifier RouteSpecifier.eraseName ∧
      ((V3ListenerToRdsListener (fun _ => []) (fun _ _ => 0) httpListener).2.map (·.Name)).Nodup ∧
      ∀ r ∈ (V3ListenerToRdsListener (fun _ => []) (fun _ _ => 0) httpListener).2, r.Name ≠ []) := by
  have hexpl : (explicitNames httpListener.inlineRouteConfigs).Nodup := by decide
  have hunnamed : ∀ c ∈ httpListener.inlineRouteConfigs, c.2.Name = [] := by decide
  have hspecs : httpListener.routeSpecifiers = [.RouteConfig ⟨[], "vhosts".toList⟩] := rfl
  have hgen : ∀ c ∈ httpListener.inlineRouteConfigs, c.2.Name ≠ [] → ¬IsGenerated httpListener.Name c.2.Name :=
    fun c hc hne => absurd (hunnamed c hc) hne
  have hrefs : ∀ v n, RouteSpecifier.Rds (.Ads v) n ∈ httpListener.routeSpecifiers →
      n ∉ explicitNames httpListener.inlineRouteConfigs ∧ ¬IsGenerated httpListener.Name n := by
    intro v n hn
    simp [hspecs] at hn
  exact ⟨hexpl, hgen, hrefs,
    V3ListenerToRdsListener_keeps_meaning (fun _ => []) (fun _ _ => 0) httpListener hexpl hgen hrefs⟩

/-! ### Endpoints -/

/-- `Endpoint`: the fields ambex is handed. -/
structure Endpoint where
  ClusterName : Key
  Ip : Key
  Port : ℕ
  Protocol : Key
  deriving DecidableEq, Repr

inductive SocketAddress_Protocol where
  | TCP
  | UDP
  deriving DecidableEq, Repr

/-- `v3core.SocketAddress_Protocol_value[e.Protocol]`: a name the map lacks
reads as the zero value, TCP. -/
def SocketAddress_Protocol_value (p : Key) : SocketAddress_Protocol :=
  if p = "UDP".toList then .UDP else .TCP

/-- An `LbEndpoint` as `ToLbEndpoint_v3` builds it: a socket address. -/
structure LbEndpoint where
  Protocol : SocketAddress_Protocol
  Address : Key
  PortValue : ℕ
  Ipv4Compat : Bool
  deriving DecidableEq, Repr

def Endpoint.ToLbEndpoint_v3 (e : Endpoint) : LbEndpoint :=
  ⟨SocketAddress_Protocol_value e.Protocol, e.Ip, e.Port, true⟩

structure LocalityLbEndpoints where
  LbEndpoints : List LbEndpoint
  deriving DecidableEq, Repr

structure ClusterLoadAssignment where
  ClusterName : Key
  Endpoints : List LocalityLbEndpoints
  deriving DecidableEq, Repr

/-- `Endpoints`: the endpoints of each cluster name. -/
structure Endpoints where
  Entries : Dict Key (List Endpoint)

/-- `ToMap_v3`: one load assignment per name, with that name and the name's
endpoints in one locality. -/
def Endpoints.ToMap_v3 (e : Endpoints) : Dict Key ClusterLoadAssignment :=
  e.Entries.entries.foldl (fun result kv => result.set kv.1 ⟨kv.1, [⟨kv.2.map Endpoint.ToLbEndpoint_v3⟩]⟩) ∅

/-- The load assignment ambex has for a name: its endpoints in one locality,
or an empty assignment under that name, as the join synthesises it. -/
def Endpoints.loadAssignment (e : Endpoints) (ref : Key) : ClusterLoadAssignment :=
  match e.Entries.get? ref with
  | some eps => ⟨ref, [⟨eps.map Endpoint.ToLbEndpoint_v3⟩]⟩
  | none => ⟨ref, []⟩

theorem Endpoints.ToMap_v3_get? (e : Endpoints) (k : Key) :
    e.ToMap_v3.get? k = (e.Entries.get? k).map fun eps => ⟨k, [⟨eps.map Endpoint.ToLbEndpoint_v3⟩]⟩ := by
  have h := Dict.foldl_entries_pointwise (fun d k => Dict.get? d k)
    (fun result (kv : Key × List Endpoint) =>
      result.set kv.1 (⟨kv.1, [⟨kv.2.map Endpoint.ToLbEndpoint_v3⟩]⟩ : ClusterLoadAssignment))
    (fun k eps _ => some ⟨k, [⟨eps.map Endpoint.ToLbEndpoint_v3⟩]⟩)
    (fun d k₀ eps k' => Dict.get?_set _ _ _ _) e.Entries ∅ k
  unfold Endpoints.ToMap_v3
  rw [h]
  cases e.Entries.get? k <;> rfl

/-! ### The EDS join -/

inductive DiscoveryType where
  | STATIC
  | STRICT_DNS
  | LOGICAL_DNS
  | EDS
  | ORIGINAL_DST
  deriving DecidableEq, Repr

/-- The `cluster_discovery_type` oneof. -/
inductive ClusterDiscoveryType where
  | Cluster_Type (t : DiscoveryType)
  | Cluster_ClusterType (spec : Key)
  deriving DecidableEq, Repr

structure EdsClusterConfig where
  ServiceName : Key
  EdsConfig : ConfigSource
  deriving DecidableEq, Repr

/-- A `Cluster`: what the join reads and writes, and the rest, which it
copies. -/
structure Cluster (C : Type) where
  Name : Key
  ClusterDiscoveryType : Option ClusterDiscoveryType
  EdsClusterConfig : Option EdsClusterConfig
  LoadAssignment : Option ClusterLoadAssignment
  rest : C
  deriving DecidableEq, Repr

section Join

variable {C : Type}

/-- The body of `JoinEdsClustersV3`'s loop. With `edsBypass` it rewrites the
cluster in place, as the code does through the pointer; otherwise it appends
the cluster's load assignment to the endpoints. -/
def joinEdsStep (edsEndpoints : Dict Key ClusterLoadAssignment) (edsBypass : Bool)
    (acc : List (Cluster C) × List ClusterLoadAssignment) (c : Cluster C) :
    List (Cluster C) × List ClusterLoadAssignment :=
  match c.EdsClusterConfig with
  | none => (acc.1 ++ [c], acc.2)
  | some eds =>
    let ref := if eds.ServiceName = [] then c.Name else eds.ServiceName
    if edsBypass then
      let la : ClusterLoadAssignment :=
        match edsEndpoints.get? ref with
        | some ep => ep
        | none => ⟨ref, []⟩
      (acc.1 ++ [{ c with
          EdsClusterConfig := none
          ClusterDiscoveryType := some (.Cluster_Type .STATIC)
          LoadAssignment := some la }], acc.2)
    else
      let ep : ClusterLoadAssignment :=
        match edsEndpoints.get? ref with
        | some ep => ep
        | none => ⟨ref, []⟩
      (acc.1 ++ [c], acc.2 ++ [ep])

/-- `JoinEdsClustersV3`: the clusters as the loop leaves them, and the
endpoints it returns. -/
def JoinEdsClustersV3 (clusters : List (Cluster C)) (edsEndpoints : Dict Key ClusterLoadAssignment)
    (edsBypass : Bool) : List (Cluster C) × List ClusterLoadAssignment :=
  clusters.foldl (joinEdsStep edsEndpoints edsBypass) ([], [])

/-- The name an EDS cluster looks its endpoints up by: its service name, or
its own name. -/
def Cluster.edsRef (c : Cluster C) : Option Key :=
  c.EdsClusterConfig.map fun eds => if eds.ServiceName = [] then c.Name else eds.ServiceName

/-- An EDS cluster made static with the load assignment `la`. -/
def Cluster.bypass (c : Cluster C) (la : ClusterLoadAssignment) : Cluster C :=
  { c with EdsClusterConfig := none, ClusterDiscoveryType := some (.Cluster_Type .STATIC), LoadAssignment := some la }

/-- The loop, in closed form: the clusters each rewritten or kept, and one
load assignment per EDS cluster unless bypassed. -/
theorem foldl_joinEdsStep (E : Dict Key ClusterLoadAssignment) (edsBypass : Bool) :
    ∀ (cs : List (Cluster C)) (acc : List (Cluster C) × List ClusterLoadAssignment),
      cs.foldl (joinEdsStep E edsBypass) acc =
        (acc.1 ++ cs.map (fun c => match c.edsRef with
            | some ref => if edsBypass then c.bypass ((E.get? ref).getD ⟨ref, []⟩) else c
            | none => c),
          acc.2 ++ if edsBypass then [] else cs.filterMap fun c => c.edsRef.map fun ref => (E.get? ref).getD ⟨ref, []⟩)
  | [], acc => by simp
  | c :: cs, acc => by
    rw [List.foldl_cons, foldl_joinEdsStep E edsBypass cs]
    -- one step: a cluster without EDS config is kept; an EDS cluster's reference is looked up
    obtain ⟨name, cdt, eds, la, rest⟩ := c
    cases eds with
    | none => cases edsBypass <;> simp [joinEdsStep, Cluster.edsRef]
    | some eds =>
      have hla : ∀ ref : Key, (match E.get? ref with
          | some ep => ep
          | none => (⟨ref, []⟩ : ClusterLoadAssignment)) = (E.get? ref).getD ⟨ref, []⟩ := by
        intro ref
        cases E.get? ref <;> rfl
      cases edsBypass <;> simp [joinEdsStep, Cluster.edsRef, Cluster.bypass, hla]

/-- What the join finds for a name in ambex's endpoints is ambex's load
assignment for it. -/
theorem Endpoints.ToMap_v3_getD (e : Endpoints) (ref : Key) :
    (e.ToMap_v3.get? ref).getD ⟨ref, []⟩ = e.loadAssignment ref := by
  rw [Endpoints.ToMap_v3_get?, Endpoints.loadAssignment]
  cases e.Entries.get? ref <;> rfl

/-- **The snapshot's endpoints are consistent with its clusters, and the
EDS bypass agrees with EDS.** Joined with ambex's endpoints, the EDS path
keeps the clusters and sends, for each EDS cluster in order, one load
assignment, under the name the cluster looks it up by, holding ambex's
endpoints for that name or none. The bypass sends no endpoints, and makes
each EDS cluster static with exactly that assignment, leaving the other
clusters as they were. -/
theorem joinEds_bypass_agrees (cs : List (Cluster C)) (e : Endpoints) :
    JoinEdsClustersV3 cs e.ToMap_v3 false = (cs, cs.filterMap fun c => c.edsRef.map e.loadAssignment) ∧
    (JoinEdsClustersV3 cs e.ToMap_v3 false).2.map (·.ClusterName) = cs.filterMap Cluster.edsRef ∧
    JoinEdsClustersV3 cs e.ToMap_v3 true =
      (cs.map fun c => match c.edsRef with
        | some ref => c.bypass (e.loadAssignment ref)
        | none => c, []) := by
  have heds : JoinEdsClustersV3 cs e.ToMap_v3 false = (cs, cs.filterMap fun c => c.edsRef.map e.loadAssignment) := by
    simp only [JoinEdsClustersV3, foldl_joinEdsStep, Endpoints.ToMap_v3_getD, List.nil_append, if_false,
      Bool.false_eq_true]
    congr 1
    -- without the bypass every cluster is kept
    conv_rhs => rw [← List.map_id cs]
    refine List.map_congr_left fun c _ => ?_
    cases c.edsRef <;> rfl
  refine ⟨heds, ?_, ?_⟩
  · -- each assignment is under its cluster's reference
    rw [heds, List.map_filterMap]
    refine List.filterMap_congr fun c _ => ?_
    cases c.edsRef with
    | none => rfl
    | some ref =>
      simp only [Option.map_some, Endpoints.loadAssignment]
      cases e.Entries.get? ref <;> rfl
  · simp only [JoinEdsClustersV3, foldl_joinEdsStep, Endpoints.ToMap_v3_getD, List.nil_append, if_true]

end Join

end Ambex
end Emissary

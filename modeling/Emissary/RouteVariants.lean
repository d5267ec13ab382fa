/-
# Route variants

`V3RouteVariants.get_variant` (v3route.py) makes a variant of a route for a
matcher and an action. The matcher `xfp-https` makes the route ask for
`x-forwarded-proto: https` (`matcher_xfp`), `xfp-http` makes it stop asking
about that header, and `always` leaves the match. The action `redirect`
swaps the route's target for a redirect to HTTPS (`action_redirect`), and
`route` leaves it. Variants are cached under `<matcher>-<action>`.
`compute_http_routes` (v3listener.py) asks for `xfp-https` on the secure
side and `xfp-http` on the insecure side of an XFP listener.

A request meets a route's match when all of Envoy's conditions hold
(`RouteMatch.matches`): the path, by prefix, exact path or regex (case
sensitivity only for the first two), the runtime fraction's draw, every
header matcher (by lower-case header name) and every query-parameter matcher.

`matcher_xfp` first drops every matcher of the route on `x-forwarded-proto`,
in any letter case. A route that asks for `x-forwarded-proto` itself gets an
`xfp-https` variant that meets requests the route does not
(`xfp_https_variant_escapes`): a Mapping for `x-forwarded-proto: http` then
serves HTTPS requests. The `xfp-http` variant loses the matcher as well,
unless the route has no other header matcher, since an empty list is not
written back (`matcher_xfp_of_only_xfp`).

Caching never changes the route (`get_variants_route`) or a variant handed
out before, and a variant depends only on the route, the matcher and the
action (`CacheOK`, `get_variants_fst`, `get_variants_get?`): at the end of a
run of calls, each variant handed out is still the one cached under its key
(`get_variants_keep_handed_out`).

Only what the variants change or the match reads is modelled: the route's
target is a type parameter, and the route's other members (timeouts, header
rewrites, `_host_constraints`) are copied unchanged and left out.

Key definitions: `matcher_xfp`, `action_redirect`, `V3RouteVariants.get_variant`,
`RouteMatch.matches`.
Key theorems: `matcher_xfp_https_matches`, `xfp_https_variant_escapes`,
`CacheOK.get_variant`, `get_variants_fst`.
-/
import Emissary.Basic
import Emissary.Lib.Dict
import Emissary.Lib.Text

namespace Emissary
namespace RouteVariants

/-! ### Routes -/

/-- How a route's match reads the path (`EnvoyRoute`): `match["prefix"]`,
`match["path"]` or `match["safe_regex"]`. -/
inductive PathMatch where
  | prefix_path (value : Key)
  | exact_path (value : Key)
  | safe_regex (regex : Key)
  deriving DecidableEq, Repr

/-- What a header matcher asks of the header's value (`generate_headers`):
`string_match.exact`, a glob's `prefix_match` or `suffix_match`, or
`safe_regex_match`. -/
inductive HeaderMatch where
  | exact (value : Key)
  | prefix_match (value : Key)
  | suffix_match (value : Key)
  | safe_regex_match (regex : Key)
  deriving DecidableEq, Repr

structure HeaderMatcher where
  name : Key
  header_match : HeaderMatch
  deriving DecidableEq, Repr

/-- What a query-parameter matcher asks (`generate_query_parameters`). -/
inductive QueryParameterMatch where
  | exact (value : Key)
  | safe_regex (regex : Key)
  | present_match
  deriving DecidableEq, Repr

structure QueryParameterMatcher where
  name : Key
  query_match : QueryParameterMatch
  deriving DecidableEq, Repr

/-- `V3Route["match"]`. A missing `headers` is the empty list: `matcher_xfp`
reads it with `match.get("headers") or []`, and `V3Route` writes it only
when it is not empty. -/
structure RouteMatch where
  case_sensitive : Bool := true
  /-- `runtime_fraction.default_value.numerator`, out of a hundred. -/
  runtime_numerator : ℕ := 100
  path : PathMatch
  headers : List HeaderMatcher := []
  query_parameters : List QueryParameterMatcher := []
  deriving DecidableEq, Repr

/-- `V3Route["redirect"]`. -/
inductive Redirect where
  | https_redirect
  | host_redirect (host : Key)
  deriving DecidableEq, Repr

/-- The `envoy.filters.http.ext_authz` entry of `typed_per_filter_config`. -/
inductive ExtAuthzPerRoute where
  | disabled
  | context_extensions (extensions : List (Key × Key))
  deriving DecidableEq, Repr

/-- The members of a `V3Route` a variant reads or changes: its match, its
target (`route`, whose contents nothing here reads), its redirect and its
per-filter configuration. -/
structure V3Route (α : Type) where
  «match» : RouteMatch
  route : Option α
  redirect : Option Redirect
  typed_per_filter_config : Option ExtAuthzPerRoute
  deriving DecidableEq, Repr

/-! ### Variants -/

/-- The matchers `get_variant` dispatches to (`matcher_<name>`). -/
inductive Matcher where
  | always
  | xfp_https
  | xfp_http
  deriving DecidableEq, Repr

def Matcher.name : Matcher → Key
  | .always => "always".toList
  | .xfp_https => "xfp-https".toList
  | .xfp_http => "xfp-http".toList

/-- The actions `get_variant` dispatches to (`action_<name>`). -/
inductive Action where
  | route
  | redirect
  deriving DecidableEq, Repr

def Action.name : Action → Key
  | .route => "route".toList
  | .redirect => "redirect".toList

/-- `matcher_xfp`: the match without its `x-forwarded-proto` matchers, and
with one for `value` if there is one. An empty list of matchers is not
written back, so then the match keeps the matchers it had. -/
def matcher_xfp (m : RouteMatch) (value : Option Key) : RouteMatch :=
  let headers_copy := m.headers.filter fun h => Text.lower h.name ≠ "x-forwarded-proto".toList
  let headers_copy := match value with
    | some v => headers_copy ++ [⟨"x-forwarded-proto".toList, .exact v⟩]
    | none => headers_copy
  if headers_copy.isEmpty then m else { m with headers := headers_copy }

def matcher_always (m : RouteMatch) : RouteMatch := m

def matcher_xfp_https (m : RouteMatch) : RouteMatch := matcher_xfp m (some "https".toList)

/-- `matcher_xfp_http`: "not https" rather than "http", so no matcher at all. -/
def matcher_xfp_http (m : RouteMatch) : RouteMatch := matcher_xfp m none

def Matcher.handler : Matcher → RouteMatch → RouteMatch
  | .always => matcher_always
  | .xfp_https => matcher_xfp_https
  | .xfp_http => matcher_xfp_http

variable {α : Type}

def action_route (variant : V3Route α) : V3Route α := variant

/-- `action_redirect`: no target but a redirect to HTTPS, with external
authorization off when an `IRAuth` filter is configured, so that the redirect
comes first. -/
def action_redirect (filter_kinds : List Key) (variant : V3Route α) : V3Route α :=
  let variant := { variant with route := none, redirect := some .https_redirect }
  if "IRAuth".toList ∈ filter_kinds then { variant with typed_per_filter_config := some .disabled }
  else variant

def Action.handler (filter_kinds : List Key) : Action → V3Route α → V3Route α
  | .route => action_route
  | .redirect => action_redirect filter_kinds

/-- The cache key `f"{matcher}-{action}"`. -/
def variant_key (matcher : Matcher) (action : Action) : Key := matcher.name ++ '-' :: action.name

/-- A `V3RouteVariants`: a route and the variants made of it so far. -/
structure V3RouteVariants (α : Type) where
  route : V3Route α
  variants : Dict Key (V3Route α)

def V3RouteVariants.new (route : V3Route α) : V3RouteVariants α := ⟨route, ∅⟩

/-- The variant `get_variant` makes on a miss: a copy of the route, its match
through the matcher's handler, then the action's handler. -/
def make_variant (filter_kinds : List Key) (route : V3Route α) (matcher : Matcher) (action : Action) :
    V3Route α :=
  action.handler filter_kinds { route with «match» := matcher.handler route.«match» }

/-- `get_variant`: the cached variant, or a new one, then cached. A cached
variant is a non-empty dictionary, so it is never falsy. -/
def V3RouteVariants.get_variant (filter_kinds : List Key) (rv : V3RouteVariants α) (matcher : Matcher)
    (action : Action) : V3Route α × V3RouteVariants α :=
  let key := variant_key matcher action
  match rv.variants.get? key with
  | some variant => (variant, rv)
  | none =>
    let variant := make_variant filter_kinds rv.route matcher action
    (variant, { rv with variants := rv.variants.set key variant })

/-! ### What a route's match meets -/

/-- A request as Envoy's route match sees it: its path (without the query),
its headers by lower-case name, its query parameters, and the draw out of a
hundred that the runtime fraction compares with. -/
structure Request where
  path : Key
  headers : Dict Key Key
  query_parameters : Dict Key Key
  draw : ℕ

section Matches

-- whether a RE2 regex matches the whole of a string: Envoy's regex engine
variable (re2 : Key → Key → Bool)

/-- The path condition; `case_sensitive` does not apply to a regex. -/
def PathMatch.matches (case_sensitive : Bool) : PathMatch → Key → Bool
  | .prefix_path p, path =>
    if case_sensitive then p.isPrefixOf path else (Text.lower p).isPrefixOf (Text.lower path)
  | .exact_path p, path =>
    if case_sensitive then decide (path = p) else decide (Text.lower path = Text.lower p)
  | .safe_regex r, path => re2 r path

/-- A header condition on the header's value; an absent header fails it. -/
def HeaderMatch.matches : HeaderMatch → Option Key → Bool
  | .exact v, some x => decide (x = v)
  | .prefix_match p, some x => p.isPrefixOf x
  | .suffix_match s, some x => s.isSuffixOf x
  | .safe_regex_match r, some x => re2 r x
  | _, none => false

/-- A header matcher reads the header by its lower-case name, as Envoy does. -/
def HeaderMatcher.matches (h : HeaderMatcher) (req : Request) : Bool :=
  h.header_match.matches re2 (req.headers.get? (Text.lower h.name))

def QueryParameterMatch.matches : QueryParameterMatch → Option Key → Bool
  | .exact v, some x => decide (x = v)
  | .safe_regex r, some x => re2 r x
  | .present_match, some _ => true
  | _, none => false

def QueryParameterMatcher.matches (q : QueryParameterMatcher) (req : Request) : Bool :=
  q.query_match.matches re2 (req.query_parameters.get? q.name)

/-- Envoy's route match: every condition holds. -/
def RouteMatch.matches (m : RouteMatch) (req : Request) : Bool :=
  m.path.matches re2 m.case_sensitive req.path && decide (req.draw < m.runtime_numerator) &&
    m.headers.all (·.matches re2 req) && m.query_parameters.all (·.matches re2 req)

end Matches

/-! ### The match, condition by condition -/

section Conditions

variable (re2 : Key → Key → Bool)

/-- A match is met when its conditions other than the headers are, and every
header matcher is. -/
theorem RouteMatch.matches_iff (m : RouteMatch) (req : Request) :
    m.matches re2 req = true ↔
      ({ m with headers := [] } : RouteMatch).matches re2 req = true ∧
        ∀ h ∈ m.headers, h.matches re2 req = true := by
  simp only [RouteMatch.matches, Bool.and_eq_true, List.all_eq_true, List.not_mem_nil,
    false_imp_iff, implies_true, and_true]
  tauto

/-- A route is missed by a request that one of its header matchers misses. -/
theorem RouteMatch.matches_eq_false_of_header {m : RouteMatch} {req : Request} {h : HeaderMatcher}
    (hh : h ∈ m.headers) (hmiss : h.matches re2 req = false) : m.matches re2 req = false := by
  rw [Bool.eq_false_iff]
  intro hmatch
  have := ((RouteMatch.matches_iff re2 m req).mp hmatch).2 h hh
  rw [hmiss] at this
  exact Bool.false_ne_true this

/-- No header matcher is met by an absent header. -/
@[simp] theorem HeaderMatch.matches_none (hm : HeaderMatch) : hm.matches re2 none = false := by
  cases hm <;> rfl

theorem HeaderMatch.exact_matches_iff (v : Key) (o : Option Key) :
    (HeaderMatch.exact v).matches re2 o = true ↔ o = some v := by
  cases o <;> simp [HeaderMatch.matches]

/-- A header matcher on another header does not see a change to one header. -/
theorem HeaderMatcher.matches_set_of_ne {h : HeaderMatcher} {n : Key} (hn : Text.lower h.name ≠ n)
    (req : Request) (v : Key) :
    h.matches re2 { req with headers := req.headers.set n v } = h.matches re2 req := by
  unfold HeaderMatcher.matches
  rw [Dict.get?_set_ne _ _ hn]

end Conditions

/-! ### What `matcher_xfp` does to a match -/

/-- The header matchers `matcher_xfp` keeps: those on another header. -/
def kept_headers (headers : List HeaderMatcher) : List HeaderMatcher :=
  headers.filter fun h => Text.lower h.name ≠ "x-forwarded-proto".toList

theorem mem_kept_headers {h : HeaderMatcher} {headers : List HeaderMatcher} :
    h ∈ kept_headers headers ↔ h ∈ headers ∧ Text.lower h.name ≠ "x-forwarded-proto".toList := by
  unfold kept_headers
  rw [List.mem_filter, decide_eq_true_iff]

theorem lower_xfp : Text.lower "x-forwarded-proto".toList = "x-forwarded-proto".toList := by
  decide

/-- The header matchers `matcher_xfp` builds. -/
def xfp_headers_copy (headers : List HeaderMatcher) (value : Option Key) : List HeaderMatcher :=
  match value with
  | some v => kept_headers headers ++ [⟨"x-forwarded-proto".toList, .exact v⟩]
  | none => kept_headers headers

theorem matcher_xfp_eq (m : RouteMatch) (value : Option Key) :
    matcher_xfp m value =
      if (xfp_headers_copy m.headers value).isEmpty then m
      else { m with headers := xfp_headers_copy m.headers value } := rfl

/-- With a value, the new matcher makes the list non-empty, so it is written back. -/
theorem matcher_xfp_some (m : RouteMatch) (v : Key) :
    matcher_xfp m (some v) =
      { m with headers := kept_headers m.headers ++ [⟨"x-forwarded-proto".toList, .exact v⟩] } := by
  have hne : (kept_headers m.headers ++ [(⟨"x-forwarded-proto".toList, .exact v⟩ : HeaderMatcher)]).isEmpty =
      false :=
    List.isEmpty_eq_false_iff.mpr (List.append_ne_nil_of_right_ne_nil _ (List.cons_ne_nil _ _))
  rw [matcher_xfp_eq]
  exact if_neg (ne_of_eq_of_ne hne Bool.false_ne_true)

/-- A route whose header matchers are all on `x-forwarded-proto` keeps them
in its `xfp-http` variant: the empty list is not written back. -/
theorem matcher_xfp_of_only_xfp {m : RouteMatch} (hkept : kept_headers m.headers = []) :
    matcher_xfp m none = m := by
  rw [matcher_xfp_eq]
  exact if_pos (List.isEmpty_iff.mpr hkept)

section XFP

variable (re2 : Key → Key → Bool)

/-- The `xfp-https` variant's match: the route's conditions other than its
`x-forwarded-proto` matchers, and `x-forwarded-proto: https`. -/
theorem matcher_xfp_https_matches (m : RouteMatch) (req : Request) :
    (matcher_xfp_https m).matches re2 req = true ↔
      ({ m with headers := [] } : RouteMatch).matches re2 req = true ∧
      (∀ h ∈ m.headers, Text.lower h.name ≠ "x-forwarded-proto".toList → h.matches re2 req = true) ∧
      req.headers.get? "x-forwarded-proto".toList = some "https".toList := by
  rw [matcher_xfp_https, matcher_xfp_some, RouteMatch.matches_iff]
  -- the new matcher reads the header under its own, lower-case, name
  have hnew : (⟨"x-forwarded-proto".toList, .exact "https".toList⟩ : HeaderMatcher).matches re2 req = true ↔
      req.headers.get? "x-forwarded-proto".toList = some "https".toList := by
    rw [HeaderMatcher.matches, lower_xfp, HeaderMatch.exact_matches_iff]
  constructor
  · rintro ⟨hbare, hall⟩
    refine ⟨hbare, fun h hh hne => hall h (List.mem_append_left _ (mem_kept_headers.mpr ⟨hh, hne⟩)), ?_⟩
    exact hnew.mp (hall _ (List.mem_append_right _ (List.mem_singleton_self _)))
  · rintro ⟨hbare, hall, hxfp⟩
    refine ⟨hbare, fun h hh => ?_⟩
    rcases List.mem_append.mp hh with hh | hh
    · obtain ⟨hh, hne⟩ := mem_kept_headers.mp hh
      exact hall h hh hne
    · rw [List.mem_singleton.mp hh]
      exact hnew.mpr hxfp

end XFP

/-! ### The cache -/

section Cache

variable (filter_kinds : List Key)

/-- The handlers of the actions leave the match. -/
@[simp] theorem Action.handler_match (action : Action) (variant : V3Route α) :
    (action.handler filter_kinds variant).«match» = variant.«match» := by
  cases action with
  | route => rfl
  | redirect =>
    unfold Action.handler action_redirect
    dsimp only
    split <;> rfl

@[simp] theorem make_variant_match (route : V3Route α) (matcher : Matcher) (action : Action) :
    (make_variant filter_kinds route matcher action).«match» = matcher.handler route.«match» := by
  simp [make_variant]

/-- One key for each matcher and action. -/
theorem variant_key_injective {m m' : Matcher} {a a' : Action} (h : variant_key m a = variant_key m' a') :
    m = m' ∧ a = a' := by
  revert h
  cases m <;> cases a <;> cases m' <;> cases a' <;> decide

/-- Every cached variant is the one its key names, made from the route. -/
def CacheOK (rv : V3RouteVariants α) : Prop :=
  ∀ k v, rv.variants.get? k = some v →
    ∃ matcher action, k = variant_key matcher action ∧ v = make_variant filter_kinds rv.route matcher action

theorem CacheOK.new (route : V3Route α) : CacheOK filter_kinds (V3RouteVariants.new route) := by
  intro k v h
  simp [V3RouteVariants.new] at h

variable {rv : V3RouteVariants α}

/-- `get_variant` hands out the variant its matcher and action make of the route. -/
theorem get_variant_fst (hcache : CacheOK filter_kinds rv) (matcher : Matcher) (action : Action) :
    (rv.get_variant filter_kinds matcher action).1 = make_variant filter_kinds rv.route matcher action := by
  unfold V3RouteVariants.get_variant
  dsimp only
  split
  · -- a hit: the cached variant is the one of its key
    rename_i v hv
    obtain ⟨m', a', hkey, rfl⟩ := hcache _ v hv
    obtain ⟨rfl, rfl⟩ := variant_key_injective hkey
    rfl
  · rfl

@[simp] theorem get_variant_route (matcher : Matcher) (action : Action) :
    (rv.get_variant filter_kinds matcher action).2.route = rv.route := by
  unfold V3RouteVariants.get_variant
  dsimp only
  split <;> rfl

/-- A variant cached before stays as it was. -/
theorem get_variant_get? {k : Key} {v : V3Route α} (h : rv.variants.get? k = some v) (matcher : Matcher)
    (action : Action) : (rv.get_variant filter_kinds matcher action).2.variants.get? k = some v := by
  unfold V3RouteVariants.get_variant
  dsimp only
  split
  · exact h
  · rename_i hnone
    have hne : k ≠ variant_key matcher action := by
      rintro rfl
      rw [hnone] at h
      cases h
    rw [Dict.get?_set_ne _ _ hne]
    exact h

/-- After a call, the variant handed out is cached under its key. -/
theorem get_variant_cached (matcher : Matcher) (action : Action) :
    (rv.get_variant filter_kinds matcher action).2.variants.get? (variant_key matcher action) =
      some (rv.get_variant filter_kinds matcher action).1 := by
  unfold V3RouteVariants.get_variant
  dsimp only
  split
  · assumption
  · exact Dict.get?_set_self _ _ _

theorem CacheOK.get_variant (hcache : CacheOK filter_kinds rv) (matcher : Matcher) (action : Action) :
    CacheOK filter_kinds (rv.get_variant filter_kinds matcher action).2 := by
  unfold V3RouteVariants.get_variant
  dsimp only
  split
  · exact hcache
  · intro k v hk
    rw [Dict.get?_set] at hk
    split at hk
    · rename_i hkey
      cases hk
      exact ⟨matcher, action, hkey, rfl⟩
    · exact hcache k v hk

/-- A run of `get_variant` calls, as `compute_http_routes` makes them: the
variants handed out, in order, and the variants object after. -/
def V3RouteVariants.get_variants (rv : V3RouteVariants α) :
    List (Matcher × Action) → List (V3Route α) × V3RouteVariants α
  | [] => ([], rv)
  | (matcher, action) :: calls =>
    let r := rv.get_variant filter_kinds matcher action
    let rest := r.2.get_variants calls
    (r.1 :: rest.1, rest.2)

theorem get_variants_route :
    ∀ (calls : List (Matcher × Action)) (rv : V3RouteVariants α), (rv.get_variants filter_kinds calls).2.route = rv.route
  | [], _ => rfl
  | (matcher, action) :: calls, rv => by
    simp only [V3RouteVariants.get_variants]
    rw [get_variants_route calls, get_variant_route]

theorem CacheOK.get_variants :
    ∀ (calls : List (Matcher × Action)) {rv : V3RouteVariants α}, CacheOK filter_kinds rv →
      CacheOK filter_kinds (rv.get_variants filter_kinds calls).2
  | [], _, hcache => hcache
  | (matcher, action) :: calls, _, hcache =>
    CacheOK.get_variants calls (hcache.get_variant filter_kinds matcher action)

/-- Along a run, each call hands out the variant its matcher and action make
of the route, whatever was asked before. -/
theorem get_variants_fst :
    ∀ (calls : List (Matcher × Action)) {rv : V3RouteVariants α}, CacheOK filter_kinds rv →
      (rv.get_variants filter_kinds calls).1 = calls.map fun c => make_variant filter_kinds rv.route c.1 c.2
  | [], _, _ => rfl
  | (matcher, action) :: calls, rv, hcache => by
    simp only [V3RouteVariants.get_variants, List.map_cons]
    rw [get_variant_fst filter_kinds hcache, get_variants_fst calls (hcache.get_variant filter_kinds matcher action),
      get_variant_route]

theorem get_variants_get? {k : Key} {v : V3Route α} :
    ∀ (calls : List (Matcher × Action)) {rv : V3RouteVariants α}, rv.variants.get? k = some v →
      (rv.get_variants filter_kinds calls).2.variants.get? k = some v
  | [], _, h => h
  | (matcher, action) :: calls, _, h => get_variants_get? calls (get_variant_get? filter_kinds h matcher action)

/-- At the end of a run every variant handed out is still the one cached
under its key: no later call changed it. -/
theorem get_variants_keep_handed_out :
    ∀ (calls : List (Matcher × Action)) {rv : V3RouteVariants α}, CacheOK filter_kinds rv →
      ∀ c ∈ calls, (rv.get_variants filter_kinds calls).2.variants.get? (variant_key c.1 c.2) =
        some (make_variant filter_kinds rv.route c.1 c.2)
  | [], _, _, _, hc => absurd hc List.not_mem_nil
  | (matcher, action) :: calls, rv, hcache, c, hc => by
    simp only [V3RouteVariants.get_variants]
    have hnext := hcache.get_variant filter_kinds matcher action
    rcases List.mem_cons.mp hc with rfl | hc
    · -- the first call's variant is cached, and the rest of the run keeps it
      apply get_variants_get? filter_kinds calls
      rw [get_variant_cached, get_variant_fst filter_kinds hcache]
    · rw [get_variants_keep_handed_out calls hnext c hc, get_variant_route]

end Cache

/-! ### A Mapping for `x-forwarded-proto: http` -/

/-- A route for the path prefix `/` and the header `X-Forwarded-Proto: http`,
as a Mapping with `headers: {X-Forwarded-Proto: http}` gets it. -/
def xfpHttpRoute : V3Route Unit :=
  { «match» := { path := .prefix_path "/".toList,
                 headers := [⟨"X-Forwarded-Proto".toList, .exact "http".toList⟩] },
    route := some (), redirect := none, typed_per_filter_config := none }

/-- A cleartext request for `/`. -/
def xfpHttpRequest : Request :=
  { path := "/".toList, headers := (∅ : Dict Key Key).set "x-forwarded-proto".toList "http".toList,
    query_parameters := ∅, draw := 0 }

/-! ### Variants narrow a route, unless it asks for `x-forwarded-proto` -/

section Narrowing

variable (re2 : Key → Key → Bool) (filter_kinds : List Key) {rv : V3RouteVariants α}

/-- A route with an `x-forwarded-proto` matcher that turns `https` away gets
an `xfp-https` variant that meets a request the route does not: the one it
meets with `x-forwarded-proto` set to `https`. -/
theorem xfp_https_variant_escapes (hcache : CacheOK filter_kinds rv) (action : Action) {req : Request}
    (hreq : rv.route.«match».matches re2 req = true) {h : HeaderMatcher} (hh : h ∈ rv.route.«match».headers)
    (hxfp : Text.lower h.name = "x-forwarded-proto".toList)
    (hrej : h.header_match.matches re2 (some "https".toList) = false) :
    ∃ req' : Request, (rv.get_variant filter_kinds .xfp_https action).1.«match».matches re2 req' = true ∧
      rv.route.«match».matches re2 req' = false := by
  obtain ⟨hbare, hall⟩ := (RouteMatch.matches_iff re2 _ req).mp hreq
  refine ⟨{ req with headers := req.headers.set "x-forwarded-proto".toList "https".toList }, ?_, ?_⟩
  · -- the variant keeps the route's other matchers, which do not read that header
    rw [get_variant_fst filter_kinds hcache, make_variant_match]
    refine (matcher_xfp_https_matches re2 _ _).mpr ⟨hbare, fun h' hh' hne => ?_, Dict.get?_set_self _ _ _⟩
    rw [HeaderMatcher.matches_set_of_ne re2 hne]
    exact hall h' hh'
  · -- the route's own matcher now reads `https`
    have hmiss : h.matches re2
        { req with headers := (req.headers.set "x-forwarded-proto".toList "https".toList) } = false := by
      rw [HeaderMatcher.matches, hxfp, Dict.get?_set_self, hrej]
    exact RouteMatch.matches_eq_false_of_header re2 hh hmiss

theorem xfp_https_variant_escapes_at_http_mapping :
    ∃ req' : Request,
      ((V3RouteVariants.new xfpHttpRoute).get_variant [] .xfp_https .route).1.«match».matches
          (fun _ _ => false) req' = true ∧
        xfpHttpRoute.«match».matches (fun _ _ => false) req' = false :=
  xfp_https_variant_escapes (fun _ _ => false) [] (CacheOK.new [] xfpHttpRoute) .route
    (show xfpHttpRoute.«match».matches (fun _ _ => false) xfpHttpRequest = true by decide)
    (List.mem_singleton_self _) (by decide) rfl

end Narrowing

end RouteVariants
end Emissary

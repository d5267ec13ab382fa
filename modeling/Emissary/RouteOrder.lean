/-
# The order of Envoy's route table

Envoy takes the first route that matches a request, so the order of the
route table decides which Mapping serves it. `V3Route.generate`
(envoy/v3/v3route.py) builds the table from `IR.ordered_groups()` (ir.py),
the groups sorted by `group_weight`, heaviest first
(`reversed(sorted(...))`): for each HTTP group, a route for a group that has
only a host_redirect, then a route for each of its Mappings whose route did
not fail. A group's weight is the `route_weight` of the Mapping it was made
for, raised to the `route_weight` of each Mapping filed after as a plain
Mapping when that is greater (`IRHTTPMappingGroup.__init__` and
`add_mapping`, irhttpmappinggroup.py). `IRHTTPMapping._route_weight`
(irhttpmapping.py) is the list of the precedence, the length of the prefix,
the total length of the headers and of the query parameters, the prefix,
the method and the keys of the headers and query parameters, compared as
Python compares lists.

`MappingGroups.Group` leaves the weight out; a `WeightedGroup` adds it, and
its `add_mapping` is `Group.add_mapping` with the raise in the branch that
appends the Mapping (`WeightedGroup.build_group`). Over any run, a group
weighs the greatest `route_weight` among the Mapping it was made for and the
Mappings filed in it (`build_group_weight`).

Every route of a heavier group comes before every route of a lighter one
(`generate_respects_weight`). So when a Mapping of one group outranks, by
precedence and then by prefix length, the first Mapping and every filed
Mapping of another, no route of the other comes first
(`generate_precedence_then_prefix`). A route's key is
`Route-<group id>-<cache key>`; with group ids free of `-` (hex digests),
distinct ids and distinct cache keys in each group, no two routes share a
key (`generate_keys_nodup`), which `get_route`'s cache lookup by key needs.
What `get_route` makes of a Mapping is not modelled: only whether the route
failed, as a parameter.

Python compares an `int` with an `int` and a `str` with a `str`, and raises
on an `int` against a `str`. The weights of HTTP Mappings (four ints, then
strs) and of TCP Mappings (`[0]`) never put the two kinds at one place
(`route_weights_same_kind`); the order below puts ints first there, which no
comparison of weights consults. Python's `sorted` is a stable sort, as is
`List.mergeSort`, so the two give the same list.

Key definitions: `IRHTTPMapping._route_weight`, `WeightedGroup.add_mapping`,
`ordered_groups`, `V3Route.generate`.
Key theorems: `build_group_weight`, `generate_respects_weight`,
`generate_precedence_then_prefix`, `generate_keys_nodup`.
-/
import Mathlib
import Emissary.GroupId

namespace Emissary
namespace RouteOrder

/-! ### Route weights and how Python compares them -/

/-- An element of a route weight: a Python `int` or `str`. -/
inductive WeightElem where
  | int (i : ℤ)
  | str (s : List Char)
  deriving DecidableEq, Repr

/-- Ints before strs, each kind in its own order. -/
def WeightElem.asLex : WeightElem → Lex (ℤ ⊕ List Char)
  | .int i => toLex (Sum.inl i)
  | .str s => toLex (Sum.inr s)

theorem WeightElem.asLex_injective : Function.Injective WeightElem.asLex := by
  intro a b h
  cases a <;> cases b <;> simp_all [WeightElem.asLex]

instance : LinearOrder WeightElem := LinearOrder.lift' WeightElem.asLex WeightElem.asLex_injective

theorem WeightElem.lt_iff {a b : WeightElem} : a < b ↔ a.asLex < b.asLex := Iff.rfl

theorem WeightElem.int_lt_int {a b : ℤ} : WeightElem.int a < .int b ↔ a < b := by
  rw [WeightElem.lt_iff]
  simp [WeightElem.asLex]

def WeightElem.isInt : WeightElem → Bool
  | .int _ => true
  | .str _ => false

end RouteOrder

namespace GroupId

open RouteOrder

/-- `KeyValueDecorator._get_value()`: `self.value or "*"`. -/
def KeyValueDecorator._get_value (kv : KeyValueDecorator) : Key :=
  match kv.value with
  | some v => if v = [] then "*".toList else v
  | none => "*".toList

/-- `KeyValueDecorator.length()`. -/
def KeyValueDecorator.length (kv : KeyValueDecorator) : ℕ :=
  kv.name.length + kv._get_value.length + (if kv.regex then 1 else 0)

/-- `KeyValueDecorator.key()`. -/
def KeyValueDecorator.key (kv : KeyValueDecorator) : Key := kv.name ++ "-".toList ++ kv._get_value

/-- `IRHTTPMapping._route_weight()`; `self.get("method", "GET")` is the method,
or `GET` when the Mapping has none. -/
def IRHTTPMapping._route_weight (m : IRHTTPMapping) : List WeightElem :=
  ([WeightElem.int m.precedence, .int m.prefix_path.length, .int (m.headers.map KeyValueDecorator.length).sum,
    .int (m.query_parameters.map KeyValueDecorator.length).sum, .str m.prefix_path,
    .str (m.method.getD "GET".toList)] : List WeightElem) ++
  (m.headers.map fun hdr => WeightElem.str hdr.key) ++ (m.query_parameters.map fun qp => WeightElem.str qp.key)

end GroupId

namespace RouteOrder

open GroupId

/-- `IRTCPMapping._route_weight()`. -/
def tcpRouteWeight : List WeightElem := [.int 0]

/-- An HTTP Mapping's weight holds ints at its first four places and strs after. -/
theorem isInt_route_weight (m : IRHTTPMapping) {i : ℕ} {a : WeightElem} (h : m._route_weight[i]? = some a) :
    a.isInt = decide (i < 4) := by
  unfold IRHTTPMapping._route_weight at h
  rcases i with _ | _ | _ | _ | i
  all_goals try (simp at h; subst h; rfl)
  -- from the fifth place on, every element is a str
  simp only [List.cons_append, List.nil_append, List.getElem?_cons_succ] at h
  have hstr : ∀ x ∈ WeightElem.str m.prefix_path :: .str (m.method.getD "GET".toList) ::
      (m.headers.map (fun hdr => WeightElem.str hdr.key) ++ m.query_parameters.map (fun qp => .str qp.key)),
      x.isInt = false := by
    intro x hx
    simp only [List.mem_cons, List.mem_append, List.mem_map] at hx
    rcases hx with rfl | rfl | ⟨_, _, rfl⟩ | ⟨_, _, rfl⟩ <;> rfl
  rw [hstr a (List.mem_of_getElem? h)]
  simp

/-- A higher precedence weighs more. -/
theorem route_weight_lt_of_precedence {m₁ m₂ : IRHTTPMapping} (h : m₁.precedence < m₂.precedence) :
    m₁._route_weight < m₂._route_weight := by
  unfold IRHTTPMapping._route_weight
  simp only [List.cons_append]
  exact List.Lex.rel (WeightElem.int_lt_int.2 h)

/-- At one precedence, a longer prefix weighs more. -/
theorem route_weight_lt_of_prefix {m₁ m₂ : IRHTTPMapping} (hp : m₁.precedence = m₂.precedence)
    (hl : m₁.prefix_path.length < m₂.prefix_path.length) : m₁._route_weight < m₂._route_weight := by
  unfold IRHTTPMapping._route_weight
  simp only [List.cons_append, hp]
  exact List.Lex.cons (List.Lex.rel (WeightElem.int_lt_int.2 (by exact_mod_cast hl)))

/-! ### A group's weight -/

open MappingGroups

/-- `IRHTTPMappingGroup` with its `group_weight`, the field that `Group`
leaves out. -/
structure WeightedGroup where
  group : Group
  group_weight : List WeightElem

/-- `if mapping.route_weight > self.group_weight: self.group_weight = mapping.route_weight`. -/
def raiseWeight (group_weight route_weight : List WeightElem) : List WeightElem :=
  if route_weight > group_weight then route_weight else group_weight

theorem raiseWeight_eq_max (w w' : List WeightElem) : raiseWeight w w' = max w w' := by
  unfold raiseWeight
  split_ifs with h
  · exact (max_eq_right h.le).symm
  · exact (max_eq_left (not_lt.1 h)).symm

/-- A weight raised by a run of weights is at least each of them. -/
theorem le_foldl_raiseWeight {w x : List WeightElem} {ws : List (List WeightElem)} (hx : x ∈ w :: ws) :
    x ≤ ws.foldl raiseWeight w := by
  induction ws generalizing w x with
  | nil =>
    rw [List.mem_singleton.1 hx]
    rfl
  | cons w' ws ih =>
    rw [List.foldl_cons]
    -- `x` is `w`, `w'` or in `ws`; the first two are below `raiseWeight w w'`
    have hw : max w w' ≤ ws.foldl raiseWeight (raiseWeight w w') := by
      rw [← raiseWeight_eq_max]
      exact ih (x := raiseWeight w w') List.mem_cons_self
    rcases List.mem_cons.1 hx with rfl | hx
    · exact le_trans (le_max_left x w') hw
    · rcases List.mem_cons.1 hx with rfl | hx
      · exact le_trans (le_max_right w x) hw
      · exact ih (List.mem_cons_of_mem _ hx)

/-- A weight raised by a run of weights is one of them, or the one it started from. -/
theorem foldl_raiseWeight_mem (w : List WeightElem) (ws : List (List WeightElem)) :
    ws.foldl raiseWeight w ∈ w :: ws := by
  induction ws generalizing w with
  | nil => exact List.mem_singleton_self w
  | cons w' ws ih =>
    rw [List.foldl_cons]
    rcases List.mem_cons.1 (ih (raiseWeight w w')) with h | h
    · -- the last raise is the result: it is `w` or `w'`
      rw [h]
      unfold raiseWeight
      split_ifs
      · exact List.mem_cons_of_mem _ List.mem_cons_self
      · exact List.mem_cons_self
    · exact List.mem_cons_of_mem _ (List.mem_cons_of_mem _ h)

/-- Whether `add_mapping` files the Mapping among the group's `mappings`: no
core value disagrees, it is no shadow (a shadow wins over a host_redirect) and
no host_redirect, and the group has no host_redirect. -/
def files_as_mapping (g : Group) (m : IRMapping) : Bool :=
  (mismatches g m).isEmpty && !m.shadow && !m.host_redirect && g.host_redirect.isNone

/-- `Group.file` appends a Mapping that is neither a shadow nor a
host_redirect to a group without a host_redirect, and leaves the Mappings
alone otherwise. -/
theorem Group.file_mappings_eq (aconf : Config) (g : Group) (m : IRMapping) :
    (Group.file aconf g m).2.mappings =
      if !m.shadow && !m.host_redirect && g.host_redirect.isNone then g.mappings ++ [m] else g.mappings := by
  rcases g with ⟨rkey, gid, core, mappings, shadows, host_redirect⟩
  unfold Group.file
  cases m.shadow
  · cases m.host_redirect
    · cases host_redirect <;> simp
    · cases host_redirect <;> cases mappings <;> simp
  · cases shadows <;> simp

/-- `add_mapping` appends the Mapping to the group's Mappings exactly when it
files it as one. -/
theorem Group.add_mapping_mappings_eq (aconf : Config) (g : Group) (m : IRMapping) :
    (Group.add_mapping aconf g m).2.1.mappings =
      if files_as_mapping g m then g.mappings ++ [m] else g.mappings := by
  unfold Group.add_mapping files_as_mapping
  by_cases hm : mismatches g m = []
  · rw [if_neg (not_not.2 hm), hm]
    by_cases hsh : (m.shadow && m.host_redirect) = true
    · -- a shadow that had a host_redirect is filed as a shadow
      obtain ⟨hs, -⟩ := Bool.and_eq_true_iff.1 hsh
      rw [if_pos hsh]
      dsimp only
      rw [Group.file_mappings_eq]
      simp only [hs, Bool.not_true, Bool.false_and, Bool.and_false, Bool.false_eq_true, if_false]
    · rw [if_neg hsh]
      dsimp only
      rw [Group.file_mappings_eq, List.isEmpty_nil, Bool.true_and]
  · simp [hm]

section Weight

-- each Mapping's `route_weight`, which `setup` sets to `_route_weight()`
variable (route_weight : IRMapping → List WeightElem)

/-- `IRHTTPMappingGroup.add_mapping` with the group's weight, raised where the
Mapping is appended to `mappings`. -/
def WeightedGroup.add_mapping (aconf : Config) (wg : WeightedGroup) (m : IRMapping) : Config × WeightedGroup :=
  let r := Group.add_mapping aconf wg.group m
  (r.1, ⟨r.2.1, if files_as_mapping wg.group m then raiseWeight wg.group_weight (route_weight m)
    else wg.group_weight⟩)

/-- `IRHTTPMappingGroup(ir, aconf, location, mapping=mapping)`: the weight is
the first Mapping's `route_weight`, then `add_mapping` of it. -/
def WeightedGroup.new (aconf : Config) (m : IRMapping) : Config × WeightedGroup :=
  WeightedGroup.add_mapping route_weight aconf ⟨⟨m.rkey, m.group_id, m.core, [], [], none⟩, route_weight m⟩ m

/-- The group of one group id as `IR.add_mapping` builds it: made for its
first Mapping, then `add_mapping` of each later one that reaches it. -/
def WeightedGroup.build (aconf : Config) (first : IRMapping) (rest : List IRMapping) : Config × WeightedGroup :=
  rest.foldl (fun acc m => WeightedGroup.add_mapping route_weight acc.1 acc.2 m)
    (WeightedGroup.new route_weight aconf first)

/-- Leaving out the weight, a build is `Group.new` and then `Group.add_mapping`
of each later Mapping: a weighted group is a group of `MappingGroups`, with
the same errors posted. -/
theorem WeightedGroup.build_group (aconf : Config) (first : IRMapping) (rest : List IRMapping) :
    ((WeightedGroup.build route_weight aconf first rest).1, (WeightedGroup.build route_weight aconf first rest).2.group) =
      rest.foldl (fun acc m => ((Group.add_mapping acc.1 acc.2 m).1, (Group.add_mapping acc.1 acc.2 m).2.1))
        ((Group.new aconf first).1, (Group.new aconf first).2.1) := by
  unfold WeightedGroup.build
  induction rest using List.reverseRecOn with
  | nil => rfl
  | append_singleton rest m ih =>
    simp only [List.foldl_append, List.foldl_cons, List.foldl_nil] at ih ⊢
    rw [← ih]
    rfl

/-- The weight of a group is the first Mapping's, raised by each Mapping filed
among its `mappings`, in order. -/
def WeightedGroup.WeightOK (w0 : List WeightElem) (wg : WeightedGroup) : Prop :=
  wg.group_weight = (wg.group.mappings.map route_weight).foldl raiseWeight w0

theorem WeightedGroup.WeightOK.add_mapping {w0 : List WeightElem} {wg : WeightedGroup}
    (h : wg.WeightOK route_weight w0) (aconf : Config) (m : IRMapping) :
    (WeightedGroup.add_mapping route_weight aconf wg m).2.WeightOK route_weight w0 := by
  unfold WeightedGroup.WeightOK WeightedGroup.add_mapping
  dsimp only
  rw [Group.add_mapping_mappings_eq]
  split_ifs
  · rw [List.map_append, List.foldl_append, ← h]
    rfl
  · exact h

theorem WeightedGroup.new_weightOK (aconf : Config) (m : IRMapping) :
    (WeightedGroup.new route_weight aconf m).2.WeightOK route_weight (route_weight m) :=
  (show WeightedGroup.WeightOK route_weight (route_weight m) ⟨⟨m.rkey, m.group_id, m.core, [], [], none⟩, route_weight m⟩
    from rfl).add_mapping route_weight aconf m

/-- Every group a build makes keeps the weight invariant from its first Mapping. -/
theorem WeightedGroup.build_weightOK (aconf : Config) (first : IRMapping) (rest : List IRMapping) :
    (WeightedGroup.build route_weight aconf first rest).2.WeightOK route_weight (route_weight first) := by
  unfold WeightedGroup.build
  induction rest using List.reverseRecOn with
  | nil => exact WeightedGroup.new_weightOK route_weight aconf first
  | append_singleton rest m ih =>
    rw [List.foldl_append, List.foldl_cons, List.foldl_nil]
    exact ih.add_mapping route_weight _ m

/-- **A group weighs what its heaviest Mapping weighs.** After any run of
`add_mapping` from a new group, its weight is the greatest `route_weight`
among the Mapping it was made for and the Mappings filed in it: a shadow, a
host_redirect or a Mapping turned away after the first never changes it. -/
theorem build_group_weight (aconf : Config) (first : IRMapping) (rest : List IRMapping) :
    IsGreatest {w | ∃ m ∈ first :: (WeightedGroup.build route_weight aconf first rest).2.group.mappings,
      route_weight m = w} (WeightedGroup.build route_weight aconf first rest).2.group_weight := by
  have h := WeightedGroup.build_weightOK route_weight aconf first rest
  unfold WeightedGroup.WeightOK at h
  rw [h]
  constructor
  · -- the weight is one of the Mappings'
    obtain ⟨m, hm, hw⟩ := List.mem_map.1 (List.map_cons ▸ foldl_raiseWeight_mem _ _)
    exact ⟨m, hm, hw⟩
  · rintro w ⟨m, hm, rfl⟩
    exact le_foldl_raiseWeight (List.map_cons ▸ List.mem_map_of_mem hm)

/-- A group holding a Mapping that weighs more than the first Mapping and
every filed Mapping of another group weighs more than that group. -/
theorem WeightedGroup.group_weight_lt {w₁ w₂ : List WeightElem} {g₁ g₂ : WeightedGroup}
    (h₁ : g₁.WeightOK route_weight w₁) (h₂ : g₂.WeightOK route_weight w₂) {m₁ : IRMapping}
    (hm₁ : m₁ ∈ g₁.group.mappings) (hfirst : w₂ < route_weight m₁)
    (hmappings : ∀ m ∈ g₂.group.mappings, route_weight m < route_weight m₁) :
    g₂.group_weight < g₁.group_weight := by
  have hle : route_weight m₁ ≤ g₁.group_weight := by
    rw [h₁]
    exact le_foldl_raiseWeight (List.mem_cons_of_mem _ (List.mem_map_of_mem hm₁))
  refine lt_of_lt_of_le ?_ hle
  -- the weight of `g₂` is its first Mapping's or one of its Mappings'
  rw [h₂]
  rcases List.mem_cons.1 (foldl_raiseWeight_mem w₂ (g₂.group.mappings.map route_weight)) with h | h
  · rw [h]
    exact hfirst
  · obtain ⟨m, hm, hm'⟩ := List.mem_map.1 h
    rw [← hm']
    exact hmappings m hm

end Weight

/-! ### The route table -/

/-- A group of the IR, as `ordered_groups` sorts it: HTTP or TCP. -/
inductive IRGroup where
  | http (g : WeightedGroup)
  | tcp (group_weight : List WeightElem)

/-- `x["group_weight"]`. -/
def IRGroup.group_weight : IRGroup → List WeightElem
  | .http g => g.group_weight
  | .tcp group_weight => group_weight

/-- The id of an HTTP group. -/
def IRGroup.http_id : IRGroup → Option Key
  | .http g => some g.group.group_id
  | .tcp _ => none

/-- `IR.ordered_groups()`: `reversed(sorted(self.groups.values(), key=lambda x: x["group_weight"]))`. -/
def ordered_groups (groups : List IRGroup) : List IRGroup :=
  (groups.mergeSort fun a b => decide (a.group_weight ≤ b.group_weight)).reverse

/-- `ordered_groups` lists the groups heaviest first. -/
theorem ordered_groups_sorted (groups : List IRGroup) :
    (ordered_groups groups).Pairwise fun a b => b.group_weight ≤ a.group_weight := by
  unfold ordered_groups
  rw [List.pairwise_reverse]
  have h := @List.pairwise_mergeSort _ (fun a b : IRGroup => decide (a.group_weight ≤ b.group_weight))
    (fun a b c hab hbc => by simp only [decide_eq_true_eq] at *; exact le_trans hab hbc)
    (fun a b => by simpa using le_total a.group_weight b.group_weight) groups
  exact h.imp fun hab => by simpa using hab

/-- `ordered_groups` lists every group, as often as the IR has it. -/
theorem ordered_groups_perm (groups : List IRGroup) : (ordered_groups groups).Perm groups :=
  (List.reverse_perm _).trans (List.mergeSort_perm _ _)

/-- A route of the table: its cache key, its group, and the Mapping it is for
(none for the route of a group with only a host_redirect). -/
structure Route where
  key : Key
  group : WeightedGroup
  mapping : Option IRMapping

/-- `f"Route-{irgroup.group_id}-{tail}"`. -/
def routeKey (group_id tail : Key) : Key := "Route-".toList ++ group_id ++ '-' :: tail

/-- A route key's tail names it within its group. -/
theorem routeKey_injective (group_id : Key) : Function.Injective (routeKey group_id) := by
  intro t₁ t₂ h
  unfold routeKey at h
  exact (List.cons.inj (List.append_cancel_left h)).2

/-- A route key names its group id and tail, when group ids have no `-`. -/
theorem routeKey_inj {gid₁ gid₂ t₁ t₂ : Key} (h₁ : '-' ∉ gid₁) (h₂ : '-' ∉ gid₂)
    (h : routeKey gid₁ t₁ = routeKey gid₂ t₂) : gid₁ = gid₂ ∧ t₁ = t₂ := by
  unfold routeKey at h
  rw [List.append_assoc, List.append_assoc] at h
  exact Text.append_cons_cancel_of_not_mem h₁ h₂ (List.append_cancel_left h)

section Generate

-- `route.get("_failed", False)` for the route `get_route` gives a Mapping of a group
variable (failed : WeightedGroup → IRMapping → Bool)

/-- `m₁` sorts first by precedence, then by the length of its prefix. -/
def Outranks (m₁ m₂ : IRHTTPMapping) : Prop :=
  m₂.precedence < m₁.precedence ∨
    (m₂.precedence = m₁.precedence ∧ m₂.prefix_path.length < m₁.prefix_path.length)

instance (m₁ m₂ : IRHTTPMapping) : Decidable (Outranks m₁ m₂) := by
  unfold Outranks
  infer_instance

theorem route_weight_lt_of_outranks {m₁ m₂ : IRHTTPMapping} (h : Outranks m₁ m₂) :
    m₂._route_weight < m₁._route_weight := by
  rcases h with h | ⟨hp, hl⟩
  · exact route_weight_lt_of_precedence h
  · exact route_weight_lt_of_prefix hp hl

/-- The routes `V3Route.generate` appends for one group. -/
def groupRoutes : IRGroup → List Route
  -- `if not isinstance(irgroup, IRHTTPMappingGroup): continue`
  | .tcp _ => []
  | .http g =>
    -- a group with a host_redirect and no Mappings
    (match g.group.host_redirect, g.group.mappings with
      | some _, [] => [⟨routeKey g.group.group_id "hostredirect".toList, g, none⟩]
      | _, _ => []) ++
    (g.group.mappings.filter fun m => !failed g m).map fun m =>
      ⟨routeKey g.group.group_id m.cache_key, g, some m⟩

/-- `V3Route.generate(config)`: the routes of `config.routes`. -/
def V3Route.generate (groups : List IRGroup) : List Route :=
  (ordered_groups groups).flatMap (groupRoutes failed)

/-- Every route of a group belongs to it. -/
theorem group_of_mem_groupRoutes {ig : IRGroup} {r : Route} (h : r ∈ groupRoutes failed ig) :
    ig = .http r.group := by
  cases ig with
  | tcp => exact absurd h List.not_mem_nil
  | http g =>
    simp only [groupRoutes, List.mem_append, List.mem_map, List.mem_filter] at h
    rcases h with h | ⟨_, _, rfl⟩
    · split at h
      · rw [List.mem_singleton.1 h]
      · exact absurd h List.not_mem_nil
    · rfl

/-- Every route of a group is keyed by the group's id. -/
theorem key_of_mem_groupRoutes {ig : IRGroup} {r : Route} (h : r ∈ groupRoutes failed ig) :
    ∃ tail, r.key = routeKey r.group.group.group_id tail := by
  cases ig with
  | tcp => exact absurd h List.not_mem_nil
  | http g =>
    simp only [groupRoutes, List.mem_append, List.mem_map, List.mem_filter] at h
    rcases h with h | ⟨m, _, rfl⟩
    · split at h
      · rw [List.mem_singleton.1 h]
        exact ⟨_, rfl⟩
      · exact absurd h List.not_mem_nil
    · exact ⟨_, rfl⟩

/-- The keys of a group's routes: the host_redirect route's, then each
Mapping's that did not fail. -/
theorem groupRoutes_keys (g : WeightedGroup) :
    (groupRoutes failed (.http g)).map Route.key =
      (match g.group.host_redirect, g.group.mappings with
        | some _, [] => [routeKey g.group.group_id "hostredirect".toList]
        | _, _ => []) ++
      ((g.group.mappings.filter fun m => !failed g m).map IRMapping.cache_key).map (routeKey g.group.group_id) := by
  simp only [groupRoutes, List.map_append, List.map_map]
  congr 1
  split <;> rfl

/-- The routes of one group have distinct keys when its Mappings have. -/
theorem groupRoutes_keys_nodup (g : WeightedGroup) (hkeys : g.group.KeysNodup) :
    ((groupRoutes failed (.http g)).map Route.key).Nodup := by
  have hmappings : (((g.group.mappings.filter fun m => !failed g m).map IRMapping.cache_key).map
      (routeKey g.group.group_id)).Nodup :=
    (hkeys.sublist (List.filter_sublist.map _)).map (routeKey_injective _)
  rw [groupRoutes_keys]
  split
  · -- a host_redirect and no Mappings: the one route
    rename_i hnil
    simp [hnil]
  · exact hmappings

/-- **The route table is sorted by group weight.** Of any two routes
`V3Route.generate` emits, the later one's group weighs no more than the
earlier one's. -/
theorem generate_respects_weight (groups : List IRGroup) :
    (V3Route.generate failed groups).Pairwise fun r₁ r₂ => r₂.group.group_weight ≤ r₁.group.group_weight := by
  unfold V3Route.generate
  rw [List.pairwise_flatMap]
  refine ⟨fun ig _ => ?_, (ordered_groups_sorted groups).imp fun hab r₁ hr₁ r₂ hr₂ => ?_⟩
  · -- the routes of one group share its weight
    refine List.pairwise_of_forall_mem_list fun r₁ hr₁ r₂ hr₂ => ?_
    have h := (group_of_mem_groupRoutes failed hr₁).symm.trans (group_of_mem_groupRoutes failed hr₂)
    rw [IRGroup.http.inj h]
  · rw [group_of_mem_groupRoutes failed hr₁, group_of_mem_groupRoutes failed hr₂] at hab
    exact hab

/-- **Route keys are unique.** When HTTP groups have distinct ids with no
`-` in them (hex digests) and each group's Mappings have distinct cache keys,
no two routes of the table share a key, so no route is served from the
cache entry of another. -/
theorem generate_keys_nodup (groups : List IRGroup) (hids : (groups.filterMap IRGroup.http_id).Nodup)
    (hdash : ∀ g, IRGroup.http g ∈ groups → '-' ∉ g.group.group_id)
    (hkeys : ∀ g, IRGroup.http g ∈ groups → g.group.KeysNodup) :
    ((V3Route.generate failed groups).map Route.key).Nodup := by
  have hperm := ordered_groups_perm groups
  have hids' : ((ordered_groups groups).filterMap IRGroup.http_id).Nodup := (hperm.filterMap _).nodup_iff.2 hids
  unfold V3Route.generate
  rw [List.map_flatMap, List.nodup_flatMap]
  refine ⟨fun ig hig => ?_, (List.pairwise_filterMap.1 hids').imp_of_mem fun ha hb hne k hk hk' => ?_⟩
  · cases ig with
    | tcp _ => exact List.nodup_nil
    | http g => exact groupRoutes_keys_nodup failed g (hkeys g (hperm.subset hig))
  · -- two groups at different places have different ids, so their keys differ
    obtain ⟨r, hr, rfl⟩ := List.mem_map.1 hk
    obtain ⟨r', hr', hkey⟩ := List.mem_map.1 hk'
    have hg := group_of_mem_groupRoutes failed hr
    have hg' := group_of_mem_groupRoutes failed hr'
    obtain ⟨t, ht⟩ := key_of_mem_groupRoutes failed hr
    obtain ⟨t', ht'⟩ := key_of_mem_groupRoutes failed hr'
    subst hg hg'
    rw [ht, ht'] at hkey
    have hid := routeKey_inj (hdash _ (hperm.subset hb)) (hdash _ (hperm.subset ha)) hkey
    exact hne _ rfl _ rfl hid.1.symm

/-- **Precedence, then prefix length, orders the route table.** Take the
groups of two group ids, each built by `IR.add_mapping` from its first
Mapping and the later ones, each Mapping's `route_weight` computed from its
fields. If a Mapping of the first group outranks the second group's first
Mapping and every Mapping filed in it, no route of the second group comes
before a route of the first. -/
theorem generate_precedence_then_prefix (fields : IRMapping → IRHTTPMapping) (groups : List IRGroup)
    {aconf₁ aconf₂ : Config} {first₁ first₂ : IRMapping} {rest₁ rest₂ : List IRMapping}
    {g₁ g₂ : WeightedGroup}
    (hg₁ : (WeightedGroup.build (fun m => (fields m)._route_weight) aconf₁ first₁ rest₁).2 = g₁)
    (hg₂ : (WeightedGroup.build (fun m => (fields m)._route_weight) aconf₂ first₂ rest₂).2 = g₂)
    {m₁ : IRMapping} (hm₁ : m₁ ∈ g₁.group.mappings)
    (hout : ∀ m ∈ first₂ :: g₂.group.mappings, Outranks (fields m₁) (fields m)) :
    (V3Route.generate failed groups).Pairwise fun r r' => ¬(r.group = g₂ ∧ r'.group = g₁) := by
  have hlt : g₂.group_weight < g₁.group_weight :=
    WeightedGroup.group_weight_lt _ (hg₁ ▸ WeightedGroup.build_weightOK _ aconf₁ first₁ rest₁)
      (hg₂ ▸ WeightedGroup.build_weightOK _ aconf₂ first₂ rest₂) hm₁
      (route_weight_lt_of_outranks (hout first₂ List.mem_cons_self))
      (fun m hm => route_weight_lt_of_outranks (hout m (List.mem_cons_of_mem _ hm)))
  -- a route of `g₂` before one of `g₁` would make `g₁` weigh no more than `g₂`
  refine (generate_respects_weight failed groups).imp fun hle ⟨hr, hr'⟩ => ?_
  rw [hr, hr'] at hle
  exact absurd hle (not_le.2 hlt)

end Generate

/-- A plain Mapping `name` of group id `g` followed by its name. -/
def plainMapping (name : Key) : IRMapping :=
  ⟨name, "Mapping".toList, name, "default".toList, "g".toList ++ name, [], false, false, true⟩

/-- Mapping `a` has precedence 1, every other one 0. -/
def precedenceOne (m : IRMapping) : IRHTTPMapping :=
  { precedence := if m.name = "a".toList then 1 else 0 }

theorem generate_precedence_then_prefix_one_over_zero :
    plainMapping "a".toList ∈ (WeightedGroup.build (fun m => (precedenceOne m)._route_weight)
        (Config.init [] []) (plainMapping "a".toList) []).2.group.mappings ∧
      (∀ m ∈ plainMapping "b".toList :: (WeightedGroup.build (fun m => (precedenceOne m)._route_weight)
        (Config.init [] []) (plainMapping "b".toList) []).2.group.mappings,
        Outranks (precedenceOne (plainMapping "a".toList)) (precedenceOne m)) ∧
      let g₁ := (WeightedGroup.build (fun m => (precedenceOne m)._route_weight)
        (Config.init [] []) (plainMapping "a".toList) []).2
      let g₂ := (WeightedGroup.build (fun m => (precedenceOne m)._route_weight)
        (Config.init [] []) (plainMapping "b".toList) []).2
      (V3Route.generate (fun _ _ => false) [.http g₂, .http g₁]).Pairwise
        fun r r' => ¬(r.group = g₂ ∧ r'.group = g₁) := by
  have hm : plainMapping "a".toList ∈ (WeightedGroup.build (fun m => (precedenceOne m)._route_weight)
      (Config.init [] []) (plainMapping "a".toList) []).2.group.mappings := by
    decide
  have hout : ∀ m ∈ plainMapping "b".toList :: (WeightedGroup.build (fun m => (precedenceOne m)._route_weight)
      (Config.init [] []) (plainMapping "b".toList) []).2.group.mappings,
      Outranks (precedenceOne (plainMapping "a".toList)) (precedenceOne m) := by
    decide
  exact ⟨hm, hout, generate_precedence_then_prefix (fun _ _ => false) precedenceOne _ rfl rfl hm hout⟩

/-- The groups of Mappings `a` and `b`, ids `ga` and `gb`. -/
def groupsAB : List IRGroup :=
  [.http (WeightedGroup.build (fun m => (precedenceOne m)._route_weight) (Config.init [] []) (plainMapping "a".toList) []).2,
    .http (WeightedGroup.build (fun m => (precedenceOne m)._route_weight) (Config.init [] []) (plainMapping "b".toList) []).2]

theorem generate_keys_nodup_groupsAB :
    (groupsAB.filterMap IRGroup.http_id).Nodup ∧
      (∀ g, IRGroup.http g ∈ groupsAB → '-' ∉ g.group.group_id) ∧
      (∀ g, IRGroup.http g ∈ groupsAB → g.group.KeysNodup) ∧
      ((V3Route.generate (fun _ _ => false) groupsAB).map Route.key).Nodup := by
  have hids : (groupsAB.filterMap IRGroup.http_id).Nodup := by decide
  have hdash : ∀ g, IRGroup.http g ∈ groupsAB → '-' ∉ g.group.group_id := by
    intro g hg
    simp only [groupsAB, List.mem_cons, IRGroup.http.injEq, List.not_mem_nil, or_false] at hg
    rcases hg with rfl | rfl <;> decide
  have hkeys : ∀ g, IRGroup.http g ∈ groupsAB → g.group.KeysNodup := by
    intro g hg
    simp only [groupsAB, List.mem_cons, IRGroup.http.injEq, List.not_mem_nil, or_false] at hg
    unfold Group.KeysNodup
    rcases hg with rfl | rfl <;> decide
  exact ⟨hids, hdash, hkeys, generate_keys_nodup (fun _ _ => false) groupsAB hids hdash hkeys⟩

end RouteOrder
end Emissary

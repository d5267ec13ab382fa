/-
# Mappings into groups, with the cache

`MappingFactory.load_config` (irmappingfactory.py) turns the Mappings of the
`mappings` bucket of the `Config` into `IRHTTPMapping`s, reusing a cached one
when the cache has its key (`make_cache_key(kind, name, namespace)`), drops
the groups of Mappings that changed, and hands every live Mapping to
`IR.add_mapping` (ir.py). That one puts the Mapping into the group of its
`group_id`: a new group (or the cached one, which already holds it) for the
first Mapping of a group id, and `IRHTTPMappingGroup.add_mapping`
(irhttpmappinggroup.py) for the next ones, unless the group already holds a
Mapping with the same cache key. Between builds, `IR.check_deltas`
invalidates the cache keys of the Mappings that changed, or the driver
(diagd) starts a fresh cache.

`make_cache_key` keeps only the part of the name before the first `.` (to
undo the `name.namespace` renaming of `Config.safe_store`), so distinct
Mappings such as `foo` and `foo.v2` in one namespace share a key. In one
build the second is then never put into the group they share
(`load_all_drops_same_key`); across builds the cache hands the first
Mapping back for the second, and an incremental build loses a group that a
full rebuild has (`reconfigure_drops_group`). What the dedup rule does keep,
over every run of builds, is that no group holds two Mappings with one cache
key (`reconfigure_keys_nodup`).

The cache is `Cache` of `Emissary.Cache`, holding Mappings and groups. A group
is shared between the IR and the cache, so the model writes a group back to
its cache entry after each change; a Mapping is stored when it is first
cached. `IRHTTPMapping.setup` and the grouping fields it hashes into
`group_id` are given with each Mapping (`valid`, `group_id`, `core`).

Key definitions: `make_cache_key`, `Group.add_mapping`, `IR.add_mapping`,
`load_config`, `check_deltas`, `reconfigure`.
Key theorems: `IR.OK.add_mapping`, `reconfigure_keys_nodup`.
-/
import Emissary.Cache
import Emissary.Config

namespace Emissary
namespace MappingGroups

open Config (ACResource)

/-! ### Mappings, groups and their keys -/

/-- An `IRHTTPMapping` as grouping reads it: `valid` is whether `setup`
accepted it (`bool(mapping)`), `group_id` the digest `_group_id()` computes,
`core` its values of the `CoreMappingKeys` other than `group_id`. -/
structure IRMapping where
  rkey : Key
  kind : Key
  name : Key
  «namespace» : Key
  group_id : Key
  core : List (Key × Key)
  shadow : Bool
  host_redirect : Bool
  valid : Bool
  deriving DecidableEq

/-- An `IRHTTPMappingGroup`: the `rkey` and core values of its first Mapping,
its Mappings, shadows and host_redirect. -/
structure Group where
  rkey : Key
  group_id : Key
  core : List (Key × Key)
  mappings : List IRMapping
  shadows : List IRMapping
  host_redirect : Option IRMapping
  deriving DecidableEq

/-- What the IR layer caches. -/
inductive Cached
  | mapping (m : IRMapping)
  | group (g : Group)
  deriving DecidableEq

/-- `IRBaseMapping.make_cache_key(kind, name, namespace)`: `name.split(".")[0]`. -/
def make_cache_key (kind name ns : Key) : Key :=
  kind ++ "-v2-".toList ++ ((name.splitOn '.').headD []) ++ "-".toList ++ ns

/-- A Mapping's `_cache_key`, set by `setup`. -/
def IRMapping.cache_key (m : IRMapping) : Key := make_cache_key m.kind m.name m.«namespace»

/-- `IRHTTPMappingGroup.key_for_id(group_id)`. -/
def key_for_id (group_id : Key) : Key := "IRHTTPMappingGroup-".toList ++ group_id

/-- `IRHTTPMappingGroup.CoreMappingKeys`, in order. -/
def CoreMappingKeys : List Key :=
  ["bypass_auth", "circuit_breakers", "cluster_timeout_ms", "connect_timeout_ms",
    "cluster_idle_timeout_ms", "cluster_max_connection_lifetime_ms", "group_id", "headers",
    "keepalive", "labels", "load_balancer", "method", "prefix", "prefix_regex",
    "prefix_exact"].map String.toList

/-- `mapping[k]` for a core key, if the Mapping has it. -/
def IRMapping.attr (m : IRMapping) (k : Key) : Option Key :=
  if k = "group_id".toList then some m.group_id else m.core.lookup k

/-- `group[k]` for a core key, if the group has it. -/
def Group.attr (g : Group) (k : Key) : Option Key :=
  if k = "group_id".toList then some g.group_id else g.core.lookup k

/-! ### `IRHTTPMappingGroup` -/

/-- The core keys on which a Mapping disagrees with the group: the key, the
Mapping's value and the group's (`-unset-` when it has none). -/
def mismatches (g : Group) (m : IRMapping) : List (Key × Key × Key) :=
  CoreMappingKeys.filterMap fun k =>
    match m.attr k with
    | some v => if g.attr k = some v then none else some (k, v, (g.attr k).getD "-unset-".toList)
    | none => none

/-- The error for a Mapping whose core values disagree with the group's. -/
def mismatch_error (m : IRMapping) (ms : List (Key × Key × Key)) : Key :=
  "cannot accept new mapping ".toList ++ m.name ++ " with mismatched ".toList ++
    ", ".toList.intercalate (ms.map fun x => x.1 ++ ": ".toList ++ x.2.1 ++ " != ".toList ++ x.2.2) ++
    (".Please verify field is set with the same value in all related mappings." ++
      "Example: When canary is configured, related mappings should have same fields and values").toList

/-- The second half of `IRHTTPMappingGroup.add_mapping`: a shadow, a
host_redirect or a plain Mapping, each at most once in its kind of place. -/
def Group.file (aconf : Config) (g : Group) (m : IRMapping) : Config × Group :=
  if m.shadow then
    match g.shadows with
    | s :: _ =>
      (aconf.post_error g.rkey ("cannot accept ".toList ++ m.name ++ " as second shadow after ".toList ++ s.name), g)
    | [] => (aconf, { g with shadows := g.shadows ++ [m] })
  else if m.host_redirect then
    match g.host_redirect, g.mappings with
    | some h, _ =>
      (aconf.post_error g.rkey
        ("cannot accept ".toList ++ m.name ++ " as second host_redirect after ".toList ++ h.name), g)
    | none, first :: _ =>
      (aconf.post_error g.rkey
        ("cannot accept ".toList ++ m.name ++ " with host_redirect after mappings without host_redirect (eg ".toList ++
          first.name ++ ")".toList), g)
    | none, [] => (aconf, { g with host_redirect := some m })
  else
    match g.host_redirect with
    | some h =>
      (aconf.post_error_current
        ("cannot accept ".toList ++ m.name ++ " without host_redirect after ".toList ++ h.name ++
          " with host_redirect".toList), g)
    | none => (aconf, { g with mappings := g.mappings ++ [m] })

/-- `IRHTTPMappingGroup.add_mapping(aconf, mapping)`: the `Config` with the
errors posted, the group after, and the Mapping as it ends up (a shadow loses
its host_redirect). -/
def Group.add_mapping (aconf : Config) (g : Group) (m : IRMapping) : Config × Group × IRMapping :=
  if mismatches g m ≠ [] then (aconf.post_error g.rkey (mismatch_error m (mismatches g m)), g, m)
  else
    -- A shadow wins over a host_redirect.
    if m.shadow && m.host_redirect then
      let aconf := aconf.post_error m.rkey
        "At most one of host_redirect and shadow may be set; ignoring host_redirect".toList
      let m := { m with host_redirect := false }
      let r := Group.file aconf g m
      (r.1, r.2, m)
    else
      let r := Group.file aconf g m
      (r.1, r.2, m)

/-- `IRHTTPMappingGroup(ir, aconf, location, mapping=mapping)`: the first
Mapping's `rkey` and core values, then `add_mapping` of it. -/
def Group.new (aconf : Config) (m : IRMapping) : Config × Group × IRMapping :=
  Group.add_mapping aconf ⟨m.rkey, m.group_id, m.core, [], [], none⟩ m

/-! ### The IR -/

/-- What building the IR's groups reads and writes: the `Config` (for its
errors), the cache, and `self.groups` by group id. -/
structure IR where
  aconf : Config
  cache : Cache Cached Unit
  groups : Dict Key Group

/-- `self.cache_add(group)` for a group shared with the cache: its entry
holds the group as it now is. -/
def IR.cache_group (ir : IR) (g : Group) : IR :=
  let key := key_for_id g.group_id
  if key ∈ ir.cache.cache then
    { ir with cache := { ir.cache with cache := ir.cache.cache.set key (.group g, none) } }
  else { ir with cache := ir.cache.add key (.group g) none }

/-- The group of a live Mapping, with the IR after: the group of its id if
the IR has one (the Mapping added unless a Mapping of the group has its cache
key), else the cached group, else a new group. -/
def IR.place (ir : IR) (m : IRMapping) : IR × Group × IRMapping :=
  match ir.groups.get? m.group_id with
  | none =>
    -- Is this group in our external cache?
    let r := ir.cache.get (key_for_id m.group_id)
    let ir := { ir with cache := r.2 }
    match r.1 with
    | some (.group g) => ({ ir with groups := ir.groups.set g.group_id g }, g, m)
    | _ =>
      let n := Group.new ir.aconf m
      ({ ir with aconf := n.1, groups := ir.groups.set n.2.1.group_id n.2.1 }, n.2.1, n.2.2)
  | some g =>
    if m.cache_key ∈ g.mappings.map IRMapping.cache_key then (ir, g, m)
    else
      let n := Group.add_mapping ir.aconf g m
      ({ ir with aconf := n.1, groups := ir.groups.set m.group_id n.2.1 }, n.2.1, n.2.2)

/-- `IR.add_mapping(aconf, mapping)`: a valid Mapping is placed, then the
Mapping and its group are cached and linked. -/
def IR.add_mapping (ir : IR) (m : IRMapping) : IR :=
  -- `check_status` only queues a status update: not part of this model.
  if m.valid then
    let r := ir.place m
    let ir := { r.1 with cache := r.1.cache.add r.2.2.cache_key (.mapping r.2.2) none }
    let ir := ir.cache_group r.2.1
    { ir with cache := ir.cache.link r.2.2.cache_key (key_for_id r.2.1.group_id) }
  else ir

/-! ### `MappingFactory` -/

/-- The first loop of `load_config`: the cached Mapping under each config's
key, or a new one; only a valid Mapping is live. -/
def fetch_mappings (cache : Cache Cached Unit) : List IRMapping → Cache Cached Unit × List IRMapping
  | [] => (cache, [])
  | config :: configs =>
    let r := cache.get (make_cache_key "Mapping".toList config.name config.«namespace»)
    let mapping := match r.1 with
      | some (.mapping m) => m
      | _ => config
    let rest := fetch_mappings r.2 configs
    (rest.1, if mapping.valid then mapping :: rest.2 else rest.2)

/-- The second loop of `load_config`: the group of each live Mapping whose
key is in `invalidate_groups_for` is invalidated. -/
def drop_groups (invalidate_groups_for : List Key) (cache : Cache Cached Unit) (live_mappings : List IRMapping) :
    Cache Cached Unit :=
  live_mappings.foldl (fun cache m =>
    if m.cache_key ∈ invalidate_groups_for then (cache.invalidate (key_for_id m.group_id)).1 else cache) cache

/-- `MappingFactory.load_config(ir, aconf, "Mapping", "mappings", IRHTTPMapping)`,
for the Mappings of the `mappings` bucket in order (each as `IRHTTPMapping`
builds it from its config). -/
def load_config (ir : IR) (configs : List IRMapping) (invalidate_groups_for : List Key) : IR :=
  let fetched := fetch_mappings ir.cache configs
  let cache := drop_groups invalidate_groups_for fetched.1 fetched.2
  fetched.2.foldl IR.add_mapping { ir with cache }

/-! ### Reconfiguring -/

/-- A delta: the kind and the metadata name and namespace (`""` when missing). -/
structure Delta where
  kind : Key
  name : Key
  «namespace» : Key
  deriving DecidableEq

/-- `IR.check_deltas(logger, fetcher, cache)` with a cache: whether to reset
it, the keys whose groups to drop, and the cache after the invalidations. -/
def check_deltas (cache : Cache Cached Unit) (deltas : List Delta) :
    Bool × List Key × Cache Cached Unit :=
  if deltas = [] then (true, [], cache)
  else
    let mapping_deltas := deltas.filter fun d => d.kind = "Mapping".toList ∨ d.kind = "TCPMapping".toList
    let delta_errors := mapping_deltas.filter fun d => d.name = [] ∨ d.«namespace» = []
    let to_invalidate := (mapping_deltas.filter fun d => ¬ (d.name = [] ∨ d.«namespace» = [])).map
      fun d => make_cache_key d.kind d.name d.«namespace»
    if to_invalidate ≠ [] ∧ delta_errors = [] then
      (false, to_invalidate, to_invalidate.foldl (fun cache key => (cache.invalidate key).1) cache)
    else (true, to_invalidate, cache)

/-- The Mapping stage of a build: an IR over `aconf` and `cache`, its groups
from `load_config`. -/
def build (aconf : Config) (cache : Cache Cached Unit) (configs : List IRMapping)
    (invalidate_groups_for : List Key) : IR :=
  load_config ⟨aconf, cache, ∅⟩ configs invalidate_groups_for

/-- A reconfiguration as the driver runs it: `check_deltas`, a fresh cache on
a reset, then the build. -/
def reconfigure (aconf : Config) (cache : Cache Cached Unit) (configs : List IRMapping)
    (deltas : List Delta) : IR :=
  let (reset_cache, invalidate_groups_for, cache) := check_deltas cache deltas
  build aconf (if reset_cache then Cache.init else cache) configs invalidate_groups_for

/-! ### No group holds two Mappings with one cache key -/

theorem Group.file_mappings (aconf : Config) (g : Group) (m : IRMapping) :
    (Group.file aconf g m).2.mappings = g.mappings ∨
      (m.shadow = false ∧ (Group.file aconf g m).2.mappings = g.mappings ++ [m]) := by
  unfold Group.file
  cases hs : m.shadow
  · cases hh : m.host_redirect
    · simp only [Bool.false_eq_true, if_false]
      split <;> simp
    · simp only [Bool.false_eq_true, if_false, if_true]
      split <;> simp
  · simp only [if_true]
    split <;> simp

/-- `add_mapping` leaves the group's Mappings alone or appends the Mapping. -/
theorem Group.add_mapping_mappings (aconf : Config) (g : Group) (m : IRMapping) :
    (Group.add_mapping aconf g m).2.1.mappings = g.mappings ∨
      (Group.add_mapping aconf g m).2.1.mappings = g.mappings ++ [m] := by
  unfold Group.add_mapping
  split
  · exact .inl rfl
  · split
    · -- A shadow that had a host_redirect: it goes to the shadows, if anywhere.
      rcases Group.file_mappings (aconf.post_error m.rkey
        "At most one of host_redirect and shadow may be set; ignoring host_redirect".toList) g
          { m with host_redirect := false } with h | ⟨hs, -⟩
      · exact .inl h
      · simp_all
    · rcases Group.file_mappings aconf g m with h | ⟨-, h⟩
      · exact .inl h
      · exact .inr h

/-- The Mappings of a group have distinct cache keys. -/
def Group.KeysNodup (g : Group) : Prop := (g.mappings.map IRMapping.cache_key).Nodup

/-- Every group the cache holds has distinct keys. -/
def CacheOK (c : Cache Cached Unit) : Prop := ∀ k g h, c.cache.get? k = some (.group g, h) → g.KeysNodup

/-- Every group of the IR, and of its cache, has distinct keys. -/
structure IR.OK (ir : IR) : Prop where
  groups : ∀ gid g, ir.groups.get? gid = some g → g.KeysNodup
  cache : CacheOK ir.cache

theorem Group.add_mapping_keysNodup (aconf : Config) {g : Group} {m : IRMapping} (hg : g.KeysNodup)
    (hm : m.cache_key ∉ g.mappings.map IRMapping.cache_key) : (Group.add_mapping aconf g m).2.1.KeysNodup := by
  unfold Group.KeysNodup
  rcases Group.add_mapping_mappings aconf g m with h | h
  · rwa [h]
  · rw [h, List.map_append, List.nodup_append]
    refine ⟨hg, List.nodup_singleton _, ?_⟩
    simp only [List.map_cons, List.map_nil, List.mem_singleton]
    rintro a ha b rfl rfl
    exact hm ha

theorem Group.new_keysNodup (aconf : Config) (m : IRMapping) : (Group.new aconf m).2.1.KeysNodup :=
  Group.add_mapping_keysNodup aconf (List.nodup_nil) (List.not_mem_nil)

theorem CacheOK.init : CacheOK Cache.init := by
  intro k g h hk
  simp [Cache.init] at hk

theorem CacheOK.of_cache {c c' : Cache Cached Unit} (hc : CacheOK c) (h : c'.cache = c.cache) : CacheOK c' := by
  intro k g e hk
  rw [h] at hk
  exact hc k g e hk

theorem CacheOK.add_mapping {c : Cache Cached Unit} (hc : CacheOK c) (key : Key) (m : IRMapping) :
    CacheOK (c.add key (.mapping m) none) := by
  intro k g e hk
  rcases Cache.get?_add hk with hk | hk
  · exact hc k g e hk
  · cases hk

theorem CacheOK.invalidate {c : Cache Cached Unit} (hc : CacheOK c) (key : Key) : CacheOK (c.invalidate key).1 := by
  intro k g e hk
  rw [Cache.invalidate_cache_get?] at hk
  split at hk
  · cases hk
  · exact hc k g e hk

theorem IR.cache_group_ok (ir : IR) (hc : CacheOK ir.cache) {g : Group} (hg : g.KeysNodup) :
    CacheOK (ir.cache_group g).cache := by
  intro k g' e hk
  by_cases hkey : key_for_id g.group_id ∈ ir.cache.cache
  · -- The group is cached already: its entry now holds it as it is.
    simp only [IR.cache_group, hkey, if_true] at hk
    rw [Dict.get?_set] at hk
    split at hk
    · cases hk
      exact hg
    · exact hc k g' e hk
  · simp only [IR.cache_group, hkey, if_false] at hk
    rcases Cache.get?_add hk with hk | hk
    · exact hc k g' e hk
    · cases hk
      exact hg

theorem IR.cache_group_groups (ir : IR) (g : Group) : (ir.cache_group g).groups = ir.groups := by
  by_cases hkey : key_for_id g.group_id ∈ ir.cache.cache
  · simp only [IR.cache_group, hkey, if_true]
  · simp only [IR.cache_group, hkey, if_false]

theorem groups_set_ok {groups : Dict Key Group} (hgs : ∀ gid g, groups.get? gid = some g → g.KeysNodup)
    {key : Key} {g : Group} (hg : g.KeysNodup) :
    ∀ gid g', (groups.set key g).get? gid = some g' → g'.KeysNodup := by
  intro gid g' h
  rw [Dict.get?_set] at h
  split at h
  · cases h
    exact hg
  · exact hgs gid g' h

/-- Placing a Mapping keeps the invariant, and its group has distinct keys. -/
theorem IR.place_ok {ir : IR} (hI : ir.OK) (m : IRMapping) : (ir.place m).1.OK ∧ (ir.place m).2.1.KeysNodup := by
  unfold IR.place
  cases hg : ir.groups.get? m.group_id with
  | none =>
    have hc : CacheOK (ir.cache.get (key_for_id m.group_id)).2 := hI.cache.of_cache (Cache.get_cache _ _)
    -- A new group when the cache has none for this id; else the cached one.
    have hnew := Group.new_keysNodup ir.aconf m
    dsimp only
    cases hf : (ir.cache.get (key_for_id m.group_id)).1 with
    | none => exact ⟨⟨groups_set_ok hI.groups hnew, hc⟩, hnew⟩
    | some v =>
      cases v with
      | mapping _ => exact ⟨⟨groups_set_ok hI.groups hnew, hc⟩, hnew⟩
      | group g =>
        rw [Cache.get_fst] at hf
        obtain ⟨⟨v, e⟩, he, hv⟩ := Option.map_eq_some_iff.mp hf
        simp only at hv
        subst hv
        have hg' : g.KeysNodup := hI.cache _ g e he
        exact ⟨⟨groups_set_ok hI.groups hg', hc⟩, hg'⟩
  | some g =>
    have hg' : g.KeysNodup := hI.groups _ g hg
    dsimp only
    by_cases hk : m.cache_key ∈ g.mappings.map IRMapping.cache_key
    · simp only [hk, if_true]
      exact ⟨hI, hg'⟩
    · simp only [hk, if_false]
      have hadd := Group.add_mapping_keysNodup ir.aconf hg' hk
      exact ⟨⟨groups_set_ok hI.groups hadd, hI.cache⟩, hadd⟩

/-- The step lemma: `add_mapping` keeps the invariant. -/
theorem IR.OK.add_mapping {ir : IR} (hI : ir.OK) (m : IRMapping) : (ir.add_mapping m).OK := by
  unfold IR.add_mapping
  split
  · obtain ⟨hP, hg⟩ := IR.place_ok hI m
    have hc : CacheOK ((ir.place m).1.cache.add (ir.place m).2.2.cache_key (.mapping (ir.place m).2.2) none) :=
      hP.cache.add_mapping _ _
    refine ⟨?_, ?_⟩
    · simp only [IR.cache_group_groups]
      exact hP.groups
    · exact (IR.cache_group_ok _ hc hg).of_cache (Cache.link_cache _ _ _)
  · exact hI

theorem fetch_mappings_cache : ∀ (c : Cache Cached Unit) (configs : List IRMapping),
    (fetch_mappings c configs).1.cache = c.cache
  | _, [] => rfl
  | c, config :: configs => by
    simp only [fetch_mappings]
    rw [fetch_mappings_cache, Cache.get_cache]

theorem CacheOK.drop_groups {c : Cache Cached Unit} (hc : CacheOK c) (igf : List Key) :
    ∀ live : List IRMapping, CacheOK (drop_groups igf c live) := by
  intro live
  induction live generalizing c with
  | nil => exact hc
  | cons m live ih =>
    simp only [MappingGroups.drop_groups, List.foldl_cons] at ih ⊢
    split
    · exact ih (hc.invalidate _)
    · exact ih hc

/-- The run lemma: adding the live Mappings one by one keeps the invariant. -/
theorem IR.OK.foldl_add_mapping : ∀ {ir : IR} (live : List IRMapping), ir.OK → (live.foldl IR.add_mapping ir).OK
  | _, [], hI => hI
  | _, m :: live, hI => IR.OK.foldl_add_mapping live (hI.add_mapping m)

theorem IR.OK.load_config {ir : IR} (hI : ir.OK) (configs : List IRMapping) (igf : List Key) :
    (load_config ir configs igf).OK := by
  apply IR.OK.foldl_add_mapping
  refine ⟨hI.groups, ?_⟩
  exact CacheOK.drop_groups (hI.cache.of_cache (fetch_mappings_cache _ _)) _ _

theorem CacheOK.check_deltas {c : Cache Cached Unit} (hc : CacheOK c) (deltas : List Delta) :
    CacheOK (check_deltas c deltas).2.2 := by
  unfold MappingGroups.check_deltas
  split
  · exact hc
  · dsimp only
    split
    · -- The invalidations only remove entries.
      have : ∀ (keys : List Key) (c : Cache Cached Unit), CacheOK c →
          CacheOK (keys.foldl (fun cache key => (cache.invalidate key).1) c) := by
        intro keys
        induction keys with
        | nil => exact fun _ hc => hc
        | cons key keys ih => exact fun c hc => ih _ (hc.invalidate key)
      exact this _ _ hc
    · exact hc

theorem reconfigure_ok {c : Cache Cached Unit} (hc : CacheOK c) (aconf : Config) (configs : List IRMapping)
    (deltas : List Delta) : (reconfigure aconf c configs deltas).OK := by
  unfold reconfigure build
  apply IR.OK.load_config
  refine ⟨fun gid g h => by simp at h, ?_⟩
  split
  · exact CacheOK.init
  · exact hc.check_deltas deltas

/-- Reconfigurations one after the other, each with the cache the one before left. -/
def reconfigure_all : Cache Cached Unit → List (Config × List IRMapping × List Delta) → Cache Cached Unit
  | cache, [] => cache
  | cache, (aconf, configs, deltas) :: rest => reconfigure_all (reconfigure aconf cache configs deltas).cache rest

theorem CacheOK.reconfigure_all : ∀ {c : Cache Cached Unit} (history : List (Config × List IRMapping × List Delta)),
    CacheOK c → CacheOK (reconfigure_all c history)
  | _, [], hc => hc
  | _, (aconf, configs, deltas) :: rest, hc => CacheOK.reconfigure_all rest (reconfigure_ok hc aconf configs deltas).cache

/-- After any run of reconfigurations from a fresh cache, no group of the next
build, and no group in its cache, holds two Mappings with one cache key. -/
theorem reconfigure_keys_nodup (history : List (Config × List IRMapping × List Delta)) (aconf : Config)
    (configs : List IRMapping) (deltas : List Delta) :
    (reconfigure aconf (reconfigure_all Cache.init history) configs deltas).OK :=
  reconfigure_ok (CacheOK.init.reconfigure_all history) aconf configs deltas

/-! ### A new group, and a Mapping its group turns away -/

/-- A Mapping disagrees with no group of its own group id and core values. -/
theorem mismatches_of_same_core {g : Group} {m : IRMapping} (hid : g.group_id = m.group_id) (hcore : g.core = m.core) :
    mismatches g m = [] := by
  unfold mismatches
  rw [List.filterMap_eq_nil_iff]
  intro k _
  have hattr : g.attr k = m.attr k := by
    simp only [Group.attr, IRMapping.attr, hid, hcore]
  cases h : m.attr k with
  | none => rfl
  | some v => simp [hattr, h]

/-- A Mapping that has a core value the group does not have disagrees with it. -/
theorem mismatches_ne_nil {g : Group} {m : IRMapping} {k v : Key} (hk : k ∈ CoreMappingKeys)
    (hm : m.attr k = some v) (hg : g.attr k ≠ some v) : mismatches g m ≠ [] := by
  refine List.ne_nil_of_mem (a := (k, v, (g.attr k).getD "-unset-".toList)) ?_
  rw [mismatches, List.mem_filterMap]
  exact ⟨k, hk, by simp only [hm, if_neg hg]⟩

/-- The group a plain Mapping starts: its own `rkey` and core values, with it
as the only Mapping, and no error. -/
theorem Group.new_of_plain (aconf : Config) {m : IRMapping} (hs : m.shadow = false) (hh : m.host_redirect = false) :
    Group.new aconf m = (aconf, ⟨m.rkey, m.group_id, m.core, [m], [], none⟩, m) := by
  have hm : mismatches ⟨m.rkey, m.group_id, m.core, [], [], none⟩ m = [] := mismatches_of_same_core rfl rfl
  simp [Group.new, Group.add_mapping, Group.file, hm, hs, hh]

/-- A Mapping that disagrees with the group's core values is turned away with
an error on the group. -/
theorem Group.add_mapping_of_mismatch (aconf : Config) {g : Group} {m : IRMapping} (hm : mismatches g m ≠ []) :
    Group.add_mapping aconf g m = (aconf.post_error g.rkey (mismatch_error m (mismatches g m)), g, m) := by
  rw [Group.add_mapping, if_pos hm]

/-- `add_mapping` changes the `Config` and the groups as placing the Mapping
does; the caching after does not touch them. -/
theorem IR.add_mapping_aconf_groups (ir : IR) (m : IRMapping) :
    ((ir.add_mapping m).aconf, (ir.add_mapping m).groups) =
      if m.valid then ((ir.place m).1.aconf, (ir.place m).1.groups) else (ir.aconf, ir.groups) := by
  unfold IR.add_mapping
  split
  · simp only [IR.cache_group_groups]
    by_cases hkey : key_for_id (ir.place m).2.1.group_id ∈
        ((ir.place m).1.cache.add (ir.place m).2.2.cache_key (.mapping (ir.place m).2.2) none).cache
    · simp only [IR.cache_group, hkey, if_true]
    · simp only [IR.cache_group, hkey, if_false]
  · rfl

/-- The first Mapping of a group id that neither the IR nor the cache has
starts a new group. -/
theorem IR.place_of_new {ir : IR} {m : IRMapping} (hg : ir.groups.get? m.group_id = none)
    (hc : key_for_id m.group_id ∉ ir.cache.cache) :
    ((ir.place m).1.aconf, (ir.place m).1.groups) =
      ((Group.new ir.aconf m).1, ir.groups.set (Group.new ir.aconf m).2.1.group_id (Group.new ir.aconf m).2.1) := by
  have hmiss : (ir.cache.get (key_for_id m.group_id)).1 = none := by
    rw [Cache.get_fst, Dict.get?_eq_none.mpr hc, Option.map_none]
  unfold IR.place
  rw [hg]
  dsimp only
  rw [hmiss]

/-- A Mapping of a group id the IR has, whose cache key the group does not
hold yet, goes to `IRHTTPMappingGroup.add_mapping`. -/
theorem IR.place_of_known {ir : IR} {m : IRMapping} {g : Group} (hg : ir.groups.get? m.group_id = some g)
    (hk : m.cache_key ∉ g.mappings.map IRMapping.cache_key) :
    ((ir.place m).1.aconf, (ir.place m).1.groups) =
      ((Group.add_mapping ir.aconf g m).1, ir.groups.set m.group_id (Group.add_mapping ir.aconf g m).2.1) := by
  unfold IR.place
  rw [hg]
  dsimp only
  rw [if_neg hk]

/-! ### Two Mappings, one cache key -/

/-- A valid Mapping of group `group_id`, its prefix the only core value. -/
def http_mapping (name ns group_id rkey : String) : IRMapping :=
  ⟨rkey.toList, "Mapping".toList, name.toList, ns.toList, group_id.toList,
    [("prefix".toList, group_id.toList)], false, false, true⟩

/-- `foo` and `foo.v2` in one namespace and one group: the group holds `foo`
only, and no error is posted. -/
theorem load_all_drops_same_key :
    (fun ir : IR => (ir.groups.entries, ir.aconf.errors.entries))
        (build (Config.init "default".toList "default".toList) Cache.init
          [http_mapping "foo" "ns" "g" "foo.ns.1", http_mapping "foo.v2" "ns" "g" "foo.v2.ns.1"] []) =
      ([("g".toList, ⟨"foo.ns.1".toList, "g".toList, [("prefix".toList, "g".toList)],
          [http_mapping "foo" "ns" "g" "foo.ns.1"], [], none⟩)], []) := by
  decide

/-- `foo` and `foo.v2` in one namespace, in two groups, then a new Mapping
`bar`: the incremental build has no group for `foo.v2`, the full rebuild does. -/
theorem reconfigure_drops_group :
    (check_deltas (build (Config.init "default".toList "default".toList) Cache.init
        [http_mapping "foo" "ns" "ga" "foo.ns.1", http_mapping "foo.v2" "ns" "gb" "foo.v2.ns.1"] []).cache
        [⟨"Mapping".toList, "bar".toList, "ns".toList⟩]).1 = false ∧
    (reconfigure (Config.init "default".toList "default".toList)
        (build (Config.init "default".toList "default".toList) Cache.init
          [http_mapping "foo" "ns" "ga" "foo.ns.1", http_mapping "foo.v2" "ns" "gb" "foo.v2.ns.1"] []).cache
        [http_mapping "foo" "ns" "ga" "foo.ns.1", http_mapping "foo.v2" "ns" "gb" "foo.v2.ns.1",
          http_mapping "bar" "ns" "gc" "bar.ns.1"]
        [⟨"Mapping".toList, "bar".toList, "ns".toList⟩]).groups.keys = ["ga".toList, "gc".toList] ∧
    (build (Config.init "default".toList "default".toList) Cache.init
        [http_mapping "foo" "ns" "ga" "foo.ns.1", http_mapping "foo.v2" "ns" "gb" "foo.v2.ns.1",
          http_mapping "bar" "ns" "gc" "bar.ns.1"] []).groups.keys =
      ["ga".toList, "gb".toList, "gc".toList] := by
  refine ⟨by decide, ?_, by decide⟩
  generalize hc1 : (build (Config.init "default".toList "default".toList) Cache.init
    [http_mapping "foo" "ns" "ga" "foo.ns.1", http_mapping "foo.v2" "ns" "gb" "foo.v2.ns.1"] []).cache = c1
  -- `bar` is new, so `check_deltas` invalidates a key that is not cached.
  have hbar : make_cache_key "Mapping".toList "bar".toList "ns".toList ∉ c1.cache := by
    subst hc1
    decide
  have hinv : (c1.invalidate (make_cache_key "Mapping".toList "bar".toList "ns".toList)).1 =
      { c1 with invalidate_calls := c1.invalidate_calls + 1 } := by
    rw [Cache.invalidate_of_not_mem _ _ hbar]
  have hd : check_deltas c1 [⟨"Mapping".toList, "bar".toList, "ns".toList⟩] =
      (false, [make_cache_key "Mapping".toList "bar".toList "ns".toList],
        { c1 with invalidate_calls := c1.invalidate_calls + 1 }) := by
    rw [← hinv]
    rfl
  simp only [reconfigure, hd, Bool.false_eq_true, if_false, build, load_config]
  -- The fetches: the config of `foo.v2` gets `foo` back from the cache.
  have hF : fetch_mappings { c1 with invalidate_calls := c1.invalidate_calls + 1 }
      [http_mapping "foo" "ns" "ga" "foo.ns.1", http_mapping "foo.v2" "ns" "gb" "foo.v2.ns.1",
        http_mapping "bar" "ns" "gc" "bar.ns.1"] =
      ((fetch_mappings { c1 with invalidate_calls := c1.invalidate_calls + 1 }
        [http_mapping "foo" "ns" "ga" "foo.ns.1", http_mapping "foo.v2" "ns" "gb" "foo.v2.ns.1",
          http_mapping "bar" "ns" "gc" "bar.ns.1"]).1,
       [http_mapping "foo" "ns" "ga" "foo.ns.1", http_mapping "foo" "ns" "ga" "foo.ns.1",
        http_mapping "bar" "ns" "gc" "bar.ns.1"]) :=
    Prod.ext rfl (by subst hc1; decide)
  rw [hF]
  simp only [drop_groups, List.foldl_cons, List.foldl_nil]
  -- Only `bar`'s group is dropped, and it is not cached either.
  rw [if_pos (by decide), if_neg (by decide), if_neg (by decide)]
  have hgc : key_for_id (http_mapping "bar" "ns" "gc" "bar.ns.1").group_id ∉
      (fetch_mappings { c1 with invalidate_calls := c1.invalidate_calls + 1 }
        [http_mapping "foo" "ns" "ga" "foo.ns.1", http_mapping "foo.v2" "ns" "gb" "foo.v2.ns.1",
          http_mapping "bar" "ns" "gc" "bar.ns.1"]).1.cache := by
    subst hc1
    decide
  rw [Cache.invalidate_of_not_mem _ _ hgc]
  subst hc1
  decide

end MappingGroups
end Emissary

/-
# The cache of IR objects

`Cache` (cache.py) holds Cacheables by their cache key, each with an optional
deletion handler, and links from an owning key to the keys it owns.
`invalidate key` deletes the entry at `key` and, recursively, everything it
owns: a worklist over the links first collects what to delete (`to_delete`),
then every collected entry is deleted, its links dropped and its handler
called. Keys are Python strings, lists of characters ordered by code point, so
`sorted` on a set of keys is `Finset.sort`.

The collecting loop is `Worklist.walk` over the cache's entries, with the
owned keys of a key, sorted, as its successors (`toDelete`). So `invalidate`
terminates on every cache, cycles and dangling links included, and removes
exactly the keys reached from `key` through cached keys (`Closure`): the
entries and links of those keys go (`invalidate_cache_get?`,
`invalidate_links_get?`), everything else stays, and the handler of each
removed entry runs once and no other handler runs (`invalidate_calls_count`).

Key definitions: `Cache`, `Cache.add`, `Cache.link`, `Cache.invalidate`,
`Cache.Closure`.
Key theorems: `Cache.invalidate_cache_get?`, `Cache.invalidate_links_get?`,
`Cache.invalidate_calls_count`.
-/
import Emissary.Basic
import Emissary.Lib.Worklist
import Mathlib.Data.Finset.Sort
import Mathlib.Data.List.Lex
import Mathlib.Data.Char

namespace Emissary

/-- The cache, for Cacheables of type `R` and deletion handlers of type `H`:
`self.cache` maps a key to its `(rsrc, on_delete)` entry, `self.links` an
owner's key to the set of keys it owns; the four counters are the stats. -/
structure Cache (R H : Type) where
  cache : Dict Key (R × Option H)
  links : Dict Key (Finset Key)
  hits : ℕ
  misses : ℕ
  invalidate_calls : ℕ
  invalidated_objects : ℕ

namespace Cache

variable {R H : Type}

/-- `Cache(logger)`: empty, with its stats reset. -/
def init : Cache R H := ⟨∅, ∅, 0, 0, 0, 0⟩

/-- `add(rsrc, on_delete)`, for a resource whose `cache_key` is `key`: an
empty key and a key already present are ignored. -/
def add (c : Cache R H) (key : Key) (rsrc : R) (on_delete : Option H) : Cache R H :=
  if key = [] then c
  else if key ∈ c.cache then c
  else { c with cache := c.cache.set key (rsrc, on_delete) }

/-- `link(owner, owned)`, for the keys of the two: both must be non-empty and
cached, and then `owned_key` joins the set of `owner_key`. -/
def link (c : Cache R H) (owner_key owned_key : Key) : Cache R H :=
  if owner_key = [] then c
  else if owned_key = [] then c
  else if owner_key ∉ c.cache then c
  else if owned_key ∉ c.cache then c
  else { c with links := c.links.set owner_key (insert owned_key ((c.links.get? owner_key).getD ∅)) }

/-- `self[key]`: the resource at `key`, counting a hit or a miss. -/
def get (c : Cache R H) (key : Key) : Option R × Cache R H :=
  match c.cache.get? key with
  | some (rsrc, _) => (some rsrc, { c with hits := c.hits + 1 })
  | none => (none, { c with misses := c.misses + 1 })

theorem get_fst (c : Cache R H) (key : Key) : (c.get key).1 = (c.cache.get? key).map Prod.fst := by
  unfold get
  split <;> simp_all

theorem get_cache (c : Cache R H) (key : Key) : (c.get key).2.cache = c.cache := by
  unfold get
  split <;> rfl

theorem link_cache (c : Cache R H) (owner_key owned_key : Key) : (c.link owner_key owned_key).cache = c.cache := by
  unfold link
  split_ifs <;> rfl

/-- An entry after `add` is the one added or was there before. -/
theorem get?_add {c : Cache R H} {key k : Key} {rsrc : R} {on_delete : Option H} {e : R × Option H}
    (h : (c.add key rsrc on_delete).cache.get? k = some e) : c.cache.get? k = some e ∨ e = (rsrc, on_delete) := by
  unfold add at h
  split_ifs at h
  · exact .inl h
  · exact .inl h
  · rw [Dict.get?_set] at h
    split_ifs at h
    · exact .inr (Option.some.inj h).symm
    · exact .inl h

/-- `sorted(self.links[key])` when `key in self.links`, else nothing. -/
def owned (c : Cache R H) (key : Key) : List Key :=
  match c.links.get? key with
  | some s => s.sort
  | none => []

/-- The first loop of `invalidate`: the worklist from `key`, collecting into
`to_delete` the entry of each cached key not seen yet and queueing the keys it
owns. -/
def toDelete (c : Cache R H) (key : Key) : Dict Key (R × Option H) :=
  Worklist.walk c.cache c.owned ∅ [key]

/-- The second loop of `invalidate`, over `to_delete.items()` in order: count
the object, delete its entry and its links, call its handler. The calls made
come back as `(key, rsrc, on_delete)`, in order. -/
def smite : Cache R H → List (Key × (R × Option H)) → Cache R H × List (Key × R × H)
  | c, [] => (c, [])
  | c, (key, (rsrc, on_delete)) :: rest =>
    let c' := { c with
      invalidated_objects := c.invalidated_objects + 1
      cache := c.cache.erase key
      links := if key ∈ c.links then c.links.erase key else c.links }
    let r := smite c' rest
    (r.1, match on_delete with
      | some h => (key, rsrc, h) :: r.2
      | none => r.2)

/-- `invalidate(key)`: the cache after, and the handler calls it made. -/
def invalidate (c : Cache R H) (key : Key) : Cache R H × List (Key × R × H) :=
  smite { c with invalidate_calls := c.invalidate_calls + 1 } (c.toDelete key).entries

/-! ### What `invalidate` removes -/

/-- The keys `invalidate key` must remove: `key` if it is cached, and every
cached key linked from one of them. -/
def Closure (c : Cache R H) (key : Key) : Key → Prop := Worklist.Reach (· ∈ c.cache) c.owned key

instance (c : Cache R H) (key k : Key) : Decidable (c.Closure key k) :=
  decidable_of_iff (k ∈ c.toDelete key) (Worklist.mem_walk key k)

theorem mem_toDelete {c : Cache R H} {key k : Key} : k ∈ c.toDelete key ↔ c.Closure key k :=
  Worklist.mem_walk key k

theorem toDelete_get? {c : Cache R H} {key k : Key} {e : R × Option H} :
    (c.toDelete key).get? k = some e ↔ c.Closure key k ∧ c.cache.get? k = some e :=
  Worklist.get?_walk key k e

/-! ### The deletion loop -/

section Smite

variable (c : Cache R H) (es : List (Key × (R × Option H)))

theorem smite_cache_get? (k : Key) :
    (smite c es).1.cache.get? k = if k ∈ es.map Prod.fst then none else c.cache.get? k := by
  induction es generalizing c with
  | nil => simp [smite]
  | cons e es ih =>
    obtain ⟨key, rsrc, on_delete⟩ := e
    simp only [smite, ih, Dict.get?_erase, List.map_cons, List.mem_cons]
    by_cases hk : k = key
    · simp [hk]
    · simp only [hk, false_or, if_false]

theorem smite_links_get? (k : Key) :
    (smite c es).1.links.get? k = if k ∈ es.map Prod.fst then none else c.links.get? k := by
  induction es generalizing c with
  | nil => simp [smite]
  | cons e es ih =>
    obtain ⟨key, rsrc, on_delete⟩ := e
    simp only [smite, ih, List.map_cons, List.mem_cons]
    by_cases hk : k = key
    · subst hk
      have : (if k ∈ c.links then c.links.erase k else c.links).get? k = none := by
        split
        · exact Dict.get?_erase_self _ _
        · exact Dict.get?_eq_none.mpr ‹_›
      simp only [this, true_or, if_true, ite_self]
    · have : (if key ∈ c.links then c.links.erase key else c.links).get? k = c.links.get? k := by
        split
        · exact Dict.get?_erase_ne _ hk
        · rfl
      simp only [this, hk, false_or]

/-- The calls are the entries with a handler, in order. -/
theorem smite_calls :
    (smite c es).2 = es.filterMap fun e => e.2.2.map fun h => (e.1, e.2.1, h) := by
  induction es generalizing c with
  | nil => rfl
  | cons e es ih =>
    obtain ⟨key, rsrc, on_delete⟩ := e
    cases on_delete <;> simp [smite, ih]

end Smite

/-! ### `invalidate` -/

variable (c : Cache R H) (key : Key)

/-- Invalidating a key that is not cached only counts the call. -/
theorem invalidate_of_not_mem (h : key ∉ c.cache) :
    c.invalidate key = ({ c with invalidate_calls := c.invalidate_calls + 1 }, []) := by
  have hd : c.toDelete key = ∅ := by
    unfold toDelete
    rw [Worklist.walk_cons_absent _ _ _ _ _ (Dict.get?_eq_none.mpr h), Worklist.walk_nil]
  simp only [invalidate, hd]
  rfl

/-- The keys `smite` is handed by `invalidate` are those of the closure. -/
theorem mem_toDelete_keys {k : Key} : k ∈ (c.toDelete key).entries.map Prod.fst ↔ c.Closure key k :=
  mem_toDelete

/-- The cache keeps exactly the entries outside the closure. -/
theorem invalidate_cache_get? (k : Key) :
    (c.invalidate key).1.cache.get? k = if c.Closure key k then none else c.cache.get? k := by
  simp only [invalidate, smite_cache_get?, mem_toDelete_keys]

/-- The links of the removed keys go; the others stay. -/
theorem invalidate_links_get? (k : Key) :
    (c.invalidate key).1.links.get? k = if c.Closure key k then none else c.links.get? k := by
  simp only [invalidate, smite_links_get?, mem_toDelete_keys]

/-- Each call is the handler of a removed entry, applied to its resource. -/
theorem mem_invalidate_calls {k : Key} {r : R} {h : H} :
    (k, r, h) ∈ (c.invalidate key).2 ↔ c.Closure key k ∧ c.cache.get? k = some (r, some h) := by
  simp only [invalidate, smite_calls, List.mem_filterMap, Option.map_eq_some_iff]
  constructor
  · rintro ⟨⟨k', r', h'⟩, he, h'', hh, heq⟩
    simp only [Prod.mk.injEq] at heq
    obtain ⟨rfl, rfl, rfl⟩ := heq
    subst hh
    exact toDelete_get?.mp (Dict.mem_entries.mp he)
  · intro hk
    exact ⟨(k, r, some h), Dict.mem_entries.mpr (toDelete_get?.mpr hk), h, rfl, rfl⟩

theorem map_fst_filterMap_sublist (es : List (Key × (R × Option H))) :
    ((es.filterMap fun e => e.2.2.map fun h => (e.1, e.2.1, h)).map Prod.fst).Sublist (es.map Prod.fst) := by
  induction es with
  | nil => exact List.Sublist.slnil
  | cons e es ih =>
    obtain ⟨k, r, on_delete⟩ := e
    cases on_delete with
    | none => exact ih.cons k
    | some h => exact ih.cons_cons k

/-- No key's handler is called twice. -/
theorem invalidate_calls_nodup : ((c.invalidate key).2.map Prod.fst).Nodup := by
  simp only [invalidate, smite_calls]
  exact (map_fst_filterMap_sublist _).nodup (c.toDelete key).nodup

/-- The handler of each removed entry is called once, and no other. -/
theorem invalidate_calls_count (k : Key) :
    ((c.invalidate key).2.map Prod.fst).count k =
      if c.Closure key k ∧ (c.cache.get? k).any (·.2.isSome) then 1 else 0 := by
  have hmem : k ∈ (c.invalidate key).2.map Prod.fst ↔
      c.Closure key k ∧ (c.cache.get? k).any (·.2.isSome) := by
    simp only [List.mem_map]
    constructor
    · rintro ⟨⟨k', r, h⟩, hm, rfl⟩
      obtain ⟨hc, he⟩ := (mem_invalidate_calls c key).mp hm
      simp [hc, he]
    · rintro ⟨hc, ha⟩
      obtain ⟨⟨r, on_delete⟩, he, hs⟩ := (Option.any_eq_true _ _).mp ha
      obtain ⟨h, rfl⟩ := Option.isSome_iff_exists.mp hs
      exact ⟨(k, r, h), (mem_invalidate_calls c key).mpr ⟨hc, he⟩, rfl⟩
  split
  · exact List.count_eq_one_of_mem (invalidate_calls_nodup c key) (hmem.mpr ‹_›)
  · exact List.count_eq_zero_of_not_mem (mt hmem.mp ‹_›)

/-- `invalidate key` removes exactly the link closure of `key`: the cache keeps
the entries outside it and loses those inside, the links of the removed keys
go, and each removed entry's handler is called once, on its own resource,
while no surviving entry's handler is. -/
theorem invalidate_removes_link_closure (k : Key) :
    (c.invalidate key).1.cache.get? k = (if c.Closure key k then none else c.cache.get? k) ∧
    (c.invalidate key).1.links.get? k = (if c.Closure key k then none else c.links.get? k) ∧
    ((c.invalidate key).2.map Prod.fst).count k =
      (if c.Closure key k ∧ (c.cache.get? k).any (·.2.isSome) then 1 else 0) ∧
    (∀ r h, (k, r, h) ∈ (c.invalidate key).2 → c.cache.get? k = some (r, some h)) :=
  ⟨invalidate_cache_get? c key k, invalidate_links_get? c key k, invalidate_calls_count c key k,
    fun _ _ hm => ((mem_invalidate_calls c key).mp hm).2⟩

end Cache

end Emissary

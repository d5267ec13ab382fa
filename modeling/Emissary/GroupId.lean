/-
# Group ids of HTTP Mappings

`IRHTTPMapping._group_id` (irhttpmapping.py) is the SHA-1 hex digest of a
byte string: `HTTP-`, the method (`GET` when unset), the prefix, the name and
value of each header and then of each query parameter, the `matchLabels` of
every Host whose `mappingSelector` selects the Mapping's labels (when the
Mapping has no host of its own), and the precedence when it is not 0.
`IR.add_mapping` (ir.py) puts the Mappings of one group id into one group,
and `IRHTTPMappingGroup.add_mapping` turns away a Mapping whose core values
(prefix, method, headers, ...) differ from the group's, with an error.

The parts are joined with no separator and no length, so the byte string
does not determine them: a header `x-a: b` and a presence-only header `x-ab`
give the same bytes, and so do prefix `/foo` with precedence 1 and prefix
`/foo1` (`group_id_collides`). Whatever the hash, two such Mappings get one
group id, and the second is turned away from the group of the first
(`colliding_mapping_rejected`). The part of the grouping key that does come
back from the bytes is the method and the prefix of Mappings with nothing
else to hash, when methods have no `/` and prefixes start with one
(`group_id_bytes_plain_inj`).

The hash is a parameter (`hexdigest`): only the equality of group ids
matters here, and any function of the bytes gives the same collisions. A Host
is given by the `matchLabels` of its `mappingSelector`.

Key definitions: `KeyValueDecorator`, `IRHTTPMapping`, `selector_matches`,
`group_id_bytes`, `IRHTTPMapping._group_id`.
Key theorems: `colliding_mapping_rejected`, `group_id_bytes_plain_inj`.
-/
import Emissary.MappingGroups
import Emissary.Lib.Text

namespace Emissary
namespace GroupId

open MappingGroups

/-! ### What `_group_id` hashes -/

/-- `KeyValueDecorator(name, value, regex)`: a header or query-parameter
match; no `value` matches the presence of the name only. -/
structure KeyValueDecorator where
  name : Key
  value : Option Key := none
  regex : Bool := false
  deriving DecidableEq, Repr

/-- The fields of an `IRHTTPMapping` that `_group_id` reads: `method` is
`self.get("method")`, `prefix_path` is `self.prefix`. -/
structure IRHTTPMapping where
  method : Option Key := none
  prefix_path : Key := []
  headers : List KeyValueDecorator := []
  query_parameters : List KeyValueDecorator := []
  host : Option Key := none
  metadata_labels : Option (Dict Key Key) := none
  precedence : ℤ := 0

/-- `selector_matches(logger, selector, labels)` (irutils.py) for a selector
with these `matchLabels`; `disable_strict` is `disable_strict_selectors()`. -/
def selector_matches (disable_strict : Bool) (matchLabels labels : Dict Key Key) : Bool :=
  if matchLabels.entries = [] then true
  else if labels.entries = [] then false
  else if disable_strict then matchLabels.entries.any fun kv => decide (labels.get? kv.1 = some kv.2)
  else matchLabels.entries.all fun kv => decide (labels.get? kv.1 = some kv.2)

/-- What a header or query parameter adds: its name, then its value if it has one. -/
def KeyValueDecorator.bytes (kv : KeyValueDecorator) : Key := kv.name ++ kv.value.getD []

/-- The loop over `self.ir.hosts`: the `matchLabels` of every Host whose
`mappingSelector` selects `labels`, key then value. -/
def selector_bytes (disable_strict : Bool) (hosts : List (Option (Dict Key Key))) (labels : Dict Key Key) : Key :=
  hosts.flatMap fun
    | some matchLabels =>
      if selector_matches disable_strict matchLabels labels then matchLabels.entries.flatMap fun kv => kv.1 ++ kv.2
      else []
    -- `if not mapsel: continue`
    | none => []

/-- `self.get("method") or "GET"`. -/
def method_or_get : Option Key → Key
  | some method => if method = [] then "GET".toList else method
  | none => "GET".toList

/-- `if not self.host and self.metadata_labels is not None:` the selected
labels, else nothing. -/
def labels_bytes (disable_strict : Bool) (hosts : List (Option (Dict Key Key))) (m : IRHTTPMapping) : Key :=
  match m.host.getD [], m.metadata_labels with
  | [], some labels => selector_bytes disable_strict hosts labels
  | _, _ => []

/-- The byte string `_group_id` hashes. -/
def group_id_bytes (disable_strict : Bool) (hosts : List (Option (Dict Key Key))) (m : IRHTTPMapping) : Key :=
  "HTTP-".toList ++ method_or_get m.method ++ m.prefix_path ++ m.headers.flatMap KeyValueDecorator.bytes ++
    m.query_parameters.flatMap KeyValueDecorator.bytes ++ labels_bytes disable_strict hosts m ++
    (if m.precedence ≠ 0 then Text.intStr m.precedence else [])

/-- `IRHTTPMapping._group_id()`: the hex digest of the bytes. -/
def IRHTTPMapping._group_id (hexdigest : List Char → Key) (disable_strict : Bool)
    (hosts : List (Option (Dict Key Key))) (m : IRHTTPMapping) : Key :=
  hexdigest (group_id_bytes disable_strict hosts m)

/-- The Mapping as `IR.add_mapping` takes it: valid, neither a shadow nor a
host_redirect, its group id from `_group_id`, and its prefix as its core
value (the Mappings below have no other). -/
def IRHTTPMapping.grouped (hexdigest : List Char → Key) (disable_strict : Bool)
    (hosts : List (Option (Dict Key Key))) (rkey name «namespace» : Key) (m : IRHTTPMapping) : IRMapping :=
  ⟨rkey, "Mapping".toList, name, «namespace», m._group_id hexdigest disable_strict hosts,
    [("prefix".toList, m.prefix_path)], false, false, true⟩

/-! ### What the bytes tell apart -/

theorem labels_bytes_of_no_labels (disable_strict : Bool) (hosts : List (Option (Dict Key Key)))
    {m : IRHTTPMapping} (hl : m.metadata_labels = none) : labels_bytes disable_strict hosts m = [] := by
  unfold labels_bytes
  rw [hl]
  cases m.host.getD [] <;> rfl

/-- Without labels, the Hosts and the selector mode add nothing. -/
theorem group_id_bytes_of_no_labels (disable_strict : Bool) (hosts : List (Option (Dict Key Key)))
    {m : IRHTTPMapping} (hl : m.metadata_labels = none) :
    group_id_bytes disable_strict hosts m = group_id_bytes false [] m := by
  unfold group_id_bytes
  rw [labels_bytes_of_no_labels _ _ hl, labels_bytes_of_no_labels _ _ hl]

/-- The bytes of a Mapping with no headers, query parameters, labels or
precedence: `HTTP-`, the method and the prefix. -/
theorem group_id_bytes_of_plain {m : IRHTTPMapping}
    (hh : m.headers = []) (hq : m.query_parameters = []) (hl : m.metadata_labels = none) (hp : m.precedence = 0) :
    group_id_bytes false [] m = "HTTP-".toList ++ method_or_get m.method ++ m.prefix_path := by
  have hprec : ¬m.precedence ≠ 0 := not_not.mpr hp
  unfold group_id_bytes
  rw [hh, hq, labels_bytes_of_no_labels _ _ hl, if_neg hprec, List.flatMap_nil, List.append_nil, List.append_nil,
    List.append_nil, List.append_nil]

/-- For Mappings with nothing else to hash, equal bytes mean the same method
and prefix, as long as no method has a `/` and every prefix starts with one. -/
theorem group_id_bytes_plain_inj (disable_strict : Bool) (hosts : List (Option (Dict Key Key)))
    {m₁ m₂ : IRHTTPMapping}
    (h₁ : m₁.headers = [] ∧ m₁.query_parameters = [] ∧ m₁.metadata_labels = none ∧ m₁.precedence = 0)
    (h₂ : m₂.headers = [] ∧ m₂.query_parameters = [] ∧ m₂.metadata_labels = none ∧ m₂.precedence = 0)
    (hmethod : '/' ∉ method_or_get m₁.method ∧ '/' ∉ method_or_get m₂.method)
    (hpaths : ∃ r₁ r₂, m₁.prefix_path = '/' :: r₁ ∧ m₂.prefix_path = '/' :: r₂)
    (h : group_id_bytes disable_strict hosts m₁ = group_id_bytes disable_strict hosts m₂) :
    method_or_get m₁.method = method_or_get m₂.method ∧ m₁.prefix_path = m₂.prefix_path := by
  obtain ⟨r₁, r₂, hr₁, hr₂⟩ := hpaths
  rw [group_id_bytes_of_no_labels disable_strict hosts h₁.2.2.1, group_id_bytes_of_no_labels disable_strict hosts h₂.2.2.1,
    group_id_bytes_of_plain h₁.1 h₁.2.1 h₁.2.2.1 h₁.2.2.2, group_id_bytes_of_plain h₂.1 h₂.2.1 h₂.2.2.1 h₂.2.2.2,
    List.append_assoc, List.append_assoc, hr₁, hr₂] at h
  -- the method ends at the first `/`
  obtain ⟨hm, hr⟩ := Text.append_cons_cancel_of_not_mem hmethod.1 hmethod.2 (List.append_cancel_left h)
  exact ⟨hm, by rw [hr₁, hr₂, hr]⟩

/-! ### Two Mappings, one group id -/

/-- Two Mappings whose bytes agree and whose prefixes differ, added to an
empty IR one after the other under distinct cache keys: whatever the hash,
they get one group id, the first starts the group and is its only Mapping,
and the group turns the second away with a mismatch error. -/
theorem colliding_mapping_rejected (hexdigest : List Char → Key) (disable_strict : Bool)
    (hosts : List (Option (Dict Key Key))) (aconf : Config) {m₁ m₂ : IRHTTPMapping} {r₁ n₁ ns₁ r₂ n₂ ns₂ : Key}
    (hbytes : group_id_bytes disable_strict hosts m₁ = group_id_bytes disable_strict hosts m₂)
    (hpaths : m₂.prefix_path ≠ m₁.prefix_path)
    (hkey : make_cache_key "Mapping".toList n₂ ns₂ ≠ make_cache_key "Mapping".toList n₁ ns₁) :
    (((IR.add_mapping ⟨aconf, Cache.init, ∅⟩ (m₁.grouped hexdigest disable_strict hosts r₁ n₁ ns₁)).add_mapping
        (m₂.grouped hexdigest disable_strict hosts r₂ n₂ ns₂)).groups.get? (m₁._group_id hexdigest disable_strict hosts) =
      some ⟨r₁, m₁._group_id hexdigest disable_strict hosts, [("prefix".toList, m₁.prefix_path)],
        [m₁.grouped hexdigest disable_strict hosts r₁ n₁ ns₁], [], none⟩) ∧
    ∃ ms ≠ [], ((IR.add_mapping ⟨aconf, Cache.init, ∅⟩ (m₁.grouped hexdigest disable_strict hosts r₁ n₁ ns₁)).add_mapping
        (m₂.grouped hexdigest disable_strict hosts r₂ n₂ ns₂)).aconf =
      aconf.post_error r₁ (mismatch_error (m₂.grouped hexdigest disable_strict hosts r₂ n₂ ns₂) ms) := by
  generalize ha : m₁.grouped hexdigest disable_strict hosts r₁ n₁ ns₁ = a
  generalize hb : m₂.grouped hexdigest disable_strict hosts r₂ n₂ ns₂ = b
  have hid : b.group_id = a.group_id := by
    rw [← ha, ← hb]
    exact congrArg hexdigest hbytes.symm
  -- the first Mapping starts the group of its id
  have hnew := @IR.place_of_new ⟨aconf, Cache.init, ∅⟩ a (Dict.get?_empty _) (Dict.not_mem_empty _)
  rw [Group.new_of_plain aconf (by rw [← ha]; rfl) (by rw [← ha]; rfl)] at hnew
  have h₁ := IR.add_mapping_aconf_groups ⟨aconf, Cache.init, ∅⟩ a
  rw [if_pos (by rw [← ha]; rfl), hnew] at h₁
  obtain ⟨haconf₁, hgroups₁⟩ := Prod.mk.inj h₁
  -- the second goes to that group, whose core value is the first's prefix
  generalize hg : (⟨a.rkey, a.group_id, a.core, [a], [], none⟩ : Group) = g
  rw [hg] at hgroups₁
  have hget : (IR.add_mapping ⟨aconf, Cache.init, ∅⟩ a).groups.get? b.group_id = some g := by
    rw [hgroups₁, hid, ← hg, Dict.get?_set_self]
  have hk : b.cache_key ∉ g.mappings.map IRMapping.cache_key := by
    rw [← hg, ← ha, ← hb, List.map_cons, List.map_nil, List.mem_singleton]
    exact hkey
  have hmis : mismatches g b ≠ [] := by
    have hattr : b.attr "prefix".toList = some m₂.prefix_path := by
      rw [← hb]
      rfl
    have hgattr : g.attr "prefix".toList ≠ some m₂.prefix_path := by
      rw [← hg, ← ha]
      exact fun h => hpaths (Option.some.inj h).symm
    exact mismatches_ne_nil (by decide) hattr hgattr
  have hplace := IR.place_of_known hget hk
  rw [Group.add_mapping_of_mismatch _ hmis] at hplace
  have h₂ := IR.add_mapping_aconf_groups (IR.add_mapping ⟨aconf, Cache.init, ∅⟩ a) b
  rw [if_pos (by rw [← hb]; rfl), hplace] at h₂
  obtain ⟨haconf₂, hgroups₂⟩ := Prod.mk.inj h₂
  have hida : a.group_id = m₁._group_id hexdigest disable_strict hosts := by
    rw [← ha]
    rfl
  refine ⟨?_, mismatches g b, hmis, ?_⟩
  · rw [hgroups₂, hid, hida, Dict.get?_set_self, ← hg, ← ha]
    rfl
  · rw [haconf₂, haconf₁, ← hg, ← ha]
    rfl

/-- Presence-only `x-ab` against `x-a: b`, and `/foo` with precedence 1 against
`/foo1`: each pair hashes one byte string, and, whatever the hash, the
Mapping `/foo` is turned away from the group of `/foo1`. -/
theorem group_id_collides (hexdigest : List Char → Key) (disable_strict : Bool)
    (hosts : List (Option (Dict Key Key))) (aconf : Config) :
    group_id_bytes disable_strict hosts { prefix_path := "/".toList, headers := [⟨"x-a".toList, some "b".toList, false⟩] } =
        group_id_bytes disable_strict hosts { prefix_path := "/".toList, headers := [⟨"x-ab".toList, none, false⟩] } ∧
    group_id_bytes disable_strict hosts { prefix_path := "/foo1".toList } =
        group_id_bytes disable_strict hosts { prefix_path := "/foo".toList, precedence := 1 } ∧
    (((IR.add_mapping ⟨aconf, Cache.init, ∅⟩ (IRHTTPMapping.grouped hexdigest disable_strict hosts
        "foo1.ns.1".toList "foo1".toList "ns".toList { prefix_path := "/foo1".toList })).add_mapping
        (IRHTTPMapping.grouped hexdigest disable_strict hosts "foo.ns.1".toList "foo".toList "ns".toList
          { prefix_path := "/foo".toList, precedence := 1 })).groups.get?
          (IRHTTPMapping._group_id hexdigest disable_strict hosts { prefix_path := "/foo1".toList })).map
        Group.mappings =
      some [IRHTTPMapping.grouped hexdigest disable_strict hosts "foo1.ns.1".toList "foo1".toList "ns".toList
        { prefix_path := "/foo1".toList }] := by
  have hbytes : group_id_bytes disable_strict hosts { prefix_path := "/foo1".toList } =
      group_id_bytes disable_strict hosts { prefix_path := "/foo".toList, precedence := 1 } := by
    rw [group_id_bytes_of_no_labels disable_strict hosts rfl, group_id_bytes_of_no_labels disable_strict hosts rfl]
    decide
  refine ⟨?_, hbytes, ?_⟩
  · rw [group_id_bytes_of_no_labels disable_strict hosts rfl, group_id_bytes_of_no_labels disable_strict hosts rfl]
    decide
  · rw [(colliding_mapping_rejected hexdigest disable_strict hosts aconf hbytes (by decide) (by decide)).1]
    rfl

end GroupId
end Emissary

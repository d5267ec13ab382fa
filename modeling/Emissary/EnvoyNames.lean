/-
# Envoy names of clusters

`IR.__init__` (ir.py) gives every cluster an `envoy_name` that Envoy
accepts. A cluster name of at most 60 characters is its own envoy name. A
longer one is cut to its first 40 characters, `-` and the first 16 hex digits
of its SHA-1 in upper case (its short name), and the long names of one short
name get, in sorted order, `-0`, `-1`, ... after it.

Cluster names never contain `-` (they keep `[0-9A-Za-z_]` only,
`built_clusters_name_chars`), so a kept name is never a mangled one, and a
mangled name gives back its short name (57 characters) and its index. Hence
the envoy names are distinct and, when no short name is shared by more than
100 long names, at most 60 characters long (`envoy_names_unique_bounded`).
The loop's effect on each name is stated once (`envoy_names_get?`) and the
two properties are read off it.

Python's `sorted` of distinct strings is modelled by insertion sort on code
points; the hash is a parameter whose hex digest has SHA-1's 40 characters.
The loop also invalidates the cached Envoy clusters of the mangled names,
which is not modelled here.

Key definitions: `short_name`, `envoy_names`.
Key theorems: `envoy_names_get?`, `envoy_names_unique_bounded`.
-/
import Emissary.Clusters
import Mathlib

namespace Emissary
namespace EnvoyNames

open Clusters

/-! ### The loop -/

/-- Python's `sorted` of distinct strings: ordered by code points. -/
def sorted (l : List Key) : List Key := l.insertionSort fun a b => a ≤ b

theorem sorted_perm (l : List Key) : (sorted l).Perm l := List.perm_insertionSort _ l

/-- `name[0:40] + "-" + sha1(name).hexdigest()[0:16].upper()`. -/
def short_name (hexdigest : Key → Key) (name : Key) : Key :=
  name.take 40 ++ "-".toList ++ Text.upper ((hexdigest name).take 16)

/-- Whether `name` is too long and compressed to the short name `s`. -/
def collides_to (hexdigest : Key → Key) (s name : Key) : Bool :=
  decide (60 < name.length ∧ short_name hexdigest name = s)

/-- The first loop, over `sorted(self.clusters.keys())`: a name of at most 60
characters is its own envoy name, a longer one joins the collisions of its
short name. -/
def first_pass (hexdigest : Key → Key) (acc : Dict Key Key × Dict Key (List Key)) (name : Key) :
    Dict Key Key × Dict Key (List Key) :=
  if 60 < name.length then (acc.1, acc.2.push (short_name hexdigest name) name)
  else (acc.1.set name name, acc.2)

/-- One pass of the loop over `sorted(name_list)`: `"%s-%d" % (short_name, i)`,
then `i += 1`. -/
def mangle (short : Key) (acc : Dict Key Key × ℕ) (name : Key) : Dict Key Key × ℕ :=
  (acc.1.set name (short ++ "-".toList ++ Nat.toDigits 10 acc.2), acc.2 + 1)

/-- One pass of the loop over `sorted(collisions.keys())`. -/
def second_pass (collisions : Dict Key (List Key)) (envoy : Dict Key Key) (short : Key) : Dict Key Key :=
  ((sorted ((collisions.get? short).getD [])).foldl (mangle short) (envoy, 0)).1

/-- The `envoy_name` of each cluster, by cluster name. -/
def envoy_names (hexdigest : Key → Key) (names : List Key) : Dict Key Key :=
  let first := (sorted names).foldl (first_pass hexdigest) (∅, ∅)
  (sorted first.2.keys).foldl (second_pass first.2) first.1

/-! ### The first loop -/

/-- The first loop names the short names after themselves. -/
theorem first_pass_envoy (hexdigest : Key → Key) :
    ∀ (l : List Key) (acc : Dict Key Key × Dict Key (List Key)) (n : Key),
      (l.foldl (first_pass hexdigest) acc).1.get? n = if n ∈ l ∧ n.length ≤ 60 then some n else acc.1.get? n
  | [], _, _ => by simp
  | x :: l, acc, n => by
    rw [List.foldl_cons, first_pass_envoy hexdigest l]
    unfold first_pass
    by_cases hx : 60 < x.length
    · -- a long name adds no envoy name
      rw [if_pos hx]
      by_cases hn : n = x
      · subst hn
        simp [not_le.mpr hx]
      · simp [hn]
    · rw [if_neg hx]
      by_cases hn : n = x
      · subst hn
        simp [not_lt.mp hx]
      · simp [hn, Dict.get?_set_ne _ _ hn]

/-- The first loop collects the long names of each short name, in order. -/
theorem first_pass_collisions (hexdigest : Key → Key) (s : Key) :
    ∀ (l : List Key) (acc : Dict Key Key × Dict Key (List Key)),
      ((l.foldl (first_pass hexdigest) acc).2.get? s).getD [] =
        (acc.2.get? s).getD [] ++ l.filter (collides_to hexdigest s)
  | [], _ => by simp
  | x :: l, acc => by
    rw [List.foldl_cons, first_pass_collisions hexdigest s l]
    unfold first_pass
    by_cases hx : 60 < x.length
    · rw [if_pos hx, Dict.get?_push]
      by_cases hs : s = short_name hexdigest x
      · subst hs
        simp [collides_to, hx]
      · have hs' : ¬short_name hexdigest x = s := fun h => hs h.symm
        simp [collides_to, hs, hs']
    · rw [if_neg hx]
      simp [collides_to, hx]

/-! ### The second loop -/

/-- The loop over one collision list gives each name its index. -/
theorem mangle_get? (short : Key) :
    ∀ (l : List Key) (acc : Dict Key Key) (i : ℕ) (n : Key), l.Nodup →
      (l.foldl (mangle short) (acc, i)).1.get? n =
        if n ∈ l then some (short ++ "-".toList ++ Nat.toDigits 10 (i + l.idxOf n)) else acc.get? n
  | [], _, _, _, _ => by simp
  | x :: l, acc, i, n, hnd => by
    obtain ⟨hx, hl⟩ := List.nodup_cons.mp hnd
    rw [List.foldl_cons, mangle, mangle_get? short l _ (i + 1) n hl]
    by_cases hn : n = x
    · -- the head gets the index the loop starts from
      subst hn
      simp [hx]
    · rw [Dict.get?_set_ne _ _ hn, List.idxOf_cons_ne l (Ne.symm hn)]
      simp only [List.mem_cons, hn, false_or]
      split <;> simp only [Nat.add_assoc, Nat.add_comm 1]

/-- The second loop gives each long name its short name and its index in the
sorted collision list, provided each list is of one short name. -/
theorem second_pass_get? (collisions : Dict Key (List Key)) (key : Key → Key)
    (hkey : ∀ s n, n ∈ (collisions.get? s).getD [] → key n = s)
    (hnd : ∀ s, ((collisions.get? s).getD []).Nodup) :
    ∀ (shorts : List Key) (acc : Dict Key Key) (n : Key),
      (shorts.foldl (second_pass collisions) acc).get? n =
        if key n ∈ shorts ∧ n ∈ (collisions.get? (key n)).getD [] then
          some (key n ++ "-".toList ++ Nat.toDigits 10 ((sorted ((collisions.get? (key n)).getD [])).idxOf n))
        else acc.get? n
  | [], _, _ => by simp
  | s :: shorts, acc, n => by
    rw [List.foldl_cons, second_pass_get? collisions key hkey hnd shorts]
    by_cases hrest : key n ∈ shorts ∧ n ∈ (collisions.get? (key n)).getD []
    · rw [if_pos hrest, if_pos ⟨List.mem_cons_of_mem s hrest.1, hrest.2⟩]
    · rw [if_neg hrest, second_pass, mangle_get? s _ acc 0 n ((sorted_perm _).nodup_iff.mpr (hnd s))]
      by_cases hs : n ∈ (collisions.get? s).getD []
      · -- a name of this list: its short name is `s`
        have hks := hkey s n hs
        subst hks
        rw [if_pos ((sorted_perm _).mem_iff.mpr hs), if_pos ⟨List.mem_cons_self, hs⟩, Nat.zero_add]
      · rw [if_neg (fun h => hs ((sorted_perm _).mem_iff.mp h)), if_neg]
        rintro ⟨hmem, hn⟩
        rcases List.mem_cons.mp hmem with h | h
        · exact hs (h ▸ hn)
        · exact hrest ⟨h, hn⟩

/-! ### Every name's envoy name -/

/-- The long names of the short name `s`, in sorted order. -/
def collision_list (hexdigest : Key → Key) (names : List Key) (s : Key) : List Key :=
  sorted ((sorted names).filter (collides_to hexdigest s))

/-- The envoy name of a cluster: itself if short, else its short name and its
index among the names of that short name. -/
theorem envoy_names_get? (hexdigest : Key → Key) {names : List Key} (hnames : names.Nodup) {n : Key}
    (hn : n ∈ names) :
    (envoy_names hexdigest names).get? n =
      if n.length ≤ 60 then some n
      else some (short_name hexdigest n ++ "-".toList ++
        Nat.toDigits 10 ((collision_list hexdigest names (short_name hexdigest n)).idxOf n)) := by
  have hcoll : ∀ s, (((sorted names).foldl (first_pass hexdigest) (∅, ∅)).2.get? s).getD [] =
      (sorted names).filter (collides_to hexdigest s) := by
    intro s
    rw [first_pass_collisions, Dict.get?_empty, Option.getD_none, List.nil_append]
  have hkey : ∀ s m, m ∈ (((sorted names).foldl (first_pass hexdigest) (∅, ∅)).2.get? s).getD [] →
      short_name hexdigest m = s := by
    intro s m hm
    rw [hcoll, List.mem_filter, collides_to, decide_eq_true_iff] at hm
    exact hm.2.2
  have hnd : ∀ s, ((((sorted names).foldl (first_pass hexdigest) (∅, ∅)).2.get? s).getD []).Nodup := by
    intro s
    rw [hcoll]
    exact ((sorted_perm names).nodup_iff.mpr hnames).filter _
  unfold envoy_names
  dsimp only
  rw [second_pass_get? _ (short_name hexdigest) hkey hnd, hcoll, first_pass_envoy, Dict.get?_empty]
  have hsorted : n ∈ sorted names := (sorted_perm names).mem_iff.mpr hn
  by_cases hlen : n.length ≤ 60
  · -- a short name is no collision of anything
    have hnot : n ∉ (sorted names).filter (collides_to hexdigest (short_name hexdigest n)) := by
      simp [collides_to, hlen]
    rw [if_neg (fun h => hnot h.2), if_pos ⟨hsorted, hlen⟩, if_pos hlen]
  · have hmem : n ∈ (sorted names).filter (collides_to hexdigest (short_name hexdigest n)) := by
      simp [collides_to, hsorted, not_le.mp hlen]
    have hkeymem : short_name hexdigest n ∈
        sorted ((sorted names).foldl (first_pass hexdigest) (∅, ∅)).2.keys := by
      rw [(sorted_perm _).mem_iff, ← Dict.mem_def, Dict.mem_iff_get?]
      rw [← hcoll] at hmem
      cases h : (((sorted names).foldl (first_pass hexdigest) (∅, ∅)).2.get? (short_name hexdigest n)) with
      | none => rw [h] at hmem; simp at hmem
      | some _ => rfl
    rw [if_pos ⟨hkeymem, hmem⟩, if_neg hlen]
    rfl

/-! ### Distinct and short -/

/-- A short name has 57 characters. -/
theorem length_short_name {hexdigest : Key → Key} (hhex : ∀ s, 16 ≤ (hexdigest s).length) {n : Key}
    (hn : 40 ≤ n.length) : (short_name hexdigest n).length = 57 := by
  simp [short_name, Nat.min_eq_left hn, Nat.min_eq_left (hhex n)]

/-- A cluster name without `-` is not a mangled name. -/
theorem ne_mangled {n s d : Key} (hn : '-' ∉ n) : n ≠ s ++ "-".toList ++ d := by
  intro h
  exact hn (h ▸ by simp)

/-- Two mangled names of 57-character short names agree only with the same
short name and index. -/
theorem mangled_inj {s₁ s₂ : Key} {i₁ i₂ : ℕ} (h₁ : s₁.length = 57) (h₂ : s₂.length = 57)
    (h : s₁ ++ "-".toList ++ Nat.toDigits 10 i₁ = s₂ ++ "-".toList ++ Nat.toDigits 10 i₂) :
    s₁ = s₂ ∧ i₁ = i₂ := by
  obtain ⟨hs, hi⟩ := List.append_inj h (by simp [h₁, h₂])
  exact ⟨List.append_cancel_right hs, Text.toDigits_ten_injective hi⟩

section Names

variable {hexdigest : Key → Key} {names : List Key}

/-- The envoy names of distinct cluster names without `-` are distinct. -/
theorem envoy_names_injective (hhex : ∀ s, 16 ≤ (hexdigest s).length) (hnames : names.Nodup)
    (hdash : ∀ n ∈ names, '-' ∉ n) {n₁ n₂ : Key} (h₁ : n₁ ∈ names) (h₂ : n₂ ∈ names)
    (h : (envoy_names hexdigest names).get? n₁ = (envoy_names hexdigest names).get? n₂) : n₁ = n₂ := by
  rw [envoy_names_get? hexdigest hnames h₁, envoy_names_get? hexdigest hnames h₂] at h
  by_cases hl₁ : n₁.length ≤ 60 <;> by_cases hl₂ : n₂.length ≤ 60
  · rw [if_pos hl₁, if_pos hl₂] at h
    exact Option.some.inj h
  · rw [if_pos hl₁, if_neg hl₂] at h
    exact absurd (Option.some.inj h) (ne_mangled (hdash n₁ h₁))
  · rw [if_neg hl₁, if_pos hl₂] at h
    exact absurd (Option.some.inj h).symm (ne_mangled (hdash n₂ h₂))
  · -- two long names: the same short name, then the same index in its list
    rw [if_neg hl₁, if_neg hl₂] at h
    obtain ⟨hs, hi⟩ := mangled_inj (length_short_name hhex (by omega)) (length_short_name hhex (by omega))
      (Option.some.inj h)
    rw [hs] at hi
    have hmem : n₁ ∈ collision_list hexdigest names (short_name hexdigest n₂) := by
      rw [collision_list, (sorted_perm _).mem_iff, ← hs]
      simp [collides_to, (sorted_perm names).mem_iff.mpr h₁, not_le.mp hl₁]
    exact (List.idxOf_inj hmem).mp hi

/-- An envoy name has at most 60 characters when no short name is shared by
more than 100 long names. -/
theorem envoy_names_length_le (hhex : ∀ s, 16 ≤ (hexdigest s).length) (hnames : names.Nodup)
    (hbound : ∀ s, (names.filter (collides_to hexdigest s)).length ≤ 100) {n : Key} (hn : n ∈ names) :
    ∃ e, (envoy_names hexdigest names).get? n = some e ∧ e.length ≤ 60 := by
  rw [envoy_names_get? hexdigest hnames hn]
  by_cases hl : n.length ≤ 60
  · exact ⟨n, by rw [if_pos hl], hl⟩
  · refine ⟨_, by rw [if_neg hl], ?_⟩
    have hmem : n ∈ collision_list hexdigest names (short_name hexdigest n) := by
      rw [collision_list, (sorted_perm _).mem_iff]
      simp [collides_to, (sorted_perm names).mem_iff.mpr hn, not_le.mp hl]
    -- the index is below the size of the list, at most 100
    have hsize : (collision_list hexdigest names (short_name hexdigest n)).length ≤ 100 := by
      rw [collision_list, (sorted_perm _).length_eq, ((sorted_perm names).filter _).length_eq]
      exact hbound _
    have hidx : (collision_list hexdigest names (short_name hexdigest n)).idxOf n < 10 ^ 2 :=
      lt_of_lt_of_le (List.idxOf_lt_length_iff.mpr hmem) (by omega)
    have hdigits := Text.length_toDigits_ten_le (by decide) hidx
    have hsep : "-".toList.length = 1 := rfl
    rw [List.length_append, List.length_append, length_short_name hhex (by omega : 40 ≤ n.length), hsep]
    omega

end Names

/-- The envoy names of an IR's clusters, all built by `IRCluster(...)`, are
distinct, and at most 60 characters long when no 40-character prefix and
SHA-1 prefix are shared by more than 100 cluster names. -/
theorem envoy_names_unique_bounded (hexdigest : Key → Key) (hhex : ∀ s, (hexdigest s).length = 40)
    (built : List (ClusterEnv × ClusterArgs)) :
    (∀ n₁ ∈ (built_clusters built).keys, ∀ n₂ ∈ (built_clusters built).keys,
      (envoy_names hexdigest (built_clusters built).keys).get? n₁ =
        (envoy_names hexdigest (built_clusters built).keys).get? n₂ → n₁ = n₂) ∧
    ((∀ s, ((built_clusters built).keys.filter (collides_to hexdigest s)).length ≤ 100) →
      ∀ n ∈ (built_clusters built).keys,
        ∃ e, (envoy_names hexdigest (built_clusters built).keys).get? n = some e ∧ e.length ≤ 60) := by
  have hhex16 : ∀ s, 16 ≤ (hexdigest s).length := fun s => by
    rw [hhex s]
    decide
  -- cluster names keep `[0-9A-Za-z_]`, so none has a `-`
  have hdash : ∀ n ∈ (built_clusters built).keys, '-' ∉ n := by
    intro n hn hmem
    rcases built_clusters_name_chars built n hn '-' hmem with h | h
    · exact absurd h (by decide)
    · exact absurd h (by decide)
  exact ⟨fun n₁ h₁ n₂ h₂ h => envoy_names_injective hhex16 (Dict.keys_nodup _) hdash h₁ h₂ h,
    fun hbound n hn => envoy_names_length_le hhex16 (Dict.keys_nodup _) hbound hn⟩

/-- The clusters of `svc-a` and of a service with a long name. -/
def twoClusters : List (ClusterEnv × ClusterArgs) :=
  [(exampleEnv, { service := "svc-a".toList, «namespace» := "default".toList }),
    (exampleEnv, { service := "a-service-with-a-rather-long-name.example.com".toList,
                   «namespace» := "default".toList })]

/-- `hashlib.sha1(name.encode()).hexdigest()` of the two cluster names, as
Python computes them; any other name, which the witness never hashes, gets
forty `0`s. -/
def sha1Hex (name : Key) : Key :=
  if name = "cluster_svc_a_default".toList then "49fa2982fa38853820b627c3dbd7a4975c460feb".toList
  else if name = "cluster_a_service_with_a_rather_long_name_example_com_default".toList then
    "8dd41380ea722d610f777722b94c7a261a7dca21".toList
  else List.replicate 40 '0'

/-- The theorem at the two clusters, under their SHA-1 digests, where the
bound on shared short names holds. -/
theorem envoy_names_unique_bounded_at_two :
    (∀ s, (sha1Hex s).length = 40) ∧
    (∀ s, ((built_clusters twoClusters).keys.filter (collides_to sha1Hex s)).length ≤ 100) ∧
    ((∀ n₁ ∈ (built_clusters twoClusters).keys, ∀ n₂ ∈ (built_clusters twoClusters).keys,
        (envoy_names sha1Hex (built_clusters twoClusters).keys).get? n₁ =
          (envoy_names sha1Hex (built_clusters twoClusters).keys).get? n₂ → n₁ = n₂) ∧
      ((∀ s, ((built_clusters twoClusters).keys.filter (collides_to sha1Hex s)).length ≤ 100) →
        ∀ n ∈ (built_clusters twoClusters).keys,
          ∃ e, (envoy_names sha1Hex (built_clusters twoClusters).keys).get? n = some e ∧ e.length ≤ 60)) := by
  have hhex : ∀ s, (sha1Hex s).length = 40 := by
    intro s
    unfold sha1Hex
    split_ifs
    · rfl
    · rfl
    · exact List.length_replicate
  have hbound : ∀ s, ((built_clusters twoClusters).keys.filter (collides_to sha1Hex s)).length ≤ 100 := by
    intro s
    refine (List.length_filter_le _ _).trans ?_
    decide
  exact ⟨hhex, hbound, envoy_names_unique_bounded sha1Hex hhex twoClusters⟩

end EnvoyNames
end Emissary

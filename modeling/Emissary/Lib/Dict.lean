/-
# Insertion-ordered dictionaries

A finite map that keeps its keys in the order they were first set, as a
Python `dict` does: setting a key that is present replaces its value where it
stands, setting a new key appends it, and deleting a key drops its entry.
The keys are distinct by construction (`Dict.nodup`), so a dictionary is its
entry list and two dictionaries with the same entries are equal.

An unordered map (a Go `map`) is the same structure read only through
`get?` and membership; a `range` over it visits the entries in an order
given from outside (`Dict.range` with a `Dict.KeyOrder`, any permutation of
the keys), and a fold that acts key by key ends the same whatever the order
(`Dict.foldl_range_pointwise`).

Key definitions: `Dict`, `Dict.get?`, `Dict.set`, `Dict.erase`, `Dict.range`.
Key theorems: `Dict.get?_set`, `Dict.get?_erase`, `Dict.mem_iff_get?`,
`Dict.keys_set_of_mem`, `Dict.keys_set_of_not_mem`.
-/
import Mathlib.Data.List.Nodup
import Mathlib.Data.List.Perm.Basic

universe u v

/-- A dictionary: its entries in insertion order, with distinct keys. -/
structure Dict (K : Type u) (V : Type v) where
  entries : List (K × V)
  nodup : (entries.map Prod.fst).Nodup

namespace Dict

variable {K : Type u} {V : Type v} [DecidableEq K]

/-! ### Entry lists -/

/-- The value of the first entry with key `k`. -/
def lookup (k : K) : List (K × V) → Option V
  | [] => none
  | e :: es => if e.1 = k then some e.2 else lookup k es

/-- Every entry with key `k` gets the value `v`; the others stay. -/
def replace (k : K) (v : V) : List (K × V) → List (K × V)
  | [] => []
  | e :: es => (if e.1 = k then (k, v) else e) :: replace k v es

theorem lookup_eq_none {k : K} : ∀ {es : List (K × V)}, k ∉ es.map Prod.fst → lookup k es = none
  | [], _ => rfl
  | e :: es, h => by
    simp only [List.map_cons, List.mem_cons, not_or] at h
    simp [lookup, Ne.symm h.1, lookup_eq_none h.2]

theorem lookup_isSome {k : K} : ∀ {es : List (K × V)}, (lookup k es).isSome ↔ k ∈ es.map Prod.fst
  | [] => by simp [lookup]
  | e :: es => by
    by_cases he : e.1 = k
    · simp [lookup, he]
    · simp [lookup, he, lookup_isSome, Ne.symm he]

theorem lookup_append_of_not_mem {k : K} {es : List (K × V)} (h : k ∉ es.map Prod.fst) (fs : List (K × V)) :
    lookup k (es ++ fs) = lookup k fs := by
  induction es with
  | nil => rfl
  | cons e es ih =>
    simp only [List.map_cons, List.mem_cons, not_or] at h
    simp [lookup, Ne.symm h.1, ih h.2]

theorem lookup_append_of_mem {k : K} : ∀ {es : List (K × V)}, k ∈ es.map Prod.fst →
    ∀ fs : List (K × V), lookup k (es ++ fs) = lookup k es
  | [], h, _ => by simp at h
  | e :: es, h, fs => by
    by_cases he : e.1 = k
    · simp [lookup, he]
    · have h' : k ∈ es.map Prod.fst := by
        simp only [List.map_cons, List.mem_cons] at h
        exact h.resolve_left (Ne.symm he)
      simp [lookup, he, lookup_append_of_mem h' fs]

theorem map_fst_replace (k : K) (v : V) : ∀ es : List (K × V),
    (replace k v es).map Prod.fst = es.map Prod.fst
  | [] => rfl
  | e :: es => by
    by_cases he : e.1 = k
    · simp [replace, he, map_fst_replace k v es]
    · simp [replace, he, map_fst_replace k v es]

theorem lookup_replace (k : K) (v : V) (k' : K) : ∀ es : List (K × V),
    lookup k' (replace k v es) = if k' = k ∧ k ∈ es.map Prod.fst then some v else lookup k' es
  | [] => by simp [replace, lookup]
  | e :: es => by
    have ih := lookup_replace k v k' es
    by_cases he : e.1 = k
    · by_cases hk : k' = k
      · simp [replace, lookup, he, hk]
      · simp [replace, lookup, he, Ne.symm hk, hk, ih]
    · by_cases hk : k' = k
      · have hm : k ∈ (e :: es).map Prod.fst ↔ k ∈ es.map Prod.fst := by
          simp only [List.map_cons, List.mem_cons]
          exact ⟨fun h => h.resolve_left (Ne.symm he), Or.inr⟩
        have he' : ¬e.1 = k' := by rw [hk]; exact he
        simp only [replace, lookup, if_neg he, if_neg he', ih, hm]
      · by_cases he' : e.1 = k'
        · simp [replace, lookup, hk, he']
        · simp [replace, lookup, he, hk, he', ih]

theorem map_fst_filter_ne (k : K) (es : List (K × V)) :
    (es.filter fun e => !decide (e.1 = k)).map Prod.fst = (es.map Prod.fst).filter fun x => !decide (x = k) := by
  induction es with
  | nil => rfl
  | cons e es ih => by_cases he : e.1 = k <;> simp [he, ih]

theorem lookup_filter_ne (k k' : K) : ∀ es : List (K × V),
    lookup k' (es.filter fun e => !decide (e.1 = k)) = if k' = k then none else lookup k' es
  | [] => by simp [lookup]
  | e :: es => by
    have ih := lookup_filter_ne k k' es
    by_cases he : e.1 = k
    · by_cases hk : k' = k
      · subst hk
        simpa [he] using ih
      · simp [he, hk, lookup, ih, Ne.symm hk]
    · by_cases he' : e.1 = k'
      · have hk : k' ≠ k := fun hk => he (he'.trans hk)
        simp [hk, lookup, he']
      · simp [he, lookup, he', ih]

/-! ### Operations -/

/-- The empty dictionary, `{}`. -/
def empty : Dict K V := ⟨[], List.nodup_nil⟩

instance : EmptyCollection (Dict K V) := ⟨empty⟩

/-- The keys, in insertion order. -/
def keys (d : Dict K V) : List K := d.entries.map Prod.fst

/-- The values, in the order of their keys. -/
def values (d : Dict K V) : List V := d.entries.map Prod.snd

instance : Membership K (Dict K V) := ⟨fun d k => k ∈ d.keys⟩

instance (k : K) (d : Dict K V) : Decidable (k ∈ d) := inferInstanceAs (Decidable (k ∈ d.keys))

/-- `d.get(k)`: the value at `k`, if `k` is a key. -/
def get? (d : Dict K V) (k : K) : Option V := lookup k d.entries

/-- `d[k] = v`: a present key keeps its place, a new one goes last. -/
def set (d : Dict K V) (k : K) (v : V) : Dict K V :=
  if h : k ∈ d.keys then ⟨replace k v d.entries, by rw [map_fst_replace]; exact d.nodup⟩
  else ⟨d.entries ++ [(k, v)], by
    simp only [List.map_append, List.map_cons, List.map_nil]
    exact List.nodup_append.mpr ⟨d.nodup, List.nodup_singleton _, by
      intro a ha b hb; simp only [List.mem_singleton] at hb; subst hb; exact fun e => h (e ▸ ha)⟩⟩

/-- `del d[k]` (and `d.pop(k, None)`): the entry at `k` goes, the others stay in order. -/
def erase (d : Dict K V) (k : K) : Dict K V :=
  ⟨d.entries.filter fun e => !decide (e.1 = k), by
    rw [map_fst_filter_ne]; exact d.nodup.filter _⟩

/-! ### Lemmas -/

omit [DecidableEq K] in
theorem mem_def {k : K} {d : Dict K V} : k ∈ d ↔ k ∈ d.keys := Iff.rfl

@[simp] theorem get?_empty (k : K) : (∅ : Dict K V).get? k = none := rfl

omit [DecidableEq K] in
@[simp] theorem values_empty : (∅ : Dict K V).values = [] := rfl

omit [DecidableEq K] in
@[simp] theorem not_mem_empty (k : K) : k ∉ (∅ : Dict K V) := by
  simp [mem_def, keys, EmptyCollection.emptyCollection, empty]

theorem mem_iff_get? {k : K} {d : Dict K V} : k ∈ d ↔ (d.get? k).isSome := by
  rw [mem_def, keys, get?, lookup_isSome]

theorem get?_eq_none {k : K} {d : Dict K V} : d.get? k = none ↔ k ∉ d := by
  rw [mem_iff_get?, Option.not_isSome_iff_eq_none]

theorem mem_of_get? {k : K} {d : Dict K V} {v : V} (h : d.get? k = some v) : k ∈ d :=
  mem_iff_get?.mpr (by simp [h])

theorem get?_set (d : Dict K V) (k : K) (v : V) (k' : K) :
    (d.set k v).get? k' = if k' = k then some v else d.get? k' := by
  unfold set
  split
  · rename_i h
    simp only [get?, lookup_replace]
    by_cases hk : k' = k
    · simp [hk, show k ∈ d.entries.map Prod.fst from h]
    · simp only [hk, false_and, if_false]
  · rename_i h
    by_cases hk : k' = k
    · subst hk
      simp [get?, lookup_append_of_not_mem h, lookup]
    · simp only [get?, if_neg hk]
      by_cases hm : k' ∈ d.entries.map Prod.fst
      · rw [lookup_append_of_mem hm]
      · rw [lookup_append_of_not_mem hm, lookup_eq_none hm]
        simp [lookup, Ne.symm hk]

@[simp] theorem get?_set_self (d : Dict K V) (k : K) (v : V) : (d.set k v).get? k = some v := by
  simp [get?_set]

theorem get?_set_ne (d : Dict K V) {k k' : K} (v : V) (h : k' ≠ k) : (d.set k v).get? k' = d.get? k' := by
  simp [get?_set, h]

/-- Setting a key to the value it has changes nothing that `get?` sees. -/
theorem get?_set_of_get? {d : Dict K V} {k : K} {v : V} (h : d.get? k = some v) (k' : K) :
    (d.set k v).get? k' = d.get? k' := by
  rw [get?_set]
  split_ifs with hk
  · rw [hk, h]
  · rfl

/-- The second of two settings of a key is the one `get?` sees. -/
theorem get?_set_set (d : Dict K V) (k : K) (v v' : V) (k' : K) :
    ((d.set k v).set k v').get? k' = (d.set k v').get? k' := by
  simp only [get?_set]
  split_ifs <;> rfl

theorem get?_erase (d : Dict K V) (k k' : K) : (d.erase k).get? k' = if k' = k then none else d.get? k' :=
  lookup_filter_ne k k' d.entries

@[simp] theorem get?_erase_self (d : Dict K V) (k : K) : (d.erase k).get? k = none := by
  simp [get?_erase]

theorem get?_erase_ne (d : Dict K V) {k k' : K} (h : k' ≠ k) : (d.erase k).get? k' = d.get? k' := by
  simp [get?_erase, h]

/-- A step that keeps the dictionary or erases one key, read at any key: it
acts at its own key only. -/
theorem get?_ite_erase (p : Prop) [Decidable p] (d : Dict K V) (k k' : K) :
    (if p then d else d.erase k).get? k' = if k' = k then (if p then d.get? k else none) else d.get? k' := by
  by_cases hp : p
  · simp only [if_pos hp]
    split_ifs with hk <;> [rw [hk]; rfl]
  · simp only [if_neg hp, get?_erase]

theorem mem_set {d : Dict K V} {k k' : K} {v : V} : k' ∈ d.set k v ↔ k' = k ∨ k' ∈ d := by
  rw [mem_iff_get?, mem_iff_get?, get?_set]
  by_cases hk : k' = k <;> simp [hk]

theorem mem_erase {d : Dict K V} {k k' : K} : k' ∈ d.erase k ↔ k' ≠ k ∧ k' ∈ d := by
  rw [mem_iff_get?, mem_iff_get?, get?_erase]
  by_cases hk : k' = k <;> simp [hk]

theorem keys_set_of_mem {d : Dict K V} {k : K} (v : V) (h : k ∈ d) : (d.set k v).keys = d.keys := by
  unfold set
  rw [dif_pos (mem_def.mp h)]
  exact map_fst_replace k v d.entries

theorem keys_set_of_not_mem {d : Dict K V} {k : K} (v : V) (h : k ∉ d) : (d.set k v).keys = d.keys ++ [k] := by
  unfold set
  rw [dif_neg (show k ∉ d.keys from h)]
  simp [keys]

omit [DecidableEq K] in
theorem keys_nodup (d : Dict K V) : d.keys.Nodup := d.nodup

/-- In an entry list with distinct keys, an entry is there exactly when its
key looks its value up. -/
theorem mem_iff_lookup {k : K} {v : V} : ∀ {es : List (K × V)}, (es.map Prod.fst).Nodup →
    ((k, v) ∈ es ↔ lookup k es = some v)
  | [], _ => by simp [lookup]
  | e :: es, hn => by
    simp only [List.map_cons, List.nodup_cons] at hn
    by_cases he : e.1 = k
    · -- the head's key: no later entry has it
      have hk : k ∉ es.map Prod.fst := he ▸ hn.1
      have hnot : (k, v) ∉ es := fun h => hk (List.mem_map.mpr ⟨(k, v), h, rfl⟩)
      obtain ⟨k', v'⟩ := e
      simp only at he
      subst he
      simp [lookup, hnot, eq_comm]
    · have hne : (k, v) ≠ e := fun h => he (h ▸ rfl)
      simp [lookup, he, hne, mem_iff_lookup hn.2]

theorem mem_entries {d : Dict K V} {k : K} {v : V} : (k, v) ∈ d.entries ↔ d.get? k = some v :=
  mem_iff_lookup d.nodup

theorem mem_values {d : Dict K V} {v : V} : v ∈ d.values ↔ ∃ k, d.get? k = some v := by
  obtain ⟨es, hn⟩ := d
  simp only [values, get?]
  induction es with
  | nil => simp [lookup]
  | cons e es ih =>
    simp only [List.map_cons, List.nodup_cons] at hn
    simp only [List.map_cons, List.mem_cons, ih hn.2]
    constructor
    · rintro (rfl | ⟨k, hk⟩)
      · exact ⟨e.1, by simp [lookup]⟩
      · have hne : e.1 ≠ k := fun he => hn.1 (he ▸ (lookup_isSome.mp (by simp [hk])))
        exact ⟨k, by simp [lookup, hne, hk]⟩
    · rintro ⟨k, hk⟩
      by_cases he : e.1 = k
      · simp only [lookup, he, if_true, Option.some.injEq] at hk
        exact Or.inl hk.symm
      · simp only [lookup, he, if_false] at hk
        exact Or.inr ⟨k, hk⟩

/-- Setting a key of a dictionary without values gives one value. -/
theorem values_set_of_values_eq_nil {d : Dict K V} (h : d.values = []) (k : K) (v : V) :
    (d.set k v).values = [v] := by
  have he : d.entries = [] := List.map_eq_nil_iff.mp h
  unfold set
  rw [dif_neg (by simp [keys, he])]
  simp [values, he]

/-- A value after setting a key is the one set or one that was there. -/
theorem mem_values_set {d : Dict K V} {k : K} {v v' : V} (h : v' ∈ (d.set k v).values) :
    v' = v ∨ v' ∈ d.values := by
  obtain ⟨k', hk'⟩ := mem_values.mp h
  rw [get?_set] at hk'
  split at hk'
  · exact .inl (Option.some.inj hk').symm
  · exact .inr (mem_values.mpr ⟨k', hk'⟩)

/-! ### Mapping the values -/

section Map

variable {W : Type*}

/-- `{k: f(v) for k, v in d.items()}`: the same keys, in the same order. -/
def map (f : V → W) (d : Dict K V) : Dict K W :=
  ⟨d.entries.map fun e => (e.1, f e.2), by rw [List.map_map]; exact d.nodup⟩

omit [DecidableEq K] in
@[simp] theorem keys_map (f : V → W) (d : Dict K V) : (d.map f).keys = d.keys := by
  simp only [map, keys, List.map_map]
  rfl

omit [DecidableEq K] in
@[simp] theorem values_map (f : V → W) (d : Dict K V) : (d.map f).values = d.values.map f := by
  simp only [map, values, List.map_map]
  rfl

theorem lookup_map (f : V → W) (k : K) : ∀ es : List (K × V),
    lookup k (es.map fun e => (e.1, f e.2)) = (lookup k es).map f
  | [] => rfl
  | e :: es => by
    simp only [List.map_cons, lookup]
    split
    · rfl
    · exact lookup_map f k es

theorem get?_map (f : V → W) (d : Dict K V) (k : K) : (d.map f).get? k = (d.get? k).map f :=
  lookup_map f k d.entries

end Map

/-! ### Lists under a key

`m[k] = append(m[k], v)` in Go, `d.setdefault(k, []).append(v)` in Python:
a dictionary of lists grown one element at a time. Filing the elements of a
list by a key function leaves under each key the elements with that key, in
order (`foldl_push_getD`). -/

section Push

variable {α : Type*}

/-- `m[k] = append(m[k], v)`. -/
def push (d : Dict K (List α)) (k : K) (v : α) : Dict K (List α) :=
  d.set k ((d.get? k).getD [] ++ [v])

theorem get?_push (d : Dict K (List α)) (k : K) (v : α) (k' : K) :
    (d.push k v).get? k' = if k' = k then some ((d.get? k).getD [] ++ [v]) else d.get? k' :=
  get?_set d k _ k'

theorem foldl_push_getD (f : α → K) (k : K) :
    ∀ (es : List α) (d : Dict K (List α)),
      ((es.foldl (fun d e => d.push (f e) e) d).get? k).getD [] =
        (d.get? k).getD [] ++ es.filter (fun e => f e = k)
  | [], d => by simp
  | e :: es, d => by
    rw [List.foldl_cons, foldl_push_getD f k es, get?_push]
    by_cases hk : k = f e
    · subst hk
      simp
    · have hk' : ¬f e = k := fun h => hk h.symm
      simp [hk, hk']

/-- A key gets a list exactly when some element is filed under it. -/
theorem mem_foldl_push (f : α → K) (k : K) :
    ∀ (es : List α) (d : Dict K (List α)), k ∈ es.foldl (fun d e => d.push (f e) e) d ↔ k ∈ d ∨ ∃ e ∈ es, f e = k
  | [], d => by simp
  | e :: es, d => by
    rw [List.foldl_cons, mem_foldl_push f k es, push, mem_set]
    constructor
    · rintro ((rfl | h) | ⟨e', he', rfl⟩)
      · exact .inr ⟨e, List.mem_cons_self, rfl⟩
      · exact .inl h
      · exact .inr ⟨e', List.mem_cons_of_mem _ he', rfl⟩
    · rintro (h | ⟨e', he', rfl⟩)
      · exact .inl (.inr h)
      · rcases List.mem_cons.1 he' with rfl | he'
        · exact .inl (.inl rfl)
        · exact .inr ⟨e', he', rfl⟩

end Push

/-! ### Go's `range` over a map -/

/-- An order a Go `range` may visit a map's keys in: any permutation of them.
Go picks a new one at random for each `range`; a model takes it as a
parameter, and what holds for every `KeyOrder` holds whatever Go picks. -/
def KeyOrder (K : Type u) : Type u := { f : List K → List K // ∀ ks, (f ks).Perm ks }

/-- The keys in the order they were set. -/
def KeyOrder.asSet : KeyOrder K := ⟨id, fun ks => List.Perm.refl ks⟩

/-- The keys in the reverse of that order. -/
def KeyOrder.reversed : KeyOrder K := ⟨List.reverse, List.reverse_perm⟩

/-- The entries of `d` in the order `o` visits its keys. -/
def range (o : KeyOrder K) (d : Dict K V) : List (K × V) :=
  (o.1 d.keys).filterMap fun k => (d.get? k).map (k, ·)

omit [DecidableEq K] in
theorem mem_order_keys (o : KeyOrder K) {d : Dict K V} {k : K} : k ∈ o.1 d.keys ↔ k ∈ d :=
  (o.2 d.keys).mem_iff

theorem map_fst_range (o : KeyOrder K) (d : Dict K V) : (d.range o).map Prod.fst = o.1 d.keys := by
  unfold range
  rw [List.map_filterMap]
  conv_rhs => rw [← List.filterMap_some (l := o.1 d.keys)]
  refine List.filterMap_congr fun k hk => ?_
  -- every key visited has a value
  obtain ⟨v, hv⟩ := Option.isSome_iff_exists.1 (mem_iff_get?.1 ((mem_order_keys o).1 hk))
  simp [hv]

theorem range_nodup (o : KeyOrder K) (d : Dict K V) : ((d.range o).map Prod.fst).Nodup := by
  rw [map_fst_range]
  exact (o.2 d.keys).nodup_iff.2 d.nodup

theorem mem_range (o : KeyOrder K) {d : Dict K V} {k : K} {v : V} : (k, v) ∈ d.range o ↔ d.get? k = some v := by
  unfold range
  rw [List.mem_filterMap]
  constructor
  · rintro ⟨k', -, hk'⟩
    obtain ⟨v', hv', he⟩ := Option.map_eq_some_iff.1 hk'
    obtain ⟨rfl, rfl⟩ := Prod.mk.inj he
    exact hv'
  · intro h
    exact ⟨k, (mem_order_keys o).2 (mem_of_get? h), by rw [h]; rfl⟩

theorem lookup_range (o : KeyOrder K) (d : Dict K V) (k : K) : lookup k (d.range o) = d.get? k := by
  cases h : d.get? k with
  | none =>
    refine lookup_eq_none fun hk => ?_
    rw [map_fst_range, mem_order_keys] at hk
    exact (get?_eq_none.1 h) hk
  | some v => exact (mem_iff_lookup (range_nodup o d)).1 ((mem_range o).2 h)

/-- A `range` visits each entry once. -/
@[simp] theorem range_empty (o : KeyOrder K) : (∅ : Dict K V).range o = [] := by
  show (o.1 []).filterMap _ = []
  rw [(o.2 []).eq_nil, List.filterMap_nil]

theorem range_perm (o : KeyOrder K) (d : Dict K V) : (d.range o).Perm d.entries := by
  refine (List.perm_ext_iff_of_nodup (List.Nodup.of_map _ (range_nodup o d)) (List.Nodup.of_map _ d.nodup)).2 ?_
  rintro ⟨k, v⟩
  rw [mem_range, mem_entries]

theorem range_values_perm (o : KeyOrder K) (d : Dict K V) : ((d.range o).map Prod.snd).Perm d.values :=
  (range_perm o d).map _

/-! ### Folds that act key by key -/

section Fold

variable {σ α β : Type*}

/-- A fold over entries with distinct keys, each step of which changes what is
seen at its own key only: afterwards a key shows its own step applied to what
it showed before, and a key without an entry shows what it showed. -/
theorem foldl_pointwise (view : σ → K → β) (f : σ → K × α → σ) (g : K → α → β → β)
    (hf : ∀ s k a k', view (f s (k, a)) k' = if k' = k then g k a (view s k) else view s k') :
    ∀ (es : List (K × α)), (es.map Prod.fst).Nodup → ∀ (s : σ) (k : K),
      view (es.foldl f s) k =
        match lookup k es with
        | some a => g k a (view s k)
        | none => view s k
  | [], _, _, _ => rfl
  | (k₀, a₀) :: es, hn, s, k => by
    rw [List.map_cons, List.nodup_cons] at hn
    rw [List.foldl_cons, foldl_pointwise view f g hf es hn.2]
    by_cases hk : k = k₀
    · -- the head's key has no later entry, so only the head's step acts on it
      subst hk
      rw [lookup_eq_none hn.1, hf, if_pos rfl]
      simp [lookup]
    · rw [hf, if_neg hk]
      simp [lookup, Ne.symm hk]

/-- `foldl_pointwise` over a dictionary's entries. -/
theorem foldl_entries_pointwise (view : σ → K → β) (f : σ → K × α → σ) (g : K → α → β → β)
    (hf : ∀ s k a k', view (f s (k, a)) k' = if k' = k then g k a (view s k) else view s k')
    (d : Dict K α) (s : σ) (k : K) :
    view (d.entries.foldl f s) k =
      match d.get? k with
      | some a => g k a (view s k)
      | none => view s k :=
  foldl_pointwise view f g hf d.entries d.nodup s k

/-- `foldl_pointwise` over a `range` of a dictionary, in any order. -/
theorem foldl_range_pointwise (view : σ → K → β) (f : σ → K × α → σ) (g : K → α → β → β)
    (hf : ∀ s k a k', view (f s (k, a)) k' = if k' = k then g k a (view s k) else view s k')
    (o : KeyOrder K) (d : Dict K α) (s : σ) (k : K) :
    view ((d.range o).foldl f s) k =
      match d.get? k with
      | some a => g k a (view s k)
      | none => view s k := by
  rw [foldl_pointwise view f g hf _ (range_nodup o d) s k, lookup_range]

/-- A fold over a list of keys, each step of which changes what is seen at its
own key only, and a second time leaves it: afterwards a key of the list shows
its step applied once, and any other key what it showed. -/
theorem foldl_keys_pointwise (view : σ → K → β) (f : σ → K → σ) (g : K → β → β)
    (hf : ∀ s k k', view (f s k) k' = if k' = k then g k (view s k) else view s k')
    (hg : ∀ k b, g k (g k b) = g k b) :
    ∀ (ks : List K) (s : σ) (k : K), view (ks.foldl f s) k = if k ∈ ks then g k (view s k) else view s k
  | [], _, _ => by simp
  | k₀ :: ks, s, k => by
    rw [List.foldl_cons, foldl_keys_pointwise view f g hf hg ks]
    by_cases hk : k = k₀
    · -- the head's step acts first; a later one at the same key does nothing more
      subst hk
      simp only [hf, if_true, hg, List.mem_cons_self, ite_self]
    · simp only [hf, List.mem_cons, hk, false_or, if_false]

end Fold

end Dict

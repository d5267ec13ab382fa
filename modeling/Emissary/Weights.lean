/-
# Canary weights: `normalize_weights_in_mappings`

A mapping group sends each request down the first of its mappings whose
`_weight` is above a draw in `[0, 100)`, so the `_weight`s along
`self.mappings` are meant to be a cumulative split (`ValidSplit`): never
decreasing, within `[0, 100]`, the last one 100 when some mapping took no
explicit `weight`. `normalize_weights_in_mappings` (irbasemappinggroup.py)
computes them: a single mapping gets 100; otherwise the mappings with a
`weight` come first with the running total of the weights, then the
weightless ones, each with `round(remaining / n)` more than the one before,
and the last of them with 100.

The result is always a reordering of the group with the weightless ones in
their order at the end (`normalize_weights_perm`) and ends at 100 when a
mapping had no weight (`normalize_weights_last`). Whether it is a cumulative
split depends on the rounding: with non-negative weights it is one exactly
when the `n - 1` rounded shares before the last fit into what the explicit
weights left (`normalize_weights_valid_iff`). `round` can overshoot: an
explicit 97 and five weightless mappings give 97, 98, 99, 100, 101, 100
(`normalize_weights_overshoot`), where the mapping at 101 and the last one get
no traffic.

The code posts an error and returns `False` for a weight over 100 and for
explicit weights adding up to more than 100; the model returns the message
as `Except.error` (`normalize_weights_error`).

Key definitions: `weigh`, `assign`, `normalize_weights_in_mappings`, `ValidSplit`.
Key theorems: `normalize_weights_perm`, `normalize_weights_last`,
`normalize_weights_valid_iff`, `normalize_weights_error`.
-/
import Emissary.Lib.Python
import Mathlib.Tactic.Ring
import Mathlib.Data.List.Perm.Basic

namespace Emissary
namespace Weights

open Python

/-! ### The code -/

/-- `f"Mapping {mapping.name} has invalid weight {mapping.weight}"`. -/
def invalid_weight (name : List Char) (w : ℤ) : List Char :=
  "Mapping ".toList ++ name ++ " has invalid weight ".toList ++ (toString w).toList

/-- The error posted when the explicit weights add up to more than 100. -/
def total_weight_exceeds : List Char :=
  "Total weight of mappings exceeds 100, please reconfigure for correct behavior...".toList

/-- The locals of the first loop of `normalize_weights_in_mappings`. -/
structure Loop (M : Type) where
  weightless_mappings : List M
  num_weightless_mappings : ℕ
  normalized_mappings : List (M × ℤ)
  current_weight : ℤ

variable {M : Type} (name : M → List Char) (weight : M → Option ℤ)

/-- One pass of the first loop, for a mapping with `name` and an optional
`weight`: an explicit weight over 100 is an error; otherwise it is added to
`current_weight` (`round` of an int is the int), which becomes the mapping's
`_weight`. A weightless mapping waits. -/
def weigh (st : Loop M) (mapping : M) : Except (List Char) (Loop M) :=
  match weight mapping with
  | some w =>
    if w > 100 then .error (invalid_weight (name mapping) w)
    else .ok { st with
      current_weight := st.current_weight + w
      normalized_mappings := st.normalized_mappings ++ [(mapping, st.current_weight + w)] }
  | none => .ok { st with
      num_weightless_mappings := st.num_weightless_mappings + 1
      weightless_mappings := st.weightless_mappings ++ [mapping] }

/-- The first loop, from `current_weight = 0` and empty lists. -/
def weighAll (mappings : List M) : Except (List Char) (Loop M) :=
  mappings.foldlM (weigh name weight) ⟨[], 0, [], 0⟩

/-- The second loop, `for i, weightless_mapping in enumerate(weightless_mappings)`
from index `i`: the last index gets 100, every other one `current_weight`
plus the share. -/
def assign (num_weightless_mappings : ℕ) (weight_per_weightless_mapping : ℤ) :
    ℤ → ℕ → List M → List (M × ℤ)
  | _, _, [] => []
  | current_weight, i, weightless_mapping :: rest =>
    let current_weight :=
      if i = num_weightless_mappings - 1 then 100 else current_weight + weight_per_weightless_mapping
    (weightless_mapping, current_weight) ::
      assign num_weightless_mappings weight_per_weightless_mapping current_weight (i + 1) rest

/-- `normalize_weights_in_mappings()`: the new `self.mappings`, each with its
`_weight`, or the error it posts. -/
def normalize_weights_in_mappings (mappings : List M) : Except (List Char) (List (M × ℤ)) :=
  match mappings with
  | [mapping] => .ok [(mapping, 100)]
  | _ => do
    let st ← weighAll name weight mappings
    if st.current_weight > 100 then .error total_weight_exceeds
    else if st.num_weightless_mappings > 0 then
      let remaining_weight := 100 - st.current_weight
      let weight_per_weightless_mapping := roundDiv remaining_weight st.num_weightless_mappings
      pure (st.normalized_mappings ++
        assign st.num_weightless_mappings weight_per_weightless_mapping st.current_weight 0
          st.weightless_mappings)
    else pure st.normalized_mappings

/-! ### What the result should be -/

/-- A cumulative split of the traffic: the `_weight`s along the mappings
never decrease and lie in `[0, 100]`. -/
def ValidSplit (weights : List ℤ) : Prop :=
  weights.Pairwise (· ≤ ·) ∧ ∀ w ∈ weights, 0 ≤ w ∧ w ≤ 100

instance (weights : List ℤ) : Decidable (ValidSplit weights) :=
  inferInstanceAs (Decidable (_ ∧ _))

/-- The mappings with an explicit weight, in order. -/
def explicit (mappings : List M) : List M := mappings.filter fun m => (weight m).isSome

/-- The mappings without one, in order. -/
def weightless (mappings : List M) : List M := mappings.filter fun m => !(weight m).isSome

/-- The sum of the explicit weights. -/
def explicit_total (mappings : List M) : ℤ := (mappings.filterMap weight).sum

/-! ### Cumulative splits -/

theorem validSplit_append {l₁ l₂ : List ℤ} :
    ValidSplit (l₁ ++ l₂) ↔ ValidSplit l₁ ∧ ValidSplit l₂ ∧ ∀ a ∈ l₁, ∀ b ∈ l₂, a ≤ b := by
  unfold ValidSplit
  rw [List.pairwise_append, List.forall_mem_append]
  tauto

theorem validSplit_singleton : ValidSplit [100] := by decide

/-- The shares of the weightless mappings before the last, on top of `c`. -/
theorem validSplit_shares {c per : ℤ} (hc : 0 ≤ c) (hper : 0 ≤ per) (k : ℕ) :
    ValidSplit ((List.range k).map (fun j : ℕ => c + ((j : ℤ) + 1) * per) ++ [100]) ↔ k = 0 ∨ c + k * per ≤ 100 := by
  have hmono : ∀ i j : ℕ, i ≤ j → c + (i + 1) * per ≤ c + (j + 1) * per := fun i j hij => by
    have : ((i : ℤ) + 1) * per ≤ ((j : ℤ) + 1) * per :=
      Int.mul_le_mul_of_nonneg_right (by omega) hper
    omega
  have hsorted : ((List.range k).map (fun j : ℕ => c + ((j : ℤ) + 1) * per)).Pairwise (· ≤ ·) := by
    rw [List.pairwise_map]
    exact (List.pairwise_lt_range).imp fun h => hmono _ _ (Nat.le_of_lt h)
  have hlow : ∀ j : ℕ, 0 ≤ c + (j + 1) * per := fun j => by
    have : 0 ≤ ((j : ℤ) + 1) * per := Int.mul_nonneg (by omega) hper
    omega
  rw [validSplit_append]
  constructor
  · rintro ⟨⟨-, hbound⟩, -, -⟩
    rcases Nat.eq_zero_or_pos k with hk | hk
    · exact .inl hk
    · -- The share at index `k - 1` is the largest.
      have hmem : c + ((k - 1 : ℕ) + 1) * per ∈ (List.range k).map (fun j : ℕ => c + ((j : ℤ) + 1) * per) :=
        List.mem_map.mpr ⟨k - 1, List.mem_range.mpr (by omega), rfl⟩
      have hk' : ((k - 1 : ℕ) : ℤ) + 1 = k := by omega
      exact .inr (hk' ▸ (hbound _ hmem).2)
  · intro h
    have hle : ∀ j < k, c + (j + 1) * per ≤ 100 := by
      intro j hj
      rcases h with rfl | h
      · omega
      · have hj' : (j : ℤ) + 1 ≤ k := by omega
        have : ((j : ℤ) + 1) * per ≤ k * per := Int.mul_le_mul_of_nonneg_right hj' hper
        omega
    refine ⟨⟨hsorted, ?_⟩, validSplit_singleton, ?_⟩
    · intro w hw
      obtain ⟨j, hj, rfl⟩ := List.mem_map.mp hw
      exact ⟨hlow j, hle j (List.mem_range.mp hj)⟩
    · intro a ha b hb
      obtain ⟨j, hj, rfl⟩ := List.mem_map.mp ha
      rw [List.mem_singleton.mp hb]
      exact hle j (List.mem_range.mp hj)

/-! ### The first loop -/

section First

variable {name weight}

/-- What one pass of the first loop does when it does not raise. -/
theorem weigh_ok {st st' : Loop M} {m : M} (h : weigh name weight st m = .ok st') :
    (∃ w, weight m = some w ∧ w ≤ 100 ∧ st' = { st with
      current_weight := st.current_weight + w
      normalized_mappings := st.normalized_mappings ++ [(m, st.current_weight + w)] }) ∨
    (weight m = none ∧ st' = { st with
      num_weightless_mappings := st.num_weightless_mappings + 1
      weightless_mappings := st.weightless_mappings ++ [m] }) := by
  unfold weigh at h
  split at h
  · rename_i w hw
    split at h
    · cases h
    · exact .inl ⟨w, hw, by omega, (Except.ok.inj h).symm⟩
  · rename_i hw
    exact .inr ⟨hw, (Except.ok.inj h).symm⟩

/-- The error a pass of the first loop raises names the mapping and its weight. -/
theorem weigh_error {st : Loop M} {m : M} {e : List Char} (h : weigh name weight st m = .error e) :
    ∃ w, weight m = some w ∧ 100 < w ∧ e = invalid_weight (name m) w := by
  unfold weigh at h
  split at h
  · rename_i w hw
    split at h
    · exact ⟨w, hw, by omega, (Except.error.inj h).symm⟩
    · cases h
  · cases h

/-- The first loop's locals after the mappings `done`. -/
structure Inv (weight : M → Option ℤ) (done : List M) (st : Loop M) : Prop where
  normalized : st.normalized_mappings.map Prod.fst = explicit weight done
  waiting : st.weightless_mappings = weightless weight done
  count : st.num_weightless_mappings = st.weightless_mappings.length
  total : st.current_weight = explicit_total weight done

theorem Inv.init : Inv weight [] (⟨[], 0, [], 0⟩ : Loop M) :=
  ⟨rfl, rfl, rfl, rfl⟩

theorem Inv.step {done : List M} {m : M} {st st' : Loop M} (hI : Inv weight done st)
    (h : weigh name weight st m = .ok st') : Inv weight (done ++ [m]) st' := by
  rcases weigh_ok h with ⟨w, hw, -, rfl⟩ | ⟨hw, rfl⟩
  · refine ⟨?_, ?_, hI.count, ?_⟩
    · simp [explicit, hI.normalized, hw]
    · simp [weightless, hI.waiting, hw]
    · simp [explicit_total, hI.total, hw]
  · refine ⟨?_, ?_, ?_, ?_⟩
    · simp [explicit, hI.normalized, hw]
    · simp [weightless, hI.waiting, hw]
    · simp [hI.count]
    · simp [explicit_total, hI.total, hw]

/-- The run lemma of the first loop. -/
theorem weighAll_inv {ms : List M} {st : Loop M} (h : weighAll name weight ms = .ok st) :
    Inv weight ms st := by
  have := foldlM_invariant (fun _ => True) (Inv weight) (fun _ _ _ _ _ hI hs => hI.step hs)
    [] (fun _ _ => trivial) Inv.init h
  simpa using this

/-- With non-negative weights the running totals never decrease and stay
within `[0, current_weight]`. -/
structure Ordered (st : Loop M) : Prop where
  sorted : (st.normalized_mappings.map Prod.snd).Pairwise (· ≤ ·)
  bounded : ∀ x ∈ st.normalized_mappings, 0 ≤ x.2 ∧ x.2 ≤ st.current_weight
  nonneg : 0 ≤ st.current_weight

theorem Ordered.step {m : M} {st st' : Loop M} (hO : Ordered st) (hm : ∀ w, weight m = some w → 0 ≤ w)
    (h : weigh name weight st m = .ok st') : Ordered st' := by
  rcases weigh_ok h with ⟨w, hw, -, rfl⟩ | ⟨-, rfl⟩
  · have hw0 : 0 ≤ w := hm w hw
    refine ⟨?_, ?_, by dsimp only; have := hO.nonneg; omega⟩
    · rw [List.map_append, List.pairwise_append]
      refine ⟨hO.sorted, List.pairwise_singleton _ _, ?_⟩
      intro a ha b hb
      obtain ⟨x, hx, rfl⟩ := List.mem_map.mp ha
      rw [List.map_singleton, List.mem_singleton] at hb
      have := (hO.bounded x hx).2
      omega
    · intro x hx
      rcases List.mem_append.mp hx with hx | hx
      · have := hO.bounded x hx
        dsimp only
        omega
      · rw [List.mem_singleton.mp hx]
        have := hO.nonneg
        dsimp only
        omega
  · exact ⟨hO.sorted, hO.bounded, hO.nonneg⟩

theorem weighAll_ordered {ms : List M} {st : Loop M} (hw : ∀ m ∈ ms, ∀ w, weight m = some w → 0 ≤ w)
    (h : weighAll name weight ms = .ok st) : Ordered st :=
  foldlM_invariant (fun m => ∀ w, weight m = some w → 0 ≤ w) (fun _ st => Ordered st)
    (fun _ _ _ _ hm hO hs => hO.step hm hs) [] hw
    ⟨List.Pairwise.nil, fun _ h => absurd h List.not_mem_nil, le_refl 0⟩ h

end First

/-! ### The second loop -/

section Second

variable (n : ℕ) (per : ℤ)

theorem assign_cons (c : ℤ) (i : ℕ) (w : M) (ws : List M) :
    assign n per c i (w :: ws) =
      (w, if i = n - 1 then 100 else c + per) :: assign n per (if i = n - 1 then 100 else c + per) (i + 1) ws :=
  rfl

theorem assign_fst : ∀ (c : ℤ) (i : ℕ) (ws : List M), (assign n per c i ws).map Prod.fst = ws
  | _, _, [] => rfl
  | c, i, w :: ws => by rw [assign_cons, List.map_cons, assign_fst _ _ ws]

/-- The `_weight`s of the second loop, started at index `i` with `n - i`
mappings to go: the shares on top of `c`, then 100. -/
theorem assign_weights : ∀ (c : ℤ) (i : ℕ) (ws : List M), i + ws.length = n → ws ≠ [] →
    (assign n per c i ws).map Prod.snd =
      (List.range (ws.length - 1)).map (fun j : ℕ => c + ((j : ℤ) + 1) * per) ++ [100]
  | _, _, [], _, hne => absurd rfl hne
  | c, i, [w], hn, _ => by
    have hi : i = n - 1 := by simp at hn; omega
    simp [assign, hi]
  | c, i, w :: w' :: ws, hn, _ => by
    have hi : i ≠ n - 1 := by simp at hn; omega
    have ih := assign_weights (c + per) (i + 1) (w' :: ws) (by simp at hn ⊢; omega) (List.cons_ne_nil _ _)
    rw [assign_cons, if_neg hi, List.map_cons, ih]
    -- One more share in front: `range (k + 1)` is `0` and the shifted `range k`.
    have hlen : (w :: w' :: ws).length - 1 = ws.length + 1 := by simp
    have hlen' : (w' :: ws).length - 1 = ws.length := by simp
    have hshift : (fun j : ℕ => c + per + ((j : ℤ) + 1) * per) =
        (fun j : ℕ => c + ((j : ℤ) + 1) * per) ∘ Nat.succ := by
      funext j
      simp only [Function.comp_apply, Nat.cast_succ]
      ring
    rw [hlen, hlen', List.range_succ_eq_map, List.map_cons, List.map_map, hshift, List.cons_append]
    simp

end Second

/-! ### The whole function -/

section Normalize

variable {name weight} {ms : List M} {out : List (M × ℤ)}

/-- What `normalize_weights_in_mappings` returns when it returns: a single
mapping gets 100; otherwise the explicit mappings with their running totals,
then the weightless ones with their shares, after a first loop within 100. -/
theorem normalize_ok (h : normalize_weights_in_mappings name weight ms = .ok out) :
    (∃ m, ms = [m] ∧ out = [(m, 100)]) ∨
    ∃ st, weighAll name weight ms = .ok st ∧ st.current_weight ≤ 100 ∧
      out = st.normalized_mappings ++
        assign st.num_weightless_mappings (roundDiv (100 - st.current_weight) st.num_weightless_mappings)
          st.current_weight 0 st.weightless_mappings := by
  unfold normalize_weights_in_mappings at h
  split at h
  · exact .inl ⟨_, rfl, (Except.ok.inj h).symm⟩
  · obtain ⟨st, hst, h⟩ := bind_eq_ok.mp h
    have hI := weighAll_inv hst
    by_cases hgt : st.current_weight > 100
    · rw [if_pos hgt] at h
      cases h
    rw [if_neg hgt] at h
    refine .inr ⟨st, hst, by omega, ?_⟩
    by_cases hpos : st.num_weightless_mappings > 0
    · rw [if_pos hpos] at h
      exact (Except.ok.inj h).symm
    · -- No weightless mapping: the second loop has nothing to do.
      rw [if_neg hpos] at h
      have hnil : st.weightless_mappings = [] := List.eq_nil_of_length_eq_zero (by rw [← hI.count]; omega)
      rw [hnil, ← (Except.ok.inj h)]
      simp [assign]

/-- The new `self.mappings` are the old ones, the explicit ones first. -/
theorem normalize_weights_perm (h : normalize_weights_in_mappings name weight ms = .ok out) :
    out.map Prod.fst = explicit weight ms ++ weightless weight ms ∧ (out.map Prod.fst).Perm ms := by
  rcases normalize_ok h with ⟨m, rfl, rfl⟩ | ⟨st, hst, -, rfl⟩
  · cases hw : weight m <;> simp [explicit, weightless, hw]
  · have hI := weighAll_inv hst
    have heq : (st.normalized_mappings ++ assign st.num_weightless_mappings
        (roundDiv (100 - st.current_weight) st.num_weightless_mappings) st.current_weight 0
          st.weightless_mappings).map Prod.fst = explicit weight ms ++ weightless weight ms := by
      rw [List.map_append, assign_fst, hI.normalized, hI.waiting]
    exact ⟨heq, heq ▸ List.filter_append_perm _ ms⟩

/-- The last `_weight` is 100 when some mapping had no weight. -/
theorem normalize_weights_last (h : normalize_weights_in_mappings name weight ms = .ok out)
    (hw : ∃ m ∈ ms, weight m = none) : (out.map Prod.snd).getLast? = some 100 := by
  rcases normalize_ok h with ⟨m, rfl, rfl⟩ | ⟨st, hst, -, rfl⟩
  · rfl
  · have hI := weighAll_inv hst
    have hne : st.weightless_mappings ≠ [] := by
      obtain ⟨m, hm, hnone⟩ := hw
      rw [hI.waiting, weightless]
      exact List.ne_nil_of_mem (List.mem_filter.mpr ⟨hm, by simp [hnone]⟩)
    rw [List.map_append, assign_weights _ _ _ _ _ (by rw [hI.count]; simp) hne]
    simp

/-- With non-negative weights, the result is a cumulative split exactly when
the shares of all the weightless mappings but the last fit into what the
explicit weights left. -/
theorem normalize_weights_valid_iff (hw : ∀ m ∈ ms, ∀ w, weight m = some w → 0 ≤ w)
    (h : normalize_weights_in_mappings name weight ms = .ok out) :
    ValidSplit (out.map Prod.snd) ↔
      (weightless weight ms).length ≤ 1 ∨
      explicit_total weight ms + ((weightless weight ms).length - 1 : ℕ) *
        roundDiv (100 - explicit_total weight ms) (weightless weight ms).length ≤ 100 := by
  rcases normalize_ok h with ⟨m, rfl, rfl⟩ | ⟨st, hst, hle, rfl⟩
  · have : (weightless weight [m]).length ≤ 1 := by
      cases hm : weight m <;> simp [weightless, hm]
    exact ⟨fun _ => .inl this, fun _ => validSplit_singleton⟩
  have hI := weighAll_inv hst
  have hO := weighAll_ordered hw hst
  rw [← hI.waiting, ← hI.total, ← hI.count]
  have hper : 0 ≤ roundDiv (100 - st.current_weight) st.num_weightless_mappings :=
    roundDiv_nonneg _ (by omega)
  have hE : ValidSplit (st.normalized_mappings.map Prod.snd) := by
    refine ⟨hO.sorted, fun w hw' => ?_⟩
    obtain ⟨x, hx, rfl⟩ := List.mem_map.mp hw'
    have := hO.bounded x hx
    omega
  rcases Nat.eq_zero_or_pos st.num_weightless_mappings with hn | hn
  · -- No weightless mapping: only the running totals.
    have hnil : st.weightless_mappings = [] := List.eq_nil_of_length_eq_zero (by rw [← hI.count, hn])
    rw [hnil]
    simp [assign, hE, hn]
  · have hne : st.weightless_mappings ≠ [] := List.ne_nil_of_length_pos (by rw [← hI.count]; exact hn)
    rw [List.map_append, assign_weights _ _ _ _ _ (by rw [hI.count]; simp) hne, validSplit_append,
      validSplit_shares hO.nonneg hper, ← hI.count]
    -- Every running total is at most `current_weight`, below every share.
    have hcross : ∀ a ∈ st.normalized_mappings.map Prod.snd,
        ∀ b ∈ (List.range (st.num_weightless_mappings - 1)).map
          (fun j : ℕ => st.current_weight + (j + 1) * roundDiv (100 - st.current_weight) st.num_weightless_mappings) ++ [100],
        a ≤ b := by
      intro a ha b hb
      obtain ⟨x, hx, rfl⟩ := List.mem_map.mp ha
      have hxc := (hO.bounded x hx).2
      rcases List.mem_append.mp hb with hb | hb
      · obtain ⟨j, -, rfl⟩ := List.mem_map.mp hb
        have : 0 ≤ ((j : ℤ) + 1) * roundDiv (100 - st.current_weight) st.num_weightless_mappings :=
          Int.mul_nonneg (by omega) hper
        omega
      · rw [List.mem_singleton.mp hb]
        omega
    constructor
    · rintro ⟨-, hS, -⟩
      rcases hS with hS | hS
      · exact .inl (by omega)
      · exact .inr hS
    · intro hS
      refine ⟨hE, ?_, hcross⟩
      rcases hS with hS | hS
      · exact .inl (by omega)
      · exact .inr hS

/-- The rounded share overshoots: after an explicit 97, five weightless
mappings get 98, 99, 100, 101 and 100. -/
theorem normalize_weights_overshoot :
    (normalize_weights_in_mappings Prod.fst Prod.snd
      [("canary".toList, some 97), ("a".toList, none), ("b".toList, none), ("c".toList, none),
        ("d".toList, none), ("e".toList, none)]).map (List.map Prod.snd) =
      .ok [97, 98, 99, 100, 101, 100] ∧
    ¬ ValidSplit [97, 98, 99, 100, 101, 100] := by
  refine ⟨rfl, by decide⟩

/-- An error names the mapping and weight it refuses, or the total. -/
theorem normalize_weights_error {e : List Char} (h : normalize_weights_in_mappings name weight ms = .error e) :
    (∃ m ∈ ms, ∃ w, weight m = some w ∧ 100 < w ∧ e = invalid_weight (name m) w) ∨
    (e = total_weight_exceeds ∧ 100 < explicit_total weight ms) := by
  unfold normalize_weights_in_mappings at h
  split at h
  · cases h
  · cases hst : weighAll name weight ms with
    | error e' =>
      rw [hst] at h
      have he : e' = e := by simpa [bind, Except.bind] using h
      obtain ⟨m, hm, st, hm'⟩ := foldlM_eq_error (he ▸ hst)
      exact .inl ⟨m, hm, weigh_error hm'⟩
    | ok st =>
      rw [hst] at h
      have hI := weighAll_inv hst
      simp only [bind, Except.bind] at h
      by_cases hgt : st.current_weight > 100
      · rw [if_pos hgt] at h
        exact .inr ⟨(Except.error.inj h).symm, hI.total ▸ hgt⟩
      · rw [if_neg hgt] at h
        split at h <;> cases h

/-- With every explicit weight at most 100 and their total at most 100, the
function returns. -/
theorem normalize_weights_ok (hw : ∀ m ∈ ms, ∀ w, weight m = some w → w ≤ 100)
    (htotal : explicit_total weight ms ≤ 100) :
    ∃ out, normalize_weights_in_mappings name weight ms = .ok out := by
  cases h : normalize_weights_in_mappings name weight ms with
  | ok out => exact ⟨out, rfl⟩
  | error e =>
    rcases normalize_weights_error h with ⟨m, hm, w, hmw, hgt, -⟩ | ⟨-, hgt⟩
    · exact absurd (hw m hm w hmw) (by omega)
    · exact absurd htotal (by omega)

/-- **What `normalize_weights_in_mappings` does.** With explicit weights in
`[0, 100]` that sum to at most 100 it returns, and what it returns lists the
explicit mappings first, then the weightless ones, all of the group's; the
last `_weight` is 100 when some mapping had none; and the `_weight`s are a
cumulative split exactly when the rounded shares of all weightless mappings
but the last fit into what the explicit weights left. -/
theorem normalize_weights_spec (hw : ∀ m ∈ ms, ∀ w, weight m = some w → 0 ≤ w ∧ w ≤ 100)
    (htotal : explicit_total weight ms ≤ 100) :
    ∃ out, normalize_weights_in_mappings name weight ms = .ok out ∧
      (out.map Prod.fst = explicit weight ms ++ weightless weight ms ∧ (out.map Prod.fst).Perm ms) ∧
      ((∃ m ∈ ms, weight m = none) → (out.map Prod.snd).getLast? = some 100) ∧
      (ValidSplit (out.map Prod.snd) ↔
        (weightless weight ms).length ≤ 1 ∨
        explicit_total weight ms + ((weightless weight ms).length - 1 : ℕ) *
          roundDiv (100 - explicit_total weight ms) (weightless weight ms).length ≤ 100) := by
  obtain ⟨out, h⟩ := normalize_weights_ok (fun m hm w hmw => (hw m hm w hmw).2) htotal
  exact ⟨out, h, normalize_weights_perm h, normalize_weights_last h,
    normalize_weights_valid_iff (fun m hm w hmw => (hw m hm w hmw).1) h⟩

end Normalize

/-- The group of the overshoot: an explicit 97 and five weightless mappings. -/
def canaryGroup : List (List Char × Option ℤ) :=
  [("canary".toList, some 97), ("a".toList, none), ("b".toList, none), ("c".toList, none),
    ("d".toList, none), ("e".toList, none)]

theorem normalize_weights_spec_canary :
    (∀ m ∈ canaryGroup, ∀ w, m.2 = some w → 0 ≤ w ∧ w ≤ 100) ∧ explicit_total Prod.snd canaryGroup ≤ 100 ∧
    ∃ out, normalize_weights_in_mappings Prod.fst Prod.snd canaryGroup = .ok out ∧
      (out.map Prod.fst = explicit Prod.snd canaryGroup ++ weightless Prod.snd canaryGroup ∧
        (out.map Prod.fst).Perm canaryGroup) ∧
      ((∃ m ∈ canaryGroup, m.2 = none) → (out.map Prod.snd).getLast? = some 100) ∧
      (ValidSplit (out.map Prod.snd) ↔
        (weightless Prod.snd canaryGroup).length ≤ 1 ∨
        explicit_total Prod.snd canaryGroup + ((weightless Prod.snd canaryGroup).length - 1 : ℕ) *
          roundDiv (100 - explicit_total Prod.snd canaryGroup) (weightless Prod.snd canaryGroup).length ≤ 100) := by
  have hw : ∀ m ∈ canaryGroup, ∀ w, m.2 = some w → 0 ≤ w ∧ w ≤ 100 := by
    intro m hm w hmw
    simp only [canaryGroup, List.mem_cons, List.not_mem_nil, or_false] at hm
    rcases hm with rfl | rfl | rfl | rfl | rfl | rfl
    · -- the one explicit weight, 97
      obtain rfl : (97 : ℤ) = w := Option.some.inj hmw
      decide
    all_goals exact absurd hmw (by simp)
  have htotal : explicit_total Prod.snd canaryGroup ≤ 100 := by decide
  exact ⟨hw, htotal, normalize_weights_spec hw htotal⟩

end Weights
end Emissary

/-
# Cutting a string at a separator

Two ways to take `"name.namespace"` apart at the last dot. Python's
`s.rsplit(sep, 1)`, on a string that holds `sep`, gives the part before the
last `sep` and the part after it (`rsplit1`). Go's `strings.Split(s, sep)`,
when it gives more than one part, followed by joining all parts but the last
with `sep`, gives the same two parts (`splitLast`). They agree on every
string (`splitLast_eq_rsplit1`), and both leave a string without `sep` alone.
A string joined as `a ++ sep :: b` with `b` free of `sep` is cut back into
`a` and `b` (`rsplit1_append`), and the part before is shorter than the
string (`length_lt_of_rsplit1`).

Go's `strings.SplitN(s, sep, 2)` and Python's `s.split(sep, 1)` cut at the
first occurrence of a separator of any length instead (`split1`); a string
that does not hold the separator's first element is left alone
(`split1_eq_none_of_not_mem`).

Key definitions: `rsplit1`, `splitLast`, `split1`.
Key theorems: `rsplit1_eq_none_iff`, `rsplit1_eq_some`, `splitLast_eq_rsplit1`,
`rsplit1_append`, `split1_eq_none_of_not_mem`.
-/
import Mathlib.Data.List.Basic

namespace Split

variable {α : Type*} [DecidableEq α] (sep : α)

/-- Python's `s.rsplit(sep, 1)`: the parts before and after the last `sep`,
`none` when `s` has no `sep` (Python then gives `[s]`). -/
def rsplit1 : List α → Option (List α × List α)
  | [] => none
  | x :: xs =>
    match rsplit1 xs with
    | some (a, b) => some (x :: a, b)
    | none => if x = sep then some ([], xs) else none

/-- Go's `parts := strings.Split(s, sep)` and, when `len(parts) > 1`, the pair
`strings.Join(parts[:len(parts)-1], sep)`, `parts[len(parts)-1]`. -/
def splitLast (s : List α) : Option (List α × List α) :=
  if 1 < (s.splitOn sep).length then
    some ([sep].intercalate (s.splitOn sep).dropLast, (s.splitOn sep).getLastD [])
  else none

/-! ### `rsplit1` -/

variable {sep}

theorem rsplit1_eq_none_iff {s : List α} : rsplit1 sep s = none ↔ sep ∉ s := by
  induction s with
  | nil => simp [rsplit1]
  | cons x xs ih =>
    unfold rsplit1
    cases h : rsplit1 sep xs with
    | some p =>
      -- a separator in the tail
      have hmem : sep ∈ xs := by
        by_contra hn
        rw [ih.mpr hn] at h
        cases h
      simp [hmem]
    | none =>
      have hn : sep ∉ xs := ih.mp h
      by_cases hx : x = sep
      · simp [hx]
      · simp [hx, hn, Ne.symm hx]

/-- `rsplit1` cuts at a separator with none after it. -/
theorem rsplit1_eq_some : ∀ {s a b : List α}, rsplit1 sep s = some (a, b) →
    s = a ++ sep :: b ∧ sep ∉ b
  | [], _, _, h => by simp [rsplit1] at h
  | x :: xs, a, b, h => by
    unfold rsplit1 at h
    cases hxs : rsplit1 sep xs with
    | some p =>
      obtain ⟨a', b'⟩ := p
      rw [hxs] at h
      obtain ⟨rfl, rfl⟩ : x :: a' = a ∧ b' = b := by simpa using h
      obtain ⟨hs, hb⟩ := rsplit1_eq_some hxs
      exact ⟨by rw [hs]; rfl, hb⟩
    | none =>
      rw [hxs] at h
      by_cases hx : x = sep
      · obtain ⟨rfl, rfl⟩ : [] = a ∧ xs = b := by simpa [hx] using h
        exact ⟨by rw [hx]; rfl, rsplit1_eq_none_iff.mp hxs⟩
      · simp [hx] at h

/-! ### Go's split and join -/

theorem splitLast_of_not_mem {s : List α} (h : sep ∉ s) : splitLast sep s = none := by
  simp [splitLast, List.splitOn_eq_singleton h]

theorem splitLast_append {b : List α} (hb : sep ∉ b) (a : List α) :
    splitLast sep (a ++ sep :: b) = some (a, b) := by
  have hparts : (a ++ sep :: b).splitOn sep = a.splitOn sep ++ [b] := by
    rw [List.splitOn_append_cons_self, List.splitOn_eq_singleton hb]
  have hne : a.splitOn sep ≠ [] := List.splitOn_ne_nil sep a
  have hlen : 1 < (a.splitOn sep ++ [b]).length := by
    rw [List.length_append, List.length_singleton]
    have := List.length_pos_iff.mpr hne
    omega
  simp only [splitLast, hparts, if_pos hlen, List.dropLast_concat, List.intercalate_splitOn,
    List.getLastD_eq_getLast?, List.getLast?_concat, Option.getD_some]

/-- Go's split-and-join and Python's `rsplit(sep, 1)` cut every string at the
same place. -/
theorem splitLast_eq_rsplit1 (s : List α) : splitLast sep s = rsplit1 sep s := by
  cases h : rsplit1 sep s with
  | none => exact splitLast_of_not_mem (rsplit1_eq_none_iff.mp h)
  | some p =>
    obtain ⟨a, b⟩ := p
    obtain ⟨rfl, hb⟩ := rsplit1_eq_some h
    exact splitLast_append hb a

/-- `rsplit1` cuts `a.b` at the dot before `b`, when `b` has none. -/
theorem rsplit1_append {b : List α} (hb : sep ∉ b) (a : List α) :
    rsplit1 sep (a ++ sep :: b) = some (a, b) := by
  rw [← splitLast_eq_rsplit1]
  exact splitLast_append hb a

/-- What comes before the last separator is shorter than the whole. -/
theorem length_lt_of_rsplit1 {s a b : List α} (h : rsplit1 sep s = some (a, b)) :
    a.length < s.length := by
  obtain ⟨rfl, -⟩ := rsplit1_eq_some h
  simp

/-! ### The first occurrence of a separator -/

variable (sep : List α)

/-- `strings.SplitN(s, sep, 2)` when it gives two parts, and Python's
`s.split(sep, 1)`: the parts before and after the first `sep`. -/
def split1 : List α → Option (List α × List α)
  | [] => none
  | x :: xs =>
    if sep <+: x :: xs then some ([], (x :: xs).drop sep.length)
    else (split1 xs).map fun p => (x :: p.1, p.2)

variable {sep}

theorem split1_eq_none_of_not_mem {c : α} {rest : List α} (hsep : sep = c :: rest) :
    ∀ {s : List α}, c ∉ s → split1 sep s = none
  | [], _ => rfl
  | x :: xs, hc => by
    have hx : x ≠ c := fun h => hc (h ▸ List.mem_cons_self)
    have hpre : ¬sep <+: x :: xs := by
      rw [hsep, List.cons_prefix_cons]
      exact fun h => hx h.1.symm
    rw [split1, if_neg hpre, split1_eq_none_of_not_mem hsep (fun h => hc (List.mem_cons_of_mem x h))]
    rfl

end Split

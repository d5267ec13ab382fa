/-
# Worklist closure over a table

The nodes reachable from a start node along the edges `succ`, where only the
keys of a table count as nodes: a key that is not in the table is neither
visited nor followed. The walk is the first-in first-out loop one writes with
a `while` over a list: pop the first key; if the table has it and it has not
been visited, record its entry and append its successors; otherwise drop it.

It stops because each round either shortens the worklist or visits a new key
of the table (`unvisited` falls), so it is total for every table and every
edge function, cycles and repeated keys included. What it visits is exactly
the set `Reach` (`mem_walk`), each visited key with its entry of the table
(`get?_walk`). The proof carries the invariant `Inv`: visited keys are reached
and carry their entries, live keys on the worklist are reached, and every live
successor of a visited key, and the start, is visited or waiting.

Key definitions: `Worklist.Reach`, `Worklist.walk`, `Worklist.Inv`.
Key theorems: `Worklist.mem_walk`, `Worklist.get?_walk`.
-/
import Emissary.Lib.Dict

universe u v

namespace Worklist

variable {K : Type u} {E : Type v} [DecidableEq K]

/-- The keys reached from `s`: `s` if it is live, and every live successor of
a reached key. -/
inductive Reach (live : K → Prop) (succ : K → List K) (s : K) : K → Prop
  | start : live s → Reach live succ s s
  | step {x y : K} : Reach live succ s x → y ∈ succ x → live y → Reach live succ s y

omit [DecidableEq K] in
theorem Reach.live {live : K → Prop} {succ : K → List K} {s x : K} (h : Reach live succ s x) : live x := by
  cases h with
  | start hs => exact hs
  | step _ _ hy => exact hy

/-- How many keys of the table are not visited yet. -/
def unvisited (table visited : Dict K E) : ℕ := table.keys.countP fun x => !decide (x ∈ visited)

omit [DecidableEq K] in
theorem countP_lt_of_imp {p q : K → Bool} : ∀ {l : List K}, (∀ x ∈ l, q x → p x) →
    ∀ {y : K}, y ∈ l → p y → ¬ q y → l.countP q < l.countP p
  | [], _, _, hy, _, _ => by simp at hy
  | a :: l, himp, y, hy, hp, hq => by
    have hle : l.countP q ≤ l.countP p :=
      List.countP_mono_left fun x hx => himp x (List.mem_cons_of_mem a hx)
    rcases List.mem_cons.mp hy with rfl | hy
    · simp only [List.countP_cons, hp, hq]
      simp only [Bool.false_eq_true, if_false, if_true]
      omega
    · have ih := countP_lt_of_imp (fun x hx => himp x (List.mem_cons_of_mem a hx)) hy hp hq
      have ha := himp a List.mem_cons_self
      rw [List.countP_cons, List.countP_cons]
      by_cases hqa : q a = true
      · simp only [hqa, ha hqa, if_true]
        omega
      · simp only [hqa, Bool.false_eq_true, if_false]
        split <;> omega

theorem unvisited_set_lt {table visited : Dict K E} {k : K} (e : E) (hk : k ∈ table) (hv : k ∉ visited) :
    unvisited table (visited.set k e) < unvisited table visited := by
  apply countP_lt_of_imp _ (Dict.mem_def.mp hk)
  · simpa using hv
  · simp [Dict.mem_set]
  · intro x _
    simp only [Bool.not_eq_eq_eq_not, Bool.not_true, decide_eq_false_iff_not, Dict.mem_set, not_or]
    exact fun h => h.2

/-- The worklist loop: `visited` is what it has recorded, `work` what waits. -/
def walk (table : Dict K E) (succ : K → List K) (visited : Dict K E) : List K → Dict K E
  | [] => visited
  | k :: work =>
    -- the equation and the test are named for the termination proof only
    match _hk : table.get? k with
    | none => walk table succ visited work
    | some e =>
      if _hv : k ∈ visited then walk table succ visited work
      else walk table succ (visited.set k e) (work ++ succ k)
termination_by work => (unvisited table visited, work.length)
decreasing_by
  · exact Prod.Lex.right _ (by simp)
  · exact Prod.Lex.right _ (by simp)
  · exact Prod.Lex.left _ _ (unvisited_set_lt e (Dict.mem_of_get? _hk) _hv)

section Equations

variable (table : Dict K E) (succ : K → List K) (visited : Dict K E) (work : List K) (k : K)

theorem walk_nil : walk table succ visited [] = visited := by
  rw [walk]

theorem walk_cons_absent (hk : table.get? k = none) :
    walk table succ visited (k :: work) = walk table succ visited work := by
  rw [walk]
  split <;> simp_all

theorem walk_cons_visited (hv : k ∈ visited) :
    walk table succ visited (k :: work) = walk table succ visited work := by
  rw [walk]
  split <;> simp_all

theorem walk_cons_new {e : E} (hk : table.get? k = some e) (hv : k ∉ visited) :
    walk table succ visited (k :: work) = walk table succ (visited.set k e) (work ++ succ k) := by
  rw [walk]
  split <;> simp_all

end Equations

/-! ### The invariant -/

/-- What the loop keeps, for the walk from `s`. -/
structure Inv (table : Dict K E) (succ : K → List K) (s : K) (visited : Dict K E) (work : List K) : Prop where
  entry : ∀ k e, visited.get? k = some e → table.get? k = some e
  reached : ∀ k ∈ visited, Reach (· ∈ table) succ s k
  pending : ∀ k ∈ work, k ∈ table → Reach (· ∈ table) succ s k
  start : s ∈ table → s ∈ visited ∨ s ∈ work
  closed : ∀ x ∈ visited, ∀ y ∈ succ x, y ∈ table → y ∈ visited ∨ y ∈ work

variable {table : Dict K E} {succ : K → List K} {s : K}

theorem Inv.init : Inv table succ s ∅ [s] where
  entry k e h := by simp at h
  reached k h := by simp at h
  pending k hk hs := by
    rw [List.mem_singleton.mp hk] at hs ⊢
    exact .start hs
  start _ := .inr List.mem_cons_self
  closed x h := by simp at h

/-- Dropping the first key, when it is not in the table or already visited. -/
theorem Inv.drop {visited : Dict K E} {k : K} {work : List K} (hI : Inv table succ s visited (k :: work))
    (hk : k ∉ table ∨ k ∈ visited) : Inv table succ s visited work := by
  have move : ∀ y, y ∈ table → y ∈ visited ∨ y ∈ k :: work → y ∈ visited ∨ y ∈ work := by
    intro y hy h
    rcases h with h | h
    · exact .inl h
    · rcases List.mem_cons.mp h with rfl | h
      · exact .inl (hk.resolve_left (not_not.mpr hy))
      · exact .inr h
  refine ⟨hI.entry, hI.reached, fun k' hk' => hI.pending k' (List.mem_cons_of_mem k hk'), ?_, ?_⟩
  · intro hs
    exact move s hs (hI.start hs)
  · intro x hx y hy hyt
    exact move y hyt (hI.closed x hx y hy hyt)

/-- Visiting the first key: it is recorded and its successors wait. -/
theorem Inv.visit {visited : Dict K E} {k : K} {e : E} {work : List K}
    (hI : Inv table succ s visited (k :: work)) (hk : table.get? k = some e) (hv : k ∉ visited) :
    Inv table succ s (visited.set k e) (work ++ succ k) := by
  have hkt : k ∈ table := Dict.mem_of_get? hk
  have hreach : Reach (· ∈ table) succ s k := hI.pending k List.mem_cons_self hkt
  have move : ∀ y, y ∈ visited ∨ y ∈ k :: work → y ∈ visited.set k e ∨ y ∈ work ++ succ k := by
    intro y h
    rcases h with h | h
    · exact .inl (Dict.mem_set.mpr (.inr h))
    · rcases List.mem_cons.mp h with rfl | h
      · exact .inl (Dict.mem_set.mpr (.inl rfl))
      · exact .inr (List.mem_append_left _ h)
  refine ⟨?_, ?_, ?_, ?_, ?_⟩
  · intro k' e' h
    rw [Dict.get?_set] at h
    by_cases hk' : k' = k
    · subst hk'
      simp only [if_true, Option.some.injEq] at h
      rw [hk, h]
    · rw [if_neg hk'] at h
      exact hI.entry k' e' h
  · intro k' h
    rcases Dict.mem_set.mp h with rfl | h
    · exact hreach
    · exact hI.reached k' h
  · intro k' h ht
    rcases List.mem_append.mp h with h | h
    · exact hI.pending k' (List.mem_cons_of_mem k h) ht
    · exact .step hreach h ht
  · intro hs
    exact move s (hI.start hs)
  · intro x hx y hy hyt
    rcases Dict.mem_set.mp hx with rfl | hx
    · exact .inr (List.mem_append_right _ hy)
    · exact move y (hI.closed x hx y hy hyt)

/-- The run lemma: the invariant holds when the worklist is empty. -/
theorem Inv.walk {visited : Dict K E} {work : List K} (hI : Inv table succ s visited work) :
    Inv table succ s (walk table succ visited work) [] := by
  induction visited, work using walk.induct table succ with
  | case1 visited => rwa [walk_nil]
  | case2 visited k work hk ih =>
    rw [walk_cons_absent _ _ _ _ _ hk]
    exact ih (hI.drop (.inl (Dict.get?_eq_none.mp hk)))
  | case3 visited k work e hk hv ih =>
    rw [walk_cons_visited _ _ _ _ _ hv]
    exact ih (hI.drop (.inr hv))
  | case4 visited k work e hk hv ih =>
    rw [walk_cons_new _ _ _ _ _ hk hv]
    exact ih (hI.visit hk hv)

/-- With nothing left to do, the visited keys are the reached ones. -/
theorem Inv.mem_iff {visited : Dict K E} (hI : Inv table succ s visited []) (k : K) :
    k ∈ visited ↔ Reach (· ∈ table) succ s k := by
  refine ⟨hI.reached k, fun h => ?_⟩
  induction h with
  | start hs => exact (hI.start hs).resolve_right List.not_mem_nil
  | step _ hy hyt ih => exact (hI.closed _ ih _ hy hyt).resolve_right List.not_mem_nil

/-! ### The walk from one key -/

theorem mem_walk (s k : K) : k ∈ walk table succ ∅ [s] ↔ Reach (· ∈ table) succ s k :=
  Inv.init.walk.mem_iff k

theorem get?_walk (s k : K) (e : E) :
    (walk table succ ∅ [s]).get? k = some e ↔ Reach (· ∈ table) succ s k ∧ table.get? k = some e := by
  have hI : Inv table succ s (walk table succ ∅ [s]) [] := Inv.init.walk
  constructor
  · intro h
    exact ⟨(mem_walk s k).mp (Dict.mem_of_get? h), hI.entry k e h⟩
  · rintro ⟨hr, he⟩
    obtain ⟨e', he'⟩ := Option.isSome_iff_exists.mp (Dict.mem_iff_get?.mp ((mem_walk s k).mpr hr))
    rw [he', ← he, hI.entry k e' he']

end Worklist

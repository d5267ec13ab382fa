/-
# The traversal of the dependency graph is a topological sort

`DependencyGraph.traverse` (fetch/dependency.py) is Kahn's algorithm. Over
every well-formed graph, whatever the order of its vertices and of the edges
out of each, it finishes normally exactly when the graph is acyclic, and then
yields every vertex once, each after all its predecessors (`traverse_sorts`).
On a graph with a cycle it raises: `ValueError` if no vertex is free at the
start, otherwise `AssertionError` at the end, since a vertex of the cycle is
never released and its count stays positive. So a graph built by `connect`
calls is sorted when it has no cycle, and `sorted_watt_keys` lists each
dependency once, what a processor wants before what it provides
(`sorted_watt_keys_orders`).

The proof carries Kahn's invariant `Kahn` through the loop: the count of a
vertex is the number of its edges in from vertices not yet yielded
(`pending`), the queue holds exactly the vertices not yet yielded whose count
is zero, nothing is yielded or queued twice, and every vertex yielded comes
after its predecessors. When the queue runs dry, each vertex not yielded has
a predecessor not yielded (`Kahn.stuck`), and a finite set of such vertices
holds a cycle (`Topo.exists_cycle_of_forall_pred`).

Key definitions: `pending`, `Kahn`, `Sorts`.
Key theorems: `release_spec`, `Kahn.step`, `Kahn.loop`, `traverse_sorts`,
`connects_traverse`, `sorted_watt_keys_orders`.
-/
import Emissary.Dependency

namespace Emissary
namespace Fetch

open Topo

variable {α : Type} [DecidableEq α]

namespace DependencyGraph

/-! ### Releasing the edges out of a vertex -/

/-- **What the inner loop does**, for edges to distinct vertices that have
counts: each count drops by one, and the vertices whose count was one join
the queue, in the order of the edges. -/
theorem release_spec : ∀ (out queue : List α) (c : Dict α ℤ), out.Nodup → (∀ v ∈ out, v ∈ c) →
    (release out (queue, c)).1 = queue ++ out.filter (fun v => c.get? v = some 1) ∧
    (∀ v, (release out (queue, c)).2.get? v = if v ∈ out then (c.get? v).map (· - 1) else c.get? v) ∧
    (∀ v, v ∈ (release out (queue, c)).2 ↔ v ∈ c)
  | [], queue, c, _, _ => by simp [release]
  | obj :: out, queue, c, hn, hmem => by
    rw [List.nodup_cons] at hn
    obtain ⟨x, hx⟩ := Option.isSome_iff_exists.mp (Dict.mem_iff_get?.mp (hmem obj List.mem_cons_self))
    -- the count of `obj` after its decrement, and the counts it leaves alone
    have hobj : (c.set obj ((c.get? obj).getD 0 - 1)).get? obj = some (x - 1) := by
      rw [Dict.get?_set_self, hx]
      rfl
    have hother : ∀ v, v ≠ obj → (c.set obj ((c.get? obj).getD 0 - 1)).get? v = c.get? v :=
      fun v hv => Dict.get?_set_ne _ _ hv
    have hmem' : ∀ v ∈ out, v ∈ c.set obj ((c.get? obj).getD 0 - 1) :=
      fun v hv => Dict.mem_set.mpr (.inr (hmem v (List.mem_cons_of_mem _ hv)))
    obtain ⟨ih₁, ih₂, ih₃⟩ := release_spec out _ _ hn.2 hmem'
    have hfilter : out.filter (fun v => (c.set obj ((c.get? obj).getD 0 - 1)).get? v = some 1) =
        out.filter (fun v => c.get? v = some 1) :=
      List.filter_congr fun v hv => by rw [hother v (fun h => hn.1 (h ▸ hv))]
    simp only [release]
    refine ⟨?_, fun v => ?_, fun v => ?_⟩
    · rw [ih₁, hfilter, hobj, List.filter_cons, hx]
      by_cases h1 : x = 1
      · subst h1
        simp
      · have h0 : ¬(x - 1 = 0) := fun h => h1 (by omega)
        simp [h0, h1]
    · rw [ih₂]
      by_cases hv : v = obj
      · subst hv
        simp [hn.1, hx]
      · simp [hv, hother v hv]
    · rw [ih₃, Dict.mem_set]
      constructor
      · rintro (rfl | h)
        · exact hmem _ List.mem_cons_self
        · exact h
      · exact .inr

end DependencyGraph

/-! ### Kahn's invariant -/

/-- The edges into `v` from vertices not yet yielded. -/
def pending (es : List (α × α)) (done : List α) (v : α) : ℕ :=
  es.countP fun e => e.2 = v ∧ e.1 ∉ done

/-- No edge into `v` is pending exactly when all its predecessors are yielded. -/
theorem pending_eq_zero_iff {es : List (α × α)} {done : List α} {v : α} :
    pending es done v = 0 ↔ ∀ a, (a, v) ∈ es → a ∈ done := by
  unfold pending
  rw [List.countP_eq_zero]
  constructor
  · intro h a he
    by_contra ha
    exact h (a, v) he (by simp [ha])
  · rintro h ⟨a, b⟩ he hp
    simp only [decide_eq_true_eq] at hp
    obtain ⟨rfl, ha⟩ := hp
    exact ha (h a he)

/-- Yielding `cur` takes away its edge into `v`, if there is one. -/
theorem pending_append (es : List (α × α)) (done : List α) {cur : α} (hcur : cur ∉ done) (v : α) :
    pending es done v = pending es (done ++ [cur]) v + es.count (cur, v) := by
  unfold pending
  induction es with
  | nil => rfl
  | cons e es ih =>
    rw [List.countP_cons, List.countP_cons, List.count_cons, ih]
    obtain ⟨a, b⟩ := e
    by_cases hb : b = v
    · subst hb
      by_cases ha : a = cur
      · subst ha
        simp [hcur]
        omega
      · simp [ha]
        exact Nat.add_right_comm _ _ _
    · simp [hb]

/-- In the graph of distinct edges `es`, yielding `cur` takes one pending edge
from each vertex `cur` has an edge to, and none from the others. -/
theorem DependencyGraph.WF.pending_yield {g : DependencyGraph α} {es : List (α × α)} (hg : g.WF es)
    {done : List α} {cur : α} (hcur : cur ∉ done) (v : α) :
    pending es done v = pending es (done ++ [cur]) v + if v ∈ g.outOf cur then 1 else 0 := by
  rw [pending_append es done hcur v]
  by_cases hv : v ∈ g.outOf cur
  · rw [if_pos hv, List.count_eq_one_of_mem hg.nodup ((hg.mem_outOf cur v).mp hv)]
  · rw [if_neg hv, List.count_eq_zero_of_not_mem (fun he => hv ((hg.mem_outOf cur v).mpr he))]

/-- The ends of the edges out of a vertex are vertices. -/
theorem DependencyGraph.WF.mem_of_mem_outOf {g : DependencyGraph α} {es : List (α × α)} (hg : g.WF es)
    {a v : α} (hv : v ∈ g.outOf a) : v ∈ g.vertices :=
  (hg.mem_of_edge _ ((hg.mem_outOf a v).mp hv)).2

/-- Kahn's invariant after yielding `done`, with `queue` waiting and the
counts `c`. -/
structure Kahn (g : DependencyGraph α) (es : List (α × α)) (done queue : List α) (c : Dict α ℤ) : Prop where
  mem : ∀ v, v ∈ c ↔ v ∈ g.vertices
  count : ∀ v ∈ g.vertices, c.get? v = some (pending es done v : ℤ)
  nodup : (done ++ queue).Nodup
  done_mem : ∀ v ∈ done, v ∈ g.vertices
  queue_mem : ∀ v ∈ queue, v ∈ g.vertices
  /-- The queue holds the vertices not yet yielded that have no edge in left. -/
  queue_iff : ∀ v ∈ g.vertices, v ∉ done → (v ∈ queue ↔ pending es done v = 0)
  topo : TopoOrder (fun a b => (a, b) ∈ es) done

section Kahn

variable {g : DependencyGraph α} {es : List (α × α)} {done queue : List α} {c : Dict α ℤ}

/-- A yielded vertex has no edge in left: its predecessors came before it. -/
theorem Kahn.pending_of_done (h : Kahn g es done queue c) {v : α} (hv : v ∈ done) : pending es done v = 0 := by
  refine pending_eq_zero_iff.mpr fun a he => ?_
  obtain ⟨pre, post, hsplit, hpre⟩ := h.topo.before hv he
  exact hsplit ▸ List.mem_append_left _ hpre

/-- The head of the queue is a vertex not yet yielded, with no edge in left. -/
theorem Kahn.head {cur : α} (h : Kahn g es done (cur :: queue) c) :
    cur ∈ g.vertices ∧ cur ∉ done ∧ pending es done cur = 0 := by
  have hcur : cur ∈ g.vertices := h.queue_mem cur List.mem_cons_self
  have hcur_done : cur ∉ done := by
    have := h.nodup
    rw [List.nodup_append] at this
    exact fun hd => this.2.2 cur hd cur List.mem_cons_self rfl
  exact ⟨hcur, hcur_done, (h.queue_iff cur hcur hcur_done).mp List.mem_cons_self⟩

/-- Releasing the edges out of `cur` queues the vertices whose last pending
edge in is from `cur`. -/
theorem Kahn.mem_released (hg : g.WF es) {cur : α} (h : Kahn g es done queue c) (v : α) :
    v ∈ (g.outOf cur).filter (fun v => c.get? v = some 1) ↔ v ∈ g.outOf cur ∧ pending es done v = 1 := by
  rw [List.mem_filter, decide_eq_true_iff]
  constructor
  · rintro ⟨hv, h1⟩
    rw [h.count v (hg.mem_of_mem_outOf hv), Option.some.injEq] at h1
    exact ⟨hv, by omega⟩
  · rintro ⟨hv, h1⟩
    rw [h.count v (hg.mem_of_mem_outOf hv), h1]
    exact ⟨hv, rfl⟩

/-- A vertex with an edge in left is neither yielded nor waiting. -/
theorem Kahn.not_mem_of_pending (h : Kahn g es done queue c) {v : α} (hv : v ∈ g.vertices)
    (hpos : pending es done v ≠ 0) : v ∉ done ++ queue := by
  intro hvq
  have hv_done : v ∉ done := fun hd => hpos (h.pending_of_done hd)
  rw [List.mem_append] at hvq
  rcases hvq with hd | hq
  · exact hv_done hd
  · exact hpos ((h.queue_iff v hv hv_done).mp hq)

/-- **One round keeps the invariant**: yield the head of the queue and
release the edges out of it. -/
theorem Kahn.step (hg : g.WF es) {cur : α} (h : Kahn g es done (cur :: queue) c) :
    Kahn g es (done ++ [cur]) (DependencyGraph.release (g.outOf cur) (queue, c)).1
      (DependencyGraph.release (g.outOf cur) (queue, c)).2 := by
  obtain ⟨hcur, hcur_done, hcur0⟩ := h.head
  obtain ⟨hq, hc, hmem⟩ := DependencyGraph.release_spec (g.outOf cur) queue c (hg.outOf_nodup cur)
    (fun v hv => (h.mem v).mpr (hg.mem_of_mem_outOf hv))
  -- the count of `v` loses one exactly for an edge from `cur`
  have hstep := hg.pending_yield hcur_done
  rw [hq]
  refine ⟨fun v => by rw [hmem, h.mem], fun v hv => ?_, ?_, ?_, ?_, fun v hv hvd => ?_, ?_⟩
  · -- count
    have hs := hstep v
    rw [hc, h.count v hv]
    by_cases hvo : v ∈ g.outOf cur
    · rw [if_pos hvo] at hs ⊢
      simp [hs]
    · rw [if_neg hvo, Nat.add_zero] at hs
      rw [if_neg hvo, hs]
  · -- nodup: a vertex released now was neither yielded nor waiting
    rw [List.append_assoc, List.singleton_append, ← List.cons_append, ← List.append_assoc]
    refine List.nodup_append.mpr ⟨h.nodup, (hg.outOf_nodup cur).filter _, ?_⟩
    intro x hx y hy hxy
    subst hxy
    obtain ⟨hyo, hy1⟩ := (h.mem_released hg x).mp hy
    exact h.not_mem_of_pending (hg.mem_of_mem_outOf hyo) (by omega) hx
  · intro v hv
    rw [List.mem_append, List.mem_singleton] at hv
    rcases hv with hv | rfl
    · exact h.done_mem v hv
    · exact hcur
  · intro v hv
    rw [List.mem_append] at hv
    rcases hv with hv | hv
    · exact h.queue_mem v (List.mem_cons_of_mem _ hv)
    · exact hg.mem_of_mem_outOf ((h.mem_released hg v).mp hv).1
  · -- queue_iff: a vertex waits once its last edge in is gone
    have hvd' : v ∉ done := fun hd => hvd (List.mem_append_left _ hd)
    have hvc : v ≠ cur := fun he => hvd (he ▸ List.mem_append_right _ (List.mem_singleton_self _))
    have hold := h.queue_iff v hv hvd'
    rw [List.mem_append, h.mem_released hg v]
    have := hstep v
    by_cases hvo : v ∈ g.outOf cur
    · rw [if_pos hvo] at this
      have hvq : v ∉ queue := fun hq' => by
        have := hold.mp (List.mem_cons_of_mem _ hq')
        omega
      simp only [hvq, hvo, true_and, false_or]
      omega
    · rw [if_neg hvo, Nat.add_zero] at this
      simp only [hvo, false_and, or_false]
      rw [← this, ← hold, List.mem_cons]
      simp [hvc]
  · -- topo: the predecessors of `cur` were all yielded
    exact topoOrder_append_singleton.mpr ⟨h.topo, pending_eq_zero_iff.mp hcur0⟩

/-- **The loop keeps the invariant to its end**, and one round for each
vertex not yet yielded is enough fuel. -/
theorem Kahn.loop (hg : g.WF es) : ∀ (fuel : ℕ) (done queue : List α) (c : Dict α ℤ),
    Kahn g es done queue c → g.vertices.keys.length ≤ done.length + fuel →
    ∃ ys c', g.traverse_loop fuel queue c = some (ys, c') ∧ Kahn g es (done ++ ys) [] c'
  | fuel, done, [], c, h, _ => ⟨[], c, by cases fuel <;> rfl, by simpa using h⟩
  | 0, done, cur :: queue, c, h, hfuel => by
    -- what is yielded or waiting is distinct vertices, so fewer than the fuel allows
    have hsub : (done ++ cur :: queue).Subperm g.vertices.keys := h.nodup.subperm fun v hv => by
      rw [List.mem_append] at hv
      rcases hv with hv | hv
      · exact h.done_mem v hv
      · exact h.queue_mem v hv
    have := hsub.length_le
    simp only [List.length_append, List.length_cons] at this
    omega
  | fuel + 1, done, cur :: queue, c, h, hfuel => by
    obtain ⟨ys, c', hloop, hk⟩ :=
      Kahn.loop hg fuel (done ++ [cur]) _ _ (h.step hg) (by simp only [List.length_append, List.length_singleton]; omega)
    refine ⟨cur :: ys, c', ?_, by simpa using hk⟩
    simp only [DependencyGraph.traverse_loop, hloop, Option.map_some]

/-- When the queue runs dry, every vertex not yielded has an edge in from a
vertex not yielded. -/
theorem Kahn.stuck (hg : g.WF es) (h : Kahn g es done [] c) {v : α} (hv : v ∈ g.vertices) (hvd : v ∉ done) :
    ∃ a, a ∈ g.vertices.keys.filter (· ∉ done) ∧ (a, v) ∈ es := by
  -- `v` is not queued, so an edge into it is pending
  have hne : ¬∀ a, (a, v) ∈ es → a ∈ done := by
    rw [← pending_eq_zero_iff]
    exact (h.queue_iff v hv hvd).not.mp List.not_mem_nil
  push Not at hne
  obtain ⟨a, he, ha⟩ := hne
  exact ⟨a, List.mem_filter.mpr ⟨(hg.mem_of_edge _ he).1, by simpa using ha⟩, he⟩

/-- A vertex left over when the queue runs dry means a cycle. -/
theorem Kahn.not_acyclic (hg : g.WF es) (h : Kahn g es done [] c) {v : α} (hv : v ∈ g.vertices)
    (hvd : v ∉ done) : ¬Acyclic (fun a b => (a, b) ∈ es) := by
  intro hacyc
  have hne : g.vertices.keys.filter (· ∉ done) ≠ [] :=
    List.ne_nil_of_mem (List.mem_filter.mpr ⟨hv, by simpa using hvd⟩)
  obtain ⟨a, hcyc⟩ := exists_cycle_of_forall_pred hne fun x hx => by
    have hx' := List.mem_filter.mp hx
    exact h.stuck hg hx'.1 (by simpa using hx'.2)
  exact hacyc a hcyc

/-- At the end, the counts add up to zero exactly when every vertex was yielded. -/
theorem Kahn.sum_eq_zero_iff (hg : g.WF es) (h : Kahn g es done [] c) :
    c.values.sum = 0 ↔ ∀ v ∈ g.vertices, v ∈ done := by
  -- every count is the count of a vertex, so not negative
  have hval : ∀ x ∈ c.values, ∃ v ∈ g.vertices, x = (pending es done v : ℤ) := by
    intro x hx
    obtain ⟨v, hv⟩ := Dict.mem_values.mp hx
    have hvm : v ∈ g.vertices := (h.mem v).mp (Dict.mem_of_get? hv)
    rw [h.count v hvm, Option.some.injEq] at hv
    exact ⟨v, hvm, hv.symm⟩
  constructor
  · intro hsum v hv
    by_contra hvd
    have hnonneg : ∀ x ∈ c.values, 0 ≤ x := fun x hx => by
      obtain ⟨w, -, rfl⟩ := hval x hx
      exact Int.natCast_nonneg _
    have hmemv : (pending es done v : ℤ) ∈ c.values := Dict.mem_values.mpr ⟨v, h.count v hv⟩
    have hle := List.single_le_sum hnonneg _ hmemv
    have hpos := (h.queue_iff v hv hvd).not.mp List.not_mem_nil
    omega
  · intro hall
    apply List.sum_eq_zero
    intro x hx
    obtain ⟨w, hw, rfl⟩ := hval x hx
    have : pending es done w = 0 := pending_eq_zero_iff.mpr fun a he => hall a (hg.mem_of_edge _ he).1
    rw [this]
    rfl

/-- The loop starts from no vertex yielded, the vertices with no edge in
waiting in the order of the graph, and the counts of the graph. -/
theorem kahn_init (hg : g.WF es) :
    Kahn g es [] (((g.vertices.map Vertex.in_count).entries.filter fun e => e.2 = 0).map Prod.fst)
      (g.vertices.map Vertex.in_count) := by
  -- the count of a vertex is the number of its edges in
  have hcount : ∀ v ∈ g.vertices, (g.vertices.map Vertex.in_count).get? v = some (pending es [] v : ℤ) := by
    intro v hv
    obtain ⟨x, hx⟩ := Option.isSome_iff_exists.mp (Dict.mem_iff_get?.mp hv)
    have hin := hg.inCountOf v
    simp only [DependencyGraph.inCountOf, hx, Option.getD_some] at hin
    rw [Dict.get?_map, hx, Option.map_some, hin]
    simp [pending]
  have hqueue : ∀ v, v ∈ ((g.vertices.map Vertex.in_count).entries.filter fun e => e.2 = 0).map Prod.fst ↔
      (g.vertices.map Vertex.in_count).get? v = some 0 := by
    intro v
    simp only [List.mem_map, List.mem_filter, decide_eq_true_eq]
    constructor
    · rintro ⟨⟨k, x⟩, ⟨he, rfl⟩, rfl⟩
      exact Dict.mem_entries.mp he
    · intro hv
      exact ⟨(v, 0), ⟨Dict.mem_entries.mpr hv, rfl⟩, rfl⟩
  have hmem : ∀ v, v ∈ g.vertices.map Vertex.in_count ↔ v ∈ g.vertices := by
    intro v
    rw [Dict.mem_def, Dict.keys_map, ← Dict.mem_def]
  refine ⟨hmem, hcount, ?_, fun v hv => (List.not_mem_nil hv).elim, fun v hv => ?_, fun v hv _ => ?_, topoOrder_nil⟩
  · rw [List.nil_append]
    exact (List.filter_sublist.map Prod.fst).nodup (g.vertices.map Vertex.in_count).nodup
  · exact (hmem v).mp (Dict.mem_of_get? ((hqueue v).mp hv))
  · rw [hqueue, hcount v hv, Option.some.injEq]
    omega

end Kahn

/-! ### The traversal -/

/-- What `traverse` is to do on the graph of the edges `es`: finish normally
exactly when the graph is acyclic, and then yield every vertex once, each
after all its predecessors. -/
def Sorts (g : DependencyGraph α) (es : List (α × α)) (r : List α × Option TraverseError) : Prop :=
  (r.2 = none ↔ Acyclic (fun a b => (a, b) ∈ es)) ∧
  (r.2 = none → r.1.Nodup ∧ (∀ v, v ∈ r.1 ↔ v ∈ g.vertices) ∧ TopoOrder (fun a b => (a, b) ∈ es) r.1)

/-- A vertex on a cycle is a vertex of the graph. -/
theorem DependencyGraph.WF.mem_of_transGen {g : DependencyGraph α} {es : List (α × α)} (hg : g.WF es) {a b : α}
    (h : Relation.TransGen (fun a b => (a, b) ∈ es) a b) : a ∈ g.vertices := by
  obtain ⟨c, hac, -⟩ := Relation.TransGen.head'_iff.mp h
  exact (hg.mem_of_edge _ hac).1

/-- **`traverse` is a topological sort** of every well-formed graph. -/
theorem traverse_sorts {g : DependencyGraph α} {es : List (α × α)} (hg : g.WF es) : Sorts g es g.traverse := by
  unfold DependencyGraph.traverse
  by_cases hempty : g.vertices.entries.length = 0
  · -- no vertices, so no edges and no cycle
    rw [if_pos hempty]
    have hnov : ∀ v, v ∉ g.vertices := fun v hv => by
      rw [Dict.mem_def, Dict.keys, List.length_eq_zero_iff.mp hempty] at hv
      exact List.not_mem_nil hv
    refine ⟨iff_of_true rfl fun a hcyc => hnov a (hg.mem_of_transGen hcyc), fun _ => ?_⟩
    exact ⟨List.nodup_nil, fun v => iff_of_false List.not_mem_nil (hnov v), topoOrder_nil⟩
  rw [if_neg hempty]
  have hinit := kahn_init hg
  obtain ⟨v₀, hv₀⟩ : ∃ v, v ∈ g.vertices := by
    obtain ⟨e, he⟩ := List.exists_mem_of_length_pos (Nat.pos_of_ne_zero hempty)
    exact ⟨e.1, List.mem_map_of_mem he⟩
  dsimp only
  by_cases hq0 : (((g.vertices.map Vertex.in_count).entries.filter fun e => e.2 = 0).map Prod.fst).length = 0
  · -- no vertex is free at the start: `ValueError`, and a cycle
    rw [if_pos hq0]
    rw [List.length_eq_zero_iff.mp hq0] at hinit
    exact ⟨iff_of_false (Option.some_ne_none _) (hinit.not_acyclic hg hv₀ List.not_mem_nil),
      fun h => (Option.some_ne_none _ h).elim⟩
  rw [if_neg hq0]
  obtain ⟨ys, c', hloop, hk⟩ := Kahn.loop hg g.vertices.entries.length [] _ _ hinit
    (by simp [Dict.keys])
  rw [hloop, List.nil_append] at *
  dsimp only
  by_cases hsum : c'.values.sum = 0
  · -- every vertex yielded, in a topological order: no cycle
    rw [if_pos hsum]
    have hall := (hk.sum_eq_zero_iff hg).mp hsum
    refine ⟨iff_of_true rfl fun a hcyc => hk.topo.not_transGen_self (hall a (hg.mem_of_transGen hcyc)) hcyc,
      fun _ => ⟨by simpa using hk.nodup, fun v => ⟨hk.done_mem v, hall v⟩, hk.topo⟩⟩
  · -- a vertex left over: `AssertionError`, and a cycle
    rw [if_neg hsum]
    have : ∃ v ∈ g.vertices, v ∉ ys := by
      by_contra hnone
      push Not at hnone
      exact hsum ((hk.sum_eq_zero_iff hg).mpr hnone)
    obtain ⟨v, hv, hvys⟩ := this
    exact ⟨iff_of_false (Option.some_ne_none _) (hk.not_acyclic hg hv hvys), fun h => (Option.some_ne_none _ h).elim⟩

/-! ### Graphs built by `connect`, and the order of the watt keys -/

/-- The traversal of a graph built by `connect` calls sorts it by the pairs
connected. -/
theorem connects_traverse (cs : List (α × α)) :
    ((connects cs).traverse.2 = none ↔ Acyclic (fun a b => (a, b) ∈ cs)) ∧
    ((connects cs).traverse.2 = none → (connects cs).traverse.1.Nodup ∧
      (∀ v, v ∈ (connects cs).traverse.1 ↔ ∃ e ∈ cs, v = e.1 ∨ v = e.2) ∧
      TopoOrder (fun a b => (a, b) ∈ cs) (connects cs).traverse.1) := by
  obtain ⟨es, hwf, hes, hmem⟩ := connects_wf cs
  -- the graph's distinct edges are the pairs connected
  have hrel : (fun a b => (a, b) ∈ es) = (fun a b => (a, b) ∈ cs) := by
    funext a b
    exact propext (hes (a, b))
  obtain ⟨hiff, hsorted⟩ := traverse_sorts hwf
  rw [hrel] at hiff hsorted
  refine ⟨hiff, fun hnone => ?_⟩
  obtain ⟨hnodup, hall, htopo⟩ := hsorted hnone
  exact ⟨hnodup, fun v => (hall v).trans (hmem v), htopo⟩

/-- The pairs `sorted_watt_keys` connects, in order. -/
def DependencyManager.edges (m : DependencyManager α) : List (α × α) :=
  m.injectors.entries.flatMap fun e => e.2.provides.map (fun cls => (e.1, cls)) ++ e.2.wants.map (fun cls => (cls, e.1))

/-- An edge of the graph `sorted_watt_keys` builds: a processor to what it
provides, and what it wants to the processor. -/
def DependencyManager.Edge (m : DependencyManager α) (a b : α) : Prop :=
  (∃ inj, m.injectors.get? a = some inj ∧ b ∈ inj.provides) ∨
    ∃ inj, m.injectors.get? b = some inj ∧ a ∈ inj.wants

theorem DependencyManager.mem_edges {m : DependencyManager α} {a b : α} : (a, b) ∈ m.edges ↔ m.Edge a b := by
  simp only [edges, Edge, List.mem_flatMap, List.mem_append, List.mem_map, Prod.mk.injEq, ← Dict.mem_entries]
  constructor
  · rintro ⟨⟨obj, inj⟩, he, ⟨cls, hcls, rfl, rfl⟩ | ⟨cls, hcls, rfl, rfl⟩⟩
    · exact .inl ⟨inj, he, hcls⟩
    · exact .inr ⟨inj, he, hcls⟩
  · rintro (⟨inj, he, hb⟩ | ⟨inj, he, ha⟩)
    · exact ⟨(a, inj), he, .inl ⟨b, hb, rfl, rfl⟩⟩
    · exact ⟨(b, inj), he, .inr ⟨a, ha, rfl, rfl⟩⟩

/-- The loops of `sorted_watt_keys` make the `connect` calls of `edges`, in order. -/
theorem DependencyManager.graph_eq (m : DependencyManager α) : m.graph = connects m.edges := by
  unfold graph connects edges
  generalize (DependencyGraph.new : DependencyGraph α) = g
  induction m.injectors.entries generalizing g with
  | nil => rfl
  | cons e ents ih =>
    rw [List.foldl_cons, ih, List.flatMap_cons, List.foldl_append, List.foldl_append, List.foldl_map,
      List.foldl_map]

/-- On an acyclic graph of injectors, `sorted_watt_keys` lists the watt keys of
distinct dependencies, and what a processor wants before what it provides. -/
theorem sorted_watt_keys_orders (m : DependencyManager α) (hacyc : Acyclic m.Edge) :
    ∃ classes : List α,
      m.sorted_watt_keys = .ok (classes.filterMap fun c => (m.deps.get? c).map Dependency.watt_key) ∧
      classes.Nodup ∧ (∀ c ∈ classes, c ∈ m.deps) ∧
      ∀ obj inj, m.injectors.get? obj = some inj → ∀ w ∈ inj.wants, ∀ p ∈ inj.provides,
        w ∈ m.deps → p ∈ m.deps → ∃ pre post, classes = pre ++ p :: post ∧ w ∈ pre := by
  have hrel : (fun a b => (a, b) ∈ m.edges) = m.Edge := by
    funext a b
    exact propext DependencyManager.mem_edges
  obtain ⟨hiff, hsorted⟩ := connects_traverse m.edges
  rw [hrel] at hiff hsorted
  have hnone := hiff.mpr hacyc
  obtain ⟨hnodup, hall, htopo⟩ := hsorted hnone
  refine ⟨(connects m.edges).traverse.1.filter (· ∈ m.deps), ?_, hnodup.filter _,
    fun c hc => by simpa using (List.mem_filter.mp hc).2, ?_⟩
  · -- the keys are looked up for the dependencies among the vertices yielded
    unfold DependencyManager.sorted_watt_keys
    rw [DependencyManager.graph_eq]
    cases htr : (connects m.edges).traverse with
    | mk ys err =>
      rw [htr] at hnone
      simp only at hnone
      subst hnone
      simp only [List.filterMap_filter]
      congr 1
      apply List.filterMap_congr
      intro x _
      by_cases hx : x ∈ m.deps
      · simp [hx]
      · simp [hx, Dict.get?_eq_none.mpr hx]
  · intro obj inj hinj w hw p hp hwd hpd
    have hp_mem : p ∈ (connects m.edges).traverse.1 :=
      (hall p).mpr ⟨(obj, p), DependencyManager.mem_edges.mpr (.inl ⟨inj, hinj, hp⟩), .inr rfl⟩
    -- `obj` comes before `p`, and so does `w`, which comes before `obj`
    obtain ⟨pre, post, hsplit, hobj⟩ := htopo.before hp_mem (.inl ⟨inj, hinj, hp⟩)
    have hw_pre : w ∈ pre := htopo.prefix_closed hsplit obj hobj w (.inr ⟨inj, hinj, hw⟩)
    refine ⟨pre.filter (· ∈ m.deps), post.filter (· ∈ m.deps), ?_,
      List.mem_filter.mpr ⟨hw_pre, by simpa using hwd⟩⟩
    rw [hsplit, List.filter_append, List.filter_cons_of_pos (by simpa using hpd)]

/-- `traverse` sorts the graph of any `connect` calls: when it has no cycle,
the traversal finishes and yields each vertex once, the first end of each
pair connected before the second; when it has one, the traversal raises.
So on an acyclic graph of injectors, `sorted_watt_keys` lists the watt keys of
distinct dependencies, what a processor wants before what it provides. -/
theorem traverse_topological :
    (∀ cs : List (α × α),
      (Acyclic (fun a b => (a, b) ∈ cs) →
        (connects cs).traverse.2 = none ∧ (connects cs).traverse.1.Nodup ∧
        (∀ v, v ∈ (connects cs).traverse.1 ↔ ∃ e ∈ cs, v = e.1 ∨ v = e.2) ∧
        ∀ a b, (a, b) ∈ cs → ∃ pre post, (connects cs).traverse.1 = pre ++ b :: post ∧ a ∈ pre) ∧
      (¬Acyclic (fun a b => (a, b) ∈ cs) → (connects cs).traverse.2 ≠ none)) ∧
    ∀ m : DependencyManager α, Acyclic m.Edge →
      ∃ classes : List α,
        m.sorted_watt_keys = .ok (classes.filterMap fun c => (m.deps.get? c).map Dependency.watt_key) ∧
        classes.Nodup ∧ (∀ c ∈ classes, c ∈ m.deps) ∧
        ∀ obj inj, m.injectors.get? obj = some inj → ∀ w ∈ inj.wants, ∀ p ∈ inj.provides,
          w ∈ m.deps → p ∈ m.deps → ∃ pre post, classes = pre ++ p :: post ∧ w ∈ pre := by
  refine ⟨fun cs => ?_, sorted_watt_keys_orders⟩
  obtain ⟨hiff, hsorted⟩ := connects_traverse cs
  refine ⟨fun hacyc => ?_, fun hcyc hnone => hcyc (hiff.mp hnone)⟩
  have hnone := hiff.mpr hacyc
  obtain ⟨hnodup, hall, htopo⟩ := hsorted hnone
  refine ⟨hnone, hnodup, hall, fun a b hab => htopo.before ((hall b).mpr ⟨(a, b), hab, .inr rfl⟩) hab⟩

example : (connects [((1 : ℕ), 2), (2, 3), (1, 3)]).traverse = ([1, 2, 3], none) := by
  decide

/-- A cycle that a root leads into: the loop stops early, and the assertion fails. -/
example : (connects [((1 : ℕ), 2), (2, 1), (0, 1)]).traverse =
    ([0], some (.AssertionError "Traversal did not reach every vertex exactly once".toList)) := by
  decide

end Fetch
end Emissary

/-
# The dependency graph of the fetcher

The fetcher's processors declare which dependencies they provide and which
they want (`DependencyInjector`, fetch/dependency.py), and
`DependencyManager.sorted_watt_keys` orders the dependencies' watt keys so
that a dependency comes after what it needs: it connects each processor to
what it provides and what it wants to the processor (`DependencyGraph.connect`),
and lists the dependencies in the order `DependencyGraph.traverse` yields
them. `traverse` is Kahn's algorithm: a queue of the vertices with no edge
in, from which it yields one vertex at a time and releases the vertices whose
last edge in that was; it raises `ValueError` when no vertex is free at the
start, and `AssertionError` when edges are left at the end.

This module models the graph and the traversal, and says what a graph built
by `connect` is: the graph of its distinct edges (`DependencyGraph.WF`,
`connects_wf`), whose vertices are their ends. The traversal is sorted out in
`Emissary.DependencySort`, for every well-formed graph; it depends on the
order of neither the vertices nor the edges out of a vertex, which Python
iterates as a set.

The `in_counts[obj]` the loop reads are the counts of vertices, which every
target of an edge is; a missing key, which would raise `KeyError`, is read as
zero. `for_instance`, `want` and `provide`, which fill the injectors, are left
out: the theorems hold for every dictionary of injectors.

Key definitions: `DependencyGraph.connect`, `DependencyGraph.release`,
`DependencyGraph.traverse_loop`, `DependencyGraph.traverse`,
`DependencyManager.sorted_watt_keys`, `DependencyGraph.WF`.
Key theorems: `DependencyGraph.outOf_connect`, `DependencyGraph.inCountOf_connect`,
`DependencyGraph.connect_wf`, `connects_wf`, `DependencyGraph.release_spec`.
-/
import Emissary.Basic
import Emissary.Lib.Dict
import Emissary.Lib.Acyclic
import Mathlib

namespace Emissary
namespace Fetch

/-! ### Dependencies -/

/-- The dependencies the processors exchange. -/
inductive Dependency where
  | ServiceDependency
  | SecretDependency
  | IngressClassesDependency
  deriving DecidableEq, Repr

def Dependency.watt_key : Dependency → Key
  | .ServiceDependency => "service".toList
  | .SecretDependency => "secret".toList
  | .IngressClassesDependency => "ingressclasses".toList

/-! ### The graph -/

/-- A `DependencyGraph.Vertex`: the vertices its edges go to (a set, kept as
a list in the order it is iterated) and how many edges come in. -/
structure Vertex (α : Type) where
  out : List α
  in_count : ℤ
  deriving DecidableEq, Repr

/-- What the `defaultdict` makes for a vertex it has not seen. -/
def Vertex.empty {α : Type} : Vertex α := ⟨[], 0⟩

structure DependencyGraph (α : Type) where
  vertices : Dict α (Vertex α)

inductive TraverseError where
  | ValueError (msg : Key)
  | AssertionError (msg : Key)
  deriving DecidableEq, Repr

namespace DependencyGraph

variable {α : Type} [DecidableEq α]

def new : DependencyGraph α := ⟨∅⟩

/-- `self.vertices[k]`: the vertex at `k`, added empty if it is missing. -/
def vertex (g : DependencyGraph α) (k : α) : DependencyGraph α × Vertex α :=
  match g.vertices.get? k with
  | some v => (g, v)
  | none => (⟨g.vertices.set k Vertex.empty⟩, Vertex.empty)

/-- `connect(a, b)`: an edge from `a` to `b`, unless there is one. When
`a = b` the second lookup sees the edge the first added. -/
def connect (g : DependencyGraph α) (a b : α) : DependencyGraph α :=
  let g₁ := (g.vertex a).1
  let va := (g.vertex a).2
  if b ∉ va.out then
    let g₂ : DependencyGraph α := ⟨g₁.vertices.set a { va with out := va.out ++ [b] }⟩
    let vb := (g₂.vertex b).2
    ⟨(g₂.vertex b).1.vertices.set b { vb with in_count := vb.in_count + 1 }⟩
  else g₁

/-- `self.vertices[cur].out` of a vertex; no edges out of a missing one. -/
def outOf (g : DependencyGraph α) (v : α) : List α := ((g.vertices.get? v).getD Vertex.empty).out

/-- The `in_count` of a vertex; zero for a missing one. -/
def inCountOf (g : DependencyGraph α) (v : α) : ℤ := ((g.vertices.get? v).getD Vertex.empty).in_count

/-- The body of `for obj in self.vertices[cur].out`: `in_counts[obj] -= 1`,
and `obj` joins the queue when its count reaches zero. -/
def release : List α → List α × Dict α ℤ → List α × Dict α ℤ
  | [], acc => acc
  | obj :: out, (queue, in_counts) =>
    let in_counts := in_counts.set obj ((in_counts.get? obj).getD 0 - 1)
    release out (if (in_counts.get? obj).getD 0 = 0 then queue ++ [obj] else queue, in_counts)

/-- The `while` loop for at most `fuel` rounds: the vertices it yields and the
counts it leaves, `none` if the fuel runs out first. -/
def traverse_loop (g : DependencyGraph α) : ℕ → List α → Dict α ℤ → Option (List α × Dict α ℤ)
  | _, [], in_counts => some ([], in_counts)
  | 0, _ :: _, _ => none
  | fuel + 1, cur :: queue, in_counts =>
    let next := release (g.outOf cur) (queue, in_counts)
    (g.traverse_loop fuel next.1 next.2).map fun r => (cur :: r.1, r.2)

/-- `traverse()`: the vertices it yields, and what it raises after them, if
anything. The loop has a round for each vertex it yields, so one round per
vertex is enough (`Kahn.loop`). -/
def traverse (g : DependencyGraph α) : List α × Option TraverseError :=
  if g.vertices.entries.length = 0 then ([], none)
  else
    let in_counts := g.vertices.map Vertex.in_count
    let queue := (in_counts.entries.filter fun e => e.2 = 0).map Prod.fst
    if queue.length = 0 then ([], some (.ValueError "cyclic".toList))
    else
      match g.traverse_loop g.vertices.entries.length queue in_counts with
      | some (yielded, in_counts) =>
        (yielded,
          if in_counts.values.sum = 0 then none
          else some (.AssertionError "Traversal did not reach every vertex exactly once".toList))
      | none => ([], none)

end DependencyGraph

/-! ### The manager -/

/-- A `DependencyInjector`: what a processor wants and provides. -/
structure DependencyInjector (α : Type) where
  wants : List α
  provides : List α

/-- A `DependencyManager`: each dependency under its class, and each
processor's injector. Processors and classes are vertices of one graph. -/
structure DependencyManager (α : Type) where
  deps : Dict α Dependency
  injectors : Dict α (DependencyInjector α)

variable {α : Type} [DecidableEq α]

/-- The graph `sorted_watt_keys` builds: each processor to what it provides,
what it wants to the processor. -/
def DependencyManager.graph (m : DependencyManager α) : DependencyGraph α :=
  m.injectors.entries.foldl
    (fun g e =>
      let g := e.2.provides.foldl (fun g cls => g.connect e.1 cls) g
      e.2.wants.foldl (fun g cls => g.connect cls e.1) g)
    DependencyGraph.new

/-- `sorted_watt_keys()`: the watt keys of the dependencies, in the order the
traversal yields them; an exception of the traversal comes out of it. -/
def DependencyManager.sorted_watt_keys (m : DependencyManager α) : Except TraverseError (List Key) :=
  match m.graph.traverse with
  | (_, some err) => .error err
  | (yielded, none) => .ok (yielded.filterMap fun obj => (m.deps.get? obj).map Dependency.watt_key)

/-! ### Graphs built by `connect` -/

namespace DependencyGraph

/-- The vertex a lookup sees, empty for a missing one. -/
def view (g : DependencyGraph α) (v : α) : Vertex α := (g.vertices.get? v).getD Vertex.empty

/-- Adding an empty vertex changes no view. -/
theorem view_vertex (g : DependencyGraph α) (k v : α) : (g.vertex k).1.view v = g.view v := by
  unfold vertex view
  cases hk : g.vertices.get? k with
  | some x => rfl
  | none =>
    simp only [Dict.get?_set]
    split
    · subst_vars
      rw [hk]
      rfl
    · rfl

theorem vertex_snd (g : DependencyGraph α) (k : α) : (g.vertex k).2 = g.view k := by
  unfold vertex view
  cases g.vertices.get? k <;> rfl

theorem mem_vertex {g : DependencyGraph α} {k v : α} : v ∈ (g.vertex k).1.vertices ↔ v ∈ g.vertices ∨ v = k := by
  unfold vertex
  cases hk : g.vertices.get? k with
  | some x =>
    have : k ∈ g.vertices := Dict.mem_of_get? hk
    constructor
    · exact .inl
    · rintro (h | rfl)
      · exact h
      · exact this
  | none =>
    rw [Dict.mem_set]
    exact or_comm

theorem view_set (g : DependencyGraph α) (k : α) (x : Vertex α) (v : α) :
    (⟨g.vertices.set k x⟩ : DependencyGraph α).view v = if v = k then x else g.view v := by
  unfold view
  rw [Dict.get?_set]
  split <;> rfl

/-- What `connect` does to the views: with a new edge, `b` joins the edges
out of `a` and counts one more edge in. -/
theorem view_connect (g : DependencyGraph α) (a b v : α) :
    (g.connect a b).view v =
      if b ∈ (g.view a).out then g.view v
      else ⟨if v = a then (g.view a).out ++ [b] else (g.view v).out,
        (g.view v).in_count + if v = b then 1 else 0⟩ := by
  unfold connect
  rw [vertex_snd]
  by_cases hb : b ∈ (g.view a).out
  · rw [if_neg (not_not.mpr hb), if_pos hb, view_vertex]
  · rw [if_pos hb, if_neg hb]
    simp only [view_set, vertex_snd, view_vertex]
    -- `b` may be `a`, and `v` either of them
    by_cases hvb : v = b
    · subst hvb
      by_cases hva : v = a
      · subst hva
        simp
      · simp [hva]
    · by_cases hva : v = a
      · subst hva
        simp [hvb]
      · simp [hvb, hva]

theorem outOf_eq_view (g : DependencyGraph α) (v : α) : g.outOf v = (g.view v).out := rfl

theorem inCountOf_eq_view (g : DependencyGraph α) (v : α) : g.inCountOf v = (g.view v).in_count := rfl

/-- The edges out of a vertex after `connect a b`. -/
theorem outOf_connect (g : DependencyGraph α) (a b v : α) :
    (g.connect a b).outOf v = if v = a ∧ b ∉ g.outOf a then g.outOf a ++ [b] else g.outOf v := by
  rw [outOf_eq_view, view_connect, outOf_eq_view, outOf_eq_view]
  by_cases hb : b ∈ (g.view a).out
  · simp [hb]
  · by_cases hva : v = a
    · subst hva
      simp [hb]
    · simp [hb, hva]

/-- The count of edges into a vertex after `connect a b`. -/
theorem inCountOf_connect (g : DependencyGraph α) (a b v : α) :
    (g.connect a b).inCountOf v = g.inCountOf v + if v = b ∧ b ∉ g.outOf a then 1 else 0 := by
  rw [inCountOf_eq_view, view_connect, inCountOf_eq_view, outOf_eq_view]
  by_cases hb : b ∈ (g.view a).out
  · simp [hb]
  · simp [hb]

theorem mem_connect {g : DependencyGraph α} {a b v : α} :
    v ∈ (g.connect a b).vertices ↔ v ∈ g.vertices ∨ v = a ∨ (b ∉ g.outOf a ∧ v = b) := by
  unfold connect
  simp only [vertex_snd, ← outOf_eq_view]
  by_cases hb : b ∈ g.outOf a
  · simp only [hb, not_true_eq_false, if_false, mem_vertex, false_and, or_false]
  · simp only [hb, not_false_eq_true, if_true, Dict.mem_set, mem_vertex, true_and]
    tauto

/-- `g` is the graph of the distinct edges `es`: the edges out of a vertex
are, without repeats, the ends of its edges in `es`, the count of edges into
a vertex is the number of its edges in `es`, and the ends of an edge are
vertices. -/
structure WF (g : DependencyGraph α) (es : List (α × α)) : Prop where
  nodup : es.Nodup
  mem_outOf : ∀ a b, b ∈ g.outOf a ↔ (a, b) ∈ es
  outOf_nodup : ∀ a, (g.outOf a).Nodup
  inCountOf : ∀ v, g.inCountOf v = (es.countP fun e => e.2 = v : ℕ)
  mem_of_edge : ∀ e ∈ es, e.1 ∈ g.vertices ∧ e.2 ∈ g.vertices

theorem wf_new : (new : DependencyGraph α).WF [] where
  nodup := List.nodup_nil
  mem_outOf _ _ := by simp [new, outOf, Vertex.empty]
  outOf_nodup _ := by simp [new, outOf, Vertex.empty]
  inCountOf _ := by simp [new, inCountOf, Vertex.empty]
  mem_of_edge _ h := nomatch h

/-- `connect a b` adds the edge `(a, b)` to the graph's edges if it is new. -/
theorem connect_wf {g : DependencyGraph α} {es : List (α × α)} (h : g.WF es) (a b : α) :
    (g.connect a b).WF (if (a, b) ∈ es then es else es ++ [(a, b)]) := by
  -- `connect` removes no vertex, so the ends of the old edges stay vertices
  have hold : ∀ e ∈ es, e.1 ∈ (g.connect a b).vertices ∧ e.2 ∈ (g.connect a b).vertices := by
    intro e he
    obtain ⟨h₁, h₂⟩ := h.mem_of_edge e he
    exact ⟨mem_connect.mpr (.inl h₁), mem_connect.mpr (.inl h₂)⟩
  by_cases hab : (a, b) ∈ es
  · -- the edge is there: only `a` may be added, and it has that edge already
    have hb : b ∈ g.outOf a := (h.mem_outOf a b).mpr hab
    rw [if_pos hab]
    refine ⟨h.nodup, fun x y => ?_, fun x => ?_, fun v => ?_, hold⟩
    · rw [outOf_connect, if_neg (fun hx => hx.2 hb)]
      exact h.mem_outOf x y
    · rw [outOf_connect, if_neg (fun hx => hx.2 hb)]
      exact h.outOf_nodup x
    · rw [inCountOf_connect, if_neg (fun hx => hx.2 hb), Int.add_zero]
      exact h.inCountOf v
  · have hb : b ∉ g.outOf a := fun hb => hab ((h.mem_outOf a b).mp hb)
    rw [if_neg hab]
    refine ⟨List.nodup_append.mpr ⟨h.nodup, List.nodup_singleton _, ?_⟩, fun x y => ?_, fun x => ?_,
      fun v => ?_, fun e he => ?_⟩
    · intro e he e' he' hee'
      rw [List.mem_singleton] at he'
      subst he' hee'
      exact hab he
    · rw [outOf_connect, List.mem_append, List.mem_singleton]
      by_cases hxa : x = a
      · subst hxa
        simp [hb, h.mem_outOf]
      · simp [hxa, h.mem_outOf]
    · rw [outOf_connect]
      split
      · exact List.nodup_append.mpr ⟨h.outOf_nodup a, List.nodup_singleton _,
          fun y hy z hz hyz => by rw [List.mem_singleton] at hz; subst hz hyz; exact hb hy⟩
      · exact h.outOf_nodup x
    · rw [inCountOf_connect, h.inCountOf v, List.countP_append]
      by_cases hvb : v = b
      · subst hvb
        simp [hb]
      · simp [hvb, Ne.symm hvb]
    · rw [List.mem_append, List.mem_singleton] at he
      rcases he with he | rfl
      · exact hold e he
      · exact ⟨mem_connect.mpr (.inr (.inl rfl)), mem_connect.mpr (.inr (.inr ⟨hb, rfl⟩))⟩

end DependencyGraph

/-- The graph of a sequence of `connect(a, b)` calls. -/
def connects (cs : List (α × α)) : DependencyGraph α :=
  cs.foldl (fun g e => g.connect e.1 e.2) DependencyGraph.new

/-- **A graph built by `connect` is well formed**, with one edge for each
distinct pair connected, and its vertices are the ends of those pairs. -/
theorem connects_wf (cs : List (α × α)) :
    ∃ es, (connects cs).WF es ∧ (∀ e, e ∈ es ↔ e ∈ cs) ∧
      ∀ v, v ∈ (connects cs).vertices ↔ ∃ e ∈ cs, v = e.1 ∨ v = e.2 := by
  induction cs using List.reverseRecOn with
  | nil => exact ⟨[], DependencyGraph.wf_new, by simp, by simp [connects, DependencyGraph.new]⟩
  | append_singleton cs e ih =>
    obtain ⟨es, hwf, hes, hmem⟩ := ih
    have hstep : connects (cs ++ [e]) = (connects cs).connect e.1 e.2 := by
      simp [connects, List.foldl_append]
    refine ⟨if (e.1, e.2) ∈ es then es else es ++ [(e.1, e.2)], ?_, fun e' => ?_, fun v => ?_⟩
    · rw [hstep]
      exact DependencyGraph.connect_wf hwf e.1 e.2
    · split <;> simp_all
    · rw [hstep, DependencyGraph.mem_connect, hmem]
      constructor
      · rintro (⟨e', he', hv⟩ | rfl | ⟨-, rfl⟩)
        · exact ⟨e', List.mem_append_left _ he', hv⟩
        · exact ⟨e, by simp, .inl rfl⟩
        · exact ⟨e, by simp, .inr rfl⟩
      · rintro ⟨e', he', hv⟩
        rw [List.mem_append, List.mem_singleton] at he'
        rcases he' with he' | rfl
        · exact .inl ⟨e', he', hv⟩
        · rcases hv with rfl | rfl
          · exact .inr (.inl rfl)
          · by_cases hb : e'.2 ∈ (connects cs).outOf e'.1
            · -- the edge is there, so its end is a vertex already
              have := (hwf.mem_of_edge _ ((hwf.mem_outOf _ _).mp hb)).2
              exact .inl ((hmem _).mp this)
            · exact .inr (.inr ⟨hb, rfl⟩)

end Fetch
end Emissary

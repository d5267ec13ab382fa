/-
# Acyclic relations and topological orders

An edge relation `r` (`r a b`: an edge from `a` to `b`) is acyclic when no
element reaches itself along its edges (`Acyclic`). A list is a topological
order of `r` when the predecessors of each of its elements stand before it
(`TopoOrder`, a `Trace.ForallPrefix`).

Two facts join the notions, and a sorting algorithm needs both: a nonempty
finite set in which every element has a predecessor in the set holds a
cycle (`exists_cycle_of_forall_pred`), so a sort that gets stuck on such a
set has met a cycle; and no element of a topological order lies on a cycle
(`TopoOrder.not_transGen_self`), so a sort that lists every element has
shown that there is none.

Key definitions: `Topo.Acyclic`, `Topo.TopoOrder`.
Key theorems: `Topo.exists_cycle_of_forall_pred`, `Topo.TopoOrder.not_transGen_self`,
`Topo.TopoOrder.before`.
-/
import Emissary.Lib.Trace
import Mathlib.Data.Fintype.Card
import Mathlib.Data.Set.Finite.Basic
import Mathlib.Logic.Relation

namespace Topo

open Relation Trace

universe u

variable {α : Type u} (r : α → α → Prop)

/-- No element reaches itself along the edges. -/
def Acyclic : Prop := ∀ a, ¬TransGen r a a

/-- Every predecessor of an element stands before it. -/
def TopoOrder (l : List α) : Prop := ForallPrefix (fun pre x => ∀ a, r a x → a ∈ pre) l

variable {r}

theorem topoOrder_nil : TopoOrder r [] := forallPrefix_nil

theorem topoOrder_append_singleton {l : List α} {x : α} :
    TopoOrder r (l ++ [x]) ↔ TopoOrder r l ∧ ∀ a, r a x → a ∈ l :=
  forallPrefix_append_singleton

/-- A predecessor of an element of a topological order stands before it. -/
theorem TopoOrder.before {l : List α} (h : TopoOrder r l) {a b : α} (hb : b ∈ l) (hab : r a b) :
    ∃ pre post, l = pre ++ b :: post ∧ a ∈ pre := by
  obtain ⟨pre, post, hl, hpre⟩ := h.of_mem hb
  exact ⟨pre, post, hl, hpre a hab⟩

/-- Whatever reaches an element of a set closed under predecessors is in it. -/
theorem mem_of_transGen {S : α → Prop} (hS : ∀ x, S x → ∀ a, r a x → S a) {a c : α}
    (h : TransGen r a c) (hc : S c) : S a := by
  induction h with
  | single hac => exact hS _ hc _ hac
  | tail _ hbc ih => exact ih (hS _ hc _ hbc)

/-- The part of a topological order before an element is closed under predecessors. -/
theorem TopoOrder.prefix_closed {l pre post : List α} {y : α} (h : TopoOrder r l)
    (hl : l = pre ++ y :: post) : ∀ x, x ∈ pre → ∀ a, r a x → a ∈ pre := by
  intro x hx a hax
  obtain ⟨p₁, p₂, rfl⟩ := List.append_of_mem hx
  have := h p₁ x (p₂ ++ y :: post) (by rw [hl]; simp)
  exact List.mem_append_left _ (this a hax)

/-- **No element of a topological order lies on a cycle.** Cut the order at
the element's first place: the edge into it along the cycle comes from before
that place, and everything that reaches that edge stands before it too. -/
theorem TopoOrder.not_transGen_self [DecidableEq α] {l : List α} (h : TopoOrder r l) {a : α}
    (ha : a ∈ l) : ¬TransGen r a a := by
  intro hcyc
  obtain ⟨pre, post, hfirst, hl, -⟩ := List.exists_erase_eq ha
  have hclosed := h.prefix_closed hl
  -- the cycle's last edge `b → a` comes from before `a`
  obtain ⟨b, hab, hba⟩ := TransGen.tail'_iff.mp hcyc
  have hb : b ∈ pre := h pre a post hl b hba
  have : a ∈ pre := by
    rcases reflTransGen_iff_eq_or_transGen.mp hab with rfl | hab'
    · exact hb
    · exact mem_of_transGen (S := (· ∈ pre)) hclosed hab' hb
  exact hfirst this

/-- **A finite set in which every element has a predecessor holds a cycle.**
Were there none, reaching would be a strict order on the set, well founded
since the set is finite, and a least element would have no predecessor. -/
theorem exists_cycle_of_forall_pred {R : List α} (hne : R ≠ [])
    (hpred : ∀ x ∈ R, ∃ y ∈ R, r y x) : ∃ a, TransGen r a a := by
  by_contra hcyc
  have hacyc : ∀ a, ¬TransGen r a a := fun a h => hcyc ⟨a, h⟩
  have : Finite {x // x ∈ R} := (List.finite_toSet R).to_subtype
  have : IsTrans {x // x ∈ R} (fun x y => TransGen r x.1 y.1) := ⟨fun _ _ _ hxy hyz => hxy.trans hyz⟩
  have : Std.Irrefl (fun x y : {x // x ∈ R} => TransGen r x.1 y.1) := ⟨fun x => hacyc x.1⟩
  have hwf := Finite.wellFounded_of_trans_of_irrefl (fun x y : {x // x ∈ R} => TransGen r x.1 y.1)
  obtain ⟨x₀, hx₀⟩ := List.exists_mem_of_ne_nil R hne
  -- along the well-founded order, every element has a predecessor, so none exists
  refine hwf.induction (C := fun _ => False) ⟨x₀, hx₀⟩ ?_
  intro x ih
  obtain ⟨y, hy, hyx⟩ := hpred x.1 x.2
  exact ih ⟨y, hy⟩ (TransGen.single hyx)

end Topo

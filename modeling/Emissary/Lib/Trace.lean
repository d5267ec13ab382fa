/-
# Properties of every element against what came before it

A run that grows at its end (the observations of a loop, the vertices a
traversal has yielded so far) is often judged element by element, each
against the part of the run before it: a push against the arrivals and the
pushes before it, a vertex against the vertices yielded before it.
`ForallPrefix P l` says that `P pre x` holds at every split
`l = pre ++ x :: post`. It holds of the empty list and grows one element at
a time (`forallPrefix_append_singleton`), so a loop that appends proves it
with one lemma per step; every split of `l ++ [y]` is a split of `l` or ends
at `y` (`split_append_singleton`). Dually, `ExistsPrefix P l` says that some
split has `P pre x`: an event that happened once, judged against the run
before it. `lastSome f l` is the last value `f` gives along `l`, with the
number of elements after it: what a loop that remembers the latest sighting
and ages it at every other step holds (`lastSome_eq_some_iff`).

Key definitions: `Trace.ForallPrefix`, `Trace.ExistsPrefix`, `Trace.lastSome`.
Key theorems: `Trace.split_append_singleton`, `Trace.forallPrefix_append_singleton`,
`Trace.existsPrefix_append_singleton`, `Trace.lastSome_eq_some_iff`.
-/
import Mathlib.Data.List.Basic
import Mathlib.Data.List.Induction

namespace Trace

universe u

variable {α : Type u}

/-- A split of `l ++ [y]` around one element: the element is `y`, with all of
`l` before it, or it stands in `l`. -/
theorem split_append_singleton {l pre post : List α} {x y : α} (h : l ++ [y] = pre ++ x :: post) :
    (pre = l ∧ x = y ∧ post = []) ∨ ∃ post', post = post' ++ [y] ∧ l = pre ++ x :: post' := by
  rcases List.eq_nil_or_concat post with rfl | ⟨post', z, rfl⟩
  · obtain ⟨h1, h2⟩ := List.append_inj' h rfl
    exact Or.inl ⟨h1.symm, (List.singleton_inj.1 h2).symm, rfl⟩
  · have h' : l ++ [y] = (pre ++ x :: post') ++ [z] := by simpa using h
    obtain ⟨h1, h2⟩ := List.append_inj' h' rfl
    obtain rfl := List.singleton_inj.1 h2
    exact Or.inr ⟨post', by simp, h1⟩

/-- `P pre x` at every split `l = pre ++ x :: post`. -/
def ForallPrefix (P : List α → α → Prop) (l : List α) : Prop :=
  ∀ pre x post, l = pre ++ x :: post → P pre x

variable {P : List α → α → Prop}

theorem forallPrefix_nil : ForallPrefix P [] := by
  intro pre x post h
  exact absurd h.symm (by simp)

theorem forallPrefix_append_singleton {l : List α} {y : α} :
    ForallPrefix P (l ++ [y]) ↔ ForallPrefix P l ∧ P l y := by
  constructor
  · intro h
    exact ⟨fun pre x post hl => h pre x (post ++ [y]) (by rw [hl]; simp), h l y [] rfl⟩
  · rintro ⟨hl, hy⟩ pre x post h
    rcases split_append_singleton h with ⟨rfl, rfl, rfl⟩ | ⟨post', rfl, h'⟩
    · exact hy
    · exact hl pre x post' h'

/-- What holds of each element with its prefix holds of the whole list's
prefix at any element of it. -/
theorem ForallPrefix.of_mem {l : List α} (h : ForallPrefix P l) {x : α} (hx : x ∈ l) :
    ∃ pre post, l = pre ++ x :: post ∧ P pre x := by
  obtain ⟨pre, post, hl⟩ := List.append_of_mem hx
  exact ⟨pre, post, hl, h pre x post hl⟩

theorem ForallPrefix.mono {Q : List α → α → Prop} (hPQ : ∀ pre x, P pre x → Q pre x) {l : List α}
    (h : ForallPrefix P l) : ForallPrefix Q l :=
  fun pre x post hl => hPQ pre x (h pre x post hl)

/-- `P pre x` at some split `l = pre ++ x :: post`. -/
def ExistsPrefix (P : List α → α → Prop) (l : List α) : Prop :=
  ∃ pre x post, l = pre ++ x :: post ∧ P pre x

theorem not_existsPrefix_nil : ¬ExistsPrefix P [] := by
  rintro ⟨pre, x, post, h, -⟩
  exact absurd h.symm (by simp)

theorem existsPrefix_append_singleton {l : List α} {y : α} :
    ExistsPrefix P (l ++ [y]) ↔ ExistsPrefix P l ∨ P l y := by
  constructor
  · rintro ⟨pre, x, post, h, hp⟩
    rcases split_append_singleton h with ⟨rfl, rfl, rfl⟩ | ⟨post', rfl, h'⟩
    · exact Or.inr hp
    · exact Or.inl ⟨pre, x, post', h', hp⟩
  · rintro (⟨pre, x, post, rfl, hp⟩ | hy)
    · exact ⟨pre, x, post ++ [y], by simp, hp⟩
    · exact ⟨l, y, [], rfl, hy⟩

/-! ### The latest sighting -/

section LastSome

variable {β : Type*} (f : α → Option β)

/-- The last value `f` gives along the list, and how many elements follow it. -/
def lastSome (l : List α) : Option (β × ℕ) :=
  l.foldl (fun acc x => match f x with
    | some b => some (b, 0)
    | none => acc.map fun p => (p.1, p.2 + 1)) none

@[simp] theorem lastSome_nil : lastSome f [] = none := rfl

theorem lastSome_append_singleton (l : List α) (x : α) :
    lastSome f (l ++ [x]) = match f x with
      | some b => some (b, 0)
      | none => (lastSome f l).map fun p => (p.1, p.2 + 1) := by
  simp [lastSome, List.foldl_append]

/-- The last sighting is at the split where `f` gives a value and nothing after
it does; the count is the length of what follows. -/
theorem lastSome_eq_some_iff {l : List α} {b : β} {k : ℕ} :
    lastSome f l = some (b, k) ↔
      ∃ pre x post, l = pre ++ x :: post ∧ f x = some b ∧ (∀ y ∈ post, f y = none) ∧ post.length = k := by
  induction l using List.reverseRecOn generalizing k with
  | nil =>
    simp only [lastSome_nil, reduceCtorEq, false_iff, not_exists, not_and]
    intro pre x post h
    exact absurd h.symm (by simp)
  | append_singleton l y ih =>
    rw [lastSome_append_singleton]
    constructor
    · cases hy : f y with
      | some c =>
        -- `y` itself is the last sighting, with nothing after it
        rintro ⟨⟩
        exact ⟨l, y, [], rfl, hy, by simp, rfl⟩
      | none =>
        intro h
        obtain ⟨⟨b', k'⟩, hl, hbk⟩ := Option.map_eq_some_iff.1 h
        obtain ⟨rfl, rfl⟩ := Prod.mk.inj hbk
        obtain ⟨pre, x, post, rfl, hx, hpost, rfl⟩ := ih.1 hl
        refine ⟨pre, x, post ++ [y], by simp, hx, ?_, by simp⟩
        intro z hz
        rcases List.mem_append.1 hz with hz | hz
        · exact hpost z hz
        · rw [List.mem_singleton.1 hz, hy]
    · rintro ⟨pre, x, post, h, hx, hpost, rfl⟩
      rcases split_append_singleton h with ⟨rfl, rfl, rfl⟩ | ⟨post', rfl, h'⟩
      · simp [hx]
      · have hy : f y = none := hpost y (by simp)
        have hl : lastSome f l = some (b, post'.length) :=
          ih.2 ⟨pre, x, post', h', hx, fun z hz => hpost z (by simp [hz]), rfl⟩
        simp [hy, hl]

end LastSome

end Trace

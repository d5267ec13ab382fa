/-
# Python loops that may raise, and `round` of a quotient

Two pieces of Python's meaning that a model of Python code keeps meeting.

A `for x in xs:` loop whose body updates some locals or raises (or returns
early with an error) is `xs.foldlM body s` in `Except`: the locals after the
loop, or the first error. Its invariant rule (`foldlM_invariant`) is the usual
one: what holds of the locals after the elements done so far, and is kept by
one pass of the body, holds when the loop ends normally. A loop ends normally
when no pass raises (`foldlM_ok`), and an error it raises is one a pass of
the body raised (`foldlM_eq_error`). A loop that assigns a variable on some
elements and `continue`s on the others leaves it at the last assignment
(`foldl_or_eq_getLast?`).

`round(m / d)` on ints, for `d > 0`, is the nearest integer to `m / d`, and of
two equally near the even one (`roundDiv`), computed from the floor quotient
and the remainder as Python's `//` and `%` give them.

Key definitions: `roundDiv`.
Key theorems: `foldlM_invariant`, `foldlM_ok`, `foldlM_eq_error`, `foldl_or_eq_getLast?`,
`roundDiv_nonneg`.
-/
import Mathlib.Data.Int.Init
import Mathlib.Tactic.SplitIfs

universe u v w

namespace Python

/-! ### `for` loops in `Except` -/

section Loop

variable {α : Type u} {σ : Type v} {ε : Type w}

theorem bind_eq_ok {β : Type v} {x : Except ε β} {f : β → Except ε σ} {s : σ} :
    x >>= f = .ok s ↔ ∃ b, x = .ok b ∧ f b = .ok s := by
  cases x with
  | error e => simp [bind, Except.bind]
  | ok b => simp [bind, Except.bind]

variable {f : σ → α → Except ε σ}

/-- The invariant rule of a loop that may raise: `P done s` holds of the
locals `s` after the elements `done`, for elements satisfying `Q`. -/
theorem foldlM_invariant (Q : α → Prop) (P : List α → σ → Prop)
    (step : ∀ done x s s', Q x → P done s → f s x = .ok s' → P (done ++ [x]) s') :
    ∀ {xs : List α} (done : List α) {s s' : σ}, (∀ x ∈ xs, Q x) → P done s → xs.foldlM f s = .ok s' →
      P (done ++ xs) s'
  | [], done, s, s', _, hP, h => by
    have hs : s = s' := by simpa [pure, Except.pure] using h
    simpa [hs] using hP
  | x :: xs, done, s, s', hQ, hP, h => by
    rw [List.foldlM_cons] at h
    obtain ⟨s₁, h₁, hrest⟩ := bind_eq_ok.mp h
    have hP₁ : P (done ++ [x]) s₁ := step done x s s₁ (hQ x List.mem_cons_self) hP h₁
    have hQ' : ∀ y ∈ xs, Q y := fun y hy => hQ y (List.mem_cons_of_mem x hy)
    simpa using foldlM_invariant Q P step (done ++ [x]) hQ' hP₁ hrest

/-- A loop whose body never raises ends normally. -/
theorem foldlM_ok (Q : α → Prop) (hf : ∀ x s, Q x → ∃ s', f s x = .ok s') :
    ∀ {xs : List α} (s : σ), (∀ x ∈ xs, Q x) → ∃ s', xs.foldlM f s = .ok s'
  | [], s, _ => ⟨s, rfl⟩
  | x :: xs, s, hQ => by
    obtain ⟨s₁, h₁⟩ := hf x s (hQ x List.mem_cons_self)
    obtain ⟨s', h'⟩ := foldlM_ok Q hf s₁ fun y hy => hQ y (List.mem_cons_of_mem x hy)
    exact ⟨s', by rw [List.foldlM_cons, h₁]; exact h'⟩

/-- A loop that raises raised in one pass of its body. -/
theorem foldlM_eq_error {e : ε} : ∀ {xs : List α} {s : σ}, xs.foldlM f s = .error e →
    ∃ x ∈ xs, ∃ s', f s' x = .error e
  | [], s, h => by simp [pure, Except.pure] at h
  | x :: xs, s, h => by
    rw [List.foldlM_cons] at h
    cases h₁ : f s x with
    | error e' =>
      have he : e' = e := by simpa [h₁, bind, Except.bind] using h
      exact ⟨x, List.mem_cons_self, s, he ▸ h₁⟩
    | ok s₁ =>
      have hrest : xs.foldlM f s₁ = .error e := by simpa [h₁, bind, Except.bind] using h
      obtain ⟨y, hy, s', h'⟩ := foldlM_eq_error hrest
      exact ⟨y, List.mem_cons_of_mem x hy, s', h'⟩

end Loop

/-! ### Loops that overwrite a variable -/

section Overwrite

variable {α : Type u} {β : Type v}

/-- `for x in xs:` with a body that assigns `v = g(x)` when `g x` is `some`,
and `continue`s otherwise: the last assignment wins. -/
theorem foldl_or_eq_getLast? (g : α → Option β) :
    ∀ (xs : List α) (init : Option β),
      xs.foldl (fun v x => (g x).or v) init = ((xs.filterMap g).getLast?).or init
  | [], _ => rfl
  | x :: xs, init => by
    rw [List.foldl_cons, foldl_or_eq_getLast? g xs, List.filterMap_cons]
    cases hx : g x with
    | none => rfl
    | some b =>
      rw [List.getLast?_cons]
      cases (xs.filterMap g).getLast? <;> rfl

end Overwrite

/-! ### `round(m / d)` -/

/-- Python's `round(m / d)` for ints `m` and `d > 0`: the floor quotient, one
more when the remainder is over half of `d`, and on a tie whichever of the
two is even. -/
def roundDiv (m : ℤ) (d : ℕ) : ℤ :=
  if 2 * (m % d) < d then m / d
  else if (d : ℤ) < 2 * (m % d) then m / d + 1
  else if (m / d) % 2 = 0 then m / d
  else m / d + 1

theorem roundDiv_nonneg {m : ℤ} (d : ℕ) (hm : 0 ≤ m) : 0 ≤ roundDiv m d := by
  have hq : 0 ≤ m / d := Int.ediv_nonneg hm (Int.natCast_nonneg d)
  unfold roundDiv
  split_ifs <;> omega

end Python

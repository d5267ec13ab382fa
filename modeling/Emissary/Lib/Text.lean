/-
# Text operations on names and URLs

Strings are lists of characters. This module has the text operations that
Python and Go code applies to service names, schemes and generated names,
each with the lemmas the proofs about such code use.

* Lower-casing (`lower`). Python's `str.lower()` and Go's `strings.ToLower`
  lower every letter; the code compares the result only with ASCII words
  (`https://`, `x-forwarded-proto`), and no character other than an ASCII
  letter lowers to one of their letters, so lowering ASCII letters is what
  those comparisons see. A case-insensitive prefix test is `p <+: lower s`,
  and the string then splits as its first `p.length` characters and the rest
  (`take_append_drop_of_prefix_lower`). Upper-casing (`upper`) serves hex
  digests, whose length it keeps.
* Splitting at a separator: a part without the separator, then the
  separator, is told apart from the rest (`append_cons_cancel_of_not_mem`),
  and so is a part without it after the last one
  (`append_cons_cancel_of_not_mem_right`).
* Replacing every character outside a class (`scrub`): Python's
  `re.sub(r"[^...]", r, s)`. What it leaves is in the class or the
  replacement (`mem_scrub`).
* Decimal numerals (`Nat.toDigits 10`, Python's `str(n)` and `"%d"`): one
  numeral per number (`toDigits_ten_injective`), no longer than `k` below
  `10 ^ k` (`length_toDigits_ten_le`). Python's `str` of an integer puts `-`
  in front of a negative one (`intStr`).

Key definitions: `Text.lower`, `Text.upper`, `Text.scrub`, `Text.intStr`.
Key theorems: `Text.take_append_drop_of_prefix_lower`, `Text.append_cons_cancel_of_not_mem`,
`Text.mem_scrub`, `Text.toDigits_ten_injective`.
-/
import Mathlib.Data.Nat.Digits.Defs
import Mathlib.Data.List.Infix

namespace Text

/-! ### Lower and upper case -/

/-- Every ASCII letter lower-cased. -/
def lower (s : List Char) : List Char := s.map Char.toLower

@[simp] theorem lower_nil : lower [] = [] := rfl

@[simp] theorem lower_append (a b : List Char) : lower (a ++ b) = lower a ++ lower b :=
  List.map_append

@[simp] theorem length_lower (s : List Char) : (lower s).length = s.length := List.length_map _

theorem lower_take (n : ℕ) (s : List Char) : lower (s.take n) = (lower s).take n := List.map_take

/-- Python's `str.upper()` on ASCII text. -/
def upper (s : List Char) : List Char := s.map Char.toUpper

@[simp] theorem length_upper (s : List Char) : (upper s).length = s.length := List.length_map _

/-- A string whose lower case starts with `p` is its first `p.length`
characters, which lower to `p`, and the rest. -/
theorem take_append_drop_of_prefix_lower {p s : List Char} (h : p <+: lower s) :
    lower (s.take p.length) = p ∧ s.take p.length ++ s.drop p.length = s := by
  refine ⟨?_, List.take_append_drop _ _⟩
  rw [lower_take]
  exact (List.prefix_iff_eq_take.mp h).symm

/-- A string that starts with some casing of `p` has a lower case that starts
with `p`. -/
theorem prefix_lower_append {p x : List Char} (a : List Char) (ha : lower a = p) :
    p <+: lower (a ++ x) := by
  rw [lower_append, ha]
  exact List.prefix_append _ _

/-! ### Splitting at a separator -/

/-- Two strings that each start with a separator-free part and then the
separator split the same way. -/
theorem append_cons_cancel_of_not_mem {a : Char} :
    ∀ {x₁ x₂ z₁ z₂ : List Char}, a ∉ x₁ → a ∉ x₂ → x₁ ++ a :: z₁ = x₂ ++ a :: z₂ → x₁ = x₂ ∧ z₁ = z₂
  | [], [], _, _, _, _, h => ⟨rfl, (List.cons.inj h).2⟩
  | [], b :: _, _, _, _, h₂, h => absurd ((List.cons.inj h).1 ▸ List.mem_cons_self) h₂
  | b :: _, [], _, _, h₁, _, h => absurd ((List.cons.inj h).1.symm ▸ List.mem_cons_self) h₁
  | b :: x₁, c :: x₂, _, _, h₁, h₂, h => by
    obtain ⟨hbc, h'⟩ := List.cons.inj h
    obtain ⟨hx, hz⟩ := append_cons_cancel_of_not_mem (List.not_mem_of_not_mem_cons h₁)
      (List.not_mem_of_not_mem_cons h₂) h'
    exact ⟨by rw [hbc, hx], hz⟩

/-- Two strings that each end in the separator and then a separator-free part
split the same way: Python's `f"{a}.{b}"` with `b` free of dots. -/
theorem append_cons_cancel_of_not_mem_right {a : Char} {x₁ x₂ z₁ z₂ : List Char}
    (h₁ : a ∉ z₁) (h₂ : a ∉ z₂) (h : x₁ ++ a :: z₁ = x₂ ++ a :: z₂) : x₁ = x₂ ∧ z₁ = z₂ := by
  -- read both strings backwards: the separator-free part now comes first
  have hrev : z₁.reverse ++ a :: x₁.reverse = z₂.reverse ++ a :: x₂.reverse := by
    simpa using congrArg List.reverse h
  obtain ⟨hz, hx⟩ := append_cons_cancel_of_not_mem (by simpa using h₁) (by simpa using h₂) hrev
  exact ⟨List.reverse_injective hx, List.reverse_injective hz⟩

/-! ### Replacing the characters outside a class -/

/-- Python's `re.sub(r"[^...]", r, s)`: every character for which `keep` fails
becomes `r`. -/
def scrub (keep : Char → Bool) (r : Char) (s : List Char) : List Char :=
  s.map fun c => if keep c then c else r

/-- What `scrub` leaves is kept or the replacement. -/
theorem mem_scrub {keep : Char → Bool} {r c : Char} {s : List Char} (h : c ∈ scrub keep r s) :
    keep c = true ∨ c = r := by
  obtain ⟨d, -, rfl⟩ := List.mem_map.mp h
  by_cases hd : keep d = true
  · rw [if_pos hd]
    exact Or.inl hd
  · rw [if_neg hd]
    exact Or.inr rfl

/-! ### Decimal numerals -/

/-- A decimal numeral names one number. -/
theorem toDigits_ten_injective : Function.Injective (Nat.toDigits 10) := by
  intro m n h
  calc m = Nat.ofDigitChars 10 (Nat.toDigits 10 m) 0 := Nat.ofDigitChars_ten_toDigits.symm
    _ = Nat.ofDigitChars 10 (Nat.toDigits 10 n) 0 := by rw [h]
    _ = n := Nat.ofDigitChars_ten_toDigits

theorem length_toDigits_ten_le {n k : ℕ} (hk : 0 < k) (h : n < 10 ^ k) :
    (Nat.toDigits 10 n).length ≤ k :=
  (Nat.length_toDigits_le_iff (by decide) hk).mpr h

/-- Python's `str(i)` of an integer. -/
def intStr (i : ℤ) : List Char :=
  if i < 0 then '-' :: Nat.toDigits 10 i.natAbs else Nat.toDigits 10 i.natAbs

end Text

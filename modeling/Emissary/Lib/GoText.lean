/-
# Go's strings and strconv on character lists

The functions of Go's standard library that a program reads text with:
`strings.TrimSuffix`, `strings.Fields`, which cuts at runs of
`unicode.IsSpace`, and `strconv.ParseUint` in base 10 for 64 bits. A string is
its list of characters, so `strings.Split(s, "\n")` is `List.splitOn`.

`ParseUint` accepts exactly the non-empty strings of decimal digits whose
value fits in 64 bits, and returns that value (`ParseUint_eq_ok_iff`); so it
reads back the decimal numeral of every such number (`ParseUint_toDigits`),
and every error it returns names the function and the whole input
(`ParseUint_error`). A word, a blank and a second word are two fields
(`Fields_append_space`).

Key definitions: `GoText.Fields`, `GoText.ParseUint`.
Key theorems: `GoText.ParseUint_eq_ok_iff`, `GoText.ParseUint_toDigits`,
`GoText.Fields_append_space`.
-/
import Mathlib

namespace GoText

/-- `strings.TrimSuffix`. -/
def TrimSuffix (s suffix : List Char) : List Char :=
  if suffix <:+ s then s.take (s.length - suffix.length) else s

/-- A string without the character is its own `TrimSuffix`. -/
theorem TrimSuffix_of_not_mem {s : List Char} {c : Char} (h : c ∉ s) : TrimSuffix s [c] = s := by
  unfold TrimSuffix
  rw [if_neg]
  intro hs
  exact h (hs.subset (List.mem_singleton_self c))

/-- `unicode.IsSpace`: in Latin-1 the blanks `\t \n \v \f \r`, space, NEL and
NBSP; beyond it the other characters of Unicode's `White_Space`. -/
def isSpace (c : Char) : Bool :=
  if c.toNat ≤ 0xFF then
    decide (c = '\t' ∨ c = '\n' ∨ c = '\x0b' ∨ c = '\x0c' ∨ c = '\r' ∨ c = ' ' ∨
      c.toNat = 0x85 ∨ c.toNat = 0xA0)
  else
    decide (c.toNat = 0x1680 ∨ (0x2000 ≤ c.toNat ∧ c.toNat ≤ 0x200A) ∨ c.toNat = 0x2028 ∨
      c.toNat = 0x2029 ∨ c.toNat = 0x202F ∨ c.toNat = 0x205F ∨ c.toNat = 0x3000)

/-- `strings.Fields`: the non-empty runs between blanks. -/
def Fields (s : List Char) : List (List Char) :=
  (s.splitOnP isSpace).filter fun f => !f.isEmpty

@[simp] theorem Fields_nil : Fields [] = [] := rfl

/-- A word, a blank and a second word are two fields. -/
theorem Fields_append_space {a b : List Char} (ha : a ≠ []) (hb : b ≠ [])
    (ha' : ∀ c ∈ a, isSpace c = false) (hb' : ∀ c ∈ b, isSpace c = false) :
    Fields (a ++ ' ' :: b) = [a, b] := by
  unfold Fields
  rw [List.splitOnP_append_cons_of_forall_mem ha' ' ' rfl, List.splitOnP_eq_singleton hb']
  simp [ha, hb]

theorem toNat_of_isDigit {c : Char} (h : c.isDigit = true) : 48 ≤ c.toNat ∧ c.toNat ≤ 57 :=
  Char.isDigit_iff_toNat.1 h

/-- A decimal digit is not a blank. -/
theorem isSpace_of_isDigit {c : Char} (h : c.isDigit = true) : isSpace c = false := by
  have h' := toNat_of_isDigit h
  have hne : ∀ d : Char, d.toNat < 48 ∨ 57 < d.toNat → c ≠ d := by
    rintro d hd rfl
    omega
  simp only [isSpace, if_pos (show c.toNat ≤ 0xFF by omega), decide_eq_false_iff_not]
  rintro (h1 | h1 | h1 | h1 | h1 | h1 | h1 | h1)
  all_goals first
    | exact hne _ (by decide) h1
    | omega

/-! ### `strconv.ParseUint` -/

/-- `strconv.ErrSyntax` and `strconv.ErrRange`. -/
inductive NumErr where
  | ErrSyntax
  | ErrRange
  deriving DecidableEq, Repr

/-- `strconv.NumError`: the function, its input and what went wrong. -/
structure NumError where
  Func : List Char
  Num : List Char
  Err : NumErr
  deriving DecidableEq, Repr

/-- `maxUint64`, which is also `ParseUint`'s `maxVal` for 64 bits. -/
def maxUint64 : ℕ := 2 ^ 64 - 1

/-- The loop of `ParseUint(s0, 10, 64)` over the characters still to read,
from the value `n` of those before. A letter is a digit of value ten or more,
too large for the base, so it is a syntax error as any other non-digit is. -/
def parseUintLoop (s0 : List Char) : ℕ → List Char → Except NumError ℕ
  | n, [] => .ok n
  | n, c :: cs =>
    if c.isDigit then
      -- `cutoff`: `n * 10` would overflow
      if n ≥ maxUint64 / 10 + 1 then .error ⟨"ParseUint".toList, s0, .ErrRange⟩
      else
        -- `n1 := n*10 + d` in uint64 arithmetic, checked for wrapping around
        let n1 := (n * 10 + (c.toNat - '0'.toNat)) % 2 ^ 64
        if n1 < n * 10 ∨ n1 > maxUint64 then .error ⟨"ParseUint".toList, s0, .ErrRange⟩
        else parseUintLoop s0 n1 cs
    else .error ⟨"ParseUint".toList, s0, .ErrSyntax⟩

/-- `strconv.ParseUint(s, 10, 64)`. -/
def ParseUint (s : List Char) : Except NumError ℕ :=
  if s = [] then .error ⟨"ParseUint".toList, s, .ErrSyntax⟩ else parseUintLoop s 0 s

theorem le_ofDigitChars (cs : List Char) (n : ℕ) : n ≤ Nat.ofDigitChars 10 cs n := by
  rw [Nat.ofDigitChars_eq_ofDigitChars_zero]
  exact Nat.le_add_right_of_le (Nat.le_mul_of_pos_left n (Nat.pow_pos (by decide)))

/-- The loop accepts exactly digit strings whose value, read on from `n`,
fits in 64 bits, and returns that value. -/
theorem parseUintLoop_eq_ok_iff (s0 : List Char) :
    ∀ (cs : List Char) (n m : ℕ), n ≤ maxUint64 →
      (parseUintLoop s0 n cs = .ok m ↔
        (∀ c ∈ cs, c.isDigit = true) ∧ Nat.ofDigitChars 10 cs n = m ∧ m ≤ maxUint64)
  | [], n, m, hn => by
    simp only [parseUintLoop, Except.ok.injEq, List.not_mem_nil, false_implies, implies_true,
      Nat.ofDigitChars_nil, true_and]
    constructor
    · rintro rfl
      exact ⟨rfl, hn⟩
    · rintro ⟨rfl, -⟩
      rfl
  | c :: cs, n, m, hn => by
    have hmono := le_ofDigitChars cs (10 * n + (c.toNat - '0'.toNat))
    simp only [parseUintLoop, List.mem_cons, forall_eq_or_imp, Nat.ofDigitChars_cons]
    by_cases hc : c.isDigit = true
    · rw [if_pos hc]
      have h0 : '0'.toNat = 48 := rfl
      have hd : c.toNat - '0'.toNat < 10 := by
        have := toNat_of_isDigit hc
        omega
      by_cases hcut : n ≥ maxUint64 / 10 + 1
      · -- the next multiplication overflows: the value is too large anyway
        rw [if_pos hcut]
        simp only [reduceCtorEq, false_iff, not_and]
        intro _ hm hle
        simp only [maxUint64] at hcut hle
        omega
      · rw [if_neg hcut]
        simp only [maxUint64] at hcut hn
        by_cases hfit : n * 10 + (c.toNat - '0'.toNat) < 2 ^ 64
        · rw [Nat.mod_eq_of_lt hfit, if_neg (by simp only [maxUint64]; omega),
            parseUintLoop_eq_ok_iff s0 cs _ m (by simp only [maxUint64]; omega), Nat.mul_comm n 10]
          simp [hc]
        · -- `n*10 + d` wraps around: the value is too large
          rw [if_pos (Or.inl (by omega))]
          simp only [reduceCtorEq, false_iff, not_and]
          intro _ hm hle
          simp only [maxUint64] at hle
          omega
    · rw [if_neg hc]
      simp [hc]

/-- **What `ParseUint` accepts.** Exactly the non-empty strings of decimal
digits whose value fits in 64 bits; it returns that value. -/
theorem ParseUint_eq_ok_iff (s : List Char) (m : ℕ) :
    ParseUint s = .ok m ↔
      s ≠ [] ∧ (∀ c ∈ s, c.isDigit = true) ∧ Nat.ofDigitChars 10 s 0 = m ∧ m ≤ maxUint64 := by
  unfold ParseUint
  by_cases hs : s = []
  · simp [hs]
  · rw [if_neg hs, parseUintLoop_eq_ok_iff s s 0 m (by simp [maxUint64])]
    simp [hs]

/-- `ParseUint` reads back the decimal numeral of any 64-bit number. -/
theorem ParseUint_toDigits {v : ℕ} (hv : v ≤ maxUint64) : ParseUint (Nat.toDigits 10 v) = .ok v :=
  (ParseUint_eq_ok_iff _ v).2
    ⟨Nat.toDigits_ne_nil, fun _ hc => Nat.isDigit_of_mem_toDigits (by decide) (by decide) hc,
      Nat.ofDigitChars_toDigits (by decide) (by decide), hv⟩

theorem parseUintLoop_error (s0 : List Char) :
    ∀ (cs : List Char) (n : ℕ) (e : NumError), parseUintLoop s0 n cs = .error e →
      e.Func = "ParseUint".toList ∧ e.Num = s0
  | [], n, e, h => by simp [parseUintLoop] at h
  | c :: cs, n, e, h => by
    simp only [parseUintLoop] at h
    split_ifs at h
    all_goals first
      | (cases h; exact ⟨rfl, rfl⟩)
      | exact parseUintLoop_error s0 cs _ e h

/-- Every error of `ParseUint` names the function and its whole input. -/
theorem ParseUint_error {s : List Char} {e : NumError} (h : ParseUint s = .error e) :
    e.Func = "ParseUint".toList ∧ e.Num = s := by
  unfold ParseUint at h
  split_ifs at h
  · cases h
    exact ⟨rfl, rfl⟩
  · exact parseUintLoop_error s s 0 e h

end GoText

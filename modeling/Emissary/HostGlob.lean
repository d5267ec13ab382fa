/-
# Host globs: `hostglob_matches` decides compatibility

`hostglob_matches(g1, g2)` (irutils.py) says whether some hostname matches
both DNS globs. A glob of the kind the code expects is non-empty, does not
start with `.`, and has at most one `*`, which is the whole glob or its first
or last character; so it is one of four shapes (`Shape`): `*`, a glob with a
leading `*` (`*s`), one with a trailing `*` (`p*`) or an exact name. `*` matches every hostname, `*s`
the names `x ++ s` and `p*` the names `p ++ x` with `x` non-empty, and an
exact name only itself; hostnames have no `*` and do not start with `.`.

On shapes compatibility is decidable by comparing the fixed parts
(`Shape.compat`, proved right in `compat_iff`). The code computes exactly that
(`hostglob_matches_glob`), through the swap of the longer and the shorter
part in its two helpers and their checks that a wildcard cannot match the
empty string. So on the globs it expects, `hostglob_matches` returns and says
whether a common hostname exists, and it is symmetric.

Python strings are lists of characters; `g[1:]` is `drop 1`, `g[:-1]` is
`dropLast`, `a.endswith(b)` is `b.isSuffixOf a` and `a.startswith(b)` is
`b.isPrefixOf a`. `g[0]` on an empty string raises, which the model returns
as `none`.

Key definitions: `hostglob_matches`, `Shape`, `Shape.compat`.
Key theorems: `Shape.compat_iff`, `hostglob_matches_glob`.
-/
import Mathlib.Data.List.Infix
import Mathlib.Data.List.Count

namespace Emissary
namespace HostGlob

/-! ### The code -/

/-- `hostglob_matches_start`: `g1` starts with `*` and `g2` does not end with one. -/
def hostglob_matches_start (g1 g2 : List Char) (g2start : Bool) : Bool :=
  let g1match := g1.drop 1
  let g2match := if g2start then g2.drop 1 else g2
  if g1.length > g2match.length then
    if !g2start then false
    else
      -- Wildcards for both: the substring match goes against the longer one.
      let g1match := g2.drop 1
      let g2match := g1.drop 1
      g1match.isSuffixOf g2match
  else g1match.isSuffixOf g2match

/-- `hostglob_matches_end`: `g1` ends with `*` and `g2` does not start with one. -/
def hostglob_matches_end (g1 g2 : List Char) (g2end : Bool) : Bool :=
  let g1match := g1.dropLast
  let g2match := if g2end then g2.dropLast else g2
  if g1.length > g2match.length then
    if !g2end then false
    else
      let g1match := g2.dropLast
      let g2match := g1.dropLast
      g1match.isPrefixOf g2match
  else g1match.isPrefixOf g2match

/-- `hostglob_matches(g1, g2)`; `none` where `g1[0]` or `g2[0]` raises. -/
def hostglob_matches (g1 g2 : List Char) : Option Bool :=
  if g1 = g2 then some true
  else if g1 = ['*'] ∨ g2 = ['*'] then some true
  else match g1.head? with
    | none => none
    | some c1 =>
      if c1 = '.' then some false
      else match g2.head? with
        | none => none
        | some c2 =>
          if c2 = '.' then some false
          else
            let g1start := decide (c1 = '*')
            let g1end := decide (g1.getLast? = some '*')
            let g2start := decide (c2 = '*')
            let g2end := decide (g2.getLast? = some '*')
            if (g1start && g1end) || (g2start && g2end) then some (decide (g1 = g2))
            else if !(g1start || g1end || g2start || g2end) then some false
            else if (g1start && g2end) || (g2start && g1end) then some true
            else if g1start then some (hostglob_matches_start g1 g2 g2start)
            else if g2start then some (hostglob_matches_start g2 g1 g1start)
            else if g1end then some (hostglob_matches_end g1 g2 g2end)
            else if g2end then some (hostglob_matches_end g2 g1 g1end)
            else some false

/-! ### The helpers on the shapes they are called with -/

theorem matches_start_exact (s l : List Char) :
    hostglob_matches_start ('*' :: s) l false = (s.isSuffixOf l && decide (s.length < l.length)) := by
  unfold hostglob_matches_start
  by_cases h : s.length < l.length
  · have hle : ¬ (s.length + 1 > l.length) := by omega
    simp [h, hle]
  · have hgt : s.length + 1 > l.length := by omega
    simp [h, hgt]

theorem matches_start_leading (s t : List Char) :
    hostglob_matches_start ('*' :: s) ('*' :: t) true = (s.isSuffixOf t || t.isSuffixOf s) := by
  unfold hostglob_matches_start
  by_cases h : t.length ≤ s.length
  · have hgt : s.length + 1 > t.length := by omega
    simp only [List.drop_succ_cons, List.drop_zero, if_true, List.length_cons, gt_iff_lt,
      Bool.not_true, Bool.false_eq_true, if_false]
    rw [if_pos hgt]
    -- `s` is the longer part: it is a suffix of `t` only when the two are equal.
    by_cases hs : s <:+ t
    · have heq : s = t := hs.eq_of_length (Nat.le_antisymm hs.length_le h)
      subst heq
      simp
    · simp [hs]
  · have hle : ¬ (s.length + 1 > t.length) := by omega
    simp only [List.drop_succ_cons, List.drop_zero, if_true, List.length_cons]
    rw [if_neg hle]
    have ht : ¬ t <:+ s := fun ht => h ht.length_le
    simp [ht]

theorem matches_end_exact (p l : List Char) :
    hostglob_matches_end (p ++ ['*']) l false = (p.isPrefixOf l && decide (p.length < l.length)) := by
  unfold hostglob_matches_end
  by_cases h : p.length < l.length
  · have hle : ¬ (p.length + 1 > l.length) := by omega
    simp [h, hle]
  · have hgt : p.length + 1 > l.length := by omega
    simp [h, hgt]

theorem matches_end_trailing (p q : List Char) :
    hostglob_matches_end (p ++ ['*']) (q ++ ['*']) true = (p.isPrefixOf q || q.isPrefixOf p) := by
  unfold hostglob_matches_end
  by_cases h : q.length ≤ p.length
  · have hgt : p.length + 1 > q.length := by omega
    simp only [List.dropLast_concat, if_true, List.length_append, List.length_singleton,
      Bool.not_true, Bool.false_eq_true, if_false]
    rw [if_pos hgt]
    by_cases hp : p <+: q
    · have heq : p = q := hp.eq_of_length (Nat.le_antisymm hp.length_le h)
      subst heq
      simp
    · simp [hp]
  · have hle : ¬ (p.length + 1 > q.length) := by omega
    simp only [List.dropLast_concat, if_true, List.length_append, List.length_singleton]
    rw [if_neg hle]
    have hq : ¬ q <+: p := fun hq => h hq.length_le
    simp [hq]

/-! ### Globs, hostnames and what a glob matches -/

/-- A hostname: non-empty, without `*`, not starting with `.`. -/
structure Host (h : List Char) : Prop where
  ne_nil : h ≠ []
  no_star : '*' ∉ h
  not_dot : h.head? ≠ some '.'

/-- The globs the code expects: non-empty, not starting with `.`, with at most
one `*`, and that one the first or the last character (or the whole glob). -/
structure Valid (g : List Char) : Prop where
  ne_nil : g ≠ []
  not_dot : g.head? ≠ some '.'
  one_star : g.count '*' ≤ 1
  star_edge : '*' ∈ g → g.head? = some '*' ∨ g.getLast? = some '*'

/-- What a glob matches: `*` every hostname, `*s` the names `x ++ s` and `p*`
the names `p ++ x` with `x` non-empty, a glob without `*` only itself. -/
def Matches (g h : List Char) : Prop :=
  g = ['*'] ∨
  (g ≠ ['*'] ∧ g.head? = some '*' ∧ ∃ x, x ≠ [] ∧ h = x ++ g.tail) ∨
  (g ≠ ['*'] ∧ g.getLast? = some '*' ∧ ∃ x, x ≠ [] ∧ h = g.dropLast ++ x) ∨
  ('*' ∉ g ∧ h = g)

/-- The four shapes of a valid glob: `*`, `*s`, `p*` and an exact name. -/
inductive Shape
  | any
  | leading (s : List Char)
  | trailing (p : List Char)
  | exact (l : List Char)
  deriving DecidableEq

namespace Shape

/-- The glob of a shape. -/
def glob : Shape → List Char
  | any => ['*']
  | leading s => '*' :: s
  | trailing p => p ++ ['*']
  | exact l => l

/-- The fixed parts a valid glob can have. -/
def Wf : Shape → Prop
  | any => True
  | leading s => s ≠ [] ∧ '*' ∉ s
  | trailing p => p ≠ [] ∧ '*' ∉ p ∧ p.head? ≠ some '.'
  | exact l => Host l

/-- What a shape matches. -/
def Matches : Shape → List Char → Prop
  | any, _ => True
  | leading s, h => ∃ x, x ≠ [] ∧ h = x ++ s
  | trailing p, h => ∃ x, x ≠ [] ∧ h = p ++ x
  | exact l, h => h = l

/-- Two shapes are compatible when a hostname matches both. -/
def Compatible (S T : Shape) : Prop := ∃ h, Host h ∧ S.Matches h ∧ T.Matches h

/-- Compatibility, decided on the fixed parts. -/
def compat : Shape → Shape → Bool
  | any, _ => true
  | _, any => true
  | leading s, leading t => s.isSuffixOf t || t.isSuffixOf s
  | leading _, trailing _ => true
  | trailing _, leading _ => true
  | leading s, exact l => s.isSuffixOf l && decide (s.length < l.length)
  | exact l, leading s => s.isSuffixOf l && decide (s.length < l.length)
  | trailing p, trailing q => p.isPrefixOf q || q.isPrefixOf p
  | trailing p, exact l => p.isPrefixOf l && decide (p.length < l.length)
  | exact l, trailing p => p.isPrefixOf l && decide (p.length < l.length)
  | exact l, exact m => decide (l = m)

/-- Whether the glob starts with `*`. -/
def starts : Shape → Bool
  | any => true
  | leading _ => true
  | _ => false

/-- Whether the glob ends with `*`. -/
def ends : Shape → Bool
  | any => true
  | trailing _ => true
  | _ => false

theorem compat_comm : ∀ S T : Shape, S.compat T = T.compat S
  | any, any | any, leading _ | any, trailing _ | any, exact _ => rfl
  | leading _, any | trailing _, any | exact _, any => rfl
  | leading s, leading t => Bool.or_comm _ _
  | leading _, trailing _ | trailing _, leading _ => rfl
  | leading _, exact _ | exact _, leading _ => rfl
  | trailing p, trailing q => Bool.or_comm _ _
  | trailing _, exact _ | exact _, trailing _ => rfl
  | exact l, exact m => by simp [compat, eq_comm]

theorem compat_self : ∀ S : Shape, S.compat S = true
  | any => rfl
  | leading s => by simp [compat]
  | trailing p => by simp [compat]
  | exact l => by simp [compat]

theorem Compatible.symm {S T : Shape} (h : S.Compatible T) : T.Compatible S := by
  obtain ⟨x, hx, hS, hT⟩ := h
  exact ⟨x, hx, hT, hS⟩

end Shape

/-! ### The glob of a shape -/

theorem not_mem_of_count {g : List Char} (h : ('*' :: g).count '*' ≤ 1) : '*' ∉ g := by
  rw [List.count_cons_self] at h
  exact List.count_eq_zero.mp (by omega)

theorem ne_star_of_not_mem {g : List Char} {c : Char} (hg : '*' ∉ g) (hc : g.head? = some c) : c ≠ '*' := by
  rintro rfl
  exact hg (List.mem_of_mem_head? hc)

theorem getLast?_ne_star {g : List Char} (hg : '*' ∉ g) : g.getLast? ≠ some '*' :=
  fun h => hg (List.mem_of_getLast? h)

/-- Every valid glob is the glob of a well-formed shape. -/
theorem Valid.shape {g : List Char} (hg : Valid g) : ∃ S : Shape, S.Wf ∧ S.glob = g := by
  obtain ⟨hne, hdot, hone, hedge⟩ := hg
  by_cases hstar : '*' ∈ g
  · rcases hedge hstar with hhead | hlast
    · -- A leading `*`: the glob is `*` or `*s`.
      obtain ⟨s, rfl⟩ : ∃ s, g = '*' :: s := by
        cases g with
        | nil => exact absurd rfl hne
        | cons c s =>
          simp only [List.head?_cons, Option.some.injEq] at hhead
          exact ⟨s, by rw [hhead]⟩
      by_cases hs : s = []
      · exact ⟨.any, trivial, by rw [hs]; rfl⟩
      · exact ⟨.leading s, ⟨hs, not_mem_of_count hone⟩, rfl⟩
    · -- A trailing `*` that is not leading: the glob is `p*`.
      obtain ⟨p, rfl⟩ : ∃ p, g = p ++ ['*'] :=
        ⟨g.dropLast, (List.dropLast_append_getLast? '*' hlast).symm⟩
      by_cases hp : p = []
      · exact ⟨.any, trivial, by rw [hp]; rfl⟩
      · have hcount : p.count '*' = 0 := by
          rw [List.count_append, List.count_singleton_self] at hone
          omega
        have hhead : (p ++ ['*']).head? = p.head? := List.head?_append_of_ne_nil _ hp
        exact ⟨.trailing p, ⟨hp, List.count_eq_zero.mp hcount, hhead ▸ hdot⟩, rfl⟩
  · exact ⟨.exact g, ⟨hne, hstar, hdot⟩, rfl⟩

namespace Shape

theorem Wf.ne_any_star {S : Shape} (hS : S.Wf) (hany : S ≠ any) : S.glob ≠ ['*'] := by
  cases S with
  | any => exact absurd rfl hany
  | leading s => simpa [glob] using hS.1
  | trailing p =>
    intro h
    have : p = [] := by simpa [glob] using h
    exact hS.1 this
  | exact l =>
    intro h
    exact hS.no_star (by simp [glob] at h; simp [h])

/-- The first character of a glob other than `*`: not `.`, and `*` exactly
when the glob has a leading `*`. -/
theorem Wf.head {S : Shape} (hS : S.Wf) (hany : S ≠ any) :
    ∃ c, S.glob.head? = some c ∧ c ≠ '.' ∧ decide (c = '*') = S.starts := by
  cases S with
  | any => exact absurd rfl hany
  | leading s => exact ⟨'*', rfl, by decide, by simp [starts]⟩
  | trailing p =>
    obtain ⟨hp, hstar, hdot⟩ := hS
    obtain ⟨c, hc⟩ := Option.ne_none_iff_exists'.mp (mt List.head?_eq_none_iff.mp hp)
    have hhead : (p ++ ['*']).head? = some c := (List.head?_append_of_ne_nil _ hp).trans hc
    exact ⟨c, hhead, fun h => hdot (h ▸ hc), by simp [starts, ne_star_of_not_mem hstar hc]⟩
  | exact l =>
    obtain ⟨hl, hstar, hdot⟩ := hS
    obtain ⟨c, hc⟩ := Option.ne_none_iff_exists'.mp (mt List.head?_eq_none_iff.mp hl)
    exact ⟨c, hc, fun h => hdot (h ▸ hc), by simp [starts, ne_star_of_not_mem hstar hc]⟩

/-- The last character is `*` exactly when the glob has a trailing `*`. -/
theorem Wf.last {S : Shape} (hS : S.Wf) : decide (S.glob.getLast? = some '*') = S.ends := by
  cases S with
  | any => rfl
  | leading s =>
    have hlast : ('*' :: s).getLast? = s.getLast? := by
      cases s with
      | nil => exact absurd rfl hS.1
      | cons c s => rfl
    simp [glob, ends, hlast, getLast?_ne_star hS.2]
  | trailing p => simp [glob, ends]
  | exact l => simp [glob, ends, getLast?_ne_star hS.no_star]

/-- Where the `*` of a glob stands, if it has one. -/
theorem Wf.star_mem {S : Shape} (hS : S.Wf) : '*' ∈ S.glob ↔ S ≠ exact S.glob := by
  cases S with
  | any => simp [glob]
  | leading s => simp [glob]
  | trailing p => simp [glob]
  | exact l => simpa [glob] using hS.no_star

/-- A glob with its `*` at the front is not one with its `*` at the back. -/
theorem leading_ne_trailing {s p : List Char} (hp : p ≠ []) (hstar : '*' ∉ p) : '*' :: s ≠ p ++ ['*'] := by
  intro h
  cases p with
  | nil => exact hp rfl
  | cons c p =>
    have hc : '*' = c := (List.cons.inj h).1
    exact hstar (hc ▸ List.mem_cons_self)

theorem glob_inj {S T : Shape} (hS : S.Wf) (hT : T.Wf) (h : S.glob = T.glob) : S = T := by
  -- An exact name has no `*` and every other glob has one; the others differ
  -- in where it stands.
  by_cases hSe : ∃ l, S = exact l
  · obtain ⟨l, rfl⟩ := hSe
    by_cases hTe : ∃ m, T = exact m
    · obtain ⟨m, rfl⟩ := hTe
      simpa [glob] using h
    · have hmem : '*' ∈ T.glob := (hT.star_mem).mpr fun he => hTe ⟨_, he⟩
      exact absurd (h ▸ hmem) (hS.star_mem.not.mpr (by simp [glob]))
  by_cases hTe : ∃ m, T = exact m
  · obtain ⟨m, rfl⟩ := hTe
    have hmem : '*' ∈ S.glob := (hS.star_mem).mpr fun he => hSe ⟨_, he⟩
    exact absurd (h ▸ hmem) (hT.star_mem.not.mpr (by simp [glob]))
  cases S with
  | exact l => exact absurd ⟨l, rfl⟩ hSe
  | any =>
    cases T with
    | any => rfl
    | leading t => exact absurd (List.cons.inj h).2.symm hT.1
    | trailing q =>
      have : [] ++ ['*'] = q ++ ['*'] := h
      exact absurd (List.append_cancel_right this).symm hT.1
    | exact m => exact absurd ⟨m, rfl⟩ hTe
  | leading s =>
    cases T with
    | any => exact absurd (List.cons.inj h).2 hS.1
    | leading t => rw [(List.cons.inj h).2]
    | trailing q => exact absurd h (leading_ne_trailing hT.1 hT.2.1)
    | exact m => exact absurd ⟨m, rfl⟩ hTe
  | trailing p =>
    cases T with
    | any =>
      have : p ++ ['*'] = [] ++ ['*'] := h
      exact absurd (List.append_cancel_right this) hS.1
    | leading t => exact absurd h.symm (leading_ne_trailing hS.1 hS.2.1)
    | trailing q => rw [List.append_cancel_right (h : p ++ ['*'] = q ++ ['*'])]
    | exact m => exact absurd ⟨m, rfl⟩ hTe

/-- A shape matches what its glob matches. -/
theorem matches_glob {S : Shape} (hS : S.Wf) (h : List Char) : HostGlob.Matches S.glob h ↔ S.Matches h := by
  cases S with
  | any => simp [HostGlob.Matches, glob, Shape.Matches]
  | leading s =>
    have hne : '*' :: s ≠ ['*'] := by simpa using hS.1
    have hlast : ('*' :: s).getLast? ≠ some '*' := of_decide_eq_false hS.last
    simp [HostGlob.Matches, glob, Shape.Matches, hne, hlast]
  | trailing p =>
    have hne : p ++ ['*'] ≠ ['*'] := fun h => hS.1 (by simpa using h)
    obtain ⟨c, hpc⟩ := Option.ne_none_iff_exists'.mp (mt List.head?_eq_none_iff.mp hS.1)
    have hc : c ≠ '*' := ne_star_of_not_mem hS.2.1 hpc
    simp [HostGlob.Matches, glob, Shape.Matches, hne, hpc, hc]
  | exact l =>
    have hne : l ≠ ['*'] := fun h => hS.no_star (by simp [h])
    have hhead : l.head? ≠ some '*' := fun h => hS.no_star (List.mem_of_mem_head? h)
    have hlast : l.getLast? ≠ some '*' := getLast?_ne_star hS.no_star
    simp only [HostGlob.Matches, glob, Shape.Matches, hne, hhead, hlast, hS.no_star, false_or,
      false_and, and_false, not_false_eq_true, true_and]

/-! ### Compatibility -/

theorem host_cons {s : List Char} (hs : '*' ∉ s) : Host ('a' :: s) :=
  ⟨List.cons_ne_nil _ _, by simpa using hs, by simp⟩

theorem host_append {p x : List Char} (hp : p ≠ []) (hps : '*' ∉ p) (hpd : p.head? ≠ some '.')
    (hx : '*' ∉ x) : Host (p ++ x) :=
  ⟨by simp [hp], by simp [hps, hx], by rwa [List.head?_append_of_ne_nil _ hp]⟩

/-- Every well-formed shape matches some hostname. -/
theorem Wf.exists_host {S : Shape} (hS : S.Wf) : ∃ h, Host h ∧ S.Matches h := by
  cases S with
  | any => exact ⟨['a'], host_cons (by simp), trivial⟩
  | leading s => exact ⟨'a' :: s, host_cons hS.2, ['a'], by simp, rfl⟩
  | trailing p => exact ⟨p ++ ['a'], host_append hS.1 hS.2.1 hS.2.2 (by simp), ['a'], by simp, rfl⟩
  | exact l => exact ⟨l, hS, rfl⟩

theorem compatible_any {T : Shape} (hT : T.Wf) : any.Compatible T := by
  obtain ⟨h, hh, hm⟩ := hT.exists_host
  exact ⟨h, hh, trivial, hm⟩

theorem compat_leading_leading {s t : List Char} (hs : (leading s).Wf) (ht : (leading t).Wf) :
    (leading s).compat (leading t) = true ↔ (leading s).Compatible (leading t) := by
  simp only [compat, Bool.or_eq_true, List.isSuffixOf_iff_suffix]
  constructor
  · -- The hostname `a` followed by the longer part matches both.
    rintro (⟨y, rfl⟩ | ⟨y, rfl⟩)
    · exact ⟨'a' :: (y ++ s), host_cons ht.2, ⟨'a' :: y, by simp, rfl⟩, ⟨['a'], by simp, rfl⟩⟩
    · exact ⟨'a' :: (y ++ t), host_cons hs.2, ⟨['a'], by simp, rfl⟩, ⟨'a' :: y, by simp, rfl⟩⟩
  · rintro ⟨h, -, ⟨x, -, rfl⟩, ⟨y, -, hy⟩⟩
    exact List.suffix_or_suffix_of_suffix (List.suffix_append x s) (hy ▸ List.suffix_append y t)

theorem compat_leading_trailing {s p : List Char} (hs : (leading s).Wf) (hp : (trailing p).Wf) :
    (leading s).compat (trailing p) = true ↔ (leading s).Compatible (trailing p) := by
  refine ⟨fun _ => ?_, fun _ => rfl⟩
  -- `p`, a filler and `s`: the filler keeps both wildcards non-empty.
  refine ⟨p ++ 'a' :: s, host_append hp.1 hp.2.1 hp.2.2 (by simpa using hs.2), ⟨p ++ ['a'], by simp, by simp⟩,
    ⟨'a' :: s, by simp, rfl⟩⟩

theorem compat_leading_exact {s l : List Char} (hl : (exact l).Wf) :
    (leading s).compat (exact l) = true ↔ (leading s).Compatible (exact l) := by
  simp only [compat, Bool.and_eq_true, List.isSuffixOf_iff_suffix, decide_eq_true_eq]
  constructor
  · rintro ⟨⟨y, rfl⟩, hlen⟩
    have hy : y ≠ [] := by
      rintro rfl
      simp at hlen
    exact ⟨y ++ s, hl, ⟨y, hy, rfl⟩, rfl⟩
  · rintro ⟨h, -, ⟨x, hx, rfl⟩, rfl⟩
    refine ⟨List.suffix_append x s, ?_⟩
    have : 0 < x.length := List.length_pos_iff.mpr hx
    simp only [List.length_append]
    omega

theorem compat_trailing_trailing {p q : List Char} (hp : (trailing p).Wf) (hq : (trailing q).Wf) :
    (trailing p).compat (trailing q) = true ↔ (trailing p).Compatible (trailing q) := by
  simp only [compat, Bool.or_eq_true, List.isPrefixOf_iff_prefix]
  constructor
  · rintro (⟨y, rfl⟩ | ⟨y, rfl⟩)
    · exact ⟨p ++ y ++ ['a'], host_append hq.1 hq.2.1 hq.2.2 (by simp),
        ⟨y ++ ['a'], by simp, by simp⟩, ⟨['a'], by simp, rfl⟩⟩
    · exact ⟨q ++ y ++ ['a'], host_append hp.1 hp.2.1 hp.2.2 (by simp),
        ⟨['a'], by simp, rfl⟩, ⟨y ++ ['a'], by simp, by simp⟩⟩
  · rintro ⟨h, -, ⟨x, -, rfl⟩, ⟨y, -, hy⟩⟩
    exact List.prefix_or_prefix_of_prefix (List.prefix_append p x) (hy ▸ List.prefix_append q y)

theorem compat_trailing_exact {p l : List Char} (hl : (exact l).Wf) :
    (trailing p).compat (exact l) = true ↔ (trailing p).Compatible (exact l) := by
  simp only [compat, Bool.and_eq_true, List.isPrefixOf_iff_prefix, decide_eq_true_eq]
  constructor
  · rintro ⟨⟨y, rfl⟩, hlen⟩
    have hy : y ≠ [] := by
      rintro rfl
      simp at hlen
    exact ⟨p ++ y, hl, ⟨y, hy, rfl⟩, rfl⟩
  · rintro ⟨h, -, ⟨x, hx, rfl⟩, rfl⟩
    refine ⟨List.prefix_append p x, ?_⟩
    have : 0 < x.length := List.length_pos_iff.mpr hx
    simp only [List.length_append]
    omega

theorem compat_exact_exact {l m : List Char} (hl : (exact l).Wf) :
    (exact l).compat (exact m) = true ↔ (exact l).Compatible (exact m) := by
  simp only [compat, decide_eq_true_eq]
  constructor
  · rintro rfl
    exact ⟨l, hl, rfl, rfl⟩
  · rintro ⟨h, -, rfl, rfl⟩
    rfl

/-- `compat` decides whether two well-formed shapes share a hostname. -/
theorem compat_iff {S T : Shape} (hS : S.Wf) (hT : T.Wf) : S.compat T = true ↔ S.Compatible T := by
  -- A mirrored pair is the pair the other way round.
  have mirror : ∀ {U V : Shape}, (V.compat U = true ↔ V.Compatible U) →
      (U.compat V = true ↔ U.Compatible V) := fun h =>
    ⟨fun hc => (h.mp (compat_comm _ _ ▸ hc)).symm, fun hc => compat_comm _ _ ▸ h.mpr hc.symm⟩
  cases S with
  | any => exact ⟨fun _ => compatible_any hT, fun _ => rfl⟩
  | leading s =>
    cases T with
    | any => exact ⟨fun _ => (compatible_any hS).symm, fun _ => rfl⟩
    | leading t => exact compat_leading_leading hS hT
    | trailing q => exact compat_leading_trailing hS hT
    | exact m => exact compat_leading_exact hT
  | trailing p =>
    cases T with
    | any => exact ⟨fun _ => (compatible_any hS).symm, fun _ => rfl⟩
    | leading t => exact mirror (compat_leading_trailing hT hS)
    | trailing q => exact compat_trailing_trailing hS hT
    | exact m => exact compat_trailing_exact hT
  | exact l =>
    cases T with
    | any => exact ⟨fun _ => (compatible_any hS).symm, fun _ => rfl⟩
    | leading t => exact mirror (compat_leading_exact hS)
    | trailing q => exact mirror (compat_trailing_exact hS)
    | exact m => exact compat_exact_exact hS

end Shape

/-! ### The code computes `compat` -/

open Shape in
/-- On the globs of two well-formed shapes, `hostglob_matches` returns `compat`. -/
theorem hostglob_matches_glob {S T : Shape} (hS : S.Wf) (hT : T.Wf) :
    hostglob_matches S.glob T.glob = some (S.compat T) := by
  by_cases heq : S = T
  · subst heq
    simp [hostglob_matches, compat_self]
  have hne : S.glob ≠ T.glob := fun h => heq (glob_inj hS hT h)
  -- A lone `*` on either side is answered before the flags are read.
  by_cases hSa : S = any
  · subst hSa
    simp [hostglob_matches, glob, compat]
  by_cases hTa : T = any
  · subst hTa
    have hc : S.compat any = true := by cases S <;> rfl
    simp [hostglob_matches, glob, hc]
  obtain ⟨c1, hc1, hd1, hs1⟩ := hS.head hSa
  obtain ⟨c2, hc2, hd2, hs2⟩ := hT.head hTa
  unfold hostglob_matches
  rw [if_neg hne, if_neg (not_or.mpr ⟨hS.ne_any_star hSa, hT.ne_any_star hTa⟩)]
  simp only [hc1, hd1, hc2, hd2, if_false, hs1, hs2, hS.last, hT.last]
  -- The flags now are `starts` and `ends` of the shapes: one case per pair.
  cases S with
  | any => exact absurd rfl hSa
  | leading s =>
    cases T with
    | any => exact absurd rfl hTa
    | leading t => simp [starts, ends, glob, compat, matches_start_leading]
    | trailing q => simp [starts, ends, compat]
    | exact m => simp [starts, ends, glob, compat, matches_start_exact]
  | trailing p =>
    cases T with
    | any => exact absurd rfl hTa
    | leading t => simp [starts, ends, compat]
    | trailing q => simp [starts, ends, glob, compat, matches_end_trailing]
    | exact m => simp [starts, ends, glob, compat, matches_end_exact]
  | exact l =>
    cases T with
    | any => exact absurd rfl hTa
    | leading t => simp [starts, ends, glob, compat, matches_start_exact]
    | trailing q => simp [starts, ends, glob, compat, matches_end_exact]
    | exact m =>
      have hlm : l ≠ m := fun h => heq (h ▸ rfl)
      simp [starts, ends, compat, hlm]

/-- `hostglob_matches` on two valid globs returns, says whether a hostname
matches both, and gives the same answer with the globs swapped. -/
theorem hostglob_matches_decides_compatibility {g1 g2 : List Char} (h1 : Valid g1) (h2 : Valid g2) :
    ∃ b, hostglob_matches g1 g2 = some b ∧
      (b = true ↔ ∃ h, Host h ∧ Matches g1 h ∧ Matches g2 h) ∧
      hostglob_matches g2 g1 = some b := by
  obtain ⟨S, hS, rfl⟩ := h1.shape
  obtain ⟨T, hT, rfl⟩ := h2.shape
  refine ⟨S.compat T, hostglob_matches_glob hS hT, ?_, ?_⟩
  · rw [Shape.compat_iff hS hT]
    unfold Shape.Compatible
    simp only [Shape.matches_glob hS, Shape.matches_glob hT]
  · rw [hostglob_matches_glob hT hS, Shape.compat_comm]

theorem hostglob_matches_decides_compatibility_wildcard :
    Valid "*.example.com".toList ∧ Valid "foo.example.com".toList ∧
      hostglob_matches "*.example.com".toList "foo.example.com".toList = some true ∧
      ∃ b, hostglob_matches "*.example.com".toList "foo.example.com".toList = some b ∧
        (b = true ↔ ∃ h, Host h ∧ Matches "*.example.com".toList h ∧ Matches "foo.example.com".toList h) ∧
        hostglob_matches "foo.example.com".toList "*.example.com".toList = some b := by
  have h1 : Valid "*.example.com".toList := ⟨by decide, by decide, by decide, fun _ => by decide⟩
  have h2 : Valid "foo.example.com".toList := ⟨by decide, by decide, by decide, fun h => absurd h (by decide)⟩
  exact ⟨h1, h2, by decide, hostglob_matches_decides_compatibility h1 h2⟩

end HostGlob
end Emissary

/-
# What a `FilteredUpdate` shows, when no two queries share an object

A `FilteredUpdate` with predicate `p` should leave in the snapshot, under
each query, exactly the objects of the field that `p` keeps, and hand out a
delta for every object that changed since the previous call, a deletion
exactly when the object is gone (`Shows`). The accumulator re-runs `p` only
on objects with a delta and remembers its verdicts in `excluded`, keyed by
UID and shared by all fields; so the snapshot is right only if the
remembered verdicts are.

They are when every object belongs to one query (`owner`): a field's watch
and the client's writes it admits only carry objects of that query, as when
each query watches its own kind. Objects are taken as the cluster has them at
their resource version (`FromWorld`), so that one UID and resource version
are one object. Then `FieldOK` holds of each field between calls, relative to
what the last call showed: its deltas say which objects changed
(`FieldOK.settled`), a deletion exactly when the object is gone, and the
remembered verdicts and the snapshot match what was shown. Informer events
and writes keep it (`Inv.watch`, `Inv.write`); a `FilteredUpdate` patches each
field (`patchWatch_ok`), hands its deltas out and writes it
(`PassOK.updateField`), and leaves every field shown as it now is
(`Inv.filteredUpdate`). Over a whole run from a fresh accumulator, every
`FilteredUpdate` `Shows` (`filteredUpdate_shows_of_run`).

When two queries do share an object, one query's deletion clears a verdict
the other still needs, and the other then shows an object `p` rejects
(`filteredUpdate_shows_rejected`).

Key definitions: `FieldOK`, `Inv`, `Shows`.
Key theorems: `patchWatch_ok`, `PassOK.updateField`, `Inv.filteredUpdate`,
`filteredUpdate_shows_of_run`.
-/
import Emissary.Kates

namespace Emissary

namespace Kates

section Invariant

variable (p : Unstructured → Bool) (owner : Key → Key) (world : Key → ℕ → Unstructured)

/-- An object as the cluster has it at its resource version. -/
def FromWorld (u : Unstructured) : Prop := u = world (unKey u) u.resourceVersion

instance (u : Unstructured) : Decidable (FromWorld world u) :=
  inferInstanceAs (Decidable (u = world (unKey u) u.resourceVersion))

/-- What holds of field `n` between calls, where `shown` is what the last
`FilteredUpdate` showed of it. -/
structure FieldOK (n : Key) (excluded : Dict Key Unit) (target : Dict Key (List Unstructured))
    (shown : Dict Key Unstructured) (f : Field) : Prop where
  /-- The field admits the client's writes of its own objects only. -/
  admits : ∀ c, FromWorld world c → f.Admits c = true → owner (unKey c) = n
  owned : ∀ k, k ∈ f.values ∨ k ∈ f.deltas ∨ k ∈ shown → owner k = n
  keyed : ∀ k u, f.values.get? k = some u → unKey u = k ∧ FromWorld world u
  /-- A delta is for its key, and is a deletion exactly when the object is gone. -/
  delta : ∀ k d, f.deltas.get? k = some d →
    unKey d.obj = k ∧ (d.deltaType = .ObjectDelete ↔ k ∉ f.values)
  /-- An object without a delta is as it was shown. -/
  settled : ∀ k, k ∉ f.deltas → f.values.get? k = shown.get? k
  fresh : f.firstUpdate = false → ∀ k, shown.get? k = none
  /-- The remembered verdicts are `p`'s on what was shown. -/
  excl : f.firstUpdate = true → ∀ k u, shown.get? k = some u → (k ∈ excluded ↔ p u = false)
  shows : f.firstUpdate = true →
    ∀ u, u ∈ (target.get? n).getD [] ↔ ∃ k, shown.get? k = some u ∧ p u = true

/-- The client's writes are of objects as the cluster has them. -/
def CanonOK (canonical : Dict Key (Option Unstructured)) : Prop :=
  ∀ k c, canonical.get? k = some (some c) → unKey c = k ∧ FromWorld world c

/-- The invariant of the system, with what each field was last shown. -/
structure Inv (w : World) (shown : Key → Dict Key Unstructured) : Prop where
  fields : ∀ n f, w.acc.fields.get? n = some f →
    FieldOK p owner world n w.acc.excluded w.target (shown n) f
  canonical : CanonOK world w.canonical

/-- Every object of `f` that is not as it was shown has a delta in `deltas`,
a deletion exactly when the object is gone. -/
def Covered (deltas : List Delta) (shown : Dict Key Unstructured) (f : Field) : Prop :=
  ∀ k, f.values.get? k ≠ shown.get? k →
    ∃ d ∈ deltas, unKey d.obj = k ∧ (d.deltaType = .ObjectDelete ↔ k ∉ f.values)

/-- What the claim asks of one `FilteredUpdate`, in the world `w'` it returns:
under each query the objects of its field that `p` keeps, and a delta for
every object that changed since it was last shown. -/
def Shows (w' : World) (shown : Key → Dict Key Unstructured) : Prop :=
  ∀ n f, w'.acc.fields.get? n = some f →
    (∀ u, u ∈ (w'.target.get? n).getD [] ↔ ∃ k, f.values.get? k = some u ∧ p u = true) ∧
    Covered w'.deltas (shown n) f

variable {p owner world}

/-! ### Frame lemmas -/

/-- Another field's verdicts and snapshot entry do not matter to a field. -/
theorem FieldOK.congr {n : Key} {excluded excluded' : Dict Key Unit}
    {target target' : Dict Key (List Unstructured)} {shown : Dict Key Unstructured} {f : Field}
    (h : FieldOK p owner world n excluded target shown f)
    (hex : ∀ k, owner k = n → (k ∈ excluded' ↔ k ∈ excluded))
    (htarget : target'.get? n = target.get? n) :
    FieldOK p owner world n excluded' target' shown f where
  admits := h.admits
  owned := h.owned
  keyed := h.keyed
  delta := h.delta
  settled := h.settled
  fresh := h.fresh
  excl hf k u hk := by
    rw [hex k (h.owned k (Or.inr (Or.inr (Dict.mem_of_get? hk))))]
    exact h.excl hf k u hk
  shows hf u := by
    rw [htarget]
    exact h.shows hf u

/-- Whether a field has synced does not matter to it. -/
theorem FieldOK.synced {n : Key} {excluded : Dict Key Unit} {target : Dict Key (List Unstructured)}
    {shown : Dict Key Unstructured} {f : Field} (h : FieldOK p owner world n excluded target shown f)
    (b : Bool) : FieldOK p owner world n excluded target shown { f with synced := b } :=
  ⟨h.admits, h.owned, h.keyed, h.delta, h.settled, h.fresh, h.excl, h.shows⟩

/-- Objects from the cluster with one UID and one resource version are one
object. -/
theorem FromWorld.eq {u v : Unstructured} (hu : FromWorld world u) (hv : FromWorld world v)
    (hkey : unKey u = unKey v) (hrv : u.resourceVersion = v.resourceVersion) : u = v := by
  unfold FromWorld at hu hv
  rw [hu, hv, hkey, hrv]

/-- A field changed only at keys it owns, each of which now has a delta that
is right for it, keeps its invariant: the one rule every writer of `values`
and `deltas` goes through. -/
theorem FieldOK.of_local {n : Key} {excluded : Dict Key Unit} {target : Dict Key (List Unstructured)}
    {shown : Dict Key Unstructured} {f : Field} {values : Dict Key Unstructured}
    {deltas : Dict Key Delta} (h : FieldOK p owner world n excluded target shown f)
    (hlocal : ∀ k, (values.get? k = f.values.get? k ∧ deltas.get? k = f.deltas.get? k) ∨
      (owner k = n ∧ (∀ u, values.get? k = some u → unKey u = k ∧ FromWorld world u) ∧
        ∃ d, deltas.get? k = some d ∧ unKey d.obj = k ∧ (d.deltaType = .ObjectDelete ↔ k ∉ values))) :
    FieldOK p owner world n excluded target shown { f with values, deltas } where
  admits := h.admits
  owned k hk := by
    dsimp only at hk
    rcases hlocal k with ⟨hv, hd⟩ | ⟨hown, -⟩
    · apply h.owned k
      rcases hk with hk | hk | hk
      · left
        rw [Dict.mem_iff_get?, ← hv]
        exact Dict.mem_iff_get?.mp hk
      · right; left
        rw [Dict.mem_iff_get?, ← hd]
        exact Dict.mem_iff_get?.mp hk
      · exact Or.inr (Or.inr hk)
    · exact hown
  keyed k u hu := by
    rcases hlocal k with ⟨hv, -⟩ | ⟨-, hkey, -⟩
    · exact h.keyed k u (hv.symm.trans hu)
    · exact hkey u hu
  delta k d hd := by
    dsimp only at hd ⊢
    rcases hlocal k with ⟨hv, hd'⟩ | ⟨-, -, d', hd', hright⟩
    · have hmem : k ∈ values ↔ k ∈ f.values := by rw [Dict.mem_iff_get?, Dict.mem_iff_get?, hv]
      rw [hmem]
      exact h.delta k d (hd'.symm.trans hd)
    · rw [hd'] at hd
      cases hd
      exact hright
  settled k hk := by
    dsimp only at hk ⊢
    rcases hlocal k with ⟨hv, hd⟩ | ⟨-, -, d, hd, -⟩
    · rw [hv]
      apply h.settled k
      rw [Dict.mem_iff_get?, ← hd]
      exact fun hm => hk (Dict.mem_iff_get?.mpr hm)
    · exact absurd (Dict.mem_of_get? hd) hk
  fresh := h.fresh
  excl := h.excl
  shows := h.shows

/-- A field all of whose objects are as they were shown is shown as it is. -/
theorem FieldOK.reshow {n : Key} {excluded : Dict Key Unit} {target : Dict Key (List Unstructured)}
    {shown : Dict Key Unstructured} {f : Field} (h : FieldOK p owner world n excluded target shown f)
    (hsame : ∀ k, f.values.get? k = shown.get? k) :
    FieldOK p owner world n excluded target f.values f where
  admits := h.admits
  owned k hk := by
    rcases hk with hk | hk | hk
    · exact h.owned k (Or.inl hk)
    · exact h.owned k (Or.inr (Or.inl hk))
    · exact h.owned k (Or.inl hk)
  keyed := h.keyed
  delta := h.delta
  settled _ _ := rfl
  fresh hf k := (hsame k).trans (h.fresh hf k)
  excl hf k u hk := h.excl hf k u ((hsame k).symm.trans hk)
  shows hf u := by
    rw [h.shows hf u]
    simp only [hsame]

theorem Covered.mono {deltas deltas' : List Delta} {shown : Dict Key Unstructured} {f : Field}
    (h : Covered deltas shown f) (hsub : ∀ d ∈ deltas, d ∈ deltas') : Covered deltas' shown f := by
  intro k hk
  obtain ⟨d, hd, hright⟩ := h k hk
  exact ⟨d, hsub d hd, hright⟩

/-! ### Patching in the client's writes -/

/-- What `patchWatch` can do at one key: nothing, drop the object for a local
delete, or take the client's object with an update or an add delta. -/
theorem patchWatch_cases (canonical : Dict Key (Option Unstructured)) (f : Field) (k : Key) :
    ((Client.patchWatch canonical f).1.values.get? k = f.values.get? k ∧
        (Client.patchWatch canonical f).1.deltas.get? k = f.deltas.get? k) ∨
      (∃ item, f.values.get? k = some item ∧ canonical.get? k = some none ∧
        (Client.patchWatch canonical f).1.values.get? k = none ∧
        (Client.patchWatch canonical f).1.deltas.get? k = some (newDelta .ObjectDelete item)) ∨
      (∃ cn, canonical.get? k = some (some cn) ∧
        (Client.patchWatch canonical f).1.values.get? k = some cn ∧
        ((k ∈ f.values ∧
            (Client.patchWatch canonical f).1.deltas.get? k = some (newDelta .ObjectUpdate cn)) ∨
          (f.Admits cn = true ∧
            (Client.patchWatch canonical f).1.deltas.get? k = some (newDelta .ObjectAdd cn)))) := by
  have hv := patchWatch_view canonical f k
  simp only [patchView] at hv
  cases hck : canonical.get? k with
  | none =>
    rw [hck] at hv
    simp only [Prod.mk.injEq] at hv
    exact Or.inl ⟨hv.2.1, hv.2.2.1⟩
  | some can =>
    rw [hck] at hv
    -- the four branches of `patchAt`
    cases hfv : f.values.get? k with
    | none =>
      cases can with
      | none =>
        simp only [patchAt, hfv, Prod.mk.injEq] at hv
        exact Or.inl ⟨hv.2.1, hv.2.2.1⟩
      | some cn =>
        by_cases ha : f.Admits cn = true
        · simp only [patchAt, hfv, ha, if_true, Prod.mk.injEq] at hv
          exact Or.inr (Or.inr ⟨cn, rfl, hv.2.1, Or.inr ⟨ha, hv.2.2.1⟩⟩)
        · simp only [patchAt, hfv, ha, Bool.false_eq_true, if_false, Prod.mk.injEq] at hv
          exact Or.inl ⟨hv.2.1, hv.2.2.1⟩
    | some item =>
      cases can with
      | none =>
        simp only [patchAt, hfv, Prod.mk.injEq] at hv
        exact Or.inr (Or.inl ⟨item, rfl, rfl, hv.2.1, hv.2.2.1⟩)
      | some cn =>
        by_cases hr : cn.resourceVersion ≤ item.resourceVersion
        · simp only [patchAt, hfv, hr, if_true, Prod.mk.injEq] at hv
          exact Or.inl ⟨hv.2.1, hv.2.2.1⟩
        · simp only [patchAt, hfv, hr, if_false, Prod.mk.injEq] at hv
          exact Or.inr (Or.inr ⟨cn, rfl, hv.2.1, Or.inl ⟨Dict.mem_of_get? hfv, hv.2.2.1⟩⟩)

/-- `patchWatch` only drops entries of `canonical`. -/
theorem patchWatch_canonical_get? (canonical : Dict Key (Option Unstructured)) (f : Field) (k : Key) :
    (Client.patchWatch canonical f).2.get? k = canonical.get? k ∨
      (Client.patchWatch canonical f).2.get? k = none := by
  have hv := patchWatch_view canonical f k
  simp only [patchView] at hv
  cases hck : canonical.get? k with
  | none =>
    rw [hck] at hv
    simp only [Prod.mk.injEq] at hv
    exact Or.inl hv.2.2.2
  | some can =>
    rw [hck] at hv
    simp only [Prod.mk.injEq] at hv
    -- the entry is what `patchAt` leaves of it
    rcases patchAt_client f.Admits can (f.values.get? k) (f.deltas.get? k) (some can) with h | h
    · rw [← hv.2] at h
      exact .inl h
    · rw [← hv.2] at h
      exact .inr h

theorem CanonOK.patchWatch {canonical : Dict Key (Option Unstructured)} (hc : CanonOK world canonical)
    (f : Field) : CanonOK world (Client.patchWatch canonical f).2 := by
  intro k c hk
  rcases patchWatch_canonical_get? canonical f k with h | h
  · exact hc k c (h ▸ hk)
  · rw [h] at hk
    cases hk

/-- `patchWatch` keeps a field's invariant, relative to what was shown: every
object it changes gets a delta, and it only adds objects the field admits. -/
theorem patchWatch_ok {n : Key} {excluded : Dict Key Unit} {target : Dict Key (List Unstructured)}
    {shown : Dict Key Unstructured} {f : Field} {canonical : Dict Key (Option Unstructured)}
    (h : FieldOK p owner world n excluded target shown f) (hc : CanonOK world canonical) :
    FieldOK p owner world n excluded target shown (Client.patchWatch canonical f).1 := by
  obtain ⟨values', deltas', hf'⟩ := patchWatch_fst canonical f
  have hcases := patchWatch_cases canonical f
  rw [hf'] at hcases ⊢
  apply h.of_local
  intro k
  rcases hcases k with ⟨hv, hd⟩ | ⟨item, hitem, -, hv, hd⟩ | ⟨cn, hcn, hv, hd⟩
  · exact Or.inl ⟨hv, hd⟩
  · -- a local delete of an object the field holds
    refine Or.inr ⟨h.owned k (Or.inl (Dict.mem_of_get? hitem)), fun u hu => ?_, _, hd,
      (h.keyed k item hitem).1, ?_⟩
    · rw [hv] at hu
      cases hu
    · simp [newDelta, Dict.get?_eq_none.mp hv]
  · -- the client's object, over one the field holds or as a new one it admits
    obtain ⟨hkey, hworld⟩ := hc k cn hcn
    have hown : owner k = n := by
      rcases hd with ⟨hmem, -⟩ | ⟨ha, -⟩
      · exact h.owned k (Or.inl hmem)
      · exact hkey ▸ h.admits cn hworld ha
    have hdel : ∃ t, t ≠ .ObjectDelete ∧ deltas'.get? k = some (newDelta t cn) := by
      rcases hd with ⟨-, hd⟩ | ⟨-, hd⟩
      · exact ⟨_, by decide, hd⟩
      · exact ⟨_, by decide, hd⟩
    obtain ⟨t, ht, hdk⟩ := hdel
    refine Or.inr ⟨hown, fun u hu => ?_, _, hdk, hkey, ?_⟩
    · rw [hv] at hu
      cases hu
      exact ⟨hkey, hworld⟩
    · simp [newDelta, ht, Dict.mem_of_get? hv]

/-! ### Informer events and the client's writes -/

/-- Storing an object of the field's own, with an add or update delta. -/
theorem FieldOK.set_value {n : Key} {excluded : Dict Key Unit} {target : Dict Key (List Unstructured)}
    {shown : Dict Key Unstructured} {f : Field} (h : FieldOK p owner world n excluded target shown f)
    {u : Unstructured} (hw : FromWorld world u) (hown : owner (unKey u) = n) {t : DeltaType}
    (ht : t ≠ .ObjectDelete) :
    FieldOK p owner world n excluded target shown
      { f with values := f.values.set (unKey u) u, deltas := f.deltas.set (unKey u) (newDelta t u) } := by
  apply h.of_local
  intro k
  by_cases hk : k = unKey u
  · subst hk
    refine Or.inr ⟨hown, fun u' hu' => ?_, newDelta t u, Dict.get?_set_self _ _ _, rfl, ?_⟩
    · rw [Dict.get?_set_self] at hu'
      cases hu'
      exact ⟨rfl, hw⟩
    · simp [newDelta, ht, Dict.mem_set]
  · exact Or.inl ⟨Dict.get?_set_ne _ _ hk, Dict.get?_set_ne _ _ hk⟩

/-- Dropping an object the field holds, with a delete delta. -/
theorem FieldOK.erase_value {n : Key} {excluded : Dict Key Unit} {target : Dict Key (List Unstructured)}
    {shown : Dict Key Unstructured} {f : Field} (h : FieldOK p owner world n excluded target shown f)
    {o : Unstructured} (hm : unKey o ∈ f.values) :
    FieldOK p owner world n excluded target shown
      { f with values := f.values.erase (unKey o),
               deltas := f.deltas.set (unKey o) (newDelta .ObjectDelete o) } := by
  apply h.of_local
  intro k
  by_cases hk : k = unKey o
  · subst hk
    refine Or.inr ⟨h.owned _ (Or.inl hm), fun u hu => ?_, newDelta .ObjectDelete o,
      Dict.get?_set_self _ _ _, rfl, ?_⟩
    · rw [Dict.get?_erase_self] at hu
      cases hu
    · simp [newDelta, Dict.mem_erase]
  · exact Or.inl ⟨Dict.get?_erase_ne _ hk, Dict.get?_set_ne _ _ hk⟩

/-- `storeValue` keeps a field's invariant when the object it stores is from
the cluster and selected by the field's query. -/
theorem FieldOK.storeValue {n : Key} {excluded : Dict Key Unit} {target : Dict Key (List Unstructured)}
    {shown : Dict Key Unstructured} {f : Field} (h : FieldOK p owner world n excluded target shown f)
    (old new : Option Unstructured) (hnew : ∀ u ∈ new, FromWorld world u ∧ f.Admits u = true) :
    FieldOK p owner world n excluded target shown (f.storeValue old new) := by
  cases new with
  | some u =>
    obtain ⟨hw, ha⟩ := hnew u rfl
    have hown : owner (unKey u) = n := h.admits u hw ha
    cases hov : f.values.get? (unKey u) with
    | none =>
      simp only [Field.storeValue, hov]
      exact h.set_value hw hown (by cases old <;> simp)
    | some ov =>
      by_cases hrv : ov.resourceVersion = u.resourceVersion
      · -- no delta: the field already holds this very object, by its resource version
        have hsame : ov = u := FromWorld.eq (h.keyed _ ov hov).2 hw (h.keyed _ ov hov).1 hrv
        simp only [Field.storeValue, hov, hrv, if_true]
        apply h.of_local
        intro k
        refine Or.inl ⟨?_, rfl⟩
        by_cases hk : k = unKey u
        · rw [hk, Dict.get?_set_self, hov, hsame]
        · exact Dict.get?_set_ne _ _ hk
      · simp only [Field.storeValue, hov, hrv, if_false]
        exact h.set_value hw hown (by cases old <;> simp)
  | none =>
    cases old with
    | none => exact h
    | some o =>
      by_cases hm : unKey o ∈ f.values
      · simp only [Field.storeValue, hm, if_true]
        exact h.erase_value hm
      · simp only [Field.storeValue, hm, if_false]
        exact h

@[simp] theorem storeUpdate_excluded (a : Accumulator) (update : RawUpdate) :
    (a.storeUpdate update).1.excluded = a.excluded := by
  unfold Accumulator.storeUpdate
  split <;> rfl

/-- `storeUpdate` changes the field it names only: by `storeValue`, and maybe
marking it synced. -/
theorem storeUpdate_fields_get? (a : Accumulator) (update : RawUpdate) (n : Key) :
    (a.storeUpdate update).1.fields.get? n = a.fields.get? n ∨
      ∃ f b, n = update.name ∧ a.fields.get? n = some f ∧
        (a.storeUpdate update).1.fields.get? n = some { f.storeValue update.old update.new with synced := b } := by
  unfold Accumulator.storeUpdate
  split
  · exact Or.inl rfl
  · rename_i f hf
    by_cases hn : n = update.name
    · subst hn
      refine Or.inr ⟨f, ?_, rfl, hf, ?_⟩
      · exact if update.synced && !(f.storeValue update.old update.new).synced then true
          else (f.storeValue update.old update.new).synced
      · dsimp only
        rw [Accumulator.fields, Dict.get?_set_self]
        split <;> rfl
    · exact Or.inl (Dict.get?_set_ne _ _ hn)

theorem CanonOK.erase {canonical : Dict Key (Option Unstructured)} (hc : CanonOK world canonical)
    (key : Key) : CanonOK world (canonical.erase key) := by
  intro k c hk
  rw [Dict.get?_erase] at hk
  split at hk
  · cases hk
  · exact hc k c hk

/-- An informer event keeps the invariant, when its object is from the
cluster and selected by the query it is for. -/
theorem Inv.watch {w : World} {shown : Key → Dict Key Unstructured}
    (h : Inv p owner world w shown) (name : Key) (synced : Bool) (ev : WatchEvent)
    (hev : ∀ u ∈ (ev.rawUpdate name synced).new,
      FromWorld world u ∧ ∀ f ∈ w.acc.fields.get? name, f.Admits u = true) :
    Inv p owner world (w.watch name synced ev) shown where
  fields n f hf := by
    have hex : (w.watch name synced ev).acc.excluded = w.acc.excluded := storeUpdate_excluded _ _
    rw [hex]
    rcases storeUpdate_fields_get? w.acc (ev.rawUpdate name synced) n with heq | ⟨f0, b, hn, hf0, heq⟩
    · exact h.fields n f (heq.symm.trans hf)
    · have hf' : f = { f0.storeValue (ev.rawUpdate name synced).old (ev.rawUpdate name synced).new with
          synced := b } := Option.some.inj (hf.symm.trans heq)
      subst hf'
      have hnew : ∀ u ∈ (ev.rawUpdate name synced).new, FromWorld world u ∧ f0.Admits u = true := by
        intro u hu
        obtain ⟨hw, ha⟩ := hev u hu
        have hname : (ev.rawUpdate name synced).name = name := by cases ev <;> rfl
        rw [hn, hname] at hf0
        exact ⟨hw, ha f0 hf0⟩
      exact ((h.fields n f0 hf0).storeValue _ _ hnew).synced b
  canonical := by
    -- `DeleteFunc` retires the client's entry first
    cases ev with
    | deleted old => exact h.canonical.erase (unKey old)
    | added => exact h.canonical
    | updated => exact h.canonical

/-- A write by the client keeps the invariant, when it is of an object from
the cluster under its own key. -/
theorem Inv.write {w : World} {shown : Key → Dict Key Unstructured}
    (h : Inv p owner world w shown) (key : Key) (can : Option Unstructured)
    (hcan : ∀ c ∈ can, unKey c = key ∧ FromWorld world c) :
    Inv p owner world (w.write key can) shown where
  fields := h.fields
  canonical k c hk := by
    change (w.canonical.set key can).get? k = some (some c) at hk
    rw [Dict.get?_set] at hk
    split at hk
    · rename_i hk'
      subst hk'
      exact hcan c (Option.some.inj hk)
    · exact h.canonical k c hk

/-! ### `FilteredUpdate` -/

/-- After the verdicts on its deltas, a field's objects are excluded exactly
when `p` rejects them: those with a delta by the new verdict, the others by
the one remembered when they were shown. -/
theorem FieldOK.verdict {n : Key} {excluded : Dict Key Unit} {target : Dict Key (List Unstructured)}
    {shown : Dict Key Unstructured} {f : Field} (h : FieldOK p owner world n excluded target shown f)
    {k : Key} {u : Unstructured} (hu : f.values.get? k = some u) :
    k ∈ f.deltas.entries.foldl (fun ex e => excludeStep (some p) f.values ex e.1 e.2) excluded ↔
      p u = false := by
  rw [Dict.mem_iff_get?, excluded_fold_get?]
  cases hd : f.deltas.get? k with
  | some d =>
    -- the delta of an object the field holds is not a deletion
    have hnd : d.deltaType ≠ .ObjectDelete := fun hdel =>
      (h.delta k d hd).2.mp hdel (Dict.mem_of_get? hu)
    simp only [excludeAt, hnd, if_false, hu]
    cases p u <;> simp
  | none =>
    have hshown : shown.get? k = some u :=
      (h.settled k (Dict.get?_eq_none.mp hd)).symm.trans hu
    cases hf : f.firstUpdate with
    | false =>
      rw [h.fresh hf k] at hshown
      cases hshown
    | true =>
      rw [← Dict.mem_iff_get?]
      exact h.excl hf k u hshown

/-- A field handed out and written by `updateField` shows its own objects. -/
theorem FieldOK.written {n : Key} {excluded : Dict Key Unit} {target : Dict Key (List Unstructured)}
    {shown : Dict Key Unstructured} {f : Field} (h : FieldOK p owner world n excluded target shown f) :
    FieldOK p owner world n
      (f.deltas.entries.foldl (fun ex e => excludeStep (some p) f.values ex e.1 e.2) excluded)
      (target.set n (items f.values
        (f.deltas.entries.foldl (fun ex e => excludeStep (some p) f.values ex e.1 e.2) excluded)))
      f.values { f with deltas := ∅, firstUpdate := true } where
  admits := h.admits
  owned k hk := by
    rcases hk with hk | hk | hk
    · exact h.owned k (Or.inl hk)
    · exact absurd hk (Dict.not_mem_empty k)
    · exact h.owned k (Or.inl hk)
  keyed := h.keyed
  delta k d hd := by simp at hd
  settled _ _ := rfl
  fresh hf := by simp at hf
  excl _ _ _ hu := h.verdict hu
  shows _ u := by
    rw [Dict.get?_set_self, Option.getD_some, mem_items]
    constructor
    · rintro ⟨k, hk, hex⟩
      exact ⟨k, hk, by simpa [h.verdict hk] using hex⟩
    · rintro ⟨k, hk, hp⟩
      exact ⟨k, hk, by simp [h.verdict hk, hp]⟩

variable (p owner world) in
/-- The invariant of the loop of `update` over the fields: the fields in
`done` have been handed out and written, show their own objects and have
their changes among the deltas; the others are as they were, with their
invariant. -/
structure PassOK (fields0 : Dict Key Field) (shown : Key → Dict Key Unstructured) (done : List Key)
    (s : Pass) : Prop where
  pending : ∀ n, n ∉ done → s.acc.fields.get? n = fields0.get? n
  pendingOK : ∀ n f, n ∉ done → fields0.get? n = some f →
    FieldOK p owner world n s.acc.excluded s.target (shown n) f
  doneOK : ∀ n, n ∈ done → ∃ f, s.acc.fields.get? n = some f ∧ f.firstUpdate = true ∧
    FieldOK p owner world n s.acc.excluded s.target f.values f ∧ Covered s.deltas (shown n) f
  canonical : CanonOK world s.canonical

/-- One more field done: the others keep their invariant as long as the
verdicts at keys they own and their snapshot entries stay, and the deltas
only grow. -/
theorem PassOK.extend {fields0 : Dict Key Field} {shown : Key → Dict Key Unstructured}
    {done : List Key} {s s' : Pass} {name : Key} {f' : Field}
    (h : PassOK p owner world fields0 shown done s) (hname : name ∉ done)
    (hfields : s'.acc.fields = s.acc.fields.set name f')
    (hex : ∀ k, owner k ≠ name → (k ∈ s'.acc.excluded ↔ k ∈ s.acc.excluded))
    (htarget : ∀ n, n ≠ name → s'.target.get? n = s.target.get? n)
    (hdeltas : ∀ d ∈ s.deltas, d ∈ s'.deltas) (hcanon : CanonOK world s'.canonical)
    (hfirst : f'.firstUpdate = true)
    (hok : FieldOK p owner world name s'.acc.excluded s'.target f'.values f')
    (hcov : Covered s'.deltas (shown name) f') :
    PassOK p owner world fields0 shown (done ++ [name]) s' where
  pending n hn := by
    have hne : n ≠ name := fun he => hn (List.mem_append_right _ (List.mem_singleton.mpr he))
    rw [hfields, Dict.get?_set_ne _ _ hne]
    exact h.pending n (fun hd => hn (List.mem_append_left _ hd))
  pendingOK n f hn hf := by
    have hne : n ≠ name := fun he => hn (List.mem_append_right _ (List.mem_singleton.mpr he))
    exact (h.pendingOK n f (fun hd => hn (List.mem_append_left _ hd)) hf).congr
      (fun k hk => hex k (fun he => hne (hk.symm.trans he))) (htarget n hne)
  doneOK n hn := by
    rcases List.mem_append.mp hn with hd | hd
    · have hne : n ≠ name := fun he => hname (he ▸ hd)
      obtain ⟨f, hf, hfirst', hok', hcov'⟩ := h.doneOK n hd
      refine ⟨f, ?_, hfirst', ?_, hcov'.mono hdeltas⟩
      · rw [hfields, Dict.get?_set_ne _ _ hne]
        exact hf
      · exact hok'.congr (fun k hk => hex k (fun he => hne (hk.symm.trans he))) (htarget n hne)
    · rw [List.mem_singleton] at hd
      subst hd
      exact ⟨f', by rw [hfields, Dict.get?_set_self], hfirst, hok, hcov⟩
  canonical := hcanon

/-- The early return of `updateField`: a field written before, with no
delta, is stored back after the patch; it shows what it showed. -/
theorem PassOK.skip {fields0 : Dict Key Field} {shown : Key → Dict Key Unstructured}
    {done : List Key} {s : Pass} {name : Key} {f' : Field} {canonical : Dict Key (Option Unstructured)}
    (h : PassOK p owner world fields0 shown done s) (hname : name ∉ done)
    (hok : FieldOK p owner world name s.acc.excluded s.target (shown name) f')
    (hfirst : f'.firstUpdate = true) (hnone : ∀ k, k ∉ f'.deltas) (hc : CanonOK world canonical) :
    PassOK p owner world fields0 shown (done ++ [name])
      { s with acc := s.acc.setField name f', canonical } := by
  -- with no delta, every object is as it was shown
  have hsame : ∀ k, f'.values.get? k = (shown name).get? k := fun k => hok.settled k (hnone k)
  refine h.extend hname rfl (fun _ _ => Iff.rfl) (fun _ _ => rfl) (fun _ hd => hd) hc hfirst
    (hok.reshow hsame) ?_
  intro k hk
  exact absurd (hsame k) hk

/-- The main branch of `updateField`: the field's deltas are handed out, its
verdicts recorded, and its objects not excluded written. -/
theorem PassOK.write {fields0 : Dict Key Field} {shown : Key → Dict Key Unstructured}
    {done : List Key} {s : Pass} {name : Key} {f' : Field} {canonical : Dict Key (Option Unstructured)}
    (h : PassOK p owner world fields0 shown done s) (hname : name ∉ done)
    (hok : FieldOK p owner world name s.acc.excluded s.target (shown name) f')
    (hc : CanonOK world canonical) :
    PassOK p owner world fields0 shown (done ++ [name])
      { acc := { s.acc.setField name { f' with deltas := ∅, firstUpdate := true } with
                 excluded := f'.deltas.entries.foldl
                   (fun ex e => excludeStep (some p) f'.values ex e.1 e.2) s.acc.excluded }
        canonical
        target := s.target.set name (items f'.values (f'.deltas.entries.foldl
          (fun ex e => excludeStep (some p) f'.values ex e.1 e.2) s.acc.excluded))
        deltas := s.deltas ++ f'.deltas.values
        updated := true } := by
  refine h.extend hname rfl ?_ (fun _ hn => Dict.get?_set_ne _ _ hn)
    (fun _ hd => List.mem_append_left _ hd) hc rfl hok.written ?_
  · -- the verdicts change only at keys with a delta of this field, which it owns
    intro k hk
    have hnd : f'.deltas.get? k = none :=
      Dict.get?_eq_none.mpr fun hm => hk (hok.owned k (Or.inr (Or.inl hm)))
    rw [Dict.mem_iff_get?, Dict.mem_iff_get?, excluded_fold_get?, hnd]
  · -- an object that is not as shown has a delta, now handed out
    intro k hk
    have hmem : k ∈ f'.deltas := by
      by_contra hnm
      exact hk (hok.settled k hnm)
    obtain ⟨d, hd⟩ := Option.isSome_iff_exists.mp (Dict.mem_iff_get?.mp hmem)
    exact ⟨d, List.mem_append_right _ (Dict.mem_values.mpr ⟨k, hd⟩), hok.delta k d hd⟩

/-- `updateField` on a pending field of the pass. -/
theorem PassOK.updateField {fields0 : Dict Key Field} {shown : Key → Dict Key Unstructured}
    {done : List Key} {s : Pass} {name : Key} {field : Field}
    (h : PassOK p owner world fields0 shown done s) (hname : name ∉ done)
    (hfield : fields0.get? name = some field) :
    PassOK p owner world fields0 shown (done ++ [name]) (Accumulator.updateField s name field (some p)) := by
  have hok := patchWatch_ok (h.pendingOK name field hname hfield) h.canonical
  have hc := h.canonical.patchWatch field
  dsimp only [Accumulator.updateField]
  split
  · rename_i hskip
    simp only [Bool.and_eq_true, beq_iff_eq] at hskip
    refine h.skip hname hok hskip.1 (fun k hk => ?_) hc
    rw [Dict.mem_def, List.length_eq_zero_iff.mp hskip.2] at hk
    exact List.not_mem_nil hk
  · exact h.write hname hok hc

/-- The loop of `update` over a list of fields not yet done. -/
theorem PassOK.fold {fields0 : Dict Key Field} {shown : Key → Dict Key Unstructured} :
    ∀ (es : List (Key × Field)) (done : List Key) (s : Pass),
      (∀ e ∈ es, fields0.get? e.1 = some e.2) → (es.map Prod.fst).Nodup →
      (∀ n ∈ es.map Prod.fst, n ∉ done) → PassOK p owner world fields0 shown done s →
      PassOK p owner world fields0 shown (done ++ es.map Prod.fst)
        (es.foldl (fun s e => Accumulator.updateField s e.1 e.2 (some p)) s)
  | [], done, s, _, _, _, h => by simpa using h
  | e :: es, done, s, hes, hnd, hfresh, h => by
    rw [List.foldl_cons, List.map_cons, ← List.singleton_append, ← List.append_assoc]
    have hstep := h.updateField (hfresh e.1 List.mem_cons_self) (hes e List.mem_cons_self)
    refine PassOK.fold es (done ++ [e.1]) _ (fun e' he' => hes e' (List.mem_cons_of_mem _ he'))
      (List.nodup_cons.mp hnd).2 ?_ hstep
    intro n hn hd
    rcases List.mem_append.mp hd with hd | hd
    · exact hfresh n (List.mem_cons_of_mem _ hn) hd
    · rw [List.mem_singleton] at hd
      subst hd
      exact (List.nodup_cons.mp hnd).1 hn

/-- `update` over all the fields. -/
theorem PassOK.update {w : World} {shown : Key → Dict Key Unstructured}
    (h : Inv p owner world w shown) :
    PassOK p owner world w.acc.fields shown w.acc.fields.keys (w.acc.update w.canonical w.target (some p)) := by
  have h0 : PassOK p owner world w.acc.fields shown [] ⟨w.acc, w.canonical, w.target, [], false⟩ :=
    { pending := fun _ _ => rfl
      pendingOK := fun n f _ hf => h.fields n f hf
      doneOK := fun _ hn => absurd hn List.not_mem_nil
      canonical := h.canonical }
  have hall := PassOK.fold w.acc.fields.entries [] _ (fun e he => Dict.mem_entries.mp he)
    w.acc.fields.nodup (fun _ _ hn => List.not_mem_nil hn) h0
  rw [List.nil_append] at hall
  exact hall

/-- At the end of the pass every field has been written. -/
theorem PassOK.done_all {fields0 : Dict Key Field} {shown : Key → Dict Key Unstructured} {s : Pass}
    (h : PassOK p owner world fields0 shown fields0.keys s) {n : Key} {f : Field}
    (hf : s.acc.fields.get? n = some f) :
    f.firstUpdate = true ∧ FieldOK p owner world n s.acc.excluded s.target f.values f ∧
      Covered s.deltas (shown n) f := by
  have hn : n ∈ fields0.keys := by
    by_contra hn
    rw [h.pending n hn] at hf
    exact hn (Dict.mem_def.mp (Dict.mem_of_get? hf))
  obtain ⟨f', hf', hfirst, hok, hcov⟩ := h.doneOK n hn
  rw [hf] at hf'
  cases hf'
  exact ⟨hfirst, hok, hcov⟩

/-- What a `FilteredUpdate` leaves shown of each query: its field's objects. -/
def World.fieldValues (w : World) (n : Key) : Dict Key Unstructured :=
  ((w.acc.fields.get? n).map Field.values).getD ∅

/-- A `FilteredUpdate` from a world with the invariant shows what it should,
and leaves the invariant with every field shown as it now is. -/
theorem Inv.filteredUpdate {w : World} {shown : Key → Dict Key Unstructured}
    (h : Inv p owner world w shown) :
    Shows p (w.filteredUpdate p) shown ∧
      Inv p owner world (w.filteredUpdate p) (w.filteredUpdate p).fieldValues := by
  have hpass := PassOK.update h
  constructor
  · intro n f hf
    obtain ⟨hfirst, hok, hcov⟩ := hpass.done_all hf
    exact ⟨hok.shows hfirst, hcov⟩
  · constructor
    · intro n f hf
      have hvals : (w.filteredUpdate p).fieldValues n = f.values := by
        simp [World.fieldValues, hf]
      rw [hvals]
      exact (hpass.done_all hf).2.1
    · exact hpass.canonical

/-! ### Runs -/

variable (p world) in
/-- What each action may bring, as the claim has it: informers deliver
objects from the cluster that their query selects, the client writes objects
from the cluster under their own keys, and every `FilteredUpdate` has the
predicate `p`. -/
def Action.Admissible (w : World) : Action → Prop
  | .watch name synced ev => ∀ u ∈ (ev.rawUpdate name synced).new,
      FromWorld world u ∧ ∀ f ∈ w.acc.fields.get? name, f.Admits u = true
  | .write key can => ∀ c ∈ can, unKey c = key ∧ FromWorld world c
  | .filteredUpdate q => q = p

variable (p world) in
/-- A run every action of which is admissible where it is taken. -/
def Admissible : World → List Action → Prop
  | _, [] => True
  | w, a :: as => Action.Admissible p world w a ∧ Admissible (w.step a) as

/-- What is shown after action `a`: a `FilteredUpdate` shows each field as it
then is; the other actions show nothing. -/
def World.shownStep (w : World) (shown : Key → Dict Key Unstructured) :
    Action → Key → Dict Key Unstructured
  | .filteredUpdate q => (w.step (.filteredUpdate q)).fieldValues
  | _ => shown

/-- What the last `FilteredUpdate` of a run showed of each query. -/
def World.shownAfter (w : World) (shown : Key → Dict Key Unstructured) : List Action →
    Key → Dict Key Unstructured
  | [] => shown
  | a :: as => (w.step a).shownAfter (w.shownStep shown a) as

theorem Inv.step {w : World} {shown : Key → Dict Key Unstructured}
    (h : Inv p owner world w shown) (a : Action) (ha : Action.Admissible p world w a) :
    Inv p owner world (w.step a) (w.shownStep shown a) := by
  cases a with
  | watch name synced ev => exact h.watch name synced ev ha
  | write key can => exact h.write key can ha
  | filteredUpdate q =>
    change q = p at ha
    subst ha
    exact h.filteredUpdate.2

theorem Inv.run {w : World} {shown : Key → Dict Key Unstructured}
    (h : Inv p owner world w shown) (as : List Action) (has : Admissible p world w as) :
    Inv p owner world (w.run as) (w.shownAfter shown as) := by
  induction as generalizing w shown with
  | nil => exact h
  | cons a as ih =>
    obtain ⟨ha, has⟩ := has
    exact ih (h.step a ha) has

/-- A fresh accumulator, whose queries select objects of their own, has the
invariant with nothing shown. -/
theorem Inv.init {w : World}
    (hfresh : ∀ n f, w.acc.fields.get? n = some f →
      f.values = ∅ ∧ f.deltas = ∅ ∧ f.firstUpdate = false)
    (hdisjoint : ∀ n f c, w.acc.fields.get? n = some f → FromWorld world c → f.Admits c = true →
      owner (unKey c) = n)
    (hcanon : w.canonical = ∅) :
    Inv p owner world w (fun _ => ∅) where
  fields n f hf := by
    obtain ⟨hv, hd, hfirst⟩ := hfresh n f hf
    exact
      { admits := fun c hc ha => hdisjoint n f c hf hc ha
        owned := fun k hk => by simp [hv, hd] at hk
        keyed := fun k u hu => by simp [hv] at hu
        delta := fun k d hdk => by simp [hd] at hdk
        settled := fun k _ => by simp [hv]
        fresh := fun _ k => Dict.get?_empty k
        excl := fun hf' => by simp [hfirst] at hf'
        shows := fun hf' => by simp [hfirst] at hf' }
  canonical k c hk := by simp [hcanon] at hk

/-- Over every admissible run from a fresh accumulator whose queries select
disjoint objects, each `FilteredUpdate` shows under every query the objects
of its field that `p` keeps, and hands out a delta for every object changed
since the one before. -/
theorem filteredUpdate_shows_of_run {w : World}
    (hfresh : ∀ n f, w.acc.fields.get? n = some f →
      f.values = ∅ ∧ f.deltas = ∅ ∧ f.firstUpdate = false)
    (hdisjoint : ∀ n f c, w.acc.fields.get? n = some f → FromWorld world c → f.Admits c = true →
      owner (unKey c) = n)
    (hcanon : w.canonical = ∅) (pre : List Action) (hpre : Admissible p world w pre) :
    Shows p ((w.run pre).filteredUpdate p) (w.shownAfter (fun _ => ∅) pre) :=
  ((Inv.init hfresh hdisjoint hcanon).run pre hpre).filteredUpdate.1

end Invariant

/-! ### Two queries that share an object -/

/-- A cluster with two services: UID `o` is named `rejected`, every other
`kept`. -/
def twoServices (uid : Key) (rv : ℕ) : Unstructured :=
  { uid := uid, resourceVersion := rv, gvk := "v1/Service".toList,
    name := if uid = "o".toList then "rejected".toList else "kept".toList }

/-- Rejects the service named `rejected`. -/
def notRejected (u : Unstructured) : Bool := u.name != "rejected".toList

/-- Two queries, `A` and `B`, both for services. -/
def twoQueries : World :=
  { acc :=
      { fields :=
          ((∅ : Dict Key Field).set "A".toList { gvk := "v1/Service".toList }).set "B".toList
            { gvk := "v1/Service".toList } } }

/-- Both queries see `o`; `A` sees it deleted before `B` does, and then `B`
sees a new service. -/
def deleteSeenByA : List Action :=
  [.watch "A".toList true (.added (twoServices "o".toList 1)),
   .watch "B".toList true (.added (twoServices "o".toList 1)),
   .filteredUpdate notRejected,
   .watch "A".toList true (.deleted (twoServices "o".toList 1)),
   .filteredUpdate notRejected,
   .watch "B".toList true (.added (twoServices "o2".toList 2))]

theorem filteredUpdate_shows_rejected :
    Admissible notRejected twoServices twoQueries deleteSeenByA ∧
      ∀ shown, ¬ Shows notRejected ((twoQueries.run deleteSeenByA).filteredUpdate notRejected) shown := by
  constructor
  · simp only [deleteSeenByA, Admissible, Action.Admissible, true_and, and_true]
    decide
  · intro shown hshows
    cases hB : ((twoQueries.run deleteSeenByA).filteredUpdate notRejected).acc.fields.get? "B".toList with
    | none => exact absurd hB (by decide)
    | some f =>
      -- `B` shows `o`, which the predicate rejects: `A`'s deletion cleared its verdict
      have hmem : twoServices "o".toList 1 ∈
          (((twoQueries.run deleteSeenByA).filteredUpdate notRejected).target.get? "B".toList).getD [] := by
        decide
      obtain ⟨k, -, hp⟩ := ((hshows "B".toList f hB).1 _).mp hmem
      exact absurd hp (by decide)

/-- Query `A` alone, for services. -/
def queryA : World := { acc := { fields := (∅ : Dict Key Field).set "A".toList { gvk := "v1/Service".toList } } }

/-- `A` sees `o` and `o2` added, a `FilteredUpdate`, then `o` deleted. -/
def seenByA : List Action :=
  [.watch "A".toList true (.added (twoServices "o".toList 1)),
   .watch "A".toList true (.added (twoServices "o2".toList 2)),
   .filteredUpdate notRejected,
   .watch "A".toList true (.deleted (twoServices "o".toList 1))]

theorem filteredUpdate_shows_of_run_queryA :
    (∀ n f, queryA.acc.fields.get? n = some f → f.values = ∅ ∧ f.deltas = ∅ ∧ f.firstUpdate = false) ∧
    (∀ n f c, queryA.acc.fields.get? n = some f → FromWorld twoServices c → f.Admits c = true →
      "A".toList = n) ∧
    queryA.canonical = ∅ ∧ Admissible notRejected twoServices queryA seenByA ∧
    Shows notRejected ((queryA.run seenByA).filteredUpdate notRejected) (queryA.shownAfter (fun _ => ∅) seenByA) := by
  -- the one field is `A`, fresh
  have hA : ∀ n f, queryA.acc.fields.get? n = some f → n = "A".toList ∧ f = { gvk := "v1/Service".toList } := by
    intro n f hf
    by_cases hn : n = "A".toList
    · subst hn
      exact ⟨rfl, (Option.some.inj ((Dict.get?_set_self _ _ _).symm.trans hf)).symm⟩
    · unfold queryA at hf
      rw [Dict.get?_set_ne _ _ hn, Dict.get?_empty] at hf
      cases hf
  have hfresh : ∀ n f, queryA.acc.fields.get? n = some f → f.values = ∅ ∧ f.deltas = ∅ ∧ f.firstUpdate = false := by
    intro n f hf
    obtain ⟨-, rfl⟩ := hA n f hf
    exact ⟨rfl, rfl, rfl⟩
  have hdisjoint : ∀ n f c, queryA.acc.fields.get? n = some f → FromWorld twoServices c → f.Admits c = true →
      "A".toList = n := fun n f _ hf _ _ => (hA n f hf).1.symm
  have hadm : Admissible notRejected twoServices queryA seenByA := by
    simp only [seenByA, Admissible, Action.Admissible, true_and, and_true]
    decide
  exact ⟨hfresh, hdisjoint, rfl, hadm,
    @filteredUpdate_shows_of_run notRejected (fun _ => "A".toList) twoServices queryA hfresh hdisjoint rfl seenByA hadm⟩

end Kates

end Emissary

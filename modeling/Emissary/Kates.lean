/-
# The kates Accumulator

The Go entrypoint watches each kind it needs with an informer and reads the
results through a kates `Accumulator`: a map from query name to a `field`
holding the objects seen (`values`, keyed by UID) and the changes not yet
handed out (`deltas`). Informer events go through `storeUpdate`. The
`Client`'s own writes, which the watches have not yet echoed, are kept in
`canonical` and patched into a field by `patchWatch`. `FilteredUpdate` patches
every field, hands its deltas out, re-runs the predicate on the objects that
changed, and writes the objects the predicate keeps into the caller's
snapshot (`updateField`, `update`). Which objects the predicate rejected is
remembered across calls in one map `excluded`, keyed by UID alone and shared
by all fields.

The system is `World`: the accumulator, the client's `canonical` map, the
caller's snapshot and the deltas the last `FilteredUpdate` returned. It moves
by informer events (`World.watch`), the client's writes (`World.write`) and
`FilteredUpdate` calls (`World.filteredUpdate`). Go maps are `Dict`s; their
iteration order is the entry order.

Key definitions: `Field.storeValue`, `Client.patchWatch`, `Accumulator.updateField`,
`Accumulator.update`, `World.step`.
-/
import Emissary.Basic
import Emissary.Lib.Dict

namespace Emissary

namespace Kates

/-! ### Objects and deltas -/

inductive DeltaType where
  | ObjectAdd
  | ObjectUpdate
  | ObjectDelete
  deriving DecidableEq, Repr

/-- A `kates.Unstructured` as the accumulator reads it: its UID, its resource
version (a decimal integer), its kind and labels, and its name. -/
structure Unstructured where
  uid : Key
  resourceVersion : ℕ
  gvk : Key
  labels : List (Key × Key) := []
  name : Key := []
  deriving DecidableEq, Repr

/-- `unKey`: an object's key in `values`, `deltas` and `excluded` is its UID. -/
def unKey (u : Unstructured) : Key := u.uid

/-- A `Delta`; Go keeps the kind, name and namespace of `obj`. -/
structure Delta where
  deltaType : DeltaType
  obj : Unstructured
  deriving DecidableEq, Repr

def newDelta (deltaType : DeltaType) (obj : Unstructured) : Delta := ⟨deltaType, obj⟩

/-- `Selector.Matches`, for an equality-based label selector. -/
def Selector.Matches (selector labels : List (Key × Key)) : Bool :=
  selector.all (· ∈ labels)

/-! ### The accumulator -/

/-- A `field`: the query's kind (`mapping.GroupVersionKind`) and label
selector, and what the accumulator keeps for it. -/
structure Field where
  gvk : Key
  selector : List (Key × Key) := []
  values : Dict Key Unstructured := ∅
  deltas : Dict Key Delta := ∅
  synced : Bool := false
  firstUpdate : Bool := false

structure Accumulator where
  fields : Dict Key Field
  excluded : Dict Key Unit := ∅
  synced : ℕ := 0

/-- A `rawUpdate` from an informer: `new` for an add or update, `old` for an
update or delete. -/
structure RawUpdate where
  name : Key
  synced : Bool
  old : Option Unstructured
  new : Option Unstructured

/-- The part of `storeUpdate` that changes the field: an added or updated
object is stored, and gets a delta unless the field already holds its
resource version (the change came in by `patchWatch`); a deleted object is
dropped, and gets a delta if the field held it. -/
def Field.storeValue (field : Field) (old new : Option Unstructured) : Field :=
  match new, old with
  | some n, old =>
    let key := unKey n
    let delta := newDelta (if old.isNone then .ObjectAdd else .ObjectUpdate) n
    let deltas :=
      match field.values.get? key with
      | some oldValue =>
        if oldValue.resourceVersion = n.resourceVersion then field.deltas
        else field.deltas.set key delta
      | none => field.deltas.set key delta
    { field with values := field.values.set key n, deltas }
  | none, some o =>
    let key := unKey o
    if key ∈ field.values then
      { field with values := field.values.erase key, deltas := field.deltas.set key (newDelta .ObjectDelete o) }
    else field
  | none, none => field

/-- `storeUpdate`, with whether every field has synced. Every informer
belongs to a field; an update naming none changes nothing. -/
def Accumulator.storeUpdate (a : Accumulator) (update : RawUpdate) : Accumulator × Bool :=
  match a.fields.get? update.name with
  | none => (a, decide (a.fields.keys.length ≤ a.synced))
  | some field =>
    let field := field.storeValue update.old update.new
    let newlySynced := update.synced && !field.synced
    let field := if newlySynced then { field with synced := true } else field
    let a := { a with fields := a.fields.set update.name field,
                      synced := if newlySynced then a.synced + 1 else a.synced }
    (a, decide (a.fields.keys.length ≤ a.synced))

/-! ### The client's own writes -/

/-- The objects a field's watch would return: its kind, with labels its
selector matches. -/
def Field.Admits (field : Field) (can : Unstructured) : Bool :=
  can.gvk == field.gvk && Selector.Matches field.selector can.labels

/-- A field's values and deltas do not change what it admits. -/
@[simp] theorem Field.Admits_with (field : Field) (values : Dict Key Unstructured)
    (deltas : Dict Key Delta) : ({ field with values, deltas } : Field).Admits = field.Admits := rfl

/-- One entry `key ↦ can` of `canonical` patched into a field: a local delete
removes the object, a local write newer than the watch's replaces it, a
watch that caught up retires the entry, and a local create the watch has not
reported is added. -/
def Client.patchOne (field : Field) (canonical : Dict Key (Option Unstructured)) (key : Key)
    (can : Option Unstructured) : Field × Dict Key (Option Unstructured) :=
  match field.values.get? key, can with
  | some item, none =>
    ({ field with values := field.values.erase key,
                  deltas := field.deltas.set key (newDelta .ObjectDelete item) }, canonical)
  | some item, some c =>
    if c.resourceVersion ≤ item.resourceVersion then (field, canonical.erase key)
    else
      ({ field with values := field.values.set key c,
                    deltas := field.deltas.set key (newDelta .ObjectUpdate c) }, canonical)
  | none, some c =>
    if field.Admits c then
      ({ field with values := field.values.set key c,
                    deltas := field.deltas.set key (newDelta .ObjectAdd c) }, canonical)
    else (field, canonical)
  | none, none => (field, canonical)

/-- `patchWatch`: every entry of `canonical`, in turn. -/
def Client.patchWatch (canonical : Dict Key (Option Unstructured)) (field : Field) :
    Field × Dict Key (Option Unstructured) :=
  canonical.entries.foldl (fun st e => Client.patchOne st.1 st.2 e.1 e.2) (field, canonical)

/-! ### `FilteredUpdate` -/

/-- What `update` carries through its loop over the fields: the accumulator,
the client's `canonical`, the caller's snapshot (each field's objects under
the query name), the deltas handed out, and whether a field was written. -/
structure Pass where
  acc : Accumulator
  canonical : Dict Key (Option Unstructured)
  target : Dict Key (List Unstructured)
  deltas : List Delta
  updated : Bool

/-- The predicate's verdict on one delta: a deleted object is no longer
excluded, an added or updated one is excluded when the predicate rejects it.
Without a predicate nothing is recorded. -/
def excludeStep (predicate : Option (Unstructured → Bool)) (values : Dict Key Unstructured)
    (excluded : Dict Key Unit) (key : Key) (delta : Delta) : Dict Key Unit :=
  match predicate with
  | none => excluded
  | some p =>
    if delta.deltaType = .ObjectDelete then excluded.erase key
    else
      match values.get? key with
      | some un => if p un then excluded.erase key else excluded.set key ()
      -- not reached: an add or update has its object in `values`
      | none => excluded

/-- The objects of a field that are not excluded, in the field's order. -/
def items (values : Dict Key Unstructured) (excluded : Dict Key Unit) : List Unstructured :=
  values.entries.filterMap fun e => if e.1 ∈ excluded then none else some e.2

def Accumulator.setField (a : Accumulator) (name : Key) (field : Field) : Accumulator :=
  { a with fields := a.fields.set name field }

/-- `updateField`: patch the field; unless it has been written before and
nothing changed, hand its deltas out, record the predicate's verdicts, and
write the objects not excluded into the snapshot. -/
def Accumulator.updateField (s : Pass) (name : Key) (field : Field)
    (predicate : Option (Unstructured → Bool)) : Pass :=
  let patched := Client.patchWatch s.canonical field
  let field := patched.1
  if field.firstUpdate && field.deltas.keys.length == 0 then
    { s with acc := s.acc.setField name field, canonical := patched.2 }
  else
    let excluded := field.deltas.entries.foldl
      (fun ex e => excludeStep predicate field.values ex e.1 e.2) s.acc.excluded
    { acc := { s.acc.setField name { field with deltas := ∅, firstUpdate := true } with excluded }
      canonical := patched.2
      target := s.target.set name (items field.values excluded)
      deltas := s.deltas ++ field.deltas.values
      updated := true }

/-- Whether `updateField` writes its field into the snapshot: unless the
field has been written before and, patched, has no deltas. -/
def Accumulator.writes (s : Pass) (field : Field) : Bool :=
  !((Client.patchWatch s.canonical field).1.firstUpdate &&
    (Client.patchWatch s.canonical field).1.deltas.keys.length == 0)

/-- `update`: `updateField` for every field, with the deltas slice emptied
first. -/
def Accumulator.update (a : Accumulator) (canonical : Dict Key (Option Unstructured))
    (target : Dict Key (List Unstructured)) (predicate : Option (Unstructured → Bool)) : Pass :=
  a.fields.entries.foldl (fun s e => Accumulator.updateField s e.1 e.2 predicate)
    ⟨a, canonical, target, [], false⟩

/-! ### The system -/

/-- The accumulator, the client's writes not yet seen by a watch, the
caller's snapshot, and the deltas the last `FilteredUpdate` returned. -/
structure World where
  acc : Accumulator
  canonical : Dict Key (Option Unstructured) := ∅
  target : Dict Key (List Unstructured) := ∅
  deltas : List Delta := []

/-- An informer's event for a query. -/
inductive WatchEvent where
  | added (obj : Unstructured)
  | updated (old new : Unstructured)
  | deleted (old : Unstructured)

/-- The `rawUpdate` the event handlers of `watchRaw` send. -/
def WatchEvent.rawUpdate (name : Key) (synced : Bool) : WatchEvent → RawUpdate
  | .added obj => ⟨name, synced, none, some obj⟩
  | .updated old new => ⟨name, synced, some old, some new⟩
  | .deleted old => ⟨name, synced, some old, none⟩

/-- An informer event: `DeleteFunc` first retires the client's entry for the
object, then the update is stored. -/
def World.watch (w : World) (name : Key) (synced : Bool) (ev : WatchEvent) : World :=
  let canonical := match ev with
    | .deleted old => w.canonical.erase (unKey old)
    | _ => w.canonical
  { w with canonical, acc := (w.acc.storeUpdate (ev.rawUpdate name synced)).1 }

/-- A write by the client: the object the API server returned for a create,
update or patch, or `none` for a delete. -/
def World.write (w : World) (key : Key) (can : Option Unstructured) : World :=
  { w with canonical := w.canonical.set key can }

/-- `FilteredUpdate` with predicate `p`. -/
def World.filteredUpdate (w : World) (p : Unstructured → Bool) : World :=
  let s := w.acc.update w.canonical w.target (some p)
  { acc := s.acc, canonical := s.canonical, target := s.target, deltas := s.deltas }

/-- What can happen next. -/
inductive Action where
  | watch (name : Key) (synced : Bool) (ev : WatchEvent)
  | write (key : Key) (can : Option Unstructured)
  | filteredUpdate (p : Unstructured → Bool)

def World.step (w : World) : Action → World
  | .watch name synced ev => w.watch name synced ev
  | .write key can => w.write key can
  | .filteredUpdate p => w.filteredUpdate p

/-- The world after a run of actions. -/
def World.run (w : World) (actions : List Action) : World :=
  actions.foldl World.step w

/-! ### What each operation does, key by key -/

/-- The `patchWatch` of one entry `key ↦ can`, as seen at `key`: the field's
value and delta there, and the client's entry. -/
def patchAt (admits : Unstructured → Bool) (can : Option Unstructured) (v : Option Unstructured)
    (d : Option Delta) (c : Option (Option Unstructured)) :
    Option Unstructured × Option Delta × Option (Option Unstructured) :=
  match v, can with
  | some item, none => (none, some (newDelta .ObjectDelete item), c)
  | some item, some cn =>
    if cn.resourceVersion ≤ item.resourceVersion then (some item, d, none)
    else (some cn, some (newDelta .ObjectUpdate cn), c)
  | none, some cn => if admits cn then (some cn, some (newDelta .ObjectAdd cn), c) else (none, d, c)
  | none, none => (none, d, c)

/-- `patchAt` keeps the client's entry, or drops it when the client's object is
at least as new. -/
theorem patchAt_client (admits : Unstructured → Bool) (can v : Option Unstructured) (d : Option Delta)
    (c : Option (Option Unstructured)) :
    (patchAt admits can v d c).2.2 = c ∨ (patchAt admits can v d c).2.2 = none := by
  unfold patchAt
  split
  · exact .inl rfl
  · split
    · exact .inr rfl
    · exact .inl rfl
  · split
    · exact .inl rfl
    · exact .inl rfl
  · exact .inl rfl

/-- What `patchWatch` works on, seen at one key. -/
def patchView (st : Field × Dict Key (Option Unstructured)) (k : Key) :
    (Unstructured → Bool) × Option Unstructured × Option Delta × Option (Option Unstructured) :=
  (st.1.Admits, st.1.values.get? k, st.1.deltas.get? k, st.2.get? k)

theorem patchView_patchOne (st : Field × Dict Key (Option Unstructured)) (key : Key)
    (can : Option Unstructured) (k : Key) :
    patchView (Client.patchOne st.1 st.2 key can) k =
      if k = key then
        (st.1.Admits,
          patchAt st.1.Admits can (st.1.values.get? key) (st.1.deltas.get? key) (st.2.get? key))
      else patchView st k := by
  obtain ⟨field, canonical⟩ := st
  unfold Client.patchOne
  by_cases hk : k = key
  · subst hk
    cases hv : field.values.get? k with
    | none =>
      cases can with
      | none => simp [patchView, patchAt, hv]
      | some cn =>
        by_cases ha : field.Admits cn = true
        · simp [patchView, patchAt, ha]
        · simp [patchView, patchAt, hv, ha]
    | some item =>
      cases can with
      | none => simp [patchView, patchAt]
      | some cn =>
        by_cases hr : cn.resourceVersion ≤ item.resourceVersion
        · simp [patchView, patchAt, hv, hr]
        · simp [patchView, patchAt, hr]
  · cases hv : field.values.get? key with
    | none =>
      cases can with
      | none => simp [patchView, hk]
      | some cn =>
        by_cases ha : field.Admits cn = true
        · simp [patchView, ha, hk, Dict.get?_set]
        · simp [patchView, ha, hk]
    | some item =>
      cases can with
      | none => simp [patchView, hk, Dict.get?_set, Dict.get?_erase]
      | some cn =>
        by_cases hr : cn.resourceVersion ≤ item.resourceVersion
        · simp [patchView, hr, hk, Dict.get?_erase]
        · simp [patchView, hr, hk, Dict.get?_set]

/-- `patchWatch` at a key: the entry of `canonical` for that key, patched in;
a key without an entry is left alone. -/
theorem patchWatch_view (canonical : Dict Key (Option Unstructured)) (field : Field) (k : Key) :
    patchView (Client.patchWatch canonical field) k =
      match canonical.get? k with
      | some can =>
        (field.Admits,
          patchAt field.Admits can (field.values.get? k) (field.deltas.get? k) (canonical.get? k))
      | none => patchView (field, canonical) k := by
  refine (Dict.foldl_entries_pointwise patchView (fun st e => Client.patchOne st.1 st.2 e.1 e.2)
    (fun _ can view => (view.1, patchAt view.1 can view.2.1 view.2.2.1 view.2.2.2))
    (fun st key can k => patchView_patchOne st key can k) canonical (field, canonical) k).trans ?_
  cases h : canonical.get? k with
  | none => rfl
  | some can => simp only [patchView, h]

theorem patchOne_fst (field : Field) (canonical : Dict Key (Option Unstructured)) (key : Key)
    (can : Option Unstructured) :
    ∃ values deltas, (Client.patchOne field canonical key can).1 = { field with values, deltas } := by
  unfold Client.patchOne
  split
  · exact ⟨_, _, rfl⟩
  · split
    · exact ⟨field.values, field.deltas, rfl⟩
    · exact ⟨_, _, rfl⟩
  · split
    · exact ⟨_, _, rfl⟩
    · exact ⟨field.values, field.deltas, rfl⟩
  · exact ⟨field.values, field.deltas, rfl⟩

/-- `patchWatch` changes a field's values and deltas only. -/
theorem patchWatch_fst (canonical : Dict Key (Option Unstructured)) (field : Field) :
    ∃ values deltas, (Client.patchWatch canonical field).1 = { field with values, deltas } := by
  unfold Client.patchWatch
  -- each step keeps the shape `{ field with values, deltas }`
  suffices h : ∀ (es : List (Key × Option Unstructured)) (st : Field × Dict Key (Option Unstructured)),
      (∃ values deltas, st.1 = { field with values, deltas }) →
      ∃ values deltas,
        (es.foldl (fun st e => Client.patchOne st.1 st.2 e.1 e.2) st).1 = { field with values, deltas } from
    h _ _ ⟨field.values, field.deltas, rfl⟩
  intro es
  induction es with
  | nil => exact fun st h => h
  | cons e es ih =>
    rintro st ⟨values, deltas, hst⟩
    apply ih
    obtain ⟨values', deltas', h'⟩ := patchOne_fst st.1 st.2 e.1 e.2
    exact ⟨values', deltas', by rw [h', hst]⟩

/-- The predicate's verdict at a key with a delta. -/
def excludeAt (predicate : Option (Unstructured → Bool)) (values : Dict Key Unstructured) (key : Key)
    (delta : Delta) (old : Option Unit) : Option Unit :=
  match predicate with
  | none => old
  | some p =>
    if delta.deltaType = .ObjectDelete then none
    else
      match values.get? key with
      | some un => if p un then none else some ()
      | none => old

theorem excludeStep_get? (predicate : Option (Unstructured → Bool)) (values : Dict Key Unstructured)
    (excluded : Dict Key Unit) (key : Key) (delta : Delta) (k : Key) :
    (excludeStep predicate values excluded key delta).get? k =
      if k = key then excludeAt predicate values key delta (excluded.get? key) else excluded.get? k := by
  unfold excludeStep excludeAt
  by_cases hk : k = key
  · subst hk
    cases predicate with
    | none => simp
    | some p =>
      by_cases hd : delta.deltaType = .ObjectDelete
      · simp [hd]
      · cases values.get? k with
        | none => simp [hd]
        | some un => by_cases hp : p un = true <;> simp [hd, hp]
  · cases predicate with
    | none => simp [hk]
    | some p =>
      by_cases hd : delta.deltaType = .ObjectDelete
      · simp [hd, hk, Dict.get?_erase]
      · cases values.get? key with
        | none => simp [hd, hk]
        | some un =>
          by_cases hp : p un = true <;> simp [hd, hp, hk, Dict.get?_erase, Dict.get?_set]

/-- After the verdicts on a field's deltas, a key with a delta has its
verdict and every other key is as it was. -/
theorem excluded_fold_get? (predicate : Option (Unstructured → Bool)) (values : Dict Key Unstructured)
    (deltas : Dict Key Delta) (excluded : Dict Key Unit) (k : Key) :
    (deltas.entries.foldl (fun ex e => excludeStep predicate values ex e.1 e.2) excluded).get? k =
      match deltas.get? k with
      | some d => excludeAt predicate values k d (excluded.get? k)
      | none => excluded.get? k := by
  refine (Dict.foldl_entries_pointwise (fun ex k => Dict.get? ex k)
    (fun ex e => excludeStep predicate values ex e.1 e.2)
    (fun key d old => excludeAt predicate values key d old)
    (fun ex key d k => excludeStep_get? predicate values ex key d k) deltas excluded k).trans ?_
  cases deltas.get? k <;> rfl

theorem mem_items {values : Dict Key Unstructured} {excluded : Dict Key Unit} {u : Unstructured} :
    u ∈ items values excluded ↔ ∃ k, values.get? k = some u ∧ k ∉ excluded := by
  simp only [items, List.mem_filterMap]
  constructor
  · rintro ⟨⟨k, v⟩, he, hu⟩
    by_cases hk : k ∈ excluded
    · simp [hk] at hu
    · simp only [hk, if_false, Option.some.injEq] at hu
      exact ⟨k, hu ▸ Dict.mem_entries.mp he, hk⟩
  · rintro ⟨k, hk, hex⟩
    exact ⟨(k, u), Dict.mem_entries.mpr hk, by simp [hex]⟩

/-- A field `updateField` writes is written with objects of the patched
field, as the watches and the client's own writes left them. -/
theorem Accumulator.updateField_writes (s : Pass) (name : Key) (field : Field)
    (predicate : Option (Unstructured → Bool)) (h : Accumulator.writes s field = true) :
    (Accumulator.updateField s name field predicate).updated = true ∧
      ∃ us, (Accumulator.updateField s name field predicate).target.get? name = some us ∧
        ∀ u ∈ us, ∃ k, (Client.patchWatch s.canonical field).1.values.get? k = some u := by
  unfold Accumulator.writes at h
  unfold Accumulator.updateField
  dsimp only
  rw [if_neg fun hskip => absurd (hskip ▸ h) (by decide)]
  refine ⟨rfl, _, Dict.get?_set_self _ _ _, fun u hu => ?_⟩
  obtain ⟨k, hk, -⟩ := mem_items.1 hu
  exact ⟨k, hk⟩

end Kates

end Emissary

/-
# The watches of Consul services

For every Mapping and TCPMapping that names a `ConsulResolver`, the Go
entrypoint watches the service in that resolver's Consul and hands the
endpoints to the snapshot (`consul.go`). `ReconcileConsul` collects what the
Mappings of the snapshot ask for and calls `consulWatcher.reconcile`, which
keeps one `resolver` per resolver name, each with one watch per service: a
resolver whose spec changed is deleted (its watches stopped) and made anew,
a resolver no Mapping needs is deleted, and each resolver starts the
watches its Mappings need and stops the others (`resolver.reconcile`).
Starting a watch can fail (`watchFunc`), and `reconcile` then returns at
once, with what it did so far kept. At shutdown, `cleanup` reconciles
against nothing.

A watch is the index of the `watchFunc` call that started it; `World`
records every watch started, with its resolver and service, and every
`Stop()`. Whatever the calls and whichever starts fail, the watcher holds
every running watch and only running watches, each for its own resolver
and service, and no watch is stopped twice (`run_watchesOK`, with what
follows from it in `run_watches_held`). After a reconcile that did not fail,
the running watches are exactly one for each resolver name and service some
Mapping asks for, with the spec of the last resolver of that name
(`reconcile_runs_wanted`); after `cleanup` no watch runs
(`cleanup_stops_all`). `isBootstrapped` waits for the services of the first
reconcile, whatever later snapshots ask for, until some call has delivered
endpoints for each (`isBootstrapped_iff_delivered`).

`ReconcileConsul` collects the resolvers of this Ambassador but passes on
all resolvers of the snapshot, whatever their `ambassador_id`. Go visits a
map's keys in an order of its own choosing at each `range`; every call here
takes that order as a `Dict.KeyOrder` (any permutation of the keys), and
every theorem holds whatever the orders of the calls.

Key definitions: `resolver.reconcile`, `consulWatcher.reconcile`,
`ReconcileConsul`, `WatchesOK`.
Key theorems: `run_watchesOK`, `consulWatcher.reconcile_running`, `run_watches_held`,
`reconcile_runs_wanted`, `cleanup_stops_all`, `isBootstrapped_iff_delivered`.
-/
import Mathlib.Data.List.Induction
import Emissary.Snapshot
import Emissary.Lib.Dict

namespace Emissary
namespace Consul

open Snapshot

/-! ### Resolvers, watches and the watcher -/

/-- `ConsulResolverSpec`, compared as a whole when the watcher decides
whether a resolver changed. -/
structure ConsulResolverSpec where
  AmbassadorID : AmbassadorID
  Address : Key
  Datacenter : Key
  deriving DecidableEq, Repr

/-- A `ConsulResolver`: its name, namespace and spec. -/
structure ConsulResolver where
  name : Key
  «namespace» : Key
  Spec : ConsulResolverSpec
  deriving DecidableEq, Repr

/-- `consulMapping`: the service and resolver of a Mapping or TCPMapping. -/
structure consulMapping where
  Service : Key
  Resolver : Key
  deriving DecidableEq, Repr

/-- `consulwatch.Endpoints`, with the fields the watcher reads. -/
structure Endpoints where
  Id : Key
  Service : Key
  deriving DecidableEq, Repr

/-- What the watches have done: every watch `watchFunc` started, in order,
with its resolver and service (a watch, the `Stopper` the code keeps, is its
index here), and the watches stopped, in order. -/
structure World where
  started : List (ConsulResolver × Key)
  stopped : List ℕ

/-- `watchFunc(ctx, resolver, svc, ...)` starts the next watch. -/
def World.start (w : World) (cr : ConsulResolver) (svc : Key) : World :=
  { w with started := w.started ++ [(cr, svc)] }

/-- `w.Stop()`. -/
def World.stop (w : World) (id : ℕ) : World := { w with stopped := w.stopped ++ [id] }

@[simp] theorem World.start_started (w : World) (cr : ConsulResolver) (svc : Key) :
    (w.start cr svc).started = w.started ++ [(cr, svc)] := rfl

@[simp] theorem World.start_stopped (w : World) (cr : ConsulResolver) (svc : Key) :
    (w.start cr svc).stopped = w.stopped := rfl

@[simp] theorem World.stop_started (w : World) (id : ℕ) : (w.stop id).started = w.started := rfl

@[simp] theorem World.stop_stopped (w : World) (id : ℕ) : (w.stop id).stopped = w.stopped ++ [id] := rfl

/-- A watch started and not stopped. -/
def World.Running (w : World) (id : ℕ) : Prop := id < w.started.length ∧ id ∉ w.stopped

-- Go's `resolver` keeps its ConsulResolver in a field named `resolver` too
set_option linter.dupNamespace false in
/-- `resolver`: a resolver and the watch of each of its services. -/
structure resolver where
  resolver : ConsulResolver
  watches : Dict Key ℕ

/-- `newResolver(spec)`. -/
def newResolver (spec : ConsulResolver) : resolver := ⟨spec, ∅⟩

/-- `consulWatcher`, without its channels and the function that starts a watch. -/
structure consulWatcher where
  resolvers : Dict Key resolver
  firstReconcileHasHappened : Bool
  endpoints : Dict Key Endpoints
  keysForBootstrap : List Key
  bootstrapped : Bool

/-- `newConsulWatcher(watchFunc)`. -/
def newConsulWatcher : consulWatcher := ⟨∅, false, ∅, [], false⟩

/-- `updateEndpoints`: the endpoints of a service replace what it had. -/
def consulWatcher.updateEndpoints (c : consulWatcher) (endpoints : Endpoints) : consulWatcher :=
  { c with endpoints := c.endpoints.set endpoints.Service endpoints }

/-- `update(snap)`: the endpoints the Consul snapshot gets. -/
def consulWatcher.update (c : consulWatcher) : Dict Key Endpoints := c.endpoints

/-- `isBootstrapped()`: its answer, and the watcher after, which remembers a
`true`. -/
def consulWatcher.isBootstrapped (c : consulWatcher) : Bool × consulWatcher :=
  if !c.firstReconcileHasHappened then (false, c)
  -- we want bootstrappedness to be idempotent
  else if c.bootstrapped then (true, c)
  else if c.keysForBootstrap.all (· ∈ c.endpoints) then (true, { c with bootstrapped := true })
  else (false, c)

/-- `resolver.deleted()`: stop every watch, in the order the `range` visits
them. -/
def resolver.deleted (order : Dict.KeyOrder Key) (w : World) (r : Consul.resolver) : World :=
  ((r.watches.range order).map Prod.snd).foldl World.stop w

@[simp] theorem resolver.deleted_started (order : Dict.KeyOrder Key) (w : World) (r : Consul.resolver) :
    (r.deleted order w).started = w.started := by
  unfold resolver.deleted
  induction (r.watches.range order).map Prod.snd generalizing w with
  | nil => rfl
  | cons id ids ih => exact ih (w.stop id)

@[simp] theorem resolver.deleted_stopped (order : Dict.KeyOrder Key) (w : World) (r : Consul.resolver) :
    (r.deleted order w).stopped = w.stopped ++ (r.watches.range order).map Prod.snd := by
  unfold resolver.deleted
  induction (r.watches.range order).map Prod.snd generalizing w with
  | nil => simp
  | cons id ids ih => simp [ih]

/-- The watches stopped are those stopped before and the resolver's, in
whatever order. -/
theorem resolver.mem_deleted_stopped (order : Dict.KeyOrder Key) (w : World) (r : Consul.resolver) (id : ℕ) :
    id ∈ (r.deleted order w).stopped ↔ id ∈ w.stopped ∨ id ∈ r.watches.values := by
  rw [resolver.deleted_stopped, List.mem_append, (Dict.range_values_perm order _).mem_iff]

/-! ### The invariant -/

/-- The watcher holds watch `id` as the watch of service `svc` of its
resolver `name`. -/
def Holds (rs : Dict Key Consul.resolver) (name svc : Key) (id : ℕ) : Prop :=
  ∃ r, rs.get? name = some r ∧ r.watches.get? svc = some id

/-- The watcher and the world agree: only started watches are stopped, none
twice; each resolver is kept under its own name; each watch the watcher
holds runs, for its resolver and service; and each running watch is held. -/
structure WatchesOK (w : World) (rs : Dict Key Consul.resolver) : Prop where
  stopped_lt : ∀ id ∈ w.stopped, id < w.started.length
  stopped_nodup : w.stopped.Nodup
  named : ∀ name r, rs.get? name = some r → r.resolver.name = name
  held : ∀ name r svc id, rs.get? name = some r → r.watches.get? svc = some id →
    w.started[id]? = some (r.resolver, svc) ∧ id ∉ w.stopped
  running : ∀ id, w.Running id → ∃ name svc, Holds rs name svc id

section WatchesOK

variable {w : World} {rs : Dict Key Consul.resolver}

/-- The invariant reads the watcher through `get?` only. -/
theorem WatchesOK.congr {rs' : Dict Key Consul.resolver} (h : WatchesOK w rs)
    (hrs : ∀ n, rs'.get? n = rs.get? n) : WatchesOK w rs' where
  stopped_lt := h.stopped_lt
  stopped_nodup := h.stopped_nodup
  named name r hr := h.named name r (hrs name ▸ hr)
  held name r svc id hr := h.held name r svc id (hrs name ▸ hr)
  running id hid := by
    obtain ⟨name, svc, r, hr, hs⟩ := h.running id hid
    exact ⟨name, svc, r, (hrs name).trans hr, hs⟩

theorem WatchesOK.lt_of_held (h : WatchesOK w rs) {name svc : Key} {r : Consul.resolver} {id : ℕ}
    (hr : rs.get? name = some r) (hs : r.watches.get? svc = some id) : id < w.started.length :=
  (List.getElem?_eq_some_iff.1 (h.held name r svc id hr hs).1).1

/-- A watch is held in one place only: its id names its resolver and service. -/
theorem WatchesOK.held_inj (h : WatchesOK w rs) {n₁ n₂ s₁ s₂ : Key} {r₁ r₂ : Consul.resolver} {id : ℕ}
    (hr₁ : rs.get? n₁ = some r₁) (hs₁ : r₁.watches.get? s₁ = some id)
    (hr₂ : rs.get? n₂ = some r₂) (hs₂ : r₂.watches.get? s₂ = some id) : n₁ = n₂ ∧ s₁ = s₂ := by
  have h₁ := (h.held n₁ r₁ s₁ id hr₁ hs₁).1
  have h₂ := (h.held n₂ r₂ s₂ id hr₂ hs₂).1
  rw [h₁, Option.some.injEq, Prod.mk.injEq] at h₂
  refine ⟨?_, h₂.2⟩
  rw [← h.named n₁ r₁ hr₁, ← h.named n₂ r₂ hr₂, h₂.1]

/-- Starting a watch for a service the resolver does not watch. -/
theorem WatchesOK.start (h : WatchesOK w rs) {name svc : Key} {r : Consul.resolver}
    (hr : rs.get? name = some r) (hsvc : svc ∉ r.watches) :
    WatchesOK (w.start r.resolver svc)
      (rs.set name { r with watches := r.watches.set svc w.started.length }) where
  stopped_lt id hid := by
    have := h.stopped_lt id hid
    simp only [World.start_started, List.length_append, List.length_singleton]
    omega
  stopped_nodup := h.stopped_nodup
  named n r' hr' := by
    rw [Dict.get?_set] at hr'
    split_ifs at hr' with hn
    · cases hr'
      rw [hn]
      exact h.named name r hr
    · exact h.named n r' hr'
  held n r' s id hr' hs := by
    have hfresh : w.started.length ∉ w.stopped := fun hin => Nat.lt_irrefl _ (h.stopped_lt _ hin)
    rw [Dict.get?_set] at hr'
    split_ifs at hr' with hn
    · cases hr'
      rw [Dict.get?_set] at hs
      split_ifs at hs with hsv
      · -- the new watch
        cases hs
        subst hsv
        exact ⟨by simp, hfresh⟩
      · obtain ⟨hget, hstop⟩ := h.held name r s id hr hs
        exact ⟨by rw [World.start_started, List.getElem?_append_left (h.lt_of_held hr hs)]; exact hget, hstop⟩
    · obtain ⟨hget, hstop⟩ := h.held n r' s id hr' hs
      exact ⟨by rw [World.start_started, List.getElem?_append_left (h.lt_of_held hr' hs)]; exact hget, hstop⟩
  running id hid := by
    obtain ⟨hlt, hstop⟩ := hid
    simp only [World.start_started, List.length_append, List.length_singleton] at hlt
    rcases Nat.lt_succ_iff_lt_or_eq.1 hlt with hlt | rfl
    · -- an older watch is held where it was
      obtain ⟨n, s, r', hr', hs⟩ := h.running id ⟨hlt, hstop⟩
      refine ⟨n, s, ?_⟩
      by_cases hn : n = name
      · subst hn
        rw [hr] at hr'
        cases hr'
        have hs' : s ≠ svc := by
          rintro rfl
          exact hsvc (Dict.mem_of_get? hs)
        exact ⟨_, Dict.get?_set_self _ _ _, by rw [Dict.get?_set_ne _ _ hs']; exact hs⟩
      · exact ⟨r', by rw [Dict.get?_set_ne _ _ hn]; exact hr', hs⟩
    · exact ⟨name, svc, _, Dict.get?_set_self _ _ _, Dict.get?_set_self _ _ _⟩

/-- Stopping the watch of one service and forgetting it. -/
theorem WatchesOK.stop (h : WatchesOK w rs) {name svc : Key} {r : Consul.resolver} {id : ℕ}
    (hr : rs.get? name = some r) (hs : r.watches.get? svc = some id) :
    WatchesOK (w.stop id) (rs.set name { r with watches := r.watches.erase svc }) where
  stopped_lt id' hid' := by
    rw [World.stop_stopped, List.mem_append, List.mem_singleton] at hid'
    rcases hid' with hid' | rfl
    · exact h.stopped_lt id' hid'
    · exact h.lt_of_held hr hs
  stopped_nodup := by
    rw [World.stop_stopped, ← List.concat_eq_append]
    exact h.stopped_nodup.concat (h.held name r svc id hr hs).2
  named n r' hr' := by
    rw [Dict.get?_set] at hr'
    split_ifs at hr' with hn
    · cases hr'
      rw [hn]
      exact h.named name r hr
    · exact h.named n r' hr'
  held n r' s id' hr' hs' := by
    -- another held watch is not the one stopped
    have hne : ∀ {n s r''}, rs.get? n = some r'' → r''.watches.get? s = some id' → (n, s) ≠ (name, svc) →
        id' ≠ id := by
      rintro n s r'' hn hs'' hns rfl
      obtain ⟨rfl, rfl⟩ := h.held_inj hn hs'' hr hs
      exact hns rfl
    rw [Dict.get?_set] at hr'
    split_ifs at hr' with hn
    · cases hr'
      subst hn
      have hsv : s ≠ svc := by
        rintro rfl
        simp at hs'
      rw [Dict.get?_erase_ne _ hsv] at hs'
      obtain ⟨hget, hstop⟩ := h.held n r s id' hr hs'
      refine ⟨hget, ?_⟩
      simpa [hstop] using hne hr hs' (by simp [hsv])
    · obtain ⟨hget, hstop⟩ := h.held n r' s id' hr' hs'
      refine ⟨hget, ?_⟩
      simpa [hstop] using hne hr' hs' (by simp [hn])
  running id' hid' := by
    obtain ⟨hlt, hstop⟩ := hid'
    simp only [World.stop_started, World.stop_stopped, List.mem_append, List.mem_singleton, not_or] at hlt hstop
    obtain ⟨n, s, r', hr', hs'⟩ := h.running id' ⟨hlt, hstop.1⟩
    refine ⟨n, s, ?_⟩
    by_cases hn : n = name
    · subst hn
      rw [hr] at hr'
      cases hr'
      have hsv : s ≠ svc := by
        rintro rfl
        rw [hs] at hs'
        exact hstop.2 (Option.some.inj hs').symm
      exact ⟨_, Dict.get?_set_self _ _ _, by rw [Dict.get?_erase_ne _ hsv]; exact hs'⟩
    · exact ⟨r', by rw [Dict.get?_set_ne _ _ hn]; exact hr', hs'⟩

/-- The watches of one resolver are distinct. -/
theorem WatchesOK.values_nodup (h : WatchesOK w rs) {name : Key} {r : Consul.resolver}
    (hr : rs.get? name = some r) : r.watches.values.Nodup := by
  refine List.Nodup.map_on ?_ (List.Nodup.of_map Prod.fst r.watches.nodup)
  intro e₁ he₁ e₂ he₂ hid
  have hs₁ := Dict.mem_entries.1 he₁
  have hs₂ := Dict.mem_entries.1 he₂
  rw [hid] at hs₁
  exact Prod.ext (h.held_inj hr hs₁ hr hs₂).2 hid

/-- A watch runs exactly when the watcher holds it. -/
theorem WatchesOK.running_iff (h : WatchesOK w rs) (id : ℕ) :
    w.Running id ↔ ∃ name svc, Holds rs name svc id := by
  refine ⟨h.running id, ?_⟩
  rintro ⟨name, svc, r, hr, hs⟩
  exact ⟨h.lt_of_held hr hs, (h.held name r svc id hr hs).2⟩

/-- At most one watch runs for a resolver name and a service. -/
theorem WatchesOK.running_unique (h : WatchesOK w rs) {id₁ id₂ : ℕ} {cr₁ cr₂ : ConsulResolver} {svc : Key}
    (h₁ : w.Running id₁) (h₂ : w.Running id₂) (hs₁ : w.started[id₁]? = some (cr₁, svc))
    (hs₂ : w.started[id₂]? = some (cr₂, svc)) (hname : cr₁.name = cr₂.name) : id₁ = id₂ := by
  obtain ⟨n₁, s₁, r₁, hr₁, hw₁⟩ := h.running id₁ h₁
  obtain ⟨n₂, s₂, r₂, hr₂, hw₂⟩ := h.running id₂ h₂
  have ht₁ := (h.held n₁ r₁ s₁ id₁ hr₁ hw₁).1
  have ht₂ := (h.held n₂ r₂ s₂ id₂ hr₂ hw₂).1
  rw [hs₁, Option.some.injEq, Prod.mk.injEq] at ht₁
  rw [hs₂, Option.some.injEq, Prod.mk.injEq] at ht₂
  -- both watches are held under one resolver name, for one service
  have hn : n₁ = n₂ := by
    rw [← h.named n₁ r₁ hr₁, ← h.named n₂ r₂ hr₂, ← ht₁.1, ← ht₂.1]
    exact hname
  subst hn
  rw [hr₁, Option.some.injEq] at hr₂
  subst hr₂
  rw [← ht₁.2] at hw₁
  rw [← ht₂.2, hw₁] at hw₂
  exact Option.some.inj hw₂

/-- Deleting a resolver: its watches stopped, and the resolver forgotten. -/
theorem WatchesOK.delete (h : WatchesOK w rs) (order : Dict.KeyOrder Key) {name : Key} {r : Consul.resolver}
    (hr : rs.get? name = some r) : WatchesOK (r.deleted order w) (rs.erase name) := by
  -- a watch of `r` is not held anywhere else
  have hmine : ∀ {n s r' id}, rs.get? n = some r' → r'.watches.get? s = some id → id ∈ r.watches.values →
      n = name := by
    intro n s r' id hr' hs hid
    obtain ⟨s', hs'⟩ := Dict.mem_values.1 hid
    exact (h.held_inj hr' hs hr hs').1
  -- the resolvers left are those of the other names
  have hleft : ∀ {n r'}, (rs.erase name).get? n = some r' → n ≠ name ∧ rs.get? n = some r' := by
    intro n r' hr'
    have hn : n ≠ name := by
      rintro rfl
      rw [Dict.get?_erase_self] at hr'
      cases hr'
    exact ⟨hn, (Dict.get?_erase_ne _ hn).symm.trans hr'⟩
  refine ⟨?_, ?_, fun n r' hr' => h.named n r' (hleft hr').2, ?_, ?_⟩
  · intro id hid
    rw [resolver.deleted_started]
    rw [resolver.mem_deleted_stopped] at hid
    rcases hid with hid | hid
    · exact h.stopped_lt id hid
    · obtain ⟨s', hs'⟩ := Dict.mem_values.1 hid
      exact h.lt_of_held hr hs'
  · rw [resolver.deleted_stopped, List.nodup_append]
    refine ⟨h.stopped_nodup, (Dict.range_values_perm order _).nodup_iff.2 (h.values_nodup hr), ?_⟩
    intro a ha b hb hab
    subst hab
    obtain ⟨s', hs'⟩ := Dict.mem_values.1 ((Dict.range_values_perm order _).mem_iff.1 hb)
    exact (h.held name r s' a hr hs').2 ha
  · intro n r' s id hr' hs
    obtain ⟨hn, hr''⟩ := hleft hr'
    obtain ⟨hget, hstop⟩ := h.held n r' s id hr'' hs
    refine ⟨by rw [resolver.deleted_started]; exact hget, ?_⟩
    rw [resolver.mem_deleted_stopped, not_or]
    exact ⟨hstop, fun hid => hn (hmine hr'' hs hid)⟩
  · intro id hid
    obtain ⟨hlt, hstop⟩ := hid
    rw [resolver.deleted_started] at hlt
    rw [resolver.mem_deleted_stopped, not_or] at hstop
    obtain ⟨n, s, r', hr', hs⟩ := h.running id ⟨hlt, hstop.1⟩
    have hn : n ≠ name := by
      rintro rfl
      rw [hr] at hr'
      cases hr'
      exact hstop.2 (Dict.mem_values.2 ⟨s, hs⟩)
    exact ⟨n, s, r', (Dict.get?_erase_ne _ hn).trans hr', hs⟩

/-- A name without a resolver may get a new one, which watches nothing yet. -/
theorem WatchesOK.fresh (h : WatchesOK w rs) {name : Key} (hnone : rs.get? name = none)
    (rs' : Dict Key Consul.resolver)
    (hname : rs'.get? name = none ∨ ∃ cr, cr.name = name ∧ rs'.get? name = some (newResolver cr))
    (hother : ∀ n, n ≠ name → rs'.get? n = rs.get? n) : WatchesOK w rs' := by
  -- the resolver at `name`, if any, has its own name and no watch
  have hnew : ∀ r', rs'.get? name = some r' → r'.resolver.name = name ∧ r'.watches = ∅ := by
    intro r' hr'
    rcases hname with hn | ⟨cr, hcr, hn⟩
    · rw [hn] at hr'
      cases hr'
    · rw [hn] at hr'
      cases hr'
      exact ⟨hcr, rfl⟩
  refine ⟨h.stopped_lt, h.stopped_nodup, ?_, ?_, ?_⟩
  · intro n r' hr'
    by_cases hn : n = name
    · subst hn
      exact (hnew r' hr').1
    · exact h.named n r' ((hother n hn).symm.trans hr')
  · intro n r' s id hr' hs
    by_cases hn : n = name
    · subst hn
      rw [(hnew r' hr').2] at hs
      simp at hs
    · exact h.held n r' s id ((hother n hn).symm.trans hr') hs
  · intro id hid
    obtain ⟨n, s, r', hr', hs⟩ := h.running id hid
    have hn : n ≠ name := by
      rintro rfl
      rw [hnone] at hr'
      cases hr'
    exact ⟨n, s, r', (hother n hn).trans hr', hs⟩

/-- Stopping the watches a resolver holds (none, if there is no resolver of
that name) and putting in its place nothing or a new resolver of that name. -/
theorem WatchesOK.replace (h : WatchesOK w rs) (order : Dict.KeyOrder Key) (name : Key) (rs' : Dict Key Consul.resolver)
    (hname : rs'.get? name = none ∨ ∃ cr, cr.name = name ∧ rs'.get? name = some (newResolver cr))
    (hother : ∀ n, n ≠ name → rs'.get? n = rs.get? n) :
    WatchesOK (match rs.get? name with | some r => r.deleted order w | none => w) rs' := by
  cases hold : rs.get? name with
  | none => exact h.fresh hold rs' hname hother
  | some r =>
    -- the old resolver deleted, then the new one, if any, in its place
    show WatchesOK (r.deleted order w) rs'
    exact (h.delete order hold).fresh (Dict.get?_erase_self _ _) rs' hname
      fun n hn => (hother n hn).trans (Dict.get?_erase_ne _ hn).symm

end WatchesOK

/-! ### Reconciling -/

section Reconcile

-- whether `watchFunc` succeeds for the watch it would start as this index,
-- with this resolver and service; and the order a call's `range`s visit maps in
variable (watchOK : ℕ → ConsulResolver → Key → Bool) (order : Dict.KeyOrder Key)

/-- The first loop of `resolver.reconcile`: a watch for each service that
has none, until a start fails. -/
def resolver.startWatches : World → Consul.resolver → List consulMapping → World × Consul.resolver × Bool
  | w, r, [] => (w, r, true)
  | w, r, m :: ms =>
    if m.Service ∈ r.watches then resolver.startWatches w r ms
    else if watchOK w.started.length r.resolver m.Service then
      resolver.startWatches (w.start r.resolver m.Service)
        { r with watches := r.watches.set m.Service w.started.length } ms
    else (w, r, false)

/-- One turn of the second loop of `resolver.reconcile`: the watch of a
service no Mapping names is stopped and forgotten. -/
def resolver.stopStep (servicesByName : List Key) (acc : World × Consul.resolver) (e : Key × ℕ) :
    World × Consul.resolver :=
  if e.1 ∈ servicesByName then acc
  else (acc.1.stop e.2, { acc.2 with watches := acc.2.watches.erase e.1 })

/-- The second loop of `resolver.reconcile`. -/
def resolver.stopUnneeded (servicesByName : List Key) (w : World) (r : Consul.resolver) :
    World × Consul.resolver :=
  (r.watches.range order).foldl (resolver.stopStep servicesByName) (w, r)

/-- `resolver.reconcile(ctx, watchFunc, mappings, endpoints)`: the world and
the resolver after, and whether it returned without an error. -/
def resolver.reconcile (w : World) (r : Consul.resolver) (mappings : List consulMapping) :
    World × Consul.resolver × Bool :=
  match resolver.startWatches watchOK w r mappings with
  | (w, r, true) =>
    let s := resolver.stopUnneeded order (mappings.map (·.Service)) w r
    (s.1, s.2, true)
  | (w, r, false) => (w, r, false)

/-- `resolversByName`: the last resolver of each name. -/
def resolversByName (resolvers : List ConsulResolver) : Dict Key ConsulResolver :=
  resolvers.foldl (fun d cr => d.set cr.name cr) ∅

/-- Whether a Mapping counts for its resolver: it names one, and one of that
name is known. -/
def knownResolver (byName : Dict Key ConsulResolver) (m : consulMapping) : Bool :=
  if m.Resolver = [] then false
  else if m.Resolver ∈ byName then true
  else false

/-- `mappingsByResolver`: the Mappings of each known resolver name. -/
def mappingsByResolver (byName : Dict Key ConsulResolver) (mappings : List consulMapping) :
    Dict Key (List consulMapping) :=
  mappings.foldl (fun d m => if knownResolver byName m then d.push m.Resolver m else d) ∅

/-- Prune any resolvers that don't actually have mappings. -/
def pruneResolvers (byName : Dict Key ConsulResolver) (byResolver : Dict Key (List consulMapping)) :
    Dict Key ConsulResolver :=
  (order.1 byName.keys).foldl (fun d name => if name ∈ byResolver then d else d.erase name) byName

/-- (Re)create one resolver: one whose spec is unchanged stays; one that
changed is deleted and made anew. -/
def recreateStep (acc : World × Dict Key resolver) (e : Key × ConsulResolver) : World × Dict Key resolver :=
  match acc.2.get? e.1 with
  | some oldr =>
    if oldr.resolver.Spec = e.2.Spec then acc
    else (oldr.deleted order acc.1, acc.2.set e.1 (newResolver e.2))
  | none => (acc.1, acc.2.set e.1 (newResolver e.2))

/-- (Re)create any new or modified resolvers. -/
def recreateResolvers (byName : Dict Key ConsulResolver) (w : World) (rs : Dict Key resolver) :
    World × Dict Key resolver :=
  (byName.range order).foldl (recreateStep order) (w, rs)

/-- Delete one resolver if it is unneeded. -/
def deleteStep (byName : Dict Key ConsulResolver) (acc : World × Dict Key resolver) (e : Key × resolver) :
    World × Dict Key resolver :=
  if e.1 ∈ byName then acc else (e.2.deleted order acc.1, acc.2.erase e.1)

/-- Delete unneeded resolvers. -/
def deleteResolvers (byName : Dict Key ConsulResolver) (w : World) (rs : Dict Key resolver) :
    World × Dict Key resolver :=
  (rs.range order).foldl (deleteStep order byName) (w, rs)

/-- Reconcile each resolver's Mappings, until one fails. -/
def reconcileEach : World → Dict Key resolver → List (Key × List consulMapping) → World × Dict Key resolver × Bool
  | w, rs, [] => (w, rs, true)
  | w, rs, (rname, ms) :: rest =>
    match rs.get? rname with
    -- never: each resolver with Mappings was just made (`remade_get?`)
    | none => reconcileEach w rs rest
    | some res =>
      match resolver.reconcile watchOK order w res ms with
      | (w, res, true) => reconcileEach w (rs.set rname res) rest
      | (w, res, false) => (w, rs.set rname res, false)

/-- `consulWatcher.reconcile(ctx, resolvers, mappings)`: the world and the
watcher after, and whether it returned without an error. -/
def consulWatcher.reconcile (w : World) (c : consulWatcher) (resolvers : List ConsulResolver)
    (mappings : List consulMapping) : World × consulWatcher × Bool :=
  let byName₀ := resolversByName resolvers
  let byResolver := mappingsByResolver byName₀ mappings
  let byName := pruneResolvers order byName₀ byResolver
  let r₁ := recreateResolvers order byName w c.resolvers
  let r₂ := deleteResolvers order byName r₁.1 r₁.2
  match reconcileEach watchOK order r₂.1 r₂.2 (byResolver.range order) with
  | (w, rs, false) => (w, { c with resolvers := rs }, false)
  | (w, rs, true) =>
    -- the first time, the services to wait for before being bootstrapped
    if c.firstReconcileHasHappened then (w, { c with resolvers := rs }, true)
    else
      let keysForBootstrap := (byResolver.range order).flatMap fun e => e.2.map (·.Service)
      (w, { c with resolvers := rs, firstReconcileHasHappened := true, keysForBootstrap }, true)

/-- `cleanup`: stop all service watches. -/
def consulWatcher.cleanup (w : World) (c : consulWatcher) : World × consulWatcher × Bool :=
  consulWatcher.reconcile watchOK order w c [] []

/-- A Mapping or TCPMapping among the annotations, for this Ambassador. -/
def annotationMapping (envAmbID : Key) : Object → Option consulMapping
  | .mapping m | .tcpMapping m =>
    if m.ambassadorID.Matches envAmbID then some ⟨m.service, m.resolver⟩ else none
  | _ => none

/-- The Mappings `ReconcileConsul` collects: from the annotations, then the
Mappings, then the TCPMappings, each for this Ambassador. -/
def consulMappings (envAmbID : Key) (s : KubernetesSnapshot) : List consulMapping :=
  s.annotations.flatten.filterMap (annotationMapping envAmbID) ++
    ((s.mappings.filter fun m => m.ambassadorID.Matches envAmbID).map fun m => ⟨m.service, m.resolver⟩) ++
    ((s.tcpMappings.filter fun tm => tm.ambassadorID.Matches envAmbID).map fun tm => ⟨tm.service, tm.resolver⟩)

/-- `ReconcileConsul(ctx, consulWatcher, s)`, `consulResolvers` being the
snapshot's `ConsulResolvers`. The resolvers for this Ambassador are
collected, but all of the snapshot's are what it reconciles with. -/
def ReconcileConsul (envAmbID : Key) (w : World) (c : consulWatcher) (s : KubernetesSnapshot)
    (consulResolvers : List ConsulResolver) : World × consulWatcher × Bool :=
  consulWatcher.reconcile watchOK order w c consulResolvers (consulMappings envAmbID s)

/-- What the entrypoint does with the watcher: reconcile with a snapshot,
take the endpoints of a watch, ask whether it is bootstrapped, or clean up. -/
inductive Call where
  | reconcile (s : KubernetesSnapshot) (consulResolvers : List ConsulResolver) (o : Dict.KeyOrder Key)
  | endpoints (ep : Endpoints)
  | isBootstrapped
  | cleanup (o : Dict.KeyOrder Key)

/-- One call. -/
def step (envAmbID : Key) (st : World × consulWatcher) : Call → World × consulWatcher
  | .reconcile s crs o =>
    let r := ReconcileConsul watchOK o envAmbID st.1 st.2 s crs
    (r.1, r.2.1)
  | .endpoints ep => (st.1, st.2.updateEndpoints ep)
  | .isBootstrapped => (st.1, st.2.isBootstrapped.2)
  | .cleanup o =>
    let r := consulWatcher.cleanup watchOK o st.1 st.2
    (r.1, r.2.1)

/-- A run of calls from a new watcher that has started nothing. -/
def run (envAmbID : Key) (calls : List Call) : World × consulWatcher :=
  calls.foldl (step watchOK envAmbID) (⟨[], []⟩, newConsulWatcher)

/-! ### Every call keeps the invariant -/

theorem resolver.startWatches_resolver : ∀ (ms : List consulMapping) (w : World) (r : Consul.resolver),
    (resolver.startWatches watchOK w r ms).2.1.resolver = r.resolver
  | [], _, _ => rfl
  | m :: ms, w, r => by
    unfold resolver.startWatches
    split_ifs
    · exact resolver.startWatches_resolver ms w r
    · exact resolver.startWatches_resolver ms _ _
    · rfl

theorem resolver.stopUnneeded_resolver (services : List Key) : ∀ (es : List (Key × ℕ)) (acc : World × Consul.resolver),
    (es.foldl (resolver.stopStep services) acc).2.resolver = acc.2.resolver
  | [], _ => rfl
  | e :: es, acc => by
    rw [List.foldl_cons, resolver.stopUnneeded_resolver services es]
    unfold resolver.stopStep
    split_ifs <;> rfl

theorem resolver.reconcile_resolver (w : World) (r : Consul.resolver) (ms : List consulMapping) :
    (resolver.reconcile watchOK order w r ms).2.1.resolver = r.resolver := by
  have hsw := resolver.startWatches_resolver watchOK ms w r
  unfold resolver.reconcile
  rcases hres : resolver.startWatches watchOK w r ms with ⟨w₁, r₁, _ | _⟩
  · rw [hres] at hsw
    exact hsw
  · rw [hres] at hsw
    exact (resolver.stopUnneeded_resolver _ _ (w₁, r₁)).trans hsw

theorem resolver.startWatches_ok : ∀ (ms : List consulMapping) {w : World} {rs : Dict Key Consul.resolver}
    {name : Key} {r : Consul.resolver}, rs.get? name = some r → WatchesOK w rs →
    WatchesOK (resolver.startWatches watchOK w r ms).1 (rs.set name (resolver.startWatches watchOK w r ms).2.1)
  | [], _, _, _, _, hr, h => h.congr (Dict.get?_set_of_get? hr)
  | m :: ms, w, rs, name, r, hr, h => by
    unfold resolver.startWatches
    split_ifs with hm hok
    · exact resolver.startWatches_ok ms hr h
    · -- a watch for a new service
      have h' := resolver.startWatches_ok ms (Dict.get?_set_self _ _ _) (h.start hr hm)
      exact h'.congr fun n => (Dict.get?_set_set _ _ _ _ n).symm
    · exact h.congr (Dict.get?_set_of_get? hr)

theorem resolver.stopUnneeded_ok_aux (services : List Key) : ∀ (es : List (Key × ℕ))
    (acc : World × Consul.resolver) {rs : Dict Key Consul.resolver} {name : Key},
    (es.map Prod.fst).Nodup → (∀ e ∈ es, acc.2.watches.get? e.1 = some e.2) →
    rs.get? name = some acc.2 → WatchesOK acc.1 rs →
    WatchesOK (es.foldl (resolver.stopStep services) acc).1 (rs.set name (es.foldl (resolver.stopStep services) acc).2)
  | [], _, _, _, _, _, hr, h => h.congr (Dict.get?_set_of_get? hr)
  | e :: es, acc, rs, name, hnd, hes, hr, h => by
    rw [List.map_cons, List.nodup_cons] at hnd
    have hes' : ∀ e' ∈ es, acc.2.watches.get? e'.1 = some e'.2 := fun e' he' => hes e' (List.mem_cons_of_mem _ he')
    rw [List.foldl_cons]
    by_cases hin : e.1 ∈ services
    · rw [show resolver.stopStep services acc e = acc from if_pos hin]
      exact resolver.stopUnneeded_ok_aux services es acc hnd.2 hes' hr h
    · rw [show resolver.stopStep services acc e =
          (acc.1.stop e.2, { acc.2 with watches := acc.2.watches.erase e.1 }) from if_neg hin]
      -- the later services keep their watches when this one is forgotten
      have hlater : ∀ e' ∈ es, (acc.2.watches.erase e.1).get? e'.1 = some e'.2 := by
        intro e' he'
        have hne : e'.1 ≠ e.1 := fun heq => hnd.1 (heq ▸ List.mem_map_of_mem he')
        rw [Dict.get?_erase_ne _ hne]
        exact hes' e' he'
      have h' := resolver.stopUnneeded_ok_aux services es
        (acc.1.stop e.2, { acc.2 with watches := acc.2.watches.erase e.1 }) hnd.2 hlater
        (Dict.get?_set_self _ _ _) (h.stop hr (hes e List.mem_cons_self))
      exact h'.congr fun n => (Dict.get?_set_set _ _ _ _ n).symm

theorem resolver.reconcile_ok {w : World} {rs : Dict Key Consul.resolver} {name : Key} {r : Consul.resolver}
    (ms : List consulMapping) (hr : rs.get? name = some r) (h : WatchesOK w rs) :
    WatchesOK (resolver.reconcile watchOK order w r ms).1 (rs.set name (resolver.reconcile watchOK order w r ms).2.1) := by
  have h₁ := resolver.startWatches_ok watchOK ms hr h
  unfold resolver.reconcile
  rcases hsw : resolver.startWatches watchOK w r ms with ⟨w₁, r₁, _ | _⟩
  · rw [hsw] at h₁
    exact h₁
  · rw [hsw] at h₁
    have h₂ := resolver.stopUnneeded_ok_aux (ms.map (·.Service)) (r₁.watches.range order) (w₁, r₁)
      (Dict.range_nodup order _) (fun e he => (Dict.mem_range order).1 he) (Dict.get?_set_self _ _ _) h₁
    exact h₂.congr fun n => (Dict.get?_set_set _ _ _ _ n).symm

/-! ### What the watcher asks for -/

/-- The last resolver of a name. -/
def lastNamed (resolvers : List ConsulResolver) (name : Key) : Option ConsulResolver :=
  (resolvers.filter fun cr => cr.name = name).getLast?

theorem resolversByName_get? (resolvers : List ConsulResolver) (name : Key) :
    (resolversByName resolvers).get? name = lastNamed resolvers name := by
  unfold resolversByName lastNamed
  induction resolvers using List.reverseRecOn with
  | nil => rfl
  | append_singleton crs cr ih =>
    rw [List.foldl_append, List.foldl_cons, List.foldl_nil, Dict.get?_set, ih, List.filter_append]
    by_cases hn : name = cr.name
    · simp [hn]
    · simp [hn, Ne.symm hn]

theorem lastNamed_name {resolvers : List ConsulResolver} {name : Key} {cr : ConsulResolver}
    (h : lastNamed resolvers name = some cr) : cr.name = name := by
  have := List.mem_of_getLast? h
  simpa using (List.mem_filter.1 this).2

/-- A map that keeps names commutes with taking the last resolver of a name. -/
theorem lastNamed_map {f : ConsulResolver → ConsulResolver} (hf : ∀ r, (f r).name = r.name)
    (resolvers : List ConsulResolver) (name : Key) :
    lastNamed (resolvers.map f) name = (lastNamed resolvers name).map f := by
  unfold lastNamed
  rw [List.filter_map, List.getLast?_map]
  simp only [Function.comp_def, hf]

theorem pruneResolvers_get? (byName : Dict Key ConsulResolver) (byResolver : Dict Key (List consulMapping))
    (name : Key) :
    (pruneResolvers order byName byResolver).get? name = if name ∈ byResolver then byName.get? name else none := by
  unfold pruneResolvers
  -- each key is pruned by its own turn of the loop
  have hfold := Dict.foldl_keys_pointwise (fun d k => d.get? k)
    (fun d name => if name ∈ byResolver then d else d.erase name)
    (fun k b => if k ∈ byResolver then b else none)
    (fun d k k' => Dict.get?_ite_erase _ d k k')
    (fun k b => by split_ifs <;> rfl) (order.1 byName.keys) byName name
  rw [hfold]
  by_cases hk : name ∈ order.1 byName.keys
  · rw [if_pos hk]
  · rw [if_neg hk, Dict.get?_eq_none.2 ((Dict.mem_order_keys order).not.1 hk)]
    split_ifs <;> rfl

theorem knownResolver_iff {byName : Dict Key ConsulResolver} {m : consulMapping} :
    knownResolver byName m = true ↔ m.Resolver ≠ [] ∧ m.Resolver ∈ byName := by
  unfold knownResolver
  by_cases h₁ : m.Resolver = []
  · simp [h₁]
  · by_cases h₂ : m.Resolver ∈ byName <;> simp [h₁, h₂]

theorem mem_mappingsByResolver {byName : Dict Key ConsulResolver} {mappings : List consulMapping} {name : Key} :
    name ∈ mappingsByResolver byName mappings ↔ ∃ m ∈ mappings, knownResolver byName m = true ∧ m.Resolver = name := by
  unfold mappingsByResolver
  rw [← List.foldl_filter, Dict.mem_foldl_push]
  simp [and_assoc]

theorem mappingsByResolver_get? {byName : Dict Key ConsulResolver} {mappings ms : List consulMapping} {name : Key}
    (h : (mappingsByResolver byName mappings).get? name = some ms) :
    ms = (mappings.filter (knownResolver byName)).filter fun m => m.Resolver = name := by
  have hd := Dict.foldl_push_getD consulMapping.Resolver name (mappings.filter (knownResolver byName)) ∅
  unfold mappingsByResolver at h
  rw [List.foldl_filter, h] at hd
  simpa using hd

/-! ### What a reconcile leaves -/

theorem resolver.startWatches_mem : ∀ (ms : List consulMapping) (w : World) (r : Consul.resolver),
    (resolver.startWatches watchOK w r ms).2.2 = true →
    ∀ k, k ∈ (resolver.startWatches watchOK w r ms).2.1.watches ↔ k ∈ r.watches ∨ ∃ m ∈ ms, m.Service = k
  | [], _, _, _, k => by simp [resolver.startWatches]
  | m :: ms, w, r, hok, k => by
    unfold resolver.startWatches at hok ⊢
    split_ifs at hok ⊢ with hm hw
    · -- the service is watched already
      rw [resolver.startWatches_mem ms w r hok k]
      constructor
      · rintro (h | ⟨m', hm', rfl⟩)
        · exact .inl h
        · exact .inr ⟨m', List.mem_cons_of_mem _ hm', rfl⟩
      · rintro (h | ⟨m', hm', rfl⟩)
        · exact .inl h
        · rcases List.mem_cons.1 hm' with rfl | hm'
          · exact .inl hm
          · exact .inr ⟨m', hm', rfl⟩
    · rw [resolver.startWatches_mem ms _ _ hok k, Dict.mem_set]
      constructor
      · rintro ((rfl | h) | ⟨m', hm', rfl⟩)
        · exact .inr ⟨m, List.mem_cons_self, rfl⟩
        · exact .inl h
        · exact .inr ⟨m', List.mem_cons_of_mem _ hm', rfl⟩
      · rintro (h | ⟨m', hm', rfl⟩)
        · exact .inl (.inr h)
        · rcases List.mem_cons.1 hm' with rfl | hm'
          · exact .inl (.inl rfl)
          · exact .inr ⟨m', hm', rfl⟩

theorem resolver.stopUnneeded_get? (services : List Key) (w : World) (r : Consul.resolver) (k : Key) :
    (resolver.stopUnneeded order services w r).2.watches.get? k = if k ∈ services then r.watches.get? k else none := by
  unfold resolver.stopUnneeded
  -- each service is looked at by its own turn of the loop
  rw [Dict.foldl_range_pointwise (fun acc k => acc.2.watches.get? k) (resolver.stopStep services)
    (fun k _ b => if k ∈ services then b else none)]
  · dsimp only
    split <;> split_ifs <;> simp_all
  · intro acc k₀ id k'
    unfold resolver.stopStep
    by_cases hk : k₀ ∈ services
    · simp only [if_pos hk]
      split_ifs with hk' <;> [rw [hk']; rfl]
    · simp only [if_neg hk, Dict.get?_erase]

theorem resolver.reconcile_mem (w : World) (r : Consul.resolver) (ms : List consulMapping)
    (hok : (resolver.reconcile watchOK order w r ms).2.2 = true) (k : Key) :
    k ∈ (resolver.reconcile watchOK order w r ms).2.1.watches ↔ ∃ m ∈ ms, m.Service = k := by
  have hmem := resolver.startWatches_mem watchOK ms w r
  unfold resolver.reconcile at hok ⊢
  rcases hsw : resolver.startWatches watchOK w r ms with ⟨w₁, r₁, _ | _⟩
  · rw [hsw] at hok
    cases hok
  · rw [hsw] at hmem
    dsimp only
    rw [Dict.mem_iff_get?, resolver.stopUnneeded_get?]
    -- the services named are all watched after the first loop
    by_cases hk : k ∈ ms.map (·.Service)
    · rw [if_pos hk, ← Dict.mem_iff_get?, hmem rfl k]
      obtain ⟨m, hm, rfl⟩ := List.mem_map.1 hk
      exact iff_of_true (.inr ⟨m, hm, rfl⟩) ⟨m, hm, rfl⟩
    · rw [if_neg hk]
      simp only [Option.isSome_none, Bool.false_eq_true, false_iff]
      exact fun ⟨m, hm, hmk⟩ => hk (List.mem_map.2 ⟨m, hm, hmk⟩)

theorem reconcileEach_get?_of_not_mem : ∀ (es : List (Key × List consulMapping)) (w : World)
    (rs : Dict Key Consul.resolver) (n : Key), n ∉ es.map Prod.fst →
    (reconcileEach watchOK order w rs es).2.1.get? n = rs.get? n
  | [], _, _, _, _ => rfl
  | (rname, ms) :: rest, w, rs, n, hn => by
    rw [List.map_cons, List.mem_cons, not_or] at hn
    unfold reconcileEach
    rcases rs.get? rname with _ | res
    · exact reconcileEach_get?_of_not_mem rest w rs n hn.2
    · dsimp only
      rcases resolver.reconcile watchOK order w res ms with ⟨w', res', _ | _⟩
      · exact Dict.get?_set_ne _ _ hn.1
      · rw [reconcileEach_get?_of_not_mem rest _ _ n hn.2]
        exact Dict.get?_set_ne _ _ hn.1

/-- Reconciling the Mappings of the resolvers keeps each resolver's spec. -/
theorem reconcileEach_resolver : ∀ (es : List (Key × List consulMapping)) (w : World)
    (rs : Dict Key Consul.resolver) (n : Key),
    ((reconcileEach watchOK order w rs es).2.1.get? n).map (·.resolver) = (rs.get? n).map (·.resolver)
  | [], _, _, _ => rfl
  | (rname, ms) :: rest, w, rs, n => by
    unfold reconcileEach
    rcases hget : rs.get? rname with _ | res
    · exact reconcileEach_resolver rest w rs n
    · dsimp only
      have hres := resolver.reconcile_resolver watchOK order w res ms
      -- writing the reconciled resolver back keeps the resolvers
      have hset : ∀ res' : Consul.resolver, res'.resolver = res.resolver →
          ((rs.set rname res').get? n).map (·.resolver) = (rs.get? n).map (·.resolver) := by
        intro res' h
        rw [Dict.get?_set]
        split_ifs with hn
        · rw [hn, hget, Option.map_some, Option.map_some, h]
        · rfl
      rcases hrec : resolver.reconcile watchOK order w res ms with ⟨w', res', _ | _⟩
      · rw [hrec] at hres
        exact hset res' hres
      · rw [hrec] at hres
        rw [reconcileEach_resolver rest]
        exact hset res' hres

/-- After a reconcile of each resolver that did not fail, each resolver
watches exactly the services of its Mappings. -/
theorem reconcileEach_watches : ∀ (es : List (Key × List consulMapping)) (w : World)
    (rs : Dict Key Consul.resolver), (es.map Prod.fst).Nodup → (reconcileEach watchOK order w rs es).2.2 = true →
    ∀ n ms r, Dict.lookup n es = some ms → (reconcileEach watchOK order w rs es).2.1.get? n = some r →
      ∀ k, k ∈ r.watches ↔ ∃ m ∈ ms, m.Service = k
  | [], _, _, _, _, n, ms, r, hl, _ => by simp [Dict.lookup] at hl
  | (rname, ms₀) :: rest, w, rs, hnd, hok, n, ms, r, hl, hr => by
    rw [List.map_cons, List.nodup_cons] at hnd
    unfold reconcileEach at hok hr
    simp only [Dict.lookup] at hl
    rcases hget : rs.get? rname with _ | res
    · rw [hget] at hok hr
      split_ifs at hl with hn
      · -- a resolver that is not there is never reconciled
        subst hn
        rw [reconcileEach_get?_of_not_mem watchOK order rest w rs _ hnd.1, hget] at hr
        cases hr
      · exact reconcileEach_watches rest w rs hnd.2 hok n ms r hl hr
    · rw [hget] at hok hr
      dsimp only at hok hr
      rcases hrec : resolver.reconcile watchOK order w res ms₀ with ⟨w', res', _ | _⟩
      · rw [hrec] at hok
        cases hok
      · rw [hrec] at hok hr
        split_ifs at hl with hn
        · subst hn
          obtain rfl := Option.some.inj hl
          rw [reconcileEach_get?_of_not_mem watchOK order rest _ _ _ hnd.1, Dict.get?_set_self] at hr
          cases hr
          have := resolver.reconcile_mem watchOK order w res ms₀ (by rw [hrec])
          rw [hrec] at this
          exact this
        · exact reconcileEach_watches rest _ _ hnd.2 hok n ms r hl hr

/-- Remaking the resolvers gives each resolver name asked for a resolver of
the spec asked for, and leaves the others. -/
theorem recreateResolvers_get? (byName : Dict Key ConsulResolver) (w : World) (rs : Dict Key Consul.resolver)
    (n : Key) :
    (∀ cr, byName.get? n = some cr →
      ∃ r, (recreateResolvers order byName w rs).2.get? n = some r ∧ r.resolver.Spec = cr.Spec) ∧
    (byName.get? n = none → (recreateResolvers order byName w rs).2.get? n = rs.get? n) := by
  unfold recreateResolvers
  -- each resolver is remade by its own turn of the loop
  have h := Dict.foldl_range_pointwise (fun acc k => acc.2.get? k) (recreateStep order)
    (fun _ cr b => some (match b with
      | some oldr => if oldr.resolver.Spec = cr.Spec then oldr else newResolver cr
      | none => newResolver cr)) ?_ order byName (w, rs) n
  · refine ⟨fun cr hcr => ?_, fun hcr => ?_⟩
    · rw [hcr] at h
      refine ⟨_, h, ?_⟩
      dsimp only
      rcases rs.get? n with _ | oldr
      · rfl
      · dsimp only
        split_ifs with hspec
        · exact hspec
        · rfl
    · rw [hcr] at h
      exact h
  · intro acc k cr k'
    unfold recreateStep
    rcases hk : acc.2.get? k with _ | oldr
    · dsimp only
      rw [Dict.get?_set]
    · dsimp only
      by_cases hspec : oldr.resolver.Spec = cr.Spec
      · simp only [if_pos hspec]
        split_ifs with hk'
        · rw [hk', hk]
        · rfl
      · simp only [if_neg hspec]
        exact Dict.get?_set _ _ _ _

theorem deleteResolvers_get? (byName : Dict Key ConsulResolver) (w : World) (rs : Dict Key Consul.resolver)
    (n : Key) : (deleteResolvers order byName w rs).2.get? n = if n ∈ byName then rs.get? n else none := by
  unfold deleteResolvers
  -- each resolver is looked at by its own turn of the loop
  rw [Dict.foldl_range_pointwise (fun acc k => acc.2.get? k) (deleteStep order byName)
    (fun k _ b => if k ∈ byName then b else none)]
  · dsimp only
    split <;> split_ifs <;> simp_all
  · intro acc k r k'
    unfold deleteStep
    by_cases hk : k ∈ byName
    · simp only [if_pos hk]
      split_ifs with hk' <;> [rw [hk']; rfl]
    · simp only [if_neg hk, Dict.get?_erase]

/-! ### Every call keeps the invariant (continued) -/

theorem recreateStep_ok {acc : World × Dict Key Consul.resolver} (h : WatchesOK acc.1 acc.2)
    {e : Key × ConsulResolver} (he : e.2.name = e.1) : WatchesOK (recreateStep order acc e).1 (recreateStep order acc e).2 := by
  have hnew := h.replace order e.1 (acc.2.set e.1 (newResolver e.2)) (.inr ⟨e.2, he, Dict.get?_set_self _ _ _⟩)
    fun n hn => Dict.get?_set_ne _ _ hn
  unfold recreateStep
  rcases hold : acc.2.get? e.1 with _ | oldr
  · rw [hold] at hnew
    exact hnew
  · rw [hold] at hnew
    dsimp only at hnew ⊢
    split_ifs
    · exact h
    · exact hnew

theorem recreateResolvers_ok_aux : ∀ (es : List (Key × ConsulResolver)) (acc : World × Dict Key Consul.resolver),
    (∀ e ∈ es, e.2.name = e.1) → WatchesOK acc.1 acc.2 →
    WatchesOK (es.foldl (recreateStep order) acc).1 (es.foldl (recreateStep order) acc).2
  | [], _, _, h => h
  | e :: es, _, hes, h =>
    recreateResolvers_ok_aux es _ (fun e' he' => hes e' (List.mem_cons_of_mem _ he'))
      (recreateStep_ok order h (hes e List.mem_cons_self))

theorem deleteResolvers_ok_aux (byName : Dict Key ConsulResolver) : ∀ (es : List (Key × Consul.resolver))
    (acc : World × Dict Key Consul.resolver), (es.map Prod.fst).Nodup → (∀ e ∈ es, acc.2.get? e.1 = some e.2) →
    WatchesOK acc.1 acc.2 →
    WatchesOK (es.foldl (deleteStep order byName) acc).1 (es.foldl (deleteStep order byName) acc).2
  | [], _, _, _, h => h
  | e :: es, acc, hnd, hes, h => by
    rw [List.map_cons, List.nodup_cons] at hnd
    have hes' : ∀ e' ∈ es, acc.2.get? e'.1 = some e'.2 := fun e' he' => hes e' (List.mem_cons_of_mem _ he')
    rw [List.foldl_cons]
    by_cases hin : e.1 ∈ byName
    · rw [show deleteStep order byName acc e = acc from if_pos hin]
      exact deleteResolvers_ok_aux byName es acc hnd.2 hes' h
    · rw [show deleteStep order byName acc e = (e.2.deleted order acc.1, acc.2.erase e.1) from if_neg hin]
      have hdel := h.delete order (hes e List.mem_cons_self)
      -- the later resolvers are where they were
      refine deleteResolvers_ok_aux byName es _ hnd.2 (fun e' he' => ?_) hdel
      have hne : e'.1 ≠ e.1 := fun heq => hnd.1 (heq ▸ List.mem_map_of_mem he')
      rw [Dict.get?_erase_ne _ hne]
      exact hes' e' he'

theorem reconcileEach_ok : ∀ (es : List (Key × List consulMapping)) {w : World} {rs : Dict Key Consul.resolver},
    WatchesOK w rs → WatchesOK (reconcileEach watchOK order w rs es).1 (reconcileEach watchOK order w rs es).2.1
  | [], _, _, h => h
  | (rname, ms) :: rest, w, rs, h => by
    unfold reconcileEach
    rcases hget : rs.get? rname with _ | res
    · exact reconcileEach_ok rest h
    · have h' := resolver.reconcile_ok watchOK order ms hget h
      dsimp only
      rcases hrec : resolver.reconcile watchOK order w res ms with ⟨w', res', _ | _⟩
      · rw [hrec] at h'
        exact h'
      · rw [hrec] at h'
        exact reconcileEach_ok rest h'

/-- `consulWatcher.reconcile` is the reconcile of each resolver's Mappings,
after the resolvers are remade and the unneeded ones deleted. -/
theorem consulWatcher.reconcile_spec (w : World) (c : consulWatcher) (resolvers : List ConsulResolver)
    (mappings : List consulMapping) :
    let byResolver := mappingsByResolver (resolversByName resolvers) mappings
    let byName := pruneResolvers order (resolversByName resolvers) byResolver
    let r₂ := deleteResolvers order byName (recreateResolvers order byName w c.resolvers).1
      (recreateResolvers order byName w c.resolvers).2
    let o := reconcileEach watchOK order r₂.1 r₂.2 (byResolver.range order)
    (consulWatcher.reconcile watchOK order w c resolvers mappings).1 = o.1 ∧
      (consulWatcher.reconcile watchOK order w c resolvers mappings).2.1.resolvers = o.2.1 ∧
      (consulWatcher.reconcile watchOK order w c resolvers mappings).2.2 = o.2.2 := by
  unfold consulWatcher.reconcile
  dsimp only
  split
  next w' rs' heq => rw [heq]; exact ⟨rfl, rfl, rfl⟩
  next w' rs' heq =>
    rw [heq]
    split_ifs <;> exact ⟨rfl, rfl, rfl⟩

theorem consulWatcher.reconcile_ok {w : World} {c : consulWatcher} (h : WatchesOK w c.resolvers)
    (resolvers : List ConsulResolver) (mappings : List consulMapping) :
    WatchesOK (consulWatcher.reconcile watchOK order w c resolvers mappings).1
      (consulWatcher.reconcile watchOK order w c resolvers mappings).2.1.resolvers := by
  obtain ⟨hw, hrs, -⟩ := consulWatcher.reconcile_spec watchOK order w c resolvers mappings
  rw [hw, hrs]
  -- the resolvers it keeps are under their own names
  have hnamed : ∀ e ∈ (pruneResolvers order (resolversByName resolvers)
      (mappingsByResolver (resolversByName resolvers) mappings)).range order, e.2.name = e.1 := by
    intro e he
    rw [Dict.mem_range, pruneResolvers_get?] at he
    split_ifs at he
    rw [resolversByName_get?] at he
    exact lastNamed_name he
  have h₁ := recreateResolvers_ok_aux order _ (w, c.resolvers) hnamed h
  have h₂ := deleteResolvers_ok_aux order (pruneResolvers order (resolversByName resolvers)
      (mappingsByResolver (resolversByName resolvers) mappings)) _ _ (Dict.range_nodup order _)
    (fun e he => (Dict.mem_range order).1 he) h₁
  exact reconcileEach_ok watchOK order ((mappingsByResolver (resolversByName resolvers) mappings).range order) h₂

/-! ### Watches keep their numbers -/

/-- A watch started is never forgotten: `World.started` only grows. -/
theorem World.get?_of_prefix {w w' : World} (h : w.started <+: w'.started) {id : ℕ}
    {e : ConsulResolver × Key} (he : w.started[id]? = some e) : w'.started[id]? = some e := by
  obtain ⟨t, ht⟩ := h
  rw [← ht, List.getElem?_append_left (List.getElem?_eq_some_iff.1 he).1]
  exact he

/-- A fold whose every step starts no watch starts none. -/
theorem foldl_started {α β : Type} (f : World × β → α → World × β)
    (hf : ∀ acc a, (f acc a).1.started = acc.1.started) :
    ∀ (l : List α) (acc : World × β), (l.foldl f acc).1.started = acc.1.started
  | [], _ => rfl
  | a :: l, acc => (foldl_started f hf l (f acc a)).trans (hf acc a)

theorem resolver.startWatches_started : ∀ (ms : List consulMapping) (w : World) (r : Consul.resolver),
    w.started <+: (resolver.startWatches watchOK w r ms).1.started
  | [], _, _ => List.prefix_refl _
  | m :: ms, w, r => by
    unfold resolver.startWatches
    split_ifs
    · exact resolver.startWatches_started ms w r
    · exact (List.prefix_append _ _).trans (resolver.startWatches_started ms (w.start r.resolver m.Service) _)
    · exact List.prefix_refl _

theorem resolver.reconcile_started (w : World) (r : Consul.resolver) (ms : List consulMapping) :
    w.started <+: (resolver.reconcile watchOK order w r ms).1.started := by
  have h := resolver.startWatches_started watchOK ms w r
  unfold resolver.reconcile
  split
  next w' r' heq =>
    rw [heq] at h
    -- the second loop only stops watches
    have hstop : (resolver.stopUnneeded order (ms.map (·.Service)) w' r').1.started = w'.started :=
      foldl_started _ (fun acc e => by unfold resolver.stopStep; split_ifs <;> rfl) _ _
    exact hstop ▸ h
  next w' r' heq =>
    rw [heq] at h
    exact h

theorem reconcileEach_started : ∀ (es : List (Key × List consulMapping)) (w : World)
    (rs : Dict Key Consul.resolver), w.started <+: (reconcileEach watchOK order w rs es).1.started
  | [], _, _ => List.prefix_refl _
  | (rname, ms) :: rest, w, rs => by
    unfold reconcileEach
    split
    · exact reconcileEach_started rest w rs
    · next res _ =>
      have h := resolver.reconcile_started watchOK order w res ms
      split
      next w' res' heq =>
        rw [heq] at h
        exact h.trans (reconcileEach_started rest _ _)
      next w' res' heq =>
        rw [heq] at h
        exact h

/-- A reconcile starts watches after those already started, and renumbers none. -/
theorem consulWatcher.reconcile_started (w : World) (c : consulWatcher) (resolvers : List ConsulResolver)
    (mappings : List consulMapping) : w.started <+: (consulWatcher.reconcile watchOK order w c resolvers mappings).1.started := by
  obtain ⟨hw, -, -⟩ := consulWatcher.reconcile_spec watchOK order w c resolvers mappings
  rw [hw]
  -- remaking and deleting resolvers only stops watches
  have hrec : ∀ (byName : Dict Key ConsulResolver) (rs : Dict Key Consul.resolver),
      (recreateResolvers order byName w rs).1.started = w.started := fun byName rs =>
    foldl_started (recreateStep order) (fun acc e => by unfold recreateStep; split <;> [split_ifs <;> simp; rfl]) _ _
  have hdel : ∀ (byName : Dict Key ConsulResolver) (w' : World) (rs : Dict Key Consul.resolver),
      (deleteResolvers order byName w' rs).1.started = w'.started := fun byName w' rs =>
    foldl_started (deleteStep order byName) (fun acc e => by unfold deleteStep; split_ifs <;> simp) _ _
  refine List.IsPrefix.trans ?_ (reconcileEach_started watchOK order _ _ _)
  simp only [hdel, hrec, List.prefix_refl]

/-- No call renumbers a watch. -/
theorem step_started (envAmbID : Key) (st : World × consulWatcher) (call : Call) :
    st.1.started <+: (step watchOK envAmbID st call).1.started := by
  cases call with
  | reconcile s crs o => exact consulWatcher.reconcile_started watchOK o _ _ _ _
  | endpoints ep => exact List.prefix_refl _
  | isBootstrapped => exact List.prefix_refl _
  | cleanup o => exact consulWatcher.reconcile_started watchOK o _ _ _ _

theorem foldl_step_started (envAmbID : Key) : ∀ (calls : List Call) (st : World × consulWatcher),
    st.1.started <+: (calls.foldl (step watchOK envAmbID) st).1.started
  | [], _ => List.prefix_refl _
  | call :: calls, st => (step_started watchOK envAmbID st call).trans (foldl_step_started envAmbID calls _)

@[simp] theorem consulWatcher.isBootstrapped_resolvers (c : consulWatcher) :
    c.isBootstrapped.2.resolvers = c.resolvers := by
  unfold consulWatcher.isBootstrapped
  split_ifs <;> rfl

theorem step_ok (envAmbID : Key) {st : World × consulWatcher} (h : WatchesOK st.1 st.2.resolvers) (call : Call) :
    WatchesOK (step watchOK envAmbID st call).1 (step watchOK envAmbID st call).2.resolvers := by
  cases call with
  | reconcile s crs o => exact consulWatcher.reconcile_ok watchOK o h crs _
  | endpoints ep => exact h
  | isBootstrapped => simpa [step] using h
  | cleanup o => exact consulWatcher.reconcile_ok watchOK o h [] []

theorem watchesOK_init : WatchesOK ⟨[], []⟩ newConsulWatcher.resolvers where
  stopped_lt _ h := absurd h List.not_mem_nil
  stopped_nodup := List.nodup_nil
  named _ _ h := by simp [newConsulWatcher] at h
  held _ _ _ _ h := by simp [newConsulWatcher] at h
  running _ h := absurd h.1 (Nat.not_lt_zero _)

/-- **No watch leaks.** Whatever the entrypoint calls and whichever starts of
a watch fail, the watcher holds exactly the running watches, each for the
resolver it is kept under and the service it is kept for, and no watch was
stopped twice. -/
theorem run_watchesOK (envAmbID : Key) (calls : List Call) :
    WatchesOK (run watchOK envAmbID calls).1 (run watchOK envAmbID calls).2.resolvers := by
  unfold run
  induction calls using List.reverseRecOn with
  | nil => exact watchesOK_init
  | append_singleton calls call ih =>
    rw [List.foldl_append, List.foldl_cons, List.foldl_nil]
    exact step_ok watchOK envAmbID ih call

/-! ### What the watches are after a reconcile -/

/-- A resolver name and service a reconcile asks to watch: a Mapping names
both, and some resolver has the name. -/
def Wanted (resolvers : List ConsulResolver) (mappings : List consulMapping) (name svc : Key) : Prop :=
  name ≠ [] ∧ (lastNamed resolvers name).isSome ∧ ∃ m ∈ mappings, m.Resolver = name ∧ m.Service = svc

instance (resolvers : List ConsulResolver) (mappings : List consulMapping) (name svc : Key) :
    Decidable (Wanted resolvers mappings name svc) :=
  inferInstanceAs (Decidable (_ ∧ _ ∧ _))

theorem wanted_iff_known {resolvers : List ConsulResolver} {mappings : List consulMapping} {name svc : Key} :
    Wanted resolvers mappings name svc ↔
      ∃ m ∈ mappings, knownResolver (resolversByName resolvers) m = true ∧ m.Resolver = name ∧ m.Service = svc := by
  unfold Wanted
  simp only [knownResolver_iff, Dict.mem_iff_get?, resolversByName_get?]
  constructor
  · rintro ⟨hn, hl, m, hm, rfl, rfl⟩
    exact ⟨m, hm, ⟨hn, hl⟩, rfl, rfl⟩
  · rintro ⟨m, hm, ⟨hn, hl⟩, rfl, rfl⟩
    exact ⟨hn, hl, m, hm, rfl, rfl⟩

/-- After the resolvers are remade and the unneeded ones deleted, a name has
a resolver exactly when Mappings ask for it and some resolver has it, with
the spec of the last resolver of the name. -/
theorem remade_get? (resolvers : List ConsulResolver) (mappings : List consulMapping) (w : World)
    (rs : Dict Key Consul.resolver) (name : Key) :
    let byResolver := mappingsByResolver (resolversByName resolvers) mappings
    let byName := pruneResolvers order (resolversByName resolvers) byResolver
    let r₂ := deleteResolvers order byName (recreateResolvers order byName w rs).1 (recreateResolvers order byName w rs).2
    (∀ r, r₂.2.get? name = some r →
      name ∈ byResolver ∧ (lastNamed resolvers name).map (·.Spec) = some r.resolver.Spec) ∧
    (name ∈ byResolver → (lastNamed resolvers name).isSome → (r₂.2.get? name).isSome) := by
  intro byResolver byName r₂
  have hbyName : byName.get? name = if name ∈ byResolver then lastNamed resolvers name else none := by
    rw [pruneResolvers_get?, resolversByName_get?]
  have hr₂ : r₂.2.get? name = if name ∈ byName then (recreateResolvers order byName w rs).2.get? name else none :=
    deleteResolvers_get? order _ _ _ name
  refine ⟨fun r hr => ?_, fun hin hl => ?_⟩
  · rw [hr₂] at hr
    split_ifs at hr with hmem
    obtain ⟨cr, hcr⟩ := Option.isSome_iff_exists.1 (Dict.mem_iff_get?.1 hmem)
    obtain ⟨r', hr', hspec⟩ := (recreateResolvers_get? order byName w rs name).1 cr hcr
    rw [hr] at hr'
    cases hr'
    rw [hbyName] at hcr
    split_ifs at hcr with hin
    exact ⟨hin, by rw [hcr, Option.map_some, hspec]⟩
  · obtain ⟨cr, hcr⟩ := Option.isSome_iff_exists.1 hl
    have hget : byName.get? name = some cr := by rw [hbyName, if_pos hin, hcr]
    obtain ⟨r', hr', -⟩ := (recreateResolvers_get? order byName w rs name).1 cr hget
    rw [hr₂, if_pos (Dict.mem_of_get? hget), hr']
    rfl

/-- **What a reconcile that did not fail leaves.** Each resolver kept has
the spec of the last resolver of its name and watches exactly the services
its Mappings ask for; and each resolver name some Mapping asks for is kept. -/
theorem consulWatcher.reconcile_held {w : World} {c : consulWatcher} {resolvers : List ConsulResolver}
    {mappings : List consulMapping} (hok : (consulWatcher.reconcile watchOK order w c resolvers mappings).2.2 = true)
    (name : Key) :
    (∀ r, (consulWatcher.reconcile watchOK order w c resolvers mappings).2.1.resolvers.get? name = some r →
      (lastNamed resolvers name).map (·.Spec) = some r.resolver.Spec ∧
      ∀ svc, svc ∈ r.watches ↔ Wanted resolvers mappings name svc) ∧
    ((∃ svc, Wanted resolvers mappings name svc) →
      ((consulWatcher.reconcile watchOK order w c resolvers mappings).2.1.resolvers.get? name).isSome) := by
  obtain ⟨-, hrs, hok'⟩ := consulWatcher.reconcile_spec watchOK order w c resolvers mappings
  rw [hok'] at hok
  rw [hrs]
  obtain ⟨hkept, hasked⟩ := remade_get? order resolvers mappings w c.resolvers name
  set byResolver := mappingsByResolver (resolversByName resolvers) mappings
  set byName := pruneResolvers order (resolversByName resolvers) byResolver
  set r₂ := deleteResolvers order byName (recreateResolvers order byName w c.resolvers).1
    (recreateResolvers order byName w c.resolvers).2
  -- the last loop keeps each resolver's spec and set of names
  have hres := reconcileEach_resolver watchOK order (byResolver.range order) r₂.1 r₂.2 name
  refine ⟨fun r hr => ?_, fun ⟨svc, hsvc⟩ => ?_⟩
  · rw [hr] at hres
    obtain ⟨r₂, hr₂, hsame⟩ := Option.map_eq_some_iff.1 hres.symm
    obtain ⟨hin, hspec⟩ := hkept r₂ hr₂
    refine ⟨by rw [hspec, hsame], fun svc => ?_⟩
    obtain ⟨ms, hms⟩ := Option.isSome_iff_exists.1 (Dict.mem_iff_get?.1 hin)
    rw [reconcileEach_watches watchOK order _ _ _ (Dict.range_nodup order _) hok name ms r
      ((Dict.lookup_range order _ _).trans hms) hr svc,
      mappingsByResolver_get? hms, wanted_iff_known]
    simp only [List.mem_filter, decide_eq_true_eq, and_assoc]
  · obtain ⟨m, hm, hknown, hname, -⟩ := wanted_iff_known.1 hsvc
    have hin := mem_mappingsByResolver.2 ⟨m, hm, hknown, hname⟩
    have hsome := hasked hin hsvc.2.1
    rw [← Option.isSome_map (f := fun r : Consul.resolver => r.resolver), hres, Option.isSome_map]
    exact hsome

/-- **A reconcile that does not fail runs what the Mappings ask for.** From
any state that keeps the invariant, the watches running after are exactly one
for each resolver name and service some Mapping asks for, each started with
the spec of the last resolver of its name. -/
theorem consulWatcher.reconcile_running {w : World} {c : consulWatcher} {resolvers : List ConsulResolver}
    {mappings : List consulMapping} (h : WatchesOK w c.resolvers)
    (hok : (consulWatcher.reconcile watchOK order w c resolvers mappings).2.2 = true) :
    let w' := (consulWatcher.reconcile watchOK order w c resolvers mappings).1
    (∀ id, w'.Running id → ∃ cr svc, w'.started[id]? = some (cr, svc) ∧
      Wanted resolvers mappings cr.name svc ∧ (lastNamed resolvers cr.name).map (·.Spec) = some cr.Spec) ∧
    (∀ name svc, Wanted resolvers mappings name svc →
      ∃! id, w'.Running id ∧ ∃ cr, w'.started[id]? = some (cr, svc) ∧ cr.name = name) := by
  intro w'
  have h' := consulWatcher.reconcile_ok watchOK order h resolvers mappings
  refine ⟨fun id hid => ?_, fun name svc hwant => ?_⟩
  · -- a running watch is held, by a resolver the reconcile kept
    obtain ⟨name, svc, r, hr, hs⟩ := h'.running id hid
    obtain ⟨hspec, hwatch⟩ := (consulWatcher.reconcile_held watchOK order hok name).1 r hr
    rw [← h'.named name r hr] at hspec hwatch
    exact ⟨r.resolver, svc, (h'.held name r svc id hr hs).1, (hwatch svc).1 (Dict.mem_of_get? hs), hspec⟩
  · -- the resolver asked for is kept, and watches the service
    obtain ⟨r, hr⟩ := Option.isSome_iff_exists.1 ((consulWatcher.reconcile_held watchOK order hok name).2 ⟨svc, hwant⟩)
    have hmem := (((consulWatcher.reconcile_held watchOK order hok name).1 r hr).2 svc).2 hwant
    obtain ⟨id, hid⟩ := Option.isSome_iff_exists.1 (Dict.mem_iff_get?.1 hmem)
    have hstarted := (h'.held name r svc id hr hid).1
    have hrun := (h'.running_iff id).2 ⟨name, svc, r, hr, hid⟩
    refine ⟨id, ⟨hrun, r.resolver, hstarted, h'.named name r hr⟩, ?_⟩
    rintro id' ⟨hrun', cr', hs', hn'⟩
    exact h'.running_unique hrun' hrun hs' hstarted (by rw [hn', h'.named name r hr])

theorem consulWatcher.cleanup_ok (w : World) (c : consulWatcher) : (consulWatcher.cleanup watchOK order w c).2.2 = true := by
  unfold consulWatcher.cleanup
  obtain ⟨-, -, hok⟩ := consulWatcher.reconcile_spec watchOK order w c [] []
  -- no Mappings: there is no resolver to reconcile
  rw [hok, show mappingsByResolver (resolversByName []) [] = ∅ from rfl, Dict.range_empty]
  rfl

/-- From any state that keeps the invariant, `cleanup` stops every watch. -/
theorem consulWatcher.cleanup_stops {w : World} {c : consulWatcher} (h : WatchesOK w c.resolvers) (id : ℕ) :
    ¬(consulWatcher.cleanup watchOK order w c).1.Running id := by
  intro hid
  have hrun := (consulWatcher.reconcile_running watchOK order h (consulWatcher.cleanup_ok watchOK order w c)).1 id hid
  -- with no Mappings, nothing is wanted
  obtain ⟨cr, svc, -, ⟨-, -, m, hm, -⟩, -⟩ := hrun
  exact List.not_mem_nil hm

/-! ### Over every run -/

/-- **No watch leaks, none is stopped twice.** Whatever the entrypoint calls
and whichever starts of a watch fail, only started watches are stopped, none
twice; a watch runs exactly when the watcher holds it; and at most one runs
for a resolver name and a service. -/
theorem run_watches_held (envAmbID : Key) (calls : List Call) :
    let st := run watchOK envAmbID calls
    (∀ id ∈ st.1.stopped, id < st.1.started.length) ∧ st.1.stopped.Nodup ∧
    (∀ id, st.1.Running id ↔ ∃ name svc, Holds st.2.resolvers name svc id) ∧
    ∀ id₁ id₂ cr₁ cr₂ svc, st.1.Running id₁ → st.1.Running id₂ → st.1.started[id₁]? = some (cr₁, svc) →
      st.1.started[id₂]? = some (cr₂, svc) → cr₁.name = cr₂.name → id₁ = id₂ := by
  have h := run_watchesOK watchOK envAmbID calls
  exact ⟨h.stopped_lt, h.stopped_nodup, h.running_iff, fun _ _ _ _ _ => h.running_unique⟩

/-- **`ReconcileConsul` runs what the snapshot asks for.** Whatever the calls
before, a `ReconcileConsul` that does not fail leaves running exactly one watch
for each resolver name and service some Mapping or TCPMapping of this
Ambassador asks for, a resolver of that name being in the snapshot, and no
other watch; each runs with the spec of the last resolver of its name. -/
theorem reconcile_runs_wanted (envAmbID : Key) (calls : List Call) (s : KubernetesSnapshot)
    (crs : List ConsulResolver)
    (hok : (ReconcileConsul watchOK order envAmbID (run watchOK envAmbID calls).1 (run watchOK envAmbID calls).2 s
      crs).2.2 = true) :
    let w := (ReconcileConsul watchOK order envAmbID (run watchOK envAmbID calls).1 (run watchOK envAmbID calls).2 s crs).1
    (∀ id, w.Running id → ∃ cr svc, w.started[id]? = some (cr, svc) ∧
      Wanted crs (consulMappings envAmbID s) cr.name svc ∧ (lastNamed crs cr.name).map (·.Spec) = some cr.Spec) ∧
    (∀ name svc, Wanted crs (consulMappings envAmbID s) name svc →
      ∃! id, w.Running id ∧ ∃ cr, w.started[id]? = some (cr, svc) ∧ cr.name = name) :=
  consulWatcher.reconcile_running watchOK order (run_watchesOK watchOK envAmbID calls) hok

/-- **`cleanup` stops every watch.** Whatever the calls before, no watch runs
after `cleanup`. -/
theorem cleanup_stops_all (envAmbID : Key) (calls : List Call) (id : ℕ) :
    ¬(consulWatcher.cleanup watchOK order (run watchOK envAmbID calls).1 (run watchOK envAmbID calls).2).1.Running id :=
  consulWatcher.cleanup_stops watchOK order (run_watchesOK watchOK envAmbID calls) id

/-! ### Bootstrapping -/

/-- The watcher has answered that it is bootstrapped, and remembers it. -/
def consulWatcher.Bootstrapped (c : consulWatcher) : Prop :=
  c.firstReconcileHasHappened = true ∧ c.bootstrapped = true

/-- A reconcile never unsets the first-reconcile flag, and leaves
bootstrappedness as it was. -/
theorem consulWatcher.reconcile_flags (w : World) (c : consulWatcher) (resolvers : List ConsulResolver)
    (mappings : List consulMapping) :
    (c.firstReconcileHasHappened = true →
      (consulWatcher.reconcile watchOK order w c resolvers mappings).2.1.firstReconcileHasHappened = true) ∧
    (consulWatcher.reconcile watchOK order w c resolvers mappings).2.1.bootstrapped = c.bootstrapped := by
  unfold consulWatcher.reconcile
  dsimp only
  split
  · exact ⟨id, rfl⟩
  · split_ifs
    · exact ⟨id, rfl⟩
    · exact ⟨fun _ => rfl, rfl⟩

theorem consulWatcher.reconcile_bootstrapped {w : World} {c : consulWatcher} (h : c.Bootstrapped)
    (resolvers : List ConsulResolver) (mappings : List consulMapping) :
    (consulWatcher.reconcile watchOK order w c resolvers mappings).2.1.Bootstrapped :=
  have hflags := consulWatcher.reconcile_flags watchOK order w c resolvers mappings
  ⟨hflags.1 h.1, hflags.2.trans h.2⟩

/-- A bootstrapped watcher answers `true` and stays as it is. -/
theorem consulWatcher.isBootstrapped_of_bootstrapped {c : consulWatcher} (h : c.Bootstrapped) :
    c.isBootstrapped = (true, c) := by
  unfold consulWatcher.isBootstrapped
  rw [if_neg (by simp [h.1]), if_pos h.2]

/-- A watcher that answers `false` stays as it is. -/
theorem consulWatcher.isBootstrapped_of_false {c : consulWatcher} (h : c.isBootstrapped.1 = false) :
    c.isBootstrapped = (false, c) := by
  unfold consulWatcher.isBootstrapped at h ⊢
  split_ifs at h ⊢ <;> rfl

/-- After answering `true`, the watcher is bootstrapped. -/
theorem consulWatcher.bootstrapped_of_isBootstrapped {c : consulWatcher} (h : c.isBootstrapped.1 = true) :
    c.isBootstrapped.2.Bootstrapped := by
  unfold consulWatcher.isBootstrapped at h ⊢
  split_ifs at h ⊢ with h₁ h₂
  · exact ⟨by simpa using h₁, h₂⟩
  · exact ⟨by simpa using h₁, rfl⟩

/-- A reconcile leaves the endpoints as they were, and after the first one
the services to wait for. -/
theorem consulWatcher.reconcile_endpoints (w : World) (c : consulWatcher) (resolvers : List ConsulResolver)
    (mappings : List consulMapping) :
    (consulWatcher.reconcile watchOK order w c resolvers mappings).2.1.endpoints = c.endpoints ∧
    (c.firstReconcileHasHappened = true →
      (consulWatcher.reconcile watchOK order w c resolvers mappings).2.1.keysForBootstrap = c.keysForBootstrap) := by
  unfold consulWatcher.reconcile
  dsimp only
  split
  · exact ⟨rfl, fun _ => rfl⟩
  · split_ifs with hfirst
    · exact ⟨rfl, fun _ => rfl⟩
    · exact ⟨rfl, fun h => absurd h hfirst⟩

@[simp] theorem consulWatcher.isBootstrapped_endpoints (c : consulWatcher) :
    c.isBootstrapped.2.endpoints = c.endpoints := by
  unfold consulWatcher.isBootstrapped
  split_ifs <;> rfl

@[simp] theorem consulWatcher.isBootstrapped_first (c : consulWatcher) :
    c.isBootstrapped.2.firstReconcileHasHappened = c.firstReconcileHasHappened := by
  unfold consulWatcher.isBootstrapped
  split_ifs <;> rfl

@[simp] theorem consulWatcher.isBootstrapped_keys (c : consulWatcher) :
    c.isBootstrapped.2.keysForBootstrap = c.keysForBootstrap := by
  unfold consulWatcher.isBootstrapped
  split_ifs <;> rfl

/-- What `isBootstrapped` remembers is what it would find again: it marks the
watcher bootstrapped only after the first reconcile, once every service it
waits for has endpoints, and endpoints are never taken away. -/
def consulWatcher.BootOK (c : consulWatcher) : Prop :=
  c.bootstrapped = true → c.firstReconcileHasHappened = true ∧ ∀ k ∈ c.keysForBootstrap, k ∈ c.endpoints

theorem consulWatcher.reconcile_bootOK {w : World} {c : consulWatcher} (h : c.BootOK)
    (resolvers : List ConsulResolver) (mappings : List consulMapping) :
    (consulWatcher.reconcile watchOK order w c resolvers mappings).2.1.BootOK := by
  intro hb
  obtain ⟨hfirst, hboot⟩ := consulWatcher.reconcile_flags watchOK order w c resolvers mappings
  obtain ⟨hep, hkeys⟩ := consulWatcher.reconcile_endpoints watchOK order w c resolvers mappings
  -- bootstrapped before, so the first reconcile had happened and fixed the keys
  obtain ⟨hf, hk⟩ := h (hboot ▸ hb)
  rw [hep, hkeys hf]
  exact ⟨hfirst hf, hk⟩

theorem consulWatcher.isBootstrapped_bootOK {c : consulWatcher} (h : c.BootOK) : c.isBootstrapped.2.BootOK := by
  unfold consulWatcher.isBootstrapped
  split_ifs with h₁ h₂ h₃
  · exact h
  · exact h
  · intro _
    refine ⟨by simpa using h₁, fun k hk => ?_⟩
    exact of_decide_eq_true (List.all_eq_true.1 h₃ k hk)
  · exact h

/-- Under the invariant, `isBootstrapped` answers whether the first reconcile
has happened and every service it waits for has endpoints; the remembered
`bootstrapped` never changes the answer. -/
theorem consulWatcher.isBootstrapped_eq {c : consulWatcher} (h : c.BootOK) :
    c.isBootstrapped.1 = (c.firstReconcileHasHappened && c.keysForBootstrap.all (· ∈ c.endpoints)) := by
  unfold consulWatcher.isBootstrapped
  split_ifs with h₁ h₂ h₃
  · simp only [Bool.not_eq_true'] at h₁
    rw [h₁, Bool.false_and]
  · obtain ⟨hf, hk⟩ := h h₂
    simp only [hf, Bool.true_and]
    exact (List.all_eq_true.2 fun k hk' => decide_eq_true (hk k hk')).symm
  · simp only [Bool.not_eq_true', Bool.not_eq_false] at h₁
    rw [h₁, h₃, Bool.true_and]
  · simp only [Bool.not_eq_true', Bool.not_eq_false] at h₁
    simp only [Bool.not_eq_true] at h₃
    rw [h₁, h₃, Bool.true_and]

theorem step_bootOK (envAmbID : Key) {st : World × consulWatcher} (h : st.2.BootOK) (call : Call) :
    (step watchOK envAmbID st call).2.BootOK := by
  cases call with
  | reconcile s crs o => exact consulWatcher.reconcile_bootOK watchOK o h crs _
  | endpoints ep =>
    intro hb
    obtain ⟨hf, hk⟩ := h hb
    exact ⟨hf, fun k hk' => Dict.mem_set.2 (.inr (hk k hk'))⟩
  | isBootstrapped => exact consulWatcher.isBootstrapped_bootOK h
  | cleanup o => exact consulWatcher.reconcile_bootOK watchOK o h [] []

/-- One call: the endpoints a service has are kept, and an endpoints call
adds its service's. -/
theorem step_endpoints (envAmbID : Key) (st : World × consulWatcher) (call : Call) (k : Key) :
    k ∈ (step watchOK envAmbID st call).2.endpoints ↔
      k ∈ st.2.endpoints ∨ ∃ ep, call = .endpoints ep ∧ ep.Service = k := by
  cases call with
  | reconcile s crs o =>
    simp [step, ReconcileConsul, (consulWatcher.reconcile_endpoints watchOK o _ _ _ _).1]
  | endpoints ep =>
    simp only [step, consulWatcher.updateEndpoints, Dict.mem_set, Call.endpoints.injEq, exists_eq_left']
    rw [or_comm, eq_comm]
  | isBootstrapped => simp [step]
  | cleanup o => simp [step, consulWatcher.cleanup, (consulWatcher.reconcile_endpoints watchOK o _ _ _ _).1]

/-- One call after the first reconcile keeps the services to wait for. -/
theorem step_keys (envAmbID : Key) {st : World × consulWatcher} (h : st.2.firstReconcileHasHappened = true)
    (call : Call) :
    (step watchOK envAmbID st call).2.firstReconcileHasHappened = true ∧
      (step watchOK envAmbID st call).2.keysForBootstrap = st.2.keysForBootstrap := by
  cases call with
  | reconcile s crs o =>
    exact ⟨(consulWatcher.reconcile_flags watchOK o _ _ _ _).1 h, (consulWatcher.reconcile_endpoints watchOK o _ _ _ _).2 h⟩
  | endpoints ep => exact ⟨h, rfl⟩
  | isBootstrapped => simpa [step] using h
  | cleanup o =>
    exact ⟨(consulWatcher.reconcile_flags watchOK o _ _ _ _).1 h, (consulWatcher.reconcile_endpoints watchOK o _ _ _ _).2 h⟩

theorem run_append (envAmbID : Key) (calls calls' : List Call) :
    run watchOK envAmbID (calls ++ calls') = calls'.foldl (step watchOK envAmbID) (run watchOK envAmbID calls) := by
  unfold run
  rw [List.foldl_append]

theorem run_bootOK (envAmbID : Key) (calls : List Call) : (run watchOK envAmbID calls).2.BootOK := by
  induction calls using List.reverseRecOn with
  | nil => exact fun h => absurd h Bool.false_ne_true
  | append_singleton calls call ih =>
    rw [run_append]
    exact step_bootOK watchOK envAmbID ih call

/-- A service has endpoints after a run exactly when some call of the run
delivered them. -/
theorem run_endpoints (envAmbID : Key) (calls : List Call) (k : Key) :
    k ∈ (run watchOK envAmbID calls).2.endpoints ↔ ∃ ep, Call.endpoints ep ∈ calls ∧ ep.Service = k := by
  induction calls using List.reverseRecOn with
  | nil => simp [run, newConsulWatcher]
  | append_singleton calls call ih =>
    rw [run_append, List.foldl_cons, List.foldl_nil, step_endpoints, ih]
    constructor
    · rintro (⟨ep, hep, hk⟩ | ⟨ep, rfl, hk⟩)
      · exact ⟨ep, List.mem_append_left _ hep, hk⟩
      · exact ⟨ep, List.mem_append_right _ (List.mem_singleton_self _), hk⟩
    · rintro ⟨ep, hep, hk⟩
      rcases List.mem_append.1 hep with hep | hep
      · exact .inl ⟨ep, hep, hk⟩
      · exact .inr ⟨ep, (List.mem_singleton.1 hep).symm, hk⟩

/-- After the first reconcile, no call changes the services to wait for. -/
theorem run_keys (envAmbID : Key) (calls : List Call)
    (h : (run watchOK envAmbID calls).2.firstReconcileHasHappened = true) :
    ∀ calls', (run watchOK envAmbID (calls ++ calls')).2.firstReconcileHasHappened = true ∧
      (run watchOK envAmbID (calls ++ calls')).2.keysForBootstrap = (run watchOK envAmbID calls).2.keysForBootstrap := by
  intro calls'
  induction calls' using List.reverseRecOn with
  | nil => exact ⟨by rw [List.append_nil]; exact h, by rw [List.append_nil]⟩
  | append_singleton calls' call ih =>
    rw [← List.append_assoc, run_append, List.foldl_cons, List.foldl_nil]
    obtain ⟨hf, hk⟩ := step_keys watchOK envAmbID ih.1 call
    exact ⟨hf, hk.trans ih.2⟩

end Reconcile

/-- A snapshot with one Mapping of service `svc` through the resolver `consul`. -/
def consulSnapshot : KubernetesSnapshot :=
  { mappings := [{ name := "m".toList, «namespace» := "default".toList, ambassadorID := [],
                   service := "svc".toList, resolver := "consul".toList }] }

/-- The resolver `consul`. -/
def consulDC1 : ConsulResolver :=
  ⟨"consul".toList, "default".toList, ⟨[], "consul:8500".toList, "dc1".toList⟩⟩

theorem reconcile_runs_wanted_consul :
    (ReconcileConsul (fun _ _ _ => true) Dict.KeyOrder.asSet "default".toList (run (fun _ _ _ => true) "default".toList []).1
      (run (fun _ _ _ => true) "default".toList []).2 consulSnapshot [consulDC1]).2.2 = true ∧
    let w := (ReconcileConsul (fun _ _ _ => true) Dict.KeyOrder.asSet "default".toList (run (fun _ _ _ => true) "default".toList []).1
      (run (fun _ _ _ => true) "default".toList []).2 consulSnapshot [consulDC1]).1
    (∀ id, w.Running id → ∃ cr svc, w.started[id]? = some (cr, svc) ∧
      Wanted [consulDC1] (consulMappings "default".toList consulSnapshot) cr.name svc ∧
      (lastNamed [consulDC1] cr.name).map (·.Spec) = some cr.Spec) ∧
    (∀ name svc, Wanted [consulDC1] (consulMappings "default".toList consulSnapshot) name svc →
      ∃! id, w.Running id ∧ ∃ cr, w.started[id]? = some (cr, svc) ∧ cr.name = name) := by
  have hok : (ReconcileConsul (fun _ _ _ => true) Dict.KeyOrder.asSet "default".toList (run (fun _ _ _ => true) "default".toList []).1
      (run (fun _ _ _ => true) "default".toList []).2 consulSnapshot [consulDC1]).2.2 = true := by
    decide
  exact ⟨hok, reconcile_runs_wanted (fun _ _ _ => true) Dict.KeyOrder.asSet "default".toList [] consulSnapshot [consulDC1] hok⟩

/-- A first reconcile with `consulSnapshot`, then one that asks for nothing. -/
def firstThenNone : List Call := [.reconcile consulSnapshot [consulDC1] Dict.KeyOrder.asSet]

end Consul
end Emissary

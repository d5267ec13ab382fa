/-
# The snapshot rate limiter of ambex

`updaterWithTicker` (ambex/ratelimit.go) hands configuration updates on to
Envoy no faster than memory allows. It wakes on each update that arrives, on
each tick of its ticker, and when its context ends. An update becomes the
`latest` one and clears `pushed`; a tick does nothing once the latest update
is pushed. Otherwise the loop drops from `updateTimes` the pushes that drained
(`gcUpdateTimes`: those a drain time ago or older), reads the memory usage and
derives from it a budget of stale configurations (`maxStaleReconfigs`, zero
for none). It pushes the latest update unless the budget is spent or no
update has arrived yet, returns the push's error if there is one, and
otherwise records the push's time.

Over every run whose clock readings do not decrease, and any usage readings,
each push keeps the budget read for it: with it, the pushes whose drain
window still holds its time are at most the budget, when there is one. Each
push is of the update that arrived last, and between two pushes an update
arrives, so the pushed updates are a sublist of the arrivals
(`updaterWithTicker_pushes`). The proof carries `Inv` along the run: the
recorded times, seen through any window from the last reading on, are the
times of the pushes, `latest` is the last arrival, and while `pushed` is
clear an update has arrived since the last push.

The `select` is modelled by the events it picks in turn: an update with the
clock's reading, a tick with its time, each with the usage `getUsage`
returns if the loop reads it, and the end of the context. An update's
function is modelled by the error it returns. The debug information the loop
stores and its log lines are left out.

Key definitions: `gcUpdateTimes`, `maxStaleReconfigs`, `State.reconfig`,
`State.step`, `updaterWithTicker`, `Inv`.
Key theorems: `State.reconfig_cases`, `Inv.step`, `Inv.run`,
`pushedUpdates_sublist_arrivals`, `updaterWithTicker_pushes`.
-/
import Emissary.Basic
import Emissary.Lib.Trace

namespace Emissary
namespace Ambex

open Trace

/-! ### The loop -/

set_option linter.dupNamespace false in
/-- An `Update`: the version it logs, and what its function returns (an
error, or `none` for nil). -/
structure Update where
  Version : Key
  Update : Option Key
  deriving DecidableEq, Repr

/-- The budget of stale configurations for a memory usage in percent; zero
means no limit. -/
def maxStaleReconfigs (usagePercent : ℤ) : ℕ :=
  if 90 ≤ usagePercent then 1
  else if 80 ≤ usagePercent then 15
  else if 70 ≤ usagePercent then 30
  else if 60 ≤ usagePercent then 60
  else if 50 ≤ usagePercent then 120
  else 0

/-- `gcUpdateTimes`: the times `ut` with `ut.Add(drainTime).After(now)`. -/
def gcUpdateTimes (updateTimes : List ℤ) (now drainTime : ℤ) : List ℤ :=
  updateTimes.filter fun ut => now < ut + drainTime

/-- What the updater reads once: its drain time and `AMBASSADOR_AMBEX_NO_RATELIMIT`. -/
structure Config where
  drainTime : ℤ
  disableRatelimiter : Bool

/-- `usagePercent` as the loop uses it: zero when the limiter is disabled. -/
def Config.usagePercent (cfg : Config) (usage : ℤ) : ℤ :=
  if cfg.disableRatelimiter then 0 else usage

/-- The loop's variables. `latest` is `none` while it is Go's zero `Update`,
whose function is nil. -/
structure State where
  updateTimes : List ℤ
  latest : Option Update
  gotFirst : Bool
  pushed : Bool

def State.init : State := ⟨[], none, false, false⟩

/-- What the `select` picks. -/
inductive Event where
  /-- `up := <-updates`, read at `now = clock()`; `usage` is what `getUsage` returns then. -/
  | update (up : Update) (now usage : ℤ)
  /-- `now = <-ticker.C`; `usage` is what `getUsage` returns if the loop reads it. -/
  | tick (now usage : ℤ)
  /-- `<-ctx.Done()`. -/
  | done
  deriving DecidableEq, Repr

/-- The clock reading of an event. -/
def Event.time : Event → Option ℤ
  | .update _ now _ => some now
  | .tick now _ => some now
  | .done => none

/-- What a run shows: an update arriving, a push with its time and the usage
read for it, and a push's error, with which the loop returns. -/
inductive Obs where
  | arrived (up : Update)
  | pushed (up : Update) (now usage : ℤ)
  | failed (up : Update) (err : Key)
  deriving DecidableEq, Repr

/-- The loop's body after the `select`, at `now` with the usage reading
`usage`: what it shows, and the state of the next round (`none` when the loop
returns). -/
def State.reconfig (cfg : Config) (s : State) (now usage : ℤ) : List Obs × Option State :=
  let updateTimes := gcUpdateTimes s.updateTimes now cfg.drainTime
  let maxStaleReconfigs := maxStaleReconfigs (cfg.usagePercent usage)
  let staleReconfigs := updateTimes.length
  if 0 < maxStaleReconfigs ∧ maxStaleReconfigs ≤ staleReconfigs then ([], some { s with updateTimes })
  else if !s.gotFirst then ([], some { s with updateTimes })
  else
    match s.latest with
    -- the zero `Update` after `gotFirst` does not happen; its nil function would panic
    | none => ([], none)
    | some latest =>
      match latest.Update with
      | some err => ([.failed latest err], none)
      | none => ([.pushed latest now usage], some { s with updateTimes := updateTimes ++ [now], pushed := true })

/-- The `case up := <-updates` branch. -/
def State.receive (s : State) (up : Update) : State :=
  { s with latest := some up, pushed := false, gotFirst := true }

/-- One round of the loop. -/
def State.step (cfg : Config) (s : State) : Event → List Obs × Option State
  | .update up now usage =>
    let r := (s.receive up).reconfig cfg now usage
    (.arrived up :: r.1, r.2)
  | .tick now usage => if s.pushed then ([], some s) else s.reconfig cfg now usage
  | .done => ([], none)

/-- The rounds over the events the `select` picks, until the loop returns. -/
def State.run (cfg : Config) : State → List Event → List Obs
  | _, [] => []
  | s, e :: es =>
    (s.step cfg e).1 ++
      match (s.step cfg e).2 with
      | some s' => s'.run cfg es
      | none => []

/-- `updaterWithTicker` over the events it is handed. -/
def updaterWithTicker (cfg : Config) (es : List Event) : List Obs :=
  State.init.run cfg es

/-- Everything a round of the body after the `select` can do: skip (over
budget, or nothing arrived yet) with the drained times dropped, meet the
zero `Update`, fail, or push the latest update within the budget. -/
theorem State.reconfig_cases (cfg : Config) (s : State) (now usage : ℤ) :
    s.reconfig cfg now usage = ([], some { s with updateTimes := gcUpdateTimes s.updateTimes now cfg.drainTime }) ∨
    (s.gotFirst = true ∧ s.latest = none ∧ s.reconfig cfg now usage = ([], none)) ∨
    (∃ u err, s.latest = some u ∧ s.reconfig cfg now usage = ([.failed u err], none)) ∨
    (∃ u, s.latest = some u ∧
      (0 < maxStaleReconfigs (cfg.usagePercent usage) →
        (gcUpdateTimes s.updateTimes now cfg.drainTime).length < maxStaleReconfigs (cfg.usagePercent usage)) ∧
      s.reconfig cfg now usage =
        ([.pushed u now usage],
          some { s with updateTimes := gcUpdateTimes s.updateTimes now cfg.drainTime ++ [now], pushed := true })) := by
  unfold State.reconfig
  by_cases hbudget : 0 < maxStaleReconfigs (cfg.usagePercent usage) ∧
      maxStaleReconfigs (cfg.usagePercent usage) ≤ (gcUpdateTimes s.updateTimes now cfg.drainTime).length
  · exact .inl (if_pos hbudget)
  rw [if_neg hbudget]
  cases hg : s.gotFirst
  · exact .inl rfl
  rw [if_neg (by decide)]
  cases hl : s.latest with
  | none => exact .inr (.inl ⟨rfl, rfl, rfl⟩)
  | some u =>
    dsimp only
    cases herr : u.Update with
    | some err => exact .inr (.inr (.inl ⟨u, err, rfl, rfl⟩))
    | none => exact .inr (.inr (.inr ⟨u, rfl, fun hpos => by omega, rfl⟩))

/-! ### What a run shows -/

def Obs.arrival? : Obs → Option Update
  | .arrived up => some up
  | _ => none

def Obs.pushTime? : Obs → Option ℤ
  | .pushed _ now _ => some now
  | _ => none

def Obs.pushed? : Obs → Option Update
  | .pushed up _ _ => some up
  | _ => none

/-- The updates that arrived, in order. -/
def arrivals (tr : List Obs) : List Update := tr.filterMap Obs.arrival?

/-- The times of the pushes, in order. -/
def pushTimes (tr : List Obs) : List ℤ := tr.filterMap Obs.pushTime?

/-- The updates pushed, in order. -/
def pushedUpdates (tr : List Obs) : List Update := tr.filterMap Obs.pushed?

@[simp] theorem arrivals_append (tr tr' : List Obs) : arrivals (tr ++ tr') = arrivals tr ++ arrivals tr' :=
  List.filterMap_append

@[simp] theorem pushTimes_append (tr tr' : List Obs) : pushTimes (tr ++ tr') = pushTimes tr ++ pushTimes tr' :=
  List.filterMap_append

@[simp] theorem pushedUpdates_append (tr tr' : List Obs) :
    pushedUpdates (tr ++ tr') = pushedUpdates tr ++ pushedUpdates tr' :=
  List.filterMap_append

attribute [simp] Obs.arrival? Obs.pushTime? Obs.pushed?

@[simp] theorem arrivals_singleton (o : Obs) : arrivals [o] = o.arrival?.toList := by
  cases o <;> rfl

@[simp] theorem pushTimes_singleton (o : Obs) : pushTimes [o] = o.pushTime?.toList := by
  cases o <;> rfl

@[simp] theorem pushedUpdates_singleton (o : Obs) : pushedUpdates [o] = o.pushed?.toList := by
  cases o <;> rfl

/-- Since the last push, if there was one, an update has arrived. -/
def ArrivedSincePush (tr : List Obs) : Prop :=
  ∀ pre mid u now usage, tr = pre ++ .pushed u now usage :: mid → ∃ v, .arrived v ∈ mid

theorem arrivedSincePush_append_arrived (tr : List Obs) (up : Update) :
    ArrivedSincePush (tr ++ [.arrived up]) := by
  intro pre mid u now usage h
  rcases split_append_singleton h with ⟨-, hx, -⟩ | ⟨mid', rfl, -⟩
  · cases hx
  · exact ⟨up, by simp⟩

theorem ArrivedSincePush.append_failed {tr : List Obs} (h : ArrivedSincePush tr) (up : Update) (err : Key) :
    ArrivedSincePush (tr ++ [.failed up err]) := by
  intro pre mid u now usage hsplit
  rcases split_append_singleton hsplit with ⟨-, hx, -⟩ | ⟨mid', rfl, htr⟩
  · cases hx
  · obtain ⟨v, hv⟩ := h pre mid' u now usage htr
    exact ⟨v, List.mem_append_left _ hv⟩

/-- What a push of `u` at `now`, with usage reading `usage`, after the run
`pre`, is to keep: the budget, with it, over the pushes in its drain window;
that `u` arrived last; and that an update arrived since the last push. -/
def PushOK (cfg : Config) (pre : List Obs) (u : Update) (now usage : ℤ) : Prop :=
  (0 < maxStaleReconfigs (cfg.usagePercent usage) →
    ((pushTimes pre ++ [now]).filter fun t => now < t + cfg.drainTime).length ≤
      maxStaleReconfigs (cfg.usagePercent usage)) ∧
  (arrivals pre).getLast? = some u ∧
  ArrivedSincePush pre

def Obs.OK (cfg : Config) (pre : List Obs) : Obs → Prop
  | .pushed u now usage => PushOK cfg pre u now usage
  | _ => True

/-- Every push of the run keeps `PushOK`. -/
def TraceOK (cfg : Config) (tr : List Obs) : Prop := ForallPrefix (fun pre o => o.OK cfg pre) tr

/-- The pushes of a run that keeps `PushOK` are a sublist of its arrivals;
while an update has arrived since the last push, of its arrivals before the
last one. -/
theorem TraceOK.sublist {cfg : Config} {tr : List Obs} (h : TraceOK cfg tr) :
    (pushedUpdates tr).Sublist (arrivals tr) ∧
      (ArrivedSincePush tr → (pushedUpdates tr).Sublist (arrivals tr).dropLast) := by
  induction tr using List.reverseRecOn with
  | nil => exact ⟨List.Sublist.slnil, fun _ => List.Sublist.slnil⟩
  | append_singleton tr o ih =>
    obtain ⟨htr, ho⟩ := forallPrefix_append_singleton.mp h
    obtain ⟨ih₁, ih₂⟩ := ih htr
    cases o with
    | arrived up =>
      have hp : pushedUpdates (tr ++ [.arrived up]) = pushedUpdates tr := by simp
      have ha : arrivals (tr ++ [.arrived up]) = arrivals tr ++ [up] := by simp
      rw [hp, ha, List.dropLast_concat]
      exact ⟨ih₁.trans (List.sublist_append_left _ _), fun _ => ih₁⟩
    | pushed u now usage =>
      obtain ⟨-, hlast, hsince⟩ := ho
      have hp : pushedUpdates (tr ++ [.pushed u now usage]) = pushedUpdates tr ++ [u] := by simp
      have ha : arrivals (tr ++ [.pushed u now usage]) = arrivals tr := by simp
      rw [hp, ha]
      -- `u` is the last arrival, and the earlier pushes fit in the arrivals before it
      obtain ⟨before, hbefore⟩ := List.getLast?_eq_some_iff.mp hlast
      have hsplit : arrivals tr = (arrivals tr).dropLast ++ [u] := by
        rw [hbefore, List.dropLast_concat]
      constructor
      · rw [hsplit]
        exact (ih₂ hsince).append_right [u]
      · intro hafter
        obtain ⟨v, hv⟩ := hafter tr [] u now usage rfl
        cases hv
    | failed up err =>
      have hp : pushedUpdates (tr ++ [.failed up err]) = pushedUpdates tr := by simp
      have ha : arrivals (tr ++ [.failed up err]) = arrivals tr := by simp
      rw [hp, ha]
      refine ⟨ih₁, fun hafter => ih₂ fun pre mid u now usage hsplit => ?_⟩
      obtain ⟨v, hv⟩ := hafter pre (mid ++ [.failed up err]) u now usage (by rw [hsplit]; simp)
      exact ⟨v, by simpa using hv⟩

theorem pushedUpdates_sublist_arrivals {cfg : Config} {tr : List Obs} (h : TraceOK cfg tr) :
    (pushedUpdates tr).Sublist (arrivals tr) :=
  h.sublist.1

theorem TraceOK.append_arrived {cfg : Config} {tr : List Obs} (h : TraceOK cfg tr) (up : Update) :
    TraceOK cfg (tr ++ [.arrived up]) :=
  forallPrefix_append_singleton.mpr ⟨h, trivial⟩

theorem TraceOK.append_failed {cfg : Config} {tr : List Obs} (h : TraceOK cfg tr) (up : Update) (err : Key) :
    TraceOK cfg (tr ++ [.failed up err]) :=
  forallPrefix_append_singleton.mpr ⟨h, trivial⟩

/-! ### The invariant -/

theorem gcUpdateTimes_append (ts ts' : List ℤ) (now d : ℤ) :
    gcUpdateTimes (ts ++ ts') now d = gcUpdateTimes ts now d ++ gcUpdateTimes ts' now d :=
  List.filter_append ts ts'

/-- A window further on keeps less: what the window at `now` keeps, seen
through the window at `n ≥ now`, is what the window at `n` keeps. -/
theorem gcUpdateTimes_gcUpdateTimes (ts : List ℤ) {now n : ℤ} (d : ℤ) (h : now ≤ n) :
    gcUpdateTimes (gcUpdateTimes ts now d) n d = gcUpdateTimes ts n d := by
  unfold gcUpdateTimes
  rw [List.filter_filter]
  apply List.filter_congr
  intro t _
  apply Bool.eq_iff_iff.mpr
  simp only [Bool.and_eq_true, decide_eq_true_eq]
  exact ⟨fun h' => h'.1, fun h' => ⟨h', by omega⟩⟩

/-- What the loop keeps between rounds, after the run `tr`, when its last
clock reading is at most `T`. -/
structure Inv (cfg : Config) (T : ℤ) (tr : List Obs) (s : State) : Prop where
  trace_ok : TraceOK cfg tr
  /-- Seen through the window of any reading from `T` on, the recorded times
  are the times of the pushes. -/
  window : ∀ n, T ≤ n → gcUpdateTimes s.updateTimes n cfg.drainTime = gcUpdateTimes (pushTimes tr) n cfg.drainTime
  latest : s.latest = (arrivals tr).getLast?
  gotFirst : s.gotFirst = s.latest.isSome
  arrived : s.pushed = false → ArrivedSincePush tr

variable {cfg : Config} {T : ℤ} {tr : List Obs} {s : State}

theorem inv_init (cfg : Config) (T : ℤ) : Inv cfg T [] State.init where
  trace_ok := forallPrefix_nil
  window _ _ := rfl
  latest := rfl
  gotFirst := rfl
  arrived _ := fun _ _ _ _ _ h => absurd h.symm (by simp)

theorem Inv.mono (h : Inv cfg T tr s) {T' : ℤ} (hT : T ≤ T') : Inv cfg T' tr s :=
  { h with window := fun n hn => h.window n (Int.le_trans hT hn) }

/-- An update arriving keeps the invariant. -/
theorem Inv.receive (h : Inv cfg T tr s) (up : Update) : Inv cfg T (tr ++ [.arrived up]) (s.receive up) where
  trace_ok := h.trace_ok.append_arrived up
  window n hn := by
    have hp : pushTimes (tr ++ [.arrived up]) = pushTimes tr := by simp
    rw [hp]
    exact h.window n hn
  latest := by simp [State.receive]
  gotFirst := rfl
  arrived _ := arrivedSincePush_append_arrived tr up

/-- A round that skips keeps the invariant, with the drained times dropped
and the reading moved on to `now`. -/
theorem Inv.skip (h : Inv cfg T tr s) {now : ℤ} (hT : T ≤ now) :
    Inv cfg now tr { s with updateTimes := gcUpdateTimes s.updateTimes now cfg.drainTime } :=
  { h with
    window := fun n hn => by
      rw [gcUpdateTimes_gcUpdateTimes _ _ hn]
      exact h.window n (Int.le_trans hT hn) }

/-- A push within the budget keeps the invariant, and is a push `PushOK` allows. -/
theorem Inv.push (h : Inv cfg T tr s) {now usage : ℤ} {u : Update} (hT : T ≤ now) (hp : s.pushed = false)
    (hl : s.latest = some u)
    (hbudget : 0 < maxStaleReconfigs (cfg.usagePercent usage) →
      (gcUpdateTimes s.updateTimes now cfg.drainTime).length < maxStaleReconfigs (cfg.usagePercent usage)) :
    Inv cfg now (tr ++ [.pushed u now usage])
      { s with updateTimes := gcUpdateTimes s.updateTimes now cfg.drainTime ++ [now], pushed := true } where
  trace_ok := by
    refine forallPrefix_append_singleton.mpr ⟨h.trace_ok, ?_, h.latest ▸ hl, h.arrived hp⟩
    -- the recorded times in the window at `now` are the pushes in it, fewer than the budget
    intro hpos
    have hstale := hbudget hpos
    rw [h.window now hT] at hstale
    have hlen : ((pushTimes tr ++ [now]).filter fun t => now < t + cfg.drainTime).length ≤
        (gcUpdateTimes (pushTimes tr) now cfg.drainTime).length + 1 := by
      rw [List.filter_append, List.length_append]
      exact Nat.add_le_add_left (List.length_filter_le _ _) _
    omega
  window n hn := by
    have hpt : pushTimes (tr ++ [.pushed u now usage]) = pushTimes tr ++ [now] := by simp
    rw [hpt, gcUpdateTimes_append, gcUpdateTimes_append, gcUpdateTimes_gcUpdateTimes _ _ hn,
      h.window n (Int.le_trans hT hn)]
  latest := by
    rw [h.latest]
    simp
  gotFirst := h.gotFirst
  arrived := fun hpushed => nomatch hpushed

/-- What a round leaves after the run `tr`: the invariant at `T` if the loop
goes on, and `TraceOK` of the run if it returns. -/
def StepOK (cfg : Config) (T : ℤ) (tr : List Obs) : List Obs × Option State → Prop
  | (obs, some s') => Inv cfg T (tr ++ obs) s'
  | (obs, none) => TraceOK cfg (tr ++ obs)

theorem StepOK.cons {o : Obs} {r : List Obs × Option State} (h : StepOK cfg T (tr ++ [o]) r) :
    StepOK cfg T tr (o :: r.1, r.2) := by
  obtain ⟨obs, _ | s'⟩ := r
  · simpa [StepOK] using h
  · simpa [StepOK] using h

/-- The body after the `select` keeps the invariant when `pushed` is clear. -/
theorem Inv.reconfig (h : Inv cfg T tr s) {now : ℤ} (usage : ℤ) (hT : T ≤ now) (hp : s.pushed = false) :
    StepOK cfg now tr (s.reconfig cfg now usage) := by
  rcases s.reconfig_cases cfg now usage with hr | ⟨hg, hl, -⟩ | ⟨u, err, -, hr⟩ | ⟨u, hl, hbudget, hr⟩
  · rw [hr]
    simpa [StepOK] using h.skip hT
  · -- `gotFirst` is set only with `latest`
    have := h.gotFirst
    rw [hg, hl] at this
    cases this
  · rw [hr]
    exact h.trace_ok.append_failed u err
  · rw [hr]
    exact h.push hT hp hl hbudget

/-- **One round keeps the invariant.** -/
theorem Inv.step (h : Inv cfg T tr s) (e : Event) (hT : ∀ t, e.time = some t → T ≤ t) :
    StepOK cfg (e.time.getD T) tr (s.step cfg e) := by
  cases e with
  | update up now usage =>
    exact StepOK.cons ((h.receive up).reconfig usage (hT now rfl) rfl)
  | tick now usage =>
    simp only [State.step]
    cases hp : s.pushed
    · exact h.reconfig usage (hT now rfl) hp
    · simpa [StepOK, Event.time] using h.mono (hT now rfl)
  | done => simpa [State.step, StepOK] using h.trace_ok

/-- The readings after an event are at or after its own, or after `T` if it
has none. -/
theorem readings_after {e : Event} {es : List Event} (hT : ∀ t ∈ (e :: es).filterMap Event.time, T ≤ t)
    (hclock : ((e :: es).filterMap Event.time).Pairwise (· ≤ ·)) :
    (∀ t, e.time = some t → T ≤ t) ∧ (∀ t ∈ es.filterMap Event.time, e.time.getD T ≤ t) ∧
      (es.filterMap Event.time).Pairwise (· ≤ ·) := by
  rw [List.filterMap_cons] at hT hclock
  cases ht : e.time with
  | none =>
    simp only [ht] at hT hclock
    exact ⟨fun _ h => (nomatch h), hT, hclock⟩
  | some t₀ =>
    simp only [ht, List.pairwise_cons] at hT hclock
    exact ⟨fun t h => (by cases h; exact hT t₀ List.mem_cons_self), hclock.1, hclock.2⟩

/-- **A whole run keeps the invariant**, so every push of it keeps `PushOK`. -/
theorem Inv.run : ∀ (es : List Event) {T : ℤ} {tr : List Obs} {s : State}, Inv cfg T tr s →
    (∀ t ∈ es.filterMap Event.time, T ≤ t) → (es.filterMap Event.time).Pairwise (· ≤ ·) →
    TraceOK cfg (tr ++ s.run cfg es)
  | [], _, _, _, h, _, _ => by simpa [State.run] using h.trace_ok
  | e :: es, T, tr, s, h, hT, hclock => by
    obtain ⟨hnow, hT', hclock'⟩ := readings_after hT hclock
    have hstep := h.step e hnow
    simp only [State.run]
    cases hr : s.step cfg e with
    | mk obs next =>
      rw [hr] at hstep
      cases next with
      | none => simpa [StepOK] using hstep
      | some s' =>
        rw [← List.append_assoc]
        exact Inv.run es hstep hT' hclock'

theorem updaterWithTicker_traceOK (cfg : Config) (es : List Event)
    (hclock : (es.filterMap Event.time).Pairwise (· ≤ ·)) : TraceOK cfg (updaterWithTicker cfg es) := by
  -- the invariant starts at the first reading, which is at most every later one
  have hfirst : ∀ t ∈ es.filterMap Event.time, (es.filterMap Event.time).head?.getD 0 ≤ t := by
    intro t ht
    cases hl : es.filterMap Event.time with
    | nil => rw [hl] at ht; cases ht
    | cons t₀ ts =>
      rw [hl, List.pairwise_cons] at hclock
      rw [hl] at ht
      rcases List.mem_cons.mp ht with rfl | ht
      · exact Int.le_refl _
      · exact hclock.1 t ht
  simpa [updaterWithTicker] using (inv_init cfg _).run es hfirst hclock

/-- Each push keeps the budget read for it: with it, the pushes whose drain
window still holds its time are at most the budget, when there is one. Each
push is of the update that arrived last, and an update arrives between two
pushes, so the pushed updates are a sublist of the arrivals. -/
theorem updaterWithTicker_pushes (cfg : Config) (es : List Event)
    (hclock : (es.filterMap Event.time).Pairwise (· ≤ ·)) :
    (∀ pre post u now usage, updaterWithTicker cfg es = pre ++ .pushed u now usage :: post →
      (0 < maxStaleReconfigs (cfg.usagePercent usage) →
        ((pushTimes pre ++ [now]).filter fun t => now < t + cfg.drainTime).length ≤
          maxStaleReconfigs (cfg.usagePercent usage)) ∧
      (arrivals pre).getLast? = some u ∧
      ∀ pre₁ mid u' now' usage', pre = pre₁ ++ .pushed u' now' usage' :: mid → ∃ v, .arrived v ∈ mid) ∧
    (pushedUpdates (updaterWithTicker cfg es)).Sublist (arrivals (updaterWithTicker cfg es)) := by
  have h := updaterWithTicker_traceOK cfg es hclock
  exact ⟨fun pre post u now usage hsplit => h pre _ post hsplit, pushedUpdates_sublist_arrivals h⟩

/-- Two updates at a usage of 95%: the first is pushed at once, the second
waits until the first push has drained. -/
def throttledRun : List Event :=
  [.update ⟨"v1".toList, none⟩ 0 95, .tick 5 95, .update ⟨"v2".toList, none⟩ 10 95, .tick 700 95]

example : updaterWithTicker ⟨600, false⟩ throttledRun =
    [.arrived ⟨"v1".toList, none⟩, .pushed ⟨"v1".toList, none⟩ 0 95,
      .arrived ⟨"v2".toList, none⟩, .pushed ⟨"v2".toList, none⟩ 700 95] := by
  decide

theorem updaterWithTicker_pushes_throttled :
    (throttledRun.filterMap Event.time).Pairwise (· ≤ ·) ∧
    (∀ pre post u now usage, updaterWithTicker ⟨600, false⟩ throttledRun = pre ++ .pushed u now usage :: post →
      (0 < maxStaleReconfigs (Config.usagePercent ⟨600, false⟩ usage) →
        ((pushTimes pre ++ [now]).filter fun t => now < t + 600).length ≤
          maxStaleReconfigs (Config.usagePercent ⟨600, false⟩ usage)) ∧
      (arrivals pre).getLast? = some u ∧
      ∀ pre₁ mid u' now' usage', pre = pre₁ ++ .pushed u' now' usage' :: mid → ∃ v, .arrived v ∈ mid) ∧
    (pushedUpdates (updaterWithTicker ⟨600, false⟩ throttledRun)).Sublist
      (arrivals (updaterWithTicker ⟨600, false⟩ throttledRun)) :=
  ⟨by decide, updaterWithTicker_pushes ⟨600, false⟩ throttledRun (by decide)⟩

end Ambex
end Emissary

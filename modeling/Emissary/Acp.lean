/-
# The AmbassadorWatcher: when Ambassador is alive and ready

`AmbassadorWatcher` (pkg/acp/ambassador.go) answers the pod's liveness and
readiness probes from two watchers: `DiagdWatcher` (pkg/acp/diagd.go), which
notes when snapshots are sent to diagd and when diagd has processed one, and
`EnvoyWatcher` (pkg/acp/envoy.go), which remembers whether Envoy's last
`/ready` check succeeded. Envoy is started only after the first snapshot is
processed, so the watcher runs a small state machine: `envoyNotStarted`
until then, `envoyStarting` with thirty seconds of grace, and `envoyRunning`
from the first liveness check that finds Envoy up.

The watcher's state after any history of calls is a function of that
history (`Refines`, `refines_run`): the last snapshot sent and processed, the
end of diagd's grace (ten minutes from boot, moved to ten minutes after each
snapshot sent once one has been processed), Envoy's last check, the first
snapshot processed, and whether some liveness check, made after it while
diagd was alive, found Envoy up (`EnvoyRan`). From this the verdicts follow
(`acp_verdicts`), and a diagd that stops processing snapshots is declared
dead ten minutes after the last one sent (`stuck_diagd_dead`).

Times are nanoseconds; Go's zero `time.Time` is `none`. Each call reads the
clock once, where the code may read it twice in one call.

Key definitions: `AmbassadorWatcher.IsAlive`, `AmbassadorWatcher.IsReady`,
`Refines`, `EnvoyRan`, `diagdGraceEnd`.
Key theorems: `Refines.step`, `refines_run`, `isAlive_iff`, `isReady_iff`.
-/
import Mathlib.Data.List.TakeWhile
import Emissary.Basic
import Emissary.Lib.Trace

namespace Emissary
namespace Acp

open Trace

/-- A `time.Time`, in nanoseconds. -/
abbrev Time := ℤ

def second : ℤ := 1000000000

def minute : ℤ := 60 * second

/-! ### The diagd watcher -/

structure DiagdWatcher where
  LastSent : Option Time
  LastProcessed : Option Time
  GraceEnd : Time
  deriving DecidableEq, Repr

/-- `NewDiagdWatcher`: the boot grace period of ten minutes. -/
def NewDiagdWatcher (now : Time) : DiagdWatcher := ⟨none, none, now + 10 * minute⟩

def DiagdWatcher.withinGracePeriod (w : DiagdWatcher) (now : Time) : Bool := decide (now < w.GraceEnd)

/-- `NoteSnapshotSent`: once a snapshot has been processed, each snapshot
sent moves the grace period to ten minutes after it. -/
def DiagdWatcher.NoteSnapshotSent (w : DiagdWatcher) (now : Time) : DiagdWatcher :=
  if w.LastProcessed.isSome then { w with LastSent := some now, GraceEnd := now + 10 * minute }
  else { w with LastSent := some now }

def DiagdWatcher.NoteSnapshotProcessed (w : DiagdWatcher) (now : Time) : DiagdWatcher :=
  { w with LastProcessed := some now }

/-- `IsAlive`: the last snapshot sent has been processed, or we are within
the grace period. -/
def DiagdWatcher.IsAlive (w : DiagdWatcher) (now : Time) : Bool :=
  match w.LastSent, w.LastProcessed with
  | some s, some p => decide (s < p) || w.withinGracePeriod now
  | _, _ => w.withinGracePeriod now

/-- `IsReady`: as `IsAlive`, but never before a snapshot has been both sent
and processed. -/
def DiagdWatcher.IsReady (w : DiagdWatcher) (now : Time) : Bool :=
  match w.LastSent, w.LastProcessed with
  | some s, some p => decide (s < p) || w.withinGracePeriod now
  | _, _ => false

/-! ### The Envoy watcher -/

structure EnvoyWatcher where
  LastSucceeded : Bool
  deriving DecidableEq, Repr

def NewEnvoyWatcher : EnvoyWatcher := ⟨false⟩

/-- `FetchEnvoyReady`, given what the ready check returned: a status code,
or `none` for an error. -/
def EnvoyWatcher.FetchEnvoyReady (_w : EnvoyWatcher) (resp : Option ℕ) : EnvoyWatcher :=
  ⟨decide (resp = some 200)⟩

def EnvoyWatcher.IsAlive (w : EnvoyWatcher) : Bool := w.LastSucceeded

def EnvoyWatcher.IsReady (w : EnvoyWatcher) : Bool := w.IsAlive

/-! ### The Ambassador watcher -/

inductive awState where
  | envoyNotStarted
  | envoyStarting
  | envoyRunning
  deriving DecidableEq, Repr

structure AmbassadorWatcher where
  state : awState
  ew : EnvoyWatcher
  dw : DiagdWatcher
  GraceEnd : Option Time
  deriving DecidableEq, Repr

def NewAmbassadorWatcher (ew : EnvoyWatcher) (dw : DiagdWatcher) : AmbassadorWatcher :=
  ⟨.envoyNotStarted, ew, dw, none⟩

def AmbassadorWatcher.FetchEnvoyReady (w : AmbassadorWatcher) (resp : Option ℕ) : AmbassadorWatcher :=
  { w with ew := w.ew.FetchEnvoyReady resp }

def AmbassadorWatcher.NoteSnapshotSent (w : AmbassadorWatcher) (now : Time) : AmbassadorWatcher :=
  { w with dw := w.dw.NoteSnapshotSent now }

/-- `NoteSnapshotProcessed`: the first snapshot processed starts Envoy, with
thirty seconds to come up. -/
def AmbassadorWatcher.NoteSnapshotProcessed (w : AmbassadorWatcher) (now : Time) : AmbassadorWatcher :=
  let w := { w with dw := w.dw.NoteSnapshotProcessed now }
  if w.state = .envoyNotStarted then { w with state := .envoyStarting, GraceEnd := some (now + 30 * second) }
  else w

/-- `IsAlive`: the verdict, and the watcher, which remembers once Envoy has
been seen up. The `default` branch, for a state outside the enumeration,
cannot arise. -/
def AmbassadorWatcher.IsAlive (w : AmbassadorWatcher) (now : Time) : Bool × AmbassadorWatcher :=
  if !w.dw.IsAlive now then (false, w)
  else
    match w.state with
    | .envoyNotStarted => (true, w)
    | .envoyStarting =>
      if w.ew.IsAlive then (true, { w with state := .envoyRunning })
      else
        match w.GraceEnd with
        | some g => (decide (now < g), w)
        | none => (false, w)
    | .envoyRunning => (w.ew.IsAlive, w)

def AmbassadorWatcher.IsReady (w : AmbassadorWatcher) (now : Time) : Bool :=
  w.dw.IsReady now && w.ew.IsReady

/-- The calls the watcher serves, each with the clock reading it makes. -/
inductive Op where
  | FetchEnvoyReady (resp : Option ℕ)
  | NoteSnapshotSent (now : Time)
  | NoteSnapshotProcessed (now : Time)
  | IsAlive (now : Time)
  | IsReady (now : Time)
  deriving DecidableEq, Repr

def AmbassadorWatcher.step (w : AmbassadorWatcher) : Op → AmbassadorWatcher
  | .FetchEnvoyReady resp => w.FetchEnvoyReady resp
  | .NoteSnapshotSent now => w.NoteSnapshotSent now
  | .NoteSnapshotProcessed now => w.NoteSnapshotProcessed now
  | .IsAlive now => (w.IsAlive now).2
  | .IsReady _ => w

/-- The watcher the entrypoint builds, at boot time `t`. -/
def AmbassadorWatcher.boot (t : Time) : AmbassadorWatcher :=
  NewAmbassadorWatcher NewEnvoyWatcher (NewDiagdWatcher t)

def AmbassadorWatcher.run (w : AmbassadorWatcher) (H : List Op) : AmbassadorWatcher :=
  H.foldl AmbassadorWatcher.step w

/-! What each call does to the watcher. -/

section Step

variable (w : AmbassadorWatcher)

theorem step_FetchEnvoyReady (resp : Option ℕ) :
    w.step (.FetchEnvoyReady resp) = { w with ew := ⟨decide (resp = some 200)⟩ } := rfl

theorem step_NoteSnapshotSent (now : Time) :
    w.step (.NoteSnapshotSent now) = { w with dw := w.dw.NoteSnapshotSent now } := rfl

theorem step_NoteSnapshotProcessed (now : Time) :
    w.step (.NoteSnapshotProcessed now) =
      if w.state = .envoyNotStarted then
        { w with dw := w.dw.NoteSnapshotProcessed now, state := .envoyStarting, GraceEnd := some (now + 30 * second) }
      else { w with dw := w.dw.NoteSnapshotProcessed now } := rfl

/-- A liveness check changes the watcher only to note that Envoy has come up. -/
theorem step_IsAlive (now : Time) :
    w.step (.IsAlive now) =
      if w.dw.IsAlive now = true ∧ w.state = .envoyStarting ∧ w.ew.IsAlive = true then
        { w with state := .envoyRunning }
      else w := by
  simp only [AmbassadorWatcher.step, AmbassadorWatcher.IsAlive]
  by_cases hd : w.dw.IsAlive now = true
  · cases w.state with
    | envoyNotStarted => simp [hd]
    | envoyStarting =>
      by_cases he : w.ew.IsAlive = true
      · simp [hd, he]
      · -- the verdict then rests on the grace period; the watcher is kept
        simp only [hd, he, Bool.not_true, Bool.false_eq_true, if_false]
        split <;> simp
    | envoyRunning => simp [hd]
  · simp [hd]

theorem step_IsReady (now : Time) : w.step (.IsReady now) = w := rfl

theorem run_append_singleton (H : List Op) (o : Op) : w.run (H ++ [o]) = (w.run H).step o := by
  simp [AmbassadorWatcher.run]

end Step

/-! ### What a history of calls determines -/

def Op.sent? : Op → Option Time
  | .FetchEnvoyReady _ => none
  | .NoteSnapshotSent now => some now
  | .NoteSnapshotProcessed _ => none
  | .IsAlive _ => none
  | .IsReady _ => none

def Op.processed? : Op → Option Time
  | .FetchEnvoyReady _ => none
  | .NoteSnapshotSent _ => none
  | .NoteSnapshotProcessed now => some now
  | .IsAlive _ => none
  | .IsReady _ => none

def Op.fetched? : Op → Option (Option ℕ)
  | .FetchEnvoyReady resp => some resp
  | .NoteSnapshotSent _ => none
  | .NoteSnapshotProcessed _ => none
  | .IsAlive _ => none
  | .IsReady _ => none

def lastSent (H : List Op) : Option Time := (H.filterMap Op.sent?).getLast?

def lastProcessed (H : List Op) : Option Time := (H.filterMap Op.processed?).getLast?

def firstProcessed (H : List Op) : Option Time := (H.filterMap Op.processed?).head?

def lastFetched (H : List Op) : Option (Option ℕ) := (H.filterMap Op.fetched?).getLast?

/-- Envoy's last ready check answered 200. -/
def envoyOK (H : List Op) : Prop := lastFetched H = some (some 200)

instance (H : List Op) : Decidable (envoyOK H) := inferInstanceAs (Decidable (lastFetched H = _))

/-- The snapshots sent from the first one processed on. -/
def sentAfterProcessed (H : List Op) : List Time :=
  (H.dropWhile fun o => o.processed?.isNone).filterMap Op.sent?

/-- Diagd's grace ends ten minutes after boot, or, once a snapshot has been
processed, ten minutes after the last snapshot sent since. -/
def diagdGraceEnd (boot : Time) (H : List Op) : Time :=
  match (sentAfterProcessed H).getLast? with
  | some s => s + 10 * minute
  | none => boot + 10 * minute

/-- The diagd watcher the history leaves. -/
def absDiagd (boot : Time) (H : List Op) : DiagdWatcher :=
  ⟨lastSent H, lastProcessed H, diagdGraceEnd boot H⟩

/-- Diagd is alive: it has processed a snapshot after the last one sent, or
its grace has not ended. -/
def diagdAlive (boot : Time) (H : List Op) (now : Time) : Prop :=
  (∃ s p, lastSent H = some s ∧ lastProcessed H = some p ∧ s < p) ∨ now < diagdGraceEnd boot H

/-- Diagd is ready: a snapshot has been sent and one processed, and it is alive. -/
def diagdReady (boot : Time) (H : List Op) (now : Time) : Prop :=
  ∃ s p, lastSent H = some s ∧ lastProcessed H = some p ∧ (s < p ∨ now < diagdGraceEnd boot H)

/-- Some liveness check, made once a snapshot had been processed and while
diagd was alive, found Envoy up. -/
def EnvoyRan (boot : Time) : List Op → Prop :=
  ExistsPrefix fun pre o =>
    ∃ now, o = .IsAlive now ∧ firstProcessed pre ≠ none ∧ diagdAlive boot pre now ∧ envoyOK pre

section History

variable {boot : Time} {H : List Op}

@[simp] theorem lastSent_append (H H' : List Op) : lastSent (H ++ H') = (lastSent H').or (lastSent H) := by
  simp [lastSent, List.getLast?_append]

@[simp] theorem lastProcessed_append (H H' : List Op) :
    lastProcessed (H ++ H') = (lastProcessed H').or (lastProcessed H) := by
  simp [lastProcessed, List.getLast?_append]

@[simp] theorem firstProcessed_append (H H' : List Op) :
    firstProcessed (H ++ H') = (firstProcessed H).or (firstProcessed H') := by
  simp [firstProcessed, List.head?_append]

@[simp] theorem lastFetched_append (H H' : List Op) :
    lastFetched (H ++ H') = (lastFetched H').or (lastFetched H) := by
  simp [lastFetched, List.getLast?_append]

@[simp] theorem lastSent_singleton (o : Op) : lastSent [o] = o.sent? := by
  cases o <;> rfl

@[simp] theorem lastProcessed_singleton (o : Op) : lastProcessed [o] = o.processed? := by
  cases o <;> rfl

@[simp] theorem firstProcessed_singleton (o : Op) : firstProcessed [o] = o.processed? := by
  cases o <;> rfl

@[simp] theorem lastFetched_singleton (o : Op) : lastFetched [o] = o.fetched? := by
  cases o <;> rfl

@[simp] theorem sentAfterProcessed_singleton (o : Op) : sentAfterProcessed [o] = [] := by
  cases o <;> rfl

@[simp] theorem sentAfterProcessed_nil : sentAfterProcessed [] = [] := rfl

@[simp] theorem lastSent_nil : lastSent [] = none := rfl

@[simp] theorem lastProcessed_nil : lastProcessed [] = none := rfl

@[simp] theorem firstProcessed_nil : firstProcessed [] = none := rfl

@[simp] theorem lastFetched_nil : lastFetched [] = none := rfl

theorem envoyOK_append_of_not_fetched {o : Op} (ho : o.fetched? = none) : envoyOK (H ++ [o]) ↔ envoyOK H := by
  simp [envoyOK, ho]

theorem lastSent_eq_none_iff : lastSent H = none ↔ ∀ o ∈ H, o.sent? = none := by
  simp [lastSent]

theorem firstProcessed_eq_none_iff : firstProcessed H = none ↔ ∀ o ∈ H, o.processed? = none := by
  simp [firstProcessed]

theorem lastProcessed_eq_none_iff : lastProcessed H = none ↔ firstProcessed H = none := by
  simp [lastProcessed, firstProcessed]

/-- Before a snapshot is processed, no snapshot counts towards diagd's grace. -/
theorem sentAfterProcessed_append (H H' : List Op) :
    sentAfterProcessed (H ++ H') =
      if firstProcessed H = none then sentAfterProcessed H'
      else sentAfterProcessed H ++ H'.filterMap Op.sent? := by
  have hdrop : (H.dropWhile fun o => o.processed?.isNone).isEmpty = true ↔ firstProcessed H = none := by
    simp [firstProcessed_eq_none_iff, List.dropWhile_eq_nil_iff]
  unfold sentAfterProcessed
  rw [List.dropWhile_append]
  by_cases h : firstProcessed H = none
  · simp only [hdrop.2 h, h, if_true]
  · simp only [hdrop, h, if_false, List.filterMap_append]

theorem sentAfterProcessed_eq_nil (h : firstProcessed H = none) : sentAfterProcessed H = [] := by
  simpa [h] using sentAfterProcessed_append H []

theorem diagdGraceEnd_of_none (h : firstProcessed H = none) : diagdGraceEnd boot H = boot + 10 * minute := by
  simp [diagdGraceEnd, sentAfterProcessed_eq_nil h]

/-- A call that sends no snapshot leaves the grace where it was. -/
theorem diagdGraceEnd_append_of_not_sent {o : Op} (ho : o.sent? = none) :
    diagdGraceEnd boot (H ++ [o]) = diagdGraceEnd boot H := by
  by_cases h : firstProcessed H = none
  · simp [diagdGraceEnd, sentAfterProcessed_append, h, sentAfterProcessed_eq_nil h]
  · simp [diagdGraceEnd, sentAfterProcessed_append, h, ho]

/-! The diagd watcher after one more call: the abstraction commutes with
each of its operations. -/

theorem absDiagd_nil : absDiagd boot [] = NewDiagdWatcher boot := by
  simp [absDiagd, NewDiagdWatcher, diagdGraceEnd_of_none firstProcessed_nil]

theorem absDiagd_append_sent (now : Time) :
    absDiagd boot (H ++ [.NoteSnapshotSent now]) = (absDiagd boot H).NoteSnapshotSent now := by
  by_cases h : firstProcessed H = none
  · have hp : lastProcessed H = none := lastProcessed_eq_none_iff.2 h
    simp [absDiagd, DiagdWatcher.NoteSnapshotSent, hp, diagdGraceEnd, sentAfterProcessed_append, h,
      sentAfterProcessed_eq_nil h, Op.sent?, Op.processed?]
  · have hp : (lastProcessed H).isSome := Option.isSome_iff_ne_none.2 (mt lastProcessed_eq_none_iff.1 h)
    simp [absDiagd, DiagdWatcher.NoteSnapshotSent, hp, diagdGraceEnd, sentAfterProcessed_append, h,
      Op.sent?, Op.processed?]

theorem absDiagd_append_processed (now : Time) :
    absDiagd boot (H ++ [.NoteSnapshotProcessed now]) = (absDiagd boot H).NoteSnapshotProcessed now := by
  have hg : diagdGraceEnd boot (H ++ [.NoteSnapshotProcessed now]) = diagdGraceEnd boot H :=
    diagdGraceEnd_append_of_not_sent rfl
  simp [absDiagd, DiagdWatcher.NoteSnapshotProcessed, hg, Op.sent?, Op.processed?]

theorem absDiagd_append_of_quiet {o : Op} (hs : o.sent? = none) (hp : o.processed? = none) :
    absDiagd boot (H ++ [o]) = absDiagd boot H := by
  simp [absDiagd, diagdGraceEnd_append_of_not_sent hs, hs, hp]

theorem absDiagd_isAlive (now : Time) : (absDiagd boot H).IsAlive now = true ↔ diagdAlive boot H now := by
  unfold DiagdWatcher.IsAlive diagdAlive
  cases hs : lastSent H <;> cases hp : lastProcessed H <;>
    simp [absDiagd, hs, hp, DiagdWatcher.withinGracePeriod]

theorem absDiagd_isReady (now : Time) : (absDiagd boot H).IsReady now = true ↔ diagdReady boot H now := by
  unfold DiagdWatcher.IsReady diagdReady
  cases hs : lastSent H <;> cases hp : lastProcessed H <;>
    simp [absDiagd, hs, hp, DiagdWatcher.withinGracePeriod]

theorem envoyRan_append_singleton (o : Op) :
    EnvoyRan boot (H ++ [o]) ↔ EnvoyRan boot H ∨
      ∃ now, o = .IsAlive now ∧ firstProcessed H ≠ none ∧ diagdAlive boot H now ∧ envoyOK H :=
  existsPrefix_append_singleton

/-- Envoy is seen running only after it has been started. -/
theorem EnvoyRan.started (h : EnvoyRan boot H) : firstProcessed H ≠ none := by
  obtain ⟨pre, o, post, rfl, now, -, hpre, -⟩ := h
  obtain ⟨p, hp⟩ := Option.ne_none_iff_exists'.1 hpre
  simp [hp]

end History

/-! ### The watcher refines its history -/

/-- The Ambassador watcher after history `H` from boot time `boot`. -/
structure Refines (boot : Time) (H : List Op) (w : AmbassadorWatcher) : Prop where
  dw : w.dw = absDiagd boot H
  ew : w.ew.LastSucceeded = decide (envoyOK H)
  graceEnd : w.GraceEnd = (firstProcessed H).map (· + 30 * second)
  notStarted : w.state = .envoyNotStarted ↔ firstProcessed H = none
  running : w.state = .envoyRunning ↔ EnvoyRan boot H

theorem refines_boot (t : Time) : Refines t [] (AmbassadorWatcher.boot t) where
  dw := absDiagd_nil.symm
  ew := by simp [AmbassadorWatcher.boot, NewAmbassadorWatcher, NewEnvoyWatcher, envoyOK]
  graceEnd := rfl
  notStarted := by simp [AmbassadorWatcher.boot, NewAmbassadorWatcher]
  running := by simp [AmbassadorWatcher.boot, NewAmbassadorWatcher, EnvoyRan, not_existsPrefix_nil]

section Refines

variable {boot : Time} {H : List Op} {w : AmbassadorWatcher}

theorem Refines.dw_isAlive (h : Refines boot H w) (now : Time) :
    w.dw.IsAlive now = true ↔ diagdAlive boot H now :=
  h.dw ▸ absDiagd_isAlive now

theorem Refines.dw_isReady (h : Refines boot H w) (now : Time) :
    w.dw.IsReady now = true ↔ diagdReady boot H now :=
  h.dw ▸ absDiagd_isReady now

theorem Refines.ew_isAlive (h : Refines boot H w) : w.ew.IsAlive = true ↔ envoyOK H := by
  simp [EnvoyWatcher.IsAlive, h.ew]

/-- The three states of the watcher, read off the history. -/
theorem Refines.state_cases (h : Refines boot H w) :
    (w.state = .envoyNotStarted ∧ firstProcessed H = none) ∨
      (w.state = .envoyStarting ∧ firstProcessed H ≠ none ∧ ¬EnvoyRan boot H) ∨
      (w.state = .envoyRunning ∧ EnvoyRan boot H) := by
  cases hs : w.state with
  | envoyNotStarted => exact .inl ⟨rfl, h.notStarted.1 hs⟩
  | envoyStarting =>
    refine .inr (.inl ⟨rfl, fun h0 => ?_, fun hr => ?_⟩)
    · simpa [hs] using h.notStarted.2 h0
    · simpa [hs] using h.running.2 hr
  | envoyRunning => exact .inr (.inr ⟨rfl, h.running.1 hs⟩)

/-- A watcher refines every history that agrees with its own on what the
watcher reads. -/
theorem Refines.congr {H' : List Op} (h : Refines boot H w) (hd : absDiagd boot H' = absDiagd boot H)
    (he : envoyOK H' ↔ envoyOK H) (hf : firstProcessed H' = firstProcessed H)
    (hr : EnvoyRan boot H' ↔ EnvoyRan boot H) : Refines boot H' w where
  dw := hd ▸ h.dw
  ew := by rw [h.ew]; exact decide_eq_decide.2 he.symm
  graceEnd := hf ▸ h.graceEnd
  notStarted := hf ▸ h.notStarted
  running := h.running.trans hr.symm

/-- One more call keeps the refinement: each case is one of the watcher's
methods against the history functions it moves. -/
theorem Refines.step (h : Refines boot H w) (o : Op) : Refines boot (H ++ [o]) (w.step o) := by
  cases o with
  | FetchEnvoyReady resp =>
    rw [step_FetchEnvoyReady]
    refine ⟨h.dw.trans (absDiagd_append_of_quiet rfl rfl).symm, ?_, ?_, ?_, ?_⟩
    · simp [envoyOK, Op.fetched?]
    · simpa [Op.processed?] using h.graceEnd
    · simpa [Op.processed?] using h.notStarted
    · simpa [envoyRan_append_singleton] using h.running
  | NoteSnapshotSent now =>
    rw [step_NoteSnapshotSent]
    refine ⟨by rw [absDiagd_append_sent, h.dw], ?_, ?_, ?_, ?_⟩
    · exact h.ew.trans (decide_eq_decide.2 (envoyOK_append_of_not_fetched rfl).symm)
    · simpa [Op.processed?] using h.graceEnd
    · simpa [Op.processed?] using h.notStarted
    · simpa [envoyRan_append_singleton] using h.running
  | NoteSnapshotProcessed now =>
    have hran : EnvoyRan boot (H ++ [.NoteSnapshotProcessed now]) ↔ EnvoyRan boot H := by
      simp [envoyRan_append_singleton]
    have hew : w.ew.LastSucceeded = decide (envoyOK (H ++ [.NoteSnapshotProcessed now])) :=
      h.ew.trans (decide_eq_decide.2 (envoyOK_append_of_not_fetched rfl).symm)
    rw [step_NoteSnapshotProcessed]
    rcases h.state_cases with ⟨hs, hfp⟩ | ⟨hs, hfp, hnr⟩ | ⟨hs, hr⟩
    · -- the first snapshot processed: Envoy is started
      have hnr : ¬EnvoyRan boot H := fun hr => hr.started hfp
      rw [if_pos hs]
      refine ⟨by rw [absDiagd_append_processed, h.dw], hew, ?_, ?_, ?_⟩
      · simp [hfp, Op.processed?]
      · simp [hfp, Op.processed?]
      · simp [hran, hnr]
    · obtain ⟨p, hp⟩ := Option.ne_none_iff_exists'.1 hfp
      rw [if_neg (by simp [hs])]
      refine ⟨by rw [absDiagd_append_processed, h.dw], hew, ?_, ?_, ?_⟩
      · simpa [hp] using h.graceEnd
      · simp [hs, hp]
      · simp [hs, hran, hnr]
    · obtain ⟨p, hp⟩ := Option.ne_none_iff_exists'.1 hr.started
      rw [if_neg (by simp [hs])]
      refine ⟨by rw [absDiagd_append_processed, h.dw], hew, ?_, ?_, ?_⟩
      · simpa [hp] using h.graceEnd
      · simp [hs, hp]
      · simp [hs, hran, hr]
  | IsAlive now =>
    have hq : absDiagd boot (H ++ [.IsAlive now]) = absDiagd boot H := absDiagd_append_of_quiet rfl rfl
    have he : envoyOK (H ++ [.IsAlive now]) ↔ envoyOK H := envoyOK_append_of_not_fetched rfl
    have hf : firstProcessed (H ++ [.IsAlive now]) = firstProcessed H := by simp [Op.processed?]
    have hran : EnvoyRan boot (H ++ [.IsAlive now]) ↔
        EnvoyRan boot H ∨ (firstProcessed H ≠ none ∧ diagdAlive boot H now ∧ envoyOK H) := by
      simp [envoyRan_append_singleton]
    rw [step_IsAlive]
    split
    · -- Envoy is seen up for the first time
      rename_i hup
      obtain ⟨hd, hs, hok⟩ := hup
      rw [h.dw_isAlive] at hd
      rw [h.ew_isAlive] at hok
      have hfp : firstProcessed H ≠ none := fun h0 => by simpa [hs] using h.notStarted.2 h0
      refine ⟨hq ▸ h.dw, h.ew.trans (decide_eq_decide.2 he.symm), hf ▸ h.graceEnd, ?_, ?_⟩
      · simpa [hf] using hfp
      · simpa using hran.2 (.inr ⟨hfp, hd, hok⟩)
    · rename_i hup
      refine h.congr hq he hf (hran.trans ⟨?_, .inl⟩)
      rintro (hr | ⟨hfp, hd, hok⟩)
      · exact hr
      · rcases h.state_cases with ⟨-, h0⟩ | ⟨hs, -, -⟩ | ⟨-, hr⟩
        · exact absurd h0 hfp
        · exact absurd ⟨(h.dw_isAlive now).2 hd, hs, h.ew_isAlive.2 hok⟩ hup
        · exact hr
  | IsReady now =>
    rw [step_IsReady]
    refine h.congr (absDiagd_append_of_quiet rfl rfl) (envoyOK_append_of_not_fetched rfl) (by simp [Op.processed?]) ?_
    simp [envoyRan_append_singleton]

/-! ### The verdicts -/

/-- The liveness verdict: diagd alive, and Envoy not yet started, or up at its
last check, or never seen running and still within its thirty seconds. -/
theorem Refines.isAlive_iff (h : Refines boot H w) (now : Time) :
    (w.IsAlive now).1 = true ↔ diagdAlive boot H now ∧
      (firstProcessed H = none ∨ envoyOK H ∨
        (¬EnvoyRan boot H ∧ ∃ p, firstProcessed H = some p ∧ now < p + 30 * second)) := by
  unfold AmbassadorWatcher.IsAlive
  by_cases hd : w.dw.IsAlive now = true
  · have hda := (h.dw_isAlive now).1 hd
    rcases h.state_cases with ⟨hs, hfp⟩ | ⟨hs, hfp, hnr⟩ | ⟨hs, hr⟩
    · simp [hd, hs, hda, hfp]
    · -- starting: Envoy's grace runs from the first snapshot processed
      obtain ⟨p, hp⟩ := Option.ne_none_iff_exists'.1 hfp
      have hg : w.GraceEnd = some (p + 30 * second) := by simp [h.graceEnd, hp]
      by_cases hok : envoyOK H
      · simp [hd, hs, hda, h.ew_isAlive.2 hok, hok]
      · have hne : w.ew.IsAlive = false := Bool.eq_false_iff.2 (mt h.ew_isAlive.1 hok)
        simp [hd, hs, hda, hne, hg, hok, hnr, hp]
    · simp [hd, hs, hda, h.ew_isAlive, hr, hr.started]
  · have hna : ¬diagdAlive boot H now := fun ha => hd ((h.dw_isAlive now).2 ha)
    simp [hd, hna]

theorem Refines.isReady_iff (h : Refines boot H w) (now : Time) :
    w.IsReady now = true ↔ diagdReady boot H now ∧ envoyOK H := by
  simp [AmbassadorWatcher.IsReady, EnvoyWatcher.IsReady, h.dw_isReady, h.ew_isAlive]

/-- The watcher after any history refines that history. -/
theorem refines_run (t : Time) (H : List Op) : Refines t H ((AmbassadorWatcher.boot t).run H) := by
  induction H using List.reverseRecOn with
  | nil => exact refines_boot t
  | append_singleton H o ih =>
    rw [run_append_singleton]
    exact ih.step o

end Refines

/-- The probes' answers after any history of calls from boot time `t`, in
terms of the history alone. -/
theorem acp_verdicts (t : Time) (H : List Op) (now : Time) :
    let w := (AmbassadorWatcher.boot t).run H
    ((w.IsAlive now).1 = true ↔ diagdAlive t H now ∧
      (firstProcessed H = none ∨ envoyOK H ∨
        (¬EnvoyRan t H ∧ ∃ p, firstProcessed H = some p ∧ now < p + 30 * second))) ∧
    (w.IsReady now = true ↔ diagdReady t H now ∧ envoyOK H) :=
  ⟨(refines_run t H).isAlive_iff now, (refines_run t H).isReady_iff now⟩

/-- After a snapshot is sent and none is sent or processed since, diagd is
dead from ten minutes after it, if no snapshot was processed after it. -/
theorem diagd_dead_after_quiet {t s now : Time} {pre post : List Op} (hproc : firstProcessed pre ≠ none)
    (hclock : ∀ p ∈ pre.filterMap Op.processed?, p ≤ s)
    (hquiet : ∀ o ∈ post, o.sent? = none ∧ o.processed? = none) (hlate : s + 10 * minute ≤ now) :
    ¬diagdAlive t (pre ++ .NoteSnapshotSent s :: post) now ∧
      ¬diagdReady t (pre ++ .NoteSnapshotSent s :: post) now := by
  have hsent : lastSent post = none := lastSent_eq_none_iff.2 fun o ho => (hquiet o ho).1
  have hproc' : lastProcessed post = none := by
    simpa [lastProcessed_eq_none_iff, firstProcessed_eq_none_iff] using fun o ho => (hquiet o ho).2
  obtain ⟨p, hp⟩ := Option.ne_none_iff_exists'.1 (mt lastProcessed_eq_none_iff.1 hproc)
  have hps : p ≤ s := hclock p (List.mem_of_getLast? hp)
  have hsplit : pre ++ .NoteSnapshotSent s :: post = pre ++ [.NoteSnapshotSent s] ++ post := by simp
  have hls : lastSent (pre ++ .NoteSnapshotSent s :: post) = some s := by
    rw [hsplit, lastSent_append, lastSent_append, hsent, lastSent_singleton]
    rfl
  have hlp : lastProcessed (pre ++ .NoteSnapshotSent s :: post) = some p := by
    rw [hsplit, lastProcessed_append, lastProcessed_append, hproc', lastProcessed_singleton, hp]
    rfl
  -- the grace was last moved by the snapshot sent at `s`
  have hg : diagdGraceEnd t (pre ++ .NoteSnapshotSent s :: post) = s + 10 * minute := by
    have hnil : post.filterMap Op.sent? = [] := List.filterMap_eq_nil_iff.2 fun o ho => (hquiet o ho).1
    simp [diagdGraceEnd, sentAfterProcessed_append, hproc, hnil, Op.sent?]
  rw [diagdAlive, diagdReady, hg, hls, hlp]
  constructor
  · rintro (⟨_, _, ⟨⟩, ⟨⟩, hlt⟩ | hlt)
    · exact absurd hlt (Int.not_lt.2 hps)
    · exact absurd hlt (Int.not_lt.2 hlate)
  · rintro ⟨_, _, ⟨⟩, ⟨⟩, hlt | hlt⟩
    · exact absurd hlt (Int.not_lt.2 hps)
    · exact absurd hlt (Int.not_lt.2 hlate)

theorem stuck_diagd_dead (t : Time) (pre post : List Op) (s now : Time) (hproc : firstProcessed pre ≠ none)
    (hclock : ∀ p ∈ pre.filterMap Op.processed?, p ≤ s)
    (hquiet : ∀ o ∈ post, o.sent? = none ∧ o.processed? = none) (hlate : s + 10 * minute ≤ now) :
    let w := (AmbassadorWatcher.boot t).run (pre ++ .NoteSnapshotSent s :: post)
    (w.IsAlive now).1 = false ∧ w.IsReady now = false := by
  intro w
  have href := refines_run t (pre ++ .NoteSnapshotSent s :: post)
  obtain ⟨hna, hnr⟩ := diagd_dead_after_quiet (t := t) hproc hclock hquiet hlate
  constructor
  · exact Bool.eq_false_iff.2 fun ha => hna ((href.isAlive_iff now).1 ha).1
  · exact Bool.eq_false_iff.2 fun hr => hnr ((href.isReady_iff now).1 hr).1

theorem stuck_diagd_dead_ten_minutes_on :
    firstProcessed [.NoteSnapshotSent 1, .NoteSnapshotProcessed 2] ≠ none ∧
      (∀ p ∈ [Op.NoteSnapshotSent 1, .NoteSnapshotProcessed 2].filterMap Op.processed?, p ≤ 3) ∧
      (∀ o ∈ [Op.IsAlive 4, .FetchEnvoyReady (some 200)], o.sent? = none ∧ o.processed? = none) ∧
      (let w := (AmbassadorWatcher.boot 0).run
        ([.NoteSnapshotSent 1, .NoteSnapshotProcessed 2] ++ .NoteSnapshotSent 3 :: [.IsAlive 4, .FetchEnvoyReady (some 200)])
       (w.IsAlive (3 + 10 * minute)).1 = false ∧ w.IsReady (3 + 10 * minute) = false) :=
  ⟨by decide, by decide, by decide,
    stuck_diagd_dead 0 _ _ 3 (3 + 10 * minute) (by decide) (by decide) (by decide) (Int.le_refl _)⟩

end Acp
end Emissary

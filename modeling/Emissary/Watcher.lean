/-
# The entrypoint's watcher loop

`watchAllTheThingsInternal` (`watcher.go`) brings Kubernetes, Consul and
Istio changes together in one `SnapshotHolder` and hands snapshots to the
rest of Ambassador. Three goroutines share the holder under its mutex:

* the loop, which takes a Kubernetes change (`K8sUpdate`, which also
  reconciles the Consul watches), a Consul change (`ConsulUpdate`) or an
  Istio certificate (`IstioUpdate`), and then points `out` at the notify
  channel; or sends the holder on `out` and sets it back to `nil`;
* the notify goroutine, which runs `Notify` on each holder it receives;
* the Consul watcher's `run`, which stores endpoints (`updateEndpoints`) and
  marks itself `dirty` until the loop takes its change.

Every step here is one of these done under the mutex, so a run is a list of
them in any order the channels allow (`step`, `run`). A step whose channel
is not ready does nothing, and after an error every goroutine stops
(`halted`).

`Notify` sends a snapshot only when `snapshotChangeCount` moved since the
last one it sent as `SnapshotReady`, and only once the Consul watcher is
bootstrapped. Over every run: each Kubernetes delta reaches the
`SnapshotReady` snapshots exactly once, in order, or is still unsent
(`run_delivers_deltas`); there are no more `SnapshotReady` snapshots than
counted changes (`run_ready_le_changes`); a counted change not yet sent always
has a notification on its way, or waits for the Consul watcher to be
bootstrapped (`run_change_scheduled`). The Consul watcher the loop drives is
in a state its own calls reach (`run_consul`), so what `Emissary.Consul`
proves of it holds inside the loop (`run_consul_stops`), and no step
renumbers a watch (`run_started`).

`K8sUpdate` interpolates the addresses of the ConsulResolvers its deltas
name, once for every delta naming a resolver of that name
(`k8sUpdate_resolvers`). kates' `updateField` writes the whole ConsulResolvers
field anew from the accumulator's objects when any of them changes, so in
every run a resolver interpolated before and not named this time comes back
uninterpolated, and its Consul watches are restarted at the raw address
(`rewritten_resolvers_revert`).

Key definitions: `SnapshotHolder.K8sUpdate`, `SnapshotHolder.Notify`, `step`, `Inv`.
Key theorems: `step_inv`, `run_delivers_deltas`, `run_ready_le_changes`,
`run_change_scheduled`, `run_consul_stops`, `rewritten_resolvers_revert`.
-/
import Mathlib
import Emissary.Consul
import Emissary.Kates

namespace Emissary
namespace Watcher

open Snapshot (KubernetesSnapshot)
open Consul (ConsulResolver consulWatcher ReconcileConsul)

/-! ### Snapshots and the holder -/

/-- A `kates.Delta` as `K8sUpdate` reads it: the object's kind, name and
namespace, and what happened to it. -/
structure Delta where
  Kind : Key
  Name : Key
  Namespace : Key
  DeltaType : Kates.DeltaType
  deriving DecidableEq, Repr

/-- `SnapshotDisposition`. -/
inductive SnapshotDisposition where
  | SnapshotIncomplete
  | SnapshotDefer
  | SnapshotDrop
  | SnapshotReady
  deriving DecidableEq, Repr

/-- `snapshot.Snapshot`, with the fields `Notify` fills from the holder: the
Kubernetes snapshot (its ConsulResolvers apart), the Consul endpoints and the
deltas since the last snapshot sent. -/
structure Snapshot where
  Kubernetes : KubernetesSnapshot
  ConsulResolvers : List ConsulResolver
  Consul : Dict Key Consul.Endpoints
  Deltas : List Delta

/-- `SnapshotHolder`, without its mutex, validator, meta information,
endpoint routing information and gateway dispatcher. The Kubernetes
snapshot's ConsulResolvers, whose addresses the holder rewrites, are kept
beside it. -/
structure SnapshotHolder where
  k8sSnapshot : KubernetesSnapshot
  consulResolvers : List ConsulResolver
  consulSnapshot : Dict Key Consul.Endpoints
  unsentDeltas : List Delta
  snapshotChangeCount : ℕ
  snapshotChangeNotified : ℕ
  firstReconfig : Bool

/-- `NewSnapshotHolder`. -/
def NewSnapshotHolder : SnapshotHolder := ⟨{}, [], ∅, [], 0, 0, true⟩

/-- The snapshot `Notify` marshals. -/
def SnapshotHolder.snapshot (sh : SnapshotHolder) : Snapshot :=
  ⟨sh.k8sSnapshot, sh.consulResolvers, sh.consulSnapshot, sh.unsentDeltas⟩

/-! ### `K8sUpdate` -/

/-- Where `K8sUpdate` failed. -/
inductive UpdateError where
  | FilteredUpdate
  | ReconcileSecrets
  | ReconcileConsul
  | DispatchSnapshot
  deriving DecidableEq, Repr

/-- What a Kubernetes change brings to `K8sUpdate`: whether `FilteredUpdate`
failed or changed anything; the snapshot it wrote, with the annotations
parsed; the ConsulResolvers when it wrote that field anew (decoded from the
accumulator's objects, as `Kates.Accumulator.updateField` does), and `none`
when it left the field as it was; its deltas; whether `ReconcileSecrets`
failed and whether the dispatcher, when asked, had no snapshot; and the order
in which the `range`s of its `ReconcileConsul` visit maps, which Go leaves
to each call. -/
structure K8sChange where
  updateErr : Bool
  changed : Bool
  snapshot : KubernetesSnapshot
  consulResolvers : Option (List ConsulResolver)
  deltas : List Delta
  secretsErr : Bool
  dispatchErr : Bool
  order : Dict.KeyOrder Key

/-- `os.ExpandEnv` on the address of every resolver named `name`. -/
def expandNamed (ExpandEnv : Key → Key) (name : Key) (crs : List ConsulResolver) : List ConsulResolver :=
  crs.map fun r => if r.name = name then { r with Spec := { r.Spec with Address := ExpandEnv r.Spec.Address } } else r

/-- The loop over the deltas: a ConsulResolver that changed and was not
deleted has the address of every resolver of its name interpolated. -/
def expandStep (ExpandEnv : Key → Key) (crs : List ConsulResolver) (delta : Delta) : List ConsulResolver :=
  if delta.Kind = "ConsulResolver".toList ∧ delta.DeltaType ≠ .ObjectDelete then
    expandNamed ExpandEnv delta.Name crs
  else crs

/-- A resolver with its address interpolated `k` times. -/
def expandTimes (ExpandEnv : Key → Key) (k : ℕ) (r : ConsulResolver) : ConsulResolver :=
  { r with Spec := { r.Spec with Address := ExpandEnv^[k] r.Spec.Address } }

/-- How many deltas ask for the resolvers of a name to be interpolated. -/
def interpolations (deltas : List Delta) (name : Key) : ℕ :=
  deltas.countP fun d => d.Kind = "ConsulResolver".toList ∧ d.DeltaType ≠ .ObjectDelete ∧ d.Name = name

theorem expandTimes_expandTimes (ExpandEnv : Key → Key) (k : ℕ) (r : ConsulResolver) :
    expandTimes ExpandEnv k (expandTimes ExpandEnv 1 r) = expandTimes ExpandEnv (k + 1) r := rfl

/-- The loop over the deltas interpolates each resolver's address once for
every delta of a changed ConsulResolver of its name, in whatever namespace. -/
theorem foldl_expandStep (ExpandEnv : Key → Key) : ∀ (deltas : List Delta) (crs : List ConsulResolver),
    deltas.foldl (expandStep ExpandEnv) crs = crs.map fun r => expandTimes ExpandEnv (interpolations deltas r.name) r
  | [], crs => by
    simp only [List.foldl_nil, interpolations, List.countP_nil]
    exact (List.map_id' crs).symm
  | d :: ds, crs => by
    rw [List.foldl_cons, foldl_expandStep ExpandEnv ds, expandStep]
    by_cases hd : d.Kind = "ConsulResolver".toList ∧ d.DeltaType ≠ .ObjectDelete
    · rw [if_pos hd, expandNamed, List.map_map]
      refine List.map_congr_left fun r _ => ?_
      by_cases hn : r.name = d.Name
      · -- this delta names the resolver: one interpolation more
        have hk : interpolations (d :: ds) r.name = interpolations ds r.name + 1 := by
          simp only [interpolations, List.countP_cons]
          rw [if_pos (decide_eq_true ⟨hd.1, hd.2, hn.symm⟩)]
        simp only [Function.comp_apply, if_pos hn, hk]
        exact expandTimes_expandTimes ExpandEnv _ r
      · have hk : interpolations (d :: ds) r.name = interpolations ds r.name := by
          simp only [interpolations, List.countP_cons]
          rw [if_neg (fun h => hn (of_decide_eq_true h).2.2.symm), Nat.add_zero]
        simp only [Function.comp_apply, if_neg hn, hk]
    · rw [if_neg hd]
      refine List.map_congr_left fun r _ => ?_
      have hk : interpolations (d :: ds) r.name = interpolations ds r.name := by
        simp only [interpolations, List.countP_cons]
        rw [if_neg (fun h => hd ⟨(of_decide_eq_true h).1, (of_decide_eq_true h).2.1⟩), Nat.add_zero]
      rw [hk]

/-- Whether all deltas are of Endpoints. -/
def endpointsOnly (deltas : List Delta) : Bool := deltas.all fun d => d.Kind = "Endpoints".toList

/-- What `K8sUpdate` leaves: the holder, the Consul watches and watcher, and
an error or whether something changed. -/
structure K8sResult where
  holder : SnapshotHolder
  world : Consul.World
  consul : consulWatcher
  result : Except UpdateError Bool

section Loop

-- whether `watchConsul` succeeds, `GetAmbassadorID()`, and `os.ExpandEnv`
variable (watchOK : ℕ → ConsulResolver → Key → Bool) (envAmbID : Key) (ExpandEnv : Key → Key)

/-- `K8sUpdate(ctx, watcher, consulWatcher, fastpathProcessor)`. The fast
path it feeds is left out. -/
def SnapshotHolder.K8sUpdate (sh : SnapshotHolder) (w : Consul.World) (c : consulWatcher) (ch : K8sChange) :
    K8sResult :=
  if ch.updateErr then ⟨sh, w, c, .error .FilteredUpdate⟩
  else if !ch.changed then ⟨sh, w, c, .ok false⟩
  else
    let crs := ch.deltas.foldl (expandStep ExpandEnv) (ch.consulResolvers.getD sh.consulResolvers)
    let sh := { sh with k8sSnapshot := ch.snapshot, consulResolvers := crs }
    if ch.secretsErr then ⟨sh, w, c, .error .ReconcileSecrets⟩
    else
      let r := ReconcileConsul watchOK ch.order envAmbID w c ch.snapshot crs
      if !r.2.2 then ⟨sh, r.1, r.2.1, .error .ReconcileConsul⟩
      else
        -- an update of Endpoints alone is not a change worth a snapshot
        let sh := { sh with
          unsentDeltas := sh.unsentDeltas ++ ch.deltas
          snapshotChangeCount :=
            if endpointsOnly ch.deltas then sh.snapshotChangeCount else sh.snapshotChangeCount + 1 }
        if ch.dispatchErr then ⟨sh, r.1, r.2.1, .error .DispatchSnapshot⟩
        else ⟨sh, r.1, r.2.1, .ok true⟩

/-- `ConsulUpdate`: the holder takes the Consul watcher's endpoints. The fast
path it feeds is left out. -/
def SnapshotHolder.ConsulUpdate (sh : SnapshotHolder) (c : consulWatcher) : SnapshotHolder :=
  { sh with consulSnapshot := c.update }

/-- What an Istio certificate brings to `IstioUpdate`: the snapshot with the
certificate's secret, and whether `ReconcileSecrets` failed. -/
structure IstioChange where
  snapshot : KubernetesSnapshot
  secretsErr : Bool

/-- `IstioUpdate(ctx, istio, icertUpdate)`. -/
def SnapshotHolder.IstioUpdate (sh : SnapshotHolder) (ic : IstioChange) : SnapshotHolder × Except UpdateError Bool :=
  let sh := { sh with k8sSnapshot := ic.snapshot }
  if ic.secretsErr then (sh, .error .ReconcileSecrets)
  else ({ sh with snapshotChangeCount := sh.snapshotChangeCount + 1 }, .ok true)

/-- What `Notify` leaves: the holder and the Consul watcher, the calls of
`snapshotProcessor`, the snapshot stored in `encoded`, and whether it
returned without an error. -/
structure NotifyResult where
  holder : SnapshotHolder
  consul : consulWatcher
  calls : List (SnapshotDisposition × Snapshot)
  encoded : Option Snapshot
  ok : Bool

/-- `Notify(ctx, encoded, consulWatcher, snapshotProcessor)`, with the
`snapshotProcessor` of `WatchAllTheThings`, which fails only on
`SnapshotReady` (when a reconfigure webhook fails: `readyErr`). -/
def SnapshotHolder.Notify (sh : SnapshotHolder) (c : consulWatcher) (readyErr : Bool) : NotifyResult :=
  if sh.snapshotChangeNotified = sh.snapshotChangeCount then ⟨sh, c, [], none, true⟩
  else
    let sn := sh.snapshot
    let b := c.isBootstrapped
    if b.1 then
      let sh := { sh with unsentDeltas := [], firstReconfig := false, snapshotChangeNotified := sh.snapshotChangeCount }
      if readyErr then ⟨sh, b.2, [(.SnapshotReady, sn)], some sn, false⟩
      else ⟨sh, b.2, [(.SnapshotReady, sn), (.SnapshotIncomplete, sn)], some sn, true⟩
    else ⟨sh, b.2, [(.SnapshotIncomplete, sn)], none, true⟩

/-! ### The loop -/

/-- The holder, the Consul watches and watcher, the Consul watcher's `dirty`,
whether the loop's `out` is the notify channel (else `nil`), whether the
notify goroutine has a holder to notify, whether a goroutine has returned an
error, the snapshot in `encoded`, and every call of `snapshotProcessor`. -/
structure State where
  holder : SnapshotHolder
  world : Consul.World
  consul : consulWatcher
  dirty : Bool
  out : Bool
  notifying : Bool
  halted : Bool
  encoded : Option Snapshot
  processed : List (SnapshotDisposition × Snapshot)

/-- A fresh loop: nothing watched, nothing to send. -/
def init : State := ⟨NewSnapshotHolder, ⟨[], []⟩, Consul.newConsulWatcher, false, false, false, false, none, []⟩

/-- What can happen next: a Kubernetes change, endpoints for the Consul
watcher, the Consul watcher's change taken by the loop, an Istio
certificate, the loop sending the holder, or the notify goroutine running
`Notify`. -/
inductive Event where
  | k8s (ch : K8sChange)
  | consulEndpoints (ep : Consul.Endpoints)
  | consulFire
  | istio (ic : IstioChange)
  | send
  | notify (readyErr : Bool)

/-- The loop takes a Kubernetes change: on an error it returns, and when
something changed it points `out` at the notify channel. -/
def State.k8s (s : State) (ch : K8sChange) : State :=
  let r := s.holder.K8sUpdate watchOK envAmbID ExpandEnv s.world s.consul ch
  let s' := { s with holder := r.holder, world := r.world, consul := r.consul }
  match r.result with
  | .error _ => { s' with halted := true }
  | .ok changed => if changed then { s' with out := true } else s'

/-- The loop takes an Istio certificate. -/
def State.istio (s : State) (ic : IstioChange) : State :=
  let r := s.holder.IstioUpdate ic
  match r.2 with
  | .error _ => { s with holder := r.1, halted := true }
  | .ok _ => { s with holder := r.1, out := true }

/-- The notify goroutine runs `Notify` on the holder it received. -/
def State.notify (s : State) (readyErr : Bool) : State :=
  let r := s.holder.Notify s.consul readyErr
  { s with holder := r.holder, consul := r.consul, notifying := false, halted := !r.ok,
           encoded := r.encoded.or s.encoded, processed := s.processed ++ r.calls }

/-- One step; a step whose channel is not ready, or after an error, does
nothing. -/
def step (s : State) (e : Event) : State :=
  if s.halted then s
  else
    match e with
    | .k8s ch => s.k8s watchOK envAmbID ExpandEnv ch
    | .consulEndpoints ep => { s with consul := s.consul.updateEndpoints ep, dirty := true }
    | .consulFire => if s.dirty then { s with dirty := false, holder := s.holder.ConsulUpdate s.consul, out := true } else s
    | .istio ic => s.istio ic
    | .send => if s.out && !s.notifying then { s with out := false, notifying := true } else s
    | .notify readyErr => if s.notifying then s.notify readyErr else s

/-- A run of the three goroutines from a fresh loop. -/
def run (evs : List Event) : State := evs.foldl (step watchOK envAmbID ExpandEnv) init

theorem run_append_singleton (evs : List Event) (e : Event) :
    run watchOK envAmbID ExpandEnv (evs ++ [e]) = step watchOK envAmbID ExpandEnv (run watchOK envAmbID ExpandEnv evs) e := by
  unfold run
  rw [List.foldl_append, List.foldl_cons, List.foldl_nil]

/-! ### What each step does -/

theorem step_of_halted {s : State} (h : s.halted = true) (e : Event) : step watchOK envAmbID ExpandEnv s e = s := by
  unfold step
  rw [if_pos h]

section Live

variable {s : State} (hs : s.halted = false)
include hs

theorem step_k8s (ch : K8sChange) : step watchOK envAmbID ExpandEnv s (.k8s ch) = s.k8s watchOK envAmbID ExpandEnv ch := by
  unfold step
  rw [if_neg (by simp [hs])]

theorem step_consulEndpoints (ep : Consul.Endpoints) :
    step watchOK envAmbID ExpandEnv s (.consulEndpoints ep) = { s with consul := s.consul.updateEndpoints ep, dirty := true } := by
  unfold step
  rw [if_neg (by simp [hs])]

theorem step_consulFire :
    step watchOK envAmbID ExpandEnv s .consulFire =
      if s.dirty then { s with dirty := false, holder := s.holder.ConsulUpdate s.consul, out := true } else s := by
  unfold step
  rw [if_neg (by simp [hs])]

theorem step_istio (ic : IstioChange) : step watchOK envAmbID ExpandEnv s (.istio ic) = s.istio ic := by
  unfold step
  rw [if_neg (by simp [hs])]

theorem step_send :
    step watchOK envAmbID ExpandEnv s .send =
      if s.out && !s.notifying then { s with out := false, notifying := true } else s := by
  unfold step
  rw [if_neg (by simp [hs])]

theorem step_notify (readyErr : Bool) :
    step watchOK envAmbID ExpandEnv s (.notify readyErr) = if s.notifying then s.notify readyErr else s := by
  unfold step
  rw [if_neg (by simp [hs])]

end Live

/-- No step undoes an error. -/
theorem halted_of_step {s : State} {e : Event} (h : (step watchOK envAmbID ExpandEnv s e).halted = false) :
    s.halted = false := by
  cases hs : s.halted
  · rfl
  · rw [step_of_halted watchOK envAmbID ExpandEnv hs] at h
    rw [hs] at h
    exact h

/-- What `K8sUpdate` can do: fail, find nothing changed, or take the change
and reconcile the Consul watches with it. -/
theorem K8sUpdate_cases (sh : SnapshotHolder) (w : Consul.World) (c : consulWatcher) (ch : K8sChange) :
    (∃ e, (sh.K8sUpdate watchOK envAmbID ExpandEnv w c ch).result = .error e) ∨
    (ch.updateErr = false ∧ ch.changed = false ∧ sh.K8sUpdate watchOK envAmbID ExpandEnv w c ch = ⟨sh, w, c, .ok false⟩) ∨
    (ch.updateErr = false ∧ ch.changed = true ∧
      ∃ crs, (ReconcileConsul watchOK ch.order envAmbID w c ch.snapshot crs).2.2 = true ∧
        sh.K8sUpdate watchOK envAmbID ExpandEnv w c ch =
          ⟨{ sh with
              k8sSnapshot := ch.snapshot
              consulResolvers := crs
              unsentDeltas := sh.unsentDeltas ++ ch.deltas
              snapshotChangeCount :=
                if endpointsOnly ch.deltas then sh.snapshotChangeCount else sh.snapshotChangeCount + 1 },
            (ReconcileConsul watchOK ch.order envAmbID w c ch.snapshot crs).1,
            (ReconcileConsul watchOK ch.order envAmbID w c ch.snapshot crs).2.1, .ok true⟩) := by
  unfold SnapshotHolder.K8sUpdate
  dsimp only
  by_cases hu : ch.updateErr = true
  · exact .inl ⟨_, by rw [if_pos hu]⟩
  rw [if_neg hu]
  have hu' : ch.updateErr = false := by simpa using hu
  by_cases hc : ch.changed = true
  swap
  · have hc' : ch.changed = false := by simpa using hc
    exact .inr (.inl ⟨hu', hc', by rw [if_pos (by simp [hc'])]⟩)
  rw [if_neg (by simp [hc])]
  by_cases hsec : ch.secretsErr = true
  · exact .inl ⟨_, by rw [if_pos hsec]⟩
  rw [if_neg hsec]
  by_cases hrc : (ReconcileConsul watchOK ch.order envAmbID w c ch.snapshot
      (ch.deltas.foldl (expandStep ExpandEnv) (ch.consulResolvers.getD sh.consulResolvers))).2.2 = true
  swap
  · exact .inl ⟨_, by rw [if_pos (by simpa using hrc)]⟩
  rw [if_neg (by simp [hrc])]
  by_cases hd : ch.dispatchErr = true
  · exact .inl ⟨_, by rw [if_pos hd]⟩
  rw [if_neg hd]
  exact .inr (.inr ⟨hu', hc, _, hrc, rfl⟩)

/-- What `Notify` can do: nothing, when no change is unsent; an incomplete
snapshot while the Consul watcher is not bootstrapped; or the snapshot as
`SnapshotReady`, with the deltas it carries and the change count marked sent. -/
theorem Notify_cases (sh : SnapshotHolder) (c : consulWatcher) (readyErr : Bool) :
    (sh.snapshotChangeNotified = sh.snapshotChangeCount ∧ sh.Notify c readyErr = ⟨sh, c, [], none, true⟩) ∨
    (sh.snapshotChangeNotified ≠ sh.snapshotChangeCount ∧ c.isBootstrapped.1 = false ∧
      sh.Notify c readyErr = ⟨sh, c, [(.SnapshotIncomplete, sh.snapshot)], none, true⟩) ∨
    (sh.snapshotChangeNotified ≠ sh.snapshotChangeCount ∧ c.isBootstrapped.1 = true ∧
      sh.Notify c readyErr =
        ⟨{ sh with unsentDeltas := [], firstReconfig := false, snapshotChangeNotified := sh.snapshotChangeCount },
          c.isBootstrapped.2,
          (.SnapshotReady, sh.snapshot) :: if readyErr then [] else [(.SnapshotIncomplete, sh.snapshot)],
          some sh.snapshot, !readyErr⟩) := by
  unfold SnapshotHolder.Notify
  dsimp only
  by_cases hn : sh.snapshotChangeNotified = sh.snapshotChangeCount
  · exact .inl ⟨hn, by rw [if_pos hn]⟩
  rw [if_neg hn]
  cases hb : c.isBootstrapped.1
  · refine .inr (.inl ⟨hn, rfl, ?_⟩)
    rw [if_neg Bool.false_ne_true, consulWatcher.isBootstrapped_of_false hb]
  · refine .inr (.inr ⟨hn, rfl, ?_⟩)
    rw [if_pos rfl]
    cases readyErr <;> rfl

/-- What the loop can do with a Kubernetes change: stop on an error, do
nothing when nothing changed, or take the change and point `out` at the
notify channel. -/
theorem State.k8s_cases (s : State) (ch : K8sChange) :
    (s.k8s watchOK envAmbID ExpandEnv ch).halted = true ∨
    (ch.updateErr = false ∧ ch.changed = false ∧ s.k8s watchOK envAmbID ExpandEnv ch = s) ∨
    (ch.updateErr = false ∧ ch.changed = true ∧
      ∃ crs, (ReconcileConsul watchOK ch.order envAmbID s.world s.consul ch.snapshot crs).2.2 = true ∧
        s.k8s watchOK envAmbID ExpandEnv ch =
          { s with
            holder := { s.holder with
              k8sSnapshot := ch.snapshot
              consulResolvers := crs
              unsentDeltas := s.holder.unsentDeltas ++ ch.deltas
              snapshotChangeCount :=
                if endpointsOnly ch.deltas then s.holder.snapshotChangeCount else s.holder.snapshotChangeCount + 1 }
            world := (ReconcileConsul watchOK ch.order envAmbID s.world s.consul ch.snapshot crs).1
            consul := (ReconcileConsul watchOK ch.order envAmbID s.world s.consul ch.snapshot crs).2.1
            out := true }) := by
  unfold State.k8s
  rcases K8sUpdate_cases watchOK envAmbID ExpandEnv s.holder s.world s.consul ch with
    ⟨e, he⟩ | ⟨hu, hc, hr⟩ | ⟨hu, hc, crs, hrc, hr⟩
  · left
    dsimp only
    rw [he]
  · refine .inr (.inl ⟨hu, hc, ?_⟩)
    dsimp only
    rw [hr]
    rfl
  · refine .inr (.inr ⟨hu, hc, crs, hrc, ?_⟩)
    dsimp only
    rw [hr]
    rfl

/-- What the notify goroutine can do: nothing but take the holder when no
change is unsent; send an incomplete snapshot while the Consul watcher is not
bootstrapped; or send the snapshot as `SnapshotReady`, stopping if the
webhook failed. -/
theorem State.notify_cases {s : State} (hs : s.halted = false) (readyErr : Bool) :
    (s.holder.snapshotChangeNotified = s.holder.snapshotChangeCount ∧
      s.notify readyErr = { s with notifying := false }) ∨
    (s.holder.snapshotChangeNotified ≠ s.holder.snapshotChangeCount ∧ s.consul.isBootstrapped.1 = false ∧
      s.notify readyErr =
        { s with notifying := false, processed := s.processed ++ [(.SnapshotIncomplete, s.holder.snapshot)] }) ∨
    (s.holder.snapshotChangeNotified ≠ s.holder.snapshotChangeCount ∧ s.consul.isBootstrapped.1 = true ∧
      (s.notify readyErr).halted = readyErr ∧
      (readyErr = false → s.notify readyErr =
        { s with
          holder := { s.holder with
            unsentDeltas := [], firstReconfig := false, snapshotChangeNotified := s.holder.snapshotChangeCount }
          consul := s.consul.isBootstrapped.2
          notifying := false
          encoded := some s.holder.snapshot
          processed := s.processed ++ [(.SnapshotReady, s.holder.snapshot), (.SnapshotIncomplete, s.holder.snapshot)] })) := by
  unfold State.notify
  rcases Notify_cases s.holder s.consul readyErr with ⟨hn, hr⟩ | ⟨hn, hb, hr⟩ | ⟨hn, hb, hr⟩
  · refine .inl ⟨hn, ?_⟩
    rw [hr]
    simp [hs]
  · refine .inr (.inl ⟨hn, hb, ?_⟩)
    rw [hr]
    simp [hs]
  · refine .inr (.inr ⟨hn, hb, ?_, fun he => ?_⟩)
    · rw [hr]
      simp
    · subst he
      rw [hr]
      simp [hs]

/-! ### What the snapshots carry -/

/-- Whether a call of `snapshotProcessor` hands over a `SnapshotReady` snapshot. -/
def isReady (p : SnapshotDisposition × Snapshot) : Bool := p.1 = .SnapshotReady

/-- The deltas of the `SnapshotReady` snapshots, in order. -/
def readyDeltas (ps : List (SnapshotDisposition × Snapshot)) : List Delta :=
  (ps.filter isReady).flatMap (·.2.Deltas)

/-- How many `SnapshotReady` snapshots were handed over. -/
def readyCount (ps : List (SnapshotDisposition × Snapshot)) : ℕ := ps.countP isReady

@[simp] theorem readyDeltas_append_incomplete (ps : List (SnapshotDisposition × Snapshot)) (sn : Snapshot) :
    readyDeltas (ps ++ [(.SnapshotIncomplete, sn)]) = readyDeltas ps := by
  simp [readyDeltas, isReady]

@[simp] theorem readyCount_append_incomplete (ps : List (SnapshotDisposition × Snapshot)) (sn : Snapshot) :
    readyCount (ps ++ [(.SnapshotIncomplete, sn)]) = readyCount ps := by
  simp [readyCount, isReady]

@[simp] theorem readyDeltas_append_ready (ps : List (SnapshotDisposition × Snapshot)) (sn : Snapshot) :
    readyDeltas (ps ++ [(.SnapshotReady, sn), (.SnapshotIncomplete, sn)]) = readyDeltas ps ++ sn.Deltas := by
  simp [readyDeltas, isReady]

@[simp] theorem readyCount_append_ready (ps : List (SnapshotDisposition × Snapshot)) (sn : Snapshot) :
    readyCount (ps ++ [(.SnapshotReady, sn), (.SnapshotIncomplete, sn)]) = readyCount ps + 1 := by
  simp [readyCount, isReady]

/-- The deltas a Kubernetes change hands the loop. -/
def Event.deltas : Event → List Delta
  | .k8s ch => if !ch.updateErr && ch.changed then ch.deltas else []
  | _ => []

/-- Whether an event is a change worth a snapshot: a Kubernetes change with
a delta not of Endpoints, or an Istio certificate. -/
def Event.changes : Event → ℕ
  | .k8s ch => if !ch.updateErr && ch.changed && !endpointsOnly ch.deltas then 1 else 0
  | .istio _ => 1
  | _ => 0

/-! ### The invariant -/

/-- What holds after the deltas `D` and `n` counted changes, while no
goroutine has failed: the deltas are in the `SnapshotReady` snapshots or
unsent; the count of changes sent trails the count made and leads the
`SnapshotReady` snapshots; after the first of those the Consul watcher stays
bootstrapped; and a change not yet sent has a notification on its way, or
waits, before the first snapshot, for Consul. -/
structure Inv (D : List Delta) (n : ℕ) (s : State) : Prop where
  deltas : readyDeltas s.processed ++ s.holder.unsentDeltas = D
  ready_le : readyCount s.processed ≤ s.holder.snapshotChangeNotified
  notified_le : s.holder.snapshotChangeNotified ≤ s.holder.snapshotChangeCount
  count : s.holder.snapshotChangeCount = n
  booted : s.holder.firstReconfig = false → s.consul.Bootstrapped
  scheduled : s.holder.snapshotChangeNotified < s.holder.snapshotChangeCount →
    s.out = true ∨ s.notifying = true ∨
      (s.holder.firstReconfig = true ∧ (s.dirty = true ∨ s.consul.isBootstrapped.1 = false))

theorem inv_init : Inv [] 0 init where
  deltas := rfl
  ready_le := le_refl 0
  notified_le := le_refl 0
  count := rfl
  booted h := absurd h (by decide)
  scheduled h := absurd h (lt_irrefl 0)

section Inv

variable {D : List Delta} {n : ℕ} {s : State}

/-- A change counted and the holder pointed at the notify channel. -/
theorem Inv.k8s (h : Inv D n s) (ch : K8sChange) (hs : (s.k8s watchOK envAmbID ExpandEnv ch).halted = false) :
    Inv (D ++ (Event.k8s ch).deltas) (n + (Event.k8s ch).changes) (s.k8s watchOK envAmbID ExpandEnv ch) := by
  rcases State.k8s_cases watchOK envAmbID ExpandEnv s ch with hh | ⟨hu, hc, he⟩ | ⟨hu, hc, crs, -, he⟩
  · rw [hh] at hs
    cases hs
  · have hd : (Event.k8s ch).deltas = [] := by simp [Event.deltas, hc]
    have hn : (Event.k8s ch).changes = 0 := by simp [Event.changes, hc]
    rw [he, hd, hn, List.append_nil, Nat.add_zero]
    exact h
  · have hd : (Event.k8s ch).deltas = ch.deltas := by simp [Event.deltas, hu, hc]
    have hn : (Event.k8s ch).changes = if endpointsOnly ch.deltas then 0 else 1 := by
      cases hE : endpointsOnly ch.deltas <;> simp [Event.changes, hu, hc, hE]
    rw [he, hd, hn]
    -- the new count is the old one, or one more
    have hcount : (if endpointsOnly ch.deltas then s.holder.snapshotChangeCount
        else s.holder.snapshotChangeCount + 1) = s.holder.snapshotChangeCount +
          (if endpointsOnly ch.deltas then 0 else 1) := by
      split_ifs <;> rfl
    refine ⟨?_, h.ready_le, ?_, ?_, fun hf => ?_, fun _ => .inl rfl⟩
    · rw [← h.deltas, List.append_assoc]
    · rw [hcount]
      exact le_trans h.notified_le (Nat.le_add_right _ _)
    · rw [hcount, h.count]
    · exact consulWatcher.reconcile_bootstrapped watchOK ch.order (h.booted hf) _ _

/-- The Consul watcher's endpoints are stored and it is marked dirty. -/
theorem Inv.consulEndpoints (h : Inv D n s) (ep : Consul.Endpoints) :
    Inv D n { s with consul := s.consul.updateEndpoints ep, dirty := true } where
  deltas := h.deltas
  ready_le := h.ready_le
  notified_le := h.notified_le
  count := h.count
  booted hf := h.booted hf
  scheduled hlt := by
    rcases h.scheduled hlt with ho | hn | ⟨hf, -⟩
    · exact .inl ho
    · exact .inr (.inl hn)
    · exact .inr (.inr ⟨hf, .inl rfl⟩)

/-- The loop takes the Consul watcher's change. -/
theorem Inv.consulFire (h : Inv D n s) :
    Inv D n { s with dirty := false, holder := s.holder.ConsulUpdate s.consul, out := true } where
  deltas := h.deltas
  ready_le := h.ready_le
  notified_le := h.notified_le
  count := h.count
  booted hf := h.booted hf
  scheduled _ := .inl rfl

/-- An Istio certificate is a counted change. -/
theorem Inv.istio (h : Inv D n s) (ic : IstioChange) (hs : (s.istio ic).halted = false) :
    Inv (D ++ (Event.istio ic).deltas) (n + (Event.istio ic).changes) (s.istio ic) := by
  unfold State.istio SnapshotHolder.IstioUpdate at hs ⊢
  by_cases he : ic.secretsErr = true
  · simp [he] at hs
  · simp only [he, Bool.false_eq_true, if_false, Event.deltas, Event.changes, List.append_nil]
    refine ⟨h.deltas, h.ready_le, le_trans h.notified_le (Nat.le_succ _), by rw [h.count], h.booted,
      fun _ => .inl rfl⟩

/-- The loop hands the holder to the notify goroutine. -/
theorem Inv.send (h : Inv D n s) : Inv D n { s with out := false, notifying := true } where
  deltas := h.deltas
  ready_le := h.ready_le
  notified_le := h.notified_le
  count := h.count
  booted hf := h.booted hf
  scheduled _ := .inr (.inl rfl)

/-- `Notify`: nothing, an incomplete snapshot, or the unsent deltas as a
`SnapshotReady` snapshot with the count marked sent. -/
theorem Inv.notify (h : Inv D n s) (hs : s.halted = false) (readyErr : Bool)
    (hs' : (s.notify readyErr).halted = false) : Inv D n (s.notify readyErr) := by
  rcases State.notify_cases hs readyErr with ⟨hn, he⟩ | ⟨hn, hb, he⟩ | ⟨hn, hb, hh, he⟩
  · rw [he]
    exact { h with scheduled := fun hlt => absurd hn (Nat.ne_of_lt hlt) }
  · rw [he]
    refine { h with
      deltas := by rw [readyDeltas_append_incomplete, h.deltas]
      ready_le := by rw [readyCount_append_incomplete]; exact h.ready_le
      scheduled := fun hlt => ?_ }
    -- before the first `SnapshotReady` snapshot: the Consul watcher said no
    have hf : s.holder.firstReconfig = true := by
      cases hf : s.holder.firstReconfig
      · rw [consulWatcher.isBootstrapped_of_bootstrapped (h.booted hf)] at hb
        cases hb
      · rfl
    exact .inr (.inr ⟨hf, .inr hb⟩)
  · rw [hh] at hs'
    rw [he hs']
    have hlt : s.holder.snapshotChangeNotified < s.holder.snapshotChangeCount :=
      lt_of_le_of_ne h.notified_le hn
    refine ⟨?_, ?_, le_refl _, h.count, fun _ => consulWatcher.bootstrapped_of_isBootstrapped hb,
      fun hlt' => absurd hlt' (lt_irrefl _)⟩
    · rw [readyDeltas_append_ready, ← h.deltas]
      simp [SnapshotHolder.snapshot]
    · rw [readyCount_append_ready]
      exact lt_of_le_of_lt h.ready_le hlt

/-- **Every step keeps the invariant**, the deltas and counted changes of the
step added, unless it stops the loop. -/
theorem step_inv (h : Inv D n s) (e : Event) (hs : (step watchOK envAmbID ExpandEnv s e).halted = false) :
    Inv (D ++ e.deltas) (n + e.changes) (step watchOK envAmbID ExpandEnv s e) := by
  have hs₀ := halted_of_step watchOK envAmbID ExpandEnv hs
  cases e with
  | k8s ch =>
    rw [step_k8s watchOK envAmbID ExpandEnv hs₀] at hs ⊢
    exact h.k8s watchOK envAmbID ExpandEnv ch hs
  | consulEndpoints ep =>
    rw [step_consulEndpoints watchOK envAmbID ExpandEnv hs₀]
    simp only [Event.deltas, Event.changes, List.append_nil, Nat.add_zero]
    exact h.consulEndpoints ep
  | consulFire =>
    rw [step_consulFire watchOK envAmbID ExpandEnv hs₀]
    simp only [Event.deltas, Event.changes, List.append_nil, Nat.add_zero]
    split_ifs
    · exact h.consulFire
    · exact h
  | istio ic =>
    rw [step_istio watchOK envAmbID ExpandEnv hs₀] at hs ⊢
    exact h.istio ic hs
  | send =>
    rw [step_send watchOK envAmbID ExpandEnv hs₀]
    simp only [Event.deltas, Event.changes, List.append_nil, Nat.add_zero]
    split_ifs
    · exact h.send
    · exact h
  | notify readyErr =>
    rw [step_notify watchOK envAmbID ExpandEnv hs₀] at hs ⊢
    simp only [Event.deltas, Event.changes, List.append_nil, Nat.add_zero]
    split_ifs at hs ⊢
    · exact h.notify hs₀ readyErr hs
    · exact h

end Inv

/-- The invariant over every run that has not stopped, with the deltas and
the counted changes of its events. -/
theorem run_inv (evs : List Event) (hs : (run watchOK envAmbID ExpandEnv evs).halted = false) :
    Inv (evs.flatMap Event.deltas) (evs.map Event.changes).sum (run watchOK envAmbID ExpandEnv evs) := by
  induction evs using List.reverseRecOn with
  | nil => exact inv_init
  | append_singleton evs e ih =>
    rw [run_append_singleton] at hs ⊢
    have h := step_inv watchOK envAmbID ExpandEnv (ih (halted_of_step watchOK envAmbID ExpandEnv hs)) e hs
    rw [List.flatMap_append, List.map_append, List.sum_append, List.flatMap_singleton, List.map_singleton,
      List.sum_singleton]
    exact h

/-! ### The Consul watcher inside the loop -/

/-- `K8sUpdate` moves the Consul watcher by one `ReconcileConsul` at most. -/
theorem K8sUpdate_consul (sh : SnapshotHolder) (w : Consul.World) (c : consulWatcher) (ch : K8sChange) :
    ((sh.K8sUpdate watchOK envAmbID ExpandEnv w c ch).world, (sh.K8sUpdate watchOK envAmbID ExpandEnv w c ch).consul) =
        (w, c) ∨
      ∃ crs, ((sh.K8sUpdate watchOK envAmbID ExpandEnv w c ch).world,
        (sh.K8sUpdate watchOK envAmbID ExpandEnv w c ch).consul) =
          Consul.step watchOK envAmbID (w, c) (.reconcile ch.snapshot crs ch.order) := by
  unfold SnapshotHolder.K8sUpdate
  dsimp only
  split_ifs <;> first | exact .inl rfl | exact .inr ⟨_, rfl⟩

theorem State.k8s_holder (s : State) (ch : K8sChange) :
    (s.k8s watchOK envAmbID ExpandEnv ch).holder = (s.holder.K8sUpdate watchOK envAmbID ExpandEnv s.world s.consul ch).holder := by
  unfold State.k8s
  dsimp only
  split
  · rfl
  · split_ifs <;> rfl

theorem State.k8s_consul (s : State) (ch : K8sChange) :
    ((s.k8s watchOK envAmbID ExpandEnv ch).world, (s.k8s watchOK envAmbID ExpandEnv ch).consul) =
      ((s.holder.K8sUpdate watchOK envAmbID ExpandEnv s.world s.consul ch).world,
        (s.holder.K8sUpdate watchOK envAmbID ExpandEnv s.world s.consul ch).consul) := by
  unfold State.k8s
  dsimp only
  split
  · rfl
  · split_ifs <;> rfl

/-- Each step moves the Consul watches and watcher by calls of the watcher's
own: `ReconcileConsul`, `updateEndpoints` and `isBootstrapped`. -/
theorem step_consul (s : State) (e : Event) :
    ∃ calls : List Consul.Call, ((step watchOK envAmbID ExpandEnv s e).world, (step watchOK envAmbID ExpandEnv s e).consul) =
      calls.foldl (Consul.step watchOK envAmbID) (s.world, s.consul) := by
  cases hs : s.halted
  swap
  · exact ⟨[], by rw [step_of_halted watchOK envAmbID ExpandEnv hs]; rfl⟩
  cases e with
  | k8s ch =>
    rw [step_k8s watchOK envAmbID ExpandEnv hs, State.k8s_consul]
    rcases K8sUpdate_consul watchOK envAmbID ExpandEnv s.holder s.world s.consul ch with h | ⟨crs, h⟩
    · exact ⟨[], h⟩
    · exact ⟨[.reconcile ch.snapshot crs ch.order], h⟩
  | consulEndpoints ep => exact ⟨[.endpoints ep], by rw [step_consulEndpoints watchOK envAmbID ExpandEnv hs]; rfl⟩
  | consulFire =>
    refine ⟨[], ?_⟩
    rw [step_consulFire watchOK envAmbID ExpandEnv hs]
    split_ifs <;> rfl
  | istio ic =>
    refine ⟨[], ?_⟩
    rw [step_istio watchOK envAmbID ExpandEnv hs]
    unfold State.istio
    dsimp only
    split <;> rfl
  | send =>
    refine ⟨[], ?_⟩
    rw [step_send watchOK envAmbID ExpandEnv hs]
    split_ifs <;> rfl
  | notify readyErr =>
    rw [step_notify watchOK envAmbID ExpandEnv hs]
    split_ifs
    · show ∃ calls : List Consul.Call, (s.world, (s.holder.Notify s.consul readyErr).consul) = _
      rcases Notify_cases s.holder s.consul readyErr with ⟨-, he⟩ | ⟨-, -, he⟩ | ⟨-, -, he⟩
      · exact ⟨[], by rw [he]; rfl⟩
      · exact ⟨[], by rw [he]; rfl⟩
      · exact ⟨[.isBootstrapped], by rw [he]; rfl⟩
    · exact ⟨[], rfl⟩

/-- The Consul watcher the loop drives is always where a run of its own
calls leaves it. -/
theorem run_consul (evs : List Event) :
    ∃ calls, ((run watchOK envAmbID ExpandEnv evs).world, (run watchOK envAmbID ExpandEnv evs).consul) =
      Consul.run watchOK envAmbID calls := by
  induction evs using List.reverseRecOn with
  | nil => exact ⟨[], rfl⟩
  | append_singleton evs e ih =>
    obtain ⟨calls, hc⟩ := ih
    obtain ⟨calls', hc'⟩ := step_consul watchOK envAmbID ExpandEnv (run watchOK envAmbID ExpandEnv evs) e
    refine ⟨calls ++ calls', ?_⟩
    rw [run_append_singleton, hc', hc]
    unfold Consul.run
    rw [List.foldl_append]

/-- No step renumbers a Consul watch. -/
theorem step_started (s : State) (e : Event) : s.world.started <+: (step watchOK envAmbID ExpandEnv s e).world.started := by
  obtain ⟨calls, hc⟩ := step_consul watchOK envAmbID ExpandEnv s e
  have h := Consul.foldl_step_started watchOK envAmbID calls (s.world, s.consul)
  rw [← hc] at h
  exact h

/-- Over a whole run, a Consul watch keeps its number, resolver and service. -/
theorem run_started (evs evs' : List Event) :
    (run watchOK envAmbID ExpandEnv evs).world.started <+: (run watchOK envAmbID ExpandEnv (evs ++ evs')).world.started := by
  induction evs' using List.reverseRecOn with
  | nil => simp only [List.append_nil, List.prefix_refl]
  | append_singleton evs' e ih =>
    rw [← List.append_assoc, run_append_singleton]
    exact ih.trans (step_started watchOK envAmbID ExpandEnv _ e)

/-- **Which addresses `K8sUpdate` interpolates.** The ConsulResolvers it
keeps, and reconciles the Consul watches with, are those `FilteredUpdate`
wrote (or the ones it kept), each with its address interpolated once for
every delta of a changed ConsulResolver of its name: a resolver that no delta
names keeps the address as written, which is the uninterpolated one when the
field was written anew. -/
theorem k8sUpdate_resolvers (sh : SnapshotHolder) (w : Consul.World) (c : consulWatcher) (ch : K8sChange) :
    (sh.K8sUpdate watchOK envAmbID ExpandEnv w c ch).holder.consulResolvers =
      if !ch.updateErr && ch.changed then
        (ch.consulResolvers.getD sh.consulResolvers).map fun r =>
          expandTimes ExpandEnv (interpolations ch.deltas r.name) r
      else sh.consulResolvers := by
  have hcrs := foldl_expandStep ExpandEnv ch.deltas (ch.consulResolvers.getD sh.consulResolvers)
  unfold SnapshotHolder.K8sUpdate
  dsimp only
  cases hu : ch.updateErr
  · cases hc : ch.changed
    · rfl
    · simp only [Bool.not_false, Bool.not_true, Bool.and_self, Bool.false_eq_true, if_false, if_true]
      split_ifs <;> exact hcrs
  · rfl

/-- A ConsulResolver in `default` with this name and address. -/
def consulAt (name address : Key) : ConsulResolver := ⟨name, "default".toList, ⟨[], address, "dc1".toList⟩⟩

/-- `os.ExpandEnv` with `CONSULHOST` set to `consul`. -/
def expandConsulHost (a : Key) : Key := if a = "$CONSULHOST:8500".toList then "consul:8500".toList else a

/-- A Mapping of service `svc` through the resolver `a`. -/
def resolverSnapshot : KubernetesSnapshot :=
  { mappings := [{ name := "m".toList, «namespace» := "default".toList, ambassadorID := [],
                   service := "svc".toList, resolver := "a".toList }] }

/-- The resolvers `a`, whose address names `$CONSULHOST`, and `b`, both
written anew, both named by a delta. -/
def resolversAdded : K8sChange :=
  { updateErr := false, changed := true, snapshot := resolverSnapshot,
    consulResolvers := some [consulAt "a".toList "$CONSULHOST:8500".toList, consulAt "b".toList "b:8500".toList],
    deltas := [⟨"ConsulResolver".toList, "a".toList, "default".toList, .ObjectAdd⟩,
               ⟨"ConsulResolver".toList, "b".toList, "default".toList, .ObjectAdd⟩],
    secretsErr := false, dispatchErr := false, order := Dict.KeyOrder.reversed }

/-- Then `b` changes: the field is written anew, with `a` as stored. -/
def resolverBChanged : K8sChange :=
  { resolversAdded with
    consulResolvers := some [consulAt "a".toList "$CONSULHOST:8500".toList, consulAt "b".toList "b2:8500".toList],
    deltas := [⟨"ConsulResolver".toList, "b".toList, "default".toList, .ObjectUpdate⟩] }

/-- The Consul watches the loop drives keep the watcher's invariant. -/
theorem run_consul_ok (evs : List Event) :
    Consul.WatchesOK (run watchOK envAmbID ExpandEnv evs).world (run watchOK envAmbID ExpandEnv evs).consul.resolvers := by
  obtain ⟨calls, hc⟩ := run_consul watchOK envAmbID ExpandEnv evs
  have h := Consul.run_watchesOK watchOK envAmbID calls
  rw [← hc] at h
  exact h

/-- A Kubernetes change that changed something and that the loop takes
without an error was reconciled with the Consul watches. -/
theorem State.k8s_taken {s : State} {ch : K8sChange} (hs : (s.k8s watchOK envAmbID ExpandEnv ch).halted = false)
    (hc : ch.changed = true) :
    ch.updateErr = false ∧ ∃ crs, (ReconcileConsul watchOK ch.order envAmbID s.world s.consul ch.snapshot crs).2.2 = true ∧
      (s.k8s watchOK envAmbID ExpandEnv ch).holder.consulResolvers = crs ∧
      (s.k8s watchOK envAmbID ExpandEnv ch).world = (ReconcileConsul watchOK ch.order envAmbID s.world s.consul ch.snapshot crs).1 := by
  rcases State.k8s_cases watchOK envAmbID ExpandEnv s ch with hh | ⟨-, hc', -⟩ | ⟨hu, -, crs, hrc, he⟩
  · -- an error stops the loop
    rw [hh] at hs
    cases hs
  · rw [hc] at hc'
    cases hc'
  · exact ⟨hu, crs, hrc, by rw [he], by rw [he]⟩

/-- After a Kubernetes change the loop takes without an error, every running
Consul watch runs with the spec of the last ConsulResolver of its name that
the holder keeps. -/
theorem State.k8s_running_spec {s : State} (h : Consul.WatchesOK s.world s.consul.resolvers) {ch : K8sChange}
    (hs : (s.k8s watchOK envAmbID ExpandEnv ch).halted = false) (hc : ch.changed = true) {id : ℕ}
    {cr : ConsulResolver} {svc : Key} (hid : (s.k8s watchOK envAmbID ExpandEnv ch).world.Running id)
    (hst : (s.k8s watchOK envAmbID ExpandEnv ch).world.started[id]? = some (cr, svc)) :
    (Consul.lastNamed (s.k8s watchOK envAmbID ExpandEnv ch).holder.consulResolvers cr.name).map (·.Spec) =
      some cr.Spec := by
  obtain ⟨-, crs, hrc, hheld, hworld⟩ := State.k8s_taken watchOK envAmbID ExpandEnv hs hc
  rw [hworld] at hid hst
  obtain ⟨cr', svc', hst', -, hlast⟩ := (consulWatcher.reconcile_running watchOK ch.order h hrc).1 id hid
  obtain ⟨rfl, rfl⟩ := Prod.mk.inj (Option.some.inj (hst'.symm.trans hst))
  rw [hheld]
  exact hlast

/-- A resolver no delta names is left as it is by the interpolation loop, so
the last resolver of its name is the one written. -/
theorem lastNamed_interpolated {deltas : List Delta} {name : Key} (hn : interpolations deltas name = 0)
    (crs : List ConsulResolver) :
    Consul.lastNamed (crs.map fun r => expandTimes ExpandEnv (interpolations deltas r.name) r) name =
      Consul.lastNamed crs name := by
  rw [Consul.lastNamed_map (f := fun r => expandTimes ExpandEnv (interpolations deltas r.name) r) (fun r => rfl)]
  cases h : Consul.lastNamed crs name with
  | none => rfl
  | some r =>
    rw [Option.map_some, Consul.lastNamed_name h, hn]
    rfl

/-! ### Over every run -/

/-- **No delta is lost or sent twice.** In every run that has not stopped,
the deltas of the `SnapshotReady` snapshots, followed by the deltas not yet
sent, are exactly the deltas of the Kubernetes changes, in order. -/
theorem run_delivers_deltas (evs : List Event) (hs : (run watchOK envAmbID ExpandEnv evs).halted = false) :
    readyDeltas (run watchOK envAmbID ExpandEnv evs).processed ++
      (run watchOK envAmbID ExpandEnv evs).holder.unsentDeltas = evs.flatMap Event.deltas :=
  (run_inv watchOK envAmbID ExpandEnv evs hs).deltas

/-- **No more reconfigurations than changes.** In every run that has not
stopped, the `SnapshotReady` snapshots are no more than the Kubernetes
changes with a delta not of Endpoints and the Istio certificates. -/
theorem run_ready_le_changes (evs : List Event) (hs : (run watchOK envAmbID ExpandEnv evs).halted = false) :
    readyCount (run watchOK envAmbID ExpandEnv evs).processed ≤ (evs.map Event.changes).sum := by
  have h := run_inv watchOK envAmbID ExpandEnv evs hs
  calc readyCount (run watchOK envAmbID ExpandEnv evs).processed
      ≤ (run watchOK envAmbID ExpandEnv evs).holder.snapshotChangeNotified := h.ready_le
    _ ≤ (run watchOK envAmbID ExpandEnv evs).holder.snapshotChangeCount := h.notified_le
    _ = (evs.map Event.changes).sum := h.count

/-- **No change is stranded.** In every run that has not stopped, a counted
change not yet sent as `SnapshotReady` has the holder on its way to `Notify`
(in `out`, or with the notify goroutine); or, before the first snapshot, the
Consul watcher is not bootstrapped or has a change of its own for the loop. -/
theorem run_change_scheduled (evs : List Event) (hs : (run watchOK envAmbID ExpandEnv evs).halted = false)
    (hlt : (run watchOK envAmbID ExpandEnv evs).holder.snapshotChangeNotified <
      (run watchOK envAmbID ExpandEnv evs).holder.snapshotChangeCount) :
    (run watchOK envAmbID ExpandEnv evs).out = true ∨ (run watchOK envAmbID ExpandEnv evs).notifying = true ∨
      ((run watchOK envAmbID ExpandEnv evs).holder.firstReconfig = true ∧
        ((run watchOK envAmbID ExpandEnv evs).dirty = true ∨
          (run watchOK envAmbID ExpandEnv evs).consul.isBootstrapped.1 = false)) :=
  (run_inv watchOK envAmbID ExpandEnv evs hs).scheduled hlt

/-- **The Consul watches inside the loop.** In every state of the loop, even
after an error, the Consul watcher holds exactly the running watches, none
stopped twice; and its `cleanup` at shutdown stops every watch. -/
theorem run_consul_stops (evs : List Event) (order : Dict.KeyOrder Key) :
    Consul.WatchesOK (run watchOK envAmbID ExpandEnv evs).world (run watchOK envAmbID ExpandEnv evs).consul.resolvers ∧
      ∀ id, ¬(consulWatcher.cleanup watchOK order (run watchOK envAmbID ExpandEnv evs).world
        (run watchOK envAmbID ExpandEnv evs).consul).1.Running id := by
  have h := run_consul_ok watchOK envAmbID ExpandEnv evs
  exact ⟨h, consulWatcher.cleanup_stops watchOK order h⟩

/-- **A field written anew brings back the raw addresses, and the Consul
watches restart at them.** In every run of the loop, take a Kubernetes change
whose ConsulResolvers are the objects `updateField` writes into the snapshot
(decoded by `decode`) and whose deltas name no ConsulResolver called `name`.
If the loop takes it without an error, every resolver of that name the
holder keeps is an object of the accumulator decoded as it is, its address
not interpolated; every Consul watch of that name runs with the spec of the
last of them; and a watch started earlier with another spec, such as an
address an earlier change interpolated, no longer runs. -/
theorem rewritten_resolvers_revert (decode : Kates.Unstructured → ConsulResolver) (s : Kates.Pass)
    (f : Kates.Field) (predicate : Option (Kates.Unstructured → Bool)) (evs : List Event) (ch : K8sChange)
    (name : Key) (hw : Kates.Accumulator.writes s f = true)
    (hch : ch.consulResolvers = ((Kates.Accumulator.updateField s "ConsulResolvers".toList f predicate).target.get?
      "ConsulResolvers".toList).map (List.map decode))
    (hchanged : ch.changed = (Kates.Accumulator.updateField s "ConsulResolvers".toList f predicate).updated)
    (hn : interpolations ch.deltas name = 0)
    (hs : (run watchOK envAmbID ExpandEnv (evs ++ [.k8s ch])).halted = false) :
    let s' := run watchOK envAmbID ExpandEnv (evs ++ [.k8s ch])
    let crs := (((Kates.Accumulator.updateField s "ConsulResolvers".toList f predicate).target.get?
      "ConsulResolvers".toList).getD []).map decode
    (∀ r ∈ s'.holder.consulResolvers, r.name = name →
      ∃ k u, (Kates.Client.patchWatch s.canonical f).1.values.get? k = some u ∧ decode u = r) ∧
    (∀ id cr svc, s'.world.Running id → s'.world.started[id]? = some (cr, svc) → cr.name = name →
      (Consul.lastNamed crs name).map (·.Spec) = some cr.Spec) ∧
    (∀ id cr svc, (run watchOK envAmbID ExpandEnv evs).world.started[id]? = some (cr, svc) → cr.name = name →
      (Consul.lastNamed crs name).map (·.Spec) ≠ some cr.Spec → ¬s'.world.Running id) := by
  intro s' crs
  obtain ⟨hupd, us, hus, hraw⟩ := Kates.Accumulator.updateField_writes s "ConsulResolvers".toList f predicate hw
  have hcrs : crs = us.map decode := by simp only [crs, hus, Option.getD_some]
  rw [hus, Option.map_some] at hch
  rw [hupd] at hchanged
  have hs' : s' = (run watchOK envAmbID ExpandEnv evs).k8s watchOK envAmbID ExpandEnv ch := by
    show run watchOK envAmbID ExpandEnv (evs ++ [.k8s ch]) = _
    rw [run_append_singleton] at hs ⊢
    rw [step_k8s watchOK envAmbID ExpandEnv (halted_of_step watchOK envAmbID ExpandEnv hs)]
  have hlive : ((run watchOK envAmbID ExpandEnv evs).k8s watchOK envAmbID ExpandEnv ch).halted = false := hs' ▸ hs
  obtain ⟨hu, -⟩ := State.k8s_taken watchOK envAmbID ExpandEnv hlive hchanged
  -- the holder keeps the written resolvers, interpolated as the deltas ask
  have hheld : s'.holder.consulResolvers =
      (us.map decode).map fun r => expandTimes ExpandEnv (interpolations ch.deltas r.name) r := by
    rw [hs', State.k8s_holder, k8sUpdate_resolvers, hu, hchanged, hch]
    rfl
  -- every running watch of the name has the spec of the last resolver written
  have hspec : ∀ id cr svc, s'.world.Running id → s'.world.started[id]? = some (cr, svc) → cr.name = name →
      (Consul.lastNamed crs name).map (·.Spec) = some cr.Spec := by
    intro id cr svc hid hst hname
    rw [hs'] at hid hst
    have hlast := State.k8s_running_spec watchOK envAmbID ExpandEnv (run_consul_ok watchOK envAmbID ExpandEnv evs)
      hlive hchanged hid hst
    rw [← hs', hheld, hname, lastNamed_interpolated ExpandEnv hn, ← hcrs] at hlast
    exact hlast
  refine ⟨fun r hr hname => ?_, hspec, fun id cr svc hst hname hne hid => ?_⟩
  · -- a resolver of the name is not interpolated: it is an object as decoded
    rw [hheld, List.map_map] at hr
    obtain ⟨u, hu, rfl⟩ := List.mem_map.1 hr
    obtain ⟨k, hk⟩ := hraw u hu
    have hname' : (decode u).name = name := hname
    refine ⟨k, u, hk, ?_⟩
    simp only [Function.comp_apply, hname', hn]
    rfl
  · -- the watch keeps its number and spec, which the running ones do not have
    have hpre := run_started watchOK envAmbID ExpandEnv evs [.k8s ch]
    exact hne (hspec id cr svc hid (Consul.World.get?_of_prefix hpre hst) hname)

end Loop

/-- A Mapping added, with nothing else in the snapshot. -/
def mappingAdded : K8sChange :=
  { updateErr := false, changed := true, snapshot := {}, consulResolvers := none,
    deltas := [⟨"Mapping".toList, "m".toList, "default".toList, .ObjectAdd⟩], secretsErr := false,
    dispatchErr := false, order := Dict.KeyOrder.asSet }

/-- The Mapping added, the holder sent and notified. -/
def bootRun : List Event := [.k8s mappingAdded, .send, .notify false]

theorem run_delivers_deltas_bootRun :
    (run (fun _ _ _ => true) "default".toList id bootRun).halted = false ∧
      readyDeltas (run (fun _ _ _ => true) "default".toList id bootRun).processed ++
        (run (fun _ _ _ => true) "default".toList id bootRun).holder.unsentDeltas = bootRun.flatMap Event.deltas := by
  have hs : (run (fun _ _ _ => true) "default".toList id bootRun).halted = false := by decide
  exact ⟨hs, run_delivers_deltas (fun _ _ _ => true) "default".toList id bootRun hs⟩

theorem run_ready_le_changes_bootRun :
    (run (fun _ _ _ => true) "default".toList id bootRun).halted = false ∧
      readyCount (run (fun _ _ _ => true) "default".toList id bootRun).processed ≤
        (bootRun.map Event.changes).sum := by
  have hs : (run (fun _ _ _ => true) "default".toList id bootRun).halted = false := by decide
  exact ⟨hs, run_ready_le_changes (fun _ _ _ => true) "default".toList id bootRun hs⟩

theorem run_change_scheduled_mappingAdded :
    (run (fun _ _ _ => true) "default".toList id [.k8s mappingAdded]).halted = false ∧
      (run (fun _ _ _ => true) "default".toList id [.k8s mappingAdded]).holder.snapshotChangeNotified <
        (run (fun _ _ _ => true) "default".toList id [.k8s mappingAdded]).holder.snapshotChangeCount ∧
      ((run (fun _ _ _ => true) "default".toList id [.k8s mappingAdded]).out = true ∨
        (run (fun _ _ _ => true) "default".toList id [.k8s mappingAdded]).notifying = true ∨
        ((run (fun _ _ _ => true) "default".toList id [.k8s mappingAdded]).holder.firstReconfig = true ∧
          ((run (fun _ _ _ => true) "default".toList id [.k8s mappingAdded]).dirty = true ∨
            (run (fun _ _ _ => true) "default".toList id [.k8s mappingAdded]).consul.isBootstrapped.1 = false))) := by
  have hs : (run (fun _ _ _ => true) "default".toList id [.k8s mappingAdded]).halted = false := by decide
  have hlt : (run (fun _ _ _ => true) "default".toList id [.k8s mappingAdded]).holder.snapshotChangeNotified <
      (run (fun _ _ _ => true) "default".toList id [.k8s mappingAdded]).holder.snapshotChangeCount := by
    decide
  exact ⟨hs, hlt, run_change_scheduled (fun _ _ _ => true) "default".toList id [.k8s mappingAdded] hs hlt⟩

/-- The ConsulResolver objects `a` and `b` as the accumulator holds them. -/
def objA : Kates.Unstructured :=
  { uid := "ua".toList, resourceVersion := 1, gvk := "ConsulResolver".toList, name := "a".toList }

def objB : Kates.Unstructured :=
  { uid := "ub".toList, resourceVersion := 2, gvk := "ConsulResolver".toList, name := "b".toList }

/-- Their specs as written: `a`'s address names `$CONSULHOST`. -/
def decodeResolver (u : Kates.Unstructured) : ConsulResolver :=
  consulAt u.name (if u.name = "a".toList then "$CONSULHOST:8500".toList else "b2:8500".toList)

/-- The ConsulResolvers field once `b` has changed: both objects, and a delta
for `b` alone. -/
def resolversField : Kates.Field :=
  { gvk := "ConsulResolver".toList
    values := ((∅ : Dict Key Kates.Unstructured).set "ua".toList objA).set "ub".toList objB
    deltas := (∅ : Dict Key Kates.Delta).set "ub".toList ⟨.ObjectUpdate, objB⟩
    synced := true
    firstUpdate := true }

/-- `FilteredUpdate`'s pass as its loop reaches the field. -/
def resolversPass : Kates.Pass := ⟨{ fields := ∅ }, ∅, ∅, [], false⟩

/-- What `updateField` makes of the pass at the field. -/
def resolversWritten : Kates.Pass := Kates.Accumulator.updateField resolversPass "ConsulResolvers".toList resolversField none

/-- `a` and `b` added, then `b` changed, with `CONSULHOST` set to `consul`. -/
def revertRun : State :=
  run (fun _ _ _ => true) "default".toList expandConsulHost [.k8s resolversAdded, .k8s resolverBChanged]

/-- After `a` and `b` were added and interpolated, `b` changes: the field is
written anew, `a` comes back as `$CONSULHOST:8500`, and the watch of `svc`
through `a`, started at `consul:8500`, is stopped and started again at the raw
address. -/
theorem rewritten_resolvers_revert_resolverBChanged :
    Kates.Accumulator.writes resolversPass resolversField = true ∧
    resolverBChanged.consulResolvers =
      (resolversWritten.target.get? "ConsulResolvers".toList).map (List.map decodeResolver) ∧
    resolverBChanged.changed = resolversWritten.updated ∧
    interpolations resolverBChanged.deltas "a".toList = 0 ∧
    revertRun.halted = false ∧
    revertRun.world.started.map (fun st => st.1.Spec.Address) = ["consul:8500".toList, "$CONSULHOST:8500".toList] ∧
    ((∀ r ∈ revertRun.holder.consulResolvers, r.name = "a".toList →
        ∃ k u, (Kates.Client.patchWatch resolversPass.canonical resolversField).1.values.get? k = some u ∧
          decodeResolver u = r) ∧
      (∀ id cr svc, revertRun.world.Running id → revertRun.world.started[id]? = some (cr, svc) →
        cr.name = "a".toList →
        (Consul.lastNamed (((resolversWritten.target.get? "ConsulResolvers".toList).getD []).map decodeResolver)
          "a".toList).map (·.Spec) = some cr.Spec) ∧
      (∀ id cr svc, (run (fun _ _ _ => true) "default".toList expandConsulHost [.k8s resolversAdded]).world.started[id]? =
          some (cr, svc) → cr.name = "a".toList →
        (Consul.lastNamed (((resolversWritten.target.get? "ConsulResolvers".toList).getD []).map decodeResolver)
          "a".toList).map (·.Spec) ≠ some cr.Spec →
        ¬revertRun.world.Running id)) := by
  have hw : Kates.Accumulator.writes resolversPass resolversField = true := by decide
  have hch : resolverBChanged.consulResolvers =
      (resolversWritten.target.get? "ConsulResolvers".toList).map (List.map decodeResolver) := by decide
  have hchanged : resolverBChanged.changed = resolversWritten.updated := by decide
  have hn : interpolations resolverBChanged.deltas "a".toList = 0 := by decide
  have hs : revertRun.halted = false := by decide
  have hstarted : revertRun.world.started.map (fun st => st.1.Spec.Address) =
      ["consul:8500".toList, "$CONSULHOST:8500".toList] := by decide
  exact ⟨hw, hch, hchanged, hn, hs, hstarted,
    rewritten_resolvers_revert (fun _ _ _ => true) "default".toList expandConsulHost decodeResolver resolversPass
      resolversField none [.k8s resolversAdded] resolverBChanged "a".toList hw hch hchanged hn hs⟩

end Watcher
end Emissary

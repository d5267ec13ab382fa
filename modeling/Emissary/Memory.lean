/-
# Memory usage: the cgroup's stats and the usage of each process

`pkg/memory` watches the memory of Ambassador's cgroup. `parseMemoryStat`
reads the cgroup's `memory.stat`, a line per counter, each a key, a blank
and a decimal number; on a file of such lines it returns, for each of the
four keys it knows, the number on the key's last line, and no error
(`parseMemoryStat_statFile`).

`MemoryUsage.Refresh`, every ten seconds, ages the usage it keeps for each
process, dropping an entry older than ten refreshes, and then writes over
it the processes it reads now. After any run of refreshes, a process has an
entry exactly when one of the last twelve reads saw it; the entry is what
the latest of those reads found, with `RefreshesSinceExit` the number of
reads since (`refreshAll_retains`). A read that fails gives a nil map: if
the very first read, made when the `MemoryUsage` is built, failed, the first
refresh that reads a process panics on the nil map, and otherwise no refresh
ever does (`refreshAll_eq_error_iff`).

Key definitions: `parseMemoryStat`, `MemoryUsage.Refresh`, `MemoryUsage.refreshAll`.
Key theorems: `parseMemoryStat_statFile`, `refreshAll_retains`, `refreshAll_eq_error_iff`.
-/
import Emissary.Basic
import Emissary.Lib.Dict
import Emissary.Lib.GoText
import Emissary.Lib.Trace

namespace Emissary
namespace Memory

open GoText Trace

/-! ### `memory.stat` -/

structure memoryStat where
  Rss : ℕ
  Cache : ℕ
  Swap : ℕ
  InactiveFile : ℕ
  deriving DecidableEq, Repr

/-- The `switch parts[0]` of `parseMemoryStat`: the field a key names gets
the number, and an unknown key changes nothing. -/
def memoryStat.setField (result : memoryStat) (key : List Char) (n : ℕ) : memoryStat :=
  if key = "rss".toList then { result with Rss := n }
  else if key = "swap".toList then { result with Swap := n }
  else if key = "cache".toList then { result with Cache := n }
  else if key = "inactive_file".toList then { result with InactiveFile := n }
  else result

/-- The loop of `parseMemoryStat` over the lines: a line of two fields sets
the field its key names, any other line is skipped, and a number that does
not parse ends the loop with what was read so far and the error. -/
def parseLines : memoryStat → List (List Char) → memoryStat × Option NumError
  | result, [] => (result, none)
  | result, line :: lines =>
    match Fields (TrimSuffix line ['\n']) with
    | [key, num] =>
      match ParseUint num with
      | .error err => (result, some err)
      | .ok n => parseLines (result.setField key n) lines
    | _ => parseLines result lines

def parseMemoryStat (content : List Char) : memoryStat × Option NumError :=
  parseLines ⟨0, 0, 0, 0⟩ (content.splitOn '\n')

/-- The line of a counter: its key, a blank and its value in decimal. -/
def statLine (kv : List Char × ℕ) : List Char := kv.1 ++ ' ' :: Nat.toDigits 10 kv.2

/-- A `memory.stat` file: the counters' lines, each ended by a newline. -/
def statFile (kvs : List (List Char × ℕ)) : List Char :=
  ['\n'].intercalate (kvs.map statLine ++ [[]])

/-- A key: a non-empty word without blanks. -/
def IsKey (key : List Char) : Prop := key ≠ [] ∧ ∀ c ∈ key, isSpace c = false

theorem not_mem_statLine {kv : List Char × ℕ} (hk : IsKey kv.1) : '\n' ∉ statLine kv := by
  intro h
  rcases List.mem_append.1 h with h | h
  · exact absurd (hk.2 _ h) (by decide)
  · rcases List.mem_cons.1 h with h | h
    · exact absurd h (by decide)
    · exact absurd (Nat.isDigit_of_mem_toDigits (by decide) (by decide) h) (by decide)

/-- A counter's line is the key and the number, as two fields. -/
theorem Fields_statLine {kv : List Char × ℕ} (hk : IsKey kv.1) :
    Fields (statLine kv) = [kv.1, Nat.toDigits 10 kv.2] :=
  Fields_append_space hk.1 Nat.toDigits_ne_nil hk.2
    fun _ hc => isSpace_of_isDigit (Nat.isDigit_of_mem_toDigits (by decide) (by decide) hc)

theorem parseLines_statLines (kvs : List (List Char × ℕ)) (hkey : ∀ kv ∈ kvs, IsKey kv.1)
    (hval : ∀ kv ∈ kvs, kv.2 ≤ maxUint64) (result : memoryStat) :
    parseLines result (kvs.map statLine ++ [[]]) =
      (kvs.foldl (fun r kv => r.setField kv.1 kv.2) result, none) := by
  induction kvs generalizing result with
  | nil => rfl
  | cons kv kvs ih =>
    have hk := hkey kv (List.mem_cons_self ..)
    have hline : TrimSuffix (statLine kv) ['\n'] = statLine kv := TrimSuffix_of_not_mem (not_mem_statLine hk)
    simp only [List.map_cons, List.cons_append, parseLines, hline, Fields_statLine hk,
      ParseUint_toDigits (hval kv (List.mem_cons_self ..)), List.foldl_cons]
    exact ih (fun kv' h => hkey kv' (List.mem_cons_of_mem _ h)) (fun kv' h => hval kv' (List.mem_cons_of_mem _ h)) _

/-- **`parseMemoryStat` reads a stats file back.** On the lines of counters
with keys and 64-bit values, it returns, for each field, the value on the
last line of its key (zero without one), and no error. -/
theorem parseMemoryStat_statFile (kvs : List (List Char × ℕ)) (hkey : ∀ kv ∈ kvs, IsKey kv.1)
    (hval : ∀ kv ∈ kvs, kv.2 ≤ maxUint64) :
    parseMemoryStat (statFile kvs) = (kvs.foldl (fun r kv => r.setField kv.1 kv.2) ⟨0, 0, 0, 0⟩, none) := by
  have hsplit : (statFile kvs).splitOn '\n' = kvs.map statLine ++ [[]] := by
    apply List.splitOn_intercalate
    · intro l hl
      rcases List.mem_append.1 hl with hl | hl
      · obtain ⟨kv, hkv, rfl⟩ := List.mem_map.1 hl
        exact not_mem_statLine (hkey kv hkv)
      · simp [List.mem_singleton.1 hl]
    · simp
  rw [parseMemoryStat, hsplit]
  exact parseLines_statLines kvs hkey hval _

/-- The four counters the code reads, as the kernel writes them. -/
def kernelStats : List (List Char × ℕ) :=
  [("rss".toList, 4096), ("cache".toList, 512), ("swap".toList, 0), ("inactive_file".toList, 256)]

theorem parseMemoryStat_kernelStats :
    (∀ kv ∈ kernelStats, IsKey kv.1) ∧ (∀ kv ∈ kernelStats, kv.2 ≤ maxUint64) ∧
      parseMemoryStat (statFile kernelStats) = (⟨4096, 512, 0, 256⟩, none) := by
  have hkeys : ∀ kv ∈ kernelStats, IsKey kv.1 := by
    simp [kernelStats, IsKey, isSpace]
  have hvals : ∀ kv ∈ kernelStats, kv.2 ≤ maxUint64 := by
    simp [kernelStats, maxUint64]
  refine ⟨hkeys, hvals, ?_⟩
  rw [parseMemoryStat_statFile _ hkeys hvals]
  decide

/-! ### The usage of each process -/

/-- A process's usage; `RefreshesSinceExit` is zero while it runs, and counts
the refreshes since it was last seen once it has exited. -/
structure ProcessUsage where
  Pid : ℤ
  Cmdline : List (List Char)
  Usage : ℤ
  RefreshesSinceExit : ℕ
  deriving DecidableEq, Repr

/-- A Go `map[int]*ProcessUsage`: `none` is the nil map. -/
abbrev ProcessMap := Option (Dict ℤ ProcessUsage)

/-- The part of `MemoryUsage` that `Refresh` writes. -/
structure MemoryUsage where
  usage : ℤ
  limit : ℤ
  perProcess : ProcessMap

/-- `GetMemoryUsage`, from what `readUsage` and `readPerProcess` returned. -/
def GetMemoryUsage (usage limit : ℤ) (perProcess : ProcessMap) : MemoryUsage :=
  ⟨usage, limit, perProcess⟩

/-- The body of `Refresh`'s first loop: an entry more than ten refreshes old
is deleted, any other one refresh older. -/
def gcEntry (pp : Dict ℤ ProcessUsage) (e : ℤ × ProcessUsage) : Dict ℤ ProcessUsage :=
  if e.2.RefreshesSinceExit > 10 then pp.erase e.1
  else pp.set e.1 { e.2 with RefreshesSinceExit := e.2.RefreshesSinceExit + 1 }

/-- `m.perProcess[pid] = usage`: Go panics on an assignment to a nil map. -/
def assignEntry (pp : ProcessMap) (e : ℤ × ProcessUsage) : Except String ProcessMap :=
  match pp with
  | none => .error "assignment to entry in nil map"
  | some d => .ok (some (d.set e.1 e.2))

/-- `Refresh`, given what `readUsage` and `readPerProcess` return. Ranging
over a nil map visits nothing. -/
def MemoryUsage.Refresh (m : MemoryUsage) (usage limit : ℤ) (read : ProcessMap) :
    Except String MemoryUsage := do
  let pp := m.perProcess.map fun d => d.entries.foldl gcEntry d
  let pp ← ((read.map Dict.entries).getD []).foldlM assignEntry pp
  pure ⟨usage, limit, pp⟩

/-- What one tick of `Watch` reads. -/
structure Sample where
  usage : ℤ
  limit : ℤ
  procs : ProcessMap

/-- The refreshes of `Watch`, one per sample. -/
def MemoryUsage.refreshAll (m : MemoryUsage) (ss : List Sample) : Except String MemoryUsage :=
  ss.foldlM (fun m s => m.Refresh s.usage s.limit s.procs) m

/-! One refresh, on the map and at one pid. -/

/-- An entry one refresh older, or gone. -/
def age (u : ProcessUsage) : Option ProcessUsage :=
  if u.RefreshesSinceExit > 10 then none else some { u with RefreshesSinceExit := u.RefreshesSinceExit + 1 }

theorem get?_gc (d : Dict ℤ ProcessUsage) (pid : ℤ) :
    (d.entries.foldl gcEntry d).get? pid = (d.get? pid).bind age := by
  have h := Dict.foldl_entries_pointwise (fun d k => Dict.get? d k) gcEntry (fun _ u _ => age u)
    (fun s k u k' => by
      unfold gcEntry age
      dsimp only
      by_cases hu : u.RefreshesSinceExit > 10
      · simp only [hu, if_true, Dict.get?_erase]
      · simp only [hu, if_false, Dict.get?_set]) d d pid
  rw [h]
  cases d.get? pid <;> rfl

theorem foldlM_assignEntry_some (es : List (ℤ × ProcessUsage)) (d : Dict ℤ ProcessUsage) :
    es.foldlM assignEntry (some d) = .ok (some (es.foldl (fun d e => d.set e.1 e.2) d)) := by
  induction es generalizing d with
  | nil => rfl
  | cons e es ih => exact ih (d.set e.1 e.2)

theorem foldlM_assignEntry_none {es : List (ℤ × ProcessUsage)} (hes : es ≠ []) :
    es.foldlM assignEntry none = .error "assignment to entry in nil map" := by
  obtain ⟨e, es, rfl⟩ := List.exists_cons_of_ne_nil hes
  rfl

/-- The map after the writes of a read: its entries, over the aged ones. -/
def refreshed (d : Dict ℤ ProcessUsage) (read : ProcessMap) : Dict ℤ ProcessUsage :=
  ((read.map Dict.entries).getD []).foldl (fun d e => d.set e.1 e.2) (d.entries.foldl gcEntry d)

theorem get?_refreshed (d : Dict ℤ ProcessUsage) (read : ProcessMap) (pid : ℤ) :
    (refreshed d read).get? pid =
      match read.bind (·.get? pid) with
      | some u => some u
      | none => (d.get? pid).bind age := by
  cases read with
  | none => simp [refreshed, get?_gc]
  | some r =>
    have h := Dict.foldl_entries_pointwise (fun d k => Dict.get? d k) (fun d e => d.set e.1 e.2)
      (fun _ u _ => some u) (fun s k u k' => Dict.get?_set _ _ _ _) r (d.entries.foldl gcEntry d) pid
    simp only [refreshed, Option.map_some, Option.getD_some, Option.bind_some]
    rw [h, get?_gc]
    cases r.get? pid <;> rfl

/-- `Refresh` of a map that is not nil. -/
theorem Refresh_some (m : MemoryUsage) {d : Dict ℤ ProcessUsage} (hm : m.perProcess = some d)
    (usage limit : ℤ) (read : ProcessMap) :
    m.Refresh usage limit read = .ok ⟨usage, limit, some (refreshed d read)⟩ := by
  simp only [MemoryUsage.Refresh, hm, Option.map_some, refreshed]
  rw [foldlM_assignEntry_some]
  rfl

/-- `Refresh` of the nil map: it stays nil when nothing is read, and panics
otherwise. -/
theorem Refresh_none (m : MemoryUsage) (hm : m.perProcess = none) (usage limit : ℤ) (read : ProcessMap) :
    m.Refresh usage limit read =
      if ((read.map Dict.entries).getD []) = [] then .ok ⟨usage, limit, none⟩
      else .error "assignment to entry in nil map" := by
  simp only [MemoryUsage.Refresh, hm, Option.map_none]
  split_ifs with h
  · rw [h]
    rfl
  · rw [foldlM_assignEntry_none h]
    rfl

/-! ### Whole runs -/

/-- What the reads, oldest first, saw of `pid`: the latest usage and the
number of reads since. -/
def lastRead (pid : ℤ) (reads : List ProcessMap) : Option (ProcessUsage × ℕ) :=
  lastSome (fun r : ProcessMap => r.bind (·.get? pid)) reads

/-- The entry `pid` should have after the reads: the latest usage seen, aged
by the reads since, if there were at most eleven. -/
def retained (pid : ℤ) (reads : List ProcessMap) : Option ProcessUsage :=
  (lastRead pid reads).bind fun p =>
    if p.2 ≤ 11 then some { p.1 with RefreshesSinceExit := p.2 } else none

/-- A read as `readPerProcess` makes it: every entry is a running process. -/
def Fresh (r : ProcessMap) : Prop := ∀ d ∈ r, ∀ pid u, d.get? pid = some u → u.RefreshesSinceExit = 0

/-- A fresh entry is its own entry at the read that made it. -/
theorem Fresh.reset {d : Dict ℤ ProcessUsage} (hr : Fresh (some d)) {pid : ℤ} {u : ProcessUsage}
    (hd : d.get? pid = some u) : ({ u with RefreshesSinceExit := 0 } : ProcessUsage) = u := by
  rw [← hr d rfl pid u hd]

theorem retained_append_singleton (pid : ℤ) (reads : List ProcessMap) (r : ProcessMap) (hr : Fresh r) :
    retained pid (reads ++ [r]) =
      match r.bind (·.get? pid) with
      | some u => some u
      | none => (retained pid reads).bind age := by
  unfold retained lastRead
  rw [lastSome_append_singleton]
  cases hu : r.bind (·.get? pid) with
  | some u =>
    obtain ⟨d, rfl, hd⟩ : ∃ d, r = some d ∧ d.get? pid = some u := by
      cases r with
      | none => cases hu
      | some d => exact ⟨d, rfl, hu⟩
    simp [hr.reset hd]
  | none =>
    cases lastSome (fun r : ProcessMap => r.bind (·.get? pid)) reads with
    | none => rfl
    | some p =>
      obtain ⟨u, k⟩ := p
      by_cases hk : k ≤ 10
      · simp [age, show k + 1 ≤ 11 by omega, show k ≤ 11 by omega, show ¬10 < k by omega]
      · by_cases hk' : k ≤ 11
        · simp [age, hk', show ¬k + 1 ≤ 11 by omega, show 10 < k by omega]
        · simp [hk', show ¬k + 1 ≤ 11 by omega]

/-- The state `refreshAll` keeps: the map holds, at every pid, what the reads
so far retain. -/
def Retains (reads : List ProcessMap) (m : MemoryUsage) : Prop :=
  ∃ d, m.perProcess = some d ∧ ∀ pid, d.get? pid = retained pid reads

theorem Retains.refresh {reads : List ProcessMap} {m : MemoryUsage} (h : Retains reads m) (s : Sample)
    (hs : Fresh s.procs) : ∃ m', m.Refresh s.usage s.limit s.procs = .ok m' ∧ Retains (reads ++ [s.procs]) m' := by
  obtain ⟨d, hd, hget⟩ := h
  refine ⟨_, Refresh_some m hd _ _ _, refreshed d s.procs, rfl, fun pid => ?_⟩
  rw [get?_refreshed, retained_append_singleton pid reads s.procs hs, hget]

theorem refreshAll_append (m : MemoryUsage) (ss : List Sample) (s : Sample) :
    m.refreshAll (ss ++ [s]) = (m.refreshAll ss).bind fun m => m.Refresh s.usage s.limit s.procs := by
  simp [MemoryUsage.refreshAll, List.foldlM_append]
  rfl

/-- Over every run from a first read that succeeded, the refreshes succeed
and keep the retention invariant. -/
theorem refreshAll_retains_aux (usage limit : ℤ) (d0 : Dict ℤ ProcessUsage) (h0 : Fresh (some d0)) :
    ∀ ss : List Sample, (∀ s ∈ ss, Fresh s.procs) →
      ∃ m, (GetMemoryUsage usage limit (some d0)).refreshAll ss = .ok m ∧
        Retains (some d0 :: ss.map Sample.procs) m := by
  intro ss
  induction ss using List.reverseRecOn with
  | nil =>
    intro _
    refine ⟨_, rfl, d0, rfl, fun pid => ?_⟩
    cases hu : d0.get? pid with
    | none => simp [retained, lastRead, lastSome, hu]
    | some u => simp [retained, lastRead, lastSome, hu, h0.reset hu]
  | append_singleton ss s ih =>
    intro hfresh
    obtain ⟨m, hm, hret⟩ := ih fun s' hs' => hfresh s' (List.mem_append_left _ hs')
    obtain ⟨m', hm', hret'⟩ := hret.refresh s (hfresh s (by simp))
    refine ⟨m', by rw [refreshAll_append, hm]; exact hm', ?_⟩
    simpa using hret'

/-- **Exited processes are kept for eleven refreshes.** From a first read
that succeeded, over every run of refreshes whose reads are as
`readPerProcess` makes them, no refresh fails, and afterwards `pid` has an
entry exactly when one of the last twelve reads saw it: the usage the latest
of them found, with `RefreshesSinceExit` the number of reads since. -/
theorem refreshAll_retains (usage limit : ℤ) (d0 : Dict ℤ ProcessUsage) (h0 : Fresh (some d0))
    (ss : List Sample) (hss : ∀ s ∈ ss, Fresh s.procs) :
    ∃ m d, (GetMemoryUsage usage limit (some d0)).refreshAll ss = .ok m ∧ m.perProcess = some d ∧
      ∀ pid u, d.get? pid = some u ↔
        ∃ pre r post u₀, some d0 :: ss.map Sample.procs = pre ++ r :: post ∧
          r.bind (·.get? pid) = some u₀ ∧ (∀ r' ∈ post, r'.bind (·.get? pid) = none) ∧
          post.length ≤ 11 ∧ u = { u₀ with RefreshesSinceExit := post.length } := by
  obtain ⟨m, hm, d, hd, hget⟩ := refreshAll_retains_aux usage limit d0 h0 ss hss
  refine ⟨m, d, hm, hd, fun pid u => ?_⟩
  rw [hget, retained, Option.bind_eq_some_iff]
  constructor
  · rintro ⟨⟨u₀, k⟩, hl, hu⟩
    obtain ⟨pre, r, post, hsplit, hr, hpost, rfl⟩ := (lastSome_eq_some_iff _).1 hl
    split_ifs at hu with hk
    · exact ⟨pre, r, post, u₀, hsplit, hr, hpost, hk, (Option.some.inj hu).symm⟩
  · rintro ⟨pre, r, post, u₀, hsplit, hr, hpost, hk, rfl⟩
    exact ⟨(u₀, post.length), (lastSome_eq_some_iff _).2 ⟨pre, r, post, hsplit, hr, hpost, rfl⟩, by simp [hk]⟩

/-- Envoy, read when the `MemoryUsage` is built. -/
def envoyRead : Dict ℤ ProcessUsage := (∅ : Dict ℤ ProcessUsage).set 7 ⟨7, ["envoy".toList], 1024, 0⟩

theorem fresh_envoyRead : Fresh (some envoyRead) := by
  rintro d ⟨⟩ pid u h
  rw [envoyRead, Dict.get?_set] at h
  split_ifs at h
  · cases h
    rfl
  · simp at h

theorem refreshAll_retains_envoy :
    Fresh (some envoyRead) ∧ (∀ s ∈ [Sample.mk 0 0 none, Sample.mk 0 0 (some ∅)], Fresh s.procs) ∧
      ∃ m d, (GetMemoryUsage 0 0 (some envoyRead)).refreshAll [⟨0, 0, none⟩, ⟨0, 0, some ∅⟩] = .ok m ∧
        m.perProcess = some d ∧
        ∀ pid u, d.get? pid = some u ↔
          ∃ pre r post u₀, some envoyRead :: [Sample.mk 0 0 none, Sample.mk 0 0 (some ∅)].map Sample.procs =
              pre ++ r :: post ∧
            r.bind (·.get? pid) = some u₀ ∧ (∀ r' ∈ post, r'.bind (·.get? pid) = none) ∧
            post.length ≤ 11 ∧ u = { u₀ with RefreshesSinceExit := post.length } := by
  have hss : ∀ s ∈ [Sample.mk 0 0 none, Sample.mk 0 0 (some ∅)], Fresh s.procs := by
    intro s hs
    rcases List.mem_pair.1 hs with rfl | rfl
    · rintro d ⟨⟩
    · rintro d ⟨⟩ pid u h
      simp at h
  exact ⟨fresh_envoyRead, hss, refreshAll_retains 0 0 envoyRead fresh_envoyRead _ hss⟩

theorem refreshAll_cons (m : MemoryUsage) (s : Sample) (ss : List Sample) :
    m.refreshAll (s :: ss) = (m.Refresh s.usage s.limit s.procs).bind fun m' => m'.refreshAll ss := rfl

/-- A run fails exactly when the map is nil and some read finds a process. -/
theorem refreshAll_eq_error_iff_of (m : MemoryUsage) (ss : List Sample) (e : String) :
    m.refreshAll ss = .error e ↔
      m.perProcess = none ∧ (∃ s ∈ ss, (s.procs.map Dict.entries).getD [] ≠ []) ∧
        e = "assignment to entry in nil map" := by
  induction ss generalizing m with
  | nil =>
    simp only [List.not_mem_nil, false_and, exists_false, and_false, iff_false]
    exact fun h => by cases h
  | cons s ss ih =>
    rw [refreshAll_cons]
    cases hm : m.perProcess with
    | some d =>
      -- a map that is not nil stays so, and takes every write
      rw [Refresh_some m hm]
      simp only [Except.bind, ih, reduceCtorEq, false_and]
    | none =>
      rw [Refresh_none m hm]
      by_cases hs : (s.procs.map Dict.entries).getD [] = []
      · -- nothing read: the map stays nil
        rw [if_pos hs]
        simp only [Except.bind, ih, List.mem_cons, exists_eq_or_imp, hs, ne_eq, not_true_eq_false,
          false_or, true_and]
      · rw [if_neg hs]
        simp only [Except.bind, Except.error.injEq, List.mem_cons, exists_eq_or_imp, hs, ne_eq,
          not_false_eq_true, true_or, true_and]
        exact eq_comm

/-- **When refreshes panic.** A run of refreshes from a `MemoryUsage` built
by `GetMemoryUsage` fails exactly when the read made then failed (a nil map)
and some later read finds a process; the failure is Go's panic on the nil
map. -/
theorem refreshAll_eq_error_iff (usage limit : ℤ) (pp : ProcessMap) (ss : List Sample) (e : String) :
    (GetMemoryUsage usage limit pp).refreshAll ss = .error e ↔
      pp = none ∧ (∃ s ∈ ss, (s.procs.map Dict.entries).getD [] ≠ []) ∧
        e = "assignment to entry in nil map" :=
  refreshAll_eq_error_iff_of _ ss e

end Memory
end Emissary

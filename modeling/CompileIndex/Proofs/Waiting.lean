import CompileIndex.Proofs.Debouncing
import CompileIndex.Proofs.Turns

/-!
# How long there is to wait

A debouncer announces how long it takes until it releases something, by a formula of its own: the
least time that is left of any path.  While nothing else is done, it releases something exactly from
the announced time on.  The loop of a watcher waits for an event so long, so it does not turn for
nothing, and it does not come late.

* `Debouncer.wait?_eq_none_iff`, `Debouncer.wait?_eq_some_iff` — what is announced;
* `Debouncer.takeReady_ne_nil_iff_of_wait?` — the announcement against what is released;
* `Watcher.Turn.operations`, `Watcher.debouncer_after` — a watcher's run as its debouncer sees it;
* `Debouncer.waits_exactly` — the announcement is exact, and so are the waits of the loop.
-/

namespace CompileIndex

namespace Debouncer

variable {d : Debouncer} {now t wait : Nat}

/-! ### One debouncer -/

/-- Nothing is announced when nothing is held back. -/
theorem wait?_eq_none_iff : d.wait? now = none ↔ d.pending.entries = [] := by
  rw [wait?, List.min?_eq_none_iff, List.map_eq_nil_iff]

/-- What is announced is the least time that is left of anything held back. -/
theorem wait?_eq_some_iff :
    d.wait? now = some wait ↔
      (∃ e ∈ d.pending.entries, e.2 + d.quiet - now = wait) ∧
        ∀ e ∈ d.pending.entries, wait ≤ e.2 + d.quiet - now := by
  rw [wait?, List.min?_eq_some_iff, List.mem_map, List.forall_mem_map]

theorem takeReady_ne_nil_iff :
    (d.takeReady t).1 ≠ [] ↔ ∃ e ∈ d.pending.entries, d.quiet ≤ t - e.2 := by
  simp [takeReady, PathMap.keys, PathMap.filter, isReady, List.filter_eq_nil_iff]

/-- When nothing is released, everything stays. -/
theorem takeReady_of_fst_eq_nil (h : (d.takeReady t).1 = []) : d.takeReady t = ([], d) := by
  have hlate : ∀ e ∈ d.pending.entries, ¬ d.quiet ≤ t - e.2 := by
    intro e he hquiet
    exact takeReady_ne_nil_iff.2 ⟨e, he, hquiet⟩ h
  have hkept : (d.pending.filter fun _ changed => !d.isReady t changed) = d.pending := by
    refine PathMap.eq_of_entries (List.filter_eq_self.2 ?_)
    intro e he
    simpa [isReady] using hlate e he
  refine Prod.ext h ?_
  show { d with pending := d.pending.filter fun _ changed => !d.isReady t changed } = d
  rw [hkept]

/-- **The announcement against what is released**: if nothing else is done, something is released at
a time exactly if the announced one has come. -/
theorem takeReady_ne_nil_iff_of_wait? (hclock : ∀ e ∈ d.pending.entries, e.2 ≤ now)
    (hwait : d.wait? now = some wait) (hnow : now ≤ t) :
    (d.takeReady t).1 ≠ [] ↔ now + wait ≤ t := by
  obtain ⟨⟨e, he, hleast⟩, hall⟩ := wait?_eq_some_iff.1 hwait
  rw [takeReady_ne_nil_iff]
  constructor
  · rintro ⟨other, hother, hquiet⟩
    have hpast := hclock other hother
    have hle := hall other hother
    omega
  · intro hle
    have hpast := hclock e he
    exact ⟨e, he, by omega⟩

/-- Nothing is left to wait exactly when something is released at once. -/
theorem wait?_eq_some_zero_iff (hclock : ∀ e ∈ d.pending.entries, e.2 ≤ now) :
    d.wait? now = some 0 ↔ (d.takeReady now).1 ≠ [] := by
  cases hwait : d.wait? now with
  | none =>
    have hnone := wait?_eq_none_iff.1 hwait
    simp [takeReady_ne_nil_iff, hnone]
  | some wait =>
    rw [takeReady_ne_nil_iff_of_wait? hclock hwait (Nat.le_refl now), Option.some.injEq]
    omega

/-- No path is held back since a time that no record had. -/
theorem time_le_of_mem_after {quiet : Nat} {ops : List Operation}
    (hclock : ∀ time file, .record time file ∈ ops → time ≤ now) :
    ∀ e ∈ ((ofQuiet quiet).after ops).pending.entries, e.2 ≤ now := by
  intro e he
  obtain ⟨_, j, hpends⟩ := entryOf?_after_iff.1 ((PathMap.mem_entries_iff _ e).1 he)
  obtain ⟨file, hfile, _⟩ := hpends.recorded
  exact hclock e.2 file (List.mem_of_getElem? hfile)

end Debouncer

namespace Watcher

open Debouncer (Operation)

/-! ### The debouncer of a watcher -/

/-- What a turn does with the debouncer of a watcher: the event if it counts, and then a release. -/
def Turn.operations (database : Path) (t : Turn) : List Operation :=
  let noticed := match t.event with
    | none => []
    | some e =>
      if isDatabaseEvent e database then
        match e.kind with
        | .created | .modified => [.record t.takenAt database]
        | .removed => [.remove database]
        | .other => []
      else []
  noticed ++ [.release t.checkedAt]

/-- A turn, as the debouncer sees it. -/
theorem debouncer_outcome (w : Watcher) (t : Turn) :
    (w.outcome t).1.debouncer = w.debouncer.after (t.operations w.databasePath) := by
  have houtcome : (w.outcome t).1.debouncer =
      ((w.told t).debouncer.takeReady t.checkedAt).2 := by
    rw [outcome_eq]
    split
    · rfl
    · rw [Serving.fst_rebuild]
  rw [houtcome, Turn.operations, Debouncer.after_concat]
  congr 2
  unfold told notice
  cases t.event with
  | none => rfl
  | some e =>
    simp only
    split
    · cases e.kind <;> rfl
    · rfl

/-- **A run of a watcher**, as its debouncer sees it. -/
theorem debouncer_after (w : Watcher) (turns : List Turn) :
    (w.after turns).debouncer =
      w.debouncer.after (turns.flatMap (Turn.operations w.databasePath)) := by
  induction turns generalizing w with
  | nil => rfl
  | cons t turns ih =>
    have hstep : (w.after (t :: turns)).debouncer = ((w.outcome t).1.after turns).debouncer := rfl
    rw [hstep, ih, (outcome_keeps w t).1, debouncer_outcome, List.flatMap_cons]
    exact List.foldl_append.symm

/-- The changes that a turn records it records when it takes them in. -/
theorem Turn.takenAt_of_record {database file : Path} {time : Nat} {t : Turn}
    (h : .record time file ∈ t.operations database) : time = t.takenAt := by
  unfold operations at h
  cases hevent : t.event with
  | none => simp [hevent] at h
  | some e =>
    simp only [hevent] at h
    split at h
    · cases hkind : e.kind <;> simp_all
    · simp at h

/-- No change that is held back was taken in after a time, if no turn took one in after it. -/
theorem time_le_of_mem_after (index : Index) (database : Path) (target : BuildTarget) (quiet : Nat)
    {turns : List Turn} {now : Nat} (hclock : ∀ t ∈ turns, t.takenAt ≤ now) :
    let w := Watcher.after ⟨index, database, target, .ofQuiet quiet⟩ turns
    ∀ e ∈ w.debouncer.pending.entries, e.2 ≤ now := by
  intro w
  have hafter := debouncer_after ⟨index, database, target, .ofQuiet quiet⟩ turns
  show ∀ e ∈ (Watcher.after _ turns).debouncer.pending.entries, e.2 ≤ now
  rw [hafter]
  refine Debouncer.time_le_of_mem_after ?_
  intro time file hrecord
  obtain ⟨t, ht, hop⟩ := List.mem_flatMap.1 hrecord
  rw [Turn.takenAt_of_record hop]
  exact hclock t ht

/-! ### The waits of the loop -/

section

variable {w : Watcher} {t : Turn} {now : Nat}

/-- **No turn before the wait is over** rebuilds, if its event does not count. -/
theorem not_rebuildsIn_of_waiting (hclock : ∀ e ∈ w.debouncer.pending.entries, e.2 ≤ now)
    (htold : w.told t = w) (hnow : now ≤ t.checkedAt) (hearly : t.checkedAt < now + w.timeout now) :
    ¬ w.RebuildsIn t := by
  rw [rebuildsIn_iff, htold]
  cases hwait : w.debouncer.wait? now with
  | none =>
    have hnone := Debouncer.wait?_eq_none_iff.1 hwait
    simp [Debouncer.takeReady_ne_nil_iff, hnone]
  | some wait =>
    rw [timeout, hwait, Option.getD_some] at hearly
    rw [Debouncer.takeReady_ne_nil_iff_of_wait? hclock hwait hnow]
    exact Nat.not_le.2 hearly

/-- **Any turn when the wait is over** rebuilds if anything is held back. -/
theorem rebuildsIn_iff_of_waited (hclock : ∀ e ∈ w.debouncer.pending.entries, e.2 ≤ now)
    (htold : w.told t = w) (hlate : now + w.timeout now ≤ t.checkedAt) :
    w.RebuildsIn t ↔ w.debouncer.pending.entries ≠ [] := by
  rw [rebuildsIn_iff, htold]
  cases hwait : w.debouncer.wait? now with
  | none =>
    have hnone := Debouncer.wait?_eq_none_iff.1 hwait
    simp [Debouncer.takeReady_ne_nil_iff, hnone]
  | some wait =>
    rw [timeout, hwait, Option.getD_some] at hlate
    have hnow : now ≤ t.checkedAt := Nat.le_trans (Nat.le_add_right now wait) hlate
    rw [Debouncer.takeReady_ne_nil_iff_of_wait? hclock hwait hnow]
    refine iff_of_true hlate fun hnone => ?_
    rw [Debouncer.wait?_eq_none_iff.2 hnone] at hwait
    cases hwait

/-- The loop does not wait only if something is held back. -/
theorem entries_ne_nil_of_timeout (h : w.timeout now = 0) : w.debouncer.pending.entries ≠ [] := by
  intro hnone
  rw [timeout, Debouncer.wait?_eq_none_iff.2 hnone] at h
  cases h

end

end Watcher

/-! ### Any history -/

/-- **The announced wait is exact**, after any operations and at any time not before a record:

* nothing is announced exactly if nothing is held back, and no wait exactly if something is released
  at once;
* if a wait is announced, then nothing is released and nothing changes before it is over, and
  something is released at any time from then on;
* so it is with the loop of a watcher after any turns, when no event counts: no turn rebuilds before
  the wait of the loop is over, a turn that comes when it is over rebuilds exactly if something is
  held back, and a loop that does not wait rebuilds in its next turn. -/
theorem Debouncer.waits_exactly (quiet : Nat) {ops : List Operation} {now : Nat}
    (hclock : ∀ time file, .record time file ∈ ops → time ≤ now) :
    let d := (ofQuiet quiet).after ops
    (d.wait? now = none ↔ d.pending.entries = []) ∧
    (d.wait? now = some 0 ↔ (d.takeReady now).1 ≠ []) ∧
    (∀ wait, d.wait? now = some wait →
      (∀ t, now ≤ t → t < now + wait → d.takeReady t = ([], d)) ∧
      ∀ t, now + wait ≤ t → (d.takeReady t).1 ≠ []) ∧
    (∀ index database target turns, (∀ t ∈ turns, t.takenAt ≤ now) →
      let w := Watcher.after ⟨index, database, target, .ofQuiet quiet⟩ turns
      ∀ t, w.told t = w →
        (now ≤ t.checkedAt → t.checkedAt < now + w.timeout now → ¬ w.RebuildsIn t) ∧
        (now + w.timeout now ≤ t.checkedAt →
          (w.RebuildsIn t ↔ w.debouncer.pending.entries ≠ [])) ∧
        (w.timeout now = 0 → now ≤ t.checkedAt → w.RebuildsIn t)) := by
  intro d
  have hpast : ∀ e ∈ d.pending.entries, e.2 ≤ now := time_le_of_mem_after hclock
  refine ⟨wait?_eq_none_iff, wait?_eq_some_zero_iff hpast, ?_, ?_⟩
  · intro wait hwait
    constructor
    · intro t hnow hearly
      refine takeReady_of_fst_eq_nil ?_
      by_contra hsome
      exact Nat.not_le.2 hearly ((takeReady_ne_nil_iff_of_wait? hpast hwait hnow).1 hsome)
    · intro t hlate
      have hnow : now ≤ t := Nat.le_trans (Nat.le_add_right now wait) hlate
      exact (takeReady_ne_nil_iff_of_wait? hpast hwait hnow).2 hlate
  · intro index database target turns hturns w t htold
    have hheld : ∀ e ∈ w.debouncer.pending.entries, e.2 ≤ now :=
      Watcher.time_le_of_mem_after index database target quiet hturns
    refine ⟨Watcher.not_rebuildsIn_of_waiting hheld htold,
      Watcher.rebuildsIn_iff_of_waited hheld htold, ?_⟩
    intro hzero hnow
    have hlate : now + w.timeout now ≤ t.checkedAt := by rwa [hzero]
    exact (Watcher.rebuildsIn_iff_of_waited hheld htold hlate).2
      (Watcher.entries_ne_nil_of_timeout hzero)

/-- Of two changes the first is released, and the wait is for the second. -/
theorem Debouncer.waits_exactly_for_second_change :
    let d := (ofQuiet 5).after [.record 1 ⟨"/p/a.c"⟩, .record 4 ⟨"/p/b.c"⟩, .release 6]
    let w := Watcher.after ⟨.ofFolders [], ⟨"/p/db.json"⟩, ⟨"x64", "linux"⟩, .ofQuiet 5⟩
      [⟨some ⟨.modified, [⟨"/p/db.json"⟩]⟩, 4, 4, .ok "[]"⟩]
    d.wait? 6 = some 3 ∧ (d.takeReady 8).1 = [] ∧ (d.takeReady 9).1 ≠ [] ∧
      w.timeout 6 = 3 ∧ ¬ w.RebuildsIn ⟨none, 6, 8, .ok "[]"⟩ ∧
      w.RebuildsIn ⟨none, 6, 9, .ok "[]"⟩ := by
  intro d w
  have hclock : ∀ time file, Operation.record time file ∈
      [.record 1 ⟨"/p/a.c"⟩, .record 4 ⟨"/p/b.c"⟩, .release 6] → time ≤ 6 := by
    intro time file h
    simp only [List.mem_cons, Operation.record.injEq, reduceCtorEq, List.not_mem_nil,
      or_false] at h
    rcases h with ⟨rfl, _⟩ | ⟨rfl, _⟩
    · decide
    · decide
  have hwait : d.wait? 6 = some 3 := by decide
  have htimeout : w.timeout 6 = 3 := by decide
  obtain ⟨_, _, hd, hw⟩ := waits_exactly 5 hclock
  have hturns := hw (.ofFolders []) ⟨"/p/db.json"⟩ ⟨"x64", "linux"⟩
    [⟨some ⟨.modified, [⟨"/p/db.json"⟩]⟩, 4, 4, .ok "[]"⟩] (by simp)
  have hearly : 8 < 6 + w.timeout 6 := by omega
  have hlate : 6 + w.timeout 6 ≤ 9 := by omega
  refine ⟨hwait, ?_, (hd 3 hwait).2 9 (by decide), htimeout, ?_, ?_⟩
  · rw [(hd 3 hwait).1 8 (by decide) (by decide)]
  · exact (hturns ⟨none, 6, 8, .ok "[]"⟩ rfl).1 (by decide) hearly
  · exact ((hturns ⟨none, 6, 9, .ok "[]"⟩ rfl).2.1 hlate).2 (by decide)

end CompileIndex

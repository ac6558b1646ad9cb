import CompileIndex.Proofs.Turns

/-!
# When a watcher rebuilds

Nothing is ever held back but the one database, so all that a watcher remembers of its history is a
time, or none.  The invariant says which: the time of a change that still waits.  A change waits from
the turn that takes it in, until another event touches the database or a turn rebuilds.  One turn
keeps that, and so every run does; and a turn rebuilds exactly when the change that waits has waited
long enough.

* `Debouncer.HoldsSince` — a debouncer that holds back one path at most;
* `Watcher.Waits` — which changes wait at a turn of a run;
* `Watcher.Awaits`, `Watcher.exists_awaits` — what a watcher remembers, and that every turn keeps it;
* `Watcher.rebuildsAt_iff` — which turns rebuild;
* `Watcher.Burst.existsUnique`, `Watcher.not_rebuildsAt_of_removes` — bursts and removals;
* `Watcher.rebuilds_exactly` — all of it for a watcher that starts.
-/

namespace CompileIndex

/-! ### A path alone in a debouncer -/

namespace Debouncer

/-- No path is held back but `p`, and that one since a time, or not at all. -/
def HoldsSince (d : Debouncer) (p : Path) : Option Nat → Prop
  | none => d.pending.entries = []
  | some time => ∃ k : Path, k.Same p ∧ d.pending.entries = [(k, time)]

variable {d : Debouncer} {p : Path} {since : Option Nat}

theorem holdsSince_ofQuiet (quiet : Nat) (p : Path) : (ofQuiet quiet).HoldsSince p none :=
  rfl

/-- A change is held back since it was recorded, whatever was held back before. -/
theorem HoldsSince.record (h : d.HoldsSince p since) (now : Nat) :
    (d.record now p).HoldsSince p (some now) := by
  cases since with
  | none =>
    have hnone : d.pending.entries = [] := h
    refine ⟨p, Path.Same.refl p, ?_⟩
    simp only [Debouncer.record, PathMap.insert, hnone, PathMap.insertIn]
  | some time =>
    obtain ⟨k, hk, hentries⟩ := h
    refine ⟨k, hk, ?_⟩
    simp only [Debouncer.record, PathMap.insert, hentries, PathMap.insertIn, if_pos hk]

theorem HoldsSince.remove (h : d.HoldsSince p since) : (d.remove p).HoldsSince p none := by
  show (d.pending.entries.filter fun e => ¬ e.1.Same p) = []
  cases since with
  | none =>
    have hnone : d.pending.entries = [] := h
    rw [hnone, List.filter_nil]
  | some time =>
    obtain ⟨k, hk, hentries⟩ := h
    simp [hentries, hk]

/-- The path is released when it is held back for long enough, and nothing is released else. -/
theorem HoldsSince.takeReady_iff (h : d.HoldsSince p since) (now : Nat) :
    (d.takeReady now).1.isEmpty = false ↔ ∃ time, since = some time ∧ d.quiet ≤ now - time := by
  cases since with
  | none =>
    have hnone : d.pending.entries = [] := h
    simp [takeReady, PathMap.keys, PathMap.filter, hnone]
  | some time =>
    obtain ⟨k, hk, hentries⟩ := h
    simp [takeReady, PathMap.keys, PathMap.filter, hentries, isReady]

/-- What was released is forgotten. -/
theorem HoldsSince.takeReady_of_ready (h : d.HoldsSince p since) {now : Nat}
    (hready : (d.takeReady now).1.isEmpty = false) : (d.takeReady now).2.HoldsSince p none := by
  obtain ⟨time, rfl, htime⟩ := (h.takeReady_iff now).1 hready
  obtain ⟨k, hk, hentries⟩ := h
  show (d.pending.entries.filter fun e => !d.isReady now e.2) = []
  simp [hentries, isReady, htime]

/-- As long as nothing is released all is held back as it was. -/
theorem HoldsSince.takeReady_of_not_ready (h : d.HoldsSince p since) {now : Nat}
    (hready : (d.takeReady now).1.isEmpty = true) : (d.takeReady now).2.HoldsSince p since := by
  have hlate : ¬ ∃ time, since = some time ∧ d.quiet ≤ now - time := by
    rw [← h.takeReady_iff now, hready]
    simp
  cases since with
  | none =>
    have hnone : d.pending.entries = [] := h
    show (d.pending.entries.filter fun e => !d.isReady now e.2) = []
    rw [hnone, List.filter_nil]
  | some time =>
    obtain ⟨k, hk, hentries⟩ := h
    have htime : ¬ d.quiet ≤ now - time := fun hle => hlate ⟨time, rfl, hle⟩
    refine ⟨k, hk, ?_⟩
    show (d.pending.entries.filter fun e => !d.isReady now e.2) = [(k, time)]
    simp [hentries, isReady, htime]

end Debouncer

namespace Watcher

/-! ### Changes that wait -/

/-- A change that a turn took in waits at a later turn: it is of the database, no event after it has
touched the database, and no turn has rebuilt since. -/
structure Waits (w : Watcher) (turns : List Turn) (name : String) (j i : Nat) : Prop where
  le : j ≤ i
  changes : ∃ s, turns[j]? = some s ∧ s.Changes name
  untouched : ∀ k u, j < k → k ≤ i → turns[k]? = some u → ¬ u.Touches name
  unreleased : ∀ k, j ≤ k → k < i → ¬ w.RebuildsAt turns k

/-- Turns one after the other, by the clock. -/
structure InOrder (turns : List Turn) : Prop where
  within : ∀ t ∈ turns, t.takenAt ≤ t.checkedAt
  between : turns.Pairwise fun s t => s.checkedAt ≤ t.takenAt

instance (turns : List Turn) : Decidable (InOrder turns) :=
  decidable_of_iff
    ((∀ t ∈ turns, t.takenAt ≤ t.checkedAt) ∧ turns.Pairwise fun s t => s.checkedAt ≤ t.takenAt)
    ⟨fun h => ⟨h.1, h.2⟩, fun h => ⟨h.within, h.between⟩⟩

/-! ### What a watcher remembers -/

/-- A watcher of a database that waits for the database to be quiet, and since when the database has
been quiet, if a change waits at all. -/
structure Awaits (w : Watcher) (database : Path) (quiet : Nat) (since : Option Nat) : Prop where
  path : w.databasePath = database
  quiet : w.debouncer.quiet = quiet
  holds : w.debouncer.HoldsSince database since

namespace Awaits

variable {w : Watcher} {database : Path} {quiet : Nat} {since : Option Nat} {t : Turn}

/-- A turn rebuilds when the change that waits has waited long enough. -/
theorem rebuildsIn_iff (h : (w.told t).Awaits database quiet since) :
    w.RebuildsIn t ↔ ∃ time, since = some time ∧ quiet ≤ t.checkedAt - time := by
  rw [← h.quiet, ← h.holds.takeReady_iff t.checkedAt, Watcher.rebuildsIn_iff,
    List.isEmpty_eq_false_iff]

/-- After a turn that rebuilds no change waits. -/
theorem after_rebuild (h : (w.told t).Awaits database quiet since) (hrebuilds : w.RebuildsIn t) :
    (w.outcome t).1.Awaits database quiet none := by
  rw [h.rebuildsIn_iff, ← h.quiet, ← h.holds.takeReady_iff] at hrebuilds
  rw [outcome_eq, if_neg (by simp [hrebuilds]), Serving.fst_rebuild]
  exact ⟨h.path, h.quiet, h.holds.takeReady_of_ready hrebuilds⟩

/-- After any other turn the change that waited waits on. -/
theorem after_other (h : (w.told t).Awaits database quiet since) (hother : ¬ w.RebuildsIn t) :
    (w.outcome t).1.Awaits database quiet since := by
  rw [h.rebuildsIn_iff, ← h.quiet, ← h.holds.takeReady_iff, Bool.not_eq_false] at hother
  rw [outcome_eq, if_pos hother]
  exact ⟨h.path, h.quiet, h.holds.takeReady_of_not_ready hother⟩

variable {name : String} (hname : database.fileName = some name)

include hname

theorem told_of_changes (h : w.Awaits database quiet since) (ht : t.Changes name) :
    (w.told t).Awaits database quiet (some t.takenAt) := by
  rw [Watcher.told_of_changes (h.path ▸ hname) ht]
  exact ⟨h.path, h.quiet, h.path ▸ (h.path.symm ▸ h.holds).record t.takenAt⟩

theorem told_of_removes (h : w.Awaits database quiet since) (ht : t.Removes name) :
    (w.told t).Awaits database quiet none := by
  rw [Watcher.told_of_removes (h.path ▸ hname) ht]
  exact ⟨h.path, h.quiet, h.path ▸ (h.path.symm ▸ h.holds).remove⟩

theorem told_of_not_touches (h : w.Awaits database quiet since) (ht : ¬ t.Touches name) :
    (w.told t).Awaits database quiet since := by
  rw [Watcher.told_of_not_touches (h.path ▸ hname) ht]
  exact h

end Awaits

/-! ### What a watcher remembers in a run -/

section

variable {w : Watcher} {turns : List Turn} {name : String} {i j : Nat} {t : Turn}

/-- In the first turn no change waits but its own. -/
theorem waits_zero (ht : turns[0]? = some t) :
    w.Waits turns name j 0 ↔ j = 0 ∧ t.Changes name := by
  constructor
  · intro h
    obtain rfl := Nat.le_zero.1 h.le
    obtain ⟨s, hs, hchanges⟩ := h.changes
    cases ht.symm.trans hs
    exact ⟨rfl, hchanges⟩
  · rintro ⟨rfl, hchanges⟩
    refine ⟨Nat.le_refl 0, ⟨t, ht, hchanges⟩, ?_, ?_⟩
    · intro k u hlt hle
      omega
    · intro k hle hlt
      omega

/-- In any other turn its own change waits, or one that waited in the turn before and was neither
released there nor touched here. -/
theorem waits_succ (ht : turns[i + 1]? = some t) :
    w.Waits turns name j (i + 1) ↔ (j = i + 1 ∧ t.Changes name) ∨
      ((w.Waits turns name j i ∧ ¬ w.RebuildsAt turns i) ∧ ¬ t.Touches name) := by
  constructor
  · intro h
    rcases Nat.eq_or_lt_of_le h.le with rfl | hlt
    · obtain ⟨s, hs, hchanges⟩ := h.changes
      cases ht.symm.trans hs
      exact Or.inl ⟨rfl, hchanges⟩
    · have hle : j ≤ i := Nat.le_of_lt_succ hlt
      refine Or.inr ⟨⟨⟨hle, h.changes, ?_, ?_⟩, ?_⟩, ?_⟩
      · exact fun k u hk hki => h.untouched k u hk (Nat.le_succ_of_le hki)
      · exact fun k hk hki => h.unreleased k hk (Nat.lt_succ_of_lt hki)
      · exact h.unreleased i hle (Nat.lt_succ_self i)
      · exact h.untouched (i + 1) t hlt (Nat.le_refl _) ht
  · rintro (⟨rfl, hchanges⟩ | ⟨⟨h, hrebuilds⟩, htouches⟩)
    · refine ⟨Nat.le_refl _, ⟨t, ht, hchanges⟩, ?_, ?_⟩
      · intro k u hlt hle
        omega
      · intro k hle hlt
        omega
    · refine ⟨Nat.le_succ_of_le h.le, h.changes, ?_, ?_⟩
      · intro k u hk hki hu
        rcases Nat.eq_or_lt_of_le hki with rfl | hlt
        · cases ht.symm.trans hu
          exact htouches
        · exact h.untouched k u hk (Nat.le_of_lt_succ hlt) hu
      · intro k hk hki
        rcases Nat.eq_or_lt_of_le (Nat.le_of_lt_succ hki) with rfl | hlt
        · exact hrebuilds
        · exact h.unreleased k hk hlt

/-- A time is that of the turn, if there is any, that has a property. -/
def Dates (turns : List Turn) (waits : Nat → Prop) (since : Option Nat) : Prop :=
  ∀ time, since = some time ↔ ∃ j s, waits j ∧ turns[j]? = some s ∧ s.takenAt = time

theorem dates_none : Dates turns (fun _ => False) none := by
  intro time
  simp

/-- **One event.**  If a watcher remembers the change that waits before the event of a turn, it
remembers the one that waits after it. -/
theorem Awaits.exists_told {database : Path} {quiet : Nat} {since : Option Nat}
    {before waits : Nat → Prop} (hname : database.fileName = some name)
    (h : w.Awaits database quiet since) (hdates : Dates turns before since)
    (ht : turns[i]? = some t)
    (hwaits : ∀ j, waits j ↔ (j = i ∧ t.Changes name) ∨ (before j ∧ ¬ t.Touches name)) :
    ∃ since', (w.told t).Awaits database quiet since' ∧ Dates turns waits since' := by
  by_cases hchanges : t.Changes name
  · refine ⟨_, h.told_of_changes hname hchanges, ?_⟩
    have hthis (j : Nat) : waits j ↔ j = i := by
      simp [hwaits, hchanges, Turn.Touches]
    intro time
    simp [hthis, ht]
  · by_cases hremoves : t.Removes name
    · refine ⟨_, h.told_of_removes hname hremoves, ?_⟩
      have hnone (j : Nat) : ¬ waits j := by
        simp [hwaits, hchanges, hremoves, Turn.Touches]
      intro time
      simp [hnone]
    · have htouches : ¬ t.Touches name := by simp [Turn.Touches, hchanges, hremoves]
      refine ⟨_, h.told_of_not_touches hname htouches, ?_⟩
      have hsame (j : Nat) : waits j ↔ before j := by
        simp [hwaits, hchanges, htouches]
      intro time
      simp only [hsame]
      exact hdates time

/-- **What a watcher remembers in a run.**  When a turn has taken in its event, the watcher knows
when the change that waits was taken in, and nothing when no change waits. -/
theorem exists_awaits (index : Index) {database : Path} (target : BuildTarget) (quiet : Nat)
    (turns : List Turn) (hname : database.fileName = some name) (i : Nat) (t : Turn)
    (ht : turns[i]? = some t) :
    let w : Watcher := ⟨index, database, target, .ofQuiet quiet⟩
    ∃ since, ((w.after (turns.take i)).told t).Awaits database quiet since ∧
      Dates turns (fun j => w.Waits turns name j i) since := by
  intro w
  induction i generalizing t with
  | zero =>
    have hstart : w.Awaits database quiet none :=
      ⟨rfl, rfl, Debouncer.holdsSince_ofQuiet quiet database⟩
    refine hstart.exists_told hname dates_none ht ?_
    intro j
    rw [waits_zero ht]
    simp
  | succ i ih =>
    have hlt : i < turns.length := Nat.lt_of_succ_lt (List.getElem?_eq_some_iff.1 ht).1
    obtain ⟨since, hawaits, hdates⟩ := ih turns[i] (List.getElem?_eq_getElem hlt)
    have hi := List.getElem?_eq_getElem hlt
    rw [after_take_succ hi]
    have hrebuilds := rebuildsAt_iff_rebuildsIn (w := w) hi
    by_cases hr : w.RebuildsAt turns i
    · -- The turn before has released the change, so none waits when this turn begins.
      refine (hawaits.after_rebuild (hrebuilds.1 hr)).exists_told hname dates_none ht ?_
      intro j
      rw [waits_succ ht]
      simp [hr]
    · refine (hawaits.after_other fun h => hr (hrebuilds.2 h)).exists_told hname hdates ht ?_
      intro j
      rw [waits_succ ht]
      simp [hr]

end

/-! ### Which turns rebuild -/

theorem InOrder.taken_le {turns : List Turn} (h : InOrder turns) {i j : Nat} {s t : Turn}
    (hs : turns[j]? = some s) (ht : turns[i]? = some t) (hle : j ≤ i) :
    s.takenAt ≤ t.takenAt := by
  rcases Nat.eq_or_lt_of_le hle with rfl | hlt
  · cases hs.symm.trans ht
    exact Nat.le_refl _
  · obtain ⟨hj, rfl⟩ := List.getElem?_eq_some_iff.1 hs
    obtain ⟨hi, rfl⟩ := List.getElem?_eq_some_iff.1 ht
    exact Nat.le_trans (h.within _ (List.getElem_mem hj))
      (List.pairwise_iff_getElem.1 h.between j i hj hi hlt)

/-- A change that a turn took in was taken in before any later turn, or the same one, looks at what
is held back. -/
theorem InOrder.taken_le_checked {turns : List Turn} (h : InOrder turns) {i j : Nat} {s t : Turn}
    (hs : turns[j]? = some s) (ht : turns[i]? = some t) (hle : j ≤ i) :
    s.takenAt ≤ t.checkedAt :=
  Nat.le_trans (h.taken_le hs ht hle) (h.within t (List.mem_of_getElem? ht))

/-- A burst of changes: nothing is quiet for long enough before the last change of the burst, and
nothing touches the database from then on up to a turn that finds it quiet for long enough. -/
structure Burst (turns : List Turn) (name : String) (quiet first last found : Nat) : Prop where
  first_le : first ≤ last
  last_le : last ≤ found
  ends : ∃ s t, turns[last]? = some s ∧ s.Changes name ∧ turns[found]? = some t ∧
    s.takenAt + quiet ≤ t.checkedAt
  busy : ∀ k u, first ≤ k → k < last → turns[k]? = some u → ∃ l s, first ≤ l ∧ l ≤ k ∧
    turns[l]? = some s ∧ s.Changes name ∧ u.checkedAt < s.takenAt + quiet
  calm : ∀ k u, last < k → k ≤ found → turns[k]? = some u → ¬ u.Touches name

section

variable (index : Index) {database : Path} {name : String} (target : BuildTarget) (quiet : Nat)
  {turns : List Turn} (hname : database.fileName = some name)

include hname

/-- **Which turns rebuild**: those that come when the change that waits has waited long enough. -/
theorem rebuildsAt_iff {i : Nat} {t : Turn} (ht : turns[i]? = some t) :
    let w : Watcher := ⟨index, database, target, .ofQuiet quiet⟩
    w.RebuildsAt turns i ↔ ∃ j s, w.Waits turns name j i ∧ turns[j]? = some s ∧
      quiet ≤ t.checkedAt - s.takenAt := by
  intro w
  obtain ⟨since, hawaits, hdates⟩ := exists_awaits index target quiet turns hname i t ht
  rw [rebuildsAt_iff_rebuildsIn ht, hawaits.rebuildsIn_iff]
  constructor
  · rintro ⟨time, hsince, htime⟩
    obtain ⟨j, s, hwaits, hs, rfl⟩ := (hdates time).1 hsince
    exact ⟨j, s, hwaits, hs, htime⟩
  · rintro ⟨j, s, hwaits, hs, htime⟩
    exact ⟨s.takenAt, (hdates s.takenAt).2 ⟨j, s, hwaits, hs, rfl⟩, htime⟩

/-- Between two rebuilds there is a change. -/
theorem exists_change_of_rebuildsAt {k i : Nat} (hlt : k < i) :
    let w : Watcher := ⟨index, database, target, .ofQuiet quiet⟩
    w.RebuildsAt turns k → w.RebuildsAt turns i →
      ∃ j s, k < j ∧ j ≤ i ∧ turns[j]? = some s ∧ s.Changes name := by
  intro w hk hi
  obtain ⟨t, ht, _⟩ := id hi
  obtain ⟨j, _, hwaits, _⟩ := (rebuildsAt_iff index target quiet hname ht).1 hi
  obtain ⟨s, hs, hchanges⟩ := hwaits.changes
  refine ⟨j, s, ?_, hwaits.le, hs, hchanges⟩
  by_contra hle
  exact hwaits.unreleased k (Nat.le_of_not_lt hle) hlt hk

/-- **A removal cancels**: no turn rebuilds from it on until the next change. -/
theorem not_rebuildsAt_of_removes {r i : Nat} {u : Turn} (hu : turns[r]? = some u)
    (hremoves : u.Removes name) (hle : r ≤ i)
    (hnone : ∀ k v, r < k → k ≤ i → turns[k]? = some v → ¬ v.Changes name) :
    ¬ Watcher.RebuildsAt ⟨index, database, target, .ofQuiet quiet⟩ turns i := by
  intro hi
  obtain ⟨t, ht, _⟩ := id hi
  obtain ⟨j, _, hwaits, _⟩ := (rebuildsAt_iff index target quiet hname ht).1 hi
  obtain ⟨s, hs, hchanges⟩ := hwaits.changes
  rcases Nat.lt_trichotomy j r with hlt | rfl | hlt
  · exact hwaits.untouched r u hlt hle hu (Or.inr hremoves)
  · cases hs.symm.trans hu
    exact hremoves.not_changes hchanges
  · exact hnone j s hlt hwaits.le hs hchanges

/-- No turn rebuilds in a burst before its last change. -/
theorem Burst.not_rebuildsAt (hclock : InOrder turns) {first last found k : Nat}
    (h : Burst turns name quiet first last found) (hfirst : first ≤ k) (hlast : k < last) :
    ¬ Watcher.RebuildsAt ⟨index, database, target, .ofQuiet quiet⟩ turns k := by
  intro hk
  obtain ⟨u, hu, _⟩ := id hk
  obtain ⟨j, s, hwaits, hs, htime⟩ := (rebuildsAt_iff index target quiet hname hu).1 hk
  obtain ⟨l, v, _, hlk, hv, hchanges, hbusy⟩ := h.busy k u hfirst hlast hu
  have hlj : l ≤ j := by
    by_contra hlt
    exact hwaits.untouched l v (Nat.lt_of_not_le hlt) hlk hv (Or.inl hchanges)
  have hvs := hclock.taken_le hv hs hlj
  have hsu := hclock.taken_le_checked hs hu hwaits.le
  omega

/-- **A burst yields one rebuild.** -/
theorem Burst.existsUnique (hclock : InOrder turns) {first last found : Nat}
    (h : Burst turns name quiet first last found) :
    ∃! k, (first ≤ k ∧ k ≤ found) ∧
      Watcher.RebuildsAt ⟨index, database, target, .ofQuiet quiet⟩ turns k := by
  obtain ⟨s, t, hs, hchanges, ht, htime⟩ := h.ends
  have hlate {k : Nat} (hfirst : first ≤ k)
      (hk : Watcher.RebuildsAt ⟨index, database, target, .ofQuiet quiet⟩ turns k) : last ≤ k := by
    by_contra hlt
    exact h.not_rebuildsAt index target quiet hname hclock hfirst (Nat.lt_of_not_le hlt) hk
  have hone {k i : Nat} (hk : (first ≤ k ∧ k ≤ found) ∧
        Watcher.RebuildsAt ⟨index, database, target, .ofQuiet quiet⟩ turns k)
      (hi : (first ≤ i ∧ i ≤ found) ∧
        Watcher.RebuildsAt ⟨index, database, target, .ofQuiet quiet⟩ turns i) : ¬ k < i := by
    intro hlt
    obtain ⟨j, v, hkj, hji, hv, hchange⟩ :=
      exists_change_of_rebuildsAt index target quiet hname hlt hk.2 hi.2
    exact h.calm j v (Nat.lt_of_le_of_lt (hlate hk.1.1 hk.2) hkj) (Nat.le_trans hji hi.1.2) hv
      (Or.inl hchange)
  have hsome : ∃ k, (first ≤ k ∧ k ≤ found) ∧
      Watcher.RebuildsAt ⟨index, database, target, .ofQuiet quiet⟩ turns k := by
    by_contra hnone
    have hwaits : Waits ⟨index, database, target, .ofQuiet quiet⟩ turns name last found := by
      refine ⟨h.last_le, ⟨s, hs, hchanges⟩, h.calm, ?_⟩
      intro k hlast hfound hk
      exact hnone ⟨k, ⟨Nat.le_trans h.first_le hlast, Nat.le_of_lt hfound⟩, hk⟩
    refine hnone ⟨found, ⟨Nat.le_trans h.first_le h.last_le, Nat.le_refl _⟩, ?_⟩
    exact (rebuildsAt_iff index target quiet hname ht).2 ⟨last, s, hwaits, hs, by omega⟩
  obtain ⟨k, hk⟩ := hsome
  refine ⟨k, hk, ?_⟩
  intro i hi
  exact Nat.le_antisymm (Nat.le_of_not_lt (hone hk hi)) (Nat.le_of_not_lt (hone hi hk))

end

/-! ### Any run -/

/-- **When a watcher rebuilds.**  In any run of turns one after the other by the clock, of a watcher
that starts with nothing held back:

* a turn rebuilds exactly when a change of the database waits that was taken in no later than the
  turn looks, and at least the quiet time before; it then refreshes the index from what it reads,
  and any other turn leaves the index;
* exactly one turn rebuilds in a burst of changes with its quiet time;
* from a removal on no turn rebuilds until the next change;
* with other events of other files or other kinds the same turns rebuild, to the same effect. -/
theorem rebuilds_exactly (index : Index) {database : Path} {name : String} (target : BuildTarget)
    (quiet : Nat) {turns : List Turn} (hname : database.fileName = some name)
    (hclock : InOrder turns) :
    let w : Watcher := ⟨index, database, target, .ofQuiet quiet⟩
    (∀ i t, turns[i]? = some t →
      (w.RebuildsAt turns i ↔ ∃ j s, w.Waits turns name j i ∧ turns[j]? = some s ∧
        s.takenAt ≤ t.checkedAt ∧ quiet ≤ t.checkedAt - s.takenAt) ∧
      (w.RebuildsAt turns i → (w.after (turns.take (i + 1))).index =
        (w.after (turns.take i)).index.perform (.refresh database t.content target)) ∧
      (¬ w.RebuildsAt turns i →
        (w.after (turns.take (i + 1))).index = (w.after (turns.take i)).index)) ∧
    (∀ first last found, Burst turns name quiet first last found →
      ∃! k, (first ≤ k ∧ k ≤ found) ∧ w.RebuildsAt turns k) ∧
    (∀ r i u, turns[r]? = some u → u.Removes name → r ≤ i →
      (∀ k v, r < k → k ≤ i → turns[k]? = some v → ¬ v.Changes name) →
      ¬ w.RebuildsAt turns i) ∧
    (∀ others, List.Forall₂ (Turn.SameTo name) turns others →
      (∀ i, w.RebuildsAt turns i ↔ w.RebuildsAt others i) ∧ w.after turns = w.after others) := by
  intro w
  refine ⟨?_, ?_, ?_, ?_⟩
  · intro i t ht
    refine ⟨?_, index_after_of_rebuildsAt ht, index_after_of_not_rebuildsAt ht⟩
    refine (rebuildsAt_iff index target quiet hname ht).trans ⟨?_, ?_⟩
    · rintro ⟨j, s, hwaits, hs, hquiet⟩
      exact ⟨j, s, hwaits, hs, hclock.taken_le_checked hs ht hwaits.le, hquiet⟩
    · rintro ⟨j, s, hwaits, hs, _, hquiet⟩
      exact ⟨j, s, hwaits, hs, hquiet⟩
  · intro first last found hburst
    exact hburst.existsUnique index target quiet hname hclock
  · intro r i u hu hremoves hle hnone
    exact not_rebuildsAt_of_removes index target quiet hname hu hremoves hle hnone
  · intro others hsame
    exact run_sameTo hname hsame

/-- Two changes shortly one after the other and another file's, and then quiet: the turn that finds
it quiet for long enough is the only one that rebuilds.  A change that is removed again has no
effect. -/
theorem rebuilds_exactly_burst_then_removal :
    let turns : List Turn :=
      [⟨some ⟨.created, [⟨"/p/db.json"⟩]⟩, 0, 1, .error .notFound⟩,
        ⟨some ⟨.modified, [⟨"/p/db.tmp"⟩, ⟨"/q/db.json"⟩]⟩, 4, 4, .error .notFound⟩,
        ⟨some ⟨.modified, [⟨"/p/main.c"⟩]⟩, 6, 6, .error .notFound⟩,
        ⟨none, 9, 9, .ok "[]"⟩,
        ⟨some ⟨.modified, [⟨"/p/db.json"⟩]⟩, 20, 20, .ok "[]"⟩,
        ⟨some ⟨.removed, [⟨"/p/db.json"⟩]⟩, 22, 22, .ok "[]"⟩,
        ⟨none, 40, 40, .ok "[]"⟩]
    let w : Watcher := ⟨.ofFolders [], ⟨"/p/db.json"⟩, ⟨"x64", "linux"⟩, .ofQuiet 5⟩
    (⟨"/p/db.json"⟩ : Path).fileName = some "db.json" ∧ InOrder turns ∧
      (∃! k, (0 ≤ k ∧ k ≤ 3) ∧ w.RebuildsAt turns k) ∧ ¬ w.RebuildsAt turns 6 := by
  intro turns w
  have hname : (⟨"/p/db.json"⟩ : Path).fileName = some "db.json" := by decide
  have hclock : InOrder turns := by decide
  obtain ⟨_, hburst, hremoval, _⟩ :=
    rebuilds_exactly (.ofFolders []) ⟨"x64", "linux"⟩ 5 hname hclock
  refine ⟨hname, hclock, hburst 0 1 3 ?_, ?_⟩
  · refine ⟨by decide, by decide, ⟨_, _, rfl, by decide, rfl, by decide⟩, ?_, ?_⟩
    · intro k u _ hk hu
      obtain rfl : k = 0 := Nat.lt_one_iff.1 hk
      cases hu
      exact ⟨0, _, by decide, by decide, rfl, by decide, by decide⟩
    · intro k u hk hle hu
      obtain rfl | rfl : k = 2 ∨ k = 3 := by omega
      · cases hu
        decide
      · cases hu
        decide
  · refine hremoval 5 6 _ rfl (by decide) (by decide) ?_
    intro k v hk hle hv
    obtain rfl : k = 6 := Nat.le_antisymm hle hk
    cases hv
    decide

end Watcher

end CompileIndex

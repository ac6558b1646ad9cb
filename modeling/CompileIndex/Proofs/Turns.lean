import CompileIndex.Proofs.Interleaving

/-!
# Turns of a watcher

The loop of a watcher turns: a turn takes in an event, or none comes in time, and then releases what
has been quiet long enough.  A turn reads the clock twice, for the event and for the release, and it
rebuilds when it reads the database.

Of an event a watcher sees whether it changes the database or removes it, by the file name alone.
All other events leave it as it is, so a run does not depend on them.

* `Watcher.Turn`, `Watcher.turn`, `Watcher.outcome` — a turn, what it does, and how often it reads;
* `Watcher.turn_eq_step` — a turn that reads the clock once is `Watcher.step`;
* `Watcher.RebuildsAt` — which turns of a run rebuild;
* `Watcher.outcome_of_rebuildsIn`, `Watcher.outcome_of_not_rebuildsIn` — what a turn leaves;
* `Watcher.run_sameTo` — runs that differ in events that do not count.
-/

namespace CompileIndex

namespace Watcher

/-! ### Turns -/

/-- One turn of the loop, as it comes from outside. -/
structure Turn where
  event : Option ChangeEvent
  /-- When the event, if there is one, is taken in. -/
  takenAt : Nat
  /-- When the changes are looked at that are held back. -/
  checkedAt : Nat
  /-- What reading the database gives in this turn. -/
  content : Except FileError String

section

variable {m : Type → Type} [Monad m]

/-- A turn of the loop that reads the clock twice. -/
def turn (readDatabase : m (Except FileError String)) (w : Watcher) (t : Turn) :
    m (Watcher × List Log.Event) := do
  match t.event with
  | none => w.step readDatabase t.checkedAt none
  | some e =>
    let (w, noticed) := w.notice t.takenAt e
    let (w, events) ← w.step readDatabase t.checkedAt none
    return (w, noticed ++ events)

/-- **A turn that reads the clock once** is the turn that a service takes. -/
theorem turn_eq_step [LawfulMonad m] (readDatabase : m (Except FileError String)) (w : Watcher)
    {t : Turn} (h : t.takenAt = t.checkedAt) :
    w.turn readDatabase t = w.step readDatabase t.checkedAt t.event := by
  unfold turn
  cases t.event with
  | none => rfl
  | some e =>
    simp only [step, h]
    split
    · simp
    · simp

end

/-- Reading the database, counted. -/
def countedRead (content : Except FileError String) : StateM Nat (Except FileError String) :=
  fun reads => (content, reads + 1)

/-- The watcher after a turn, and how often the turn has read the database. -/
def outcome (w : Watcher) (t : Turn) : Watcher × Nat :=
  let done := Id.run ((w.turn (countedRead t.content) t).run 0)
  (done.1.1, done.2)

/-- A turn rebuilds when it reads the database. -/
def RebuildsIn (w : Watcher) (t : Turn) : Prop :=
  0 < (w.outcome t).2

/-- The watcher after several turns. -/
def after (w : Watcher) (turns : List Turn) : Watcher :=
  turns.foldl (fun w t => (w.outcome t).1) w

/-- Whether the turn at a place of a run rebuilds. -/
def RebuildsAt (w : Watcher) (turns : List Turn) (i : Nat) : Prop :=
  ∃ t, turns[i]? = some t ∧ (w.after (turns.take i)).RebuildsIn t

namespace Turn

/-- Whether the event of a turn is a change of a file with some name: one that is created or
modified. -/
def Changes (name : String) (t : Turn) : Prop :=
  ∃ e ∈ t.event, (e.kind = .created ∨ e.kind = .modified) ∧ ∃ p ∈ e.paths, p.fileName = some name

/-- Whether the event of a turn is a removal of a file with some name. -/
def Removes (name : String) (t : Turn) : Prop :=
  ∃ e ∈ t.event, e.kind = .removed ∧ ∃ p ∈ e.paths, p.fileName = some name

/-- Whether the event of a turn is a change or a removal of a file with some name. -/
def Touches (name : String) (t : Turn) : Prop :=
  t.Changes name ∨ t.Removes name

instance (name : String) (t : Turn) : Decidable (t.Changes name) :=
  inferInstanceAs (Decidable (∃ e ∈ t.event,
    (e.kind = .created ∨ e.kind = .modified) ∧ ∃ p ∈ e.paths, p.fileName = some name))

instance (name : String) (t : Turn) : Decidable (t.Removes name) :=
  inferInstanceAs (Decidable (∃ e ∈ t.event,
    e.kind = .removed ∧ ∃ p ∈ e.paths, p.fileName = some name))

instance (name : String) (t : Turn) : Decidable (t.Touches name) :=
  inferInstanceAs (Decidable (t.Changes name ∨ t.Removes name))

end Turn

/-! ### What one turn does -/

/-- The watcher that has taken in the event of a turn. -/
def told (w : Watcher) (t : Turn) : Watcher :=
  match t.event with
  | none => w
  | some e => (w.notice t.takenAt e).1

/-- **A turn** takes in its event and releases; if it releases anything it reads the database once
and rebuilds. -/
theorem outcome_eq (w : Watcher) (t : Turn) :
    let told := w.told t
    let left : Watcher := { told with debouncer := (told.debouncer.takeReady t.checkedAt).2 }
    w.outcome t =
      if (told.debouncer.takeReady t.checkedAt).1.isEmpty then (left, 0)
      else ((left.rebuild t.content).1, 1) := by
  unfold outcome turn told
  cases t.event with
  | none =>
    simp only [step]
    split <;> rfl
  | some e =>
    simp only [step]
    split <;> rfl

/-- A turn rebuilds when something is released after its event is taken in. -/
theorem rebuildsIn_iff (w : Watcher) (t : Turn) :
    w.RebuildsIn t ↔ ((w.told t).debouncer.takeReady t.checkedAt).1 ≠ [] := by
  rw [RebuildsIn, outcome_eq, ← List.isEmpty_eq_false_iff]
  split
  · next hnone => simp [hnone]
  · next hsome => simp [hsome]

theorem told_eq (w : Watcher) (t : Turn) :
    w.told t = { w with debouncer := (w.told t).debouncer } := by
  unfold told
  cases t.event with
  | none => rfl
  | some e => exact Serving.fst_notice w t.takenAt e

/-- **A turn that rebuilds** reads the database once, and the index is refreshed from what was
read. -/
theorem outcome_of_rebuildsIn {w : Watcher} {t : Turn} (h : w.RebuildsIn t) :
    w.outcome t = ({ w with
      index := w.index.perform (.refresh w.databasePath t.content w.target)
      debouncer := (w.outcome t).1.debouncer }, 1) := by
  rw [RebuildsIn, outcome_eq] at h
  rw [outcome_eq]
  split at h
  · exact absurd h (Nat.lt_irrefl 0)
  · next hsome =>
    rw [if_neg hsome, Serving.fst_rebuild, told_eq]

/-- Any other turn leaves all but what is held back. -/
theorem outcome_of_not_rebuildsIn {w : Watcher} {t : Turn} (h : ¬ w.RebuildsIn t) :
    w.outcome t = ({ w with debouncer := (w.outcome t).1.debouncer }, 0) := by
  rw [RebuildsIn, outcome_eq] at h
  rw [outcome_eq]
  split at h
  · next hnone =>
    rw [if_pos hnone, told_eq]
  · exact absurd Nat.one_pos h

/-- A watcher watches one database for one target. -/
theorem outcome_keeps (w : Watcher) (t : Turn) :
    (w.outcome t).1.databasePath = w.databasePath ∧ (w.outcome t).1.target = w.target := by
  by_cases h : w.RebuildsIn t
  · rw [outcome_of_rebuildsIn h]
    exact ⟨rfl, rfl⟩
  · rw [outcome_of_not_rebuildsIn h]
    exact ⟨rfl, rfl⟩

theorem after_keeps (w : Watcher) (turns : List Turn) :
    (w.after turns).databasePath = w.databasePath ∧ (w.after turns).target = w.target := by
  induction turns generalizing w with
  | nil => exact ⟨rfl, rfl⟩
  | cons t turns ih =>
    obtain ⟨hpath, htarget⟩ := outcome_keeps w t
    exact ⟨(ih _).1.trans hpath, (ih _).2.trans htarget⟩

theorem isDatabaseEvent_iff {database : Path} {name : String} (h : database.fileName = some name)
    (e : ChangeEvent) :
    isDatabaseEvent e database = true ↔ ∃ p ∈ e.paths, p.fileName = some name := by
  simp [isDatabaseEvent, h]

section

variable {w : Watcher} {name : String} (hname : w.databasePath.fileName = some name) {t : Turn}

include hname

theorem told_of_changes (h : t.Changes name) :
    w.told t = { w with debouncer := w.debouncer.record t.takenAt w.databasePath } := by
  obtain ⟨e, he, hkind, hpaths⟩ := h
  have htouches := (isDatabaseEvent_iff hname e).2 hpaths
  simp only [told, Option.mem_def.1 he, notice, if_pos htouches]
  rcases hkind with hkind | hkind
  · simp only [hkind]
  · simp only [hkind]

theorem told_of_removes (h : t.Removes name) :
    w.told t = { w with debouncer := w.debouncer.remove w.databasePath } := by
  obtain ⟨e, he, hkind, hpaths⟩ := h
  have htouches := (isDatabaseEvent_iff hname e).2 hpaths
  simp only [told, Option.mem_def.1 he, notice, if_pos htouches, hkind]

/-- Events of other files and of other kinds leave a watcher as it is. -/
theorem told_of_not_touches (h : ¬ t.Touches name) : w.told t = w := by
  unfold told
  cases he : t.event with
  | none => rfl
  | some e =>
    simp only [notice]
    split
    · next htouches =>
      have hpaths := (isDatabaseEvent_iff hname e).1 htouches
      cases hkind : e.kind with
      | created => exact absurd (Or.inl ⟨e, he, Or.inl hkind, hpaths⟩) h
      | modified => exact absurd (Or.inl ⟨e, he, Or.inr hkind, hpaths⟩) h
      | removed => exact absurd (Or.inr ⟨e, he, hkind, hpaths⟩) h
      | other => rfl
    · rfl

end

/-- No event is a change and a removal. -/
theorem Turn.Removes.not_changes {name : String} {t : Turn} (h : t.Removes name) :
    ¬ t.Changes name := by
  rintro ⟨d, hd, hchanged, _⟩
  obtain ⟨e, he, hremoved, _⟩ := h
  cases Option.mem_unique hd he
  rw [hremoved] at hchanged
  rcases hchanged with hkind | hkind <;> cases hkind

/-! ### Turns of a run -/

section

variable {w : Watcher} {turns : List Turn} {i : Nat} {t : Turn}

theorem rebuildsAt_iff_rebuildsIn (ht : turns[i]? = some t) :
    w.RebuildsAt turns i ↔ (w.after (turns.take i)).RebuildsIn t := by
  simp [RebuildsAt, ht]

theorem after_take_succ (ht : turns[i]? = some t) :
    w.after (turns.take (i + 1)) = ((w.after (turns.take i)).outcome t).1 := by
  rw [after, List.take_add_one, ht, Option.toList_some, List.foldl_append]
  rfl

/-- A turn of a run that rebuilds refreshes the index from what it read. -/
theorem index_after_of_rebuildsAt (ht : turns[i]? = some t) (h : w.RebuildsAt turns i) :
    (w.after (turns.take (i + 1))).index =
      (w.after (turns.take i)).index.perform (.refresh w.databasePath t.content w.target) := by
  obtain ⟨hpath, htarget⟩ := after_keeps w (turns.take i)
  rw [after_take_succ ht, outcome_of_rebuildsIn ((rebuildsAt_iff_rebuildsIn ht).1 h), hpath,
    htarget]

/-- Any other turn leaves the index as it was. -/
theorem index_after_of_not_rebuildsAt (ht : turns[i]? = some t) (h : ¬ w.RebuildsAt turns i) :
    (w.after (turns.take (i + 1))).index = (w.after (turns.take i)).index := by
  rw [after_take_succ ht,
    outcome_of_not_rebuildsIn fun hrebuilds => h ((rebuildsAt_iff_rebuildsIn ht).2 hrebuilds)]

end

/-! ### Events that do not count -/

/-- Two turns that are the same to a watcher of a file with some name: by the clock, in what reading
the file gives, and in their events, unless neither event touches the file. -/
structure Turn.SameTo (name : String) (s t : Turn) : Prop where
  takenAt : s.takenAt = t.takenAt
  checkedAt : s.checkedAt = t.checkedAt
  content : s.content = t.content
  event : s.event = t.event ∨ (¬ s.Touches name ∧ ¬ t.Touches name)

section

variable {w : Watcher} {name : String} {turns others : List Turn}

theorem rebuildsAt_cons_zero (t : Turn) : w.RebuildsAt (t :: turns) 0 ↔ w.RebuildsIn t :=
  rebuildsAt_iff_rebuildsIn rfl

theorem rebuildsAt_cons_succ (t : Turn) (i : Nat) :
    w.RebuildsAt (t :: turns) (i + 1) ↔ (w.outcome t).1.RebuildsAt turns i :=
  Iff.rfl

theorem outcome_sameTo (hname : w.databasePath.fileName = some name) {s t : Turn}
    (h : s.SameTo name t) : w.outcome s = w.outcome t := by
  have htold : w.told s = w.told t := by
    rcases h.event with hevent | ⟨hs, ht⟩
    · unfold told
      rw [hevent, h.takenAt]
    · rw [told_of_not_touches hname hs, told_of_not_touches hname ht]
  rw [outcome_eq, outcome_eq, htold, h.checkedAt, h.content]

/-- **Events of other files and of other kinds** make no difference, neither to which turns rebuild
nor to what they leave. -/
theorem run_sameTo (hname : w.databasePath.fileName = some name)
    (h : List.Forall₂ (Turn.SameTo name) turns others) :
    (∀ i, w.RebuildsAt turns i ↔ w.RebuildsAt others i) ∧ w.after turns = w.after others := by
  induction h generalizing w with
  | nil => exact ⟨fun i => Iff.rfl, rfl⟩
  | @cons s t turns others hsame _ ih =>
    have houtcome := outcome_sameTo hname hsame
    have hkept : (w.outcome t).1.databasePath.fileName = some name := by
      rw [(outcome_keeps w t).1]
      exact hname
    obtain ⟨hrebuilds, hafter⟩ := ih hkept
    constructor
    · intro i
      cases i with
      | zero => rw [rebuildsAt_cons_zero, rebuildsAt_cons_zero, RebuildsIn, RebuildsIn, houtcome]
      | succ i =>
        rw [rebuildsAt_cons_succ, rebuildsAt_cons_succ, houtcome]
        exact hrebuilds i
    · show (w.outcome s).1.after turns = (w.outcome t).1.after others
      rw [houtcome]
      exact hafter

end

end Watcher

end CompileIndex

import CompileIndex.Proofs.Containers
import CompileIndex.Watch.Debouncer

/-!
# What a debouncer holds back

Changes are recorded and forgotten, and those that have been quiet long enough are released, at any
times and in any order.  What is held back of a path then depends on what was done with that path
alone.  A path is held back since its last record, until it is recorded again, removed or released;
its spelling is that of the first record since it was absent.

* `Debouncer.Operation`, `Debouncer.after` — what is done with a debouncer, and what it is then;
* `Debouncer.entryOf?_apply` — one operation, as one path sees it;
* `Debouncer.Pends`, `Debouncer.SpelledAt` — the record that a path is held back by, and the one
  that spells it;
* `Debouncer.entryOf?_after_iff` — what a debouncer holds back after any operations;
* `Debouncer.ReleasedAt.exists_record`, `Debouncer.Burst.not_releasedAt` — releases of one path;
* `Debouncer.pends_or_removed_or_released` — nothing is lost;
* `Debouncer.entryOf?_after_filter` — what is done with other paths;
* `Debouncer.releases_exactly` — all of it, for what a debouncer releases and for what it keeps.
-/

namespace CompileIndex

namespace Debouncer

/-! ### Operations -/

/-- What is done with a debouncer. -/
inductive Operation where
  | record (time : Nat) (file : Path)
  | remove (file : Path)
  | release (time : Nat)

/-- The debouncer after an operation. -/
def apply (d : Debouncer) : Operation → Debouncer
  | .record time file => d.record time file
  | .remove file => d.remove file
  | .release time => (d.takeReady time).2

/-- What an operation releases. -/
def released (d : Debouncer) : Operation → List Path
  | .release time => (d.takeReady time).1
  | _ => []

/-- The debouncer after several operations. -/
def after (d : Debouncer) (ops : List Operation) : Debouncer :=
  ops.foldl apply d

theorem after_concat (d : Debouncer) (ops : List Operation) (op : Operation) :
    d.after (ops ++ [op]) = (d.after ops).apply op := by
  rw [after, List.foldl_append]
  rfl

/-- The time of an operation, if it has one. -/
def Operation.time? : Operation → Option Nat
  | .record time _ => some time
  | .remove _ => none
  | .release time => some time

/-- Whether the operations come one after the other by the clock. -/
def InOrder (ops : List Operation) : Prop :=
  (ops.filterMap Operation.time?).Pairwise (· ≤ ·)

/-- Whether an operation is a record of a path, under any spelling. -/
def Operation.Records (op : Operation) (p : Path) : Prop :=
  ∃ time file, op = .record time file ∧ file.Same p

/-- Whether an operation is a removal of a path, under any spelling. -/
def Operation.Removes (op : Operation) (p : Path) : Prop :=
  ∃ file, op = .remove file ∧ file.Same p

/-! ### What one path sees -/

/-- What is held back of a path is held back by its entry: a spelling and a time. -/
abbrev Entry := Path × Nat

/-- The entry of a path after an operation. -/
def nextEntry (quiet : Nat) (p : Path) (held : Option Entry) : Operation → Option Entry
  | .record time file => if file.Same p then some ((held.map Prod.fst).getD file, time) else held
  | .remove file => if file.Same p then none else held
  | .release time => held.filter fun e => !decide (quiet ≤ time - e.2)

variable {d : Debouncer}

/-- **One operation, as one path sees it.** -/
theorem entryOf?_apply (d : Debouncer) (op : Operation) (p : Path) :
    (d.apply op).pending.entryOf? p = nextEntry d.quiet p (d.pending.entryOf? p) op := by
  cases op with
  | record time file => exact d.pending.entryOf?_insert file p time
  | remove file => exact d.pending.entryOf?_erase file p
  | release time => exact d.pending.entryOf?_filter _ p

theorem quiet_apply (d : Debouncer) (op : Operation) : (d.apply op).quiet = d.quiet := by
  cases op <;> rfl

theorem quiet_after (d : Debouncer) (ops : List Operation) : (d.after ops).quiet = d.quiet := by
  induction ops generalizing d with
  | nil => rfl
  | cons op rest ih => exact (ih (d.apply op)).trans (d.quiet_apply op)

/-- **Several operations, as one path sees them.** -/
theorem entryOf?_after (d : Debouncer) (ops : List Operation) (p : Path) :
    (d.after ops).pending.entryOf? p = ops.foldl (nextEntry d.quiet p) (d.pending.entryOf? p) := by
  induction ops using List.reverseRecOn with
  | nil => rfl
  | append_singleton ops op ih =>
    rw [after_concat, entryOf?_apply, quiet_after, ih, List.foldl_append]
    rfl

/-- What is released of a path: its entry, when it has been quiet long enough. -/
theorem mem_takeReady_iff (d : Debouncer) (now : Nat) (file : Path) :
    file ∈ (d.takeReady now).1 ↔
      ∃ time, d.pending.entryOf? file = some (file, time) ∧ d.quiet ≤ now - time := by
  show file ∈ ((d.pending.filter fun _ changed => d.isReady now changed).keys) ↔ _
  simp only [PathMap.keys, List.mem_map, PathMap.filter, List.mem_filter, isReady,
    decide_eq_true_eq, PathMap.mem_entries_iff]
  constructor
  · rintro ⟨⟨_, time⟩, ⟨hentry, hquiet⟩, rfl⟩
    exact ⟨time, hentry, hquiet⟩
  · rintro ⟨time, hentry, hquiet⟩
    exact ⟨(file, time), ⟨hentry, hquiet⟩, rfl⟩

/-- Whether an operation records a path, removes it or releases it. -/
def Touches (d : Debouncer) (op : Operation) (p : Path) : Prop :=
  op.Records p ∨ op.Removes p ∨ ∃ file ∈ d.released op, file.Same p

section

variable {op : Operation} {p : Path}

/-- A record sets the time of a path and keeps its spelling, if it has one. -/
theorem entryOf?_apply_record {file : Path} (time : Nat) (h : file.Same p) :
    (d.apply (.record time file)).pending.entryOf? p =
      some (((d.pending.entryOf? p).map Prod.fst).getD file, time) := by
  rw [entryOf?_apply]
  exact if_pos h

/-- An operation that does not touch a path leaves its entry. -/
theorem entryOf?_apply_of_not_touches (h : ¬ d.Touches op p) :
    (d.apply op).pending.entryOf? p = d.pending.entryOf? p := by
  rw [Touches, not_or, not_or] at h
  rw [entryOf?_apply]
  cases op with
  | record time file => exact if_neg fun hfile => h.1 ⟨time, file, rfl, hfile⟩
  | remove file => exact if_neg fun hfile => h.2.1 ⟨file, rfl, hfile⟩
  | release now =>
    cases he : d.pending.entryOf? p with
    | none => rfl
    | some e =>
      have hsame := PathMap.same_of_entryOf? he
      have hlate : ¬ d.quiet ≤ now - e.2 := by
        intro hquiet
        rw [← d.pending.entryOf?_congr hsame] at he
        exact h.2.2 ⟨e.1, (d.mem_takeReady_iff now e.1).2 ⟨e.2, he, hquiet⟩, hsame⟩
      simp [nextEntry, hlate]

/-- An operation that removes or releases a path leaves nothing of it. -/
theorem entryOf?_apply_of_touches (h : d.Touches op p) (hrecords : ¬ op.Records p) :
    (d.apply op).pending.entryOf? p = none := by
  rw [entryOf?_apply]
  rcases h with h | ⟨file, rfl, hfile⟩ | ⟨file, hreleased, hfile⟩
  · exact absurd h hrecords
  · exact if_pos hfile
  · cases op with
    | record time file => cases hreleased
    | remove file => cases hreleased
    | release now =>
      obtain ⟨time, hentry, hquiet⟩ := (d.mem_takeReady_iff now file).1 hreleased
      rw [d.pending.entryOf?_congr hfile] at hentry
      rw [hentry]
      simp [nextEntry, hquiet]

end

/-! ### Histories -/

section

variable (quiet : Nat) (ops : List Operation) (p : Path)

/-- Whether the operation at a place of a history records a path, removes it or releases it. -/
def TouchedAt (k : Nat) : Prop :=
  ∃ op, ops[k]? = some op ∧ ((ofQuiet quiet).after (ops.take k)).Touches op p

/-- A path is held back since the record at a place: that is its latest record, and it was neither
removed nor released after it. -/
structure Pends (j time : Nat) : Prop where
  recorded : ∃ file, ops[j]? = some (.record time file) ∧ file.Same p
  untouched : ∀ k, j < k → ¬ TouchedAt quiet ops p k

/-- A path is spelled as in the record at a place: nothing of it was held back before, and something
has been ever since. -/
structure SpelledAt (i : Nat) (file : Path) : Prop where
  recorded : ∃ time, ops[i]? = some (.record time file) ∧ file.Same p
  absent : ∀ j time, ¬ Pends quiet (ops.take i) p j time
  present : ∀ n, i < n → n ≤ ops.length → ∃ j time, Pends quiet (ops.take n) p j time

end

section

variable {quiet : Nat} {ops : List Operation} {op : Operation} {p : Path} {i j k time : Nat}
  {file : Path}

theorem touchedAt_concat :
    TouchedAt quiet (ops ++ [op]) p k ↔ TouchedAt quiet ops p k ∨
      (k = ops.length ∧ ((ofQuiet quiet).after ops).Touches op p) := by
  rcases Nat.lt_trichotomy k ops.length with hlt | rfl | hlt
  · rw [TouchedAt, List.getElem?_append_left hlt, List.take_append_of_le_length (Nat.le_of_lt hlt)]
    simp [TouchedAt, Nat.ne_of_lt hlt]
  · simp [TouchedAt]
  · have hwhole : (ops ++ [op])[k]? = none :=
      List.getElem?_eq_none (by simpa using Nat.succ_le_of_lt hlt)
    have hfront : ops[k]? = none := List.getElem?_eq_none (Nat.le_of_lt hlt)
    simp [TouchedAt, hwhole, hfront, Nat.ne_of_gt hlt]

theorem Pends.lt_length (h : Pends quiet ops p j time) : j < ops.length := by
  obtain ⟨file, hfile, _⟩ := h.recorded
  exact (List.getElem?_eq_some_iff.1 hfile).1

theorem TouchedAt.lt_length (h : TouchedAt quiet ops p k) : k < ops.length := by
  obtain ⟨op, hop, _⟩ := h
  exact (List.getElem?_eq_some_iff.1 hop).1

/-- After one more operation a path is held back since that one, or as it was before if that one
does not touch it. -/
theorem pends_concat :
    Pends quiet (ops ++ [op]) p j time ↔
      (j = ops.length ∧ ∃ file, op = .record time file ∧ file.Same p) ∨
        (Pends quiet ops p j time ∧ ¬ ((ofQuiet quiet).after ops).Touches op p) := by
  constructor
  · intro h
    obtain ⟨file, hfile, hsame⟩ := h.recorded
    have hle : j ≤ ops.length := by simpa [Nat.lt_succ_iff] using h.lt_length
    rcases Nat.eq_or_lt_of_le hle with rfl | hlt
    · exact Or.inl ⟨rfl, file, by simpa using hfile, hsame⟩
    · rw [List.getElem?_append_left hlt] at hfile
      refine Or.inr ⟨⟨⟨file, hfile, hsame⟩, ?_⟩, ?_⟩
      · exact fun k hk hold => h.untouched k hk (touchedAt_concat.2 (Or.inl hold))
      · exact fun hnew => h.untouched _ hlt (touchedAt_concat.2 (Or.inr ⟨rfl, hnew⟩))
  · rintro (⟨rfl, file, rfl, hsame⟩ | ⟨h, hleft⟩)
    · refine ⟨⟨file, by simp, hsame⟩, ?_⟩
      intro k hk htouched
      have hlength := htouched.lt_length
      rw [List.length_append, List.length_singleton] at hlength
      omega
    · obtain ⟨file, hfile, hsame⟩ := h.recorded
      refine ⟨⟨file, by rw [List.getElem?_append_left h.lt_length]; exact hfile, hsame⟩, ?_⟩
      intro k hk htouched
      rcases touchedAt_concat.1 htouched with hold | ⟨_, hnew⟩
      · exact h.untouched k hk hold
      · exact hleft hnew

theorem SpelledAt.lt_length (h : SpelledAt quiet ops p i file) : i < ops.length := by
  obtain ⟨time, htime, _⟩ := h.recorded
  exact (List.getElem?_eq_some_iff.1 htime).1

/-- After one more operation a path is spelled by that one, if nothing of it was held back before,
or as it was before if something of it is held back still. -/
theorem spelledAt_concat :
    SpelledAt quiet (ops ++ [op]) p i file ↔
      (i = ops.length ∧ (∃ time, op = .record time file ∧ file.Same p) ∧
        ∀ j time, ¬ Pends quiet ops p j time) ∨
      (SpelledAt quiet ops p i file ∧ ∃ j time, Pends quiet (ops ++ [op]) p j time) := by
  constructor
  · intro h
    obtain ⟨time, htime, hsame⟩ := h.recorded
    have hle : i ≤ ops.length := by simpa [Nat.lt_succ_iff] using h.lt_length
    have habsent := h.absent
    rw [List.take_append_of_le_length hle] at habsent
    rcases Nat.eq_or_lt_of_le hle with rfl | hlt
    · rw [List.take_length] at habsent
      exact Or.inl ⟨rfl, ⟨time, by simpa using htime, hsame⟩, habsent⟩
    · rw [List.getElem?_append_left hlt] at htime
      refine Or.inr ⟨⟨⟨time, htime, hsame⟩, habsent, ?_⟩, ?_⟩
      · intro n hn hlength
        have hpresent := h.present n hn (by rw [List.length_append]; omega)
        rwa [List.take_append_of_le_length hlength] at hpresent
      · have hpresent := h.present (ops ++ [op]).length h.lt_length (Nat.le_refl _)
        rwa [List.take_length] at hpresent
  · rintro (⟨rfl, ⟨time, rfl, hsame⟩, habsent⟩ | ⟨h, hpresent⟩)
    · refine ⟨⟨time, by simp, hsame⟩, by simpa using habsent, ?_⟩
      intro n hlt hle
      rw [List.take_of_length_le (by rw [List.length_append, List.length_singleton]; omega)]
      exact ⟨ops.length, time, pends_concat.2 (Or.inl ⟨rfl, file, rfl, hsame⟩)⟩
    · obtain ⟨time, htime, hsame⟩ := h.recorded
      refine ⟨⟨time, by rw [List.getElem?_append_left h.lt_length]; exact htime, hsame⟩, ?_, ?_⟩
      · rw [List.take_append_of_le_length (Nat.le_of_lt h.lt_length)]
        exact h.absent
      · intro n hn hlength
        rcases Nat.lt_or_ge ops.length n with hlt | hle
        · rw [List.take_of_length_le (by rw [List.length_append, List.length_singleton]; omega)]
          exact hpresent
        · rw [List.take_append_of_le_length hle]
          exact h.present n hn hle

/-- The time of what is held back of a path is that of the record it is held back by. -/
theorem time_after_iff :
    (((ofQuiet quiet).after ops).pending.entryOf? p).map Prod.snd = some time ↔
      ∃ j, Pends quiet ops p j time := by
  induction ops using List.reverseRecOn generalizing time with
  | nil =>
    refine iff_of_false (fun h => by cases h) ?_
    rintro ⟨j, hpends⟩
    exact Nat.not_lt_zero j hpends.lt_length
  | append_singleton ops op ih =>
    rw [after_concat]
    simp only [pends_concat, exists_or]
    by_cases htouches : ((ofQuiet quiet).after ops).Touches op p
    · by_cases hrecords : op.Records p
      · obtain ⟨now, file, rfl, hsame⟩ := hrecords
        rw [entryOf?_apply_record now hsame]
        simp [htouches, hsame, eq_comm]
      · rw [entryOf?_apply_of_touches htouches hrecords]
        have hnone (file : Path) : ¬ (op = .record time file ∧ file.Same p) :=
          fun h => hrecords ⟨time, file, h⟩
        simp [htouches, hnone]
    · rw [entryOf?_apply_of_not_touches htouches, ih]
      have hnone (file : Path) : ¬ (op = .record time file ∧ file.Same p) :=
        fun h => htouches (Or.inl ⟨time, file, h⟩)
      simp [htouches, hnone]

theorem exists_pends_iff :
    (∃ j time, Pends quiet ops p j time) ↔
      (((ofQuiet quiet).after ops).pending.entryOf? p).isSome := by
  rw [exists_comm]
  simp only [← time_after_iff]
  cases ((ofQuiet quiet).after ops).pending.entryOf? p <;> simp

theorem not_pends_iff :
    (∀ j time, ¬ Pends quiet ops p j time) ↔
      ((ofQuiet quiet).after ops).pending.entryOf? p = none := by
  rw [← Option.not_isSome_iff_eq_none, ← exists_pends_iff]
  simp only [not_exists]

/-- The spelling of what is held back of a path is that of the first record since it was absent. -/
theorem spelling_after_iff :
    (((ofQuiet quiet).after ops).pending.entryOf? p).map Prod.fst = some file ↔
      ∃ i, SpelledAt quiet ops p i file := by
  induction ops using List.reverseRecOn generalizing file with
  | nil =>
    refine iff_of_false (fun h => by cases h) ?_
    rintro ⟨i, hspelled⟩
    exact Nat.not_lt_zero i hspelled.lt_length
  | append_singleton ops op ih =>
    simp only [spelledAt_concat, exists_or, exists_and_right, exists_pends_iff, not_pends_iff, ← ih]
    rw [after_concat]
    generalize hheld : ((ofQuiet quiet).after ops).pending.entryOf? p = held
    by_cases htouches : ((ofQuiet quiet).after ops).Touches op p
    · by_cases hrecords : op.Records p
      · obtain ⟨now, first, rfl, hsame⟩ := hrecords
        rw [entryOf?_apply_record now hsame, hheld]
        cases held with
        | none =>
          simp only [Option.map_none, Option.getD_none, Option.map_some, Option.some.injEq,
            Operation.record.injEq]
          constructor
          · rintro rfl
            exact Or.inl ⟨⟨_, rfl⟩, ⟨⟨now, rfl, rfl⟩, hsame⟩, trivial⟩
          · rintro (⟨_, ⟨⟨_, _, hfirst⟩, _⟩, _⟩ | ⟨hnone, _⟩)
            · exact hfirst
            · cases hnone
        | some e => simp
      · rw [entryOf?_apply_of_touches htouches hrecords]
        have hnone (time : Nat) : ¬ (op = .record time file ∧ file.Same p) :=
          fun h => hrecords ⟨time, file, h⟩
        simp [← exists_and_right, hnone]
    · rw [entryOf?_apply_of_not_touches htouches, hheld]
      have hnone (time : Nat) : ¬ (op = .record time file ∧ file.Same p) :=
        fun h => htouches (Or.inl ⟨time, file, h⟩)
      cases held with
      | none => simp [← exists_and_right, hnone]
      | some e => simp

/-- **What is held back** of a path after any operations. -/
theorem entryOf?_after_iff :
    ((ofQuiet quiet).after ops).pending.entryOf? p = some (file, time) ↔
      (∃ i, SpelledAt quiet ops p i file) ∧ ∃ j, Pends quiet ops p j time := by
  rw [← spelling_after_iff, ← time_after_iff]
  cases ((ofQuiet quiet).after ops).pending.entryOf? p with
  | none => simp
  | some e => simp [Prod.ext_iff]

/-- **What is released**: the paths held back since a record at least the quiet time ago, as they
are spelled. -/
theorem mem_takeReady_after_iff {now : Nat} :
    file ∈ (((ofQuiet quiet).after ops).takeReady now).1 ↔
      (∃ i, SpelledAt quiet ops file i file) ∧
        ∃ j time, Pends quiet ops file j time ∧ quiet ≤ now - time := by
  rw [mem_takeReady_iff, quiet_after]
  simp only [entryOf?_after_iff]
  constructor
  · rintro ⟨time, ⟨hspelled, j, hpends⟩, hquiet⟩
    exact ⟨hspelled, j, time, hpends, hquiet⟩
  · rintro ⟨hspelled, j, time, hpends, hquiet⟩
    exact ⟨time, ⟨hspelled, j, hpends⟩, hquiet⟩

/-- **What stays**: the other paths held back, with their spellings and times. -/
theorem entryOf?_takeReady_after_iff {now : Nat} :
    (((ofQuiet quiet).after ops).takeReady now).2.pending.entryOf? p = some (file, time) ↔
      (∃ i, SpelledAt quiet ops p i file) ∧ (∃ j, Pends quiet ops p j time) ∧
        now - time < quiet := by
  have hleft := entryOf?_apply ((ofQuiet quiet).after ops) (.release now) p
  have hquiet : ((ofQuiet quiet).after ops).quiet = quiet := quiet_after _ ops
  rw [nextEntry, hquiet] at hleft
  rw [← and_assoc, ← entryOf?_after_iff]
  refine (iff_of_eq (congrArg (· = _) hleft)).trans ?_
  rw [Option.filter_eq_some_iff, Bool.not_eq_true', decide_eq_false_iff_not, Nat.not_le]

/-! ### Releases of one path -/

/-- Whether the operation at a place of a history releases a path, under any spelling. -/
def ReleasedAt (quiet : Nat) (ops : List Operation) (p : Path) (k : Nat) : Prop :=
  ∃ op, ops[k]? = some op ∧ ∃ file ∈ ((ofQuiet quiet).after (ops.take k)).released op, file.Same p

/-- What is released was held back until then, for at least the quiet time. -/
theorem ReleasedAt.exists_pends (h : ReleasedAt quiet ops p k) :
    ∃ now, ops[k]? = some (.release now) ∧
      ∃ j time, Pends quiet (ops.take k) p j time ∧ quiet ≤ now - time := by
  obtain ⟨op, hop, released, hreleased, hsame⟩ := h
  cases op with
  | record time file => cases hreleased
  | remove file => cases hreleased
  | release now =>
    obtain ⟨time, hentry, hquiet⟩ := (mem_takeReady_iff _ now released).1 hreleased
    rw [PathMap.entryOf?_congr _ hsame, entryOf?_after_iff] at hentry
    rw [quiet_after] at hquiet
    obtain ⟨_, j, hpends⟩ := hentry
    exact ⟨now, hop, j, time, hpends, hquiet⟩

/-- A place of a history before another is as it was then. -/
theorem TouchedAt.take {n : Nat} (h : TouchedAt quiet ops p k) (hlt : k < n) :
    TouchedAt quiet (ops.take n) p k := by
  obtain ⟨op, hop, htouches⟩ := h
  refine ⟨op, by rwa [List.getElem?_take_of_lt hlt], ?_⟩
  rwa [List.take_take, Nat.min_eq_left (Nat.le_of_lt hlt)]

theorem ReleasedAt.touchedAt (h : ReleasedAt quiet ops p k) : TouchedAt quiet ops p k := by
  obtain ⟨op, hop, hreleased⟩ := h
  exact ⟨op, hop, Or.inr (Or.inr hreleased)⟩

/-- **Every release is of a record of its own**: one after the last release, and at least the quiet
time ago. -/
theorem ReleasedAt.exists_record (hi : ReleasedAt quiet ops p i) (hk : ReleasedAt quiet ops p k)
    (hlt : i < k) :
    ∃ j now time file, i < j ∧ j < k ∧ ops[k]? = some (.release now) ∧
      ops[j]? = some (.record time file) ∧ file.Same p ∧ quiet ≤ now - time := by
  obtain ⟨now, hnow, j, time, hpends, hquiet⟩ := hk.exists_pends
  obtain ⟨file, hfile, hsame⟩ := hpends.recorded
  have hjk : j < k := Nat.lt_of_lt_of_le hpends.lt_length (List.length_take_le k ops)
  rw [List.getElem?_take_of_lt hjk] at hfile
  refine ⟨j, now, time, file, ?_, hjk, hnow, hfile, hsame, hquiet⟩
  rcases Nat.lt_trichotomy j i with hji | rfl | hij
  · exact absurd (hi.touchedAt.take hlt) (hpends.untouched i hji)
  · obtain ⟨_, hrelease, _⟩ := hi.exists_pends
    cases hfile.symm.trans hrelease
  · exact hij

/-- By the clock a time of an earlier operation is no later. -/
theorem InOrder.time_le {early late : Operation} {u v : Nat} (h : InOrder ops)
    (hi : ops[i]? = some early) (hk : ops[k]? = some late) (hu : early.time? = some u)
    (hv : late.time? = some v) (hle : i ≤ k) : u ≤ v := by
  rcases Nat.eq_or_lt_of_le hle with rfl | hlt
  · cases hi.symm.trans hk
    cases hu.symm.trans hv
    exact Nat.le_refl u
  · obtain ⟨hilt, rfl⟩ := List.getElem?_eq_some_iff.1 hi
    obtain ⟨hklt, rfl⟩ := List.getElem?_eq_some_iff.1 hk
    have hpairs := List.pairwise_filterMap.1 h
    exact List.pairwise_iff_getElem.1 hpairs i k hilt hklt hlt u hu v hv

/-- A burst of records of a path: whenever changes are released before the last place of the burst,
the path was recorded in the burst less than the quiet time ago. -/
def Burst (quiet : Nat) (ops : List Operation) (p : Path) (first last : Nat) : Prop :=
  ∀ k now, first ≤ k → k < last → ops[k]? = some (.release now) →
    ∃ l time file, first ≤ l ∧ l < k ∧ ops[l]? = some (.record time file) ∧ file.Same p ∧
      now < time + quiet

/-- By the clock nothing is released of a path in a burst of its records before the last of them. -/
theorem Burst.last_le {first last : Nat} (h : Burst quiet ops p first last)
    (hclock : InOrder ops) (hfirst : first ≤ k) (hk : ReleasedAt quiet ops p k) : last ≤ k := by
  by_contra hearly
  obtain ⟨now, hnow, j, latest, hpends, hquiet⟩ := hk.exists_pends
  obtain ⟨l, time, file, _, hlk, hl, hsame, hbusy⟩ :=
    h k now hfirst (Nat.lt_of_not_le hearly) hnow
  obtain ⟨other, hj, _⟩ := hpends.recorded
  have hjk : j < k := Nat.lt_of_lt_of_le hpends.lt_length (List.length_take_le k ops)
  rw [List.getElem?_take_of_lt hjk] at hj
  have hlj : l ≤ j := by
    by_contra hlt
    have htouched : TouchedAt quiet ops p l := ⟨_, hl, Or.inl ⟨time, file, rfl, hsame⟩⟩
    exact hpends.untouched l (Nat.lt_of_not_le hlt) (htouched.take hlk)
  have hlatest := hclock.time_le hl hj rfl rfl hlj
  have htime := hclock.time_le hl hnow rfl rfl (Nat.le_of_lt hlk)
  omega

/-- **A burst is released once** at most, until the path is recorded again. -/
theorem Burst.not_releasedAt {first last : Nat} (h : Burst quiet ops p first last)
    (hclock : InOrder ops) (hfirst : first ≤ i) (hlt : i < k)
    (hcalm : ∀ j op, last < j → j < k → ops[j]? = some op → ¬ op.Records p)
    (hi : ReleasedAt quiet ops p i) : ¬ ReleasedAt quiet ops p k := by
  intro hk
  obtain ⟨j, _, time, file, hij, hjk, _, hj, hsame, _⟩ := hi.exists_record hk hlt
  have hlast := h.last_le hclock hfirst hi
  exact hcalm j _ (Nat.lt_of_le_of_lt hlast hij) hjk hj ⟨time, file, rfl, hsame⟩

/-- Of the operations that touch a path there is a last one. -/
theorem TouchedAt.exists_last {i : Nat} (h : TouchedAt quiet ops p i) :
    ∃ k, i ≤ k ∧ TouchedAt quiet ops p k ∧ ∀ l, k < l → ¬ TouchedAt quiet ops p l := by
  by_cases hlater : ∃ l, i < l ∧ TouchedAt quiet ops p l
  · obtain ⟨l, hil, hl⟩ := hlater
    have hlength := hl.lt_length
    obtain ⟨k, hlk, hk⟩ := hl.exists_last
    exact ⟨k, Nat.le_trans (Nat.le_of_lt hil) hlk, hk⟩
  · exact ⟨i, Nat.le_refl i, h, fun l hil hl => hlater ⟨l, hil, hl⟩⟩
termination_by ops.length - i

/-- **Nothing is lost**: a path that was recorded is held back still, or it was removed or released
later. -/
theorem pends_or_removed_or_released (hi : ops[i]? = some (.record time file)) :
    (∃ j latest, Pends quiet ops file j latest) ∨
      ∃ k, i < k ∧ ((∃ op, ops[k]? = some op ∧ op.Removes file) ∨ ReleasedAt quiet ops file k) := by
  have htouched : TouchedAt quiet ops file i :=
    ⟨_, hi, Or.inl ⟨time, file, rfl, Path.Same.refl file⟩⟩
  obtain ⟨k, hik, ⟨op, hop, htouches⟩, hlast⟩ := htouched.exists_last
  rcases htouches with ⟨latest, other, rfl, hsame⟩ | hremoves | hreleased
  · exact Or.inl ⟨k, latest, ⟨other, hop, hsame⟩, hlast⟩
  · refine Or.inr ⟨k, Nat.lt_of_le_of_ne hik ?_, Or.inl ⟨op, hop, hremoves⟩⟩
    rintro rfl
    cases hi.symm.trans hop
    obtain ⟨_, hremove, _⟩ := hremoves
    cases hremove
  · refine Or.inr ⟨k, Nat.lt_of_le_of_ne hik ?_, Or.inr ⟨op, hop, hreleased⟩⟩
    rintro rfl
    cases hi.symm.trans hop
    obtain ⟨_, hmem, _⟩ := hreleased
    cases hmem

/-! ### Other paths -/

/-- Whether an operation is about a path, or about all. -/
def Operation.concerns (p : Path) : Operation → Bool
  | .record _ file => file.Same p
  | .remove file => file.Same p
  | .release _ => true

theorem nextEntry_of_not_concerns (h : op.concerns p = false) (held : Option Entry) :
    nextEntry quiet p held op = held := by
  cases op with
  | record time file => exact if_neg (by simpa [Operation.concerns] using h)
  | remove file => exact if_neg (by simpa [Operation.concerns] using h)
  | release time => cases h

/-- **What is done with other paths** makes no difference to what is held back of a path. -/
theorem entryOf?_after_filter (d : Debouncer) (ops : List Operation) (p : Path) :
    (d.after (ops.filter (Operation.concerns p))).pending.entryOf? p =
      (d.after ops).pending.entryOf? p := by
  rw [entryOf?_after, entryOf?_after, List.foldl_filter]
  congr 1
  funext held op
  cases hconcerns : op.concerns p with
  | false => exact (nextEntry_of_not_concerns hconcerns held).symm
  | true => rfl

end

/-! ### Any history -/

/-- **What a debouncer releases and what it keeps** after any operations at any times:

* what is released has no path twice, and is exactly the paths held back since a record at least the
  quiet time ago, spelled as in the first record since they were absent;
* what stays held back is exactly the other paths, with their latest times;
* between two releases of a path there is a record of it; by the clock nothing is released in a
  burst of its records before the last of them, and once at most until the next record;
* a path that was recorded is held back still, or it was removed or released later;
* operations on other paths make no difference to a path. -/
theorem releases_exactly (quiet : Nat) (ops : List Operation) (now : Nat) :
    let d := (ofQuiet quiet).after ops
    let released := (d.takeReady now).1
    let left := (d.takeReady now).2
    (released.Pairwise fun p q => ¬ p.Same q) ∧
    (∀ file, file ∈ released ↔ (∃ i, SpelledAt quiet ops file i file) ∧
      ∃ j time, Pends quiet ops file j time ∧ quiet ≤ now - time) ∧
    (∀ p file time, left.pending.entryOf? p = some (file, time) ↔
      (∃ i, SpelledAt quiet ops p i file) ∧ (∃ j, Pends quiet ops p j time) ∧
        now - time < quiet) ∧
    (∀ p i k, i < k → ReleasedAt quiet ops p i → ReleasedAt quiet ops p k →
      ∃ j op, i < j ∧ j < k ∧ ops[j]? = some op ∧ op.Records p) ∧
    (∀ p first last i k, InOrder ops → Burst quiet ops p first last → first ≤ i → i < k →
      (∀ j op, last < j → j < k → ops[j]? = some op → ¬ op.Records p) →
      ReleasedAt quiet ops p i → last ≤ i ∧ ¬ ReleasedAt quiet ops p k) ∧
    (∀ i time file, ops[i]? = some (.record time file) →
      (∃ j latest, Pends quiet ops file j latest) ∨
        ∃ k, i < k ∧ ((∃ op, ops[k]? = some op ∧ op.Removes file) ∨
          ReleasedAt quiet ops file k)) ∧
    (∀ p, let alone := (ofQuiet quiet).after (ops.filter (Operation.concerns p))
      alone.pending.entryOf? p = d.pending.entryOf? p ∧
        ∀ file, file.Same p → (file ∈ (alone.takeReady now).1 ↔ file ∈ released)) := by
  intro d released left
  refine ⟨PathMap.pairwise_keys _, ?_, ?_, ?_, ?_, ?_, ?_⟩
  · exact fun file => mem_takeReady_after_iff
  · exact fun p file time => entryOf?_takeReady_after_iff
  · intro p i k hlt hi hk
    obtain ⟨j, _, time, file, hij, hjk, _, hj, hsame, _⟩ := hi.exists_record hk hlt
    exact ⟨j, _, hij, hjk, hj, time, file, rfl, hsame⟩
  · intro p first last i k hclock hburst hfirst hlt hcalm hi
    exact ⟨hburst.last_le hclock hfirst hi, hburst.not_releasedAt hclock hfirst hlt hcalm hi⟩
  · exact fun i time file => pends_or_removed_or_released
  · intro p alone
    have halone : alone.pending.entryOf? p = d.pending.entryOf? p := entryOf?_after_filter _ ops p
    refine ⟨halone, ?_⟩
    intro file hsame
    have hfile : alone.pending.entryOf? file = d.pending.entryOf? file := by
      rw [PathMap.entryOf?_congr _ hsame, PathMap.entryOf?_congr _ hsame, halone]
    rw [mem_takeReady_iff, mem_takeReady_iff, hfile, quiet_after, quiet_after]

/-- A second record under another spelling restarts the quiet time and keeps the first spelling. -/
example :
    let d := (ofQuiet 4).after [.record 0 ⟨"/b/db.json"⟩, .record 5 ⟨"/b//db.json"⟩]
    (d.takeReady 8).1 = [] ∧ (d.takeReady 9).1 = [⟨"/b/db.json"⟩] := by
  decide

end Debouncer

end CompileIndex

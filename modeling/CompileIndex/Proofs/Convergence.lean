import CompileIndex.Proofs.Interleaving

/-!
# Where a service comes to rest

A service that watches its database is settled when nothing is left to do: the host is answered,
no event waits, no change is held back and no refresh is under way.  Its index is then meant to be
the one built from the file as it is.

What carries the argument is the last change of the file.  If it was made under watch, there was
an event for it, and from the event on the change is always somewhere: told by an event that has
yet to be taken in, held back, released, read by the watching thread, or swapped in by it.  If it
was made before the file was first read, the first refresh swapped it in.  So there are two ways
to settle on an older file.  The last change came in between, after the first reading and before
the watch, and nothing tells of it.  Or it was swapped in, and then the main thread swapped in what
it had read before.

* `Serving.Agrees`, `Serving.Missed`, `Serving.Overtaken` — how a service may come to rest;
* `Serving.Invariant`, `Serving.Invariant.step` — what every step keeps;
* `Serving.settled_exact` — every settled service has come to rest in one of the three ways;
* `Serving.settled_stale` — runs for the other two ways.
-/

namespace CompileIndex

/-! ### Changes held back -/

namespace Debouncer

/-- Whether a change is held back. -/
def holds (d : Debouncer) : Bool :=
  !d.pending.keys.isEmpty

theorem holds_record (d : Debouncer) (now : Nat) (file : Path) :
    (d.record now file).holds = true := by
  have hfind : (d.record now file).pending.find? file = some now := by
    rw [record, PathMap.find?_insert, if_pos (.refl file)]
  have hentries : (d.record now file).pending.entries ≠ [] := by
    intro hnil
    simp [PathMap.find?, hnil, PathMap.findIn] at hfind
  simpa [holds, PathMap.keys] using hentries

/-- When no change is released, all of them are still held back. -/
theorem takeReady_eq_self {d : Debouncer} {now : Nat} (h : (d.takeReady now).1.isEmpty = true) :
    (d.takeReady now).2 = d := by
  have hnone : ∀ e ∈ d.pending.entries, d.isReady now e.2 = false := by
    simpa [takeReady, PathMap.keys, PathMap.filter] using h
  have hall : (d.pending.filter fun _ changed => !d.isReady now changed) = d.pending := by
    apply PathMap.eq_of_entries
    rw [PathMap.filter, List.filter_eq_self]
    intro e he
    rw [hnone e he, Bool.not_false]
  simp only [takeReady, hall]

end Debouncer

namespace Serving

/-! ### Events that are owed a refresh -/

/-- Whether a change is held back once an event is taken in, given whether one was before. -/
def marks (database : Path) (held : Bool) (e : ChangeEvent) : Bool :=
  if Watcher.isDatabaseEvent e database then
    match e.kind with
    | .created | .modified => true
    | .removed => false
    | .other => held
  else held

/-- Whether a change is held back, or will be when all events are taken in. -/
def isOwed (s : Serving) : Bool :=
  s.undelivered.foldl (marks s.watcher.databasePath) s.watcher.debouncer.holds

theorem marks_mono {database : Path} {held more : Bool} (h : held = true → more = true)
    (e : ChangeEvent) (hmarks : marks database held e = true) : marks database more e = true := by
  unfold marks at hmarks ⊢
  split at hmarks
  · next htouches =>
    rw [if_pos htouches]
    cases hkind : e.kind with
    | created | modified => rfl
    | removed => simp [hkind] at hmarks
    | other => exact h (by simpa [hkind] using hmarks)
  · next htouches =>
    rw [if_neg htouches]
    exact h hmarks

theorem foldl_marks_mono {database : Path} (events : List ChangeEvent) {held more : Bool}
    (h : held = true → more = true) (hmarks : events.foldl (marks database) held = true) :
    events.foldl (marks database) more = true := by
  induction events generalizing held more with
  | nil => exact h hmarks
  | cons e rest ih => exact ih (marks_mono h e) hmarks

/-- A change is held back after an event that marks it. -/
theorem holds_notice (w : Watcher) (now : Nat) (e : ChangeEvent)
    (h : marks w.databasePath w.debouncer.holds e = true) :
    (w.notice now e).1.debouncer.holds = true := by
  unfold marks at h
  unfold Watcher.notice
  split at h
  · next htouches =>
    rw [if_pos htouches]
    cases hkind : e.kind with
    | created | modified => exact Debouncer.holds_record w.debouncer now w.databasePath
    | removed => simp [hkind] at h
    | other => simpa [hkind] using h
  · next htouches =>
    rw [if_neg htouches]
    exact h

/-- An event that tells of a readable database is owed a refresh. -/
theorem isOwed_told_of_tells (s : Serving) {text : String} {e : ChangeEvent}
    (h : tells s.watcher.databasePath (.ok text) e = true) : (s.told e).isOwed = true := by
  obtain ⟨htouches, hkind⟩ := (Bool.and_eq_true _ _).mp h
  have hmarks : ∀ held, marks s.watcher.databasePath held e = true := by
    intro held
    rw [marks, if_pos htouches]
    cases hk : e.kind with
    | created | modified => rfl
    | removed | other => simp [hk] at hkind
  rw [isOwed, told, List.foldl_append]
  exact hmarks _

/-- An event that tells of no removal takes nothing away. -/
theorem isOwed_told (s : Serving) {e : ChangeEvent}
    (he : tellsRemoval s.watcher.databasePath e = false) (h : s.isOwed = true) :
    (s.told e).isOwed = true := by
  have hmarks : marks s.watcher.databasePath true e = true := by
    unfold marks
    split
    · next htouches =>
      cases hk : e.kind with
      | created | modified | other => rfl
      | removed => simp [tellsRemoval, htouches, hk] at he
    · rfl
  rw [isOwed, told, List.foldl_append]
  rw [isOwed] at h
  rw [h]
  exact hmarks

/-- What is owed stays owed when an event is taken in. -/
theorem isOwed_delivered (s : Serving) (now : Nat) {e : ChangeEvent} {left : List ChangeEvent}
    (hleft : s.undelivered = e :: left) (h : s.isOwed = true) :
    (s.delivered now e left).isOwed = true := by
  rw [isOwed, hleft, List.foldl_cons] at h
  exact foldl_marks_mono left (holds_notice s.watcher now e) h

/-- What is owed stays owed at a check that releases no change. -/
theorem isOwed_released (s : Serving) (now : Nat)
    (hready : (s.watcher.debouncer.takeReady now).1.isEmpty = true) (h : s.isOwed = true) :
    (s.released now).isOwed = true := by
  rw [isOwed, released, Debouncer.takeReady_eq_self hready]
  exact h

/-! ### How a service may come to rest -/

/-- The file as it is is a database. -/
def Loads (s : Serving) : Prop :=
  ∃ db, Database.load s.watcher.databasePath s.content = .ok db

/-- Nothing is left to do. -/
structure Settled (s : Serving) : Prop where
  served : s.main = .serving
  idle : s.watch = .waiting ∨ s.watch = .checking
  delivered : s.undelivered = []
  quiet : s.watcher.debouncer.pending.keys = []

/-- The index is the one built from the file as it is, if that is a database. -/
def Agrees (s : Serving) (folders : List Path) : Prop :=
  ∀ db, Database.load s.watcher.databasePath s.content = .ok db →
    s.watcher.index = ((Index.ofFolders folders).rebuild db s.watcher.target).index

/-- The last change of the file came after the first reading and before the watch, and no reading
since then was swapped in. -/
def Missed (s : Serving) : Prop :=
  s.firstRead < s.changes ∧ s.changes = s.registeredAt ∧ ∀ r ∈ s.swapped, r.changes < s.changes

/-- A reading of the file as it is was swapped in, but the last one to be swapped in is an older
reading of the main thread. -/
def Overtaken (s : Serving) : Prop :=
  (∃ r ∈ s.swapped, r.changes = s.changes) ∧
    ∃ last, s.swapped.getLast? = some last ∧ last.reader = .main ∧ last.changes < s.changes

/-! ### Readings -/

/-- The readings that a state knows of. -/
def readings (s : Serving) : List Reading :=
  s.swapped ++ s.main.reading?.toList ++ s.watch.reading?.toList

theorem mem_readings {s : Serving} {r : Reading} :
    r ∈ s.readings ↔ r ∈ s.swapped ∨ s.main.reading? = some r ∨ s.watch.reading? = some r := by
  simp only [readings, List.mem_append, Option.mem_toList, or_assoc]

/-- A reading that fits a state: it is of the file as it was after some changes, and the watching
thread has not read before the watch. -/
structure Fits (s : Serving) (r : Reading) : Prop where
  le : r.changes ≤ s.changes
  same : r.changes = s.changes → r.content = s.content
  watched : r.reader = .watching → s.isWatched = true ∧ s.registeredAt ≤ r.changes

/-- Of two readings of the watching thread, the later one is not older. -/
def InOrder (r later : Reading) : Prop :=
  r.reader = .watching → later.reader = .watching → r.changes ≤ later.changes

theorem Fits.changed {s : Serving} {r : Reading} (h : s.Fits r)
    (content : Except FileError String) : (s.changed content).Fits r where
  le := Nat.le_succ_of_le h.le
  same := fun hnow => absurd hnow (Nat.ne_of_lt (Nat.lt_succ_of_le h.le))
  watched := h.watched

/-- A reading that fits goes on to fit. -/
theorem Step.fits {s t : Serving} (hstep : Step s t) {r : Reading} (h : s.Fits r) : t.Fits r := by
  cases hstep with
  | changeUnseen content _ => exact h.changed content
  | change content e _ _ => exact ⟨(h.changed content).le, (h.changed content).same, h.watched⟩
  | readFirst hmain | swapFirst hmain | register hmain =>
    have hnone : r.reader ≠ .watching := by
      intro hreader
      have hwatched := (h.watched hreader).1
      simp [isWatched, hmain] at hwatched
    exact ⟨h.le, h.same, fun hreader => absurd hreader hnone⟩
  | readHost hmain | swapHost hmain =>
    exact ⟨h.le, h.same, fun hreader => ⟨rfl, (h.watched hreader).2⟩⟩
  | stir | deliver | timeOut | holdBack | release | readWatching | swapWatching =>
    exact ⟨h.le, h.same, h.watched⟩

theorem loaded?_of_load {s : Serving} {r : Reading} {db : Database}
    (h : Database.load s.watcher.databasePath r.content = .ok db) : s.loaded? r = some db := by
  rw [loaded?, h]
  rfl

theorem mem_swapIn {s : Serving} {r old : Reading} (h : old ∈ s.swapped) :
    old ∈ (s.swapIn r).swapped := by
  rw [swapIn]
  split
  · exact List.mem_append_left [r] h
  · exact h

theorem of_mem_swapIn {s : Serving} {r new : Reading} (h : new ∈ (s.swapIn r).swapped) :
    new ∈ s.swapped ∨ new = r := by
  rw [swapIn] at h
  split at h
  · simpa using h
  · exact Or.inl h

/-- A reading of the main thread that is not yet swapped in was there before, or is new. -/
theorem Step.of_mainReading {s t : Serving} (hstep : Step s t) {r : Reading}
    (h : t.main.reading? = some r) : s.main.reading? = some r ∨ r = s.reading .main := by
  cases hstep with
  | readFirst | readHost => exact Or.inr (Option.some.inj h).symm
  | swapFirst | register | swapHost => cases h
  | _ => exact Or.inl h

/-- A reading of the watching thread that is not yet swapped in was there before, or is new. -/
theorem Step.of_watchReading {s t : Serving} (hstep : Step s t) {r : Reading}
    (h : t.watch.reading? = some r) :
    s.watch.reading? = some r ∨ (r = s.reading .watching ∧ s.isWatched = true) := by
  cases hstep with
  | readWatching hwatched => exact Or.inr ⟨(Option.some.inj h).symm, hwatched⟩
  | deliver | timeOut | holdBack | release | swapWatching => cases h
  | _ => exact Or.inl h

/-- What was swapped in had been read before. -/
theorem Step.of_mem_swapped {s t : Serving} (hstep : Step s t) {r : Reading}
    (h : r ∈ t.swapped) : r ∈ s.readings := by
  rw [mem_readings]
  cases hstep with
  | swapFirst hmain | swapHost hmain =>
    rcases of_mem_swapIn h with hold | rfl
    · exact Or.inl hold
    · exact Or.inr (Or.inl (by rw [hmain]; rfl))
  | swapWatching _ hwatch =>
    rcases of_mem_swapIn h with hold | rfl
    · exact Or.inl hold
    · exact Or.inr (Or.inr (by rw [hwatch]; rfl))
  | _ => exact Or.inl h

/-! ### What every step keeps -/

/-- The last change is on its way to the index, or has got there by the watching thread. -/
def UnderWay (s : Serving) : Prop :=
  s.isOwed = true ∨ s.watch = .due ∨
    (∃ r, s.watch = .rebuilding r ∧ r.changes = s.changes) ∨
    ∃ r ∈ s.swapped, r.reader = .watching ∧ r.changes = s.changes

/-- What every step keeps, for a service of some folders. -/
structure Invariant (folders : List Path) (s : Serving) : Prop where
  /-- The index is built from the last reading swapped in, and from nothing else. -/
  standing : s.watcher.index =
    Session.freshIndex folders s.watcher.target (s.swapped.getLast?.bind s.loaded?)
  firstRead_le : s.firstRead ≤ s.changes
  registeredAt_le : s.registeredAt ≤ s.changes
  ofMain : ∀ r, s.main.reading? = some r → r.reader = .main
  ofWatching : ∀ r, s.watch.reading? = some r → r.reader = .watching
  fits : ∀ r ∈ s.readings, s.Fits r
  ordered : (s.swapped ++ s.watch.reading?.toList).Pairwise InOrder
  opening : ∀ r, s.main = .opening r → r.changes = s.firstRead
  /-- After the first refresh, if there has been no change since the file was first read, the file
  as it is was swapped in. -/
  opened : s.main.isOpen = true → s.Loads → s.firstRead = s.changes →
    ∃ r ∈ s.swapped, r.changes = s.changes
  underWay : s.isWatched = true → s.Loads → s.registeredAt < s.changes → s.UnderWay

variable {folders : List Path} {s t : Serving}

theorem invariant_start (folders : List Path) (database : Path) (target : BuildTarget)
    (quiet : Nat) (content : Except FileError String) :
    Invariant folders (start folders database target quiet content) where
  standing := rfl
  firstRead_le := Nat.le_refl 0
  registeredAt_le := Nat.le_refl 0
  ofMain := fun r h => by cases h
  ofWatching := fun r h => by cases h
  fits := fun r h => by cases h
  ordered := List.Pairwise.nil
  opening := fun r h => by cases h
  opened := fun h => by cases h
  underWay := fun h => by cases h

/-- A refresh leaves the index of the reading that it swaps in. -/
theorem standing_swapIn (r : Reading)
    (h : s.watcher.index =
      Session.freshIndex folders s.watcher.target (s.swapped.getLast?.bind s.loaded?)) :
    (s.swapIn r).watcher.index =
      Session.freshIndex folders s.watcher.target
        ((s.swapIn r).swapped.getLast?.bind s.loaded?) := by
  cases hload : Database.load s.watcher.databasePath r.content with
  | ok db =>
    have hloaded : s.loaded? r = some db := loaded?_of_load hload
    have hindex : (s.swapIn r).watcher.index =
        (s.watcher.index.rebuiltAfresh db s.watcher.target).index := by
      simp only [swapIn, Index.perform, Index.refresh, hload, Except.map]
    rw [hindex, h, Session.rebuiltAfresh_freshIndex]
    simp [swapIn, hloaded]
  | error e =>
    have hloaded : s.loaded? r = none := by
      rw [loaded?, hload]
      rfl
    have hindex : (s.swapIn r).watcher.index = s.watcher.index := by
      simp only [swapIn, Index.perform, Index.refresh, hload, Except.map]
    rw [hindex, h]
    simp [swapIn, hloaded]

theorem Invariant.step_standing (hs : Invariant folders s) (hstep : Step s t) :
    t.watcher.index =
      Session.freshIndex folders t.watcher.target (t.swapped.getLast?.bind t.loaded?) := by
  cases hstep with
  | swapFirst | swapHost | swapWatching => exact standing_swapIn _ hs.standing
  | _ => exact hs.standing

/-- A reading made by the main thread may go in front of any reading that is not yet swapped. -/
theorem ordered_swapMain {swapped : List Reading} {r : Reading} {under : Option Reading}
    (hr : r.reader = .main) (h : (swapped ++ under.toList).Pairwise InOrder) :
    (swapped ++ [r] ++ under.toList).Pairwise InOrder := by
  have hnot : r.reader ≠ .watching := by
    rw [hr]
    decide
  have hafter : ∀ old ∈ swapped, InOrder old r := fun _ _ _ hreader => absurd hreader hnot
  have hbefore : ∀ later ∈ under.toList, InOrder r later := fun _ _ hreader => absurd hreader hnot
  obtain ⟨hswapped, hunder, hcross⟩ := List.pairwise_append.1 h
  simp only [List.append_assoc, List.singleton_append]
  refine List.pairwise_append.2 ⟨hswapped, List.pairwise_cons.2 ⟨hbefore, hunder⟩, ?_⟩
  intro old hold later hlater
  rcases List.mem_cons.1 hlater with rfl | hlater
  · exact hafter old hold
  · exact hcross old hold later hlater

theorem Invariant.step_ordered (hs : Invariant folders s) (hstep : Step s t) :
    (t.swapped ++ t.watch.reading?.toList).Pairwise InOrder := by
  have hswapped : s.swapped.Pairwise InOrder := (List.pairwise_append.1 hs.ordered).1
  cases hstep with
  | @swapFirst r hmain | @swapHost r hmain =>
    have hr : r.reader = .main := hs.ofMain r (by rw [hmain]; rfl)
    simp only [mainAt, swapIn]
    split
    · exact ordered_swapMain hr hs.ordered
    · exact hs.ordered
  | readWatching hwatched hwatch =>
    refine List.pairwise_append.2 ⟨hswapped, List.pairwise_singleton _ _, ?_⟩
    intro old hold later hlater _ _
    rw [List.mem_singleton.1 hlater]
    exact (hs.fits old (mem_readings.2 (Or.inl hold))).le
  | @swapWatching r hwatched hwatch =>
    have hold := hs.ordered
    simp only [hwatch] at hold
    simp only [watchAt, swapIn, WatchStage.reading?, Option.toList_none, List.append_nil]
    split
    · exact hold
    · exact hswapped
  | deliver | timeOut | holdBack | release =>
    simp only [watchAt, WatchStage.reading?, Option.toList_none, List.append_nil]
    exact hswapped
  | changeUnseen | change | stir | readFirst | register | readHost => exact hs.ordered

theorem fits_reading (h : s.registeredAt ≤ s.changes) (reader : Thread)
    (hreader : reader = .watching → s.isWatched = true) : s.Fits (s.reading reader) where
  le := Nat.le_refl s.changes
  same := fun _ => rfl
  watched := fun hw => ⟨hreader hw, h⟩

theorem Invariant.step_fits (hs : Invariant folders s) (hstep : Step s t) :
    ∀ r ∈ t.readings, t.Fits r := by
  intro r hr
  apply hstep.fits
  rcases mem_readings.1 hr with hswapped | hmain | hwatch
  · exact hs.fits r (hstep.of_mem_swapped hswapped)
  · rcases hstep.of_mainReading hmain with hold | rfl
    · exact hs.fits r (mem_readings.2 (Or.inr (Or.inl hold)))
    · exact fits_reading hs.registeredAt_le .main (fun h => by cases h)
  · rcases hstep.of_watchReading hwatch with hold | ⟨rfl, hwatched⟩
    · exact hs.fits r (mem_readings.2 (Or.inr (Or.inr hold)))
    · exact fits_reading hs.registeredAt_le .watching (fun _ => hwatched)

/-- A reading of the file as it is is swapped in, if the file is a database. -/
theorem mem_swapIn_self {r : Reading} (hr : s.Fits r) (hnow : r.changes = s.changes)
    (hloads : s.Loads) : r ∈ (s.swapIn r).swapped := by
  obtain ⟨db, hload⟩ := hloads
  have hloaded : (s.loaded? r).isSome = true := by
    rw [loaded?_of_load ((hr.same hnow).symm ▸ hload)]
    rfl
  rw [swapIn, if_pos hloaded]
  exact List.mem_append_right _ List.mem_cons_self

theorem Invariant.step_opening (hs : Invariant folders s) (hstep : Step s t) :
    ∀ r, t.main = .opening r → r.changes = t.firstRead := by
  intro r hr
  cases hstep with
  | readFirst hmain =>
    cases hr
    rfl
  | swapFirst | register | readHost | swapHost => cases hr
  | _ => exact hs.opening r hr

theorem Invariant.step_opened (hs : Invariant folders s) (hstep : Step s t)
    (hopen : t.main.isOpen = true) (hloads : t.Loads) (hsame : t.firstRead = t.changes) :
    ∃ r ∈ t.swapped, r.changes = t.changes := by
  -- A reading that was swapped in stays among those that were.
  have hkept : s.main.isOpen = true → s.Loads → s.firstRead = s.changes → ∀ r,
      ∃ old ∈ (s.swapIn r).swapped, old.changes = s.changes := by
    intro ho hl hsame r
    obtain ⟨old, hmem, hnow⟩ := hs.opened ho hl hsame
    exact ⟨old, mem_swapIn hmem, hnow⟩
  cases hstep with
  | changeUnseen | change => exact absurd hsame (Nat.ne_of_lt (Nat.lt_succ_of_le hs.firstRead_le))
  | readFirst => cases hopen
  | @swapFirst r hmain =>
    have hr : r ∈ s.readings := mem_readings.2 (Or.inr (Or.inl (by rw [hmain]; rfl)))
    have hnow : r.changes = s.changes := (hs.opening r hmain).trans hsame
    exact ⟨r, mem_swapIn_self (hs.fits r hr) hnow hloads, hnow⟩
  | register hmain | readHost hmain => exact hs.opened (by rw [hmain]; rfl) hloads hsame
  | @swapHost r hmain => exact hkept (by rw [hmain]; rfl) hloads hsame r
  | @swapWatching r => exact hkept hopen hloads hsame r
  | _ => exact hs.opened hopen hloads hsame

/-- While the watching thread neither rebuilds nor is about to, a change under way is owed, or was
swapped in. -/
theorem UnderWay.of_idle (h : s.UnderWay) (hidle : s.watch = .waiting ∨ s.watch = .checking) :
    s.isOwed = true ∨ ∃ r ∈ s.swapped, r.reader = .watching ∧ r.changes = s.changes := by
  rcases h with howed | hdue | ⟨r, hread, _⟩ | hswapped
  · exact Or.inl howed
  · rcases hidle with hw | hw <;> cases hw.symm.trans hdue
  · rcases hidle with hw | hw <;> cases hw.symm.trans hread
  · exact Or.inr hswapped

/-- What is under way stays so when the main thread swaps in a reading. -/
theorem underWay_swapIn (r : Reading) (h : s.UnderWay) : (s.swapIn r).UnderWay := by
  rcases h with howed | hdue | hread | ⟨old, hold, hreader, hnow⟩
  · exact Or.inl howed
  · exact Or.inr (Or.inl hdue)
  · exact Or.inr (Or.inr (Or.inl hread))
  · exact Or.inr (Or.inr (Or.inr ⟨old, mem_swapIn hold, hreader, hnow⟩))

theorem Invariant.step_underWay (hs : Invariant folders s) (hstep : Step s t)
    (hwatched : t.isWatched = true) (hloads : t.Loads) (hlate : t.registeredAt < t.changes) :
    t.UnderWay := by
  cases hstep with
  | changeUnseen content hunseen => cases hunseen.symm.trans hwatched
  | change content e _ htells =>
    obtain ⟨db, hload⟩ := hloads
    cases content with
    | error cause => cases hload
    | ok text => exact Or.inl (isOwed_told_of_tells (s.changed (.ok text)) htells)
  | stir e _ hremoval =>
    rcases hs.underWay hwatched hloads hlate with howed | hrest
    · exact Or.inl (isOwed_told s hremoval howed)
    · exact Or.inr hrest
  | readFirst | swapFirst => cases hwatched
  | register => exact absurd hlate (Nat.lt_irrefl s.changes)
  | readHost hmain => exact hs.underWay (by rw [isWatched, hmain]) hloads hlate
  | @swapHost r hmain =>
    exact underWay_swapIn r (hs.underWay (by rw [isWatched, hmain]) hloads hlate)
  | deliver now _ hwatch hleft =>
    rcases (hs.underWay hwatched hloads hlate).of_idle (Or.inl hwatch) with howed | hswapped
    · exact Or.inl (isOwed_delivered s now hleft howed)
    · exact Or.inr (Or.inr (Or.inr hswapped))
  | timeOut _ hwatch =>
    rcases (hs.underWay hwatched hloads hlate).of_idle (Or.inl hwatch) with howed | hswapped
    · exact Or.inl howed
    · exact Or.inr (Or.inr (Or.inr hswapped))
  | holdBack now _ hwatch hready =>
    rcases (hs.underWay hwatched hloads hlate).of_idle (Or.inr hwatch) with howed | hswapped
    · exact Or.inl (isOwed_released s now hready howed)
    · exact Or.inr (Or.inr (Or.inr hswapped))
  | release => exact Or.inr (Or.inl rfl)
  | readWatching => exact Or.inr (Or.inr (Or.inl ⟨s.reading .watching, rfl, rfl⟩))
  | @swapWatching r _ hwatch =>
    rcases hs.underWay hwatched hloads hlate with howed | hdue | ⟨r', hread, hnow⟩ | hswapped
    · exact Or.inl howed
    · cases hwatch.symm.trans hdue
    · cases hwatch.symm.trans hread
      have hr : s.watch.reading? = some r := by
        rw [hwatch]
        rfl
      have hfits : s.Fits r := hs.fits r (mem_readings.2 (Or.inr (Or.inr hr)))
      exact Or.inr (Or.inr (Or.inr ⟨r, mem_swapIn_self hfits hnow hloads, hs.ofWatching r hr, hnow⟩))
    · obtain ⟨old, hold, hreader, hnow⟩ := hswapped
      exact Or.inr (Or.inr (Or.inr ⟨old, mem_swapIn hold, hreader, hnow⟩))

theorem Invariant.step_ofMain (hs : Invariant folders s) (hstep : Step s t) :
    ∀ r, t.main.reading? = some r → r.reader = .main := by
  intro r hr
  rcases hstep.of_mainReading hr with hold | rfl
  · exact hs.ofMain r hold
  · rfl

theorem Invariant.step_ofWatching (hs : Invariant folders s) (hstep : Step s t) :
    ∀ r, t.watch.reading? = some r → r.reader = .watching := by
  intro r hr
  rcases hstep.of_watchReading hr with hold | ⟨rfl, _⟩
  · exact hs.ofWatching r hold
  · rfl

theorem Invariant.step_le (hs : Invariant folders s) (hstep : Step s t) :
    t.firstRead ≤ t.changes ∧ t.registeredAt ≤ t.changes := by
  cases hstep with
  | changeUnseen | change =>
    exact ⟨Nat.le_succ_of_le hs.firstRead_le, Nat.le_succ_of_le hs.registeredAt_le⟩
  | readFirst => exact ⟨Nat.le_refl s.changes, hs.registeredAt_le⟩
  | register => exact ⟨hs.firstRead_le, Nat.le_refl s.changes⟩
  | _ => exact ⟨hs.firstRead_le, hs.registeredAt_le⟩

/-- **Every step keeps the invariant.** -/
theorem Invariant.step (hs : Invariant folders s) (hstep : Step s t) : Invariant folders t where
  standing := hs.step_standing hstep
  firstRead_le := (hs.step_le hstep).1
  registeredAt_le := (hs.step_le hstep).2
  ofMain := hs.step_ofMain hstep
  ofWatching := hs.step_ofWatching hstep
  fits := hs.step_fits hstep
  ordered := hs.step_ordered hstep
  opening := hs.step_opening hstep
  opened := hs.step_opened hstep
  underWay := hs.step_underWay hstep

/-- **Every run keeps the invariant.** -/
theorem Invariant.run (hs : Invariant folders s) (hrun : Reaches s t) : Invariant folders t := by
  induction hrun with
  | refl => exact hs
  | tail _ hstep ih => exact ih.step hstep

/-! ### Settled services -/

/-- No step changes what database a service serves, or for what target. -/
theorem Reaches.serves (hrun : Reaches s t) :
    t.watcher.databasePath = s.watcher.databasePath ∧ t.watcher.target = s.watcher.target := by
  induction hrun with
  | refl => exact ⟨rfl, rfl⟩
  | tail _ hstep ih => cases hstep with
    | _ => exact ih

theorem Settled.isOwed (h : s.Settled) : s.isOwed = false := by
  rw [Serving.isOwed, h.delivered, List.foldl_nil, Debouncer.holds, h.quiet]
  rfl

/-- The index agrees with the file when the last reading swapped in is of the file as it is. -/
theorem Invariant.agrees (hs : Invariant folders s) {last : Reading}
    (hlast : s.swapped.getLast? = some last) (hnow : last.changes = s.changes) :
    s.Agrees folders := by
  intro db hload
  have hmem : last ∈ s.readings := mem_readings.2 (Or.inl (List.mem_of_getLast? hlast))
  have hloaded : s.loaded? last = some db :=
    loaded?_of_load (((hs.fits last hmem).same hnow).symm ▸ hload)
  rw [hs.standing, hlast, Option.bind_some, hloaded]
  rfl

/-- When the file as it is was swapped in, and the watching thread swapped in nothing older
afterwards, only the main thread can have done so. -/
theorem Invariant.agrees_or_overtaken (hs : Invariant folders s) {r : Reading}
    (hr : r ∈ s.swapped) (hnow : r.changes = s.changes)
    (hwatching : ∀ last, s.swapped.getLast? = some last → last.reader = .watching →
      last.changes = s.changes) :
    s.Agrees folders ∨ s.Overtaken := by
  obtain ⟨last, hlast⟩ : ∃ last, s.swapped.getLast? = some last :=
    Option.isSome_iff_exists.1 (List.getLast?_isSome.2 (List.ne_nil_of_mem hr))
  have hfits : s.Fits last :=
    hs.fits last (mem_readings.2 (Or.inl (List.mem_of_getLast? hlast)))
  by_cases hlastNow : last.changes = s.changes
  · exact Or.inl (hs.agrees hlast hlastNow)
  · right
    refine ⟨⟨r, hr, hnow⟩, last, hlast, ?_, Nat.lt_of_le_of_ne hfits.le hlastNow⟩
    cases hreader : last.reader with
    | main => rfl
    | watching => exact absurd (hwatching last hlast hreader) hlastNow

/-- A reading of the watching thread that is the last one to be swapped in is not older than any
other reading of that thread. -/
theorem Invariant.le_last (hs : Invariant folders s) {r last : Reading} (hr : r ∈ s.swapped)
    (hreader : r.reader = .watching) (hlast : s.swapped.getLast? = some last)
    (hlastReader : last.reader = .watching) : r.changes ≤ last.changes := by
  obtain ⟨earlier, hsplit⟩ := List.getLast?_eq_some_iff.1 hlast
  have hordered : (earlier ++ [last]).Pairwise InOrder := by
    rw [← hsplit]
    exact (List.pairwise_append.1 hs.ordered).1
  rw [hsplit] at hr
  rcases List.mem_append.1 hr with hr | hr
  · exact (List.pairwise_append.1 hordered).2.2 r hr last List.mem_cons_self hreader hlastReader
  · exact Nat.le_of_eq (congrArg Reading.changes (List.mem_singleton.1 hr))

theorem Invariant.settled (hs : Invariant folders s) (hsettled : s.Settled) (hloads : s.Loads) :
    s.Agrees folders ∨ s.Missed ∨ s.Overtaken := by
  have hwatched : s.isWatched = true := by rw [isWatched, hsettled.served]
  have hfits : ∀ r ∈ s.swapped, s.Fits r := fun r hr => hs.fits r (mem_readings.2 (Or.inl hr))
  rcases Nat.lt_or_ge s.registeredAt s.changes with hlate | hearly
  · -- The last change was made under watch, so the watching thread swapped it in.
    rcases (hs.underWay hwatched hloads hlate).of_idle hsettled.idle with howed | hswapped
    · cases hsettled.isOwed.symm.trans howed
    · obtain ⟨r, hr, hreader, hnow⟩ := hswapped
      refine (hs.agrees_or_overtaken hr hnow fun last hlast hlastReader => ?_).imp_right Or.inr
      have hle := hs.le_last hr hreader hlast hlastReader
      exact Nat.le_antisymm (hfits last (List.mem_of_getLast? hlast)).le (hnow ▸ hle)
  · have hregistered : s.changes = s.registeredAt := Nat.le_antisymm hearly hs.registeredAt_le
    by_cases hcurrent : ∃ r ∈ s.swapped, r.changes = s.changes
    · obtain ⟨r, hr, hnow⟩ := hcurrent
      refine (hs.agrees_or_overtaken hr hnow fun last hlast hlastReader => ?_).imp_right Or.inr
      have hfit := hfits last (List.mem_of_getLast? hlast)
      exact Nat.le_antisymm hfit.le (hregistered ▸ (hfit.watched hlastReader).2)
    · -- Nothing current was swapped in, so not even the first refresh saw the last change.
      have hopen : s.main.isOpen = true := by rw [hsettled.served]; rfl
      have hfirst : s.firstRead ≠ s.changes := fun h => hcurrent (hs.opened hopen hloads h)
      refine Or.inr (Or.inl ⟨Nat.lt_of_le_of_ne hs.firstRead_le hfirst, hregistered, ?_⟩)
      exact fun r hr => Nat.lt_of_le_of_ne (hfits r hr).le fun h => hcurrent ⟨r, hr, h⟩

/-- The main thread opens the index and registers the watch, and nobody comes in between. -/
theorem reaches_served (s : Serving) (hstarting : s.main = .starting) :
    Reaches s (((s.opening.swapIn (s.reading .main)).mainAt .built).registered) :=
  .tail (.tail (.single (.readFirst hstarting)) (.swapFirst rfl)) (.register rfl)

/-- **Where a service comes to rest.**  Its threads, the host and whoever changes the file take
their steps in any order.  In every state on the way, the index is that of a new index of the
folders, rebuilt once from the last reading swapped in, or never if there was none.  Whenever
nothing is left to do, that reading is of the file as it is, unless the last change came after the
file was first read and before it was watched, with no refresh since then, or the main thread has
swapped in an older reading last. -/
theorem settled_exact (folders : List Path) (database : Path) (target : BuildTarget) (quiet : Nat)
    (content : Except FileError String) (s : Serving)
    (hrun : Reaches (start folders database target quiet content) s) :
    s.watcher.databasePath = database ∧ s.watcher.target = target ∧
      s.watcher.index =
        Session.freshIndex folders target (s.swapped.getLast?.bind s.loaded?) ∧
      (s.Settled → s.Agrees folders ∨ s.Missed ∨ s.Overtaken) := by
  have hs : Invariant folders s :=
    (invariant_start folders database target quiet content).run hrun
  obtain ⟨hpath, htarget⟩ := hrun.serves
  refine ⟨hpath, htarget, ?_, ?_⟩
  · have hstanding := hs.standing
    rwa [htarget] at hstanding
  · intro hsettled
    by_cases hloads : s.Loads
    · exact hs.settled hsettled hloads
    · exact Or.inl fun db hload => absurd ⟨db, hload⟩ hloads

/-- A change under watch, and nothing in its way: the index comes to agree with the file. -/
theorem settled_exact_after_change :
    let database : Path := ⟨"/p/db.json"⟩
    let written := "[\x7b\"directory\":\"/p\",\"file\":\"a.c\",\"arguments\":[\"sh\",\"gcc\"]\x7d]"
    let start := start [⟨"/p"⟩] database ⟨"x64", "linux"⟩ 0 (.ok "[]")
    ∃ s, Reaches start s ∧ s.Settled ∧ s.content = .ok written ∧ s.Loads ∧
      s.Agrees [⟨"/p"⟩] := by
  intro database written start
  have hchanged : Reaches start _ :=
    .tail (reaches_served start rfl)
      (.change (.ok written) ⟨.modified, [database]⟩ rfl (by decide +kernel))
  have hreleased : Reaches start _ :=
    .tail (.tail hchanged (.deliver 0 rfl rfl rfl)) (.release 0 rfl rfl (by decide +kernel))
  obtain ⟨s, hrun, hsettled, hpath, hcontent, hlate, hlast⟩ : ∃ s, Reaches start s ∧ s.Settled ∧
      s.watcher.databasePath = database ∧ s.content = .ok written ∧ s.registeredAt < s.changes ∧
      s.swapped.getLast?.map (·.reader) = some .watching :=
    ⟨_, .tail (.tail hreleased (.readWatching rfl rfl)) (.swapWatching rfl rfl),
      ⟨rfl, Or.inl rfl, rfl, by decide +kernel⟩, rfl, rfl, by decide, by decide +kernel⟩
  obtain ⟨db, hload⟩ : ∃ db, (Database.load database (.ok written)).toOption = some db :=
    Option.isSome_iff_exists.1 (by decide +kernel)
  refine ⟨s, hrun, hsettled, hcontent, ⟨db, ?_⟩, ?_⟩
  · rw [hpath, hcontent]
    exact eq_ok_of_toOption hload
  · obtain ⟨_, _, _, hrest⟩ := settled_exact _ _ _ _ _ s hrun
    rcases hrest hsettled with hagrees | hmissed | hovertaken
    · exact hagrees
    · exact absurd hmissed.2.1 (Nat.ne_of_gt hlate)
    · obtain ⟨last, hlast', hreader, _⟩ := hovertaken.2
      rw [hlast', Option.map_some, hreader] at hlast
      cases hlast

/-- An index that lacks a file of the database does not agree with it. -/
theorem not_agrees_of_contains (file : Path)
    (hfile : (Database.load s.watcher.databasePath s.content).toOption.any (fun db =>
      ((Index.ofFolders folders).rebuild db s.watcher.target).index.contains file) = true)
    (hindex : s.watcher.index.contains file = false) : ¬ s.Agrees folders := by
  intro hagrees
  obtain ⟨db, hload, hcontains⟩ := (Option.any_eq_true _ _).1 hfile
  rw [← hagrees db (eq_ok_of_toOption hload), hindex] at hcontains
  cases hcontains

/-- **Not every settled service agrees with its file.**  In the first run there is no file to begin
with, and it is written between the first reading and the watch.  In the second run the host asks
for a rebuild; the file is read for it and changed, the watching thread rebuilds from the new file,
and then the index of the old file is swapped in. -/
theorem settled_stale :
    let database : Path := ⟨"/p/db.json"⟩
    let target : BuildTarget := ⟨"x64", "linux"⟩
    let written := "[\x7b\"directory\":\"/p\",\"file\":\"a.c\",\"arguments\":[\"sh\",\"gcc\"]\x7d]"
    (∃ s, Reaches (start [⟨"/p"⟩] database target 0 (.error .notFound)) s ∧ s.Settled ∧
        s.content = .ok written ∧ ¬ s.Agrees [⟨"/p"⟩]) ∧
      ∃ s, Reaches (start [⟨"/p"⟩] database target 0 (.ok "[]")) s ∧ s.Settled ∧
        s.content = .ok written ∧ ¬ s.Agrees [⟨"/p"⟩] := by
  intro database target written
  constructor
  · have hopened : Reaches (start [⟨"/p"⟩] database target 0 (.error .notFound)) _ :=
      .tail (.single (.readFirst rfl)) (.swapFirst rfl)
    refine ⟨_, .tail (.tail hopened (.changeUnseen (.ok written) rfl)) (.register rfl),
      ⟨rfl, Or.inl rfl, rfl, rfl⟩, rfl, not_agrees_of_contains ⟨"/p/a.c"⟩ ?_ ?_⟩
    · decide +kernel
    · decide +kernel
  · have hread : Reaches (start [⟨"/p"⟩] database target 0 (.ok "[]")) _ :=
      .tail (reaches_served _ rfl) (.readHost rfl)
    have hreleased : Reaches (start [⟨"/p"⟩] database target 0 (.ok "[]")) _ :=
      .tail (.tail (.tail hread
        (.change (.ok written) ⟨.modified, [database]⟩ rfl (by decide +kernel)))
        (.deliver 0 rfl rfl rfl)) (.release 0 rfl rfl (by decide +kernel))
    refine ⟨_, .tail (.tail (.tail hreleased (.readWatching rfl rfl)) (.swapWatching rfl rfl))
      (.swapHost rfl), ⟨rfl, Or.inl rfl, rfl, by decide +kernel⟩, rfl,
      not_agrees_of_contains ⟨"/p/a.c"⟩ ?_ ?_⟩
    · decide +kernel
    · decide +kernel

end Serving

end CompileIndex

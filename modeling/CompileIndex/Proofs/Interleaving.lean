import CompileIndex.CommandLine.Service
import CompileIndex.Proofs.SessionRun
import Mathlib.Logic.Relation

/-!
# A service whose threads take turns

A service that watches its database has two threads.  The main thread builds the index, registers
the watch and answers the host; the watching thread takes in events and rebuilds.  Both refresh
the one index, and a refresh is no single step: the file is read, and later the index built from
that reading is swapped in, if the reading is a database.  Meanwhile the other thread goes on, and
anybody may change the file.

A step is what one party does without being interrupted.  When a refresh asks for the registered
folders does not matter, as nothing ever changes them (`Index.folderPaths_perform`), so this is
no step of its own.  Once the watch is registered there is an event for every change of the file.

The state also keeps what no thread can see: how often the file was changed, and which readings
were swapped in.

* `Serving`, `Serving.Step`, `Serving.Reaches` — states, steps and runs;
* `Serving.reaches_opening`, `Serving.reaches_line`, `Serving.reaches_turn` — what a thread does
  without interruption is what `Service.openSession`, `Session.handle` and `Watcher.step` do.
-/

namespace CompileIndex

/-- The two threads of a service that watches its database. -/
inductive Thread where
  | main | watching
  deriving DecidableEq

/-- What a thread got when it read the database file. -/
structure Reading where
  reader : Thread
  content : Except FileError String
  /-- How often the file had been changed by then. -/
  changes : Nat

/-- How far the main thread is. -/
inductive MainStage where
  | starting
  /-- The file is read for the first time, and the index is not yet swapped. -/
  | opening (r : Reading)
  /-- The first index is built, and the watch is not yet registered. -/
  | built
  /-- The host is answered. -/
  | serving
  /-- The host has asked for a rebuild, and the index is not yet swapped. -/
  | rebuilding (r : Reading)

/-- How far the watching thread is. -/
inductive WatchStage where
  | waiting
  /-- An event was taken in, or none came in time. -/
  | checking
  /-- A change was released. -/
  | due
  /-- The file is read, and the index is not yet swapped. -/
  | rebuilding (r : Reading)

/-- The reading that is not yet swapped in. -/
def MainStage.reading? : MainStage → Option Reading
  | opening r | rebuilding r => some r
  | _ => none

/-- Whether the first refresh is over. -/
def MainStage.isOpen : MainStage → Bool
  | starting | opening _ => false
  | _ => true

/-- The reading that is not yet swapped in. -/
def WatchStage.reading? : WatchStage → Option Reading
  | rebuilding r => some r
  | _ => none

/-- A service whose threads take turns. -/
structure Serving where
  /-- The shared index, and the changes that the watching thread holds back. -/
  watcher : Watcher
  /-- What reading the database file gives. -/
  content : Except FileError String
  /-- How often the file was changed. -/
  changes : Nat
  main : MainStage
  watch : WatchStage
  /-- The events that the watching thread has yet to take in. -/
  undelivered : List ChangeEvent
  /-- How often the file had been changed when it was first read. -/
  firstRead : Nat
  /-- How often the file had been changed when the watch was registered. -/
  registeredAt : Nat
  /-- The readings from which the index was built, in order. -/
  swapped : List Reading

namespace Serving

/-- The state before the first step. -/
def start (folders : List Path) (database : Path) (target : BuildTarget) (quiet : Nat)
    (content : Except FileError String) : Serving where
  watcher := ⟨.ofFolders folders, database, target, .ofQuiet quiet⟩
  content := content
  changes := 0
  main := .starting
  watch := .waiting
  undelivered := []
  firstRead := 0
  registeredAt := 0
  swapped := []

/-- Whether the watch is registered, and so whether there is a watching thread. -/
def isWatched (s : Serving) : Bool :=
  match s.main with
  | .serving | .rebuilding _ => true
  | _ => false

/-! ### What a step does -/

/-- The main thread at another stage. -/
def mainAt (s : Serving) (stage : MainStage) : Serving :=
  { s with main := stage }

/-- The watching thread at another stage. -/
def watchAt (s : Serving) (stage : WatchStage) : Serving :=
  { s with watch := stage }

/-- What a thread gets that reads the file now. -/
def reading (s : Serving) (reader : Thread) : Reading :=
  ⟨reader, s.content, s.changes⟩

/-- The file read for the first time. -/
def opening (s : Serving) : Serving :=
  { s with main := .opening (s.reading .main), firstRead := s.changes }

/-- The watch registered. -/
def registered (s : Serving) : Serving :=
  { s with main := .serving, registeredAt := s.changes }

/-- The database that a reading is. -/
def loaded? (s : Serving) (r : Reading) : Option Database :=
  (Database.load s.watcher.databasePath r.content).toOption

/-- A refresh ended: the index built from a reading is swapped in, or the old one stays. -/
def swapIn (s : Serving) (r : Reading) : Serving :=
  { s with
    watcher := { s.watcher with
      index := s.watcher.index.perform
        (.refresh s.watcher.databasePath r.content s.watcher.target) }
    swapped := if (s.loaded? r).isSome then s.swapped ++ [r] else s.swapped }

/-- The file changed. -/
def changed (s : Serving) (content : Except FileError String) : Serving :=
  { s with content, changes := s.changes + 1 }

/-- An event more to take in. -/
def told (s : Serving) (e : ChangeEvent) : Serving :=
  { s with undelivered := s.undelivered ++ [e] }

/-- The first event taken in, so that others are left. -/
def delivered (s : Serving) (now : Nat) (e : ChangeEvent) (left : List ChangeEvent) : Serving :=
  { s with
    watcher := { s.watcher with debouncer := (s.watcher.notice now e).1.debouncer }
    undelivered := left }

/-- The changes forgotten that have been quiet long enough. -/
def released (s : Serving) (now : Nat) : Serving :=
  { s with watcher := { s.watcher with debouncer := (s.watcher.debouncer.takeReady now).2 } }

/-- Whether an event tells of a change of the database after which reading it gives `content`: a
file that can be read was created or modified. -/
def tells (database : Path) (content : Except FileError String) (e : ChangeEvent) : Bool :=
  Watcher.isDatabaseEvent e database &&
    match content with
    | .ok _ => e.kind = .created || e.kind = .modified
    | .error _ => true

/-- Whether an event tells that the database was removed. -/
def tellsRemoval (database : Path) (e : ChangeEvent) : Bool :=
  Watcher.isDatabaseEvent e database && e.kind = .removed

/-- What one party does without being interrupted. -/
inductive Step : Serving → Serving → Prop where
  /-- The file is changed, and nobody watches. -/
  | changeUnseen {s : Serving} (content : Except FileError String) :
    s.isWatched = false → Step s (s.changed content)
  /-- The file is changed under watch. -/
  | change {s : Serving} (content : Except FileError String) (e : ChangeEvent) :
    s.isWatched = true → tells s.watcher.databasePath content e = true →
    Step s ((s.changed content).told e)
  /-- Something else happens in the directory. -/
  | stir {s : Serving} (e : ChangeEvent) :
    s.isWatched = true → tellsRemoval s.watcher.databasePath e = false → Step s (s.told e)
  | readFirst {s : Serving} :
    s.main = .starting → Step s s.opening
  | swapFirst {s : Serving} {r : Reading} :
    s.main = .opening r → Step s ((s.swapIn r).mainAt .built)
  | register {s : Serving} :
    s.main = .built → Step s s.registered
  /-- The host asks for a rebuild. -/
  | readHost {s : Serving} :
    s.main = .serving → Step s (s.mainAt (.rebuilding (s.reading .main)))
  | swapHost {s : Serving} {r : Reading} :
    s.main = .rebuilding r → Step s ((s.swapIn r).mainAt .serving)
  | deliver {s : Serving} (now : Nat) {e : ChangeEvent} {left : List ChangeEvent} :
    s.isWatched = true → s.watch = .waiting → s.undelivered = e :: left →
    Step s ((s.delivered now e left).watchAt .checking)
  /-- No event comes in time. -/
  | timeOut {s : Serving} :
    s.isWatched = true → s.watch = .waiting → Step s (s.watchAt .checking)
  /-- No change has been quiet long enough. -/
  | holdBack {s : Serving} (now : Nat) :
    s.isWatched = true → s.watch = .checking →
    (s.watcher.debouncer.takeReady now).1.isEmpty = true →
    Step s ((s.released now).watchAt .waiting)
  | release {s : Serving} (now : Nat) :
    s.isWatched = true → s.watch = .checking →
    (s.watcher.debouncer.takeReady now).1.isEmpty = false →
    Step s ((s.released now).watchAt .due)
  | readWatching {s : Serving} :
    s.isWatched = true → s.watch = .due →
    Step s (s.watchAt (.rebuilding (s.reading .watching)))
  | swapWatching {s : Serving} {r : Reading} :
    s.isWatched = true → s.watch = .rebuilding r → Step s ((s.swapIn r).watchAt .waiting)

/-- A run of steps, by whichever parties. -/
abbrev Reaches : Serving → Serving → Prop :=
  Relation.ReflTransGen Step

/-! ### Threads that are not interrupted -/

/-- The session that the host talks to, with the file as it is. -/
def scene (s : Serving) : Session.Scene :=
  ⟨⟨s.watcher.index, s.watcher.databasePath, s.watcher.target⟩, s.content⟩

/-- A watcher rebuilds by a refresh of its index. -/
theorem fst_rebuild (w : Watcher) (content : Except FileError String) :
    (w.rebuild content).1 =
      { w with index := w.index.perform (.refresh w.databasePath content w.target) } := by
  rcases w.index.refresh_cases w.databasePath content w.target with ⟨db, _, hr⟩ | ⟨e, _, hr⟩
  · simp only [Watcher.rebuild, Index.perform, hr]
  · simp only [Watcher.rebuild, Index.perform, hr]

/-- **The opening.**  Both steps of the first refresh, one right after the other, leave the index of
a session that is opened. -/
theorem reaches_opening (folders : List Path) (database : Path) (target : BuildTarget)
    (quiet : Nat) (content : Except FileError String) :
    ∃ t, Reaches (start folders database target quiet content) t ∧ t.main = .built ∧
      t.scene = ⟨(Service.openSession folders database target content).1, content⟩ := by
  refine ⟨_, .tail (.single (.readFirst rfl)) (.swapFirst rfl), rfl, ?_⟩
  rcases (Index.ofFolders folders).refresh_cases database content target with
    ⟨db, _, hr⟩ | ⟨e, _, hr⟩
  · simp only [scene, mainAt, swapIn, opening, start, reading, Index.perform,
      Service.openSession, hr]
  · simp only [scene, mainAt, swapIn, opening, start, reading, Index.perform,
      Service.openSession, hr]

/-- **A line of the host.**  A service that serves can answer any line without interruption, and
then its session is the one that answering leaves. -/
theorem reaches_line (s : Serving) (hserving : s.main = .serving) (line : String) :
    ∃ t, Reaches s t ∧ t.main = .serving ∧
      t.scene = ⟨(s.scene.answer line).session, s.content⟩ := by
  have hsession := s.scene.answer_session line
  cases hloaded : Session.loadedBy s.watcher.databasePath s.content line with
  | none =>
    simp only [scene, hloaded] at hsession
    exact ⟨s, .refl, hserving, by rw [scene, hsession]⟩
  | some db =>
    have hload : Database.load s.watcher.databasePath s.content = .ok db := by
      unfold Session.loadedBy at hloaded
      split at hloaded
      · exact eq_ok_of_toOption hloaded
      · cases hloaded
    simp only [scene, hloaded] at hsession
    refine ⟨_, .tail (.single (.readHost hserving)) (.swapHost rfl), rfl, ?_⟩
    rw [scene, scene, hsession]
    simp only [mainAt, swapIn, reading, Index.perform, Index.refresh, hload, Except.map]

/-- An event keeps all of a watcher but the changes held back. -/
theorem fst_notice (w : Watcher) (now : Nat) (e : ChangeEvent) :
    (w.notice now e).1 = { w with debouncer := (w.notice now e).1.debouncer } := by
  unfold Watcher.notice
  split
  · cases e.kind with
    | created | modified | removed | other => rfl
  · rfl

/-- A turn with an event is one without, once the event is taken in. -/
theorem fst_step_some (w : Watcher) (content : Except FileError String) (now : Nat)
    (e : ChangeEvent) :
    (Id.run (w.step (pure content) now (some e))).1 =
      (Id.run ((w.notice now e).1.step (pure content) now none)).1 := by
  simp only [Watcher.step, Id.run, pure, bind]
  by_cases hready : ((w.notice now e).1.debouncer.takeReady now).1.isEmpty
  · rw [if_pos hready, if_pos hready]
  · rw [if_neg hready, if_neg hready]

/-- From a check on, the watching thread does what is left of its turn. -/
theorem reaches_waiting (s : Serving) (now : Nat) (hwatched : s.isWatched = true)
    (hchecking : s.watch = .checking) :
    ∃ t, Reaches s t ∧ t.watch = .waiting ∧ t.undelivered = s.undelivered ∧
      t.watcher = (Id.run (s.watcher.step (pure s.content) now none)).1 := by
  cases hready : (s.watcher.debouncer.takeReady now).1.isEmpty with
  | true =>
    refine ⟨_, .single (.holdBack now hwatched hchecking hready), rfl, rfl, ?_⟩
    simp only [watchAt, released, Watcher.step, hready, if_true, Id.run, pure]
  | false =>
    have hdue : Reaches s _ := .single (.release now hwatched hchecking hready)
    refine ⟨_, .tail (.tail hdue (.readWatching hwatched rfl)) (.swapWatching hwatched rfl),
      rfl, rfl, ?_⟩
    simp only [watchAt, swapIn, released, reading, Watcher.step, hready, fst_rebuild, Id.run,
      pure, bind]
    rfl

/-- **A turn of the watching thread.**  A waiting thread can do a whole turn without interruption,
with the first event that there is or without one, and then it holds what a turn of a watcher
leaves. -/
theorem reaches_turn (s : Serving) (now : Nat) (hwatched : s.isWatched = true)
    (hwaiting : s.watch = .waiting) (event : Option ChangeEvent) (left : List ChangeEvent)
    (hevent : s.undelivered = event.toList ++ left) :
    ∃ t, Reaches s t ∧ t.watch = .waiting ∧ t.undelivered = left ∧
      t.watcher = (Id.run (s.watcher.step (pure s.content) now event)).1 := by
  cases event with
  | none =>
    obtain ⟨t, hreaches, hwatch, hleft, hwatcher⟩ :=
      reaches_waiting (s.watchAt .checking) now hwatched rfl
    exact ⟨t, .head (.timeOut hwatched hwaiting) hreaches, hwatch, hleft.trans hevent, hwatcher⟩
  | some e =>
    obtain ⟨t, hreaches, hwatch, hleft, hwatcher⟩ :=
      reaches_waiting ((s.delivered now e left).watchAt .checking) now hwatched rfl
    refine ⟨t, .head (.deliver now hwatched hwaiting hevent) hreaches, hwatch, hleft, ?_⟩
    have hnotice : ((s.delivered now e left).watchAt .checking).watcher =
        (s.watcher.notice now e).1 :=
      (fst_notice s.watcher now e).symm
    rw [hwatcher, hnotice, fst_step_some]
    rfl

end Serving

end CompileIndex

import CompileIndex.Proofs.Rebuild

/-!
# Histories of an index

An index changes only by being cleared, rebuilt in place, rebuilt afresh and swapped, or
refreshed from a file.  Whatever has happened to it, its folders are those it was made with, and
so the next rebuild leaves what a first rebuild leaves.

* `Operation`, `perform`, `after` — histories;
* `folderPaths_after` — the folders after a history;
* `rebuild_forgets_history` — a rebuild after any history is a first rebuild.
-/

namespace CompileIndex

namespace Index

/-- What can happen to an index. -/
inductive Operation where
  | clear
  /-- Rebuilt in place. -/
  | rebuild (db : Database) (target : BuildTarget)
  /-- Rebuilt beside the old index, which the new one replaces. -/
  | replace (db : Database) (target : BuildTarget)
  /-- Replaced from the content of a database file, if that is a database. -/
  | refresh (path : Path) (content : Except FileError String) (target : BuildTarget)

/-- The index after one operation. -/
def perform (index : Index) : Operation → Index
  | .clear => index.clear
  | .rebuild db target => (index.rebuild db target).index
  | .replace db target => (index.rebuiltAfresh db target).index
  | .refresh path content target =>
    match index.refresh path content target with
    | .ok rebuilt => rebuilt.index
    | .error _ => index

/-- The index after several operations. -/
def after (index : Index) (history : List Operation) : Index :=
  history.foldl perform index

/-- A refresh either loads a database and replaces the index, or fails and says why. -/
theorem refresh_cases (index : Index) (path : Path) (content : Except FileError String)
    (target : BuildTarget) :
    (∃ db, Database.load path content = .ok db ∧
        index.refresh path content target = .ok (index.rebuiltAfresh db target)) ∨
      (∃ e, Database.load path content = .error e ∧
        index.refresh path content target = .error e) := by
  unfold refresh
  cases h : Database.load path content with
  | ok db => exact Or.inl ⟨db, rfl, rfl⟩
  | error e => exact Or.inr ⟨e, rfl, rfl⟩

/-- One operation keeps the registered folders and their order. -/
theorem folderPaths_perform (index : Index) (operation : Operation) :
    (index.perform operation).folderPaths = index.folderPaths := by
  cases operation with
  | clear => exact folderPaths_clear index
  | rebuild db target => exact folderPaths_rebuild index db target
  | replace db target => exact folderPaths_rebuiltAfresh index db target
  | refresh path content target =>
    rcases refresh_cases index path content target with ⟨db, _, hr⟩ | ⟨e, _, hr⟩
    · simp only [perform, hr]
      exact folderPaths_rebuiltAfresh index db target
    · simp only [perform, hr]

/-- **Folders are registered once and for all.** -/
theorem folderPaths_after (index : Index) (history : List Operation) :
    (index.after history).folderPaths = index.folderPaths := by
  induction history generalizing index with
  | nil => rfl
  | cons operation rest ih =>
    have hstep : index.after (operation :: rest) = (index.perform operation).after rest := rfl
    rw [hstep, ih, folderPaths_perform]

/-- A history before a rebuild leaves no trace in what the rebuild leaves. -/
theorem rebuild_after (index : Index) (history : List Operation) (db : Database)
    (target : BuildTarget) : (index.after history).rebuild db target = index.rebuild db target :=
  rebuild_congr (folderPaths_after index history) db target

/-- **A rebuild forgets all history.**  After whatever operations on an index of some folders, a
rebuild in place and a rebuild afresh leave the same index, the same counts and the same events:
those of the first rebuild of a new index of the same folders. -/
theorem rebuild_forgets_history (folders : List Path) (inPlace shared : List Operation)
    (db : Database) (target : BuildTarget) :
    ((ofFolders folders).after inPlace).rebuild db target =
        (ofFolders folders).rebuild db target ∧
      ((ofFolders folders).after shared).rebuiltAfresh db target =
        (ofFolders folders).rebuild db target := by
  constructor
  · exact rebuild_after (ofFolders folders) inPlace db target
  · rw [rebuiltAfresh_eq_rebuild]
    exact rebuild_after (ofFolders folders) shared db target

end Index

end CompileIndex

import CompileIndex.Proofs.Resolving
import CompileIndex.Settings.Basic
import Mathlib.Data.List.Forall2

/-!
# Resolved settings

The paths of settings are resolved one against the other: the folders against the base, which is the
workspace root or else the current directory, and the database against the first folder.  Of all
these only the base has to be absolute.  What is put below an absolute path is absolute, so all
paths along the chain are; and an absolute path stays as it is wherever it is resolved again.  When
its paths have been resolved, a workspace does not hang on its root or on a directory any more.

* `Settings.forall₂_workspaceFolders`, `Settings.exists_primary` — which paths settings lead to;
* `Settings.workspaceFolders_of_absolute`, `Settings.databasePath_of_absolute` — paths that are left
  as they are;
* `Settings.paths_resolved` — resolved paths are absolute, and resolved once and for all.
-/

namespace CompileIndex

namespace Settings

variable {s : Settings} {here : Path}

/-- Settings whose paths are those that they lead to. -/
def resolved (s : Settings) (here : Path) : Settings :=
  { s with folders := s.workspaceFolders here, database := s.databasePath here }

/-- Settings with another workspace root, or without one. -/
def rootedAt (s : Settings) (root : Option Path) : Settings :=
  { s with workspaceRoot := root }

/-! ### Which paths settings lead to -/

/-- Without folders the base is the only one. -/
theorem workspaceFolders_of_nil (h : s.folders = []) : s.workspaceFolders here = [s.base here] := by
  simp [workspaceFolders, h]

theorem workspaceFolders_of_ne_nil (h : s.folders ≠ []) :
    s.workspaceFolders here = s.folders.map (s.base here).resolve := by
  simp [workspaceFolders, h]

/-- **Folders** stand for one folder each, in their order. -/
theorem forall₂_workspaceFolders (h : s.folders ≠ []) :
    List.Forall₂ (s.base here).ResolvesTo s.folders (s.workspaceFolders here) := by
  rw [workspaceFolders_of_ne_nil h, List.forall₂_map_right_iff, List.forall₂_same]
  intro folder _
  exact Path.resolvesTo_resolve _ folder

/-- **The database** is resolved against the first folder, and there always is one. -/
theorem exists_primary (s : Settings) (here : Path) :
    ∃ primary more, s.workspaceFolders here = primary :: more ∧
      s.databasePath here = primary.resolve s.database := by
  cases hfolders : s.workspaceFolders here with
  | nil =>
    by_cases hnil : s.folders = []
    · rw [workspaceFolders_of_nil hnil] at hfolders
      cases hfolders
    · rw [workspaceFolders_of_ne_nil hnil] at hfolders
      exact absurd (List.map_eq_nil_iff.1 hfolders) hnil
  | cons primary more =>
    refine ⟨primary, more, rfl, ?_⟩
    simp [databasePath, hfolders]

/-! ### Absolute paths -/

theorem needsNoBase_base (hroot : ∀ root, s.workspaceRoot = some root → root.NeedsNoBase)
    (hhere : s.workspaceRoot = none → here.NeedsNoBase) : (s.base here).NeedsNoBase := by
  unfold base
  cases hcase : s.workspaceRoot with
  | none => exact hhere hcase
  | some root => exact hroot root hcase

/-- **Below an absolute base** all folders are absolute. -/
theorem needsNoBase_of_mem_workspaceFolders (hbase : (s.base here).NeedsNoBase) {folder : Path}
    (h : folder ∈ s.workspaceFolders here) : folder.NeedsNoBase := by
  by_cases hnil : s.folders = []
  · rw [workspaceFolders_of_nil hnil] at h
    rw [List.mem_singleton.1 h]
    exact hbase
  · rw [workspaceFolders_of_ne_nil hnil] at h
    obtain ⟨p, _, rfl⟩ := List.mem_map.1 h
    exact Path.needsNoBase_resolve hbase p

/-- **So is the database.** -/
theorem needsNoBase_databasePath (hbase : (s.base here).NeedsNoBase) :
    (s.databasePath here).NeedsNoBase := by
  obtain ⟨primary, more, hfolders, hdatabase⟩ := s.exists_primary here
  have hprimary : primary ∈ s.workspaceFolders here := hfolders ▸ List.mem_cons_self
  rw [hdatabase]
  exact Path.needsNoBase_resolve (needsNoBase_of_mem_workspaceFolders hbase hprimary) _

/-- Absolute folders are left as they are, against whatever base. -/
theorem workspaceFolders_of_absolute (hne : s.folders ≠ [])
    (h : ∀ folder ∈ s.folders, folder.NeedsNoBase) (here : Path) :
    s.workspaceFolders here = s.folders := by
  rw [workspaceFolders_of_ne_nil hne]
  refine (List.map_congr_left ?_).trans s.folders.map_id
  intro folder hfolder
  exact Path.resolve_of_needsNoBase (h folder hfolder) _

/-- An absolute database is left as it is, whatever the folders are. -/
theorem databasePath_of_absolute (h : s.database.NeedsNoBase) (here : Path) :
    s.databasePath here = s.database := by
  obtain ⟨primary, _, _, hdatabase⟩ := s.exists_primary here
  rw [hdatabase, Path.resolve_of_needsNoBase h]

/-! ### Resolved once and for all -/

/-- **Resolved settings lead to their own paths**, with whatever root and in whatever directory. -/
theorem paths_of_resolved (hbase : (s.base here).NeedsNoBase) (root : Option Path) (there : Path) :
    let moved := (s.resolved here).rootedAt root
    moved.workspaceFolders there = s.workspaceFolders here ∧
      moved.databasePath there = s.databasePath here := by
  intro moved
  have hne : moved.folders ≠ [] := by
    obtain ⟨primary, more, hfolders, _⟩ := s.exists_primary here
    show s.workspaceFolders here ≠ []
    rw [hfolders]
    exact List.cons_ne_nil primary more
  have habsolute : ∀ folder ∈ moved.folders, folder.NeedsNoBase :=
    fun _ h => needsNoBase_of_mem_workspaceFolders hbase h
  have hdatabase : moved.database.NeedsNoBase := needsNoBase_databasePath hbase
  exact ⟨workspaceFolders_of_absolute hne habsolute there,
    databasePath_of_absolute hdatabase there⟩

/-- **The paths that settings lead to.**  Let the workspace root be absolute, or the current
directory if there is none.  There is one folder for each that the settings name, in their order, or
the base alone if they name none; the database is resolved against the first.  All these paths are
absolute.  With them in place of their own the settings lead to the same paths again, and so they do
with every other root and in every other directory. -/
theorem paths_resolved (s : Settings) (here : Path)
    (hroot : ∀ root, s.workspaceRoot = some root → root.NeedsNoBase)
    (hhere : s.workspaceRoot = none → here.NeedsNoBase) :
    let folders := s.workspaceFolders here
    let database := s.databasePath here
    (s.folders = [] → folders = [s.base here]) ∧
      (s.folders ≠ [] → List.Forall₂ (s.base here).ResolvesTo s.folders folders) ∧
      (∃ primary more, folders = primary :: more ∧ primary.ResolvesTo s.database database) ∧
      (∀ folder ∈ folders, folder.NeedsNoBase) ∧ database.NeedsNoBase ∧
      (s.resolved here).workspaceFolders here = folders ∧
      (s.resolved here).databasePath here = database ∧
      ∀ root there,
        let moved := (s.resolved here).rootedAt root
        moved.workspaceFolders there = folders ∧ moved.databasePath there = database := by
  intro folders database
  have hbase := needsNoBase_base hroot hhere
  obtain ⟨primary, more, hfolders, hdatabase⟩ := s.exists_primary here
  have hresolved : primary.ResolvesTo s.database (s.databasePath here) := by
    rw [hdatabase]
    exact Path.resolvesTo_resolve primary s.database
  have hagain := paths_of_resolved hbase s.workspaceRoot here
  exact ⟨workspaceFolders_of_nil, forall₂_workspaceFolders, ⟨primary, more, hfolders, hresolved⟩,
    fun _ h => needsNoBase_of_mem_workspaceFolders hbase h, needsNoBase_databasePath hbase,
    hagain.1, hagain.2, paths_of_resolved hbase⟩

/-- A root on a drive, a folder that is the root itself, one that needs no root, and a database
beside the first of them: the paths are the same for another root and in another directory. -/
theorem paths_resolved_on_drive :
    let s : Settings := { initial with
      workspaceRoot := some ⟨"C:\\w"⟩
      folders := [⟨""⟩, ⟨"\\\\host\\lib"⟩, ⟨"lib"⟩]
      database := ⟨"../db.json"⟩ }
    let moved := (s.resolved ⟨"/tmp"⟩).rootedAt (some ⟨"q"⟩)
    (∀ root, s.workspaceRoot = some root → root.NeedsNoBase) ∧
      (s.workspaceRoot = none → (⟨"/tmp"⟩ : Path).NeedsNoBase) ∧
      moved.workspaceFolders ⟨"/home"⟩ = [⟨"C:\\w/"⟩, ⟨"\\\\host\\lib"⟩, ⟨"C:\\w/lib"⟩] ∧
      moved.databasePath ⟨"/home"⟩ = ⟨"C:\\w/../db.json"⟩ := by
  intro s moved
  have hroot : ∀ root, s.workspaceRoot = some root → root.NeedsNoBase := by
    rintro root ⟨⟩
    decide
  have hhere : s.workspaceRoot = none → (⟨"/tmp"⟩ : Path).NeedsNoBase := nofun
  obtain ⟨_, _, _, _, _, _, _, hmoved⟩ := paths_resolved s ⟨"/tmp"⟩ hroot hhere
  obtain ⟨hfolders, hdatabase⟩ := hmoved (some ⟨"q"⟩) ⟨"/home"⟩
  exact ⟨hroot, hhere, hfolders.trans (by decide), hdatabase.trans (by decide)⟩

end Settings

end CompileIndex

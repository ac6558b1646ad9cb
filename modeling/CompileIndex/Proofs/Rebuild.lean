import CompileIndex.Index.Rebuild
import CompileIndex.Proofs.Containers

/-!
# What a rebuild does

A rebuild runs through records with a progress in hand.  Of what it leaves behind, the index is
that of the well-formed records alone, added one after the other to the cleared index; and the
cleared index is the fresh index of the registered folders.  Everything else that is known
about rebuilds follows from these two facts.

* `Progress.run_index` — the records of a run, as far as the index goes;
* `rebuild_index` — a rebuild as commands added to the cleared index;
* `clear_eq_ofFolders` — clearing is registering the folders afresh;
* `report_rebuild` — every record is skipped, or adds a file, or replaces one;
* `rebuild_congr` — a rebuild sees nothing of an index but its folders;
* `rebuiltAfresh_eq_rebuild` — beside the old index or in place, the same comes out.
-/

namespace CompileIndex

namespace Index

/-! ### One record -/

@[simp] theorem Progress.step_malformed (target : BuildTarget) (p : Progress)
    (reason : Malformation) (position : Nat) :
    p.step target (.error reason, position) =
      { p with skipped := p.skipped + 1, events := skippedEvent position reason :: p.events } :=
  rfl

@[simp] theorem Progress.step_command (target : BuildTarget) (p : Progress)
    (c : CompileCommand) (position : Nat) :
    p.step target (.ok c, position) =
      { index := p.index.addCommand c target
        skipped := p.skipped
        replaced := p.replaced + if p.index.contains c.absoluteFile then 1 else 0
        events := classifiedEvent c.absoluteFile (.ofCommand c target) :: p.events } :=
  rfl

/-! ### Commands added one after the other -/

/-- An index that knows several commands more. -/
def addCommands (index : Index) (cs : List CompileCommand) (target : BuildTarget) : Index :=
  cs.foldl (fun index c => index.addCommand c target) index

@[simp] theorem addCommands_nil (index : Index) (target : BuildTarget) :
    index.addCommands [] target = index :=
  rfl

@[simp] theorem addCommands_cons (index : Index) (c : CompileCommand)
    (cs : List CompileCommand) (target : BuildTarget) :
    index.addCommands (c :: cs) target = (index.addCommand c target).addCommands cs target :=
  rfl

/-- The last command comes on top of all others. -/
theorem addCommands_concat (index : Index) (cs : List CompileCommand) (c : CompileCommand)
    (target : BuildTarget) :
    index.addCommands (cs ++ [c]) target = (index.addCommands cs target).addCommand c target := by
  simp only [addCommands, List.foldl_append, List.foldl_cons, List.foldl_nil]

/-- **A run sees the well-formed records only**, as far as the index goes: malformed records
leave no trace in it, wherever they stand. -/
theorem Progress.run_index (target : BuildTarget) (records : List Record) (position : Nat)
    (p : Progress) :
    ((records.zipIdx position).foldl (Progress.step target) p).index =
      p.index.addCommands (records.filterMap Except.toOption) target := by
  induction records generalizing position p with
  | nil => rfl
  | cons record rest ih =>
    rw [List.zipIdx_cons, List.foldl_cons, ih]
    cases record with
    | error reason => rfl
    | ok c => rfl

theorem fill_index (index : Index) (db : Database) (target : BuildTarget) :
    (index.fill db target).index = index.addCommands db.commands target :=
  Progress.run_index target db.records 0 ⟨index, 0, 0, []⟩

/-- **A rebuilt index** is the cleared one with all commands of the database added. -/
theorem rebuild_index (index : Index) (db : Database) (target : BuildTarget) :
    (index.rebuild db target).index = index.clear.addCommands db.commands target :=
  fill_index index.clear db target

/-! ### What is counted -/

theorem fileCount_addCommand (index : Index) (c : CompileCommand) (target : BuildTarget) :
    (index.addCommand c target).fileCount =
      index.fileCount + if index.contains c.absoluteFile then 0 else 1 :=
  PathMap.size_insert index.files c.absoluteFile (.ofCommand c target)

/-- What a rebuild under way has counted. -/
def Progress.counted (p : Progress) : Nat :=
  p.skipped + p.index.fileCount + p.replaced

/-- Every record is counted once. -/
theorem Progress.counted_step (target : BuildTarget) (p : Progress) (record : Record × Nat) :
    (p.step target record).counted = p.counted + 1 := by
  obtain ⟨record, position⟩ := record
  cases record with
  | error reason =>
    simp only [step_malformed, counted]
    omega
  | ok c =>
    simp only [step_command, counted, fileCount_addCommand]
    -- A command whose file is known replaces it, and any other adds one.
    split <;> omega

/-- **A run counts its records.** -/
theorem Progress.counted_run (target : BuildTarget) (records : List (Record × Nat))
    (p : Progress) :
    (records.foldl (Progress.step target) p).counted = p.counted + records.length := by
  induction records generalizing p with
  | nil => rfl
  | cons record rest ih =>
    rw [List.foldl_cons, ih, counted_step, List.length_cons]
    omega

/-- **A rebuild accounts for all records**: every one is skipped, or adds a file, or replaces
one. -/
theorem report_rebuild (index : Index) (db : Database) (target : BuildTarget) :
    let report := (index.rebuild db target).report
    report.records = db.records.length ∧
      report.skipped + report.files + report.replaced = db.records.length := by
  refine ⟨rfl, ?_⟩
  have hrun := Progress.counted_run target db.records.zipIdx ⟨index.clear, 0, 0, []⟩
  have hstart : (⟨index.clear, 0, 0, []⟩ : Progress).counted = 0 := rfl
  rw [hstart, List.length_zipIdx, Nat.zero_add] at hrun
  exact hrun

/-! ### The registered folders stay -/

@[simp] theorem folderPaths_addCommand (index : Index) (c : CompileCommand)
    (target : BuildTarget) : (index.addCommand c target).folderPaths = index.folderPaths := by
  simp only [addCommand, folderPaths, PathMap.keys_mapValues]

@[simp] theorem folderPaths_addCommands (index : Index) (cs : List CompileCommand)
    (target : BuildTarget) : (index.addCommands cs target).folderPaths = index.folderPaths := by
  induction cs generalizing index with
  | nil => rfl
  | cons c rest ih => rw [addCommands_cons, ih, folderPaths_addCommand]

@[simp] theorem folderPaths_clear (index : Index) : index.clear.folderPaths = index.folderPaths :=
  PathMap.keys_mapValues _ index.folders

@[simp] theorem folderPaths_rebuild (index : Index) (db : Database) (target : BuildTarget) :
    (index.rebuild db target).index.folderPaths = index.folderPaths := by
  rw [rebuild_index, folderPaths_addCommands, folderPaths_clear]

/-! ### In place and afresh -/

/-- **Clearing is registering afresh.**  The folders of an index, registered again in their
order, give the index that clearing leaves. -/
theorem clear_eq_ofFolders (index : Index) : index.clear = ofFolders index.folderPaths := by
  simp only [clear, ofFolders, folderPaths, PathMap.ofKeys_keys]
  rfl

@[simp] theorem folderPaths_ofFolders_folderPaths (index : Index) :
    (ofFolders index.folderPaths).folderPaths = index.folderPaths := by
  rw [← clear_eq_ofFolders, folderPaths_clear]

/-- **A rebuild sees nothing of an index but its folders.** -/
theorem rebuild_congr {a b : Index} (h : a.folderPaths = b.folderPaths) (db : Database)
    (target : BuildTarget) : a.rebuild db target = b.rebuild db target := by
  simp only [rebuild, clear_eq_ofFolders, h]

/-- **Both ways to rebuild agree** in everything that they leave behind. -/
theorem rebuiltAfresh_eq_rebuild (index : Index) (db : Database) (target : BuildTarget) :
    index.rebuiltAfresh db target = index.rebuild db target :=
  rebuild_congr (folderPaths_ofFolders_folderPaths index) db target

@[simp] theorem folderPaths_rebuiltAfresh (index : Index) (db : Database)
    (target : BuildTarget) :
    (index.rebuiltAfresh db target).index.folderPaths = index.folderPaths := by
  rw [rebuiltAfresh_eq_rebuild, folderPaths_rebuild]

end Index

end CompileIndex

import CompileIndex.Proofs.Rebuild

/-!
# What a build target changes

A rebuild is given the labels of a build target.  They are looked at in one place only: the
architecture, and of it only whether it is `x86`, goes into the mode of a file.  So two rebuilds for
two targets differ in nothing but modes, and not even in those when the architectures are of one
kind.

What carries the argument is the part of a rebuild under way from which all modes are taken out.
Two rebuilds that agree on it agree on it after one more record, whatever their targets are.

* `FileConfiguration.SameButMode` — two configurations that differ in nothing but the mode;
* `Index.modeless`, `Progress.Alike` — what is left when the modes are taken out;
* `Progress.Alike.step`, `Progress.Alike.run` — one record and all records;
* `rebuild_congr_target` — targets whose architectures are of one kind;
* `target_sets_modes_only` — two rebuilds for any two targets.
-/

namespace CompileIndex

/-! ### Configurations without their modes -/

namespace FileConfiguration

/-- Two configurations that differ in nothing but the mode. -/
structure SameButMode (c d : FileConfiguration) : Prop where
  includePath : c.includePath = d.includePath
  definitions : c.definitions = d.definitions
  standard : c.standard = d.standard
  compilerPath : c.compilerPath = d.compilerPath
  compilerArgs : c.compilerArgs = d.compilerArgs

/-- A configuration with one and the same mode put for its own. -/
def modeless (c : FileConfiguration) : FileConfiguration :=
  { c with mode := .fallback }

theorem sameButMode_of_modeless {c d : FileConfiguration} (h : c.modeless = d.modeless) :
    c.SameButMode d := by
  simp only [modeless, FileConfiguration.mk.injEq, true_and] at h
  obtain ⟨hinclude, hdefinitions, hstandard, hpath, hargs⟩ := h
  exact ⟨hinclude, hdefinitions, hstandard, hpath, hargs⟩

variable (c : CompileCommand) (target other : BuildTarget)

/-- Without its mode, the configuration of a command does not depend on the target. -/
theorem modeless_ofCommand : (ofCommand c target).modeless = (ofCommand c other).modeless := by
  simp only [modeless, ofCommand]

/-- Of the target a command's configuration sees whether its architecture is `x86`, and nothing
else. -/
theorem ofCommand_congr {target other : BuildTarget}
    (h : target.architecture = "x86" ↔ other.architecture = "x86") :
    ofCommand c target = ofCommand c other := by
  have hlabel : Architecture.ofLabel target.architecture =
      Architecture.ofLabel other.architecture := by
    simp only [Architecture.ofLabel, h]
  simp only [ofCommand, EditorMode.resolve, hlabel]

end FileConfiguration

/-- A folder takes no mode in. -/
theorem BrowseConfiguration.fold_congr (b : BrowseConfiguration) {c d : FileConfiguration}
    (h : c.SameButMode d) : b.fold c = b.fold d := by
  simp only [fold, h.includePath, h.compilerArgs, h.compilerPath, h.standard]

namespace Index

/-! ### Indexes without modes -/

/-- What an index knows, with all modes taken out. -/
def modeless (index : Index) : Index :=
  { index with files := index.files.mapValues fun _ => FileConfiguration.modeless }

@[simp] theorem folders_modeless (index : Index) : index.modeless.folders = index.folders :=
  rfl

@[simp] theorem keys_modeless (index : Index) : index.modeless.files.keys = index.files.keys :=
  PathMap.keys_mapValues _ index.files

@[simp] theorem fileCount_modeless (index : Index) :
    index.modeless.fileCount = index.fileCount :=
  PathMap.size_mapValues _ index.files

theorem file?_modeless (index : Index) (file : Path) :
    index.modeless.file? file = (index.file? file).map FileConfiguration.modeless :=
  PathMap.find?_mapValues (fun _ => FileConfiguration.modeless) index.files file
    (fun _ _ _ => rfl)

@[simp] theorem contains_modeless (index : Index) (file : Path) :
    index.modeless.contains file = index.contains file := by
  rw [contains, file?_modeless, Option.isSome_map, contains]

/-- **One command.**  Indexes that agree without their modes agree without their modes when the
command is added to both, be it for different targets. -/
theorem modeless_addCommand {a b : Index} (h : a.modeless = b.modeless) (c : CompileCommand)
    (target other : BuildTarget) :
    (a.addCommand c target).modeless = (b.addCommand c other).modeless := by
  have hfiles : (a.files.mapValues fun _ => FileConfiguration.modeless) =
      b.files.mapValues fun _ => FileConfiguration.modeless := congrArg Index.files h
  have hfolders : a.folders = b.folders := by rw [← folders_modeless, h, folders_modeless]
  have hcommand := FileConfiguration.modeless_ofCommand c target other
  have hfold (browse : BrowseConfiguration) :
      browse.fold (.ofCommand c target) = browse.fold (.ofCommand c other) :=
    browse.fold_congr (FileConfiguration.sameButMode_of_modeless hcommand)
  simp only [modeless, addCommand, PathMap.mapValues_insert, hfiles, hfolders, hcommand, hfold]

/-! ### Two rebuilds side by side -/

namespace Progress

/-- Two rebuilds under way that have counted the same, and agree on all but the modes. -/
structure Alike (p q : Progress) : Prop where
  index : p.index.modeless = q.index.modeless
  skipped : p.skipped = q.skipped
  replaced : p.replaced = q.replaced

/-- **One record**, for whichever targets, keeps two rebuilds alike. -/
theorem Alike.step {p q : Progress} (h : p.Alike q) (target other : BuildTarget)
    (record : Record × Nat) : (p.step target record).Alike (q.step other record) := by
  obtain ⟨record, position⟩ := record
  cases record with
  | error reason =>
    rw [step_malformed, step_malformed]
    exact ⟨h.index, congrArg (· + 1) h.skipped, h.replaced⟩
  | ok c =>
    rw [step_command, step_command]
    have hknown : p.index.contains c.absoluteFile = q.index.contains c.absoluteFile := by
      rw [← contains_modeless, h.index, contains_modeless]
    exact ⟨modeless_addCommand h.index c target other, h.skipped, by rw [h.replaced, hknown]⟩

/-- **All records** do. -/
theorem Alike.run {p q : Progress} (h : p.Alike q) (target other : BuildTarget)
    (records : List (Record × Nat)) :
    (records.foldl (Progress.step target) p).Alike (records.foldl (Progress.step other) q) :=
  List.foldl_rel h fun record _ _ _ halike => halike.step target other record

/-- The counts that a rebuild reports are those of every rebuild that was alike. -/
theorem Alike.finish {p q : Progress} (h : p.Alike q) (db : Database) :
    (p.finish db).report = (q.finish db).report := by
  have hcount : p.index.fileCount = q.index.fileCount := by
    rw [← fileCount_modeless, h.index, fileCount_modeless]
  simp only [Progress.finish, h.skipped, h.replaced, hcount]

end Progress

variable (index : Index) (db : Database)

/-- Two rebuilds of one index from one database are alike to their end. -/
theorem alike_fill (target other : BuildTarget) :
    (index.clear.fill db target).Alike (index.clear.fill db other) :=
  Progress.Alike.run ⟨rfl, rfl, rfl⟩ target other db.records.zipIdx

/-- **Architectures of one kind.**  If both are `x86`, or neither is, the two rebuilds are the same
in all that they leave behind, whatever else the labels are. -/
theorem rebuild_congr_target {target other : BuildTarget}
    (h : target.architecture = "x86" ↔ other.architecture = "x86") :
    index.rebuild db target = index.rebuild db other := by
  have hstep : Progress.step target = Progress.step other := by
    funext p record
    simp only [Progress.step, addCommand, FileConfiguration.ofCommand_congr _ h]
  simp only [rebuild, fill, hstep]

/-- **A target sets modes and nothing else.**  New indexes of some folders, rebuilt from one
database for two targets, report the same counts, have the same folders with the same
configurations, and know the same files in the same order; a file's two configurations differ in
nothing but the mode.  If the architectures are both `x86`, or both something else, nothing differs
at all. -/
theorem target_sets_modes_only (folders : List Path) (db : Database)
    (target other : BuildTarget) :
    let one := (ofFolders folders).rebuild db target
    let two := (ofFolders folders).rebuild db other
    one.report = two.report ∧ one.index.folders = two.index.folders ∧
      one.index.files.keys = two.index.files.keys ∧
      (∀ file, Option.Rel FileConfiguration.SameButMode (one.index.file? file)
        (two.index.file? file)) ∧
      ((target.architecture = "x86" ↔ other.architecture = "x86") → one = two) := by
  intro one two
  have halike := alike_fill (ofFolders folders) db target other
  have hmodeless : one.index.modeless = two.index.modeless := halike.index
  refine ⟨halike.finish db, ?_, ?_, ?_, rebuild_congr_target (ofFolders folders) db⟩
  · rw [← folders_modeless, hmodeless, folders_modeless]
  · rw [← keys_modeless, hmodeless, keys_modeless]
  · intro file
    have hfile : (one.index.file? file).map FileConfiguration.modeless =
        (two.index.file? file).map FileConfiguration.modeless := by
      rw [← file?_modeless, hmodeless, file?_modeless]
    cases hone : one.index.file? file with
    | none =>
      rw [hone, Option.map_none, eq_comm, Option.map_eq_none_iff] at hfile
      rw [hfile]
      exact .none
    | some c =>
      rw [hone, Option.map_some, eq_comm, Option.map_eq_some_iff] at hfile
      obtain ⟨d, htwo, hsame⟩ := hfile
      rw [htwo]
      exact .some (FileConfiguration.sameButMode_of_modeless hsame.symm)

/-- A file for `x64`, for `arm64` on another platform, and for `x86`: the first two are the same,
and the last one differs, though its folder does not. -/
theorem target_sets_modes_only_three_targets :
    let db : Database := ⟨[.error .unsplittableCommand,
      .ok ⟨⟨"/p"⟩, ⟨"a.c"⟩, ["sh", "gcc", "-Iinc", "-Wall"]⟩]⟩
    let built (architecture platform : String) :=
      (ofFolders [⟨"/p"⟩]).rebuild db ⟨architecture, platform⟩
    built "x64" "linux" = built "arm64" "darwin" ∧
      (built "x64" "linux").index.folders = (built "x86" "linux").index.folders ∧
      (built "x64" "linux").index.file? ⟨"/p/a.c"⟩ ≠
        (built "x86" "linux").index.file? ⟨"/p/a.c"⟩ := by
  intro db built
  obtain ⟨_, _, _, _, hkind⟩ :=
    target_sets_modes_only [⟨"/p"⟩] db ⟨"x64", "linux"⟩ ⟨"arm64", "darwin"⟩
  obtain ⟨_, hfolders, _⟩ :=
    target_sets_modes_only [⟨"/p"⟩] db ⟨"x64", "linux"⟩ ⟨"x86", "linux"⟩
  exact ⟨hkind (by decide), hfolders, by decide⟩

end Index

end CompileIndex

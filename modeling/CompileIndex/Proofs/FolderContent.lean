import CompileIndex.Proofs.History

/-!
# The content of a folder

A rebuild offers every command to every folder while it fills the files.  What a folder holds in
the end is said without the loop: it is the fold of the commands that count towards the folder,
in the order of the database, and its lists are the lists of those commands put together with
all repetitions dropped.

* `Database.attributed` — the commands that count towards a folder;
* `BrowseConfiguration.ofCommands` — the configuration that some commands add up to;
* `folder?_rebuild` — a folder after a rebuild;
* `folder_content_exact` — its lists, its compiler and its standard, spelled out.
-/

namespace CompileIndex

/-- The commands that count towards a folder, in the order of the database.  Those that a later
command of the same file replaces count as well. -/
def Database.attributed (db : Database) (folder : Path) : List CompileCommand :=
  db.commands.filter fun c => isAttributed c.absoluteFile folder

/-- How a folder is spelled does not matter for what counts towards it. -/
theorem isAttributed_congr (file : Path) {p q : Path} (h : p.Same q) :
    isAttributed file p = isAttributed file q := by
  have hcomponents : p.components = q.components := h
  simp only [isAttributed, Path.relativeTo?, Path.normalForm, hcomponents]

namespace BrowseConfiguration

/-- The configuration that some commands add up to, one after the other. -/
def ofCommands (cs : List CompileCommand) (target : BuildTarget) : BrowseConfiguration :=
  cs.foldl (fun b c => b.fold (.ofCommand c target)) .empty

theorem ofCommands_concat (cs : List CompileCommand) (c : CompileCommand)
    (target : BuildTarget) :
    ofCommands (cs ++ [c]) target = (ofCommands cs target).fold (.ofCommand c target) := by
  simp only [ofCommands, List.foldl_append, List.foldl_cons, List.foldl_nil]

/-- A list to which every command adds its own items holds in the end the items of all commands,
put together. -/
theorem gathered_ofCommands {target : BuildTarget}
    (gathered : BrowseConfiguration → OrderedSet String)
    (items : CompileCommand → List String) (hempty : gathered .empty = .ofList [])
    (hfold : ∀ b c, gathered (b.fold (.ofCommand c target)) = (gathered b).insertAll (items c))
    (cs : List CompileCommand) :
    gathered (ofCommands cs target) = .ofList (cs.flatMap items) := by
  induction cs using List.reverseRecOn with
  | nil => exact hempty
  | append_singleton cs c ih =>
    rw [ofCommands_concat, hfold, ih, List.flatMap_append, List.flatMap_singleton,
      OrderedSet.ofList, OrderedSet.ofList, OrderedSet.insertAll_append]

/-- The include paths of a folder are those of its commands, put together. -/
theorem browsePath_ofCommands (cs : List CompileCommand) (target : BuildTarget) :
    (ofCommands cs target).browsePath = .ofList (cs.flatMap fun c => c.sorted.includePaths) :=
  gathered_ofCommands browsePath (fun c => c.sorted.includePaths) rfl (fun _ _ => rfl) cs

/-- The options of a folder are those of its commands, put together. -/
theorem compilerArgs_ofCommands (cs : List CompileCommand) (target : BuildTarget) :
    (ofCommands cs target).compilerArgs = .ofList (cs.flatMap fun c => c.sorted.passed) :=
  gathered_ofCommands compilerArgs (fun c => c.sorted.passed) rfl (fun _ _ => rfl) cs

/-- The compiler and the standard of a folder are those of its last command. -/
theorem last_ofCommands (cs : List CompileCommand) (target : BuildTarget) :
    (ofCommands cs target).compilerPath = cs.getLast?.map (·.compiler) ∧
      (ofCommands cs target).standard =
        cs.getLast?.map fun c => Standard.resolve c.sorted.standard := by
  induction cs using List.reverseRecOn with
  | nil => exact ⟨rfl, rfl⟩
  | append_singleton cs c _ =>
    rw [ofCommands_concat, List.getLast?_concat]
    exact ⟨rfl, rfl⟩

/-- A folder is empty exactly when no command counts towards it: one command alone brings a
compiler, even one without include paths and options. -/
theorem isEmpty_ofCommands (cs : List CompileCommand) (target : BuildTarget) :
    (ofCommands cs target).isEmpty = true ↔ cs = [] := by
  constructor
  · intro hempty
    have hnone : (ofCommands cs target).compilerPath.isNone = true := by
      simp only [isEmpty, Bool.and_eq_true] at hempty
      exact hempty.1.2
    rw [(last_ofCommands cs target).1, Option.isNone_map, Option.isNone_iff_eq_none,
      List.getLast?_eq_none_iff] at hnone
    exact hnone
  · rintro rfl
    rfl

end BrowseConfiguration

namespace Index

/-! ### A folder while commands are added -/

/-- One command changes a folder exactly when it counts towards the folder. -/
theorem folder?_addCommand (index : Index) (c : CompileCommand) (target : BuildTarget)
    (folder : Path) :
    (index.addCommand c target).folder? folder =
      (index.folder? folder).map fun browse =>
        if isAttributed c.absoluteFile folder then browse.fold (.ofCommand c target)
        else browse := by
  unfold addCommand folder?
  simp only
  rw [PathMap.find?_mapValues]
  intro key browse hkey
  rw [isAttributed_congr c.absoluteFile hkey]

/-- Several commands change a folder as those of them do that count towards it. -/
theorem folder?_addCommands (index : Index) (cs : List CompileCommand) (target : BuildTarget)
    (folder : Path) :
    (index.addCommands cs target).folder? folder =
      (index.folder? folder).map fun browse =>
        (cs.filter fun c => isAttributed c.absoluteFile folder).foldl
          (fun b c => b.fold (.ofCommand c target)) browse := by
  -- The folder's own value runs along, so the induction is over all indexes at once.
  induction cs generalizing index with
  | nil => simp only [addCommands_nil, List.filter_nil, List.foldl_nil, Option.map_id']
  | cons c rest ih =>
    rw [addCommands_cons, ih, folder?_addCommand, Option.map_map]
    apply Option.map_congr
    intro browse _
    rw [Function.comp_apply, List.filter_cons]
    split
    · rw [List.foldl_cons]
    · rfl

/-! ### A folder after a rebuild -/

theorem folder?_clear (index : Index) (folder : Path) :
    index.clear.folder? folder = (index.folder? folder).map fun _ => .empty :=
  PathMap.find?_mapValues (fun _ (browse : BrowseConfiguration) => browse.clear) index.folders
    folder (fun _ _ _ => rfl)

/-- A folder is registered exactly when it is one of those the index was made of, under whatever
spelling. -/
theorem folder?_ofFolders (folders : List Path) (folder : Path) :
    (ofFolders folders).folder? folder =
      if ∃ registered ∈ folders, registered.Same folder then some .empty else none :=
  PathMap.find?_ofKeys BrowseConfiguration.empty folders folder

/-- **A folder after a rebuild** is what the commands that count towards it add up to.  It does
not see the other folders, nor what the index knew before, nor any other command. -/
theorem folder?_rebuild (index : Index) (db : Database) (target : BuildTarget)
    (folder : Path) :
    (index.rebuild db target).index.folder? folder =
      (index.folder? folder).map fun _ => .ofCommands (db.attributed folder) target := by
  rw [rebuild_index, folder?_addCommands, folder?_clear, Option.map_map]
  rfl

/-- **The content of a folder, exactly.**  After a rebuild, at whatever point of a history, a
registered folder holds the include paths and the options of the commands that count towards it,
each where it first stands, and the compiler and the standard of the last of them; it is empty
exactly when there are none.  Nothing else plays a part: with other folders beside it, another
past and another database, the same commands counting towards it give the same content. -/
theorem folder_content_exact (folders : List Path) (history : List Operation) (db : Database)
    (target : BuildTarget) (folder : Path)
    (h : ∃ registered ∈ folders, registered.Same folder) :
    ∃ browse : BrowseConfiguration,
      (((ofFolders folders).after history).rebuild db target).index.folder? folder =
          some browse ∧
        browse.browsePath.toList =
          ((db.attributed folder).flatMap fun c => c.sorted.includePaths).eraseDups ∧
        browse.compilerArgs.toList =
          ((db.attributed folder).flatMap fun c => c.sorted.passed).eraseDups ∧
        browse.compilerPath = (db.attributed folder).getLast?.map (·.compiler) ∧
        browse.standard =
          (db.attributed folder).getLast?.map (fun c => Standard.resolve c.sorted.standard) ∧
        (browse.isEmpty = true ↔ db.attributed folder = []) ∧
        ∀ (folders' : List Path) (history' : List Operation) (db' : Database),
          (∃ registered ∈ folders', registered.Same folder) →
          db'.attributed folder = db.attributed folder →
          (((ofFolders folders').after history').rebuild db' target).index.folder? folder =
            some browse := by
  refine ⟨.ofCommands (db.attributed folder) target, ?_, ?_, ?_, ?_, ?_, ?_, ?_⟩
  · rw [rebuild_after, folder?_rebuild, folder?_ofFolders, if_pos h]
    rfl
  · rw [BrowseConfiguration.browsePath_ofCommands, OrderedSet.toList_ofList]
  · rw [BrowseConfiguration.compilerArgs_ofCommands, OrderedSet.toList_ofList]
  · exact (BrowseConfiguration.last_ofCommands _ target).1
  · exact (BrowseConfiguration.last_ofCommands _ target).2
  · exact BrowseConfiguration.isEmpty_ofCommands _ target
  · intro folders' history' db' h' hcs
    rw [rebuild_after, folder?_rebuild, folder?_ofFolders, if_pos h', hcs]
    rfl

/-- A folder asked for with a slash at its end.  Of the file that is compiled twice both
commands count, and the malformed record between them does not. -/
theorem folder_content_exact_twice_compiled :
    (∃ registered ∈ [(⟨"/ws/app"⟩ : Path), ⟨"/ws/lib"⟩], registered.Same ⟨"/ws/lib/"⟩) ∧
      ∃ browse : BrowseConfiguration,
        (((ofFolders [⟨"/ws/app"⟩, ⟨"/ws/lib"⟩]).after [.clear]).rebuild
          ⟨[.ok ⟨⟨"/ws/app"⟩, ⟨"a.c"⟩, ["sh", "gcc", "-Iinc", "-I/usr/b", "-g"]⟩,
            .error .unsplittableCommand,
            .ok ⟨⟨"/ws/app"⟩, ⟨"/ws//app/a.c"⟩, ["sh", "cc", "-g", "-Iinc", "-std=c11"]⟩]⟩
          ⟨"x64", "linux"⟩).index.folder? ⟨"/ws/lib/"⟩ = some browse ∧
        browse.browsePath.toList = ["/ws/app/inc", "/usr/b"] ∧
        browse.compilerArgs.toList = ["-g"] ∧
        browse.compilerPath = some "cc" ∧
        browse.standard = some .c11 := by
  have h : ∃ registered ∈ [(⟨"/ws/app"⟩ : Path), ⟨"/ws/lib"⟩], registered.Same ⟨"/ws/lib/"⟩ :=
    by decide
  obtain ⟨browse, hfound, hpaths, hargs, hcompiler, hstandard, _, _⟩ :=
    folder_content_exact [⟨"/ws/app"⟩, ⟨"/ws/lib"⟩] [.clear]
      ⟨[.ok ⟨⟨"/ws/app"⟩, ⟨"a.c"⟩, ["sh", "gcc", "-Iinc", "-I/usr/b", "-g"]⟩,
        .error .unsplittableCommand,
        .ok ⟨⟨"/ws/app"⟩, ⟨"/ws//app/a.c"⟩, ["sh", "cc", "-g", "-Iinc", "-std=c11"]⟩]⟩
      ⟨"x64", "linux"⟩ ⟨"/ws/lib/"⟩ h
  exact ⟨h, browse, hfound, hpaths.trans (by decide), hargs.trans (by decide),
    hcompiler.trans (by decide), hstandard.trans (by decide)⟩

end Index

end CompileIndex

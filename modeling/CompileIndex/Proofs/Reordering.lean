import CompileIndex.Proofs.Accounting
import CompileIndex.Proofs.FileContent
import Mathlib.Data.List.Perm.Subperm

/-!
# Records in another order

Build tools write the records of a database in varying order.  A rebuild sees that order at two
places only: a file has what the last of its commands gives it, and a folder has the compiler and
the standard of the last command that counts towards it.  All else that an index holds is counted or
collected, and neither depends on the order.

* `OrderedSet.sameMembers_iff`, `PathMap.sameEntries_of_find?` — what the comparisons of containers
  compare;
* `Database.lastCompiler` — what the last command of a folder gives it;
* `BrowseConfiguration.same_ofCommands` — the same commands in another order, for one folder;
* `Index.AnswersAlike` — two indexes that a host cannot tell apart;
* `rebuild_permuted` — the same records in another order, with the same last ones.
-/

namespace CompileIndex

/-! ### Containers compared -/

namespace OrderedSet

variable {α : Type} [DecidableEq α]

theorem mem_ofList {xs : List α} {x : α} : x ∈ (ofList xs).toList ↔ x ∈ xs := by
  rw [ofList, mem_insertAll]
  exact or_iff_right List.not_mem_nil

/-- Two sets compare equal when each is the other in another order. -/
theorem sameMembers_iff (s t : OrderedSet α) :
    s.sameMembers t = true ↔ s.toList.Perm t.toList := by
  simp only [sameMembers, Bool.and_eq_true, decide_eq_true_eq, List.all_eq_true]
  constructor
  · intro h
    have hsubset : s.toList ⊆ t.toList := h.2
    have hsubperm : s.toList.Subperm t.toList := s.nodup.subperm hsubset
    exact hsubperm.perm_of_length_le (Nat.le_of_eq h.1.symm)
  · intro h
    exact ⟨h.length_eq, fun x hx => h.mem_iff.1 hx⟩

/-- Lists with the same items make the same set. -/
theorem sameMembers_ofList {xs ys : List α} (h : xs.Perm ys) :
    (ofList xs).sameMembers (ofList ys) = true := by
  rw [sameMembers_iff, List.perm_ext_iff_of_nodup (ofList xs).nodup (ofList ys).nodup]
  intro x
  rw [mem_ofList, mem_ofList]
  exact h.mem_iff

end OrderedSet

namespace PathMap

variable {α : Type}

/-- An entry is found under its own key. -/
theorem find?_of_mem (m : PathMap α) {e : Path × α} (he : e ∈ m.entries) :
    m.find? e.1 = some e.2 := by
  have hentries : ∀ es : List (Path × α), es.Pairwise (fun a b => ¬ a.1.Same b.1) → e ∈ es →
      findIn e.1 es = some e.2 := by
    intro es hdistinct hmem
    induction es with
    | nil => exact absurd hmem List.not_mem_nil
    | cons d rest ih =>
      rw [List.pairwise_cons] at hdistinct
      rw [findIn]
      rcases List.mem_cons.1 hmem with rfl | hrest
      · exact if_pos (Path.Same.refl e.1)
      · rw [if_neg (hdistinct.1 e hrest)]
        exact ih hdistinct.2 hrest
  exact hentries m.entries m.distinct he

/-- A map that gives values to no more paths has no more keys, however they are spelled. -/
theorem keySet_subset {m n : PathMap α}
    (h : ∀ p, (m.find? p).isSome = true → (n.find? p).isSome = true) : m.keySet ⊆ n.keySet := by
  intro cs hcs
  obtain ⟨k, hk, rfl⟩ := List.mem_map.1 (List.mem_toFinset.1 hcs)
  have hfound : (m.find? k).isSome = true := by
    rw [← mem_keySet]
    exact hcs
  exact (n.mem_keySet k).2 (h k hfound)

/-- Of two related values both are there, or none is. -/
theorem isSome_of_rel {r : α → α → Prop} {a b : Option α} (h : Option.Rel r a b) :
    a.isSome = b.isSome := by
  cases h with
  | some _ => rfl
  | none => rfl

/-- Two maps compare equal as soon as look-ups in them do. -/
theorem sameEntries_of_find? {same : α → α → Bool} {m n : PathMap α}
    (h : ∀ p, Option.Rel (fun v w => same v w = true) (m.find? p) (n.find? p)) :
    m.sameEntries same n = true := by
  have hfound : ∀ p, (m.find? p).isSome = (n.find? p).isSome := fun p => isSome_of_rel (h p)
  have hkeys : m.keySet = n.keySet := by
    apply Finset.Subset.antisymm
    · exact keySet_subset fun p hp => hfound p ▸ hp
    · exact keySet_subset fun p hp => (hfound p).symm ▸ hp
  have hsize : m.size = n.size := by
    rw [size_eq_card, size_eq_card, hkeys]
  simp only [sameEntries, Bool.and_eq_true, decide_eq_true_eq, List.all_eq_true]
  refine ⟨hsize, ?_⟩
  intro e he
  have hrel := h e.1
  rw [m.find?_of_mem he] at hrel
  cases hn : n.find? e.1 with
  | none =>
    rw [hn] at hrel
    cases hrel
  | some w =>
    rw [hn] at hrel
    cases hrel with
    | some hsame => exact hsame

end PathMap

/-! ### Commands in another order -/

namespace Database

/-- The compiler and the standard of the last command that counts towards a folder. -/
def lastCompiler (db : Database) (folder : Path) : Option (String × Standard) :=
  (db.attributed folder).getLast?.map fun c => (c.compiler, .resolve c.sorted.standard)

variable {db db' : Database}

theorem commands_perm (h : db.records.Perm db'.records) : db.commands.Perm db'.commands := by
  rw [commands, commands]
  exact h.filterMap _

theorem attributed_perm (h : db.records.Perm db'.records) (folder : Path) :
    (db.attributed folder).Perm (db'.attributed folder) := by
  rw [attributed, attributed]
  exact (commands_perm h).filter _

/-- How a folder is spelled does not matter for its commands. -/
theorem attributed_congr (db : Database) {p q : Path} (h : p.Same q) :
    db.attributed p = db.attributed q := by
  apply List.filter_congr
  intro c _
  exact isAttributed_congr c.absoluteFile h

/-- How a file is spelled does not matter for its last command. -/
theorem lastFor_congr (db : Database) {p q : Path} (h : p.Same q) :
    db.lastFor p = db.lastFor q := by
  have hfilter : (db.commands.filter fun c => c.absoluteFile.Same p) =
      db.commands.filter fun c => c.absoluteFile.Same q := by
    apply List.filter_congr
    intro c _
    have hiff : c.absoluteFile.Same p ↔ c.absoluteFile.Same q :=
      ⟨fun hp => hp.trans h, fun hq => hq.trans h.symm⟩
    simp only [hiff]
  rw [lastFor, lastFor, hfilter]

theorem fileSet_eq (h : db.records.Perm db'.records) : db.fileSet = db'.fileSet :=
  List.toFinset_eq_of_perm _ _ ((commands_perm h).map _)

theorem malformed_eq (h : db.records.Perm db'.records) : db.malformed = db'.malformed :=
  h.countP_eq _

end Database

/-- **The same commands in another order** give a folder the same sets; its compiler and its
standard are the same when the last commands agree on them. -/
theorem BrowseConfiguration.same_ofCommands {cs ds : List CompileCommand} (target : BuildTarget)
    (h : cs.Perm ds)
    (hlast : (cs.getLast?.map fun c => (c.compiler, Standard.resolve c.sorted.standard)) =
      ds.getLast?.map fun c => (c.compiler, Standard.resolve c.sorted.standard)) :
    (ofCommands cs target).same (ofCommands ds target) = true := by
  have hpaths : (ofCommands cs target).browsePath.sameMembers (ofCommands ds target).browsePath =
      true := by
    rw [browsePath_ofCommands, browsePath_ofCommands]
    exact OrderedSet.sameMembers_ofList (h.flatMap_right _)
  have hargs : (ofCommands cs target).compilerArgs.sameMembers
      (ofCommands ds target).compilerArgs = true := by
    rw [compilerArgs_ofCommands, compilerArgs_ofCommands]
    exact OrderedSet.sameMembers_ofList (h.flatMap_right _)
  have hcompiler : (ofCommands cs target).compilerPath = (ofCommands ds target).compilerPath := by
    have hfst := congrArg (Option.map Prod.fst) hlast
    rw [Option.map_map, Option.map_map] at hfst
    rw [(last_ofCommands cs target).1, (last_ofCommands ds target).1]
    exact hfst
  have hstandard : (ofCommands cs target).standard = (ofCommands ds target).standard := by
    have hsnd := congrArg (Option.map Prod.snd) hlast
    rw [Option.map_map, Option.map_map] at hsnd
    rw [(last_ofCommands cs target).2, (last_ofCommands ds target).2]
    exact hsnd
  simp [same, hpaths, hargs, hcompiler, hstandard]

/-- Reports that agree in all counts but one agree in that one as well, when both account for their
records. -/
theorem Report.eq_of_counted {r r' : Report} (hrecords : r.records = r'.records)
    (hskipped : r.skipped = r'.skipped) (hfiles : r.files = r'.files)
    (hr : r.records = r.skipped + r.files + r.replaced)
    (hr' : r'.records = r'.skipped + r'.files + r'.replaced) : r = r' := by
  obtain ⟨records, skipped, files, replaced⟩ := r
  obtain ⟨records', skipped', files', replaced'⟩ := r'
  simp only at hrecords hskipped hfiles hr hr'
  have hreplaced : replaced = replaced' := by omega
  rw [hrecords, hskipped, hfiles, hreplaced]

namespace Index

/-! ### Indexes from records in another order -/

/-- Two indexes answer all questions alike, the order of the paths and options of a folder left
aside. -/
structure AnswersAlike (a b : Index) : Prop where
  contains : ∀ file, a.contains file = b.contains file
  items : ∀ files, a.items files = b.items files
  hasFolders : a.hasFolders = b.hasFolders
  primaryBrowse : Option.Rel (fun x y => x.same y = true) a.primaryBrowse? b.primaryBrowse?
  folder : ∀ folder, Option.Rel (fun x y => x.same y = true) (a.folder? folder) (b.folder? folder)

/-- Indexes of the same folders are alike as soon as their files and folders are. -/
theorem answersAlike_of {a b : Index} (hpaths : a.folderPaths = b.folderPaths)
    (hfile : ∀ p, a.file? p = b.file? p)
    (hfolder : ∀ p, Option.Rel (fun x y => x.same y = true) (a.folder? p) (b.folder? p)) :
    a.AnswersAlike b where
  contains file := by rw [contains, contains, hfile]
  items files := by simp only [items, hfile]
  hasFolders := by rw [hasFolders, hasFolders, hpaths]
  primaryBrowse := by
    have hprimary : a.primaryFolder? = b.primaryFolder? := by
      rw [primaryFolder?, primaryFolder?, hpaths]
    rw [primaryBrowse?, primaryBrowse?, hprimary]
    cases b.primaryFolder? with
    | none => exact .none
    | some folder => exact hfolder folder
  folder := hfolder

/-- Indexes whose files and folders are alike compare equal. -/
theorem same_of {a b : Index} (hfile : ∀ p, a.file? p = b.file? p)
    (hfolder : ∀ p, Option.Rel (fun x y => x.same y = true) (a.folder? p) (b.folder? p)) :
    a.same b = true := by
  have hfiles : a.files.sameEntries (fun x y => x = y) b.files = true := by
    apply PathMap.sameEntries_of_find?
    intro p
    have hp : a.files.find? p = b.files.find? p := hfile p
    rw [hp]
    cases b.files.find? p with
    | none => exact .none
    | some c => exact .some (decide_eq_true rfl)
  have hfolders : a.folders.sameEntries BrowseConfiguration.same b.folders = true :=
    PathMap.sameEntries_of_find? hfolder
  rw [same, hfiles, hfolders]
  rfl

variable {db db' : Database} (target : BuildTarget)

/-- A file after a rebuild from records in another order, when its last command gives it the
same. -/
theorem file?_permuted (index : Index) (hperm : db.records.Perm db'.records)
    (hfiles : ∀ command ∈ db.commands,
      (db.lastFor command.absoluteFile).map (FileConfiguration.ofCommand · target) =
        (db'.lastFor command.absoluteFile).map (FileConfiguration.ofCommand · target))
    (p : Path) :
    (index.rebuild db target).index.file? p = (index.rebuild db' target).index.file? p := by
  rw [file?_rebuild, file?_rebuild]
  by_cases hknown : ∃ command ∈ db.commands, command.absoluteFile.Same p
  · obtain ⟨command, hcommand, hsame⟩ := hknown
    rw [← db.lastFor_congr hsame, ← db'.lastFor_congr hsame]
    exact hfiles command hcommand
  · -- A file without a command in one database has none in the other.
    have hnone : db.lastFor p = none := by
      rw [Database.lastFor_eq_none_iff]
      intro command hcommand hsame
      exact hknown ⟨command, hcommand, hsame⟩
    have hnone' : db'.lastFor p = none := by
      rw [Database.lastFor_eq_none_iff]
      intro command hcommand hsame
      exact hknown ⟨command, (Database.commands_perm hperm).mem_iff.2 hcommand, hsame⟩
    rw [hnone, hnone']

/-- A folder after a rebuild from records in another order, when the last command that counts
towards it gives it the same. -/
theorem folder?_permuted (folders : List Path) (hperm : db.records.Perm db'.records)
    (hfolders : ∀ folder ∈ folders, db.lastCompiler folder = db'.lastCompiler folder)
    (p : Path) :
    Option.Rel (fun x y => x.same y = true)
      (((ofFolders folders).rebuild db target).index.folder? p)
      (((ofFolders folders).rebuild db' target).index.folder? p) := by
  rw [folder?_rebuild, folder?_rebuild, folder?_ofFolders]
  by_cases hregistered : ∃ registered ∈ folders, registered.Same p
  · obtain ⟨registered, hmem, hsame⟩ := hregistered
    rw [if_pos ⟨registered, hmem, hsame⟩, ← db.attributed_congr hsame,
      ← db'.attributed_congr hsame]
    exact .some (BrowseConfiguration.same_ofCommands target
      (Database.attributed_perm hperm registered) (hfolders registered hmem))
  · rw [if_neg hregistered]
    exact .none

/-- A rebuild counts the same in whatever order the records are. -/
theorem report_permuted (index : Index) (hperm : db.records.Perm db'.records) :
    (index.rebuild db target).report = (index.rebuild db' target).report := by
  obtain ⟨hrecords, hcounted⟩ := report_rebuild index db target
  obtain ⟨hrecords', hcounted'⟩ := report_rebuild index db' target
  have hskipped : (index.rebuild db target).report.skipped =
      (index.rebuild db' target).report.skipped := by
    rw [skipped_rebuild, skipped_rebuild, Database.malformed_eq hperm]
  have hfiles : (index.rebuild db target).index.fileCount =
      (index.rebuild db' target).index.fileCount := by
    rw [fileCount_rebuild, fileCount_rebuild, Database.fileSet_eq hperm]
  apply Report.eq_of_counted
  · rw [hrecords, hrecords', hperm.length_eq]
  · exact hskipped
  · exact hfiles
  · exact hrecords.trans hcounted.symm
  · exact hrecords'.trans hcounted'.symm

/-- **Records in another order.**  Two databases have the same records in different orders.  The
last command of every file gives the file the same configuration in both, and the last command that
counts towards a registered folder has the same compiler and the same standard.  Then new indexes
rebuilt from them compare equal, the rebuilds count the same, and all questions are answered
alike. -/
theorem rebuild_permuted (folders : List Path) (hperm : db.records.Perm db'.records)
    (hfiles : ∀ command ∈ db.commands,
      (db.lastFor command.absoluteFile).map (FileConfiguration.ofCommand · target) =
        (db'.lastFor command.absoluteFile).map (FileConfiguration.ofCommand · target))
    (hfolders : ∀ folder ∈ folders, db.lastCompiler folder = db'.lastCompiler folder) :
    let a := (ofFolders folders).rebuild db target
    let b := (ofFolders folders).rebuild db' target
    a.index.same b.index = true ∧ a.report = b.report ∧ a.index.AnswersAlike b.index := by
  intro a b
  have hfile := file?_permuted target (ofFolders folders) hperm hfiles
  have hfolder := folder?_permuted target folders hperm hfolders
  have hpaths : a.index.folderPaths = b.index.folderPaths := by
    rw [folderPaths_rebuild, folderPaths_rebuild]
  exact ⟨same_of hfile hfolder, report_permuted target (ofFolders folders) hperm,
    answersAlike_of hpaths hfile hfolder⟩

/-- A file compiled twice, and another file and a malformed record that change places around the two
commands.  The include paths come in another order. -/
theorem rebuild_permuted_other_file_first :
    let one : CompileCommand := ⟨⟨"/p"⟩, ⟨"a.c"⟩, ["sh", "gcc", "-DONE", "-I/x", "-g"]⟩
    let two : CompileCommand := ⟨⟨"/p"⟩, ⟨"/p//a.c"⟩, ["sh", "cc", "-DTWO", "-std=c11"]⟩
    let other : CompileCommand := ⟨⟨"/p"⟩, ⟨"b.c"⟩, ["sh", "gcc", "-I/y", "-O2"]⟩
    let db : Database := ⟨[.ok one, .error .unsplittableCommand, .ok other, .ok two]⟩
    let db' : Database := ⟨[.ok other, .ok one, .ok two, .error .unsplittableCommand]⟩
    let target : BuildTarget := ⟨"x64", "linux"⟩
    let a := (ofFolders [⟨"/p"⟩]).rebuild db target
    let b := (ofFolders [⟨"/p"⟩]).rebuild db' target
    (db.records.Perm db'.records ∧
      (∀ command ∈ db.commands,
        (db.lastFor command.absoluteFile).map (FileConfiguration.ofCommand · target) =
          (db'.lastFor command.absoluteFile).map (FileConfiguration.ofCommand · target)) ∧
      ∀ folder ∈ [(⟨"/p"⟩ : Path)], db.lastCompiler folder = db'.lastCompiler folder) ∧
      a.index.same b.index = true ∧ a.report = b.report ∧ a.index.AnswersAlike b.index ∧
      a.index.folder? ⟨"/p"⟩ ≠ b.index.folder? ⟨"/p"⟩ := by
  intro one two other db db' target a b
  have hperm : db.records.Perm db'.records := by decide
  have hfiles : ∀ command ∈ db.commands,
      (db.lastFor command.absoluteFile).map (FileConfiguration.ofCommand · target) =
        (db'.lastFor command.absoluteFile).map (FileConfiguration.ofCommand · target) := by
    decide +kernel
  have hfolders : ∀ folder ∈ [(⟨"/p"⟩ : Path)],
      db.lastCompiler folder = db'.lastCompiler folder := by
    decide +kernel
  have horder : a.index.folder? ⟨"/p"⟩ ≠ b.index.folder? ⟨"/p"⟩ := by decide +kernel
  obtain ⟨hsame, hreport, halike⟩ := rebuild_permuted target [⟨"/p"⟩] hperm hfiles hfolders
  exact ⟨⟨hperm, hfiles, hfolders⟩, hsame, hreport, halike, horder⟩

end Index

end CompileIndex

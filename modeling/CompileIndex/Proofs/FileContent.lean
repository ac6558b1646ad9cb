import CompileIndex.Proofs.History
import CompileIndex.Proofs.Resolving
import CompileIndex.Proofs.Spelling

/-!
# The content of the files

Every command of a database sets the configuration of its file.  What a file has in the end is
said without the loop: the configuration of the last command whose file it is, whole and with
nothing of earlier ones, or nothing when there is no such command.  Whether a command's file is
the one asked for is a matter of components, so all spellings of a file share one slot.

* `Database.lastFor` — the last command of a file;
* `file?_rebuild` — a file after a rebuild;
* `file_content_exact` — which files are known, with what, and in how many slots.
-/

namespace CompileIndex

/-- The last command of a database whose file is the path `p`. -/
def Database.lastFor (db : Database) (p : Path) : Option CompileCommand :=
  (db.commands.filter fun c => c.absoluteFile.Same p).getLast?

/-- The last command of a file is a command of that file behind which no other one stands. -/
theorem Database.lastFor_eq_some_iff (db : Database) (p : Path) (c : CompileCommand) :
    db.lastFor p = some c ↔
      ∃ earlier later, db.commands = earlier ++ c :: later ∧ c.absoluteFile.Same p ∧
        ∀ d ∈ later, ¬ d.absoluteFile.Same p := by
  unfold lastFor
  rw [List.getLast?_filter, List.find?_eq_some_iff_append]
  simp only [decide_eq_true_eq, Bool.not_eq_true', decide_eq_false_iff_not]
  constructor
  · rintro ⟨hsame, front, back, hsplit, hfront⟩
    refine ⟨back.reverse, front.reverse, ?_, hsame, ?_⟩
    · rw [← List.reverse_reverse db.commands, hsplit, List.reverse_append, List.reverse_cons,
        List.append_assoc, List.singleton_append]
    · intro d hd
      exact hfront d (List.mem_reverse.1 hd)
  · rintro ⟨earlier, later, hsplit, hsame, hlater⟩
    refine ⟨hsame, later.reverse, earlier.reverse, ?_, ?_⟩
    · rw [hsplit, List.reverse_append, List.reverse_cons, List.append_assoc,
        List.singleton_append]
    · intro d hd
      exact hlater d (List.mem_reverse.1 hd)

/-- A file has no last command exactly when it has no command. -/
theorem Database.lastFor_eq_none_iff (db : Database) (p : Path) :
    db.lastFor p = none ↔ ∀ c ∈ db.commands, ¬ c.absoluteFile.Same p := by
  unfold lastFor
  rw [List.getLast?_eq_none_iff, List.filter_eq_nil_iff]
  simp only [decide_eq_true_eq]

namespace Index

/-! ### A file while commands are added -/

/-- One command sets its own file, under all spellings, and no other. -/
theorem file?_addCommand (index : Index) (c : CompileCommand) (target : BuildTarget)
    (p : Path) :
    (index.addCommand c target).file? p =
      if c.absoluteFile.Same p then some (.ofCommand c target) else index.file? p :=
  PathMap.find?_insert index.files c.absoluteFile p (.ofCommand c target)

/-- Several commands set a file as the last of them does that is its command; without one it
keeps what it had. -/
theorem file?_addCommands (index : Index) (cs : List CompileCommand) (target : BuildTarget)
    (p : Path) :
    (index.addCommands cs target).file? p =
      (((cs.filter fun c => c.absoluteFile.Same p).getLast?).map
        (FileConfiguration.ofCommand · target)).or (index.file? p) := by
  induction cs using List.reverseRecOn with
  | nil => rfl
  | append_singleton cs c ih =>
    rw [addCommands_concat, file?_addCommand, ih, List.filter_append, List.filter_cons,
      List.filter_nil]
    by_cases hc : c.absoluteFile.Same p
    · simp [hc]
    · simp [hc]

/-! ### A file after a rebuild -/

/-- **A file after a rebuild** has what its last command gives it, whatever the index knew
before. -/
theorem file?_rebuild (index : Index) (db : Database) (target : BuildTarget) (p : Path) :
    (index.rebuild db target).index.file? p =
      (db.lastFor p).map (FileConfiguration.ofCommand · target) := by
  have hclear : index.clear.file? p = none := rfl
  rw [rebuild_index, file?_addCommands, hclear, Option.or_none]
  rfl

/-- **The content of the files, exactly.**  A command compiles the path that it names, if that is
absolute, and else the one below its directory.  After a rebuild of any index, a file is known
exactly when some command of the database compiles it, and then with the configuration of the last
such command alone; and two commands whose files are spelled differently, but are the same path,
share the one slot of that path. -/
theorem file_content_exact (index : Index) (db : Database) (target : BuildTarget) (p : Path) :
    let after := (index.rebuild db target).index
    (∀ command ∈ db.commands, command.directory.ResolvesTo command.file command.absoluteFile) ∧
    (∀ c, after.file? p = some c ↔
      ∃ earlier command later, db.commands = earlier ++ command :: later ∧
        command.absoluteFile.Same p ∧ (∀ other ∈ later, ¬ other.absoluteFile.Same p) ∧
        c = .ofCommand command target) ∧
    (after.file? p = none ↔ ∀ command ∈ db.commands, ¬ command.absoluteFile.Same p) ∧
    (after.contains p = true ↔ ∃ command ∈ db.commands, command.absoluteFile.Same p) ∧
    ∀ a ∈ db.commands, ∀ b ∈ db.commands,
      a.absoluteFile.Respelled p → b.absoluteFile.Respelled p →
        after.files.keys.countP (fun key => key.Same p) = 1 ∧
          after.file? a.absoluteFile = after.file? p ∧
          after.file? b.absoluteFile = after.file? p := by
  intro after
  have hfile : after.file? p = (db.lastFor p).map (FileConfiguration.ofCommand · target) :=
    file?_rebuild index db target p
  have hnone : after.file? p = none ↔ ∀ command ∈ db.commands, ¬ command.absoluteFile.Same p := by
    rw [hfile, Option.map_eq_none_iff, Database.lastFor_eq_none_iff]
  have hcontains : after.contains p = true ↔
      ∃ command ∈ db.commands, command.absoluteFile.Same p := by
    rw [contains, ← Option.ne_none_iff_isSome, Ne, hnone]
    simp only [not_forall, not_not, exists_prop]
  refine ⟨?_, ?_, hnone, hcontains, ?_⟩
  · intro command _
    exact command.directory.resolvesTo_resolve command.file
  · intro c
    rw [hfile, Option.map_eq_some_iff]
    constructor
    · rintro ⟨command, hlast, hc⟩
      obtain ⟨earlier, later, hsplit, hsame, hlater⟩ :=
        (Database.lastFor_eq_some_iff db p command).1 hlast
      exact ⟨earlier, command, later, hsplit, hsame, hlater, hc.symm⟩
    · rintro ⟨earlier, command, later, hsplit, hsame, hlater, hc⟩
      exact ⟨command, (Database.lastFor_eq_some_iff db p command).2
        ⟨earlier, later, hsplit, hsame, hlater⟩, hc.symm⟩
  · intro a ha b hb hap hbp
    rw [← Path.same_iff_respelled] at hap hbp
    refine ⟨?_, PathMap.find?_congr after.files hap, PathMap.find?_congr after.files hbp⟩
    have hfound : (after.files.find? p).isSome = true := hcontains.2 ⟨a, ha, hap⟩
    rw [PathMap.countP_keys, if_pos hfound]

/-- A file compiled under two spellings, with a malformed record between, and asked for under a
third one. -/
theorem file_content_exact_two_spellings :
    let first : CompileCommand := ⟨⟨"/p"⟩, ⟨"a.c"⟩, ["sh", "gcc", "-DONE"]⟩
    let second : CompileCommand := ⟨⟨"/q"⟩, ⟨"/p//a.c"⟩, ["sh", "gcc", "-DTWO"]⟩
    let db : Database := ⟨[.ok first, .error .unsplittableCommand, .ok second]⟩
    let after := ((ofFolders [⟨"/p"⟩]).rebuild db ⟨"x64", "linux"⟩).index
    after.file? ⟨"/p/./a.c"⟩ = some (.ofCommand second ⟨"x64", "linux"⟩) ∧
      after.files.keys.countP (fun key => key.Same ⟨"/p/./a.c"⟩) = 1 := by
  intro first second db after
  obtain ⟨_, hfile, _, _, hslot⟩ := file_content_exact (ofFolders [⟨"/p"⟩]) db ⟨"x64", "linux"⟩
    ⟨"/p/./a.c"⟩
  have hfirst : first.absoluteFile.Same ⟨"/p/./a.c"⟩ := by decide
  have hsecond : second.absoluteFile.Same ⟨"/p/./a.c"⟩ := by decide
  refine ⟨(hfile _).2 ⟨[first], second, [], rfl, hsecond, ?_, rfl⟩, ?_⟩
  · intro other hother
    exact absurd hother List.not_mem_nil
  · exact (hslot first (by decide) second (by decide) ((Path.same_iff_respelled _ _).1 hfirst)
      ((Path.same_iff_respelled _ _).1 hsecond)).1

end Index

end CompileIndex

import CompileIndex.Proofs.Rebuild
import CompileIndex.Proofs.Resolving

/-!
# Absolute paths throughout

The directory of a command is all that is asked to be absolute, and it may be so in any of three
ways: from the root, from a drive, or as a share on another machine.  All that a command brings is
resolved against its directory, so every path that a command brings is absolute.  An index has no
paths but those that its commands brought, in whatever place it keeps them.

* `CompileCommand.Brings`, `Index.Mentions` — the paths of a command and those of an index;
* `Index.mentions_addCommands`, `Index.mentions_rebuild` — where the paths of an index come from;
* `paths_absolute` — the paths of an index after a rebuild.
-/

namespace CompileIndex

/-! ### The paths of a command -/

namespace SortedArguments

/-- One more argument brings at most one include path, resolved against the directory. -/
theorem mem_includePaths_add (o : OptionSyntax) (directory : Path) (done : SortedArguments)
    (argument text : String) (h : text ∈ (done.add o directory argument).includePaths) :
    text ∈ done.includePaths ∨ ∃ p, text = (directory.resolve p).text := by
  unfold add at h
  split at h
  case h_2 path _ =>
    rcases List.mem_append.1 h with hold | hnew
    · exact Or.inl hold
    · exact Or.inr ⟨_, List.mem_singleton.1 hnew⟩
  case h_4 =>
    split at h
    · exact Or.inl h
    · exact Or.inl h
  all_goals exact Or.inl h

/-- All include paths of some arguments are resolved against the directory. -/
theorem mem_includePaths_foldl (o : OptionSyntax) (directory : Path) (arguments : List String)
    (done : SortedArguments) (text : String)
    (h : text ∈ (arguments.foldl (add o directory) done).includePaths) :
    text ∈ done.includePaths ∨ ∃ p, text = (directory.resolve p).text := by
  induction arguments generalizing done with
  | nil => exact Or.inl h
  | cons argument rest ih =>
    rcases ih (done.add o directory argument) h with hdone | hnew
    · exact mem_includePaths_add o directory done argument text hdone
    · exact Or.inr hnew

end SortedArguments

namespace CompileCommand

/-- The paths that a command brings into an index. -/
inductive Brings (c : CompileCommand) : Path → Prop where
  | file : Brings c c.absoluteFile
  | included {text : String} : text ∈ c.sorted.includePaths → Brings c ⟨text⟩

/-- Every path of a command is resolved against its directory. -/
theorem Brings.resolved {c : CompileCommand} {p : Path} (h : c.Brings p) :
    ∃ q, p = c.directory.resolve q := by
  cases h with
  | file => exact ⟨c.file, rfl⟩
  | @included text htext =>
    rcases SortedArguments.mem_includePaths_foldl _ _ _ _ text htext with hnone | ⟨q, hq⟩
    · exact absurd hnone List.not_mem_nil
    · exact ⟨q, congrArg Path.mk hq⟩

end CompileCommand

/-! ### The paths of an index -/

namespace Index

/-- The paths that an index holds: the keys of its files, the include paths of the files, and the
include paths of the folders. -/
inductive Mentions (index : Index) : Path → Prop where
  | file {p : Path} : p ∈ index.files.keys → Mentions index p
  | included {e : Path × FileConfiguration} {text : String} :
    e ∈ index.files.entries → text ∈ e.2.includePath → Mentions index ⟨text⟩
  | browsed {e : Path × BrowseConfiguration} {text : String} :
    e ∈ index.folders.entries → text ∈ e.2.browsePath.toList → Mentions index ⟨text⟩

/-- **One command** adds no path that it does not bring. -/
theorem mentions_addCommand {index : Index} {c : CompileCommand} {target : BuildTarget} {p : Path}
    (h : (index.addCommand c target).Mentions p) : index.Mentions p ∨ c.Brings p := by
  cases h with
  | file hkey =>
    obtain ⟨e, he, rfl⟩ := List.mem_map.1 hkey
    rcases PathMap.fst_of_mem_insertIn he with ⟨d, hd, hsame⟩ | hnew
    · exact Or.inl (hsame ▸ .file (List.mem_map_of_mem hd))
    · exact Or.inr (hnew ▸ .file)
  | @included e text he htext =>
    rcases PathMap.snd_of_mem_insertIn he with ⟨d, hd, hsame⟩ | hnew
    · exact Or.inl (.included hd (hsame ▸ htext))
    · rw [hnew] at htext
      exact Or.inr (.included htext)
  | @browsed e text he htext =>
    obtain ⟨d, hd, rfl⟩ := List.mem_map.1 he
    simp only at htext
    split at htext
    · -- The folder is given the include paths of the command on top of its own.
      rcases OrderedSet.mem_insertAll.1 htext with hold | hnew
      · exact Or.inl (.browsed hd hold)
      · exact Or.inr (.included hnew)
    · exact Or.inl (.browsed hd htext)

/-- **All commands.**  Every path of an index was there before, or some command brought it. -/
theorem mentions_addCommands {index : Index} {cs : List CompileCommand} {target : BuildTarget}
    {p : Path} (h : (index.addCommands cs target).Mentions p) :
    index.Mentions p ∨ ∃ c ∈ cs, c.Brings p := by
  induction cs generalizing index with
  | nil => exact Or.inl h
  | cons c rest ih =>
    rw [addCommands_cons] at h
    rcases ih h with hfirst | ⟨d, hd, hbrings⟩
    · rcases mentions_addCommand hfirst with hold | hbrings
      · exact Or.inl hold
      · exact Or.inr ⟨c, List.mem_cons_self, hbrings⟩
    · exact Or.inr ⟨d, List.mem_cons_of_mem c hd, hbrings⟩

/-- A cleared index holds no paths but its folders. -/
theorem not_mentions_clear (index : Index) (p : Path) : ¬ index.clear.Mentions p := by
  intro h
  cases h with
  | file hkey => exact absurd hkey List.not_mem_nil
  | included he _ => exact absurd he List.not_mem_nil
  | browsed he htext =>
    obtain ⟨d, _, rfl⟩ := List.mem_map.1 he
    exact absurd htext List.not_mem_nil

/-- **After a rebuild** every path comes from a command of the database. -/
theorem mentions_rebuild {index : Index} {db : Database} {target : BuildTarget} {p : Path}
    (h : (index.rebuild db target).index.Mentions p) : ∃ c ∈ db.commands, c.Brings p := by
  rw [rebuild_index] at h
  exact (mentions_addCommands h).resolve_left (not_mentions_clear index p)

/-- **Every path of an index is absolute.**  A new index of some folders, rebuilt from a database
whose commands all have absolute directories, holds absolute paths only, wherever it holds them and
whatever the commands say of their files and include paths; and so none of them depends on what it
is resolved against. -/
theorem paths_absolute (folders : List Path) (db : Database) (target : BuildTarget)
    (hdirectories : ∀ c ∈ db.commands, c.directory.NeedsNoBase) (p : Path)
    (hp : ((ofFolders folders).rebuild db target).index.Mentions p) :
    p.NeedsNoBase ∧ ∀ base : Path, base.resolve p = p := by
  obtain ⟨c, hc, hbrings⟩ := mentions_rebuild hp
  obtain ⟨q, rfl⟩ := hbrings.resolved
  have habsolute := Path.needsNoBase_resolve (hdirectories c hc) q
  exact ⟨habsolute, Path.resolve_of_needsNoBase habsolute⟩

/-- A file named by its drive alone and an include option without a path, both below a directory on
a drive, and a file without a name below a share. -/
theorem paths_absolute_drive_and_share :
    let db : Database := ⟨[.ok ⟨⟨"C:\\p"⟩, ⟨"D:a.c"⟩, ["sh", "gcc", "-I"]⟩,
      .ok ⟨⟨"\\\\host\\q"⟩, ⟨""⟩, ["sh", "cl", "/Iinc"]⟩]⟩
    let index := ((ofFolders [⟨"/p"⟩]).rebuild db ⟨"x64", "linux"⟩).index
    (∀ c ∈ db.commands, c.directory.NeedsNoBase) ∧
      (index.Mentions ⟨"C:\\p/D:a.c"⟩ ∧ (⟨"C:\\p/D:a.c"⟩ : Path).NeedsNoBase) ∧
      (index.Mentions ⟨"C:\\p/"⟩ ∧ (⟨"/q"⟩ : Path).resolve ⟨"C:\\p/"⟩ = ⟨"C:\\p/"⟩) ∧
      index.Mentions ⟨"\\\\host\\q/"⟩ ∧ (⟨"\\\\host\\q/"⟩ : Path).NeedsNoBase := by
  intro db index
  have hdirectories : ∀ c ∈ db.commands, c.directory.NeedsNoBase := by decide
  have habsolute := paths_absolute [⟨"/p"⟩] db ⟨"x64", "linux"⟩ hdirectories
  have hfile : index.Mentions ⟨"C:\\p/D:a.c"⟩ := .file (by decide)
  have hshare : index.Mentions ⟨"\\\\host\\q/"⟩ := .file (by decide)
  have hbare : index.Mentions ⟨"C:\\p/"⟩ :=
    .included (e := (⟨"C:\\p/D:a.c"⟩, .ofCommand ⟨⟨"C:\\p"⟩, ⟨"D:a.c"⟩, ["sh", "gcc", "-I"]⟩
      ⟨"x64", "linux"⟩)) (by decide) (by decide)
  exact ⟨hdirectories, ⟨hfile, (habsolute _ hfile).1⟩, ⟨hbare, (habsolute _ hbare).2 ⟨"/q"⟩⟩,
    hshare, (habsolute _ hshare).1⟩

end Index

end CompileIndex

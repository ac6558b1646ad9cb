import CompileIndex.Proofs.QueryAgreement

/-!
# Questions about many files

Asked about many files at once, an index leaves out those that it does not know, and says no more
about them.  The program names them: it compares two lengths, and goes through the files once more
when they differ.  So one list of files is gone through twice, with two different look-ups, and it
is no matter of course that what one pass leaves out is what the other one picks up.

`Index.Accounts` puts the two passes side by side, one file after the other: each position of the
request, whatever stands at the others, goes to the items or to the missing files.

* `Index.Accounts`, `Index.accounts_items` — every position is accounted for;
* `Index.Accounts.unique`, `Index.Accounts.length_add` — there is one way to do it, and nothing is
  lost;
* `CommandLine.Query.complaints_files` — the comparison of lengths suppresses nothing;
* `CommandLine.Program.batch_accounted` — what an index knows, and what the program prints.
-/

namespace CompileIndex

open CommandLine

namespace Index

/-- Those of some files that an index does not know, as they were asked for. -/
def missing (index : Index) (files : List Path) : List Path :=
  files.filter fun p => !index.contains p

/-- A request gone through once: a known file gives an item with the file as it was asked for, and
any other file is missing. -/
inductive Accounts (index : Index) :
    List Path → List FileConfigurationItem → List Path → Prop where
  | nil : index.Accounts [] [] []
  | known {p : Path} {c : FileConfiguration} {files : List Path}
      {items : List FileConfigurationItem} {missing : List Path} :
    index.contains p = true → index.file? p = some c → index.Accounts files items missing →
    index.Accounts (p :: files) (⟨p, c⟩ :: items) missing
  | unknown {p : Path} {files : List Path} {items : List FileConfigurationItem}
      {missing : List Path} :
    index.contains p = false → index.Accounts files items missing →
    index.Accounts (p :: files) items (p :: missing)

variable {index : Index} {files : List Path} {items : List FileConfigurationItem}
  {missing : List Path}

theorem items_cons_known {p : Path} {c : FileConfiguration} (h : index.file? p = some c)
    (files : List Path) : index.items (p :: files) = ⟨p, c⟩ :: index.items files := by
  simp [Index.items, h]

theorem items_cons_unknown {p : Path} (h : index.contains p = false) (files : List Path) :
    index.items (p :: files) = index.items files := by
  have hnone : index.file? p = none := by simpa [contains] using h
  simp [Index.items, hnone]

/-- **Every position of a request** goes to the items or to the missing files. -/
theorem accounts_items (index : Index) (files : List Path) :
    index.Accounts files (index.items files) (index.missing files) := by
  induction files with
  | nil => exact .nil
  | cons p files ih =>
    cases hknown : index.contains p with
    | true =>
      obtain ⟨c, hc⟩ := Option.isSome_iff_exists.1 hknown
      have hmissing : index.missing (p :: files) = index.missing files := by
        simp [Index.missing, hknown]
      rw [items_cons_known hc, hmissing]
      exact .known hknown hc ih
    | false =>
      have hmissing : index.missing (p :: files) = p :: index.missing files := by
        simp [Index.missing, hknown]
      rw [items_cons_unknown hknown, hmissing]
      exact .unknown hknown ih

/-- **There is one way to account for a request.** -/
theorem Accounts.unique (h : index.Accounts files items missing) :
    items = index.items files ∧ missing = index.missing files := by
  induction h with
  | nil => exact ⟨rfl, rfl⟩
  | @known p c files items missing hknown hc _ ih =>
    refine ⟨?_, ?_⟩
    · rw [items_cons_known hc, ih.1]
    · simpa [Index.missing, hknown] using ih.2
  | @unknown p files items missing hknown _ ih =>
    refine ⟨?_, ?_⟩
    · rw [items_cons_unknown hknown, ih.1]
    · simpa [Index.missing, hknown] using ih.2

/-- **Nothing is lost**: items and missing files number the request. -/
theorem Accounts.length_add (h : index.Accounts files items missing) :
    items.length + missing.length = files.length := by
  induction h with
  | nil => rfl
  | known _ _ _ ih => simp only [List.length_cons]; omega
  | unknown _ _ ih => simp only [List.length_cons]; omega

/-- **Two requests put one after the other** are accounted for one after the other. -/
theorem Accounts.append {more : List Path} {moreItems : List FileConfigurationItem}
    {moreMissing : List Path} (h : index.Accounts files items missing)
    (hmore : index.Accounts more moreItems moreMissing) :
    index.Accounts (files ++ more) (items ++ moreItems) (missing ++ moreMissing) := by
  induction h with
  | nil => exact hmore
  | known hknown hc _ ih => exact .known hknown hc ih
  | unknown hknown _ ih => exact .unknown hknown ih

/-- **An index answers request by request**: the items of two requests are those of the one and then
those of the other. -/
theorem items_append (index : Index) (files more : List Path) :
    index.items (files ++ more) = index.items files ++ index.items more :=
  ((index.accounts_items files).append (index.accounts_items more)).unique.1.symm

/-- Absolute paths are missing just when they are missing made absolute. -/
theorem missing_anchored (index : Index) (here : Path) (h : ∀ p ∈ files, p.isRooted = true) :
    index.missing (files.map (Path.anchored here)) =
      (index.missing files).map (Path.anchored here) := by
  rw [Index.missing, List.filter_map, Index.missing]
  congr 1
  apply List.filter_congr
  intro p hp
  have hfile : index.file? (Path.anchored here p) = index.file? p :=
    PathMap.find?_congr index.files (Path.same_anchored here (h p hp))
  simp [contains, hfile]

end Index

/-! ### What the program says -/

/-- **The comparison of lengths suppresses nothing**: all missing files are named, in order. -/
theorem CommandLine.Query.complaints_files (index : Index) (files : List Path) :
    (Query.files files).complaints index =
      (index.missing files).map fun p => "No configuration for " ++ p.text := by
  have hlength := (index.accounts_items files).length_add
  show (if (index.items files).length < files.length then
    (index.missing files).map fun p => "No configuration for " ++ p.text else []) = _
  by_cases hfewer : (index.items files).length < files.length
  · rw [if_pos hfewer]
  · -- as many items as files: then there is nothing to name
    have hnone : index.missing files = [] := List.eq_nil_of_length_eq_zero (by omega)
    rw [if_neg hfewer, hnone, List.map_nil]

namespace CommandLine.Program

/-- The line about a file without a configuration. -/
def missingNotice (p : Path) : Notice :=
  .complaint ("No configuration for " ++ p.text)

section

variable {w : Surroundings} {s : Settings} {db : Database} {files : List Path}

/-- Files of which none is an empty path. -/
theorem not_exists_empty_files (h : ∀ p ∈ files, p.text ≠ "") :
    ¬ ∃ p ∈ (Query.files files).paths, p.text = "" := by
  intro hexists
  obtain ⟨p, hp, hempty⟩ := hexists
  exact h p hp hempty

/-- A query about an empty path fails, whatever else it is about. -/
theorem gives_files_of_empty (hload : w.loaded s = .ok db) (filter : Log.Filter)
    (h : ∃ p ∈ files, p.text = "") :
    w.gives (query s filter (.files files)) =
      .failed (notices filter (w.rebuilt s db).events) .emptyPath :=
  (Surroundings.gives_query hload filter (.files files)).trans (if_pos h)

/-- What a query for files leaves behind when a database is loaded. -/
theorem gives_files (hload : w.loaded s = .ok db) (filter : Log.Filter)
    (h : ∀ p ∈ files, p.text ≠ "") :
    let index := (w.rebuilt s db).index
    let asked := files.map (Path.anchored w.here)
    w.gives (query s filter (.files files)) =
      .success ((Json.array ((index.items asked).map FileConfigurationItem.toJson)).pretty ++ "\n")
        (notices filter (w.rebuilt s db).events ++ (index.missing asked).map missingNotice) := by
  intro index asked
  have hasked : (Query.files files).anchored w.here = .files asked := rfl
  rw [(Surroundings.gives_query hload filter (.files files)).trans
    (if_neg (not_exists_empty_files h)), hasked, Query.complaints_files, List.map_map]
  rfl

/-- What a query for files prints when a database is loaded. -/
theorem printed_files (hload : w.loaded s = .ok db) (filter : Log.Filter)
    (h : ∀ p ∈ files, p.text ≠ "") :
    printed w s filter (.files files) =
      .ok (FileConfigurationItem.listJson
        ((w.rebuilt s db).index.items (files.map (Path.anchored w.here)))) :=
  printed_eq hload filter (not_exists_empty_files h)

end

/-- **Every requested file is accounted for.**  An index has one item for each position of a request
that it knows, in order and as often as it is asked for, with the file as it is spelled there and
with the configuration of that file; a file is known just when one of the keys is the same path, and
then it has the configuration of that key.  The items of two requests are those of the one and then
those of the other.

No command line asks about an empty path, and a query that does so fails and prints nothing.  The
program makes the paths of any other request absolute and prints the items of these paths; all that
is left of them it names, position by position.  Items and names number the request, and the
comparison of lengths finds out exactly whether there is something to name.  For absolute paths
these are the items and the missing files of the request itself, each made absolute, which leaves
tidy paths as they are. -/
theorem batch_accounted :
    (∀ (index : Index) (files : List Path),
      index.Accounts files (index.items files) (index.missing files) ∧
      (∀ more, index.items (files ++ more) = index.items files ++ index.items more) ∧
      ∀ p c, index.file? p = some c ↔ ∃ key, key.Same p ∧ (key, c) ∈ index.files.entries) ∧
    (∀ words i overrides files, Invocation.parse words = .ok i →
      i.action = .query overrides (.files files) → ∀ p ∈ files, p.text ≠ "") ∧
    ∀ (w : Surroundings) (s : Settings) (db : Database) (filter : Log.Filter) (files : List Path),
      w.loaded s = .ok db →
      let index := (w.rebuilt s db).index
      let events := notices filter (w.rebuilt s db).events
      let asked := files.map (Path.anchored w.here)
      ((∃ p ∈ files, p.text = "") →
        w.gives (query s filter (.files files)) = .failed events .emptyPath) ∧
      ((∀ p ∈ files, p.text ≠ "") →
        ∃ items missing, index.Accounts asked items missing ∧
          items.length + missing.length = files.length ∧
          (items.length < files.length ↔ missing ≠ []) ∧
          w.gives (query s filter (.files files)) =
            .success ((Json.array (items.map FileConfigurationItem.toJson)).pretty ++ "\n")
              (events ++ missing.map missingNotice) ∧
          printed w s filter (.files files) = .ok (FileConfigurationItem.listJson items) ∧
          ((∀ p ∈ files, p.isRooted = true) →
            items = (index.items files).map (.anchored w.here) ∧
            missing = (index.missing files).map (Path.anchored w.here) ∧
            ((∀ p ∈ files, p.IsTidy) → asked = files))) := by
  refine ⟨?_, ?_, ?_⟩
  · intro index files
    exact ⟨index.accounts_items files, index.items_append files, index.files.find?_eq_some_iff⟩
  · intro words i overrides files hwords haction
    exact Invocation.paths_of_query hwords haction
  intro w s db filter files hload index events asked
  refine ⟨gives_files_of_empty hload filter, ?_⟩
  intro hpaths
  have haccounts := index.accounts_items asked
  have hnumber : (index.items asked).length + (index.missing asked).length = files.length := by
    rw [haccounts.length_add, List.length_map]
  refine ⟨index.items asked, index.missing asked, haccounts, hnumber, ?_,
    gives_files hload filter hpaths, printed_files hload filter hpaths, ?_⟩
  · rw [← List.length_pos_iff]
    omega
  · intro hrooted
    refine ⟨index.items_anchored w.here hrooted, index.missing_anchored w.here hrooted, ?_⟩
    intro htidy
    have hself : ∀ p ∈ files, Path.anchored w.here p = p := fun p hp =>
      (Path.anchored_eq_self_iff w.here (hrooted p hp)).2 (htidy p hp)
    exact (List.map_congr_left hself).trans (List.map_id' files)

/-- What the database of one file is rebuilt into. -/
theorem index_oneFile {db : Database} (hload : oneFile.loaded .initial = .ok db) :
    (oneFile.rebuilt .initial db).index =
      ((oneFile.loaded .initial).map (oneFile.rebuilt .initial)).toOption.elim default
        Rebuilt.index := by
  rw [hload]
  rfl

/-- One file in three spellings and between them a file that is not known: three items and one
name. -/
theorem batch_accounted_repeated :
    let files : List Path := [⟨"a.c"⟩, ⟨"/p//a.c"⟩, ⟨"b.c"⟩, ⟨"/p/a.c"⟩]
    ∃ db, oneFile.loaded .initial = .ok db ∧
      ∃ items, printed oneFile .initial .errorsOnly (.files files) =
          .ok (FileConfigurationItem.listJson items) ∧
        (items.map fun i => i.file.text) = ["/p/a.c", "/p/a.c", "/p/a.c"] ∧
        (oneFile.gives (query .initial .errorsOnly (.files files))).notices =
          notices .errorsOnly (oneFile.rebuilt .initial db).events ++
            [missingNotice ⟨"/p/b.c"⟩] := by
  intro files
  obtain ⟨db, hload⟩ := oneFile_loaded
  obtain ⟨items, missing, haccounts, _, _, hgives, hprinted, _⟩ :=
    (batch_accounted.2.2 oneFile .initial db .errorsOnly files hload).2 (by decide)
  obtain ⟨rfl, rfl⟩ := haccounts.unique
  refine ⟨db, hload, _, hprinted, ?_, ?_⟩
  · rw [index_oneFile hload]
    decide +kernel
  · have hmissing : (oneFile.rebuilt .initial db).index.missing
        (files.map (Path.anchored oneFile.here)) = [⟨"/p/b.c"⟩] := by
      rw [index_oneFile hload]
      decide +kernel
    rw [hgives, hmissing]
    rfl

/-- **Paths that are not tidy**: neither are the items that are printed those of the paths as they
were asked for, nor are the missing files named as they were.  An empty path is not named at all:
the command line is refused. -/
theorem query_respells_files :
    let files : List Path := [⟨"/p//a.c"⟩, ⟨"/q//b.c"⟩]
    (∃ db value, oneFile.loaded .initial = .ok db ∧
      let index := (oneFile.rebuilt .initial db).index
      printed oneFile .initial .errorsOnly (.files files) = .ok value ∧
      value ≠ FileConfigurationItem.listJson (index.items files) ∧
      (oneFile.gives (query .initial .errorsOnly (.files files))).notices ≠
        notices .errorsOnly (oneFile.rebuilt .initial db).events ++
          (index.missing files).map missingNotice) ∧
      Invocation.parse ["query", "file", ""] = .error .invalidValue := by
  intro files
  obtain ⟨db, hload⟩ := oneFile_loaded
  have hrooted : ∀ p ∈ files, p.isRooted = true := by decide
  have hpaths : ∀ p ∈ files, p.text ≠ "" := by decide
  refine ⟨⟨db, _, hload, printed_files hload .errorsOnly hpaths, ?_, ?_⟩, by decide⟩
  · rw [Index.items_anchored _ _ hrooted, ne_eq, FileConfigurationItem.listJson_anchored,
      index_oneFile hload]
    decide +kernel
  · have hnamed : (oneFile.rebuilt .initial db).index.missing files = [⟨"/q//b.c"⟩] := by
      rw [index_oneFile hload]
      decide +kernel
    have hspelled : Path.anchored oneFile.here ⟨"/q//b.c"⟩ = ⟨"/q/b.c"⟩ := by decide +kernel
    rw [gives_files hload .errorsOnly hpaths, Index.missing_anchored _ _ hrooted, hnamed,
      List.map_singleton, hspelled]
    intro h
    have hsame : [missingNotice ⟨"/q/b.c"⟩] = [missingNotice ⟨"/q//b.c"⟩] :=
      List.append_cancel_left h
    simp [missingNotice] at hsame

end CommandLine.Program

end CompileIndex

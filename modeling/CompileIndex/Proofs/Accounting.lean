import CompileIndex.Proofs.FolderContent
import Mathlib.Data.Finset.Card
import Mathlib.Data.List.Nodup

/-!
# What a rebuild reports

A rebuild reports twice: in its counts, and in its log.  Both are said here without the loop.  A
record that is malformed is skipped; of the others each brings a file that is new, or replaces one,
and two files are the same when their components are.  The log has one event for every record, at
the place of the record, and one more at the end that repeats the counts.

* `PathMap.keySet`, `PathMap.size_eq_card` — the paths of a map, however they are spelled;
* `Database.malformed`, `Database.fileSet` — what the counts count;
* `reasonText`, `recordEvent`, `totalEvent` — the events with their full texts;
* `Progress.run_skipped`, `Progress.run_events` — a run through records;
* `rebuild_accounted` — counts and events of a rebuild of any index.
-/

namespace CompileIndex

/-! ### The keys of a map -/

namespace PathMap

variable {α : Type}

/-- The paths that have values, each as its components. -/
def keySet (m : PathMap α) : Finset (List Component) :=
  (m.keys.map Path.components).toFinset

/-- No two keys are the same path, so a map has as many entries as there are paths with values. -/
theorem size_eq_card (m : PathMap α) : m.size = m.keySet.card := by
  have hnodup : (m.keys.map Path.components).Nodup := List.pairwise_map.2 m.pairwise_keys
  rw [keySet, List.toFinset_card_of_nodup hnodup, List.length_map, keys, List.length_map, size]

/-- Setting a value leaves the keys, or adds one at the end. -/
theorem keys_insert (m : PathMap α) (p : Path) (v : α) :
    (m.insert p v).keys = m.keys ++ if (m.find? p).isSome then [] else [p] := by
  have hentries : ∀ es : List (Path × α),
      (insertIn p v es).map (·.1) =
        es.map (·.1) ++ if (findIn p es).isSome then [] else [p] := by
    intro es
    induction es with
    | nil => rfl
    | cons d rest ih =>
      obtain ⟨k, w⟩ := d
      by_cases hk : k.Same p
      · have hfound : findIn p ((k, w) :: rest) = some w := if_pos hk
        rw [insertIn, if_pos hk, hfound]
        simp
      · have hnext : findIn p ((k, w) :: rest) = findIn p rest := if_neg hk
        rw [insertIn, if_neg hk, hnext, List.map_cons, ih]
        rfl
  exact hentries m.entries

/-- A path has a value exactly when its components are among the keys. -/
theorem mem_keySet (m : PathMap α) (p : Path) :
    p.components ∈ m.keySet ↔ (m.find? p).isSome = true := by
  have hcount := m.countP_keys p
  constructor
  · intro hmem
    obtain ⟨k, hk, hsame⟩ := List.mem_map.1 (List.mem_toFinset.1 hmem)
    have hpos : 0 < m.keys.countP fun k => k.Same p :=
      List.countP_pos_iff.2 ⟨k, hk, decide_eq_true hsame⟩
    by_contra hnone
    rw [hcount, if_neg hnone] at hpos
    omega
  · intro hsome
    rw [if_pos hsome] at hcount
    have hpos : 0 < m.keys.countP fun k => k.Same p := by omega
    obtain ⟨k, hk, hsame⟩ := List.countP_pos_iff.1 hpos
    exact List.mem_toFinset.2 (List.mem_map.2 ⟨k, hk, of_decide_eq_true hsame⟩)

/-- Setting a value adds the path to those that have one. -/
theorem keySet_insert (m : PathMap α) (p : Path) (v : α) :
    (m.insert p v).keySet = m.keySet ∪ {p.components} := by
  by_cases hfound : (m.find? p).isSome = true
  · have hkeys : (m.insert p v).keys = m.keys := by
      rw [keys_insert, if_pos hfound, List.append_nil]
    have hmem : {p.components} ⊆ m.keySet :=
      Finset.singleton_subset_iff.2 ((m.mem_keySet p).2 hfound)
    rw [Finset.union_eq_left.2 hmem]
    simp only [keySet, hkeys]
  · have hkeys : (m.insert p v).keys = m.keys ++ [p] := by
      rw [keys_insert, if_neg hfound]
    simp only [keySet, hkeys, List.map_append, List.toFinset_append]
    rfl

end PathMap

/-! ### What is counted -/

namespace Database

/-- How many records are malformed. -/
def malformed (db : Database) : Nat :=
  db.records.countP fun record => record.toOption.isNone

/-- The files of the commands, each as its components. -/
def fileSet (db : Database) : Finset (List Component) :=
  (db.commands.map fun c => c.absoluteFile.components).toFinset

/-- A file that is compiled twice, under two spellings, is one file. -/
example :
    let first : CompileCommand := ⟨⟨"/p"⟩, ⟨"a.c"⟩, ["sh", "gcc"]⟩
    let second : CompileCommand := ⟨⟨"/q"⟩, ⟨"/p//a.c"⟩, ["sh", "cc"]⟩
    (Database.mk [.ok first, .error .unsplittableCommand, .ok second]).fileSet.card = 1 := by
  decide

end Database

namespace Index

/-- Commands added to an index add their files to those that are known. -/
theorem keySet_addCommands (index : Index) (cs : List CompileCommand) (target : BuildTarget) :
    (index.addCommands cs target).files.keySet =
      index.files.keySet ∪ (cs.map fun c => c.absoluteFile.components).toFinset := by
  induction cs generalizing index with
  | nil =>
    rw [addCommands_nil, List.map_nil, List.toFinset_nil, Finset.union_empty]
  | cons c rest ih =>
    have hone : (index.addCommand c target).files.keySet =
        index.files.keySet ∪ {c.absoluteFile.components} :=
      PathMap.keySet_insert index.files c.absoluteFile (.ofCommand c target)
    rw [addCommands_cons, ih, hone, List.map_cons, List.toFinset_cons, Finset.insert_eq,
      Finset.union_assoc]

/-- **The files known after a rebuild** are those of the commands, whatever was known before. -/
theorem fileCount_rebuild (index : Index) (db : Database) (target : BuildTarget) :
    (index.rebuild db target).index.fileCount = db.fileSet.card := by
  have hnone : index.clear.files.keySet = ∅ := rfl
  have hfiles : (index.rebuild db target).index.files.keySet = db.fileSet := by
    rw [rebuild_index, keySet_addCommands, hnone, Finset.empty_union]
    rfl
  rw [fileCount, PathMap.size_eq_card, hfiles]

/-- A record is skipped when it is malformed. -/
theorem Progress.skipped_step (target : BuildTarget) (p : Progress) (record : Record × Nat) :
    (p.step target record).skipped =
      p.skipped + if record.1.toOption.isNone = true then 1 else 0 := by
  obtain ⟨record, position⟩ := record
  cases record with
  | error reason => rfl
  | ok c => rfl

/-- What a run has skipped: the malformed ones among its records. -/
theorem Progress.run_skipped (target : BuildTarget) (records : List (Record × Nat))
    (p : Progress) :
    (records.foldl (Progress.step target) p).skipped =
      p.skipped + records.countP fun record => record.1.toOption.isNone := by
  induction records generalizing p with
  | nil => rfl
  | cons record rest ih =>
    rw [List.foldl_cons, ih, skipped_step, List.countP_cons]
    omega

theorem skipped_rebuild (index : Index) (db : Database) (target : BuildTarget) :
    (index.rebuild db target).report.skipped = db.malformed := by
  have hrun := Progress.run_skipped target db.records.zipIdx ⟨index.clear, 0, 0, []⟩
  have hfst : db.records.zipIdx.map Prod.fst = db.records := List.zipIdx_map_fst 0 db.records
  have hcount : db.records.zipIdx.countP (fun record => record.1.toOption.isNone) =
      db.malformed := by
    rw [Database.malformed, ← hfst, List.countP_map, hfst]
    rfl
  rw [hcount, Nat.zero_add] at hrun
  exact hrun

/-! ### What is logged -/

/-- The words for a reason: which field is wrong and how, which argument is none, or how many
arguments there are. -/
def reasonText : Malformation → String
  | .notObject found => s!"record is not an object (found {found})"
  | .missingField field => s!"field '{field}' is missing"
  | .wrongType field wanted found => s!"field '{field}' must be {wanted}, found {found}"
  | .nonStringArgument position => s!"element {position} of 'arguments' is not a string"
  | .unsplittableCommand => "'command' could not be split into arguments"
  | .missingCompiler length =>
    s!"argument list has {length} element(s), the compiler is expected at position 1"

theorem message_eq_reasonText (reason : Malformation) : reason.message = reasonText reason := by
  cases reason with
  | notObject found => rfl
  | missingField field => rfl
  | wrongType field wanted found => rfl
  | nonStringArgument position => rfl
  | unsplittableCommand => rfl
  | missingCompiler length => rfl

/-- The event of a record that stands at a position of its database: a warning with the position
and the reason, or the file with its standard and its mode. -/
def recordEvent (target : BuildTarget) : Record × Nat → Log.Event
  | (.error reason, position) =>
    ⟨.warn, .index, "[index] skipping record " ++ toString position ++ ": " ++ reasonText reason⟩
  | (.ok c, _) =>
    let configuration := FileConfiguration.ofCommand c target
    ⟨.debug, .index, "[index] classified: " ++ c.absoluteFile.text ++ " ("
      ++ configuration.standard.text ++ ", " ++ configuration.mode.text ++ ")"⟩

/-- The event behind those of the records. -/
def totalEvent (r : Report) : Log.Event :=
  ⟨.info, .index, "[index] rebuilt: " ++ toString r.files ++ " files from "
    ++ toString r.records ++ " records (" ++ toString r.skipped ++ " skipped)"⟩

theorem skippedEvent_eq (target : BuildTarget) (position : Nat) (reason : Malformation) :
    skippedEvent position reason = recordEvent target (.error reason, position) := by
  have hlead : "[" ++ "index" ++ "] " ++ "skipping record " = "[index] skipping record " := by
    decide
  rw [recordEvent, ← hlead, ← message_eq_reasonText]
  simp only [skippedEvent, Log.Event.of, Log.Origin.component, String.append_assoc]

theorem classifiedEvent_eq (target : BuildTarget) (position : Nat) (c : CompileCommand) :
    classifiedEvent c.absoluteFile (.ofCommand c target) =
      recordEvent target (.ok c, position) := by
  have hlead : "[" ++ "index" ++ "] " ++ "classified: " = "[index] classified: " := by decide
  rw [recordEvent, ← hlead]
  simp only [classifiedEvent, Log.Event.of, Log.Origin.component, String.append_assoc]

theorem rebuiltEvent_eq (r : Report) : rebuiltEvent r = totalEvent r := by
  have hlead : "[" ++ "index" ++ "] " ++ "rebuilt: " = "[index] rebuilt: " := by decide
  rw [totalEvent, ← hlead]
  simp only [rebuiltEvent, Log.Event.of, Log.Origin.component, String.append_assoc]

/-- A record is logged once, whether it is a command or not. -/
theorem Progress.events_step (target : BuildTarget) (p : Progress) (record : Record × Nat) :
    (p.step target record).events = recordEvent target record :: p.events := by
  obtain ⟨record, position⟩ := record
  cases record with
  | error reason => rw [step_malformed, ← skippedEvent_eq]
  | ok c => rw [step_command, ← classifiedEvent_eq]

/-- **A run logs its records**, one behind the other.  The last one stands in front. -/
theorem Progress.run_events (target : BuildTarget) (records : List (Record × Nat))
    (p : Progress) :
    (records.foldl (Progress.step target) p).events =
      (records.map (recordEvent target)).reverse ++ p.events := by
  induction records generalizing p with
  | nil => rfl
  | cons record rest ih =>
    rw [List.foldl_cons, ih, events_step, List.map_cons, List.reverse_cons, List.append_assoc,
      List.singleton_append]

theorem events_rebuild (index : Index) (db : Database) (target : BuildTarget) :
    (index.rebuild db target).events =
      db.records.zipIdx.map (recordEvent target) ++
        [totalEvent (index.rebuild db target).report] := by
  have hrun := Progress.run_events target db.records.zipIdx ⟨index.clear, 0, 0, []⟩
  have hevents : (index.clear.fill db target).events.reverse =
      db.records.zipIdx.map (recordEvent target) := by
    rw [fill, hrun, List.append_nil, List.reverse_reverse]
  rw [← rebuiltEvent_eq, ← hevents]
  rfl

/-! ### The account of a rebuild -/

/-- **A rebuild accounts for every record.**  Whatever an index has been through, a rebuild
reports as many records as the database has, and every one of them as skipped, as a file or as a
replacement.  It skips the malformed records, and it counts the files that are different paths;
those are the files known afterwards.  Its log has one event for every record, in the order of the
database, which for a malformed one gives its place in the whole database and what is wrong with
it, and then one event with the counts of the report. -/
theorem rebuild_accounted (index : Index) (db : Database) (target : BuildTarget) :
    let rebuilt := index.rebuild db target
    let report := rebuilt.report
    report.records = db.records.length ∧
      report.records = report.skipped + report.files + report.replaced ∧
      report.skipped = db.malformed ∧
      report.files = db.fileSet.card ∧
      report.files = rebuilt.index.fileCount ∧
      rebuilt.events = db.records.zipIdx.map (recordEvent target) ++ [totalEvent report] := by
  intro rebuilt report
  obtain ⟨hrecords, hcounted⟩ := report_rebuild index db target
  have hfiles : report.files = rebuilt.index.fileCount := rfl
  refine ⟨hrecords, ?_, skipped_rebuild index db target, ?_, hfiles, ?_⟩
  · exact hrecords.trans hcounted.symm
  · rw [hfiles]
    exact fileCount_rebuild index db target
  · exact events_rebuild index db target

end Index

end CompileIndex

import CompileIndex.Proofs.AbsolutePaths
import CompileIndex.Proofs.Precedence
import CompileIndex.Proofs.TomlDocument
import CompileIndex.Proofs.WrittenFiles

/-!
# Saved settings, loaded again

The text that settings are saved as is a document with the entries of the settings, in whatever order
the levels of the parts are written.  Loaded without variables in the environment, the document is
the settings that were saved.

There is one exception: a number of milliseconds beyond the signed numbers of 64 bits is written all
the same, and makes a text that is no document, so that the settings are lost.

* `Settings.document` — the table that saved settings are;
* `Settings.says_toToml`, `Settings.parse_toToml` — the text of the settings, read back;
* `Settings.ofLayers_document` — the table read as settings;
* `Settings.saved_loads` — saving and loading.
-/

namespace CompileIndex.Settings

open Toml

/-! ### The document -/

/-- The entries in front of the sections. -/
def rootEntries (s : Settings) : List (String × Value) :=
  ("version", .integer (Int64.ofInt s.version.toNat)) ::
    (s.workspaceRoot.map fun root => ("workspace_root", Value.string root.text)).toList

/-- The sections without tables inside them. -/
def flatSections (s : Settings) : List (String × List (String × Value)) :=
  [("workspace", [("folders", .array ((s.folders.map Path.text).map .string))]),
    ("database", [("path", .string s.database.text)]),
    ("target", [("architecture", .string s.target.architecture),
      ("platform", .string s.target.platform)]),
    ("watch", [("debounce_ms", .integer (Int64.ofInt s.debounce.toNat))])]

/-- The section of the log without the levels of the parts. -/
def logSection (s : Settings) : String × List (String × Value) :=
  ("logging", [("default", .string s.logLevel)])

/-- The levels of the parts as entries. -/
def moduleEntries (s : Settings) : List (String × Value) :=
  s.logModules.map fun m => (m.1, .string m.2)

/-- The table that saved settings are. -/
def document (s : Settings) : List (String × Value) :=
  s.rootEntries ++ (s.flatSections.map fun t => (t.1, .table t.2)) ++
    [("logging", .table [("default", .string s.logLevel), ("modules", .table s.moduleEntries)])]

/-- What the lines of saved settings say, where the number of milliseconds is `debounce`. -/
def statementsOf (s : Settings) (debounce : Value) : List Statement :=
  statements s.rootEntries ++
    tableLines ("workspace", [("folders", .array ((s.folders.map Path.text).map .string))]) ++
    tableLines ("database", [("path", .string s.database.text)]) ++
    tableLines ("target", [("architecture", .string s.target.architecture),
      ("platform", .string s.target.platform)]) ++
    tableLines ("watch", [("debounce_ms", debounce)]) ++
    tableLines ("logging", [("default", .string s.logLevel)]) ++
    .header ["logging", "modules"] :: statements s.moduleEntries

/-! ### The text -/

theorem says_line {line : List Char} {k : Nat} {found : Option (List Statement)}
    (h : Says line k found) : Says [line].flatten k found := by
  rw [List.flatten_singleton]
  exact h

theorem says_lines {first second : List Char} {j k : Nat} {f g : Option (List Statement)}
    (hfirst : Says first j f) (hsecond : Says second k g) :
    Says [first, second].flatten (j + k) (f.bind fun statements => g.map (statements ++ ·)) := by
  have hboth := hfirst.append (says_line hsecond)
  exact hboth

/-- The lines of a table, with a blank line and a header in front. -/
theorem says_writeTable (key : List String)
    (hkey : key ≠ [] ∧ (∀ part ∈ key, Bare part) ∧ key.length ≤ keyLimit)
    {lines : List (List Char)} {k : Nat} {found : Option (List Statement)}
    (h : Says lines.flatten k found) :
    Says (writeTable key lines) (1 + 1 + k) (found.map (.header key :: ·)) := by
  have hall := (says_blank.append (says_header hkey.1 hkey.2.1 hkey.2.2)).append h
  have htext : ['\n'] ++ writeHeader key ++ lines.flatten = writeTable key lines := rfl
  rw [htext] at hall
  cases found <;> exact hall

/-- A number that is written is an integer. -/
theorem integer?_of_lt {n : Nat} (h : n < 0x8000000000000000) :
    integer? n = some (.integer (Int64.ofInt n)) := by
  rw [integer?, if_pos ⟨by omega, by omega⟩]

/-- A number beyond the signed numbers of 64 bits is none. -/
theorem integer?_of_le {n : Nat} (h : 0x8000000000000000 ≤ n) : integer? n = none := by
  rw [integer?, if_neg (by omega)]

/-- The workspace root, if it is set. -/
theorem says_root (s : Settings) : ∃ k, Says
    (match s.workspaceRoot with
      | some root => writePair "workspace_root" (writeString root.text)
      | none => []) k
    (some (statements
      (s.workspaceRoot.map fun root => ("workspace_root", Value.string root.text)).toList)) := by
  cases s.workspaceRoot with
  | none => exact ⟨0, says_nil⟩
  | some root => exact ⟨1, says_string "workspace_root" root.text⟩

/-- The levels of the parts. -/
theorem says_modules (s : Settings) : ∃ k,
    Says (s.logModules.map fun m => writePair m.1 (writeString m.2)).flatten k
      (some (statements s.moduleEntries)) :=
  ⟨_, says_strings s.logModules⟩

/-- **The text of settings**, line by line: nothing is wrong with it but for the number of
milliseconds. -/
theorem says_toToml (s : Settings) : ∃ k, Says s.toToml.toList k
    ((integer? s.debounce.toNat).map s.statementsOf) := by
  have hlimit : s.version.toNat < 0x100000000 := s.version.toNat_lt
  have hversion := says_nat "version" (n := s.version.toNat) (by omega)
  rw [integer?_of_lt (by omega)] at hversion
  obtain ⟨rootLines, hroot⟩ := s.says_root
  have hworkspace := says_writeTable ["workspace"] (by decide)
    (says_line (says_array "folders" (s.folders.map Path.text)))
  have hdatabase := says_writeTable ["database"] (by decide)
    (says_line (says_string "path" s.database.text))
  have htarget := says_writeTable ["target"] (by decide)
    (says_lines (says_string "architecture" s.target.architecture)
      (says_string "platform" s.target.platform))
  have hwatch := says_writeTable ["watch"] (by decide)
    (says_line (says_nat "debounce_ms" s.debounce.toNat_lt))
  have hlogging := says_writeTable ["logging"] (by decide)
    (says_line (says_string "default" s.logLevel))
  obtain ⟨moduleLines, hlevels⟩ := s.says_modules
  have hmodules := says_writeTable ["logging", "modules"] (by decide) hlevels
  have hall := ((((((hversion.append hroot).append hworkspace).append hdatabase).append
    htarget).append hwatch).append hlogging).append hmodules
  rw [toToml, String.toList_ofList]
  cases hnumber : integer? s.debounce.toNat with
  | none =>
    rw [hnumber] at hall
    exact ⟨_, hall⟩
  | some v =>
    rw [hnumber] at hall
    exact ⟨_, hall⟩

/-! ### The table -/

theorem lookup_leaves_rootEntries (s : Settings) {name : String}
    (hname : name ≠ "version" ∧ name ≠ "workspace_root") :
    (leaves s.rootEntries).lookup name = none := by
  unfold rootEntries
  cases s.workspaceRoot with
  | none => simp [leaves, lookup_cons_eq, hname.1]
  | some root => simp [leaves, lookup_cons_eq, hname.1, hname.2]

/-- What stands at the root in front of the log. -/
def entriesBefore (s : Settings) : Entries :=
  leaves s.rootEntries ++ s.flatSections.map fun t => (t.1, .table .header (leaves t.2))

theorem lookup_entriesBefore (s : Settings) : s.entriesBefore.lookup "logging" = none := by
  rw [entriesBefore, List.lookup_append, s.lookup_leaves_rootEntries (by decide)]
  simp [flatSections, lookup_cons_eq]

/-- The lines in front of the levels of the parts. -/
theorem steps_before (s : Settings) : ∃ last,
    (statements s.rootEntries ++
      (s.flatSections ++ [s.logSection]).flatMap tableLines).foldlM Reading.step ⟨[], []⟩ =
        some ⟨plug [(s.entriesBefore, "logging")] (leaves s.logSection.2), last⟩ := by
  have hroot : Fresh [] := fun _ h => nomatch h
  have hempty : ∀ p ∈ s.rootEntries, ([] : Entries).lookup p.1 = none := fun _ _ => rfl
  have hrootNames : (s.rootEntries.map Prod.fst).Nodup := by
    unfold rootEntries
    cases s.workspaceRoot <;> simp
  have hentries : (statements s.rootEntries).foldlM Reading.step ⟨[], []⟩ =
      some ⟨leaves s.rootEntries, []⟩ := steps_pairs hroot hempty hrootNames
  have hnames : (s.flatSections ++ [s.logSection]).map Prod.fst =
      ["workspace", "database", "target", "watch", "logging"] := rfl
  have hnew : ∀ t ∈ s.flatSections ++ [s.logSection],
      (leaves s.rootEntries).lookup t.1 = none := by
    intro t ht
    have hmem : t.1 ∈ ["workspace", "database", "target", "watch", "logging"] :=
      hnames ▸ List.mem_map_of_mem ht
    have hother : ∀ name ∈ ["workspace", "database", "target", "watch", "logging"],
        name ≠ "version" ∧ name ≠ "workspace_root" := by decide
    exact s.lookup_leaves_rootEntries (hother t.1 hmem)
  have hnodup : ((s.flatSections ++ [s.logSection]).map Prod.fst).Nodup := by
    rw [hnames]
    decide
  have hfields : ∀ t ∈ s.flatSections ++ [s.logSection], (t.2.map Prod.fst).Nodup := by
    simp [flatSections, logSection]
  obtain ⟨last, hsections⟩ := steps_sections hnew hnodup hfields []
  refine ⟨last, ?_⟩
  rw [List.foldlM_append, hentries]
  refine hsections.trans ?_
  rw [List.map_append, ← List.append_assoc]
  rfl

/-- **What the lines say is put together** to the document, where no part has two levels. -/
theorem build_statementsOf {s : Settings} (hnodup : (s.logModules.map Prod.fst).Nodup) :
    build (s.statementsOf (.integer (Int64.ofInt s.debounce.toNat))) = some s.document := by
  obtain ⟨last, hbefore⟩ := s.steps_before
  have hcontext : Fresh [(s.entriesBefore, "logging")] := by
    intro outer houter
    rw [List.mem_singleton.1 houter]
    exact s.lookup_entriesBefore
  have hnew : (leaves s.logSection.2).lookup "modules" = none := by
    simp [logSection, leaves, lookup_cons_eq]
  have hnames : (s.moduleEntries.map Prod.fst).Nodup := by
    rw [moduleEntries, List.map_map]
    exact hnodup
  have hmodules := steps_table hcontext hnew hnames last
  have hsplit : s.statementsOf (.integer (Int64.ofInt s.debounce.toNat)) =
      (statements s.rootEntries ++ (s.flatSections ++ [s.logSection]).flatMap tableLines) ++
        .header ([(s.entriesBefore, "logging")].map Prod.snd ++ ["modules"]) ::
          statements s.moduleEntries := by
    simp [statementsOf, flatSections, logSection]
  rw [build, hsplit, List.foldlM_append, hbefore]
  show (List.foldlM Reading.step ⟨_, last⟩ _).map _ = _
  rw [hmodules]
  refine congrArg some ?_
  show finished (s.entriesBefore ++ [("logging", .table .header (leaves s.logSection.2 ++
    [("modules", .table .header (leaves s.moduleEntries))]))]) = s.document
  have hlog : finished [("logging", .table .header (leaves s.logSection.2 ++
      [("modules", .table .header (leaves s.moduleEntries))]))] =
        [("logging", .table (s.logSection.2 ++ [("modules", .table s.moduleEntries)]))] := by
    simp only [finished, Node.toValue, finished_append, finished_leaves]
  rw [finished_append, hlog, entriesBefore, finished_append, finished_leaves, finished_tables]
  rfl

/-- **The text of settings is read** as their document, unless the number of milliseconds is beyond
the signed numbers of 64 bits: then it is no document. -/
theorem parse_toToml {s : Settings} (hnodup : (s.logModules.map Prod.fst).Nodup) :
    Toml.parse s.toToml =
      if s.debounce.toNat < 0x8000000000000000 then some s.document else none := by
  obtain ⟨k, hsays⟩ := s.says_toToml
  have hmark : dropMark s.toToml.toList = s.toToml.toList := by
    rw [toToml, String.toList_ofList]
    rfl
  have hread := hsays.whole
  rw [Toml.parse, hmark]
  simp only [hread]
  split_ifs with hdebounce
  · rw [integer?_of_lt hdebounce]
    exact build_statementsOf hnodup
  · rw [integer?_of_le (Nat.le_of_not_lt hdebounce)]
    rfl

/-! ### The document as settings -/

open Layered Located

/-- Levels that were written in any order are in order in the layer of the file. -/
theorem ofTomlEntries_moduleEntries {s : Settings} {levels : List (String × String)}
    (hsorted : levels.Pairwise fun a b => a.1 < b.1) (hperm : s.logModules.Perm levels) :
    ofTomlEntries s.moduleEntries =
      levels.map (Prod.map id fun level => .leaf .file (.text level)) := by
  have hnodup : (s.moduleEntries.map Prod.fst).Nodup := by
    rw [moduleEntries, List.map_map]
    exact (hperm.map Prod.fst).nodup_iff.2 (nodup_of_pairwise hsorted)
  have hentries : s.moduleEntries.map (Prod.map id ofToml) =
      s.logModules.map (Prod.map id fun level => .leaf .file (.text level)) := by
    rw [moduleEntries, List.map_map]
    rfl
  refine eq_of_perm_of_pairwise (pairwise_ofTomlEntries _) ?_ ?_
  · exact List.pairwise_map.2 hsorted
  · exact (perm_ofTomlEntries hnodup).trans (hentries ▸ hperm.map _)

/-- **Sorted levels are read as they are.** -/
theorem levels_sorted {levels : List (String × String)}
    (hsorted : levels.Pairwise fun a b => a.1 < b.1) (path : List String) (l : Layer) :
    Located.levels ⟨path, .table l (levels.map
      (Prod.map id fun level => .leaf .file (.text level)))⟩ = .ok levels := by
  have hread : ((levels.map (Prod.map id fun level => Layered.leaf .file (.text level))).mapM
      fun e => do return (e.1, ← text "a string" ⟨path ++ [e.1], e.2⟩)) =
        Except.ok levels := by
    clear hsorted
    induction levels with
    | nil => rfl
    | cons m levels ih =>
      rw [List.map_cons, List.mapM_cons, ih]
      rfl
  have hput : levels.foldl (fun sorted e => putLevel e.1 e.2 sorted) [] = levels := by
    simp only [putLevel_eq]
    exact putAll_eq_of_perm hsorted (.refl levels)
  exact bind_eq_ok.2 ⟨levels, hread, congrArg Except.ok hput⟩

/-- A list of texts is read as paths. -/
theorem paths_written (path : List String) (ps : List Path) :
    Located.list filePath ⟨path, ofToml (.array ((ps.map Path.text).map .string))⟩ = .ok ps := by
  rw [paths_eq_ok]
  show (ofTomlItems ((ps.map Path.text).map .string)).mapM text? = some (ps.map Path.text)
  rw [ofTomlItems_eq_map]
  induction ps.map Path.text with
  | nil => rfl
  | cons t texts ih =>
    rw [List.map_cons, List.map_cons, List.mapM_cons, ih]
    rfl

/-- A number that is written is read. -/
theorem natural_written (wanted : String) {limit n : Nat} (hn : n < 0x8000000000000000)
    (hlimit : n < limit) (path : List String) :
    Located.natural wanted limit ⟨path, ofToml (.integer (Int64.ofInt n))⟩ = .ok n := by
  have hvalue : (Int64.ofInt n).toInt = n := Int64.toInt_ofInt_of_le (by omega) (by omega)
  rw [natural_eq_ok]
  show (if 0 ≤ (Int64.ofInt n).toInt ∧ (Int64.ofInt n).toInt < limit then
    some (Int64.ofInt n).toInt.toNat else none) = some n
  rw [hvalue, if_pos ⟨by omega, by omega⟩]
  rfl

/-- What stands under the names of the document. -/
theorem lookup_document (s : Settings) :
    s.document.lookup "version" = some (.integer (Int64.ofInt s.version.toNat)) ∧
      s.document.lookup "workspace_root" = s.workspaceRoot.map (fun root => .string root.text) ∧
      s.document.lookup "workspace" =
        some (.table [("folders", .array ((s.folders.map Path.text).map .string))]) ∧
      s.document.lookup "database" = some (.table [("path", .string s.database.text)]) ∧
      s.document.lookup "target" = some (.table [("architecture", .string s.target.architecture),
        ("platform", .string s.target.platform)]) ∧
      s.document.lookup "watch" =
        some (.table [("debounce_ms", .integer (Int64.ofInt s.debounce.toNat))]) ∧
      s.document.lookup "logging" = some (.table [("default", .string s.logLevel),
        ("modules", .table s.moduleEntries)]) := by
  unfold document rootEntries
  cases s.workspaceRoot <;> simp [flatSections, lookup_cons_eq]

/-- The layer of a table with two entries in order. -/
theorem ofToml_two {a b : String} (hless : a < b) (v w : Value) :
    ofToml (.table [(a, v), (b, w)]) = .table .file [(a, ofToml v), (b, ofToml w)] := by
  have hentries : ofTomlEntries [(a, v), (b, w)] = put a (ofToml v) [(b, ofToml w)] := rfl
  rw [ofToml, hentries, put, if_pos hless]

/-- The section of the target. -/
theorem target_written (t : BuildTarget) (path : List String) :
    Located.target ⟨path, ofToml (.table [("architecture", .string t.architecture),
      ("platform", .string t.platform)])⟩ = .ok t := by
  rw [ofToml_two (by decide)]
  rfl

/-- The section of the log. -/
theorem log_written {s : Settings} {levels : List (String × String)}
    (hsorted : levels.Pairwise fun a b => a.1 < b.1) (hperm : s.logModules.Perm levels)
    (path : List String) :
    Located.log ⟨path, ofToml (.table [("default", .string s.logLevel),
      ("modules", .table s.moduleEntries)])⟩ = .ok (s.logLevel, levels) := by
  have hlevels := levels_sorted hsorted (path ++ ["modules"]) .file
  rw [← ofTomlEntries_moduleEntries hsorted hperm] at hlevels
  rw [ofToml_two (by decide)]
  exact bind_eq_ok.2 ⟨(), rfl, bind_eq_ok.2 ⟨s.logLevel, rfl, bind_eq_ok.2 ⟨levels, hlevels, rfl⟩⟩⟩

/-- **The document of settings is read as the settings**, where no variable sets anything. -/
theorem ofLayers_document {s : Settings} {modules : List (String × String)}
    (hsorted : s.logModules.Pairwise fun a b => a.1 < b.1) (hperm : modules.Perm s.logModules)
    (hdebounce : s.debounce.toNat < 0x8000000000000000) {environment : List (String × String)}
    (henvironment : ∀ v ∈ environment, Variable.path? v.1 = none) :
    ofLayers (document { s with logModules := modules }) environment = .ok s := by
  have hlayer : Variable.layer environment = .table .environment [] := by
    induction environment using List.reverseRecOn with
    | nil => rfl
    | append_singleton environment v ih =>
      have hlast : Variable.path? v.1 = none :=
        henvironment v (List.mem_append_right _ List.mem_cons_self)
      rw [Variable.layer_append, hlast]
      exact ih fun w hw => henvironment w (List.mem_append_left _ hw)
  rw [ofLayers, hlayer]
  show ofEntries (ofTomlEntries (document { s with logModules := modules })) = .ok s
  obtain ⟨hversion, hroot, hfolders, hdatabase, htarget, hwatch, hlogging⟩ :=
    lookup_document { s with logModules := modules }
  simp only [ofEntries, lookup_ofTomlEntries, hversion, hroot, hfolders, hdatabase, htarget, hwatch,
    hlogging, Option.map_some, orElse]
  have hversionLimit : s.version.toNat < 0x100000000 := s.version.toNat_lt
  have hnumber := natural_written "u32" (n := s.version.toNat) (by omega) hversionLimit ["version"]
  have hmilliseconds := natural_written "u64" hdebounce s.debounce.toNat_lt ["watch", "debounce_ms"]
  have hpaths := paths_written ["workspace", "folders"] s.folders
  have hlevels := log_written (s := { s with logModules := modules }) hsorted hperm ["logging"]
  refine bind_eq_ok.2 ⟨s.database, rfl, ?_⟩
  refine bind_eq_ok.2 ⟨(s.logLevel, s.logModules), hlevels, ?_⟩
  refine bind_eq_ok.2 ⟨s.target, target_written s.target _, ?_⟩
  refine bind_eq_ok.2 ⟨s.version, ?_, ?_⟩
  · exact map_eq_ok.2 ⟨s.version.toNat, hnumber, UInt32.ofNat_toNat⟩
  refine bind_eq_ok.2 ⟨s.debounce, ?_, ?_⟩
  · exact map_eq_ok.2 ⟨s.debounce.toNat, hmilliseconds, UInt64.ofNat_toNat⟩
  refine bind_eq_ok.2 ⟨s.folders, hpaths, ?_⟩
  refine bind_eq_ok.2 ⟨s.workspaceRoot, ?_, rfl⟩
  cases s.workspaceRoot <;> rfl

/-! ### Saving and loading -/

/-- Settings whose text stands in a file are loaded from it. -/
theorem gives_loadFrom_of_lookup {w : Surroundings} {s : Settings}
    {modules : List (String × String)} {p : Path}
    (hsorted : s.logModules.Pairwise fun a b => a.1 < b.1) (hperm : modules.Perm s.logModules)
    (hp : p.isRooted = true)
    (hfile : w.disk.lookup w.directory p =
      .ok (.file (Text.Utf8.encode (toToml { s with logModules := modules }))))
    (henvironment : ∀ v ∈ w.environment, Variable.path? v.1 = none) :
    w.gives (loadFrom p) =
      if s.debounce.toNat < 0x8000000000000000 then .ok s else .error (.notToml p) := by
  have hnodup : (modules.map Prod.fst).Nodup :=
    (hperm.map Prod.fst).nodup_iff.2 (nodup_of_pairwise hsorted)
  have htable : w.settingsTable p =
      if s.debounce.toNat < 0x8000000000000000 then
        .ok (document { s with logModules := modules })
      else .error (.notToml p) := by
    rw [Surroundings.settingsTable, Surroundings.settingsFile?_of_lookup hp hfile]
    simp only [Surroundings.textAt_of_lookup hfile]
    rw [parse_toToml (s := { s with logModules := modules }) hnodup]
    split_ifs <;> rfl
  rw [Surroundings.gives_loadFrom, htable]
  split_ifs with hdebounce
  · simp only [Except.bind]
    rw [ofLayers_document hsorted hperm hdebounce henvironment]
    rfl
  · rfl

/-- **Saved settings are loaded as they were.**  Settings are saved to an absolute path whenever the
directories of the file can be made and the file can be written, whatever stood there before, and in
whatever order the levels of the parts are written.  Loaded from there, on any machine with the same
disk and without variables in the environment, they are what they were, unless the number of
milliseconds is beyond the signed numbers of 64 bits: then the file is no document.  The first
settings file below a directory is loaded as the initial settings with that directory as folder. -/
theorem saved_loads {w : Surroundings} {s : Settings} {modules : List (String × String)}
    {p parent : Path} (hsorted : s.logModules.Pairwise fun a b => a.1 < b.1)
    (hperm : modules.Perm s.logModules) (hp : p.isRooted = true) (hparent : p.parent = some parent)
    (hwrites : ∀ cause, w.gives (save { s with logModules := modules } p) ≠
      .error (.failed cause)) :
    let saving : StateM Surroundings _ := save { s with logModules := modules } p
    w.gives saving = .ok () ∧
      (w.after saving).textAt p = .ok (toToml { s with logModules := modules }) ∧
      (∀ w' : Surroundings, w'.disk = (w.after saving).disk →
        (∀ v ∈ w'.environment, Variable.path? v.1 = none) →
        w'.gives (loadFrom p) =
          if s.debounce.toNat < 0x8000000000000000 then .ok s else .error (.notToml p)) ∧
      ∀ (first : Surroundings) root force file, root.isRooted = true →
        first.gives (create root force) = .ok file →
        ∀ w' : Surroundings, w'.disk = (first.after (create root force)).disk →
          (∀ v ∈ w'.environment, Variable.path? v.1 = none) →
          w'.gives (loadFrom file) = .ok { initial with folders := [root] } := by
  intro saving
  obtain ⟨hsaves, hfile⟩ := Surroundings.saved hparent hwrites
  refine ⟨hsaves, Surroundings.textAt_of_lookup (hfile hp _), ?_, ?_⟩
  · intro w' hdisk henvironment
    exact gives_loadFrom_of_lookup hsorted hperm hp (hdisk ▸ hfile hp w'.directory) henvironment
  · intro first root force file hroot hcreate w' hdisk henvironment
    obtain ⟨rfl, hsaved, hafter⟩ := Surroundings.created hcreate
    have hrooted : (fileBelow root).isRooted = true :=
      Path.isRooted_join (Path.isRooted_join hroot directoryName) fileName
    have hstands := Surroundings.lookup_saved hrooted hsaved w'.directory
    rw [← hafter, ← hdisk] at hstands
    have hlevels : initial.logModules.Pairwise fun a b => a.1 < b.1 := .nil
    exact gives_loadFrom_of_lookup (s := { initial with folders := [root] }) hlevels (.refl _)
      hrooted hstands henvironment

/-- A first settings file, and settings with two levels of parts that are written the other way
round, saved over another file; both are loaded from another directory. -/
theorem saved_loads_quoted :
    let w := oneSettingsFile "version = 7\n" []
    let elsewhere (disk : Disk) : Surroundings := ⟨disk, ["home"], [("PATH", "/bin")]⟩
    let s : Settings := { initial with
      folders := [⟨""⟩, ⟨"a\"b'\\"⟩], logModules := [("", "\n"), ("a.b", "''\"\"\"\t")] }
    let saving : StateM Surroundings _ :=
      save { s with logModules := s.logModules.reverse } ⟨"/s.toml"⟩
    let creating : StateM Surroundings _ := create ⟨"/p"⟩ false
    w.gives saving = .ok () ∧
      (elsewhere (w.after saving).disk).gives (loadFrom ⟨"/s.toml"⟩) = .ok s ∧
      ∃ file, w.gives creating = .ok file ∧
        (elsewhere (w.after creating).disk).gives (loadFrom file) =
          .ok { initial with folders := [⟨"/p"⟩] } := by
  intro w elsewhere s saving creating
  have hsaves : (w.gives saving).toOption = some () := by decide +kernel
  have hcreates : (w.gives creating).toOption = some ⟨"/p/.ccindex/settings.toml"⟩ := by
    decide +kernel
  have hparent : (⟨"/s.toml"⟩ : Path).parent = some ⟨"/"⟩ := by decide +kernel
  have hwrites : ∀ cause, w.gives saving ≠ .error (.failed cause) := by
    intro cause h
    rw [h] at hsaves
    cases hsaves
  have hunset : ∀ v ∈ [("PATH", "/bin")], Variable.path? v.1 = none := by decide +kernel
  obtain ⟨hgives, _, hloads, hfirst⟩ := saved_loads (w := w) (s := s) (p := ⟨"/s.toml"⟩)
    (by decide) (List.reverse_perm s.logModules) (by decide) hparent hwrites
  have hloaded := hloads (elsewhere (w.after saving).disk) rfl hunset
  rw [if_pos (by decide)] at hloaded
  exact ⟨hgives, hloaded, _, eq_ok_of_toOption hcreates,
    hfirst w ⟨"/p"⟩ false _ (by decide) (eq_ok_of_toOption hcreates) _ rfl hunset⟩

/-- **A number of milliseconds beyond the signed numbers of 64 bits** is saved: the file that stood
there is gone, and the one that stands there now cannot be loaded. -/
theorem saved_unloadable :
    let w := oneSettingsFile "version = 7\n" []
    let s : Settings := { initial with debounce := 18446744073709551615 }
    let saving : StateM Surroundings _ := save s ⟨"/s.toml"⟩
    w.gives saving = .ok () ∧ (w.after saving).textAt ⟨"/s.toml"⟩ ≠ w.textAt ⟨"/s.toml"⟩ ∧
      w.gives (loadFrom ⟨"/s.toml"⟩) = .ok { initial with version := 7 } ∧
      (Surroundings.mk (w.after saving).disk [] []).gives (loadFrom ⟨"/s.toml"⟩) =
        .error (.notToml ⟨"/s.toml"⟩) := by
  intro w s saving
  have hsaves : (w.gives saving).toOption = some () := by decide +kernel
  have hloads : (w.gives (loadFrom ⟨"/s.toml"⟩)).toOption = some { initial with version := 7 } := by
    decide +kernel
  have hold : (w.textAt ⟨"/s.toml"⟩).toOption = some "version = 7\n" := by decide +kernel
  have htext : toToml s ≠ "version = 7\n" := by decide +kernel
  have hstands := Surroundings.lookup_saved (p := ⟨"/s.toml"⟩) (by decide) (eq_ok_of_toOption hsaves)
  have hlost := gives_loadFrom_of_lookup (w := ⟨(w.after saving).disk, [], []⟩) (s := s) .nil
    (.refl _) (by decide) (hstands []) nofun
  rw [if_neg (by decide)] at hlost
  refine ⟨eq_ok_of_toOption hsaves, ?_, eq_ok_of_toOption hloads, hlost⟩
  rw [Surroundings.textAt_of_lookup (hstands _), eq_ok_of_toOption hold]
  exact fun h => htext (Except.ok.inj h)

end CompileIndex.Settings

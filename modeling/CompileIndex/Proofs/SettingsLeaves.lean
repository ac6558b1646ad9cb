import CompileIndex.Proofs.JsonLexemes
import CompileIndex.Proofs.Layers

/-!
# Settings, one by one

Settings are numbers, texts and lists of texts, each of which has a place in a tree of values.
Settings that are read from a tree hold at every place what stands there, and what they hold
initially where nothing stands.

* `Setting` — the single settings, with the names that lead to them and their places in lists;
* `Settings.held`, `Setting.read?` — what is held for a setting, and what a value is read as;
* `Settings.Located.ReadFrom` — that a value was read from what was found for it, in an entry or in a
  field of a section;
* `Settings.holds_of_ofEntries` — settings read from a tree.
-/

namespace CompileIndex

/-- One of the settings. -/
inductive Setting where
  | version | workspaceRoot | folders | database | architecture | platform | debounce | logLevel
  /-- The log level of one part of the program. -/
  | logModule (name : String)
  deriving DecidableEq

/-- What is held for a setting. -/
inductive Held where
  | number (n : Nat)
  | text (s : String)
  | texts (items : List String)
  deriving DecidableEq

namespace Layered

/-- A value that is a text. -/
def text? : Layered → Option String
  | leaf _ (.text s) => some s
  | _ => none

/-- A value that is a whole number below a limit. -/
def natural? (limit : Nat) : Layered → Option Nat
  | leaf _ (.signed n) => if 0 ≤ n ∧ n < limit then some n.toNat else none
  | leaf _ (.unsigned n) => if n < limit then some n else none
  | _ => none

/-- A value that is a list of texts. -/
def texts? : Layered → Option (List String)
  | list _ items => items.mapM text?
  | _ => none

end Layered

namespace Setting

/-- The names that lead to a setting, with their places where they may also be items of a list. -/
def steps : Setting → List (String × Option Nat)
  | version => [("version", none)]
  | workspaceRoot => [("workspace_root", none)]
  | folders => [("workspace", none), ("folders", some 0)]
  | database => [("database", none), ("path", some 0)]
  | architecture => [("target", none), ("architecture", some 0)]
  | platform => [("target", none), ("platform", some 1)]
  | debounce => [("watch", none), ("debounce_ms", some 0)]
  | logLevel => [("logging", none), ("default", some 0)]
  | logModule name => [("logging", none), ("modules", some 1), (name, none)]

/-- The names that lead to a setting. -/
def path (setting : Setting) : List String :=
  setting.steps.map Prod.fst

/-- What a value is read as, if it is of the kind of the setting. -/
def read? : Setting → Layered → Option Held
  | version, v => (v.natural? 0x100000000).map .number
  | debounce, v => (v.natural? 0x10000000000000000).map .number
  | folders, v => v.texts?.map .texts
  | _, v => v.text?.map .text

end Setting

namespace Settings

/-- What is held for a setting, if it is set at all. -/
def held (s : Settings) : Setting → Option Held
  | .version => some (.number s.version.toNat)
  | .workspaceRoot => s.workspaceRoot.map fun root => .text root.text
  | .folders => some (.texts (s.folders.map Path.text))
  | .database => some (.text s.database.text)
  | .architecture => some (.text s.target.architecture)
  | .platform => some (.text s.target.platform)
  | .debounce => some (.number s.debounce.toNat)
  | .logLevel => some (.text s.logLevel)
  | .logModule name => (s.logModules.lookup name).map .text

/-- That for a setting that was found what was found is held, and what is held initially for one
that was not. -/
inductive Holds (s : Settings) (setting : Setting) : Option Layered → Prop
  | set {v : Layered} {h : Held} (hread : setting.read? v = some h)
      (hheld : s.held setting = some h) : Holds s setting (some v)
  | unset (hheld : s.held setting = initial.held setting) : Holds s setting none

namespace Located

variable {α β : Type}

/-! ### Single values -/

theorem text_eq_ok {wanted : String} {v : Located} {s : String} :
    v.text wanted = .ok s ↔ v.value.text? = some s := by
  unfold text Layered.text?
  cases v.value with
  | leaf l x => cases x <;> simp
  | _ => simp

theorem natural_eq_ok {wanted : String} {limit n : Nat} {v : Located} :
    v.natural wanted limit = .ok n ↔ v.value.natural? limit = some n := by
  unfold natural Layered.natural?
  cases v.value with
  | leaf l x =>
    cases x with
    | signed k => by_cases h : 0 ≤ k ∧ k < limit <;> simp [h]
    | unsigned k => by_cases h : k < limit <;> simp [h]
    | _ => simp
  | _ => simp

theorem lt_of_natural? {limit n : Nat} {v : Layered} (h : v.natural? limit = some n) :
    n < limit := by
  unfold Layered.natural? at h
  split at h
  · split_ifs at h
    cases h
    omega
  · split_ifs at h
    cases h
    assumption
  · cases h

theorem filePath_eq_ok {v : Located} {p : Path} :
    v.filePath = .ok p ↔ v.value.text? = some p.text := by
  rw [filePath, map_eq_ok]
  constructor
  · rintro ⟨s, hs, rfl⟩
    exact text_eq_ok.1 hs
  · intro h
    exact ⟨p.text, text_eq_ok.2 h, rfl⟩

/-- A list of paths is read item by item. -/
theorem items_eq_ok {path : List String} {items : List Layered} {k : Nat} {ps : List Path} :
    (items.zipIdx k).mapM (fun (x, i) => filePath ⟨path ++ [toString i], x⟩) = .ok ps ↔
      items.mapM Layered.text? = some (ps.map Path.text) := by
  induction items generalizing k ps with
  | nil => cases ps <;> simp [pure, Except.pure]
  | cons x items ih =>
    rw [List.zipIdx_cons, List.mapM_cons, List.mapM_cons, bind_eq_ok]
    constructor
    · rintro ⟨p, hp, h⟩
      obtain ⟨rest, hrest, h⟩ := bind_eq_ok.1 h
      cases h
      simp [filePath_eq_ok.1 hp, ih.1 hrest]
    · intro h
      obtain ⟨t, ht, h⟩ := Option.bind_eq_some_iff.1 h
      obtain ⟨ts, hts, h⟩ := Option.bind_eq_some_iff.1 h
      obtain ⟨p, rest, rfl, rfl, rfl⟩ := List.map_eq_cons_iff.1 (Option.some.inj h).symm
      exact ⟨p, filePath_eq_ok.2 ht, bind_eq_ok.2 ⟨rest, ih.2 hts, rfl⟩⟩

theorem paths_eq_ok {v : Located} {ps : List Path} :
    v.list filePath = .ok ps ↔ v.value.texts? = some (ps.map Path.text) := by
  unfold list Layered.texts?
  cases v.value with
  | list l items => exact items_eq_ok
  | _ => simp

/-- Levels are read entry by entry, and are found under the same names. -/
theorem levels_lookup {path : List String} {entries : List (String × Layered)}
    {read : List (String × String)}
    (h : (entries.mapM fun (name, x) => do
      return (name, ← text "a string" ⟨path ++ [name], x⟩)) = .ok read) :
    read.map Prod.fst = entries.map Prod.fst ∧
      ∀ name, (entries.lookup name = none ∧ read.lookup name = none) ∨
        ∃ v t, entries.lookup name = some v ∧ v.text? = some t ∧ read.lookup name = some t := by
  induction entries generalizing read with
  | nil =>
    cases h
    exact ⟨rfl, fun name => Or.inl ⟨rfl, rfl⟩⟩
  | cons e entries ih =>
    obtain ⟨n, x⟩ := e
    rw [List.mapM_cons, bind_eq_ok] at h
    obtain ⟨first, hfirst, h⟩ := h
    obtain ⟨t, ht, heq⟩ := bind_eq_ok.1 hfirst
    obtain ⟨rest, hrest, h⟩ := bind_eq_ok.1 h
    cases heq
    cases h
    obtain ⟨hnames, hlookup⟩ := ih hrest
    refine ⟨by rw [List.map_cons, List.map_cons, hnames], fun name => ?_⟩
    rw [lookup_cons_eq, lookup_cons_eq]
    by_cases hname : name = n
    · rw [if_pos hname, if_pos hname]
      exact Or.inr ⟨x, t, rfl, text_eq_ok.1 ht, rfl⟩
    · rw [if_neg hname, if_neg hname]
      exact hlookup name

/-- **Levels that are read from a sorted table** are the entries of the table. -/
theorem levels_eq_ok {v : Located} {ms : List (String × String)} (h : v.levels = .ok ms)
    (hsorted : ∀ l entries, v.value = .table l entries →
      entries.Pairwise fun a b => a.1 < b.1) :
    ms.Pairwise (fun a b => a.1 < b.1) ∧
      ∀ name, (v.value.field? name none = none ∧ ms.lookup name = none) ∨
        ∃ w t, v.value.field? name none = some w ∧ w.text? = some t ∧ ms.lookup name = some t := by
  unfold levels at h
  split at h
  · next l entries hv =>
    obtain ⟨read, hread, h⟩ := bind_eq_ok.1 h
    obtain ⟨hnames, hlookup⟩ := levels_lookup hread
    have hpairwise : read.Pairwise fun a b => a.1 < b.1 := by
      have hentries := List.pairwise_map.2 (hsorted l entries hv)
      rw [← hnames] at hentries
      exact List.pairwise_map.1 hentries
    have hms : ms = read := by
      cases h
      simp only [putLevel_eq]
      exact putAll_eq_of_perm hpairwise (.refl read)
    rw [hms, hv]
    exact ⟨hpairwise, hlookup⟩
  · cases h

/-! ### Sections -/

theorem orElse_eq_ok {unset x : α} {read : Located → Except Fault α} {v : Option Located} :
    orElse unset read v = .ok x ↔ (v = none ∧ x = unset) ∨ ∃ w, v = some w ∧ read w = .ok x := by
  cases v with
  | none => simp [orElse, eq_comm]
  | some w => simp [orElse]

theorem field?_eq (v : Located) (i : Nat) (name : String) :
    (v.field? i name).map Located.value = v.value.field? name (some i) := by
  unfold Located.field? Layered.field?
  cases v.value with
  | leaf => rfl
  | list l items =>
    simp only [Option.map_map, Option.bind_some]
    exact Option.map_id'
  | table l entries =>
    simp only [Option.map_map]
    exact Option.map_id'

/-- That a value was read from what was found for it, or is the one for nothing found. -/
def ReadFrom (read : Located → Except Fault α) (unset x : α) (found : Option Layered) : Prop :=
  (found = none ∧ x = unset) ∨ ∃ w p, found = some w ∧ read ⟨p, w⟩ = .ok x

theorem readFrom_field {v : Located} {i : Nat} {name : String} {unset x : α}
    {read : Located → Except Fault α} (h : orElse unset read (v.field? i name) = .ok x) :
    ReadFrom read unset x (v.value.field? name (some i)) := by
  have hfield := field?_eq v i name
  rcases orElse_eq_ok.1 h with ⟨hnone, hx⟩ | ⟨w, hsome, hread⟩
  · rw [hnone] at hfield
    exact Or.inl ⟨hfield.symm, hx⟩
  · rw [hsome] at hfield
    exact Or.inr ⟨w.value, w.path, hfield.symm, hread⟩

/-- An entry of the whole table. -/
theorem readFrom_entry {l : Layer} {entries : List (String × Layered)} {name : String}
    {unset x : α} {read : Located → Except Fault α}
    (h : orElse unset read ((entries.lookup name).map fun v => ⟨[name], v⟩) = .ok x) :
    ReadFrom read unset x ((Layered.table l entries).at? [(name, none)]) := by
  have hat : (Layered.table l entries).at? [(name, none)] = entries.lookup name := by
    rw [Layered.at?_singleton]
    rfl
  rw [hat]
  rcases orElse_eq_ok.1 h with ⟨hnone, hx⟩ | ⟨w, hsome, hread⟩
  · exact Or.inl ⟨Option.map_eq_none_iff.1 hnone, hx⟩
  · obtain ⟨v, hv, rfl⟩ := Option.map_eq_some_iff.1 hsome
    exact Or.inr ⟨v, [name], hv, hread⟩

/-- A field of a section, where the section is read by its fields. -/
theorem readFrom_section {l : Layer} {entries : List (String × Layered)} {name field : String}
    {i : Nat} {unset y : β} {section' : Located → Except Fault β} {g : β → α}
    {read : Located → Except Fault α}
    (hsection : ∀ v y, section' v = .ok y →
      orElse (g unset) read (v.field? i field) = .ok (g y))
    (h : orElse unset section' ((entries.lookup name).map fun v => ⟨[name], v⟩) = .ok y) :
    ReadFrom read (g unset) (g y)
      ((Layered.table l entries).at? [(name, none), (field, some i)]) := by
  have hat : (Layered.table l entries).at? [(name, none), (field, some i)] =
      (entries.lookup name).bind (Layered.field? field (some i)) := by
    rw [Layered.at?, Layered.at?_singleton]
    rfl
  rw [hat]
  rcases orElse_eq_ok.1 h with ⟨hnone, rfl⟩ | ⟨w, hsome, hread⟩
  · rw [Option.map_eq_none_iff.1 hnone]
    exact Or.inl ⟨rfl, rfl⟩
  · obtain ⟨v, hv, rfl⟩ := Option.map_eq_some_iff.1 hsome
    rw [hv, Option.bind_some]
    exact readFrom_field (hsection _ y hread)

/-- The fields of the section of the target. -/
theorem fields_of_target {v : Located} {t : BuildTarget} (h : v.target = .ok t) :
    orElse initial.target.architecture (text "a string") (v.field? 0 "architecture") =
        .ok t.architecture ∧
      orElse initial.target.platform (text "a string") (v.field? 1 "platform") =
        .ok t.platform := by
  obtain ⟨_, _, h⟩ := bind_eq_ok.1 h
  obtain ⟨architecture, harchitecture, h⟩ := bind_eq_ok.1 h
  obtain ⟨platform, hplatform, h⟩ := bind_eq_ok.1 h
  cases h
  exact ⟨harchitecture, hplatform⟩

/-- The fields of the section of the log. -/
theorem fields_of_log {v : Located} {y : String × List (String × String)} (h : v.log = .ok y) :
    orElse initial.logLevel (text "a string") (v.field? 0 "default") = .ok y.1 ∧
      orElse initial.logModules levels (v.field? 1 "modules") = .ok y.2 := by
  obtain ⟨_, _, h⟩ := bind_eq_ok.1 h
  obtain ⟨level, hlevel, h⟩ := bind_eq_ok.1 h
  obtain ⟨modules, hmodules, h⟩ := bind_eq_ok.1 h
  cases h
  exact ⟨hlevel, hmodules⟩

/-- A section with a single field, which is read once the section has its shape. -/
theorem readFrom_only_field {l : Layer} {entries : List (String × Layered)} {name field : String}
    {unset : β} {check : Located → Except Fault Unit} {read : Located → Except Fault β}
    (h : orElse unset (fun v => check v >>= fun _ => orElse unset read (v.field? 0 field))
      ((entries.lookup name).map fun v => ⟨[name], v⟩) = .ok y) :
    ReadFrom read unset y ((Layered.table l entries).at? [(name, none), (field, some 0)]) :=
  readFrom_section (g := id) (fun _ _ hy => (bind_eq_ok.1 hy).choose_spec.2) h

end Located

open Located

/-! ### Whole settings -/

variable {entries : List (String × Layered)} {s : Settings}

/-- The sections that settings are read from, one by one. -/
theorem ofEntries_cases (h : ofEntries entries = .ok s) :
    let entry (name : String) : Option Located :=
      (entries.lookup name).map fun v => ⟨[name], v⟩
    orElse initial.version (fun v => (v.natural "u32" 0x100000000).map UInt32.ofNat)
        (entry "version") = .ok s.version ∧
      orElse none (fun v => v.filePath.map some) (entry "workspace_root") = .ok s.workspaceRoot ∧
      orElse initial.folders Located.folders (entry "workspace") = .ok s.folders ∧
      orElse initial.database Located.database (entry "database") = .ok s.database ∧
      orElse initial.target Located.target (entry "target") = .ok s.target ∧
      orElse initial.debounce Located.debounce (entry "watch") = .ok s.debounce ∧
      orElse (initial.logLevel, initial.logModules) Located.log (entry "logging") =
        .ok (s.logLevel, s.logModules) := by
  obtain ⟨database, hdatabase, h⟩ := bind_eq_ok.1 h
  obtain ⟨log, hlog, h⟩ := bind_eq_ok.1 h
  obtain ⟨target, htarget, h⟩ := bind_eq_ok.1 h
  obtain ⟨version, hversion, h⟩ := bind_eq_ok.1 h
  obtain ⟨debounce, hdebounce, h⟩ := bind_eq_ok.1 h
  obtain ⟨folders, hfolders, h⟩ := bind_eq_ok.1 h
  obtain ⟨root, hroot, h⟩ := bind_eq_ok.1 h
  cases h
  exact ⟨hversion, hroot, hfolders, hdatabase, htarget, hdebounce, hlog⟩

/-- A setting that was read from what was found for it holds it. -/
theorem holds_of_readFrom {α : Type} {unset x : α} {read : Located → Except Fault α}
    {found : Option Layered} {setting : Setting} (h : ReadFrom read unset x found)
    (hunset : x = unset → s.held setting = initial.held setting)
    (hread : ∀ p w, read ⟨p, w⟩ = .ok x →
      ∃ held, setting.read? w = some held ∧ s.held setting = some held) :
    s.Holds setting found := by
  rcases h with ⟨rfl, hx⟩ | ⟨w, p, rfl, hx⟩
  · exact .unset (hunset hx)
  · obtain ⟨held, hheld⟩ := hread p w hx
    exact .set hheld.1 hheld.2

theorem holds_of_text {found : Option Layered} {setting : Setting} {wanted unset x : String}
    (h : ReadFrom (text wanted) unset x found) (hheld : s.held setting = some (.text x))
    (hinitial : initial.held setting = some (.text unset))
    (hread : ∀ w, setting.read? w = w.text?.map .text) : s.Holds setting found := by
  refine holds_of_readFrom h (fun hx => by rw [hheld, hinitial, hx]) fun p w hx => ?_
  exact ⟨.text x, by rw [hread, text_eq_ok.1 hx]; rfl, hheld⟩

theorem holds_version {found : Option Layered}
    (h : ReadFrom (fun v => (v.natural "u32" 0x100000000).map UInt32.ofNat) initial.version
      s.version found) : s.Holds .version found := by
  refine holds_of_readFrom h (fun hx => by rw [held, hx]; rfl) fun p w hx => ?_
  obtain ⟨n, hn, hx⟩ := map_eq_ok.1 hx
  have hvalue := natural_eq_ok.1 hn
  have hlimit : n < 2 ^ 32 := lt_of_natural? hvalue
  refine ⟨.number n, by rw [Setting.read?, hvalue]; rfl, ?_⟩
  rw [held, ← hx, UInt32.toNat_ofNat', Nat.mod_eq_of_lt hlimit]

theorem holds_debounce {found : Option Layered}
    (h : ReadFrom (fun x => (x.natural "u64" 0x10000000000000000).map UInt64.ofNat)
      initial.debounce s.debounce found) : s.Holds .debounce found := by
  refine holds_of_readFrom h (fun hx => by rw [held, hx]; rfl) fun p w hx => ?_
  obtain ⟨n, hn, hx⟩ := map_eq_ok.1 hx
  have hvalue := natural_eq_ok.1 hn
  have hlimit : n < 2 ^ 64 := lt_of_natural? hvalue
  refine ⟨.number n, by rw [Setting.read?, hvalue]; rfl, ?_⟩
  rw [held, ← hx, UInt64.toNat_ofNat', Nat.mod_eq_of_lt hlimit]

theorem holds_workspaceRoot {found : Option Layered}
    (h : ReadFrom (fun v => v.filePath.map some) none s.workspaceRoot found) :
    s.Holds .workspaceRoot found := by
  refine holds_of_readFrom h (fun hx => by rw [held, hx]; rfl) fun p w hx => ?_
  obtain ⟨root, hroot, hx⟩ := map_eq_ok.1 hx
  refine ⟨.text root.text, congrArg (Option.map Held.text) (filePath_eq_ok.1 hroot), ?_⟩
  rw [held, ← hx]
  rfl

theorem holds_folders {found : Option Layered}
    (h : ReadFrom (Located.list filePath) initial.folders s.folders found) :
    s.Holds .folders found := by
  refine holds_of_readFrom h (fun hx => by rw [held, hx]; rfl) fun p w hx => ?_
  exact ⟨_, congrArg (Option.map Held.texts) (paths_eq_ok.1 hx), rfl⟩

theorem holds_database {found : Option Layered}
    (h : ReadFrom filePath initial.database s.database found) : s.Holds .database found := by
  refine holds_of_readFrom h (fun hx => by rw [held, hx]; rfl) fun p w hx => ?_
  exact ⟨_, congrArg (Option.map Held.text) (filePath_eq_ok.1 hx), rfl⟩

/-- The levels of the parts are the entries of their table. -/
theorem holds_logModules {found : Option Layered}
    (h : ReadFrom levels initial.logModules s.logModules found)
    (hsorted : ∀ l modules, found = some (.table l modules) →
      modules.Pairwise fun a b => a.1 < b.1) :
    (∀ name, s.Holds (.logModule name) (found.bind (Layered.field? name none))) ∧
      s.logModules.Pairwise fun a b => a.1 < b.1 := by
  rcases h with ⟨rfl, hnone⟩ | ⟨w, p, rfl, hlevels⟩
  · refine ⟨fun name => .unset ?_, ?_⟩
    · show (s.logModules.lookup name).map Held.text = _
      rw [hnone]
      rfl
    · rw [hnone]
      exact .nil
  · obtain ⟨hpairwise, hlookup⟩ := levels_eq_ok hlevels fun l modules hw =>
      hsorted l modules (congrArg some hw)
    refine ⟨fun name => ?_, hpairwise⟩
    rw [Option.bind_some]
    rcases hlookup name with ⟨hfield, hname⟩ | ⟨v, t, hfield, ht, hname⟩
    · rw [hfield]
      refine .unset ?_
      show (s.logModules.lookup name).map Held.text = _
      rw [hname]
      rfl
    · rw [hfield]
      exact .set (congrArg (Option.map Held.text) ht) (congrArg (Option.map Held.text) hname)

/-- **Settings that are read from a tree** hold what stands in it, and what they hold initially
where nothing stands. -/
theorem holds_of_ofEntries (h : ofEntries entries = .ok s) (l : Layer)
    (hsorted : ∀ l' modules,
      (Layered.table l entries).at? [("logging", none), ("modules", some 1)] =
        some (.table l' modules) → modules.Pairwise fun a b => a.1 < b.1) :
    (∀ setting : Setting, s.Holds setting ((Layered.table l entries).at? setting.steps)) ∧
      s.logModules.Pairwise fun a b => a.1 < b.1 := by
  obtain ⟨hversion, hroot, hfolders, hdatabase, htarget, hdebounce, hlog⟩ := ofEntries_cases h
  have hfoldersField := readFrom_only_field (l := l) hfolders
  have hdatabaseField := readFrom_only_field (l := l) hdatabase
  have hdebounceField := readFrom_only_field (l := l) hdebounce
  have harchitecture := readFrom_section (l := l) (g := BuildTarget.architecture)
    (fun _ _ ht => (fields_of_target ht).1) htarget
  have hplatform := readFrom_section (l := l) (g := BuildTarget.platform)
    (fun _ _ ht => (fields_of_target ht).2) htarget
  have hlevel := readFrom_section (l := l) (g := Prod.fst)
    (fun _ _ hy => (fields_of_log hy).1) hlog
  have hmodules := readFrom_section (l := l) (g := Prod.snd)
    (fun _ _ hy => (fields_of_log hy).2) hlog
  obtain ⟨hparts, hpairwise⟩ := holds_logModules hmodules hsorted
  refine ⟨fun setting => ?_, hpairwise⟩
  cases setting with
  | version => exact holds_version (readFrom_entry hversion)
  | workspaceRoot => exact holds_workspaceRoot (readFrom_entry hroot)
  | folders => exact holds_folders hfoldersField
  | database => exact holds_database hdatabaseField
  | architecture => exact holds_of_text harchitecture rfl rfl fun _ => rfl
  | platform => exact holds_of_text hplatform rfl rfl fun _ => rfl
  | debounce => exact holds_debounce hdebounceField
  | logLevel => exact holds_of_text hlevel rfl rfl fun _ => rfl
  | logModule name =>
    have hsteps : (Setting.logModule name).steps =
        [("logging", none), ("modules", some 1)] ++ [(name, none)] := rfl
    rw [hsteps, Layered.at?_append, Layered.at?_singleton]
    exact hparts name

end Settings

end CompileIndex

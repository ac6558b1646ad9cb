import CompileIndex.Proofs.QueryAgreement

/-!
# Loading settings on a machine

Settings are loaded in three steps: the file is looked for, its text is read as a table, and the
table is read together with the environment.  None of them changes the machine, and the table does
not depend on the environment.

* `Surroundings.settingsFile?`, `Surroundings.settingsTable` — the file that a path leads to, and
  its table;
* `Surroundings.gives_loadFrom` — what loading settings gives;
* `Surroundings.loadFrom_eq_ok` — settings that are loaded are those that the layers give.
-/

namespace CompileIndex

open Settings (ofLayers)

namespace Surroundings

variable (w : Surroundings)

@[simp] theorem after_isFile (p : Path) :
    w.after (Access.isFile p : StateM Surroundings Bool) = w :=
  rfl

@[simp] theorem gives_isFile (p : Path) :
    w.gives (Access.isFile p) = w.disk.isFile w.directory p :=
  rfl

theorem after_bind {α β : Type} (first : StateM Surroundings α)
    (next : α → StateM Surroundings β) :
    w.after (first >>= next) = (w.after first).after (next (w.gives first)) :=
  rfl

/-- Looking for a file leaves a machine as it is. -/
theorem findPath_isFile (paths : List Path) :
    w.gives (Settings.findPath Access.isFile paths) = paths.find? (w.disk.isFile w.directory) ∧
      w.after (Settings.findPath Access.isFile paths) = w := by
  induction paths with
  | nil => exact ⟨rfl, rfl⟩
  | cons p paths ih =>
    rw [Settings.findPath, gives_bind, after_bind, after_isFile, gives_isFile, List.find?_cons]
    cases w.disk.isFile w.directory p with
    | true => exact ⟨rfl, rfl⟩
    | false => exact ih

/-- The settings file that a path leads to. -/
def settingsFile? (p : Path) : Option Path :=
  if p.isRooted then if w.disk.isFile w.directory p then some p else none
  else (w.here.ancestors.map (·.join p)).find? (w.disk.isFile w.directory)

/-- The table of that file, empty where there is none, or why it cannot be read. -/
def settingsTable (p : Path) : Except Settings.LoadError (List (String × Toml.Value)) :=
  match w.settingsFile? p with
  | none => .ok []
  | some file =>
    match w.textAt file with
    | .error cause => .error (.unreadable cause (Settings.shown w.here file))
    | .ok text =>
      match Toml.parse text with
      | some entries => .ok entries
      | none => .error (.notToml file)

theorem findFile_eq (p : Path) :
    w.gives (Settings.findFile p) = w.settingsFile? p ∧ w.after (Settings.findFile p) = w := by
  unfold Settings.findFile settingsFile?
  cases p.isRooted with
  | true =>
    simp only [if_true]
    rw [gives_bind, after_bind, after_isFile, gives_isFile]
    exact ⟨rfl, rfl⟩
  | false =>
    simp only [Bool.false_eq_true, if_false]
    rw [gives_bind, after_bind, gives_currentDirectory, after_currentDirectory]
    exact findPath_isFile w _

theorem readFile_eq (p : Path) :
    w.gives (Settings.readFile w.here (w.settingsFile? p)) = w.settingsTable p ∧
      w.after (Settings.readFile w.here (w.settingsFile? p)) = w := by
  unfold Settings.readFile settingsTable
  cases w.settingsFile? p with
  | none => exact ⟨rfl, rfl⟩
  | some file =>
    simp only
    rw [gives_bind, after_bind, gives_readText, after_readText]
    cases w.textAt file with
    | error cause => exact ⟨rfl, rfl⟩
    | ok text =>
      simp only
      cases Toml.parse text <;> exact ⟨rfl, rfl⟩

/-- **What loading settings gives**: what the file and the environment give, unless the file cannot
be read. -/
theorem gives_loadFrom (p : Path) :
    w.gives (Settings.loadFrom p) = (w.settingsTable p).bind fun file =>
      (ofLayers file w.environment).mapError fun fault =>
        .invalid fault (Settings.shown w.here ((w.settingsFile? p).getD p)) := by
  unfold Settings.loadFrom
  rw [gives_bind, gives_currentDirectory, after_currentDirectory, gives_bind, (findFile_eq w p).1,
    (findFile_eq w p).2, gives_bind, (readFile_eq w p).1, (readFile_eq w p).2]
  cases w.settingsTable p with
  | error e => rfl
  | ok file => rfl

/-- Settings that are loaded are those that the layers give. -/
theorem loadFrom_eq_ok {p : Path} {s : Settings} (h : w.gives (Settings.loadFrom p) = .ok s) :
    ∃ file, w.settingsTable p = .ok file ∧ ofLayers file w.environment = .ok s := by
  rw [gives_loadFrom] at h
  cases htable : w.settingsTable p with
  | error e =>
    rw [htable] at h
    cases h
  | ok file =>
    rw [htable] at h
    refine ⟨file, rfl, ?_⟩
    cases hlayers : ofLayers file w.environment with
    | ok s' =>
      simp only [Except.bind, hlayers] at h
      cases h
      rfl
    | error fault =>
      simp only [Except.bind, hlayers] at h
      cases h

end Surroundings

/-- A machine with one settings file. -/
def oneSettingsFile (text : String) (environment : List (String × String)) : Surroundings :=
  ⟨⟨[(["s.toml"], .file (text.toList.map fun c => c.toNat.toUInt8))]⟩, [], environment⟩

end CompileIndex

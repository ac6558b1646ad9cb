import CompileIndex.Proofs.InitialLayer
import CompileIndex.Proofs.Loading

/-!
# Precedence of the layers

Settings are loaded from a file and the environment.  A variable sets one setting and no other, a
setting without a variable has the value of the file, and one without either is the initial one.
There is one exception: a section that the file gives as a list counts only as long as no variable
sets a setting of that section, since a layer with a table replaces a list as a whole.

* `Setting.inEnvironment?`, `Setting.inFile?`, `Setting.found?` — what the layers have for a setting;
* `Variable.layer_append`, `Variable.along_layer` — what the environment has for a setting;
* `Settings.holds_of_ofLayers` — settings read from the layers;
* `Setting.inFile?_without`, `SetsKey.inFile?_eq` — one variable, or one key of the file, more or
  less;
* `Settings.loaded_one_by_one` — settings loaded on a machine.
-/

namespace CompileIndex

open Settings (initial ofLayers)

/-! ### The settings in the layers -/

namespace Setting

variable {file : List (String × Toml.Value)} {environment : List (String × String)}

/-- The value that the environment has for a setting. -/
def inEnvironment? (environment : List (String × String)) (setting : Setting) : Option Layered :=
  (environment.find? fun v => Variable.path? v.1 = some setting.path).map fun v =>
    Variable.read v.2

/-- Whether a variable leads into the section of a setting. -/
def touched (environment : List (String × String)) (setting : Setting) : Bool :=
  environment.any fun v => (Variable.path? v.1).any fun path =>
    path.head? = setting.path.head?

/-- The value that a settings file has for a setting: what its names lead to, where a section may
also be a list if no variable leads into it. -/
def inFile? (file : List (String × Toml.Value)) (environment : List (String × String))
    (setting : Setting) : Option Layered :=
  if setting.touched environment then (Layered.ofToml (.table file)).along setting.path
  else (Layered.ofToml (.table file)).at? setting.steps

/-- The value that counts for a setting. -/
def found? (file : List (String × Toml.Value)) (environment : List (String × String))
    (setting : Setting) : Option Layered :=
  (setting.inEnvironment? environment).or (setting.inFile? file environment)

theorem path_ne_nil (setting : Setting) : setting.path ≠ [] := by
  cases setting <;> exact nofun

/-- No setting stands below another one. -/
theorem eq_of_prefix {a b : Setting} (h : a.path <+: b.path) : a.path = b.path := by
  cases a <;> cases b <;> simp_all [path, steps]

end Setting

/-- That every variable of an environment that is one of settings sets a setting of its own. -/
def SetsSettings (environment : List (String × String)) : Prop :=
  (∀ v ∈ environment, ∀ path, Variable.path? v.1 = some path →
    ∃ setting : Setting, setting.path = path) ∧
  (environment.filterMap fun v => Variable.path? v.1).Nodup

theorem SetsSettings.front {environment : List (String × String)} {v : String × String}
    (h : SetsSettings (environment ++ [v])) : SetsSettings environment := by
  refine ⟨fun w hw => h.1 w (List.mem_append_left _ hw), ?_⟩
  have hnodup := h.2
  rw [List.filterMap_append] at hnodup
  exact (List.nodup_append.1 hnodup).1

theorem SetsSettings.of_paths {environment : List (String × String)} (settings : List Setting)
    (h : (environment.map fun v => Variable.path? v.1) = settings.map fun s => some s.path)
    (hnodup : (settings.map Setting.path).Nodup) : SetsSettings environment := by
  refine ⟨fun v hv path hpath => ?_, ?_⟩
  · have hmem : some path ∈ settings.map fun s => some s.path := by
      rw [← h, ← hpath]
      exact List.mem_map_of_mem hv
    obtain ⟨setting, _, heq⟩ := List.mem_map.1 hmem
    exact ⟨setting, Option.some.inj heq⟩
  · have hpaths : (environment.filterMap fun v => Variable.path? v.1) =
        (environment.map fun v => Variable.path? v.1).filterMap id := by
      rw [List.filterMap_map]
      rfl
    have hsettings : ((settings.map fun s => some s.path).filterMap id) =
        settings.map Setting.path := by
      rw [List.filterMap_map]
      exact congrFun List.filterMap_eq_map settings
    rw [hpaths, h, hsettings]
    exact hnodup

/-! ### The layer of the environment -/

namespace Variable

variable {environment : List (String × String)}

theorem layer_append (environment : List (String × String)) (v : String × String) :
    layer (environment ++ [v]) = match path? v.1 with
      | some path => (layer environment).merge (.nest .environment path (read v.2))
      | none => layer environment := by
  rw [layer, List.foldl_append]
  rfl

/-- Settings stand beside each other, so that none is in the way of another. -/
theorem clear_nest (v : Layered) (a b : Setting) :
    (Layered.nest .environment a.path v).Neat b.path ∧
      (Layered.nest .environment a.path v).Open b.path :=
  Layered.clear_nest .environment Setting.eq_of_prefix v

/-- Nothing is in the way of a setting. -/
theorem clear_layer (h : SetsSettings environment) (setting : Setting) :
    (layer environment).Neat setting.path ∧ (layer environment).Open setting.path := by
  induction environment using List.reverseRecOn with
  | nil => exact Layered.clear_empty .environment setting.path
  | append_singleton environment v ih =>
    obtain ⟨hneat, hopen⟩ := ih h.front
    rw [layer_append]
    cases hpath : path? v.1 with
    | none => exact ⟨hneat, hopen⟩
    | some path =>
      obtain ⟨other, rfl⟩ := h.1 v (List.mem_append_right _ List.mem_cons_self) path hpath
      obtain ⟨hneat', hopen'⟩ := clear_nest (read v.2) other setting
      exact ⟨Layered.neat_merge hneat hneat' hopen', Layered.open_merge hopen hopen' hneat'⟩

/-- **What the environment has** for a setting. -/
theorem along_layer (h : SetsSettings environment) (setting : Setting) :
    (layer environment).along setting.path = setting.inEnvironment? environment := by
  induction environment using List.reverseRecOn with
  | nil => exact Layered.along_empty .environment setting.path_ne_nil
  | append_singleton environment v ih =>
    have hbelow := ih h.front
    have hfind : setting.inEnvironment? (environment ++ [v]) =
        (setting.inEnvironment? environment).or (setting.inEnvironment? [v]) := by
      rw [Setting.inEnvironment?, List.find?_append, Option.map_or]
      rfl
    rw [layer_append, hfind]
    cases hpath : path? v.1 with
    | none =>
      have hnone : setting.inEnvironment? [v] = none := by
        simp [Setting.inEnvironment?, hpath]
      rw [hnone, Option.or_none]
      exact hbelow
    | some path =>
      obtain ⟨other, rfl⟩ := h.1 v (List.mem_append_right _ List.mem_cons_self) path hpath
      obtain ⟨hneat, hopen⟩ := clear_nest (read v.2) other setting
      simp only
      rw [Layered.along_merge hopen hneat, hbelow]
      by_cases hsame : other.path = setting.path
      · have hnew : setting.inEnvironment? environment = none := by
          have hnodup := h.2
          rw [List.filterMap_append, List.nodup_append] at hnodup
          rw [Setting.inEnvironment?, Option.map_eq_none_iff, List.find?_eq_none]
          intro w hw hwpath
          refine hnodup.2.2 setting.path (List.mem_filterMap.2 ⟨w, hw, by simpa using hwpath⟩)
            setting.path ?_ rfl
          simp [hpath, hsame]
        have hlast : setting.inEnvironment? [v] = some (read v.2) := by
          simp [Setting.inEnvironment?, hpath, hsame]
        rw [hsame, Layered.along_nest_self, hnew, hlast]
        rfl
      · rw [Layered.along_nest_of_ne _ Setting.eq_of_prefix
          (fun hprefix => Setting.eq_of_prefix hprefix) hsame]
        have hnone : setting.inEnvironment? [v] = none := by
          simp [Setting.inEnvironment?, hpath, hsame]
        rw [hnone, Option.or_none]
        rfl

/-- The names that the layer of the environment has are those that paths of variables begin
with. -/
theorem isSome_field?_layer (h : SetsSettings environment) (name : String) :
    ((layer environment).field? name none).isSome =
      environment.any fun v => (path? v.1).any fun path => path.head? = some name := by
  induction environment using List.reverseRecOn with
  | nil => rfl
  | append_singleton environment v ih =>
    have hbelow := ih h.front
    rw [layer_append, List.any_append, ← hbelow]
    cases hpath : path? v.1 with
    | none => simp [hpath]
    | some path =>
      obtain ⟨other, hother⟩ := h.1 v (List.mem_append_right _ List.mem_cons_self) path hpath
      obtain ⟨first, rest, rfl⟩ := List.exists_cons_of_ne_nil (hother ▸ other.path_ne_nil)
      have htable : ∃ l entries,
          Layered.nest .environment (first :: rest) (read v.2) = .table l entries :=
        ⟨_, _, rfl⟩
      have hsorted : ∀ l entries,
          Layered.nest .environment (first :: rest) (read v.2) = .table l entries →
            entries.Pairwise fun a b => a.1 < b.1 := by
        intro l entries heq
        cases heq
        exact List.pairwise_singleton _ _
      have hany : ([v].any fun v => (path? v.1).any fun path => path.head? = some name) =
          decide (first = name) := by
        simp [hpath]
      simp only
      rw [Layered.field?_merge htable hsorted, Layered.field?_nest, hany]
      by_cases hname : name = first
      · rw [if_pos hname, decide_eq_true hname.symm, Bool.or_true]
        rfl
      · rw [if_neg hname, decide_eq_false (Ne.symm hname), Bool.or_false]
        rfl

end Variable

/-! ### Both layers -/

namespace Setting

variable {environment : List (String × String)}

/-- The file under the environment. -/
def merged (file : List (String × Toml.Value)) (environment : List (String × String)) : Layered :=
  (Layered.ofToml (.table file)).merge (Variable.layer environment)

theorem touched_eq (setting : Setting) {name : String} {rest : List (String × Option Nat)}
    (hsteps : setting.steps = (name, none) :: rest) (h : SetsSettings environment) :
    setting.touched environment = ((Variable.layer environment).field? name none).isSome := by
  rw [Variable.isSome_field?_layer h, touched, path, hsteps]
  rfl

/-- Behind the first name of a setting, places count only in a list. -/
theorem steps_cons (setting : Setting) :
    ∃ name rest, setting.steps = (name, none) :: rest ∧
      ∀ v : Layered, (rest ≠ [] → ∀ l items, v ≠ .list l items) →
        v.at? rest = v.along (rest.map Prod.fst) := by
  have hfield {name : String} {i : Nat} {rest : List (String × Option Nat)} {v : Layered}
      (hv : ∀ l items, v ≠ .list l items) :
      v.at? ((name, some i) :: rest) = v.at? ((name, none) :: rest) := by
    cases v with
    | list l items => exact absurd rfl (hv l items)
    | _ => rfl
  cases setting with
  | version => exact ⟨_, _, rfl, fun v _ => rfl⟩
  | workspaceRoot => exact ⟨_, _, rfl, fun v _ => rfl⟩
  | folders => exact ⟨_, _, rfl, fun v hv => hfield (hv nofun)⟩
  | database => exact ⟨_, _, rfl, fun v hv => hfield (hv nofun)⟩
  | architecture => exact ⟨_, _, rfl, fun v hv => hfield (hv nofun)⟩
  | platform => exact ⟨_, _, rfl, fun v hv => hfield (hv nofun)⟩
  | debounce => exact ⟨_, _, rfl, fun v hv => hfield (hv nofun)⟩
  | logLevel => exact ⟨_, _, rfl, fun v hv => hfield (hv nofun)⟩
  | logModule name => exact ⟨_, _, rfl, fun v hv => hfield (hv nofun)⟩

/-- Whether the file gives the section of a setting as a list. -/
def listed (file : List (String × Toml.Value)) (setting : Setting) : Bool :=
  match setting.path.head?.bind fun name => file.lookup name with
  | some (.array _) => true
  | _ => false

/-- Where a section is no list, variables in it make no difference to what the file has. -/
theorem inFile?_of_not_listed {file : List (String × Toml.Value)} {setting : Setting}
    (h : setting.listed file = false) (environment : List (String × String)) :
    setting.inFile? file environment = (Layered.ofToml (.table file)).along setting.path := by
  obtain ⟨name, rest, hsteps, hlist⟩ := setting.steps_cons
  have hpath : setting.path = name :: rest.map Prod.fst := by
    rw [path, hsteps, List.map_cons]
  have hfield : (Layered.ofToml (.table file)).field? name none =
      (file.lookup name).map Layered.ofToml := Layered.lookup_ofTomlEntries file name
  have hat : (Layered.ofToml (.table file)).at? setting.steps =
      (Layered.ofToml (.table file)).along setting.path := by
    rw [hsteps, hpath, Layered.at?, Layered.along_cons, hfield]
    rw [listed, hpath] at h
    simp only [List.head?_cons, Option.bind_some] at h
    cases hv : file.lookup name with
    | none => rfl
    | some v =>
      refine hlist _ fun _ l items heq => ?_
      rw [hv] at h
      cases v with
      | array items => cases h
      | _ => cases heq
  rw [inFile?, hat, ite_self]

/-- A section that no variable leads into is that of the file; one that a variable leads into is a
table. -/
theorem section_cases (h : SetsSettings environment) (file : List (String × Toml.Value))
    {setting : Setting} {name : String} {rest : List (String × Option Nat)}
    (hsteps : setting.steps = (name, none) :: rest) :
    (setting.touched environment = false ∧
      (merged file environment).field? name none =
        (Layered.ofToml (.table file)).field? name none) ∨
    (setting.touched environment = true ∧ ∃ u,
      (merged file environment).field? name none = some u ∧
        (rest ≠ [] → ∃ l entries, u = .table l entries)) := by
  have hpath : setting.path = name :: rest.map Prod.fst := by
    rw [path, hsteps, List.map_cons]
  obtain ⟨hneat, hopen⟩ := Variable.clear_layer h setting
  rw [hpath] at hneat hopen
  have hfield : (merged file environment).field? name none = _ :=
    Layered.field?_merge hopen.1 hneat.1
  rw [touched_eq setting hsteps h, hfield]
  cases hlayer : (Variable.layer environment).field? name none with
  | none => exact Or.inl ⟨rfl, rfl⟩
  | some w =>
    refine Or.inr ⟨rfl, _, rfl, fun hrest => Layered.atop_table ?_ _⟩
    obtain ⟨step, more, rfl⟩ := List.exists_cons_of_ne_nil hrest
    exact (hopen.2 w hlayer).1

/-- **What both layers have for a setting**: what the environment has over what the file has, or
what the file has. -/
theorem at?_merged (h : SetsSettings environment) (file : List (String × Toml.Value))
    (setting : Setting) :
    (merged file environment).at? setting.steps =
      ((setting.inEnvironment? environment).map
        (Layered.atop ((Layered.ofToml (.table file)).along setting.path))).or
          (setting.inFile? file environment) := by
  obtain ⟨hneat, hopen⟩ := Variable.clear_layer h setting
  have halong : (merged file environment).along setting.path = _ :=
    Layered.along_merge hopen hneat (Layered.ofToml (.table file))
  rw [Variable.along_layer h] at halong
  obtain ⟨name, rest, hsteps, hlist⟩ := setting.steps_cons
  have hpath : setting.path = name :: rest.map Prod.fst := by
    rw [path, hsteps, List.map_cons]
  rw [inFile?]
  rcases section_cases h file hsteps with ⟨huntouched, hfield⟩ | ⟨htouched, u, hfield, hu⟩
  · have hnone : setting.inEnvironment? environment = none := by
      rw [touched_eq setting hsteps h] at huntouched
      have hlayer : (Variable.layer environment).field? name none = none := by
        simpa using huntouched
      rw [← Variable.along_layer h, hpath, Layered.along_cons, hlayer]
      rfl
    rw [huntouched, hnone, hsteps, Layered.at?, hfield]
    rfl
  · rw [htouched, if_pos rfl, ← halong, hsteps, hpath, Layered.at?, Layered.along_cons, hfield]
    refine hlist u fun hrest l items heq => ?_
    obtain ⟨l', entries, htable⟩ := hu hrest
    cases htable.symm.trans heq

/-- The table of the levels of parts is sorted. -/
theorem pairwise_modules (h : SetsSettings environment) (file : List (String × Toml.Value))
    {l : Layer} {modules : List (String × Layered)}
    (hmodules : (merged file environment).at? [("logging", none), ("modules", some 1)] =
      some (.table l modules)) : modules.Pairwise fun a b => a.1 < b.1 := by
  obtain ⟨hneat, hopen⟩ := Variable.clear_layer h (logModule "")
  have hmerged : (merged file environment).Neat (["logging", "modules"] ++ [""]) :=
    Layered.neat_merge (Layered.neat_ofToml _ (.table file)) hneat hopen
  have hsteps : (logModule "").steps =
      [("logging", none), ("modules", some 1), ("", none)] := rfl
  rcases section_cases h file hsteps with
    ⟨_, hfield⟩ | ⟨_, u, hfield, hu⟩
  · have hfile : (Layered.ofToml (.table file)).at? [("logging", none), ("modules", some 1)] =
        some (.table l modules) := by
      rw [Layered.at?, ← hfield]
      exact hmodules
    obtain ⟨v, hv⟩ := Layered.at?_ofToml hfile
    exact Layered.pairwise_of_ofToml hv.symm
  · obtain ⟨l', entries, rfl⟩ := hu (List.cons_ne_nil _ _)
    have halong : (merged file environment).along ["logging", "modules"] =
        some (.table l modules) := by
      rw [Layered.at?, hfield] at hmodules
      rw [Layered.along_cons, hfield]
      exact hmodules
    exact (Layered.neat_along hmerged halong).1 l modules rfl

end Setting

namespace Settings

variable {file : List (String × Toml.Value)} {environment : List (String × String)} {s : Settings}

/-- A table is of no kind that a setting has, and what is no table is not merged. -/
theorem read?_atop (setting : Setting) (below : Option Layered) (v : Layered) :
    setting.read? (Layered.atop below v) = setting.read? v := by
  cases v with
  | leaf => cases below <;> rfl
  | list => cases below <;> rfl
  | table l entries =>
    obtain ⟨l', merged, heq⟩ := Layered.atop_table ⟨l, entries, rfl⟩ below
    rw [heq]
    cases setting <;> rfl

/-- **Settings read from a file and the environment**, one by one. -/
theorem holds_of_ofLayers (h : SetsSettings environment)
    (hload : ofLayers file environment = .ok s) :
    (∀ setting : Setting, s.Holds setting (setting.found? file environment)) ∧
      s.logModules.Pairwise fun a b => a.1 < b.1 := by
  obtain ⟨l, entries, htable⟩ : ∃ l entries, Setting.merged file environment = .table l entries :=
    Layered.atop_table (Variable.clear_layer h .version).2.1 (some (Layered.ofToml (.table file)))
  have hread : ofEntries entries = .ok s := by
    rw [Setting.merged] at htable
    rw [ofLayers, htable] at hload
    exact hload
  obtain ⟨hholds, hpairwise⟩ := holds_of_ofEntries hread l fun l' modules hmodules =>
    Setting.pairwise_modules h file (htable ▸ hmodules)
  refine ⟨fun setting => ?_, hpairwise⟩
  have hfound := hholds setting
  rw [← htable, Setting.at?_merged h] at hfound
  rw [Setting.found?]
  cases hvariable : setting.inEnvironment? environment with
  | none =>
    rw [hvariable] at hfound
    exact hfound
  | some v =>
    rw [hvariable] at hfound
    cases hfound with
    | set hread hheld =>
      rw [read?_atop] at hread
      exact .set hread hheld

/-- **What is found for a setting** decides what is held for it. -/
theorem held_of_holds {setting : Setting} {found : Option Layered} (h : s.Holds setting found) :
    s.held setting = found.elim (initial.held setting) setting.read? := by
  cases h with
  | set hread hheld => exact hheld.trans hread.symm
  | unset hheld => exact hheld

end Settings

/-! ### One variable more or less -/

namespace Setting

variable {front back : List (String × String)} {v : String × String}

/-- Leaving out a variable makes no difference to what the environment has for the settings of
other variables. -/
theorem inEnvironment?_without {setting : Setting} (h : Variable.path? v.1 ≠ some setting.path) :
    setting.inEnvironment? (front ++ back) = setting.inEnvironment? (front ++ v :: back) := by
  have hother : decide (Variable.path? v.1 = some setting.path) = false := decide_eq_false h
  rw [inEnvironment?, inEnvironment?, List.find?_append, List.find?_append, List.find?_cons, hother]

/-- Nor does it make one to what the file has for a setting, unless the file gives the section as a
list and the variable leads into it. -/
theorem inFile?_without {file : List (String × Toml.Value)} {setting : Setting}
    (h : setting.listed file = true → ∀ path, Variable.path? v.1 = some path →
      path.head? ≠ setting.path.head?) :
    setting.inFile? file (front ++ back) = setting.inFile? file (front ++ v :: back) := by
  cases hlisted : setting.listed file with
  | false => rw [inFile?_of_not_listed hlisted, inFile?_of_not_listed hlisted]
  | true =>
    have hbeside : ((Variable.path? v.1).any fun path => path.head? = setting.path.head?) =
        false := by
      cases hpath : Variable.path? v.1 with
      | none => rfl
      | some path => exact decide_eq_false (h hlisted path hpath)
    have htouched : setting.touched (front ++ back) = setting.touched (front ++ v :: back) := by
      rw [touched, touched, List.any_append, List.any_append, List.any_cons, hbeside,
        Bool.false_or]
    rw [inFile?, inFile?, htouched]

end Setting

theorem SetsSettings.without {front back : List (String × String)} {v : String × String}
    (h : SetsSettings (front ++ v :: back)) : SetsSettings (front ++ back) := by
  have hsub : (front ++ back).Sublist (front ++ v :: back) :=
    (List.Sublist.refl front).append (List.sublist_cons_self v back)
  exact ⟨fun w hw => h.1 w (hsub.subset hw), h.2.sublist (hsub.filterMap _)⟩

/-! ### One key of the file more or less -/

/-- That a file is another one with a value for one setting, instead of the one that it had, if
any. -/
def SetsKey (file file' : List (String × Toml.Value)) (key : Setting) (v : Toml.Value) : Prop :=
  Layered.ofToml (.table file') =
    (Layered.ofToml (.table file)).merge (.nest .file key.path (.ofToml v))

/-- What the files have for other settings is the same, where neither gives a section as a list. -/
theorem SetsKey.inFile?_eq {file file' : List (String × Toml.Value)} {key setting : Setting}
    {v : Toml.Value} (h : SetsKey file file' key v) (hother : key.path ≠ setting.path)
    (hlisted : setting.listed file = false) (hlisted' : setting.listed file' = false)
    (environment : List (String × String)) :
    setting.inFile? file' environment = setting.inFile? file environment := by
  obtain ⟨hneat, hopen⟩ := Layered.clear_nest .file Setting.eq_of_prefix (.ofToml v)
  have hnone : (Layered.nest .file key.path (.ofToml v)).along setting.path = none :=
    Layered.along_nest_of_ne _ Setting.eq_of_prefix (fun hprefix => Setting.eq_of_prefix hprefix)
      hother _
  rw [Setting.inFile?_of_not_listed hlisted, Setting.inFile?_of_not_listed hlisted', h,
    Layered.along_merge hopen hneat, hnone]
  rfl

/-! ### Loading -/

/-- **Settings are loaded one by one.**  Every setting that a variable sets has the value of the
variable, every other one that the file has is that of the file, and all others are initial; the
levels of the parts are those of both layers.  Initial settings as a third layer beneath make no
difference.  With one variable more or less no other setting changes, unless the file gives its
section as a list and the variable leads into that section.  Nor does a setting change when another
file is loaded that has the same for it, such as one with another value for some other key. -/
theorem Settings.loaded_one_by_one {w : Surroundings} {p : Path} {s : Settings}
    (h : SetsSettings w.environment) (hload : w.gives (loadFrom p) = .ok s) :
    ∃ file, w.settingsTable p = .ok file ∧ (w.settingsFile? p = none → file = []) ∧
      (∀ l, ofThreeLayers l file w.environment = .ok s) ∧
      (∀ setting : Setting, s.Holds setting (setting.found? file w.environment)) ∧
      (s.logModules.Pairwise fun a b => a.1 < b.1) ∧
      (∀ front v back s', w.environment = front ++ v :: back →
        { w with environment := front ++ back }.gives (loadFrom p) = .ok s' →
        ∀ setting : Setting, Variable.path? v.1 ≠ some setting.path →
          (setting.listed file = true → ∀ path, Variable.path? v.1 = some path →
            path.head? ≠ setting.path.head?) →
          s'.held setting = s.held setting) ∧
      ∀ w' : Surroundings, w'.environment = w.environment → ∀ p' file' s',
        w'.settingsTable p' = .ok file' → w'.gives (loadFrom p') = .ok s' →
        ∀ setting : Setting,
          (setting.inFile? file' w.environment = setting.inFile? file w.environment →
            s'.held setting = s.held setting) ∧
          ∀ key v, SetsKey file file' key v → key.path ≠ setting.path →
            setting.listed file = false → setting.listed file' = false →
            s'.held setting = s.held setting := by
  obtain ⟨file, htable, hlayers⟩ := w.loadFrom_eq_ok hload
  obtain ⟨hholds, hpairwise⟩ := holds_of_ofLayers h hlayers
  refine ⟨file, htable, fun hnone => ?_, fun l => ?_, hholds, hpairwise, ?_, ?_⟩
  · rw [Surroundings.settingsTable, hnone] at htable
    exact (Except.ok.inj htable).symm
  · rw [ofThreeLayers_eq l file (Variable.clear_layer h), hlayers]
  · intro front v back s' hsplit hless setting hother hbeside
    obtain ⟨file', htable', hlayers'⟩ := Surroundings.loadFrom_eq_ok _ hless
    -- The table of the file does not depend on the environment.
    have hfile : file' = file := Except.ok.inj (htable'.symm.trans htable)
    rw [hsplit] at h hholds
    have hwithout := (holds_of_ofLayers h.without hlayers').1 setting
    have hfound : setting.found? file (front ++ back) = setting.found? file (front ++ v :: back) := by
      rw [Setting.found?, Setting.found?, Setting.inEnvironment?_without hother,
        Setting.inFile?_without hbeside]
    rw [hfile, hfound] at hwithout
    rw [held_of_holds hwithout, held_of_holds (hholds setting)]
  · intro w' henvironment p' file' s' htable' hload' setting
    obtain ⟨file'', htable'', hlayers'⟩ := w'.loadFrom_eq_ok hload'
    have hfile : file'' = file' := Except.ok.inj (htable''.symm.trans htable')
    rw [hfile, henvironment] at hlayers'
    have hsame (hin : setting.inFile? file' w.environment = setting.inFile? file w.environment) :
        s'.held setting = s.held setting := by
      have hholds' := (holds_of_ofLayers h hlayers').1 setting
      rw [Setting.found?, hin] at hholds'
      rw [held_of_holds hholds', held_of_holds (hholds setting), Setting.found?]
    refine ⟨hsame, fun key v hkey hother hlisted hlisted' => ?_⟩
    exact hsame (hkey.inFile?_eq hother hlisted hlisted' w.environment)

namespace Settings

/-- A file and two variables: the file has the architecture and two levels of parts, of which a
variable sets one. -/
theorem loaded_two_variables :
    let w := oneSettingsFile
      "[target]\narchitecture = \"x86\"\n[logging.modules]\na = \"info\"\nb = \"warn\"\n"
      [("ccindex_Logging__Modules__A", " debug"), ("CCINDEX_TARGET__PLATFORM", "windows")]
    SetsSettings w.environment ∧ ∃ s, w.gives (loadFrom ⟨"/s.toml"⟩) = .ok s ∧
      s.held .architecture = some (.text "x86") ∧ s.held .platform = some (.text "windows") ∧
      s.held (.logModule "a") = some (.text "debug") ∧
      s.held (.logModule "b") = some (.text "warn") ∧ s.held .version = some (.number 1) := by
  intro w
  have hsets : SetsSettings w.environment :=
    .of_paths [.logModule "a", .platform] (by decide +kernel) (by decide)
  have hloads : (w.gives (loadFrom ⟨"/s.toml"⟩)).toOption.isSome = true := by decide +kernel
  obtain ⟨s, hs⟩ := Option.isSome_iff_exists.1 hloads
  have hload := eq_ok_of_toOption hs
  obtain ⟨file, htable, _, _, hholds, _⟩ :=
    loaded_one_by_one (w := w) (p := ⟨"/s.toml"⟩) hsets hload
  obtain rfl : file = (w.settingsTable ⟨"/s.toml"⟩).toOption.getD [] := by
    rw [htable]
    rfl
  refine ⟨hsets, s, hload, ?_, ?_, ?_, ?_, ?_⟩
  · rw [held_of_holds (hholds .architecture)]
    decide +kernel
  · rw [held_of_holds (hholds .platform)]
    decide +kernel
  · rw [held_of_holds (hholds (.logModule "a"))]
    decide +kernel
  · rw [held_of_holds (hholds (.logModule "b"))]
    decide +kernel
  · rw [held_of_holds (hholds .version)]
    decide +kernel

/-- **A section that is a list**: the variable of the platform changes the architecture. -/
theorem variable_hides_list :
    let w := oneSettingsFile "target = [\"x86\", \"windows\"]\n"
    let environment := [("CCINDEX_TARGET__PLATFORM", "linux")]
    SetsSettings environment ∧ ∃ s s', (w []).gives (loadFrom ⟨"/s.toml"⟩) = .ok s ∧
      (w environment).gives (loadFrom ⟨"/s.toml"⟩) = .ok s' ∧
      s.held .architecture = some (.text "x86") ∧ s'.held .architecture = some (.text "x64") := by
  intro w environment
  have hsets : SetsSettings environment := .of_paths [.platform] (by decide +kernel) (by decide)
  have hwithout : ((w []).gives (loadFrom ⟨"/s.toml"⟩)).toOption =
      some { initial with target := ⟨"x86", "windows"⟩ } := by decide +kernel
  have hwith : ((w environment).gives (loadFrom ⟨"/s.toml"⟩)).toOption =
      some { initial with target := ⟨"x64", "linux"⟩ } := by decide +kernel
  exact ⟨hsets, _, _, eq_ok_of_toOption hwithout, eq_ok_of_toOption hwith, rfl, rfl⟩

end Settings

end CompileIndex

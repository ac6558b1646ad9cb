import CompileIndex.Proofs.SettingsLeaves

/-!
# A layer of initial settings

The initial settings may also be taken for a layer of their own, beneath the settings file: that
makes no difference.  A setting that no other layer has is initial in either way, and a section that
the file gives as a list hides the section beneath it.

* `Settings.initialLayer`, `Settings.ofThreeLayers` — the settings read with that layer;
* `Layered.onto`, `Layered.field?_onto` — a layer over another one, where either may have nothing;
* `Layered.Fills` — a section over initial values;
* `Settings.ofThreeLayers_eq` — nothing is read in another way.
-/

namespace CompileIndex

namespace Settings

/-- The initial settings as a layer. -/
def initialLayer (l : Layer) : Layered :=
  let text (s : String) : Layered := .leaf l (.text s)
  .table l [("database", .table l [("path", text initial.database.text)]),
    ("logging", .table l [("default", text initial.logLevel), ("modules", .table l [])]),
    ("target", .table l [("architecture", text initial.target.architecture),
      ("platform", text initial.target.platform)]),
    ("version", .leaf l (.unsigned initial.version.toNat)),
    ("watch", .table l [("debounce_ms", .leaf l (.unsigned initial.debounce.toNat))]),
    ("workspace", .table l [("folders", .list l [])])]

/-- The settings that the initial settings, a settings file and the environment give. -/
def ofThreeLayers (l : Layer) (file : List (String × Toml.Value))
    (environment : List (String × String)) : Except Fault Settings :=
  match ((initialLayer l).merge (.ofToml (.table file))).merge (Variable.layer environment) with
  | .table _ entries => ofEntries entries
  | _ => .ok initial

end Settings

/-! ### Layers that may have nothing -/

namespace Layered

variable {below v : Option Layered}

/-- What a layer has, if anything, over what the lower layer has. -/
def onto (below v : Option Layered) : Option Layered :=
  (v.map (atop below)).or below

theorem none_onto (v : Option Layered) : onto none v = v := by
  cases v <;> rfl

/-- That a layer has nothing there, or a sorted table. -/
def Tabular (v : Option Layered) : Prop :=
  ∀ w, v = some w → ∃ l entries, w = table l entries ∧ entries.Pairwise fun a b => a.1 < b.1

/-- **What is found under a name** in a layer over another one. -/
theorem field?_onto (h : Tabular v) (below : Option Layered) (name : String) :
    (onto below v).bind (field? name none) =
      onto (below.bind (field? name none)) (v.bind (field? name none)) := by
  cases v with
  | none => rfl
  | some w =>
    obtain ⟨l, entries, rfl, hsorted⟩ := h w rfl
    cases below with
    | none => exact (none_onto _).symm
    | some b =>
      refine field?_merge ⟨l, entries, rfl⟩ fun l' entries' heq => ?_
      cases heq
      exact hsorted

/-- What a layer has over the initial value of a setting. -/
theorem onto_onto {initial : Layered} {file environment : Option Layered}
    (hfile : ∀ v, file = some v → merge initial v = v)
    (henvironment : ∀ v, environment = some v → merge initial v = v) :
    onto (onto (some initial) file) environment =
      (onto file environment).or (some initial) := by
  cases file with
  | none =>
    cases environment with
    | none => rfl
    | some v => exact congrArg some (henvironment v rfl)
  | some f =>
    have hover : onto (some initial) (some f) = some f := congrArg some (hfile f rfl)
    rw [hover]
    cases environment <;> rfl

/-- A value that is no table is not merged with what stands over it. -/
theorem merge_of_not_table {below : Layered} (h : ∀ l entries, below ≠ table l entries)
    (v : Layered) : merge below v = v := by
  cases v with
  | table l entries =>
    cases below with
    | table l' old => exact absurd rfl (h l' old)
    | _ => rfl
  | _ => rfl

theorem mergeEntries_of_sorted {old new : List (String × Layered)}
    (h : (old ++ new).Pairwise fun a b => a.1 < b.1) : mergeEntries old new = old ++ new := by
  induction new generalizing old with
  | nil => exact (List.append_nil old).symm
  | cons e new ih =>
    obtain ⟨name, v⟩ := e
    have hless : ∀ e ∈ old, e.1 < name := fun e he =>
      (List.pairwise_append.1 h).2.2 e he (name, v) List.mem_cons_self
    have hnew : old.lookup name = none := by
      rw [List.lookup_eq_none_iff]
      intro e he
      rw [bne_iff_ne]
      rintro rfl
      exact String.lt_irrefl _ (hless e he)
    have happend : old ++ (name, v) :: new = (old ++ [(name, v)]) ++ new :=
      List.append_cons old _ new
    rw [mergeEntries_cons, hnew, atop, putNamed_last hless, happend]
    exact ih (happend ▸ h)

/-- Nothing is merged into an empty table. -/
theorem merge_empty (l : Layer) {v : Layered}
    (h : ∀ l' entries, v = table l' entries → entries.Pairwise fun a b => a.1 < b.1) :
    merge (table l []) v = v := by
  cases v with
  | table l' entries =>
    have hsorted := h l' entries rfl
    rw [← List.nil_append entries] at hsorted
    exact congrArg (table l') (mergeEntries_of_sorted hsorted)
  | _ => rfl

/-- A layer with nothing but a table there over one with nothing but a table there. -/
theorem table_of_onto (hbelow : ∀ w, below = some w → ∃ l entries, w = table l entries)
    (hv : Tabular v) {w : Layered} (h : onto below v = some w) :
    ∃ l entries, w = table l entries := by
  cases v with
  | none => exact hbelow w h
  | some u =>
    obtain ⟨l, entries, hu, _⟩ := hv u rfl
    cases h
    exact atop_table ⟨l, entries, hu⟩ below

/-- That a section has the fields of another one, and initial values where that one has none. -/
def Fills (initial : List (String × Layered)) (filled given : Option Layered) : Prop :=
  filled = given ∨ ∃ l entries, filled = some (table l entries) ∧
    (∀ w, given = some w → ∃ l' entries', w = table l' entries') ∧
    ∀ name v, initial.lookup name = some v →
      entries.lookup name = (given.bind (field? name none)).or (some v)

/-- **A section of the layers above fills one of initial values.** -/
theorem fills_onto {l : Layer} {initial : List (String × Layered)}
    {file environment : Option Layered}
    (hfile : ∀ l' entries, file = some (table l' entries) →
      entries.Pairwise fun a b => a.1 < b.1)
    (henvironment : Tabular environment)
    (h : ∀ e ∈ initial, ∀ w,
      file.bind (field? e.1 none) = some w ∨ environment.bind (field? e.1 none) = some w →
        merge e.2 w = w) :
    Fills initial (onto (onto (some (table l initial)) file) environment)
      (onto file environment) := by
  by_cases htabular : Tabular file
  · have htables : ∀ w, file = some w → ∃ l' entries, w = table l' entries := by
      intro w hw
      obtain ⟨l', entries, hw, _⟩ := htabular w hw
      exact ⟨l', entries, hw⟩
    have hbelow {w : Layered} (hw : onto (some (table l initial)) file = some w) :
        ∃ l' entries, w = table l' entries :=
      table_of_onto (fun _ h => ⟨l, initial, (Option.some.inj h).symm⟩) htabular hw
    obtain ⟨filled, hfilled⟩ : ∃ filled,
        onto (onto (some (table l initial)) file) environment = some filled := by
      cases environment <;> cases file <;> exact ⟨_, rfl⟩
    obtain ⟨l', entries, rfl⟩ := table_of_onto (fun _ hw => hbelow hw) henvironment hfilled
    refine Or.inr ⟨l', entries, hfilled, fun w hw => table_of_onto htables henvironment hw, ?_⟩
    intro name v hv
    have hinitial : (some (table l initial)).bind (field? name none) = some v := hv
    have hentry : entries.lookup name = (some (table l' entries)).bind (field? name none) := rfl
    rw [hentry, ← hfilled, field?_onto henvironment, field?_onto htabular, hinitial,
      field?_onto henvironment]
    have hmem : (name, v) ∈ initial := by
      obtain ⟨before, behind, rfl, _⟩ := List.lookup_eq_some_iff.1 hv
      exact List.mem_append_right before List.mem_cons_self
    exact onto_onto (fun w hw => h _ hmem w (Or.inl hw)) fun w hw => h _ hmem w (Or.inr hw)
  · refine Or.inl ?_
    cases file with
    | none => exact absurd (fun w hw => nomatch hw) htabular
    | some f =>
      cases f with
      | table l' entries =>
        refine absurd (fun w hw => ?_) htabular
        cases hw
        exact ⟨l', entries, rfl, hfile l' entries rfl⟩
      | _ => rfl

end Layered

/-! ### Reading filled sections -/

namespace Settings

open Located Layered

variable {α : Type} {filled given : Option Layered} {initialEntries : List (String × Layered)}

/-- A setting is read in the same way when it is filled with its initial value. -/
theorem orElse_or {unset : α} {read : Located → Except Fault α} {v : Layered}
    (h : ∀ path, read ⟨path, v⟩ = .ok unset) (given : Option Layered) (path : List String) :
    orElse unset read ((given.or (some v)).map fun w => ⟨path, w⟩) =
      orElse unset read (given.map fun w => ⟨path, w⟩) := by
  cases given with
  | none => exact h path
  | some w => rfl

/-- A section is read in the same way when it is filled with initial values. -/
theorem orElse_fills {unset : α} {read : Located → Except Fault α}
    (hempty : ∀ path l, read ⟨path, .table l []⟩ = .ok unset)
    (hread : ∀ path l l' entries entries',
      (∀ name v, initialEntries.lookup name = some v →
        entries.lookup name = (entries'.lookup name).or (some v)) →
      read ⟨path, .table l entries⟩ = read ⟨path, .table l' entries'⟩)
    (h : Fills initialEntries filled given) (path : List String) :
    orElse unset read (filled.map fun w => ⟨path, w⟩) =
      orElse unset read (given.map fun w => ⟨path, w⟩) := by
  rcases h with rfl | ⟨l, entries, rfl, hgiven, hentries⟩
  · rfl
  · cases given with
    | none =>
      -- A section that is not there is read like an empty one.
      show read ⟨path, .table l entries⟩ = .ok unset
      rw [← hempty path l]
      exact hread path l l entries [] hentries
    | some w =>
      obtain ⟨l', entries', rfl⟩ := hgiven w rfl
      exact hread path l l' entries entries' hentries

/-- A section with a single field. -/
theorem orElse_single (read : Located → Except Fault α) {unset : α}
    {field : Located → Except Fault α} {name : String} {v : Layered}
    (hread : ∀ path l entries, read ⟨path, .table l entries⟩ =
      orElse unset field ((entries.lookup name).map fun w => ⟨path ++ [name], w⟩))
    (hv : ∀ path, field ⟨path, v⟩ = .ok unset) (h : Fills [(name, v)] filled given)
    (path : List String) :
    orElse unset read (filled.map fun w => ⟨path, w⟩) =
      orElse unset read (given.map fun w => ⟨path, w⟩) := by
  refine orElse_fills (fun path l => ?_) (fun path l l' entries entries' hentries => ?_) h path
  · rw [hread]
    rfl
  · have hname := hentries name v (by rw [lookup_cons_eq, if_pos rfl])
    rw [hread, hread, hname]
    exact orElse_or hv _ _

/-- The section of the target. -/
theorem orElse_target {l : Layer}
    (h : Fills [("architecture", .leaf l (.text initial.target.architecture)),
      ("platform", .leaf l (.text initial.target.platform))] filled given) (path : List String) :
    orElse initial.target Located.target (filled.map fun w => ⟨path, w⟩) =
      orElse initial.target Located.target (given.map fun w => ⟨path, w⟩) := by
  have hread (path : List String) (l : Layer) (entries : List (String × Layered)) :
      Located.target ⟨path, .table l entries⟩ = (do
        let architecture ← orElse initial.target.architecture (text "a string")
          ((entries.lookup "architecture").map fun w => ⟨path ++ ["architecture"], w⟩)
        let platform ← orElse initial.target.platform (text "a string")
          ((entries.lookup "platform").map fun w => ⟨path ++ ["platform"], w⟩)
        return ⟨architecture, platform⟩) := rfl
  refine orElse_fills (fun path l => rfl) (fun path l l' entries entries' hentries => ?_) h path
  rw [hread, hread, hentries "architecture" _ rfl, hentries "platform" _ rfl,
    orElse_or fun _ => rfl, orElse_or fun _ => rfl]

/-- The section of the log. -/
theorem orElse_log {l : Layer}
    (h : Fills [("default", .leaf l (.text initial.logLevel)), ("modules", .table l [])]
      filled given) (path : List String) :
    orElse (initial.logLevel, initial.logModules) log (filled.map fun w => ⟨path, w⟩) =
      orElse (initial.logLevel, initial.logModules) log (given.map fun w => ⟨path, w⟩) := by
  have hread (path : List String) (l : Layer) (entries : List (String × Layered)) :
      log ⟨path, .table l entries⟩ = (do
        let level ← orElse initial.logLevel (text "a string")
          ((entries.lookup "default").map fun w => ⟨path ++ ["default"], w⟩)
        let modules ← orElse initial.logModules levels
          ((entries.lookup "modules").map fun w => ⟨path ++ ["modules"], w⟩)
        return (level, modules)) := rfl
  refine orElse_fills (fun path l => rfl) (fun path l l' entries entries' hentries => ?_) h path
  rw [hread, hread, hentries "default" _ rfl, hentries "modules" _ rfl,
    orElse_or fun _ => rfl, orElse_or fun _ => rfl]

/-- **Settings are read in the same way** from entries in which the initial values are filled in. -/
theorem ofEntries_fills {entries entries' : List (String × Layered)} (l : Layer)
    (hversion : entries.lookup "version" =
      (entries'.lookup "version").or (some (.leaf l (.unsigned initial.version.toNat))))
    (hroot : entries.lookup "workspace_root" = entries'.lookup "workspace_root")
    (hdatabase : Fills [("path", .leaf l (.text initial.database.text))]
      (entries.lookup "database") (entries'.lookup "database"))
    (hlogging : Fills [("default", .leaf l (.text initial.logLevel)), ("modules", .table l [])]
      (entries.lookup "logging") (entries'.lookup "logging"))
    (htarget : Fills [("architecture", .leaf l (.text initial.target.architecture)),
        ("platform", .leaf l (.text initial.target.platform))]
      (entries.lookup "target") (entries'.lookup "target"))
    (hwatch : Fills [("debounce_ms", .leaf l (.unsigned initial.debounce.toNat))]
      (entries.lookup "watch") (entries'.lookup "watch"))
    (hworkspace : Fills [("folders", .list l [])]
      (entries.lookup "workspace") (entries'.lookup "workspace")) :
    ofEntries entries = ofEntries entries' := by
  let natural32 (v : Located) : Except Fault UInt32 :=
    (v.natural "u32" 0x100000000).map UInt32.ofNat
  have hversionRead : orElse initial.version natural32
      ((entries.lookup "version").map fun v => ⟨["version"], v⟩) =
        orElse initial.version natural32
          ((entries'.lookup "version").map fun v => ⟨["version"], v⟩) := by
    rw [hversion]
    exact orElse_or (fun _ => rfl) _ _
  have hdatabaseRead := orElse_single Located.database (fun _ _ _ => rfl) (fun _ => rfl)
    hdatabase ["database"]
  have hwatchRead := orElse_single Located.debounce (fun _ _ _ => rfl) (fun _ => rfl)
    hwatch ["watch"]
  have hworkspaceRead := orElse_single Located.folders (fun _ _ _ => rfl) (fun _ => rfl)
    hworkspace ["workspace"]
  have htargetRead := orElse_target htarget ["target"]
  have hlogRead := orElse_log hlogging ["logging"]
  unfold ofEntries
  simp only [natural32] at hversionRead
  simp only [hversionRead, hroot, hdatabaseRead, hwatchRead, hworkspaceRead, htargetRead, hlogRead]

/-- What stands under a name in two layers. -/
theorem lookup_two (bottom : Layered) {l l' : Layer} {top entries : List (String × Layered)}
    (htop : Tabular (some (.table l top)))
    (h : bottom.merge (.table l top) = .table l' entries) (name : String) :
    entries.lookup name = onto (bottom.field? name none) (top.lookup name) := by
  have hupper := field?_onto htop (some bottom) name
  have hsome : onto (some bottom) (some (.table l top)) = some (.table l' entries) :=
    congrArg some h
  rw [hsome] at hupper
  exact hupper

/-- What stands under a name in three layers. -/
theorem lookup_three (bottom : Layered) {middle : Layered} {l l' : Layer}
    {top entries : List (String × Layered)} (hmiddle : Tabular (some middle))
    (htop : Tabular (some (.table l top)))
    (h : (bottom.merge middle).merge (.table l top) = .table l' entries) (name : String) :
    entries.lookup name =
      onto (onto (bottom.field? name none) (middle.field? name none)) (top.lookup name) := by
  have hlower : (bottom.merge middle).field? name none = _ := field?_onto hmiddle (some bottom) name
  rw [lookup_two (bottom.merge middle) htop h, hlower]
  rfl

/-- A section of the file and the environment fills the initial one, where the environment has
nothing but tables on the way to a setting of the section. -/
theorem fills_section {l l' : Layer} {file : List (String × Toml.Value)}
    {top initial : List (String × Layered)} {name next : String} {rest : List String}
    (hneat : (Layered.table l' top).Neat (name :: next :: rest))
    (hopen : (Layered.table l' top).Open (name :: next :: rest))
    (hfields : ∀ e ∈ initial, ∀ w,
      ((ofToml (.table file)).field? name none).bind (field? e.1 none) = some w ∨
        (top.lookup name).bind (field? e.1 none) = some w → merge e.2 w = w) :
    Fills initial
      (onto (onto (some (.table l initial)) ((ofToml (.table file)).field? name none))
        (top.lookup name))
      (onto ((ofToml (.table file)).field? name none) (top.lookup name)) := by
  refine fills_onto (fun l₁ entries hentries => ?_) (fun w hw => ?_) hfields
  · obtain ⟨u, hu⟩ := field?_ofToml hentries
    exact pairwise_of_ofToml hu.symm
  · obtain ⟨l₁, entries, rfl⟩ := (hopen.2 w hw).1
    exact ⟨l₁, entries, rfl, (hneat.2 _ hw).1 l₁ entries rfl⟩

/-- The levels of the parts of the program stand in a sorted table, in the file as well as in the
environment. -/
theorem pairwise_modules {l : Layer} {file : List (String × Toml.Value)}
    {top : List (String × Layered)} {name : String}
    (hneat : (Layered.table l top).Neat (Setting.logModule name).path) {w : Layered}
    (hw : ((ofToml (.table file)).field? "logging" none).bind (field? "modules" none) = some w ∨
      (top.lookup "logging").bind (field? "modules" none) = some w)
    {l' : Layer} {entries : List (String × Layered)} (htable : w = .table l' entries) :
    entries.Pairwise fun a b => a.1 < b.1 := by
  subst htable
  rcases hw with hw | hw
  · obtain ⟨v, hv, hw⟩ := Option.bind_eq_some_iff.1 hw
    obtain ⟨u, rfl⟩ := field?_ofToml hv
    obtain ⟨u', hu'⟩ := field?_ofToml hw
    exact pairwise_of_ofToml hu'.symm
  · obtain ⟨v, hv, hw⟩ := Option.bind_eq_some_iff.1 hw
    exact ((hneat.2 v hv).2 _ hw).1 l' entries rfl

/-- **A layer of initial settings makes no difference**, where the environment has nothing but tables
on the way to settings. -/
theorem ofThreeLayers_eq (l : Layer) (file : List (String × Toml.Value))
    {environment : List (String × String)}
    (h : ∀ setting : Setting, (Variable.layer environment).Neat setting.path ∧
      (Variable.layer environment).Open setting.path) :
    ofThreeLayers l file environment = ofLayers file environment := by
  unfold ofThreeLayers ofLayers
  generalize Variable.layer environment = top at h ⊢
  obtain ⟨l₁, new, rfl⟩ := (h .version).2.1
  obtain ⟨l₂, given, hgiven⟩ := atop_table ⟨l₁, new, rfl⟩ (some (ofToml (.table file)))
  obtain ⟨l₃, filled, hfilled⟩ :=
    atop_table ⟨l₁, new, rfl⟩ (some ((initialLayer l).merge (ofToml (.table file))))
  have htop : Tabular (some (table l₁ new)) := fun w hw => by
    cases hw
    exact ⟨l₁, new, rfl, (h .version).1.1 l₁ new rfl⟩
  have hmiddle : Tabular (some (ofToml (.table file))) := fun w hw => by
    cases hw
    exact ⟨.file, _, rfl, pairwise_ofTomlEntries file⟩
  have hthree := lookup_three (initialLayer l) hmiddle htop hfilled
  have htwo := lookup_two (ofToml (.table file)) htop hgiven
  have hsection (setting : Setting) {name next : String} {rest : List String}
      (hpath : setting.path = name :: next :: rest) {initial : List (String × Layered)}
      (hinitial : (initialLayer l).field? name none = some (.table l initial))
      (hfields : ∀ e ∈ initial, ∀ w,
        ((ofToml (.table file)).field? name none).bind (field? e.1 none) = some w ∨
          (new.lookup name).bind (field? e.1 none) = some w → merge e.2 w = w) :
      Fills initial (filled.lookup name) (given.lookup name) := by
    rw [hthree, htwo, hinitial]
    exact fills_section (hpath ▸ (h setting).1) (hpath ▸ (h setting).2) hfields
  have hleaf (x : Leaf) (w : Layered) : merge (.leaf l x) w = w :=
    merge_of_not_table (by exact fun _ _ => nofun) w
  have hread : ofEntries filled = ofEntries given := by
    refine ofEntries_fills l ?_ ?_ ?_ ?_ ?_ ?_ ?_
    · rw [hthree, htwo]
      exact onto_onto (fun w _ => hleaf _ w) fun w _ => hleaf _ w
    · rw [hthree, htwo]
      exact congrArg (onto · _) (none_onto _)
    · refine hsection .database rfl rfl ?_
      rw [List.forall_mem_singleton]
      exact fun w _ => hleaf _ w
    · refine hsection (.logModule "") rfl rfl ?_
      rw [List.forall_mem_cons, List.forall_mem_singleton]
      exact ⟨fun w _ => hleaf _ w, fun w hw =>
        merge_empty l fun _ _ htable => pairwise_modules (h (.logModule "")).1 hw htable⟩
    · refine hsection .architecture rfl rfl ?_
      rw [List.forall_mem_cons, List.forall_mem_singleton]
      exact ⟨fun w _ => hleaf _ w, fun w _ => hleaf _ w⟩
    · refine hsection .debounce rfl rfl ?_
      rw [List.forall_mem_singleton]
      exact fun w _ => hleaf _ w
    · refine hsection .folders rfl rfl ?_
      rw [List.forall_mem_singleton]
      exact fun w _ => merge_of_not_table (by exact fun _ _ => nofun) w
  rw [atop] at hgiven hfilled
  rw [hgiven, hfilled]
  exact hread

end Settings

end CompileIndex

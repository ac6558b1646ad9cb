import CompileIndex.Proofs.SortedNames

/-!
# Trees of layers

A value of a tree of layers stands at a path of names.  A layer over another one is the upper layer
wherever it has a value and the lower layer elsewhere, as long as the upper layer has nothing but
tables on the way.  Where the lower layer has a list on the way, the list is gone.

* `Layered.field?`, `Layered.at?`, `Layered.along` — the value at a path, also through lists;
* `Layered.Neat`, `Layered.Open` — sorted tables, and nothing but tables, on the way of a path;
* `Layered.along_merge` — what a layer over another one has at a path;
* `Layered.along_nest_self`, `Layered.along_nest_of_ne` — what a value under a path of names has at a
  path;
* `Layered.lookup_ofTomlEntries`, `Layered.neat_ofToml` — the layer of a settings file.
-/

namespace CompileIndex.Layered

/-! ### Values at paths -/

/-- The part of a value that has a name in a table, or, if it has a place in lists, that place in a
list. -/
def field? (name : String) (place : Option Nat) : Layered → Option Layered
  | leaf _ _ => none
  | list _ items => place.bind fun i => items[i]?
  | table _ entries => entries.lookup name

/-- The value at a path of names, of which some have a place in lists. -/
def at? : List (String × Option Nat) → Layered → Option Layered
  | [], v => some v
  | (name, place) :: rest, v => (v.field? name place).bind (at? rest)

/-- The value at a path of names through tables alone. -/
def along (path : List String) (v : Layered) : Option Layered :=
  v.at? (path.map fun name => (name, none))

theorem along_cons (name : String) (path : List String) (v : Layered) :
    v.along (name :: path) = (v.field? name none).bind (along path) :=
  rfl

theorem at?_append (p q : List (String × Option Nat)) (v : Layered) :
    v.at? (p ++ q) = (v.at? p).bind (at? q) := by
  induction p generalizing v with
  | nil => rfl
  | cons step p ih =>
    rw [List.cons_append, at?, at?]
    cases v.field? step.1 step.2 with
    | none => rfl
    | some w => exact ih w

theorem at?_singleton (name : String) (place : Option Nat) :
    at? [(name, place)] = field? name place := by
  funext v
  rw [at?]
  cases v.field? name place <;> rfl

/-- That every table on the way of a path is sorted. -/
def Neat : List String → Layered → Prop
  | [], _ => True
  | name :: rest, v =>
    (∀ l entries, v = table l entries → entries.Pairwise fun a b => a.1 < b.1) ∧
      ∀ w, v.field? name none = some w → Neat rest w

/-- That nothing but tables stands on the way of a path. -/
def Open : List String → Layered → Prop
  | [], _ => True
  | name :: rest, v =>
    (∃ l entries, v = table l entries) ∧ ∀ w, v.field? name none = some w → Open rest w

/-- Nothing stands in the way of an empty table. -/
theorem clear_empty (l : Layer) (path : List String) :
    (table l []).Neat path ∧ (table l []).Open path := by
  cases path with
  | nil => exact ⟨trivial, trivial⟩
  | cons name rest =>
    refine ⟨⟨fun l' entries heq => ?_, nofun⟩, ⟨l, [], rfl⟩, nofun⟩
    cases heq
    exact .nil

theorem along_empty (l : Layer) {path : List String} (h : path ≠ []) :
    (table l []).along path = none := by
  obtain ⟨name, rest, rfl⟩ := List.exists_cons_of_ne_nil h
  rfl

theorem neat_along {p q : List String} {v w : Layered} (h : Neat (p ++ q) v)
    (hw : v.along p = some w) : Neat q w := by
  induction p generalizing v with
  | nil =>
    cases hw
    exact h
  | cons name p ih =>
    rw [along_cons] at hw
    obtain ⟨u, hu, hw⟩ := Option.bind_eq_some_iff.1 hw
    exact ih (h.2 u hu) hw

/-! ### A layer over another one -/

/-- A value over the value of the lower layer, if there is one. -/
def atop : Option Layered → Layered → Layered
  | some below, v => merge below v
  | none, v => v

/-- A table over anything is a table. -/
theorem atop_table {v : Layered} (h : ∃ l entries, v = table l entries) (below : Option Layered) :
    ∃ l entries, atop below v = table l entries := by
  obtain ⟨l, entries, rfl⟩ := h
  rcases below with _ | (_ | _ | _)
  · exact ⟨l, entries, rfl⟩
  · exact ⟨l, entries, rfl⟩
  · exact ⟨l, entries, rfl⟩
  · exact ⟨l, _, rfl⟩

theorem mergeEntries_cons (old : List (String × Layered)) (name : String) (v : Layered)
    (new : List (String × Layered)) :
    mergeEntries old ((name, v) :: new) =
      mergeEntries (putNamed name (atop (old.lookup name) v) old) new := by
  rw [mergeEntries, put_eq]
  cases old.lookup name <;> rfl

theorem pairwise_mergeEntries {old : List (String × Layered)}
    (h : old.Pairwise fun a b => a.1 < b.1) (new : List (String × Layered)) :
    (mergeEntries old new).Pairwise fun a b => a.1 < b.1 := by
  induction new generalizing old with
  | nil => exact h
  | cons e new ih =>
    obtain ⟨name, v⟩ := e
    rw [mergeEntries_cons]
    exact ih (pairwise_putNamed name _ h)

/-- **What is found** in a table over another one. -/
theorem lookup_mergeEntries (old : List (String × Layered)) {new : List (String × Layered)}
    (h : new.Pairwise fun a b => a.1 < b.1) (name : String) :
    (mergeEntries old new).lookup name =
      ((new.lookup name).map (atop (old.lookup name))).or (old.lookup name) := by
  induction new generalizing old with
  | nil => rfl
  | cons e new ih =>
    obtain ⟨n, v⟩ := e
    obtain ⟨hn, hnew⟩ := List.pairwise_cons.1 h
    rw [mergeEntries_cons, ih _ hnew, lookup_putNamed, lookup_cons_eq]
    by_cases hname : name = n
    · subst hname
      have hlast : new.lookup name = none := by
        rw [List.lookup_eq_none_iff]
        intro e he
        rw [bne_iff_ne]
        rintro rfl
        exact String.lt_irrefl _ (hn e he)
      rw [hlast, if_pos rfl, if_pos rfl]
      rfl
    · rw [if_neg hname, if_neg hname]

/-- What is found under a name in a layer over another one. -/
theorem field?_merge {below v : Layered} {name : String}
    (hopen : ∃ l entries, v = table l entries)
    (hneat : ∀ l entries, v = table l entries → entries.Pairwise fun a b => a.1 < b.1) :
    (merge below v).field? name none =
      ((v.field? name none).map (atop (below.field? name none))).or (below.field? name none) := by
  obtain ⟨l, new, rfl⟩ := hopen
  have hnew := hneat l new rfl
  have hlone : new.lookup name = ((new.lookup name).map (atop none)).or none := by
    cases new.lookup name <;> rfl
  cases below with
  | leaf => exact hlone
  | list => exact hlone
  | table _ old => exact lookup_mergeEntries old hnew name

/-- **What stands at a path** in a layer over another one. -/
theorem along_merge {path : List String} {v : Layered} (hopen : v.Open path) (hneat : v.Neat path)
    (below : Layered) :
    (merge below v).along path =
      ((v.along path).map (atop (below.along path))).or (below.along path) := by
  induction path generalizing below v with
  | nil => rfl
  | cons name rest ih =>
    rw [along_cons, along_cons, along_cons, field?_merge hopen.1 hneat.1]
    cases hv : v.field? name none with
    | none => rfl
    | some w =>
      simp only [Option.map_some, Option.some_or, Option.bind_some]
      cases hbelow : below.field? name none with
      | none =>
        simp only [atop, Option.bind_none, Option.or_none]
        cases w.along rest <;> rfl
      | some u => exact ih (hopen.2 w hv) (hneat.2 w hv) u

theorem neat_merge {path : List String} {below v : Layered} (hbelow : below.Neat path)
    (hv : v.Neat path) (hopen : v.Open path) : (merge below v).Neat path := by
  induction path generalizing below v with
  | nil => trivial
  | cons name rest ih =>
    refine ⟨?_, ?_⟩
    · obtain ⟨l, new, rfl⟩ := hopen.1
      have hnew := hv.1 l new rfl
      intro l' entries heq
      cases below with
      | leaf =>
        cases heq
        exact hnew
      | list =>
        cases heq
        exact hnew
      | table l'' old =>
        cases heq
        exact pairwise_mergeEntries (hbelow.1 l'' old rfl) new
    · intro w hw
      rw [field?_merge hopen.1 hv.1] at hw
      cases hfield : v.field? name none with
      | none =>
        rw [hfield] at hw
        exact hbelow.2 w hw
      | some u =>
        rw [hfield, Option.map_some, Option.some_or] at hw
        cases hw
        cases hlower : below.field? name none with
        | none => exact hv.2 u hfield
        | some lower => exact ih (hbelow.2 lower hlower) (hv.2 u hfield) (hopen.2 u hfield)

theorem open_merge {path : List String} {below v : Layered} (hbelow : below.Open path)
    (hv : v.Open path) (hneat : v.Neat path) : (merge below v).Open path := by
  induction path generalizing below v with
  | nil => trivial
  | cons name rest ih =>
    refine ⟨?_, ?_⟩
    · obtain ⟨l, new, rfl⟩ := hv.1
      obtain ⟨l', old, rfl⟩ := hbelow.1
      exact ⟨l, _, rfl⟩
    · intro w hw
      rw [field?_merge hv.1 hneat.1] at hw
      cases hfield : v.field? name none with
      | none =>
        rw [hfield] at hw
        exact hbelow.2 w hw
      | some u =>
        rw [hfield, Option.map_some, Option.some_or] at hw
        cases hw
        cases hlower : below.field? name none with
        | none => exact hv.2 u hfield
        | some lower => exact ih (hbelow.2 lower hlower) (hv.2 u hfield) (hneat.2 u hfield)

/-! ### A value under a path of names -/

theorem field?_nest (l : Layer) (name : String) (path : List String) (v : Layered) (k : String) :
    (nest l (name :: path) v).field? k none = if k = name then some (nest l path v) else none :=
  lookup_cons_eq k name _ []

/-- A nested value is sorted, and open as far as it is nested. -/
theorem clear_nest (l : Layer) {path q : List String} (h : path <+: q → path = q) (v : Layered) :
    (nest l path v).Neat q ∧ (nest l path v).Open q := by
  induction q generalizing path with
  | nil => exact ⟨trivial, trivial⟩
  | cons name rest ih =>
    cases path with
    | nil => cases h List.nil_prefix
    | cons k path =>
      have hinner : ∀ w, (nest l (k :: path) v).field? name none = some w →
          w.Neat rest ∧ w.Open rest := by
        intro w hw
        rw [field?_nest] at hw
        split_ifs at hw with hname
        cases hw
        subst hname
        refine ih fun hprefix => ?_
        exact (List.cons.inj (h (List.cons_prefix_cons.2 ⟨rfl, hprefix⟩))).2
      refine ⟨⟨fun l' entries heq => ?_, fun w hw => (hinner w hw).1⟩,
        ⟨l, _, rfl⟩, fun w hw => (hinner w hw).2⟩
      cases heq
      exact List.pairwise_singleton _ _

/-- **What stands at the path** of a nested value. -/
theorem along_nest_self (l : Layer) (path : List String) (v : Layered) :
    (nest l path v).along path = some v := by
  induction path with
  | nil => rfl
  | cons name path ih =>
    rw [along_cons, field?_nest, if_pos rfl]
    exact ih

/-- Nothing stands at a path that parts from that of a nested value. -/
theorem along_nest_of_ne (l : Layer) {path q : List String} (h : path <+: q → path = q)
    (h' : q <+: path → q = path) (hne : path ≠ q) (v : Layered) :
    (nest l path v).along q = none := by
  induction q generalizing path with
  | nil => exact absurd (h' List.nil_prefix).symm hne
  | cons name rest ih =>
    cases path with
    | nil => cases h List.nil_prefix
    | cons k path =>
      rw [along_cons, field?_nest]
      split_ifs with hname
      · subst hname
        rw [Option.bind_some]
        refine ih (fun hprefix => ?_) (fun hprefix => ?_) fun heq => hne (heq ▸ rfl)
        · exact (List.cons.inj (h (List.cons_prefix_cons.2 ⟨rfl, hprefix⟩))).2
        · exact (List.cons.inj (h' (List.cons_prefix_cons.2 ⟨rfl, hprefix⟩))).2
      · rfl

/-! ### The layer of a settings file -/

theorem ofTomlEntries_cons (name : String) (v : Toml.Value) (rest : List (String × Toml.Value)) :
    ofTomlEntries ((name, v) :: rest) = putNamed name (ofToml v) (ofTomlEntries rest) := by
  rw [ofTomlEntries, put_eq]

/-- **What is found** in the layer of a settings file is what stands in the file. -/
theorem lookup_ofTomlEntries (entries : List (String × Toml.Value)) (name : String) :
    (ofTomlEntries entries).lookup name = (entries.lookup name).map ofToml := by
  induction entries with
  | nil => rfl
  | cons e entries ih =>
    obtain ⟨n, v⟩ := e
    rw [ofTomlEntries_cons, lookup_putNamed, lookup_cons_eq, ih]
    split_ifs <;> rfl

theorem pairwise_ofTomlEntries (entries : List (String × Toml.Value)) :
    (ofTomlEntries entries).Pairwise fun a b => a.1 < b.1 := by
  induction entries with
  | nil => exact .nil
  | cons e entries ih =>
    obtain ⟨n, v⟩ := e
    rw [ofTomlEntries_cons]
    exact pairwise_putNamed n _ ih

/-- Where no name comes twice, nothing is lost. -/
theorem perm_ofTomlEntries {entries : List (String × Toml.Value)}
    (h : (entries.map Prod.fst).Nodup) :
    (ofTomlEntries entries).Perm (entries.map (Prod.map id ofToml)) := by
  induction entries with
  | nil => exact .refl _
  | cons e entries ih =>
    obtain ⟨name, v⟩ := e
    rw [List.map_cons, List.nodup_cons] at h
    have hrest := ih h.2
    have hnew : name ∉ (ofTomlEntries entries).map Prod.fst := by
      rw [(hrest.map Prod.fst).mem_iff, List.map_map]
      exact h.1
    rw [ofTomlEntries_cons]
    exact (perm_putNamed (ofToml v) hnew).trans (hrest.cons _)

theorem ofTomlItems_eq_map (items : List Toml.Value) : ofTomlItems items = items.map ofToml := by
  induction items with
  | nil => rfl
  | cons v items ih => rw [ofTomlItems, ih, List.map_cons]

/-- The tables of a settings file are sorted. -/
theorem pairwise_of_ofToml {v : Toml.Value} {l : Layer} {entries : List (String × Layered)}
    (h : ofToml v = table l entries) : entries.Pairwise fun a b => a.1 < b.1 := by
  cases v with
  | datetime t =>
    cases h
    exact List.pairwise_singleton _ _
  | table file =>
    cases h
    exact pairwise_ofTomlEntries file
  | _ => cases h

/-- What has a name or a place in a value of a settings file is a value of the file, or the text of
a date. -/
theorem field?_ofToml {v : Toml.Value} {name : String} {place : Option Nat} {w : Layered}
    (h : (ofToml v).field? name place = some w) : ∃ u, w = ofToml u := by
  cases v with
  | datetime t =>
    have hfield : (ofToml (.datetime t)).field? name place =
        if name = datetimeName then some (leaf .file (.text t)) else none :=
      lookup_cons_eq name datetimeName _ []
    rw [hfield] at h
    split_ifs at h
    cases h
    exact ⟨.string t, rfl⟩
  | table file =>
    have hfield : (ofToml (.table file)).field? name place = (file.lookup name).map ofToml :=
      lookup_ofTomlEntries file name
    rw [hfield] at h
    obtain ⟨u, _, rfl⟩ := Option.map_eq_some_iff.1 h
    exact ⟨u, rfl⟩
  | array items =>
    obtain ⟨i, _, hi⟩ := Option.bind_eq_some_iff.1 h
    rw [ofTomlItems_eq_map, List.getElem?_map] at hi
    obtain ⟨u, _, rfl⟩ := Option.map_eq_some_iff.1 hi
    exact ⟨u, rfl⟩
  | _ => cases h

theorem at?_ofToml {steps : List (String × Option Nat)} {v : Toml.Value} {w : Layered}
    (h : (ofToml v).at? steps = some w) : ∃ u, w = ofToml u := by
  induction steps generalizing v with
  | nil => exact ⟨v, (Option.some.inj h).symm⟩
  | cons step steps ih =>
    obtain ⟨name, place⟩ := step
    obtain ⟨x, hx, hw⟩ := Option.bind_eq_some_iff.1 h
    obtain ⟨u, rfl⟩ := field?_ofToml hx
    exact ih hw

/-- The layer of a settings file is sorted on every way. -/
theorem neat_ofToml (path : List String) (v : Toml.Value) : (ofToml v).Neat path := by
  induction path generalizing v with
  | nil => trivial
  | cons name rest ih =>
    refine ⟨fun l entries h => pairwise_of_ofToml h, fun w hw => ?_⟩
    obtain ⟨u, rfl⟩ := field?_ofToml hw
    exact ih u

end CompileIndex.Layered

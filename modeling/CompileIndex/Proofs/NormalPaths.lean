import CompileIndex.Proofs.Anchoring
import CompileIndex.Proofs.RelativePaths

/-!
# Normal forms as paths

A path is brought into normal form one component after the other.  What there is so far is a path at
every moment: a name is pushed onto it, a `.` is passed over, and a `..` takes its last component
off, unless nothing is left but the root or nothing at all.  Pushing and taking off work on texts,
and the normal form is a matter of components; the two go together because a path in normal form is
always spelled as its components are.

So the normal form is a path again, and it is its own normal form.  It stands for the path in front
of everything else: what is put below the one has the normal form of what is put below the other.

* `Path.fold`, `Path.normalized` — one component added, and the normal form of a path as a path;
* `Path.parent_ofComponents` — the last name taken off again;
* `Path.fold_ofComponents`, `Path.foldl_fold` — one component and any number of components, added to
  a path in normal form;
* `Path.normalized_eq`, `Path.components_normalized` — the path that has the normal form;
* `Path.normalized_congruent` — the laws of the normal form.
-/

namespace CompileIndex

namespace Path

/-- One component of a path added to what there is so far. -/
def fold (done : Path) : Component → Path
  | .here => done
  | .parent =>
    match done.components.getLast? with
    | none => done
    | some .root => done
    | some _ => done.parent.getD done
  | step => done.push step

/-- The lexical normal form of a path as a path. -/
def normalized (p : Path) : Path :=
  p.components.foldl fold ⟨""⟩

/-! ### How paths in normal form are spelled -/

/-- The pieces of a path in normal form: nothing for the root, and the texts of the names. -/
def layout (base names : List Component) : List (List Char) :=
  (base.map fun _ => []) ++ names.map fun c => c.text.toList

theorem layout_concat (base names : List Component) (c : Component) :
    layout base (names ++ [c]) = layout base names ++ [c.text.toList] := by
  simp [layout]

section

variable {base names : List Component}

/-- Pieces are put together as the first of them and the text of the others. -/
theorem unpieces_cons (first : List Char) (more : List (List Char)) :
    unpieces (first :: more) = first ++ tailText more := by
  induction more generalizing first with
  | nil => exact (List.append_nil first).symm
  | cons piece more ih =>
    show first ++ '/' :: unpieces (piece :: more) = first ++ tailText (piece :: more)
    rw [ih, tailText_cons]
    rfl

/-- A path in normal form, the root alone excepted, is spelled as its pieces put together. -/
theorem spelled_eq_unpieces (hbase : base = [] ∨ base = [.root]) (h : ∀ c ∈ names, c.IsStep)
    (hne : base = [] ∨ names ≠ []) : spelled (base ++ names) = unpieces (layout base names) := by
  cases names with
  | nil =>
    rcases hne with rfl | hne
    · rfl
    · exact absurd rfl hne
  | cons first rest =>
    rcases hbase with rfl | rfl
    · have hfirst := ne_root_of_isStep (h first List.mem_cons_self)
      exact (spelled_cons hfirst rest).trans (unpieces_cons _ _).symm
    · exact (unpieces_cons [] ((first :: rest).map fun c => c.text.toList)).symm

/-- It is cut into these pieces again. -/
theorem pieces_spelled (hbase : base = [] ∨ base = [.root]) (h : ∀ c ∈ names, c.IsStep)
    (hne : names ≠ []) : pieces (spelled (base ++ names)) = layout base names := by
  have htexts := slash_not_mem_texts h
  rw [spelled_eq_unpieces hbase h (Or.inr hne)]
  rcases hbase with rfl | rfl
  · obtain ⟨first, rest, rfl⟩ := List.exists_cons_of_ne_nil hne
    obtain ⟨hfirst, hrest⟩ := List.forall_mem_cons.1 htexts
    exact (congrArg pieces (unpieces_cons _ _)).trans (pieces_tailText hfirst hrest)
  · exact (congrArg pieces (unpieces_cons _ _)).trans (pieces_tailText List.not_mem_nil htexts)

/-- Names pushed onto the root or onto nothing are spelled as they are. -/
theorem text_ofComponents_base (hbase : base = [] ∨ base = [.root]) (h : ∀ c ∈ names, c.IsStep) :
    (ofComponents (base ++ names)).text.toList = spelled (base ++ names) := by
  rcases hbase with rfl | rfl
  · exact (text_ofComponents h).1
  · have hroot : (⟨""⟩ : Path).push .root = ⟨String.ofList ([] ++ ['/'])⟩ := by decide
    rw [ofComponents, List.foldl_append, List.foldl_cons, List.foldl_nil, hroot]
    exact (text_foldl_push [] h).1

/-- **Names pushed onto the root or onto nothing** are the components of the path that they make. -/
theorem components_ofComponents_base (hbase : base = [] ∨ base = [.root])
    (h : ∀ c ∈ names, c.IsPlain) : (ofComponents (base ++ names)).components = base ++ names := by
  have hsteps : ∀ c ∈ names, c.IsStep := fun c hc => (h c hc).isStep
  rcases hbase with rfl | rfl
  · exact components_ofComponents h
  · by_cases hne : names = []
    · subst hne
      decide
    · have hpieces := pieces_spelled (Or.inr rfl) hsteps hne
      have hleading : leading [] (names.map fun c => c.text.toList) = [.root] := by
        simp [leading, hne]
      rw [components, text_ofComponents_base (Or.inr rfl) hsteps, componentsOf_of_pieces hpieces]
      exact congrArg₂ _ hleading (filterMap_texts h)

/-- The last name is the last component. -/
theorem getLast?_ofComponents_base {last : Component} (hbase : base = [] ∨ base = [.root])
    (h : ∀ c ∈ names ++ [last], c.IsPlain) :
    (ofComponents (base ++ (names ++ [last]))).components.getLast? = some last := by
  rw [components_ofComponents_base hbase h, ← List.append_assoc, List.getLast?_concat]

/-! ### The last name taken off -/

/-- Pieces of which only the first may be silent are kept. -/
theorem dropSilent_reverse {first : List Char} {more : List (List Char)}
    (h : ∀ piece ∈ more, isSilent piece = false) :
    dropSilent (first :: more).reverse = (first :: more).reverse := by
  cases more using List.reverseRecOn with
  | nil => rfl
  | append_singleton more last =>
    have hlast : isSilent last = false := h last (by simp)
    rw [← List.cons_append, List.reverse_append, List.reverse_singleton, List.singleton_append]
    cases hmore : (first :: more).reverse with
    | nil => simp at hmore
    | cons next rest => simp [dropSilent, hlast]

/-- The text of a plain component is not silent. -/
theorem isSilent_text {c : Component} (h : c.IsPlain) : isSilent c.text.toList = false := by
  cases hs : isSilent c.text.toList with
  | false => rfl
  | true =>
    have hspelled := h.1
    rw [ofPiece?_of_silent hs] at hspelled
    cases hspelled

/-- No piece of a path in normal form is dropped. -/
theorem dropSilent_layout (hbase : base = [] ∨ base = [.root]) (h : ∀ c ∈ names, c.IsPlain) :
    dropSilent (layout base names).reverse = (layout base names).reverse := by
  have htexts : ∀ piece ∈ names.map fun c => c.text.toList, isSilent piece = false := by
    intro piece hpiece
    obtain ⟨c, hc, rfl⟩ := List.mem_map.1 hpiece
    exact isSilent_text (h c hc)
  rcases hbase with rfl | rfl
  · cases names with
    | nil => rfl
    | cons first rest => exact dropSilent_reverse (List.forall_mem_cons.1 htexts).2
  · exact dropSilent_reverse htexts

/-- Only the root alone has one piece without characters. -/
theorem layout_eq_iff (hbase : base = [] ∨ base = [.root]) (h : ∀ c ∈ names, c.IsStep) :
    layout base names = [[]] ↔ base = [.root] ∧ names = [] := by
  constructor
  · intro hlayout
    rcases hbase with rfl | rfl
    · have htexts : (names.map fun c => c.text.toList) = [[]] := hlayout
      have hmem : [] ∈ names.map fun c => c.text.toList := by simp [htexts]
      obtain ⟨c, hc, hempty⟩ := List.mem_map.1 hmem
      exact absurd hempty (h c hc).1
    · exact ⟨rfl, List.map_eq_nil_iff.1 (List.cons.inj hlayout).2⟩
  · rintro ⟨rfl, rfl⟩
    rfl

/-- **The last name taken off** leaves what it was pushed onto. -/
theorem parent_ofComponents {last : Component} (hbase : base = [] ∨ base = [.root])
    (h : ∀ c ∈ names ++ [last], c.IsPlain) :
    (ofComponents (base ++ (names ++ [last]))).parent = some (ofComponents (base ++ names)) := by
  have hplain : ∀ c ∈ names, c.IsPlain := fun c hc => h c (List.mem_append_left _ hc)
  have hsteps : ∀ c ∈ names, c.IsStep := fun c hc => (hplain c hc).isStep
  -- The last component is not the root, so there is something to take off.
  have hlast : last ≠ .root := ne_root_of_isStep (h last (by simp)).isStep
  have hkept : dropSilent ((dropSilent (pieces
      (ofComponents (base ++ (names ++ [last]))).text.toList).reverse).drop 1) =
      (layout base names).reverse := by
    have hall : ∀ c ∈ names ++ [last], c.IsStep := fun c hc => (h c hc).isStep
    rw [text_ofComponents_base hbase hall, pieces_spelled hbase hall (by simp),
      dropSilent_layout hbase h, layout_concat, List.reverse_append]
    exact dropSilent_layout hbase hplain
  unfold parent
  rw [getLast?_ofComponents_base hbase h]
  simp only [hkept]
  split
  · next hroot =>
    have hlayout : layout base names = [[]] := List.reverse_injective hroot
    obtain ⟨rfl, rfl⟩ := (layout_eq_iff hbase hsteps).1 hlayout
    rfl
  · next hroot =>
    have hne : base = [] ∨ names ≠ [] := by
      by_contra hnone
      rw [not_or, not_not] at hnone
      have hlayout := (layout_eq_iff hbase hsteps).2 ⟨hbase.resolve_left hnone.1, hnone.2⟩
      exact hroot (congrArg List.reverse hlayout)
    have htext := text_ofComponents_base hbase hsteps
    rw [spelled_eq_unpieces hbase hsteps hne] at htext
    rw [List.reverse_reverse, ← htext, String.ofList_toList]

/-! ### Components added one after the other -/

/-- **One component** added to a path in normal form, which is held last component first. -/
theorem fold_ofComponents (hbase : base = [] ∨ base = [.root])
    (h : ∀ c ∈ names, (∃ text, c = .name text) ∧ c.IsPlain) {step : Component}
    (hstep : step.IsPlain) :
    (ofComponents (names ++ base).reverse).fold step =
      ofComponents (foldComponent (names ++ base) step).reverse := by
  cases step with
  | root => exact absurd hstep Component.not_isPlain_root
  | here => rfl
  | parent =>
    cases names with
    | nil => rcases hbase with rfl | rfl <;> decide
    | cons last before =>
      obtain ⟨⟨text, rfl⟩, _⟩ := h last List.mem_cons_self
      have hreverse : base.reverse = base := by rcases hbase with rfl | rfl <;> rfl
      have hsplit : (.name text :: before ++ base).reverse =
          base ++ (before.reverse ++ [.name text]) := by simp [hreverse]
      have hplain : ∀ c ∈ before.reverse ++ [.name text], c.IsPlain := by
        intro c hc
        exact (h c (by simpa [or_comm] using hc)).2
      have hbefore : (before ++ base).reverse = base ++ before.reverse := by simp [hreverse]
      rw [hsplit, fold, getLast?_ofComponents_base hbase hplain, parent_ofComponents hbase hplain]
      exact congrArg ofComponents hbefore.symm
  | name text =>
    show (ofComponents (names ++ base).reverse).push (.name text) =
      ofComponents (.name text :: (names ++ base)).reverse
    rw [List.reverse_cons, ofComponents_concat]

/-- **Any number of components** added to a path in normal form. -/
theorem foldl_fold {steps : List Component} (hbase : base = [] ∨ base = [.root])
    (h : ∀ c ∈ names, (∃ text, c = .name text) ∧ c.IsPlain) (hsteps : ∀ c ∈ steps, c.IsPlain) :
    steps.foldl fold (ofComponents (names ++ base).reverse) =
      ofComponents (steps.foldl foldComponent (names ++ base)).reverse := by
  induction steps generalizing names with
  | nil => rfl
  | cons step rest ih =>
    obtain ⟨hstep, hrest⟩ := List.forall_mem_cons.1 hsteps
    obtain ⟨names', hnames', hplain'⟩ := foldComponent_names hbase h hstep
    rw [List.foldl_cons, List.foldl_cons, fold_ofComponents hbase h hstep, hnames']
    exact ih hplain' hrest

end

/-- **The normal form of a path as a path** is what its components make up. -/
theorem normalized_eq (p : Path) : p.normalized = ofComponents p.normalForm := by
  obtain ⟨steps, hsteps, hfold⟩ := p.foldl_components
  have hroot : p.rootPart.foldl fold ⟨""⟩ = ofComponents ([] ++ p.rootPart).reverse := by
    rcases p.rootPart_cases with hbase | hbase <;> rw [hbase] <;> decide
  rw [normalized, normalForm, normalize, hfold fold ⟨""⟩ fun _ => rfl,
    hfold foldComponent [] fun _ => rfl, hroot, foldl_rootPart]
  exact foldl_fold p.rootPart_cases (List.forall_mem_nil _) hsteps

/-- **Its components are the normal form.** -/
theorem components_normalized (p : Path) : p.normalized.components = p.normalForm := by
  obtain ⟨names, hform, hnames⟩ := p.normalForm_eq
  rw [normalized_eq, hform]
  exact components_ofComponents_base p.rootPart_cases fun c hc => (hnames c hc).2

/-! ### Laws -/

/-- A path is absolute exactly when its first component is the root. -/
theorem isRooted_iff_head? (p : Path) : p.isRooted = true ↔ p.components.head? = some .root := by
  obtain ⟨steps, hsteps, hcomponents | ⟨hrelative, hcomponents⟩⟩ := p.components_cases
  · rw [hcomponents, rootPart]
    cases p.isRooted with
    | true => simp
    | false =>
      refine iff_of_false Bool.false_ne_true ?_
      intro hhead
      exact Component.not_isPlain_root (hsteps _ (List.mem_of_mem_head? hhead))
  · rw [hcomponents]
    exact iff_of_false (by simp [hrelative]) (by simp)

/-- A normal form is its own normal form. -/
theorem normalize_normalForm (p : Path) : normalize p.normalForm = p.normalForm := by
  obtain ⟨names, hform, hnames⟩ := p.normalForm_eq
  rw [hform, normalize, List.foldl_append, foldl_rootPart,
    foldl_names fun c hc => (hnames c hc).1, List.reverse_append, List.reverse_reverse,
    reverse_rootPart]

/-- The normal form of a path as a path has that normal form. -/
theorem normalForm_normalized (p : Path) : p.normalized.normalForm = p.normalForm := by
  rw [normalForm, components_normalized, normalize_normalForm]

/-- A path and its normal form are absolute or relative alike. -/
theorem isRooted_normalized (p : Path) : p.normalized.isRooted = p.isRooted := by
  obtain ⟨names, hform, hnames⟩ := p.normalForm_eq
  rw [Bool.eq_iff_iff, isRooted_iff_head?, components_normalized, hform, rootPart]
  cases p.isRooted with
  | true => simp
  | false =>
    refine iff_of_false ?_ Bool.false_ne_true
    intro hhead
    obtain ⟨text, htext⟩ := (hnames _ (List.mem_of_mem_head? hhead)).1
    cases htext

/-- **What is put below a path** has the normal form of what is put below its normal form. -/
theorem normalForm_join_normalized (a b : Path) :
    (a.normalized.join b).normalForm = (a.join b).normalForm := by
  by_cases hrooted : b.isRooted = true
  · rw [join, join, if_pos hrooted, if_pos hrooted]
  · rw [Bool.not_eq_true] at hrooted
    have hfront : normalize a.normalized.components = normalize a.components :=
      a.normalForm_normalized
    rw [normalForm_join _ hrooted, normalForm_join _ hrooted, normalize_append, normalize_append,
      hfront]

/-- In a normal form there is no `.` and no `..`. -/
theorem ne_of_mem_normalForm {p : Path} {c : Component} (hc : c ∈ p.normalForm) :
    c ≠ .here ∧ c ≠ .parent := by
  obtain ⟨names, hform, hnames⟩ := p.normalForm_eq
  rw [hform] at hc
  rcases List.mem_append.1 hc with hroot | hname
  · rcases p.rootPart_cases with hbase | hbase
    · rw [hbase] at hroot
      cases hroot
    · rw [hbase] at hroot
      rw [List.mem_singleton.1 hroot]
      exact ⟨nofun, nofun⟩
  · obtain ⟨⟨text, rfl⟩, _⟩ := hnames c hname
    exact ⟨nofun, nofun⟩

/-- **The normal form stands for the path.**  Built up by pushing and taking off, it has the
components that the normal form is computed as, and among them is no `.` and no `..`; it is absolute
just when the path is; it is spelled as its own normal form is; other spellings of the path have the
same; and whatever is put below the path, be it relative or absolute, the normal form is that of the
same put below the normal form. -/
theorem normalized_congruent (a b : Path) :
    let form := a.normalized
    form.components = a.normalForm ∧
      (∀ c ∈ form.components, c ≠ .here ∧ c ≠ .parent) ∧
      form.isRooted = a.isRooted ∧
      form.normalized = form ∧
      (a.Same b → b.normalized = form) ∧
      (a.join b).normalized = (form.join b).normalized := by
  intro form
  refine ⟨a.components_normalized, ?_, a.isRooted_normalized, ?_, ?_, ?_⟩
  · intro c hc
    rw [a.components_normalized] at hc
    exact ne_of_mem_normalForm hc
  · rw [normalized_eq form, a.normalForm_normalized, ← normalized_eq]
  · intro hsame
    have hcomponents : a.components = b.components := hsame
    rw [normalized_eq, normalForm, ← hcomponents]
    exact a.normalized_eq.symm
  · rw [normalized_eq, normalized_eq, normalForm_join_normalized]

/-- Above the root there is nothing, and in front of a relative path nothing is kept. -/
example : (⟨"/../../p"⟩ : Path).normalized = ⟨"/p"⟩ ∧
    (⟨"./a/../../b/."⟩ : Path).normalized = ⟨"b"⟩ := by
  decide

/-- Two spellings of a path that goes above the root, and what is put below it. -/
theorem normalized_congruent_respelled :
    let a : Path := ⟨"/../p//./x/../y/"⟩
    let b : Path := ⟨"/../p/x/../y"⟩
    (a.Same b ∧ b.normalized = ⟨"/p/y"⟩) ∧
      (a.join ⟨"../../../z"⟩).normalized = (a.normalized.join ⟨"../../../z"⟩).normalized := by
  intro a b
  have hsame : a.Same b := by decide
  have hform : a.normalized = ⟨"/p/y"⟩ := by decide
  obtain ⟨_, _, _, _, hcongr, _⟩ := normalized_congruent a b
  obtain ⟨_, _, _, _, _, hjoin⟩ := normalized_congruent a ⟨"../../../z"⟩
  exact ⟨⟨hsame, (hcongr hsame).trans hform⟩, hjoin⟩

end Path

end CompileIndex

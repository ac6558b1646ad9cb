import CompileIndex.Path.Relative
import CompileIndex.Proofs.Spelling
import Mathlib.Data.List.Basic
import Mathlib.Data.List.Induction

/-!
# Normal forms of paths

A path spells the root, or a `.`, or nothing in front, and then steps, none of which has a slash in
its text.  Its normal form is the root, if the path is absolute, and names alone.  Steps pushed one
after the other onto nothing are spelled as they are, with a slash between any two.

* `Component.IsStep`, `Component.IsPlain` — a component that a piece between slashes can spell, and
  one that its own text spells there;
* `Path.components_cases` — what the components of a path are;
* `Path.normalForm_eq` — its normal form is the root, if it is absolute, and names;
* `Path.text_ofComponents` — the text of a path made of steps.
-/

namespace CompileIndex

/-- Whether a component is one step: its text has characters, and no slash is among them. -/
def Component.IsStep (c : Component) : Prop :=
  c.text.toList ≠ [] ∧ '/' ∉ c.text.toList

namespace Component

instance (c : Component) : Decidable c.IsStep :=
  inferInstanceAs (Decidable (_ ∧ _))

theorem isStep_parent : parent.IsStep := by decide

theorem not_isStep_root : ¬ root.IsStep := by decide

/-- Whether a component is a name that is one step. -/
def IsName (c : Component) : Prop :=
  (∃ text, c = name text) ∧ c.IsStep

/-- Whether a component is what its own text spells between two slashes. -/
def IsPlain (c : Component) : Prop :=
  ofPiece? c.text.toList = some c ∧ '/' ∉ c.text.toList

theorem isPlain_parent : parent.IsPlain :=
  ⟨rfl, by decide⟩

theorem IsPlain.isStep {c : Component} (h : c.IsPlain) : c.IsStep := by
  refine ⟨?_, h.2⟩
  intro hnil
  have hspelled := h.1
  rw [hnil] at hspelled
  cases hspelled

theorem not_isPlain_root : ¬ root.IsPlain :=
  fun h => not_isStep_root h.isStep

end Component

namespace Path

/-! ### The components of a path -/

theorem slash_not_mem_pieces (text : List Char) : ∀ piece ∈ pieces text, '/' ∉ piece := by
  induction text with
  | nil => simp [pieces]
  | cons c rest ih =>
    simp only [pieces]
    by_cases hc : c = '/'
    · simpa [hc] using ih
    · rw [if_neg hc]
      cases hrest : pieces rest with
      | nil => exact absurd hrest (pieces_ne_nil rest)
      | cons piece more =>
        rw [hrest] at ih
        intro other hother
        rcases List.mem_cons.1 hother with rfl | hmore
        · simp [ih piece List.mem_cons_self, Ne.symm hc]
        · exact ih other (List.mem_cons_of_mem _ hmore)

/-- What a piece without slashes spells, its own text spells. -/
theorem isPlain_of_ofPiece? {piece : List Char} {c : Component}
    (h : Component.ofPiece? piece = some c) (hslash : '/' ∉ piece) : c.IsPlain := by
  cases hs : isSilent piece with
  | true =>
    rw [ofPiece?_of_silent hs] at h
    cases h
  | false =>
    obtain ⟨d, hd, _, htext⟩ := ofPiece?_of_loud hs
    cases h.symm.trans hd
    rw [Component.IsPlain, htext]
    exact ⟨h, hslash⟩

/-- What pieces without slashes spell, their own texts spell. -/
theorem isPlain_of_mem_filterMap {more : List (List Char)} (h : ∀ piece ∈ more, '/' ∉ piece) :
    ∀ c ∈ more.filterMap Component.ofPiece?, c.IsPlain := by
  intro c hc
  obtain ⟨piece, hpiece, hspelled⟩ := List.mem_filterMap.1 hc
  exact isPlain_of_ofPiece? hspelled (h piece hpiece)

/-- The root of an absolute path, and nothing of any other. -/
def rootPart (p : Path) : List Component :=
  if p.isRooted then [.root] else []

theorem isRooted_of_text {p : Path} {first : List Char} {more : List (List Char)}
    (htext : p.text.toList = first ++ tailText more) (hslash : '/' ∉ first) :
    p.isRooted = true ↔ first = [] ∧ more ≠ [] := by
  rw [isRooted, decide_eq_true_eq, htext]
  cases first with
  | nil => cases more <;> simp [tailText]
  | cons c rest =>
    have hc : c ≠ '/' := fun h => hslash (h ▸ List.mem_cons_self)
    simp [hc]

/-- **What the components of a path are**: the root or nothing, or a `.` when the path is relative,
and then what pieces between slashes spell. -/
theorem components_cases (p : Path) :
    ∃ steps, (∀ c ∈ steps, c.IsPlain) ∧
      (p.components = p.rootPart ++ steps ∨
        (p.isRooted = false ∧ p.components = .here :: steps)) := by
  obtain ⟨first, more, hpieces, htext⟩ := exists_pieces p.text.toList
  have hslash : ∀ piece ∈ first :: more, '/' ∉ piece := hpieces ▸ slash_not_mem_pieces _
  have hcomponents : p.components = leading first more ++ more.filterMap Component.ofPiece? :=
    componentsOf_of_pieces hpieces
  have hrooted := isRooted_of_text htext (hslash first List.mem_cons_self)
  have hplain := isPlain_of_mem_filterMap fun piece hpiece =>
    hslash piece (List.mem_cons_of_mem _ hpiece)
  by_cases hfirst : first = []
  · -- Nothing stands in front of the first slash, if there is one.
    refine ⟨more.filterMap Component.ofPiece?, hplain, Or.inl ?_⟩
    rw [hcomponents, rootPart, leading, if_pos hfirst]
    by_cases hmore : more = []
    · rw [if_pos hmore, if_neg (by simp [hrooted, hmore])]
    · rw [if_neg hmore, if_pos (hrooted.2 ⟨hfirst, hmore⟩)]
  · have hrelative : p.isRooted = false := by simp [← Bool.not_eq_true, hrooted, hfirst]
    by_cases hdot : first = ['.']
    · refine ⟨more.filterMap Component.ofPiece?, hplain, Or.inr ⟨hrelative, ?_⟩⟩
      rw [hcomponents, leading, if_neg hfirst, if_pos hdot]
      rfl
    · refine ⟨(first :: more).filterMap Component.ofPiece?, isPlain_of_mem_filterMap hslash,
        Or.inl ?_⟩
      rw [hcomponents, rootPart, hrelative, leading, if_neg hfirst, if_neg hdot,
        List.filterMap_cons]
      cases Component.ofPiece? first <;> rfl

/-- Only a path without a text has no components. -/
theorem components_eq_nil_iff (p : Path) : p.components = [] ↔ p.text = "" := by
  obtain ⟨first, more, hpieces, htext⟩ := exists_pieces p.text.toList
  have hcomponents : p.components = leading first more ++ more.filterMap Component.ofPiece? :=
    componentsOf_of_pieces hpieces
  rw [hcomponents, ← String.toList_eq_nil_iff, htext, List.append_eq_nil_iff,
    List.append_eq_nil_iff]
  by_cases hfirst : first = []
  · cases more <;> simp [hfirst, leading, tailText]
  · obtain ⟨c, hc, _⟩ := leading_of_ne_nil hfirst more
    simp [hfirst, hc]

/-- **An absolute path is the root and steps.** -/
theorem components_of_isRooted {p : Path} (h : p.isRooted = true) :
    ∃ steps, p.components = .root :: steps ∧ ∀ c ∈ steps, c.IsStep := by
  obtain ⟨steps, hsteps, hcomponents | ⟨hrelative, _⟩⟩ := p.components_cases
  · rw [rootPart, if_pos h] at hcomponents
    exact ⟨steps, hcomponents, fun c hc => (hsteps c hc).isStep⟩
  · rw [h] at hrelative
    cases hrelative

/-! ### Normal forms -/

/-- One step added to the root or nothing and names leaves the same and names. -/
theorem foldComponent_names {base names : List Component} (hbase : base = [] ∨ base = [.root])
    (h : ∀ c ∈ names, (∃ text, c = .name text) ∧ c.IsPlain) {step : Component}
    (hstep : step.IsPlain) :
    ∃ names', foldComponent (names ++ base) step = names' ++ base ∧
      ∀ c ∈ names', (∃ text, c = .name text) ∧ c.IsPlain := by
  cases step with
  | root => exact absurd hstep Component.not_isPlain_root
  | here => exact ⟨names, rfl, h⟩
  | parent =>
    cases names with
    | nil => rcases hbase with rfl | rfl <;> exact ⟨[], rfl, h⟩
    | cons last before =>
      obtain ⟨⟨text, rfl⟩, _⟩ := h last List.mem_cons_self
      exact ⟨before, rfl, fun c hc => h c (List.mem_cons_of_mem _ hc)⟩
  | name text =>
    refine ⟨.name text :: names, rfl, ?_⟩
    intro c hc
    rcases List.mem_cons.1 hc with rfl | hc
    · exact ⟨⟨text, rfl⟩, hstep⟩
    · exact h c hc

/-- Steps added to the root or nothing and names leave the same and names. -/
theorem foldl_foldComponent_names {base names steps : List Component}
    (hbase : base = [] ∨ base = [.root])
    (h : ∀ c ∈ names, (∃ text, c = .name text) ∧ c.IsPlain) (hsteps : ∀ c ∈ steps, c.IsPlain) :
    ∃ names', steps.foldl foldComponent (names ++ base) = names' ++ base ∧
      ∀ c ∈ names', (∃ text, c = .name text) ∧ c.IsPlain := by
  induction steps generalizing names with
  | nil => exact ⟨names, rfl, h⟩
  | cons step rest ih =>
    obtain ⟨between, hstep, hbetween⟩ :=
      foldComponent_names hbase h (hsteps step List.mem_cons_self)
    rw [List.foldl_cons, hstep]
    exact ih hbetween fun c hc => hsteps c (List.mem_cons_of_mem _ hc)

/-- What is added to a list of components is added to its normal form. -/
theorem normalize_append (front steps : List Component) :
    normalize (front ++ steps) =
      (steps.foldl foldComponent (normalize front).reverse).reverse := by
  rw [normalize, normalize, List.foldl_append, List.reverse_reverse]

/-- What passes every `.` over goes through the root, if the path is absolute, and then through what
pieces between slashes spell. -/
theorem foldl_components (p : Path) :
    ∃ steps : List Component, (∀ c ∈ steps, c.IsPlain) ∧
      ∀ {β : Type} (f : β → Component → β) (start : β), (∀ done, f done .here = done) →
        p.components.foldl f start = steps.foldl f (p.rootPart.foldl f start) := by
  obtain ⟨steps, hsteps, hcomponents⟩ := p.components_cases
  refine ⟨steps, hsteps, ?_⟩
  intro β f start hhere
  rcases hcomponents with hcomponents | ⟨hrelative, hcomponents⟩
  · rw [hcomponents, List.foldl_append]
  · have hnone : p.rootPart = [] := if_neg (by simp [hrelative])
    rw [hcomponents, List.foldl_cons, hhere, hnone, List.foldl_nil]

/-- In front of the names of a normal form there is the root, or nothing. -/
theorem rootPart_cases (p : Path) : p.rootPart = [] ∨ p.rootPart = [.root] := by
  unfold rootPart
  split
  · exact Or.inr rfl
  · exact Or.inl rfl

theorem reverse_rootPart (p : Path) : p.rootPart.reverse = p.rootPart := by
  rcases p.rootPart_cases with hbase | hbase <;> rw [hbase] <;> rfl

theorem foldl_rootPart (p : Path) : p.rootPart.foldl foldComponent [] = p.rootPart := by
  rcases p.rootPart_cases with hbase | hbase <;> rw [hbase] <;> rfl

/-- **The normal form of a path is the root, if the path is absolute, and names.** -/
theorem normalForm_eq (p : Path) :
    ∃ names, p.normalForm = p.rootPart ++ names ∧
      ∀ c ∈ names, (∃ text, c = .name text) ∧ c.IsPlain := by
  obtain ⟨steps, hsteps, hfold⟩ := p.foldl_components
  obtain ⟨names, hnames, hplain⟩ :=
    foldl_foldComponent_names p.rootPart_cases (List.forall_mem_nil _) hsteps
  refine ⟨names.reverse, ?_, fun c hc => hplain c (List.mem_reverse.1 hc)⟩
  rw [normalForm, normalize, hfold foldComponent [] fun _ => rfl, foldl_rootPart,
    ← List.nil_append p.rootPart, hnames, List.reverse_append, reverse_rootPart]
  rfl

/-- **The normal form of an absolute path is the root and names.** -/
theorem normalForm_of_isRooted {p : Path} (h : p.isRooted = true) :
    ∃ names, p.normalForm = .root :: names ∧ ∀ c ∈ names, c.IsName := by
  obtain ⟨names, hnames, hplain⟩ := p.normalForm_eq
  rw [rootPart, if_pos h] at hnames
  exact ⟨names, hnames, fun c hc => ⟨(hplain c hc).1, (hplain c hc).2.isStep⟩⟩

/-! ### The text of steps -/

theorem ofComponents_concat (cs : List Component) (c : Component) :
    ofComponents (cs ++ [c]) = (ofComponents cs).push c := by
  simp only [ofComponents, List.foldl_append, List.foldl_cons, List.foldl_nil]

theorem ne_root_of_isStep {c : Component} (h : c.IsStep) : c ≠ .root := by
  rintro rfl
  exact Component.not_isStep_root h

/-- The text of a step is no absolute path. -/
theorem not_isRooted_text {c : Component} (h : c.IsStep) : ¬ (⟨c.text⟩ : Path).isRooted = true := by
  simp only [isRooted, decide_eq_true_eq]
  intro hhead
  exact h.2 (List.mem_of_mem_head? hhead)

/-- A step pushed onto a text that does not end with a slash stands behind a new one. -/
theorem text_push {base : Path} {c : Component} (hc : c.IsStep) (hbase : base.text ≠ "")
    (hslash : base.text.toList.getLast? ≠ some '/') :
    (base.push c).text.toList = base.text.toList ++ '/' :: c.text.toList := by
  rw [push, join, if_neg (not_isRooted_text hc), if_neg (by simp [hbase, hslash])]
  simp

theorem spelled_singleton {c : Component} (h : c.IsStep) : spelled [c] = c.text.toList := by
  rw [spelled_cons (ne_root_of_isStep h)]
  exact List.append_nil _

/-- The text of several steps starts as that of the first. -/
theorem head?_spelled {c : Component} (h : c.IsStep) (rest : List Component) :
    (spelled (c :: rest)).head? = c.text.toList.head? := by
  rw [spelled_cons (ne_root_of_isStep h), List.head?_append_of_ne_nil _ h.1]

/-- The last step of several is spelled behind a slash. -/
theorem spelled_concat {cs : List Component} (h : ∀ c ∈ cs, c.IsStep) (hne : cs ≠ [])
    (c : Component) : spelled (cs ++ [c]) = spelled cs ++ '/' :: c.text.toList := by
  cases cs with
  | nil => exact absurd rfl hne
  | cons first rest =>
    have hfirst := ne_root_of_isStep (h first List.mem_cons_self)
    rw [List.cons_append, spelled_cons hfirst, spelled_cons hfirst]
    simp [tailText]

/-- The text of a step ends with one of its characters, so not with a slash. -/
theorem getLast?_append_text (front : List Char) {c : Component} (h : c.IsStep) :
    (front ++ c.text.toList).getLast? ≠ some '/' := by
  intro hlast
  rw [List.getLast?_append, List.getLast?_eq_some_getLast h.1, Option.some_or] at hlast
  exact h.2 (Option.some.inj hlast ▸ List.getLast_mem h.1)

/-- **Steps pushed onto nothing are spelled as they are.** -/
theorem text_ofComponents {cs : List Component} (h : ∀ c ∈ cs, c.IsStep) :
    (ofComponents cs).text.toList = spelled cs ∧ (spelled cs).getLast? ≠ some '/' := by
  induction cs using List.reverseRecOn with
  | nil => exact ⟨rfl, by decide⟩
  | append_singleton cs c ih =>
    have hc : c.IsStep := h c (by simp)
    have hcs : ∀ d ∈ cs, d.IsStep := fun d hd => h d (by simp [hd])
    obtain ⟨htext, hlast⟩ := ih hcs
    rw [ofComponents_concat]
    by_cases hnil : cs = []
    · subst hnil
      have hpush : (ofComponents []).push c = ⟨c.text⟩ := by
        simp [ofComponents, push, join]
      rw [hpush, List.nil_append, spelled_singleton hc]
      exact ⟨rfl, getLast?_append_text [] hc⟩
    · have hbase : (ofComponents cs).text ≠ "" := by
        obtain ⟨first, rest, rfl⟩ := List.exists_cons_of_ne_nil hnil
        have hfirst := hcs first List.mem_cons_self
        intro hempty
        rw [hempty] at htext
        rw [spelled_cons (ne_root_of_isStep hfirst)] at htext
        exact hfirst.1 (List.append_eq_nil_iff.1 htext.symm).1
      rw [spelled_concat hcs hnil]
      refine ⟨?_, ?_⟩
      · rw [text_push hc hbase (htext ▸ hlast), htext]
      · rw [List.append_cons]
        exact getLast?_append_text _ hc

end Path

end CompileIndex

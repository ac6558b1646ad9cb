import CompileIndex.Proofs.NormalForm

/-!
# Paths put below paths

A path that does not start at the root is put below another one by its text.  A slash then stands
between the two, so the components of the one follow those of the other; only a `.` in front of the
lower path is lost, and normal forms do not see it.  Steps that are put together to a path are read
from its text again.

* `Path.components_ofComponents` — the components of a path that is made of steps;
* `Path.components_join` — the components of a path below another one;
* `Path.normalForm_join` — its normal form.
-/

namespace CompileIndex

namespace Path

/-! ### Steps put together -/

/-- Texts without slashes, each behind a slash, are cut into those texts again. -/
theorem pieces_tailText {first : List Char} {more : List (List Char)} (hfirst : '/' ∉ first)
    (hmore : ∀ piece ∈ more, '/' ∉ piece) : pieces (first ++ tailText more) = first :: more := by
  have hwhole {text : List Char} (h : '/' ∉ text) : pieces text = [text] := by
    induction text with
    | nil => rfl
    | cons c rest ih =>
      rw [List.mem_cons, not_or] at h
      rw [pieces, if_neg (Ne.symm h.1), ih h.2]
  induction more generalizing first with
  | nil => rw [tailText, List.flatMap_nil, List.append_nil, hwhole hfirst]
  | cons piece more ih =>
    rw [List.forall_mem_cons] at hmore
    rw [tailText_cons, List.cons_append, pieces_append_slash, hwhole hfirst, ih hmore.1 hmore.2]
    rfl

/-- What a plain component stands in front with is itself. -/
theorem leading_text {c : Component} (h : c.IsPlain) (more : List (List Char)) :
    leading c.text.toList more = [c] := by
  have hdot : c.text.toList ≠ ['.'] := by
    intro hdot
    have hspelled := h.1
    rw [hdot] at hspelled
    cases hspelled
  rw [leading, if_neg h.isStep.1, if_neg hdot, h.1]
  rfl

/-- The texts of plain components spell them, piece by piece. -/
theorem filterMap_texts {steps : List Component} (h : ∀ c ∈ steps, c.IsPlain) :
    (steps.map fun c => c.text.toList).filterMap Component.ofPiece? = steps := by
  rw [List.filterMap_map]
  exact (List.filterMap_congr fun c hc => (h c hc).1).trans List.filterMap_some

/-- The texts of steps have no slash in them. -/
theorem slash_not_mem_texts {steps : List Component} (h : ∀ c ∈ steps, c.IsStep) :
    ∀ piece ∈ steps.map fun c => c.text.toList, '/' ∉ piece := by
  intro piece hpiece
  obtain ⟨c, hc, rfl⟩ := List.mem_map.1 hpiece
  exact (h c hc).2

/-- **Steps that are put together** are the components of the path that they make. -/
theorem components_ofComponents {steps : List Component} (h : ∀ c ∈ steps, c.IsPlain) :
    (ofComponents steps).components = steps := by
  rw [components, (text_ofComponents fun c hc => (h c hc).isStep).1]
  cases steps with
  | nil => rfl
  | cons first rest =>
    obtain ⟨hfirst, hrest⟩ := List.forall_mem_cons.1 h
    have hpieces := slash_not_mem_texts fun c hc => (hrest c hc).isStep
    rw [spelled_cons (ne_root_of_isStep hfirst.isStep),
      componentsOf_of_pieces (pieces_tailText hfirst.2 hpieces), leading_text hfirst,
      filterMap_texts hrest]
    rfl

/-- What is put together from steps does not start at the root. -/
theorem not_isRooted_ofComponents {steps : List Component} (h : ∀ c ∈ steps, c.IsStep) :
    (ofComponents steps).isRooted = false := by
  rw [isRooted, (text_ofComponents h).1]
  cases steps with
  | nil => rfl
  | cons first rest =>
    have hfirst := h first List.mem_cons_self
    rw [head?_spelled hfirst]
    simpa [isRooted] using not_isRooted_text hfirst

/-! ### Below a path -/

/-- What a text spells behind a slash. -/
def behindSlash (text : List Char) : List Component :=
  (pieces text).filterMap Component.ofPiece?

/-- A relative path spells the same behind a slash, except for a `.` in front. -/
theorem components_of_relative {p : Path} (h : p.isRooted = false) :
    p.components = behindSlash p.text.toList ∨
      p.components = .here :: behindSlash p.text.toList := by
  obtain ⟨first, more, hpieces, htext⟩ := exists_pieces p.text.toList
  have hslash : '/' ∉ first := slash_not_mem_pieces p.text.toList first (by simp [hpieces])
  have hrooted := isRooted_of_text htext hslash
  have hcomponents : p.components = leading first more ++ more.filterMap Component.ofPiece? :=
    componentsOf_of_pieces hpieces
  rw [behindSlash, hpieces, hcomponents, leading]
  by_cases hfirst : first = []
  · have hmore : more = [] := by
      by_contra hmore
      rw [hrooted.2 ⟨hfirst, hmore⟩] at h
      cases h
    subst hfirst hmore
    exact Or.inl rfl
  · rw [if_neg hfirst]
    by_cases hdot : first = ['.']
    · subst hdot
      exact Or.inr rfl
    · rw [if_neg hdot, List.filterMap_cons]
      cases Component.ofPiece? first <;> exact Or.inl rfl

/-- A text behind a path and a slash: what the path spells, and then what the text does. -/
theorem componentsOf_append_slash {front : List Char} (h : front ≠ []) (text : List Char) :
    componentsOf (front ++ '/' :: text) = componentsOf front ++ behindSlash text := by
  obtain ⟨first, more, hpieces, hfront⟩ := exists_pieces front
  have hjoined : pieces (front ++ '/' :: text) = first :: (more ++ pieces text) := by
    rw [pieces_append_slash, hpieces, List.cons_append]
  have hleading : leading first (more ++ pieces text) = leading first more := by
    unfold leading
    by_cases hfirst : first = []
    · have hmore : more ≠ [] := by
        rintro rfl
        exact h (by rw [hfront, hfirst]; rfl)
      simp [hfirst, hmore]
    · simp [hfirst]
  rw [componentsOf_of_pieces hpieces, componentsOf_of_pieces hjoined, hleading,
    List.filterMap_append, List.append_assoc]
  rfl

/-- **The components of a path below another one.** -/
theorem components_join {base p : Path} (hbase : base.text ≠ "") (h : p.isRooted = false) :
    (base.join p).components = base.components ++ behindSlash p.text.toList := by
  have hrooted : ¬ p.isRooted = true := by simp [h]
  have hne : base.text.toList ≠ [] := by simpa using hbase
  rw [join, if_neg hrooted]
  by_cases hslash : base.text.toList.getLast? = some '/'
  · -- The base brings the slash itself; read without it, it has the same components.
    obtain ⟨front, hfront⟩ : ∃ front, base.text.toList = front ++ ['/'] :=
      ⟨_, (List.dropLast_append_getLast? _ hslash).symm⟩
    rw [if_pos (by simp [hslash])]
    show componentsOf (base.text ++ p.text).toList = componentsOf base.text.toList ++ _
    rw [String.toList_append, hfront, List.append_assoc, List.singleton_append]
    by_cases hroot : front = []
    · subst hroot
      obtain ⟨first, more, hpieces, _⟩ := exists_pieces p.text.toList
      have hjoined : pieces ([] ++ '/' :: p.text.toList) = [] :: pieces p.text.toList := rfl
      rw [componentsOf_of_pieces hjoined, leading, if_pos rfl, if_neg (pieces_ne_nil _)]
      rfl
    · rw [componentsOf_append_slash hroot, componentsOf_append_slash hroot]
      simp [behindSlash, pieces, Component.ofPiece?]
  · rw [if_neg (by simp [hbase, hslash])]
    show componentsOf (base.text ++ "/" ++ p.text).toList = componentsOf base.text.toList ++ _
    have htext : (base.text ++ "/" ++ p.text).toList =
        base.text.toList ++ '/' :: p.text.toList := by simp
    rw [htext, componentsOf_append_slash hne]

/-- **The normal form of a path below another one** comes from the components of the two, one behind
the other. -/
theorem normalForm_join (base : Path) {p : Path} (h : p.isRooted = false) :
    (base.join p).normalForm = normalize (base.components ++ p.components) := by
  have hcomponents : normalize (base.components ++ p.components) =
      normalize (base.components ++ behindSlash p.text.toList) := by
    rcases components_of_relative h with hp | hp
    · rw [hp]
    · rw [hp, normalize_append, normalize_append]
      rfl
  by_cases hbase : base.text = ""
  · have hjoin : base.join p = p := by
      rw [join, if_neg (by simp [h]), if_pos (by simp [hbase]), hbase]
      simp
    have hnothing : base.components = [] := by
      rw [components, hbase]
      rfl
    rw [hjoin, hnothing]
    rfl
  · rw [normalForm, components_join hbase h, hcomponents]

end Path

end CompileIndex

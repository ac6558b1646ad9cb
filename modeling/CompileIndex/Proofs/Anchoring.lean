import CompileIndex.Proofs.NormalForm

/-!
# Absolute paths made absolute

A path that is absolute needs no current directory, and yet it is not always left as it is.  It is
taken apart into its components and put together again with one slash between any two; two slashes
in front stay two, and a slash at the end is kept.  So its spelling may change, but never what it
names.

* `Path.IsTidy` — the paths that are spelled as they would be put together;
* `Path.text_anchored` — how an absolute path is spelled when it has been made absolute;
* `Path.anchored_eq_self_iff` — only tidy paths are left as they are;
* `Path.same_anchored` — it has the components that it had.
-/

namespace CompileIndex

namespace Path

/-- The slash that an absolute path keeps in front of its root: one, if exactly two slashes are in
front. -/
def doubledRoot (p : Path) : List Char :=
  match p.text.toList with
  | '/' :: '/' :: '/' :: _ => []
  | '/' :: '/' :: _ => ['/']
  | _ => []

/-- The slash that a path keeps at its end; that of the root is none. -/
def closing (p : Path) : List Char :=
  if p.text.toList.getLast? = some '/' ∧ p.components ≠ [.root] then ['/'] else []

/-- Whether an absolute path is spelled tidily: with one slash between any two components and no
`.` that counts for nothing, though two slashes in front and a slash at the end may stand. -/
def IsTidy (p : Path) : Prop :=
  p.text.toList = p.doubledRoot ++ spelled p.components ++ p.closing

instance (p : Path) : Decidable p.IsTidy :=
  inferInstanceAs (Decidable (_ = _))

/-! ### Steps pushed onto the root -/

/-- A step pushed onto a text that ends with a slash stands right behind it. -/
theorem text_push_slash {base : Path} {c : Component} (hc : c.IsStep)
    (hslash : base.text.toList.getLast? = some '/') :
    (base.push c).text.toList = base.text.toList ++ c.text.toList := by
  rw [push, join, if_neg (not_isRooted_text hc), if_pos (by simp [hslash])]
  simp

/-- A step behind the root and other steps is spelled behind a slash. -/
theorem spelled_root_concat {steps : List Component} (hne : steps ≠ []) (c : Component) :
    spelled (.root :: (steps ++ [c])) = spelled (.root :: steps) ++ '/' :: c.text.toList := by
  obtain ⟨first, rest, rfl⟩ := List.exists_cons_of_ne_nil hne
  simp [spelled, tailText]

/-- **Steps pushed onto the root** are spelled as they are, whatever stands in front of the root. -/
theorem text_foldl_push (front : List Char) {steps : List Component}
    (h : ∀ c ∈ steps, c.IsStep) :
    (steps.foldl push ⟨String.ofList (front ++ ['/'])⟩).text.toList =
        front ++ spelled (.root :: steps) ∧
      ((front ++ spelled (.root :: steps)).getLast? = some '/' ↔ steps = []) := by
  induction steps using List.reverseRecOn with
  | nil => simp [spelled]
  | append_singleton steps c ih =>
    have hc : c.IsStep := h c (by simp)
    have hsteps : ∀ d ∈ steps, d.IsStep := fun d hd => h d (by simp [hd])
    obtain ⟨htext, hlast⟩ := ih hsteps
    rw [List.foldl_append, List.foldl_cons, List.foldl_nil]
    by_cases hnil : steps = []
    · subst hnil
      have hslash := hlast.2 rfl
      rw [← htext] at hslash
      have hspelled : front ++ spelled (.root :: ([] ++ [c])) =
          (front ++ spelled [.root]) ++ c.text.toList := by
        simp [spelled, tailText]
      rw [text_push_slash hc hslash, htext, hspelled]
      exact ⟨rfl, iff_of_false (getLast?_append_text _ hc) (by simp)⟩
    · have hslash : (front ++ spelled (.root :: steps)).getLast? ≠ some '/' :=
        fun hend => hnil (hlast.1 hend)
      have hbase : (steps.foldl push ⟨String.ofList (front ++ ['/'])⟩).text ≠ "" := by
        intro hempty
        rw [hempty] at htext
        obtain ⟨first, rest, rfl⟩ := List.exists_cons_of_ne_nil hnil
        simp [spelled, tailText] at htext
      have hspelled : front ++ spelled (.root :: (steps ++ [c])) =
          (front ++ spelled (.root :: steps) ++ ['/']) ++ c.text.toList := by
        rw [spelled_root_concat hnil]
        simp
      rw [text_push hc hbase (htext ▸ hslash), htext, hspelled]
      exact ⟨by simp, iff_of_false (getLast?_append_text _ hc) (by simp)⟩

/-- Nothing put below a path leaves it as it is when it ends with a slash, and else puts a slash
behind it. -/
theorem text_join_nothing {base : Path} (hbase : base.text ≠ "") :
    (base.join ⟨""⟩).text.toList = base.text.toList ++
      if base.text.toList.getLast? = some '/' then [] else ['/'] := by
  have hrooted : ¬ (⟨""⟩ : Path).isRooted = true := by decide
  rw [join, if_neg hrooted]
  by_cases hslash : base.text.toList.getLast? = some '/' <;> simp [hbase, hslash]

/-! ### The path put together -/

variable {p : Path} (here : Path)

/-- Of an absolute path the steps are put behind its root, whatever the current directory is. -/
theorem anchored_of_isRooted {steps : List Component} (h : p.isRooted = true)
    (hcomponents : p.components = .root :: steps) :
    anchored here p =
      let whole := steps.foldl push ⟨String.ofList (p.doubledRoot ++ ['/'])⟩
      if p.text.toList.getLast? = some '/' then whole.join ⟨""⟩ else whole := by
  have hroot : (⟨""⟩ : Path).push .root = ⟨"/"⟩ := by decide
  unfold anchored
  rw [hcomponents]
  split
  · rename_i hthree
    have hfront : p.doubledRoot = [] := by
      rw [doubledRoot, hthree]
      rfl
    simp [hfront, hroot]
  · rename_i hnot htwo
    have hfront : p.doubledRoot = ['/'] := by
      unfold doubledRoot
      rw [htwo]
      split
      · rename_i hthree
        cases hthree
        exact absurd rfl (hnot _)
      · rfl
      · rename_i hother
        exact absurd rfl (hother _)
    simp [hfront]
  · rename_i _ hnot hone
    have hfront : p.doubledRoot = [] := by
      unfold doubledRoot
      rw [hone]
      split
      · rfl
      · rename_i htwo
        cases htwo
        exact absurd rfl (hnot _)
      · rfl
    simp [hfront, hroot]
  · rename_i hslash
    simp only [isRooted, decide_eq_true_eq] at h
    cases htext : p.text.toList with
    | nil =>
      rw [htext] at h
      cases h
    | cons c rest =>
      rw [htext] at h
      cases h
      exact absurd htext (hslash rest)

/-- **How an absolute path is spelled** when it has been made absolute: as its components, with the
slashes that it keeps in front and at the end. -/
theorem text_anchored (h : p.isRooted = true) :
    (anchored here p).text.toList = p.doubledRoot ++ spelled p.components ++ p.closing := by
  obtain ⟨steps, hcomponents, hsteps⟩ := components_of_isRooted h
  obtain ⟨htext, hlast⟩ := text_foldl_push p.doubledRoot hsteps
  have hanchored := anchored_of_isRooted here h hcomponents
  dsimp only at hanchored
  generalize steps.foldl push ⟨String.ofList (p.doubledRoot ++ ['/'])⟩ = whole at htext hanchored
  rw [hanchored, closing, hcomponents]
  by_cases hend : p.text.toList.getLast? = some '/'
  · have hwhole : whole.text ≠ "" := by
      intro hempty
      rw [hempty] at htext
      cases steps <;> simp [spelled, tailText] at htext
    rw [if_pos hend, text_join_nothing hwhole, htext]
    by_cases hnil : steps = []
    · rw [if_pos (hlast.2 hnil), if_neg (by simp [hnil])]
    · rw [if_neg fun hslash => hnil (hlast.1 hslash), if_pos ⟨hend, by simp [hnil]⟩]
  · rw [if_neg hend, if_neg fun hboth => hend hboth.1, htext, List.append_nil]

/-- Two slashes in front and the slash at the end stay; a `..` is not folded. -/
example : anchored ⟨"/q"⟩ ⟨"//p/.//a/../b/"⟩ = ⟨"//p/a/../b/"⟩ := by decide

/-- **A tidy path, and no other, is left as it is.** -/
theorem anchored_eq_self_iff (h : p.isRooted = true) : anchored here p = p ↔ p.IsTidy := by
  have htext := text_anchored here h
  constructor
  · intro hself
    rw [hself] at htext
    exact htext
  · intro htidy
    rw [IsTidy] at htidy
    rw [← htidy, String.toList_inj] at htext
    exact congrArg Path.mk htext

/-- The slash in front of the root makes no difference. -/
theorem same_doubledRoot (p : Path) (rest : List Char) :
    (⟨String.ofList (p.doubledRoot ++ '/' :: rest)⟩ : Path).Same ⟨String.ofList ('/' :: rest)⟩ := by
  have hdoubled := Same.of_respelling (.doubled "" (String.ofList rest))
  have hlong : "" ++ "//" ++ String.ofList rest = String.ofList (['/'] ++ '/' :: rest) := by
    rw [← String.toList_inj]
    simp
  have hshort : "" ++ "/" ++ String.ofList rest = String.ofList ('/' :: rest) := by
    rw [← String.toList_inj]
    simp
  rw [hlong, hshort] at hdoubled
  unfold doubledRoot
  split
  · exact Same.refl _
  · exact hdoubled
  · exact Same.refl _

/-- Nor does the slash at the end. -/
theorem same_closing (p : Path) {front : List Char} (hne : front ≠ []) :
    (⟨String.ofList (front ++ p.closing)⟩ : Path).Same ⟨String.ofList front⟩ := by
  have hfront : String.ofList front ≠ "" := by
    intro hempty
    rw [← String.toList_inj, String.toList_ofList] at hempty
    exact hne hempty
  have hslash := Same.of_respelling (.slashAtEnd (String.ofList front) hfront)
  have hlong : String.ofList front ++ "/" = String.ofList (front ++ ['/']) := by
    rw [← String.toList_inj]
    simp
  rw [hlong] at hslash
  unfold closing
  split
  · exact hslash
  · rw [List.append_nil]
    exact Same.refl _

/-- **What an absolute path names stays.** -/
theorem same_anchored (h : p.isRooted = true) : (anchored here p).Same p := by
  obtain ⟨steps, hcomponents, _⟩ := components_of_isRooted h
  have hroot : ∃ rest, spelled p.components = '/' :: rest := by
    rw [hcomponents]
    cases steps with
    | nil => exact ⟨[], rfl⟩
    | cons c more => exact ⟨_, rfl⟩
  obtain ⟨rest, hrest⟩ := hroot
  have htext : anchored here p =
      ⟨String.ofList (p.doubledRoot ++ '/' :: rest ++ p.closing)⟩ := by
    rw [← hrest, ← text_anchored here h, String.ofList_toList]
  have hspelled : p.Same ⟨String.ofList ('/' :: rest)⟩ := by
    rw [same_iff_respelled, ← hrest]
    exact respelled_spelled p
  rw [htext]
  exact (same_closing p (by simp)).trans ((same_doubledRoot p rest).trans hspelled.symm)

end Path

end CompileIndex

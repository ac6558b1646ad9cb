import CompileIndex.Path
import Mathlib.Logic.Relation

/-!
# How one path can be spelled

Two texts spell the same path when each can be changed into the other by four rules and their
reverses: a slash written twice is a slash, a `.` between two slashes counts for nothing, nor does
a `.` behind the last slash, and a slash at the end may be left off unless it is the whole text.
No rule touches a `..` or a leading `.`.

* `Path.Respelling`, `Path.Respelled` — one rule, and any number of rules both ways;
* `Path.Same.of_respelling` — no rule changes the components;
* `Path.respelled_spelled` — every path can be respelled as the plain text of its components;
* `Path.same_iff_respelled` — equality of components is exactly respelling.
-/

namespace CompileIndex

namespace Path

/-- One way to write less of a path. -/
inductive Respelling : Path → Path → Prop where
  /-- Two slashes are one. -/
  | doubled (before after : String) :
    Respelling ⟨before ++ "//" ++ after⟩ ⟨before ++ "/" ++ after⟩
  /-- A `.` between slashes goes. -/
  | dotted (before after : String) :
    Respelling ⟨before ++ "/./" ++ after⟩ ⟨before ++ "/" ++ after⟩
  /-- A `.` behind the last slash goes. -/
  | dotAtEnd (before : String) : Respelling ⟨before ++ "/."⟩ ⟨before ++ "/"⟩
  /-- A slash at the end goes, but not the slash of the root. -/
  | slashAtEnd (before : String) (h : before ≠ "") : Respelling ⟨before ++ "/"⟩ ⟨before⟩

/-- Two spellings of one path. -/
def Respelled : Path → Path → Prop :=
  Relation.EqvGen Respelling

/-! ### Pieces of a text -/

theorem pieces_ne_nil (text : List Char) : pieces text ≠ [] := by
  cases text with
  | nil => simp [pieces]
  | cons c rest =>
    simp only [pieces]
    split
    · simp
    · split <;> simp

/-- A slash cuts a text in two. -/
theorem pieces_append_slash (front back : List Char) :
    pieces (front ++ '/' :: back) = pieces front ++ pieces back := by
  induction front with
  | nil => rfl
  | cons c rest ih =>
    simp only [List.cons_append, pieces, ih]
    by_cases hc : c = '/'
    · simp only [if_pos hc, List.cons_append]
    · simp only [if_neg hc]
      cases hrest : pieces rest with
      | nil => exact absurd hrest (pieces_ne_nil rest)
      | cons piece more => rfl

/-- The text of further pieces, each behind a slash. -/
def tailText (more : List (List Char)) : List Char :=
  more.flatMap fun piece => '/' :: piece

theorem tailText_cons (piece : List Char) (more : List (List Char)) :
    tailText (piece :: more) = '/' :: piece ++ tailText more :=
  rfl

/-- A text is its first piece with the text of the others. -/
theorem exists_pieces (text : List Char) :
    ∃ first more, pieces text = first :: more ∧ text = first ++ tailText more := by
  induction text with
  | nil => exact ⟨[], [], rfl, rfl⟩
  | cons c rest ih =>
    obtain ⟨first, more, hpieces, htext⟩ := ih
    by_cases hc : c = '/'
    · refine ⟨[], first :: more, ?_, ?_⟩
      · simp only [pieces, if_pos hc, hpieces]
      · rw [tailText_cons, List.nil_append, List.cons_append, ← htext, hc]
    · refine ⟨c :: first, more, ?_, ?_⟩
      · simp only [pieces, if_neg hc, hpieces]
      · rw [List.cons_append, ← htext]

/-! ### What pieces spell -/

/-- What the first piece of a text spells; a piece without characters is the root when other
pieces follow. -/
def leading (first : List Char) (more : List (List Char)) : List Component :=
  if first = [] then (if more = [] then [] else [.root])
  else if first = ['.'] then [.here]
  else (Component.ofPiece? first).toList

/-- The components of a text, piece by piece. -/
theorem componentsOf_of_pieces {text first : List Char} {more : List (List Char)}
    (h : pieces text = first :: more) :
    componentsOf text = leading first more ++ more.filterMap Component.ofPiece? := by
  unfold componentsOf
  rw [h]
  split
  · rename_i hnil
    exact absurd hnil (List.cons_ne_nil _ _)
  · rename_i hempty
    cases hempty
    rfl
  · rename_i hne hroot
    cases hroot
    have hmore : more ≠ [] := fun hm => hne (by rw [hm])
    simp only [leading, if_true, if_neg hmore, List.cons_append, List.nil_append]
  · rename_i hhere
    cases hhere
    rfl
  · rename_i hdot hroot hother
    cases hother
    have hfirst : first ≠ [] := fun hf => hdot hf
    have hnot : first ≠ ['.'] := fun hf => hroot hf
    simp only [leading, if_neg hfirst, if_neg hnot, List.filterMap_cons]
    cases Component.ofPiece? first <;> rfl

/-- A piece that spells no component is silent. -/
theorem ofPiece?_of_silent {piece : List Char} (h : isSilent piece = true) :
    Component.ofPiece? piece = none := by
  simp only [isSilent, Bool.or_eq_true, decide_eq_true_eq] at h
  rcases h with rfl | rfl <;> rfl

/-- Every other piece is the text of the component that it spells. -/
theorem ofPiece?_of_loud {piece : List Char} (h : isSilent piece = false) :
    ∃ c, Component.ofPiece? piece = some c ∧ c ≠ .root ∧ c.text.toList = piece := by
  simp only [isSilent, Bool.or_eq_false_iff, decide_eq_false_iff_not] at h
  unfold Component.ofPiece?
  split
  · exact absurd rfl h.1
  · exact absurd rfl h.2
  · exact ⟨.parent, rfl, by simp, rfl⟩
  · exact ⟨_, rfl, by simp, String.toList_ofList⟩

/-- A first piece with characters is the text of the one component that it spells. -/
theorem leading_of_ne_nil {first : List Char} (h : first ≠ []) (more : List (List Char)) :
    ∃ c, leading first more = [c] ∧ c ≠ .root ∧ c.text.toList = first := by
  unfold leading
  rw [if_neg h]
  by_cases hdot : first = ['.']
  · rw [if_pos hdot]
    exact ⟨.here, rfl, by simp, hdot.symm⟩
  · have hloud : isSilent first = false := by simp [isSilent, h, hdot]
    obtain ⟨c, hc, hroot, htext⟩ := ofPiece?_of_loud hloud
    rw [if_neg hdot, hc]
    exact ⟨c, rfl, hroot, htext⟩

/-! ### Rules keep components -/

/-- Of the pieces behind the first one only those count that spell a component; whether there are
any at all matters to a first piece without characters. -/
theorem componentsOf_congr {s t first : List Char} {more less : List (List Char)}
    (hs : pieces s = first :: more) (ht : pieces t = first :: less)
    (hnil : first = [] → (more = [] ↔ less = []))
    (hspelled : more.filterMap Component.ofPiece? = less.filterMap Component.ofPiece?) :
    componentsOf s = componentsOf t := by
  have hleading : leading first more = leading first less := by
    unfold leading
    by_cases hfirst : first = []
    · simp only [if_pos hfirst, hnil hfirst]
    · simp only [if_neg hfirst]
  rw [componentsOf_of_pieces hs, componentsOf_of_pieces ht, hleading, hspelled]

/-- What stands behind a slash counts as its pieces do. -/
theorem componentsOf_behind_slash (before s t : List Char)
    (h : (pieces s).filterMap Component.ofPiece? = (pieces t).filterMap Component.ofPiece?) :
    componentsOf (before ++ '/' :: s) = componentsOf (before ++ '/' :: t) := by
  obtain ⟨first, more, hfirst, _⟩ := exists_pieces before
  have hpieces (u : List Char) :
      pieces (before ++ '/' :: u) = first :: (more ++ pieces u) := by
    rw [pieces_append_slash, hfirst, List.cons_append]
  apply componentsOf_congr (hpieces s) (hpieces t)
  · intro _
    simp [pieces_ne_nil]
  · rw [List.filterMap_append, List.filterMap_append, h]

/-- **No rule changes the components.** -/
theorem Same.of_respelling {p q : Path} (h : Respelling p q) : p.Same q := by
  show componentsOf p.text.toList = componentsOf q.text.toList
  cases h with
  | doubled before after =>
    have hlong : (before ++ "//" ++ after).toList =
        before.toList ++ '/' :: ('/' :: after.toList) := by simp
    have hshort : (before ++ "/" ++ after).toList = before.toList ++ '/' :: after.toList := by
      simp
    rw [hlong, hshort]
    apply componentsOf_behind_slash
    rw [show pieces ('/' :: after.toList) = [] :: pieces after.toList from rfl]
    rfl
  | dotted before after =>
    have hlong : (before ++ "/./" ++ after).toList =
        before.toList ++ '/' :: (['.'] ++ '/' :: after.toList) := by simp
    have hshort : (before ++ "/" ++ after).toList = before.toList ++ '/' :: after.toList := by
      simp
    rw [hlong, hshort]
    apply componentsOf_behind_slash
    rw [pieces_append_slash]
    rfl
  | dotAtEnd before =>
    have hlong : (before ++ "/.").toList = before.toList ++ '/' :: ['.'] := by simp
    have hshort : (before ++ "/").toList = before.toList ++ '/' :: [] := by simp
    rw [hlong, hshort]
    exact componentsOf_behind_slash _ _ _ rfl
  | slashAtEnd before hne =>
    obtain ⟨first, more, hfirst, htext⟩ := exists_pieces before.toList
    have hlong : (before ++ "/").toList = before.toList ++ '/' :: [] := by simp
    have hpieces : pieces (before.toList ++ '/' :: []) = first :: (more ++ [[]]) := by
      rw [pieces_append_slash, hfirst]
      rfl
    rw [hlong]
    apply componentsOf_congr hpieces hfirst
    · intro hempty
      have hmore : more ≠ [] := by
        rintro rfl
        rw [hempty] at htext
        exact hne (String.toList_inj.1 htext)
      simp [hmore]
    · rw [List.filterMap_append]
      exact List.append_nil _

/-! ### Every path respelled as its components -/

/-- The plain text of some components: the root in front, one slash between any two. -/
def spelled : List Component → List Char
  | [] => []
  | [.root] => ['/']
  | .root :: rest => tailText (rest.map fun c => c.text.toList)
  | c :: rest => c.text.toList ++ tailText (rest.map fun c => c.text.toList)

theorem spelled_cons {c : Component} (h : c ≠ .root) (rest : List Component) :
    spelled (c :: rest) = c.text.toList ++ tailText (rest.map fun c => c.text.toList) := by
  cases c with
  | root => exact absurd rfl h
  | here => rfl
  | parent => rfl
  | name t => rfl

/-- The pieces that spell components are the texts of those components. -/
theorem map_text_filterMap (more : List (List Char)) :
    (more.filterMap Component.ofPiece?).map (fun c => c.text.toList) =
      more.filter fun piece => !isSilent piece := by
  induction more with
  | nil => rfl
  | cons piece rest ih =>
    cases hs : isSilent piece with
    | true =>
      rw [List.filterMap_cons_none (ofPiece?_of_silent hs), List.filter_cons_of_neg (by simp [hs]),
        ih]
    | false =>
      obtain ⟨c, hc, _, htext⟩ := ofPiece?_of_loud hs
      rw [List.filterMap_cons_some hc, List.filter_cons_of_pos (by simp [hs]), List.map_cons, ih,
        htext]

/-- A silent piece goes when others follow it. -/
theorem respelled_drop (lead piece : List Char) (next : List Char) (more : List (List Char))
    (h : isSilent piece = true) :
    Respelled ⟨String.ofList (lead ++ tailText (piece :: next :: more))⟩
      ⟨String.ofList (lead ++ tailText (next :: more))⟩ := by
  simp only [isSilent, Bool.or_eq_true, decide_eq_true_eq] at h
  have hshort : String.ofList (lead ++ tailText (next :: more)) =
      String.ofList lead ++ "/" ++ String.ofList (next ++ tailText more) := by
    rw [← String.toList_inj]
    simp [tailText]
  rcases h with rfl | rfl
  · have hlong : String.ofList (lead ++ tailText ([] :: next :: more)) =
        String.ofList lead ++ "//" ++ String.ofList (next ++ tailText more) := by
      rw [← String.toList_inj]
      simp [tailText]
    rw [hlong, hshort]
    exact .rel _ _ (.doubled _ _)
  · have hlong : String.ofList (lead ++ tailText (['.'] :: next :: more)) =
        String.ofList lead ++ "/./" ++ String.ofList (next ++ tailText more) := by
      rw [← String.toList_inj]
      simp [tailText]
    rw [hlong, hshort]
    exact .rel _ _ (.dotted _ _)

/-- A silent piece at the end leaves its slash. -/
theorem respelled_drop_last (lead piece : List Char) (h : isSilent piece = true) :
    Respelled ⟨String.ofList (lead ++ tailText [piece])⟩ ⟨String.ofList lead ++ "/"⟩ := by
  simp only [isSilent, Bool.or_eq_true, decide_eq_true_eq] at h
  rcases h with rfl | rfl
  · have hlong : String.ofList (lead ++ tailText [[]]) = String.ofList lead ++ "/" := by
      rw [← String.toList_inj]
      simp [tailText]
    rw [hlong]
    exact .refl _
  · have hlong : String.ofList (lead ++ tailText [['.']]) = String.ofList lead ++ "/." := by
      rw [← String.toList_inj]
      simp [tailText]
    rw [hlong]
    exact .rel _ _ (.dotAtEnd _)

/-- Behind a text all silent pieces go. -/
theorem respelled_loud (lead : List Char) (hlead : lead ≠ []) (more : List (List Char)) :
    Respelled ⟨String.ofList (lead ++ tailText more)⟩
      ⟨String.ofList (lead ++ tailText (more.filter fun piece => !isSilent piece))⟩ := by
  induction more generalizing lead with
  | nil => exact .refl _
  | cons piece rest ih =>
    cases hs : isSilent piece with
    | false =>
      rw [List.filter_cons_of_pos (by simp [hs]), tailText_cons, tailText_cons,
        ← List.append_assoc, ← List.append_assoc]
      exact ih (lead ++ '/' :: piece) (by simp)
    | true =>
      rw [List.filter_cons_of_neg (by simp [hs])]
      cases rest with
      | nil =>
        have hne : String.ofList lead ≠ "" := by
          intro he
          rw [← String.toList_inj, String.toList_ofList] at he
          exact hlead he
        apply Relation.EqvGen.trans _ _ _ (respelled_drop_last lead piece hs)
        rw [List.filter_nil, tailText, List.flatMap_nil, List.append_nil]
        exact .rel _ _ (.slashAtEnd _ hne)
      | cons next more =>
        exact .trans _ _ _ (respelled_drop lead piece next more hs) (ih lead hlead)

/-- Behind the root all silent pieces go; the slash of the root stays. -/
theorem respelled_rooted (more : List (List Char)) (hmore : more ≠ []) :
    Respelled ⟨String.ofList (tailText more)⟩
      ⟨String.ofList (spelled (.root :: more.filterMap Component.ofPiece?))⟩ := by
  induction more with
  | nil => exact absurd rfl hmore
  | cons piece rest ih =>
    cases hs : isSilent piece with
    | false =>
      obtain ⟨c, hc, _, htext⟩ := ofPiece?_of_loud hs
      rw [List.filterMap_cons_some hc, spelled, List.map_cons, map_text_filterMap, htext,
        tailText_cons, tailText_cons]
      · exact respelled_loud ('/' :: piece) (List.cons_ne_nil _ _) rest
      · simp
    | true =>
      rw [List.filterMap_cons_none (ofPiece?_of_silent hs)]
      cases rest with
      | nil => exact respelled_drop_last [] piece hs
      | cons next more =>
        exact .trans _ _ _ (respelled_drop [] piece next more hs)
          (ih (List.cons_ne_nil _ _))

/-- **Every path can be respelled as the plain text of its components.** -/
theorem respelled_spelled (p : Path) :
    Respelled p ⟨String.ofList (spelled p.components)⟩ := by
  obtain ⟨first, more, hpieces, htext⟩ := exists_pieces p.text.toList
  have hp : p = ⟨String.ofList (first ++ tailText more)⟩ := by
    rw [← htext, String.ofList_toList]
  have hcomponents : p.components =
      leading first more ++ more.filterMap Component.ofPiece? := componentsOf_of_pieces hpieces
  rw [hcomponents, hp]
  by_cases hfirst : first = []
  · subst hfirst
    by_cases hmore : more = []
    · subst hmore
      exact .refl _
    · rw [leading, if_pos rfl, if_neg hmore]
      exact respelled_rooted more hmore
  · obtain ⟨c, hc, hroot, hlead⟩ := leading_of_ne_nil hfirst more
    rw [hc, List.cons_append, List.nil_append, spelled_cons hroot, hlead, map_text_filterMap]
    exact respelled_loud first hfirst more

/-- **Equality of components is exactly respelling.** -/
theorem same_iff_respelled (p q : Path) : p.Same q ↔ p.Respelled q := by
  constructor
  · intro h
    have hq := respelled_spelled q
    rw [← show p.components = q.components from h] at hq
    exact .trans _ _ _ (respelled_spelled p) (.symm _ _ hq)
  · intro h
    induction h with
    | rel p q hrule => exact Same.of_respelling hrule
    | refl p => exact Same.refl p
    | symm p q _ ih => exact ih.symm
    | trans p q r _ _ ihp ihq => exact ihp.trans ihq

end Path

end CompileIndex

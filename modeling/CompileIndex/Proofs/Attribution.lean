import CompileIndex.Configuration.Browse
import CompileIndex.Proofs.RelativePaths

/-!
# Files that count towards a folder

A file counts towards a folder when the way from the file to the folder begins with a dot.  The
way begins with `..` unless the file's normal form stands in front of the folder's, and then it
begins with the first name behind the file.  So a file counts towards every folder that is
neither the file itself nor below it, and also towards those below it whose first name behind the
file begins with a dot.

* `Path.relativeParts_of_prefix`, `Path.relativeParts_of_not_prefix` — the two kinds of ways from
  the root;
* `isAttributed_elsewhere`, `isAttributed_below` — a file and a folder elsewhere or below;
* `attribution_exact` — when a file counts towards a folder;
* `attributed_below_itself` — a file that counts towards a folder below it.
-/

namespace CompileIndex

namespace Path

/-! ### The way from one normal form to another -/

/-- The way down goes by what stands behind. -/
theorem relativeParts_of_prefix {a b : List Component} {c : Component} (rest : List Component)
    (h : a = c :: b) : relativeParts a (a ++ rest) = some rest := by
  have hparted : Parted [] rest := nofun
  have hway := relativeParts_of_parted hparted a
  rw [List.append_nil, if_neg (by simp [h])] at hway
  exact hway

/-- Any other way from the root goes up first. -/
theorem relativeParts_of_not_prefix {c : Component} {a b : List Component}
    (h : ¬ (c :: a) <+: (c :: b)) :
    ∃ rest, relativeParts (c :: a) (c :: b) = some (.parent :: rest) ∧
      ∀ d ∈ rest, d = .parent ∨ d ∈ b := by
  obtain ⟨shared, ups, downs, rfl, rfl, hparted⟩ := exists_parted a b
  have hups : ups ≠ [] := by
    rintro rfl
    rw [List.append_nil, List.cons_prefix_cons] at h
    exact h ⟨rfl, List.prefix_append shared downs⟩
  obtain ⟨first, more, rfl⟩ := List.exists_cons_of_ne_nil hups
  have hway : relativeParts (c :: (shared ++ first :: more)) (c :: (shared ++ downs)) =
      some (.parent :: (List.replicate more.length .parent ++ downs)) :=
    (relativeParts_of_parted hparted (c :: shared)).trans (if_neg (by simp))
  refine ⟨List.replicate more.length .parent ++ downs, hway, ?_⟩
  intro d hd
  rcases List.mem_append.1 hd with hup | hdown
  · exact Or.inl (List.eq_of_mem_replicate hup)
  · exact Or.inr (List.mem_append_right shared hdown)

end Path

/-! ### Attribution -/

/-- A way that starts with a step begins as that step does. -/
theorem head?_ofComponents {c : Component} {rest : List Component} (hc : c.IsStep)
    (hrest : ∀ d ∈ rest, d.IsStep) :
    (Path.ofComponents (c :: rest)).text.toList.head? = c.text.toList.head? := by
  have hsteps : ∀ d ∈ c :: rest, d.IsStep := List.forall_mem_cons.2 ⟨hc, hrest⟩
  rw [(Path.text_ofComponents hsteps).1, Path.head?_spelled hc]

/-- What is known of the way from a file counts for its first character alone. -/
theorem isAttributed_of_relativeParts {file folder : Path} {way : List Component}
    (h : Path.relativeParts file.normalForm folder.normalForm = some way) :
    isAttributed file folder = true ↔ (Path.ofComponents way).text.toList.head? = some '.' := by
  rw [isAttributed, Path.relativeTo?, h]
  exact decide_eq_true_iff

/-- A file counts towards a folder that is neither the file nor below it: the way leads up. -/
theorem isAttributed_elsewhere {file folder : Path} (hfile : file.isRooted = true)
    (hfolder : folder.isRooted = true) (h : ¬ file.normalForm <+: folder.normalForm) :
    isAttributed file folder = true := by
  obtain ⟨names, hnames, _⟩ := Path.normalForm_of_isRooted hfile
  obtain ⟨names', hnames', hsteps'⟩ := Path.normalForm_of_isRooted hfolder
  rw [hnames, hnames'] at h
  obtain ⟨rest, hway, hrest⟩ := Path.relativeParts_of_not_prefix h
  rw [← hnames, ← hnames'] at hway
  have hsteps : ∀ d ∈ rest, d.IsStep := by
    intro d hd
    rcases hrest d hd with rfl | hdown
    · exact Component.isStep_parent
    · exact (hsteps' d hdown).2
  rw [isAttributed_of_relativeParts hway, head?_ofComponents Component.isStep_parent hsteps]
  rfl

/-- A file counts towards a folder below it by the first character of the way down. -/
theorem isAttributed_below {file folder : Path} (hfile : file.isRooted = true)
    (hfolder : folder.isRooted = true) {below : List Component}
    (h : folder.normalForm = file.normalForm ++ below) :
    isAttributed file folder = true ↔
      ∃ name rest, below = .name name :: rest ∧ name.toList.head? = some '.' := by
  obtain ⟨names, hnames, _⟩ := Path.normalForm_of_isRooted hfile
  obtain ⟨names', hnames', hsteps'⟩ := Path.normalForm_of_isRooted hfolder
  have hway := Path.relativeParts_of_prefix below hnames
  rw [← h] at hway
  rw [isAttributed_of_relativeParts hway]
  have hsplit : names' = names ++ below := by
    rw [hnames', hnames] at h
    exact (List.cons.inj h).2
  have hbelow : ∀ c ∈ below, c.IsName := fun c hc =>
    hsteps' c (hsplit ▸ List.mem_append_right names hc)
  cases below with
  | nil => simp [Path.ofComponents]
  | cons c rest =>
    obtain ⟨⟨⟨name, rfl⟩, hname⟩, hrest⟩ := List.forall_mem_cons.1 hbelow
    rw [head?_ofComponents hname fun d hd => (hrest d hd).2]
    simp [Component.text]

/-- **When a file counts towards a folder**, both absolute: when the folder is neither the file
nor below it, or when it is below it and the first name behind the file begins with a dot. -/
theorem attribution_exact (file folder : Path) (hfile : file.isRooted = true)
    (hfolder : folder.isRooted = true) :
    isAttributed file folder = true ↔
      ¬ file.normalForm <+: folder.normalForm ∨
        ∃ name below, folder.normalForm = file.normalForm ++ .name name :: below ∧
          name.toList.head? = some '.' := by
  by_cases hprefix : file.normalForm <+: folder.normalForm
  · obtain ⟨below, hbelow⟩ := hprefix
    rw [isAttributed_below hfile hfolder hbelow.symm, ← hbelow]
    simp only [List.prefix_append, not_true_eq_false, false_or, List.append_cancel_left_eq]
  · have hcounts := isAttributed_elsewhere hfile hfolder hprefix
    exact ⟨fun _ => Or.inl hprefix, fun _ => hcounts⟩

/-- A file given with `..` beyond the root and a folder that only looks as if it were below. -/
theorem attribution_exact_beyond_root :
    isAttributed ⟨"/../p/./x/../a"⟩ ⟨"/p//a.d/.git"⟩ = true ∧
      isAttributed ⟨"/../p/./x/../a"⟩ ⟨"/p/a/git/.d"⟩ = false := by
  constructor
  · rw [attribution_exact _ _ (by decide) (by decide)]
    exact Or.inl (by decide)
  · have hbelow : (⟨"/p/a/git/.d"⟩ : Path).normalForm =
        (⟨"/../p/./x/../a"⟩ : Path).normalForm ++ [.name "git", .name ".d"] := by decide
    rw [← Bool.not_eq_true, attribution_exact _ _ (by decide) (by decide)]
    rintro (hnot | ⟨name, below, hname, hdot⟩)
    · exact hnot (hbelow ▸ List.prefix_append _ _)
    · rw [hbelow, List.append_cancel_left_eq] at hname
      cases hname
      exact absurd hdot (by decide)

/-- A file that counts towards a folder below it, because the name behind the file begins with a
dot. -/
theorem attributed_below_itself :
    let file : Path := ⟨"/p/a"⟩
    let folder : Path := ⟨"/p/a/.git"⟩
    file.isRooted = true ∧ folder.isRooted = true ∧ isAttributed file folder = true ∧
      file.normalForm <+: folder.normalForm := by
  decide

end CompileIndex

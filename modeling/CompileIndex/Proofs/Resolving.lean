import CompileIndex.Path

/-!
# Paths below a base

A path needs no base when it starts at the root, at a drive, or as a share on another machine.  Any
other path is put below the base it is resolved against.  Putting something below a path follows one
rule for all three kinds of anchors, which knows nothing of drives and shares.  It never takes
anything away in front, though, and all that makes a path absolute stands in front.

* `Path.Anchor`, `Path.NeedsNoBase` — what makes a path absolute;
* `Path.ResolvesTo` — what a path stands for below a base;
* `Path.needsNoBase_resolve` — what is resolved against an absolute path is absolute.
-/

namespace CompileIndex

namespace Path

/-! ### What makes a path absolute -/

/-- What a text may start with so that it needs no base. -/
inductive Anchor : List Char → Prop where
  | root : Anchor ['/']
  /-- A drive letter and its colon, and a separator of either kind. -/
  | drive {letter separator : Char} :
    ('a' ≤ letter ∧ letter ≤ 'z') ∨ ('A' ≤ letter ∧ letter ≤ 'Z') →
    separator = '\\' ∨ separator = '/' → Anchor [letter, ':', separator]
  | share : Anchor ['\\', '\\']

/-- A path that starts at the root, at a drive or at a share. -/
def NeedsNoBase (p : Path) : Prop :=
  ∃ front, Anchor front ∧ front <+: p.text.toList

theorem isRooted_iff (p : Path) : p.isRooted = true ↔ ['/'] <+: p.text.toList := by
  rw [isRooted, decide_eq_true_eq]
  cases p.text.toList with
  | nil => simp
  | cons c rest => simp [eq_comm]

theorem isShare_iff (p : Path) : p.isShare = true ↔ ['\\', '\\'] <+: p.text.toList := by
  unfold isShare
  split
  · next rest h => simp [h]
  · next h =>
    refine iff_of_false (by simp) ?_
    rintro ⟨rest, hrest⟩
    exact h rest hrest.symm

/-- Only the letters without marks name drives. -/
theorem isAlpha_iff (c : Char) :
    c.isAlpha = true ↔ ('a' ≤ c ∧ c ≤ 'z') ∨ ('A' ≤ c ∧ c ≤ 'Z') := by
  have hupper : c.isUpper = true ↔ 'A' ≤ c ∧ c ≤ 'Z' := decide_eq_true_iff
  have hlower : c.isLower = true ↔ 'a' ≤ c ∧ c ≤ 'z' :=
    Bool.and_eq_true_iff.trans (and_congr decide_eq_true_iff decide_eq_true_iff)
  have halpha : c.isAlpha = (c.isUpper || c.isLower) := rfl
  rw [halpha, Bool.or_eq_true, hupper, hlower]
  exact or_comm

theorem hasDrive_iff (p : Path) :
    p.hasDrive = true ↔ ∃ letter separator,
      (('a' ≤ letter ∧ letter ≤ 'z') ∨ ('A' ≤ letter ∧ letter ≤ 'Z')) ∧
        (separator = '\\' ∨ separator = '/') ∧ [letter, ':', separator] <+: p.text.toList := by
  unfold hasDrive
  split
  · next letter separator rest h =>
    rw [Bool.and_eq_true, isAlpha_iff, Bool.or_eq_true, decide_eq_true_eq, decide_eq_true_eq, h]
    constructor
    · rintro ⟨hletter, hseparator⟩
      exact ⟨letter, separator, hletter, hseparator, rest, rfl⟩
    · rintro ⟨_, _, hletter, hseparator, _, hrest⟩
      cases hrest
      exact ⟨hletter, hseparator⟩
  · next h =>
    refine iff_of_false (by simp) ?_
    rintro ⟨letter, separator, _, _, rest, hrest⟩
    exact h letter separator rest hrest.symm

/-- A path is taken for absolute exactly when it starts with an anchor. -/
theorem isAbsolute_iff (p : Path) : p.isAbsolute = true ↔ p.NeedsNoBase := by
  rw [isAbsolute, Bool.or_eq_true, Bool.or_eq_true, isRooted_iff, hasDrive_iff, isShare_iff]
  constructor
  · rintro ((hroot | ⟨letter, separator, hletter, hseparator, hdrive⟩) | hshare)
    · exact ⟨_, .root, hroot⟩
    · exact ⟨_, .drive hletter hseparator, hdrive⟩
    · exact ⟨_, .share, hshare⟩
  · rintro ⟨front, hanchor, hfront⟩
    cases hanchor with
    | root => exact Or.inl (Or.inl hfront)
    | drive hletter hseparator =>
      exact Or.inl (Or.inr ⟨_, _, hletter, hseparator, hfront⟩)
    | share => exact Or.inr hfront

instance (p : Path) : Decidable p.NeedsNoBase :=
  decidable_of_iff (p.isAbsolute = true) (isAbsolute_iff p)

/-! ### What a path stands for below a base -/

/-- What a path stands for below a base: itself if it is absolute, else what is put below it. -/
def ResolvesTo (base p target : Path) : Prop :=
  (p.NeedsNoBase ∧ target = p) ∨ (¬ p.NeedsNoBase ∧ target = base.join p)

theorem resolvesTo_resolve (base p : Path) : base.ResolvesTo p (base.resolve p) := by
  unfold resolve
  split
  · next h => exact Or.inl ⟨(isAbsolute_iff p).1 h, rfl⟩
  · next h => exact Or.inr ⟨fun hp => h ((isAbsolute_iff p).2 hp), rfl⟩

/-! ### Paths put below absolute ones -/

/-- What is written behind an absolute path leaves it absolute. -/
theorem NeedsNoBase.append {base : Path} (h : base.NeedsNoBase) (back : String) :
    (⟨base.text ++ back⟩ : Path).NeedsNoBase := by
  obtain ⟨front, hanchor, hfront⟩ := h
  refine ⟨front, hanchor, hfront.trans ?_⟩
  rw [String.toList_append]
  exact List.prefix_append _ _

/-- **Below an absolute path** everything is absolute, also nothing at all. -/
theorem NeedsNoBase.join {base : Path} (h : base.NeedsNoBase) (p : Path) :
    (base.join p).NeedsNoBase := by
  unfold Path.join
  split
  · next hrooted => exact ⟨_, .root, (isRooted_iff p).1 hrooted⟩
  · split
    · exact h.append p.text
    · exact (h.append "/").append p.text

/-- Below a path that starts at the root everything starts there. -/
theorem isRooted_join {base : Path} (h : base.isRooted = true) (p : Path) :
    (base.join p).isRooted = true := by
  have hback (back : String) : ['/'] <+: (base.text ++ back).toList := by
    rw [String.toList_append]
    exact ((isRooted_iff base).1 h).trans (List.prefix_append _ _)
  unfold Path.join
  split
  · next hrooted => exact hrooted
  · split
    · exact (isRooted_iff _).2 (hback p.text)
    · rw [isRooted_iff, String.append_assoc]
      exact hback ("/" ++ p.text)

/-- **What is resolved against an absolute path is absolute**, whatever it was. -/
theorem needsNoBase_resolve {base : Path} (h : base.NeedsNoBase) (p : Path) :
    (base.resolve p).NeedsNoBase := by
  unfold resolve
  split
  · next habsolute => exact (isAbsolute_iff p).1 habsolute
  · exact h.join p

/-- An absolute path stays as it is against every base. -/
theorem resolve_of_needsNoBase {p : Path} (h : p.NeedsNoBase) (base : Path) :
    base.resolve p = p :=
  if_pos ((isAbsolute_iff p).2 h)

end Path

end CompileIndex

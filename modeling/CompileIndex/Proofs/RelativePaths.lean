import CompileIndex.Proofs.Joining

/-!
# The way from one path to another

Two normal forms go together for a while and then part.  The way from one to the other goes up by
`..` to where they part, and down by the names behind.  There is a way when they have something in
common, or are both empty, and it is the shortest: it takes one step for every component beyond
those that the two share.

* `Path.SharedFront` — the components that two normal forms share in front, all of them;
* `Path.Parted`, `Path.exists_parted` — two lists that part, and where two lists do;
* `Path.relativeParts_of_parted` — the way between lists that part;
* `Path.normalForm_join_way` — where the way leads;
* `Path.relative_exact` — when there is a way, what it is, and what the way back is.
-/

namespace CompileIndex

namespace Path

/-! ### Where two lists part -/

/-- The components with which two lists start, as many as there are. -/
structure SharedFront (shared a b : List Component) : Prop where
  left : shared <+: a
  right : shared <+: b
  longest : ∀ front, front <+: a → front <+: b → front <+: shared

/-- That two lists do not start with the same component. -/
def Parted (a b : List Component) : Prop :=
  ∀ c, a.head? = some c → b.head? ≠ some c

theorem Parted.symm {a b : List Component} (h : Parted a b) : Parted b a :=
  fun c hb ha => h c ha hb

/-- **Any two lists go together and then part.** -/
theorem exists_parted (a b : List Component) :
    ∃ shared ups downs, a = shared ++ ups ∧ b = shared ++ downs ∧ Parted ups downs := by
  induction a generalizing b with
  | nil => exact ⟨[], [], b, rfl, rfl, nofun⟩
  | cons c rest ih =>
    cases b with
    | nil => exact ⟨[], c :: rest, [], rfl, rfl, nofun⟩
    | cons d more =>
      by_cases hc : c = d
      · subst hc
        obtain ⟨shared, ups, downs, rfl, rfl, hparted⟩ := ih more
        exact ⟨c :: shared, ups, downs, rfl, rfl, hparted⟩
      · refine ⟨[], c :: rest, d :: more, rfl, rfl, ?_⟩
        intro e he hd
        cases he
        exact hc (Option.some.inj hd).symm

/-- What stands before two lists part is what they share. -/
theorem Parted.sharedFront {ups downs : List Component} (h : Parted ups downs)
    (shared : List Component) : SharedFront shared (shared ++ ups) (shared ++ downs) := by
  refine ⟨List.prefix_append _ _, List.prefix_append _ _, ?_⟩
  induction shared with
  | nil =>
    intro front hups hdowns
    cases front with
    | nil => exact List.prefix_refl []
    | cons c rest =>
      obtain ⟨_, rfl⟩ := hups
      obtain ⟨_, rfl⟩ := hdowns
      exact absurd rfl (h c rfl)
  | cons c shared ih =>
    intro front hups hdowns
    cases front with
    | nil => exact List.nil_prefix
    | cons d rest =>
      rw [List.cons_append, List.cons_prefix_cons] at hups hdowns
      exact List.cons_prefix_cons.2 ⟨hups.1, ih rest hups.2 hdowns.2⟩

/-- Lists that part behind what they share part at once only if they share nothing. -/
theorem Parted.append_iff {ups downs : List Component} (h : Parted ups downs)
    (shared : List Component) : Parted (shared ++ ups) (shared ++ downs) ↔ shared = [] := by
  cases shared with
  | nil => exact iff_of_true h rfl
  | cons c shared => exact iff_of_false (fun hparted => hparted c rfl rfl) (List.cons_ne_nil _ _)

/-- Lists that part are equal only if both are empty. -/
theorem Parted.eq_iff {ups downs : List Component} (h : Parted ups downs) :
    ups = downs ↔ ups = [] ∧ downs = [] := by
  constructor
  · rintro rfl
    cases ups with
    | nil => exact ⟨rfl, rfl⟩
    | cons c rest => exact absurd rfl (h c rfl)
  · rintro ⟨rfl, rfl⟩
    rfl

theorem sharedLength_of_parted {ups downs : List Component} (h : Parted ups downs)
    (shared : List Component) :
    sharedLength (shared ++ ups) (shared ++ downs) = shared.length := by
  induction shared with
  | nil =>
    cases ups with
    | nil => rfl
    | cons c rest =>
      cases downs with
      | nil => rfl
      | cons d more =>
        have hcd : c ≠ d := fun hcd => h c rfl (hcd ▸ rfl)
        exact if_neg hcd
  | cons c shared ih =>
    rw [List.cons_append, List.cons_append, sharedLength, if_pos rfl, ih]
    rfl

/-- **The way between two lists that part**: up as many steps as the one goes on, and down as the
other does.  There is none when nothing is shared, unless both lists are empty. -/
theorem relativeParts_of_parted {ups downs : List Component} (h : Parted ups downs)
    (shared : List Component) :
    relativeParts (shared ++ ups) (shared ++ downs) =
      if shared = [] ∧ ¬ (ups = [] ∧ downs = []) then none
      else some (List.replicate ups.length .parent ++ downs) := by
  rw [relativeParts, sharedLength_of_parted h, List.length_append, Nat.add_sub_cancel_left,
    List.drop_left]
  cases shared with
  | nil => cases ups <;> cases downs <;> rfl
  | cons c shared => simp

/-! ### Where the way leads -/

/-- As many steps up as there are names take the names away. -/
theorem foldl_parents {names : List Component} (h : ∀ c ∈ names, ∃ text, c = .name text)
    (rest : List Component) :
    (List.replicate names.length .parent).foldl foldComponent (names ++ rest) = rest := by
  induction names with
  | nil => rfl
  | cons c names ih =>
    obtain ⟨⟨text, rfl⟩, hnames⟩ := List.forall_mem_cons.1 h
    rw [List.length_cons, List.replicate_succ, List.foldl_cons]
    exact ih hnames

/-- Names are added one after the other. -/
theorem foldl_names {names : List Component} (h : ∀ c ∈ names, ∃ text, c = .name text)
    (done : List Component) : names.foldl foldComponent done = names.reverse ++ done := by
  induction names generalizing done with
  | nil => rfl
  | cons c names ih =>
    obtain ⟨⟨text, rfl⟩, hnames⟩ := List.forall_mem_cons.1 h
    rw [List.foldl_cons, ih hnames, List.reverse_cons, List.append_assoc]
    rfl

/-- Behind its first component a normal form has names alone. -/
theorem names_behind {p : Path} {front more : List Component} (h : p.normalForm = front ++ more)
    (hfront : front ≠ []) : ∀ c ∈ more, (∃ text, c = .name text) ∧ c.IsPlain := by
  obtain ⟨names, hnames, hplain⟩ := p.normalForm_eq
  obtain ⟨first, rest, rfl⟩ := List.exists_cons_of_ne_nil hfront
  rw [hnames, rootPart] at h
  intro c hc
  apply hplain
  split at h
  · cases h
    exact List.mem_append_right rest hc
  · rw [List.nil_append] at h
    rw [h]
    exact List.mem_append_right _ hc

/-- **The way leads to the goal**: below a path, the steps up from its normal form and the names
down from there make up the normal form that they spell. -/
theorem normalForm_join_way {source way : Path} {shared ups downs : List Component}
    (hsource : source.normalForm = shared ++ ups) (hups : ∀ c ∈ ups, ∃ text, c = .name text)
    (hdowns : ∀ c ∈ downs, ∃ text, c = .name text) (hrelative : way.isRooted = false)
    (hway : way.components = List.replicate ups.length .parent ++ downs) :
    (source.join way).normalForm = shared ++ downs := by
  have hreverse : ∀ c ∈ ups.reverse, ∃ text, c = .name text :=
    fun c hc => hups c (List.mem_reverse.1 hc)
  have hclimb : (List.replicate ups.length .parent).foldl foldComponent
      (ups.reverse ++ shared.reverse) = shared.reverse := by
    rw [← List.length_reverse]
    exact foldl_parents hreverse _
  have hform : normalize source.components = shared ++ ups := hsource
  rw [normalForm_join source hrelative, hway, normalize_append, hform, List.reverse_append,
    List.foldl_append, hclimb, foldl_names hdowns, List.reverse_append, List.reverse_reverse,
    List.reverse_reverse]

/-! ### The way -/

/-- A way that goes up so many steps by `..` and then down so many by names. -/
def GoesUpAndDown (way : Path) (ups downs : Nat) : Prop :=
  ∃ names, way.components = List.replicate ups .parent ++ names ∧ names.length = downs ∧
    ∀ c ∈ names, ∃ text, c = .name text

/-- That there is a way between two lists that part. -/
def Reachable (shared ups downs : List Component) : Prop :=
  shared ≠ [] ∨ (ups = [] ∧ downs = [])

theorem Reachable.symm {shared ups downs : List Component} (h : Reachable shared ups downs) :
    Reachable shared downs ups :=
  h.imp_right And.symm

section

variable {source goal : Path} {shared ups downs : List Component}

/-- What stands behind what is shared are names, if there is a way at all. -/
theorem Reachable.names (h : Reachable shared ups downs)
    (hgoal : goal.normalForm = shared ++ downs) :
    ∀ c ∈ downs, (∃ text, c = .name text) ∧ c.IsPlain := by
  rcases h with hshared | ⟨_, rfl⟩
  · exact names_behind hgoal hshared
  · exact nofun

/-- There is a way exactly when something is shared, or both normal forms are empty. -/
theorem relativeTo?_eq_none_iff (hparted : Parted ups downs)
    (hsource : source.normalForm = shared ++ ups) (hgoal : goal.normalForm = shared ++ downs) :
    source.relativeTo? goal = none ↔ ¬ Reachable shared ups downs := by
  rw [relativeTo?, hsource, hgoal, relativeParts_of_parted hparted, Option.map_eq_none_iff,
    Reachable, not_or, not_not]
  split
  · next h => exact iff_of_true rfl h
  · next h => exact iff_of_false (Option.some_ne_none _) h

/-- **The way between two paths**, spelled and read again: so many steps up as the one normal form
goes on behind what the two share, and down as the other does. -/
theorem exists_way (hparted : Parted ups downs) (hreachable : Reachable shared ups downs)
    (hsource : source.normalForm = shared ++ ups) (hgoal : goal.normalForm = shared ++ downs) :
    ∃ way, source.relativeTo? goal = some way ∧ way.isRooted = false ∧
      way.components = List.replicate ups.length .parent ++ downs := by
  have hplain : ∀ c ∈ List.replicate ups.length .parent ++ downs, c.IsPlain := by
    intro c hc
    rcases List.mem_append.1 hc with hup | hdown
    · rw [List.eq_of_mem_replicate hup]
      exact Component.isPlain_parent
    · exact (hreachable.names hgoal c hdown).2
  have hnone : ¬ (shared = [] ∧ ¬ (ups = [] ∧ downs = [])) := by
    rintro ⟨hshared, hmore⟩
    exact hreachable.elim (fun h => h hshared) hmore
  have hway := relativeParts_of_parted hparted shared
  rw [if_neg hnone] at hway
  have hrelative := not_isRooted_ofComponents fun c hc => (hplain c hc).isStep
  have hread := components_ofComponents hplain
  refine ⟨_, ?_, hrelative, hread⟩
  rw [relativeTo?, hsource, hgoal, hway, Option.map_some]

end

/-- **The way from one path to another.**  For any two paths:

* there is no way exactly when their normal forms do not start with the same component, unless both
  are empty;
* a way, put below the one path, leads to the other, and it is empty exactly when the normal forms
  are equal;
* it goes up by `..` as many steps as the normal form of the one path has beyond what the two share,
  and down by as many names as that of the other has; and the way back goes up and down by as many
  steps as this one goes down and up. -/
theorem relative_exact (source goal : Path) :
    (source.relativeTo? goal = none ↔
      Parted source.normalForm goal.normalForm ∧
        ¬ (source.normalForm = [] ∧ goal.normalForm = [])) ∧
    ∃ shared, SharedFront shared source.normalForm goal.normalForm ∧
      ∀ way, source.relativeTo? goal = some way →
        (source.join way).normalForm = goal.normalForm ∧
        (way.text = "" ↔ source.normalForm = goal.normalForm) ∧
        ∃ ups downs, shared.length + ups = source.normalForm.length ∧
          shared.length + downs = goal.normalForm.length ∧ way.GoesUpAndDown ups downs ∧
          ∃ back, goal.relativeTo? source = some back ∧ back.GoesUpAndDown downs ups := by
  obtain ⟨shared, ups, downs, hsource, hgoal, hparted⟩ :=
    exists_parted source.normalForm goal.normalForm
  have hnone := relativeTo?_eq_none_iff hparted hsource hgoal
  constructor
  · rw [hnone, Reachable, hsource, hgoal, hparted.append_iff, not_or, not_not]
    simp +contextual
  refine ⟨shared, hsource ▸ hgoal ▸ hparted.sharedFront shared, ?_⟩
  intro way hway
  have hreachable : Reachable shared ups downs := by
    by_contra hunreachable
    rw [hnone.2 hunreachable] at hway
    cases hway
  obtain ⟨_, hfound, hrelative, hdown⟩ := exists_way hparted hreachable hsource hgoal
  cases hway.symm.trans hfound
  obtain ⟨back, hback, _, hup⟩ := exists_way hparted.symm hreachable.symm hgoal hsource
  have hups : ∀ c ∈ ups, ∃ text, c = .name text :=
    fun c hc => (hreachable.symm.names hsource c hc).1
  have hdowns : ∀ c ∈ downs, ∃ text, c = .name text :=
    fun c hc => (hreachable.names hgoal c hc).1
  refine ⟨?_, ?_, ups.length, downs.length, ?_, ?_, ⟨downs, hdown, rfl, hdowns⟩, back, hback,
    ups, hup, rfl, hups⟩
  · rw [hgoal]
    exact normalForm_join_way hsource hups hdowns hrelative hdown
  · rw [← components_eq_nil_iff, hdown, hsource, hgoal, List.append_cancel_left_eq,
      hparted.eq_iff, List.append_eq_nil_iff, List.replicate_eq_nil_iff, List.length_eq_zero_iff]
  · rw [hsource, List.length_append]
  · rw [hgoal, List.length_append]

/-- From a file given with `.` and `..` to a folder beside its own: up two steps and down two. -/
theorem relative_exact_beside :
    let source : Path := ⟨"/../p/./src/x/../a.c"⟩
    let goal : Path := ⟨"/p//lib/inc/"⟩
    source.relativeTo? goal = some ⟨"../../lib/inc"⟩ ∧
      (source.join ⟨"../../lib/inc"⟩).normalForm = goal.normalForm := by
  intro source goal
  have hway : source.relativeTo? goal = some ⟨"../../lib/inc"⟩ := by decide
  obtain ⟨_, _, _, hways⟩ := relative_exact source goal
  exact ⟨hway, (hways _ hway).1⟩

end Path

end CompileIndex

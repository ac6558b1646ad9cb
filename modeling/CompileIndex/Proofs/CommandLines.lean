import CompileIndex.CommandLine.Invocation
import CompileIndex.Proofs.JsonLexemes
import Mathlib.Tactic.SplitIfs

/-!
# Paths on the command line

An empty path cannot be made absolute, so a question about one fails.  No command line puts such a
question.  Operands are held back while they are read, and they are checked together when the next
option comes or the level ends; what is held back is not given yet.  So of what is given on a level,
no operand is ever empty, whatever words come.

* `Given.Filled` — that no operand is empty;
* `State.step_filled` — what one word keeps;
* `Level.readFrom_filled` — what all words keep, on all levels;
* `Query.paths`, `Invocation.paths_of_query` — the paths of a question, and those that a command
  line asks about.
-/

namespace CompileIndex.CommandLine

/-! ### What is given on a level -/

/-- That no operand is empty. -/
def Given.Filled (g : Given) : Prop :=
  ∀ word ∈ g.operands, word ≠ ""

namespace Given

variable {g g' : Given}

theorem filled_empty : empty.Filled :=
  fun _ h => absurd h List.not_mem_nil

/-- An option leaves the operands as they are. -/
theorem Filled.addOption {o : Switch} {value : String} (hg : g.Filled)
    (h : g.addOption o value = .ok g') : g'.Filled := by
  unfold Given.addOption at h
  split at h
  · cases h
  · cases h
  · split_ifs at h
    cases h
    exact hg

/-- Operands are given only when none of them is empty. -/
theorem Filled.addOperands {words : List String} (hg : g.Filled)
    (h : g.addOperands words = .ok g') : g'.Filled := by
  unfold Given.addOperands at h
  split_ifs at h with hempty
  cases h
  intro word hword
  rcases List.mem_append.1 hword with hold | hnew
  · exact hg word hold
  · intro hnil
    subst hnil
    exact hempty (List.any_eq_true.2 ⟨"", hnew, rfl⟩)

end Given

/-! ### A level under way -/

namespace State

variable {s t : State} {l : Level}

theorem settled_filled {g : Given} (hs : s.given.Filled) (h : s.settled = .ok g) : g.Filled := by
  unfold settled at h
  split at h
  · cases h
    exact hs
  · cases h
  · exact hs.addOption h
  · exact hs.addOperands h

theorem addOption_filled {o : Switch} {value : String} (hs : s.given.Filled)
    (h : s.addOption o value = .ok t) : t.given.Filled := by
  obtain ⟨g, hg, h⟩ := bind_eq_ok.1 h
  obtain ⟨g', hg', h⟩ := bind_eq_ok.1 h
  cases h
  exact (settled_filled hs hg).addOption hg'

theorem await_filled {o : Switch} (hs : s.given.Filled) (h : s.await o = .ok t) :
    t.given.Filled := by
  obtain ⟨g, hg, h⟩ := bind_eq_ok.1 h
  cases h
  exact settled_filled hs hg

theorem long_filled {word : List Char} (hs : s.given.Filled) (h : s.long l word = .ok t) :
    t.given.Filled := by
  unfold long at h
  simp only at h
  split at h
  · cases h
  · split_ifs at h
    · exact addOption_filled hs h
    · exact await_filled hs h
    · exact addOption_filled hs h

theorem letters_filled {word : List Char} (hs : s.given.Filled) (h : s.letters l word = .ok t) :
    t.given.Filled := by
  induction word generalizing s with
  | nil =>
    cases h
    exact hs
  | cons c rest ih =>
    unfold letters at h
    split at h
    · cases h
    · split_ifs at h
      · obtain ⟨u, hu, h⟩ := bind_eq_ok.1 h
        exact ih (addOption_filled hs hu) h
      · exact await_filled hs h
      · exact addOption_filled hs h

/-- An operand is held back, and what was held back before it may be given now. -/
theorem operand_filled {word : String} (hs : s.given.Filled) (h : s.operand l word = .ok t) :
    t.given.Filled := by
  unfold operand at h
  split_ifs at h
  split at h
  · cases h
    exact hs
  · obtain ⟨g, hg, h⟩ := bind_eq_ok.1 h
    cases h
    exact settled_filled hs hg

theorem plain_filled {word : String} (hs : s.given.Filled) (h : s.plain l word = .ok t) :
    t.given.Filled := by
  unfold plain at h
  split at h
  · cases h
    exact hs
  · exact operand_filled hs h

/-- **What one word keeps**, whether it is an option, letters of options or anything else. -/
theorem step_filled {word : String} (hs : s.given.Filled) (h : s.step l word = .ok (.stay t)) :
    t.given.Filled := by
  have hstay {x : Except Refusal State} (hx : x.map Step.stay = .ok (.stay t)) : x = .ok t := by
    obtain ⟨u, hu, heq⟩ := map_eq_ok.1 hx
    cases heq
    exact hu
  unfold step at h
  generalize (if s.awaits = true then none else l.opens? word) = opening at h
  split_ifs at h
  · exact operand_filled hs (hstay h)
  · split at h
    · cases h
    · split at h
      · cases h
        exact hs
      · exact long_filled hs (hstay h)
      · exact letters_filled hs (hstay h)
      · exact plain_filled hs (hstay h)

end State

/-! ### All levels -/

theorem Level.finish_filled {l : Level} {g : Given} {r : Reading} (hg : g.Filled)
    (h : l.finish g = .ok r) : ∀ level ∈ r.levels, level.2.Filled := by
  unfold finish at h
  split at h
  · split_ifs at h
    cases h
    exact List.forall_mem_singleton.2 hg
  · cases h

/-- **What all words keep**: on no level is an empty operand given. -/
theorem Level.readFrom_filled {l : Level} {s : State} {words : List String} {r : Reading}
    (hs : s.given.Filled) (h : l.readFrom s words = .ok r) :
    ∀ level ∈ r.levels, level.2.Filled := by
  induction words generalizing l s r with
  | nil =>
    obtain ⟨g, hg, h⟩ := bind_eq_ok.1 h
    exact finish_filled (State.settled_filled hs hg) h
  | cons word rest ih =>
    obtain ⟨next, hnext, h⟩ := bind_eq_ok.1 h
    cases next with
    | stay t => exact ih (State.step_filled hs hnext) h
    | opens opening =>
      cases opening with
      | help => cases h
      | level inner =>
        -- the level inside is read from its own start, and then this one is settled
        obtain ⟨reading, hreading, h⟩ := bind_eq_ok.1 h
        obtain ⟨g, hg, h⟩ := bind_eq_ok.1 h
        cases h
        exact List.forall_mem_cons.2
          ⟨State.settled_filled hs hg, ih Given.filled_empty hreading⟩

theorem Reading.given_filled {r : Reading} (h : ∀ level ∈ r.levels, level.2.Filled) (l : Level) :
    (r.given l).Filled := by
  unfold given
  cases hlevel : r.levels.lookup l with
  | none => exact Given.filled_empty
  | some g =>
    obtain ⟨before, behind, hsplit, _⟩ := List.lookup_eq_some_iff.1 hlevel
    exact h (l, g) (hsplit ▸ List.mem_append_right before List.mem_cons_self)

/-! ### Questions -/

/-- The paths of a question. -/
def Query.paths : Query → List Path
  | files paths => paths
  | browse folder => folder.toList

/-- A question is put about operands of its own level. -/
theorem Reading.paths_of_action {r : Reading} {o : Overrides} {q : Query}
    (h : r.action = .query o q) :
    ∀ p ∈ q.paths, ∃ word ∈ (r.given (.verb r.verb)).operands, p = ⟨word⟩ := by
  intro p hp
  unfold action at h
  cases hverb : r.verb with
  | file =>
    simp only [hverb, Action.query.injEq] at h
    rw [← h.2] at hp
    obtain ⟨word, hword, heq⟩ := List.mem_map.1 hp
    exact ⟨word, hword, heq.symm⟩
  | browse =>
    simp only [hverb, Action.query.injEq] at h
    rw [← h.2] at hp
    obtain ⟨word, hword, heq⟩ := Option.map_eq_some_iff.1 (Option.mem_toList.1 hp)
    exact ⟨word, List.mem_of_mem_head? hword, heq.symm⟩
  | _ => simp [hverb] at h

/-- **No command line asks about an empty path.** -/
theorem Invocation.paths_of_query {words : List String} {i : Invocation} {o : Overrides} {q : Query}
    (h : Invocation.parse words = .ok i) (hq : i.action = .query o q) :
    ∀ p ∈ q.paths, p.text ≠ "" := by
  obtain ⟨r, hr, h⟩ := bind_eq_ok.1 h
  cases h
  have hfilled := Level.readFrom_filled Given.filled_empty hr
  intro p hp
  obtain ⟨word, hword, rfl⟩ := Reading.paths_of_action hq p hp
  exact Reading.given_filled hfilled _ word hword

/-- Behind two dashes a word is an operand, but an empty one is none. -/
example :
    Invocation.parse ["query", "file", "--", "-c", ""] = .error .invalidValue := by
  decide

end CompileIndex.CommandLine

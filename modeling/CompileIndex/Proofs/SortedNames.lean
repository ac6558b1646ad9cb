import CompileIndex.Json.Value
import CompileIndex.Settings.Extract
import Mathlib.Data.List.Induction
import Mathlib.Data.List.Perm.Basic
import Mathlib.Tactic.SplitIfs

/-!
# Entries sorted by name

Members of objects, tables of layers and levels of parts of the program are kept in one way: a list
of entries, sorted by name, into which an entry is put where it belongs, instead of one of its name.
What holds of one of them holds of all.

* `putNamed` — an entry put in; `Json.insert_eq`, `Layered.put_eq`, `Settings.putLevel_eq`;
* `lookup_putNamed`, `pairwise_putNamed`, `perm_putNamed` — what it does;
* `putAll_eq_of_perm` — entries with names of their own are sorted, in whatever order they come.
-/

namespace CompileIndex

variable {α β : Type}

/-- An entry put into entries that are sorted by name, instead of one of its name. -/
def putNamed (name : String) (v : α) : List (String × α) → List (String × α)
  | [] => [(name, v)]
  | (n, old) :: rest =>
    if name < n then (name, v) :: (n, old) :: rest
    else if name = n then (name, v) :: rest
    else (n, old) :: putNamed name v rest

/-- Entries put in one after the other. -/
def putAll (entries : List (String × α)) : List (String × α) :=
  entries.foldl (fun sorted e => putNamed e.1 e.2 sorted) []

theorem Json.insert_eq (name : String) (v : Json) (members : List (String × Json)) :
    insert name v members = putNamed name v members := by
  induction members with
  | nil => rfl
  | cons m members ih => rw [insert, putNamed, ih]

theorem Layered.put_eq (name : String) (v : Layered) (entries : List (String × Layered)) :
    put name v entries = putNamed name v entries := by
  induction entries with
  | nil => rfl
  | cons e entries ih => rw [put, putNamed, ih]

theorem Settings.putLevel_eq (name level : String) (levels : List (String × String)) :
    putLevel name level levels = putNamed name level levels := by
  induction levels with
  | nil => rfl
  | cons m levels ih => rw [putLevel, putNamed, ih]

/-! ### One entry -/

theorem lookup_cons_eq (k n : String) (v : α) (entries : List (String × α)) :
    ((n, v) :: entries).lookup k = if k = n then some v else entries.lookup k := by
  rw [List.lookup_cons]
  by_cases hk : k = n
  · rw [if_pos hk, beq_iff_eq.2 hk]
  · rw [if_neg hk, beq_eq_false_iff_ne.2 hk]

/-- **What is found** after an entry is put in. -/
theorem lookup_putNamed (name k : String) (v : α) (entries : List (String × α)) :
    (putNamed name v entries).lookup k = if k = name then some v else entries.lookup k := by
  induction entries with
  | nil => exact lookup_cons_eq k name v []
  | cons e entries ih =>
    obtain ⟨n, old⟩ := e
    rw [putNamed]
    by_cases hless : name < n
    · rw [if_pos hless, lookup_cons_eq]
    by_cases hsame : name = n
    · rw [if_neg hless, if_pos hsame, lookup_cons_eq, lookup_cons_eq, ← hsame]
      split_ifs <;> rfl
    · rw [if_neg hless, if_neg hsame, lookup_cons_eq, lookup_cons_eq, ih]
      -- Two names that differ cannot both be the one that is looked up.
      split_ifs with hn hname
      · exact absurd (hname.symm.trans hn) hsame
      all_goals rfl

theorem mem_putNamed {name : String} {v : α} {entries : List (String × α)} {e : String × α}
    (h : e ∈ putNamed name v entries) : e = (name, v) ∨ e ∈ entries := by
  induction entries with
  | nil => exact Or.inl (List.mem_singleton.1 h)
  | cons n entries ih =>
    rw [putNamed] at h
    split_ifs at h
    · exact List.mem_cons.1 h
    · rcases List.mem_cons.1 h with h | h
      · exact Or.inl h
      · exact Or.inr (List.mem_cons_of_mem n h)
    · rcases List.mem_cons.1 h with rfl | h
      · exact Or.inr List.mem_cons_self
      · exact (ih h).imp_right (List.mem_cons_of_mem n)

/-- **Sorted entries stay sorted.** -/
theorem pairwise_putNamed (name : String) (v : α) {entries : List (String × α)}
    (h : entries.Pairwise fun a b => a.1 < b.1) :
    (putNamed name v entries).Pairwise fun a b => a.1 < b.1 := by
  induction entries with
  | nil => exact List.pairwise_singleton _ _
  | cons n entries ih =>
    obtain ⟨hn, hentries⟩ := List.pairwise_cons.1 h
    rw [putNamed]
    split_ifs with hless hsame
    · refine List.pairwise_cons.2 ⟨?_, h⟩
      rw [List.forall_mem_cons]
      exact ⟨hless, fun e he => String.lt_trans hless (hn e he)⟩
    · exact List.pairwise_cons.2 ⟨fun e he => hsame ▸ hn e he, hentries⟩
    · refine List.pairwise_cons.2 ⟨?_, ih hentries⟩
      intro e he
      rcases mem_putNamed he with rfl | he
      · -- Of two names that differ, the one that is not the less is the greater.
        have hle : n.1 ≤ name := String.not_lt.1 hless
        by_contra hnot
        exact hsame (String.le_antisymm (String.not_lt.1 hnot) hle)
      · exact hn e he

/-- A name behind all others is put behind them. -/
theorem putNamed_last {name : String} {v : α} {entries : List (String × α)}
    (h : ∀ e ∈ entries, e.1 < name) : putNamed name v entries = entries ++ [(name, v)] := by
  induction entries with
  | nil => rfl
  | cons n entries ih =>
    rw [List.forall_mem_cons] at h
    have hne : name ≠ n.1 := by
      rintro rfl
      exact String.lt_irrefl _ h.1
    rw [putNamed, if_neg (String.lt_asymm h.1), if_neg hne, ih h.2, List.cons_append]

/-- A new name is put in front of all others, but for the order. -/
theorem perm_putNamed {name : String} (v : α) {entries : List (String × α)}
    (h : name ∉ entries.map Prod.fst) : (putNamed name v entries).Perm ((name, v) :: entries) := by
  induction entries with
  | nil => exact .refl _
  | cons n entries ih =>
    rw [List.map_cons, List.mem_cons, not_or] at h
    rw [putNamed, if_neg h.1]
    split_ifs
    · exact .refl _
    · exact ((ih h.2).cons n).trans (.swap _ _ _)

/-! ### Sorted entries -/

theorem nodup_of_pairwise {entries : List (String × α)}
    (h : entries.Pairwise fun a b => a.1 < b.1) : (entries.map Prod.fst).Nodup := by
  rw [List.Nodup, List.pairwise_map]
  refine h.imp ?_
  intro a b hless heq
  exact String.lt_irrefl _ (heq ▸ hless)

theorem putAll_append (entries : List (String × α)) (e : String × α) :
    putAll (entries ++ [e]) = putNamed e.1 e.2 (putAll entries) := by
  rw [putAll, List.foldl_append]
  rfl

theorem pairwise_putAll (entries : List (String × α)) :
    (putAll entries).Pairwise fun a b => a.1 < b.1 := by
  induction entries using List.reverseRecOn with
  | nil => exact .nil
  | append_singleton entries e ih =>
    rw [putAll_append]
    exact pairwise_putNamed e.1 e.2 ih

/-- Where no name comes twice, nothing is lost. -/
theorem perm_putAll {entries : List (String × α)} (h : (entries.map Prod.fst).Nodup) :
    (putAll entries).Perm entries := by
  induction entries using List.reverseRecOn with
  | nil => exact .refl _
  | append_singleton entries e ih =>
    rw [List.map_append, List.nodup_append] at h
    have hrest := ih h.1
    have hnew : e.1 ∉ (putAll entries).map Prod.fst := by
      rw [(hrest.map Prod.fst).mem_iff]
      exact fun hmem => h.2.2 e.1 hmem e.1 (List.mem_singleton_self e.1) rfl
    rw [putAll_append]
    exact (perm_putNamed e.2 hnew).trans ((hrest.cons e).trans (List.perm_append_singleton e _).symm)

/-- **Sorted entries are determined** by what they hold. -/
theorem eq_of_perm_of_pairwise {s t : List (String × α)} (hs : s.Pairwise fun a b => a.1 < b.1)
    (ht : t.Pairwise fun a b => a.1 < b.1) (h : s.Perm t) : s = t :=
  h.eq_of_pairwise (fun _ _ _ _ hab hba => absurd hba (String.lt_asymm hab)) hs ht

/-- **Entries with names of their own are sorted**, in whatever order they come. -/
theorem putAll_eq_of_perm {s t : List (String × α)} (ht : t.Pairwise fun a b => a.1 < b.1)
    (h : s.Perm t) : putAll s = t := by
  have hnodup : (s.map Prod.fst).Nodup := (h.map Prod.fst).nodup_iff.2 (nodup_of_pairwise ht)
  exact eq_of_perm_of_pairwise (pairwise_putAll s) ht ((perm_putAll hnodup).trans h)

end CompileIndex

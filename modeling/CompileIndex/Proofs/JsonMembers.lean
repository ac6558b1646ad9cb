import CompileIndex.Proofs.SortedNames

/-!
# Members of objects

The members of an object are looked up by name, put in one by one, and sorted.  Sorting keeps the
last member of a name; where no name comes twice, nothing is lost.

* `lookup_insert`, `lookup_sortMembers` — what is found after a member is put in, and after sorting;
* `pairwise_sortMembers`, `mem_sortMembers` — what sorting leaves;
* `insert_last` — a member put in behind all others.
-/

namespace CompileIndex.Json

/-! ### Looking members up -/

theorem lookup_append (name : String) (members more : List (String × Json)) :
    lookup name (members ++ more) = (lookup name members).or (lookup name more) := by
  induction members with
  | nil => rfl
  | cons m members ih =>
    rw [List.cons_append, lookup, lookup]
    split
    · rfl
    · exact ih

theorem lookup_of_not_mem {name : String} {members : List (String × Json)}
    (h : name ∉ members.map Prod.fst) : lookup name members = none := by
  induction members with
  | nil => rfl
  | cons m members ih =>
    rw [List.map_cons, List.mem_cons, not_or] at h
    rw [lookup, if_neg (Ne.symm h.1), ih h.2]

theorem lookup_eq (name : String) (members : List (String × Json)) :
    lookup name members = members.lookup name := by
  induction members with
  | nil => rfl
  | cons m members ih =>
    rw [lookup, lookup_cons_eq, ih]
    simp only [eq_comm]

theorem lookup_insert (name k : String) (v : Json) (members : List (String × Json)) :
    lookup k (insert name v members) = if name = k then some v else lookup k members := by
  rw [lookup_eq, lookup_eq, insert_eq, lookup_putNamed]
  simp only [eq_comm]

/-! ### Putting members in -/

theorem mem_insert {name : String} {v : Json} {members : List (String × Json)}
    {m : String × Json} (h : m ∈ insert name v members) : m = (name, v) ∨ m ∈ members :=
  mem_putNamed (insert_eq name v members ▸ h)

theorem pairwise_insert (name : String) (v : Json) {members : List (String × Json)}
    (h : members.Pairwise (fun a b => a.1 < b.1)) :
    (insert name v members).Pairwise (fun a b => a.1 < b.1) :=
  insert_eq name v members ▸ pairwise_putNamed name v h

/-- A name behind all others is put behind them. -/
theorem insert_last {name : String} {v : Json} {members : List (String × Json)}
    (h : ∀ m ∈ members, m.1 < name) : insert name v members = members ++ [(name, v)] :=
  (insert_eq name v members).trans (putNamed_last h)

/-! ### Sorting -/

/-- Members are put in one after the other. -/
theorem sortMembers_append (members : List (String × Json)) (m : String × Json) :
    sortMembers (members ++ [m]) = insert m.1 m.2 (sortMembers members) := by
  rw [sortMembers, List.foldl_append]
  rfl

theorem mem_sortMembers {members : List (String × Json)} {m : String × Json}
    (h : m ∈ sortMembers members) : m ∈ members := by
  induction members using List.reverseRecOn with
  | nil => cases h
  | append_singleton members n ih =>
    rw [sortMembers_append] at h
    rcases mem_insert h with rfl | h
    · exact List.mem_append_right members List.mem_cons_self
    · exact List.mem_append_left _ (ih h)

theorem pairwise_sortMembers (members : List (String × Json)) :
    (sortMembers members).Pairwise (fun a b => a.1 < b.1) := by
  induction members using List.reverseRecOn with
  | nil => exact .nil
  | append_singleton members n ih =>
    rw [sortMembers_append]
    exact pairwise_insert n.1 n.2 ih

/-- Where no name comes twice, sorting loses nothing. -/
theorem lookup_sortMembers {members : List (String × Json)} (h : (members.map Prod.fst).Nodup)
    (name : String) : lookup name (sortMembers members) = lookup name members := by
  induction members using List.reverseRecOn with
  | nil => rfl
  | append_singleton members m ih =>
    rw [List.map_append, List.nodup_append] at h
    rw [sortMembers_append, lookup_insert, ih h.1, lookup_append, lookup, lookup]
    by_cases hname : m.1 = name
    · have hnew : name ∉ members.map Prod.fst := by
        intro hmem
        exact h.2.2 name hmem m.1 (List.mem_singleton_self m.1) hname.symm
      rw [if_pos hname, if_pos hname, lookup_of_not_mem hnew, Option.none_or]
    · rw [if_neg hname, if_neg hname, Option.or_none]

theorem sortedItems_eq_map (items : List Json) : sortedItems items = items.map sorted := by
  induction items with
  | nil => rfl
  | cons v items ih => rw [sortedItems, ih, List.map_cons]

theorem sortedMembers_eq_map (members : List (String × Json)) :
    sortedMembers members = members.map fun m => (m.1, m.2.sorted) := by
  induction members with
  | nil => rfl
  | cons m members ih => rw [sortedMembers, ih, List.map_cons]

/-- Sorting makes nothing null. -/
theorem eq_null_of_sorted {v : Json} (h : v.sorted = null) : v = null := by
  cases v with
  | null => rfl
  | _ => cases h

theorem member?_sortMembers {members : List (String × Json)}
    (h : (members.map Prod.fst).Nodup) (name : String) :
    (object (sortMembers members)).member? name = lookup name members :=
  lookup_sortMembers h name

end CompileIndex.Json

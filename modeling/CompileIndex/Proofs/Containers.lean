import CompileIndex.OrderedSet
import CompileIndex.PathMap
import Mathlib.Data.List.Induction

/-!
# Laws of path maps and ordered sets

What a caller may know of the two containers without opening them.

* `PathMap.find?_mapValues` — look-ups in a changed map, whatever the spelling;
* `PathMap.find?_ofKeys` — exactly the listed paths are found in a map made from a list;
* `PathMap.ofKeys_keys` — the keys of a map, listed again, give a map with the same keys in the
  same order;
* `PathMap.countP_keys` — a path has one slot when it is found, and none otherwise;
* `PathMap.size_insert` — how many paths have values after one is set;
* `PathMap.mapValues_insert` — a value set, and then all values changed;
* `PathMap.find?_eq_some_iff` — a value is found when an entry has it, however its key is spelled;
* `PathMap.entryOf?_insert`, `PathMap.entryOf?_erase`, `PathMap.entryOf?_filter` — what becomes of
  the entry of a path, with the spelling of its key;
* `OrderedSet.toList_ofList` — an ordered set made from a list drops every repetition but the
  first occurrence.
-/

namespace CompileIndex

namespace PathMap

variable {α β : Type}

/-- A map is its entries. -/
theorem eq_of_entries {m n : PathMap α} (h : m.entries = n.entries) : m = n := by
  cases m
  cases n
  simp only [PathMap.mk.injEq]
  exact h

/-! ### Look-ups -/

/-- A look-up in changed entries, when the change does not see how a key is spelled. -/
theorem findIn_map (f : Path → α → β) (p : Path)
    (hf : ∀ k v, k.Same p → f k v = f p v) (es : List (Path × α)) :
    findIn p (es.map fun e => (e.1, f e.1 e.2)) = (findIn p es).map (f p) := by
  induction es with
  | nil => rfl
  | cons d rest ih =>
    obtain ⟨k, w⟩ := d
    simp only [List.map_cons, findIn]
    by_cases hk : k.Same p
    · rw [if_pos hk, if_pos hk, hf k w hk]
      rfl
    · rw [if_neg hk, if_neg hk]
      exact ih

theorem find?_mapValues (f : Path → α → β) (m : PathMap α) (p : Path)
    (hf : ∀ k v, k.Same p → f k v = f p v) :
    (m.mapValues f).find? p = (m.find? p).map (f p) :=
  findIn_map f p hf m.entries

/-- Paths given one value one after the other: every one of them has it, all other paths keep
what they had. -/
theorem find?_foldl_insert (v : α) (p : Path) (keys : List Path) (m : PathMap α) :
    (keys.foldl (fun m k => m.insert k v) m).find? p =
      if ∃ k ∈ keys, k.Same p then some v else m.find? p := by
  induction keys generalizing m with
  | nil => simp
  | cons k rest ih =>
    rw [List.foldl_cons, ih, find?_insert]
    by_cases hr : ∃ q ∈ rest, q.Same p
    · rw [if_pos hr, if_pos]
      obtain ⟨q, hq, hs⟩ := hr
      exact ⟨q, List.mem_cons_of_mem _ hq, hs⟩
    · rw [if_neg hr]
      simp only [List.mem_cons, exists_eq_or_imp, hr, or_false]

/-- Exactly the listed paths are found, each with the one value. -/
theorem find?_ofKeys (v : α) (keys : List Path) (p : Path) :
    (ofKeys v keys).find? p = if ∃ k ∈ keys, k.Same p then some v else none :=
  find?_foldl_insert v p keys empty

/-! ### Keys -/

theorem pairwise_keys (m : PathMap α) : m.keys.Pairwise fun p q => ¬ p.Same q :=
  List.pairwise_map.2 m.distinct

/-- Among keys that are different paths, one stands for a path that is found and none for a path
that is not. -/
theorem countP_of_pairwise {es : List (Path × α)}
    (h : es.Pairwise fun a b => ¬ a.1.Same b.1) (p : Path) :
    (es.map (·.1)).countP (fun k => k.Same p) = if (findIn p es).isSome then 1 else 0 := by
  induction es with
  | nil => simp [findIn]
  | cons d rest ih =>
    obtain ⟨k, w⟩ := d
    rw [List.pairwise_cons] at h
    rw [List.map_cons]
    by_cases hk : k.Same p
    · have hfound : findIn p ((k, w) :: rest) = some w := if_pos hk
      have hrest : (rest.map (·.1)).countP (fun q => decide (q.Same p)) = 0 := by
        rw [List.countP_eq_zero]
        intro q hq
        obtain ⟨e, he, rfl⟩ := List.mem_map.1 hq
        simp only [decide_eq_true_eq]
        exact fun hs => h.1 e he (hk.trans hs.symm)
      rw [List.countP_cons_of_pos (by simpa using hk), hrest, hfound]
      rfl
    · have hnext : findIn p ((k, w) :: rest) = findIn p rest := if_neg hk
      rw [List.countP_cons_of_neg (by simpa using hk), hnext]
      exact ih h.2

/-- **One slot for every path.**  However a path is spelled, one key stands for it when it is
found, and none otherwise. -/
theorem countP_keys (m : PathMap α) (p : Path) :
    m.keys.countP (fun k => k.Same p) = if (m.find? p).isSome then 1 else 0 :=
  countP_of_pairwise m.distinct p

theorem length_insertIn (p : Path) (v : α) (es : List (Path × α)) :
    (insertIn p v es).length = es.length + if (findIn p es).isSome then 0 else 1 := by
  induction es with
  | nil => rfl
  | cons d rest ih =>
    obtain ⟨k, w⟩ := d
    rw [insertIn]
    by_cases hk : k.Same p
    · have hfound : findIn p ((k, w) :: rest) = some w := if_pos hk
      rw [if_pos hk, hfound]
      rfl
    · have hnext : findIn p ((k, w) :: rest) = findIn p rest := if_neg hk
      rw [if_neg hk, hnext, List.length_cons, ih, List.length_cons]
      omega

/-- **A path is counted once**, whatever its value and its spelling. -/
theorem size_insert (m : PathMap α) (p : Path) (v : α) :
    (m.insert p v).size = m.size + if (m.find? p).isSome then 0 else 1 :=
  length_insertIn p v m.entries

/-- Values changed without a look at their keys can be changed before they are set. -/
theorem mapValues_insert (f : α → β) (m : PathMap α) (p : Path) (v : α) :
    ((m.insert p v).mapValues fun _ => f) = (m.mapValues fun _ => f).insert p (f v) := by
  have hentries : ∀ es : List (Path × α),
      (insertIn p v es).map (fun e => (e.1, f e.2)) =
        insertIn p (f v) (es.map fun e => (e.1, f e.2)) := by
    intro es
    induction es with
    | nil => rfl
    | cons d rest ih =>
      obtain ⟨k, w⟩ := d
      simp only [insertIn, List.map_cons]
      by_cases hk : k.Same p
      · rw [if_pos hk, if_pos hk]
        rfl
      · rw [if_neg hk, if_neg hk, List.map_cons, ih]
  exact eq_of_entries (hentries m.entries)

@[simp] theorem size_mapValues (f : Path → α → β) (m : PathMap α) :
    (m.mapValues f).size = m.size :=
  List.length_map _

/-- After a value is set, every value was there before or is that one. -/
theorem snd_of_mem_insertIn {p : Path} {v : α} {es : List (Path × α)}
    {e : Path × α} (h : e ∈ insertIn p v es) : (∃ d ∈ es, d.2 = e.2) ∨ e.2 = v := by
  induction es with
  | nil =>
    rw [insertIn, List.mem_singleton] at h
    exact Or.inr (by rw [h])
  | cons d rest ih =>
    obtain ⟨k, w⟩ := d
    rw [insertIn] at h
    split at h
    · rcases List.mem_cons.1 h with rfl | h
      · exact Or.inr rfl
      · exact Or.inl ⟨e, List.mem_cons_of_mem _ h, rfl⟩
    · rcases List.mem_cons.1 h with rfl | h
      · exact Or.inl ⟨_, List.mem_cons_self, rfl⟩
      · rcases ih h with ⟨d, hd, he⟩ | hv
        · exact Or.inl ⟨d, List.mem_cons_of_mem _ hd, he⟩
        · exact Or.inr hv

/-- A path that is no key yet goes to the end. -/
theorem insertIn_of_new {p : Path} {v : α} {es : List (Path × α)}
    (h : ∀ e ∈ es, ¬ e.1.Same p) : insertIn p v es = es ++ [(p, v)] := by
  induction es with
  | nil => rfl
  | cons d rest ih =>
    obtain ⟨k, w⟩ := d
    rw [List.forall_mem_cons] at h
    simp only [insertIn]
    rw [if_neg h.1, ih h.2, List.cons_append]

/-- Different new paths go to the end one after the other. -/
theorem entries_foldl_insert (v : α) (keys : List Path) (m : PathMap α)
    (h : (m.keys ++ keys).Pairwise fun p q => ¬ p.Same q) :
    (keys.foldl (fun m k => m.insert k v) m).entries = m.entries ++ keys.map (·, v) := by
  induction keys generalizing m with
  | nil => simp
  | cons k rest ih =>
    have hnew : ∀ e ∈ m.entries, ¬ e.1.Same k := by
      intro e he
      exact (List.pairwise_append.1 h).2.2 e.1 (List.mem_map_of_mem he) k List.mem_cons_self
    have hins : (m.insert k v).entries = m.entries ++ [(k, v)] := insertIn_of_new hnew
    have hkeys : (m.insert k v).keys = m.keys ++ [k] := by
      simp only [keys, hins, List.map_append, List.map_cons, List.map_nil]
    rw [List.foldl_cons, ih (m.insert k v) (by rw [hkeys, List.append_assoc]; exact h), hins,
      List.append_assoc]
    rfl

/-- **The keys of a map can be listed again.**  The map made from them has the same keys in the
same order. -/
theorem ofKeys_keys (v : β) (m : PathMap α) :
    ofKeys v m.keys = m.mapValues fun _ _ => v := by
  apply eq_of_entries
  rw [ofKeys, entries_foldl_insert v m.keys empty m.pairwise_keys]
  simp only [empty, keys, mapValues, List.nil_append, List.map_map]
  rfl

/-! ### Entries -/

/-- The entry of a path, with the spelling of its key. -/
def entryOf? (m : PathMap α) (p : Path) : Option (Path × α) :=
  m.entries.find? fun e => e.1.Same p

theorem same_of_entryOf? {m : PathMap α} {p : Path} {e : Path × α} (h : m.entryOf? p = some e) :
    e.1.Same p := by
  simpa using List.find?_some h

theorem entryOf?_congr (m : PathMap α) {p q : Path} (h : p.Same q) :
    m.entryOf? p = m.entryOf? q := by
  have hkey (e : Path × α) : e.1.Same p ↔ e.1.Same q :=
    ⟨fun hp => hp.trans h, fun hq => hq.trans h.symm⟩
  simp only [entryOf?, hkey]

/-- **The entries of a map** are those of its keys. -/
theorem mem_entries_iff (m : PathMap α) (e : Path × α) :
    e ∈ m.entries ↔ m.entryOf? e.1 = some e := by
  constructor
  · intro he
    obtain ⟨before, after, hsplit⟩ := List.append_of_mem he
    have hdistinct := m.distinct
    rw [hsplit, List.pairwise_append] at hdistinct
    rw [entryOf?, hsplit, List.find?_append]
    have hnone : (before.find? fun d => d.1.Same e.1) = none := by
      rw [List.find?_eq_none]
      intro d hd
      simpa using hdistinct.2.2 d hd e List.mem_cons_self
    rw [hnone, Option.none_or, List.find?_cons, decide_eq_true (Path.Same.refl e.1)]
  · exact List.mem_of_find?_eq_some

/-- The value of a path is that of its entry. -/
theorem find?_eq_map_entryOf? (m : PathMap α) (p : Path) :
    m.find? p = (m.entryOf? p).map Prod.snd := by
  unfold find? entryOf?
  induction m.entries with
  | nil => rfl
  | cons d rest ih =>
    by_cases hk : d.1.Same p
    · simp [findIn, hk]
    · simp [findIn, hk, ih]

/-- **A value is found** just when an entry has it whose key is the path, in whatever spelling. -/
theorem find?_eq_some_iff (m : PathMap α) (p : Path) (v : α) :
    m.find? p = some v ↔ ∃ key, key.Same p ∧ (key, v) ∈ m.entries := by
  rw [find?_eq_map_entryOf?, Option.map_eq_some_iff]
  constructor
  · rintro ⟨⟨key, _⟩, hentry, rfl⟩
    exact ⟨key, same_of_entryOf? hentry, List.mem_of_find?_eq_some hentry⟩
  · rintro ⟨key, hsame, hmem⟩
    have hentry : m.entryOf? key = some (key, v) := (m.mem_entries_iff (key, v)).1 hmem
    exact ⟨(key, v), entryOf?_congr m hsame ▸ hentry, rfl⟩

/-- A value set keeps the spelling of a key that is there, and leaves all other entries. -/
theorem entryOf?_insert (m : PathMap α) (p q : Path) (v : α) :
    (m.insert p v).entryOf? q =
      if p.Same q then some (((m.entryOf? q).map Prod.fst).getD p, v) else m.entryOf? q := by
  unfold entryOf? insert
  simp only
  induction m.entries with
  | nil => by_cases h : p.Same q <;> simp [insertIn, h]
  | cons d rest ih =>
    obtain ⟨k, w⟩ := d
    rw [insertIn]
    by_cases hk : k.Same p
    · have hq : k.Same q ↔ p.Same q := ⟨fun h => hk.symm.trans h, fun h => hk.trans h⟩
      by_cases h : p.Same q <;> simp [hk, hq, h]
    · by_cases hq : k.Same q
      · have hp : ¬ p.Same q := fun h => hk (hq.trans h.symm)
        simp [hk, hq, hp]
      · simp only [hk, hq, List.find?_cons, if_false, decide_false]
        exact ih

/-- A path taken out has no entry, and all other entries stay. -/
theorem entryOf?_erase (m : PathMap α) (p q : Path) :
    (m.erase p).entryOf? q = if p.Same q then none else m.entryOf? q := by
  rw [entryOf?, entryOf?, erase, List.find?_filter]
  by_cases h : p.Same q
  · rw [if_pos h, List.find?_eq_none]
    intro e _
    have hkey : e.1.Same q → e.1.Same p := fun hq => hq.trans h.symm
    simpa using fun hnot hq => hnot (hkey hq)
  · rw [if_neg h]
    congr 1
    funext e
    have hkey : e.1.Same q → ¬ e.1.Same p := fun hq hp => h (hp.symm.trans hq)
    by_cases hq : e.1.Same q <;> simp [hq, hkey]

/-- Of the entries that are kept each path has its own, if it is kept. -/
theorem entryOf?_filter (keep : Path → α → Bool) (m : PathMap α) (q : Path) :
    (m.filter keep).entryOf? q = (m.entryOf? q).filter fun e => keep e.1 e.2 := by
  have hkept (e : Path × α) (he : e.1.Same q) :
      (m.filter keep).entryOf? q = some e ↔ m.entryOf? q = some e ∧ keep e.1 e.2 = true := by
    rw [← entryOf?_congr _ he, ← entryOf?_congr _ he, ← mem_entries_iff, ← mem_entries_iff]
    exact List.mem_filter
  rw [Option.ext_iff]
  intro e
  rw [Option.filter_eq_some_iff]
  by_cases he : e.1.Same q
  · exact hkept e he
  · exact iff_of_false (fun h => he (same_of_entryOf? h)) fun h => he (same_of_entryOf? h.1)

end PathMap

namespace OrderedSet

variable {α : Type} [DecidableEq α]

/-- Members added in two goes. -/
theorem insertAll_append (s : OrderedSet α) (xs ys : List α) :
    s.insertAll (xs ++ ys) = (s.insertAll xs).insertAll ys :=
  List.foldl_append

/-- Adding members appends those that are new, each where it first stands. -/
theorem toList_insertAll (s : OrderedSet α) (xs : List α) :
    (s.insertAll xs).toList = s.toList ++ (xs.removeAll s.toList).eraseDups := by
  induction xs generalizing s with
  | nil => simp [insertAll]
  | cons x rest ih =>
    have hfold : s.insertAll (x :: rest) = (s.insert x).insertAll rest := rfl
    rw [hfold, ih, toList_insert]
    by_cases hx : x ∈ s.toList
    · rw [if_pos hx, List.cons_removeAll, if_neg (by simpa using hx)]
    · have hrest : rest.removeAll (s.toList ++ [x]) =
          (rest.removeAll s.toList).filter fun y => !y == x := by
        simp only [List.removeAll, List.filter_filter]
        apply List.filter_congr
        intro y _
        rw [Bool.eq_iff_iff]
        simp [and_comm]
      rw [if_neg hx, List.cons_removeAll, if_pos (by simpa using hx), List.eraseDups_cons,
        List.append_assoc, List.singleton_append, hrest]

/-- **First occurrences, in order.** -/
theorem toList_ofList (xs : List α) : (ofList xs).toList = xs.eraseDups := by
  have hnone : xs.removeAll (empty : OrderedSet α).toList = xs :=
    List.filter_eq_self.2 fun _ _ => rfl
  rw [ofList, toList_insertAll, hnone]
  rfl

/-- **A set that is made of its own members** is itself. -/
theorem ofList_toList (s : OrderedSet α) : ofList s.toList = s := by
  have hmembers (xs : List α) (h : xs.Nodup) : xs.eraseDups = xs := by
    induction xs with
    | nil => rfl
    | cons x rest ih =>
      rw [List.nodup_cons] at h
      have hrest : (rest.filter fun y => !y == x) = rest :=
        List.filter_eq_self.2 fun y hy => by
          simpa using ne_of_mem_of_not_mem hy h.1
      rw [List.eraseDups_cons, hrest, ih h.2]
  have hlist : (ofList s.toList).toList = s.toList := by
    rw [toList_ofList, hmembers s.toList s.nodup]
  obtain ⟨xs, hxs⟩ := s
  rwa [OrderedSet.mk.injEq]

end OrderedSet

end CompileIndex

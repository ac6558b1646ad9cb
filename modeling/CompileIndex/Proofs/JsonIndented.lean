import CompileIndex.Proofs.JsonRoundTrip

/-!
# Indented texts read back

An indented text has blanks between its brackets, its items and its members, and nothing else that
a compact text does not have.  A reader passes over blanks, so a value is read back from its
indented text as from its compact one; and since a reader puts the members of an object in order by
their names, what comes back is the value with all its objects sorted.

* `skipBlanks_newline`, `readValue_skipBlanks` — blanks make no difference;
* `arrayText_indented`, `objectText_indented` — what stands between brackets;
* `readValue_indented`, `parse_pretty` — a value is read back, sorted.
-/

namespace CompileIndex.Json

/-! ### Blanks -/

/-- A line end and the spaces behind it are blanks. -/
theorem skipBlanks_newline (n : Nat) (s : List Char) :
    skipBlanks (newline n ++ s) = skipBlanks s := by
  have hspaces : ∀ k, skipBlanks (List.replicate k ' ' ++ s) = skipBlanks s := by
    intro k
    induction k with
    | zero => rfl
    | succ k ih => exact ih
  exact hspaces (2 * n)

/-- A value is read behind blanks as it is without them. -/
theorem readValue_skipBlanks (d : Nat) (s : List Char) :
    readValue d (skipBlanks s) = readValue d s := by
  cases d with
  | zero => rw [readValue, readValue, skipBlanks_skipBlanks]
  | succ d => rw [readValue, readValue, skipBlanks_skipBlanks]

/-! ### How an indented text starts -/

/-- An indented text starts with no blank, and with no bracket that closes an array. -/
theorem indented_cons {d : Nat} {v : Json} (h : Plain d v) (n : Nat) :
    ∃ c q, indented n v = c :: q ∧ isSpace c = false ∧ c ≠ ']' := by
  cases h with
  | null => exact ⟨'n', _, rfl, by decide, by decide⟩
  | bool b => cases b <;> exact ⟨_, _, rfl, by decide, by decide⟩
  | integer i =>
    obtain ⟨c, q, hcompact, hspace, hclose, _⟩ := compact_cons (.integer i)
    exact ⟨c, q, hcompact, hspace, hclose⟩
  | string m => exact ⟨'"', _, rfl, by decide, by decide⟩
  | @array d items _ => cases items <;> exact ⟨'[', _, rfl, by decide, by decide⟩
  | @object d members _ => cases members <;> exact ⟨'\x7b', _, rfl, by decide, by decide⟩

/-- An item of an indented text is read where it starts. -/
theorem opens_indented {d : Nat} {v : Json} (h : Plain d v) (n : Nat) (t : List Char) :
    ∃ c q, indented n v ++ t = c :: q ∧ c ≠ ']' ∧ skipBlanks (indented n v ++ t) = c :: q := by
  obtain ⟨c, q, hindented, hspace, hclose⟩ := indented_cons h n
  have hcons : indented n v ++ t = c :: (q ++ t) := by rw [hindented, List.cons_append]
  exact ⟨c, q ++ t, hcons, hclose, hcons ▸ skipBlanks_of_not hspace _⟩

/-! ### Arrays -/

section

variable {d : Nat} {items : List Json}

theorem stops_indentedItems (n : Nat) (items : List Json) (r : List Char) :
    Stops (indentedItems n items ++ r) := by
  cases items <;> exact stops_cons (by decide) _

theorem length_lt_indentedItems (n : Nat) (items : List Json) :
    items.length < (indentedItems n items).length := by
  induction items with
  | nil => exact Nat.succ_pos _
  | cons v items ih =>
    simp only [indentedItems, List.length_cons, List.length_append]
    omega

/-- The items behind the first one are read back, each behind its comma and its line end. -/
theorem itemsText_indentedItems {n : Nat} (hplain : ∀ v ∈ items, Plain d v)
    (hread : ∀ v ∈ items, ∀ t, Stops t →
      readValue d (indented (n + 1) v ++ t) = .ok (v.sorted, t)) (r : List Char) :
    ItemsText (readValue d) false (indentedItems n items ++ r) (sortedItems items) (']' :: r) := by
  induction items with
  | nil =>
    have hclose : indentedItems n [] ++ r = newline n ++ ']' :: r := by
      rw [indentedItems, List.append_assoc, List.singleton_append]
    have hblanks : skipBlanks (newline n ++ ']' :: r) = ']' :: r := by
      rw [skipBlanks_newline]
      exact skipBlanks_of_not (by decide) r
    rw [hclose]
    exact .close hblanks
  | cons v items ih =>
    rw [List.forall_mem_cons] at hplain hread
    obtain ⟨c, q, hcons, hclose, hblanks⟩ :=
      opens_indented hplain.1 (n + 1) (indentedItems n items ++ r)
    have hitem := hread.1 _ (stops_indentedItems n items r)
    have hcomma : indentedItems n (v :: items) ++ r =
        ',' :: (newline (n + 1) ++ (indented (n + 1) v ++ (indentedItems n items ++ r))) := by
      simp only [indentedItems, List.cons_append, List.append_assoc]
    have hopens : Opens false (indentedItems n (v :: items) ++ r) (c :: q) := by
      rw [hcomma]
      refine .next (skipBlanks_of_not (by decide) _) ?_
      rw [skipBlanks_newline, hblanks]
    rw [hcons] at hitem
    exact .item hopens hclose hitem (ih hplain.2 hread.2)

/-- **An indented array is read back.** -/
theorem arrayText_indented {n : Nat} (hplain : ∀ v ∈ items, Plain d v)
    (hread : ∀ v ∈ items, ∀ t, Stops t →
      readValue d (indented (n + 1) v ++ t) = .ok (v.sorted, t)) (r : List Char) :
    ArrayText (readValue d) (indented n (array items) ++ r) (sortedItems items) r := by
  cases items with
  | nil => exact ⟨']' :: r, rfl, Nat.zero_le _, .close rfl⟩
  | cons v items =>
    have hlength := length_lt_indentedItems n items
    rw [List.forall_mem_cons] at hplain hread
    obtain ⟨c, q, hcons, hclose, hblanks⟩ :=
      opens_indented hplain.1 (n + 1) (indentedItems n items ++ r)
    have hitem := hread.1 _ (stops_indentedItems n items r)
    have hbracket : indented n (array (v :: items)) ++ r =
        '[' :: (newline (n + 1) ++ (indented (n + 1) v ++ (indentedItems n items ++ r))) := by
      simp only [indented, List.cons_append, List.append_assoc]
    have hopens : Opens true
        (newline (n + 1) ++ (indented (n + 1) v ++ (indentedItems n items ++ r))) (c :: q) := by
      refine .first ?_
      rw [skipBlanks_newline, hblanks]
    rw [hbracket]
    refine ⟨_, rfl, ?_, ?_⟩
    · rw [sortedItems_eq_map, List.length_map]
      simp only [newline, List.length_append, List.length_cons]
      omega
    · rw [hcons] at hitem
      exact .item hopens hclose hitem (itemsText_indentedItems hplain.2 hread.2 r)

end

/-! ### Objects -/

section

variable {d : Nat} {members : List (String × Json)}

theorem stops_indentedMembers (n : Nat) (members : List (String × Json)) (r : List Char) :
    Stops (indentedMembers n members ++ r) := by
  cases members <;> exact stops_cons (by decide) _

theorem length_lt_indentedMembers (n : Nat) (members : List (String × Json)) :
    members.length < (indentedMembers n members).length := by
  induction members with
  | nil => exact Nat.succ_pos _
  | cons m members ih =>
    simp only [indentedMembers, List.length_cons, List.length_append]
    omega

/-- Members put to those that were gathered before, one after the other. -/
def gather (gathered members : List (String × Json)) : List (String × Json) :=
  members.foldl (fun sorted m => insert m.1 m.2 sorted) gathered

/-- A member is read behind its colon and a space, and put to the others. -/
theorem putMember_indented {n : Nat} {v : Json} {t : List Char}
    (hread : readValue d (indented (n + 1) v ++ t) = .ok (v.sorted, t))
    (gathered : List (String × Json)) (name : String) :
    putMember (readValue d) insert gathered name (':' :: ' ' :: (indented (n + 1) v ++ t)) =
      .ok (insert name v.sorted gathered, t) := by
  have hspace : readValue d (' ' :: (indented (n + 1) v ++ t)) = .ok (v.sorted, t) := by
    have hblank : skipBlanks (' ' :: (indented (n + 1) v ++ t)) =
        skipBlanks (indented (n + 1) v ++ t) := rfl
    rw [← readValue_skipBlanks, hblank, readValue_skipBlanks, hread]
  exact putMember_eq_ok.2 ⟨_, _, rfl, hspace, rfl⟩

/-- The members behind the first one are read back, each behind its comma and its line end. -/
theorem membersText_indentedMembers {n : Nat}
    (hread : ∀ m ∈ members, ∀ t, Stops t →
      readValue d (indented (n + 1) m.2 ++ t) = .ok (m.2.sorted, t))
    (gathered : List (String × Json)) (r : List Char) :
    MembersText (putMember (readValue d) insert) false gathered (indentedMembers n members ++ r)
      (members.map Prod.fst) (gather gathered (sortedMembers members)) ('\x7d' :: r) := by
  induction members generalizing gathered with
  | nil =>
    have hclose : indentedMembers n [] ++ r = newline n ++ '\x7d' :: r := by
      rw [indentedMembers, List.append_assoc, List.singleton_append]
    have hblanks : skipBlanks (newline n ++ '\x7d' :: r) = '\x7d' :: r := by
      rw [skipBlanks_newline]
      exact skipBlanks_of_not (by decide) r
    rw [hclose]
    exact .close hblanks
  | cons m members ih =>
    obtain ⟨name, v⟩ := m
    rw [List.forall_mem_cons] at hread
    have hmember := putMember_indented (hread.1 _ (stops_indentedMembers n members r)) gathered name
    have hcomma : indentedMembers n ((name, v) :: members) ++ r =
        ',' :: (newline (n + 1) ++ (quote name ++ (':' :: ' ' ::
          (indented (n + 1) v ++ (indentedMembers n members ++ r))))) := by
      simp only [indentedMembers, List.cons_append, List.append_assoc]
    have hopens : Opens false (indentedMembers n ((name, v) :: members) ++ r)
        (quote name ++ (':' :: ' ' ::
          (indented (n + 1) v ++ (indentedMembers n members ++ r)))) := by
      rw [hcomma]
      refine .next (skipBlanks_of_not (by decide) _) ?_
      rw [skipBlanks_newline, skipBlanks_quote]
    exact .of_quote hopens hmember (ih hread.2 _)

/-- **An indented object is read back**, and its members come sorted. -/
theorem objectText_indented {n : Nat}
    (hread : ∀ m ∈ members, ∀ t, Stops t →
      readValue d (indented (n + 1) m.2 ++ t) = .ok (m.2.sorted, t)) (r : List Char) :
    ObjectText (putMember (readValue d) insert) [] (indented n (object members) ++ r)
      (members.map Prod.fst) (sortMembers (sortedMembers members)) r := by
  cases members with
  | nil => exact ⟨'\x7d' :: r, rfl, Nat.zero_le _, .close rfl⟩
  | cons m members =>
    obtain ⟨name, v⟩ := m
    have hlength := length_lt_indentedMembers n members
    rw [List.forall_mem_cons] at hread
    have hmember := putMember_indented (hread.1 _ (stops_indentedMembers n members r)) [] name
    have hbrace : indented n (object ((name, v) :: members)) ++ r =
        '\x7b' :: (newline (n + 1) ++ (quote name ++ (':' :: ' ' ::
          (indented (n + 1) v ++ (indentedMembers n members ++ r))))) := by
      simp only [indented, List.cons_append, List.append_assoc]
    have hopens : Opens true (newline (n + 1) ++ (quote name ++ (':' :: ' ' ::
          (indented (n + 1) v ++ (indentedMembers n members ++ r)))))
        (quote name ++ (':' :: ' ' ::
          (indented (n + 1) v ++ (indentedMembers n members ++ r)))) := by
      refine .first ?_
      rw [skipBlanks_newline, skipBlanks_quote]
    rw [hbrace]
    refine ⟨_, rfl, ?_, ?_⟩
    · simp only [newline, List.map_cons, List.length_cons, List.length_map, List.length_append]
      omega
    · exact .of_quote hopens hmember (membersText_indentedMembers hread.2 _ r)

end

/-! ### Values -/

/-- **A value is read back from its indented text**, with all its objects sorted. -/
theorem readValue_indented {d : Nat} {v : Json} (h : Plain d v) (n : Nat) {t : List Char}
    (ht : Stops t) : readValue d (indented n v ++ t) = .ok (v.sorted, t) := by
  induction h generalizing n t with
  | null => exact readValue_compact .null .null ht
  | bool b => cases b <;> exact readValue_compact (.bool _) (.bool _) ht
  | integer i => exact readValue_compact (.integer i) (.integer i) ht
  | string m => exact readValue_compact (.string m) (.string m) ht
  | @array d items hitems ih =>
    have htext := arrayText_indented hitems (fun v hv t ht => ih v hv (n + 1) ht) t
    obtain ⟨u, hs, hrest⟩ := htext
    exact (readValue_array hs).2 ⟨d, sortedItems items, rfl, rfl, u, hs, hrest⟩
  | @object d members _ ih =>
    have htext := objectText_indented (fun m hm t ht => ih m hm (n + 1) ht) t
    obtain ⟨u, hs, hrest⟩ := htext
    exact (readValue_object hs).2
      ⟨d, _, sortMembers (sortedMembers members), rfl, rfl, u, hs, hrest⟩

/-- **A printed value is parsed**, also with a line end behind it. -/
theorem parse_pretty {v : Json} (h : Plain depthLimit v) :
    parse (v.pretty ++ "\n") = .ok v.sorted := by
  have htext : (v.pretty ++ "\n").toList = indented 0 v ++ ['\n'] := by
    rw [String.toList_append, pretty, String.toList_ofList]
    rfl
  refine readWhole_eq_ok.2 ⟨['\n'], ?_, rfl⟩
  rw [htext]
  exact readValue_indented h 0 (stops_cons (by decide) [])

end CompileIndex.Json

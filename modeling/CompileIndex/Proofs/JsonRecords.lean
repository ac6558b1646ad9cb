import CompileIndex.Proofs.JsonRoundTrip

/-!
# Records, written and read back

A record is read back from its compact text as soon as its fields are read back from theirs.  What
this takes is said field by field: a member with the name of the field, whose value the field reads
back, or no member at all for a field that may be left out.

* `Decoder.ReadsBack` — that a decoder reads a value that is written, whatever follows it;
* `Decoder.readsBack_text`, `readsBack_word`, `readsBack_optional`, `readsBack_strings` — single
  values and lists;
* `Fields.Holds` — the members that give the fields of a record;
* `Decoder.readsBack_record` — records;
* `Decoder.ReadsBack.decode_text` — whole texts.
-/

namespace CompileIndex.Json

variable {α β δ τ : Type}

namespace Decoder

/-- That a decoder which may open so many brackets reads a written value as `x`. -/
def ReadsBack (read : Decoder α) (depth : Nat) (v : Json) (x : α) : Prop :=
  ∀ t, Stops t → read depth (compact v ++ t) = .ok (x, t)

/-- What is read back of a value is read from the whole of its text. -/
theorem ReadsBack.decode_text {read : Decoder α} {v : Json} {x : α}
    (h : read.ReadsBack depthLimit v x) : read.decode (Json.text v) = .ok x := by
  have hread := h [] nofun
  rw [List.append_nil] at hread
  refine readWhole_eq_ok.2 ⟨[], ?_, rfl⟩
  rw [Json.text, String.toList_ofList]
  exact hread

theorem ReadsBack.map {read : Decoder α} {depth : Nat} {v : Json} {x : α}
    (h : read.ReadsBack depth v x) (f : α → β) : (read.map f).ReadsBack depth v (f x) :=
  fun t ht => bind_eq_ok.2 ⟨_, h t ht, rfl⟩

/-! ### Texts and words -/

theorem textAs_quote (wanted : String) (depth : Nat) (m : String) (t : List Char) :
    textAs wanted depth (quote m ++ t) = .ok (m, t) := by
  unfold textAs
  rw [skipBlanks_quote, quote_append]
  have hofList : String.ofList m.toList = m := String.ofList_toList
  exact bind_eq_ok.2 ⟨_, readString_escaped m.toList t, by simp only [hofList]; rfl⟩

/-- **A string is read back**, where a string or a path is wanted. -/
theorem readsBack_text (depth : Nat) (m : String) : text.ReadsBack depth (.string m) m :=
  fun t _ => textAs_quote "a string" depth m t

theorem readsBack_path (depth : Nat) (m : String) : path.ReadsBack depth (.string m) ⟨m⟩ := by
  have hread : (textAs "path string").ReadsBack depth (.string m) m :=
    fun t _ => textAs_quote "path string" depth m t
  exact hread.map Path.mk

/-- **A word of a closed list is read back.** -/
theorem readsBack_word {words : List (String × α)} {w : String} {x : α}
    (h : words.lookup w = some x) (depth : Nat) : (word words).ReadsBack depth (.string w) x := by
  intro t _
  have hplain : plainWord words depth (quote w ++ t) = .ok (x, t) := by
    refine bind_eq_ok.2 ⟨_, textAs_quote "variant identifier" depth w t, ?_⟩
    simp only [h]
    rfl
  unfold word
  rw [compact, skipBlanks_quote]
  rw [quote_append] at hplain ⊢
  exact hplain

/-- What starts with a bracket, a brace or a quote. -/
def StartsApart (v : Json) : Prop :=
  ∃ c q, compact v = c :: q ∧ isSpace c = false ∧ c ≠ 'n'

theorem startsApart_string (m : String) : StartsApart (.string m) :=
  ⟨'"', _, rfl, by decide, by decide⟩

/-- **A value that may be null is read back** when it starts otherwise than null does. -/
theorem readsBack_optional {read : Decoder α} {depth : Nat} {v : Json} {x : α}
    (h : read.ReadsBack depth v x) (hv : StartsApart v) :
    read.optional.ReadsBack depth v (some x) := by
  intro t ht
  obtain ⟨c, q, hcompact, hspace, hnull⟩ := hv
  have hread := h t ht
  rw [hcompact, List.cons_append] at hread ⊢
  exact optional_of_ne hspace hnull hread

/-! ### Lists of strings -/

/-- **The arrays that can be read**, by their items. -/
theorem readValue_eq_array {depth : Nat} {s r : List Char} {items : List Json} :
    readValue depth s = .ok (array items, r) ↔
      ∃ d, depth = d + 1 ∧ ArrayText (readValue d) s items r := by
  constructor
  · intro h
    rcases readValue_cases h with ⟨c, t, _, hscalar⟩ | ⟨d, items', hdepth, heq, htext⟩ |
      ⟨_, _, _, _, heq, _⟩
    · -- What opens no bracket is no array.
      have hflat : Canonical 0 (array items) := canonical_of_readScalar hscalar
      cases hflat
    · cases heq
      exact ⟨d, hdepth, htext⟩
    · cases heq
  · rintro ⟨d, hdepth, htext⟩
    obtain ⟨t, hs, _⟩ := id htext
    exact (readValue_array hs).2 ⟨d, items, hdepth, rfl, htext⟩

/-- Items are read as strings just when they are read as values and are strings. -/
theorem itemsText_text_iff {depth : Nat} {first : Bool} {s r : List Char} {xs : List String} :
    ItemsText (text depth) first s xs r ↔ ItemsText (readValue 0) first s (xs.map string) r := by
  constructor
  · intro h
    induction h with
    | close hs => exact .close hs
    | item hopens hc hread _ ih => exact .item hopens hc (text_eq_ok.1 hread) ih
  · intro h
    generalize hys : xs.map string = ys at h
    induction h generalizing xs with
    | close hs =>
      cases List.map_eq_nil_iff.1 hys
      exact .close hs
    | item hopens hc hread _ ih =>
      obtain ⟨x, rest, rfl, rfl, hrest⟩ := List.map_eq_cons_iff.1 hys
      have htext : text 0 _ = _ := text_eq_ok.2 hread
      exact .item hopens hc htext (ih hrest)

/-- **A list of strings is read where one is wanted** just when the value that stands there is
one, whatever the list is called. -/
theorem listAs_text_eq_ok {wanted : String} {depth : Nat} {s r : List Char} {xs : List String} :
    listAs wanted text depth s = .ok (xs, r) ↔
      0 < depth ∧ readValue 1 s = .ok (strings xs, r) := by
  have hlist : listAs wanted text depth s = .ok (xs, r) ↔
      ∃ d, depth = d + 1 ∧ ArrayText (text d) s xs r := by
    unfold listAs ArrayText
    cases hs : skipBlanks s with
    | nil => simp
    | cons c t =>
      by_cases hbracket : c = '['
      · subst hbracket
        cases depth with
        | zero => simp
        | succ d =>
          simp only [if_true]
          constructor
          · intro h
            obtain ⟨⟨items, u⟩, hitems, h⟩ := bind_eq_ok.1 h
            obtain ⟨v, rfl, hlength, htext⟩ := readItems_array.1 hitems
            cases h
            exact ⟨d, rfl, t, rfl, hlength, htext⟩
          · rintro ⟨_, hdepth, _, heq, hlength, htext⟩
            cases hdepth
            cases heq
            exact bind_eq_ok.2 ⟨_, readItems_array.2 ⟨r, rfl, hlength, htext⟩, rfl⟩
      · simp [hbracket]
  rw [hlist, strings, readValue_eq_array]
  constructor
  · rintro ⟨d, rfl, t, hs, hlength, htext⟩
    exact ⟨Nat.succ_pos d, 0, rfl, t, hs, by rwa [List.length_map], itemsText_text_iff.1 htext⟩
  · rintro ⟨hpos, _, heq, t, hs, hlength, htext⟩
    cases heq
    obtain ⟨d, rfl⟩ : ∃ d, depth = d + 1 := ⟨depth - 1, by omega⟩
    rw [List.length_map] at hlength
    exact ⟨d, rfl, t, hs, hlength, itemsText_text_iff.2 htext⟩

/-- **A list of strings is read back.** -/
theorem readsBack_strings (wanted : String) (depth : Nat) (xs : List String) :
    (listAs wanted text).ReadsBack (depth + 1) (strings xs) xs := by
  intro t ht
  refine listAs_text_eq_ok.2 ⟨Nat.succ_pos depth, readValue_compact ?_ ?_ ht⟩
  · refine .array ?_
    intro v hv
    obtain ⟨m, _, rfl⟩ := List.mem_map.1 hv
    exact .string m
  · refine .array ?_
    intro v hv
    obtain ⟨m, _, rfl⟩ := List.mem_map.1 hv
    exact .string m

end Decoder

/-! ### Records -/

namespace Fields

/-- The names of some fields. -/
def names : {δ τ : Type} → Fields δ τ → List String
  | _, _, nil => []
  | _, _, cons field rest => field.name :: rest.names

/-- That members, in the order of the fields, give every field that is not left out: `read` is what
is read of them, and `value` are the fields. -/
inductive Holds (depth : Nat) : {δ τ : Type} → Fields δ τ → List (String × Json) → δ → τ → Prop where
  | nil : Holds depth nil [] () ()
  | given {α δ τ : Type} {field : Field α} {rest : Fields δ τ} {v : Json} {x : α}
      {members : List (String × Json)} {read : δ} {value : τ} :
      field.read.ReadsBack depth v x → field.name ∉ rest.names →
      Holds depth rest members read value →
      Holds depth (cons field rest) ((field.name, v) :: members) (some x, read) (x, value)
  | left {α δ τ : Type} {field : Field α} {rest : Fields δ τ} {x : α}
      {members : List (String × Json)} {read : δ} {value : τ} :
      field.unset = some x → field.name ∉ rest.names → Holds depth rest members read value →
      Holds depth (cons field rest) members (none, read) (x, value)

/-- A field that may be left out is held by its member, if there is one. -/
theorem Holds.optional {depth : Nat} {name : String} {item : Decoder α} {write : α → Json}
    {rest : Fields δ τ} {members : List (String × Json)} {read : δ} {value : τ}
    (hback : ∀ x, item.ReadsBack depth (write x) x)
    (hapart : ∀ x, Decoder.StartsApart (write x)) (hnew : name ∉ rest.names)
    (hrest : Holds depth rest members read value) (o : Option α) :
    Holds depth (cons (.optional name item) rest)
      ((o.map fun x => (name, write x)).toList ++ members) (o.map some, read) (o, value) := by
  cases o with
  | none => exact .left rfl hnew hrest
  | some x => exact .given (Decoder.readsBack_optional (hback x) (hapart x)) hnew hrest

theorem Holds.mem_names {depth : Nat} {fields : Fields δ τ} {members : List (String × Json)}
    {read : δ} {value : τ} (h : fields.Holds depth members read value) :
    ∀ m ∈ members, m.1 ∈ fields.names := by
  induction h with
  | nil => exact nofun
  | given _ _ _ ih =>
    rw [List.forall_mem_cons]
    exact ⟨List.mem_cons_self, fun m hm => List.mem_cons_of_mem _ (ih m hm)⟩
  | left _ _ _ ih => exact fun m hm => List.mem_cons_of_mem _ (ih m hm)

theorem Holds.finish {depth : Nat} {fields : Fields δ τ} {members : List (String × Json)}
    {read : δ} {value : τ} (h : fields.Holds depth members read value) :
    fields.finish read = .ok value := by
  induction h with
  | nil => rfl
  | given _ _ _ ih => simp only [Fields.finish, ih]; rfl
  | left hunset _ _ ih => simp only [Fields.finish, hunset, ih]; rfl

/-- What other members give stays beside a field that none of them gives. -/
theorem gathers_other {field : Field α} {rest : Fields δ τ} {depth : Nat} (x : Option α)
    {members : List (String × Json)} {g g' : δ} (hnew : field.name ∉ rest.names)
    (hnames : ∀ m ∈ members, m.1 ∈ rest.names)
    (h : Gathers (rest.readMember depth) g members g') :
    Gathers ((cons field rest).readMember depth) (x, g) members (x, g') := by
  induction h with
  | nil => exact .nil
  | @cons _ _ _ name _ _ hread _ ih =>
    rw [List.forall_mem_cons] at hnames
    have hother : name ≠ field.name := fun heq => hnew (heq ▸ hnames.1)
    refine .cons ?_ (ih hnames.2)
    intro t ht
    exact (readMember_other hother).2 ⟨_, hread t ht, rfl⟩

/-- **The members that hold the fields** are gathered one after the other. -/
theorem Holds.gathers {depth : Nat} {fields : Fields δ τ} {members : List (String × Json)}
    {read : δ} {value : τ} (h : fields.Holds depth members read value) :
    Gathers (fields.readMember depth) fields.start members read := by
  induction h with
  | nil => exact .nil
  | given hread hnew hrest ih =>
    refine .cons ?_ (gathers_other _ hnew hrest.mem_names ih)
    intro t ht
    exact (readMember_same rfl).2 ⟨rfl, _, _, rfl, hread t ht, rfl⟩
  | left _ hnew hrest ih => exact gathers_other _ hnew hrest.mem_names ih

end Fields

/-- **A record is read back** from the members that hold its fields. -/
theorem Decoder.readsBack_record {name : String} {fields : Fields δ τ} {make : τ → α} {depth : Nat}
    {members : List (String × Json)} {read : δ} {value : τ}
    (h : fields.Holds depth members read value) :
    (Decoder.record name fields make).ReadsBack (depth + 1) (.object members) (make value) := by
  intro t _
  exact record_eq_ok.2
    ⟨depth, value, rfl, rfl, Or.inr ⟨_, read, h.gathers.objectText t, h.finish⟩⟩

end CompileIndex.Json

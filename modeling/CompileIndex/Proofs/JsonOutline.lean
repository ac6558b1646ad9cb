import CompileIndex.Proofs.JsonIndented
import CompileIndex.Proofs.JsonRecords

/-!
# What stands in the text of a record

A record is read from an object or from an array.  Its text is outlined without being read: the
members of the object, each with the text that its value starts, or the items of the array.  Every
field that was read then stands in the outline, once, and what was read is what stands there.  What
else the outline holds was skipped.  A text whose outline holds the fields is read as the record.

* `outlineMember`, `outlineItem` — members and items, skipped and noted;
* `ObjectOf`, `ArrayOf` — whole texts outlined;
* `StandsAt` — the value that stands under a name or at a place;
* `Decoder.ReadsValues` — decoders that read values only, which the skipping passes over as well;
* `Fields.Given`, `Fields.objectText_iff` — the fields of an object;
* `Fields.Listed`, `Fields.itemsText_iff` — the fields of an array;
* `Decoder.record_decode_iff` — the texts that are read as a record.
-/

namespace CompileIndex.Json

variable {α β δ τ : Type}

/-! ### Outlines -/

/-- A member noted behind those before it, with the text that its value starts. -/
def outlineMember (found : List (String × List Char)) (name : String) (s : List Char) :
    Except Fault (List (String × List Char) × List Char) := do
  let s ← readColon s
  return (found ++ [(name, s)], ← skipAny s)

/-- An item, as the text that it starts. -/
def outlineItem (s : List Char) : Except Fault (List Char × List Char) := do
  return (s, ← skipAny s)

/-- That a text starts with a value. -/
def StartsWith (s : List Char) (v : Json) : Prop :=
  ∃ depth r, readValue depth s = .ok (v, r)

/-- **What stands in a text**: the text is an object that has one member of this name, and this is
its value, or it is an array, and this is its item at the place. -/
def StandsAt (text name : String) (place : Nat) (v : Json) : Prop :=
  (∃ t names found r s, skipBlanks text.toList = '\x7b' :: t ∧
      MembersText outlineMember true [] t names found ('\x7d' :: r) ∧ skipBlanks r = [] ∧
      (found.filter fun m => m.1 = name) = [(name, s)] ∧ StartsWith s v) ∨
    (∃ t found r s, skipBlanks text.toList = '[' :: t ∧
      ItemsText outlineItem true t found (']' :: r) ∧ skipBlanks r = [] ∧
      found[place]? = some s ∧ StartsWith s v)

/-- A text is an object with these members: names, each with the text that its value starts. -/
def ObjectOf (text : String) (members : List (String × List Char)) : Prop :=
  ∃ t names r, skipBlanks text.toList = '\x7b' :: t ∧
    MembersText outlineMember true [] t names members ('\x7d' :: r) ∧ skipBlanks r = []

/-- A text is an array of these items, each as the text that it starts. -/
def ArrayOf (text : String) (items : List (List Char)) : Prop :=
  ∃ t r, skipBlanks text.toList = '[' :: t ∧ ItemsText outlineItem true t items (']' :: r) ∧
    skipBlanks r = []

theorem outlineMember_eq_ok {found : List (String × List Char)} {name : String}
    {s t r : List Char} (hcolon : readColon s = .ok t) (hskip : skipAny t = .ok r) :
    outlineMember found name s = .ok (found ++ [(name, t)], r) :=
  bind_eq_ok.2 ⟨t, hcolon, bind_eq_ok.2 ⟨r, hskip, rfl⟩⟩

/-! ### Decoders of values -/

/-- That a decoder reads a value, whatever it makes of it. -/
def Decoder.ReadsValues (read : Decoder α) : Prop :=
  ∀ depth s x r, read depth s = .ok (x, r) → ∃ d v, readValue d s = .ok (v, r)

namespace Decoder

theorem readsValues_any : any.ReadsValues :=
  fun depth _ v _ h => ⟨depth, v, h⟩

theorem readsValues_text : text.ReadsValues :=
  fun depth _ m _ h => ⟨depth, string m, text_eq_ok.1 h⟩

theorem readsValues_strings (wanted : String) : (listAs wanted text).ReadsValues :=
  fun _ _ xs _ h => ⟨1, strings xs, (listAs_text_eq_ok.1 h).2⟩

theorem ReadsValues.map {read : Decoder α} (h : read.ReadsValues) (f : α → β) :
    (read.map f).ReadsValues := by
  intro depth s x r hmap
  obtain ⟨⟨y, t⟩, hread, heq⟩ := bind_eq_ok.1 hmap
  cases heq
  exact h depth s y r hread

/-- The word null is a value. -/
theorem readValue_null {depth : Nat} {s r t : List Char} (hs : skipBlanks s = 'n' :: r)
    (h : readWord ['u', 'l', 'l'] r = .ok t) : readValue depth s = .ok (null, t) := by
  rw [readValue_scalar hs (by decide)]
  exact bind_eq_ok.2 ⟨t, h, rfl⟩

theorem readValue_of_nothing {depth : Nat} {s r : List Char}
    (h : nothing depth s = .ok ((), r)) : readValue depth s = .ok (null, r) := by
  unfold nothing at h
  split at h
  · cases h
  · next c q hs =>
    split_ifs at h with hn
    subst hn
    obtain ⟨t, hword, heq⟩ := bind_eq_ok.1 h
    cases heq
    exact readValue_null hs hword

theorem ReadsValues.optional {read : Decoder α} (h : read.ReadsValues) :
    read.optional.ReadsValues := by
  intro depth s x r hread
  unfold Decoder.optional at hread
  split at hread
  · next q hs =>
    obtain ⟨t, hword, heq⟩ := bind_eq_ok.1 hread
    cases heq
    exact ⟨depth, null, readValue_null hs hword⟩
  · obtain ⟨⟨y, t⟩, hread, heq⟩ := bind_eq_ok.1 hread
    cases heq
    obtain ⟨d, v, hvalue⟩ := h depth _ y r hread
    rw [readValue_skipBlanks] at hvalue
    exact ⟨d, v, hvalue⟩

theorem readValue_of_plainWord {words : List (String × α)} {depth : Nat} {s r : List Char} {x : α}
    (h : plainWord words depth s = .ok (x, r)) : ∃ w, readValue depth s = .ok (string w, r) := by
  obtain ⟨⟨w, t⟩, htext, heq⟩ := bind_eq_ok.1 h
  simp only at heq
  split at heq
  · cases heq
    exact ⟨w, textAs_eq_ok.1 htext⟩
  · cases heq

/-- A word is a string, or the name of the one member, null, of an object. -/
theorem readsValues_word (words : List (String × α)) : (word words).ReadsValues := by
  intro depth s x r h
  unfold word at h
  split at h
  · cases h
  · next c q hs =>
    split_ifs at h with hbrace hquote
    · subst hbrace
      split at h
      · cases h
      · next d =>
        obtain ⟨⟨y, t⟩, hword, h⟩ := bind_eq_ok.1 h
        obtain ⟨u, hcolon, h⟩ := bind_eq_ok.1 h
        obtain ⟨⟨_, p⟩, hnull, h⟩ := bind_eq_ok.1 h
        simp only at h hnull
        split at h
        · cases h
        · next e z hp =>
          split_ifs at h with hclose
          subst hclose
          cases h
          obtain ⟨w, hw⟩ := readValue_of_plainWord hword
          obtain ⟨n, cs, hn, hname, rfl⟩ := readValue_eq_string.1 hw
          have hmember : putMember (readValue d) insert [] (String.ofList cs) t =
              .ok ([(String.ofList cs, null)], p) :=
            putMember_eq_ok.2 ⟨u, null, hcolon, readValue_of_nothing hnull, rfl⟩
          have hlength := length_skipBlanks_le q
          rw [hn, List.length_cons] at hlength
          exact ⟨d + 1, _, (readValue_object hs).2 ⟨d, [String.ofList cs], _, rfl, rfl, q, hs,
            Nat.le_trans (Nat.succ_pos _) hlength,
            .member (.first hn) hname hmember (.close hp)⟩⟩
    · subst hquote
      obtain ⟨w, hword⟩ := readValue_of_plainWord h
      rw [← hs, readValue_skipBlanks] at hword
      exact ⟨depth, string w, hword⟩

end Decoder

/-! ### Objects -/

namespace Fields

/-- That the decoders of all fields read values. -/
def ReadValues : {δ τ : Type} → Fields δ τ → Prop
  | _, _, nil => True
  | _, _, cons field rest => field.read.ReadsValues ∧ rest.ReadValues

/-- That the fields that were read stand in an outline, each once, and those that were not read do
not stand there. -/
def Outlined : {δ τ : Type} → Fields δ τ → Nat → δ → List (String × List Char) → Prop
  | _, _, nil, _, _, _ => True
  | _, _, cons field rest, depth, read, found =>
    (match read.1 with
      | none => (found.filter fun m => m.1 = field.name) = []
      | some x => ∃ s, (found.filter fun m => m.1 = field.name) = [(field.name, s)] ∧
          ∃ r, field.read depth s = .ok (x, r)) ∧
      rest.Outlined depth read.2 found

/-- That the fields of a whole record stand in an outline, each once, but for those that do not
stand there and are filled in. -/
def Given : {δ τ : Type} → Fields δ τ → Nat → τ → List (String × List Char) → Prop
  | _, _, nil, _, _, _ => True
  | _, _, cons field rest, depth, value, found =>
    (((found.filter fun m => m.1 = field.name) = [] ∧ field.unset = some value.1) ∨
      ∃ s, (found.filter fun m => m.1 = field.name) = [(field.name, s)] ∧
        ∃ r, field.read depth s = .ok (value.1, r)) ∧
      rest.Given depth value.2 found

variable {depth : Nat}

theorem outlined_start (fields : Fields δ τ) : fields.Outlined depth fields.start [] := by
  induction fields with
  | nil => trivial
  | cons field rest ih => exact ⟨rfl, ih⟩

theorem filter_concat_of_ne {name other : String} (h : name ≠ other) (s : List Char)
    (found : List (String × List Char)) :
    ((found ++ [(name, s)]).filter fun m => m.1 = other) = found.filter fun m => m.1 = other := by
  rw [List.filter_append, List.filter_cons_of_neg (by simpa using h), List.filter_nil,
    List.append_nil]

theorem filter_concat_self {name : String} {found : List (String × List Char)}
    (hnew : (found.filter fun m => m.1 = name) = []) (s : List Char) :
    ((found ++ [(name, s)]).filter fun m => m.1 = name) = [(name, s)] := by
  rw [List.filter_append, hnew]
  simp

/-- A field that does not stand in an outline was not read. -/
theorem Outlined.unread {field : Field α} {rest : Fields δ τ} {read : Option α × δ}
    {found : List (String × List Char)} (h : (cons field rest).Outlined depth read found)
    (hnew : (found.filter fun m => m.1 = field.name) = []) : read.1 = none := by
  have hfirst := h.1
  cases hgot : read.1 with
  | none => rfl
  | some x =>
    rw [hgot] at hfirst
    obtain ⟨_, hsome, _⟩ := hfirst
    cases hnew.symm.trans hsome

/-- A member that is no field changes nothing. -/
theorem Outlined.concat_other {fields : Fields δ τ} {read : δ} {found : List (String × List Char)}
    {name : String} (s : List Char) (hname : name ∉ fields.names)
    (h : fields.Outlined depth read found) :
    fields.Outlined depth read (found ++ [(name, s)]) := by
  induction fields with
  | nil => trivial
  | cons field rest ih =>
    rw [names, List.mem_cons, not_or] at hname
    refine ⟨?_, ih hname.2 h.2⟩
    rw [filter_concat_of_ne hname.1]
    exact h.1

/-- One member more, read and outlined. -/
theorem outlined_readMember {fields : Fields δ τ} (hnames : fields.names.Nodup)
    (hvalues : fields.ReadValues) {read read' : δ} {name : String} {s r : List Char}
    {found : List (String × List Char)} (h : fields.readMember depth read name s = .ok (read', r))
    (hfound : fields.Outlined depth read found) :
    ∃ t, readColon s = .ok t ∧ skipAny t = .ok r ∧
      fields.Outlined depth read' (found ++ [(name, t)]) := by
  induction fields with
  | nil =>
    obtain ⟨t, hcolon, hskip⟩ := readMember_nil.1 h
    exact ⟨t, hcolon, hskip, trivial⟩
  | cons field rest ih =>
    rw [names, List.nodup_cons] at hnames
    by_cases hname : name = field.name
    · subst hname
      obtain ⟨hnone, t, x, hcolon, hread, rfl⟩ := (readMember_same rfl).1 h
      obtain ⟨d, v, hvalue⟩ := hvalues.1 depth t x r hread
      have hnew := hfound.1
      rw [hnone] at hnew
      exact ⟨t, hcolon, skipAny_of_readValue hvalue, ⟨t, filter_concat_self hnew t, r, hread⟩,
        hfound.2.concat_other t hnames.1⟩
    · obtain ⟨more, hrest, rfl⟩ := (readMember_other hname).1 h
      obtain ⟨t, hcolon, hskip, hmore⟩ := ih hnames.2 hvalues.2 hrest hfound.2
      refine ⟨t, hcolon, hskip, ?_, hmore⟩
      rw [filter_concat_of_ne hname]
      exact hfound.1

/-- An object that is read field by field, outlined. -/
theorem outlined_members {fields : Fields δ τ} (hnames : fields.names.Nodup)
    (hvalues : fields.ReadValues) {first : Bool} {read read' : δ} {s r : List Char}
    {names : List String} {found : List (String × List Char)}
    (h : MembersText (fields.readMember depth) first read s names read' r)
    (hfound : fields.Outlined depth read found) :
    ∃ found', MembersText outlineMember first found s names found' r ∧
      fields.Outlined depth read' found' := by
  induction h generalizing found with
  | close hs => exact ⟨found, .close hs, hfound⟩
  | member hopens hname hread _ ih =>
    obtain ⟨t, hcolon, hskip, hmore⟩ := outlined_readMember hnames hvalues hread hfound
    obtain ⟨found', htext, hfound'⟩ := ih hmore
    exact ⟨found', .member hopens hname (outlineMember_eq_ok hcolon hskip) htext, hfound'⟩

/-- One member more of an outline that holds a whole record, read. -/
theorem readMember_of_given {fields : Fields δ τ} (hnames : fields.names.Nodup)
    (hvalues : fields.ReadValues) {read : δ} {value : τ} {name : String} {s t r : List Char}
    {found more : List (String × List Char)} (hcolon : readColon s = .ok t)
    (hskip : skipAny t = .ok r) (hgiven : fields.Given depth value (found ++ (name, t) :: more))
    (hfound : fields.Outlined depth read found) :
    ∃ read', fields.readMember depth read name s = .ok (read', r) ∧
      fields.Outlined depth read' (found ++ [(name, t)]) := by
  induction fields with
  | nil => exact ⟨(), readMember_nil.2 ⟨t, hcolon, hskip⟩, trivial⟩
  | cons field rest ih =>
    rw [names, List.nodup_cons] at hnames
    obtain ⟨hfield, hgiven⟩ := hgiven
    by_cases hname : name = field.name
    · -- The field stands once in the outline, so it is this member, and no earlier one.
      subst hname
      rw [List.filter_append, List.filter_cons_of_pos (by simp)] at hfield
      rcases hfield with ⟨hnone, _⟩ | ⟨u, hone, r', hread⟩
      · cases (List.append_eq_nil_iff.1 hnone).2
      have hnew : (found.filter fun m => m.1 = field.name) = [] := by
        have hlength := congrArg List.length hone
        rw [List.length_append, List.length_cons, List.length_singleton] at hlength
        exact List.length_eq_zero_iff.1 (by omega)
      rw [hnew, List.nil_append, List.cons.injEq, Prod.mk.injEq] at hone
      obtain ⟨⟨_, rfl⟩, _⟩ := hone
      obtain ⟨d, v, hvalue⟩ := hvalues.1 depth _ _ _ hread
      cases hskip.symm.trans (skipAny_of_readValue hvalue)
      exact ⟨_, (readMember_same rfl).2 ⟨hfound.unread hnew, t, _, hcolon, hread, rfl⟩,
        ⟨t, filter_concat_self hnew t, r, hread⟩, hfound.2.concat_other t hnames.1⟩
    · obtain ⟨more, hrest, hmore⟩ := ih hnames.2 hvalues.2 hgiven hfound.2
      refine ⟨_, (readMember_other hname).2 ⟨more, hrest, rfl⟩, ?_, hmore⟩
      rw [filter_concat_of_ne hname]
      exact hfound.1

/-- What is outlined later stands behind what was outlined before. -/
theorem exists_append_of_outline {first : Bool} {found found' : List (String × List Char)}
    {s r : List Char} {names : List String}
    (h : MembersText outlineMember first found s names found' r) :
    ∃ more, found' = found ++ more := by
  induction h with
  | close => exact ⟨[], (List.append_nil _).symm⟩
  | member _ _ hread _ ih =>
    obtain ⟨t, _, hread⟩ := bind_eq_ok.1 hread
    obtain ⟨u, _, heq⟩ := bind_eq_ok.1 hread
    cases heq
    obtain ⟨more, hmore⟩ := ih
    exact ⟨_, hmore.trans (List.append_assoc _ _ _)⟩

/-- An outline that holds a whole record, read field by field. -/
theorem members_of_given {fields : Fields δ τ} (hnames : fields.names.Nodup)
    (hvalues : fields.ReadValues) {first : Bool} {read : δ} {value : τ} {s r : List Char}
    {names : List String} {found found' : List (String × List Char)}
    (h : MembersText outlineMember first found s names found' r)
    (hgiven : fields.Given depth value found') (hfound : fields.Outlined depth read found) :
    ∃ read', MembersText (fields.readMember depth) first read s names read' r ∧
      fields.Outlined depth read' found' := by
  induction h generalizing read with
  | close hs => exact ⟨read, .close hs, hfound⟩
  | member hopens hname hread hrest ih =>
    obtain ⟨t, hcolon, hread⟩ := bind_eq_ok.1 hread
    obtain ⟨u, hskip, heq⟩ := bind_eq_ok.1 hread
    cases heq
    obtain ⟨more, rfl⟩ := exists_append_of_outline hrest
    have hwhole := hgiven
    rw [List.append_assoc, List.singleton_append] at hwhole
    obtain ⟨read₁, hmember, hfound₁⟩ :=
      readMember_of_given hnames hvalues hcolon hskip hwhole hfound
    obtain ⟨read', htext, hfound'⟩ := ih hgiven hfound₁
    exact ⟨read', .member hopens hname hmember htext, hfound'⟩

/-- What was read is a whole record just when the outline holds one. -/
theorem Outlined.finish_iff {fields : Fields δ τ} {read : δ} {value : τ}
    {found : List (String × List Char)} (h : fields.Outlined depth read found) :
    fields.finish read = .ok value ↔ fields.Given depth value found := by
  induction fields with
  | nil => exact iff_of_true rfl trivial
  | cons field rest ih =>
    obtain ⟨given, more⟩ := read
    obtain ⟨x, others⟩ := value
    obtain ⟨hfirst, hmore⟩ := h
    have hpair (y : _) : (do return (y, ← rest.finish more)) = Except.ok (x, others) ↔
        y = x ∧ rest.finish more = .ok others := by
      rw [bind_eq_ok]
      constructor
      · rintro ⟨_, hrest, heq⟩
        cases heq
        exact ⟨rfl, hrest⟩
      · rintro ⟨rfl, hrest⟩
        exact ⟨others, hrest, rfl⟩
    rw [Given, ← ih hmore, finish]
    cases given with
    | none =>
      have hnone : (found.filter fun m => m.1 = field.name) = [] := hfirst
      cases hunset : field.unset with
      | none => simp [hnone]
      | some y =>
        simp only [hnone, hpair]
        simp
    | some y =>
      obtain ⟨s, hone, r, hread⟩ := hfirst
      simp only [hone, hpair]
      refine and_congr_left fun _ => ⟨?_, ?_⟩
      · rintro rfl
        exact Or.inr ⟨s, rfl, r, hread⟩
      · rintro (⟨hnone, _⟩ | ⟨t, heq, r', hread'⟩)
        · cases hnone
        · cases heq
          cases hread.symm.trans hread'
          rfl

/-- Members that are outlined are no more than there are characters. -/
theorem length_le_of_outline {first : Bool} {found found' : List (String × List Char)}
    {s r : List Char} {names : List String}
    (h : MembersText outlineMember first found s names found' r) : names.length ≤ s.length := by
  induction h with
  | close => exact Nat.zero_le _
  | member hopens hname hread _ ih =>
    obtain ⟨t, hcolon, hread⟩ := bind_eq_ok.1 hread
    obtain ⟨u, hskip, heq⟩ := bind_eq_ok.1 hread
    cases heq
    have hstart := hopens.length_le
    have hquote := length_lt_of_skipString (skipString_of_readString hname)
    have hbehind := length_lt_of_readColon hcolon
    have hleft := movesOn_length.skipAny hskip
    rw [List.length_cons] at hstart ⊢
    omega

/-- **An object is read as a record** just when its outline holds the fields. -/
theorem objectText_iff {fields : Fields δ τ} (hnames : fields.names.Nodup)
    (hvalues : fields.ReadValues) {value : τ} {s r : List Char} :
    (∃ names read, ObjectText (fields.readMember depth) fields.start s names read r ∧
        fields.finish read = .ok value) ↔
      ∃ t names found, skipBlanks s = '\x7b' :: t ∧
        MembersText outlineMember true [] t names found ('\x7d' :: r) ∧
        fields.Given depth value found := by
  constructor
  · rintro ⟨names, read, ⟨t, hs, _, htext⟩, hfinish⟩
    obtain ⟨found, houtline, hfound⟩ :=
      outlined_members hnames hvalues htext (outlined_start fields)
    exact ⟨t, names, found, hs, houtline, hfound.finish_iff.1 hfinish⟩
  · rintro ⟨t, names, found, hs, houtline, hgiven⟩
    obtain ⟨read, htext, hfound⟩ :=
      members_of_given hnames hvalues houtline hgiven (outlined_start fields)
    exact ⟨names, read, ⟨t, hs, length_le_of_outline houtline, htext⟩, hfound.finish_iff.2 hgiven⟩

/-- A field without a default stands in the outline of its record. -/
theorem Given.required {field : Field α} {rest : Fields δ τ} {value : α × τ}
    {found : List (String × List Char)} (hunset : field.unset = none)
    (h : (cons field rest).Given depth value found) :
    (∃ s, (found.filter fun m => m.1 = field.name) = [(field.name, s)] ∧
        ∃ r, field.read depth s = .ok (value.1, r)) ∧
      rest.Given depth value.2 found := by
  obtain ⟨⟨_, hsome⟩ | hone, hrest⟩ := h
  · cases hunset.symm.trans hsome
  · exact ⟨hone, hrest⟩

end Fields

/-! ### Arrays -/

/-- A value starts with a character, and not with a bracket that closes an array. -/
theorem cons_of_readValue {depth : Nat} {s r : List Char} {v : Json}
    (h : readValue depth s = .ok (v, r)) : ∃ c q, s = c :: q ∧ c ≠ ']' := by
  cases s with
  | nil => cases depth <;> cases h
  | cons c q =>
    refine ⟨c, q, rfl, ?_⟩
    rintro rfl
    rw [readValue_scalar (skipBlanks_of_not (by decide) q) (by decide)] at h
    cases h

theorem skipBlanks_of_closeArray {s r : List Char} (h : closeArray s = .ok r) :
    skipBlanks s = ']' :: r := by
  unfold closeArray at h
  split at h
  · cases h
  · next c t hs =>
    split_ifs at h with hclose
    · subst hclose
      cases h
      exact hs
    · split at h
      · cases h
      · split_ifs at h

theorem closeArray_of_skipBlanks {s r : List Char} (h : skipBlanks s = ']' :: r) :
    closeArray s = .ok r := by
  simp only [closeArray, h, if_true]

namespace Fields

/-- That the items of an array are the fields of a record, one after the other, but for those at the
end that are filled in. -/
def Listed : {δ τ : Type} → Fields δ τ → Nat → τ → List (List Char) → Prop
  | _, _, nil, _, _, found => found = []
  | _, _, cons field rest, depth, value, [] =>
    field.cut = some value.1 ∧ rest.Listed depth value.2 []
  | _, _, cons field rest, depth, value, s :: more =>
    (∃ r, field.read depth s = .ok (value.1, r)) ∧ rest.Listed depth value.2 more

variable {depth : Nat}

/-- An array that is read field by field, outlined. -/
theorem listed_items {fields : Fields δ τ} (hvalues : fields.ReadValues) {n : Nat}
    {s u r : List Char} {value : τ} (h : fields.readItems depth n s = .done value u)
    (hclose : closeArray u = .ok r) :
    ∃ found, ItemsText outlineItem (n = 0) s found (']' :: r) ∧
      fields.Listed depth value found := by
  induction fields generalizing n s with
  | nil =>
    cases h
    exact ⟨[], .close (skipBlanks_of_closeArray hclose), rfl⟩
  | cons field rest ih =>
    have hlater : decide (n + 1 = 0) = false := rfl
    obtain ⟨t, hrest, ⟨hcut, p, hs, rfl⟩ | ⟨q, hopens, hread⟩⟩ := readItems_cons h
    · -- The array ends here, so all later fields are filled in as well.
      obtain ⟨found, htext, hfound⟩ := ih hvalues.2 hrest
      rw [hlater] at htext
      have hend : skipBlanks (']' :: p) = ']' :: p := skipBlanks_of_not (by decide) p
      cases htext with
      | close hp =>
        cases hend.symm.trans hp
        exact ⟨[], .close hs, hcut, hfound⟩
      | item hopens _ _ _ =>
        cases hopens with
        | next hp _ => cases hend.symm.trans hp
    · obtain ⟨found, htext, hfound⟩ := ih hvalues.2 hrest
      obtain ⟨d, v, hvalue⟩ := hvalues.1 depth q value.1 t hread
      obtain ⟨c, p, rfl, hc⟩ := cons_of_readValue hvalue
      have hitem : outlineItem (c :: p) = .ok (c :: p, t) :=
        bind_eq_ok.2 ⟨t, skipAny_of_readValue hvalue, rfl⟩
      rw [hlater] at htext
      exact ⟨(c :: p) :: found, .item hopens hc hitem htext, ⟨t, hread⟩, hfound⟩

/-- An array whose items are the fields, read field by field. -/
theorem items_of_listed {fields : Fields δ τ} (hvalues : fields.ReadValues) {n : Nat}
    {s r : List Char} {value : τ} {found : List (List Char)}
    (htext : ItemsText outlineItem (n = 0) s found (']' :: r))
    (h : fields.Listed depth value found) :
    ∃ u, fields.readItems depth n s = .done value u ∧ closeArray u = .ok r := by
  induction fields generalizing n s found with
  | nil =>
    cases h
    cases htext with
    | close hs => exact ⟨s, rfl, closeArray_of_skipBlanks hs⟩
  | cons field rest ih =>
    cases htext with
    | close hs =>
      obtain ⟨hcut, hlisted⟩ := h
      have hend : ItemsText outlineItem (n + 1 = 0) (']' :: r) [] (']' :: r) :=
        .close (skipBlanks_of_not (by decide) r)
      obtain ⟨u, hrest, hclose⟩ := ih hvalues.2 hend hlisted
      exact ⟨u, readItems_of_cut hs hcut hrest, hclose⟩
    | item hopens hc hitem htext =>
      obtain ⟨t, hskip, heq⟩ := bind_eq_ok.1 hitem
      cases heq
      obtain ⟨⟨t', hread⟩, hlisted⟩ := h
      obtain ⟨d, v, hvalue⟩ := hvalues.1 depth _ _ _ hread
      cases hskip.symm.trans (skipAny_of_readValue hvalue)
      have hlater : decide (n + 1 = 0) = false := rfl
      rw [← hlater] at htext
      obtain ⟨u, hrest, hclose⟩ := ih hvalues.2 htext hlisted
      exact ⟨u, readItems_of_opens hopens hc hread hrest, hclose⟩

/-- **An array is read as a record** just when its items are the fields. -/
theorem itemsText_iff {fields : Fields δ τ} (hvalues : fields.ReadValues) {value : τ}
    {s r : List Char} :
    (∃ u, fields.readItems depth 0 s = .done value u ∧ closeArray u = .ok r) ↔
      ∃ found, ItemsText outlineItem true s found (']' :: r) ∧ fields.Listed depth value found := by
  constructor
  · rintro ⟨u, hitems, hclose⟩
    exact listed_items hvalues hitems hclose
  · rintro ⟨found, htext, hlisted⟩
    exact items_of_listed hvalues htext hlisted

/-- A field without a default is an item. -/
theorem Listed.required {field : Field α} {rest : Fields δ τ} {value : α × τ}
    {found : List (List Char)} (hcut : field.cut = none)
    (h : (cons field rest).Listed depth value found) :
    ∃ s more, found = s :: more ∧ (∃ r, field.read depth s = .ok (value.1, r)) ∧
      rest.Listed depth value.2 more := by
  cases found with
  | nil => cases hcut.symm.trans h.1
  | cons s more => exact ⟨s, more, rfl, h.1, h.2⟩

end Fields

/-! ### Whole texts -/

/-- **The texts that are read as a record**: the objects whose members give the fields, and the
arrays whose items are the fields. -/
theorem Decoder.record_decode_iff {name : String} {fields : Fields δ τ} {make : τ → α}
    (hnames : fields.names.Nodup) (hvalues : fields.ReadValues) {text : String} {x : α} :
    (record name fields make).decode text = .ok x ↔
      ∃ value, x = make value ∧
        ((∃ items, ArrayOf text items ∧ fields.Listed 126 value items) ∨
          ∃ members, ObjectOf text members ∧ fields.Given 126 value members) := by
  rw [decode, readWhole_eq_ok]
  constructor
  · rintro ⟨r, hread, hr⟩
    obtain ⟨d, value, hdepth, rfl, ⟨t, u, hs, hitems, hclose⟩ | ⟨names, read, htext, hfinish⟩⟩ :=
      record_eq_ok.1 hread
    · cases hdepth
      obtain ⟨items, houtline, hlisted⟩ := (Fields.itemsText_iff hvalues).1 ⟨u, hitems, hclose⟩
      exact ⟨value, rfl, Or.inl ⟨items, ⟨t, r, hs, houtline, hr⟩, hlisted⟩⟩
    · cases hdepth
      obtain ⟨t, names', members, hs, houtline, hgiven⟩ :=
        (Fields.objectText_iff hnames hvalues).1 ⟨names, read, htext, hfinish⟩
      exact ⟨value, rfl, Or.inr ⟨members, ⟨t, names', r, hs, houtline, hr⟩, hgiven⟩⟩
  · rintro ⟨value, rfl, ⟨items, ⟨t, r, hs, houtline, hr⟩, hlisted⟩ |
      ⟨members, ⟨t, names, r, hs, houtline, hr⟩, hgiven⟩⟩
    · obtain ⟨u, hitems, hclose⟩ := (Fields.itemsText_iff hvalues).2 ⟨items, houtline, hlisted⟩
      exact ⟨r, record_eq_ok.2 ⟨126, value, rfl, rfl, Or.inl ⟨t, u, hs, hitems, hclose⟩⟩, hr⟩
    · obtain ⟨names', read, htext, hfinish⟩ :=
        (Fields.objectText_iff hnames hvalues).2 ⟨t, names, members, hs, houtline, hgiven⟩
      exact ⟨r, record_eq_ok.2 ⟨126, value, rfl, rfl, Or.inr ⟨names', read, htext, hfinish⟩⟩, hr⟩

end CompileIndex.Json

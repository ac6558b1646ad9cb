import CompileIndex.Json.Decoder
import CompileIndex.Proofs.JsonSkip

/-!
# Values of a declared shape

What it takes for a decoder to read a value: a string where a string is wanted, the members of an
object where a table is, the members or the items of a record.

* `readWhole_eq_ok` — a whole text;
* `textAs_eq_ok` — a string is read as a string just when it is read as a value and is one;
* `optional_of_ne` — what may be null and is not;
* `table_eq_ok`, `record_eq_ok` — tables, and records from objects and from arrays.
-/

namespace CompileIndex.Json

/-- What is made of a whole text: something, behind which only blanks stand. -/
theorem readWhole_eq_ok {α : Type} {read : List Char → Except Fault (α × List Char)}
    {s : List Char} {x : α} :
    readWhole read s = .ok x ↔ ∃ r, read s = .ok (x, r) ∧ skipBlanks r = [] := by
  rw [readWhole, bind_eq_ok]
  constructor
  · rintro ⟨⟨y, r⟩, hread, h⟩
    simp only at h
    split at h
    · next hr =>
      cases h
      exact ⟨r, hread, hr⟩
    · cases h
  · rintro ⟨r, hread, hr⟩
    refine ⟨(x, r), hread, ?_⟩
    simp only [hr]
    rfl

/-! ### Strings -/

theorem readScalar_eq_string {c : Char} {s r : List Char} {m : String} :
    readScalar (c :: s) = .ok (string m, r) ↔
      c = '"' ∧ ∃ cs, readString s = .ok (cs, r) ∧ String.ofList cs = m := by
  rw [readScalar]
  by_cases hquote : c = '"'
  · subst hquote
    simp only [Char.reduceEq, if_false, if_true, bind_eq_ok, Prod.exists, true_and]
    constructor
    · rintro ⟨cs, u, hread, heq⟩
      cases heq
      exact ⟨cs, hread, rfl⟩
    · rintro ⟨cs, hread, rfl⟩
      exact ⟨cs, r, hread, rfl⟩
  · simp only [hquote, if_false, false_and, iff_false]
    -- All other scalars are something else than strings.
    intro h
    split_ifs at h
    · obtain ⟨_, _, heq⟩ := bind_eq_ok.1 h
      cases heq
    · obtain ⟨_, _, heq⟩ := bind_eq_ok.1 h
      cases heq
    · obtain ⟨_, _, heq⟩ := bind_eq_ok.1 h
      cases heq
    · obtain ⟨⟨x, _⟩, _, heq⟩ := bind_eq_ok.1 h
      cases x <;> cases heq

theorem readValue_eq_string {depth : Nat} {s r : List Char} {m : String} :
    readValue depth s = .ok (string m, r) ↔
      ∃ t cs, skipBlanks s = '"' :: t ∧ readString t = .ok (cs, r) ∧ String.ofList cs = m := by
  constructor
  · intro h
    rcases readValue_cases h with ⟨c, t, hs, hscalar⟩ | ⟨_, _, _, heq, _⟩ | ⟨_, _, _, _, heq, _⟩
    · obtain ⟨rfl, cs, hread, hm⟩ := readScalar_eq_string.1 hscalar
      exact ⟨t, cs, hs, hread, hm⟩
    · cases heq
    · cases heq
  · rintro ⟨t, cs, hs, hread, hm⟩
    rw [readValue_scalar hs (by decide)]
    exact readScalar_eq_string.2 ⟨rfl, cs, hread, hm⟩

/-- **A string is read where a string is wanted** just when the value that stands there is one,
whatever the string is called. -/
theorem textAs_eq_ok {wanted : String} {depth : Nat} {s r : List Char} {m : String} :
    Decoder.textAs wanted depth s = .ok (m, r) ↔ readValue depth s = .ok (string m, r) := by
  rw [readValue_eq_string, Decoder.textAs]
  cases hs : skipBlanks s with
  | nil => simp
  | cons c t =>
    by_cases hquote : c = '"'
    · subst hquote
      simp only [if_true, bind_eq_ok, Prod.exists]
      constructor
      · rintro ⟨cs, u, hread, heq⟩
        cases heq
        exact ⟨t, cs, rfl, hread, rfl⟩
      · rintro ⟨u, cs, heq, hread, rfl⟩
        cases heq
        exact ⟨cs, r, hread, rfl⟩
    · simp [hquote]

theorem text_eq_ok {depth : Nat} {s r : List Char} {m : String} :
    Decoder.text depth s = .ok (m, r) ↔ readValue depth s = .ok (string m, r) :=
  textAs_eq_ok

/-! ### Values that may be null -/

/-- What does not start as null does is read where it may be null. -/
theorem optional_of_ne {α : Type} {read : Decoder α} {depth : Nat} {c : Char} {s r : List Char}
    {x : α} (hspace : isSpace c = false) (hnull : c ≠ 'n')
    (h : read depth (c :: s) = .ok (x, r)) : read.optional depth (c :: s) = .ok (some x, r) := by
  unfold Decoder.optional
  rw [skipBlanks_of_not hspace]
  split
  · next heq =>
    cases heq
    exact absurd rfl hnull
  · exact bind_eq_ok.2 ⟨_, h, rfl⟩

/-! ### Objects -/

section

variable {α β δ τ : Type}

/-- **The tables that can be read.** -/
theorem table_eq_ok {item : Decoder α} {put : String → α → β → β} {empty : β} {depth : Nat}
    {s r : List Char} {x : β} :
    Decoder.table item put empty depth s = .ok (x, r) ↔
      ∃ d names, depth = d + 1 ∧ ObjectText (putMember (item d) put) empty s names x r := by
  unfold Decoder.table ObjectText
  cases hs : skipBlanks s with
  | nil => simp
  | cons c t =>
    by_cases hbrace : c = '\x7b'
    · subst hbrace
      cases depth with
      | zero => simp
      | succ d =>
        simp only [if_true]
        constructor
        · intro h
          obtain ⟨⟨gathered, u⟩, hmembers, h⟩ := bind_eq_ok.1 h
          obtain ⟨names, v, rfl, hlength, htext⟩ := readMembers_object.1 hmembers
          cases h
          exact ⟨d, names, rfl, t, rfl, hlength, htext⟩
        · rintro ⟨_, names, hdepth, _, heq, hlength, htext⟩
          cases hdepth
          cases heq
          exact bind_eq_ok.2 ⟨_, readMembers_object.2 ⟨names, r, rfl, hlength, htext⟩, rfl⟩
    · simp [hbrace]

/-! ### Records -/

namespace Fields

/-- A member that is no field is skipped. -/
theorem readMember_nil {depth : Nat} {read read' : Unit} {name : String} {s r : List Char} :
    nil.readMember depth read name s = .ok (read', r) ↔
      ∃ t, readColon s = .ok t ∧ skipAny t = .ok r := by
  simp only [readMember, bind_eq_ok]
  constructor
  · rintro ⟨t, hcolon, u, hskip, heq⟩
    cases heq
    exact ⟨t, hcolon, hskip⟩
  · rintro ⟨t, hcolon, hskip⟩
    exact ⟨t, hcolon, r, hskip, rfl⟩

/-- A member that is a field is read, once. -/
theorem readMember_same {field : Field α} {rest : Fields δ τ} {depth : Nat}
    {read read' : Option α × δ} {name : String} {s r : List Char} (hname : name = field.name) :
    (cons field rest).readMember depth read name s = .ok (read', r) ↔
      read.1 = none ∧ ∃ t x, readColon s = .ok t ∧ field.read depth t = .ok (x, r) ∧
        read' = (some x, read.2) := by
  rw [readMember, if_pos hname]
  cases read.1 with
  | some _ => simp
  | none =>
    simp only [bind_eq_ok, Prod.exists, true_and]
    constructor
    · rintro ⟨t, hcolon, x, u, hread, heq⟩
      cases heq
      exact ⟨t, x, hcolon, hread, rfl⟩
    · rintro ⟨t, x, hcolon, hread, rfl⟩
      exact ⟨t, hcolon, x, r, hread, rfl⟩

/-- A member that is another field than the first. -/
theorem readMember_other {field : Field α} {rest : Fields δ τ} {depth : Nat}
    {read read' : Option α × δ} {name : String} {s r : List Char} (hname : name ≠ field.name) :
    (cons field rest).readMember depth read name s = .ok (read', r) ↔
      ∃ more, rest.readMember depth read.2 name s = .ok (more, r) ∧ read' = (read.1, more) := by
  rw [readMember, if_neg hname]
  simp only [bind_eq_ok, Prod.exists]
  constructor
  · rintro ⟨more, u, hread, heq⟩
    cases heq
    exact ⟨more, hread, rfl⟩
  · rintro ⟨more, hread, rfl⟩
    exact ⟨more, r, hread, rfl⟩

/-- An item that is there is read where it starts. -/
theorem readItems_given {field : Field α} {rest : Fields δ τ} {depth n : Nat} {s q r : List Char}
    {value : α × τ} (hopens : Opens (n = 0) s q)
    (h : (match field.read depth q with
      | .error f => Outcome.fault f
      | .ok (x, s) =>
        match rest.readItems depth (n + 1) s with
        | .done xs s => .done (x, xs) s
        | .fault f => .fault f
        | .short k s => .short k s) = .done value r) :
    ∃ u, rest.readItems depth (n + 1) u = .done value.2 r ∧
      ∃ q, Opens (n = 0) s q ∧ field.read depth q = .ok (value.1, u) := by
  split at h
  · cases h
  · next x u hx =>
    split at h
    · next xs t hrest =>
      cases h
      exact ⟨u, hrest, q, hopens, hx⟩
    · cases h
    · cases h

/-- An item of a record is read where it starts, or the array ends before it and the field has a
value for that case. -/
theorem readItems_cons {field : Field α} {rest : Fields δ τ} {depth n : Nat} {s r : List Char}
    {value : α × τ} (h : (cons field rest).readItems depth n s = .done value r) :
    ∃ u, rest.readItems depth (n + 1) u = .done value.2 r ∧
      ((field.cut = some value.1 ∧ ∃ t, skipBlanks s = ']' :: t ∧ u = ']' :: t) ∨
        (∃ q, Opens (n = 0) s q ∧ field.read depth q = .ok (value.1, u))) := by
  rw [readItems] at h
  split at h
  · cases h
  · next c t hs =>
    split_ifs at h with hclose hfirst hcomma
    · subst hclose
      split at h
      · cases h
      · next x hcut =>
        split at h
        · next xs u hrest =>
          cases h
          exact ⟨_, hrest, Or.inl ⟨hcut, t, hs, rfl⟩⟩
        · cases h
        · cases h
    · obtain ⟨u, hrest, hread⟩ := readItems_given (by simpa [hfirst] using Opens.first hs) h
      exact ⟨u, hrest, Or.inr hread⟩
    · subst hcomma
      split at h
      · cases h
      · next d q hq =>
        split_ifs at h
        obtain ⟨u, hrest, hread⟩ := readItems_given (by simpa [hfirst] using Opens.next hs hq) h
        exact ⟨u, hrest, Or.inr hread⟩

/-- The array ends, and the field has a value for that case. -/
theorem readItems_of_cut {field : Field α} {rest : Fields δ τ} {depth n : Nat} {s t r : List Char}
    {x : α} {xs : τ} (hs : skipBlanks s = ']' :: t) (hcut : field.cut = some x)
    (hrest : rest.readItems depth (n + 1) (']' :: t) = .done xs r) :
    (cons field rest).readItems depth n s = .done (x, xs) r := by
  simp only [readItems, hs, if_true, hcut, hrest]

/-- The field is read where an item starts. -/
theorem readItems_of_opens {field : Field α} {rest : Fields δ τ} {depth n : Nat} {c : Char}
    {s q t r : List Char} {x : α} {xs : τ} (hopens : Opens (n = 0) s (c :: q)) (hc : c ≠ ']')
    (hread : field.read depth (c :: q) = .ok (x, t))
    (hrest : rest.readItems depth (n + 1) t = .done xs r) :
    (cons field rest).readItems depth n s = .done (x, xs) r := by
  by_cases hn : n = 0
  · subst hn
    simp only [decide_true, opens_true] at hopens
    simp only [readItems, hopens, hc, if_false, if_true, hread, hrest]
  · simp only [decide_eq_false hn, opens_false] at hopens
    obtain ⟨p, hs, hp⟩ := hopens
    simp only [readItems, hs, hp, hn, hc, Char.reduceEq, if_false, if_true, hread, hrest]

end Fields

variable {name : String} {fields : Fields δ τ} {make : τ → α} {depth : Nat} {s t r : List Char}
  {x : α}

/-- Behind an opening bracket, a record is read from the items of the array. -/
theorem record_of_bracket (hs : skipBlanks s = '[' :: t) :
    Decoder.record name fields make depth s = .ok (x, r) ↔
      ∃ d value u, depth = d + 1 ∧ x = make value ∧ fields.readItems d 0 t = .done value u ∧
        closeArray u = .ok r := by
  unfold Decoder.record
  cases depth with
  | zero => simp [hs]
  | succ d =>
    simp only [hs, if_true]
    constructor
    · intro h
      split at h
      · next value u hitems =>
        obtain ⟨v, hclose, heq⟩ := bind_eq_ok.1 h
        cases heq
        exact ⟨d, value, u, rfl, rfl, hitems, hclose⟩
      · cases h
      · cases h
    · rintro ⟨_, value, u, hdepth, rfl, hitems, hclose⟩
      cases hdepth
      rw [hitems]
      exact bind_eq_ok.2 ⟨r, hclose, rfl⟩

/-- Behind an opening brace, a record is read from the members of the object. -/
theorem record_of_brace (hs : skipBlanks s = '\x7b' :: t) :
    Decoder.record name fields make depth s = .ok (x, r) ↔
      ∃ d value names read, depth = d + 1 ∧ x = make value ∧
        ObjectText (fields.readMember d) fields.start s names read r ∧
          fields.finish read = .ok value := by
  unfold Decoder.record ObjectText
  cases depth with
  | zero => simp [hs]
  | succ d =>
    simp only [hs, if_true, Char.reduceEq, if_false]
    constructor
    · intro h
      obtain ⟨⟨read, u⟩, hmembers, h⟩ := bind_eq_ok.1 h
      obtain ⟨names, v, rfl, hlength, htext⟩ := readMembers_object.1 hmembers
      simp only at h
      split at h
      · next value hfinish =>
        cases h
        exact ⟨d, value, names, read, rfl, rfl, ⟨t, rfl, hlength, htext⟩, hfinish⟩
      · cases h
    · rintro ⟨_, value, names, read, hdepth, rfl, ⟨_, heq, hlength, htext⟩, hfinish⟩
      cases hdepth
      cases heq
      refine bind_eq_ok.2 ⟨_, readMembers_object.2 ⟨names, r, rfl, hlength, htext⟩, ?_⟩
      simp only [hfinish]
      rfl

/-- A record that can be read is an array or an object. -/
theorem record_starts (h : Decoder.record name fields make depth s = .ok (x, r)) :
    (∃ t, skipBlanks s = '[' :: t) ∨ ∃ t, skipBlanks s = '\x7b' :: t := by
  unfold Decoder.record at h
  cases hs : skipBlanks s with
  | nil => simp [hs] at h
  | cons c t =>
    by_cases hbracket : c = '['
    · exact Or.inl ⟨t, by rw [hbracket]⟩
    · by_cases hbrace : c = '\x7b'
      · exact Or.inr ⟨t, by rw [hbrace]⟩
      · simp [hs, hbracket, hbrace] at h

/-- **The records that can be read**: from the items of an array, or from the members of an
object. -/
theorem record_eq_ok :
    Decoder.record name fields make depth s = .ok (x, r) ↔
      ∃ d value, depth = d + 1 ∧ x = make value ∧
        ((∃ t u, skipBlanks s = '[' :: t ∧ fields.readItems d 0 t = .done value u ∧
            closeArray u = .ok r) ∨
          (∃ names read, ObjectText (fields.readMember d) fields.start s names read r ∧
            fields.finish read = .ok value)) := by
  constructor
  · intro h
    rcases record_starts h with ⟨t, hs⟩ | ⟨t, hs⟩
    · obtain ⟨d, value, u, hdepth, hx, hitems, hclose⟩ := (record_of_bracket hs).1 h
      exact ⟨d, value, hdepth, hx, Or.inl ⟨t, u, hs, hitems, hclose⟩⟩
    · obtain ⟨d, value, names, read, hdepth, hx, htext⟩ := (record_of_brace hs).1 h
      exact ⟨d, value, hdepth, hx, Or.inr ⟨names, read, htext⟩⟩
  · rintro ⟨d, value, hdepth, hx, ⟨t, u, hs, hitems⟩ | ⟨names, read, htext, hfinish⟩⟩
    · exact (record_of_bracket hs).2 ⟨d, value, u, hdepth, hx, hitems⟩
    · have ⟨t, hs, _⟩ := htext
      exact (record_of_brace hs).2 ⟨d, value, names, read, hdepth, hx, htext, hfinish⟩

end

end CompileIndex.Json

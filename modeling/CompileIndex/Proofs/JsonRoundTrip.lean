import CompileIndex.Json.Printer
import CompileIndex.Proofs.JsonMembers
import CompileIndex.Proofs.JsonShapes

/-!
# Written and read back

A value that holds no double, whose objects are sorted and that is not too deep is read back from
its compact text, whatever follows the text.  A number alone needs more: what follows must not go
on with it.

* `FloatFree`, `Canonical`, `Returns` — the values that come back;
* `canonical_of_readValue` — every value that was read is sorted and not too deep;
* `readValue_compact` — a value is read back;
* `Plain.returns_sorted` — a value that is made of others, sorted, comes back;
* `Gathers`, `Gathers.objectText` — the members of a written object, read by any reader.
-/

namespace CompileIndex.Json

/-! ### Numbers -/

/-- That a text does not go on with a number. -/
def Stops (s : List Char) : Prop :=
  ∀ c r, s = c :: r → inNumber c = false

theorem stops_cons {c : Char} (h : inNumber c = false) (r : List Char) : Stops (c :: r) := by
  intro d q heq
  cases heq
  exact h

theorem Stops.not_digitNext {s : List Char} (h : Stops s) : digitNext s = false := by
  cases s with
  | nil => rfl
  | cons c r =>
    have hc := h c r rfl
    rw [inNumber] at hc
    simp only [Bool.or_eq_false_iff] at hc
    simpa [digitNext] using hc.1.1.1.1.1

theorem digitValue?_digitChar {d : Nat} (h : d < 10) : digitValue? d.digitChar = some d := by
  revert d
  decide

theorem digitChar_ne_zero {d : Nat} (hpos : 0 < d) (hlt : d < 10) : d.digitChar ≠ '0' := by
  have hall : ∀ d < 10, 0 < d → d.digitChar ≠ '0' := by decide
  exact hall d hlt hpos

/-- No digit is added where none stands. -/
theorem addDigits_stops (n : Nat) {s : List Char} (h : digitNext s = false) :
    addDigits n s = (n, 0, s) := by
  cases s with
  | nil => rfl
  | cons c r =>
    rw [addDigits]
    cases hc : digitValue? c with
    | none => rfl
    | some d => simp [digitNext, isDigit, hc] at h

/-- The digits of a number above zero: the first is not zero, and the others added to it give the
number. -/
theorem toDigits_cons {n : Nat} (hpos : 0 < n) (hlt : n < 0x10000000000000000) :
    ∃ c ds d, Nat.toDigits 10 n = c :: ds ∧ digitValue? c = some d ∧ c ≠ '0' ∧
      ∀ t, (addDigits d (ds ++ t)).1 = (addDigits n t).1 ∧
        (addDigits d (ds ++ t)).2.2 = (addDigits n t).2.2 := by
  induction n using Nat.strongRecOn with
  | ind n ih =>
    by_cases hsmall : n < 10
    · exact ⟨n.digitChar, [], n, Nat.toDigits_of_lt_base hsmall, digitValue?_digitChar hsmall,
        digitChar_ne_zero hpos hsmall, fun t => ⟨rfl, rfl⟩⟩
    · -- The last digit is added to what the digits before it give.
      obtain ⟨c, ds, d, hdigits, hc, hzero, hadd⟩ := ih (n / 10) (by omega) (by omega) (by omega)
      have hlast : digitValue? (n % 10).digitChar = some (n % 10) :=
        digitValue?_digitChar (Nat.mod_lt n (by decide))
      refine ⟨c, ds ++ [(n % 10).digitChar], d, ?_, hc, hzero, ?_⟩
      · rw [Nat.toDigits_of_base_le (by decide) (Nat.le_of_not_lt hsmall), hdigits]
        rfl
      · intro t
        have hsum : n / 10 * 10 + n % 10 = n := Nat.div_add_mod' n 10
        have hstep : addDigits (n / 10) ((n % 10).digitChar :: t) =
            ((addDigits n t).1, (addDigits n t).2.1 + 1, (addDigits n t).2.2) := by
          rw [addDigits, hlast]
          simp only [hsum, hlt, if_true]
        rw [List.append_assoc, List.singleton_append]
        refine ⟨(hadd _).1.trans ?_, (hadd _).2.trans ?_⟩
        · rw [hstep]
        · rw [hstep]

theorem readPlain_stops (negative : Bool) (n : Nat) {s : List Char} (h : Stops s) :
    readPlain negative n s = .ok (exactOrFloat negative n, s) := by
  unfold readPlain
  split
  · next r => exact absurd (h '.' r rfl) (by decide)
  · next r => exact absurd (h 'e' r rfl) (by decide)
  · next r => exact absurd (h 'E' r rfl) (by decide)
  · rfl

/-- A number without a sign is read back from its digits. -/
theorem readUnsigned_digits (negative : Bool) {n : Nat} (hlt : n < 0x10000000000000000)
    {s : List Char} (h : Stops s) :
    readUnsigned negative (Decimal.digitsOf n ++ s) = .ok (exactOrFloat negative n, s) := by
  have hnext := h.not_digitNext
  rcases Nat.eq_zero_or_pos n with rfl | hpos
  · have hzero : Decimal.digitsOf 0 ++ s = '0' :: s := rfl
    rw [hzero, readUnsigned]
    rw [digitNext] at hnext
    simp [hnext, readPlain_stops negative 0 h]
  · obtain ⟨c, ds, d, hdigits, hc, hzero, hadd⟩ := toDigits_cons hpos hlt
    obtain ⟨hvalue, hleft⟩ := hadd s
    rw [addDigits_stops n hnext] at hvalue hleft
    rw [Decimal.digitsOf, hdigits, List.cons_append, readUnsigned, hc]
    · simp only [hvalue, hleft]
      rw [digitNext] at hnext
      simp [hnext, readPlain_stops negative n h]
    · exact hzero

theorem readNumber_negative (s : List Char) : readNumber ('-' :: s) = readUnsigned true s :=
  rfl

theorem readNumber_positive {c : Char} (h : c ≠ '-') (s : List Char) :
    readNumber (c :: s) = readUnsigned false (c :: s) := by
  unfold readNumber
  split
  · next heq =>
    cases heq
    exact absurd rfl h
  · rfl

theorem ofInt?_value (n : WideInt) : WideInt.ofInt? n.value = some n :=
  dif_pos ⟨n.low, n.high⟩

theorem ofInt_value (n : WideInt) : ofInt n.value = .integer n := by
  rw [ofInt, ofInt?_value]

theorem digitsOf_cons {n : Nat} (hlt : n < 0x10000000000000000) :
    ∃ c ds, Decimal.digitsOf n = c :: ds ∧ isDigit c = true := by
  rcases Nat.eq_zero_or_pos n with rfl | hpos
  · exact ⟨'0', [], rfl, rfl⟩
  · obtain ⟨c, ds, d, hdigits, hc, _⟩ := toDigits_cons hpos hlt
    exact ⟨c, ds, hdigits, isDigit_eq hc⟩

/-- A digit or a minus sign is no other character. -/
theorem ne_of_number {c d : Char} (hc : (c = '-' || isDigit c) = true)
    (hd : (d = '-' || isDigit d) = false) : c ≠ d := by
  rintro rfl
  exact absurd (hc.symm.trans hd) (by decide)

theorem not_space_of_number {c : Char} (hc : (c = '-' || isDigit c) = true) :
    isSpace c = false := by
  simp [isSpace, ne_of_number hc (d := ' ') (by decide), ne_of_number hc (d := '\n') (by decide),
    ne_of_number hc (d := '\t') (by decide), ne_of_number hc (d := '\r') (by decide)]

/-- An integer starts with a digit or a minus sign. -/
theorem printInt_cons (n : WideInt) :
    ∃ c ds, printInt n.value = c :: ds ∧ (c = '-' || isDigit c) = true := by
  have hhigh := n.high
  unfold printInt
  split
  · exact ⟨'-', _, rfl, rfl⟩
  · have hbound : n.value.natAbs < 0x10000000000000000 := by omega
    obtain ⟨c, ds, hdigits, hc⟩ := digitsOf_cons hbound
    exact ⟨c, ds, hdigits, by rw [hc, Bool.or_true]⟩

/-- An integer in range is kept exact, unless it is a zero with a minus sign. -/
theorem exactOrFloat_eq {negative : Bool} {n : Nat} {i : WideInt}
    (hzero : (negative && decide (n = 0)) = false)
    (h : (if negative then Int.negOfNat n else Int.ofNat n) = i.value) :
    exactOrFloat negative n = .integer i := by
  have hin : WideInt.ofInt? (if negative then Int.negOfNat n else Int.ofNat n) = some i := by
    rw [h, ofInt?_value]
  unfold exactOrFloat
  simp only [hzero, hin, Bool.false_eq_true, if_false]

/-- **An integer is read back.** -/
theorem readNumber_printInt (n : WideInt) {s : List Char} (h : Stops s) :
    readNumber (printInt n.value ++ s) = .ok (.integer n, s) := by
  have hlow := n.low
  have hhigh := n.high
  have hbound : n.value.natAbs < 0x10000000000000000 := by omega
  unfold printInt
  split
  · next hneg =>
    have hexact : Int.negOfNat n.value.natAbs = n.value := by
      rw [Int.negOfNat_eq, Int.ofNat_eq_natCast]
      omega
    have hpos : n.value.natAbs ≠ 0 := by omega
    have hfloat : exactOrFloat true n.value.natAbs = .integer n :=
      exactOrFloat_eq (by simp [hpos]) hexact
    rw [List.cons_append, readNumber_negative, readUnsigned_digits true hbound h, hfloat]
  · next hneg =>
    have hexact : Int.ofNat n.value.natAbs = n.value :=
      Int.natAbs_of_nonneg (Int.not_lt.1 hneg)
    obtain ⟨c, ds, hdigits, hc⟩ := digitsOf_cons hbound
    have hminus : c ≠ '-' := by
      rintro rfl
      exact absurd hc (by decide)
    have hfloat : exactOrFloat false n.value.natAbs = .integer n :=
      exactOrFloat_eq (Bool.false_and _) hexact
    have hread := readUnsigned_digits false hbound h
    rw [hdigits] at hread ⊢
    rw [List.cons_append, readNumber_positive hminus, ← List.cons_append, hread, hfloat]

/-! ### Strings -/

/-- The digits of a control character spell its number. -/
theorem hexQuad?_control {n : Nat} (h : n < 32) :
    hexQuad? '0' '0' (hexDigit (n / 16)) (hexDigit (n % 16)) = some n := by
  have hall : ∀ n < 32, hexQuad? '0' '0' (hexDigit (n / 16)) (hexDigit (n % 16)) = some n := by
    decide
  exact hall n h

/-- A character is spelled by its escape. -/
theorem spelling_escaped (c : Char) : Spelling (escaped c) c := by
  unfold escaped
  split_ifs with hquote hslash hlow hback htab hfeed hform hreturn
  · exact .letter (by decide) (by rw [hquote]; decide)
  · exact .letter (by decide) (by rw [hslash]; decide)
  · have hc : c = Char.ofNat 8 := by rw [← hback, Char.ofNat_toNat]
    exact .letter (by decide) (by rw [hc]; decide)
  · exact .letter (by decide) (by rw [htab]; decide)
  · exact .letter (by decide) (by rw [hfeed]; decide)
  · have hc : c = Char.ofNat 12 := by rw [← hform, Char.ofNat_toNat]
    exact .letter (by decide) (by rw [hc]; decide)
  · exact .letter (by decide) (by rw [hreturn]; decide)
  · have hspelling := Spelling.code (hexQuad?_control hlow) (Or.inl (by omega))
    rwa [Char.ofNat_toNat] at hspelling
  · exact .plain hquote hslash (Nat.not_lt.1 hlow)

theorem stringText_escaped (cs r : List Char) :
    StringText (cs.flatMap escaped ++ '"' :: r) cs r := by
  induction cs with
  | nil => exact .close
  | cons c cs ih =>
    rw [List.flatMap_cons, List.append_assoc]
    exact .char (spelling_escaped c) ih

/-- **A string is read back.** -/
theorem readString_escaped (cs r : List Char) :
    readString (cs.flatMap escaped ++ '"' :: r) = .ok (cs, r) :=
  readString_iff.2 (stringText_escaped cs r)

/-- A quoted string and what follows it. -/
theorem quote_append (m : String) (r : List Char) :
    quote m ++ r = '"' :: (m.toList.flatMap escaped ++ '"' :: r) := by
  simp [quote]

theorem skipBlanks_quote (m : String) (r : List Char) :
    skipBlanks (quote m ++ r) = quote m ++ r := by
  rw [quote_append]
  exact skipBlanks_of_not (by decide) _

/-! ### Values that come back -/

/-- The values without doubles. -/
inductive FloatFree : Json → Prop where
  | null : FloatFree null
  | bool (b : Bool) : FloatFree (bool b)
  | integer (n : WideInt) : FloatFree (integer n)
  | string (m : String) : FloatFree (string m)
  | array {items : List Json} : (∀ v ∈ items, FloatFree v) → FloatFree (array items)
  | object {members : List (String × Json)} : (∀ m ∈ members, FloatFree m.2) →
      FloatFree (object members)

/-- The values that open at most so many brackets inside each other, and whose objects are sorted
by name with no name twice. -/
inductive Canonical : Nat → Json → Prop where
  | null {d : Nat} : Canonical d null
  | bool {d : Nat} (b : Bool) : Canonical d (bool b)
  | integer {d : Nat} (n : WideInt) : Canonical d (integer n)
  | float {d : Nat} (x : Float) : Canonical d (float x)
  | string {d : Nat} (m : String) : Canonical d (string m)
  | array {d : Nat} {items : List Json} : (∀ v ∈ items, Canonical d v) →
      Canonical (d + 1) (array items)
  | object {d : Nat} {members : List (String × Json)} :
      members.Pairwise (fun a b => a.1 < b.1) → (∀ m ∈ members, Canonical d m.2) →
      Canonical (d + 1) (object members)

/-- The values that come back from their texts, where so many brackets may be opened. -/
structure Returns (d : Nat) (v : Json) : Prop where
  canonical : Canonical d v
  floatFree : FloatFree v

theorem canonical_of_readScalar {depth : Nat} {c : Char} {s r : List Char} {v : Json}
    (h : readScalar (c :: s) = .ok (v, r)) : Canonical depth v := by
  rw [readScalar] at h
  split_ifs at h
  · obtain ⟨_, _, heq⟩ := bind_eq_ok.1 h
    cases heq
    exact .null
  · obtain ⟨_, _, heq⟩ := bind_eq_ok.1 h
    cases heq
    exact .bool true
  · obtain ⟨_, _, heq⟩ := bind_eq_ok.1 h
    cases heq
    exact .bool false
  · obtain ⟨_, _, heq⟩ := bind_eq_ok.1 h
    cases heq
    exact .string _
  · obtain ⟨⟨x, _⟩, _, heq⟩ := bind_eq_ok.1 h
    cases heq
    cases x with
    | integer n => exact .integer n
    | float x => exact .float x

/-- **What was read is canonical.** -/
theorem canonical_of_readValue {depth : Nat} {s r : List Char} {v : Json}
    (h : readValue depth s = .ok (v, r)) : Canonical depth v := by
  induction depth using Nat.strongRecOn generalizing s r v with
  | ind depth ih =>
    rcases readValue_cases h with ⟨c, t, _, hscalar⟩ | ⟨d, items, rfl, rfl, t, _, _, htext⟩ |
      ⟨d, names, members, rfl, rfl, t, _, _, htext⟩
    · exact canonical_of_readScalar hscalar
    · refine .array (htext.forall_mem ?_)
      intro s v t hread
      exact ih d (Nat.lt_succ_self d) hread
    · have hstep {g name s g₁ t} (hmember : putMember (readValue d) insert g name s = .ok (g₁, t))
          (hg : g.Pairwise (fun a b => a.1 < b.1) ∧ ∀ m ∈ g, Canonical d m.2) :
          g₁.Pairwise (fun a b => a.1 < b.1) ∧ ∀ m ∈ g₁, Canonical d m.2 := by
        obtain ⟨u, v, _, hread, rfl⟩ := putMember_eq_ok.1 hmember
        refine ⟨pairwise_insert name v hg.1, ?_⟩
        intro m hm
        rcases mem_insert hm with rfl | hm
        · exact ih d (Nat.lt_succ_self d) hread
        · exact hg.2 m hm
      have hmembers := htext.rounds hstep ⟨.nil, nofun⟩
      exact .object hmembers.1 hmembers.2

/-! ### Brackets -/

/-- How the text of a value starts: with no blank and no bracket that closes an array, and with an
`n` only when the value is null. -/
theorem compact_cons {v : Json} (h : FloatFree v) :
    ∃ c q, compact v = c :: q ∧ isSpace c = false ∧ c ≠ ']' ∧ (c = 'n' → v = .null) := by
  cases h with
  | null => exact ⟨'n', _, rfl, by decide, by decide, fun _ => rfl⟩
  | bool b => cases b <;> exact ⟨_, _, rfl, by decide, by decide, nofun⟩
  | integer n =>
    obtain ⟨c, ds, hprint, hc⟩ := printInt_cons n
    exact ⟨c, ds, hprint, not_space_of_number hc, ne_of_number hc (by decide),
      fun h => absurd h (ne_of_number hc (by decide))⟩
  | string m => exact ⟨'"', _, rfl, by decide, by decide, nofun⟩
  | @array items _ => cases items <;> exact ⟨'[', _, rfl, by decide, by decide, nofun⟩
  | @object members _ => cases members <;> exact ⟨'\x7b', _, rfl, by decide, by decide, nofun⟩

section

variable {item : List Char → Except Fault (Json × List Char)} {items : List Json}

theorem stops_compactItems (items : List Json) (r : List Char) :
    Stops (compactItems items ++ r) := by
  cases items <;> exact stops_cons (by decide) _

theorem length_lt_compactItems (items : List Json) :
    items.length < (compactItems items).length := by
  induction items with
  | nil => exact Nat.one_pos
  | cons v items ih =>
    simp only [compactItems, List.length_cons, List.length_append]
    omega

/-- An item that is read back is read where it starts. -/
theorem opens_compact {v : Json} (h : FloatFree v) (t : List Char) :
    ∃ c q, compact v ++ t = c :: q ∧ c ≠ ']' ∧ skipBlanks (compact v ++ t) = c :: q := by
  obtain ⟨c, q, hcompact, hspace, hclose, _⟩ := compact_cons h
  have hcons : compact v ++ t = c :: (q ++ t) := by rw [hcompact, List.cons_append]
  exact ⟨c, q ++ t, hcons, hclose, hcons ▸ skipBlanks_of_not hspace _⟩

/-- The items of an array that is written are read, each with the same reader. -/
theorem itemsText_compactItems (hfree : ∀ v ∈ items, FloatFree v)
    (hitem : ∀ v ∈ items, ∀ t, Stops t → item (compact v ++ t) = .ok (v, t)) (r : List Char) :
    ItemsText item false (compactItems items ++ r) items (']' :: r) := by
  induction items with
  | nil => exact .close rfl
  | cons v items ih =>
    rw [List.forall_mem_cons] at hfree hitem
    obtain ⟨c, q, hcons, hclose, hblanks⟩ := opens_compact hfree.1 (compactItems items ++ r)
    have hread := hitem.1 _ (stops_compactItems items r)
    rw [hcons] at hread
    have hcomma : compactItems (v :: items) ++ r =
        ',' :: (compact v ++ (compactItems items ++ r)) := by
      rw [compactItems, List.cons_append, List.cons_append, List.append_assoc]
    rw [hcomma]
    exact .item (.next rfl hblanks) hclose hread (ih hfree.2 hitem.2)

theorem arrayText_compact (hfree : ∀ v ∈ items, FloatFree v)
    (hitem : ∀ v ∈ items, ∀ t, Stops t → item (compact v ++ t) = .ok (v, t)) (r : List Char) :
    ArrayText item (compact (array items) ++ r) items r := by
  cases items with
  | nil => exact ⟨']' :: r, rfl, Nat.zero_le _, .close rfl⟩
  | cons v items =>
    have hlength := length_lt_compactItems items
    rw [List.forall_mem_cons] at hfree hitem
    obtain ⟨c, q, hcons, hclose, hblanks⟩ := opens_compact hfree.1 (compactItems items ++ r)
    have hread := hitem.1 _ (stops_compactItems items r)
    have htext := itemsText_compactItems hfree.2 hitem.2 r
    have hbracket : compact (array (v :: items)) ++ r =
        '[' :: (compact v ++ (compactItems items ++ r)) := by
      rw [compact, List.cons_append, List.cons_append, List.append_assoc]
    rw [hbracket]
    refine ⟨_, rfl, ?_, ?_⟩
    · have hpos : 0 < (compact v ++ (compactItems items ++ r)).length := hcons ▸ Nat.succ_pos _
      simp only [List.length_append, List.length_cons]
      omega
    · rw [hcons] at hread
      exact .item (.first hblanks) hclose hread htext

end

section

variable {σ : Type} {member : σ → String → List Char → Except Fault (σ × List Char)}

/-- That a reader of members takes what is gathered before the members of a value that is written
to what is gathered behind them. -/
inductive Gathers (member : σ → String → List Char → Except Fault (σ × List Char)) :
    σ → List (String × Json) → σ → Prop where
  | nil {g : σ} : Gathers member g [] g
  | cons {g g₁ g₂ : σ} {name : String} {v : Json} {members : List (String × Json)} :
      (∀ t, Stops t → member g name (':' :: compact v ++ t) = .ok (g₁, t)) →
      Gathers member g₁ members g₂ → Gathers member g ((name, v) :: members) g₂

theorem stops_compactMembers (members : List (String × Json)) (r : List Char) :
    Stops (compactMembers members ++ r) := by
  cases members <;> exact stops_cons (by decide) _

theorem length_lt_compactMembers (members : List (String × Json)) :
    members.length < (compactMembers members).length := by
  induction members with
  | nil => exact Nat.one_pos
  | cons m members ih =>
    simp only [compactMembers, List.length_cons, List.length_append]
    omega

/-- A member that is written is read where it starts. -/
theorem MembersText.of_quote {first : Bool} {g g₁ g₂ : σ} {s r t u : List Char} {name : String}
    {names : List String} (hopens : Opens first s (quote name ++ t))
    (hmember : member g name t = .ok (g₁, u)) (hrest : MembersText member false g₁ u names g₂ r) :
    MembersText member first g s (name :: names) g₂ r := by
  have hofList : String.ofList name.toList = name := String.ofList_toList
  rw [quote_append] at hopens
  rw [← hofList] at hmember ⊢
  exact .member hopens (readString_escaped name.toList t) hmember hrest

/-- The members of an object that is written are read one after the other. -/
theorem Gathers.membersText {g g' : σ} {members : List (String × Json)}
    (h : Gathers member g members g') (r : List Char) :
    MembersText member false g (compactMembers members ++ r) (members.map Prod.fst) g'
      ('\x7d' :: r) := by
  induction h with
  | nil => exact .close rfl
  | @cons g g₁ g₂ name v members hread _ ih =>
    have hcomma : compactMembers ((name, v) :: members) ++ r =
        ',' :: (quote name ++ (':' :: compact v ++ (compactMembers members ++ r))) := by
      simp [compactMembers]
    rw [hcomma]
    have hopens : Opens false (',' :: (quote name ++ (':' :: compact v ++
        (compactMembers members ++ r)))) _ := .next rfl (skipBlanks_quote name _)
    exact .of_quote hopens (hread _ (stops_compactMembers members r)) ih

/-- **The members of an object that is written**, read by any reader. -/
theorem Gathers.objectText {g g' : σ} {members : List (String × Json)}
    (h : Gathers member g members g') (r : List Char) :
    ObjectText member g (compact (object members) ++ r) (members.map Prod.fst) g' r := by
  cases h with
  | nil => exact ⟨'\x7d' :: r, rfl, Nat.zero_le _, .close rfl⟩
  | @cons g g₁ g₂ name v members hread hrest =>
    have hlength := length_lt_compactMembers members
    have hbrace : compact (object ((name, v) :: members)) ++ r =
        '\x7b' :: (quote name ++ (':' :: compact v ++ (compactMembers members ++ r))) := by
      simp [compact]
    rw [hbrace]
    refine ⟨_, rfl, ?_, ?_⟩
    · simp only [List.map_cons, List.length_cons, List.length_map, List.length_append]
      omega
    · exact .of_quote (.first (skipBlanks_quote name _)) (hread _ (stops_compactMembers members r))
        (hrest.membersText r)

end

/-! ### Values -/

theorem readValue_cons {c : Char} (hspace : isSpace c = false)
    (hbracket : ¬(c = '[' ∨ c = '\x7b')) (d : Nat) (s : List Char) :
    readValue d (c :: s) = readScalar (c :: s) :=
  readValue_scalar (skipBlanks_of_not hspace s) hbracket

theorem readScalar_number {c : Char} (h : (c = '-' || isDigit c) = true) (s : List Char) :
    readScalar (c :: s) = do
      let (x, r) ← readNumber (c :: s)
      return (x.toJson, r) := by
  rw [readScalar, if_neg (ne_of_number h (by decide)), if_neg (ne_of_number h (by decide)),
    if_neg (ne_of_number h (by decide)), if_neg (ne_of_number h (by decide)), if_pos h]

/-- Members that are sorted, behind those gathered before, are gathered as they are. -/
theorem gathers_insert {d : Nat} {g members : List (String × Json)}
    (hsorted : (g ++ members).Pairwise (fun a b => a.1 < b.1))
    (hread : ∀ m ∈ members, ∀ t, Stops t → readValue d (compact m.2 ++ t) = .ok (m.2, t)) :
    Gathers (putMember (readValue d) insert) g members (g ++ members) := by
  induction members generalizing g with
  | nil =>
    rw [List.append_nil]
    exact .nil
  | cons m members ih =>
    rw [List.forall_mem_cons] at hread
    have hbefore : ∀ n ∈ g, n.1 < m.1 := by
      intro n hn
      exact (List.pairwise_append.1 hsorted).2.2 n hn m List.mem_cons_self
    rw [List.append_cons] at hsorted ⊢
    refine .cons ?_ (ih hsorted hread.2)
    intro t ht
    exact putMember_eq_ok.2 ⟨_, _, rfl, hread.1 t ht, (insert_last hbefore).symm⟩

/-- **A value is read back** from its text. -/
theorem readValue_compact {d : Nat} {v : Json} (hv : Canonical d v) (hfree : FloatFree v)
    {t : List Char} (ht : Stops t) : readValue d (compact v ++ t) = .ok (v, t) := by
  induction hv generalizing t with
  | null => exact (readValue_cons (c := 'n') (by decide) (by decide) _ _).trans rfl
  | bool b =>
    cases b with
    | false => exact (readValue_cons (c := 'f') (by decide) (by decide) _ _).trans rfl
    | true => exact (readValue_cons (c := 't') (by decide) (by decide) _ _).trans rfl
  | integer n =>
    obtain ⟨c, ds, hprint, hc⟩ := printInt_cons n
    have hread := readNumber_printInt n ht
    rw [compact]
    rw [hprint, List.cons_append] at hread ⊢
    have hbracket : ¬(c = '[' ∨ c = '\x7b') := by
      rw [not_or]
      exact ⟨ne_of_number hc (by decide), ne_of_number hc (by decide)⟩
    rw [readValue_cons (not_space_of_number hc) hbracket, readScalar_number hc, hread]
    rfl
  | float x => cases hfree
  | string m =>
    have hblanks : skipBlanks (quote m ++ t) = '"' :: (m.toList.flatMap escaped ++ '"' :: t) := by
      rw [skipBlanks_quote, quote_append]
    exact readValue_eq_string.2
      ⟨_, m.toList, hblanks, readString_escaped m.toList t, String.ofList_toList⟩
  | @array d items _ ih =>
    cases hfree with
    | array hfree =>
      have htext := arrayText_compact hfree (fun v hv t ht => ih v hv (hfree v hv) ht) t
      obtain ⟨u, hs, hrest⟩ := htext
      exact (readValue_array hs).2 ⟨d, items, rfl, rfl, u, hs, hrest⟩
  | @object d members hsorted _ ih =>
    cases hfree with
    | object hfree =>
      have hgathers := gathers_insert (g := []) hsorted fun m hm t ht => ih m hm (hfree m hm) ht
      obtain ⟨u, hs, hrest⟩ := hgathers.objectText t
      exact (readValue_object hs).2 ⟨d, _, members, rfl, rfl, u, hs, hrest⟩

/-! ### Values that are made -/

/-- The values without doubles that open at most so many brackets inside each other. -/
inductive Plain : Nat → Json → Prop where
  | null {d : Nat} : Plain d null
  | bool {d : Nat} (b : Bool) : Plain d (bool b)
  | integer {d : Nat} (n : WideInt) : Plain d (integer n)
  | string {d : Nat} (m : String) : Plain d (string m)
  | array {d : Nat} {items : List Json} : (∀ v ∈ items, Plain d v) → Plain (d + 1) (array items)
  | object {d : Nat} {members : List (String × Json)} : (∀ m ∈ members, Plain d m.2) →
      Plain (d + 1) (object members)

/-- **A plain value comes back** as soon as it is sorted. -/
theorem Plain.returns_sorted {d : Nat} {v : Json} (h : Plain d v) : Returns d v.sorted := by
  induction h with
  | null => exact ⟨.null, .null⟩
  | bool b => exact ⟨.bool b, .bool b⟩
  | integer n => exact ⟨.integer n, .integer n⟩
  | string m => exact ⟨.string m, .string m⟩
  | @array d items _ ih =>
    have hitems : ∀ v ∈ sortedItems items, Returns d v := by
      intro v hv
      rw [sortedItems_eq_map] at hv
      obtain ⟨w, hw, rfl⟩ := List.mem_map.1 hv
      exact ih w hw
    rw [sorted]
    exact ⟨.array fun v hv => (hitems v hv).canonical, .array fun v hv => (hitems v hv).floatFree⟩
  | @object d members _ ih =>
    have hmembers : ∀ m ∈ sortMembers (sortedMembers members), Returns d m.2 := by
      intro m hm
      have hsorted := mem_sortMembers hm
      rw [sortedMembers_eq_map] at hsorted
      obtain ⟨n, hn, rfl⟩ := List.mem_map.1 hsorted
      exact ih n hn
    rw [sorted]
    exact ⟨.object (pairwise_sortMembers _) fun m hm => (hmembers m hm).canonical,
      .object fun m hm => (hmembers m hm).floatFree⟩

theorem plain_strings (d : Nat) (items : List String) : Plain (d + 1) (strings items) := by
  refine .array ?_
  intro v hv
  obtain ⟨m, _, rfl⟩ := List.mem_map.1 hv
  exact .string m

/-- A number below the bound is an integer. -/
theorem plain_ofNat (d : Nat) {n : Nat} (h : n < 0x10000000000000000) : Plain d (ofNat n) := by
  have hlow : (-0x8000000000000000 : Int) ≤ n := by omega
  have hhigh : (n : Int) < 0x10000000000000000 := by omega
  obtain ⟨i, hi⟩ : ∃ i : WideInt, i.value = n := ⟨⟨n, hlow, hhigh⟩, rfl⟩
  rw [ofNat, ← hi, ofInt_value]
  exact .integer i

end CompileIndex.Json

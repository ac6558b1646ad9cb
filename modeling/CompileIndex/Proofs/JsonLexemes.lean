import CompileIndex.Json.Lexeme
import Mathlib.Data.List.Basic

/-!
# Words, strings and numbers: read and skipped

What stands in a text is read when it is wanted and skipped when it is not.  Skipping is laxer,
so whatever can be read can be skipped, and both stop at the same place.

* `Spelling`, `StringText`, `readString_iff` — the strings that can be read;
* `skipString_of_readString`, `skipNumber_of_readNumber` — what can be read can be skipped;
* `length_lt_of_skipString`, `numberThen_of_skipNumber` — what is skipped, and that it is not
  nothing.
-/

namespace CompileIndex

/-! ### Steps that may fail -/

section

variable {ε α β : Type}

theorem bind_eq_ok {x : Except ε α} {f : α → Except ε β} {b : β} :
    (x >>= f) = .ok b ↔ ∃ a, x = .ok a ∧ f a = .ok b := by
  cases x with
  | error e => exact ⟨nofun, nofun⟩
  | ok a =>
    constructor
    · intro h
      exact ⟨a, rfl, h⟩
    · rintro ⟨_, ha, h⟩
      cases ha
      exact h

/-- A result that is known to be there is known not to be a failure. -/
theorem eq_ok_of_toOption {r : Except ε α} {a : α} (h : r.toOption = some a) : r = .ok a := by
  cases r with
  | error e => cases h
  | ok b => exact congrArg Except.ok (Option.some.inj h)

theorem map_eq_ok {x : Except ε α} {f : α → β} {b : β} :
    x.map f = .ok b ↔ ∃ a, x = .ok a ∧ f a = b := by
  cases x with
  | error e => exact ⟨nofun, nofun⟩
  | ok a => simp [Except.map]

end

namespace Json

/-! ### Blanks and words -/

theorem length_skipBlanks_le (s : List Char) : (skipBlanks s).length ≤ s.length :=
  (List.dropWhile_suffix isSpace).length_le

/-- What stands behind blanks is none. -/
theorem isSpace_of_skipBlanks {s : List Char} {c : Char} {r : List Char}
    (h : skipBlanks s = c :: r) : isSpace c = false := by
  have hhead := List.head?_dropWhile_not isSpace s
  rw [← skipBlanks, h, List.head?_cons] at hhead
  simpa using hhead

theorem skipBlanks_of_not {c : Char} (h : isSpace c = false) (r : List Char) :
    skipBlanks (c :: r) = c :: r :=
  List.dropWhile_cons_of_neg (by simp [h])

@[simp] theorem skipBlanks_skipBlanks (s : List Char) :
    skipBlanks (skipBlanks s) = skipBlanks s := by
  cases h : skipBlanks s with
  | nil => rfl
  | cons c r => exact skipBlanks_of_not (isSpace_of_skipBlanks h) r

/-- A word is read off the front. -/
theorem readWord_eq_ok {word s r : List Char} (h : readWord word s = .ok r) : s = word ++ r := by
  induction word generalizing s with
  | nil =>
    cases h
    rfl
  | cons w word ih =>
    cases s with
    | nil => cases h
    | cons c s =>
      rw [readWord] at h
      split at h
      · next hc => rw [hc, ih h, List.cons_append]
      · cases h

/-! ### Strings -/

/-- How one character of a string is spelled: as itself, by a letter behind a backslash, by its
number, or by the numbers of two surrogates. -/
inductive Spelling : List Char → Char → Prop where
  | plain {c : Char} : c ≠ '"' → c ≠ '\\' → 32 ≤ c.toNat → Spelling [c] c
  | letter {e d : Char} : e ≠ 'u' → escapeOf? e = some d → Spelling ['\\', e] d
  | code {x₁ x₂ x₃ x₄ : Char} {n : Nat} : hexQuad? x₁ x₂ x₃ x₄ = some n →
      n < 0xd800 ∨ 0xdfff < n → Spelling ['\\', 'u', x₁, x₂, x₃, x₄] (Char.ofNat n)
  | pair {x₁ x₂ x₃ x₄ y₁ y₂ y₃ y₄ : Char} {n k : Nat} : hexQuad? x₁ x₂ x₃ x₄ = some n →
      hexQuad? y₁ y₂ y₃ y₄ = some k → 0xd800 ≤ n → n ≤ 0xdbff → 0xdc00 ≤ k → k ≤ 0xdfff →
      Spelling ['\\', 'u', x₁, x₂, x₃, x₄, '\\', 'u', y₁, y₂, y₃, y₄]
        (Char.ofNat ((n - 0xd800) * 1024 + (k - 0xdc00) + 0x10000))

/-- The texts that start with the spelled characters of a string and the closing quote. -/
inductive StringText : List Char → List Char → List Char → Prop where
  | close {r : List Char} : StringText ('"' :: r) [] r
  | char {spelling : List Char} {c : Char} {s cs r : List Char} : Spelling spelling c →
      StringText s cs r → StringText (spelling ++ s) (c :: cs) r

theorem readString_quote (r : List Char) : readString ('"' :: r) = .ok ([], r) := by
  rw [readString.eq_def]
  exact if_pos rfl

theorem skipString_quote (r : List Char) : skipString ('"' :: r) = .ok r := by
  rw [skipString.eq_def]
  exact if_pos rfl

/-- A spelled character is read off the front. -/
theorem readString_spelling {spelling : List Char} {c : Char} (h : Spelling spelling c)
    (s : List Char) :
    readString (spelling ++ s) = (readString s).map fun r => (c :: r.1, r.2) := by
  cases h with
  | plain hquote hslash hlow =>
    rw [List.singleton_append, readString.eq_def]
    simp only [hquote, hslash, if_false, Nat.not_lt.2 hlow]
  | letter hu hletter =>
    rw [List.cons_append, List.singleton_append, readString.eq_def]
    simp [hu, hletter]
  | @code _ _ _ _ n hquad hrange =>
    have hlow : ¬ (0xdc00 ≤ n ∧ n ≤ 0xdfff) := by omega
    have hhigh : ¬ (0xd800 ≤ n ∧ n ≤ 0xdbff) := by omega
    simp only [List.cons_append, List.nil_append]
    rw [readString.eq_def]
    simp [hquad, hlow, hhigh]
  | @pair _ _ _ _ _ _ _ _ n k hn hk h₁ h₂ h₃ h₄ =>
    have hlow : ¬ (0xdc00 ≤ n ∧ n ≤ 0xdfff) := by omega
    simp only [List.cons_append, List.nil_append]
    rw [readString.eq_def]
    simp [hn, hk, hlow, h₁, h₂, h₃, h₄]

theorem stringText_of_readString {s cs r : List Char} (h : readString s = .ok (cs, r)) :
    StringText s cs r := by
  -- One case for every exit of the reader; all others are faults.
  fun_induction readString s generalizing cs r
  all_goals try cases h; done
  case case2 s =>
    cases h
    exact .close
  case case9 n hn _ hhigh _ _ _ _ s k hk hlow _ ih =>
    obtain ⟨⟨ds, r⟩, hread, heq⟩ := map_eq_ok.1 h
    cases heq
    simp only [Bool.and_eq_true, decide_eq_true_eq] at hhigh hlow
    exact .char (.pair hn hk hhigh.1 hhigh.2 hlow.1 hlow.2) (ih hread)
  case case14 s n hn hlow hhigh _ ih =>
    obtain ⟨⟨ds, r⟩, hread, heq⟩ := map_eq_ok.1 h
    cases heq
    simp only [Bool.and_eq_true, decide_eq_true_eq] at hhigh hlow
    exact .char (.code hn (by omega)) (ih hread)
  case case16 e s he d hd _ ih =>
    obtain ⟨⟨ds, r⟩, hread, heq⟩ := map_eq_ok.1 h
    cases heq
    exact .char (.letter he hd) (ih hread)
  case case19 c s hquote hslash hlow ih =>
    obtain ⟨⟨ds, r⟩, hread, heq⟩ := map_eq_ok.1 h
    cases heq
    exact .char (.plain hquote hslash (Nat.not_lt.1 hlow)) (ih hread)

/-- **The strings that can be read** are those that are spelled out up to a closing quote. -/
theorem readString_iff {s cs r : List Char} : readString s = .ok (cs, r) ↔ StringText s cs r := by
  constructor
  · exact stringText_of_readString
  · intro h
    induction h with
    | close => exact readString_quote _
    | char hspelling _ ih =>
      rw [readString_spelling hspelling, ih]
      rfl

/-- A spelled character is skipped as a whole. -/
theorem skipString_spelling {spelling : List Char} {c : Char} (h : Spelling spelling c)
    (s : List Char) : skipString (spelling ++ s) = skipString s := by
  have hcode {x₁ x₂ x₃ x₄ : Char} {n : Nat} (hn : hexQuad? x₁ x₂ x₃ x₄ = some n) (t : List Char) :
      skipString ('\\' :: 'u' :: x₁ :: x₂ :: x₃ :: x₄ :: t) = skipString t := by
    rw [skipString.eq_def]
    simp [hn]
  cases h with
  | plain hquote hslash hlow =>
    rw [List.singleton_append, skipString.eq_def]
    simp only [hquote, hslash, if_false, Nat.not_lt.2 hlow]
  | letter hu hletter =>
    rw [List.cons_append, List.singleton_append, skipString.eq_def]
    simp [hu, hletter]
  | code hn _ => exact hcode hn s
  | pair hn hk _ _ _ _ => exact (hcode hn _).trans (hcode hk s)

/-- **A string that can be read can be skipped.** -/
theorem skipString_of_readString {s cs r : List Char} (h : readString s = .ok (cs, r)) :
    skipString s = .ok r := by
  have htext := readString_iff.1 h
  clear h
  induction htext with
  | close => exact skipString_quote _
  | char hspelling _ ih => rw [skipString_spelling hspelling, ih]

/-- At least the closing quote is skipped. -/
theorem length_lt_of_skipString {s r : List Char} (h : skipString s = .ok r) :
    r.length < s.length := by
  fun_induction skipString s generalizing r
  all_goals try cases h; done
  case case2 =>
    cases h
    exact Nat.lt_succ_self _
  all_goals
    have hrest := by rename_i ih; exact ih h
    simp only [List.length_cons]
    omega

/-! ### Numbers -/

theorem isDigit_eq {c : Char} {d : Nat} (h : digitValue? c = some d) : isDigit c = true := by
  rw [isDigit, h]
  rfl

theorem not_isDigit_eq {c : Char} (h : digitValue? c = none) : isDigit c = false := by
  rw [isDigit, h]
  rfl

/-- Whether the next character is a digit. -/
def digitNext (s : List Char) : Bool :=
  (s.head?.map isDigit).getD false

theorem dropWhile_of_not_digitNext {s : List Char} (h : digitNext s = false) :
    s.dropWhile isDigit = s := by
  cases s with
  | nil => rfl
  | cons c s => exact List.dropWhile_cons_of_neg (by simpa [digitNext] using h)

/-- What is left behind added digits starts with those that were not added. -/
theorem dropWhile_addDigits (n : Nat) (s : List Char) :
    (addDigits n s).2.2.dropWhile isDigit = s.dropWhile isDigit := by
  fun_induction addDigits n s with
  | case1 => rfl
  | case2 n c s hc => rfl
  | case3 n c s d hc _ r ih => rw [List.dropWhile_cons_of_pos (isDigit_eq hc), ← ih]
  | case4 => rfl

/-- Digits are added from the first on. -/
theorem addDigits_none {n : Nat} {s : List Char} (h : (addDigits n s).2.1 = 0) :
    (addDigits n s).2.2 = s := by
  fun_induction addDigits n s with
  | case1 => rfl
  | case2 => rfl
  | case3 => simp at h
  | case4 => rfl

theorem digitNext_of_addDigits {n : Nat} {s : List Char} (h : (addDigits n s).2.1 ≠ 0) :
    digitNext s = true := by
  cases s with
  | nil => exact absurd rfl h
  | cons c s =>
    rw [addDigits] at h
    split at h
    · exact absurd rfl h
    · next hc => exact isDigit_eq hc

theorem addExponent_ok {n e : Nat} {s r : List Char} (h : addExponent n s = .ok (e, r)) :
    r = s.dropWhile isDigit := by
  fun_induction addExponent n s with
  | case1 =>
    cases h
    rfl
  | case2 n c s hc =>
    cases h
    rw [List.dropWhile_cons_of_neg (by simp [not_isDigit_eq hc])]
  | case3 n c s d hc _ ih => rw [List.dropWhile_cons_of_pos (isDigit_eq hc), ih h]
  | case4 => cases h

theorem addExponent_error {n : Nat} {s r : List Char} (h : addExponent n s = .error r) :
    r.dropWhile isDigit = s.dropWhile isDigit := by
  fun_induction addExponent n s with
  | case1 => cases h
  | case2 => cases h
  | case3 n c s d hc _ ih => rw [List.dropWhile_cons_of_pos (isDigit_eq hc), ih h]
  | case4 n c s d hc =>
    cases h
    rw [List.dropWhile_cons_of_pos (isDigit_eq hc)]

variable {negative : Bool} {digits : Nat} {exponent : Int} {s r : List Char} {x : Number}

theorem finishFloat_eq_ok (h : finishFloat negative digits exponent s = .ok (x, r)) : r = s := by
  unfold finishFloat at h
  split at h
  · cases h
    rfl
  · cases h

/-- The text behind the sign of an exponent, if it has one. -/
def behindSign : List Char → List Char
  | '+' :: r => r
  | '-' :: r => r
  | r => r

theorem behindSign_of_ne {s : List Char} (hplus : ∀ q, s ≠ '+' :: q) (hminus : ∀ q, s ≠ '-' :: q) :
    behindSign s = s := by
  unfold behindSign
  split
  · exact absurd rfl (hplus _)
  · exact absurd rfl (hminus _)
  · rfl

theorem skipExponent_eq (s : List Char) :
    skipExponent s = match behindSign s with
      | [] => .error (.before .badNumber [])
      | c :: q =>
        if isDigit c then .ok (q.dropWhile isDigit) else .error (.at .badNumber (c :: q)) :=
  rfl

/-- An exponent that can be read is a digit and all digits behind it. -/
theorem readExponent_cases (h : readExponent negative digits exponent s = .ok (x, r)) :
    ∃ c q, behindSign s = c :: q ∧ isDigit c = true ∧ r = q.dropWhile isDigit := by
  unfold readExponent at h
  split at h
  next down t hsign =>
    have hbehind : behindSign s = t := by
      split at hsign
      · exact congrArg Prod.snd hsign
      · exact congrArg Prod.snd hsign
      · next hplus hminus =>
        rw [behindSign_of_ne hplus hminus]
        exact congrArg Prod.snd hsign
    split at h
    · cases h
    · next c q =>
      split at h
      · cases h
      · next d hd =>
        refine ⟨c, q, hbehind, isDigit_eq hd, ?_⟩
        split at h
        · next e t hexponent => rw [finishFloat_eq_ok h, addExponent_ok hexponent]
        · next t hexponent =>
          split at h
          · cases h
          · cases h
            exact addExponent_error hexponent

theorem skipExponent_of_readExponent
    (h : readExponent negative digits exponent s = .ok (x, r)) : skipExponent s = .ok r := by
  obtain ⟨c, q, hbehind, hc, rfl⟩ := readExponent_cases h
  rw [skipExponent_eq, hbehind]
  exact if_pos hc

/-- What may follow all digits of a number: an exponent or nothing. -/
def skipTail : List Char → Except Fault (List Char)
  | 'e' :: t => skipExponent t
  | 'E' :: t => skipExponent t
  | t => .ok t

theorem skipTail_of_ne {s : List Char} (hlower : ∀ q, s ≠ 'e' :: q) (hupper : ∀ q, s ≠ 'E' :: q) :
    skipTail s = .ok s := by
  unfold skipTail
  split
  · exact absurd rfl (hlower _)
  · exact absurd rfl (hupper _)
  · rfl

theorem skipTail_of_readTail (h : readTail negative digits exponent s = .ok (x, r)) :
    skipTail s = .ok r := by
  unfold readTail at h
  split at h
  · exact skipExponent_of_readExponent h
  · exact skipExponent_of_readExponent h
  · next hlower hupper =>
    rw [finishFloat_eq_ok h]
    exact skipTail_of_ne hlower hupper

theorem skipFraction_point {c : Char} {q : List Char} (hc : isDigit c = true) :
    skipFraction ('.' :: c :: q) = skipTail (q.dropWhile isDigit) :=
  if_pos hc

theorem skipFraction_of_ne {s : List Char} (h : ∀ q, s ≠ '.' :: q) :
    skipFraction s = skipTail s := by
  unfold skipFraction
  split
  · exact absurd rfl (h _)
  · rfl
  · rfl
  · next hlower hupper => exact (skipTail_of_ne hlower hupper).symm

theorem skipFraction_of_readFraction
    (h : readFraction negative digits exponent s = .ok (x, r)) :
    skipFraction ('.' :: s) = .ok r := by
  have hdrop := dropWhile_addDigits digits s
  -- Digits that were added and digits that are left both make `s` start with one.
  obtain ⟨hdigit, htail⟩ : digitNext s = true ∧ skipTail (s.dropWhile isDigit) = .ok r := by
    unfold readFraction at h
    split at h
    next n added t hadd =>
      rw [hadd] at hdrop
      split at h
      · next hleft =>
        refine ⟨?_, hdrop ▸ skipTail_of_readTail h⟩
        by_cases hnone : (addDigits digits s).2.1 = 0
        · rw [← addDigits_none hnone, hadd]
          exact hleft
        · exact digitNext_of_addDigits hnone
      · next hleft =>
        split at h
        · split at h <;> cases h
        · next hsome =>
          refine ⟨digitNext_of_addDigits (by rw [hadd]; exact hsome), ?_⟩
          rw [← hdrop, dropWhile_of_not_digitNext (by simpa [digitNext] using hleft)]
          exact skipTail_of_readTail h
  cases s with
  | nil => cases hdigit
  | cons c q =>
    have hc : isDigit c = true := hdigit
    rw [List.dropWhile_cons_of_pos hc] at htail
    rw [skipFraction_point hc, htail]

theorem skipFraction_of_readPlain (h : readPlain negative digits s = .ok (x, r)) :
    skipFraction s = .ok r := by
  unfold readPlain at h
  split at h
  · exact skipFraction_of_readFraction h
  · exact skipExponent_of_readExponent h
  · exact skipExponent_of_readExponent h
  · next hpoint hlower hupper =>
    cases h
    rw [skipFraction_of_ne hpoint, skipTail_of_ne hlower hupper]

theorem skipUnsigned_of_readUnsigned (h : readUnsigned negative s = .ok (x, r)) :
    skipUnsigned s = .ok r := by
  unfold readUnsigned at h
  split at h
  · cases h
  · split at h
    · cases h
    · next hnext => exact (if_neg hnext).trans (skipFraction_of_readPlain h)
  · next c t hzero =>
    split at h
    · cases h
    · next d hd =>
      have hskip : skipUnsigned (c :: t) = skipFraction (t.dropWhile isDigit) := by
        unfold skipUnsigned
        split
        · next heq => cases heq
        · next heq =>
          cases heq
          exact (hzero rfl).elim
        · next heq =>
          cases heq
          exact if_pos (isDigit_eq hd)
      rw [hskip, ← dropWhile_addDigits d t]
      split at h
      next n added rest hadd =>
        rw [hadd]
        split at h
        · split at h
          · next hpoint => exact hpoint ▸ skipFraction_of_readFraction h
          · next hpoint => exact (skipFraction_of_ne hpoint).trans (skipTail_of_readTail h)
        · next hleft =>
          rw [dropWhile_of_not_digitNext (by simpa [digitNext] using hleft)]
          exact skipFraction_of_readPlain h

/-- **A number that can be read can be skipped.** -/
theorem skipNumber_of_readNumber (h : readNumber s = .ok (x, r)) : skipNumber s = .ok r := by
  unfold readNumber at h
  unfold skipNumber
  split at h
  · exact skipUnsigned_of_readUnsigned h
  · exact skipUnsigned_of_readUnsigned h

/-- Whether a character may stand in a number. -/
def inNumber (c : Char) : Bool :=
  isDigit c || c = '-' || c = '+' || c = '.' || c = 'e' || c = 'E'

/-- That a text is some characters of a number, at least one, and then `r`. -/
def NumberThen (s r : List Char) : Prop :=
  ∃ p, s = p ++ r ∧ p ≠ [] ∧ ∀ c ∈ p, inNumber c = true

theorem NumberThen.cons {c : Char} {s r : List Char} (hc : inNumber c = true)
    (h : s = r ∨ NumberThen s r) : NumberThen (c :: s) r := by
  rcases h with rfl | ⟨p, rfl, _, hp⟩
  · exact ⟨[c], rfl, List.cons_ne_nil c [], by simpa using hc⟩
  · refine ⟨c :: p, rfl, List.cons_ne_nil c p, ?_⟩
    simpa using ⟨hc, hp⟩

theorem NumberThen.length_lt {s r : List Char} (h : NumberThen s r) : r.length < s.length := by
  obtain ⟨p, rfl, hne, _⟩ := h
  have hpos := List.length_pos_of_ne_nil hne
  rw [List.length_append]
  omega

theorem inNumber_of_isDigit {c : Char} (h : isDigit c = true) : inNumber c = true := by
  simp [inNumber, h]

/-- A digit, and all digits behind it. -/
theorem numberThen_digits {c : Char} (hc : isDigit c = true) (q : List Char) :
    NumberThen (c :: q) (q.dropWhile isDigit) := by
  refine ⟨c :: q.takeWhile isDigit, ?_, List.cons_ne_nil _ _, ?_⟩
  · rw [List.cons_append, List.takeWhile_append_dropWhile]
  · rw [List.forall_mem_cons]
    exact ⟨inNumber_of_isDigit hc, fun d hd =>
      inNumber_of_isDigit (List.all_eq_true.1 (List.all_takeWhile) d hd)⟩

theorem numberThen_of_behindSign {s r : List Char} (h : NumberThen (behindSign s) r) :
    NumberThen s r := by
  unfold behindSign at h
  split at h
  · exact .cons (by decide) (Or.inr h)
  · exact .cons (by decide) (Or.inr h)
  · exact h

theorem numberThen_of_skipExponent {s r : List Char} (h : skipExponent s = .ok r) :
    NumberThen s r := by
  rw [skipExponent_eq] at h
  apply numberThen_of_behindSign
  split at h
  · cases h
  · next c q hbehind =>
    split at h
    · next hc =>
      cases h
      rw [hbehind]
      exact numberThen_digits hc q
    · cases h

theorem numberThen_of_skipTail {s r : List Char} (h : skipTail s = .ok r) :
    s = r ∨ NumberThen s r := by
  unfold skipTail at h
  split at h
  · exact Or.inr (.cons (by decide) (Or.inr (numberThen_of_skipExponent h)))
  · exact Or.inr (.cons (by decide) (Or.inr (numberThen_of_skipExponent h)))
  · exact Or.inl (Except.ok.inj h)

/-- What is skipped behind a digit and all digits that follow it. -/
theorem numberThen_of_digits {c : Char} {q r : List Char} (hc : isDigit c = true)
    (h : q.dropWhile isDigit = r ∨ NumberThen (q.dropWhile isDigit) r) :
    NumberThen (c :: q) r := by
  rcases h with rfl | ⟨p, hp, hne, hin⟩
  · exact numberThen_digits hc q
  · obtain ⟨ds, hds, hdne, hdin⟩ := numberThen_digits hc q
    refine ⟨ds ++ p, by rw [hds, hp, List.append_assoc], by simp [hne], ?_⟩
    exact List.forall_mem_append.2 ⟨hdin, hin⟩

theorem numberThen_of_skipFraction {s r : List Char} (h : skipFraction s = .ok r) :
    s = r ∨ NumberThen s r := by
  by_cases hpoint : ∃ q, s = '.' :: q
  · obtain ⟨q, rfl⟩ := hpoint
    refine Or.inr (.cons (by decide) (Or.inr ?_))
    cases q with
    | nil => cases h
    | cons c q =>
      by_cases hc : isDigit c = true
      · rw [skipFraction_point hc] at h
        exact numberThen_of_digits hc (numberThen_of_skipTail h)
      · have hbad : skipFraction ('.' :: c :: q) = .error (.at .badNumber (c :: q)) := if_neg hc
        rw [hbad] at h
        cases h
  · rw [skipFraction_of_ne (fun q hq => hpoint ⟨q, hq⟩)] at h
    exact numberThen_of_skipTail h

theorem numberThen_of_skipUnsigned {s r : List Char} (h : skipUnsigned s = .ok r) :
    NumberThen s r := by
  unfold skipUnsigned at h
  split at h
  · cases h
  · split at h
    · cases h
    · exact .cons (by decide) (numberThen_of_skipFraction h)
  · split at h
    · next hc => exact numberThen_of_digits hc (numberThen_of_skipFraction h)
    · cases h

/-- **What is skipped as a number** is made of the characters of numbers. -/
theorem numberThen_of_skipNumber {s r : List Char} (h : skipNumber s = .ok r) :
    NumberThen s r := by
  unfold skipNumber at h
  split at h
  · exact .cons (by decide) (Or.inr (numberThen_of_skipUnsigned h))
  · exact numberThen_of_skipUnsigned h

end Json

end CompileIndex

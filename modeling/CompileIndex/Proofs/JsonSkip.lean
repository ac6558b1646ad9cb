import CompileIndex.Proofs.JsonLoops
import Mathlib.Tactic.SplitIfs

/-!
# Values: read and skipped

A value that is wanted is read, at most so many brackets deep; one that is not wanted is skipped.
Whatever can be read can be skipped, and both stop at the same place.  Skipping goes round with a
bound on its rounds, three for every character that is left, and never reaches it.

* `Skips` — a value at the front of a text, and what is left behind it;
* `skips_of_readValue` — a value that can be read can be skipped;
* `skipAny_of_readValue` — the same with the bound that skipping starts with;
* `MovesOn`, `MovesOn.skipAny` — what holds of every part that is skipped holds of the whole.
-/

namespace CompileIndex.Json

/-- That a value stands at the front of `s`, and `r` behind it: skipping it takes something away
and needs three rounds for every character. -/
structure Skips (s r : List Char) : Prop where
  shorter : r.length < s.length
  skip : ∀ n, 3 * s.length + 3 ≤ n → skipValue n s = .ok r

/-! ### Blanks and scalars -/

theorem skipValue_skipBlanks (n : Nat) (s : List Char) :
    skipValue (n + 1) (skipBlanks s) = skipValue (n + 1) s := by
  rw [skipValue, skipValue, skipBlanks_skipBlanks]

/-- Blanks in front of a value do not count. -/
theorem Skips.of_skipBlanks {s r : List Char} (h : Skips (skipBlanks s) r) : Skips s r := by
  have hlength := length_skipBlanks_le s
  refine ⟨Nat.lt_of_lt_of_le h.shorter hlength, ?_⟩
  intro n hn
  obtain ⟨k, rfl⟩ : ∃ k, n = k + 1 := ⟨n - 1, by omega⟩
  rw [← skipValue_skipBlanks]
  exact h.skip (k + 1) (by omega)

/-- What skipping does at a character that is no blank. -/
theorem skipValue_cons {c : Char} (h : isSpace c = false) (n : Nat) (r : List Char) :
    skipValue (n + 1) (c :: r) =
      if c = 'n' then readWord ['u', 'l', 'l'] r
      else if c = 't' then readWord ['r', 'u', 'e'] r
      else if c = 'f' then readWord ['a', 'l', 's', 'e'] r
      else if c = '"' then skipString r
      else if c = '-' || isDigit c then skipNumber (c :: r)
      else if c = '[' then skipItems n true r
      else if c = '\x7b' then skipMembers n true r
      else .error (.at .expectedValue (c :: r)) := by
  rw [skipValue, skipBlanks_of_not h]

/-- Something that is no bracket is skipped at its first character. -/
theorem Skips.of_scalar {c : Char} {r t : List Char} (hlength : t.length < (c :: r).length)
    (hskip : ∀ n, skipValue (n + 1) (c :: r) = .ok t) : Skips (c :: r) t := by
  refine ⟨hlength, ?_⟩
  intro n hn
  obtain ⟨k, rfl⟩ : ∃ k, n = k + 1 := ⟨n - 1, by omega⟩
  exact hskip k

theorem skips_of_readScalar {c : Char} {r t : List Char} {v : Json} (hc : isSpace c = false)
    (h : readScalar (c :: r) = .ok (v, t)) : Skips (c :: r) t := by
  have hword {word : List Char} {w : Json}
      (hread : (do return (w, ← readWord word r)) = Except.ok (v, t)) :
      t.length < (c :: r).length ∧ readWord word r = .ok t := by
    obtain ⟨u, hu, heq⟩ := bind_eq_ok.1 hread
    cases heq
    refine ⟨?_, hu⟩
    rw [readWord_eq_ok hu, List.length_cons, List.length_append]
    omega
  -- Reading and skipping go by the first character, in the same order.
  rw [readScalar] at h
  split_ifs at h with hnull htrue hfalse hquote hnumber
  · refine .of_scalar (hword h).1 fun n => ?_
    rw [skipValue_cons hc, if_pos hnull, (hword h).2]
  · refine .of_scalar (hword h).1 fun n => ?_
    rw [skipValue_cons hc, if_neg hnull, if_pos htrue, (hword h).2]
  · refine .of_scalar (hword h).1 fun n => ?_
    rw [skipValue_cons hc, if_neg hnull, if_neg htrue, if_pos hfalse, (hword h).2]
  · obtain ⟨⟨cs, u⟩, hstring, heq⟩ := bind_eq_ok.1 h
    cases heq
    have hskip := skipString_of_readString hstring
    refine .of_scalar (Nat.lt_succ_of_lt (length_lt_of_skipString hskip)) fun n => ?_
    rw [skipValue_cons hc, if_neg hnull, if_neg htrue, if_neg hfalse, if_pos hquote, hskip]
  · obtain ⟨⟨x, u⟩, hread, heq⟩ := bind_eq_ok.1 h
    cases heq
    have hskip := skipNumber_of_readNumber hread
    refine .of_scalar (numberThen_of_skipNumber hskip).length_lt fun n => ?_
    rw [skipValue_cons hc, if_neg hnull, if_neg htrue, if_neg hfalse, if_neg hquote,
      if_pos hnumber, hskip]

/-! ### Brackets -/

/-- Items that can each be skipped are skipped up to behind the closing bracket. -/
theorem skipItems_of_itemsText {α : Type} {item : List Char → Except Fault (α × List Char)}
    (hitem : ∀ s x t, item s = .ok (x, t) → Skips s t) {first : Bool} {s r : List Char}
    {xs : List α} (h : ItemsText item first s xs r) :
    ∃ t, r = ']' :: t ∧ t.length < s.length ∧
      ∀ n, 3 * s.length + 4 ≤ n → skipItems n first s = .ok t := by
  induction h with
  | @close first s t hs =>
    have hlength := hs ▸ length_skipBlanks_le s
    rw [List.length_cons] at hlength
    refine ⟨t, rfl, hlength, ?_⟩
    intro n hn
    obtain ⟨k, rfl⟩ : ∃ k, n = k + 1 := ⟨n - 1, by omega⟩
    simp [skipItems, hs]
  | @item first s q u r c x xs hopens hc hread _ ih =>
    obtain ⟨t, rfl, hlength, hrest⟩ := ih
    have hskips := hitem _ _ _ hread
    have hshorter := hskips.shorter
    refine ⟨t, rfl, ?_, ?_⟩
    · have hstart := hopens.length_le
      omega
    intro n hn
    obtain ⟨k, rfl⟩ : ∃ k, n = k + 1 := ⟨n - 1, by omega⟩
    cases hopens with
    | first hs =>
      have hstart := hs ▸ length_skipBlanks_le s
      simp only [skipItems, hs, hc, if_false, if_true]
      rw [hskips.skip k (by omega)]
      exact hrest k (by omega)
    | @next _ p _ hs hp =>
      have hcomma := hs ▸ length_skipBlanks_le s
      have hstart := hp ▸ length_skipBlanks_le p
      rw [List.length_cons] at hcomma
      have hskips : Skips p u := .of_skipBlanks (hp ▸ hskips)
      simp only [skipItems, hs, if_false, if_true, Bool.false_eq_true]
      rw [if_neg (by decide), hskips.skip k (by omega)]
      exact hrest k (by omega)

theorem length_lt_of_readColon {s r : List Char} (h : readColon s = .ok r) :
    r.length < s.length := by
  have hlength := length_skipBlanks_le s
  unfold readColon at h
  split at h
  · cases h
  · next c t hs =>
    rw [hs, List.length_cons] at hlength
    split at h
    · cases h
      omega
    · cases h

/-- A name, a colon and a value are skipped. -/
theorem skipMember_eq {p q t u v cs : List Char} (hp : skipBlanks p = '"' :: q)
    (hname : readString q = .ok (cs, t)) (hcolon : readColon t = .ok u) (hvalue : Skips u v)
    {n : Nat} (hn : 3 * u.length + 3 ≤ n) :
    skipMember (n + 1) p = skipMembers n false v := by
  simp only [skipMember, hp, if_true, skipString_of_readString hname]
  simp only [bind, Except.bind, hcolon, hvalue.skip n hn]

/-- Members whose values can each be skipped are skipped up to behind the closing brace. -/
theorem skipMembers_of_membersText {σ : Type}
    {member : σ → String → List Char → Except Fault (σ × List Char)}
    (hmember : ∀ g name s g₁ t, member g name s = .ok (g₁, t) →
      ∃ u, readColon s = .ok u ∧ Skips u t)
    {first : Bool} {g g₂ : σ} {s r : List Char} {names : List String}
    (h : MembersText member first g s names g₂ r) :
    ∃ t, r = '\x7d' :: t ∧ t.length < s.length ∧
      ∀ n, 3 * s.length + 4 ≤ n → skipMembers n first s = .ok t := by
  induction h with
  | @close first _ s t hs =>
    have hlength := hs ▸ length_skipBlanks_le s
    rw [List.length_cons] at hlength
    refine ⟨t, rfl, hlength, ?_⟩
    intro n hn
    obtain ⟨k, rfl⟩ : ∃ k, n = k + 1 := ⟨n - 1, by omega⟩
    simp [skipMembers, hs]
  | @member first _ _ _ s q t v r cs names hopens hname hread _ ih =>
    obtain ⟨w, rfl, hlength, hrest⟩ := ih
    obtain ⟨u, hcolon, hskips⟩ := hmember _ _ _ _ _ hread
    have hquote := length_lt_of_skipString (skipString_of_readString hname)
    have hbehind := length_lt_of_readColon hcolon
    have hshorter := hskips.shorter
    have hstart := hopens.length_le
    rw [List.length_cons] at hstart
    refine ⟨w, rfl, by omega, ?_⟩
    intro n hn
    obtain ⟨k, rfl⟩ : ∃ k, n = k + 2 := ⟨n - 2, by omega⟩
    cases hopens with
    | first hs =>
      have hblanks : skipBlanks ('"' :: q) = '"' :: q := skipBlanks_of_not (by decide) q
      simp only [skipMembers, hs, if_true]
      rw [if_neg (by decide), skipMember_eq hblanks hname hcolon hskips (by omega)]
      exact hrest k (by omega)
    | next hs hp =>
      simp only [skipMembers, hs, if_true, if_false, Bool.false_eq_true]
      rw [if_neg (by decide), skipMember_eq hp hname hcolon hskips (by omega)]
      exact hrest k (by omega)

/-! ### Values -/

/-- What a bracket opens is skipped up to behind the bracket that closes it. -/
theorem Skips.of_bracket {c : Char} {r t : List Char} (hlength : t.length < r.length)
    {skip : Nat → Except Fault (List Char)}
    (hskip : ∀ n, 3 * r.length + 4 ≤ n → skip n = .ok t)
    (heq : ∀ n, skipValue (n + 1) (c :: r) = skip n) : Skips (c :: r) t := by
  refine ⟨Nat.lt_succ_of_lt hlength, ?_⟩
  intro n hn
  rw [List.length_cons] at hn
  obtain ⟨k, rfl⟩ : ∃ k, n = k + 1 := ⟨n - 1, by omega⟩
  rw [heq]
  exact hskip k (by omega)

/-- **A value that can be read can be skipped.** -/
theorem skips_of_readValue {depth : Nat} {s r : List Char} {v : Json}
    (h : readValue depth s = .ok (v, r)) : Skips s r := by
  apply Skips.of_skipBlanks
  induction depth using Nat.strongRecOn generalizing s r v with
  | ind depth ih =>
    have hvalue {d : Nat} (hd : depth = d + 1) (s : List Char) (v : Json) (t : List Char)
        (hread : readValue d s = .ok (v, t)) : Skips s t :=
      .of_skipBlanks (ih d (by omega) hread)
    rcases readValue_cases h with ⟨c, t, hs, hscalar⟩ | ⟨d, items, hd, _, t, hs, _, htext⟩ |
      ⟨d, names, members, hd, _, t, hs, _, htext⟩
    · rw [hs]
      exact skips_of_readScalar (isSpace_of_skipBlanks hs) hscalar
    · obtain ⟨_, hclose, hlength, hskip⟩ := skipItems_of_itemsText (hvalue hd) htext
      cases hclose
      rw [hs]
      exact .of_bracket hlength hskip fun n => skipValue_cons (by decide) n t
    · obtain ⟨_, hclose, hlength, hskip⟩ := skipMembers_of_membersText (by
        intro g name s g₁ t hmember
        obtain ⟨u, v, hcolon, hread, _⟩ := putMember_eq_ok.1 hmember
        exact ⟨u, hcolon, hvalue hd _ _ _ hread⟩) htext
      cases hclose
      rw [hs]
      exact .of_bracket hlength hskip fun n => skipValue_cons (by decide) n t

/-- What can be read can be skipped with the rounds that skipping is given. -/
theorem skipAny_of_readValue {depth : Nat} {s r : List Char} {v : Json}
    (h : readValue depth s = .ok (v, r)) : skipAny s = .ok r :=
  (skips_of_readValue h).skip _ (Nat.le_refl _)

/-! ### What is skipped, part by part -/

/-- A relation between a text and what is left of it that holds of every part that can be skipped:
blanks, signs, words, numbers and strings. -/
structure MovesOn (P : List Char → List Char → Prop) : Prop where
  trans : ∀ {s t r}, P s t → P t r → P s r
  blanks : ∀ s, P s (skipBlanks s)
  sign : ∀ {c}, c ∈ ['[', ']', '\x7b', '\x7d', ':', ','] → ∀ r, P (c :: r) r
  word : ∀ {c word s r}, (c, word) ∈ [('n', ['u', 'l', 'l']), ('t', ['r', 'u', 'e']),
    ('f', ['a', 'l', 's', 'e'])] → readWord word s = .ok r → P (c :: s) r
  number : ∀ {s r}, skipNumber s = .ok r → P s r
  string : ∀ {s r}, skipString s = .ok r → P ('"' :: s) r

/-- That a relation holds of all that is skipped in so many rounds. -/
structure MovesOnIn (P : List Char → List Char → Prop) (n : Nat) : Prop where
  value : ∀ {s r}, skipValue n s = .ok r → P s r
  items : ∀ {first s r}, skipItems n first s = .ok r → P s r
  members : ∀ {first s r}, skipMembers n first s = .ok r → P s r
  member : ∀ {s r}, skipMember n s = .ok r → P s r

namespace MovesOn

variable {P : List Char → List Char → Prop} (h : MovesOn P)

include h

/-- Blanks and a sign behind them. -/
theorem of_skipBlanks {c : Char} {s r : List Char} (hs : skipBlanks s = c :: r)
    (hc : c ∈ ['[', ']', '\x7b', '\x7d', ':', ',']) : P s r :=
  h.trans (h.blanks s) (hs ▸ h.sign hc r)

theorem readColon {s r : List Char} (hread : Json.readColon s = .ok r) : P s r := by
  unfold Json.readColon at hread
  split at hread
  · cases hread
  · next c t hs =>
    split at hread
    · next hc =>
      cases hread
      exact h.of_skipBlanks hs (by simp [hc])
    · cases hread

variable {n : Nat} (ih : MovesOnIn P n)

include ih

theorem succ_value {s r : List Char} (hskip : skipValue (n + 1) s = .ok r) : P s r := by
  rw [skipValue] at hskip
  split at hskip
  · cases hskip
  · next c t hs =>
    refine h.trans (h.blanks s) ?_
    rw [hs]
    split_ifs at hskip with hnull htrue hfalse hquote hnumber harray hobject
    · exact h.word (by simp [hnull]) hskip
    · exact h.word (by simp [htrue]) hskip
    · exact h.word (by simp [hfalse]) hskip
    · exact hquote ▸ h.string hskip
    · exact h.number hskip
    · exact h.trans (h.sign (by simp [harray]) t) (ih.items hskip)
    · exact h.trans (h.sign (by simp [hobject]) t) (ih.members hskip)

theorem succ_items {first : Bool} {s r : List Char}
    (hskip : skipItems (n + 1) first s = .ok r) : P s r := by
  have hrest {p : List Char} (hp : (do skipItems n false (← skipValue n p)) = Except.ok r) :
      P p r := by
    obtain ⟨t, hvalue, hitems⟩ := bind_eq_ok.1 hp
    exact h.trans (ih.value hvalue) (ih.items hitems)
  rw [skipItems] at hskip
  split at hskip
  · cases hskip
  · next c t hs =>
    split_ifs at hskip with hclose hfirst hcomma
    · cases hskip
      exact h.of_skipBlanks hs (by simp [hclose])
    · exact h.trans (h.blanks s) (hs ▸ hrest hskip)
    · exact h.trans (h.of_skipBlanks hs (by simp [hcomma])) (hrest hskip)

theorem succ_members {first : Bool} {s r : List Char}
    (hskip : skipMembers (n + 1) first s = .ok r) : P s r := by
  rw [skipMembers] at hskip
  split at hskip
  · cases hskip
  · next c t hs =>
    split_ifs at hskip with hclose hfirst hcomma
    · cases hskip
      exact h.of_skipBlanks hs (by simp [hclose])
    · exact h.trans (h.blanks s) (hs ▸ ih.member hskip)
    · exact h.trans (h.of_skipBlanks hs (by simp [hcomma])) (ih.member hskip)

theorem succ_member {s r : List Char} (hskip : skipMember (n + 1) s = .ok r) : P s r := by
  rw [skipMember] at hskip
  split at hskip
  · cases hskip
  · next c t hs =>
    split_ifs at hskip with hquote
    subst hquote
    obtain ⟨u, hname, hskip⟩ := bind_eq_ok.1 hskip
    obtain ⟨v, hcolon, hskip⟩ := bind_eq_ok.1 hskip
    obtain ⟨w, hvalue, hskip⟩ := bind_eq_ok.1 hskip
    have hmember := h.trans (h.readColon hcolon) (h.trans (ih.value hvalue) (ih.members hskip))
    exact h.trans (h.blanks s) (hs ▸ h.trans (h.string hname) hmember)

omit ih

theorem inRounds (n : Nat) : MovesOnIn P n := by
  induction n with
  | zero =>
    refine ⟨?_, ?_, ?_, ?_⟩
    · intro s r hskip
      rw [skipValue] at hskip
      cases hskip
    · intro first s r hskip
      rw [skipItems] at hskip
      cases hskip
    · intro first s r hskip
      rw [skipMembers] at hskip
      cases hskip
    · intro s r hskip
      rw [skipMember] at hskip
      cases hskip
  | succ n ih => exact ⟨h.succ_value ih, h.succ_items ih, h.succ_members ih, h.succ_member ih⟩

/-- **What holds of every part that is skipped** holds of a value that is. -/
theorem skipAny {s r : List Char} (hskip : Json.skipAny s = .ok r) : P s r :=
  (h.inRounds _).value hskip

end MovesOn

/-- Skipping leaves no more than there was. -/
theorem movesOn_length : MovesOn fun s r => r.length ≤ s.length where
  trans h h' := Nat.le_trans h' h
  blanks := length_skipBlanks_le
  sign _ r := Nat.le_succ r.length
  word _ h := by
    rw [readWord_eq_ok h, List.length_cons, List.length_append]
    omega
  number h := Nat.le_of_lt (numberThen_of_skipNumber h).length_lt
  string h := Nat.le_succ_of_le (Nat.le_of_lt (length_lt_of_skipString h))

end CompileIndex.Json

import CompileIndex.Proofs.JsonRoundTrip
import CompileIndex.Toml.Document
import CompileIndex.Toml.Printer

/-!
# Words of TOML documents, written and read back

Strings, keys, lists of strings and numbers are read back from what is written for them, whatever
stands behind.  A string comes in one of five forms, and the reader has to find the form again: its
quotes end where the writer ended them, since the characters between them hold no quote, or only
escaped ones, or at most two in a row.

* `Spells` — what stands for one character between double quotes;
* `readBasic_escapedFrom`, `readLongBasic_escapedFrom`, `readLongLiteral_append` — the forms;
* `readString_writeString`, `readKey_writeKey` — strings and keys;
* `readValue_writeString`, `readValue_writeArray`, `readValue_writeNat` — values.
-/

namespace CompileIndex.Toml

/-! ### Characters between double quotes -/

/-- That some characters stand for `c` between double quotes, of which there are three in a row if
`long` is true. -/
inductive Spells (long : Bool) (c : Char) : List Char → Prop where
  | plain : isCommentChar c = true → c ≠ '"' → c ≠ '\\' → Spells long c [c]
  | escape {e : List Char} : (∀ t, readEscape (e ++ t) = some (c, t)) →
      (∀ t, skipFold (e ++ t) = none) → Spells long c ('\\' :: e)
  | lineFeed : long = true → c = '\n' → Spells long c ['\n']

/-- The digits of a control character spell its number. -/
theorem readScalar_control {n : Nat} (h : n < 32 ∨ n = 127) (t : List Char) :
    readScalar 4 ('0' :: '0' :: hexDigit (n / 16) :: hexDigit (n % 16) :: t) =
      some (Char.ofNat n, t) := by
  have hdigits : ∀ n < 128, ['0', '0', hexDigit (n / 16), hexDigit (n % 16)].foldlM
      (fun v c => (Text.hexValue? c).map (16 * v + ·)) 0 = some n := by
    decide +kernel
  have hn : n < 128 := by omega
  have hvalid : n.isValidChar := Or.inl (by omega)
  simp only [readScalar, List.take_succ_cons, List.take_zero, List.length_cons, List.length_nil,
    hdigits n hn, Option.bind_eq_bind, Option.bind_some, hvalid, if_true, List.drop_succ_cons,
    List.drop_zero]
  rfl

/-- A character is spelled by its escape. -/
theorem spells_escaped (long : Bool) {c : Char} (hquote : c ≠ '"') :
    Spells long c (escaped long c) := by
  unfold escaped
  split_ifs with hback htab hfeed hlong hform hreturn hslash hcontrol
  · have hc : c = Char.ofNat 8 := by rw [← hback, Char.ofNat_toNat]
    exact .escape (fun t => by rw [hc]; rfl) (fun t => rfl)
  · exact .escape (fun t => by rw [htab]; rfl) (fun t => rfl)
  · exact .lineFeed hlong hfeed
  · exact .escape (fun t => by rw [hfeed]; rfl) (fun t => rfl)
  · have hc : c = Char.ofNat 12 := by rw [← hform, Char.ofNat_toNat]
    exact .escape (fun t => by rw [hc]; rfl) (fun t => rfl)
  · exact .escape (fun t => by rw [hreturn]; rfl) (fun t => rfl)
  · exact .escape (fun t => by rw [hslash]; rfl) (fun t => rfl)
  · have hread := readScalar_control (n := c.toNat) (by simpa using hcontrol)
    rw [Char.ofNat_toNat] at hread
    exact .escape hread (fun t => rfl)
  · have hplain : isCommentChar c = true := by
      simp only [Bool.or_eq_true, decide_eq_true_eq, not_or] at hcontrol
      simp [isCommentChar, hcontrol.2]
      omega
    exact .plain hplain hquote hslash

/-- What stands for a character that is no quote does not begin with a quote. -/
theorem Spells.head {long : Bool} {c : Char} {e : List Char} (h : Spells long c e) :
    ∃ d q, e = d :: q ∧ d ≠ '"' := by
  cases h with
  | plain _ hquote _ => exact ⟨c, [], rfl, hquote⟩
  | @escape e _ _ => exact ⟨'\\', e, rfl, by decide⟩
  | lineFeed _ _ => exact ⟨'\n', [], rfl, by decide⟩

theorem readBasic_spelled {c : Char} {e : List Char} (h : Spells false c e) (n : Nat)
    (t : List Char) :
    readBasic (n + 1) (e ++ t) = (readBasic n t).map fun (cs, r) => (c :: cs, r) := by
  cases h with
  | plain hplain hquote hslash =>
    rw [List.singleton_append, readBasic, if_pos hplain]
    · exact hquote
    · exact hslash
  | escape hread _ =>
    rw [List.cons_append, readBasic, hread t]
    simp only [Option.bind_eq_bind, Option.bind_some]
    cases readBasic n t <;> rfl
  | lineFeed hlong => cases hlong

/-- **Between double quotes** a text is read back. -/
theorem readBasic_escapedFrom (cs r : List Char) {n : Nat} (hn : cs.length < n) :
    readBasic n (escapedFrom 0 0 cs ++ '"' :: r) = some (cs, r) := by
  induction cs generalizing n with
  | nil =>
    obtain ⟨n, rfl⟩ := Nat.exists_eq_add_of_lt hn
    rfl
  | cons c cs ih =>
    obtain ⟨n, rfl⟩ : ∃ m, n = m + 1 := ⟨n - 1, by omega⟩
    have hrest := ih (Nat.lt_of_succ_lt_succ hn)
    rw [escapedFrom]
    split_ifs with hquote
    · omega
    · have hspelled : Spells false c ['\\', '"'] :=
        .escape (fun t => by rw [hquote]; rfl) (fun t => rfl)
      have hread := readBasic_spelled hspelled n (escapedFrom 0 0 cs ++ '"' :: r)
      rw [hrest] at hread
      exact hread
    · have hread := readBasic_spelled (spells_escaped false hquote) n
        (escapedFrom 0 0 cs ++ '"' :: r)
      rw [hrest] at hread
      rw [List.append_assoc]
      exact hread

/-! ### Characters between single quotes -/

theorem readLiteral_append (cs r : List Char)
    (h : ∀ c ∈ cs, isCommentChar c = true ∧ c ≠ '\'') :
    readLiteral (cs ++ '\'' :: r) = some (cs, r) := by
  induction cs with
  | nil => rfl
  | cons c cs ih =>
    rw [List.forall_mem_cons] at h
    rw [List.cons_append, readLiteral, if_neg h.1.2, if_pos h.1.1, ih h.2]
    rfl

/-! ### Three quotes in a row -/

/-- At most two quotes in a row do not end a string. -/
theorem closing?_of_short {quote : Char} {s : List Char}
    (h : (s.takeWhile fun d => d = quote).length ≤ 2) : closing? quote s = none := by
  rw [closing?, if_pos (by omega)]

/-- At most two quotes in front of the last three end a string. -/
theorem closing?_replicate {quote : Char} {k : Nat} (hk : k ≤ 2) {r : List Char}
    (hr : ∀ t, r ≠ quote :: t) :
    closing? quote (List.replicate k quote ++ quote :: quote :: quote :: r) =
      some (List.replicate k quote, r) := by
  have hnone : r.takeWhile (fun d => d = quote) = [] := by
    cases r with
    | nil => rfl
    | cons c r =>
      have hc : c ≠ quote := fun h => hr r (h ▸ rfl)
      exact List.takeWhile_cons_of_neg (by simpa using hc)
  have htext : List.replicate k quote ++ quote :: quote :: quote :: r =
      List.replicate (k + 3) quote ++ r := by
    rw [List.replicate_add, List.append_assoc]
    rfl
  have hrun : (List.replicate (k + 3) quote ++ r).takeWhile (fun d => d = quote) =
      List.replicate (k + 3) quote := by
    rw [List.takeWhile_append_of_pos (by simp), hnone, List.append_nil]
  have hmin : min (k + 3) 5 - 3 = k := by omega
  rw [htext, closing?, hrun, List.length_replicate, if_neg (by omega)]
  simp only [hmin]
  rw [List.drop_left' List.length_replicate]

/-- Where quotes in a row are escaped after the second, either nothing but such quotes is left, or
no third one comes. -/
theorem run_escapedFrom (cs t : List Char) {run : Nat} (h : run ≤ 2) :
    (∃ k, cs = List.replicate k '"' ∧ run + k ≤ 2) ∨
      run + ((escapedFrom 2 run cs ++ t).takeWhile fun d => d = '"').length ≤ 2 := by
  induction cs generalizing run with
  | nil => exact Or.inl ⟨0, rfl, h⟩
  | cons c cs ih =>
    rw [escapedFrom]
    split_ifs with hquote hfree
    · subst hquote
      rw [List.cons_append, List.takeWhile_cons_of_pos (by decide), List.length_cons]
      rcases ih (show run + 1 ≤ 2 from hfree) with ⟨k, rfl, hk⟩ | hshort
      · exact Or.inl ⟨k + 1, rfl, by omega⟩
      · exact Or.inr (by omega)
    · exact Or.inr h
    · obtain ⟨d, q, hspelled, hd⟩ := (spells_escaped (0 < 2) hquote).head
      rw [hspelled, List.cons_append, List.cons_append,
        List.takeWhile_cons_of_neg (by simpa using hd)]
      exact Or.inr h

theorem escapedFrom_replicate {k run : Nat} (h : run + k ≤ 2) :
    escapedFrom 2 run (List.replicate k '"') = List.replicate k '"' := by
  induction k generalizing run with
  | zero => rfl
  | succ k ih =>
    rw [List.replicate_succ, escapedFrom, if_pos rfl, if_pos (by omega), ih (by omega)]

/-- A character of a line ends no line. -/
theorem newline?_of_isCommentChar {c : Char} (h : isCommentChar c = true) (t : List Char) :
    newline? (c :: t) = none := by
  unfold newline?
  split
  · next heq =>
    cases heq
    exact absurd h (by decide)
  · next heq =>
    cases heq
    exact absurd h (by decide)
  · rfl

theorem Spells.newline? {long : Bool} {c : Char} {e : List Char} (h : Spells long c e)
    (hfeed : c ≠ '\n') (t : List Char) : newline? (e ++ t) = none := by
  cases h with
  | plain hplain _ _ => exact newline?_of_isCommentChar hplain t
  | escape _ _ => exact newline?_of_isCommentChar (by decide) _
  | lineFeed _ hc => exact absurd hc hfeed

theorem readLongBasic_closing {s cs r : List Char} (h : closing? '"' s = some (cs, r)) (n : Nat) :
    readLongBasic (n + 1) s = some (cs, r) := by
  unfold readLongBasic
  rw [h]

theorem readLongBasic_char {c : Char} {t : List Char} (hopen : closing? '"' (c :: t) = none)
    (hplain : isCommentChar c = true) (hslash : c ≠ '\\') (n : Nat) :
    readLongBasic (n + 1) (c :: t) = (readLongBasic n t).map fun (cs, r) => (c :: cs, r) := by
  rw [readLongBasic, hopen]
  simp only [newline?_of_isCommentChar hplain, hplain, if_true]
  exact hslash

theorem readLongBasic_spelled {c : Char} {e : List Char} (h : Spells true c e) (n : Nat)
    (t : List Char) :
    readLongBasic (n + 1) (e ++ t) = (readLongBasic n t).map fun (cs, r) => (c :: cs, r) := by
  have hopen : closing? '"' (e ++ t) = none := by
    obtain ⟨d, q, rfl, hd⟩ := h.head
    refine closing?_of_short ?_
    rw [List.cons_append, List.takeWhile_cons_of_neg (by simpa using hd)]
    exact Nat.zero_le 2
  cases h with
  | plain hplain _ hslash => exact readLongBasic_char hopen hplain hslash n
  | escape hread hfold =>
    rw [List.cons_append] at hopen ⊢
    rw [readLongBasic, hopen]
    simp only [hread t, hfold t, Option.bind_eq_bind, Option.bind_some]
    cases readLongBasic n t <;> rfl
  | lineFeed _ hfeed =>
    rw [List.singleton_append] at hopen ⊢
    rw [readLongBasic, hopen, hfeed]
    · rfl
    · decide

/-- **Between three double quotes** a text is read back. -/
theorem readLongBasic_escapedFrom (cs : List Char) {r : List Char} (hr : ∀ t, r ≠ '"' :: t)
    {n run : Nat} (hn : cs.length < n) (hrun : run ≤ 2) :
    readLongBasic n (escapedFrom 2 run cs ++ '"' :: '"' :: '"' :: r) = some (cs, r) := by
  induction cs generalizing n run with
  | nil =>
    obtain ⟨n, rfl⟩ := Nat.exists_eq_add_of_lt hn
    exact readLongBasic_closing (closing?_replicate (k := 0) (Nat.zero_le 2) hr) _
  | cons c cs ih =>
    obtain ⟨n, rfl⟩ : ∃ m, n = m + 1 := ⟨n - 1, by omega⟩
    have hlater := Nat.lt_of_succ_lt_succ hn
    rcases run_escapedFrom (c :: cs) ('"' :: '"' :: '"' :: r) hrun with ⟨k, hk, hfree⟩ | hshort
    · rw [hk, escapedFrom_replicate hfree]
      exact readLongBasic_closing (closing?_replicate (by omega) hr) n
    · have hopen := closing?_of_short (Nat.le_trans (Nat.le_add_left _ run) hshort)
      rw [escapedFrom] at hopen ⊢
      split_ifs at hopen ⊢ with hquote hrunFree
      · subst hquote
        rw [List.cons_append] at hopen ⊢
        rw [readLongBasic_char hopen (by decide) (by decide), ih hlater hrunFree]
        rfl
      · have hspelled : Spells true c ['\\', '"'] :=
          .escape (fun t => by rw [hquote]; rfl) (fun t => rfl)
        have hread := readLongBasic_spelled hspelled n
          (escapedFrom 2 0 cs ++ '"' :: '"' :: '"' :: r)
        rw [ih hlater (Nat.zero_le 2)] at hread
        exact hread
      · have hread := readLongBasic_spelled (spells_escaped true hquote) n
          (escapedFrom 2 0 cs ++ '"' :: '"' :: '"' :: r)
        rw [ih hlater (Nat.zero_le 2)] at hread
        rw [List.append_assoc]
        exact hread

/-! ### Three single quotes in a row -/

/-- Where no more than two quotes stand in a row, either nothing but such quotes is left, or no
third one comes. -/
theorem run_longestRun {quote : Char} {cs : List Char} {run : Nat}
    (h : longestRun quote run cs ≤ 2) (t : List Char) :
    (∃ k, cs = List.replicate k quote ∧ run + k ≤ 2) ∨
      run + ((cs ++ t).takeWhile fun d => d = quote).length ≤ 2 := by
  induction cs generalizing run with
  | nil => exact Or.inl ⟨0, rfl, h⟩
  | cons c cs ih =>
    rw [longestRun] at h
    rw [List.cons_append]
    split_ifs at h with hquote
    · subst hquote
      rw [List.takeWhile_cons_of_pos (by simp), List.length_cons]
      rcases ih h with ⟨k, rfl, hk⟩ | hshort
      · exact Or.inl ⟨k + 1, rfl, by omega⟩
      · exact Or.inr (by omega)
    · rw [List.takeWhile_cons_of_neg (by simpa using hquote)]
      exact Or.inr (Nat.le_trans (Nat.le_max_left _ _) h)

theorem longestRun_tail {quote c : Char} {cs : List Char} {run k : Nat}
    (h : longestRun quote run (c :: cs) ≤ k) :
    longestRun quote (if c = quote then run + 1 else 0) cs ≤ k := by
  rw [longestRun] at h
  split_ifs at h ⊢
  · exact h
  · exact Nat.le_trans (Nat.le_max_right _ _) h

theorem readLongLiteral_closing {s cs r : List Char} (h : closing? '\'' s = some (cs, r))
    (n : Nat) : readLongLiteral (n + 1) s = some (cs, r) := by
  unfold readLongLiteral
  rw [h]

theorem readLongLiteral_char {c : Char} {t : List Char} (hopen : closing? '\'' (c :: t) = none)
    (hplain : isCommentChar c = true ∨ c = '\n') (n : Nat) :
    readLongLiteral (n + 1) (c :: t) = (readLongLiteral n t).map fun (cs, r) => (c :: cs, r) := by
  rw [readLongLiteral, hopen]
  rcases hplain with hplain | rfl
  · simp only [newline?_of_isCommentChar hplain, hplain, if_true]
  · rfl

/-- **Between three single quotes** a text is read back that holds no three of them in a row. -/
theorem readLongLiteral_append {cs : List Char} {run : Nat} (hcs : longestRun '\'' run cs ≤ 2)
    (hplain : ∀ c ∈ cs, isCommentChar c = true ∨ c = '\n') {r : List Char}
    (hr : ∀ t, r ≠ '\'' :: t) {n : Nat} (hn : cs.length < n) :
    readLongLiteral n (cs ++ '\'' :: '\'' :: '\'' :: r) = some (cs, r) := by
  induction cs generalizing n run with
  | nil =>
    obtain ⟨n, rfl⟩ := Nat.exists_eq_add_of_lt hn
    exact readLongLiteral_closing (closing?_replicate (k := 0) (Nat.zero_le 2) hr) _
  | cons c cs ih =>
    obtain ⟨n, rfl⟩ : ∃ m, n = m + 1 := ⟨n - 1, by omega⟩
    rcases run_longestRun hcs ('\'' :: '\'' :: '\'' :: r) with ⟨k, hk, hfree⟩ | hshort
    · rw [hk]
      exact readLongLiteral_closing (closing?_replicate (by omega) hr) n
    · have hopen := closing?_of_short (Nat.le_trans (Nat.le_add_left _ run) hshort)
      rw [List.forall_mem_cons] at hplain
      rw [List.cons_append] at hopen ⊢
      rw [readLongLiteral_char hopen hplain.1,
        ih (longestRun_tail hcs) hplain.2 (Nat.lt_of_succ_lt_succ hn)]
      rfl

/-! ### Strings -/

/-- That a text does not begin with a quote. -/
def Unquoted (r : List Char) : Prop :=
  ∀ c t, r = c :: t → c ≠ '"' ∧ c ≠ '\''

theorem unquoted_cons {c : Char} (h : c ≠ '"' ∧ c ≠ '\'') (t : List Char) : Unquoted (c :: t) := by
  rintro _ _ ⟨rfl, rfl⟩
  exact h

/-- A character that can be written as it is. -/
theorem isCommentChar_of_not_isControl {c : Char} (h : isControl c = false) (hfeed : c ≠ '\n') :
    isCommentChar c = true := by
  simp only [isControl, isCommentChar, Bool.or_eq_false_iff, Bool.and_eq_false_iff,
    decide_eq_false_iff_not, Bool.or_eq_true, Bool.and_eq_true, decide_eq_true_eq] at h ⊢
  by_cases htab : c = '\t'
  · exact Or.inl htab
  · have hlow : ¬ c.toNat < 32 := by simpa [hfeed, htab] using h.1
    exact Or.inr ⟨Nat.not_lt.1 hlow, h.2⟩

theorem le_longestRun (quote : Char) (run : Nat) (cs : List Char) :
    run ≤ longestRun quote run cs := by
  induction cs generalizing run with
  | nil => exact Nat.le_refl run
  | cons c cs ih =>
    rw [longestRun]
    split_ifs
    · exact Nat.le_of_succ_le (ih (run + 1))
    · exact Nat.le_max_left _ _

/-- What has no run of a quote holds none. -/
theorem ne_of_longestRun {quote : Char} {cs : List Char} {run : Nat}
    (h : longestRun quote run cs = 0) : ∀ c ∈ cs, c ≠ quote := by
  induction cs generalizing run with
  | nil => exact nofun
  | cons c cs ih =>
    have htail := longestRun_tail (Nat.le_of_eq h)
    rw [List.forall_mem_cons]
    refine ⟨?_, ih (Nat.le_zero.1 htail)⟩
    rintro rfl
    have hrun := le_longestRun c (run + 1) cs
    rw [if_pos rfl] at htail
    omega

theorem length_le_escapedFrom (free run : Nat) (cs : List Char) :
    cs.length ≤ (escapedFrom free run cs).length := by
  induction cs generalizing run with
  | nil => exact Nat.le_refl 0
  | cons c cs ih =>
    rw [escapedFrom]
    split_ifs with hquote
    · exact Nat.succ_le_succ (ih _)
    · exact Nat.le_succ_of_le (Nat.succ_le_succ (ih _))
    · obtain ⟨d, q, hspelled, _⟩ := (spells_escaped (0 < free) hquote).head
      have hrest := ih 0
      rw [hspelled, List.cons_append, List.length_cons, List.length_cons, List.length_append]
      omega

theorem readString_one {q : List Char} (h : ∀ t, q ≠ '"' :: '"' :: t) :
    readString ('"' :: q) = (readBasic (q.length + 1) q).map fun (cs, r) => (String.ofList cs, r) := by
  unfold readString
  split
  · next t heq => exact absurd (List.cons.inj heq).2 (h t)
  · next heq => rw [(List.cons.inj heq).2]
  · next heq => exact absurd (List.cons.inj heq).1 (by decide)
  · next heq => exact absurd (List.cons.inj heq).1 (by decide)
  · next hno _ _ => exact absurd rfl (hno q)

theorem readString_one_single {q : List Char} (h : ∀ t, q ≠ '\'' :: '\'' :: t) :
    readString ('\'' :: q) = (readLiteral q).map fun (cs, r) => (String.ofList cs, r) := by
  unfold readString
  split
  · next heq => exact absurd (List.cons.inj heq).1 (by decide)
  · next heq => exact absurd (List.cons.inj heq).1 (by decide)
  · next t heq => exact absurd (List.cons.inj heq).2 (h t)
  · next heq => rw [(List.cons.inj heq).2]
  · next hno => exact absurd rfl (hno q)

/-- Nothing but a closing quote stands behind an opening one, unless it is followed by a third. -/
theorem escapedFrom_not_closing {cs r : List Char} (hr : Unquoted r) (t : List Char) :
    escapedFrom 0 0 cs ++ '"' :: r ≠ '"' :: '"' :: t := by
  cases cs with
  | nil =>
    intro heq
    exact (hr '"' t (List.cons.inj heq).2).1 rfl
  | cons c cs =>
    rw [escapedFrom]
    split_ifs with hquote hfree
    · omega
    · intro heq
      exact absurd (List.cons.inj heq).1 (by decide)
    · obtain ⟨d, q, hspelled, hd⟩ := (spells_escaped (0 < 0) hquote).head
      rw [hspelled]
      exact fun heq => hd (List.cons.inj heq).1

theorem readString_basic (cs : List Char) {r : List Char} (hr : Unquoted r) :
    readString (basic cs ++ r) = some (String.ofList cs, r) := by
  have htext : basic cs ++ r = '"' :: (escapedFrom 0 0 cs ++ '"' :: r) := by
    simp [basic]
  have hlength := length_le_escapedFrom 0 0 cs
  rw [htext, readString_one (escapedFrom_not_closing hr), readBasic_escapedFrom]
  · rfl
  · rw [List.length_append]
    omega

theorem readString_literal {cs : List Char} (h : ∀ c ∈ cs, isCommentChar c = true ∧ c ≠ '\'')
    {r : List Char} (hr : Unquoted r) :
    readString (literal cs ++ r) = some (String.ofList cs, r) := by
  have htext : literal cs ++ r = '\'' :: (cs ++ '\'' :: r) := by
    simp [literal]
  have hopen (t : List Char) : cs ++ '\'' :: r ≠ '\'' :: '\'' :: t := by
    cases cs with
    | nil => exact fun heq => (hr '\'' t (List.cons.inj heq).2).2 rfl
    | cons c cs =>
      exact fun heq => (h c List.mem_cons_self).2 (List.cons.inj heq).1
  rw [htext, readString_one_single hopen, readLiteral_append cs r h]
  rfl

/-- The line feed behind three quotes is dropped, and only this one. -/
theorem dropNewline_opening {cs body r : List Char}
    (h : '\n' ∉ cs → newline? (body ++ r) = none) :
    dropNewline (opening cs ++ body ++ r) = body ++ r := by
  unfold opening
  split_ifs with hfeed
  · rfl
  · rw [List.nil_append, dropNewline, h (by simpa using hfeed)]
    rfl

theorem readString_longBasic (cs : List Char) {r : List Char} (hr : Unquoted r) :
    readString (longBasic cs ++ r) = some (String.ofList cs, r) := by
  have htext : longBasic cs ++ r = '"' :: '"' :: '"' ::
      (opening cs ++ escapedFrom 2 0 cs ++ '"' :: '"' :: '"' :: r) := by
    simp [longBasic]
  have hdrop : dropNewline (opening cs ++ escapedFrom 2 0 cs ++ '"' :: '"' :: '"' :: r) =
      escapedFrom 2 0 cs ++ '"' :: '"' :: '"' :: r := by
    refine dropNewline_opening ?_
    intro hfeed
    cases cs with
    | nil => rfl
    | cons c cs =>
      rw [List.mem_cons, not_or] at hfeed
      rw [escapedFrom]
      split_ifs with hquote hfree
      · rfl
      · omega
      · rw [List.append_assoc]
        exact (spells_escaped _ hquote).newline? (Ne.symm hfeed.1) _
  have hlength := length_le_escapedFrom 2 0 cs
  have hread := readLongBasic_escapedFrom cs (r := r) (fun t heq => (hr '"' t heq).1 rfl)
    (n := (opening cs ++ escapedFrom 2 0 cs ++ '"' :: '"' :: '"' :: r).length + 1)
    (by rw [List.length_append, List.length_append]; omega) (Nat.zero_le 2)
  rw [htext, readString, hdrop, hread]
  rfl

theorem readString_longLiteral {cs : List Char} (hcs : longestRun '\'' 0 cs ≤ 2)
    (hplain : ∀ c ∈ cs, isCommentChar c = true ∨ c = '\n') {r : List Char} (hr : Unquoted r) :
    readString (longLiteral cs ++ r) = some (String.ofList cs, r) := by
  have htext : longLiteral cs ++ r = '\'' :: '\'' :: '\'' ::
      (opening cs ++ cs ++ '\'' :: '\'' :: '\'' :: r) := by
    simp [longLiteral]
  have hdrop : dropNewline (opening cs ++ cs ++ '\'' :: '\'' :: '\'' :: r) =
      cs ++ '\'' :: '\'' :: '\'' :: r := by
    refine dropNewline_opening ?_
    intro hfeed
    cases cs with
    | nil => rfl
    | cons c cs =>
      rw [List.mem_cons, not_or] at hfeed
      exact newline?_of_isCommentChar
        ((hplain c List.mem_cons_self).resolve_right (Ne.symm hfeed.1)) _
  have hread := readLongLiteral_append hcs hplain (r := r) (fun t heq => (hr '\'' t heq).2 rfl)
    (n := (opening cs ++ cs ++ '\'' :: '\'' :: '\'' :: r).length + 1)
    (by rw [List.length_append, List.length_append]; omega)
  rw [htext, readString, hdrop, hread]
  rfl

/-- **A string is read back**, in whatever form it was written. -/
theorem readString_writeString (s : String) {r : List Char} (hr : Unquoted r) :
    readString (writeString s ++ r) = some (s, r) := by
  have hs : String.ofList s.toList = s := String.ofList_toList
  unfold writeString
  simp only
  split_ifs with hbasic hliteral hlong hlongLiteral hfeed
  · rw [readString_basic _ hr, hs]
  · simp only [Bool.and_eq_true, Bool.not_eq_true', decide_eq_true_eq] at hliteral
    obtain ⟨⟨hcontrol, hsingles⟩, hfeed⟩ := hliteral
    have hplain : ∀ c ∈ s.toList, isCommentChar c = true ∧ c ≠ '\'' := by
      intro c hc
      have hcontrol := List.any_eq_false.1 hcontrol c hc
      refine ⟨isCommentChar_of_not_isControl (by simpa using hcontrol) ?_,
        ne_of_longestRun hsingles c hc⟩
      rintro rfl
      rw [List.contains_iff_mem.2 hc] at hfeed
      cases hfeed
    rw [readString_literal hplain hr, hs]
  · rw [readString_longBasic _ hr, hs]
  · simp only [Bool.and_eq_true, Bool.not_eq_true', decide_eq_true_eq] at hlongLiteral
    obtain ⟨hcontrol, hsingles⟩ := hlongLiteral
    have hplain : ∀ c ∈ s.toList, isCommentChar c = true ∨ c = '\n' := by
      intro c hc
      have hcontrol := List.any_eq_false.1 hcontrol c hc
      by_cases hfeed : c = '\n'
      · exact Or.inr hfeed
      · exact Or.inl (isCommentChar_of_not_isControl (by simpa using hcontrol) hfeed)
    rw [readString_longLiteral hsingles hplain hr, hs]
  · rw [readString_longBasic _ hr, hs]
  · rw [readString_basic _ hr, hs]

/-- What is written for a string begins with a quote. -/
theorem writeString_cons (s : String) :
    ∃ c q, writeString s = c :: q ∧ (c = '"' ∨ c = '\'') := by
  unfold writeString
  simp only
  split_ifs
  · exact ⟨'"', _, rfl, Or.inl rfl⟩
  · exact ⟨'\'', _, rfl, Or.inr rfl⟩
  · exact ⟨'"', _, rfl, Or.inl rfl⟩
  · exact ⟨'\'', _, rfl, Or.inr rfl⟩
  · exact ⟨'"', _, rfl, Or.inl rfl⟩
  · exact ⟨'"', _, rfl, Or.inl rfl⟩

theorem readValue_writeString (depth : Nat) (s : String) {r : List Char} (hr : Unquoted r) :
    readValue depth (writeString s ++ r) = some (.string s, r) := by
  have hread := readString_writeString s hr
  obtain ⟨c, q, hs, hc⟩ := writeString_cons s
  rw [hs, List.cons_append] at hread ⊢
  rcases hc with rfl | rfl
  · unfold readValue
    simp [hread]
  · unfold readValue
    simp [hread]

/-! ### Lists of strings -/

theorem skipSpace_cons {c : Char} (h : isSpace c = false) (t : List Char) :
    skipSpace (c :: t) = c :: t := by
  simp [skipSpace, h]

/-- Blanks and line ends that are followed by a word. -/
theorem skipGaps_cons {c : Char} (hspace : isSpace c = false) (hmark : c ≠ '#')
    (hfeed : c ≠ '\n' ∧ c ≠ '\r') (n : Nat) (t : List Char) :
    skipGaps n (c :: t) = some (c :: t) := by
  cases n with
  | zero => rfl
  | succ n =>
    rw [skipGaps, skipSpace_cons hspace]
    split
    · next heq => exact absurd (List.cons.inj heq).1 hmark
    · next heq => exact absurd (List.cons.inj heq).1 hfeed.1
    · next heq => exact absurd (List.cons.inj heq).1 hfeed.2
    · rfl

/-- A line end, four blanks and a word. -/
theorem skipGaps_indented {c : Char} (hspace : isSpace c = false) (hmark : c ≠ '#')
    (hfeed : c ≠ '\n' ∧ c ≠ '\r') (n : Nat) (t : List Char) :
    skipGaps (n + 2) ('\n' :: ' ' :: ' ' :: ' ' :: ' ' :: c :: t) = some (c :: t) := by
  have hskip : skipSpace (' ' :: ' ' :: ' ' :: ' ' :: c :: t) = c :: t :=
    skipSpace_cons hspace t
  have hline : skipGaps (n + 2) ('\n' :: ' ' :: ' ' :: ' ' :: ' ' :: c :: t) =
      skipGaps (n + 1) (' ' :: ' ' :: ' ' :: ' ' :: c :: t) := rfl
  have hblanks : skipGaps (n + 1) (' ' :: ' ' :: ' ' :: ' ' :: c :: t) =
      skipGaps (n + 1) (c :: t) := by
    rw [skipGaps, skipGaps, hskip, skipSpace_cons hspace]
  rw [hline, hblanks, skipGaps_cons hspace hmark hfeed]

/-- What is written for a string, as a word. -/
theorem writeString_word (s : String) :
    ∃ c q, writeString s = c :: q ∧ isSpace c = false ∧ c ≠ '#' ∧ (c ≠ '\n' ∧ c ≠ '\r') ∧
      c ≠ ']' := by
  obtain ⟨c, q, hs, rfl | rfl⟩ := writeString_cons s
  · exact ⟨_, q, hs, by decide⟩
  · exact ⟨_, q, hs, by decide⟩

/-- An item that is a string, and a comma behind it. -/
theorem readItems_comma {depth n : Nat} {s : String} {t r : List Char} {vs : List Value}
    (hgaps : skipGaps t.length t = some (writeString s ++ ',' :: r)) {u : List Char}
    (hrest : readItems (readValue depth) n r = some (vs, u)) :
    readItems (readValue depth) (n + 1) t = some (.string s :: vs, u) := by
  have hread := readValue_writeString depth s (unquoted_cons (c := ',') (by decide) r)
  obtain ⟨c, q, hs, _, _, _, hclose⟩ := writeString_word s
  have hcomma : skipGaps (',' :: r).length (',' :: r) = some (',' :: r) :=
    skipGaps_cons (by decide) (by decide) (by decide) _ r
  rw [hs, List.cons_append] at hgaps hread
  rw [readItems, hgaps]
  simp only [Option.bind_eq_bind, Option.bind_some]
  split
  · next heq => exact absurd (List.cons.inj heq).1 hclose
  · simp only [hread, hcomma, hrest, Option.bind_some]
    rfl

theorem readItems_bracket {depth n : Nat} {s : String} {t r : List Char}
    (hgaps : skipGaps t.length t = some (writeString s ++ ']' :: r)) :
    readItems (readValue depth) (n + 1) t = some ([.string s], r) := by
  have hread := readValue_writeString depth s (unquoted_cons (c := ']') (by decide) r)
  obtain ⟨c, q, hs, _, _, _, hclose⟩ := writeString_word s
  have hbracket : skipGaps (']' :: r).length (']' :: r) = some (']' :: r) :=
    skipGaps_cons (by decide) (by decide) (by decide) _ r
  rw [hs, List.cons_append] at hgaps hread
  rw [readItems, hgaps]
  simp only [Option.bind_eq_bind, Option.bind_some]
  split
  · next heq => exact absurd (List.cons.inj heq).1 hclose
  · simp only [hread, hbracket, Option.bind_some]
    rfl

/-- The lines of a list are read item by item. -/
theorem readItems_lines (depth : Nat) (items : List String) (r : List Char) {n : Nat}
    (hn : items.length < n) :
    readItems (readValue depth) n ('\n' ::
        (items.flatMap (fun s => ' ' :: ' ' :: ' ' :: ' ' :: writeString s ++ [',', '\n']) ++
          ']' :: r)) = some (items.map .string, r) := by
  induction items generalizing n with
  | nil =>
    obtain ⟨n, rfl⟩ := Nat.exists_eq_add_of_lt hn
    have hbracket : skipGaps (r.length + 1) (']' :: r) = some (']' :: r) :=
      skipGaps_cons (by decide) (by decide) (by decide) (r.length + 1) r
    have hgaps : skipGaps (r.length + 1 + 1) ('\n' :: ']' :: r) = some (']' :: r) := hbracket
    rw [List.flatMap_nil, List.nil_append, readItems, List.length_cons, List.length_cons, hgaps]
    rfl
  | cons s items ih =>
    obtain ⟨n, rfl⟩ : ∃ m, n = m + 1 := ⟨n - 1, by omega⟩
    obtain ⟨c, q, hs, hspace, hmark, hfeed, _⟩ := writeString_word s
    refine readItems_comma ?_ (ih (Nat.lt_of_succ_lt_succ hn))
    simp only [List.flatMap_cons, hs, List.cons_append, List.append_assoc, List.length_cons,
      List.nil_append]
    exact skipGaps_indented hspace hmark hfeed _ _

/-- There are no more items than characters in their lines. -/
theorem length_le_length_lines (items : List String) :
    items.length ≤ (items.flatMap fun s =>
      ' ' :: ' ' :: ' ' :: ' ' :: writeString s ++ [',', '\n']).length := by
  induction items with
  | nil => exact Nat.le_refl 0
  | cons s items ih =>
    rw [List.flatMap_cons, List.length_append, List.length_cons, List.cons_append,
      List.length_cons]
    omega

/-- **A list of strings is read back**, on one line or on several. -/
theorem readValue_writeArray (depth : Nat) (items : List String) (r : List Char) :
    readValue (depth + 1) (writeArray items ++ r) = some (.array (items.map .string), r) := by
  have hopen (s : List Char) : readValue (depth + 1) ('[' :: s) =
      (readItems (readValue depth) (s.length + 1) s).map fun p => (.array p.1, p.2) := by
    rw [readValue]
  cases items with
  | nil =>
    have hgaps : skipGaps (']' :: r).length (']' :: r) = some (']' :: r) :=
      skipGaps_cons (by decide) (by decide) (by decide) _ r
    rw [writeArray, List.cons_append, List.cons_append, List.nil_append, hopen, readItems, hgaps]
    rfl
  | cons s items =>
    cases items with
    | nil =>
      obtain ⟨c, q, hs, hspace, hmark, hfeed, _⟩ := writeString_word s
      have hgaps : skipGaps (writeString s ++ ']' :: r).length (writeString s ++ ']' :: r) =
          some (writeString s ++ ']' :: r) := by
        rw [hs]
        exact skipGaps_cons hspace hmark hfeed _ _
      have htext : writeArray [s] ++ r = '[' :: (writeString s ++ ']' :: r) := by
        simp [writeArray]
      rw [htext, hopen, readItems_bracket hgaps]
      rfl
    | cons s' items =>
      have htext : writeArray (s :: s' :: items) ++ r = '[' :: '\n' ::
          ((s :: s' :: items).flatMap (fun s =>
            ' ' :: ' ' :: ' ' :: ' ' :: writeString s ++ [',', '\n']) ++ ']' :: r) := by
        rw [writeArray, List.append_assoc]
        · rfl
        all_goals simp
      have hitems := length_le_length_lines (s :: s' :: items)
      rw [htext, hopen, readItems_lines]
      · rfl
      · simp only [List.length_cons, List.length_append] at hitems ⊢
        omega

/-! ### Keys -/

/-- The characters that a key begins with. -/
theorem writeKey_cons (name : String) :
    ∃ c q, writeKey name = c :: q ∧ (isBareChar c = true ∨ c = '"' ∨ c = '\'') := by
  unfold writeKey
  simp only
  split_ifs with hbare
  · simp only [Bool.and_eq_true, List.all_eq_true] at hbare
    cases hcs : name.toList with
    | nil =>
      rw [hcs] at hbare
      cases hbare.1
    | cons c cs =>
      rw [hcs] at hbare
      exact ⟨c, cs, rfl, Or.inl (hbare.2 c List.mem_cons_self)⟩
  · exact ⟨'"', _, rfl, Or.inr (Or.inl rfl)⟩
  · exact ⟨'\'', _, rfl, Or.inr (Or.inr rfl)⟩
  · exact ⟨'"', _, rfl, Or.inr (Or.inl rfl)⟩

/-- A key begins no blank, no comment, no header and no line end. -/
theorem writeKey_word (name : String) :
    ∃ c q, writeKey name = c :: q ∧ isSpace c = false ∧ c ≠ '#' ∧ (c ≠ '\n' ∧ c ≠ '\r') ∧
      c ≠ '[' := by
  obtain ⟨c, q, hname, hc⟩ := writeKey_cons name
  refine ⟨c, q, hname, ?_⟩
  have hno (d : Char) (hbare : isBareChar d = false) (hquotes : d ≠ '"' ∧ d ≠ '\'') : c ≠ d := by
    rintro rfl
    rcases hc with hc | hc | hc
    · rw [hbare] at hc
      cases hc
    · exact hquotes.1 hc
    · exact hquotes.2 hc
  have hspace : isSpace c = false := by
    simp only [isSpace, Bool.or_eq_false_iff, decide_eq_false_iff_not]
    exact ⟨hno ' ' (by decide) (by decide), hno '\t' (by decide) (by decide)⟩
  exact ⟨hspace, hno '#' (by decide) (by decide),
    ⟨hno '\n' (by decide) (by decide), hno '\r' (by decide) (by decide)⟩,
    hno '[' (by decide) (by decide)⟩

theorem readSimpleKey_basic (cs r : List Char) :
    readSimpleKey (basic cs ++ r) = some (String.ofList cs, r) := by
  have htext : basic cs ++ r = '"' :: (escapedFrom 0 0 cs ++ '"' :: r) := by
    simp [basic]
  have hlength := length_le_escapedFrom 0 0 cs
  rw [htext, readSimpleKey, readBasic_escapedFrom]
  · rfl
  · rw [List.length_append]
    omega

theorem readSimpleKey_literal {cs : List Char} (h : ∀ c ∈ cs, isCommentChar c = true ∧ c ≠ '\'')
    (r : List Char) : readSimpleKey (literal cs ++ r) = some (String.ofList cs, r) := by
  have htext : literal cs ++ r = '\'' :: (cs ++ '\'' :: r) := by
    simp [literal]
  rw [htext, readSimpleKey, readLiteral_append cs r h]
  rfl

theorem readSimpleKey_bare {cs : List Char} (hsome : cs ≠ [])
    (h : ∀ c ∈ cs, isBareChar c = true) {d : Char} (hd : isBareChar d = false) (r : List Char) :
    readSimpleKey (cs ++ d :: r) = some (String.ofList cs, d :: r) := by
  have htake : (cs ++ d :: r).takeWhile isBareChar = cs := by
    rw [List.takeWhile_append_of_pos h, List.takeWhile_cons_of_neg (by simp [hd]), List.append_nil]
  have hdrop : (cs ++ d :: r).dropWhile isBareChar = d :: r := by
    rw [List.dropWhile_append_of_pos h, List.dropWhile_cons_of_neg (by simp [hd])]
  obtain ⟨c, rest, rfl⟩ := List.exists_cons_of_ne_nil hsome
  have hc := h c List.mem_cons_self
  unfold readSimpleKey
  split
  · next heq =>
    rw [(List.cons.inj heq).1] at hc
    exact absurd hc (by decide)
  · next heq =>
    rw [(List.cons.inj heq).1] at hc
    exact absurd hc (by decide)
  · simp only [htake, hdrop]
    rfl

/-- **A part of a key is read back.** -/
theorem readSimpleKey_writeKey (name : String) (r : List Char) :
    readSimpleKey (writeKey name ++ ' ' :: r) = some (name, ' ' :: r) := by
  have hname : String.ofList name.toList = name := String.ofList_toList
  unfold writeKey
  simp only
  split_ifs with hbare hbasic hliteral
  · simp only [Bool.and_eq_true, Bool.not_eq_true', List.isEmpty_eq_false_iff,
      List.all_eq_true] at hbare
    rw [readSimpleKey_bare hbare.1 hbare.2 (by decide), hname]
  · rw [readSimpleKey_basic, hname]
  · simp only [Bool.and_eq_true, Bool.not_eq_true'] at hliteral
    have hplain : ∀ c ∈ name.toList, isCommentChar c = true ∧ c ≠ '\'' := by
      intro c hc
      have hcontrol := List.any_eq_false.1 hliteral.1 c hc
      rw [Bool.or_eq_true, not_or, Bool.not_eq_true, decide_eq_true_eq] at hcontrol
      refine ⟨isCommentChar_of_not_isControl hcontrol.1 hcontrol.2, ?_⟩
      rintro rfl
      rw [List.contains_iff_mem.2 hc] at hliteral
      cases hliteral.2
    rw [readSimpleKey_literal hplain, hname]
  · rw [readSimpleKey_basic, hname]

/-- **A key is read back.** -/
theorem readKey_writeKey (name : String) (r : List Char) :
    readKey (writeKey name ++ ' ' :: '=' :: r) = some ([name], '=' :: r) := by
  have hread := readSimpleKey_writeKey name ('=' :: r)
  obtain ⟨c, q, hname, hspace, _⟩ := writeKey_word name
  rw [hname, List.cons_append] at hread ⊢
  rw [readKey, keyLimit, readKeyUpTo, skipSpace_cons hspace, hread]
  rfl

/-! ### Numbers -/

/-- The digits of a number end before a line end. -/
theorem takeDigits_append {ds : List Char} (h : ∀ c ∈ ds, c.isDigit = true) (after : Bool)
    (t : List Char) : takeDigits Char.isDigit after (ds ++ '\n' :: t) = (ds, '\n' :: t) := by
  induction ds generalizing after with
  | nil => rfl
  | cons c ds ih =>
    rw [List.forall_mem_cons] at h
    rw [List.cons_append, takeDigits, if_pos h.1, ih h.2]

theorem dropWhile_digits {ds : List Char} (h : ∀ c ∈ ds, c.isDigit = true) (t : List Char) :
    (ds ++ '\n' :: t).dropWhile Char.isDigit = '\n' :: t := by
  rw [List.dropWhile_append_of_pos h, List.dropWhile_cons_of_neg (by decide)]

/-- Digits in front of a line end begin no date. -/
theorem startsDate_digits {ds : List Char} (h : ∀ c ∈ ds, c.isDigit = true) (t : List Char) :
    startsDate (ds ++ '\n' :: t) = false := by
  have hdrop := dropWhile_digits h t
  unfold startsDate
  split
  · next a b c d r heq =>
    by_contra hdigits
    simp only [Bool.not_eq_false, Bool.and_eq_true] at hdigits
    obtain ⟨⟨⟨ha, hb⟩, hc⟩, hd⟩ := hdigits
    rw [heq, List.dropWhile_cons_of_pos ha, List.dropWhile_cons_of_pos hb,
      List.dropWhile_cons_of_pos hc, List.dropWhile_cons_of_pos hd,
      List.dropWhile_cons_of_neg (by decide)] at hdrop
    exact absurd (List.cons.inj hdrop).1 (by decide)
  · rfl

/-- Digits in front of a line end begin no time. -/
theorem startsTime_digits {ds : List Char} (h : ∀ c ∈ ds, c.isDigit = true) (t : List Char) :
    startsTime (ds ++ '\n' :: t) = false := by
  have hdrop := dropWhile_digits h t
  unfold startsTime
  split
  · next a b r heq =>
    by_contra hdigits
    simp only [Bool.not_eq_false, Bool.and_eq_true] at hdigits
    rw [heq, List.dropWhile_cons_of_pos hdigits.1, List.dropWhile_cons_of_pos hdigits.2,
      List.dropWhile_cons_of_neg (by decide)] at hdrop
    exact absurd (List.cons.inj hdrop).1 (by decide)
  · rfl

theorem readWhole_digits {n : Nat} (hn : n < 0x10000000000000000) (t : List Char) :
    readWhole (writeNat n ++ '\n' :: t) = some (writeNat n, '\n' :: t) := by
  rcases Nat.eq_zero_or_pos n with rfl | hpos
  · rfl
  · obtain ⟨c, ds, _, hdigits, _, hzero, _⟩ := Json.toDigits_cons hpos hn
    have hall : ∀ d ∈ c :: ds, d.isDigit = true :=
      hdigits ▸ fun d hd => Nat.isDigit_of_mem_toDigits (by decide) (by decide) hd
    have htake := takeDigits_append hall false t
    rw [writeNat, Decimal.digitsOf, hdigits]
    unfold readWhole
    split
    · next heq => exact absurd (List.cons.inj heq).1 hzero
    · rw [htake]

theorem isDigit_of_mem_writeNat {n : Nat} : ∀ c ∈ writeNat n, c.isDigit = true :=
  fun _ hc => Nat.isDigit_of_mem_toDigits (by decide) (by decide) hc

theorem decimalOf_writeNat (n : Nat) : decimalOf (writeNat n) = n :=
  Nat.ofDigitChars_toDigits (by decide) (by decide)

/-- A number begins with a digit. -/
theorem writeNat_cons (n : Nat) : ∃ c ds, writeNat n = c :: ds ∧ c.isDigit = true := by
  obtain ⟨c, ds, hdigits⟩ := List.exists_cons_of_ne_nil (Nat.toDigits_ne_nil (n := n) (b := 10))
  have hc : c ∈ writeNat n := by
    rw [writeNat, Decimal.digitsOf, hdigits]
    exact List.mem_cons_self
  exact ⟨c, ds, hdigits, isDigit_of_mem_writeNat c hc⟩

theorem ne_of_isDigit {c d : Char} (hc : c.isDigit = true) (hd : d.isDigit = false) : c ≠ d := by
  rintro rfl
  rw [hd] at hc
  cases hc

theorem takeSign_digit {c : Char} (hc : c.isDigit = true) (t : List Char) :
    takeSign (c :: t) = (false, c :: t) := by
  unfold takeSign
  split
  · next heq => exact absurd (List.cons.inj heq).1 (ne_of_isDigit hc (by decide))
  · next heq => exact absurd (List.cons.inj heq).1 (ne_of_isDigit hc (by decide))
  · rfl

theorem readFloatTail_line (whole t : List Char) :
    readFloatTail false whole ('\n' :: t) =
      (integer? (decimalOf whole)).map fun v => (v, '\n' :: t) := by
  unfold readFloatTail
  simp only [Bool.false_eq_true, if_false]
  cases integer? (decimalOf whole) <;> rfl

theorem readDecimal_digit {c : Char} (hc : c.isDigit = true) {s whole r : List Char}
    (hwhole : readWhole (c :: s) = some (whole, r)) :
    readDecimal (c :: s) = readFloatTail false whole r := by
  unfold readDecimal
  rw [takeSign_digit hc]
  simp only
  split
  · next heq => exact absurd (List.cons.inj heq).1 (ne_of_isDigit hc (by decide))
  · next heq => exact absurd (List.cons.inj heq).1 (ne_of_isDigit hc (by decide))
  · rw [hwhole]
    simp only [Option.bind_eq_bind, Option.bind_some]

theorem readDecimal_writeNat {n : Nat} (hn : n < 0x10000000000000000) (t : List Char) :
    readDecimal (writeNat n ++ '\n' :: t) = (integer? n).map fun v => (v, '\n' :: t) := by
  have hwhole := readWhole_digits hn t
  obtain ⟨c, ds, hdigits, hc⟩ := writeNat_cons n
  have hread : readDecimal (writeNat n ++ '\n' :: t) =
      readFloatTail false (writeNat n) ('\n' :: t) := by
    rw [hdigits, List.cons_append] at hwhole ⊢
    exact readDecimal_digit hc hwhole
  rw [hread, readFloatTail_line, decimalOf_writeNat]

theorem readNumber_writeNat {n : Nat} (hn : n < 0x10000000000000000) (t : List Char) :
    readNumber (writeNat n ++ '\n' :: t) = (integer? n).map fun v => (v, '\n' :: t) := by
  have hdigits := isDigit_of_mem_writeNat (n := n)
  have hdrop := dropWhile_digits hdigits t
  have hplain := readDecimal_writeNat hn t
  have hdate := startsDate_digits hdigits t
  have htime := startsTime_digits hdigits t
  -- A letter behind a zero would end the digits in front of the line end.
  have hletter {d : Char} {r : List Char} (hd : d.isDigit = false) (hd' : d ≠ '\n') :
      writeNat n ++ '\n' :: t ≠ '0' :: d :: r := by
    intro heq
    rw [heq, List.dropWhile_cons_of_pos (by decide), List.dropWhile_cons_of_neg (by simp [hd])]
      at hdrop
    exact hd' (List.cons.inj hdrop).1
  unfold readNumber
  split
  · next heq => exact absurd heq (hletter (by decide) (by decide))
  · next heq => exact absurd heq (hletter (by decide) (by decide))
  · next heq => exact absurd heq (hletter (by decide) (by decide))
  · rw [hdate, htime]
    exact hplain

/-- **A number is read back** when it is in range; else its line is malformed. -/
theorem readValue_writeNat (depth : Nat) {n : Nat} (hn : n < 0x10000000000000000) (t : List Char) :
    readValue depth (writeNat n ++ '\n' :: t) = (integer? n).map fun v => (v, '\n' :: t) := by
  have hread := readNumber_writeNat hn t
  obtain ⟨c, ds, hdigits, hc⟩ := writeNat_cons n
  rw [hdigits, List.cons_append] at hread ⊢
  have hquote : c ≠ '"' ∧ c ≠ '\'' :=
    ⟨ne_of_isDigit hc (by decide), ne_of_isDigit hc (by decide)⟩
  unfold readValue
  split
  · next heq => cases heq
  · next heq => exact absurd (List.cons.inj heq).1 (ne_of_isDigit hc (by decide))
  · next heq => exact absurd (List.cons.inj heq).1 (ne_of_isDigit hc (by decide))
  · next heq => exact absurd (List.cons.inj heq).1 (ne_of_isDigit hc (by decide))
  · next heq => exact absurd (List.cons.inj heq).1 (ne_of_isDigit hc (by decide))
  · next heq =>
    cases heq
    simp only [hquote.1, hquote.2, decide_false, Bool.or_self, Bool.false_eq_true, if_false]
    exact hread

end CompileIndex.Toml

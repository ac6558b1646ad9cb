import CompileIndex.Proofs.JsonShapes
import CompileIndex.Text.Utf8

/-!
# Where replaced bytes may stand

Bytes that are no UTF-8 are read as U+FFFD.  That character may stand in the strings of a JSON
text, as it is, and nowhere else: not between the parts of a text, and not in the escapes of a
string.  A text with one in another place is read by nobody.

* `Spot` — where in a text a character stands;
* `stray`, `exposed` — that some U+FFFD, or some malformed piece, stands where none may;
* `Passes` — that what was read has none;
* `passes_of_skipAny`, `passes_of_readValue`, `passes_of_record` — the readers.
-/

namespace CompileIndex.Json

open Text.Utf8 (replacement)

/-- Where in a JSON text a character stands. -/
inductive Spot where
  | outside
  /-- In a string, as it is. -/
  | inside
  /-- Behind the backslash of an escape. -/
  | escaped
  /-- In the number of an escape, of which so many digits follow. -/
  | hex (more : Nat)
  deriving DecidableEq

/-- Where the character behind `c` stands. -/
def Spot.next : Spot → Char → Spot
  | outside, c => if c = '"' then inside else outside
  | inside, c => if c = '"' then outside else if c = '\\' then escaped else inside
  | escaped, c => if c = 'u' then hex 3 else inside
  | hex 0, _ => inside
  | hex (n + 1), _ => hex n

/-- Whether some U+FFFD stands elsewhere than in a string as it is. -/
def stray : Spot → List Char → Bool
  | _, [] => false
  | spot, c :: rest => (c = replacement && spot ≠ .inside) || stray (spot.next c) rest

/-- Whether some malformed piece stands elsewhere than in a string as it is. -/
def exposed : Spot → List (Option Char) → Bool
  | _, [] => false
  | spot, piece :: rest =>
    (piece.isNone && spot ≠ .inside) || exposed (spot.next (piece.getD replacement)) rest

/-- What is exposed is read as a stray U+FFFD. -/
theorem stray_of_exposed {spot : Spot} {pieces : List (Option Char)}
    (h : exposed spot pieces = true) : stray spot (pieces.map (·.getD replacement)) = true := by
  induction pieces generalizing spot with
  | nil => cases h
  | cons piece rest ih =>
    rw [exposed, Bool.or_eq_true] at h
    rw [List.map_cons, stray, Bool.or_eq_true]
    rcases h with h | h
    · left
      rw [Bool.and_eq_true, Option.isNone_iff_eq_none] at h
      obtain ⟨rfl, hspot⟩ := h
      rw [Bool.and_eq_true]
      exact ⟨decide_eq_true rfl, hspot⟩
    · exact Or.inr (ih h)

theorem stray_cons {c : Char} (h : c ≠ replacement) (spot : Spot) (r : List Char) :
    stray spot (c :: r) = stray (spot.next c) r := by
  rw [stray, decide_eq_false h, Bool.false_and, Bool.false_or]

/-- That what stands between `s` and `r` is read with no stray U+FFFD in it, and as a whole. -/
def Passes (s r : List Char) : Prop :=
  stray .outside s = stray .outside r

theorem Passes.trans {s t r : List Char} (h : Passes s t) (h' : Passes t r) : Passes s r :=
  Eq.trans h h'

/-! ### Characters between the parts of a text -/

theorem passes_cons {c : Char} (hquote : c ≠ '"') (hchar : c ≠ replacement) (r : List Char) :
    Passes (c :: r) r := by
  simp [Passes, stray, Spot.next, hquote, hchar]

theorem passes_append {p : List Char} (h : ∀ c ∈ p, c ≠ '"' ∧ c ≠ replacement) (r : List Char) :
    Passes (p ++ r) r := by
  induction p with
  | nil => rfl
  | cons c p ih =>
    rw [List.forall_mem_cons] at h
    exact (passes_cons h.1.1 h.1.2 (p ++ r)).trans (ih h.2)

theorem passes_skipBlanks (s : List Char) : Passes s (skipBlanks s) := by
  have happend := List.takeWhile_append_dropWhile (p := isSpace) (l := s)
  have hpasses : Passes (s.takeWhile isSpace ++ skipBlanks s) (skipBlanks s) := by
    apply passes_append
    intro c hc
    have hspace : isSpace c = true := List.all_eq_true.1 List.all_takeWhile c hc
    constructor
    · rintro rfl
      exact absurd hspace (by decide)
    · rintro rfl
      exact absurd hspace (by decide)
  rwa [skipBlanks, happend] at hpasses

/-- Blanks and one character behind them. -/
theorem passes_of_skipBlanks {s r : List Char} {c : Char} (hs : skipBlanks s = c :: r)
    (hquote : c ≠ '"') (hchar : c ≠ replacement) : Passes s r :=
  (passes_skipBlanks s).trans (hs ▸ passes_cons hquote hchar r)

/-- A word that is read off behind its first character. -/
theorem passes_of_readWord {c : Char} {word s r : List Char} (h : readWord word s = .ok r)
    (hquote : '"' ∉ c :: word) (hchar : replacement ∉ c :: word) : Passes (c :: s) r := by
  rw [readWord_eq_ok h, ← List.cons_append]
  apply passes_append
  intro d hd
  constructor
  · rintro rfl
    exact hquote hd
  · rintro rfl
    exact hchar hd

theorem passes_of_skipNumber {s r : List Char} (h : skipNumber s = .ok r) : Passes s r := by
  obtain ⟨p, rfl, _, hp⟩ := numberThen_of_skipNumber h
  apply passes_append
  intro c hc
  have hin := hp c hc
  constructor
  · rintro rfl
    exact absurd hin (by decide)
  · rintro rfl
    exact absurd hin (by decide)

/-! ### Strings -/

/-- No hexadecimal digit is U+FFFD. -/
theorem ne_replacement_of_hexQuad? {a b c d : Char} {n : Nat} (h : hexQuad? a b c d = some n) :
    a ≠ replacement ∧ b ≠ replacement ∧ c ≠ replacement ∧ d ≠ replacement := by
  have hnone : Text.hexValue? replacement = none := by decide
  refine ⟨?_, ?_, ?_, ?_⟩ <;> rintro rfl <;> simp [hexQuad?, hnone] at h

theorem ne_replacement_of_escapeOf? {c d : Char} (h : escapeOf? c = some d) :
    c ≠ replacement := by
  have hnone : escapeOf? replacement = none := by decide
  rintro rfl
  simp [hnone] at h

/-- A string that is skipped leads out of the string. -/
theorem stray_of_skipString {s r : List Char} (h : skipString s = .ok r) :
    stray .inside s = stray .outside r := by
  fun_induction skipString s generalizing r
  all_goals try cases h; done
  case case2 =>
    cases h
    simp [stray, Spot.next]
  case case5 x₁ x₂ x₃ x₄ s n hn _ ih =>
    obtain ⟨h₁, h₂, h₃, h₄⟩ := ne_replacement_of_hexQuad? hn
    rw [stray_cons (by decide), stray_cons (by decide), stray_cons h₁, stray_cons h₂,
      stray_cons h₃, stray_cons h₄]
    exact ih h
  case case7 e s hu d hd _ ih =>
    have hnext : Spot.next (Spot.next .inside '\\') e = .inside := if_neg hu
    rw [stray_cons (by decide), stray_cons (ne_replacement_of_escapeOf? hd), hnext, ih h]
  case case10 c s hquote hslash _ ih =>
    have hskip : stray .inside (c :: s) = stray .inside s := by
      simp [stray, Spot.next, hquote, hslash]
    rw [hskip, ih h]

/-- A string that is skipped, with the quote in front of it. -/
theorem passes_of_skipString {s r : List Char} (h : skipString s = .ok r) :
    Passes ('"' :: s) r := by
  have hquote : stray .outside ('"' :: s) = stray .inside s := by
    simp [stray, Spot.next, replacement]
  exact hquote.trans (stray_of_skipString h)

/-! ### Values that are skipped -/

/-- No part that is skipped has a stray U+FFFD in it. -/
theorem movesOn_passes : MovesOn Passes where
  trans := Passes.trans
  blanks := passes_skipBlanks
  sign hc r := by
    refine passes_cons ?_ ?_ r
    · rintro rfl
      exact absurd hc (by decide)
    · rintro rfl
      exact absurd hc (by decide)
  word hc h := by
    simp only [List.mem_cons, Prod.mk.injEq, List.not_mem_nil, or_false] at hc
    rcases hc with ⟨rfl, rfl⟩ | ⟨rfl, rfl⟩ | ⟨rfl, rfl⟩
    · exact passes_of_readWord h (by decide) (by decide)
    · exact passes_of_readWord h (by decide) (by decide)
    · exact passes_of_readWord h (by decide) (by decide)
  number := passes_of_skipNumber
  string := passes_of_skipString

theorem passes_of_readColon {s r : List Char} (h : readColon s = .ok r) : Passes s r :=
  movesOn_passes.readColon h

theorem passes_of_skipAny {s r : List Char} (h : skipAny s = .ok r) : Passes s r :=
  movesOn_passes.skipAny h

/-! ### Values that are read -/

/-- A value that is read is one that might be skipped. -/
theorem passes_of_readValue {depth : Nat} {s r : List Char} {v : Json}
    (h : readValue depth s = .ok (v, r)) : Passes s r :=
  passes_of_skipAny (skipAny_of_readValue h)

theorem passes_of_text {depth : Nat} {s r : List Char} {m : String}
    (h : Decoder.text depth s = .ok (m, r)) : Passes s r :=
  passes_of_readValue (text_eq_ok.1 h)

theorem passes_of_closeArray {s r : List Char} (h : closeArray s = .ok r) : Passes s r := by
  unfold closeArray at h
  split at h
  · cases h
  · next c t hs =>
    split_ifs at h with hclose
    · cases h
      exact passes_of_skipBlanks hs (by rw [hclose]; decide) (by rw [hclose]; decide)
    · split at h
      · cases h
      · split at h <;> cases h

/-- Where the next member starts. -/
theorem passes_of_opens {first : Bool} {s q : List Char} (h : Opens first s q) : Passes s q := by
  cases h with
  | first hs => exact hs ▸ passes_skipBlanks s
  | @next _ t _ hs ht =>
    exact (passes_of_skipBlanks hs (by decide) (by decide)).trans (ht ▸ passes_skipBlanks t)

/-- Members that are read with no stray U+FFFD in any. -/
theorem passes_of_membersText {σ : Type}
    {member : σ → String → List Char → Except Fault (σ × List Char)}
    (hmember : ∀ {g name s g₁ t}, member g name s = .ok (g₁, t) → Passes s t)
    {first : Bool} {g g' : σ} {s r : List Char} {names : List String}
    (h : MembersText member first g s names g' r) : Passes s r := by
  induction h with
  | close hclose => exact hclose ▸ passes_skipBlanks _
  | member hopens hname hread _ ih =>
    exact (passes_of_opens hopens).trans
      ((passes_of_skipString (skipString_of_readString hname)).trans ((hmember hread).trans ih))

/-! ### Records -/

namespace Fields

variable {α δ τ : Type}

/-- That no field is read with a stray U+FFFD in it. -/
def Pass : {δ τ : Type} → Fields δ τ → Prop
  | _, _, nil => True
  | _, _, cons field rest =>
    (∀ depth s x r, field.read depth s = .ok (x, r) → Passes s r) ∧ rest.Pass

theorem passes_of_readMember {fields : Fields δ τ} (hfields : fields.Pass) {depth : Nat}
    {read read' : δ} {name : String} {s r : List Char}
    (h : fields.readMember depth read name s = .ok (read', r)) : Passes s r := by
  induction fields with
  | nil =>
    obtain ⟨t, hcolon, hskip⟩ := readMember_nil.1 h
    exact (passes_of_readColon hcolon).trans (passes_of_skipAny hskip)
  | cons field rest ih =>
    by_cases hname : name = field.name
    · obtain ⟨_, t, x, hcolon, hread, _⟩ := (readMember_same hname).1 h
      exact (passes_of_readColon hcolon).trans (hfields.1 _ _ _ _ hread)
    · obtain ⟨more, hrest, _⟩ := (readMember_other hname).1 h
      exact ih hfields.2 hrest

theorem passes_of_readItems {fields : Fields δ τ} (hfields : fields.Pass) {depth n : Nat}
    {s r : List Char} {value : τ} (h : fields.readItems depth n s = .done value r) :
    Passes s r := by
  induction fields generalizing n s with
  | nil =>
    cases h
    rfl
  | cons field rest ih =>
    obtain ⟨u, hrest, ⟨_, t, hs, rfl⟩ | ⟨q, hopens, hread⟩⟩ := readItems_cons h
    · exact (hs ▸ passes_skipBlanks s).trans (ih hfields.2 hrest)
    · exact (passes_of_opens hopens).trans ((hfields.1 _ _ _ _ hread).trans (ih hfields.2 hrest))

end Fields

/-- **A record that is read** has no stray U+FFFD in it. -/
theorem passes_of_record {α δ τ : Type} {name : String} {fields : Fields δ τ} {make : τ → α}
    (hfields : fields.Pass) {depth : Nat} {s r : List Char} {x : α}
    (h : Decoder.record name fields make depth s = .ok (x, r)) : Passes s r := by
  obtain ⟨d, value, _, _, ⟨t, u, hs, hitems, hclose⟩ | ⟨names, read, ⟨t, hs, _, htext⟩, _⟩⟩ :=
    record_eq_ok.1 h
  · exact (passes_of_skipBlanks hs (by decide) (by decide)).trans
      ((Fields.passes_of_readItems hfields hitems).trans (passes_of_closeArray hclose))
  · exact (passes_of_skipBlanks hs (by decide) (by decide)).trans
      ((passes_of_membersText (Fields.passes_of_readMember hfields) htext).trans
        (passes_cons (by decide) (by decide) r))

/-- **A text that is read** has no stray U+FFFD, when what is read of it has none. -/
theorem not_stray_of_decode {α : Type} {d : Decoder α} {text : String} {x : α}
    (hread : ∀ {s r}, d depthLimit s = .ok (x, r) → Passes s r) (h : d.decode text = .ok x) :
    stray .outside text.toList = false := by
  obtain ⟨r, hdecoder, hr⟩ := readWhole_eq_ok.1 h
  exact ((hread hdecoder).trans (hr ▸ passes_skipBlanks r)).trans rfl

end CompileIndex.Json

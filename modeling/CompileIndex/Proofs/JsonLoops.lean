import CompileIndex.Json.Reader
import CompileIndex.Proofs.JsonLexemes

/-!
# What stands between brackets

The items of an array and the members of an object are read by loops that count their rounds.
What the loops read is said here without a count: an item behind the bracket, or behind a comma,
and so on up to the closing bracket.  A loop reads just what is derived so, as long as there are
fewer items than rounds.

* `Opens` — where an item or a member starts;
* `ItemsText`, `readItems_iff` — the items of an array;
* `MembersText`, `readMembers_iff` — the members of an object, and what is gathered from them;
* `MembersText.agree`, `MembersText.rounds` — what holds of every member, and of all;
* `readValue_cases` — the values that can be read.
-/

namespace CompileIndex.Json

/-- Where the next item or member starts: behind blanks, and behind a comma unless it is the
first. -/
inductive Opens : Bool → List Char → List Char → Prop where
  | first {s q : List Char} : skipBlanks s = q → Opens true s q
  | next {s t q : List Char} : skipBlanks s = ',' :: t → skipBlanks t = q → Opens false s q

theorem opens_true {s q : List Char} : Opens true s q ↔ skipBlanks s = q := by
  constructor
  · intro h
    cases h with
    | first h => exact h
  · exact .first

theorem opens_false {s q : List Char} :
    Opens false s q ↔ ∃ t, skipBlanks s = ',' :: t ∧ skipBlanks t = q := by
  constructor
  · intro h
    cases h with
    | next h h' => exact ⟨_, h, h'⟩
  · rintro ⟨t, h, h'⟩
    exact .next h h'

/-- The next item starts within the text. -/
theorem Opens.length_le {first : Bool} {s q : List Char} (h : Opens first s q) :
    q.length ≤ s.length := by
  cases h with
  | first hs => exact hs ▸ length_skipBlanks_le s
  | next hs ht =>
    have hcomma := hs ▸ length_skipBlanks_le s
    have hitem := ht ▸ length_skipBlanks_le _
    rw [List.length_cons] at hcomma
    omega

/-- There is one place where the next item starts. -/
theorem Opens.unique {first : Bool} {s q q' : List Char} (h : Opens first s q)
    (h' : Opens first s q') : q = q' := by
  cases h with
  | first hs =>
    cases h' with
    | first hs' => exact hs.symm.trans hs'
  | next hs ht =>
    cases h' with
    | next hs' ht' =>
      cases hs.symm.trans hs'
      exact ht.symm.trans ht'

/-- Where the next member starts, no brace closes the object. -/
theorem Opens.not_close {first : Bool} {s q t : List Char} (h : Opens first s ('"' :: q)) :
    skipBlanks s ≠ '\x7d' :: t := by
  intro hclose
  cases h with
  | first hs => cases hs.symm.trans hclose
  | next hs _ => cases hs.symm.trans hclose

/-! ### Items -/

section

variable {α : Type} {item : List Char → Except Fault (α × List Char)}

/-- The texts that start with items, each read by `item`, and go on with a closing bracket. -/
inductive ItemsText (item : List Char → Except Fault (α × List Char)) :
    Bool → List Char → List α → List Char → Prop where
  | close {first : Bool} {s t : List Char} : skipBlanks s = ']' :: t →
      ItemsText item first s [] (']' :: t)
  | item {first : Bool} {s q t r : List Char} {c : Char} {x : α} {xs : List α} :
      Opens first s (c :: q) → c ≠ ']' → item (c :: q) = .ok (x, t) →
      ItemsText item false t xs r → ItemsText item first s (x :: xs) r

/-- An item and the items behind it. -/
theorem item_items_eq_ok {fuel : Nat} {p r : List Char} {xs : List α} :
    ((do let (x, r) ← item p
         let (xs, r) ← readItems item fuel false r
         return (x :: xs, r)) = Except.ok (xs, r)) ↔
      ∃ x t ys, item p = .ok (x, t) ∧ readItems item fuel false t = .ok (ys, r) ∧
        xs = x :: ys := by
  simp only [bind_eq_ok, Prod.exists]
  constructor
  · rintro ⟨x, t, h, ys, u, h', heq⟩
    cases heq
    exact ⟨x, t, ys, h, h', rfl⟩
  · rintro ⟨x, t, ys, h, h', rfl⟩
    exact ⟨x, t, h, ys, r, h', rfl⟩

/-- What one round of the loop does. -/
theorem readItems_succ {fuel : Nat} {first : Bool} {s r : List Char} {xs : List α} :
    readItems item (fuel + 1) first s = .ok (xs, r) ↔
      (∃ t, skipBlanks s = ']' :: t ∧ xs = [] ∧ r = ']' :: t) ∨
      (∃ c q x t ys, Opens first s (c :: q) ∧ c ≠ ']' ∧ item (c :: q) = .ok (x, t) ∧
        readItems item fuel false t = .ok (ys, r) ∧ xs = x :: ys) := by
  rw [readItems]
  cases first with
  | true =>
    simp only [opens_true]
    cases hs : skipBlanks s with
    | nil => simp
    | cons c q =>
      by_cases hc : c = ']'
      · simp [hc, eq_comm]
      · simp only [hc, if_false, if_true, item_items_eq_ok]
        simp [hc]
  | false =>
    simp only [opens_false]
    cases hs : skipBlanks s with
    | nil => simp
    | cons c q =>
      by_cases hc : c = ']'
      · simp [hc, eq_comm]
      · by_cases hcomma : c = ','
        · subst hcomma
          simp only [hc, if_false, if_true, Bool.false_eq_true]
          cases ht : skipBlanks q with
          | nil => simp [ht]
          | cons d t =>
            by_cases hd : d = ']'
            · simp [hd, ht]
            · simp only [hd, if_false, item_items_eq_ok]
              simp [hd, ht]
        · simp [hc, hcomma]

/-- **What the items of an array are.** -/
theorem readItems_iff {fuel : Nat} {first : Bool} {s r : List Char} {xs : List α} :
    readItems item fuel first s = .ok (xs, r) ↔
      xs.length < fuel ∧ ItemsText item first s xs r := by
  induction fuel generalizing first s xs with
  | zero => exact ⟨nofun, nofun⟩
  | succ fuel ih =>
    rw [readItems_succ]
    constructor
    · rintro (⟨t, hs, rfl, rfl⟩ | ⟨c, q, x, t, ys, hopens, hc, hitem, hrest, rfl⟩)
      · exact ⟨Nat.succ_pos fuel, .close hs⟩
      · obtain ⟨hlength, htext⟩ := ih.1 hrest
        exact ⟨Nat.succ_lt_succ hlength, .item hopens hc hitem htext⟩
    · rintro ⟨hlength, htext⟩
      cases htext with
      | close hs => exact Or.inl ⟨_, hs, rfl, rfl⟩
      | item hopens hc hitem hrest =>
        exact Or.inr ⟨_, _, _, _, _, hopens, hc, hitem,
          ih.2 ⟨Nat.lt_of_succ_lt_succ hlength, hrest⟩, rfl⟩

/-- **What every item is, all items are.** -/
theorem ItemsText.forall_mem {P : α → Prop} (hitem : ∀ {s x t}, item s = .ok (x, t) → P x)
    {first : Bool} {s r : List Char} {xs : List α} (h : ItemsText item first s xs r) :
    ∀ x ∈ xs, P x := by
  induction h with
  | close => exact nofun
  | item _ _ hread _ ih => exact List.forall_mem_cons.2 ⟨hitem hread, ih⟩

end

/-! ### Members -/

section

variable {σ : Type} {member : σ → String → List Char → Except Fault (σ × List Char)}

/-- The texts that start with members and go on with a closing brace: `names` are the names in
order, and `member` takes what was gathered before each to what is gathered behind it. -/
inductive MembersText (member : σ → String → List Char → Except Fault (σ × List Char)) :
    Bool → σ → List Char → List String → σ → List Char → Prop where
  | close {first : Bool} {g : σ} {s t : List Char} : skipBlanks s = '\x7d' :: t →
      MembersText member first g s [] g ('\x7d' :: t)
  | member {first : Bool} {g g₁ g₂ : σ} {s q t u r cs : List Char} {names : List String} :
      Opens first s ('"' :: q) → readString q = .ok (cs, t) →
      member g (String.ofList cs) t = .ok (g₁, u) → MembersText member false g₁ u names g₂ r →
      MembersText member first g s (String.ofList cs :: names) g₂ r

/-- A member and the members behind it. -/
theorem member_members_eq_ok {fuel : Nat} {g g₂ : σ} {p r : List Char} :
    ((do let (name, r) ← readString p
         let (g, r) ← member g (String.ofList name) r
         readMembers member fuel false g r) = Except.ok (g₂, r)) ↔
      ∃ cs t g₁ u, readString p = .ok (cs, t) ∧ member g (String.ofList cs) t = .ok (g₁, u) ∧
        readMembers member fuel false g₁ u = .ok (g₂, r) := by
  simp only [bind_eq_ok, Prod.exists]
  constructor
  · rintro ⟨cs, t, h, g₁, u, h', h''⟩
    exact ⟨cs, t, g₁, u, h, h', h''⟩
  · rintro ⟨cs, t, g₁, u, h, h', h''⟩
    exact ⟨cs, t, h, g₁, u, h', h''⟩

theorem readMembers_succ {fuel : Nat} {first : Bool} {g g₂ : σ} {s r : List Char} :
    readMembers member (fuel + 1) first g s = .ok (g₂, r) ↔
      (∃ t, skipBlanks s = '\x7d' :: t ∧ g₂ = g ∧ r = '\x7d' :: t) ∨
      (∃ q cs t g₁ u, Opens first s ('"' :: q) ∧ readString q = .ok (cs, t) ∧
        member g (String.ofList cs) t = .ok (g₁, u) ∧
        readMembers member fuel false g₁ u = .ok (g₂, r)) := by
  rw [readMembers]
  cases first with
  | true =>
    simp only [opens_true]
    cases hs : skipBlanks s with
    | nil => simp
    | cons c q =>
      by_cases hc : c = '\x7d'
      · simp [hc, eq_comm]
      · by_cases hquote : c = '"'
        · simp [hquote, member_members_eq_ok]
        · simp [hc, hquote]
  | false =>
    simp only [opens_false]
    cases hs : skipBlanks s with
    | nil => simp
    | cons c q =>
      by_cases hc : c = '\x7d'
      · simp [hc, eq_comm]
      · by_cases hcomma : c = ','
        · subst hcomma
          cases ht : skipBlanks q with
          | nil => simp [ht]
          | cons d t =>
            by_cases hquote : d = '"'
            · simp [hquote, ht, member_members_eq_ok]
            · by_cases hd : d = '\x7d'
              · simp [hd, ht]
              · simp [hd, hquote, ht]
        · simp [hc, hcomma]

/-- **What the members of an object are.** -/
theorem readMembers_iff {fuel : Nat} {first : Bool} {g g₂ : σ} {s r : List Char} :
    readMembers member fuel first g s = .ok (g₂, r) ↔
      ∃ names, names.length < fuel ∧ MembersText member first g s names g₂ r := by
  induction fuel generalizing first g s with
  | zero => exact ⟨nofun, nofun⟩
  | succ fuel ih =>
    rw [readMembers_succ]
    constructor
    · rintro (⟨t, hs, rfl, rfl⟩ | ⟨q, cs, t, g₁, u, hopens, hname, hmember, hrest⟩)
      · exact ⟨[], Nat.succ_pos fuel, .close hs⟩
      · obtain ⟨names, hlength, htext⟩ := ih.1 hrest
        exact ⟨String.ofList cs :: names, Nat.succ_lt_succ hlength,
          .member hopens hname hmember htext⟩
    · rintro ⟨names, hlength, htext⟩
      cases htext with
      | close hs => exact Or.inl ⟨_, hs, rfl, rfl⟩
      | member hopens hname hmember hrest =>
        exact Or.inr ⟨_, _, _, _, _, hopens, hname, hmember,
          ih.2 ⟨_, Nat.lt_of_succ_lt_succ hlength, hrest⟩⟩

/-- **Two readers of one object**, of which neither stops: what they gather stays related, and
they stop at the same place, when every member keeps it so. -/
theorem MembersText.agree {τ : Type} {R : σ → τ → Prop}
    {member' : τ → String → List Char → Except Fault (τ × List Char)}
    (hmember : ∀ {g h name s g₁ h₁ t u}, member g name s = .ok (g₁, t) →
      member' h name s = .ok (h₁, u) → R g h → R g₁ h₁ ∧ t = u)
    {first : Bool} {g g₂ : σ} {h h₂ : τ} {s r r' : List Char} {names names' : List String}
    (htext : MembersText member first g s names g₂ r)
    (htext' : MembersText member' first h s names' h₂ r') (hstart : R g h) :
    R g₂ h₂ ∧ r = r' := by
  induction htext generalizing h names' with
  | close hclose =>
    cases htext' with
    | close hclose' =>
      cases hclose.symm.trans hclose'
      exact ⟨hstart, rfl⟩
    | member hopens _ _ _ => exact absurd hclose hopens.not_close
  | member hopens hname hread _ ih =>
    cases htext' with
    | close hclose' => exact absurd hclose' hopens.not_close
    | member hopens' hname' hread' hrest' =>
      cases hopens.unique hopens'
      cases hname.symm.trans hname'
      obtain ⟨hrelated, rfl⟩ := hmember hread hread' hstart
      exact ih hrest' hrelated

/-- **What every member keeps, the whole object keeps.** -/
theorem MembersText.rounds {Inv : σ → Prop}
    (hmember : ∀ {g name t g₁ u}, member g name t = .ok (g₁, u) → Inv g → Inv g₁)
    {first : Bool} {g g₂ : σ} {s r : List Char} {names : List String}
    (h : MembersText member first g s names g₂ r) (hstart : Inv g) : Inv g₂ := by
  induction h with
  | close => exact hstart
  | member _ _ hread _ ih => exact ih (hmember hread hstart)

end

/-! ### Arrays and objects -/

/-- One member read by `item` and put to the others. -/
def putMember {α β : Type} (item : List Char → Except Fault (α × List Char))
    (put : String → α → β → β) (gathered : β) (name : String) (s : List Char) :
    Except Fault (β × List Char) := do
  let (x, s) ← item (← readColon s)
  return (put name x gathered, s)

theorem putMember_eq_ok {α β : Type} {item : List Char → Except Fault (α × List Char)}
    {put : String → α → β → β} {gathered gathered' : β} {name : String} {s r : List Char} :
    putMember item put gathered name s = .ok (gathered', r) ↔
      ∃ t x, readColon s = .ok t ∧ item t = .ok (x, r) ∧ gathered' = put name x gathered := by
  simp only [putMember, bind_eq_ok, Prod.exists]
  constructor
  · rintro ⟨t, hcolon, x, u, hitem, heq⟩
    cases heq
    exact ⟨t, x, hcolon, hitem, rfl⟩
  · rintro ⟨t, x, hcolon, hitem, rfl⟩
    exact ⟨t, hcolon, x, r, hitem, rfl⟩

/-- The texts that start with an object: `names` are the names of its members in order, and
`gathered` is what `member` makes of them. -/
def ObjectText {σ : Type} (member : σ → String → List Char → Except Fault (σ × List Char))
    (start : σ) (s : List Char) (names : List String) (gathered : σ) (r : List Char) : Prop :=
  ∃ t, skipBlanks s = '\x7b' :: t ∧ names.length ≤ t.length ∧
    MembersText member true start t names gathered ('\x7d' :: r)

theorem MembersText.brace {σ : Type}
    {member : σ → String → List Char → Except Fault (σ × List Char)} {first : Bool} {g g' : σ}
    {s r : List Char} {names : List String} (h : MembersText member first g s names g' r) :
    ∃ t, r = '\x7d' :: t := by
  induction h with
  | close => exact ⟨_, rfl⟩
  | member _ _ _ _ ih => exact ih

/-- What the readers of objects do behind the opening brace. -/
theorem readMembers_object {σ : Type}
    {member : σ → String → List Char → Except Fault (σ × List Char)} {start gathered : σ}
    {s u : List Char} :
    readMembers member (s.length + 1) true start s = .ok (gathered, u) ↔
      ∃ names r, u = '\x7d' :: r ∧ names.length ≤ s.length ∧
        MembersText member true start s names gathered ('\x7d' :: r) := by
  rw [readMembers_iff]
  constructor
  · rintro ⟨names, hlength, htext⟩
    obtain ⟨r, rfl⟩ := htext.brace
    exact ⟨names, r, rfl, Nat.le_of_lt_succ hlength, htext⟩
  · rintro ⟨names, r, rfl, hlength, htext⟩
    exact ⟨names, Nat.lt_succ_of_le hlength, htext⟩

/-- The texts that start with an array, whose items are read by `item`. -/
def ArrayText {α : Type} (item : List Char → Except Fault (α × List Char)) (s : List Char)
    (items : List α) (r : List Char) : Prop :=
  ∃ t, skipBlanks s = '[' :: t ∧ items.length ≤ t.length ∧ ItemsText item true t items (']' :: r)

theorem ItemsText.bracket {α : Type} {item : List Char → Except Fault (α × List Char)}
    {first : Bool} {s r : List Char} {xs : List α} (h : ItemsText item first s xs r) :
    ∃ t, r = ']' :: t := by
  induction h with
  | close => exact ⟨_, rfl⟩
  | item _ _ _ _ ih => exact ih

/-- What the readers of arrays do behind the opening bracket. -/
theorem readItems_array {α : Type} {item : List Char → Except Fault (α × List Char)}
    {s u : List Char} {items : List α} :
    readItems item (s.length + 1) true s = .ok (items, u) ↔
      ∃ r, u = ']' :: r ∧ items.length ≤ s.length ∧ ItemsText item true s items (']' :: r) := by
  rw [readItems_iff]
  constructor
  · rintro ⟨hlength, htext⟩
    obtain ⟨r, rfl⟩ := htext.bracket
    exact ⟨r, rfl, Nat.le_of_lt_succ hlength, htext⟩
  · rintro ⟨r, rfl, hlength, htext⟩
    exact ⟨Nat.lt_succ_of_le hlength, htext⟩

/-! ### Values -/

/-- What opens no bracket is a scalar. -/
theorem readValue_scalar {depth : Nat} {c : Char} {s t : List Char} (hs : skipBlanks s = c :: t)
    (hc : ¬(c = '[' ∨ c = '\x7b')) : readValue depth s = readScalar (c :: t) := by
  rw [not_or] at hc
  cases depth with
  | zero =>
    rw [readValue, hs]
    simp [hc.1, hc.2]
  | succ depth =>
    rw [readValue, hs]
    simp [hc.1, hc.2]

/-- **The arrays that can be read.** -/
theorem readValue_array {depth : Nat} {s t r : List Char} {v : Json}
    (hs : skipBlanks s = '[' :: t) :
    readValue depth s = .ok (v, r) ↔
      ∃ d items, depth = d + 1 ∧ v = array items ∧ ArrayText (readValue d) s items r := by
  unfold ArrayText
  cases depth with
  | zero =>
    rw [readValue, hs]
    simp
  | succ d =>
    rw [readValue, hs]
    simp only [if_true]
    constructor
    · intro h
      obtain ⟨⟨items, u⟩, hitems, h⟩ := bind_eq_ok.1 h
      obtain ⟨v, rfl, hlength, htext⟩ := readItems_array.1 hitems
      cases h
      exact ⟨d, items, rfl, rfl, t, rfl, hlength, htext⟩
    · rintro ⟨_, items, hdepth, rfl, _, heq, hlength, htext⟩
      cases hdepth
      cases heq
      exact bind_eq_ok.2 ⟨_, readItems_array.2 ⟨r, rfl, hlength, htext⟩, rfl⟩

/-- **The objects that can be read.** -/
theorem readValue_object {depth : Nat} {s t r : List Char} {v : Json}
    (hs : skipBlanks s = '\x7b' :: t) :
    readValue depth s = .ok (v, r) ↔
      ∃ d names members, depth = d + 1 ∧ v = object members ∧
        ObjectText (putMember (readValue d) insert) [] s names members r := by
  unfold ObjectText
  cases depth with
  | zero =>
    rw [readValue, hs]
    simp
  | succ d =>
    rw [readValue, hs]
    simp only [Char.reduceEq, if_false, if_true]
    constructor
    · intro h
      obtain ⟨⟨members, u⟩, hmembers, h⟩ := bind_eq_ok.1 h
      obtain ⟨names, v, rfl, hlength, htext⟩ := readMembers_object.1 hmembers
      cases h
      exact ⟨d, names, members, rfl, rfl, t, rfl, hlength, htext⟩
    · rintro ⟨_, names, members, hdepth, rfl, _, heq, hlength, htext⟩
      cases hdepth
      cases heq
      exact bind_eq_ok.2 ⟨_, readMembers_object.2 ⟨names, r, rfl, hlength, htext⟩, rfl⟩

/-- **The values that can be read**: scalars, arrays and objects. -/
theorem readValue_cases {depth : Nat} {s r : List Char} {v : Json}
    (h : readValue depth s = .ok (v, r)) :
    (∃ c t, skipBlanks s = c :: t ∧ readScalar (c :: t) = .ok (v, r)) ∨
    (∃ d items, depth = d + 1 ∧ v = array items ∧ ArrayText (readValue d) s items r) ∨
    (∃ d names members, depth = d + 1 ∧ v = object members ∧
      ObjectText (putMember (readValue d) insert) [] s names members r) := by
  cases hs : skipBlanks s with
  | nil => cases depth <;> simp [readValue, hs] at h
  | cons c t =>
    by_cases harray : c = '['
    · subst harray
      exact Or.inr (Or.inl ((readValue_array hs).1 h))
    by_cases hobject : c = '\x7b'
    · subst hobject
      exact Or.inr (Or.inr ((readValue_object hs).1 h))
    · rw [readValue_scalar hs (by simp [harray, hobject])] at h
      exact Or.inl ⟨c, t, rfl, h⟩

end CompileIndex.Json

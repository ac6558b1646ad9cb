import CompileIndex.Proofs.TomlLexemes

/-!
# TOML documents, written and read back

A document is written line by line and table by table.  Its lines are read back one by one, and the
table that they make holds the entries where they were written: those in front of the first header
at the root, those behind a header in the table of the header.

* `Says` — that a text is some lines, and what they say;
* `says_pair`, `says_header`, `says_blank` — the lines that are written;
* `plug` — a table inside others, while entries are added to it;
* `steps_pairs`, `step_header` — what entries and headers do to it.
-/

namespace CompileIndex.Toml

/-! ### Lines -/

/-- That a text is so many lines, whatever stands behind it, and that they say this one after the
other; if they say nothing, one of them is malformed. -/
structure Says (text : List Char) (lines : Nat) (found : Option (List Statement)) : Prop where
  length_le : lines ≤ text.length
  read : ∀ n t, readStatements (n + lines) (text ++ t) =
    found.bind fun first => (readStatements n t).map (first ++ ·)

theorem says_nil : Says [] 0 (some []) := by
  refine ⟨Nat.le_refl 0, fun n t => ?_⟩
  rw [List.nil_append, Nat.add_zero, Option.bind_some]
  exact Option.map_id'.symm

/-- Lines behind lines. -/
theorem Says.append {a b : List Char} {j k : Nat} {f g : Option (List Statement)}
    (ha : Says a j f) (hb : Says b k g) :
    Says (a ++ b) (j + k) (f.bind fun first => g.map (first ++ ·)) := by
  refine ⟨?_, fun n t => ?_⟩
  · rw [List.length_append]
    exact Nat.add_le_add ha.length_le hb.length_le
  · rw [Nat.add_comm j k, ← Nat.add_assoc, List.append_assoc, ha.read, hb.read]
    cases f with
    | none => rfl
    | some first =>
      cases g with
      | none => rfl
      | some second =>
        simp only [Option.bind_some, Option.map_some, Option.map_map, List.append_assoc]
        rfl

/-- **A whole text** of lines. -/
theorem Says.whole {text : List Char} {lines : Nat} {found : Option (List Statement)}
    (h : Says text lines found) : readStatements (text.length + 1) text = found := by
  obtain ⟨n, hn⟩ := Nat.exists_eq_add_of_le h.length_le
  have hread := h.read (n + 1) []
  have hend : readStatements (n + 1) [] = some [] := rfl
  have hlines : n + 1 + lines = text.length + 1 := by omega
  rw [hlines, List.append_nil, hend] at hread
  rw [hread]
  cases found with
  | none => rfl
  | some found => simp

/-- A line that begins neither with a blank nor with a comment nor with its end. -/
theorem readStatements_word {c : Char} (hspace : isSpace c = false) (hmark : c ≠ '#')
    (hfeed : c ≠ '\n' ∧ c ≠ '\r') (n : Nat) (t : List Char) :
    readStatements (n + 1) (c :: t) = do
      let (statement, r) ← readStatement (c :: t)
      return statement :: (← readStatements n r) := by
  rw [readStatements, skipSpace_cons hspace]
  split
  · next heq => cases heq
  · next heq => exact absurd (List.cons.inj heq).1 hmark
  · next heq => exact absurd (List.cons.inj heq).1 hfeed.1
  · next heq => exact absurd (List.cons.inj heq).1 hfeed.2
  · rfl

theorem says_blank : Says ['\n'] 1 (some []) := by
  refine ⟨Nat.le_refl 1, fun n t => ?_⟩
  rw [Option.bind_some]
  exact Option.map_id'.symm

/-- **The line of an entry**, whose value is read up to the end of the line, or not at all. -/
theorem says_pair (name : String) {value : List Char} {v : Option Value}
    (hstart : ∃ c q, value = c :: q ∧ isSpace c = false)
    (hread : ∀ t, readValue depthLimit (value ++ '\n' :: t) = v.map fun v => (v, '\n' :: t)) :
    Says (writePair name value) 1 (v.map fun v => [.pair [name] v]) := by
  obtain ⟨c, q, hname, hspace, hmark, hfeed, hbracket⟩ := writeKey_word name
  refine ⟨?_, fun n t => ?_⟩
  · rw [writePair, hname]
    exact Nat.succ_le_succ (Nat.zero_le _)
  · have htext : writePair name value ++ t =
        writeKey name ++ ' ' :: '=' :: ' ' :: (value ++ '\n' :: t) := by
      simp [writePair]
    have hkey := readKey_writeKey name (' ' :: (value ++ '\n' :: t))
    have hvalue : skipSpace (' ' :: (value ++ '\n' :: t)) = value ++ '\n' :: t := by
      obtain ⟨d, p, rfl, hd⟩ := hstart
      exact skipSpace_cons hd _
    have hline := hread t
    rw [htext]
    rw [hname, List.cons_append] at hkey ⊢
    have hentry : readStatement (c :: (q ++ ' ' :: '=' :: ' ' :: (value ++ '\n' :: t))) =
        v.map fun v => (.pair [name] v, t) := by
      unfold readStatement
      split
      · next heq => exact absurd (List.cons.inj heq).1 hbracket
      · next heq => exact absurd (List.cons.inj heq).1 hbracket
      · simp only [readEntry, hkey, expect, hvalue, hline, Option.bind_eq_bind, Option.bind_some,
          if_true]
        cases v <;> rfl
    rw [readStatements_word hspace hmark hfeed, hentry]
    cases v with
    | none => rfl
    | some v =>
      simp only [Option.map_some, Option.bind_eq_bind, Option.bind_some]
      cases readStatements n t <;> rfl

theorem says_string (name s : String) :
    Says (writePair name (writeString s)) 1 (some [.pair [name] (.string s)]) := by
  obtain ⟨c, q, hs, hspace, _⟩ := writeString_word s
  exact says_pair (v := some (.string s)) name ⟨c, q, hs, hspace⟩ fun t =>
    readValue_writeString _ s (unquoted_cons (by decide) t)

theorem says_array (name : String) (items : List String) :
    Says (writePair name (writeArray items)) 1
      (some [.pair [name] (.array (items.map .string))]) := by
  have hstart : ∃ c q, writeArray items = c :: q ∧ isSpace c = false := by
    unfold writeArray
    split <;> exact ⟨'[', _, rfl, by decide⟩
  exact says_pair (v := some _) name hstart fun t => readValue_writeArray 78 items ('\n' :: t)

theorem says_nat (name : String) {n : Nat} (hn : n < 0x10000000000000000) :
    Says (writePair name (writeNat n)) 1 ((integer? n).map fun v => [.pair [name] v]) := by
  obtain ⟨c, ds, hdigits, hc⟩ := writeNat_cons n
  have hspace : isSpace c = false := by
    simp only [isSpace, Bool.or_eq_false_iff, decide_eq_false_iff_not]
    exact ⟨ne_of_isDigit hc (by decide), ne_of_isDigit hc (by decide)⟩
  exact says_pair name ⟨c, ds, hdigits, hspace⟩ (readValue_writeNat _ hn)

/-! ### Headers -/

/-- That a part of a key needs no quotes. -/
def Bare (part : String) : Prop :=
  part.toList ≠ [] ∧ ∀ c ∈ part.toList, isBareChar c = true

instance (part : String) : Decidable (Bare part) :=
  decidable_of_iff (part.toList ≠ [] ∧ part.toList.all isBareChar = true)
    (by rw [Bare, List.all_eq_true])

theorem Bare.cons {part : String} (h : Bare part) :
    ∃ c q, part.toList = c :: q ∧ isBareChar c = true := by
  obtain ⟨c, q, hpart⟩ := List.exists_cons_of_ne_nil h.1
  exact ⟨c, q, hpart, h.2 c (hpart ▸ List.mem_cons_self)⟩

theorem Bare.skipSpace {part : String} (h : Bare part) (t : List Char) :
    skipSpace (part.toList ++ t) = part.toList ++ t := by
  obtain ⟨c, q, hpart, hc⟩ := h.cons
  rw [hpart, List.cons_append, skipSpace_cons]
  simp only [isSpace, Bool.or_eq_false_iff, decide_eq_false_iff_not]
  constructor
  · rintro rfl
    exact absurd hc (by decide)
  · rintro rfl
    exact absurd hc (by decide)

/-- A key between brackets is read part by part. -/
theorem readKeyUpTo_bare {key : List String} (hkey : key ≠ []) (h : ∀ part ∈ key, Bare part)
    {n : Nat} (hn : key.length ≤ n) (t : List Char) :
    readKeyUpTo n ((".".intercalate key).toList ++ ']' :: t) = some (key, ']' :: t) := by
  induction key generalizing n with
  | nil => exact absurd rfl hkey
  | cons part rest ih =>
    obtain ⟨n, rfl⟩ : ∃ m, n = m + 1 := ⟨n - 1, by rw [List.length_cons] at hn; omega⟩
    rw [List.forall_mem_cons] at h
    have hpart : String.ofList part.toList = part := String.ofList_toList
    cases rest with
    | nil =>
      have hread := readSimpleKey_bare h.1.1 h.1.2 (d := ']') (by decide) t
      rw [hpart] at hread
      have htext : (".".intercalate [part]).toList = part.toList := rfl
      rw [htext, readKeyUpTo, h.1.skipSpace, hread]
      rfl
    | cons next rest =>
      have hread := readSimpleKey_bare h.1.1 h.1.2 (d := '.') (by decide)
        ((".".intercalate (next :: rest)).toList ++ ']' :: t)
      rw [hpart] at hread
      have htext : (".".intercalate (part :: next :: rest)).toList ++ ']' :: t =
          part.toList ++ '.' :: ((".".intercalate (next :: rest)).toList ++ ']' :: t) := by
        rw [String.intercalate_cons_cons, String.toList_append, String.toList_append,
          List.append_assoc, List.append_assoc]
        rfl
      have hrest := ih (by simp) h.2 (n := n) (by simpa using hn)
      rw [htext, readKeyUpTo, h.1.skipSpace, hread]
      simp only [Option.bind_eq_bind, Option.bind_some]
      rw [skipSpace_cons (by decide)]
      simp only [hrest, Option.bind_some]
      rfl

/-- **The line of a header.** -/
theorem says_header {key : List String} (hkey : key ≠ []) (h : ∀ part ∈ key, Bare part)
    (hlength : key.length ≤ keyLimit) :
    Says (writeHeader key) 1 (some [.header key]) := by
  refine ⟨Nat.succ_le_succ (Nat.zero_le _), fun n t => ?_⟩
  have htext : writeHeader key ++ t =
      '[' :: ((".".intercalate key).toList ++ ']' :: '\n' :: t) := by
    simp [writeHeader]
  have hread := readKeyUpTo_bare hkey h hlength ('\n' :: t)
  have hline : readStatement ('[' :: ((".".intercalate key).toList ++ ']' :: '\n' :: t)) =
      some (.header key, t) := by
    obtain ⟨c, q, hopen, hc⟩ : ∃ c q, (".".intercalate key).toList = c :: q ∧
        isBareChar c = true := by
      cases key with
      | nil => exact absurd rfl hkey
      | cons part rest =>
        obtain ⟨c, q, hpart, hc⟩ := (h part List.mem_cons_self).cons
        cases rest with
        | nil => exact ⟨c, q, hpart, hc⟩
        | cons next rest =>
          rw [String.intercalate_cons_cons, String.toList_append, String.toList_append, hpart]
          exact ⟨c, _, rfl, hc⟩
    unfold readStatement
    split
    · next heq =>
      rw [hopen] at heq
      rw [(List.cons.inj (List.cons.inj heq).2).1] at hc
      exact absurd hc (by decide)
    · next heq =>
      cases heq
      rw [readKey, hread]
      rfl
    · next hno => exact absurd rfl (hno _)
  rw [htext, readStatements_word (by decide) (by decide) (by decide), hline]
  simp only [Option.bind_eq_bind, Option.bind_some]
  cases readStatements n t <;> rfl

/-! ### Tables -/

namespace Entries

theorem put_of_lookup_none {name : String} {entries : Entries} (h : entries.lookup name = none)
    (n : Node) : entries.put name n = entries ++ [(name, n)] := by
  induction entries with
  | nil => rfl
  | cons e entries ih =>
    obtain ⟨k, old⟩ := e
    rw [List.lookup_cons] at h
    split at h
    · cases h
    · next hne =>
      have hk : k ≠ name := by
        rintro rfl
        simp at hne
      rw [put, if_neg hk, ih h, List.cons_append]

end Entries

/-- A table inside others: each of them with its entries and the name of the next one, which comes
last. -/
def plug : List (Entries × String) → Entries → Entries
  | [], inner => inner
  | (before, name) :: context, inner => before ++ [(name, .table .header (plug context inner))]

/-- That every table has its name for itself. -/
def Fresh (context : List (Entries × String)) : Prop :=
  ∀ outer ∈ context, outer.1.lookup outer.2 = none

theorem lookup_concat {name : String} {before : Entries} (h : before.lookup name = none)
    (n : Node) : (before ++ [(name, n)]).lookup name = some n := by
  rw [List.lookup_append, h, Option.none_or, List.lookup_cons_self]

theorem put_concat {name : String} {before : Entries} (h : before.lookup name = none)
    (n n' : Node) : Entries.put name n' (before ++ [(name, n)]) = before ++ [(name, n')] := by
  induction before with
  | nil => simp [Entries.put]
  | cons e before ih =>
    obtain ⟨k, old⟩ := e
    rw [List.lookup_cons] at h
    split at h
    · cases h
    · next hne =>
      have hk : k ≠ name := by
        rintro rfl
        simp at hne
      rw [List.cons_append, Entries.put, if_neg hk, ih h, List.cons_append]

theorem plug_append (context : List (Entries × String)) (before inner : Entries) (name : String) :
    plug (context ++ [(before, name)]) inner =
      plug context (before ++ [(name, .table .header inner)]) := by
  induction context with
  | nil => rfl
  | cons outer context ih => rw [List.cons_append, plug, ih, plug]

/-- What changes the innermost table changes nothing else. -/
theorem descend_plug {context : List (Entries × String)} (h : Fresh context)
    (change : Origin → Entries → Option Entries) (inner : Entries) :
    Entries.descend false change .header (context.map Prod.snd) (plug context inner) =
      (change .header inner).map (plug context) := by
  induction context with
  | nil => exact Option.map_id'.symm
  | cons outer context ih =>
    obtain ⟨before, name⟩ := outer
    have hname : before.lookup name = none := h _ List.mem_cons_self
    have hrest : Fresh context := fun outer houter => h outer (List.mem_cons_of_mem _ houter)
    simp only [List.map_cons, plug, Entries.descend, lookup_concat hname, ih hrest,
      Bool.false_and, Bool.false_eq_true, if_false, Option.map_map]
    congr 1
    funext inner
    exact put_concat hname _ _

/-- The leaves that some entries are in a table under construction. -/
def leaves (pairs : List (String × Value)) : Entries :=
  pairs.map fun p => (p.1, .leaf p.2)

/-- The lines of some entries, as statements. -/
def statements (pairs : List (String × Value)) : List Statement :=
  pairs.map fun p => .pair [p.1] p.2

variable {context : List (Entries × String)} {inner : Entries}

/-- An entry is added behind the others of the innermost table. -/
theorem step_pair (h : Fresh context) {name : String} (hnew : inner.lookup name = none)
    (v : Value) :
    Reading.step ⟨plug context inner, context.map Prod.snd⟩ (.pair [name] v) =
      some ⟨plug context (inner ++ [(name, .leaf v)]), context.map Prod.snd⟩ := by
  have hadd (origin : Origin) :
      Entries.addPair [name] v origin inner = some (inner ++ [(name, .leaf v)]) := by
    have hput := Entries.put_of_lookup_none hnew (.leaf v)
    simp [Entries.addPair, Entries.descend, Entries.addLeaf, hnew, hput]
  rw [Reading.step, descend_plug h, hadd]
  rfl

/-- **Entries are added one after the other** where every name is new. -/
theorem steps_pairs (h : Fresh context) {pairs : List (String × Value)}
    (hnew : ∀ p ∈ pairs, inner.lookup p.1 = none) (hnodup : (pairs.map Prod.fst).Nodup) :
    (statements pairs).foldlM Reading.step ⟨plug context inner, context.map Prod.snd⟩ =
      some ⟨plug context (inner ++ leaves pairs), context.map Prod.snd⟩ := by
  induction pairs generalizing inner with
  | nil => simp [statements, leaves]
  | cons p pairs ih =>
    rw [List.forall_mem_cons] at hnew
    rw [List.map_cons, List.nodup_cons] at hnodup
    have hlater : ∀ q ∈ pairs, (inner ++ [(p.1, Node.leaf p.2)]).lookup q.1 = none := by
      intro q hq
      have hne : (q.1 == p.1) = false :=
        beq_eq_false_iff_ne.2 fun heq => hnodup.1 (heq ▸ List.mem_map_of_mem hq)
      rw [List.lookup_append, hnew.2 q hq, Option.none_or, List.lookup_cons, hne]
      rfl
    have hrest := ih hlater hnodup.2
    rw [statements, List.map_cons, List.foldlM_cons, step_pair h hnew.1]
    rw [List.append_assoc] at hrest
    exact hrest

/-- **A header opens a table** inside the innermost one. -/
theorem step_header (h : Fresh context) {name : String} (hnew : inner.lookup name = none)
    (current : List String) :
    Reading.step ⟨plug context inner, current⟩ (.header (context.map Prod.snd ++ [name])) =
      some ⟨plug (context ++ [(inner, name)]) [], context.map Prod.snd ++ [name]⟩ := by
  have hput := Entries.put_of_lookup_none hnew (.table .header [])
  rw [Reading.step, Entries.addTable, List.getLast?_concat, List.dropLast_concat]
  simp only [descend_plug h, hnew, hput, Option.map_some, plug_append]

/-- **A header and the entries behind it** are a table. -/
theorem steps_table (h : Fresh context) {name : String} (hnew : inner.lookup name = none)
    {pairs : List (String × Value)} (hnodup : (pairs.map Prod.fst).Nodup)
    (current : List String) :
    (.header (context.map Prod.snd ++ [name]) :: statements pairs).foldlM Reading.step
        ⟨plug context inner, current⟩ =
      some ⟨plug context (inner ++ [(name, .table .header (leaves pairs))]),
        context.map Prod.snd ++ [name]⟩ := by
  have hfresh : Fresh (context ++ [(inner, name)]) := by
    intro outer houter
    rcases List.mem_append.1 houter with houter | houter
    · exact h outer houter
    · rw [List.mem_singleton.1 houter]
      exact hnew
  have hpath : (context ++ [(inner, name)]).map Prod.snd = context.map Prod.snd ++ [name] := by
    rw [List.map_append]
    rfl
  have hempty : ∀ p ∈ pairs, ([] : Entries).lookup p.1 = none := fun p _ => rfl
  have hpairs := steps_pairs hfresh hempty hnodup
  rw [hpath, List.nil_append, plug_append _ _ (leaves pairs)] at hpairs
  rw [List.foldlM_cons, step_header h hnew]
  exact hpairs

/-- The lines of a table that stands at the root. -/
def tableLines (table : String × List (String × Value)) : List Statement :=
  .header [table.1] :: statements table.2

/-- **Headers with entries behind them** are tables at the root, one after the other. -/
theorem steps_sections {inner : Entries} {tables : List (String × List (String × Value))}
    (hnew : ∀ t ∈ tables, inner.lookup t.1 = none) (hnodup : (tables.map Prod.fst).Nodup)
    (hentries : ∀ t ∈ tables, (t.2.map Prod.fst).Nodup) (current : List String) :
    ∃ last, (tables.flatMap tableLines).foldlM Reading.step ⟨inner, current⟩ =
      some ⟨inner ++ tables.map fun t => (t.1, .table .header (leaves t.2)), last⟩ := by
  induction tables generalizing inner current with
  | nil => exact ⟨current, by simp⟩
  | cons table tables ih =>
    rw [List.forall_mem_cons] at hnew hentries
    rw [List.map_cons, List.nodup_cons] at hnodup
    have hroot : Fresh [] := fun _ h => nomatch h
    have hfirst : (tableLines table).foldlM Reading.step ⟨inner, current⟩ =
        some ⟨inner ++ [(table.1, .table .header (leaves table.2))], [table.1]⟩ :=
      steps_table hroot hnew.1 hentries.1 current
    have hlater : ∀ t ∈ tables,
        (inner ++ [(table.1, Node.table .header (leaves table.2))]).lookup t.1 = none := by
      intro t ht
      have hne : (t.1 == table.1) = false :=
        beq_eq_false_iff_ne.2 fun heq => hnodup.1 (heq ▸ List.mem_map_of_mem ht)
      rw [List.lookup_append, hnew.2 t ht, Option.none_or, List.lookup_cons, hne]
      rfl
    obtain ⟨last, hrest⟩ := ih hlater hnodup.2 hentries.2 [table.1]
    refine ⟨last, ?_⟩
    rw [List.append_assoc] at hrest
    rw [List.flatMap_cons, List.foldlM_append, List.map_cons, hfirst]
    exact hrest

/-! ### Finished tables -/

theorem finished_append (a b : Entries) : finished (a ++ b) = finished a ++ finished b := by
  induction a with
  | nil => rfl
  | cons e a ih => rw [List.cons_append, finished, finished, ih, List.cons_append]

theorem finished_leaves (pairs : List (String × Value)) : finished (leaves pairs) = pairs := by
  induction pairs with
  | nil => rfl
  | cons p pairs ih =>
    have hcons : leaves (p :: pairs) = (p.1, .leaf p.2) :: leaves pairs := rfl
    rw [hcons, finished, ih]
    rfl

theorem finished_tables (tables : List (String × List (String × Value))) :
    finished (tables.map fun t => (t.1, .table .header (leaves t.2))) =
      tables.map fun t => (t.1, .table t.2) := by
  induction tables with
  | nil => rfl
  | cons t tables ih =>
    rw [List.map_cons, List.map_cons, finished, ih, Node.toValue, finished_leaves]

/-! ### Tables of lines -/

/-- The lines of entries that are strings. -/
theorem says_strings (pairs : List (String × String)) :
    Says (pairs.map fun p => writePair p.1 (writeString p.2)).flatten pairs.length
      (some (statements (pairs.map fun p => (p.1, .string p.2)))) := by
  induction pairs with
  | nil => exact says_nil
  | cons p pairs ih =>
    have hlines := (says_string p.1 p.2).append ih
    rw [Nat.add_comm] at hlines
    exact hlines

end CompileIndex.Toml

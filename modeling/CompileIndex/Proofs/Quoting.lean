import CompileIndex.Proofs.RecordGrammar

/-!
# Quoted words

Between single quotes every character stands for itself, and a single quote is written by
leaving the quotes, behind a backslash.  So the words of a line of quoted words are those that
were quoted, whatever characters they hold and even if they hold none; and a record that says
its arguments as a command text means what the record means that lists them.

* `ShellWords.splitFrom_quoted` — a quoted word is read up to its closing quote, as it was;
* `ShellWords.split_quotedLine` — splitting undoes quoting;
* `Record.command_text_exact` — command texts and lists of arguments.
-/

namespace CompileIndex

namespace ShellWords

/-! ### Reading a quoted word -/

/-- Behind an opening quote the reader takes the whole word and stands behind the closing one. -/
theorem splitFrom_quoted (word held rest : List Char) :
    splitFrom .single held (word.flatMap quoteChar ++ '\'' :: rest) =
      splitFrom .word (word.reverse ++ held) rest := by
  induction word generalizing held with
  | nil => rfl
  | cons c word ih =>
    rw [List.flatMap_cons, List.append_assoc, List.reverse_cons, List.append_assoc,
      List.singleton_append]
    by_cases hc : c = '\''
    · -- The quote is left, one is taken behind a backslash, and a new one is opened.
      subst hc
      exact ih ('\'' :: held)
    · have hstep : splitFrom .single held (c :: (word.flatMap quoteChar ++ '\'' :: rest)) =
          splitFrom .single (c :: held) (word.flatMap quoteChar ++ '\'' :: rest) := by
        rw [splitFrom, if_neg hc]
      rw [quoteChar, if_neg hc, List.singleton_append, hstep]
      exact ih (c :: held)

/-- In front of a quoted word the reader takes it and stands in a word. -/
theorem splitFrom_quote (word : String) (held rest : List Char) :
    splitFrom .between held ((quote word).toList ++ rest) =
      splitFrom .word word.toList.reverse rest := by
  have hquote : (quote word).toList ++ rest =
      '\'' :: (word.toList.flatMap quoteChar ++ '\'' :: rest) := by
    simp [quote]
  have hopen : splitFrom .between held ('\'' :: (word.toList.flatMap quoteChar ++ '\'' :: rest)) =
      splitFrom .single [] (word.toList.flatMap quoteChar ++ '\'' :: rest) := rfl
  rw [hquote, hopen, splitFrom_quoted, List.append_nil]

/-! ### Reading a line of quoted words -/

theorem quotedLine_cons_cons (word next : String) (rest : List String) :
    (quotedLine (word :: next :: rest)).toList =
      (quote word).toList ++ ' ' :: (quotedLine (next :: rest)).toList := by
  simp [quotedLine]

/-- All words of a line are read, and nothing else. -/
theorem splitFrom_quotedLine (words : List String) :
    splitFrom .between [] (quotedLine words).toList = some (words.map String.toList) := by
  induction words with
  | nil => rfl
  | cons word rest ih =>
    cases rest with
    | nil =>
      have hline : (quotedLine [word]).toList = (quote word).toList ++ [] := by
        simp [quotedLine]
      rw [hline, splitFrom_quote]
      simp [splitFrom]
    | cons next rest =>
      have hblank (held line : List Char) : splitFrom .word held (' ' :: line) =
          (splitFrom .between [] line).map (held.reverse :: ·) := rfl
      rw [quotedLine_cons_cons, splitFrom_quote, hblank, ih, List.reverse_reverse]
      rfl

/-- **Splitting undoes quoting**, whatever the words are. -/
theorem split_quotedLine (words : List String) : split (quotedLine words) = some words := by
  rw [split, splitFrom_quotedLine, Option.map_some, List.map_map]
  simp [Function.comp_def]

end ShellWords

namespace Record

/-! ### Texts and lists -/

/-- A record with a directory and a file is judged by its arguments. -/
theorem ofJson_of_arguments {members : List (String × Json)} {directory file : String}
    (hdirectory : Json.lookup "directory" members = some (.string directory))
    (hfile : Json.lookup "file" members = some (.string file)) :
    ofJson (.object members) =
      (arguments members).bind fun args => ofCommand ⟨⟨directory⟩, ⟨file⟩, args⟩ := by
  rw [ofJson, stringMember_eq_ok.2 hdirectory, stringMember_eq_ok.2 hfile]
  rfl

/-- **A command text means the list of its words.**  Of two records with the same directory and
the same file, `told` gives its arguments as a text alone and `listed` as a list.  If the text is
a line of quoted words, whatever characters they hold, and the list holds these words behind the
placeholder, both are the same command.  If the text has words at all and the list holds them
behind the placeholder, both have the same outcome, which for no words is that the compiler is
missing.  A text that cannot be split is malformed. -/
theorem command_text_exact (told listed : List (String × Json)) (directory file : String)
    (htext : Json.lookup "arguments" told = none)
    (hdirectory : Json.lookup "directory" told = some (.string directory) ∧
      Json.lookup "directory" listed = some (.string directory))
    (hfile : Json.lookup "file" told = some (.string file) ∧
      Json.lookup "file" listed = some (.string file)) :
    (∀ words : List String, words ≠ [] →
      Json.lookup "command" told = some (.string (ShellWords.quotedLine words)) →
      Json.lookup "arguments" listed = some (.strings ("sh" :: words)) →
      ofJson (.object told) = .ok ⟨⟨directory⟩, ⟨file⟩, "sh" :: words⟩ ∧
        ofJson (.object listed) = .ok ⟨⟨directory⟩, ⟨file⟩, "sh" :: words⟩) ∧
    (∀ (command : String) (words : List String),
      Json.lookup "command" told = some (.string command) →
      ShellWords.split command = some words →
      Json.lookup "arguments" listed = some (.strings ("sh" :: words)) →
      ofJson (.object told) = ofJson (.object listed) ∧
        (words = [] → ofJson (.object told) = .error (.missingCompiler 1))) ∧
    (∀ command : String, Json.lookup "command" told = some (.string command) →
      ShellWords.split command = none → ofJson (.object told) = .error .unsplittableCommand) := by
  have htold : ∀ {command : String} {words : List String},
      Json.lookup "command" told = some (.string command) →
      ShellWords.split command = some words →
      ofJson (.object told) = ofCommand ⟨⟨directory⟩, ⟨file⟩, "sh" :: words⟩ := by
    intro command words hcommand hwords
    rw [ofJson_of_arguments hdirectory.1 hfile.1,
      arguments_of_gives (.split htext hcommand hwords)]
    rfl
  have hlisted : ∀ {words : List String},
      Json.lookup "arguments" listed = some (.strings ("sh" :: words)) →
      ofJson (.object listed) = ofCommand ⟨⟨directory⟩, ⟨file⟩, "sh" :: words⟩ := by
    intro words hwords
    rw [ofJson_of_arguments hdirectory.2 hfile.2, arguments_of_gives (.listed hwords)]
    rfl
  refine ⟨?_, ?_, ?_⟩
  · intro words hne hcommand hwords
    -- A word behind the placeholder stands where the compiler is looked for.
    have hlong : ¬ ("sh" :: words).length < 2 := by
      cases words with
      | nil => exact absurd rfl hne
      | cons word rest => simp
    rw [htold hcommand (ShellWords.split_quotedLine words), hlisted hwords]
    exact ⟨if_neg hlong, if_neg hlong⟩
  · intro command words hcommand hsplit hwords
    rw [htold hcommand hsplit, hlisted hwords]
    refine ⟨rfl, ?_⟩
    rintro rfl
    rfl
  · intro command hcommand hsplit
    rw [ofJson_of_arguments hdirectory.1 hfile.1, arguments_of_none htext,
      commandArguments_of_text hcommand, hsplit]
    rfl

/-- Words with a blank, with quotes, with a backslash and a line end, without characters, and with
a `#` in front, as a text of quoted words and as a list. -/
theorem command_text_exact_odd_words :
    let words := ["/opt/my cc", "-DX='\"\\\n'", "", "#a.c"]
    let text := "'/opt/my cc' '-DX='\\''\"\\\n'\\''' '' '#a.c'"
    ofJson (.object [("command", .string text), ("directory", .string "/p"),
        ("file", .string "a.c")]) = .ok ⟨⟨"/p"⟩, ⟨"a.c"⟩, "sh" :: words⟩ ∧
      ofJson (.object [("arguments", .strings ("sh" :: words)), ("directory", .string "/p"),
        ("file", .string "a.c")]) = .ok ⟨⟨"/p"⟩, ⟨"a.c"⟩, "sh" :: words⟩ := by
  intro words text
  have htext : text = ShellWords.quotedLine words := by decide +kernel
  rw [htext]
  exact (command_text_exact _ _ "/p" "a.c" rfl ⟨rfl, rfl⟩ ⟨rfl, rfl⟩).1 words
    (List.cons_ne_nil _ _) rfl rfl

end Record

end CompileIndex

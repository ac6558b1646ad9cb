import CompileIndex.Command.Record
import CompileIndex.Proofs.JsonLexemes

/-!
# The grammar of records

Which values are compile commands, and why the others are none, is said here without the order
in which a value is looked at.  A command is an object whose members describe it.  A value that
is no command has flaws, often many at once: every member can be missing or of a wrong kind, and
every item of its arguments can be no string.  Judging a record finds the command, or of all the
flaws the one that the earliest check finds.

* `Describes` — the objects that describe a command;
* `Flaw`, `Malformation.NotAfter` — the flaws of a value, and which of two is found first;
* `ofJson_eq_ok_iff`, `ofJson_eq_error_iff` — what a judged record says about its value;
* `grammar_exact` — commands and flaws, exactly.
-/

namespace CompileIndex

/-! ### The order of the checks -/

namespace Malformation

/-- The check that finds a malformation: object, directory, file, shape of the arguments, and
position of the compiler, in this order. -/
def check : Malformation → Nat
  | notObject _ => 0
  | missingField field | wrongType field _ _ =>
    if field = "directory" then 1 else if field = "file" then 2 else 3
  | nonStringArgument _ | unsplittableCommand => 3
  | missingCompiler _ => 4

/-- Where among the arguments a malformation lies; only those of single items lie anywhere but
in front. -/
def place : Malformation → Nat
  | nonStringArgument position => position
  | _ => 0

/-- Whether a malformation is found before another one, or with it. -/
def NotAfter (m n : Malformation) : Prop :=
  m.check < n.check ∨ m.check = n.check ∧ m.place ≤ n.place

/-- Whether a malformation is the only one that is found first among itself and another one. -/
def Precedes (m n : Malformation) : Prop :=
  m.NotAfter n ∧ (n.NotAfter m → n = m)

theorem Precedes.refl (m : Malformation) : m.Precedes m :=
  ⟨Or.inr ⟨rfl, Nat.le_refl _⟩, fun _ => rfl⟩

theorem Precedes.of_check_lt {m n : Malformation} (h : m.check < n.check) : m.Precedes n := by
  refine ⟨Or.inl h, ?_⟩
  rintro (hlt | ⟨heq, _⟩) <;> omega

theorem Precedes.of_place_lt {m n : Malformation} (hcheck : m.check = n.check)
    (h : m.place < n.place) : m.Precedes n := by
  refine ⟨Or.inr ⟨hcheck, Nat.le_of_lt h⟩, ?_⟩
  rintro (hlt | ⟨_, hle⟩) <;> omega

end Malformation

namespace Record

/-! ### Commands and flaws -/

/-- The arguments that the members of an object give: the strings of `arguments`, or, when there
is no such member, the words of `command` behind the placeholder. -/
inductive Gives (members : List (String × Json)) : List String → Prop where
  | listed {args : List String} :
    Json.lookup "arguments" members = some (.array (args.map .string)) → Gives members args
  | split {command : String} {words : List String} :
    Json.lookup "arguments" members = none →
    Json.lookup "command" members = some (.string command) →
    ShellWords.split command = some words → Gives members (placeholder :: words)

/-- Whether a value describes a command: an object with the directory and the file, and with
arguments that reach the compiler's position. -/
def Describes (v : Json) (c : CompileCommand) : Prop :=
  ∃ members, v = .object members ∧
    Json.lookup "directory" members = some (.string c.directory.text) ∧
    Json.lookup "file" members = some (.string c.file.text) ∧
    Gives members c.arguments ∧ 2 ≤ c.arguments.length

/-- The flaws of a value, each on its own. -/
inductive Flaw : Json → Malformation → Prop where
  /-- The value is no object. -/
  | shape {v : Json} : (∀ members, v ≠ .object members) → Flaw v (.notObject v.describe)
  /-- The directory or the file is missing. -/
  | absent {members : List (String × Json)} {field : String} :
    field = "directory" ∨ field = "file" → Json.lookup field members = none →
    Flaw (.object members) (.missingField field)
  /-- The directory or the file is no string. -/
  | mistyped {members : List (String × Json)} {field : String} {value : Json} :
    field = "directory" ∨ field = "file" → Json.lookup field members = some value →
    (∀ s, value ≠ .string s) →
    Flaw (.object members) (.wrongType field "a string" value.describe)
  /-- There is a member `arguments`, but it is no list. -/
  | unlisted {members : List (String × Json)} {value : Json} :
    Json.lookup "arguments" members = some value → (∀ items, value ≠ .array items) →
    Flaw (.object members) (.wrongType "arguments" "an array" value.describe)
  /-- An item of the arguments is no string. -/
  | item {members : List (String × Json)} {items : List Json} {position : Nat} {value : Json} :
    Json.lookup "arguments" members = some (.array items) → items[position]? = some value →
    (∀ s, value ≠ .string s) → Flaw (.object members) (.nonStringArgument position)
  /-- There are neither arguments nor a command text. -/
  | unsaid {members : List (String × Json)} :
    Json.lookup "arguments" members = none → Json.lookup "command" members = none →
    Flaw (.object members) (.missingField "arguments")
  /-- There are no arguments, and the command text is no string. -/
  | untold {members : List (String × Json)} {value : Json} :
    Json.lookup "arguments" members = none → Json.lookup "command" members = some value →
    (∀ s, value ≠ .string s) →
    Flaw (.object members) (.wrongType "command" "a string" value.describe)
  /-- There are no arguments, and the command text has no words. -/
  | unsplittable {members : List (String × Json)} {command : String} :
    Json.lookup "arguments" members = none →
    Json.lookup "command" members = some (.string command) →
    ShellWords.split command = none → Flaw (.object members) .unsplittableCommand
  /-- The list of arguments ends before the compiler. -/
  | short {members : List (String × Json)} {items : List Json} :
    Json.lookup "arguments" members = some (.array items) → items.length < 2 →
    Flaw (.object members) (.missingCompiler items.length)
  /-- There are no arguments, and the command text has not one word. -/
  | wordless {members : List (String × Json)} {command : String} :
    Json.lookup "arguments" members = none →
    Json.lookup "command" members = some (.string command) →
    ShellWords.split command = some [] → Flaw (.object members) (.missingCompiler 1)

/-! ### Members and items -/

theorem stringMember_eq_ok {members : List (String × Json)} {field s : String} :
    stringMember members field = .ok s ↔ Json.lookup field members = some (.string s) := by
  unfold stringMember
  split
  · next t hmember => simp [hmember]
  · next value hstring hmember =>
    rw [hmember]
    constructor
    · exact nofun
    · intro h
      exact absurd (Option.some.inj h) (hstring s)
  · next hmember => simp [hmember]

/-- A member that cannot be used as a string is missing or is something else. -/
theorem stringMember_eq_error {members : List (String × Json)} {field : String}
    {m : Malformation} :
    stringMember members field = .error m ↔
      (Json.lookup field members = none ∧ m = .missingField field) ∨
        ∃ value, Json.lookup field members = some value ∧ (∀ s, value ≠ .string s) ∧
          m = .wrongType field "a string" value.describe := by
  unfold stringMember
  split
  · next t hmember => simp [hmember]
  · next value hstring hmember =>
    constructor
    · intro h
      exact Or.inr ⟨value, hmember, hstring, (Except.error.inj h).symm⟩
    · rintro (⟨hnone, _⟩ | ⟨other, hother, _, rfl⟩)
      · rw [hmember] at hnone
        cases hnone
      · rw [hmember] at hother
        cases hother
        rfl
  · next hmember => simp [hmember, eq_comm]

/-- Items are all strings, or there is a first one that is none. -/
theorem stringItems_cases (position : Nat) (items : List Json) :
    (∃ args : List String, items = args.map .string ∧ stringItems position items = .ok args) ∨
      ∃ front : List String, ∃ value back, items = front.map .string ++ value :: back ∧
        (∀ s, value ≠ .string s) ∧
        stringItems position items = .error (.nonStringArgument (position + front.length)) := by
  induction items generalizing position with
  | nil => exact Or.inl ⟨[], rfl, rfl⟩
  | cons item rest ih =>
    by_cases hitem : ∃ s, item = .string s
    · obtain ⟨s, rfl⟩ := hitem
      rcases ih (position + 1) with ⟨args, hrest, hread⟩ | ⟨front, value, back, hrest, hvalue, hread⟩
      · refine Or.inl ⟨s :: args, by rw [hrest]; rfl, ?_⟩
        rw [stringItems, hread]
        rfl
      · refine Or.inr ⟨s :: front, value, back, by rw [hrest]; rfl, hvalue, ?_⟩
        rw [stringItems, hread, List.length_cons, Nat.add_assoc, Nat.add_comm 1]
        rfl
    · have hnot : ∀ s, item ≠ .string s := fun s hs => hitem ⟨s, hs⟩
      refine Or.inr ⟨[], item, rest, rfl, hnot, ?_⟩
      cases item with
      | string s => exact absurd rfl (hnot s)
      | _ => rfl

/-! ### Arguments -/

variable {members : List (String × Json)}

theorem arguments_of_list {items : List Json}
    (h : Json.lookup "arguments" members = some (.array items)) :
    arguments members = stringItems 0 items := by
  rw [arguments, h]

theorem arguments_of_none (h : Json.lookup "arguments" members = none) :
    arguments members = commandArguments members := by
  rw [arguments, h]

theorem arguments_of_other {value : Json} (h : Json.lookup "arguments" members = some value)
    (harray : ∀ items, value ≠ .array items) :
    arguments members = .error (.wrongType "arguments" "an array" value.describe) := by
  rw [arguments, h]
  cases value with
  | array items => exact absurd rfl (harray items)
  | _ => rfl

theorem commandArguments_of_text {command : String}
    (h : Json.lookup "command" members = some (.string command)) :
    commandArguments members =
      (ShellWords.split command).elim (.error .unsplittableCommand)
        fun words => .ok (placeholder :: words) := by
  cases hsplit : ShellWords.split command with
  | none => simp only [commandArguments, h, hsplit, Option.elim_none]
  | some words => simp only [commandArguments, h, hsplit, Option.elim_some]

theorem commandArguments_of_other {value : Json}
    (h : Json.lookup "command" members = some value) (hstring : ∀ s, value ≠ .string s) :
    commandArguments members = .error (.wrongType "command" "a string" value.describe) := by
  rw [commandArguments, h]
  cases value with
  | string s => exact absurd rfl (hstring s)
  | _ => rfl

/-- The arguments that the members give are found. -/
theorem arguments_of_gives {args : List String} (h : Gives members args) :
    arguments members = .ok args := by
  cases h with
  | listed hlist =>
    rw [arguments_of_list hlist]
    rcases stringItems_cases 0 (args.map .string) with ⟨args', hargs, hread⟩ |
      ⟨front, value, back, hsplit, hvalue, _⟩
    · have hinj : Function.Injective Json.string := fun _ _ h => Json.string.inj h
      rw [hread, List.map_injective_iff.2 hinj hargs]
    · have hmem : value ∈ args.map .string := by rw [hsplit]; simp
      obtain ⟨s, _, hs⟩ := List.mem_map.1 hmem
      exact absurd hs.symm (hvalue s)
  | split hnone htext hwords =>
    rw [arguments_of_none hnone, commandArguments_of_text htext, hwords, Option.elim_some]

/-- **What comes of the arguments**: those that the members give, or the first flaw of their
shape. -/
theorem arguments_cases (members : List (String × Json)) :
    (∃ args, Gives members args ∧ arguments members = .ok args) ∨
      ∃ m, Flaw (.object members) m ∧ m.check = 3 ∧ arguments members = .error m := by
  cases hlookup : Json.lookup "arguments" members with
  | some value =>
    by_cases harray : ∃ items, value = .array items
    · obtain ⟨items, rfl⟩ := harray
      rw [arguments_of_list hlookup]
      rcases stringItems_cases 0 items with ⟨args, rfl, hread⟩ |
        ⟨front, value, back, rfl, hvalue, hread⟩
      · exact Or.inl ⟨args, .listed hlookup, hread⟩
      · refine Or.inr ⟨_, .item hlookup ?_ hvalue, rfl, hread⟩
        rw [Nat.zero_add, List.getElem?_append_right (by simp)]
        simp
    · have hnot : ∀ items, value ≠ .array items := fun items h => harray ⟨items, h⟩
      exact Or.inr ⟨_, .unlisted hlookup hnot, rfl, arguments_of_other hlookup hnot⟩
  | none =>
    rw [arguments_of_none hlookup]
    cases hcommand : Json.lookup "command" members with
    | none => exact Or.inr ⟨_, .unsaid hlookup hcommand, rfl, by rw [commandArguments, hcommand]⟩
    | some value =>
      by_cases hstring : ∃ command, value = .string command
      · obtain ⟨command, rfl⟩ := hstring
        rw [commandArguments_of_text hcommand]
        cases hsplit : ShellWords.split command with
        | some words => exact Or.inl ⟨_, .split hlookup hcommand hsplit, rfl⟩
        | none => exact Or.inr ⟨_, .unsplittable hlookup hcommand hsplit, rfl, rfl⟩
      · have hnot : ∀ s, value ≠ .string s := fun s h => hstring ⟨s, h⟩
        exact Or.inr ⟨_, .untold hlookup hcommand hnot, rfl,
          commandArguments_of_other hcommand hnot⟩

/-- An item that is no string is found, unless an earlier one is. -/
theorem arguments_of_item {items : List Json} {position : Nat} {value : Json}
    (hlist : Json.lookup "arguments" members = some (.array items))
    (hitem : items[position]? = some value) (hvalue : ∀ s, value ≠ .string s) :
    ∃ first, first ≤ position ∧ arguments members = .error (.nonStringArgument first) := by
  rw [arguments_of_list hlist]
  rcases stringItems_cases 0 items with ⟨args, rfl, _⟩ | ⟨front, other, back, rfl, _, hread⟩
  · rw [List.getElem?_map, Option.map_eq_some_iff] at hitem
    obtain ⟨s, _, hs⟩ := hitem
    exact absurd hs.symm (hvalue s)
  · refine ⟨front.length, ?_, by rw [hread, Nat.zero_add]⟩
    -- In front of the first item that is no string there are strings only.
    by_contra hlt
    rw [List.getElem?_append_left (by simpa using hlt), List.getElem?_map,
      Option.map_eq_some_iff] at hitem
    obtain ⟨s, _, hs⟩ := hitem
    exact absurd hs.symm (hvalue s)

/-! ### The first flaw -/

/-- **Every flaw of an object shows** in the part of the judgement that looks for it, unless an
earlier item of the arguments is flawed as well. -/
theorem Flaw.shows {n : Malformation} (h : Flaw (.object members) n) :
    (n.check = 1 ∧ stringMember members "directory" = .error n) ∨
    (n.check = 2 ∧ stringMember members "file" = .error n) ∨
    (n.check = 3 ∧ ∃ m, arguments members = .error m ∧ m.Precedes n) ∨
    (n.check = 4 ∧ ∀ args, Gives members args → args.length < 2 ∧
      n = .missingCompiler args.length) := by
  cases h with
  | shape hobject => exact absurd rfl (hobject members)
  | absent hfield hnone =>
    rcases hfield with rfl | rfl
    · exact Or.inl ⟨rfl, stringMember_eq_error.2 (Or.inl ⟨hnone, rfl⟩)⟩
    · exact Or.inr (Or.inl ⟨rfl, stringMember_eq_error.2 (Or.inl ⟨hnone, rfl⟩)⟩)
  | mistyped hfield hmember hstring =>
    rcases hfield with rfl | rfl
    · exact Or.inl ⟨rfl, stringMember_eq_error.2 (Or.inr ⟨_, hmember, hstring, rfl⟩)⟩
    · exact Or.inr (Or.inl ⟨rfl, stringMember_eq_error.2 (Or.inr ⟨_, hmember, hstring, rfl⟩)⟩)
  | unlisted hmember harray =>
    exact Or.inr (Or.inr (Or.inl ⟨rfl, _, arguments_of_other hmember harray, .refl _⟩))
  | item hlist hitem hvalue =>
    obtain ⟨first, hfirst, hread⟩ := arguments_of_item hlist hitem hvalue
    refine Or.inr (Or.inr (Or.inl ⟨rfl, _, hread, ?_⟩))
    rcases Nat.eq_or_lt_of_le hfirst with rfl | hlt
    · exact .refl _
    · exact .of_place_lt rfl hlt
  | unsaid hnone hcommand =>
    refine Or.inr (Or.inr (Or.inl ⟨rfl, _, ?_, .refl _⟩))
    rw [arguments_of_none hnone, commandArguments, hcommand]
  | untold hnone hcommand hstring =>
    refine Or.inr (Or.inr (Or.inl ⟨rfl, _, ?_, .refl _⟩))
    rw [arguments_of_none hnone, commandArguments_of_other hcommand hstring]
  | unsplittable hnone hcommand hsplit =>
    refine Or.inr (Or.inr (Or.inl ⟨rfl, _, ?_, .refl _⟩))
    rw [arguments_of_none hnone, commandArguments_of_text hcommand, hsplit, Option.elim_none]
  | short hlist hlength =>
    refine Or.inr (Or.inr (Or.inr ⟨rfl, ?_⟩))
    intro args hgives
    cases hgives with
    | listed hargs =>
      rw [hlist] at hargs
      cases hargs
      rw [List.length_map] at hlength
      exact ⟨hlength, by rw [List.length_map]⟩
    | split hnone _ _ =>
      rw [hlist] at hnone
      cases hnone
  | wordless hnone hcommand hsplit =>
    refine Or.inr (Or.inr (Or.inr ⟨rfl, ?_⟩))
    intro args hgives
    cases hgives with
    | listed hargs =>
      rw [hnone] at hargs
      cases hargs
    | split _ hcommand' hsplit' =>
      rw [hcommand] at hcommand'
      cases hcommand'
      rw [hsplit] at hsplit'
      cases hsplit'
      exact ⟨Nat.lt_succ_self 1, rfl⟩

/-- Arguments that end before the compiler are a flaw. -/
theorem flaw_of_gives {args : List String} (h : Gives members args) (hlength : args.length < 2) :
    Flaw (.object members) (.missingCompiler args.length) := by
  cases h with
  | listed hlist =>
    have hflaw := Flaw.short hlist (by rwa [List.length_map])
    rwa [List.length_map] at hflaw
  | split hnone hcommand hsplit =>
    rename_i words
    -- The placeholder alone is one argument, so there is no word behind it.
    cases words with
    | nil => exact .wordless hnone hcommand hsplit
    | cons word rest =>
      simp only [List.length_cons] at hlength
      omega

/-- A member that cannot be used as a string is a flaw, which the check of that member finds. -/
theorem flaw_of_stringMember {field : String} {m : Malformation}
    (hfield : field = "directory" ∨ field = "file") (h : stringMember members field = .error m) :
    Flaw (.object members) m ∧ m.check = if field = "directory" then 1 else 2 := by
  rcases stringMember_eq_error.1 h with ⟨hnone, rfl⟩ | ⟨value, hmember, hstring, rfl⟩
  · refine ⟨.absent hfield hnone, ?_⟩
    rcases hfield with rfl | rfl <;> rfl
  · refine ⟨.mistyped hfield hmember hstring, ?_⟩
    rcases hfield with rfl | rfl <;> rfl

/-- An object is judged by its directory, then by its file, then by its arguments. -/
theorem ofJson_object (members : List (String × Json)) :
    ofJson (.object members) = (do
      let directory ← stringMember members "directory"
      let file ← stringMember members "file"
      let arguments ← arguments members
      ofCommand ⟨⟨directory⟩, ⟨file⟩, arguments⟩) :=
  rfl

/-- A flaw of the directory comes before all others. -/
theorem first_of_directory {m n : Malformation}
    (hdirectory : stringMember members "directory" = .error m) (hn : Flaw (.object members) n) :
    m.Precedes n := by
  have hcheck : m.check = 1 := (flaw_of_stringMember (Or.inl rfl) hdirectory).2
  rcases hn.shows with ⟨_, hshows⟩ | ⟨hlater, _⟩ | ⟨hlater, _⟩ | ⟨hlater, _⟩
  · rw [hdirectory] at hshows
    cases hshows
    exact .refl m
  all_goals exact .of_check_lt (by simp [hcheck, hlater])

/-- A flaw of the file comes first where the directory has none. -/
theorem first_of_file {directory : String} {m n : Malformation}
    (hdirectory : stringMember members "directory" = .ok directory)
    (hfile : stringMember members "file" = .error m) (hn : Flaw (.object members) n) :
    m.Precedes n := by
  have hcheck : m.check = 2 := (flaw_of_stringMember (Or.inr rfl) hfile).2
  rcases hn.shows with ⟨_, hshows⟩ | ⟨_, hshows⟩ | ⟨hlater, _⟩ | ⟨hlater, _⟩
  · cases hdirectory.symm.trans hshows
  · cases hfile.symm.trans hshows
    exact .refl m
  all_goals exact .of_check_lt (by simp [hcheck, hlater])

/-- A flaw of the arguments comes first where the directory and the file have none. -/
theorem first_of_arguments {directory file : String} {m n : Malformation}
    (hdirectory : stringMember members "directory" = .ok directory)
    (hfile : stringMember members "file" = .ok file) (hargs : arguments members = .error m)
    (hcheck : m.check = 3) (hn : Flaw (.object members) n) : m.Precedes n := by
  rcases hn.shows with ⟨_, hshows⟩ | ⟨_, hshows⟩ | ⟨_, m', hshows, hprecedes⟩ | ⟨hlater, _⟩
  · cases hdirectory.symm.trans hshows
  · cases hfile.symm.trans hshows
  · cases hargs.symm.trans hshows
    exact hprecedes
  · exact .of_check_lt (by simp [hcheck, hlater])

/-- A missing compiler is the only flaw where everything can be read. -/
theorem first_of_gives {directory file : String} {args : List String} {n : Malformation}
    (hdirectory : stringMember members "directory" = .ok directory)
    (hfile : stringMember members "file" = .ok file) (hargs : arguments members = .ok args)
    (hgives : Gives members args) (hn : Flaw (.object members) n) :
    (Malformation.missingCompiler args.length).Precedes n := by
  rcases hn.shows with ⟨_, hshows⟩ | ⟨_, hshows⟩ | ⟨_, m, hshows, _⟩ | ⟨_, hshort⟩
  · cases hdirectory.symm.trans hshows
  · cases hfile.symm.trans hshows
  · cases hargs.symm.trans hshows
  · rw [(hshort args hgives).2]
    exact .refl _

/-- **What comes of an object**: the command that it describes, or its first flaw. -/
theorem ofJson_object_cases (members : List (String × Json)) :
    (∃ c, Describes (.object members) c ∧ ofJson (.object members) = .ok c) ∨
      ∃ m, Flaw (.object members) m ∧ ofJson (.object members) = .error m ∧
        ∀ n, Flaw (.object members) n → m.Precedes n := by
  rw [ofJson_object]
  cases hdirectory : stringMember members "directory" with
  | error m =>
    exact Or.inr ⟨m, (flaw_of_stringMember (Or.inl rfl) hdirectory).1, rfl,
      fun _ hn => first_of_directory hdirectory hn⟩
  | ok directory =>
    cases hfile : stringMember members "file" with
    | error m =>
      exact Or.inr ⟨m, (flaw_of_stringMember (Or.inr rfl) hfile).1, rfl,
        fun _ hn => first_of_file hdirectory hfile hn⟩
    | ok file =>
      rcases arguments_cases members with ⟨args, hgives, hargs⟩ | ⟨m, hflaw, hcheck, hargs⟩
      · rw [hargs]
        by_cases hlength : args.length < 2
        · exact Or.inr ⟨.missingCompiler args.length, flaw_of_gives hgives hlength, if_pos hlength,
            fun _ hn => first_of_gives hdirectory hfile hargs hgives hn⟩
        · refine Or.inl ⟨⟨⟨directory⟩, ⟨file⟩, args⟩, ⟨members, rfl, ?_⟩, if_neg hlength⟩
          exact ⟨stringMember_eq_ok.1 hdirectory, stringMember_eq_ok.1 hfile, hgives,
            Nat.not_lt.1 hlength⟩
      · rw [hargs]
        exact Or.inr ⟨m, hflaw, rfl,
          fun _ hn => first_of_arguments hdirectory hfile hargs hcheck hn⟩

/-- **What comes of a value**: the command that it describes, or its first flaw. -/
theorem ofJson_cases (v : Json) :
    (∃ c, Describes v c ∧ ofJson v = .ok c) ∨
      ∃ m, Flaw v m ∧ ofJson v = .error m ∧ ∀ n, Flaw v n → m.Precedes n := by
  by_cases hobject : ∃ members, v = .object members
  · obtain ⟨members, rfl⟩ := hobject
    exact ofJson_object_cases members
  · have hnot : ∀ members, v ≠ .object members := fun members h => hobject ⟨members, h⟩
    refine Or.inr ⟨.notObject v.describe, .shape hnot, ?_, ?_⟩
    · cases v with
      | object members => exact absurd rfl (hnot members)
      | _ => rfl
    · intro n hn
      cases hn with
      | shape _ => exact .refl _
      | _ => exact absurd rfl (hnot _)

/-- A value that describes a command has no flaw. -/
theorem not_flaw_of_describes {v : Json} {c : CompileCommand} (h : Describes v c)
    (m : Malformation) : ¬ Flaw v m := by
  intro hflaw
  obtain ⟨members, rfl, hdirectory, hfile, hgives, hlength⟩ := h
  rcases hflaw.shows with ⟨_, hshows⟩ | ⟨_, hshows⟩ | ⟨_, n, hshows, _⟩ | ⟨_, hshort⟩
  · rw [stringMember_eq_ok.2 hdirectory] at hshows
    cases hshows
  · rw [stringMember_eq_ok.2 hfile] at hshows
    cases hshows
  · rw [arguments_of_gives hgives] at hshows
    cases hshows
  · exact absurd (hshort _ hgives).1 (Nat.not_lt.2 hlength)

/-- A value describes at most one command. -/
theorem Describes.unique {v : Json} {c d : CompileCommand} (hc : Describes v c)
    (hd : Describes v d) : c = d := by
  obtain ⟨members, rfl, hdirectory, hfile, hgives, _⟩ := hc
  obtain ⟨members', hmembers, hdirectory', hfile', hgives', _⟩ := hd
  cases hmembers
  rw [hdirectory] at hdirectory'
  rw [hfile] at hfile'
  have hargs := arguments_of_gives hgives
  rw [arguments_of_gives hgives'] at hargs
  obtain ⟨⟨directory⟩, ⟨file⟩, args⟩ := c
  obtain ⟨⟨directory'⟩, ⟨file'⟩, args'⟩ := d
  cases hdirectory'
  cases hfile'
  cases hargs
  rfl

theorem ofJson_eq_ok_iff (v : Json) (c : CompileCommand) : ofJson v = .ok c ↔ Describes v c := by
  rcases ofJson_cases v with ⟨d, hd, hjudged⟩ | ⟨m, hflaw, hjudged, _⟩
  · rw [hjudged, Except.ok.injEq]
    exact ⟨fun h => h ▸ hd, fun h => hd.unique h⟩
  · rw [hjudged]
    exact ⟨nofun, fun h => absurd hflaw (not_flaw_of_describes h m)⟩

/-- **The malformation of a record is its first flaw.** -/
theorem ofJson_eq_error_iff (v : Json) (m : Malformation) :
    ofJson v = .error m ↔ Flaw v m ∧ ∀ n, Flaw v n → m.NotAfter n := by
  rcases ofJson_cases v with ⟨c, hc, hjudged⟩ | ⟨first, hflaw, hjudged, hfirst⟩
  · rw [hjudged]
    exact ⟨nofun, fun h => absurd h.1 (not_flaw_of_describes hc m)⟩
  · rw [hjudged, Except.error.injEq]
    constructor
    · rintro rfl
      exact ⟨hflaw, fun n hn => (hfirst n hn).1⟩
    · rintro ⟨hm, hleast⟩
      exact ((hfirst m hm).2 (hleast first hflaw)).symm

/-! ### What single malformations say -/

/-- The item that is named is the first one that is no string. -/
theorem item_of_ofJson {v : Json} {position : Nat}
    (h : ofJson v = .error (.nonStringArgument position)) :
    ∃ members items value, v = .object members ∧
      Json.lookup "arguments" members = some (.array items) ∧
      items[position]? = some value ∧ (∀ s, value ≠ .string s) ∧
      ∀ earlier < position, ∃ s, items[earlier]? = some (.string s) := by
  obtain ⟨hflaw, hfirst⟩ := (ofJson_eq_error_iff v _).1 h
  cases hflaw with
  | item hlist hitem hvalue =>
    rename_i members items value
    refine ⟨members, items, value, rfl, hlist, hitem, hvalue, ?_⟩
    intro earlier hearlier
    obtain ⟨hlength, _⟩ := List.getElem?_eq_some_iff.1 hitem
    obtain ⟨other, hthere⟩ : ∃ other, items[earlier]? = some other :=
      ⟨_, List.getElem?_eq_getElem (Nat.lt_trans hearlier hlength)⟩
    by_contra hnot
    have hother : ∀ s, other ≠ .string s := fun s hs => hnot ⟨s, hs ▸ hthere⟩
    rcases hfirst _ (.item hlist hthere hother) with hlt | ⟨_, hle⟩
    · exact Nat.lt_irrefl _ hlt
    · exact Nat.not_lt.2 hle hearlier

/-- The length that is named is that of the arguments, which are all strings. -/
theorem length_of_ofJson {v : Json} {length : Nat}
    (h : ofJson v = .error (.missingCompiler length)) :
    ∃ members args, v = .object members ∧ Gives members args ∧ args.length = length ∧
      length < 2 := by
  obtain ⟨hflaw, hfirst⟩ := (ofJson_eq_error_iff v _).1 h
  have hobject : ∃ members, v = .object members := by
    cases hflaw with
    | short _ _ => exact ⟨_, rfl⟩
    | wordless _ _ _ => exact ⟨_, rfl⟩
  obtain ⟨members, rfl⟩ := hobject
  rcases arguments_cases members with ⟨args, hgives, _⟩ | ⟨m, hm, hcheck, _⟩
  · rcases hflaw.shows with ⟨hcheck, _⟩ | ⟨hcheck, _⟩ | ⟨hcheck, _⟩ | ⟨_, hshort⟩
    · cases hcheck
    · cases hcheck
    · cases hcheck
    · obtain ⟨hlt, heq⟩ := hshort args hgives
      cases heq
      exact ⟨members, args, rfl, hgives, rfl, hlt⟩
  · -- A flaw in the shape of the arguments would have been found before.
    have hlast : (Malformation.missingCompiler length).check = 4 := rfl
    rcases hfirst m hm with hlt | ⟨heq, _⟩ <;> omega

/-- Where there are arguments, of whatever kind, the command text does not matter. -/
theorem ofJson_congr_of_arguments {members others : List (String × Json)}
    (h : Json.lookup "arguments" members ≠ none)
    (hsame : ∀ name, name ≠ "command" → Json.lookup name others = Json.lookup name members) :
    ofJson (.object others) = ofJson (.object members) := by
  have hmember : ∀ field, field ≠ "command" →
      stringMember others field = stringMember members field := by
    intro field hfield
    rw [stringMember, stringMember, hsame field hfield]
  have harguments : arguments others = arguments members := by
    rw [arguments, arguments, hsame "arguments" (by decide)]
    cases hlookup : Json.lookup "arguments" members with
    | none => exact absurd hlookup h
    | some value => cases value <;> rfl
  rw [ofJson, ofJson, hmember "directory" (by decide), hmember "file" (by decide), harguments]

/-- **The grammar of records, exactly.**  A value is judged to be a command exactly when it is an
object with the strings `directory` and `file` and either a list `arguments` of at least two
strings or, without a member of that name, a text `command` with at least one word; the command
then holds these texts as they are, with the placeholder in front of words.  Any other value is
malformed in the way of its first flaw: that of the earliest check, and of several items that are
no strings the first.  A member `arguments` of whatever kind keeps `command` from being looked
at. -/
theorem grammar_exact (v : Json) :
    (∀ c, ofJson v = .ok c ↔
      ∃ members, v = .object members ∧
        Json.lookup "directory" members = some (.string c.directory.text) ∧
        Json.lookup "file" members = some (.string c.file.text) ∧
        ((Json.lookup "arguments" members = some (.array (c.arguments.map .string)) ∧
            2 ≤ c.arguments.length) ∨
          (Json.lookup "arguments" members = none ∧ ∃ command word words,
            Json.lookup "command" members = some (.string command) ∧
            ShellWords.split command = some (word :: words) ∧
            c.arguments = "sh" :: word :: words))) ∧
    (∀ m, ofJson v = .error m ↔ Flaw v m ∧ ∀ n, Flaw v n → m.NotAfter n) ∧
    (∀ position, ofJson v = .error (.nonStringArgument position) →
      ∃ members items value, v = .object members ∧
        Json.lookup "arguments" members = some (.array items) ∧
        items[position]? = some value ∧ (∀ s, value ≠ .string s) ∧
        ∀ earlier < position, ∃ s, items[earlier]? = some (.string s)) ∧
    (∀ length, ofJson v = .error (.missingCompiler length) →
      ∃ members args, v = .object members ∧ Gives members args ∧ args.length = length ∧
        length < 2) ∧
    (∀ members others, v = .object members → Json.lookup "arguments" members ≠ none →
      (∀ name, name ≠ "command" → Json.lookup name others = Json.lookup name members) →
      ofJson (.object others) = ofJson v) := by
  refine ⟨?_, ofJson_eq_error_iff v, fun _ => item_of_ofJson, fun _ => length_of_ofJson, ?_⟩
  · intro c
    rw [ofJson_eq_ok_iff]
    constructor
    · rintro ⟨members, hv, hdirectory, hfile, hgives, hlength⟩
      refine ⟨members, hv, hdirectory, hfile, ?_⟩
      cases hargs : c.arguments with
      | nil => simp [hargs] at hlength
      | cons first rest =>
        rw [hargs] at hgives hlength
        cases hgives with
        | listed hlist => exact Or.inl ⟨hlist, hlength⟩
        | split hnone hcommand hsplit =>
          cases rest with
          | nil => simp at hlength
          | cons word words => exact Or.inr ⟨hnone, _, word, words, hcommand, hsplit, rfl⟩
    · rintro ⟨members, hv, hdirectory, hfile, hargs⟩
      refine ⟨members, hv, hdirectory, hfile, ?_⟩
      rcases hargs with ⟨hlist, hlength⟩ | ⟨hnone, command, word, words, hcommand, hsplit, hargs⟩
      · exact ⟨.listed hlist, hlength⟩
      · rw [hargs]
        exact ⟨.split hnone hcommand hsplit, by simp⟩
  · rintro members others rfl harguments hsame
    exact ofJson_congr_of_arguments harguments hsame

/-- A record with a good command text beside `arguments` that are no list: the text does not make
up for them. -/
theorem grammar_exact_null_arguments :
    ofJson (.object [("arguments", .null), ("command", .string "gcc -c a.c"),
        ("directory", .string "/p"), ("file", .string "a.c")]) =
      .error (.wrongType "arguments" "an array" "null") := by
  let members : List (String × Json) :=
    [("arguments", .null), ("directory", .string "/p"), ("file", .string "a.c")]
  have hsame := (grammar_exact (.object members)).2.2.2.2 members
    [("arguments", .null), ("command", .string "gcc -c a.c"), ("directory", .string "/p"),
      ("file", .string "a.c")] rfl (by simp [members, Json.lookup])
    (by
      intro name hname
      have hother : ¬ "command" = name := fun h => hname h.symm
      simp only [Json.lookup, members, if_neg hother])
  rw [hsame]
  rfl

end Record

end CompileIndex

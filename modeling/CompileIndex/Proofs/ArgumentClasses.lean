import CompileIndex.Configuration.File
import CompileIndex.Proofs.Resolving
import CompileIndex.Text.Utf8
import Mathlib.Data.List.Forall2
import Mathlib.Logic.ExistsUnique
import Mathlib.Tactic.SplitIfs

/-!
# The classes of arguments

One pass sorts the arguments behind the compiler.  What it gathers is said here argument by
argument: the class of an argument hangs on how it starts, every argument is of just one class, and
what is gathered of a class is what the arguments of this class hold, in their order and as often as
they stand there.  Only of the standard options all but the first are left out.

* `OptionSyntax.Starts`, `OptionSyntax.behind?` — how an argument starts, and what stands behind;
* `dropBytes?_eq_some_iff`, `standardText_eq_iff` — a text cut behind some bytes;
* `ArgumentClass.Describes`, `OptionSyntax.classify_eq_iff` — what each class says of an argument,
  and that an argument is sorted into the one class that describes it;
* `SortedArguments.foldl_add` — what a pass adds to what was gathered before it;
* `CompileCommand.sorted_exact` — the sorted arguments of a command, and its configuration.
-/

namespace CompileIndex

open Text (Utf8.size)

/-! ### How an argument starts -/

namespace OptionSyntax

variable {o : OptionSyntax} {letters argument : String}

/-- That an argument starts with the mark of options and some letters. -/
def Starts (o : OptionSyntax) (letters argument : String) : Prop :=
  o.mark :: letters.toList <+: argument.toList

instance (o : OptionSyntax) (letters argument : String) : Decidable (o.Starts letters argument) :=
  inferInstanceAs (Decidable (_ <+: _))

/-- What stands behind the mark and the letters that an argument starts with. -/
def behind? (o : OptionSyntax) (letters argument : String) : Option String :=
  if o.Starts letters argument then
    some (String.ofList (argument.toList.drop (o.mark :: letters.toList).length))
  else none

theorem behind?_eq_some_iff {text : String} :
    o.behind? letters argument = some text ↔
      argument.toList = o.mark :: letters.toList ++ text.toList := by
  unfold behind?
  split_ifs with hstarts
  · obtain ⟨rest, hrest⟩ := hstarts
    rw [← hrest, List.drop_left, List.append_right_inj, Option.some.injEq, ← String.toList_inj,
      String.toList_ofList]
  · constructor
    · nofun
    · intro h
      exact absurd ⟨_, h.symm⟩ hstarts

/-- Behind the mark, the letters are those that come next. -/
theorem starts_mark {rest : List Char} (h : argument.toList = o.mark :: rest) :
    o.Starts letters argument ↔ letters.toList <+: rest := by
  rw [Starts, h, List.cons_prefix_cons]
  exact and_iff_right rfl

end OptionSyntax

/-! ### Texts cut behind some bytes -/

theorem size_cons (c : Char) (cs : List Char) :
    Utf8.size (c :: cs) = c.utf8Size + Utf8.size cs :=
  rfl

theorem eq_nil_of_size_eq_zero {cs : List Char} (h : Utf8.size cs = 0) : cs = [] := by
  cases cs with
  | nil => rfl
  | cons c cs =>
    have hpos : 0 < c.utf8Size := c.utf8Size_pos
    rw [size_cons] at h
    omega

/-- **A text without its first bytes** is what stands behind characters of that many bytes. -/
theorem dropBytes?_eq_some_iff {n : Nat} {cs rest : List Char} :
    dropBytes? n cs = some rest ↔ ∃ front, cs = front ++ rest ∧ Utf8.size front = n := by
  induction n, cs using dropBytes?.induct with
  | case1 cs =>
    rw [dropBytes?, Option.some.injEq]
    constructor
    · rintro rfl
      exact ⟨[], rfl, rfl⟩
    · rintro ⟨front, rfl, hsize⟩
      rw [eq_nil_of_size_eq_zero hsize, List.nil_append]
  | case2 n =>
    rw [dropBytes?]
    constructor
    · nofun
    · rintro ⟨front, hnil, hsize⟩
      rw [(List.append_eq_nil_iff.1 hnil.symm).1] at hsize
      cases hsize
  | case3 n c cs hfits ih =>
    rw [dropBytes?, if_pos hfits, ih]
    constructor
    · rintro ⟨front, rfl, hsize⟩
      refine ⟨c :: front, rfl, ?_⟩
      rw [size_cons, hsize, Nat.add_sub_cancel' hfits]
    · rintro ⟨front, heq, hsize⟩
      cases front with
      | nil => cases hsize
      | cons d front =>
        cases heq
        refine ⟨front, rfl, ?_⟩
        rw [size_cons] at hsize
        exact Nat.eq_sub_of_add_eq' hsize
  | case4 n c cs hlong =>
    rw [dropBytes?, if_neg hlong]
    constructor
    · nofun
    · rintro ⟨front, heq, hsize⟩
      cases front with
      | nil => cases hsize
      | cons d front =>
        cases heq
        rw [size_cons] at hsize
        omega

/-- That a text is what an argument holds from its byte 5 on; it is empty when the argument is
shorter or a character straddles the cut. -/
def FromFifthByte (argument text : List Char) : Prop :=
  (∃ front, argument = front ++ text ∧ Utf8.size front = 5) ∨
    (text = [] ∧ ¬ ∃ front rest, argument = front ++ rest ∧ Utf8.size front = 5)

theorem standardText_eq_iff {argument text : List Char} :
    standardText argument = text ↔ FromFifthByte argument text := by
  unfold standardText FromFifthByte
  cases hdrop : dropBytes? 5 argument with
  | some rest =>
    have hcut := dropBytes?_eq_some_iff.1 hdrop
    have hunique : (∃ front, argument = front ++ text ∧ Utf8.size front = 5) ↔ rest = text := by
      rw [← dropBytes?_eq_some_iff, hdrop, Option.some.injEq]
    rw [hunique, Option.getD_some]
    constructor
    · exact Or.inl
    · rintro (h | ⟨_, hnone⟩)
      · exact h
      · obtain ⟨front, hfront⟩ := hcut
        exact absurd ⟨front, rest, hfront⟩ hnone
  | none =>
    have hnone : ¬ ∃ front rest, argument = front ++ rest ∧ Utf8.size front = 5 := by
      rintro ⟨front, rest, hfront⟩
      have hsome := dropBytes?_eq_some_iff.2 ⟨front, hfront⟩
      rw [hdrop] at hsome
      cases hsome
    rw [Option.getD_none]
    constructor
    · rintro rfl
      exact Or.inr ⟨rfl, hnone⟩
    · rintro (⟨front, hfront⟩ | ⟨htext, _⟩)
      · exact absurd ⟨front, text, hfront⟩ hnone
      · exact htext.symm

/-! ### Classes -/

/-- What a class says of an argument. -/
def ArgumentClass.Describes (o : OptionSyntax) (argument : String) : ArgumentClass → Prop
  | operand => ¬ o.Starts "" argument
  | includePath path => o.behind? "I" argument = some (String.ofList path)
  | definition text => o.behind? "D" argument = some (String.ofList text)
  | standard text => o.Starts "std" argument ∧ FromFifthByte argument.toList text
  | output => o.Starts "o" argument
  | passed => o.Starts "" argument ∧ ¬ o.Starts "I" argument ∧ ¬ o.Starts "D" argument ∧
      ¬ o.Starts "o" argument ∧ ¬ o.Starts "std" argument

/-- The include path that a class holds. -/
@[simp] def ArgumentClass.includePath? : ArgumentClass → Option (List Char)
  | includePath path => some path
  | _ => none

/-- The definition that a class holds. -/
@[simp] def ArgumentClass.definition? : ArgumentClass → Option (List Char)
  | definition text => some text
  | _ => none

namespace OptionSyntax

/-- An argument is described by the class that it is sorted into. -/
theorem describes_classify (o : OptionSyntax) (argument : String) :
    (o.classify argument.toList).Describes o argument := by
  unfold classify
  split
  · next h => simp [ArgumentClass.Describes, Starts, h]
  · next c rest h =>
    split_ifs with hmark
    · subst hmark
      split
      · exact behind?_eq_some_iff.2 (by simp [h])
      · exact behind?_eq_some_iff.2 (by simp [h])
      · exact ⟨(starts_mark h).2 ⟨_, rfl⟩, standardText_eq_iff.1 rfl⟩
      · exact (starts_mark h).2 ⟨_, rfl⟩
      · next hI hD hstd ho =>
        simp only [ArgumentClass.Describes, starts_mark h]
        refine ⟨⟨rest, rfl⟩, ?_, ?_, ?_, ?_⟩
        · rintro ⟨path, hpath⟩
          exact hI path hpath.symm
        · rintro ⟨text, htext⟩
          exact hD text htext.symm
        · rintro ⟨text, htext⟩
          exact ho text htext.symm
        · rintro ⟨text, htext⟩
          exact hstd text htext.symm
    · intro hstarts
      rw [Starts, h, List.cons_prefix_cons] at hstarts
      exact hmark hstarts.1.symm

/-- No argument is sorted into a class that does not describe it. -/
theorem classify_of_describes {o : OptionSyntax} {argument : String} {k : ArgumentClass}
    (h : k.Describes o argument) : o.classify argument.toList = k := by
  cases k with
  | operand =>
    cases hcs : argument.toList with
    | nil => rfl
    | cons c rest =>
      have hmark : c ≠ o.mark := by
        rintro rfl
        exact h ((starts_mark hcs).2 ⟨rest, rfl⟩)
      exact if_neg hmark
  | includePath path =>
    simp only [behind?_eq_some_iff.1 h, String.toList_ofList]
    exact if_pos rfl
  | definition text =>
    simp only [behind?_eq_some_iff.1 h, String.toList_ofList]
    exact if_pos rfl
  | standard text =>
    obtain ⟨⟨rest, hrest⟩, htext⟩ := h
    rw [← standardText_eq_iff.2 htext, ← hrest]
    exact if_pos rfl
  | output =>
    obtain ⟨rest, hrest⟩ := h
    rw [← hrest]
    exact if_pos rfl
  | passed =>
    obtain ⟨⟨rest, hrest⟩, hI, hD, ho, hstd⟩ := h
    have hcs : argument.toList = o.mark :: rest := hrest.symm
    rw [starts_mark hcs] at hI hD ho hstd
    rw [hcs]
    refine (if_pos rfl).trans ?_
    split
    · exact absurd ⟨_, rfl⟩ hI
    · exact absurd ⟨_, rfl⟩ hD
    · exact absurd ⟨_, rfl⟩ hstd
    · exact absurd ⟨_, rfl⟩ ho
    · rfl

/-- **An argument is sorted into the one class that describes it.** -/
theorem classify_eq_iff {o : OptionSyntax} {argument : String} {k : ArgumentClass} :
    o.classify argument.toList = k ↔ k.Describes o argument := by
  constructor
  · rintro rfl
    exact o.describes_classify argument
  · exact classify_of_describes

/-- Where some letters mark the arguments of one class, what stands behind them in an argument is
what its class holds. -/
theorem behind?_eq_held {o : OptionSyntax} {letters : String} {k : List Char → ArgumentClass}
    {held : ArgumentClass → Option (List Char)}
    (hmark : ∀ text argument, (k text).Describes o argument ↔
      o.behind? letters argument = some (String.ofList text))
    (hheld : ∀ c text, held c = some text ↔ c = k text) (argument : String) :
    o.behind? letters argument = (held (o.classify argument.toList)).map String.ofList := by
  cases hk : held (o.classify argument.toList) with
  | some text => exact (hmark text argument).1 (classify_eq_iff.1 ((hheld _ text).1 hk))
  | none =>
    cases hbehind : o.behind? letters argument with
    | none => rfl
    | some text =>
      rw [← String.ofList_toList (s := text), ← hmark, ← classify_eq_iff, ← hheld, hk] at hbehind
      cases hbehind

/-- The include path of an argument is that of its class. -/
theorem behind?_includePath (o : OptionSyntax) (argument : String) :
    o.behind? "I" argument = (o.classify argument.toList).includePath?.map String.ofList :=
  behind?_eq_held (k := .includePath) (fun _ _ => .rfl) (fun c _ => by cases c <;> simp) argument

/-- The definition of an argument is that of its class. -/
theorem behind?_definition (o : OptionSyntax) (argument : String) :
    o.behind? "D" argument = (o.classify argument.toList).definition?.map String.ofList :=
  behind?_eq_held (k := .definition) (fun _ _ => .rfl) (fun c _ => by cases c <;> simp) argument

/-- Those that start as a standard option does are the standard options. -/
theorem starts_standard_iff {o : OptionSyntax} {argument : String} :
    o.Starts "std" argument ↔
      o.classify argument.toList = .standard (standardText argument.toList) := by
  rw [classify_eq_iff]
  exact (and_iff_left (standardText_eq_iff.1 rfl)).symm

end OptionSyntax

/-! ### What a pass gathers -/

namespace SortedArguments

variable {o : OptionSyntax} {directory : Path}

/-- What arguments hold, class by class. -/
def gathered (o : OptionSyntax) (directory : Path) (arguments : List String) :
    SortedArguments where
  includePaths :=
    (arguments.filterMap (o.behind? "I")).map fun path => (directory.resolve ⟨path⟩).text
  definitions := arguments.filterMap (o.behind? "D")
  standard := (arguments.find? fun a => o.Starts "std" a).map fun a =>
    String.ofList (standardText a.toList)
  passed := arguments.filter fun a => o.Starts "" a ∧ ¬ o.Starts "I" a ∧ ¬ o.Starts "D" a ∧
    ¬ o.Starts "o" a ∧ ¬ o.Starts "std" a

/-- What was gathered later, behind what was gathered before. -/
def append (done more : SortedArguments) : SortedArguments where
  includePaths := done.includePaths ++ more.includePaths
  definitions := done.definitions ++ more.definitions
  standard := done.standard.or more.standard
  passed := done.passed ++ more.passed

theorem append_assoc (a b c : SortedArguments) : (a.append b).append c = a.append (b.append c) := by
  simp [append, Option.or_assoc]

theorem gathered_append (before after : List String) :
    gathered o directory (before ++ after) =
      (gathered o directory before).append (gathered o directory after) := by
  simp [append, gathered, List.find?_append, Option.map_or]

/-- One argument more is gathered behind the others. -/
theorem add_eq (done : SortedArguments) (argument : String) :
    done.add o directory argument = done.append (gathered o directory [argument]) := by
  have hpassed : (o.Starts "" argument ∧ ¬ o.Starts "I" argument ∧ ¬ o.Starts "D" argument ∧
      ¬ o.Starts "o" argument ∧ ¬ o.Starts "std" argument) ↔
      o.classify argument.toList = .passed := by
    rw [OptionSyntax.classify_eq_iff]
    rfl
  simp only [add, append, gathered, List.filterMap_cons, List.filterMap_nil, List.find?_cons,
    List.find?_nil, List.filter_cons, List.filter_nil, OptionSyntax.behind?_includePath,
    OptionSyntax.behind?_definition, hpassed]
  simp only [OptionSyntax.starts_standard_iff]
  cases hk : o.classify argument.toList with
  | operand => simp
  | includePath path => simp
  | definition text => simp
  | standard text =>
    have htext : standardText argument.toList = text :=
      standardText_eq_iff.2 (OptionSyntax.classify_eq_iff.1 hk).2
    -- Only a command without a standard takes one.
    obtain ⟨paths, definitions, standard, passed⟩ := done
    cases standard with
    | none => simp [htext]
    | some first => simp
  | output => simp
  | passed => simp

/-- **What a pass adds** to what was gathered before it. -/
theorem foldl_add (done : SortedArguments) (arguments : List String) :
    arguments.foldl (add o directory) done = done.append (gathered o directory arguments) := by
  induction arguments generalizing done with
  | nil => simp [append, gathered]
  | cons argument arguments ih =>
    rw [List.foldl_cons, ih, add_eq, append_assoc, ← gathered_append, List.singleton_append]

end SortedArguments

/-! ### Standards -/

/-- A spelling stands for the standard that is spelled so, and for C++20 if there is none. -/
theorem Standard.resolve_cases (spelling : Option String) :
    (∃ s : Standard, spelling = some s.text ∧ resolve spelling = s) ∨
      ((¬ ∃ s : Standard, spelling = some s.text) ∧ resolve spelling = .cpp20) := by
  cases spelling with
  | none => exact Or.inr ⟨nofun, rfl⟩
  | some t =>
    cases hfind : ofText? t with
    | some s =>
      have htext : s.text = t := by simpa using List.find?_some hfind
      refine Or.inl ⟨s, congrArg some htext.symm, ?_⟩
      rw [resolve, Option.bind_some, hfind, Option.getD_some]
    | none =>
      refine Or.inr ⟨?_, ?_⟩
      · rintro ⟨s, hs⟩
        cases hs
        rw [ofText?_text] at hfind
        cases hfind
      · rw [resolve, Option.bind_some, hfind]
        rfl

/-! ### Commands -/

namespace CompileCommand

/-- What is gathered from the arguments behind the compiler. -/
theorem sorted_eq_gathered (c : CompileCommand) :
    c.sorted = .gathered (.ofCommand c) c.directory (c.arguments.drop 2) := by
  rw [sorted, SortedArguments.foldl_add]
  simp [SortedArguments.append, SortedArguments.empty]

/-- Every include path stands for what is behind its mark, below the directory of the command. -/
theorem resolvesTo_includePaths (c : CompileCommand) :
    List.Forall₂ (fun path target => c.directory.ResolvesTo ⟨path⟩ ⟨target⟩)
      ((c.arguments.drop 2).filterMap ((OptionSyntax.ofCommand c).behind? "I"))
      c.sorted.includePaths := by
  rw [sorted_eq_gathered, SortedArguments.gathered, List.forall₂_map_right_iff, List.forall₂_same]
  intro path _
  exact c.directory.resolvesTo_resolve ⟨path⟩

/-- The standard of a command is spelled in the first standard option, if there is one. -/
theorem standard_cases (c : CompileCommand) :
    (∃ front first back text, c.arguments.drop 2 = front ++ first :: back ∧
        (¬ ∃ a ∈ front, (OptionSyntax.ofCommand c).Starts "std" a) ∧
        (OptionSyntax.ofCommand c).Starts "std" first ∧ FromFifthByte first.toList text ∧
        c.sorted.standard = some (String.ofList text)) ∨
      ((¬ ∃ a ∈ c.arguments.drop 2, (OptionSyntax.ofCommand c).Starts "std" a) ∧
        c.sorted.standard = none) := by
  rw [sorted_eq_gathered, SortedArguments.gathered]
  cases hfind : (c.arguments.drop 2).find? fun a => (OptionSyntax.ofCommand c).Starts "std" a with
  | some first =>
    obtain ⟨hfirst, front, back, hsplit, hfront⟩ := List.find?_eq_some_iff_append.1 hfind
    refine Or.inl ⟨front, first, back, _, hsplit, ?_, of_decide_eq_true hfirst,
      standardText_eq_iff.1 rfl, rfl⟩
    rintro ⟨a, ha, hstarts⟩
    simpa [hstarts] using hfront a ha
  | none =>
    refine Or.inr ⟨?_, rfl⟩
    rintro ⟨a, ha, hstarts⟩
    simpa [hstarts] using List.find?_eq_none.1 hfind a ha

/-- **The arguments of a command, sorted.**  The arguments behind the compiler are told apart by how
they start, with the mark of the compiler's option syntax and up to three letters; just one class
describes each of them.  Include paths, definitions and what is passed on are those of the arguments
of their class, in order and with repetitions; an include path is itself, if it is absolute, and
else the one below the directory of the command.  The standard is what the first standard option
holds from its byte 5 on, and there is none just when no argument is such an option.  The
configuration of the command's file holds all this, the compiler at position 1, and the standard
that is spelled so, else C++20. -/
theorem sorted_exact (c : CompileCommand) (target : BuildTarget) :
    let o := OptionSyntax.ofCommand c
    let arguments := c.arguments.drop 2
    let configuration := FileConfiguration.ofCommand c target
    o.mark = (if CompilerFamily.lowered c.compilerBaseName = ['c', 'l'] then '/' else '-') ∧
      (∀ a : String, ∃! k : ArgumentClass, k.Describes o a) ∧
      (c.sorted.includePaths =
          (arguments.filterMap (o.behind? "I")).map fun path => (c.directory.resolve ⟨path⟩).text) ∧
      List.Forall₂ (fun path target => c.directory.ResolvesTo ⟨path⟩ ⟨target⟩)
        (arguments.filterMap (o.behind? "I")) c.sorted.includePaths ∧
      c.sorted.definitions = arguments.filterMap (o.behind? "D") ∧
      (c.sorted.passed = arguments.filter fun a => o.Starts "" a ∧ ¬ o.Starts "I" a ∧
          ¬ o.Starts "D" a ∧ ¬ o.Starts "o" a ∧ ¬ o.Starts "std" a) ∧
      ((∃ front first back text, arguments = front ++ first :: back ∧
          (¬ ∃ a ∈ front, o.Starts "std" a) ∧ o.Starts "std" first ∧
          FromFifthByte first.toList text ∧ c.sorted.standard = some (String.ofList text)) ∨
        ((¬ ∃ a ∈ arguments, o.Starts "std" a) ∧ c.sorted.standard = none)) ∧
      configuration.includePath = c.sorted.includePaths ∧
      configuration.definitions = c.sorted.definitions ∧
      configuration.compilerArgs = c.sorted.passed ∧
      configuration.compilerPath = (c.arguments[1]?).getD "" ∧
      ((∃ s : Standard, c.sorted.standard = some s.text ∧ configuration.standard = s) ∨
        ((¬ ∃ s : Standard, c.sorted.standard = some s.text) ∧
          configuration.standard = .cpp20)) := by
  intro o arguments configuration
  have hmark : o.mark =
      (if CompilerFamily.lowered c.compilerBaseName = ['c', 'l'] then '/' else '-') := by
    show (OptionSyntax.ofCommand c).mark = _
    unfold OptionSyntax.ofCommand
    split_ifs <;> rfl
  have hclasses : ∀ a : String, ∃! k : ArgumentClass, k.Describes o a := by
    intro a
    refine ⟨o.classify a.toList, o.describes_classify a, ?_⟩
    intro k hk
    exact (OptionSyntax.classify_of_describes hk).symm
  have hgathered := c.sorted_eq_gathered
  refine ⟨hmark, hclasses, ?_, c.resolvesTo_includePaths, ?_, ?_, c.standard_cases, rfl, rfl, rfl, rfl,
    Standard.resolve_cases _⟩
  · exact congrArg SortedArguments.includePaths hgathered
  · exact congrArg SortedArguments.definitions hgathered
  · exact congrArg SortedArguments.passed hgathered

/-- Options between operands, for a compiler with dashes: the first standard option is taken though
it names no standard, and an include path is kept twice. -/
example :
    (CompileCommand.sorted ⟨⟨"/p"⟩, ⟨"a.c"⟩,
      ["sh", "cc", "-Ia", "a.c", "-DX=1", "-stdlib=x", "-std=c11", "-o", "-g", "-Ia"]⟩) =
      ⟨["/p/a", "/p/a"], ["X=1"], some "ib=x", ["-g"]⟩ := by
  decide +kernel

end CompileCommand

end CompileIndex

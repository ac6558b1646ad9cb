import CompileIndex.Configuration.File
import Mathlib.Data.List.Basic
import Mathlib.Data.List.DropRight

/-!
# How compilers are called

Which syntax the options of a command have hangs on what its compiler is called, and of that on the
name alone: without the folders in front of it, without an extension, and in whatever case its
letters are.  A name is cut out from the right, at the last separator and at the last dot, so it can
be told apart from what is cut off by how the whole is put together.

* `CompileCommand.Folder`, `CompileCommand.FileName` — what may stand in front of a name, and names;
* `CompileCommand.lastName_eq_iff`, `CompileCommand.dropExtension_cases` — a name without folders,
  and without an extension;
* `CompileCommand.IsCl` — the ways to call `cl`;
* `CompileCommand.Renamed`, `CompileCommand.lowered_baseNameOf` — other ways to call a compiler, and
  what they leave of its name;
* `CompileCommand.option_syntax_exact` — which commands mark their options with slashes, and what
  stays when a compiler is called in another way.
-/

namespace CompileIndex

/-! ### Letters in either case -/

/-- In lower case the letters from `A` to `Z` are 32 places further on. -/
theorem toNat_toLower (c : Char) :
    c.toLower.toNat = if 65 ≤ c.toNat ∧ c.toNat ≤ 90 then c.toNat + 32 else c.toNat := by
  have hupper : (c.val ≥ 'A'.val ∧ c.val ≤ 'Z'.val) ↔ (65 ≤ c.toNat ∧ c.toNat ≤ 90) := Iff.rfl
  unfold Char.toLower
  split
  · next h =>
    have hbound : c.toNat ≤ 90 := (hupper.1 h).2
    have hfits : c.toNat + 32 < 4294967296 := by omega
    rw [if_pos (hupper.1 h)]
    show (c.val + ('a'.val - 'A'.val)).toNat = c.toNat + 32
    rw [UInt32.toNat_add]
    exact Nat.mod_eq_of_lt hfits
  · next h => rw [if_neg fun hc => h (hupper.2 hc)]

/-- A letter comes from itself and from its capital. -/
theorem toLower_eq_letter {c letter capital : Char} (hcapital : capital.toNat + 32 = letter.toNat)
    (hletter : 97 ≤ letter.toNat ∧ letter.toNat ≤ 122) :
    c.toLower = letter ↔ c = letter ∨ c = capital := by
  rw [← Char.toNat_inj, ← Char.toNat_inj, ← Char.toNat_inj, toNat_toLower]
  split <;> omega

/-- A sign that stands before the letters comes from itself alone. -/
theorem toLower_eq_sign {c sign : Char}
    (h : sign.toNat < 65 ∨ (90 < sign.toNat ∧ sign.toNat < 97)) : c.toLower = sign ↔ c = sign := by
  rw [← Char.toNat_inj, ← Char.toNat_inj, toNat_toLower]
  split <;> omega

namespace CompileCommand

/-! ### Names without folders -/

/-- That a text may stand in front of a name: nothing, or what ends with a separator. -/
def Folder (folder : List Char) : Prop :=
  folder = [] ∨ ∃ front separator, folder = front ++ [separator] ∧ isSeparator separator = true

/-- That a text is a name: no separator is in it. -/
def FileName (name : List Char) : Prop :=
  ∀ c ∈ name, isSeparator c = false

instance (name : List Char) : Decidable (FileName name) :=
  List.decidableBAll (fun c => isSeparator c = false) name

/-- A folder in front makes no difference to the last name. -/
theorem lastName_append {folder : List Char} (h : Folder folder) (rest : List Char) :
    lastName (folder ++ rest) = lastName rest := by
  rcases h with rfl | ⟨front, separator, rfl, hseparator⟩
  · rfl
  · have hstop : (front ++ [separator]).reverse.takeWhile (fun c => !isSeparator c) = [] := by
      rw [List.reverse_append, List.reverse_singleton, List.singleton_append]
      exact List.takeWhile_cons_of_neg (by simp [hseparator])
    rw [lastName, lastName, List.reverse_append, List.takeWhile_append, hstop]
    split
    · next hall =>
      have hwhole := List.IsPrefix.eq_of_length (List.takeWhile_prefix _) hall
      rw [List.append_nil, hwhole]
    · rfl

/-- A name is its own last name. -/
theorem lastName_of_fileName {name : List Char} (h : FileName name) : lastName name = name := by
  have hkept : name.rtakeWhile (fun c => !isSeparator c) = name := by
    rw [List.rtakeWhile_eq_self_iff]
    intro c hc
    simp [h c hc]
  exact hkept

/-- **Any text is a folder and a name.** -/
theorem exists_folder (cs : List Char) :
    ∃ folder, cs = folder ++ lastName cs ∧ Folder folder ∧ FileName (lastName cs) := by
  refine ⟨cs.rdropWhile fun c => !isSeparator c, List.rdropWhile_append_rtakeWhile.symm, ?_, ?_⟩
  · by_cases hnil : (cs.rdropWhile fun c => !isSeparator c) = []
    · exact Or.inl hnil
    · have hlast := List.rdropWhile_last_not (fun c => !isSeparator c) cs hnil
      refine Or.inr ⟨_, _, (List.dropLast_append_getLast hnil).symm, ?_⟩
      simpa using hlast
  · intro c hc
    simpa using List.mem_rtakeWhile_imp hc

/-- **The last name** is what stands behind a folder. -/
theorem lastName_eq_iff {cs name : List Char} :
    lastName cs = name ↔ ∃ folder, cs = folder ++ name ∧ Folder folder ∧ FileName name := by
  constructor
  · rintro rfl
    exact exists_folder cs
  · rintro ⟨folder, rfl, hfolder, hname⟩
    rw [lastName_append hfolder, lastName_of_fileName hname]

/-! ### Names without extensions -/

/-- That a text can be added to a name as an extension. -/
def Extension (extension : List Char) : Prop :=
  ∃ text, extension = '.' :: text ∧ '.' ∉ text

/-- A text without a dot is passed over from behind, up to the first dot in front of it. -/
theorem passed_of_not_mem {text : List Char} (h : '.' ∉ text) :
    ∀ c ∈ text.reverse, decide (c ≠ '.') = true := by
  intro c hc
  have hdot : c ≠ '.' := by
    rintro rfl
    exact h (List.mem_reverse.1 hc)
  simp [hdot]

/-- A name without a dot has no extension. -/
theorem dropExtension_of_not_mem {name : List Char} (h : '.' ∉ name) :
    dropExtension name = name := by
  have hnone : name.reverse.dropWhile (· ≠ '.') = [] :=
    List.dropWhile_eq_nil_iff.2 (passed_of_not_mem h)
  rw [dropExtension, hnone]

/-- The extension of a name is the text from its last dot on, unless nothing stands before it. -/
theorem dropExtension_append {stem text : List Char} (h : '.' ∉ text) :
    dropExtension (stem ++ '.' :: text) = if stem = [] then '.' :: text else stem := by
  have hdot : (stem ++ '.' :: text).reverse.dropWhile (· ≠ '.') = '.' :: stem.reverse := by
    rw [List.reverse_append, List.reverse_cons, List.append_assoc,
      List.dropWhile_append_of_pos (passed_of_not_mem h)]
    simp
  rw [dropExtension, hdot]
  cases stem <;> simp

/-- A name with a dot in it has a last one. -/
theorem exists_lastDot {name : List Char} (h : '.' ∈ name) :
    ∃ stem text, name = stem ++ '.' :: text ∧ '.' ∉ text := by
  obtain ⟨text, stem, hsplit, hfirst⟩ := List.eq_append_cons_of_mem (List.mem_reverse.2 h)
  refine ⟨stem.reverse, text.reverse, ?_, fun hdot => hfirst (List.mem_reverse.1 hdot)⟩
  rw [← List.reverse_reverse name, hsplit]
  simp

/-- **Any name is one without an extension, or has one added to it.** -/
theorem dropExtension_cases (name : List Char) :
    dropExtension name = name ∨
      ∃ extension, Extension extension ∧ name = dropExtension name ++ extension := by
  by_cases hdot : '.' ∈ name
  · obtain ⟨stem, text, rfl, htext⟩ := exists_lastDot hdot
    by_cases hstem : stem = []
    · rw [dropExtension_append htext, if_pos hstem, hstem]
      exact Or.inl rfl
    · rw [dropExtension_append htext, if_neg hstem]
      exact Or.inr ⟨'.' :: text, ⟨text, rfl, htext⟩, rfl⟩
  · exact Or.inl (dropExtension_of_not_mem hdot)

/-! ### The ways to call `cl` -/

/-- The spellings of `cl` with letters in either case. -/
def clSpellings : List String :=
  ["cl", "cL", "Cl", "CL"]

/-- That a compiler is called as `cl`: in some folder or in none, in whatever case, and with an
extension or without. -/
def IsCl (compiler : String) : Prop :=
  ∃ folder name, compiler.toList = folder ++ name ∧ Folder folder ∧ FileName name ∧
    ∃ stem ∈ clSpellings, name = stem.toList ∨
      ∃ extension, Extension extension ∧ name = stem.toList ++ extension

/-- What a compiler is called, without folders and extension. -/
def baseNameOf (compiler : String) : List Char :=
  dropExtension (lastName compiler.toList)

/-- Only the spellings of `cl` are `cl` in lower case. -/
theorem map_toLower_eq_cl {cs : List Char} :
    cs.map Char.toLower = ['c', 'l'] ↔ ∃ stem ∈ clSpellings, cs = stem.toList := by
  have hc (a : Char) : a.toLower = 'c' ↔ a = 'c' ∨ a = 'C' :=
    toLower_eq_letter (by decide) (by decide)
  have hl (a : Char) : a.toLower = 'l' ↔ a = 'l' ∨ a = 'L' :=
    toLower_eq_letter (by decide) (by decide)
  constructor
  · intro h
    obtain ⟨a, rest, rfl, ha, hrest⟩ := List.map_eq_cons_iff.1 h
    obtain ⟨b, more, rfl, hb, hmore⟩ := List.map_eq_cons_iff.1 hrest
    rw [List.map_eq_nil_iff] at hmore
    subst hmore
    rcases (hc a).1 ha with rfl | rfl <;> rcases (hl b).1 hb with rfl | rfl <;>
      simp [clSpellings]
  · rintro ⟨stem, hstem, rfl⟩
    simp only [clSpellings, List.mem_cons, List.not_mem_nil, or_false] at hstem
    rcases hstem with rfl | rfl | rfl | rfl <;> decide

/-- **A compiler is called as `cl`** exactly when what is left of its name is `cl` in lower case. -/
theorem isCl_iff {compiler : String} :
    IsCl compiler ↔ (baseNameOf compiler).map Char.toLower = ['c', 'l'] := by
  rw [map_toLower_eq_cl]
  constructor
  · rintro ⟨folder, name, hsplit, hfolder, hname, stem, hstem, hspelled⟩
    have hlast : lastName compiler.toList = name :=
      lastName_eq_iff.2 ⟨folder, hsplit, hfolder, hname⟩
    have hplain : '.' ∉ stem.toList ∧ stem.toList ≠ [] := by
      simp only [clSpellings, List.mem_cons, List.not_mem_nil, or_false] at hstem
      rcases hstem with rfl | rfl | rfl | rfl <;> decide
    refine ⟨stem, hstem, ?_⟩
    rw [baseNameOf, hlast]
    rcases hspelled with rfl | ⟨_, ⟨text, rfl, htext⟩, rfl⟩
    · exact dropExtension_of_not_mem hplain.1
    · rw [dropExtension_append htext, if_neg hplain.2]
  · rintro ⟨stem, hstem, hbase⟩
    obtain ⟨folder, hsplit, hfolder, hname⟩ := exists_folder compiler.toList
    refine ⟨folder, lastName compiler.toList, hsplit, hfolder, hname, stem, hstem, ?_⟩
    rw [← hbase]
    rcases dropExtension_cases (lastName compiler.toList) with hsame | hextension
    · exact Or.inl hsame.symm
    · exact Or.inr hextension

/-! ### Other ways to call a compiler -/

/-- Two ways to call a compiler that leave the same of its name: the one as the other but below a
folder, with letters in other cases, or with an extension added to a name that has no dot. -/
inductive Renamed : String → String → Prop where
  | inFolder {folder compiler : String} :
    Folder folder.toList → Renamed compiler (folder ++ compiler)
  | recased {compiler other : String} :
    CompilerFamily.lowered compiler = CompilerFamily.lowered other → Renamed compiler other
  | extended {folder name extension : String} :
    Folder folder.toList → FileName name.toList → name ≠ "" → '.' ∉ name.toList →
    Extension extension.toList → FileName extension.toList →
    Renamed (folder ++ name) (folder ++ name ++ extension)

/-- Lower case makes no separator and leaves those that there are. -/
theorem isSeparator_toLower (c : Char) : isSeparator c.toLower = isSeparator c := by
  have hslash : c.toLower = '/' ↔ c = '/' := toLower_eq_sign (by decide)
  have hback : c.toLower = '\\' ↔ c = '\\' := toLower_eq_sign (by decide)
  simp only [isSeparator, hslash, hback]

/-- The last name is the same in lower case. -/
theorem lastName_map (cs : List Char) :
    lastName (cs.map Char.toLower) = (lastName cs).map Char.toLower := by
  have hsame : (fun c => !isSeparator c) ∘ Char.toLower = fun c => !isSeparator c := by
    funext c
    exact congrArg not (isSeparator_toLower c)
  rw [lastName, ← List.map_reverse, List.takeWhile_map, hsame, ← List.map_reverse, lastName]

/-- Nor does it make a dot. -/
theorem dot_mem_map {cs : List Char} : '.' ∈ cs.map Char.toLower ↔ '.' ∈ cs := by
  rw [List.mem_map]
  constructor
  · rintro ⟨c, hc, hdot⟩
    rwa [(toLower_eq_sign (by decide)).1 hdot] at hc
  · intro hdot
    exact ⟨'.', hdot, rfl⟩

/-- The extension of a name is the same in lower case. -/
theorem dropExtension_map (name : List Char) :
    dropExtension (name.map Char.toLower) = (dropExtension name).map Char.toLower := by
  by_cases hdot : '.' ∈ name
  · obtain ⟨stem, text, rfl, htext⟩ := exists_lastDot hdot
    have hmap : (stem ++ '.' :: text).map Char.toLower =
        stem.map Char.toLower ++ '.' :: text.map Char.toLower := by
      rw [List.map_append]
      rfl
    rw [hmap, dropExtension_append (dot_mem_map.not.2 htext), dropExtension_append htext]
    cases stem <;> rfl
  · rw [dropExtension_of_not_mem hdot, dropExtension_of_not_mem (dot_mem_map.not.2 hdot)]

/-- **A compiler that is called in another way** keeps what is left of its name, in lower case. -/
theorem lowered_baseNameOf {compiler other : String} (h : Renamed compiler other) :
    (baseNameOf other).map Char.toLower = (baseNameOf compiler).map Char.toLower := by
  cases h with
  | @inFolder folder _ hfolder =>
    rw [baseNameOf, String.toList_append, lastName_append hfolder, baseNameOf]
  | recased hcase =>
    have hmap : compiler.toList.map Char.toLower = other.toList.map Char.toLower := hcase
    rw [baseNameOf, baseNameOf, ← dropExtension_map, ← dropExtension_map, ← lastName_map,
      ← lastName_map, hmap]
  | @extended folder name extension hfolder hname hne hdot hextension hplain =>
    obtain ⟨text, htext, hlast⟩ := hextension
    have hstem : name.toList ≠ [] := by simpa using hne
    have hwhole : FileName (name.toList ++ extension.toList) := by
      intro c hc
      rcases List.mem_append.1 hc with hc | hc
      · exact hname c hc
      · exact hplain c hc
    have hfile : lastName (folder ++ name ++ extension).toList =
        name.toList ++ extension.toList := by
      rw [String.toList_append, String.toList_append, List.append_assoc, lastName_append hfolder,
        lastName_of_fileName hwhole]
    have hbare : lastName (folder ++ name).toList = name.toList := by
      rw [String.toList_append, lastName_append hfolder, lastName_of_fileName hname]
    rw [baseNameOf, baseNameOf, hfile, hbare, htext, dropExtension_append hlast, if_neg hstem,
      dropExtension_of_not_mem hdot]

/-! ### The syntax of options -/

/-- A command with another compiler in the place of its own; one without a compiler stays as it
is. -/
def withCompiler (c : CompileCommand) (compiler : String) : CompileCommand :=
  { c with arguments := c.arguments.set 1 compiler }

theorem compiler_withCompiler {c : CompileCommand} (h : 1 < c.arguments.length)
    (compiler : String) : (c.withCompiler compiler).compiler = compiler := by
  simp [CompileCommand.compiler, withCompiler, h]

theorem withCompiler_of_length_le {c : CompileCommand} (h : c.arguments.length ≤ 1)
    (compiler : String) : c.withCompiler compiler = c := by
  rw [withCompiler, List.set_eq_of_length_le h]

/-- Behind the compiler nothing changes. -/
theorem drop_withCompiler (c : CompileCommand) (compiler : String) :
    (c.withCompiler compiler).arguments.drop 2 = c.arguments.drop 2 :=
  List.drop_set_of_lt (by decide)

theorem lowered_compilerBaseName (c : CompileCommand) :
    CompilerFamily.lowered c.compilerBaseName = (baseNameOf c.compiler).map Char.toLower := by
  rw [CompilerFamily.lowered, compilerBaseName, String.toList_ofList, baseNameOf]

/-- **Slashes mark the options** of the commands whose compiler is called as `cl`. -/
theorem ofCommand_eq_slash_iff (c : CompileCommand) :
    OptionSyntax.ofCommand c = .slash ↔
      ∃ compiler, c.arguments[1]? = some compiler ∧ IsCl compiler := by
  have hmarks : OptionSyntax.ofCommand c = .slash ↔
      (baseNameOf c.compiler).map Char.toLower = ['c', 'l'] := by
    rw [← lowered_compilerBaseName, OptionSyntax.ofCommand]
    split
    · next h => exact iff_of_true rfl h
    · next h => exact iff_of_false nofun h
  rw [hmarks, ← isCl_iff, CompileCommand.compiler]
  cases c.arguments[1]? with
  | some compiler => simp
  | none =>
    have hempty : ¬ IsCl "" := by
      rw [isCl_iff]
      decide
    exact iff_of_false hempty nofun

/-- **What a command's options mean** hangs on the name of its compiler, and on no more than is left
of it.  The options are marked with slashes just when the compiler is called as `cl`.  A compiler
that is called in another way, below a folder, in another case or with an extension, leaves the
syntax of the options as it was, and all that the arguments are sorted into; the configuration of
the file differs in the compiler alone. -/
theorem option_syntax_exact (c : CompileCommand) :
    (OptionSyntax.ofCommand c = .slash ↔
      ∃ compiler, c.arguments[1]? = some compiler ∧ IsCl compiler) ∧
    ∀ other, Renamed c.compiler other →
      let d := c.withCompiler other
      (1 < c.arguments.length → d.compiler = other) ∧
        OptionSyntax.ofCommand d = OptionSyntax.ofCommand c ∧ d.sorted = c.sorted ∧
        ∀ target, FileConfiguration.ofCommand d target =
          { FileConfiguration.ofCommand c target with compilerPath := d.compiler } := by
  refine ⟨ofCommand_eq_slash_iff c, ?_⟩
  intro other hrenamed d
  have hname : CompilerFamily.lowered d.compilerBaseName =
      CompilerFamily.lowered c.compilerBaseName := by
    by_cases hlong : 1 < c.arguments.length
    · rw [lowered_compilerBaseName, lowered_compilerBaseName, compiler_withCompiler hlong,
        lowered_baseNameOf hrenamed]
    · have hsame : d = c := withCompiler_of_length_le (Nat.not_lt.1 hlong) other
      rw [hsame]
  have hmarks : OptionSyntax.ofCommand d = OptionSyntax.ofCommand c := by
    rw [OptionSyntax.ofCommand, hname, OptionSyntax.ofCommand]
  have hsorted : d.sorted = c.sorted := by
    rw [sorted, hmarks, drop_withCompiler]
    rfl
  refine ⟨fun hlong => compiler_withCompiler hlong other, hmarks, hsorted, ?_⟩
  intro target
  have hmode : EditorMode.resolve d.compilerBaseName target.architecture =
      EditorMode.resolve c.compilerBaseName target.architecture := by
    rw [EditorMode.resolve, CompilerFamily.ofName?, hname, EditorMode.resolve,
      CompilerFamily.ofName?]
  rw [FileConfiguration.ofCommand, FileConfiguration.ofCommand, hsorted, hmode]

/-- The same compiler by its name alone, and then below a folder in capitals with an extension. -/
theorem option_syntax_exact_in_folder :
    let c : CompileCommand := ⟨⟨"/p"⟩, ⟨"a.c"⟩, ["sh", "cl", "/Iinc", "-g", "/W4"]⟩
    let d := c.withCompiler "C:\\bin/cl"
    let e := d.withCompiler "C:\\bin/CL"
    let f := e.withCompiler "C:\\bin/CL.EXE"
    (Renamed c.compiler "C:\\bin/cl" ∧ Renamed d.compiler "C:\\bin/CL" ∧
      Renamed e.compiler "C:\\bin/CL.EXE") ∧
      f.compiler = "C:\\bin/CL.EXE" ∧ OptionSyntax.ofCommand f = .slash ∧
      f.sorted = ⟨["/p/inc"], [], none, ["/W4"]⟩ := by
  intro c d e f
  have hfolder : Folder "C:\\bin/".toList :=
    Or.inr ⟨"C:\\bin".toList, '/', by decide, by decide⟩
  have hfirst : Renamed c.compiler "C:\\bin/cl" := @Renamed.inFolder "C:\\bin/" "cl" hfolder
  have hsecond : Renamed d.compiler "C:\\bin/CL" := .recased (by decide)
  have hthird : Renamed e.compiler "C:\\bin/CL.EXE" :=
    @Renamed.extended "C:\\bin/" "CL" ".EXE" hfolder (by decide) (by decide) (by decide)
      ⟨"EXE".toList, by decide, by decide⟩ (by decide)
  obtain ⟨_, hmarks, hsorted, _⟩ := (option_syntax_exact c).2 _ hfirst
  obtain ⟨_, hmarks', hsorted', _⟩ := (option_syntax_exact d).2 _ hsecond
  obtain ⟨hcompiler, hmarks'', hsorted'', _⟩ := (option_syntax_exact e).2 _ hthird
  refine ⟨⟨hfirst, hsecond, hthird⟩, hcompiler (by decide), ?_, ?_⟩
  · exact hmarks''.trans (hmarks'.trans (hmarks.trans (by decide)))
  · exact hsorted''.trans (hsorted'.trans (hsorted.trans (by decide)))

end CompileCommand

end CompileIndex

import CompileIndex.Configuration.Browse
import CompileIndex.Proofs.Containers
import CompileIndex.Proofs.JsonOutline

/-!
# Configurations on the wire

The configurations of files and of folders, and the target that they are computed for, come back
from their texts as they were, whatever strings they hold.  The two lists of the configuration of a
folder are sets: what comes back are the lists in the same order, and what is read from any other
text are the lists that stand there, without the repetitions behind the first occurrence.

* `BuildTarget.readsBack`, `FileConfiguration.readsBack`, `FileConfigurationItem.readsBack`,
  `BrowseConfiguration.readsBack` — what is written comes back;
* `BrowseConfiguration.stands_of_decode` — what is read stands in the text;
* `configurations_on_the_wire` — all of it.
-/

namespace CompileIndex

open Json (Decoder Fields StandsAt StartsWith)
open Json.Decoder (readsBack_text readsBack_path readsBack_word readsBack_strings readsBack_record
  startsApart_string readsValues_text readsValues_strings readsValues_word)

/-! ### What is written comes back -/

theorem EditorMode.lookup_words (m : EditorMode) : words.lookup m.text = some m := by
  obtain ⟨f, a⟩ := m
  cases f <;> cases a <;> decide +kernel

theorem Standard.lookup_words (s : Standard) : words.lookup s.text = some s := by
  cases s <;> decide +kernel

namespace BuildTarget

/-- The fields of a target. -/
def fields : Fields (Option String × Option String × Unit) (String × String × Unit) :=
  .cons (.required "architecture" .text) (.cons (.required "platform" .text) .nil)

theorem holds (depth : Nat) (t : BuildTarget) :
    fields.Holds depth
      [("architecture", .string t.architecture), ("platform", .string t.platform)]
      (some t.architecture, some t.platform, ()) (t.architecture, t.platform, ()) :=
  .given (readsBack_text depth t.architecture) (by decide)
    (.given (readsBack_text depth t.platform) (by decide) .nil)

theorem readsBack (depth : Nat) (t : BuildTarget) : decoder.ReadsBack (depth + 1) t.toJson t :=
  readsBack_record (t.holds depth)

end BuildTarget

namespace FileConfiguration

/-- The fields of the configuration of a file. -/
def fields : Fields
    (Option (List String) × Option (List String) × Option EditorMode × Option Standard ×
      Option String × Option (List String) × Unit)
    (List String × List String × EditorMode × Standard × String × List String × Unit) :=
  .cons (.required "includePath" (.list .text))
    (.cons (.required "defines" (.list .text))
      (.cons (.required "intelliSenseMode" (.word EditorMode.words))
        (.cons (.required "standard" (.word Standard.words))
          (.cons (.required "compilerPath" .text)
            (.cons (.required "compilerArgs" (.list .text)) .nil)))))

theorem holds (depth : Nat) (c : FileConfiguration) :
    fields.Holds (depth + 1)
      [("includePath", .strings c.includePath), ("defines", .strings c.definitions),
        ("intelliSenseMode", .string c.mode.text), ("standard", .string c.standard.text),
        ("compilerPath", .string c.compilerPath), ("compilerArgs", .strings c.compilerArgs)]
      (some c.includePath, some c.definitions, some c.mode, some c.standard, some c.compilerPath,
        some c.compilerArgs, ())
      (c.includePath, c.definitions, c.mode, c.standard, c.compilerPath, c.compilerArgs, ()) :=
  .given (readsBack_strings _ depth c.includePath) (by decide)
    (.given (readsBack_strings _ depth c.definitions) (by decide)
      (.given (readsBack_word c.mode.lookup_words _) (by decide)
        (.given (readsBack_word c.standard.lookup_words _) (by decide)
          (.given (readsBack_text _ c.compilerPath) (by decide)
            (.given (readsBack_strings _ depth c.compilerArgs) (by decide) .nil)))))

theorem readsBack (depth : Nat) (c : FileConfiguration) :
    decoder.ReadsBack (depth + 2) c.toJson c :=
  readsBack_record (c.holds depth)

end FileConfiguration

namespace FileConfigurationItem

/-- The fields of a configuration with its file. -/
def fields : Fields (Option Path × Option FileConfiguration × Unit)
    (Path × FileConfiguration × Unit) :=
  .cons (.required "uri" .path) (.cons (.required "configuration" FileConfiguration.decoder) .nil)

theorem holds (depth : Nat) (i : FileConfigurationItem) :
    fields.Holds (depth + 2)
      [("uri", .string i.file.text), ("configuration", i.configuration.toJson)]
      (some i.file, some i.configuration, ()) (i.file, i.configuration, ()) :=
  .given (readsBack_path _ i.file.text) (by decide)
    (.given (i.configuration.readsBack depth) (by decide) .nil)

theorem readsBack (depth : Nat) (i : FileConfigurationItem) :
    decoder.ReadsBack (depth + 3) i.toJson i :=
  readsBack_record (i.holds depth)

end FileConfigurationItem

namespace BrowseConfiguration

theorem readsBack_set (depth : Nat) (s : OrderedSet String) :
    setDecoder.ReadsBack (depth + 1) (.strings s.toList) s := by
  have hread := (readsBack_strings "a set" depth s.toList).map OrderedSet.ofList
  rwa [OrderedSet.ofList_toList] at hread

/-- The fields of the configuration of a folder. -/
def fields : Fields
    (Option (OrderedSet String) × Option (OrderedSet String) × Option (Option String) ×
      Option (Option Standard) × Unit)
    (OrderedSet String × OrderedSet String × Option String × Option Standard × Unit) :=
  .cons (.required "browsePath" setDecoder)
    (.cons (.required "compilerArgs" setDecoder)
      (.cons (.optional "compilerPath" .text)
        (.cons (.optional "standard" (.word Standard.words)) .nil)))

/-- The members of the configuration of a folder. -/
theorem toJson_eq (b : BrowseConfiguration) :
    b.toJson = .object (("browsePath", .strings b.browsePath.toList) ::
      ("compilerArgs", .strings b.compilerArgs.toList) ::
        ((b.compilerPath.map fun text => ("compilerPath", Json.string text)).toList ++
          ((b.standard.map fun s => ("standard", Json.string s.text)).toList ++ []))) := by
  obtain ⟨paths, args, compiler, standard⟩ := b
  cases compiler <;> cases standard <;> rfl

theorem holds (depth : Nat) (b : BrowseConfiguration) :
    fields.Holds (depth + 1)
      (("browsePath", .strings b.browsePath.toList) ::
        ("compilerArgs", .strings b.compilerArgs.toList) ::
          ((b.compilerPath.map fun text => ("compilerPath", Json.string text)).toList ++
            ((b.standard.map fun s => ("standard", Json.string s.text)).toList ++ [])))
      (some b.browsePath, some b.compilerArgs, b.compilerPath.map some, b.standard.map some, ())
      (b.browsePath, b.compilerArgs, b.compilerPath, b.standard, ()) :=
  .given (readsBack_set depth b.browsePath) (by decide)
    (.given (readsBack_set depth b.compilerArgs) (by decide)
      (.optional (readsBack_text _) startsApart_string (by decide)
        (.optional (fun s => readsBack_word s.lookup_words _) (fun s => startsApart_string s.text)
          (by decide) .nil b.standard) b.compilerPath))

theorem readsBack (depth : Nat) (b : BrowseConfiguration) :
    decoder.ReadsBack (depth + 2) b.toJson b := by
  rw [toJson_eq]
  exact readsBack_record (b.holds depth)

/-! ### What is read stands in the text -/

theorem readValues : fields.ReadValues :=
  ⟨(readsValues_strings _).map _, (readsValues_strings _).map _, readsValues_text.optional,
    (readsValues_word _).optional, trivial⟩

/-- What is read as a set is a list of strings, without its repetitions. -/
theorem strings_of_setDecoder {depth : Nat} {s r : List Char} {set : OrderedSet String}
    (h : setDecoder depth s = .ok (set, r)) :
    ∃ xs, StartsWith s (.strings xs) ∧ set.toList = xs.eraseDups := by
  obtain ⟨⟨xs, u⟩, hlist, heq⟩ := bind_eq_ok.1 h
  cases heq
  exact ⟨xs, ⟨1, r, (Json.Decoder.listAs_text_eq_ok.1 hlist).2⟩, OrderedSet.toList_ofList xs⟩

/-- **What is read as the configuration of a folder** stands in the text: an object has one member
for either list, or an array starts with the two lists. -/
theorem stands_of_decode {text : String} {b : BrowseConfiguration}
    (h : decoder.decode text = .ok b) :
    ∃ paths args, StandsAt text "browsePath" 0 (.strings paths) ∧
      StandsAt text "compilerArgs" 1 (.strings args) ∧
      b.browsePath.toList = paths.eraseDups ∧ b.compilerArgs.toList = args.eraseDups := by
  obtain ⟨value, rfl, ⟨items, ⟨t, r, hs, htext, hr⟩, hlisted⟩ |
      ⟨members, ⟨t, names, r, hs, htext, hr⟩, hgiven⟩⟩ :=
    (Decoder.record_decode_iff (by decide) readValues).1 h
  · obtain ⟨s, _, rfl, ⟨_, hpaths⟩, hlisted⟩ := hlisted.required rfl
    obtain ⟨s', _, rfl, ⟨_, hargs⟩, _⟩ := hlisted.required rfl
    obtain ⟨paths, hpaths, hpathsEq⟩ := strings_of_setDecoder hpaths
    obtain ⟨args, hargs, hargsEq⟩ := strings_of_setDecoder hargs
    exact ⟨paths, args, Or.inr ⟨t, _, r, s, hs, htext, hr, rfl, hpaths⟩,
      Or.inr ⟨t, _, r, s', hs, htext, hr, rfl, hargs⟩, hpathsEq, hargsEq⟩
  · obtain ⟨⟨s, hname, _, hpaths⟩, hgiven⟩ := hgiven.required rfl
    obtain ⟨⟨s', hname', _, hargs⟩, _⟩ := hgiven.required rfl
    obtain ⟨paths, hpaths, hpathsEq⟩ := strings_of_setDecoder hpaths
    obtain ⟨args, hargs, hargsEq⟩ := strings_of_setDecoder hargs
    exact ⟨paths, args, Or.inl ⟨t, names, members, r, s, hs, htext, hr, hname, hpaths⟩,
      Or.inl ⟨t, names, members, r, s', hs, htext, hr, hname', hargs⟩, hpathsEq, hargsEq⟩

end BrowseConfiguration

/-- **Configurations survive the wire.**  The configuration of a file, with its file or without, the
configuration of a folder and a target are read from their own compact texts as they were.  Whatever
text is read as the configuration of a folder, its two lists are the lists of strings that stand in
the text, without the repetitions behind the first occurrence; written and read again, the
configuration does not change. -/
theorem configurations_on_the_wire :
    (∀ t : BuildTarget, BuildTarget.decoder.decode t.toJson.text = .ok t) ∧
    (∀ c : FileConfiguration, FileConfiguration.decoder.decode c.toJson.text = .ok c) ∧
    (∀ i : FileConfigurationItem, FileConfigurationItem.decoder.decode i.toJson.text = .ok i) ∧
    (∀ b : BrowseConfiguration, BrowseConfiguration.decoder.decode b.toJson.text = .ok b) ∧
    ∀ (text : String) (b : BrowseConfiguration), BrowseConfiguration.decoder.decode text = .ok b →
      (∃ paths args, StandsAt text "browsePath" 0 (.strings paths) ∧
        StandsAt text "compilerArgs" 1 (.strings args) ∧
        b.browsePath.toList = paths.eraseDups ∧ b.compilerArgs.toList = args.eraseDups) ∧
      BrowseConfiguration.decoder.decode b.toJson.text = .ok b :=
  ⟨fun t => (t.readsBack _).decode_text, fun c => (c.readsBack _).decode_text,
    fun i => (i.readsBack _).decode_text, fun b => (b.readsBack _).decode_text,
    fun _ b h => ⟨BrowseConfiguration.stands_of_decode h, (b.readsBack _).decode_text⟩⟩

/-- A list with a repetition, read from a text. -/
theorem browse_paths_read_once :
    BrowseConfiguration.decoder.decode
        "\x7b\"compilerArgs\": [], \"browsePath\": [\"a\", \"b\", \"a\"]\x7d" =
      .ok ⟨.ofList ["a", "b"], .empty, none, none⟩ ∧
    BrowseConfiguration.decoder.decode
        (BrowseConfiguration.toJson ⟨.ofList ["a", "b"], .empty, none, none⟩).text =
      .ok ⟨.ofList ["a", "b"], .empty, none, none⟩ := by
  have hread := eq_ok_of_toOption (r := BrowseConfiguration.decoder.decode
    "\x7b\"compilerArgs\": [], \"browsePath\": [\"a\", \"b\", \"a\"]\x7d")
    (a := ⟨.ofList ["a", "b"], .empty, none, none⟩) (by decide +kernel)
  exact ⟨hread, (configurations_on_the_wire.2.2.2.2 _ _ hread).2⟩

end CompileIndex

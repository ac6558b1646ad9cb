import CompileIndex.Configuration.File
import CompileIndex.OrderedSet
import CompileIndex.Path.Relative

/-!
# Configurations of folders

What an editor has to know about a workspace folder as a whole: the include paths and options
of all files that count towards the folder, each once and in the order of first sight, and the
compiler and the standard of the last such file.

* `isAttributed` — whether a file counts towards a folder;
* `BrowseConfiguration.fold` — one more file;
* `BrowseConfiguration.same` — equality with the sets compared as sets.
-/

namespace CompileIndex

/-- Whether a file counts towards a folder: the way from the file to the folder begins with a
dot. -/
def isAttributed (file folder : Path) : Bool :=
  match file.relativeTo? folder with
  | some way => way.text.toList.head? = some '.'
  | none => false

/-- The configuration of a workspace folder. -/
structure BrowseConfiguration where
  browsePath : OrderedSet String
  compilerArgs : OrderedSet String
  compilerPath : Option String
  standard : Option Standard
  deriving DecidableEq

namespace BrowseConfiguration

/-- The configuration of a folder without files. -/
def empty : BrowseConfiguration :=
  ⟨.empty, .empty, none, none⟩

instance : Inhabited BrowseConfiguration := ⟨empty⟩

/-- The configuration with one more file. -/
def fold (b : BrowseConfiguration) (c : FileConfiguration) : BrowseConfiguration :=
  { browsePath := b.browsePath.insertAll c.includePath
    compilerArgs := b.compilerArgs.insertAll c.compilerArgs
    compilerPath := some c.compilerPath
    standard := some c.standard }

/-- Everything taken away again. -/
def clear (_ : BrowseConfiguration) : BrowseConfiguration :=
  empty

/-- Whether nothing was ever added. -/
def isEmpty (b : BrowseConfiguration) : Bool :=
  b.browsePath.toList.isEmpty && b.compilerArgs.toList.isEmpty && b.compilerPath.isNone
    && b.standard.isNone

/-- Whether two configurations agree, the order of paths and options left aside. -/
def same (a b : BrowseConfiguration) : Bool :=
  a.browsePath.sameMembers b.browsePath && a.compilerArgs.sameMembers b.compilerArgs
    && a.compilerPath = b.compilerPath && a.standard = b.standard

/-- A member that is left out when there is no value. -/
def optionalMember (name : String) : Option String → List (String × Json)
  | some t => [(name, .string t)]
  | none => []

def toJson (b : BrowseConfiguration) : Json :=
  .object ([("browsePath", .strings b.browsePath.toList),
    ("compilerArgs", .strings b.compilerArgs.toList)]
    ++ optionalMember "compilerPath" b.compilerPath
    ++ optionalMember "standard" (b.standard.map Standard.text))

/-- Reads an ordered set. -/
def setDecoder : Json.Decoder (OrderedSet String) :=
  (Json.Decoder.listAs "a set" .text).map OrderedSet.ofList

/-- Reads the configuration of a folder. -/
def decoder : Json.Decoder BrowseConfiguration :=
  .record "WorkspaceBrowseConfiguration"
    (.cons (.required "browsePath" setDecoder)
      (.cons (.required "compilerArgs" setDecoder)
        (.cons (.optional "compilerPath" .text)
          (.cons (.optional "standard" (.word Standard.words)) .nil))))
    fun (browsePath, compilerArgs, compilerPath, standard, _) =>
      ⟨browsePath, compilerArgs, compilerPath, standard⟩

end BrowseConfiguration

end CompileIndex

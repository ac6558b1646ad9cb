import CompileIndex.Command.Database
import CompileIndex.Json.Decoder

/-!
# Requests of a host

A host asks for one thing per line: an object with an optional `id`, a `method` and optional
`params`.  The id is known as soon as the line is such an object, also when the method or its
parameters are wrong, so that every answer can be matched with its request.

* `Request.parse` — the id and the request of a line;
* `Request.Error` — why a request fails, with its code and its wording.
-/

namespace CompileIndex

/-- What a host can ask for. -/
inductive Request where
  | canProvideConfiguration (file : Path)
  | provideConfigurations (files : List Path)
  | canProvideBrowseConfiguration
  | provideBrowseConfiguration
  | provideFolderBrowseConfiguration (folder : Path)
  | rebuild
  deriving DecidableEq, Repr

namespace Request

/-- The name of what is asked for. -/
def method : Request → String
  | canProvideConfiguration _ => "canProvideConfiguration"
  | provideConfigurations _ => "provideConfigurations"
  | canProvideBrowseConfiguration => "canProvideBrowseConfiguration"
  | provideBrowseConfiguration => "provideBrowseConfiguration"
  | provideFolderBrowseConfiguration _ => "provideFolderBrowseConfiguration"
  | rebuild => "rebuild"

/-- Why a request fails. -/
inductive Error where
  | notJson (line : List Char) (fault : Json.Fault)
  | unknownMethod (method : String)
  | invalidParams (method : String) (cause : Json.Cause)
  | rebuildFailed (cause : Database.Error)

/-- The number of an error. -/
def Error.code : Error → Int64
  | notJson _ _ => -32700
  | unknownMethod _ => -32601
  | invalidParams _ _ => -32602
  | rebuildFailed _ => -32000

/-- The wording of an error. -/
def Error.message : Error → String
  | notJson line fault => "Request is not valid JSON: " ++ fault.message line
  | unknownMethod method => "Unknown method '" ++ method ++ "'"
  | invalidParams method cause => "Invalid params for '" ++ method ++ "': " ++ cause.message
  | rebuildFailed cause => "Rebuild failed: " ++ cause.message

/-- A line before its method is looked at. -/
structure Raw where
  id : Json
  method : String
  params : Json

/-- Reads a line. -/
def Raw.decoder : Json.Decoder Raw :=
  .record "RawRequest"
    (.cons (.withDefault "id" .any .null)
      (.cons (.required "method" .text) (.cons (.withDefault "params" .any .null) .nil)))
    fun (id, method, params, _) => ⟨id, method, params⟩

/-- A value that has to be the text of a path. -/
def pathOf : Json → Except Json.Cause Path
  | .string s => .ok ⟨s⟩
  | other => .error (.wrongKind (Json.found other) "path string")

/-- A value that has to be a list of paths. -/
def pathsOf : Json → Except Json.Cause (List Path)
  | .array items => items.mapM pathOf
  | other => .error (.wrongKind (Json.found other) "a sequence")

/-- Parameters with one field: an object with a member of that name, or an array of exactly one
item.  `record` names the parameters in faults. -/
def soleField {α : Type} (record field : String) (read : Json → Except Json.Cause α) :
    Json → Except Json.Cause α
  | .object members =>
    match Json.lookup field members with
    | some v => read v
    | none => .error (.missingMember field)
  | .array [] => .error (.wrongLength 0 ("struct " ++ record ++ " with 1 element"))
  | .array (v :: rest) => do
    let x ← read v
    if rest.isEmpty then return x
    else .error (.wrongLength (rest.length + 1) "fewer elements in array")
  | other => .error (.wrongKind (Json.found other) ("struct " ++ record))

/-- The request of a method with its parameters. -/
def ofParts (method : String) (params : Json) : Except Error Request :=
  let checked (r : Except Json.Cause Request) : Except Error Request :=
    r.mapError (.invalidParams method)
  if method = "canProvideConfiguration" then
    checked ((soleField "UriParams" "uri" pathOf params).map canProvideConfiguration)
  else if method = "provideConfigurations" then
    checked ((soleField "UrisParams" "uris" pathsOf params).map provideConfigurations)
  else if method = "canProvideBrowseConfiguration" then .ok canProvideBrowseConfiguration
  else if method = "provideBrowseConfiguration" then .ok provideBrowseConfiguration
  else if method = "provideFolderBrowseConfiguration" then
    checked ((soleField "FolderParams" "folder" pathOf params).map
      provideFolderBrowseConfiguration)
  else if method = "rebuild" then .ok rebuild
  else .error (.unknownMethod method)

/-- The id and the request of a line; a line that is no request has the id null. -/
def parse (line : String) : Json × Except Error Request :=
  match Raw.decoder.decode line with
  | .error fault => (.null, .error (.notJson line.toList fault))
  | .ok raw => (raw.id, ofParts raw.method raw.params)

end Request

end CompileIndex

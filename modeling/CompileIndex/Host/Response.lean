import CompileIndex.Host.Request

/-!
# Responses to a host

One response per request: the request's id, and either a result or an error with a code and a
text.
-/

namespace CompileIndex

/-- An error as a host gets it. -/
structure ErrorBody where
  code : Int64
  message : String
  deriving DecidableEq

namespace ErrorBody

def toJson (e : ErrorBody) : Json :=
  .object [("code", .ofInt e.code.toInt), ("message", .string e.message)]

/-- Reads an error. -/
def decoder : Json.Decoder ErrorBody :=
  .record "ErrorBody"
    (.cons (.required "code" .integer64) (.cons (.required "message" .text) .nil))
    fun (code, message, _) => ⟨code, message⟩

end ErrorBody

/-- A response. -/
structure Response where
  id : Json
  result : Option Json
  error : Option ErrorBody

namespace Response

/-- The response to a request that was answered.  Objects in results are sorted by name. -/
def success (id result : Json) : Response :=
  ⟨id, some result.sorted, none⟩

/-- The response to a request that failed. -/
def failure (id : Json) (e : Request.Error) : Response :=
  ⟨id, none, some ⟨e.code, e.message⟩⟩

def toJson (r : Response) : Json :=
  .object ([("id", r.id)]
    ++ (r.result.map fun v => ("result", v)).toList
    ++ (r.error.map fun e => ("error", e.toJson)).toList)

/-- Reads a response. -/
def decoder : Json.Decoder Response :=
  .record "HostResponse"
    (.cons (.required "id" .any)
      (.cons (.optional "result" .any) (.cons (.optional "error" ErrorBody.decoder) .nil)))
    fun (id, result, error, _) => ⟨id, result, error⟩

end Response

end CompileIndex

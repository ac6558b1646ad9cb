/-!
# TOML values

The values of TOML documents.  A date or a time is held as its normal text.
-/

namespace CompileIndex.Toml

/-- A value of a TOML document. -/
inductive Value where
  | string (s : String)
  | integer (n : Int64)
  | float (x : Float)
  | bool (b : Bool)
  | datetime (text : String)
  | array (items : List Value)
  | table (entries : List (String × Value))

instance : Inhabited Value := ⟨.table []⟩

end CompileIndex.Toml

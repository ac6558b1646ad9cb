/-!
# Language standards

The closed list of language standards that an editor knows.  A standard is named by its exact
spelling; every other spelling, and no spelling at all, stands for C++20, also for files in C.

* `Standard.text`, `Standard.ofText?` — a standard and its spelling;
* `Standard.resolve` — the standard that an optional spelling stands for.
-/

namespace CompileIndex

/-- A language standard. -/
inductive Standard where
  | c89 | c99 | c11 | c17
  | gnu89 | gnu99 | gnu11 | gnu17
  | cpp98 | cpp03 | cpp11 | cpp14 | cpp17 | cpp20
  | gnupp98 | gnupp03 | gnupp11 | gnupp14 | gnupp17 | gnupp20
  deriving DecidableEq, Repr

namespace Standard

/-- All standards, those of C first. -/
def all : List Standard :=
  [c89, c99, c11, c17, gnu89, gnu99, gnu11, gnu17, cpp98, cpp03, cpp11, cpp14, cpp17, cpp20,
    gnupp98, gnupp03, gnupp11, gnupp14, gnupp17, gnupp20]

/-- How a standard is spelled. -/
def text : Standard → String
  | c89 => "c89"
  | c99 => "c99"
  | c11 => "c11"
  | c17 => "c17"
  | gnu89 => "gnu89"
  | gnu99 => "gnu99"
  | gnu11 => "gnu11"
  | gnu17 => "gnu17"
  | cpp98 => "c++98"
  | cpp03 => "c++03"
  | cpp11 => "c++11"
  | cpp14 => "c++14"
  | cpp17 => "c++17"
  | cpp20 => "c++20"
  | gnupp98 => "gnu++98"
  | gnupp03 => "gnu++03"
  | gnupp11 => "gnu++11"
  | gnupp14 => "gnu++14"
  | gnupp17 => "gnu++17"
  | gnupp20 => "gnu++20"

/-- The standard that a text spells. -/
def ofText? (t : String) : Option Standard :=
  all.find? fun s => s.text = t

/-- The standard of a command that names none, or an unknown one. -/
def fallback : Standard := cpp20

/-- The standard that an optional spelling stands for. -/
def resolve (spelling : Option String) : Standard :=
  (spelling.bind ofText?).getD fallback

/-- All spellings with their standards. -/
def words : List (String × Standard) :=
  all.map fun s => (s.text, s)

theorem ofText?_text (s : Standard) : ofText? s.text = some s := by
  cases s <;> decide

end Standard

end CompileIndex

/-!
# Runs of characters

A set of characters, given by its runs of neighbouring numbers.
-/

namespace CompileIndex.Text

/-- First and last number of each run of a set of characters. -/
abbrev Runs := List (Nat × Nat)

/-- Whether a character lies in one of the runs. -/
def Runs.contains (runs : Runs) (c : Char) : Bool :=
  runs.any fun run => run.1 ≤ c.toNat && c.toNat ≤ run.2

end CompileIndex.Text

import CompileIndex.PathMap

/-!
# Debouncing changes

Changes of files are held back until the file has been quiet for a while, so that a file that
is written in several steps counts as changed once.  Times are milliseconds since some start.

* `Debouncer.record`, `Debouncer.remove` — a change, and a change forgotten;
* `Debouncer.takeReady` — the files that have been quiet long enough, which are then forgotten;
* `Debouncer.wait?` — how long until one of them is.
-/

namespace CompileIndex

/-- Changed files with the times of their last changes. -/
structure Debouncer where
  pending : PathMap Nat
  /-- How long a file has to be quiet. -/
  quiet : Nat

namespace Debouncer

/-- A debouncer without changes. -/
def ofQuiet (quiet : Nat) : Debouncer :=
  ⟨.empty, quiet⟩

/-- A file changed at a time. -/
def record (d : Debouncer) (now : Nat) (file : Path) : Debouncer :=
  { d with pending := d.pending.insert file now }

/-- The changes of a file forgotten. -/
def remove (d : Debouncer) (file : Path) : Debouncer :=
  { d with pending := d.pending.erase file }

/-- Whether a file that changed at a time has been quiet long enough. -/
def isReady (d : Debouncer) (now changed : Nat) : Bool :=
  d.quiet ≤ now - changed

/-- The files that have been quiet long enough, and the debouncer without them. -/
def takeReady (d : Debouncer) (now : Nat) : List Path × Debouncer :=
  ((d.pending.filter fun _ changed => d.isReady now changed).keys,
    { d with pending := d.pending.filter fun _ changed => !d.isReady now changed })

/-- How long until a file has been quiet long enough; none when there is no change. -/
def wait? (d : Debouncer) (now : Nat) : Option Nat :=
  (d.pending.entries.map fun e => e.2 + d.quiet - now).min?

end Debouncer

end CompileIndex

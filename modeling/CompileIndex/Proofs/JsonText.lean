import CompileIndex.Json.Printer
import Mathlib.Data.List.Basic
import Mathlib.Tactic.SplitIfs

/-!
# One value, one line

The compact text of a value holds no control characters, whatever strings and numbers the value
holds: strings escape them, and nothing else that is written comes near them.  So a text on a
line of its own ends where the line ends.

* `NoControl` — texts without characters below the space;
* `noControl_write` — doubles as texts;
* `noControl_compact` — values as texts.
-/

namespace CompileIndex

/-- That no character of a text is below the space. -/
def NoControl (cs : List Char) : Prop :=
  ∀ c ∈ cs, 32 ≤ c.toNat

@[simp] theorem noControl_nil : NoControl [] :=
  fun _ h => nomatch h

@[simp] theorem noControl_cons {c : Char} {cs : List Char} :
    NoControl (c :: cs) ↔ 32 ≤ c.toNat ∧ NoControl cs :=
  List.forall_mem_cons

@[simp] theorem noControl_append {cs ds : List Char} :
    NoControl (cs ++ ds) ↔ NoControl cs ∧ NoControl ds :=
  List.forall_mem_append

namespace Decimal

theorem noControl_digitsOf (n : Nat) : NoControl (digitsOf n) := by
  intro c hc
  have hdigit : c.isDigit = true := Nat.isDigit_of_mem_toDigits (by decide) (by decide) hc
  have hlow : 48 ≤ c.toNat := (Char.isDigit_iff_toNat.1 hdigit).1
  omega

theorem noControl_replicate (n : Nat) : NoControl (List.replicate n '0') := by
  intro c hc
  rw [List.eq_of_mem_replicate hc]
  decide

theorem noControl_byPosition (style : Style) {ds : List Char} (h : NoControl ds) (k : Int) :
    NoControl (byPosition style ds k) := by
  unfold byPosition
  split
  · simp [noControl_replicate, h]
  · split
    · split <;> simp [noControl_replicate, h]
    · rw [noControl_append, noControl_cons]
      refine ⟨fun c hc => h c (List.mem_of_mem_take hc), by decide,
        fun c hc => h c (List.mem_of_mem_drop hc)⟩

theorem noControl_byExponent (style : Style) {ds : List Char} (h : NoControl ds) (e : Int) :
    NoControl (byExponent style ds e) := by
  have hsign : NoControl (if e < 0 then ['-'] else if style.signsExponent then ['+'] else []) := by
    split
    · simp
    · split <;> simp
  have hexponent := noControl_digitsOf e.natAbs
  unfold byExponent
  match ds, h with
  | [], _ => simp [hsign, hexponent]
  | [d], h => simp_all
  | d :: next :: more, h => simp_all

theorem noControl_writeDigits (style : Style) (d : Digits) : NoControl (writeDigits style d) := by
  have hdigits := noControl_digitsOf d.digits
  unfold writeDigits
  simp only
  split
  · exact noControl_byPosition style hdigits _
  · split
    · exact noControl_byPosition style hdigits _
    · exact noControl_byExponent style hdigits _

theorem noControl_write (style : Style) (x : Float) : NoControl (write style x).toList := by
  have hsign : NoControl (if 0x8000000000000000 ≤ x.toBits.toNat then ['-'] else []) := by
    split <;> simp
  unfold write
  simp only
  split
  · simp
  · split
    · simp only [String.toList_ofList, noControl_append]
      exact ⟨hsign, by simp⟩
    · split
      · simp only [String.toList_ofList, noControl_append, noControl_cons]
        exact ⟨hsign, by decide, by split <;> simp⟩
      · simp only [String.toList_ofList, noControl_append]
        exact ⟨hsign, noControl_writeDigits style _⟩

end Decimal

/-! ### Values -/

namespace Json

theorem hexDigit_high (n : Nat) (h : n < 16) : 32 ≤ (hexDigit n).toNat := by
  revert n
  decide

/-- A control character is written as others that are none. -/
theorem noControl_escaped (c : Char) : NoControl (escaped c) := by
  by_cases hlow : c.toNat < 32
  · have hfirst := hexDigit_high (c.toNat / 16) (by omega)
    have hsecond := hexDigit_high (c.toNat % 16) (by omega)
    unfold escaped
    split_ifs <;> simp [hfirst, hsecond]
  · have hitself : NoControl [c] := noControl_cons.2 ⟨Nat.not_lt.1 hlow, noControl_nil⟩
    unfold escaped
    split_ifs <;> simp [hitself]

theorem noControl_quote (s : String) : NoControl (quote s) := by
  have hbody : NoControl (s.toList.flatMap escaped) := by
    intro c hc
    obtain ⟨d, _, hd⟩ := List.mem_flatMap.1 hc
    exact noControl_escaped d c hd
  rw [quote, List.cons_append, noControl_cons, noControl_append]
  exact ⟨by decide, hbody, by simp⟩

theorem noControl_printInt (n : Int) : NoControl (printInt n) := by
  have hdigits := Decimal.noControl_digitsOf n.natAbs
  unfold printInt
  split
  · exact noControl_cons.2 ⟨by decide, hdigits⟩
  · exact hdigits

theorem noControl_printFloat (x : Float) : NoControl (printFloat x) := by
  unfold printFloat
  split
  · exact Decimal.noControl_write floatStyle x
  · simp

mutual

/-- **The compact text of a value holds no control character.** -/
theorem noControl_compact : ∀ v : Json, NoControl (compact v)
  | null => by simp [compact]
  | bool true => by simp [compact]
  | bool false => by simp [compact]
  | integer n => noControl_printInt n.value
  | float x => noControl_printFloat x
  | string s => noControl_quote s
  | array [] => by simp [compact]
  | array (v :: rest) => by
    rw [compact, List.cons_append, noControl_cons, noControl_append]
    exact ⟨by decide, noControl_compact v, noControl_compactItems rest⟩
  | object [] => by simp [compact]
  | object ((name, v) :: rest) => by
    simp only [compact, List.cons_append, noControl_cons, noControl_append]
    exact ⟨by decide, ⟨noControl_quote name, by decide, noControl_compact v⟩,
      noControl_compactMembers rest⟩

theorem noControl_compactItems : ∀ items : List Json, NoControl (compactItems items)
  | [] => by simp [compactItems]
  | v :: rest => by
    rw [compactItems, List.cons_append, noControl_cons, noControl_append]
    exact ⟨by decide, noControl_compact v, noControl_compactItems rest⟩

theorem noControl_compactMembers :
    ∀ members : List (String × Json), NoControl (compactMembers members)
  | [] => by simp [compactMembers]
  | (name, v) :: rest => by
    simp only [compactMembers, List.cons_append, noControl_cons, noControl_append]
    exact ⟨by decide, ⟨noControl_quote name, by decide, noControl_compact v⟩,
      noControl_compactMembers rest⟩

end

end Json

end CompileIndex

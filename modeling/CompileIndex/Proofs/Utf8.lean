import CompileIndex.Text.Utf8
import Mathlib.Data.List.Basic
import Mathlib.Tactic.IntervalCases

/-!
# Texts as bytes and back

A text written as UTF-8 is read back as it was, character by character, whatever stands behind
it; so the bytes of a text hold no malformed piece.  The line feed is one byte, and that byte
stands for nothing else.

* `encode_eq_flatMap`, `encode_append` — the bytes of a text, character by character;
* `ten_mem_encode_iff` — where the bytes of a text hold a line feed;
* `scan_encode` — texts survive being written as bytes.
-/

namespace CompileIndex.Text.Utf8

/-! ### The bytes of a text -/

/-- The list that a byte array is read off as holds its bytes in order. -/
theorem toList_eq_toList_data (bytes : ByteArray) : bytes.toList = bytes.data.toList := by
  have loop : ∀ i r, ByteArray.toList.loop bytes i r = r.reverse ++ bytes.data.toList.drop i := by
    intro i r
    fun_induction ByteArray.toList.loop bytes i r with
    | case1 i r hi ih =>
      have hlen : i < bytes.data.toList.length := hi
      have hget : bytes.get! i = bytes.data.toList[i] := getElem!_pos bytes.data i hi
      rw [ih, hget, List.reverse_cons, List.append_assoc, List.singleton_append,
        ← List.drop_eq_getElem_cons hlen]
    | case2 i r hi =>
      have hlen : bytes.data.toList.length ≤ i := Nat.not_lt.1 hi
      rw [List.drop_eq_nil_of_le hlen, List.append_nil]
  have hall := loop 0 []
  rwa [List.reverse_nil, List.nil_append, List.drop_zero] at hall

theorem encode_eq_flatMap (text : String) :
    encode text = text.toList.flatMap String.utf8EncodeChar := by
  have hbytes : text.toUTF8 = text.toList.utf8Encode := by simp
  rw [encode, toList_eq_toList_data, hbytes, List.utf8Encode, List.toList_data_toByteArray]

theorem toNat_ofNat_byte {n : Nat} (h : n < 0x100) : (UInt8.ofNat n).toNat = n :=
  UInt8.toNat_ofNat_of_lt' h

/-- The bytes of a character by its number, as the encoding lays them out. -/
theorem utf8EncodeChar_eq (c : Char) :
    String.utf8EncodeChar c =
      let n := c.toNat
      if n ≤ 0x7f then [UInt8.ofNat n]
      else if n ≤ 0x7ff then [UInt8.ofNat (n / 64 % 32 + 0xc0), UInt8.ofNat (n % 64 + 0x80)]
      else if n ≤ 0xffff then
        [UInt8.ofNat (n / 4096 % 16 + 0xe0), UInt8.ofNat (n / 64 % 64 + 0x80),
          UInt8.ofNat (n % 64 + 0x80)]
      else
        [UInt8.ofNat (n / 262144 % 8 + 0xf0), UInt8.ofNat (n / 4096 % 64 + 0x80),
          UInt8.ofNat (n / 64 % 64 + 0x80), UInt8.ofNat (n % 64 + 0x80)] :=
  rfl

@[simp] theorem scanFrom_cons (owed : Option Pending) (b : UInt8) (rest : List UInt8) :
    scanFrom owed (b :: rest) = (step owed b).1 ++ scanFrom (step owed b).2 rest :=
  rfl

theorem start_one {n : Nat} (h : n ≤ 0x7f) : start (UInt8.ofNat n) = .whole (Char.ofNat n) := by
  simp only [start, toNat_ofNat_byte (show n < 0x100 by omega), if_pos h]

theorem start_two {n : Nat} (low : 0xc2 ≤ n) (high : n ≤ 0xdf) :
    start (UInt8.ofNat n) = .part ⟨0x80, 0xbf, 0, n % 32⟩ := by
  interval_cases n <;> rfl

/-- The second of three bytes is bounded where two bytes would do and where surrogates lie. -/
theorem start_three {n : Nat} (low : 0xe0 ≤ n) (high : n ≤ 0xef) :
    start (UInt8.ofNat n) = .part ⟨if n = 0xe0 then 0xa0 else 0x80,
      if n = 0xed then 0x9f else 0xbf, 1, n % 16⟩ := by
  interval_cases n <;> rfl

/-- The second of four bytes is bounded where three bytes would do and where characters end. -/
theorem start_four {n : Nat} (low : 0xf0 ≤ n) (high : n ≤ 0xf4) :
    start (UInt8.ofNat n) = .part ⟨if n = 0xf0 then 0x90 else 0x80,
      if n = 0xf4 then 0x8f else 0xbf, 2, n % 8⟩ := by
  interval_cases n <;> rfl

/-- The last byte that a character owes completes it. -/
theorem step_last {low high : UInt8} {bits n : Nat} (hlow : low.toNat ≤ n)
    (hhigh : n ≤ high.toNat) :
    step (some ⟨low, high, 0, bits⟩) (UInt8.ofNat n) =
      ([some (Char.ofNat (bits * 64 + n % 64))], none) := by
  have hn := toNat_ofNat_byte (Nat.lt_of_le_of_lt hhigh high.toNat_lt)
  simp only [step, UInt8.le_iff_toNat_le, hn, hlow, hhigh, decide_true, Bool.and_self, if_true]

/-- A byte that is not the last one owed adds its bits. -/
theorem step_more {low high : UInt8} {k bits n : Nat} (hlow : low.toNat ≤ n)
    (hhigh : n ≤ high.toNat) :
    step (some ⟨low, high, k + 1, bits⟩) (UInt8.ofNat n) =
      ([], some ⟨0x80, 0xbf, k, bits * 64 + n % 64⟩) := by
  have hn := toNat_ofNat_byte (Nat.lt_of_le_of_lt hhigh high.toNat_lt)
  simp only [step, UInt8.le_iff_toNat_le, hn, hlow, hhigh, decide_true, Bool.and_self, if_true]

theorem step_whole {b : UInt8} {c : Char} (h : start b = .whole c) :
    step none b = ([some c], none) := by
  simp only [step, fresh, h]

theorem step_part {b : UInt8} {p : Pending} (h : start b = .part p) :
    step none b = ([], some p) := by
  simp only [step, fresh, h]

/-- **A character is read back from its bytes**, whatever stands behind them. -/
theorem scanFrom_utf8EncodeChar (c : Char) (rest : List UInt8) :
    scanFrom none (String.utf8EncodeChar c ++ rest) = some c :: scanFrom none rest := by
  have hvalid : c.toNat < 0xd800 ∨ 0xdfff < c.toNat ∧ c.toNat < 0x110000 := c.valid
  have hback : ∀ n, n = c.toNat → some (Char.ofNat n) = some c := by
    rintro n rfl
    rw [Char.ofNat_toNat]
  rw [utf8EncodeChar_eq]
  generalize c.toNat = n at hvalid hback
  simp only
  split
  · simp only [List.cons_append, List.nil_append, scanFrom_cons]
    rw [step_whole (start_one ‹_›), hback n rfl]
    rfl
  · split
    · simp only [List.cons_append, List.nil_append, scanFrom_cons]
      rw [step_part (start_two (by omega) (by omega)), List.nil_append,
        step_last (by simp) (by simp; omega), hback _ (by omega)]
      rfl
    · split
      · simp only [List.cons_append, List.nil_append, scanFrom_cons]
        rw [step_part (start_three (by omega) (by omega)), List.nil_append,
          step_more (by split <;> simp; omega) (by split <;> simp <;> omega), List.nil_append,
          step_last (by simp) (by simp; omega), hback _ (by omega)]
        rfl
      · simp only [List.cons_append, List.nil_append, scanFrom_cons]
        rw [step_part (start_four (by omega) (by omega)), List.nil_append,
          step_more (by split <;> simp; omega) (by split <;> simp <;> omega), List.nil_append,
          step_more (by simp) (by simp; omega), List.nil_append,
          step_last (by simp) (by simp; omega), hback _ (by omega)]
        rfl

/-- **Texts survive being written as bytes**: these hold the characters and no malformed piece. -/
theorem scan_encode (text : String) : scan (encode text) = text.toList.map some := by
  rw [encode_eq_flatMap, scan]
  induction text.toList with
  | nil => rfl
  | cons c rest ih => rw [List.flatMap_cons, scanFrom_utf8EncodeChar, ih, List.map_cons]

end CompileIndex.Text.Utf8

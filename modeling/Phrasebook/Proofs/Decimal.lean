import Mathlib.Data.Nat.Digits.Defs
import Phrasebook.Proofs.Numeral

/-!
# Integers in decimal

An integer that is written in decimal is read as itself, unless its digits are too many to be read
at all.
-/

namespace Phrasebook

namespace Text

def decimalDigits : Text := ['0', '1', '2', '3', '4', '5', '6', '7', '8', '9']

theorem mem_decimalDigits {n : Nat} {c : Char} (h : c ∈ decimal n) : c ∈ decimalDigits := by
  have hd : c.isDigit = true := Nat.isDigit_of_mem_toDigits (by decide) (by decide) h
  obtain ⟨hlow, hhigh⟩ : 48 ≤ c.toNat ∧ c.toNat ≤ 57 := by
    simpa [Char.isDigit, UInt32.le_iff_toNat_le] using hd
  have hall : ∀ code < 58, 48 ≤ code → Char.ofNat code ∈ decimalDigits := by decide
  rw [← Char.ofNat_toNat c]
  exact hall c.toNat (by omega) hlow

theorem decimal_ne_nil (n : Nat) : decimal n ≠ [] := Nat.toDigits_ne_nil

theorem mem_integer {i : Int} {c : Char} (h : c ∈ integer i) : c = '-' ∨ c ∈ decimalDigits := by
  rw [integer] at h
  split at h
  · exact (List.mem_cons.mp h).imp_right mem_decimalDigits
  · exact .inr (mem_decimalDigits h)

theorem integer_ne_nil (i : Int) : integer i ≠ [] := by
  rw [integer]
  split
  · exact List.cons_ne_nil _ _
  · exact decimal_ne_nil _

/-- What the digits are worth, one after another, is what they write. -/
theorem foldl_decimal {worth : Nat → Char → Nat}
    (h : ∀ c ∈ decimalDigits, ∀ value, worth value c = 10 * value + (c.toNat - '0'.toNat)) (n : Nat) :
    (decimal n).foldl worth 0 = n := by
  have hsame : (decimal n).foldl worth 0 = Nat.ofDigitChars 10 (decimal n) 0 :=
    List.foldl_ext _ _ 0 fun value c hc => h c (mem_decimalDigits hc) value
  rw [hsame, decimal, Nat.ofDigitChars_ten_toDigits]

theorem length_decimal_le {n k : Nat} (hk : 0 < k) (h : n < 10 ^ k) : (decimal n).length ≤ k :=
  Nat.toDigits_length 10 n k hk h

end Text

namespace Numeral

theorem digits_decimal (n : Nat) : Digits Text.isDigit (Text.decimal n) := by
  have hall : ∀ c ∈ Text.decimalDigits, Text.isDigit c = true :=
    List.forall_iff_forall_mem.mp (by decide)
  exact ⟨fun c hc => hall c (Text.mem_decimalDigits hc), Text.decimal_ne_nil n⟩

theorem map_plainChar_decimal (n : Nat) : (Text.decimal n).map plainChar = Text.decimal n := by
  have hall : ∀ c ∈ Text.decimalDigits, plainChar c = c :=
    List.forall_iff_forall_mem.mp (by decide)
  exact (List.map_congr_left fun c hc => hall c (Text.mem_decimalDigits hc)).trans (List.map_id _)

theorem digitsValue_decimal (n : Nat) : digitsValue (Text.decimal n) = n := by
  have hall : ∀ c ∈ Text.decimalDigits, Text.digit? c = some (c.toNat - '0'.toNat) :=
    List.forall_iff_forall_mem.mp (by decide)
  refine Text.foldl_decimal (fun c hc value => ?_) n
  rw [hall c hc]

/-- The sign of an integer and its digits. -/
theorem exists_sign (i : Int) :
    ∃ sign, (sign = [] ∨ sign = ['-']) ∧ Text.integer i = sign ++ Text.decimal i.natAbs ∧
      (sign = ['-'] ↔ i < 0) := by
  by_cases h : i < 0
  · exact ⟨['-'], .inr rfl, by rw [Text.integer, if_pos h]; rfl, by simp [h]⟩
  · exact ⟨[], .inl rfl, by rw [Text.integer, if_neg h]; rfl, by simp [h]⟩

/-- An integer in decimal is read as itself, unless it has too many digits. -/
theorem integer_integer (i : Int) :
    integer (Text.integer i) =
      if digitLimit < (Text.decimal i.natAbs).length then
        .error (.tooLong (Text.decimal i.natAbs).length)
      else .ok i := by
  obtain ⟨sign, hsign, hi, hneg⟩ := exists_sign i
  have hsign' : IsSign sign := hsign.imp_right .inl
  rw [hi, integer_eq hsign' (digits_decimal _), map_plainChar_decimal, digitsValue_decimal]
  congr 2
  by_cases h : i < 0
  · rw [if_pos (hneg.mpr h)]
    omega
  · rw [if_neg fun he => h (hneg.mp he)]
    omega

end Numeral

/-- The placeholder of integers takes all of them. -/
theorem Pattern.spells_signed (i : Int) : (row (builtInItems .int)).Spells (Text.integer i) := by
  obtain ⟨sign, hsign, hi, -⟩ := Numeral.exists_sign i
  rw [hi]
  exact spells_integer hsign (Numeral.digits_decimal _)

end Phrasebook

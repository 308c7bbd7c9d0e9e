import Mathlib.Data.List.Induction
import Mathlib.Data.Nat.Digits.Defs
import Phrasebook.Proofs.Matching
import Phrasebook.Proofs.Numeral

/-!
# Positional notation

A text that the placeholder for integers takes is an optional minus sign and digits of any scripts,
also of several at once. Bringing it to ASCII keeps what each digit is worth, so the integer that is
read is the one that the digits write in positional notation.
-/

namespace Phrasebook

namespace Numeral

def digitValues (t : Text) : List Nat := t.filterMap Text.digit?

/-- The integer that the digits of a text write in positional notation, below zero if a minus sign
stands in front. -/
def positional (t : Text) : Int :=
  let magnitude : Nat := Nat.ofDigits 10 (digitValues t).reverse
  if t.head? = some '-' then -(magnitude : Int) else magnitude

theorem digit?_asciiDigit {n : Nat} (h : n < 10) : Text.digit? (asciiDigit n) = some n := by
  have hall : ∀ n < 10, Text.digit? (asciiDigit n) = some n := by decide
  exact hall n h

theorem digits_replicate {c : Char} (hc : Text.isDigit c = true) {n : Nat} (hn : n ≠ 0) :
    Digits Text.isDigit (List.replicate n c) :=
  ⟨fun _ hd => List.eq_of_mem_replicate hd ▸ hc, by simpa using hn⟩

/-- A digit in ASCII is worth as much as the digit that it stands for. -/
theorem digit?_plainChar {c : Char} (h : Text.isDigit c = true) :
    Text.digit? (plainChar c) = Text.digit? c := by
  rw [plainChar]
  split
  · rfl
  · obtain ⟨first, -, hle, hlt, hd⟩ := Text.exists_first h
    rw [Text.isBlank_of_isDigit h, hd]
    exact digit?_asciiDigit (by omega)

theorem digitValues_plain {t : Text} (h : Digits Text.isDigit t) :
    digitValues (t.map plainChar) = digitValues t := by
  rw [digitValues, List.filterMap_map]
  exact List.filterMap_congr fun c hc => digit?_plainChar (h.all c hc)

theorem digitsValue_concat (t : Text) (c : Char) :
    digitsValue (t ++ [c]) =
      match Text.digit? c with
      | some d => 10 * digitsValue t + d
      | none => digitsValue t := by
  rw [digitsValue, List.foldl_append]
  rfl

theorem digitValues_concat (t : Text) (c : Char) :
    digitValues (t ++ [c]) = digitValues t ++ (Text.digit? c).toList := by
  rw [digitValues, List.filterMap_append]
  cases hd : Text.digit? c <;> simp [digitValues, hd]

/-- The value of digits is what they write in positional notation. The induction adds characters at
the end, as reading does. -/
theorem digitsValue_eq_ofDigits (t : Text) :
    digitsValue t = Nat.ofDigits 10 (digitValues t).reverse := by
  induction t using List.reverseRecOn with
  | nil => rfl
  | append_singleton t c ih =>
    rw [digitsValue_concat, digitValues_concat, ih]
    cases Text.digit? c with
    | none => simp
    | some d =>
      simp [Nat.ofDigits_cons]
      omega

theorem digitValues_signed {sign t : Text} (hs : IsSign sign) :
    digitValues (sign ++ t) = digitValues t := by
  have hsign : digitValues sign = [] := by
    rcases hs with rfl | rfl | rfl <;> decide
  rw [digitValues, List.filterMap_append]
  exact congrArg (· ++ digitValues t) hsign

/-- Digits do not begin with a minus sign, so a minus sign in front is the sign before them. -/
theorem head?_signed {sign t : Text} (hs : IsSign sign) (h : Digits Text.isDigit t) :
    (sign ++ t).head? = some '-' ↔ sign = ['-'] := by
  rcases hs with rfl | rfl | rfl
  · cases t with
    | nil => exact absurd rfl h.nonempty
    | cons c t =>
      have hc : c ≠ '-' := by
        rintro rfl
        exact absurd (h.all '-' List.mem_cons_self) (by decide)
      simp [hc]
  · simp
  · simp

/-- An integer is read as positional notation has it, unless its digits are too many. -/
theorem integer_eq_positional {sign t : Text} (hs : IsSign sign) (h : Digits Text.isDigit t) :
    integer (sign ++ t) =
      if digitLimit < t.length then .error (.tooLong t.length) else .ok (positional (sign ++ t)) := by
  have hvalue : digitsValue (t.map plainChar) = Nat.ofDigits 10 (digitValues t).reverse := by
    rw [digitsValue_eq_ofDigits, digitValues_plain h]
  simp only [integer_eq hs h, positional, digitValues_signed hs, head?_signed hs h, hvalue]

end Numeral

/-- The placeholder for integers takes digits with an optional minus sign. -/
theorem Pattern.fits_integer_iff {t : Text} :
    Fits BuiltIn.int.pattern t ↔
      ∃ sign u, t = sign ++ u ∧ (sign = [] ∨ sign = ['-']) ∧ Numeral.Digits Text.isDigit u := by
  rw [fits_iff_spells reads_integer (plain_builtInItems .int)]
  constructor
  · exact integer_of_spells
  · rintro ⟨sign, u, rfl, hs, hu⟩
    exact spells_integer hs hu

namespace BuiltIn

/-- A text that the placeholder for integers takes is converted to the integer that it writes, unless
it has more than 4300 digits, which is an error. A text that the placeholder for floating point
numbers takes is always converted to one. -/
theorem numerals_converted (t : Text) :
    (Pattern.Fits int.pattern t →
      ((t.filter Text.isDigit).length ≤ 4300 →
        int.convert (.text t) = .ok (.int (Numeral.positional t))) ∧
      (4300 < (t.filter Text.isDigit).length →
        int.convert (.text t) = .error (.integerTooLong (t.filter Text.isDigit).length) ∧
          (Failure.integerTooLong (t.filter Text.isDigit).length).label = "ValueError".toList)) ∧
      (Pattern.Fits float.pattern t →
        ∃ value, float.convert (.text t) = .ok (.float value)) := by
  constructor
  · intro ht
    obtain ⟨sign, u, rfl, hminus, hu⟩ := Pattern.fits_integer_iff.mp ht
    have hsign : Numeral.IsSign sign := hminus.imp_right .inl
    have heq := Numeral.integer_eq_positional hsign hu
    rw [Numeral.filter_isDigit hsign hu]
    constructor
    · intro hl
      have hshort : ¬ Numeral.digitLimit < u.length := Nat.not_lt.mpr hl
      rw [if_neg hshort] at heq
      simp only [convert, toInteger, integerOfText, heq, Except.map]
    · intro hl
      have hlong : Numeral.digitLimit < u.length := hl
      rw [if_pos hlong] at heq
      refine ⟨?_, rfl⟩
      simp only [convert, toInteger, integerOfText, heq, Except.map]
  · intro ht
    exact exists_convert_float
      ((Pattern.fits_iff_spells Pattern.reads_float (Pattern.plain_builtInItems .float) t).mp ht)

/-- Digits of two scripts after a sign, too many digits, and a number with a point behind its digits
and a negative power of ten. -/
theorem numerals_converted_mixed :
    Pattern.Fits int.pattern ['-', '\u0663', '1'] ∧
      int.convert (.text ['-', '\u0663', '1']) = .ok (.int (-31)) ∧
      Pattern.Fits int.pattern (List.replicate 4301 '1') ∧
      int.convert (.text (List.replicate 4301 '1')) = .error (.integerTooLong 4301) ∧
      Pattern.Fits float.pattern ['+', '\u0663', '.', 'e', '-', '9'] ∧
      ∃ value, float.convert (.text ['+', '\u0663', '.', 'e', '-', '9']) = .ok (.float value) := by
  have hdigits : Numeral.Digits Text.isDigit ['\u0663', '1'] :=
    ⟨List.forall_iff_forall_mem.mp (by decide), List.cons_ne_nil _ _⟩
  have hmixed : Pattern.Fits int.pattern ['-', '\u0663', '1'] :=
    Pattern.fits_integer_iff.mpr ⟨['-'], _, rfl, .inr rfl, hdigits⟩
  have hones : Numeral.Digits Text.isDigit (List.replicate 4301 '1') :=
    Numeral.digits_replicate (by decide) (by decide)
  have hlong : Pattern.Fits int.pattern (List.replicate 4301 '1') :=
    Pattern.fits_integer_iff.mpr ⟨[], _, rfl, .inl rfl, hones⟩
  have hcount : ((List.replicate 4301 '1').filter Text.isDigit).length = 4301 := by
    rw [List.filter_eq_self.mpr hones.all, List.length_replicate]
  have hfloat : Pattern.Fits float.pattern ['+', '\u0663', '.', 'e', '-', '9'] :=
    ⟨_, _, Pattern.reads_float.read_eq, by decide +kernel⟩
  have hvalue : Numeral.positional ['-', '\u0663', '1'] = -31 := by decide
  have hconverted := ((numerals_converted _).1 hmixed).1 (by decide)
  have hrefused := (((numerals_converted _).1 hlong).2 (by omega)).1
  rw [hvalue] at hconverted
  rw [hcount] at hrefused
  exact ⟨hmixed, hconverted, hlong, hrefused, hfloat, (numerals_converted _).2 hfloat⟩

end BuiltIn

end Phrasebook

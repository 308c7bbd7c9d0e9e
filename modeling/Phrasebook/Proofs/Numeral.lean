import Phrasebook.Proofs.Pattern.Generated

/-!
# Numerals of the built-in placeholders

Whatever the patterns of the built-in placeholders take can be converted: digits of any script with
the signs, the point and the letters that the patterns allow are numerals. Only the number of digits
of an integer is limited.
-/

namespace Phrasebook

namespace Text

theorem exists_first {c : Char} (h : isDigit c = true) :
    ∃ first, first ∈ zeros ∧ first ≤ c.toNat ∧ c.toNat < first + 10 ∧
      digit? c = some (c.toNat - first) := by
  obtain ⟨value, hv⟩ := Option.isSome_iff_exists.mp h
  obtain ⟨first, hf, he⟩ := Option.map_eq_some_iff.mp hv
  have hrange := List.find?_some hf
  simp only [Bool.and_eq_true, decide_eq_true_eq] at hrange
  exact ⟨first, List.mem_of_find?_eq_some hf, hrange.1, hrange.2, by rw [hv, he]⟩

/-- Within ASCII only the ASCII digits are digits. -/
theorem isAsciiDigit_of_isDigit {c : Char} (h : isDigit c = true) (hc : c.toNat < 0x80) :
    isAsciiDigit c = true := by
  obtain ⟨first, hz, hle, hlt, -⟩ := exists_first h
  have hfirst : ∀ n ∈ zeros, n = 0x30 ∨ 0x80 ≤ n := List.forall_iff_forall_mem.mp (by decide)
  rcases hfirst first hz with rfl | hbig
  · have hlow : '0' ≤ c := hle
    have hhigh : c ≤ '9' := Nat.le_of_lt_succ hlt
    simp [isAsciiDigit, hlow, hhigh]
  · omega

/-- No digit is a blank. -/
theorem isBlank_of_isDigit {c : Char} (h : isDigit c = true) : isBlank c = false := by
  obtain ⟨first, hz, hle, hlt, -⟩ := exists_first h
  have hapart : ∀ n ∈ zeros, ∀ range ∈ blankRanges, range.2 < n ∨ n + 10 ≤ range.1 := by decide
  rw [isBlank, inRanges, List.any_eq_false]
  intro range hr
  have := hapart first hz range hr
  simp only [Bool.and_eq_true, decide_eq_true_eq, not_and]
  omega

theorem dropWhile_eq_self {t : Text} {drop : Char → Bool} (h : ∀ c ∈ t, drop c = false) :
    t.dropWhile drop = t := by
  cases t with
  | nil => rfl
  | cons c t => rw [List.dropWhile_cons_of_neg (by simp [h c (by simp)])]

theorem trim_eq_self {t : Text} {drop : Char → Bool} (h : ∀ c ∈ t, drop c = false) :
    trim drop t = t := by
  rw [trim, dropWhile_eq_self h, dropWhile_eq_self (by simpa using h), List.reverse_reverse]

end Text

namespace Numeral

def signs : Text := ['-', '+', '.', 'e', 'E']

def Written (digit : Char → Bool) (t : Text) : Prop := ∀ c ∈ t, digit c = true ∨ c ∈ signs

theorem isAsciiDigit_asciiDigit {n : Nat} (h : n < 10) : Text.isAsciiDigit (asciiDigit n) = true := by
  have hall : ∀ n < 10, Text.isAsciiDigit (asciiDigit n) = true := by decide
  exact hall n h

/-- A digit of any script becomes an ASCII digit. -/
theorem isAsciiDigit_plainChar {c : Char} (h : Text.isDigit c = true) :
    Text.isAsciiDigit (plainChar c) = true := by
  rw [plainChar]
  split
  · next hc => exact Text.isAsciiDigit_of_isDigit h (by omega)
  · rw [Text.isBlank_of_isDigit h]
    obtain ⟨first, -, hle, hlt, hd⟩ := Text.exists_first h
    rw [hd]
    exact isAsciiDigit_asciiDigit (by omega)

theorem plainChar_sign {c : Char} (h : c ∈ signs) : plainChar c = c := by
  have hall : ∀ d ∈ signs, d.toNat < 0x7f := List.forall_iff_forall_mem.mp (by decide)
  rw [plainChar, if_pos (hall c h)]

theorem plain_eq_map {t : Text} (h : Written Text.isDigit t) : plain t = t.map plainChar := by
  rw [plain]
  split
  · next hall =>
    have hsame : ∀ c ∈ t, plainChar c = c := by
      intro c hc
      rcases h c hc with hd | hs
      · have hascii : c.toNat < 0x80 := by simpa using List.all_eq_true.mp hall c hc
        have hdigit := Text.isAsciiDigit_of_isDigit hd hascii
        have hle : c ≤ '9' := by
          simp only [Text.isAsciiDigit, Bool.and_eq_true, decide_eq_true_eq] at hdigit
          exact hdigit.2
        have hcode : c.toNat ≤ 0x39 := hle
        rw [plainChar, if_pos (by omega)]
      · exact plainChar_sign hs
    rw [List.map_congr_left hsame, List.map_id']
  · rfl

/-- No character of a numeral in ASCII is a blank or an underscore. -/
theorem Written.solid {t : Text} (h : Written Text.isAsciiDigit t) {c : Char} (hc : c ∈ t) :
    Text.isAsciiBlank c = false ∧ c ≠ '_' := by
  rcases h c hc with hd | hs
  · simp only [Text.isAsciiDigit, Bool.and_eq_true, decide_eq_true_eq] at hd
    have hlow : 0x30 ≤ c.toNat := hd.1
    have hhigh : c.toNat ≤ 0x39 := hd.2
    refine ⟨?_, ?_⟩
    · have hne : c ≠ ' ' := by
        rintro rfl
        exact absurd hlow (by decide)
      simp only [Text.isAsciiBlank, hne, decide_false, Bool.false_or, Bool.and_eq_false_iff,
        decide_eq_false_iff_not]
      omega
    · rintro rfl
      exact absurd hhigh (by decide)
  · have hall : ∀ d ∈ signs, Text.isAsciiBlank d = false ∧ d ≠ '_' :=
      List.forall_iff_forall_mem.mp (by decide)
    exact hall c hs

theorem underscoresApartAfter_eq_true {t : Text} (h : ∀ c ∈ t, c ≠ '_') (digitBefore : Bool) :
    underscoresApartAfter digitBefore t = true := by
  induction t generalizing digitBefore with
  | nil => rfl
  | cons c t ih =>
    rw [underscoresApartAfter, if_neg (h c (by simp))]
    exact ih (fun d hd => h d (by simp [hd])) _

def IsSign (t : Text) : Prop := t = [] ∨ t = ['-'] ∨ t = ['+']

structure Digits (digit : Char → Bool) (t : Text) : Prop where
  all : ∀ c ∈ t, digit c = true
  nonempty : t ≠ []

/-- Digits with at most one point before, among or behind them. -/
inductive Mantissa (digit : Char → Bool) : Text → Prop
  | whole {t : Text} (h : Digits digit t) : Mantissa digit t
  | point {t u : Text} (h : Digits digit (t ++ u)) : Mantissa digit (t ++ '.' :: u)

inductive Power (digit : Char → Bool) : Text → Prop
  | one : Power digit []
  | ten {letter : Char} {sign t : Text} (hl : letter = 'e' ∨ letter = 'E') (hs : IsSign sign)
      (h : Digits digit t) : Power digit (letter :: (sign ++ t))

theorem IsSign.written {t : Text} (h : IsSign t) (digit : Char → Bool) : Written digit t := by
  have hsub : t ⊆ signs := by rcases h with rfl | rfl | rfl <;> decide
  exact fun c hc => .inr (hsub hc)

theorem IsSign.not_isDigit {t : Text} (h : IsSign t) : ∀ c ∈ t, ¬ Text.isDigit c = true := by
  rcases h with rfl | rfl | rfl
  · exact fun c hc => absurd hc List.not_mem_nil
  · exact fun c hc => List.mem_singleton.mp hc ▸ by decide
  · exact fun c hc => List.mem_singleton.mp hc ▸ by decide

theorem Written.append {digit : Char → Bool} {t u : Text} (h : Written digit t)
    (h' : Written digit u) : Written digit (t ++ u) := by
  intro c hc
  cases List.mem_append.mp hc with
  | inl hc => exact h c hc
  | inr hc => exact h' c hc

theorem Digits.written {digit : Char → Bool} {t : Text} (h : Digits digit t) : Written digit t :=
  fun c hc => .inl (h.all c hc)

theorem Mantissa.written {digit : Char → Bool} {t : Text} (h : Mantissa digit t) :
    Written digit t := by
  cases h with
  | whole h => exact h.written
  | @point t u h =>
    intro c hc
    simp only [List.mem_append, List.mem_cons] at hc
    rcases hc with hc | rfl | hc
    · exact .inl (h.all c (by simp [hc]))
    · exact .inr (by decide)
    · exact .inl (h.all c (by simp [hc]))

theorem Power.written {digit : Char → Bool} {t : Text} (h : Power digit t) : Written digit t := by
  cases h with
  | one => exact fun c hc => by cases hc
  | @ten letter sign t hl hs h =>
    have hletter : Written digit [letter] := by
      intro c hc
      rw [List.mem_singleton.mp hc]
      rcases hl with rfl | rfl <;> exact .inr (by decide)
    exact hletter.append ((hs.written digit).append h.written)

theorem IsSign.map_plainChar {t : Text} (h : IsSign t) : t.map plainChar = t := by
  rcases h with rfl | rfl | rfl <;> decide

theorem Digits.plain {t : Text} (h : Digits Text.isDigit t) :
    Digits Text.isAsciiDigit (t.map plainChar) := by
  refine ⟨fun c hc => ?_, by simpa using h.nonempty⟩
  obtain ⟨d, hd, rfl⟩ := List.mem_map.mp hc
  exact isAsciiDigit_plainChar (h.all d hd)

theorem Mantissa.plain {t : Text} (h : Mantissa Text.isDigit t) :
    Mantissa Text.isAsciiDigit (t.map plainChar) := by
  cases h with
  | whole h => exact .whole h.plain
  | @point t u h =>
    have hpoint : plainChar '.' = '.' := by decide
    have hplain := h.plain
    rw [List.map_append] at hplain
    rw [List.map_append, List.map_cons, hpoint]
    exact .point hplain

theorem Power.plain {t : Text} (h : Power Text.isDigit t) :
    Power Text.isAsciiDigit (t.map plainChar) := by
  cases h with
  | one => exact .one
  | @ten letter sign t hl hs h =>
    have hletter : plainChar letter = letter := by rcases hl with rfl | rfl <;> decide
    rw [List.map_cons, List.map_append, hletter, hs.map_plainChar]
    exact .ten hl hs h.plain

/-- A sign is read in front of anything that does not begin with one. -/
theorem signed_append {sign rest : Text} (hs : IsSign sign) (h : ∀ c ∈ rest.head?, c ∉ ['-', '+']) :
    signed (sign ++ rest) = (decide (sign = ['-']), rest) := by
  rcases hs with rfl | rfl | rfl
  · cases rest with
    | nil => rfl
    | cons c rest =>
      have hc := h c rfl
      simp only [List.mem_cons, List.not_mem_nil, or_false, not_or] at hc
      rw [List.nil_append, signed]
      · rfl
      · exact fun r he => hc.1 (List.cons.inj he).1
      · exact fun r he => hc.2 (List.cons.inj he).1
  · rfl
  · rfl

theorem not_mem_signs_of_isAsciiDigit {c : Char} (h : Text.isAsciiDigit c = true) : c ∉ signs := by
  have hall : ∀ d ∈ signs, Text.isAsciiDigit d = false :=
    List.forall_iff_forall_mem.mp (by decide)
  intro hc
  rw [hall c hc] at h
  cases h

theorem Digits.head {t : Text} (h : Digits Text.isAsciiDigit t) (rest : Text) :
    ∀ c ∈ (t ++ rest).head?, c ∉ ['-', '+'] := by
  cases t with
  | nil => exact absurd rfl h.nonempty
  | cons d t =>
    intro c hc
    cases hc
    have hd := not_mem_signs_of_isAsciiDigit (h.all d (by simp))
    exact fun hm => hd ((by decide : (['-', '+'] : Text) ⊆ signs) hm)

theorem Mantissa.head {t : Text} (h : Mantissa Text.isAsciiDigit t) (rest : Text) :
    ∀ c ∈ (t ++ rest).head?, c ∉ ['-', '+'] := by
  cases h with
  | whole h => exact h.head rest
  | @point t u h =>
    cases t with
    | nil =>
      intro c hc
      cases hc
      decide
    | cons d t =>
      have hd : Digits Text.isAsciiDigit (d :: t) :=
        ⟨fun c hc => h.all c (List.mem_append_left u hc), List.cons_ne_nil d t⟩
      rw [List.append_assoc]
      exact hd.head _

theorem takeWhile_run {p : Char → Bool} {t rest : Text} (h : ∀ c ∈ t, p c = true)
    (hr : ∀ c ∈ rest.head?, p c = false) :
    (t ++ rest).takeWhile p = t ∧ (t ++ rest).dropWhile p = rest := by
  induction t with
  | nil =>
    cases rest with
    | nil => exact ⟨rfl, rfl⟩
    | cons c rest => simp [hr c rfl]
  | cons c t ih =>
    obtain ⟨htake, hdrop⟩ := ih fun d hd => h d (by simp [hd])
    simp [h c (by simp), htake, hdrop]

/-- A sign and digits write an integer, unless the digits are too many. -/
theorem integer_eq {sign t : Text} (hs : IsSign sign) (h : Digits Text.isDigit t) :
    integer (sign ++ t) =
      if digitLimit < t.length then .error (.tooLong t.length)
      else .ok (if sign = ['-'] then -(digitsValue (t.map plainChar) : Int)
        else digitsValue (t.map plainChar)) := by
  have hplain := h.plain
  have hwritten := (hs.written Text.isAsciiDigit).append hplain.written
  have hbody : plain (sign ++ t) = sign ++ t.map plainChar := by
    rw [plain_eq_map ((hs.written _).append h.written), List.map_append, hs.map_plainChar]
  have hblank : (sign ++ t.map plainChar).dropWhile Text.isAsciiBlank = sign ++ t.map plainChar :=
    Text.dropWhile_eq_self fun c hc => (hwritten.solid hc).1
  have hrun : ∀ c ∈ t.map plainChar, (Text.isAsciiDigit c || c = '_') = true :=
    fun c hc => by simp [hplain.all c hc]
  have hwhile := takeWhile_run hrun fun c (hc : c ∈ ([] : Text).head?) => by cases hc
  rw [List.append_nil] at hwhile
  have hdigits : (t.map plainChar).filter Text.isAsciiDigit = t.map plainChar :=
    List.filter_eq_self.mpr hplain.all
  have hapart : underscoresApart (t.map plainChar) = true :=
    underscoresApartAfter_eq_true (fun c hc => (hplain.written.solid hc).2) false
  have hempty : (t.map plainChar).isEmpty = false := by simpa using h.nonempty
  have hhead := hplain.head []
  rw [List.append_nil] at hhead
  rw [integer, hbody, hblank, signed_append hs hhead]
  simp only [hwhile.1, hwhile.2, hdigits, hapart, hempty, List.length_map, Bool.not_true,
    Bool.false_eq_true, ↓reduceIte, List.all_nil, Bool.or_self, decide_eq_true_eq]

theorem Power.head {t : Text} (h : Power Text.isAsciiDigit t) :
    ∀ c ∈ t.head?, Text.isAsciiDigit c = false ∧ c ≠ '.' := by
  cases h with
  | one => simp
  | ten hl _ _ =>
    intro c hc
    cases hc
    rcases hl with rfl | rfl <;> decide

theorem Power.exponent {t : Text} (h : Power Text.isAsciiDigit t) : exponent? t ≠ none := by
  cases h with
  | one => simp [exponent?]
  | @ten letter sign t hl hs h =>
    have hhead := h.head []
    rw [List.append_nil] at hhead
    have hempty : t.isEmpty = false := by simpa using h.nonempty
    have hall : t.all Text.isAsciiDigit = true := List.all_eq_true.mpr h.all
    rw [exponent?, signed_append hs hhead]
    simp [hl, hempty, hall]

/-- Digits, a point among them and a power of ten are a decimal. -/
theorem decimal?_ne_none {t u : Text} (h : Mantissa Text.isAsciiDigit t)
    (hu : Power Text.isAsciiDigit u) (negative : Bool) : decimal? negative (t ++ u) ≠ none := by
  cases h with
  | whole h =>
    obtain ⟨htake, hdrop⟩ := takeWhile_run h.all fun c hc => (hu.head c hc).1
    have hempty : t.isEmpty = false := by simpa using h.nonempty
    have hexponent := hu.exponent
    rw [decimal?, htake, hdrop]
    cases hu with
    | one => simp [hempty, hexponent]
    | ten hl _ _ => rcases hl with rfl | rfl <;> simp [hempty, hexponent]
  | @point t v h =>
    have hpoint : ∀ c ∈ ('.' :: v ++ u).head?, Text.isAsciiDigit c = false := by
      intro c hc
      cases hc
      decide
    obtain ⟨htake, hdrop⟩ := takeWhile_run (fun c hc => h.all c (List.mem_append_left v hc)) hpoint
    obtain ⟨htake', hdrop'⟩ := takeWhile_run (fun c hc => h.all c (List.mem_append_right t hc))
      fun c hc => (hu.head c hc).1
    have hempty : (t.isEmpty && v.isEmpty) = false := by
      have hn := h.nonempty
      cases t <;> cases v <;> simp_all
    rw [decimal?, List.append_assoc, htake, hdrop, List.cons_append]
    simp only [htake', hdrop', hempty, Bool.false_eq_true, ↓reduceIte]
    simp [hu.exponent]

/-- A sign, digits with a point among them and a power of ten write a number. -/
theorem float?_ne_none {sign t u : Text} (hs : IsSign sign) (ht : Mantissa Text.isDigit t)
    (hu : Power Text.isDigit u) : float? (sign ++ (t ++ u)) ≠ none := by
  have hwritten := (hs.written Text.isAsciiDigit).append
    (ht.plain.written.append hu.plain.written)
  have hbody : plain (sign ++ (t ++ u)) = sign ++ (t.map plainChar ++ u.map plainChar) := by
    rw [plain_eq_map ((hs.written _).append (ht.written.append hu.written)), List.map_append,
      List.map_append, hs.map_plainChar]
  have htrim := Text.trim_eq_self fun c hc => (hwritten.solid hc).1
  have hapart := underscoresApartAfter_eq_true (fun c hc => (hwritten.solid hc).2) false
  have hfilter : (sign ++ (t.map plainChar ++ u.map plainChar)).filter (· ≠ '_') =
      sign ++ (t.map plainChar ++ u.map plainChar) :=
    List.filter_eq_self.mpr fun c hc => by simpa using (hwritten.solid hc).2
  rw [float?, hbody, htrim, underscoresApart, if_pos hapart, hfilter,
    signed_append hs (ht.plain.head _)]
  simp [decimal?_ne_none ht.plain hu.plain]

end Numeral

namespace Pattern

open Numeral

theorem spells_loop_one {least : Nat} {most? : Option Nat} {preference : Preference} {set : CharSet}
    {u : Text} (h : (loop least most? preference (.one set)).Spells u) :
    least ≤ u.length ∧ ∀ c ∈ u, set.has c = true := by
  obtain ⟨parts, hl, -, hp, rfl⟩ := h
  have hparts : parts.flatten.length = parts.length ∧ ∀ c ∈ parts.flatten, set.has c = true := by
    clear hl
    induction parts with
    | nil => simp
    | cons v parts ih =>
      obtain ⟨c, hc, rfl⟩ := hp v (by simp)
      obtain ⟨hlength, hall⟩ := ih fun w hw => hp w (by simp [hw])
      simpa [hc, hlength] using hall
  exact ⟨hparts.1 ▸ hl, hparts.2⟩

theorem spells_optional {p : Pattern} {u : Text} (h : (loopItem (0, some 1) p).pattern.Spells u) :
    u = [] ∨ p.Spells u := by
  obtain ⟨parts, -, hm, hp, rfl⟩ := h
  have hl : parts.length ≤ 1 := hm 1 rfl
  cases parts with
  | nil => exact .inl rfl
  | cons v parts =>
    have hnil : parts = [] := List.eq_nil_of_length_eq_zero (by simpa using hl)
    refine .inr ?_
    rw [hnil, List.flatten_cons, List.flatten_nil, List.append_nil]
    exact hp v (by simp)

theorem all_digits_of_spells {least : Nat} {u : Text}
    (h : (loopItem (least, none) digitItem.pattern).pattern.Spells u) :
    least ≤ u.length ∧ ∀ c ∈ u, Text.isDigit c = true := by
  obtain ⟨hl, hall⟩ := spells_loop_one h
  refine ⟨hl, fun c hc => ?_⟩
  have hhas := hall c hc
  simpa [CharSet.has, CharSet.covers, CharClass.has] using hhas

theorem digits_of_spells {u : Text}
    (h : (loopItem (1, none) digitItem.pattern).pattern.Spells u) : Digits Text.isDigit u := by
  obtain ⟨hl, hall⟩ := all_digits_of_spells h
  exact ⟨hall, List.length_pos_iff.mp hl⟩

theorem spells_oneOf {chars u : Text} (h : (oneOfItem chars false).pattern.Spells u) :
    ∃ c, c ∈ chars ∧ u = [c] := by
  obtain ⟨c, hc, rfl⟩ := h
  have hany : (chars.map (CharRange.single ·.toNat)).any (CharSet.covers false c) = true := by
    simpa only [CharSet.has, Bool.false_eq_true, ↓reduceIte, Bool.bne_false] using hc
  obtain ⟨range, hr, hcovers⟩ := List.any_eq_true.mp hany
  obtain ⟨d, hd, rfl⟩ := List.mem_map.mp hr
  have he : c = d := Char.toNat_inj.mp (by simpa [CharSet.covers] using hcovers)
  exact ⟨c, he ▸ hd, rfl⟩

theorem isSign_of_spells {u : Text}
    (h : (loopItem (0, some 1) (oneOfItem ['-', '+'] false).pattern).pattern.Spells u) :
    IsSign u := by
  rcases spells_optional h with rfl | h
  · exact .inl rfl
  · obtain ⟨c, hc, rfl⟩ := spells_oneOf h
    rcases List.mem_pair.mp hc with rfl | rfl
    · exact .inr (.inl rfl)
    · exact .inr (.inr rfl)

/-- The pattern of integers takes digits with an optional minus sign. -/
theorem integer_of_spells {t : Text} (h : (row (builtInItems .int)).Spells t) :
    ∃ sign u, t = sign ++ u ∧ (sign = [] ∨ sign = ['-']) ∧ Digits Text.isDigit u := by
  obtain ⟨sign, _, hsign, ⟨u, _, hu, rfl, rfl⟩, rfl⟩ := h
  refine ⟨sign, u, by rw [List.append_nil], ?_, digits_of_spells hu⟩
  rcases spells_optional hsign with rfl | hminus
  · exact .inl rfl
  · exact .inr (spells_charItem.mp hminus)

/-- It takes all digits, with or without a minus sign. -/
theorem spells_integer {sign t : Text} (hs : sign = [] ∨ sign = ['-']) (h : Digits Text.isDigit t) :
    (row (builtInItems .int)).Spells (sign ++ t) := by
  have hdigits : (loopItem (1, none) digitItem.pattern).pattern.Spells t := by
    apply spells_characters (List.length_pos_iff.mpr h.nonempty)
    intro c hc
    simpa [CharSet.has, CharSet.covers, CharClass.has] using h.all c hc
  have hsign : (loopItem (0, some 1) (charItem '-').pattern).pattern.Spells sign := by
    rcases hs with rfl | rfl
    · exact spells_missing
    · exact spells_present (spells_charItem.mpr rfl)
  exact ⟨sign, t, hsign, ⟨t, [], hdigits, rfl, (List.append_nil t).symm⟩, rfl⟩

theorem mantissa_of_spells {u : Text} (h : (choice mantissaItems).Spells u) :
    Mantissa Text.isDigit u := by
  rcases h with ⟨whole, _, hwhole, ⟨point, _, hpoint, ⟨part, _, hpart, rfl, rfl⟩, rfl⟩, rfl⟩ |
    ⟨_, _, hpoint, ⟨part, _, hpart, rfl, rfl⟩, rfl⟩
  · have hdigits := digits_of_spells hwhole
    have hall : Digits Text.isDigit (whole ++ part) := by
      refine ⟨fun c hc => ?_, by simp [hdigits.nonempty]⟩
      cases List.mem_append.mp hc with
      | inl hc => exact hdigits.all c hc
      | inr hc => exact (all_digits_of_spells hpart).2 c hc
    rw [List.append_nil]
    rcases spells_optional hpoint with rfl | hpoint
    · exact .whole hall
    · rw [spells_charItem.mp hpoint]
      exact .point hall
  · rw [spells_charItem.mp hpoint, List.append_nil]
    exact @Mantissa.point _ [] _ (digits_of_spells hpart)

theorem power_of_spells {u : Text}
    (h : (loopItem (0, some 1) (row exponentItems)).pattern.Spells u) : Power Text.isDigit u := by
  rcases spells_optional h with rfl | h
  · exact .one
  · obtain ⟨_, _, hletter, ⟨sign, _, hsign, ⟨digits, _, hdigits, rfl, rfl⟩, rfl⟩, rfl⟩ := h
    obtain ⟨letter, hl, rfl⟩ := spells_oneOf hletter
    rw [List.append_nil]
    exact @Power.ten _ letter sign digits (List.mem_pair.mp hl) (isSign_of_spells hsign)
      (digits_of_spells hdigits)

/-- The pattern of floating point numbers takes an optional sign, digits with an optional point
among them, and an optional power of ten. -/
theorem float_of_spells {t : Text} (h : (row (builtInItems .float)).Spells t) :
    ∃ sign u v, t = sign ++ (u ++ v) ∧ IsSign sign ∧ Mantissa Text.isDigit u ∧
      Power Text.isDigit v := by
  obtain ⟨sign, _, hsign, ⟨u, _, hu, ⟨v, _, hv, rfl, rfl⟩, rfl⟩, rfl⟩ := h
  exact ⟨sign, u, v, by rw [List.append_nil], isSign_of_spells hsign, mantissa_of_spells hu,
    power_of_spells hv⟩

theorem ne_nil_of_quotation {quote : Char} {u : Text} (h : (row (quotationItems quote)).Spells u) :
    u ≠ [] := by
  obtain ⟨_, _, hq, -, rfl⟩ := h
  rw [spells_charItem.mp hq]
  exact List.cons_ne_nil _ _

/-- The pattern of quoted texts takes no empty text. -/
theorem ne_nil_of_spells {t : Text} (h : (row (builtInItems .string)).Spells t) : t ≠ [] := by
  obtain ⟨u, _, hu, rfl, rfl⟩ := h
  rw [List.append_nil]
  rcases hu with hu | hu
  · exact ne_nil_of_quotation hu
  · exact ne_nil_of_quotation hu

end Pattern

/-- A sign is no digit, so the digits behind it are all that a text has. -/
theorem Numeral.filter_isDigit {sign t : Text} (hs : IsSign sign) (h : Digits Text.isDigit t) :
    (sign ++ t).filter Text.isDigit = t := by
  rw [List.filter_append, List.filter_eq_self.mpr h.all, List.filter_eq_nil_iff.mpr hs.not_isDigit,
    List.nil_append]

/-- An integer is read from a text that its placeholder takes, unless it has too many digits. -/
theorem BuiltIn.convert_int {t : Text} (h : (Pattern.row (Pattern.builtInItems .int)).Spells t) :
    (Numeral.digitLimit < (t.filter Text.isDigit).length ∧
        BuiltIn.int.convert (.text t) = .error (.integerTooLong (t.filter Text.isDigit).length)) ∨
      (t.filter Text.isDigit).length ≤ Numeral.digitLimit ∧
        ∃ value, BuiltIn.int.convert (.text t) = .ok value := by
  obtain ⟨sign, u, rfl, hminus, hu⟩ := Pattern.integer_of_spells h
  have hsign : Numeral.IsSign sign := hminus.imp_right .inl
  have heq := Numeral.integer_eq hsign hu
  simp only [convert, toInteger, integerOfText, heq, Numeral.filter_isDigit hsign hu]
  by_cases hl : Numeral.digitLimit < u.length
  · rw [if_pos hl]
    exact .inl ⟨hl, rfl⟩
  · rw [if_neg hl]
    exact .inr ⟨by omega, _, rfl⟩

/-- A floating point number is read from a text that its placeholder takes, however long it is. -/
theorem BuiltIn.exists_convert_float {t : Text}
    (h : (Pattern.row (Pattern.builtInItems .float)).Spells t) :
    ∃ value, BuiltIn.float.convert (.text t) = .ok (.float value) := by
  obtain ⟨sign, u, v, rfl, hsign, hu, hv⟩ := Pattern.float_of_spells h
  obtain ⟨value, hvalue⟩ := Option.ne_none_iff_exists'.mp (Numeral.float?_ne_none hsign hu hv)
  simp only [convert, toFloat, hvalue]
  exact ⟨value, rfl⟩

/-- The other built-in placeholders can convert the texts that they take. -/
theorem BuiltIn.exists_convert_of_ne {b : BuiltIn} {t : Text}
    (h : (Pattern.row (Pattern.builtInItems b)).Spells t) (hb : b ≠ .int) :
    ∃ value, b.convert (.text t) = .ok value := by
  cases b with
  | int => exact absurd rfl hb
  | float =>
    obtain ⟨value, hvalue⟩ := exists_convert_float h
    exact ⟨.float value, hvalue⟩
  | string =>
    cases t with
    | nil => exact absurd rfl (Pattern.ne_nil_of_spells h)
    | cons quote rest => exact ⟨_, rfl⟩
  | word => exact ⟨_, rfl⟩

/-- The built-in placeholders can convert the texts that they take, as long as an integer does not
have too many digits. -/
theorem BuiltIn.exists_convert {b : BuiltIn} {t : Text}
    (h : (Pattern.row (Pattern.builtInItems b)).Spells t)
    (hl : b = .int → (t.filter Text.isDigit).length ≤ Numeral.digitLimit) :
    ∃ value, b.convert (.text t) = .ok value := by
  by_cases hb : b = .int
  · subst hb
    rcases convert_int h with ⟨hlong, -⟩ | ⟨-, hvalue⟩
    · exact absurd (hl rfl) (by omega)
    · exact hvalue
  · exact exists_convert_of_ne h hb

end Phrasebook

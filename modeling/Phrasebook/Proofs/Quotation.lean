import Mathlib.Algebra.Group.Nat.Even
import Mathlib.Data.Set.List
import Phrasebook.Proofs.Matching

/-!
# Quotations

A placeholder for strings takes a text in quotes. Its pattern reads what stands between them unit by
unit, and a backslash goes with the character after it, whatever that is. Its conversion knows of no
units: it leaves out every backslash that stands before the quote. But the quote never stands alone
between the quotes, so no backslash that ends a unit comes before it, and the conversion does to each
unit what it should.

A text can be put in quotes by a backslash before each quote that it holds, and then it is always
read back. But it is only taken if no backslash of its own goes with one of these, or with the
closing quote: if backslashes stand in pairs there.
-/

namespace Phrasebook

/-- What stands between quotes is made of characters other than the quote and the backslash, and of
backslashes with the character after them. -/
inductive QuotedUnit (quote : Char) where
  | plain (c : Char) (h : c ≠ quote ∧ c ≠ '\\')
  | escaped (c : Char)
  deriving DecidableEq

namespace QuotedUnit

variable {quote : Char}

/-- The unit as it is written. -/
def written : QuotedUnit quote → Text
  | plain c _ => [c]
  | escaped c => ['\\', c]

/-- What the unit means: the quote if a backslash goes with the quote, and else itself. -/
def meaning : QuotedUnit quote → Text
  | plain c _ => [c]
  | escaped c => if c = quote then [quote] else ['\\', c]

/-- Reads a text unit by unit, given whether a backslash has been read that the next character goes
with. -/
def readFrom? : Bool → Text → Option (List (QuotedUnit quote))
  | false, [] => some []
  | true, [] => none
  | true, c :: rest => (readFrom? false rest).map (escaped c :: ·)
  | false, c :: rest =>
    if h : c ≠ quote ∧ c ≠ '\\' then (readFrom? false rest).map (plain c h :: ·)
    else if c = '\\' then readFrom? true rest
    else none

def read? (quote : Char) (t : Text) : Option (List (QuotedUnit quote)) := readFrom? false t

theorem read?_plain {c : Char} (h : c ≠ quote ∧ c ≠ '\\') (rest : Text) :
    read? quote (c :: rest) = (read? quote rest).map (plain c h :: ·) := by
  rw [read?, readFrom?, dif_pos h]
  rfl

theorem read?_escaped (c : Char) (rest : Text) :
    read? quote ('\\' :: c :: rest) = (read? quote rest).map (escaped c :: ·) := by
  rw [read?, readFrom?, dif_neg (by simp), if_pos rfl, readFrom?]
  rfl

/-- What is read has been written, behind the backslash that had been read before. -/
theorem eq_of_readFrom? {open? : Bool} {t : Text} {units : List (QuotedUnit quote)}
    (h : readFrom? open? t = some units) :
    (if open? then ['\\'] else []) ++ t = units.flatMap written := by
  fun_induction readFrom? open? t generalizing units with
  | case1 =>
    cases h
    rfl
  | case2 => cases h
  | case3 c rest ih =>
    obtain ⟨more, hmore, rfl⟩ := Option.map_eq_some_iff.mp h
    rw [List.flatMap_cons, ← ih hmore]
    rfl
  | case4 c rest hc ih =>
    obtain ⟨more, hmore, rfl⟩ := Option.map_eq_some_iff.mp h
    rw [List.flatMap_cons, ← ih hmore]
    rfl
  | case5 rest hc ih => exact ih h
  | case6 => cases h

/-- Units are read back from what they write, and a text is written by no others. -/
theorem read?_eq_some_iff {t : Text} {units : List (QuotedUnit quote)} :
    read? quote t = some units ↔ t = units.flatMap written := by
  constructor
  · exact fun h => eq_of_readFrom? h
  · rintro rfl
    induction units with
    | nil => rfl
    | cons unit units ih =>
      cases unit with
      | plain c hc =>
        change read? quote (c :: units.flatMap written) = _
        rw [read?_plain hc, ih]
        rfl
      | escaped c =>
        change read? quote ('\\' :: c :: units.flatMap written) = _
        rw [read?_escaped, ih]
        rfl

/-- The next unit does not begin with the quote. -/
theorem head?_written (hq : quote ≠ '\\') (units : List (QuotedUnit quote)) :
    (units.flatMap written).head? ≠ some quote := by
  cases units with
  | nil => simp
  | cons unit units =>
    cases unit with
    | plain c hc => simpa [written] using hc.1
    | escaped c => simpa [written] using hq.symm

end QuotedUnit

namespace BuiltIn

variable {quote : Char}

theorem unescape_of_ne {c : Char} (h : c ≠ '\\') (rest : Text) :
    unescape quote (c :: rest) = c :: unescape quote rest := by
  rw [unescape, unescapeFrom, if_neg h]
  rfl

theorem unescape_quote (quote : Char) (rest : Text) :
    unescape quote ('\\' :: quote :: rest) = quote :: unescape quote rest := by
  rw [unescape, unescapeFrom, if_pos rfl, unescapeFrom, if_pos rfl]
  rfl

/-- A backslash that the quote does not follow stays. -/
theorem unescape_backslash {rest : Text} (h : rest.head? ≠ some quote) :
    unescape quote ('\\' :: rest) = '\\' :: unescape quote rest := by
  rw [unescape, unescapeFrom, if_pos rfl]
  cases rest with
  | nil => rfl
  | cons c rest =>
    have hc : c ≠ quote := fun he => h (congrArg some he)
    rw [unescapeFrom, if_neg hc]
    by_cases hb : c = '\\'
    · rw [if_pos hb, hb, unescape, unescapeFrom, if_pos rfl]
    · rw [if_neg hb, unescape_of_ne hb]
      rfl

/-- The conversion goes from one occurrence of a backslash and the quote to the next, and knows
nothing of units. -/
theorem unescape_eq_cut? (quote : Char) (t : Text) :
    unescape quote t =
      match Text.cut? ['\\', quote] t with
      | none => t
      | some (left, right) => left ++ quote :: unescape quote right := by
  induction t with
  | nil => rfl
  | cons c rest ih =>
    rw [Text.cut?]
    cases hp : List.isPrefixOf? ['\\', quote] (c :: rest) with
    | some after =>
      have he := List.isPrefixOf?_eq_some_iff_append_eq.mp hp
      rw [← he]
      exact unescape_quote quote after
    | none =>
      have hstep : unescape quote (c :: rest) = c :: unescape quote rest := by
        by_cases hb : c = '\\'
        · rw [hb]
          apply unescape_backslash
          intro hhead
          obtain ⟨more, rfl⟩ := List.head?_eq_some_iff.mp hhead
          simp [hb, List.isPrefixOf?] at hp
        · exact unescape_of_ne hb rest
      rw [hstep, ih]
      cases Text.cut? ['\\', quote] rest <;> rfl

/-- The conversion of what is between the quotes does to each unit what it should. -/
theorem unescape_written (hq : quote ≠ '\\') (units : List (QuotedUnit quote)) :
    unescape quote (units.flatMap QuotedUnit.written) = units.flatMap QuotedUnit.meaning := by
  induction units with
  | nil => rfl
  | cons unit units ih =>
    rw [List.flatMap_cons, List.flatMap_cons, ← ih]
    cases unit with
    | plain c hc => exact unescape_of_ne hc.2 _
    | escaped c =>
      change unescape quote ('\\' :: c :: units.flatMap QuotedUnit.written) = _
      rw [QuotedUnit.meaning]
      split
      · next hc =>
        rw [hc]
        exact unescape_quote quote _
      · next hc =>
        rw [unescape_backslash (by simpa using hc)]
        by_cases hb : c = '\\'
        · rw [hb, unescape_backslash (QuotedUnit.head?_written hq units)]
          rfl
        · rw [unescape_of_ne hb]
          rfl

def protect (quote : Char) (s : Text) : Text :=
  s.flatMap fun c => if c = quote then ['\\', quote] else [c]

theorem protect_quote (quote : Char) (s : Text) :
    protect quote (quote :: s) = '\\' :: quote :: protect quote s := by
  rw [protect, List.flatMap_cons, if_pos rfl]
  rfl

theorem protect_of_ne {c : Char} (h : c ≠ quote) (s : Text) :
    protect quote (c :: s) = c :: protect quote s := by
  rw [protect, List.flatMap_cons, if_neg h]
  rfl

/-- No quote stands first in such a text. -/
theorem head?_protect (hq : quote ≠ '\\') (s : Text) : (protect quote s).head? ≠ some quote := by
  cases s with
  | nil => simp [protect]
  | cons c s =>
    by_cases hc : c = quote
    · rw [hc, protect_quote]
      simpa using hq.symm
    · rw [protect_of_ne hc]
      simpa using hc

/-- Such a text is always read back. -/
theorem unescape_protect (hq : quote ≠ '\\') (s : Text) : unescape quote (protect quote s) = s := by
  induction s with
  | nil => rfl
  | cons c s ih =>
    by_cases hc : c = quote
    · rw [hc, protect_quote, unescape_quote, ih]
    · rw [protect_of_ne hc]
      by_cases hb : c = '\\'
      · rw [hb, unescape_backslash (head?_protect hq s), ih]
      · rw [unescape_of_ne hb, ih]

end BuiltIn

def backslashesAtEnd (t : Text) : Nat := (t.reverse.takeWhile (· = '\\')).length

theorem backslashesAtEnd_backslash (t : Text) :
    backslashesAtEnd (t ++ ['\\']) = backslashesAtEnd t + 1 := by
  simp [backslashesAtEnd]

theorem backslashesAtEnd_of_ne {c : Char} (h : c ≠ '\\') (t : Text) :
    backslashesAtEnd (t ++ [c]) = 0 := by
  simp [backslashesAtEnd, h]

/-- Behind some text, backslashes stand in pairs wherever the quote or the end comes next. -/
def PairedAfter (quote : Char) (front s : Text) : Prop :=
  ∀ before after, s = before ++ after → after = [] ∨ after.head? = some quote →
    Even (backslashesAtEnd (front ++ before))

/-- Backslashes stand in pairs wherever the quote or the end of the text comes next. -/
def Paired (quote : Char) (s : Text) : Prop := PairedAfter quote [] s

theorem pairedAfter_nil {quote : Char} {front : Text} :
    PairedAfter quote front [] ↔ Even (backslashesAtEnd front) := by
  constructor
  · intro h
    simpa using h [] [] rfl (.inl rfl)
  · intro h before after he _
    obtain ⟨rfl, rfl⟩ := List.append_eq_nil_iff.mp he.symm
    simpa using h

theorem pairedAfter_cons {quote c : Char} {front s : Text} :
    PairedAfter quote front (c :: s) ↔
      (c = quote → Even (backslashesAtEnd front)) ∧ PairedAfter quote (front ++ [c]) s := by
  constructor
  · intro h
    refine ⟨fun hc => ?_, fun before after he hend => ?_⟩
    · simpa using h [] (c :: s) rfl (.inr (congrArg some hc))
    · simpa using h (c :: before) after (congrArg (c :: ·) he) hend
  · rintro ⟨hfirst, hrest⟩ before after he hend
    cases before with
    | nil =>
      cases he
      simpa using hfirst (by simpa using hend)
    | cons d before =>
      obtain ⟨rfl, hs⟩ := List.cons.inj he
      simpa using hrest before after hs hend

/-- A protected text can be read unit by unit if no backslash of its own goes with a quote. The
induction is on the text; of what stands before it counts only whether a backslash is left over. -/
theorem readFrom?_protect_iff {quote : Char} (hq : quote ≠ '\\') {open? : Bool} {front : Text}
    (ho : Even (backslashesAtEnd front) ↔ open? = false) (s : Text) :
    (@QuotedUnit.readFrom? quote open? (BuiltIn.protect quote s)).isSome = true ↔
      PairedAfter quote front s := by
  induction s generalizing open? front with
  | nil =>
    rw [pairedAfter_nil, ho]
    cases open? <;> simp [BuiltIn.protect, QuotedUnit.readFrom?]
  | cons c s ih =>
    rw [pairedAfter_cons, ho]
    by_cases hb : c = '\\'
    · have hne : c ≠ quote := fun he => hq (he ▸ hb)
      have hnext : Even (backslashesAtEnd (front ++ [c])) ↔ (!open?) = false := by
        rw [hb, backslashesAtEnd_backslash, Nat.even_add_one, ho]
        cases open? <;> decide
      rw [BuiltIn.protect_of_ne hne, ← ih hnext]
      cases open? <;> simp [QuotedUnit.readFrom?, hb, hq.symm]
    · have hnext : Even (backslashesAtEnd (front ++ [c])) ↔ false = false := by
        rw [backslashesAtEnd_of_ne hb]
        decide
      rw [← ih hnext]
      by_cases hc : c = quote
      · rw [hc, BuiltIn.protect_quote]
        cases open? <;> simp [QuotedUnit.readFrom?, hq]
      · rw [BuiltIn.protect_of_ne hc]
        cases open? <;> simp [QuotedUnit.readFrom?, hb, hc]

/-- Between quotes, a protected text is made of units if backslashes stand in pairs wherever they
could go with a quote. -/
theorem exists_units_protect_iff {quote : Char} (hq : quote ≠ '\\') (s : Text) :
    (∃ units : List (QuotedUnit quote), BuiltIn.protect quote s = units.flatMap QuotedUnit.written) ↔
      Paired quote s := by
  have hstart : Even (backslashesAtEnd []) ↔ false = false := by decide
  rw [Paired, ← readFrom?_protect_iff hq hstart, Option.isSome_iff_exists]
  exact exists_congr fun units => QuotedUnit.read?_eq_some_iff.symm

namespace Pattern

variable {quote : Char}

/-- The texts of single characters that are none of the given ones. -/
theorem spells_noneOf {chars u : Text} :
    (oneOfItem chars true).pattern.Spells u ↔ ∃ c, c ∉ chars ∧ u = [c] := by
  refine exists_congr fun c => and_congr_left fun _ => ?_
  simp [CharSet.has, CharSet.covers, Char.toNat_inj, List.forall_mem_ne]

/-- The unit of a backslash and any character. -/
theorem spells_escape {u : Text} :
    (row [charItem '\\', setItem .all]).Spells u ↔ ∃ c, u = ['\\', c] := by
  constructor
  · rintro ⟨_, _, hb, ⟨_, _, ⟨c, -, rfl⟩, rfl, rfl⟩, rfl⟩
    rw [spells_charItem.mp hb]
    exact ⟨c, rfl⟩
  · rintro ⟨c, rfl⟩
    exact ⟨['\\'], [c], spells_charItem.mpr rfl, ⟨[c], [], ⟨c, rfl, rfl⟩, rfl, rfl⟩, rfl⟩

/-- Between quotes the pattern takes units. -/
theorem spells_unit {u : Text} :
    (choice [[oneOfItem [quote, '\\'] true], [charItem '\\', setItem .all]]).Spells u ↔
      u ∈ Set.range (@QuotedUnit.written quote) := by
  change (row [oneOfItem [quote, '\\'] true]).Spells u ∨ (row [charItem '\\', setItem .all]).Spells u ↔ _
  rw [spells_row_singleton, spells_noneOf, spells_escape]
  constructor
  · rintro (⟨c, hc, rfl⟩ | ⟨c, rfl⟩)
    · have hplain : c ≠ quote ∧ c ≠ '\\' := by simpa using hc
      exact ⟨.plain c hplain, rfl⟩
    · exact ⟨.escaped c, rfl⟩
  · rintro ⟨unit, rfl⟩
    cases unit with
    | plain c hc => exact .inl ⟨c, by simpa using hc, rfl⟩
    | escaped c => exact .inr ⟨c, rfl⟩

/-- A quotation is the quote, units, and the quote again. -/
theorem spells_quotation_iff {u : Text} :
    (row (quotationItems quote)).Spells u ↔
      ∃ units : List (QuotedUnit quote), u = quote :: units.flatMap QuotedUnit.written ++ [quote] := by
  constructor
  · rintro ⟨_, _, hopen, ⟨_, _, ⟨parts, -, -, hparts, rfl⟩, ⟨_, _, hclose, rfl, rfl⟩, rfl⟩, rfl⟩
    have hunits : parts ∈ Set.range (List.map (@QuotedUnit.written quote)) := by
      rw [Set.range_list_map]
      exact fun v hv => spells_unit.mp (hparts v hv)
    obtain ⟨units, rfl⟩ := hunits
    refine ⟨units, ?_⟩
    rw [spells_charItem.mp hopen, spells_charItem.mp hclose, List.flatMap_def]
    simp
  · rintro ⟨units, rfl⟩
    refine ⟨[quote], units.flatMap QuotedUnit.written ++ [quote], spells_charItem.mpr rfl, ?_, by simp⟩
    refine ⟨units.flatMap QuotedUnit.written, [quote], ?_, ?_, rfl⟩
    · refine ⟨units.map QuotedUnit.written, Nat.zero_le _, by simp, ?_, ?_⟩
      · intro v hv
        obtain ⟨unit, -, rfl⟩ := List.mem_map.mp hv
        exact spells_unit.mpr ⟨unit, rfl⟩
      · rw [List.flatMap_def]
    · exact ⟨[quote], [], spells_charItem.mpr rfl, rfl, rfl⟩

/-- The placeholder for strings takes quotations of either kind. -/
theorem fits_string_iff {t : Text} :
    Fits BuiltIn.string.pattern t ↔
      ∃ quote ∈ ['"', '\''], ∃ units : List (QuotedUnit quote),
        t = quote :: units.flatMap QuotedUnit.written ++ [quote] := by
  rw [fits_iff_spells (reads_builtIn .string) (plain_builtInItems .string), builtInItems,
    spells_row_singleton]
  change (row (quotationItems '"')).Spells t ∨ (row (quotationItems '\'')).Spells t ↔ _
  rw [spells_quotation_iff, spells_quotation_iff]
  simp

end Pattern

namespace BuiltIn

/-- The conversion takes what is between the first and the last character. -/
theorem convert_quotation (quote : Char) (between : Text) :
    string.convert (.text (quote :: between ++ [quote])) = .ok (.text (unescape quote between)) := by
  simp [convert, toQuoted, unquote, Except.map]

theorem ne_backslash_of_mem {quote : Char} (h : quote ∈ ['"', '\'']) : quote ≠ '\\' := by
  rintro rfl
  exact absurd h (by decide)

/-- The quote of a quotation is its first character, so it is of one kind only. -/
theorem fits_quotation_iff {quote : Char} (h : quote ∈ ['"', '\'']) (between : Text) :
    Pattern.Fits string.pattern (quote :: between ++ [quote]) ↔
      ∃ units : List (QuotedUnit quote), between = units.flatMap QuotedUnit.written := by
  rw [Pattern.fits_string_iff]
  constructor
  · rintro ⟨other, -, units, he⟩
    obtain ⟨rfl, hrest⟩ := List.cons.inj he
    exact ⟨units, List.append_cancel_right hrest⟩
  · rintro ⟨units, rfl⟩
    exact ⟨quote, h, units, rfl⟩

/-- A text that the placeholder for strings takes is a quotation, and is converted unit by unit. A
text in quotes with a backslash before each of its quotes is taken exactly if backslashes stand in
pairs in it wherever a quote or the end comes next, and is then converted back. -/
theorem string_read_back :
    (∀ t, Pattern.Fits string.pattern t →
      ∃ quote ∈ ['"', '\''], ∃ between units, t = quote :: between ++ [quote] ∧
        QuotedUnit.read? quote between = some units ∧
        string.convert (.text t) = .ok (.text (units.flatMap QuotedUnit.meaning))) ∧
      ∀ quote ∈ ['"', '\''], ∀ s,
        (Pattern.Fits string.pattern (quote :: protect quote s ++ [quote]) ↔ Paired quote s) ∧
          string.convert (.text (quote :: protect quote s ++ [quote])) = .ok (.text s) := by
  constructor
  · intro t ht
    obtain ⟨quote, hq, units, rfl⟩ := Pattern.fits_string_iff.mp ht
    refine ⟨quote, hq, units.flatMap QuotedUnit.written, units, rfl, ?_, ?_⟩
    · exact QuotedUnit.read?_eq_some_iff.mpr rfl
    · rw [convert_quotation, unescape_written (ne_backslash_of_mem hq)]
  · intro quote hq s
    have hne := ne_backslash_of_mem hq
    constructor
    · rw [fits_quotation_iff hq, exists_units_protect_iff hne]
    · rw [convert_quotation, unescape_protect hne]

/-- Two backslashes before a quote stay two, and a third goes with the quote. -/
theorem string_read_back_backslashes :
    '"' ∈ ['"', '\''] ∧ Paired '"' ['\\', '\\', '"'] ∧
      Pattern.Fits string.pattern ['"', '\\', '\\', '\\', '"', '"'] ∧
      string.convert (.text ['"', '\\', '\\', '\\', '"', '"']) = .ok (.text ['\\', '\\', '"']) ∧
      ∃ quote ∈ ['"', '\''], ∃ between units,
        ['"', '\\', '\\', '\\', '"', '"'] = quote :: between ++ [quote] ∧
          QuotedUnit.read? quote between = some units ∧
          string.convert (.text ['"', '\\', '\\', '\\', '"', '"']) =
            .ok (.text (units.flatMap QuotedUnit.meaning)) := by
  have hq : '"' ∈ ['"', '\''] := by decide
  have hfits : Pattern.Fits string.pattern ['"', '\\', '\\', '\\', '"', '"'] :=
    (fits_quotation_iff hq ['\\', '\\', '\\', '"']).mpr ⟨[.escaped '\\', .escaped '"'], rfl⟩
  have hback := string_read_back.2 '"' hq ['\\', '\\', '"']
  exact ⟨hq, hback.1.mp hfits, hfits, hback.2, string_read_back.1 _ hfits⟩

end BuiltIn

end Phrasebook

import Phrasebook.Conversion
import Phrasebook.Proofs.ListText
import Phrasebook.Proofs.Pattern.Reading
import Phrasebook.Proofs.Pattern.Spelling

/-!
# Generated patterns

The patterns that this library writes itself: for declared texts, for lists of them, for any text,
and for the built-in placeholders. Each is read as a plain pattern without groups. A pattern of
declared texts spells exactly these, and a pattern of lists exactly the written lists, however the
texts look and overlap.
-/

namespace Phrasebook.Pattern

variable {flags : Flags} [flags.Exact]

theorem plain_row_iff {items : List Item} :
    (row items).Plain ↔ ∀ item ∈ items, item.pattern.Plain := by
  induction items with
  | nil => simp [Plain]
  | cons item items ih => simp [Plain, ih]

theorem plain_choice_iff {choices : List (List Item)} :
    (choice choices).Plain ↔ ∀ items ∈ choices, (row items).Plain := by
  fun_induction choice choices with
  | case1 => simp [Plain]
  | case2 items => simp
  | case3 items next rest ih => simp [Plain, ih]

theorem spells_row_append {items more : List Item} {u : Text} :
    (row (items ++ more)).Spells u ↔
      ∃ v w, (row items).Spells v ∧ (row more).Spells w ∧ u = v ++ w := by
  induction items generalizing u with
  | nil => simp [Spells]
  | cons item items ih =>
    simp only [List.cons_append, row_cons, Spells, ih]
    constructor
    · rintro ⟨v, _, hv, ⟨w, x, hw, hx, rfl⟩, rfl⟩
      exact ⟨v ++ w, x, ⟨v, w, hv, hw, rfl⟩, hx, by simp⟩
    · rintro ⟨_, x, ⟨v, w, hv, hw, rfl⟩, hx, rfl⟩
      exact ⟨v, w ++ x, hv, ⟨w, x, hw, hx, rfl⟩, by simp⟩

theorem spells_row_singleton {item : Item} {u : Text} :
    (row [item]).Spells u ↔ item.pattern.Spells u := by
  simp [Spells]

theorem spells_choice_iff {choices : List (List Item)} (h : choices ≠ []) {u : Text} :
    (choice choices).Spells u ↔ ∃ items ∈ choices, (row items).Spells u := by
  fun_induction choice choices with
  | case1 => exact absurd rfl h
  | case2 items => simp
  | case3 items next rest ih => simp [Spells, ih (by simp)]

theorem spells_charItem {c : Char} {u : Text} : (charItem c).pattern.Spells u ↔ u = [c] := by
  simp [charItem, setItem, Spells, Char.toNat_inj]

theorem spells_chars {t u : Text} : (row (t.map charItem)).Spells u ↔ u = t := by
  induction t generalizing u with
  | nil => simp [Spells]
  | cons c t ih => simp [Spells, spells_charItem, ih]

theorem Firm.escapedChar (c : Char) : Firm flags (escapedChar c) [charItem c] := by
  unfold Pattern.escapedChar
  split
  · next h =>
    have hs : ∀ d ∈ specialChars, Text.isAsciiLetter d = false ∧ Text.isAsciiDigit d = false :=
      List.forall_iff_forall_mem.mp (by decide)
    obtain ⟨hl, hd⟩ := hs c (by simpa using h)
    exact Firm.escaped hl hd
  · next h =>
    have hs : ∀ d ∈ metaChars, d ∈ specialChars := List.forall_iff_forall_mem.mp (by decide)
    exact Firm.char fun hc => h (by simpa using hs c hc)

theorem Firm.escape (t : Text) : Firm flags (escape t) (t.map charItem) := by
  induction t with
  | nil => exact Firm.nil
  | cons c t ih => exact (Firm.escapedChar c).append ih

def valuesItem (values : List Text) : Item := ⟨.ordinary, choice (values.map (·.map charItem))⟩

theorem Firm.alternation {values : List Text} (h : values ≠ []) :
    Firm flags (alternation values) [valuesItem values] := by
  refine Firm.silent ?_ (by simpa using h)
  rw [List.forall₂_map_left_iff, List.forall₂_map_right_iff]
  exact List.forall₂_same.mpr fun t _ => (Firm.escape t).reads

theorem plain_valuesItem (values : List Text) : (valuesItem values).pattern.Plain := by
  simp [valuesItem, plain_choice_iff, plain_row_iff, charItem, setItem, Plain]

theorem spells_valuesItem {values : List Text} (h : values ≠ []) {u : Text} :
    (valuesItem values).pattern.Spells u ↔ u ∈ values := by
  rw [valuesItem, spells_choice_iff (by simpa using h)]
  simp [spells_chars]

def furtherItems (values : List Text) : List Item :=
  ListText.separator.map charItem ++ [valuesItem values]

def elementsItem (values : List Text) : Item :=
  ⟨.ordinary, row [valuesItem values, loopItem (0, none) (row (furtherItems values))]⟩

def listItems (values : List Text) (nonEmpty : Bool) : List Item :=
  if nonEmpty then [elementsItem values] else [loopItem (0, some 1) (elementsItem values).pattern]

theorem Firm.silent_one {w : Text} {items : List Item} (h : Reads flags w items) :
    Firm flags ("(?:".toList ++ w ++ [')']) [⟨.ordinary, row items⟩] := by
  have hj : w = Text.join ['|'] [w] := by simp [Text.join, List.intercalate]
  have hs := Firm.silent (.cons h .nil) (List.cons_ne_nil items [])
  rwa [← hj] at hs

def furtherText (values : List Text) : Text :=
  "(?:".toList ++ (Pattern.escape ListText.separator ++ Pattern.alternation values) ++ [')'] ++ ['*']

theorem listOf_eq (values : List Text) (nonEmpty : Bool) :
    listOf values nonEmpty =
      "(?:".toList ++ (Pattern.alternation values ++ furtherText values) ++ [')'] ++
        (if nonEmpty then [] else ['?']) := by
  have hgroup : ∀ o a s c m q : Text, o ++ a ++ o ++ s ++ a ++ (c ++ (m ++ c)) ++ q =
      o ++ (a ++ (o ++ (s ++ a) ++ c ++ m)) ++ c ++ q := by
    intro o a s c m q
    simp only [List.append_assoc]
  exact hgroup "(?:".toList (Pattern.alternation values) (Pattern.escape ListText.separator) [')'] ['*']
    (if nonEmpty then [] else ['?'])

theorem reads_furtherText {values : List Text} (h : values ≠ []) :
    Reads flags (furtherText values) [loopItem (0, none) (row (furtherItems values))] :=
  (Firm.silent_one ((Firm.escape ListText.separator).append (Firm.alternation h)).reads).quantified
    rfl

theorem reads_listOf {values : List Text} (h : values ≠ []) (nonEmpty : Bool) :
    Reads flags (listOf values nonEmpty) (listItems values nonEmpty) := by
  have hfirst : Firm flags (Pattern.alternation values) [valuesItem values] := Firm.alternation h
  have hall := Firm.silent_one (hfirst.append_reads (reads_furtherText h))
  rw [listOf_eq]
  cases nonEmpty with
  | true =>
    rw [if_pos rfl, List.append_nil]
    exact hall.reads
  | false => exact hall.quantified rfl

theorem plain_listItems (values : List Text) (nonEmpty : Bool) :
    (row (listItems values nonEmpty)).Plain := by
  have hfurther : (row (furtherItems values)).Plain := by
    rw [plain_row_iff]
    intro item hi
    rcases List.mem_append.mp hi with hi | hi
    · obtain ⟨c, -, rfl⟩ := List.mem_map.mp hi
      trivial
    · rw [List.mem_singleton.mp hi]
      exact plain_valuesItem values
  have helements : (elementsItem values).pattern.Plain :=
    ⟨plain_valuesItem values, ⟨by simp, hfurther⟩, trivial⟩
  cases nonEmpty with
  | true => exact ⟨helements, trivial⟩
  | false => exact ⟨⟨by simp, helements⟩, trivial⟩

theorem spells_furtherItems {values : List Text} (h : values ≠ []) {u : Text} :
    (row (furtherItems values)).Spells u ↔ ∃ t ∈ values, u = ListText.separator ++ t := by
  rw [furtherItems, spells_row_append]
  simp only [spells_chars, spells_row_singleton, spells_valuesItem h]
  constructor
  · rintro ⟨_, t, rfl, ht, rfl⟩
    exact ⟨t, ht, rfl⟩
  · rintro ⟨t, ht, rfl⟩
    exact ⟨_, t, rfl, ht, rfl⟩

theorem spells_elementsItem {values : List Text} (h : values ≠ []) {u : Text} :
    (elementsItem values).pattern.Spells u ↔
      ∃ ts, ts ≠ [] ∧ (∀ t ∈ ts, t ∈ values) ∧ u = ListText.join ts := by
  have hparts : ∀ parts : List Text, (∀ p ∈ parts, ∃ t ∈ values, p = ListText.separator ++ t) →
      ∃ ts : List Text, (∀ t ∈ ts, t ∈ values) ∧ parts = ts.map (ListText.separator ++ ·) := by
    intro parts hp
    induction parts with
    | nil => exact ⟨[], by simp, rfl⟩
    | cons p parts ih =>
      obtain ⟨t, ht, rfl⟩ := hp p (by simp)
      obtain ⟨ts, hts, rfl⟩ := ih fun q hq => hp q (by simp [hq])
      exact ⟨t :: ts, by simpa using ⟨ht, hts⟩, rfl⟩
  constructor
  · rintro ⟨v, _, hv, ⟨_, _, ⟨parts, -, -, hp, rfl⟩, rfl, rfl⟩, rfl⟩
    obtain ⟨ts, hts, rfl⟩ := hparts parts fun p hp' => (spells_furtherItems h).mp (hp p hp')
    refine ⟨v :: ts, by simp, ?_, by rw [ListText.join_cons, List.append_nil]⟩
    simpa using ⟨(spells_valuesItem h).mp hv, hts⟩
  · rintro ⟨ts, hn, hts, rfl⟩
    cases ts with
    | nil => exact absurd rfl hn
    | cons t ts =>
      have hloop : (loopItem (0, none) (row (furtherItems values))).pattern.Spells
          (ts.map (ListText.separator ++ ·)).flatten := by
        refine ⟨ts.map (ListText.separator ++ ·), Nat.zero_le _, by simp, ?_, rfl⟩
        intro p hp
        obtain ⟨u, hu, rfl⟩ := List.mem_map.mp hp
        exact (spells_furtherItems h).mpr ⟨u, hts u (by simp [hu]), rfl⟩
      exact ⟨t, _, (spells_valuesItem h).mpr (hts t (by simp)), ⟨_, [], hloop, rfl, rfl⟩,
        by rw [ListText.join_cons, List.append_nil]⟩

/-- A list pattern spells the written lists of declared texts. -/
theorem spells_listItems {values : List Text} (h : values ≠ []) {nonEmpty : Bool} {u : Text} :
    (row (listItems values nonEmpty)).Spells u ↔
      ∃ ts, (nonEmpty = true → ts ≠ []) ∧ (∀ t ∈ ts, t ∈ values) ∧ u = ListText.join ts := by
  cases nonEmpty with
  | true =>
    rw [listItems, if_pos rfl, spells_row_singleton, spells_elementsItem h]
    simp
  | false =>
    rw [listItems, if_neg (by simp), spells_row_singleton]
    constructor
    · rintro ⟨parts, -, hm, hp, rfl⟩
      have hl : parts.length ≤ 1 := hm 1 rfl
      cases parts with
      | nil => exact ⟨[], by simp, by simp, rfl⟩
      | cons p parts =>
        have hnil : parts = [] := List.eq_nil_of_length_eq_zero (by simpa using hl)
        obtain ⟨ts, -, hts, rfl⟩ := (spells_elementsItem h).mp (hp p (by simp))
        exact ⟨ts, by simp, hts, by simp [hnil]⟩
    · rintro ⟨ts, -, hts, rfl⟩
      by_cases hn : ts = []
      · exact ⟨[], Nat.zero_le _, by simp, by simp, by simp [hn, ListText.join, Text.join]⟩
      · refine ⟨[ListText.join ts], Nat.zero_le _, by simp, ?_, by simp⟩
        intro p hp
        rw [List.mem_singleton.mp hp]
        exact (spells_elementsItem h).mpr ⟨ts, hn, hts, rfl⟩

def anyItem : Item := loopItem (0, none) (.one .all)

theorem reads_anyText : Reads .stepText anyText [anyItem] := Firm.dot.quantified (c := '*') rfl

theorem plain_anyItem : anyItem.pattern.Plain := ⟨by simp, trivial⟩

def digitItem : Item := setItem ⟨[.named .digit false], false, false, false⟩

def oneOfItem (chars : Text) (negated : Bool) : Item :=
  setItem ⟨chars.map (.single ·.toNat), negated, false, false⟩

theorem firm_digit : Firm flags ['\\', 'd'] [digitItem] := Firm.named rfl rfl

/-- The digits that a quantifier asks for. -/
theorem reads_digits {c : Char} {bounds : Nat × Option Nat} (h : bounds? c = some bounds) :
    Reads flags ['\\', 'd', c] [loopItem bounds digitItem.pattern] := firm_digit.quantified h

/-- An optional sign of either kind. -/
theorem reads_sign :
    Reads flags ['[', '-', '+', ']', '?'] [loopItem (0, some 1) (oneOfItem ['-', '+'] false).pattern] := by
  have hset : Firm flags ['[', '-', '+', ']'] [oneOfItem ['-', '+'] false] :=
    Firm.set fun r rest => by simp [readSet, readMembers, readMember, Except.map]
  exact hset.quantified (c := '?') rfl

/-- The items of a quoted text, in which no character is the quote unless it is escaped. -/
def quotationItems (quote : Char) : List Item :=
  [charItem quote,
    loopItem (0, none) (choice [[oneOfItem [quote, '\\'] true], [charItem '\\', setItem .all]]),
    charItem quote]

theorem reads_quotation {quote : Char} (hm : quote ∉ metaChars) (hs : quote ≠ ']') :
    Reads .stepText [quote, '(', '?', ':', '[', '^', quote, '\\', '\\', ']', '|', '\\', '\\', '.', ')', '*',
      quote] (quotationItems quote) := by
  have hq : Firm .stepText [quote] [charItem quote] := Firm.char hm
  have hset : Firm .stepText ['[', '^', quote, '\\', '\\', ']'] [oneOfItem [quote, '\\'] true] := by
    refine Firm.set fun r rest => ?_
    have hb : quote ≠ '\\' := by
      rintro rfl
      exact hm (by decide)
    simp [readSet, readMembers, readMember, classEscape?, controlEscape?, codeEscape?, hb, hs,
      isOctalDigit, Text.isAsciiDigit, Text.isAsciiLetter, Except.map]
  have hpair : Firm .stepText ['\\', '\\', '.'] [charItem '\\', setItem .all] :=
    (Firm.escaped rfl rfl).append Firm.dot
  have hloop := (Firm.silent (.cons hset.reads (.cons hpair.reads .nil)) (by simp)).quantified
    (c := '*') rfl
  have hquote : Unquantified [quote] := by
    constructor <;> (rintro rfl; exact hm (by decide))
  exact hq.append_reads (hloop.append hq.reads (by simp) hquote)

def mantissaItems : List (List Item) :=
  [[loopItem (1, none) digitItem.pattern, loopItem (0, some 1) (charItem '.').pattern,
      loopItem (0, none) digitItem.pattern],
    [charItem '.', loopItem (1, none) digitItem.pattern]]

def exponentItems : List Item :=
  [oneOfItem ['e', 'E'] false, loopItem (0, some 1) (oneOfItem ['-', '+'] false).pattern,
    loopItem (1, none) digitItem.pattern]

def builtInItems : BuiltIn → List Item
  | .int => [loopItem (0, some 1) (charItem '-').pattern, loopItem (1, none) digitItem.pattern]
  | .float =>
    [loopItem (0, some 1) (oneOfItem ['-', '+'] false).pattern, ⟨.ordinary, choice mantissaItems⟩,
      loopItem (0, some 1) (row exponentItems)]
  | .string => [⟨.ordinary, choice [quotationItems '"', quotationItems '\'']⟩]
  | .word => [loopItem (1, none) (.one ⟨[.named .blank false], true, false, false⟩)]

/-- A text in quotes of either kind. -/
theorem reads_string : Reads .stepText BuiltIn.string.pattern (builtInItems .string) := by
  have hdouble : Reads .stepText _ (quotationItems '"') := reads_quotation (by decide) (by decide)
  have hsingle : Reads .stepText _ (quotationItems '\'') := reads_quotation (by decide) (by decide)
  exact (Firm.silent (.cons hdouble (.cons hsingle .nil)) (by simp)).reads

/-- Characters other than blanks. -/
theorem reads_word : Reads flags BuiltIn.word.pattern (builtInItems .word) := by
  have hset : Firm flags ['[', '^', '\\', 's', ']'] [setItem ⟨[.named .blank false], true, false, false⟩] :=
    Firm.set fun r rest => by simp [readSet, readMembers, readMember, classEscape?, Except.map]
  exact hset.quantified (c := '+') rfl

/-- An optional sign and digits. -/
theorem reads_integer : Reads flags BuiltIn.int.pattern (builtInItems .int) := by
  have hminus : Reads flags ['-', '?'] [loopItem (0, some 1) (charItem '-').pattern] :=
    (Firm.char (by decide)).quantified (c := '?') rfl
  exact hminus.append (reads_digits (c := '+') rfl) (by simp) ⟨by decide, by decide⟩

/-- An optional sign, digits, and an optional power of ten. -/
theorem reads_float : Reads flags BuiltIn.float.pattern (builtInItems .float) := by
  have hpoint : Firm flags ['\\', '.'] [charItem '.'] := Firm.escaped rfl rfl
  have hmore : Unquantified ['\\', 'd', '+'] := ⟨by decide, by decide⟩
  have hwhole := ((reads_digits (c := '+') rfl).append (hpoint.quantified (c := '?') rfl) (by simp)
    ⟨by decide, by decide⟩).append (reads_digits (c := '*') rfl) (by simp) ⟨by decide, by decide⟩
  have hpart := hpoint.append_reads (reads_digits (c := '+') rfl)
  have hmantissa := Firm.silent (.cons hwhole (.cons hpart .nil)) (by simp)
  have hletter : Firm flags ['[', 'e', 'E', ']'] [oneOfItem ['e', 'E'] false] :=
    Firm.set fun r rest => by
      simp [readSet, readMembers, readMember, Except.map]
  have hpower := hletter.append_reads (reads_sign.append (reads_digits (c := '+') rfl) (by simp) hmore)
  have hexponent := (Firm.silent_one hpower).quantified (c := '?') rfl
  exact reads_sign.append (hmantissa.append_reads hexponent) (by simp) ⟨by decide, by decide⟩

/-- The pattern of a built-in placeholder is read as its items. -/
theorem reads_builtIn (b : BuiltIn) : Reads .stepText b.pattern (builtInItems b) := by
  cases b with
  | int => exact reads_integer
  | float => exact reads_float
  | string => exact reads_string
  | word => exact reads_word

theorem plain_builtInItems (b : BuiltIn) : (row (builtInItems b)).Plain := by
  cases b <;> simp [builtInItems, mantissaItems, exponentItems, quotationItems, choice, loopItem,
    charItem, oneOfItem, digitItem, setItem, Plain]

theorem head?_builtIn (b : BuiltIn) : b.pattern.head? ≠ some '?' := by
  cases b <;> decide

end Phrasebook.Pattern

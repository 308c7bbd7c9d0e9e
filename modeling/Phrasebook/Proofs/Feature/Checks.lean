import Phrasebook.Proofs.Feature.Orders

/-!
# What checks of orders are read as

The check of an order has a format of its own, with a field for the customer and one for the number
of drinks. A number in decimal is read as itself, as long as it does not have too many digits; if it
does, no step can be found.
-/

namespace Phrasebook

open Phrase (Piece namesIn fill)

/-- Characters are laid out as themselves. -/
theorem Pattern.Laid.stretch {count : Text → Nat} {fits : Text → Nat → Pattern → Prop} {n m : Nat}
    {ps : List Piece} {items : List Item} (h : Laid count fits n ps items m) (t : Text) :
    Laid count fits n (t.map .plain ++ ps) (t.map charItem ++ items) m := by
  induction t with
  | nil => exact h
  | cons c t ih => exact .plain ih

namespace Feature

open Pattern

def checkStep : SharedStep ContextHandler :=
  stepOf "the order is for \"\x7bwho\x7d\" with \x7bcount:d\x7d drinks" checkOrder

def checkPieces : List Piece :=
  "the order is for \"".toList.map .plain ++ .hole "who".toList ::
    ("\" with ".toList.map .plain ++ .hole "count".toList :: " drinks".toList.map .plain)

def checkTypes (name : Text) : FieldType Argument :=
  if name = "count".toList then fieldType ['d'] else .anything

theorem parts_check :
    Format.parts "the order is for \"\x7bwho\x7d\" with \x7bcount:d\x7d drinks".toList =
      "the order is for \"".toList.map .plain ++ .field "who".toList [] ::
        ("\" with ".toList.map .plain ++ .field "count".toList ['d'] ::
          " drinks".toList.map .plain) := by decide +kernel

theorem fields_check :
    checkStep.template.fields = Template.numbered 0 ((namesIn checkPieces).map checkTypes) := by
  change Template.fieldsFrom fieldType 0 (Format.parts _) = _
  rw [parts_check]
  rfl

/-- Any text but the empty one. -/
def customerBody : Pattern := row [⟨.ordinary, .loop 1 none .fewest (.one .all)⟩]

def signItem : Item := loopItem (0, some 1) (oneOfItem ['-', '+', ' '] false).pattern

/-- At least one digit of a base. -/
def digitsItem (ranges : List CharRange) : Item :=
  loopItem (1, none) (.one ⟨ranges, false, false, false⟩)

def basedItems (marks : Text) (ranges : List CharRange) : List Item :=
  [signItem, charItem '0', oneOfItem marks false, digitsItem ranges]

def countBody : Pattern :=
  choice [[signItem, signItem, digitsItem [.between 48 57]],
    basedItems ['x', 'X'] [.between 48 57, .between 97 102, .between 65 70],
    basedItems ['b', 'B'] [.single 48, .single 49], basedItems ['o', 'O'] [.between 48 55]]

def checkItems : List Item :=
  "the order is for \"".toList.map charItem ++ ⟨.ordinary, .group 1 customerBody⟩ ::
    ("\" with ".toList.map charItem ++ ⟨.ordinary, .group 2 countBody⟩ ::
      " drinks".toList.map charItem)

theorem compiled_check : checkStep.template.compiled = .ok (enclosed checkItems, 2) := by
  have hsome : checkStep.template.compiled.toOption = some (enclosed checkItems, 2) := by
    decide +kernel
  generalize checkStep.template.compiled = compiled at hsome ⊢
  cases compiled with
  | error failure => cases hsome
  | ok found => exact congrArg Except.ok (Option.some.inj hsome)

def checkBody (name : Text) : Pattern := if name = "count".toList then countBody else customerBody

theorem laid_check : Laid (fun _ => 0) (fun name => Means (checkBody name).Spells) 0 checkPieces
    checkItems 2 := by
  have hcustomer : customerBody.Plain := ⟨⟨nofun, trivial⟩, trivial⟩
  have hcount : countBody.Plain := by
    simp [countBody, basedItems, signItem, digitsItem, choice, loopItem, oneOfItem, charItem, setItem,
      Plain]
  have hending : Laid (fun _ => 0) (fun name => Means (checkBody name).Spells) 2
      (" drinks".toList.map .plain) (" drinks".toList.map charItem) 2 := by
    simpa using (Laid.nil 2).stretch " drinks".toList
  exact Laid.stretch (.hole (hcustomer.between 1 1) (Means.of_plain hcustomer 1)
    (Laid.stretch (.hole (hcount.between 2 2) (Means.of_plain hcount 2) hending) _)) _

theorem countSign_decimal (k : Nat) : countSign (Text.decimal k) = (false, Text.decimal k) := by
  have hsign : ∀ {c rest}, Text.decimal k = c :: rest → c ∈ Text.decimalDigits :=
    fun he => Text.mem_decimalDigits (he ▸ List.mem_cons_self)
  unfold countSign
  split
  · next he => exact absurd (hsign he) (by decide)
  · next he => exact absurd (hsign he) (by decide)
  · rfl

theorem countBase_decimal (k : Nat) : countBase (Text.decimal k) = 10 := by
  have hmark : ∀ c ∈ Text.decimalDigits, ¬ (c = 'b' ∨ c = 'B') ∧ ¬ (c = 'o' ∨ c = 'O') ∧
      ¬ (c = 'x' ∨ c = 'X') :=
    List.forall_iff_forall_mem.mp (by decide)
  unfold countBase
  split
  · next mark _ _ he =>
    obtain ⟨hbinary, hoctal, hhex⟩ := hmark mark (Text.mem_decimalDigits (n := k) (by simp [he]))
    simp [hbinary, hoctal, hhex]
  · rfl

/-- A number in decimal counts as itself, unless it has too many digits. -/
theorem countValue_decimal (k : Nat) : countValue (Text.decimal k) =
    if Numeral.digitLimit < (Text.decimal k).length then
      .error (.integerTooLong (Text.decimal k).length)
    else .ok (.int k) := by
  have hdigit : ∀ c ∈ Text.decimalDigits,
      (Text.hexDigit? c).filter (· < 10) = some (c.toNat - '0'.toNat) :=
    List.forall_iff_forall_mem.mp (by decide)
  have hdigits : (Text.decimal k).filterMap (fun c => (Text.hexDigit? c).filter (· < 10)) =
      (Text.decimal k).map fun c => c.toNat - '0'.toNat := by
    rw [← List.filterMap_eq_map]
    exact List.filterMap_congr fun c hc => hdigit c (Text.mem_decimalDigits hc)
  have hvalue : ((Text.decimal k).map fun c => c.toNat - '0'.toNat).foldl (fun n d => 10 * n + d) 0 =
      k := by
    rw [List.foldl_map]
    exact Text.foldl_decimal (fun _ _ _ => rfl) k
  simp only [countValue, countSign_decimal, countBase_decimal, hdigits, hvalue, List.length_map]
  simp

def checkText (who : Text) (k : Nat) : Text :=
  "the order is for \"".toList ++ (who ++ ("\" with ".toList ++ (Text.decimal k ++ " drinks".toList)))

theorem spells_customer {who : Text} (hne : who ≠ []) : customerBody.Spells who :=
  spells_row_singleton.mpr (spells_characters (List.length_pos_iff.mpr hne) fun _ _ => rfl)

theorem spells_count (k : Nat) : countBody.Spells (Text.decimal k) := by
  have hset : ∀ c ∈ Text.decimalDigits,
      CharSet.has ⟨[.between 48 57], false, false, false⟩ c = true :=
    List.forall_iff_forall_mem.mp (by decide)
  have hdigits : (digitsItem [.between 48 57]).pattern.Spells (Text.decimal k) :=
    spells_characters (List.length_pos_iff.mpr (Text.decimal_ne_nil k)) fun c hc =>
      hset c (Text.mem_decimalDigits hc)
  -- neither of the signs is there
  exact .inl ⟨[], _, spells_missing, ⟨[], _, spells_missing,
    ⟨_, [], hdigits, rfl, (List.append_nil _).symm⟩, rfl⟩, rfl⟩

theorem separated_check {who : Text} (hq : '"' ∉ who) (k : Nat) :
    Phrase.Separated (fun c => ∀ t ∈ [who, Text.decimal k], c ∉ t) checkPieces := by
  have hdecimal : '"' ∉ Text.decimal k := fun hm => absurd (Text.mem_decimalDigits hm) (by decide)
  have hmark : ∀ t ∈ [who, Text.decimal k], '"' ∉ t := by simp [hq, hdecimal]
  exact ((Phrase.separated_last _ _).hole (by decide) hmark _).stretch _

/-- What the fields of a check make of their texts. -/
theorem convertEach_check (who : Text) (k : Nat) :
    Template.convertEach ((namesIn checkPieces).map checkTypes)
        ([who, Text.decimal k].map fun t => Argument.ofCapture (some t)) =
      (countValue (Text.decimal k)).map fun value => [.value (.text who), .value value] := by
  have hnames : (namesIn checkPieces).map checkTypes = [.anything, fieldType ['d']] := rfl
  have hcount : (fieldType ['d']).convert (.value (.text (Text.decimal k))) =
      (countValue (Text.decimal k)).map .value := Argument.raising_value _ _
  have hwho : (FieldType.anything).convert (Argument.value (.text who)) = .ok (.value (.text who)) := rfl
  simp only [hnames, List.map_cons, List.map_nil, Argument.ofCapture, Template.convertEach, hwho, hcount]
  cases countValue (Text.decimal k) with
  | error failure => rfl
  | ok value => rfl

theorem read_check {who : Text} (hne : who ≠ []) (hq : '"' ∉ who) (k : Nat) :
    (∀ failure, countValue (Text.decimal k) = .error failure →
        checkStep.read (checkText who k) = .error failure) ∧
      ∀ value, countValue (Text.decimal k) = .ok value →
        ∃ readings, checkStep.read (checkText who k) = .ok (some readings) ∧
          (StepRegistry.inOrder readings).map (·.value) = [.value (.text who), .value value] := by
  have hs : checkText who k = fill checkPieces [who, Text.decimal k] ∧
      List.Forall₂ (fun name => (checkBody name).Spells) (namesIn checkPieces)
        [who, Text.decimal k] := ⟨rfl, .cons (spells_customer hne) (.cons (spells_count k) .nil)⟩
  have hread := SharedStep.read_of_split laid_check compiled_check fields_check
    (by decide +kernel) hs fun others ho hfill => Phrase.fill_unique (separated_check hq k) rfl ho hfill
  rw [convertEach_check] at hread
  constructor
  · intro failure hfailure
    exact hread.1 failure (by rw [hfailure]; rfl)
  · intro value hvalue
    exact hread.2 _ (by rw [hvalue]; rfl)

/-- The other steps that go with checks do not take a check of an order. -/
theorem read_otherChecks (more : Text) : ∀ step ∈ (ownSteps .thenStep).take 3,
    step.read ("the order is for \"".toList ++ more) = .ok none := by
  have hall : ∀ step ∈ (ownSteps .thenStep).take 3,
      step.template.bars "the order is for \"".toList = true := by decide +kernel
  exact fun step hm => Template.read_of_bars (hall step hm) Argument.ofCapture more

/-- A check calls its step with the customer and the number, if that can be read. -/
theorem call_check (room : Nat) (tokens : Nat → Text) {who : Text} (hne : who ≠ []) (hq : '"' ∉ who)
    (k : Nat) :
    (hostOf room tokens .thenStep).call (checkText who k) =
      if Numeral.digitLimit < (Text.decimal k).length then
        .error (.stepUnreadable (Failure.integerTooLong (Text.decimal k).length).message)
      else .ok (some (checkOrder, [.text who, .int k])) := by
  have hs : (hostOf room tokens .thenStep).registry.steps =
      (ownSteps .thenStep).take 3 ++ checkStep :: (orderRegistry room tokens).steps := rfl
  have hno : ∀ step ∈ (ownSteps .thenStep).take 3, step.read (checkText who k) = .ok none :=
    read_otherChecks _
  obtain ⟨herror, hok⟩ := read_check hne hq k
  have hcount := countValue_decimal k
  split
  · next hlong =>
    rw [if_pos hlong] at hcount
    exact SharedHost.call_of_read_error hs hno (herror _ hcount)
  · next hshort =>
    rw [if_neg hshort] at hcount
    obtain ⟨readings, hread, hvalues⟩ := hok _ hcount
    rw [SharedHost.call_of_read hs hno hread, hvalues]
    rfl

end Feature

end Phrasebook

import Phrasebook.Proofs.Feature.Checks

/-!
# Orders and their checks

After an order, the check with the right customer and the right number of drinks passes, and every
other check of customers and numbers fails. Rounds multiply the drinks; no rounds and fewer than none
are no drinks. The number of rounds is limited, even where there is nothing to repeat, and so is the
number of drinks. Beyond these limits an order fails.
-/

namespace Phrasebook.Feature

variable {room : Nat} {tokens : Nat → Text}

/-- A step that is found acts on the context. -/
theorem step_of_call {keyword : Keyword} {text : Text} {handler : ContextHandler} {values : List Value}
    (h : (hostOf room tokens keyword).call text = .ok (some (handler, values))) (context : Context) :
    (book room tokens).step keyword text context =
      ((handler values context).1.map fun _ => .passed (handler values context).2,
        (handler values context).2) := by
  have hcall : (SharedHost.mk ((book room tokens).registryOf keyword) []).call text = _ := h
  rw [Book.step, hcall]

/-- If none can be looked up, nothing happens. -/
theorem step_of_unreadable {keyword : Keyword} {text : Text} {failure : Failure}
    (h : (hostOf room tokens keyword).call text = .error failure) (context : Context) :
    (book room tokens).step keyword text context = (.error failure, context) := by
  have hcall : (SharedHost.mk ((book room tokens).registryOf keyword) []).call text = _ := h
  rw [Book.step, hcall]

/-- Steps go on in the context that the first one has left. -/
theorem steps_cons (b : Book) (keyword : Keyword) (text : Text) (rest : List (Keyword × Text))
    (context : Context) :
    b.steps context ((keyword, text) :: rest) =
      (b.step keyword text context).1 :: b.steps (b.step keyword text context).2 rest := rfl

def passed : Except Failure Book.Result → Bool
  | .ok (.passed _) => true
  | _ => false

def checkOf (check : Text × Nat) : Keyword × Text := (.thenStep, checkText check.1 check.2)

def Context.ordering (context : Context) (who : Text) (ordered : List Text) : Context :=
  { context with who? := some (.text who), drinks? := some (ordered.map .text) }

variable {who : Text} {ordered : List Text}

/-- A customer can stand between quotes. -/
theorem quotable {who : Text} (hw : who ∈ customers.values) : who ≠ [] ∧ '"' ∉ who := by
  have hall : ∀ who ∈ ["alice".toList, "bob".toList], who ≠ [] ∧ '"' ∉ who := by decide
  exact hall who hw

theorem isDrink_text {drink : Text} (h : drink ∈ drinks.values) : isDrink (.text drink) = true := by
  have hall : ∀ drink ∈ ["tea".toList, "coffee".toList], isDrink (.text drink) = true := by decide
  exact hall drink h

/-- What a check finds in an order. -/
theorem checkOrder_ordering (hd : ∀ drink ∈ ordered, drink ∈ drinks.values) (context : Context)
    (other : Text) (k : Nat) :
    (checkOrder [.text other, .int k] (context.ordering who ordered)).1 =
      if who = other ∧ ordered.length = k then .ok () else .error .assertion := by
  have hwho : (Value.text who).same (.text other) = decide (who = other) := by
    rw [Value.same, Bool.beq_eq_decide_eq]
  have hcount : (Value.int (ordered.map Value.text).length).same (.int k) =
      decide (ordered.length = k) := by
    rw [Bool.eq_iff_iff]
    simp [Value.same, Value.quotient?]
  have hall : (ordered.map Value.text).all isDrink = true := by
    rw [List.all_map, List.all_eq_true]
    exact fun drink hm => isDrink_text (hd drink hm)
  change (do
    expect ((Value.text who).same (.text other))
    expect ((Value.int (ordered.map Value.text).length).same (.int k))
    expect ((ordered.map Value.text).all isDrink)) = _
  rw [hwho, hcount, hall]
  by_cases hw : who = other
  · by_cases hk : ordered.length = k
    · simp only [hw, hk, expect]
      rfl
    · simp only [hw, hk, expect, and_false]
      rfl
  · simp only [hw, expect, false_and]
    rfl

/-- Drinks in rounds. -/
def rounds (count : Int) (ordered : List Text) : List Text :=
  (List.replicate count.toNat ordered).flatten

theorem length_rounds (count : Int) (ordered : List Text) :
    (rounds count ordered).length = count.toNat * ordered.length := by
  simp [rounds]

theorem mem_rounds {count : Int} {drink : Text} (h : drink ∈ rounds count ordered) :
    drink ∈ ordered := by
  obtain ⟨round, hround, hdrink⟩ := List.mem_flatten.mp h
  rwa [List.eq_of_mem_replicate hround] at hdrink

/-- How many rounds can be counted. -/
def Countable (count : Int) : Prop := -countLimit ≤ count ∧ count < countLimit

instance (count : Int) : Decidable (Countable count) := inferInstanceAs (Decidable (_ ∧ _))

/-- A number of rounds that can be counted can be read. -/
theorem Countable.length_decimal {count : Int} (h : Countable count) :
    (Text.decimal count.natAbs).length ≤ Numeral.digitLimit := by
  have hlength : (Text.decimal count.natAbs).length ≤ 19 := by
    apply Text.length_decimal_le (by decide)
    obtain ⟨hlow, hhigh⟩ := h
    rw [countLimit] at hlow hhigh
    omega
  exact hlength.trans (by decide)


/-- In a context with an order, a check passes if it is for the customer and the number of drinks. -/
theorem passed_check {other : Text} (ho : other ∈ customers.values)
    (hd : ∀ drink ∈ ordered, drink ∈ drinks.values) (hl : Countable ordered.length) (context : Context)
    (k : Nat) :
    passed ((book room tokens).step .thenStep (checkText other k) (context.ordering who ordered)).1 =
      decide (other = who ∧ k = ordered.length) := by
  obtain ⟨hne, hq⟩ := quotable ho
  have hcall := call_check room tokens hne hq k
  split at hcall
  · next hlong =>
    have hk : k ≠ ordered.length := by
      rintro rfl
      exact absurd hl.length_decimal (Nat.not_le.mpr hlong)
    rw [step_of_unreadable hcall, decide_eq_false fun h => hk h.2]
    rfl
  · rw [step_of_call hcall, checkOrder_ordering hd]
    split
    · next h =>
      rw [decide_eq_true ⟨h.1.symm, h.2.symm⟩]
      rfl
    · next h =>
      rw [decide_eq_false fun hp => h ⟨hp.1.symm, hp.2.symm⟩]
      rfl

/-- A check leaves the context as it is, whether it can be read or not. -/
theorem step_check {other : Text} (ho : other ∈ customers.values) (context : Context) (k : Nat) :
    ((book room tokens).step .thenStep (checkText other k) context).2 = context := by
  obtain ⟨hne, hq⟩ := quotable ho
  have hcall := call_check room tokens hne hq k
  split at hcall
  · rw [step_of_unreadable hcall]
  · rw [step_of_call hcall]
    rfl

/-- Of any checks in a context with an order, those pass that have its customer and its number. -/
theorem steps_checks (hd : ∀ drink ∈ ordered, drink ∈ drinks.values) (hl : Countable ordered.length)
    {checks : List (Text × Nat)} (hc : ∀ check ∈ checks, check.1 ∈ customers.values)
    (context : Context) :
    ((book room tokens).steps (context.ordering who ordered) (checks.map checkOf)).map passed =
      checks.map fun check => decide (check.1 = who ∧ check.2 = ordered.length) := by
  induction checks with
  | nil => rfl
  | cons check checks ih =>
    have ho := hc check List.mem_cons_self
    have hrest := ih fun other hm => hc other (List.mem_cons_of_mem _ hm)
    rw [List.map_cons, checkOf, steps_cons, List.map_cons, step_check ho, hrest,
      passed_check ho hd hl, List.map_cons]

/-- A step that leaves an order, and any checks after it. -/
theorem steps_order {keyword : Keyword} {text : Text} {context : Context}
    (hstep : (book room tokens).step keyword text context =
      (.ok (.passed (context.ordering who ordered)), context.ordering who ordered))
    (hd : ∀ drink ∈ ordered, drink ∈ drinks.values) (hl : Countable ordered.length)
    {checks : List (Text × Nat)} (hc : ∀ check ∈ checks, check.1 ∈ customers.values) :
    ((book room tokens).steps context ((keyword, text) :: checks.map checkOf)).map passed =
      true :: checks.map fun check => decide (check.1 = who ∧ check.2 = ordered.length) := by
  rw [steps_cons, hstep, List.map_cons, steps_checks hd hl hc]
  rfl

theorem repeated_texts {count : Int} (h : Countable count) {ordered : List Text}
    (hfits : count.toNat * ordered.length ≤ room) :
    repeated room (ordered.map .text) count = .ok ((rounds count ordered).map .text) := by
  have hlimits : ¬ (count < -countLimit || countLimit ≤ count) = true := by
    obtain ⟨hlow, hhigh⟩ := h
    simp only [Bool.or_eq_true, decide_eq_true_eq]
    omega
  rw [repeated, if_neg hlimits]
  cases ordered with
  | nil => simp [rounds]
  | cons drink ordered =>
    rw [if_neg (by simp), if_neg (by simpa using hfits)]
    simp [rounds, List.map_flatten]

theorem repeated_of_lt {count : Int} (h : Countable count) {ordered : List Text}
    (hlt : room < count.toNat * ordered.length) :
    repeated room (ordered.map .text) count = .error .noRoom := by
  have hlimits : ¬ (count < -countLimit || countLimit ≤ count) = true := by
    obtain ⟨hlow, hhigh⟩ := h
    simp only [Bool.or_eq_true, decide_eq_true_eq]
    omega
  rw [repeated, if_neg hlimits]
  cases ordered with
  | nil => simp at hlt
  | cons drink ordered => rw [if_neg (by simp), if_pos (by simpa using hlt)]

theorem repeated_of_not_countable {count : Int} (h : ¬ Countable count) (items : List Value) :
    repeated room items count = .error .countTooLarge := by
  have hlimits : (count < -countLimit || countLimit ≤ count) = true := by
    simp only [Bool.or_eq_true, decide_eq_true_eq]
    unfold Countable at h
    omega
  rw [repeated, if_pos hlimits]

section Orders

variable (room) (htokens : ∀ n, Phrase.IsName (tokens n)) (keyword : Keyword) (hw : who ∈ customers.values)
  (hd : ∀ drink ∈ ordered, drink ∈ drinks.values)

include htokens hw hd

theorem step_order (context : Context) :
    (book room tokens).step keyword (orderText who ordered) context =
      (.ok (.passed (context.ordering who ordered)), context.ordering who ordered) :=
  step_of_call (call_order room htokens keyword hw hd) context

/-- An order of several rounds has set the customer when it repeats the drinks. -/
theorem step_rounds {count : Int} (hc : (Text.decimal count.natAbs).length ≤ Numeral.digitLimit)
    (context : Context) :
    (book room tokens).step keyword (roundsText who count ordered) context =
      match repeated room (ordered.map .text) count with
      | .error failure => (.error failure, { context with who? := some (.text who) })
      | .ok items =>
        (.ok (.passed { context with who? := some (.text who), drinks? := some items }),
          { context with who? := some (.text who), drinks? := some items }) := by
  rw [step_of_call (call_rounds room htokens keyword hw hd hc) context, orderMany, itemsOf]
  cases repeated room (ordered.map .text) count with
  | error failure => rfl
  | ok items => rfl

end Orders

/-- Whatever has been done before and whatever keyword an order goes with, it passes, and of any
checks after it just those pass that have its customer and the number of its drinks. The same holds
for several rounds, as long as they can be counted and there is room for so many drinks: fewer than
none are none. Otherwise the order fails as soon as its drinks are repeated. If the rounds cannot be
counted, it fails even where there is nothing to repeat. -/
theorem check_after_order (hroom : Countable room) (htokens : ∀ n, Phrase.IsName (tokens n))
    (keyword : Keyword) (context : Context) {who : Text} (hw : who ∈ customers.values)
    {ordered : List Text} (hd : ∀ drink ∈ ordered, drink ∈ drinks.values)
    (hfits : ordered.length ≤ room) {checks : List (Text × Nat)}
    (hc : ∀ check ∈ checks, check.1 ∈ customers.values) :
    ((book room tokens).steps context
        ((keyword, orderText who ordered) :: checks.map checkOf)).map passed =
        true :: checks.map (fun check => decide (check.1 = who ∧ check.2 = ordered.length)) ∧
      (∀ count, Countable count → count.toNat * ordered.length ≤ room →
        ((book room tokens).steps context
          ((keyword, roundsText who count ordered) :: checks.map checkOf)).map passed =
          true :: checks.map fun check =>
            decide (check.1 = who ∧ (check.2 : Int) = max count 0 * ordered.length)) ∧
      (∀ count, Countable count → room < count.toNat * ordered.length →
        (book room tokens).step keyword (roundsText who count ordered) context =
          (.error .noRoom, { context with who? := some (.text who) })) ∧
      ∀ count, ¬ Countable count → (Text.decimal count.natAbs).length ≤ Numeral.digitLimit →
        (book room tokens).step keyword (roundsText who count ordered) context =
          (.error .countTooLarge, { context with who? := some (.text who) }) := by
  have hcountable : ∀ n ≤ room, Countable n := by
    intro n hn
    unfold Countable at hroom ⊢
    omega
  refine ⟨steps_order (step_order room htokens keyword hw hd context) hd (hcountable _ hfits) hc, ?_, ?_, ?_⟩
  · intro count hcount hroomy
    have hstep := step_rounds room htokens keyword hw hd hcount.length_decimal context
    rw [repeated_texts hcount hroomy] at hstep
    have hdrinks : ∀ drink ∈ rounds count ordered, drink ∈ drinks.values :=
      fun drink hm => hd drink (mem_rounds hm)
    have hl : Countable (rounds count ordered).length := by
      rw [length_rounds]
      exact hcountable _ hroomy
    rw [steps_order hstep hdrinks hl hc]
    congr 1
    apply List.map_congr_left
    intro check _
    rw [length_rounds, ← Int.toNat_eq_max]
    norm_cast
  · intro count hcount hlt
    rw [step_rounds room htokens keyword hw hd hcount.length_decimal context,
      repeated_of_lt hcount hlt]
  · intro count hcount hdigits
    rw [step_rounds room htokens keyword hw hd hdigits context,
      repeated_of_not_countable hcount]

def numbered (n : Nat) : Text := 'T' :: Text.decimal n

theorem isName_numbered (n : Nat) : Phrase.IsName (numbered n) :=
  Phrase.isName_cons.mpr ⟨by decide, Phrase.isName_decimal n⟩

/-- Three rounds of two drinks are six, if there is room for six. -/
theorem check_after_order_rounds :
    Countable (6 : Nat) ∧ (∀ n, Phrase.IsName (numbered n)) ∧ "bob".toList ∈ customers.values ∧
      (∀ drink ∈ ["tea".toList, "coffee".toList], drink ∈ drinks.values) ∧ Countable 3 ∧
      ((book 6 numbered).steps .fresh
        [(.whenStep, roundsText "bob".toList 3 ["tea".toList, "coffee".toList]),
          checkOf ("bob".toList, 6), checkOf ("bob".toList, 2), checkOf ("alice".toList, 6)]).map passed =
        [true, true, false, false] ∧
      (book 6 numbered).step .whenStep (roundsText "bob".toList 4 ["tea".toList, "coffee".toList])
          .fresh =
        (.error .noRoom, { Context.fresh with who? := some (.text "bob".toList) }) := by
  have hroom : Countable (6 : Nat) := by decide
  have hbob : "bob".toList ∈ customers.values := by decide
  have hdrinks : ∀ drink ∈ ["tea".toList, "coffee".toList], drink ∈ drinks.values := by decide
  have hchecks : ∀ check ∈ [("bob".toList, 6), ("bob".toList, 2), ("alice".toList, 6)],
      check.1 ∈ customers.values := by decide
  have hcount : Countable 3 := by decide
  obtain ⟨-, hrounds, hfull, -⟩ := check_after_order hroom isName_numbered .whenStep .fresh hbob hdrinks
    (by decide) hchecks
  exact ⟨hroom, isName_numbered, hbob, hdrinks, hcount, hrounds 3 hcount (by decide),
    hfull 4 (by decide) (by decide)⟩

/-- One round less than can be counted: there is nothing to repeat, but the order fails before it has
set any drinks, and so does the check. -/
theorem check_after_order_below :
    rounds (-0x8000000000000001) ["tea".toList] = [] ∧
      ¬ (passed ((book 0xfffffffffffffff numbered).step .thenStep (checkText "bob".toList 0)
          ((book 0xfffffffffffffff numbered).step .givenStep
            (roundsText "bob".toList (-0x8000000000000001) ["tea".toList]) .fresh).2).1 = true ↔
        "bob".toList = "bob".toList ∧
          ((0 : Nat) : Int) = max (-0x8000000000000001) 0 * ["tea".toList].length) := by
  have hbob : "bob".toList ∈ customers.values := by decide
  have htea : ∀ drink ∈ ["tea".toList], drink ∈ drinks.values := by decide
  have hbelow : ¬ Countable (-0x8000000000000001) := by decide
  have hc : (Text.decimal (-0x8000000000000001 : Int).natAbs).length ≤ Numeral.digitLimit := by
    decide +kernel
  have hstep := step_rounds 0xfffffffffffffff isName_numbered .givenStep hbob htea hc .fresh
  rw [repeated_of_not_countable hbelow] at hstep
  obtain ⟨hne, hq⟩ := quotable hbob
  have hcall := call_check 0xfffffffffffffff numbered hne hq 0
  rw [if_neg (by decide)] at hcall
  refine ⟨rfl, fun h => ?_⟩
  rw [hstep, step_of_call hcall] at h
  -- the check finds the customer, but no drinks
  exact absurd (h.mpr ⟨rfl, rfl⟩) (by decide)

end Phrasebook.Feature

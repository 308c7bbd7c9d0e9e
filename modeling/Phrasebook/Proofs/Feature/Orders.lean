import Phrasebook.Feature.Ordering
import Phrasebook.Proofs.Decimal
import Phrasebook.Proofs.Host.Lasting
import Phrasebook.Proofs.Host.Splits
import Phrasebook.Proofs.Pattern.Opening
import Phrasebook.Proofs.RoundTrip

/-!
# What orders are read as

An order of any drinks, or of any number of rounds of them, finds the step of its phrase whatever
keyword it goes with, and the step is called with the customer, the number and the drinks. No step
of the keyword gets in the way, and the phrase without a number does not take an order with one.
-/

namespace Phrasebook.Feature

open Phrase (Piece fill)

variable {room : Nat} {tokens : Nat → Text}

def orderRequest (tokens : Nat → Text) : Request ContextHandler :=
  ⟨⟨{}, tokens⟩, orderPhrase, order, orderDefinitions⟩

def roundsRequest (room : Nat) (tokens : Nat → Text) : Request ContextHandler :=
  ⟨⟨{}, tokens⟩, roundsPhrase, orderMany room, orderDefinitions⟩

def rehosted (d : Desk (SharedHost ContextHandler)) : Desk (SharedHost ContextHandler) :=
  { d with host := .on d.host.registry }

def firstDesk : Desk (SharedHost ContextHandler) := rehosted ⟨.on .empty, 0, []⟩

def secondDesk (tokens : Nat → Text) : Desk (SharedHost ContextHandler) :=
  rehosted ((orderRequest tokens).make firstDesk).2

/-- The new host has put all built-in types in their places. -/
theorem resolves_rehosted (q : Request ContextHandler) (d : Desk (SharedHost ContextHandler)) :
    q.Resolves (rehosted d).host.registry q.definitions.typeOf :=
  Request.resolves_of_keeps fun b _ => StepRegistry.keeps_putBuiltIns _ b

theorem pieces_order : Phrase.pieces orderPhrase =
    .hole "who".toList :: (" orders [".toList.map .plain ++
      .hole "drinks".toList :: ("]".toList.map .plain)) := by decide +kernel

theorem pieces_rounds : Phrase.pieces roundsPhrase =
    .hole "who".toList :: (" orders ".toList.map .plain ++
      .hole "int".toList :: (" of [".toList.map .plain ++
        .hole "drinks".toList :: ("]".toList.map .plain))) := by decide +kernel

theorem find?_orderDefinitions {name : Text} {definition : Definition}
    (h : orderDefinitions.find? name = some definition) :
    definition = customers ∨ definition = drinks := by
  rcases List.mem_pair.mp (Table.mem_of_find? h) with he | he
  · exact .inl (Prod.mk.inj he).2
  · exact .inr (Prod.mk.inj he).2

theorem generated_ordering {name : Text} {definition : Definition}
    (h : orderDefinitions.find? name = some definition) : definition.Generated := by
  rcases find?_orderDefinitions h with rfl | rfl
  · trivial
  · trivial

/-- The definitions go with both phrases. -/
theorem check_ordering {phrase : Text} (h : phrase = orderPhrase ∨ phrase = roundsPhrase) :
    ∃ events, Registrar.check {} phrase orderDefinitions = .ok events := by
  have hdefined : ∀ phrase ∈ [orderPhrase, roundsPhrase], ∀ name ∈ Phrase.definedNames phrase,
      (orderDefinitions.find? name).isSome = true := by decide +kernel
  have hunused : ∀ phrase ∈ [orderPhrase, roundsPhrase],
      Registrar.unused phrase orderDefinitions = [] := by decide +kernel
  have hm : phrase ∈ [orderPhrase, roundsPhrase] := List.mem_pair.mpr h
  exact Registrar.check_eq_ok
    (fun name hn => Option.isSome_iff_ne_none.mp (hdefined phrase hm name hn)) (.inl (hunused phrase hm))

/-- A phrase of orders adds its step to any registry of which no step has its format or takes it for
a step text. -/
theorem exists_equipped {q : Request ContextHandler} {d : Desk (SharedHost ContextHandler)}
    (hphrase : q.phrase = orderPhrase ∨ q.phrase = roundsPhrase)
    (hdefinitions : q.definitions = orderDefinitions) (hregistrar : q.registrar = ⟨{}, tokens⟩)
    (htokens : ∀ n, Phrase.IsName (tokens n)) (hd : d.host.registry.Handed ParameterType.Regular)
    (hnew : ∀ earlier ∈ d.host.registry.steps, earlier.template.format ≠ q.format (rehosted d) ∧
      earlier.read (q.format (rehosted d)) = .ok none) :
    ∃ step, (q.make (rehosted d)).2.host.registry.steps = d.host.registry.steps ++ [step] ∧
      step.template.format = q.format (rehosted d) ∧
      q.Equips (Request.handed (rehosted d).host.registry q.definitions.typeOf) step := by
  have hgenerated : ∀ {name definition}, q.definitions.find? name = some definition →
      definition.Generated := fun hfind => generated_ordering (hdefinitions ▸ hfind)
  have ht : Phrase.IsName (q.registrar.tokens (rehosted d).drawn) := hregistrar ▸ htokens _
  obtain ⟨events, hcheck⟩ := check_ordering hphrase
  obtain ⟨step, hs⟩ := Request.exists_added (q := q) (.on hd)
    (fun b => List.mem_map_of_mem (List.mem_map_of_mem b.mem_all)) ht
    (by rw [hdefinitions, hregistrar]; exact hcheck) (fun _ _ _ hfind => hgenerated hfind)
    (fun _ _ _ hfind => (hgenerated hfind).regular) hnew
  have hc : q.Counted := fun _ _ _ hfind => (hgenerated hfind).elim
  obtain ⟨types, -, hstep⟩ := Request.exists_of_added hs
  exact ⟨step, hs, hstep ▸ rfl, ((resolves_rehosted q d).equips hc ht hs).1⟩

def orderText (who : Text) (ordered : List Text) : Text :=
  who ++ (" orders [".toList ++ (ListText.join ordered ++ "]".toList))

def roundsText (who : Text) (count : Int) (ordered : List Text) : Text :=
  who ++ (" orders ".toList ++ (Text.integer count ++ (" of [".toList ++
    (ListText.join ordered ++ "]".toList))))

/-- What the pattern of a placeholder of an order takes, and what its conversion makes of it. -/
def Written (name : Text) (w : Text × Value) : Prop :=
  (Pattern.row (orderDefinitions.itemsOf name)).Spells w.1 ∧
    (orderDefinitions.typeOf name).settled.convert (.text w.1) = .ok w.2

theorem written_of_writes {name t : Text} {value : Value} {definition : Definition}
    (hb : isBuiltIn name = false) (hd : orderDefinitions.find? name = some definition)
    (hw : definition.Writes t value) (hs : definition.Splittable) : Written name (t, value) := by
  constructor
  · rw [Definitions.itemsOf, ofName?_eq_none hb, hd]
    exact Pattern.spells_row_singleton.mpr hw.spells
  · have hplain : value.settle = .ok value := by cases hw <;> rfl
    rw [Definitions.typeOf, ofName?_eq_none hb, hd]
    exact (FieldType.settled_of_ok (hw.convert hs)).trans hplain

variable {who : Text} {ordered : List Text}

theorem written_who (hw : who ∈ customers.values) : Written "who".toList (who, .text who) :=
  written_of_writes (by decide) rfl (.one hw) trivial

theorem written_drinks (hd : ∀ drink ∈ ordered, drink ∈ drinks.values) :
    Written "drinks".toList (ListText.join ordered, .list (ordered.map .text)) := by
  have hs : drinks.Splittable := by
    change ∀ t ∈ ["tea".toList, "coffee".toList], t ≠ [] ∧ Text.mentions ListText.separator t = false
    decide
  have hn : false = true → ordered ≠ [] := nofun
  exact written_of_writes (by decide) rfl (.several hd hn) hs

/-- A count can be read unless it has too many digits. -/
theorem written_count {count : Int}
    (hc : (Text.decimal count.natAbs).length ≤ Numeral.digitLimit) :
    Written "int".toList (Text.integer count, .int count) := by
  have hread : Numeral.integer (Text.integer count) = .ok count := by
    rw [Numeral.integer_integer, if_neg (Nat.not_lt.mpr hc)]
  have hconvert : BuiltIn.int.convert (.text (Text.integer count)) = .ok (.int count) := by
    rw [BuiltIn.convert, BuiltIn.toInteger, BuiltIn.integerOfText, hread]
    rfl
  have hint : BuiltIn.int.fieldType.convert (.text (Text.integer count)) = .ok (.int count) := hconvert
  exact ⟨Pattern.spells_signed count, FieldType.settled_of_ok hint⟩

def placeholders : List Text := ["who".toList, "int".toList, "drinks".toList]

theorem readsAs_placeholder {name : Text} (hn : name ∈ placeholders) :
    (orderDefinitions.typeOf name).ReadsAs (orderDefinitions.itemsOf name) := by
  refine Definitions.readsAs_typeOf (fun definition hd => ?_) fun hb => ?_
  · rcases find?_orderDefinitions hd with rfl | rfl
    · trivial
    · trivial
  · have hdefined : ∀ name ∈ placeholders, isBuiltIn name = false →
        (orderDefinitions.find? name).isSome = true := by decide +kernel
    exact Option.isSome_iff_ne_none.mp (hdefined name hn hb)

theorem names_order : Phrase.names orderPhrase = ["who".toList, "drinks".toList] := by decide +kernel

theorem names_rounds : Phrase.names roundsPhrase = placeholders := by decide +kernel

theorem readsAs_order {name : Text} (hn : name ∈ Phrase.names orderPhrase) :
    (orderDefinitions.typeOf name).ReadsAs (orderDefinitions.itemsOf name) := by
  have hsub : Phrase.names orderPhrase ⊆ placeholders := by decide +kernel
  exact readsAs_placeholder (hsub hn)

/-- What separates the placeholders stands in none of their texts. -/
theorem not_mem_who (hw : who ∈ customers.values) : '[' ∉ who ∧ 'd' ∉ who ∧ ' ' ∉ who := by
  have hall : ∀ who ∈ ["alice".toList, "bob".toList], '[' ∉ who ∧ 'd' ∉ who ∧ ' ' ∉ who := by decide
  exact hall who hw

theorem not_mem_drinks (hd : ∀ drink ∈ ordered, drink ∈ drinks.values) :
    '[' ∉ ListText.join ordered ∧ 'd' ∉ ListText.join ordered := by
  have hall : ∀ drink ∈ ["tea".toList, "coffee".toList], '[' ∉ drink ∧ 'd' ∉ drink := by decide
  constructor
  · exact ListText.not_mem_join (by decide) fun drink hm => (hall drink (hd drink hm)).1
  · exact ListText.not_mem_join (by decide) fun drink hm => (hall drink (hd drink hm)).2

theorem not_mem_integer (count : Int) : '[' ∉ Text.integer count ∧ 'd' ∉ Text.integer count := by
  constructor
  · intro hm
    exact absurd (Text.mem_integer hm) (by decide)
  · intro hm
    exact absurd (Text.mem_integer hm) (by decide)

variable {step : SharedStep ContextHandler}

/-- An order is read as what it was written for. -/
theorem read_order
    (he : (orderRequest tokens).Equips (Request.handed firstDesk.host.registry orderDefinitions.typeOf)
      step)
    (hw : who ∈ customers.values) (hd : ∀ drink ∈ ordered, drink ∈ drinks.values) :
    ∃ readings, step.read (orderText who ordered) = .ok (some readings) ∧
      Argument.values ((StepRegistry.inOrder readings).map (·.value)) =
        .ok [.text who, .list (ordered.map .text)] := by
  have hwritten : List.Forall₂ Written (Phrase.names orderPhrase)
      [(who, .text who), (ListText.join ordered, .list (ordered.map .text))] := by
    rw [names_order]
    exact .cons (written_who hw) (.cons (written_drinks hd) .nil)
  have hsep : Phrase.Separated (fun c => ∀ t ∈ [who, ListText.join ordered], c ∉ t)
      (Phrase.pieces orderPhrase) := by
    have hbracket : ∀ t ∈ [who, ListText.join ordered], '[' ∉ t := by
      simp [(not_mem_who hw).1, (not_mem_drinks hd).1]
    rw [pieces_order]
    exact (Phrase.separated_last _ _).hole (by decide) hbracket _
  obtain ⟨readings, hread, hvalues⟩ := (resolves_rehosted (orderRequest tokens) _).read_written he
    (fun _ hn => readsAs_order hn) hwritten hsep
  have hpieces : Phrase.pieces (orderRequest tokens).phrase = _ := pieces_order
  refine ⟨readings, ?_, hvalues⟩
  rw [hpieces] at hread
  exact hread

/-- An order of several rounds is read as what it was written for. -/
theorem read_rounds
    (he : (roundsRequest room tokens).Equips
      (Request.handed (secondDesk tokens).host.registry orderDefinitions.typeOf) step)
    (hw : who ∈ customers.values) (hd : ∀ drink ∈ ordered, drink ∈ drinks.values) {count : Int}
    (hc : (Text.decimal count.natAbs).length ≤ Numeral.digitLimit) :
    ∃ readings, step.read (roundsText who count ordered) = .ok (some readings) ∧
      Argument.values ((StepRegistry.inOrder readings).map (·.value)) =
        .ok [.text who, .int count, .list (ordered.map .text)] := by
  have hwritten : List.Forall₂ Written (Phrase.names roundsPhrase)
      [(who, .text who), (Text.integer count, .int count),
        (ListText.join ordered, .list (ordered.map .text))] := by
    rw [names_rounds]
    exact .cons (written_who hw) (.cons (written_count hc) (.cons (written_drinks hd) .nil))
  have hreads : ∀ name ∈ Phrase.names roundsPhrase,
      (orderDefinitions.typeOf name).ReadsAs (orderDefinitions.itemsOf name) := by
    rw [names_rounds]
    exact fun name hn => readsAs_placeholder hn
  have hsep : Phrase.Separated
      (fun c => ∀ t ∈ [who, Text.integer count, ListText.join ordered], c ∉ t)
      (Phrase.pieces roundsPhrase) := by
    have hbracket : ∀ t ∈ [who, Text.integer count, ListText.join ordered], '[' ∉ t := by
      simp [(not_mem_who hw).1, (not_mem_drinks hd).1, (not_mem_integer count).1]
    have hletter : ∀ t ∈ [who, Text.integer count, ListText.join ordered], 'd' ∉ t := by
      simp [(not_mem_who hw).2.1, (not_mem_drinks hd).2, (not_mem_integer count).2]
    rw [pieces_rounds]
    exact ((Phrase.separated_last _ _).hole (by decide) hbracket _).hole (by decide) hletter _
  obtain ⟨readings, hread, hvalues⟩ :=
    (resolves_rehosted (roundsRequest room tokens) _).read_written he hreads hwritten hsep
  have hpieces : Phrase.pieces (roundsRequest room tokens).phrase = _ := pieces_rounds
  refine ⟨readings, ?_, hvalues⟩
  rw [hpieces] at hread
  exact hread

/-- What the step of an order takes begins with a customer, and goes on like an order. -/
theorem exists_of_order {text : Text}
    (h : ∃ texts, Pattern.SplitsAs orderDefinitions.itemsOf (Phrase.pieces orderPhrase) text texts) :
    ∃ other more, other ∈ customers.values ∧ text = other ++ (" orders ".toList ++ ('[' :: more)) := by
  obtain ⟨texts, hfill, (hspells : List.Forall₂ _ (Phrase.names orderPhrase) texts)⟩ := h
  rw [names_order] at hspells
  obtain ⟨other, _, hother, hrest, rfl⟩ := List.forall₂_cons_left_iff.mp hspells
  obtain ⟨t, _, -, hnil, rfl⟩ := List.forall₂_cons_left_iff.mp hrest
  cases hnil
  have hcustomer : other ∈ customers.values :=
    (Pattern.spells_valuesItem (List.cons_ne_nil _ _)).mp
      (Pattern.spells_row_singleton.mp (Pattern.spells_row_singleton.mp hother))
  rw [pieces_order] at hfill
  exact ⟨other, t ++ "]".toList, hcustomer, hfill⟩

section Order

variable (he : (orderRequest tokens).Equips
  (Request.handed firstDesk.host.registry orderDefinitions.typeOf) step)

include he

theorem read_order_none {text : Text}
    (h : ∀ other ∈ customers.values, ∀ more, text ≠ other ++ (" orders ".toList ++ ('[' :: more))) :
    step.read text = .ok none := by
  refine (resolves_rehosted (orderRequest tokens) _).read_none he (fun _ hn => readsAs_order hn) ?_
  intro hsplit
  obtain ⟨other, more, hother, htext⟩ := exists_of_order hsplit
  exact h other hother more htext

/-- An order of several rounds is not taken for an order without a number. -/
theorem read_order_of_rounds (hw : who ∈ customers.values) (count : Int) :
    step.read (roundsText who count ordered) = .ok none := by
  refine read_order_none he fun other hother more hwritten => ?_
  -- the first blank ends the customer, and then a number would have to begin with a bracket
  obtain rfl : who = other :=
    append_cons_inj (not_mem_who hw).2.2 (not_mem_who hother).2.2 hwritten
  have hnext := List.append_cancel_left (List.append_cancel_left hwritten)
  obtain ⟨c, digits, hcount⟩ := List.exists_cons_of_ne_nil (Text.integer_ne_nil count)
  rw [hcount] at hnext
  have hc : c = '[' := (List.cons.inj hnext).1
  refine (not_mem_integer count).1 ?_
  rw [hcount, ← hc]
  exact List.mem_cons_self

/-- Nor is the format of the phrase with a number, which begins with a brace. -/
theorem read_order_of_format (d : Desk (SharedHost ContextHandler))
    (ht : Phrase.IsName (tokens d.drawn)) :
    step.read ((roundsRequest room tokens).format d) = .ok none := by
  obtain ⟨rest, hformat⟩ :=
    Request.exists_format_eq_cons (q := roundsRequest room tokens) (d := d) ht pieces_rounds
  refine read_order_none he fun other hother more hwritten => ?_
  have hbrace : ∀ other ∈ ["alice".toList, "bob".toList], other ≠ [] ∧ '\x7b' ∉ other := by decide
  obtain ⟨hne, hno⟩ := hbrace other hother
  obtain ⟨c, other, rfl⟩ := List.exists_cons_of_ne_nil hne
  rw [hformat] at hwritten
  exact hno (by rw [(List.cons.inj hwritten).1]; exact List.mem_cons_self)

end Order

/-- Each phrase has a step of its own. -/
theorem exists_orderSteps (room : Nat) (htokens : ∀ n, Phrase.IsName (tokens n)) :
    ∃ first second, (orderRegistry room tokens).steps = [first, second] ∧
      (orderRequest tokens).Equips
        (Request.handed firstDesk.host.registry orderDefinitions.typeOf) first ∧
      (roundsRequest room tokens).Equips
        (Request.handed (secondDesk tokens).host.registry orderDefinitions.typeOf) second := by
  have hempty : (StepRegistry.empty : StepRegistry ContextHandler).Handed ParameterType.Regular :=
    ⟨fun _ _ hf => (by cases hf), fun _ hs => absurd hs List.not_mem_nil⟩
  have hstart := SharedHost.Sound.on hempty
  obtain ⟨first, hfirst, hformat, he⟩ := @exists_equipped tokens (orderRequest tokens)
    ⟨.on .empty, 0, []⟩ (.inl rfl) rfl rfl htokens hstart.handed fun _ hm => absurd hm List.not_mem_nil
  have hregular : (Call.register (orderRequest tokens)).Tells ParameterType.Regular :=
    Call.Regular.tells fun _ _ definition hfind => (generated_ordering hfind).regular
  have hnext := (SharedHost.Sound.make (d := firstDesk) (.on hstart.handed) hregular).handed
  obtain ⟨second, hsecond, -, he'⟩ := @exists_equipped tokens (roundsRequest room tokens)
    ((orderRequest tokens).make firstDesk).2 (.inr rfl) rfl rfl htokens hnext fun earlier hm => by
      have hone : ((orderRequest tokens).make firstDesk).2.host.registry.steps = [first] := hfirst
      rw [hone] at hm
      obtain rfl : earlier = first := List.mem_singleton.mp hm
      refine ⟨fun hsame => ?_, read_order_of_format he _ (htokens _)⟩
      have hlength : (Phrase.names orderPhrase).length = (Phrase.names roundsPhrase).length :=
        Request.length_names_of_format_eq (htokens _) (htokens _) (hformat.symm.trans hsame)
      rw [names_order, names_rounds] at hlength
      exact absurd hlength (by decide)
  refine ⟨first, second, ?_, he, he'⟩
  calc (orderRegistry room tokens).steps
    _ = ((orderRequest tokens).make firstDesk).2.host.registry.steps ++ [second] := hsecond
    _ = [first] ++ [second] := congrArg (· ++ [second]) hfirst

def hostOf (room : Nat) (tokens : Nat → Text) (keyword : Keyword) : SharedHost ContextHandler :=
  ⟨(book room tokens).registryOf keyword, []⟩

/-- No step of a keyword takes a text that begins like an order. -/
theorem read_keyword (keyword : Keyword) (hw : who ∈ customers.values) (more : Text) :
    ∀ step ∈ ownSteps keyword, step.read (who ++ (" orders ".toList ++ more)) = .ok none := by
  have hall : ∀ keyword ∈ [Keyword.givenStep, .whenStep, .thenStep],
      ∀ step ∈ ownSteps keyword, ∀ who ∈ ["alice".toList, "bob".toList],
        step.template.bars (who ++ " orders ".toList) = true := by decide +kernel
  have hkeyword : keyword ∈ [Keyword.givenStep, .whenStep, .thenStep] := by cases keyword <;> decide
  intro step hm
  rw [← List.append_assoc]
  exact Template.read_of_bars (hall keyword hkeyword step hm who hw) Argument.ofCapture more

/-- An order calls its step with the customer and the drinks. -/
theorem call_order (room : Nat) (htokens : ∀ n, Phrase.IsName (tokens n)) (keyword : Keyword)
    (hw : who ∈ customers.values) (hd : ∀ drink ∈ ordered, drink ∈ drinks.values) :
    (hostOf room tokens keyword).call (orderText who ordered) =
      .ok (some (order, [.text who, .list (ordered.map .text)])) := by
  obtain ⟨first, second, hsteps, he, -⟩ := exists_orderSteps room htokens
  obtain ⟨readings, hread, hvalues⟩ := read_order he hw hd
  have hs : (hostOf room tokens keyword).registry.steps = ownSteps keyword ++ first :: [second] :=
    congrArg (ownSteps keyword ++ ·) hsteps
  have hno : ∀ step ∈ ownSteps keyword, step.read (orderText who ordered) = .ok none :=
    read_keyword keyword hw ('[' :: (ListText.join ordered ++ "]".toList))
  rw [SharedHost.call_of_read hs hno hread, hvalues, he.handler]
  rfl

/-- An order of several rounds calls the other one, with their number as well. -/
theorem call_rounds (room : Nat) (htokens : ∀ n, Phrase.IsName (tokens n)) (keyword : Keyword)
    (hw : who ∈ customers.values) (hd : ∀ drink ∈ ordered, drink ∈ drinks.values) {count : Int}
    (hc : (Text.decimal count.natAbs).length ≤ Numeral.digitLimit) :
    (hostOf room tokens keyword).call (roundsText who count ordered) =
      .ok (some (orderMany room, [.text who, .int count, .list (ordered.map .text)])) := by
  obtain ⟨first, second, hsteps, he, he'⟩ := exists_orderSteps room htokens
  obtain ⟨readings, hread, hvalues⟩ := read_rounds he' hw hd hc
  have hs : (hostOf room tokens keyword).registry.steps =
      (ownSteps keyword ++ [first]) ++ second :: [] := by
    rw [List.append_assoc]
    exact congrArg (ownSteps keyword ++ ·) hsteps
  have hno : ∀ step ∈ ownSteps keyword ++ [first],
      step.read (roundsText who count ordered) = .ok none := by
    intro step hm
    rcases List.mem_append.mp hm with hm | hm
    · exact read_keyword keyword hw _ step hm
    · rw [List.mem_singleton.mp hm]
      exact read_order_of_rounds he hw count
  rw [SharedHost.call_of_read hs hno hread, hvalues, he'.handler]
  rfl

end Phrasebook.Feature

import Phrasebook.Feature.Project

/-!
# Ordering drinks

A book of steps about customers who order drinks, and about counting projects. The ordering steps
are registered as phrases and go with any keyword; the others are formats of their own and go with
one keyword each. Steps act on a context, which remembers what earlier steps have set.
-/

namespace Phrasebook.Feature

/-- What the steps have set so far. -/
structure Context where
  who? : Option Value
  drinks? : Option (List Value)
  /-- The name of the placeholder of the counting project. -/
  project? : Option Text
  report? : Option Report

def Context.fresh : Context := ⟨none, none, none, none⟩

/-- What a step does with its values in a context. What it has set before it fails stays set. -/
abbrev ContextHandler := List Value → Context → Outcome Context Unit

def need {α : Type} (name : String) : Option α → Except Failure α
  | some value => .ok value
  | none => .error (.attributeMissing name.toList)

def expect (holds : Bool) : Except Failure Unit := if holds then .ok () else .error .assertion

/-- The elements of a list. -/
def itemsOf : Value → List Value
  | .list items => items
  | _ => []

/-- How far below zero a number of repetitions may be, and what it may not reach above. -/
def countLimit : Int := 0x8000000000000000

/-- Elements repeated a number of times, which is none below zero, if there is room for so many. -/
def repeated (room : Nat) (items : List Value) (times : Int) : Except Failure (List Value) :=
  if times < -countLimit || countLimit ≤ times then .error .countTooLarge
  else if items.isEmpty then .ok []
  else if room < times.toNat * items.length then .error .noRoom
  else .ok (List.replicate times.toNat items).flatten

def order : ContextHandler
  | [who, drinks], context =>
    (.ok (), { context with who? := some who, drinks? := some (itemsOf drinks) })
  | _, context => (.error .noArguments, context)

/-- Records an order of several rounds, the customer first. The drinks are one list in the end, and
there is room for so many of them. -/
def orderMany (room : Nat) : ContextHandler
  | [who, .int count, drinks], context =>
    let context := { context with who? := some who }
    match repeated room (itemsOf drinks) count with
    | .error failure => (.error failure, context)
    | .ok rounds => (.ok (), { context with drinks? := some rounds })
  | _, context => (.error .noArguments, context)

/-- A check sets nothing. -/
def checking (check : List Value → Context → Except Failure Unit) : ContextHandler :=
  fun values context => (check values context, context)

def isDrink : Value → Bool
  | .text t => ["tea".toList, "coffee".toList].contains t
  | _ => false

def checkOrder : ContextHandler := checking fun
  | [who, count], context => do
    expect ((← need "who" context.who?).same who)
    let drinks ← need "drinks" context.drinks?
    expect ((Value.int drinks.length).same count)
    expect (drinks.all isDrink)
  | _, _ => .error .noArguments

def createProject : ContextHandler
  | [.text name], context => (.ok (), { context with project? := some name })
  | _, context => (.error .noArguments, context)

def run : ContextHandler
  | [.text given], context =>
    match need "project" context.project? with
    | .error failure => (.error failure, context)
    | .ok name => (.ok (), { context with report? := some (runProject name given) })
  | _, context => (.error .noArguments, context)

def checkReport (holds : Report → Bool) : ContextHandler := checking fun _ context => do
  expect (holds (← need "result" context.report?))

def checkOutput : ContextHandler
  | [.text message], context => checkReport (·.mentions message) [] context
  | _, context => (.error .noArguments, context)

def countSign : Text → Bool × Text
  | '-' :: rest => (true, rest)
  | '+' :: rest => (false, rest)
  | t => (false, t)

/-- The base that a count is written in. -/
def countBase : Text → Nat
  | '0' :: mark :: _ :: _ =>
    if mark = 'b' || mark = 'B' then 2
    else if mark = 'o' || mark = 'O' then 8
    else if mark = 'x' || mark = 'X' then 16
    else 10
  | _ => 10

/-- The value of a count: its digits in its base, everything else left out. -/
def countValue (t : Text) : Except Failure Value :=
  let (negative, body) := countSign t
  let base := countBase body
  let digits := body.filterMap fun c => (Text.hexDigit? c).filter (· < base)
  let value : Int := (digits.foldl (fun n d => base * n + d) 0 : Nat)
  if base = 10 && Numeral.digitLimit < digits.length then .error (.integerTooLong digits.length)
  else .ok (.int (if negative then -value else value))

def countPattern : Text :=
  "[-+ ]?[0-9]+|[-+ ]?0[xX][0-9a-fA-F]+|[-+ ]?0[bB][01]+|[-+ ]?0[oO][0-7]+".toList

def fieldType (type : Text) : FieldType Argument :=
  if type = ['d'] then
    ⟨countPattern, none, Argument.raising (Transformer.ofText countValue)⟩
  else .anything

def stepOf (format : String) (handler : ContextHandler) : SharedStep ContextHandler :=
  ⟨.ofFormat fieldType format.toList, handler⟩

/-- What a step goes with. -/
inductive Keyword where
  | givenStep
  | whenStep
  | thenStep
  deriving DecidableEq

/-- The steps of a book, by keyword; those of `anySteps` go with every keyword. -/
structure Book where
  stepsOf : Keyword → List (SharedStep ContextHandler)
  anySteps : StepRegistry ContextHandler

def customers : Definition := .sum ⟨"alice".toList, ["bob".toList]⟩

def drinks : Definition := .list ⟨"tea".toList, ["coffee".toList]⟩ false

def orderDefinitions : Definitions := [("who".toList, customers), ("drinks".toList, drinks)]

def orderPhrase : Text := "\x7bwho\x7d orders [\x7bdrinks\x7d]".toList

def roundsPhrase : Text := "\x7bwho\x7d orders \x7bint\x7d of [\x7bdrinks\x7d]".toList

def orderPhrases (room : Nat) : List (Text × ContextHandler) :=
  [(orderPhrase, order), (roundsPhrase, orderMany room)]

/-- The registry of the ordering phrases. Each is registered by a new host, and draws a token. -/
def orderRegistry (room : Nat) (tokens : Nat → Text) : StepRegistry ContextHandler :=
  let registrar : Registrar := ⟨{}, tokens⟩
  let desk : Desk (SharedHost ContextHandler) := ⟨.on .empty, 0, []⟩
  ((orderPhrases room).foldl (fun desk (phrase, handler) =>
    (registrar.define phrase handler orderDefinitions
      { desk with host := .on desk.host.registry }).2) desk).host.registry

def ownSteps : Keyword → List (SharedStep ContextHandler)
  | .givenStep =>
    [stepOf "a behave project whose \"\x7bname\x7d\" placeholder rejects odd numbers" createProject]
  | .whenStep => [stepOf "I run behave on \"\x7btext\x7d\"" run]
  | .thenStep =>
    [stepOf "behave reports 1 failed step" (checkReport Report.oneFailed),
     stepOf "behave reports 0 failed steps" (checkReport Report.noneFailed),
     stepOf "the output mentions \"\x7bmessage\x7d\"" checkOutput,
     stepOf "the order is for \"\x7bwho\x7d\" with \x7bcount:d\x7d drinks" checkOrder]

/-- All the steps, for lists that have room for a number of elements and phrases that draw tokens. -/
def book (room : Nat) (tokens : Nat → Text) : Book := ⟨ownSteps, orderRegistry room tokens⟩

namespace Book

def formats (steps : List (SharedStep ContextHandler)) : List Text := steps.map (·.template.format)

/-- What a step came to: it was not found, or it left a context. -/
inductive Result where
  | undefined
  | passed (context : Context)

/-- What is searched for the step of a text: the steps of the keyword first. -/
def registryOf (b : Book) (keyword : Keyword) : StepRegistry ContextHandler :=
  { b.anySteps with steps := b.stepsOf keyword ++ b.anySteps.steps }

def step (b : Book) (keyword : Keyword) (text : Text) (context : Context) : Outcome Context Result :=
  match (SharedHost.mk (b.registryOf keyword) []).call text with
  | .error failure => (.error failure, context)
  | .ok none => (.ok .undefined, context)
  | .ok (some (handler, values)) =>
    let (outcome, next) := handler values context
    (outcome.map fun _ => .passed next, next)

def steps (b : Book) : Context → List (Keyword × Text) → List (Except Failure Result)
  | _, [] => []
  | context, (keyword, text) :: rest =>
    let (result, next) := b.step keyword text context
    result :: b.steps next rest

end Book

end Phrasebook.Feature

import Phrasebook.Host.Shared
import Phrasebook.Registrar

/-!
# Counting projects

A counting project defines one step, `the count is {name}`, whose placeholder takes digits and
refuses odd numbers, and an expectation that the count was accepted. Running it on a scenario of
these two reports how the steps went. A project whose definition is refused reports nothing but
that.
-/

namespace Phrasebook.Feature

structure StepCounts where
  passed : Nat
  failed : Nat
  errors : Nat
  skipped : Nat
  undefined : Nat

/-- The counts in one line. Errors and undefined steps are left out where there are none. -/
def StepCounts.summary (c : StepCounts) : Text :=
  let part := fun (n : Nat) (what : String) => Text.decimal n ++ ' ' :: what.toList
  let unlessNone := fun (n : Nat) (what : String) => if n = 0 then [] else [part n what]
  Text.join ", ".toList
    ([part c.passed (if c.passed = 1 then "step passed" else "steps passed"),
      part c.failed "failed"] ++ unlessNone c.errors "error" ++ [part c.skipped "skipped"] ++
      unlessNone c.undefined "undefined")

/-- The report of a run. -/
structure Report where
  returnCode : Nat
  counts? : Option StepCounts
  /-- What was written, line by line, as far as expectations ask for it. -/
  lines : List Text

namespace Report

def mentions (r : Report) (t : Text) : Bool := r.lines.any (Text.mentions t)

def summary? (r : Report) : Option Text := r.counts?.map StepCounts.summary

def aborted (lines : List Text) : Report := ⟨1, none, lines⟩

def counted (returnCode : Nat) (counts : StepCounts) (lines : List Text) : Report :=
  ⟨returnCode, some counts, lines ++ [counts.summary]⟩

def oneFailed (r : Report) : Bool :=
  r.returnCode ≠ 0 && r.counts?.any fun c => c.failed = 1 && c.undefined = 0

def noneFailed (r : Report) : Bool := r.returnCode = 0 && r.counts?.any fun c => c.failed = 0

end Report

def countDefinition : Definition :=
  .raw ⟨"\\d+".toList, none, Transformer.named "even".toList, none⟩

def countPhrase (name : Text) : Text := "the count is \x7b".toList ++ name ++ ['}']

/-- The registry of a project, or why its definition is refused. -/
def projectRegistry (name : Text) : Except Failure (StepRegistry Unit) :=
  let registrar : Registrar := ⟨{}, fun _ => "0".toList⟩
  let desk : Desk (SharedHost Unit) := ⟨.on .empty, 0, []⟩
  let (outcome, after) := registrar.define (countPhrase name) () [(name, countDefinition)] desk
  outcome.map fun _ => after.host.registry

def failureLine (f : Failure) : Text := f.label ++ ": ".toList ++ f.message

def openingLines : List Text := ["Feature: Count".toList, "Scenario: Count".toList]

def endsLine (c : Char) : Bool := c = '\n' || c = '\r'

/-- Whether a name would end the line or the quotation that it is written into. -/
def breaksOut (name : Text) : Bool := name.contains '"' || name.any endsLine

def runProject (name given : Text) : Report :=
  let given := Text.strip given
  let lines := openingLines ++ ["Given ".toList ++ given]
  if breaksOut name || given.isEmpty || given.any endsLine then .aborted []
  else
    match projectRegistry name with
    | .error failure => .aborted [failureLine failure]
    | .ok registry =>
      match registry.find given with
      | .nothing => .counted 1 ⟨0, 0, 0, 1, 1⟩ lines
      | .unreadable failure => .counted 1 ⟨0, 0, 1, 1, 0⟩ (lines ++ [failureLine failure])
      | .step _ readings =>
        match Argument.values (readings.map (·.value)) with
        | .error failure => .counted 1 ⟨0, 0, 1, 1, 0⟩ (lines ++ [failureLine failure])
        | .ok _ => .counted 0 ⟨2, 0, 0, 0, 0⟩ (lines ++ ["Then the count was accepted".toList])

end Phrasebook.Feature

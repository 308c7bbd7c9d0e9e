import Phrasebook.Host.Basic
import Phrasebook.Settings

/-!
# Registering phrases

A phrase is registered with a host in one go: its definitions are checked, every placeholder that
needs one gets a parameter type under a name of its own, and the phrase with these names becomes a
step. A token drawn for the registration keeps its names apart from those of all others.

A registration that fails may have defined some of its types already.
-/

namespace Phrasebook

abbrev Definitions := Table Definition

/-- What a registration has told the host. -/
structure Registration where
  phrase : Text
  expression : Text
  placeholders : List Placeholder
  /-- The decoders by unique name. -/
  decoders : Table Decoder

/-- A host at which phrases are registered: how many tokens have been drawn, and what has been
reported, in order. -/
structure Desk (σ : Type) where
  host : σ
  drawn : Nat
  events : List Event

/-- The outcome of an action, and what it leaves behind even if it fails. -/
abbrev Outcome (σ α : Type) := Except Failure α × σ

namespace Desk

variable {σ : Type}

def report (d : Desk σ) (events : List Event) : Desk σ := { d with events := d.events ++ events }

end Desk

/-- How phrases are registered: the settings, and the tokens in the order of drawing. -/
structure Registrar where
  settings : Settings
  tokens : Nat → Text

namespace Registrar

variable {σ H : Type}

def missing (phrase : Text) (definitions : Definitions) : List Text :=
  (Phrase.requiredNames phrase).filter (!definitions.has ·)

def unused (phrase : Text) (definitions : Definitions) : List Text :=
  definitions.names.filter (!(Phrase.requiredNames phrase).contains ·)

/-- Whether definitions go with a phrase. If they do, every unused one is reported. -/
def check (settings : Settings) (phrase : Text) (definitions : Definitions) :
    Except Failure (List Event) :=
  let missing := missing phrase definitions
  let unused := unused phrase definitions
  if !missing.isEmpty || (!unused.isEmpty && !settings.allowUnused) then
    .error (.definitionMismatch phrase missing unused)
  else .ok (unused.map (.definitionIgnored · phrase))

def registerType [StepHost σ H] (definition : Definition) (name : Text) (d : Desk σ) :
    Outcome (Desk σ) Decoder :=
  match definition.compile name with
  | .error failure => (.error failure, d)
  | .ok (type, decoder) =>
    match StepHost.defineType type d.host with
    | .error failure => (.error failure, d)
    | .ok host => (.ok decoder, { d with host }.report [.typeRegistered name type.pattern])

def definitionOf (definitions : Definitions) (name : Text) : Except Failure Definition :=
  match definitions.find? name with
  | some definition => .ok definition
  | none => .error (.keyMissing (.text name))

/-- Registers a type for every placeholder, from left to right, and gives their decoders, each with
its unique name. -/
def registerTypes [StepHost σ H] (definitions : Definitions) :
    List Placeholder → Desk σ → Outcome (Desk σ) (List (Text × Decoder))
  | [], d => (.ok [], d)
  | p :: rest, d =>
    match definitionOf definitions p.name with
    | .error failure => (.error failure, d)
    | .ok definition =>
      match registerType definition p.uniqueName d with
      | (.error failure, d) => (.error failure, d)
      | (.ok decoder, d) =>
        match registerTypes definitions rest d with
        | (.error failure, d) => (.error failure, d)
        | (.ok decoders, d) => (.ok ((p.uniqueName, decoder) :: decoders), d)

def defineExpression [StepHost σ H] (expression : Text) (handler : H) (d : Desk σ) :
    Outcome (Desk σ) Unit :=
  match StepHost.defineStep expression handler d.host with
  | .error failure => (.error failure, d)
  | .ok (host, events) => (.ok (), { d with host }.report events)

def define [StepHost σ H] (r : Registrar) (phrase : Text) (handler : H) (definitions : Definitions)
    (d : Desk σ) : Outcome (Desk σ) Registration :=
  match check r.settings phrase definitions with
  | .error failure => (.error failure, d)
  | .ok ignored =>
    let token := r.tokens d.drawn
    let d := { d with drawn := d.drawn + 1 }.report ignored
    let placeholders := Phrase.placeholders r.settings.separator token phrase
    match registerTypes definitions placeholders d with
    | (.error failure, d) => (.error failure, d)
    | (.ok decoders, d) =>
      match Phrase.rename phrase placeholders with
      | .error failure => (.error failure, d)
      | .ok expression =>
        match defineExpression expression handler d with
        | (.error failure, d) => (.error failure, d)
        | (.ok (), d) =>
          (.ok ⟨phrase, expression, placeholders, .ofPairs decoders⟩,
            d.report [.phraseRegistered phrase expression])

end Registrar

end Phrasebook

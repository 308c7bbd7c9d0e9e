import Phrasebook.Host.Shared
import Phrasebook.Host.Standalone
import Phrasebook.Registrar

/-!
# Sessions

A session registers phrases with one host and looks up what became of them. Each action has an
answer or a failure, and a failed action leaves behind what it had done before it failed.
-/

namespace Phrasebook

abbrev Handler := List Value → Except Failure Value

namespace Handler

def collect : Handler := fun values => .ok (.tuple values)

def labelled (label : Text) : Handler := fun values => .ok (.tuple (.text label :: values))

def first : Handler
  | [] => .error .noArguments
  | value :: _ => .ok value

def failing (name : Text) : Handler := fun values => .error (.handlerFailed name values.length)

/-- The handler of a name, part of which may be a label. Every other name collects. -/
def named (name : Text) : Handler :=
  if name = "first".toList then first
  else
    match "label:".toList.isPrefixOf? name, "raise:".toList.isPrefixOf? name with
    | some label, _ => labelled label
    | none, some name => failing name
    | none, none => collect

end Handler

/-- The host of a session. -/
inductive SessionHost where
  | standalone (host : Standalone Handler)
  | recorder (host : Recorder Handler)
  | shared (host : SharedHost Handler)

namespace SessionHost

def defineType (t : ParameterType) : SessionHost → Except Failure SessionHost
  | standalone host => (StepHost.defineType t host).map standalone
  | recorder host => (StepHost.defineType t host).map recorder
  | shared host => (StepHost.defineType t host).map shared

def defineStep (expression : Text) (handler : Handler) :
    SessionHost → Except Failure (SessionHost × List Event)
  | standalone host =>
    (StepHost.defineStep expression handler host).map fun r => (.standalone r.1, r.2)
  | recorder host =>
    (StepHost.defineStep expression handler host).map fun r => (.recorder r.1, r.2)
  | shared host =>
    (StepHost.defineStep expression handler host).map fun r => (.shared r.1, r.2)

instance : StepHost SessionHost Handler where
  defineType := defineType
  defineStep := defineStep

end SessionHost

inductive Action where
  | defineType (type : ParameterType)
  | registerType (name : Text) (definition : Definition)
  | registerSum (name : Text) (values : List Text)
  | defineExpression (expression : Text) (handler : Handler)
  | definePhrase (phrase : Text) (definitions : Definitions) (handler : Handler)
  /-- With settings of the environment and, on a shared registry, a new host. -/
  | definePhraseAnew (phrase : Text) (definitions : Definitions) (handler : Handler)
  | check (phrase : Text) (definitions : Definitions)
  | find (text : Text)
  | run (text : Text)
  | transform (name text : Text)
  | decode (name : Text) (value : Value)
  | call (step : Int) (values : List Value)
  | state

abbrev TypeEntry := Text × Text × Option Int

inductive HostState where
  | standalone (types converters : List TypeEntry) (steps : List (Text × Text))
  | recorder (types : List TypeEntry) (steps : List Text)
  | shared (known : List Text) (types : List TypeEntry) (steps bad : List Text)

inductive Answer where
  | done
  | registered (registration : Registration)
  | noStep
  | matched (expression : Text) (values : List Value)
  | matchedArguments (arguments : List (Text × Argument))
  | unreadable (failure : Failure)
  | value (value : Value)
  | argument (argument : Argument)
  | undefinedStep
  | calls (values : List Value)
  | state (state : HostState)

/-- A host, how phrases are registered with it, and the decoders of all that was registered. -/
structure Session where
  desk : Desk SessionHost
  registrar : Registrar
  environment : Table Text
  decoders : Table Decoder

namespace Session

def start (host : SessionHost) (registrar : Registrar) (environment : Table Text) : Session :=
  ⟨⟨host, 0, []⟩, registrar, environment, []⟩

/-- A session with the desk that an action leaves, and the answer to its outcome. -/
def settle {α : Type} (s : Session) (outcome : Outcome (Desk SessionHost) α)
    (answer : α → Session → Session × Answer) : Outcome Session Answer :=
  let s := { s with desk := outcome.2 }
  match outcome.1 with
  | .error failure => (.error failure, s)
  | .ok result =>
    let (s, answer) := answer result s
    (.ok answer, s)

def remember (s : Session) (decoders : Table Decoder) : Session :=
  { s with decoders := decoders.foldl (fun t entry => t.put entry.1 entry.2) s.decoders }

def registerType (s : Session) (name : Text) (definition : Definition) : Outcome Session Answer :=
  s.settle (Registrar.registerType definition name s.desk) fun decoder s =>
    (s.remember [(name, decoder)], .done)

def definePhrase (s : Session) (settings : Settings) (desk : Desk SessionHost) (phrase : Text)
    (definitions : Definitions) (handler : Handler) : Outcome Session Answer :=
  let registrar := { s.registrar with settings }
  s.settle (registrar.define phrase handler definitions desk) fun registration s =>
    (s.remember registration.decoders, .registered registration)

/-- A new host on the registry of a shared one; any other host is itself. -/
def newHost : SessionHost → SessionHost
  | .shared host => .shared (.on host.registry)
  | host => host

/-- The first of two hosts with what the second has handed to a shared registry. -/
def withRegistry : SessionHost → SessionHost → SessionHost
  | .shared host, .shared later => .shared { host with registry := later.registry }
  | _, later => later

/-- Registers a phrase with settings of the environment and, on a shared registry, a new host. -/
def definePhraseAnew (s : Session) (phrase : Text) (definitions : Definitions)
    (handler : Handler) : Outcome Session Answer :=
  let desk := { s.desk with host := newHost s.desk.host }
  let (answer, after) : Outcome Session Answer :=
    match Settings.ofEnvironment s.environment with
    | .error failure => (.error failure, { s with desk })
    | .ok settings => s.definePhrase settings desk phrase definitions handler
  let host := withRegistry s.desk.host after.desk.host
  (answer, { after with desk := { after.desk with host } })

def argumentsOf (readings : List (Reading Argument)) : List (Text × Argument) :=
  readings.map fun r => (r.matched, r.value)

def find (host : SessionHost) (text : Text) : Except Failure Answer :=
  match host with
  | .standalone host =>
    (host.find text).map fun
      | some (step, values) => .matched step.expression values
      | none => .noStep
  | .recorder _ => .ok .noStep
  | .shared host =>
    match host.registry.find text with
    | .nothing => .ok .noStep
    | .unreadable failure => .ok (.unreadable failure)
    | .step _ readings => .ok (.matchedArguments (argumentsOf readings))

def run (host : SessionHost) (text : Text) : Except Failure Answer :=
  match host with
  | .standalone host => (host.run text).bind fun outcome => outcome.map .value
  | .recorder _ => .error (.stepUndefined text)
  | .shared host =>
    (host.call text).bind fun
      | some (handler, values) => (handler values).map fun value => .calls [value]
      | none => .ok .undefinedStep

def transform (host : SessionHost) (name text : Text) : Except Failure Answer :=
  match host with
  | .standalone host =>
    match host.types.find? name with
    | some type => (type.transform (.text text)).map .value
    | none => .error (.keyMissing (.text name))
  | .recorder host =>
    match host.type? name with
    | some type => (type.transform (.text text)).map .value
    | none => .error (.keyMissing (.text name))
  | .shared host =>
    match host.registry.types.find? (TypeName.ofName name) with
    | some type => (type.convert (.value (.text text))).map .argument
    | none => .error (.keyMissing (.text name))

def decode (s : Session) (name : Text) (value : Value) : Except Failure Answer :=
  match s.decoders.find? name with
  | some decoder => (decoder.decode value).map .value
  | none => .error (.keyMissing (.text name))

def call (host : SessionHost) (step : Int) (values : List Value) : Except Failure Answer :=
  match host with
  | .recorder host =>
    match (Text.place? host.steps.length step).bind (host.steps[·]?) with
    | some (_, handler) => (handler values).map .value
    | none => .error .captureMissing
  | _ => .error .captureMissing

def typeEntry (t : ParameterType) : TypeEntry := (t.name, t.pattern, t.groups)

def fieldTypeEntries {α : Type} (types : Table (FieldType α)) : List TypeEntry :=
  types.map fun entry => (entry.1, entry.2.pattern, entry.2.groups)

def sorted (names : List Text) : List Text := Sorting.sort Text.atMost names

def stateOf : SessionHost → HostState
  | .standalone host =>
    .standalone (host.types.map fun entry => typeEntry entry.2) (fieldTypeEntries host.converters)
      (host.steps.map fun step => (step.expression, step.template.format))
  | .recorder host => .recorder (host.types.map typeEntry) (host.steps.map (·.1))
  | .shared host =>
    .shared (sorted host.known) (fieldTypeEntries host.registry.types)
      (host.registry.steps.map (·.template.format)) host.registry.bad

def answering (s : Session) (answer : Except Failure Answer) : Outcome Session Answer := (answer, s)

/-- Does what is asked for. The reports of earlier actions are dropped first. -/
def perform (s : Session) (action : Action) : Outcome Session Answer :=
  let s := { s with desk := { s.desk with events := [] } }
  match action with
  | .defineType type =>
    match StepHost.defineType type s.desk.host with
    | .error failure => (.error failure, s)
    | .ok host => (.ok .done, { s with desk := { s.desk with host } })
  | .registerType name definition => s.registerType name definition
  | .registerSum name values =>
    match Choices.ofList? values with
    | some choices => s.registerType name (.sum choices)
    | none => (.error .noFirstValue, s)
  | .defineExpression expression handler =>
    s.settle (Registrar.defineExpression expression handler s.desk) fun _ s => (s, .done)
  | .definePhrase phrase definitions handler =>
    s.definePhrase s.registrar.settings s.desk phrase definitions handler
  | .definePhraseAnew phrase definitions handler => s.definePhraseAnew phrase definitions handler
  | .check phrase definitions =>
    match Registrar.check s.registrar.settings phrase definitions with
    | .error failure => (.error failure, s)
    | .ok events => (.ok .done, { s with desk := s.desk.report events })
  | .find text => s.answering (find s.desk.host text)
  | .run text => s.answering (run s.desk.host text)
  | .transform name text => s.answering (transform s.desk.host name text)
  | .decode name value => s.answering (s.decode name value)
  | .call step values => s.answering (call s.desk.host step values)
  | .state => (.ok (.state (stateOf s.desk.host)), s)

end Session

end Phrasebook

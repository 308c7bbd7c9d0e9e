import Phrasebook.Feature.Ordering
import Phrasebook.Session
import Phrasebook.Proofs.Pattern.Outcomes
import Phrasebook.Proofs.Pattern.Spelling
import Phrasebook.Proofs.Pattern.Generated
import Phrasebook.Proofs.Phrase.Pieces
import Phrasebook.Proofs.Phrase.Renaming
import Phrasebook.Proofs.TypeName
import Phrasebook.Proofs.Format
import Phrasebook.Proofs.Template.Fields
import Phrasebook.Proofs.Template.Pieces
import Phrasebook.Proofs.Template.Splits
import Phrasebook.Proofs.FailedRegistration
import Phrasebook.Proofs.Host.Standalone
import Phrasebook.Proofs.Matching
import Phrasebook.Proofs.Declared
import Phrasebook.Proofs.Phrase.Filling
import Phrasebook.Proofs.RoundTrip
import Phrasebook.Proofs.Pattern.Closing
import Phrasebook.Proofs.Pattern.Passing
import Phrasebook.Proofs.Pattern.Regular
import Phrasebook.Proofs.Pattern.Nesting
import Phrasebook.Proofs.Template.Groups
import Phrasebook.Proofs.Numeral
import Phrasebook.Proofs.Positional
import Phrasebook.Proofs.Host.Shared
import Phrasebook.Proofs.Host.Echo
import Phrasebook.Proofs.Host.Mirrors
import Phrasebook.Proofs.HostsAgree
import Phrasebook.Proofs.WrittenList
import Phrasebook.Proofs.Isolation
import Phrasebook.Proofs.Calls
import Phrasebook.Proofs.Host.Sound
import Phrasebook.Proofs.Acceptance
import Phrasebook.Proofs.Host.Several
import Phrasebook.Proofs.Lookup
import Phrasebook.Proofs.Host.BuiltIns
import Phrasebook.Proofs.Host.Fates
import Phrasebook.Proofs.NamedAlone
import Phrasebook.Proofs.OwnPatterns
import Phrasebook.Proofs.Phrase.Renamed
import Phrasebook.Proofs.Places
import Phrasebook.Proofs.Phrase.Replacing
import Phrasebook.Proofs.WrittenFormat
import Phrasebook.Proofs.Told
import Phrasebook.Proofs.WrittenChoice
import Phrasebook.Proofs.Json.RoundTrip
import Phrasebook.Proofs.ListMeaning
import Phrasebook.Proofs.Refusals
import Phrasebook.Proofs.Phrase.UniqueNames
import Phrasebook.Proofs.Phrase.Occurrences
import Phrasebook.Proofs.DefinitionCheck
import Phrasebook.Proofs.Pattern.Turns
import Phrasebook.Proofs.Pattern.Alongside
import Phrasebook.Proofs.Template.Nested
import Phrasebook.Proofs.Host.Resolved
import Phrasebook.Proofs.Host.Runs
import Phrasebook.Proofs.Host.Lasting
import Phrasebook.Proofs.Quotation
import Phrasebook.Proofs.Pattern.Preference
import Phrasebook.Proofs.Ambiguity
import Phrasebook.Proofs.Feature.Ordering

import Phrasebook.Proofs.Json.RoundTrip
import Phrasebook.Proofs.WrittenChoice
import Phrasebook.Proofs.WrittenList

/-!
# What is reported of refused texts

A text that a sum or a list refuses is reported as a JSON document. Whatever the text holds, the
document can be read back, and then names every piece of the text that is not declared, in order,
and nothing else.
-/

namespace Phrasebook

open ListText (elements split)

def Json.natural? : Json → Option Nat
  | number written => if isDigits written then some (Nat.ofDigitChars 10 written 0) else none
  | _ => none

theorem Json.natural?_decimal (n : Nat) : natural? (number (Text.decimal n)) = some n := by
  rw [natural?, if_pos (isDigits_decimal n), Text.decimal, Nat.ofDigitChars_ten_toDigits]

theorem Json.mapM_natural?_decimal (place : List Nat) :
    (place.map fun i => number (Text.decimal i)).mapM natural? = some place := by
  induction place with
  | nil => rfl
  | cons i place ih =>
    rw [List.map_cons, List.mapM_cons, natural?_decimal, ih]
    rfl

/-- What is said of a refused input: what kind of issue it is, at which place, and the input. -/
structure Finding where
  kind : Text
  place : List Nat
  input : Json

namespace Finding

def ofJson? : Json → Option Finding
  | .object members => do
    let .string kind ← members.lookup "type".toList | none
    let .array place ← members.lookup "loc".toList | none
    let input ← members.lookup "input".toList
    let place ← place.mapM Json.natural?
    return ⟨kind, place, input⟩
  | _ => none

theorem ofJson?_object (kind reason : Text) (place : List Nat) (input : Json)
    (others : List (Text × Json)) :
    ofJson? (.object (Issue.textMember "type" kind ::
      ("loc".toList, .array (place.map fun i => .number (Text.decimal i))) ::
      Issue.textMember "msg" reason :: ("input".toList, input) :: others)) =
        some ⟨kind, place, input⟩ := by
  have hplace := Json.mapM_natural?_decimal place
  simp [ofJson?, Issue.textMember, List.lookup_cons, hplace]

def undeclared (place : List Nat) (t : Text) : Finding := ⟨"literal_error".toList, place, .string t⟩

def tooShort : Finding := ⟨"too_short".toList, [], .array []⟩

end Finding

def Issue.Says (issue : Issue) (finding : Finding) : Prop :=
  issue.toJson.WellWritten ∧ Finding.ofJson? issue.toJson = some finding

theorem Issue.says_undeclared (index? : Option Nat) (choices : Choices) (t : Text) :
    (undeclared index? choices (.text t)).Says (.undeclared index?.toList t) := by
  have hplace : Json.ItemsWellWritten (index?.toList.map fun i => .number (Text.decimal i)) := by
    rw [Json.itemsWellWritten_iff, List.forall_mem_map]
    exact fun i _ => Json.isNumber_decimal i
  exact ⟨⟨trivial, hplace, trivial, trivial, ⟨trivial, trivial⟩, trivial⟩,
    Finding.ofJson?_object _ _ _ _ _⟩

theorem Issue.says_tooShort : tooShort.Says .tooShort :=
  ⟨⟨trivial, trivial, trivial, trivial,
    ⟨trivial, Json.isNumber_decimal 1, Json.isNumber_decimal 0, trivial⟩, trivial⟩,
    Finding.ofJson?_object _ _ [] _ _⟩

/-- A failure of decoding whose message is a JSON array with one entry for every finding, in
order. -/
def Failure.Reports (failure : Failure) (findings : List Finding) : Prop :=
  failure.label = "DecodeError".toList ∧
    ∃ document entries, failure.message? = some ("DecodeError: ".toList ++ document) ∧
      Json.read? document = some (.array entries) ∧
        entries.map Finding.ofJson? = findings.map some

/-- Issues are reported one by one. -/
theorem Failure.reports_of_says {issues : List Issue} {findings : List Finding}
    (h : List.Forall₂ Issue.Says issues findings) : (undecodable issues).Reports findings := by
  have hwell : ∀ entry ∈ issues.map Issue.toJson, entry.WellWritten := by
    intro entry he
    obtain ⟨issue, hi, rfl⟩ := List.mem_map.mp he
    obtain ⟨finding, -, hsays⟩ := exists_right h hi
    exact hsays.1
  have hsaid : (issues.map Issue.toJson).map Finding.ofJson? = findings.map some := by
    rw [List.map_map, ← List.forall₂_eq_eq_eq, List.forall₂_map_left_iff,
      List.forall₂_map_right_iff]
    exact h.imp fun _ _ hsays => hsays.2
  exact ⟨rfl, _, _, rfl, Json.read?_render (Json.itemsWellWritten_iff.mpr hwell), hsaid⟩

/-- What is found in a list text: the pieces that are not declared, each with its place, or that
there is none. -/
def Choices.findings (choices : Choices) (t : Text) : List Finding :=
  if t = [] then [.tooShort]
  else
    ((split t).zipIdx.filter fun found => found.1 ∉ choices.values).map fun found =>
      .undeclared [found.2] found.1

namespace Decoder

/-- There is an issue with every text that is not declared, at its place, and with no other. -/
theorem elementIssues_say (choices : Choices) (pieces : List Text) (index : Nat) :
    List.Forall₂ Issue.Says (elementIssues choices index (pieces.map .text))
      (((pieces.zipIdx index).filter fun found => found.1 ∉ choices.values).map fun found =>
        .undeclared [found.2] found.1) := by
  induction pieces generalizing index with
  | nil => exact .nil
  | cons piece pieces ih =>
    rw [List.map_cons, elementIssues, List.zipIdx_cons]
    by_cases hp : piece ∈ choices.values
    · rw [if_pos (declares_text.mpr hp), List.filter_cons_of_neg (by simpa using hp)]
      exact ih (index + 1)
    · rw [if_neg (mt declares_text.mp hp), List.filter_cons_of_pos (by simpa using hp)]
      exact .cons (Issue.says_undeclared (some index) choices piece) (ih (index + 1))

variable {choices : Choices} {nonEmpty : Bool} {t : Text} {failure : Failure}

/-- A list text is refused for want of elements, or for those that are not declared. -/
theorem decode_list_text_eq_error (h : (list choices nonEmpty).decode (.text t) = .error failure) :
    t = [] ∧ failure = .undecodable [.tooShort] ∨
      t ≠ [] ∧ failure = .undecodable (elementIssues choices 0 ((split t).map .text)) := by
  have helements : elements? (Value.splitListText (.text t)) = some ((elements t).map .text) := rfl
  rw [decode, check, helements] at h
  by_cases ht : t = []
  · subst ht
    cases nonEmpty with
    | true =>
      cases h
      exact .inl ⟨rfl, rfl⟩
    | false => cases h
  · have hsplit : elements t = split t := if_neg (by simpa using ht)
    have hlong : ((split t).map Value.text).isEmpty = false := by
      simpa using ListText.split_ne_nil t
    simp only [hsplit, hlong, Bool.false_and, Bool.false_eq_true, if_false] at h
    cases hissues : elementIssues choices 0 ((split t).map .text) with
    | nil =>
      rw [hissues] at h
      cases h
    | cons issue issues =>
      rw [hissues] at h
      cases h
      exact .inr ⟨ht, rfl⟩

theorem reports_of_decode_list_text (h : (list choices nonEmpty).decode (.text t) = .error failure) :
    failure.Reports (choices.findings t) := by
  rcases decode_list_text_eq_error h with ⟨rfl, rfl⟩ | ⟨ht, rfl⟩
  · exact Failure.reports_of_says (.cons Issue.says_tooShort .nil)
  · rw [Choices.findings, if_neg ht]
    exact Failure.reports_of_says (elementIssues_say choices (split t) 0)

end Decoder

/-- Whatever a refused text holds, the message can be read back as JSON. A sum reports the text. A
list reports that it is too short if the text is empty, and otherwise every piece of the text that
is not declared, each with its place among the pieces, in order. -/
theorem Definition.refusals_reported (choices : Choices) (name : Text) :
    (∃ type decoder, (sum choices).compile name = .ok (type, decoder) ∧
      ∀ t failure, type.transform (.text t) = .error failure →
        failure.Reports [.undeclared [] t]) ∧
    ∀ nonEmpty, ∃ type decoder, (list choices nonEmpty).compile name = .ok (type, decoder) ∧
      ∀ t failure, type.transform (.text t) = .error failure →
        failure.Reports (choices.findings t) := by
  refine ⟨⟨_, _, rfl, fun t failure hf => ?_⟩, fun nonEmpty => ⟨_, _, rfl, fun t failure hf => ?_⟩⟩
  · change (Decoder.choice choices).decode (.text t) = .error failure at hf
    rw [Decoder.decode_choice_text] at hf
    split at hf
    · cases hf
    · cases hf
      exact Failure.reports_of_says (.cons (Issue.says_undeclared none choices t) .nil)
  · exact Decoder.reports_of_decode_list_text hf

/-- Of three pieces the second is declared; the first needs most of what JSON can escape. -/
theorem Definition.refusals_reported_tea :
    ∃ type decoder failure, (list ⟨"tea".toList, []⟩ false).compile ['n'] = .ok (type, decoder) ∧
      type.transform (.text "\"\\\n😀, tea, ".toList) = .error failure ∧
        failure.Reports [.undeclared [0] "\"\\\n😀".toList, .undeclared [2] []] := by
  obtain ⟨type, decoder, hc, hreports⟩ := (refusals_reported ⟨"tea".toList, []⟩ ['n']).2 false
  have hfound : Choices.findings ⟨"tea".toList, []⟩ "\"\\\n😀, tea, ".toList =
      [.undeclared [0] "\"\\\n😀".toList, .undeclared [2] []] := by rfl
  cases hc
  exact ⟨_, _, _, rfl, rfl, hfound ▸ hreports _ _ rfl⟩

end Phrasebook

import Phrasebook.Proofs.Phrase.Renaming

/-!
# Unique names differ

A unique name is a name, a separator, a token and a number, written one after another with nothing
that could not stand in any of them. Read from the end, it still gives back its number, and then its
token if the length of tokens is known. So the unique names of a phrase differ in their numbers, and
those of two registrations in their tokens, whatever the names and the separators are.
-/

namespace Phrasebook

namespace Phrase

variable {separator separator' token token' name name' : Text} {i j : Nat}

/-- With tokens of one length, a unique name leaves open only where the name ends and the separator
begins. -/
theorem uniqueName_eq_iff (hl : token.length = token'.length) :
    uniqueName separator token name i = uniqueName separator' token' name' j ↔
      name ++ separator = name' ++ separator' ∧ token = token' ∧ i = j := by
  constructor
  · intro h
    obtain ⟨hfront, hindex⟩ := append_decimal_injective h
    obtain ⟨hname, htoken⟩ := List.append_inj' hfront hl
    exact ⟨hname, htoken, hindex⟩
  · rintro ⟨hname, rfl, rfl⟩
    rw [uniqueName, uniqueName, hname]

/-- The unique names of a phrase, one for each occurrence that needs a definition. -/
def uniqueNames (separator token phrase : Text) : List Text :=
  (placeholders separator token phrase).map Placeholder.uniqueName

theorem nodup_uniqueNames (separator token phrase : Text) :
    (uniqueNames separator token phrase).Nodup := by
  rw [List.nodup_iff_pairwise_ne, List.pairwise_iff_getElem]
  intro i j hi hj hij he
  simp only [uniqueNames, placeholders, List.getElem_map, List.getElem_mapIdx] at he
  have hsame := index_of_uniqueName he
  omega

theorem exists_of_mem_uniqueNames {phrase unique : Text}
    (h : unique ∈ uniqueNames separator token phrase) :
    ∃ name index, unique = uniqueName separator token name index := by
  obtain ⟨p, hp, rfl⟩ := List.mem_map.mp h
  obtain ⟨-, -, index, hu⟩ := mem_placeholders hp
  exact ⟨p.name, index, hu⟩

/-- One for each occurrence, made of its name, the separator, the token and its number. -/
theorem uniqueNames_eq_mapIdx (separator token phrase : Text) :
    uniqueNames separator token phrase =
      (definedNames phrase).mapIdx fun index name =>
        name ++ separator ++ token ++ '_' :: Text.decimal index := by
  apply List.ext_getElem
  · simp [uniqueNames, placeholders]
  · intro i hi hj
    simp [uniqueNames, placeholders, uniqueName]

/-- A phrase has one unique name for each occurrence that needs a definition: the name, the
separator, the token, an underscore and the number of the occurrence. They are distinct, and none is
a unique name of any phrase under another token of the same length and any separator. -/
theorem uniqueNames_apart (separator token phrase : Text) :
    (uniqueNames separator token phrase =
        (definedNames phrase).mapIdx fun index name =>
          name ++ separator ++ token ++ '_' :: Text.decimal index) ∧
      (uniqueNames separator token phrase).Nodup ∧
      ∀ separator' token' phrase' : Text, token.length = token'.length → token ≠ token' →
        List.Disjoint (uniqueNames separator token phrase)
          (uniqueNames separator' token' phrase') := by
  refine ⟨uniqueNames_eq_mapIdx separator token phrase, nodup_uniqueNames separator token phrase,
    ?_⟩
  intro separator' token' phrase' hl hne unique hu hu'
  obtain ⟨name, i, rfl⟩ := exists_of_mem_uniqueNames hu
  obtain ⟨name', j, he⟩ := exists_of_mem_uniqueNames hu'
  obtain ⟨-, htoken, -⟩ := (uniqueName_eq_iff hl).mp he
  exact hne htoken

/-- Names that hold separators, tokens and numbers, under separators that hold tokens. -/
theorem uniqueNames_apart_lookalikes :
    "ab".toList.length = "ba".toList.length ∧ "ab".toList ≠ "ba".toList ∧
      List.Disjoint
        (uniqueNames "__".toList "ab".toList "{x} {x__ab_0} {x__ba} {x}".toList)
        (uniqueNames "__ab_0__".toList "ba".toList "{x} {} {x__ab}".toList) :=
  ⟨by decide, by decide,
    (uniqueNames_apart "__".toList "ab".toList "{x} {x__ab_0} {x__ba} {x}".toList).2.2
      "__ab_0__".toList "ba".toList "{x} {} {x__ab}".toList (by decide) (by decide)⟩

-- tokens of different lengths may hide in each other's separators
example : uniqueName "__".toList "a".toList "x".toList 0 =
    uniqueName "_".toList "_a".toList "x".toList 0 := by decide

end Phrase

end Phrasebook

import Phrasebook.Text.Basic

/-!
# Tables

A table gives names a value each and keeps them in the order in which they came first. Putting a
value under a name that is there replaces the old value in its place.
-/

namespace Phrasebook

/-- Names with their values, in order. -/
abbrev Table (α : Type) := List (Text × α)

namespace Table

variable {α : Type}

/-- The value under a name. -/
def find? : Table α → Text → Option α
  | [], _ => none
  | (key, value) :: rest, name => if key = name then some value else find? rest name

def has (t : Table α) (name : Text) : Bool := (find? t name).isSome

def names (t : Table α) : List Text := t.map (·.1)

def put : Table α → Text → α → Table α
  | [], name, value => [(name, value)]
  | (key, old) :: rest, name, value =>
    if key = name then (key, value) :: rest else (key, old) :: put rest name value

/-- The table of some names and values, of which a later one replaces an earlier one. -/
def ofPairs (pairs : List (Text × α)) : Table α :=
  pairs.foldl (fun t pair => put t pair.1 pair.2) []

@[simp] theorem find?_put (t : Table α) (name : Text) (value : α) (other : Text) :
    find? (put t name value) other = if name = other then some value else find? t other := by
  induction t with
  | nil => rfl
  | cons entry rest ih =>
    obtain ⟨key, old⟩ := entry
    by_cases hk : key = name
    · by_cases h : name = other <;> simp [put, find?, hk, h]
    · by_cases h : key = other
      · subst h
        simp [put, find?, hk, Ne.symm hk]
      · simp [put, find?, hk, h, ih]

end Table

end Phrasebook

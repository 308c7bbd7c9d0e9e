import Phrasebook.Table

/-!
# What is found in tables

A look-up goes through a table in order, so of two tables in a row it sees the first one first. A
value under a new name is put at the end.
-/

namespace Phrasebook.Table

variable {α β : Type}

theorem find?_append (t u : Table α) (name : Text) :
    find? (t ++ u) name = (find? t name).or (find? u name) := by
  induction t with
  | nil => rfl
  | cons entry t ih =>
    obtain ⟨key, value⟩ := entry
    rw [List.cons_append, find?, find?, ih]
    split
    · rfl
    · rfl

theorem find?_map {f : Text → Text} (hf : ∀ a b, f a = f b → a = b) (g : α → β) (t : Table α)
    (name : Text) : find? (t.map fun e => (f e.1, g e.2)) (f name) = (find? t name).map g := by
  induction t with
  | nil => rfl
  | cons entry t ih =>
    obtain ⟨key, value⟩ := entry
    rw [List.map_cons, find?, find?]
    by_cases h : key = name
    · rw [if_pos h, if_pos (congrArg f h)]
      rfl
    · rw [if_neg h, if_neg fun he => h (hf key name he), ih]

theorem find?_eq_none_iff {t : Table α} {name : Text} : find? t name = none ↔ name ∉ t.names := by
  induction t with
  | nil => simp [find?, names]
  | cons entry t ih =>
    obtain ⟨key, value⟩ := entry
    simp only [names] at ih
    by_cases h : key = name
    · simp [find?, names, h]
    · simp [find?, names, h, Ne.symm h, ih]

theorem has_eq_contains (t : Table α) (name : Text) : t.has name = t.names.contains name := by
  rw [Bool.eq_iff_iff, has, Option.isSome_iff_ne_none, List.contains_iff_mem, ne_eq,
    find?_eq_none_iff, Decidable.not_not]

/-- A table still has what it had when an entry is put, and now also that entry. -/
theorem has_put {t : Table α} {name other : Text} (value : α) (h : t.has other = true ∨ name = other) :
    (t.put name value).has other = true := by
  rw [has, find?_put]
  split
  · rfl
  · next hne => exact h.resolve_right hne

/-- A value that is found stands in the table. -/
theorem mem_of_find? {t : Table α} {name : Text} {value : α} (h : find? t name = some value) :
    (name, value) ∈ t := by
  induction t with
  | nil => cases h
  | cons entry t ih =>
    obtain ⟨key, old⟩ := entry
    rw [find?] at h
    by_cases hkey : key = name
    · rw [if_pos hkey] at h
      cases h
      rw [hkey]
      exact List.mem_cons_self
    · rw [if_neg hkey] at h
      exact List.mem_cons_of_mem _ (ih h)

theorem put_of_not_mem {t : Table α} {name : Text} (h : name ∉ t.names) (value : α) :
    put t name value = t ++ [(name, value)] := by
  induction t with
  | nil => rfl
  | cons entry t ih =>
    obtain ⟨key, old⟩ := entry
    have hkey : key ≠ name := by
      rintro rfl
      exact h (by simp [names])
    have hrest : name ∉ names t := by
      intro hm
      exact h (List.mem_cons_of_mem key hm)
    rw [put, if_neg hkey, ih hrest, List.cons_append]

/-- A value under a new name leaves all names different. -/
theorem nodup_names_append {t : Table α} (ht : t.names.Nodup) {name : Text} (hn : name ∉ t.names)
    (value : α) : (names (t ++ [(name, value)])).Nodup := by
  rw [names, List.map_append, List.map_singleton, List.nodup_append]
  refine ⟨ht, by simp, fun old ho new hnew he => ?_⟩
  rw [he, List.mem_singleton.mp hnew] at ho
  exact hn ho

/-- Pairs of different names are all kept, in their order. -/
theorem ofPairs_eq {pairs : List (Text × α)} (h : (pairs.map (·.1)).Nodup) :
    ofPairs pairs = pairs := by
  have hput : ∀ t : Table α, (names (t ++ pairs)).Nodup →
      pairs.foldl (fun t pair => put t pair.1 pair.2) t = t ++ pairs := by
    clear h
    induction pairs with
    | nil => simp
    | cons pair pairs ih =>
      intro t ht
      have hnew : pair.1 ∉ names t := by
        intro hm
        rw [names, List.map_append] at ht
        exact (List.nodup_append.mp ht).2.2 _ hm pair.1 (by simp) rfl
      rw [List.foldl_cons, put_of_not_mem hnew, ih, List.append_assoc]
      · rfl
      · rwa [List.append_assoc]
  exact hput [] h

end Phrasebook.Table

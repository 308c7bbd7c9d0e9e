import Mathlib.Data.List.Forall2

/-!
# Facts about lists

The first element of some kind, lists that are told apart by a separator or by the lengths of their
blocks, lists that go with each other element by element, and the results of steps that may fail.
-/

namespace Phrasebook

variable {α β : Type}

/-- The first element of some kind, and what stands before and after it. -/
theorem exists_earliest {p : α → Prop} {l : List α} (h : ∃ a, a ∈ l ∧ p a) :
    ∃ earlier a later, l = earlier ++ a :: later ∧ p a ∧ ∀ b ∈ earlier, ¬ p b := by
  classical
  obtain ⟨a, ha, hp⟩ := h
  have hs : (l.find? fun a => decide (p a)).isSome = true :=
    List.find?_isSome.mpr ⟨a, ha, decide_eq_true hp⟩
  obtain ⟨b, hb⟩ := Option.isSome_iff_exists.mp hs
  obtain ⟨hp, earlier, later, rfl, hno⟩ := List.find?_eq_some_iff_append.mp hb
  exact ⟨earlier, b, later, rfl, of_decide_eq_true hp, by simpa using hno⟩

/-- Lists that end at the first occurrence of an element are equal. -/
theorem append_cons_inj {a : α} {l m rest other : List α} (hl : a ∉ l) (hm : a ∉ m)
    (h : l ++ a :: rest = m ++ a :: other) : l = m := by
  induction l generalizing m with
  | nil =>
    cases m with
    | nil => rfl
    | cons c m =>
      have hc : a = c := (List.cons.inj h).1
      exact absurd (hc ▸ List.mem_cons_self) hm
  | cons b l ih =>
    cases m with
    | nil =>
      have hb : b = a := (List.cons.inj h).1
      exact absurd (hb ▸ List.mem_cons_self) hl
    | cons c m =>
      obtain ⟨rfl, hrest⟩ := List.cons.inj h
      rw [ih (fun hi => hl (List.mem_cons_of_mem _ hi)) (fun hi => hm (List.mem_cons_of_mem _ hi))
        hrest]

/-- Where no step changes anything, nothing is changed. -/
theorem foldl_eq_self {f : β → α → β} {b : β} {l : List α} (h : ∀ a ∈ l, f b a = b) :
    l.foldl f b = b := by
  induction l with
  | nil => rfl
  | cons a l ih =>
    rw [List.foldl_cons, h a List.mem_cons_self]
    exact ih fun c hc => h c (List.mem_cons_of_mem _ hc)

theorem lookup_map_snd {γ : Type} [BEq α] (f : β → γ) (a : α) (l : List (α × β)) :
    (l.map fun entry => (entry.1, f entry.2)).lookup a = (l.lookup a).map f := by
  induction l with
  | nil => rfl
  | cons entry l ih =>
    rw [List.map_cons, List.lookup_cons, List.lookup_cons, ih]
    cases a == entry.1 <;> rfl

/-- Blocks of one length, none of them empty, can be told apart. -/
theorem flatMap_injective {f : α → List β} {n : Nat} (hn : 0 < n) (hl : ∀ a, (f a).length = n)
    (hf : ∀ a b, f a = f b → a = b) {l m : List α} (h : l.flatMap f = m.flatMap f) : l = m := by
  have hne : ∀ a rest, f a ++ rest ≠ [] := by
    intro a rest he
    have hz : (f a).length = 0 := by rw [(List.append_eq_nil_iff.mp he).1, List.length_nil]
    rw [hl a] at hz
    omega
  induction l generalizing m with
  | nil =>
    cases m with
    | nil => rfl
    | cons b m => exact absurd h.symm (hne b _)
  | cons a l ih =>
    cases m with
    | nil => exact absurd h (hne a _)
    | cons b m =>
      rw [List.flatMap_cons, List.flatMap_cons] at h
      obtain ⟨hab, hrest⟩ := List.append_inj h (by rw [hl a, hl b])
      rw [hf a b hab, ih hrest]

theorem forall₂_congr {r s : α → β → Prop} {l : List α} {m : List β}
    (h : ∀ a ∈ l, ∀ b, r a b ↔ s a b) : List.Forall₂ r l m ↔ List.Forall₂ s l m := by
  induction l generalizing m with
  | nil => cases m <;> simp
  | cons a l ih =>
    cases m with
    | nil => simp
    | cons b m =>
      rw [List.forall₂_cons, List.forall₂_cons, h a (by simp),
        ih fun c hc => h c (List.mem_cons_of_mem _ hc)]

theorem exists_right {r : α → β → Prop} {l : List α} {m : List β} (h : List.Forall₂ r l m) {a : α}
    (ha : a ∈ l) : ∃ b, b ∈ m ∧ r a b := by
  induction h with
  | nil => cases ha
  | @cons c b l m hcb _ ih =>
    cases List.mem_cons.mp ha with
    | inl he => exact ⟨b, List.mem_cons_self, he ▸ hcb⟩
    | inr hl =>
      obtain ⟨d, hd, hr⟩ := ih hl
      exact ⟨d, List.mem_cons_of_mem _ hd, hr⟩

theorem exists_left {r : α → β → Prop} {l : List α} {m : List β} (h : List.Forall₂ r l m) {b : β}
    (hb : b ∈ m) : ∃ a, a ∈ l ∧ r a b :=
  exists_right (r := fun b a => r a b) h.flip hb

/-- What goes with an element stands at the same place. -/
theorem exists_getElem?_right {r : α → β → Prop} {earlier later : List α} {a : α} {m : List β}
    (h : List.Forall₂ r (earlier ++ a :: later) m) : ∃ b, m[earlier.length]? = some b ∧ r a b := by
  induction earlier generalizing m with
  | nil =>
    cases h with
    | @cons _ b _ m hab _ => exact ⟨b, rfl, hab⟩
  | cons c earlier ih =>
    cases h with
    | @cons _ d _ m _ hrest =>
      obtain ⟨b, hb, hab⟩ := ih hrest
      exact ⟨b, by rw [List.length_cons, List.getElem?_cons_succ, hb], hab⟩

/-- Successful steps give results that go with their inputs. -/
theorem forall₂_of_mapM {ε : Type} {f : α → Except ε β} {l : List α} {m : List β}
    (h : l.mapM f = .ok m) : List.Forall₂ (fun a b => f a = .ok b) l m := by
  induction l generalizing m with
  | nil =>
    cases h
    exact .nil
  | cons a l ih =>
    rw [List.mapM_cons] at h
    cases ha : f a with
    | error failure =>
      rw [ha] at h
      cases h
    | ok b =>
      rw [ha] at h
      cases hl : l.mapM f with
      | error failure =>
        rw [hl] at h
        cases h
      | ok rest =>
        rw [hl] at h
        cases h
        exact .cons ha (ih hl)

/-- Of steps one after another, one has failed if all together have. -/
theorem exists_of_mapM_eq_error {ε : Type} {f : α → Except ε β} {l : List α} {failure : ε}
    (h : l.mapM f = .error failure) : ∃ a, a ∈ l ∧ f a = .error failure := by
  induction l with
  | nil => cases h
  | cons a l ih =>
    rw [List.mapM_cons] at h
    cases ha : f a with
    | error other =>
      rw [ha] at h
      cases h
      exact ⟨a, List.mem_cons_self, ha⟩
    | ok b =>
      rw [ha] at h
      cases hl : l.mapM f with
      | error other =>
        rw [hl] at h
        cases h
        obtain ⟨c, hc, hfailure⟩ := ih hl
        exact ⟨c, List.mem_cons_of_mem a hc, hfailure⟩
      | ok rest =>
        rw [hl] at h
        cases h

theorem exists_of_isOk {ε : Type} {x : Except ε α} (h : x.isOk = true) : ∃ a, x = .ok a := by
  cases x with
  | error failure => cases h
  | ok a => exact ⟨a, rfl⟩

theorem exists_of_map_eq_ok {ε : Type} {f : α → β} {x : Except ε α} {b : β}
    (h : x.map f = .ok b) : ∃ a, x = .ok a ∧ f a = b := by
  cases x with
  | error failure => cases h
  | ok a => exact ⟨a, rfl, Except.ok.inj h⟩

theorem eq_error_of_map {ε : Type} {f : α → β} {x : Except ε α} {failure : ε}
    (h : x.map f = .error failure) : x = .error failure := by
  cases x with
  | error other => exact congrArg Except.error (Except.error.inj h)
  | ok a => cases h

end Phrasebook

import Phrasebook.Pattern.Basic

/-!
# The outcomes of a pattern

`Pattern.run` hands the places that a pattern can reach, one after another, to what has to follow.
Here these places are a list, in order of preference, and a run is the search of that list: nothing
that a pattern can do is left out, and nothing is tried before what is preferred to it.
-/

namespace Phrasebook.Pattern

abbrev Outcomes := Spot → List Spot

def outcomesTimes (f : Outcomes) : Nat → Outcomes
  | 0, s => [s]
  | n + 1, s => (f s).flatMap (outcomesTimes f n)

/-- The places after at most `n` repetitions, those after more of them first. -/
def outcomesAtMost (f : Outcomes) : Nat → Outcomes
  | 0, s => [s]
  | n + 1, s =>
    (f s).flatMap (fun t => if t.after.length < s.after.length then outcomesAtMost f n t else [t])
      ++ [s]

/-- The places after at most `n` repetitions, those after fewer of them first. -/
def outcomesAsFew (f : Outcomes) : Nat → Outcomes
  | 0, s => [s]
  | n + 1, s =>
    s :: (f s).flatMap fun t => if t.after.length < s.after.length then outcomesAsFew f n t else [t]

def outcomes : Pattern → Outcomes
  | empty, s => [s]
  | one set, s => (s.advance? set).toList
  | anchor place, s => if s.satisfies place then [s] else []
  | seq first second, s => (first.outcomes s).flatMap second.outcomes
  | alt left right, s => left.outcomes s ++ right.outcomes s
  | loop least most? .most body, s =>
    (outcomesTimes body.outcomes least s).flatMap fun t =>
      outcomesAtMost body.outcomes (spare least most? t) t
  | loop least most? .fewest body, s =>
    (outcomesTimes body.outcomes least s).flatMap fun t =>
      outcomesAsFew body.outcomes (spare least most? t) t
  | group number body, s => (body.outcomes s).map (·.remember number s)
  | again number ignoreCase, s =>
    ((s.capture? number).bind fun taken => s.repeated? ignoreCase taken.text).toList
  | look back? negated body, s =>
    let found :=
      (match back? with | some n => s.back? n | none => some s).bind (body.outcomes · |>.head?)
    match found, negated with
    | some t, false => [{ s with captures := t.captures }]
    | none, true => [s]
    | _, _ => []
  | atomic body, s => (body.outcomes s).head?.toList
  | given number present absent, s =>
    if (s.capture? number).isSome then present.outcomes s else absent.outcomes s

/-- A trial that searches a list of places. -/
def Searches (trial : Trial) (f : Outcomes) : Prop := ∀ s k, trial s k = (f s).findSome? k

theorem findSome?_flatMap {α β γ : Type} (l : List α) (f : α → List β) (k : β → Option γ) :
    (l.flatMap f).findSome? k = l.findSome? fun a => (f a).findSome? k := by
  induction l with
  | nil => rfl
  | cons a l ih =>
    rw [List.flatMap_cons, List.findSome?_append, ih, List.findSome?_cons]
    cases (f a).findSome? k <;> rfl

theorem findSome?_some {α : Type} (l : List α) : l.findSome? some = l.head? := by
  cases l <;> rfl

theorem findSome?_toList {α β : Type} (o : Option α) (k : α → Option β) :
    o.toList.findSome? k = o.bind k := by
  cases o with
  | none => rfl
  | some a => simp

theorem searches_times {trial : Trial} {f : Outcomes} (h : Searches trial f) (n : Nat) :
    Searches (times trial n) (outcomesTimes f n) := by
  intro s k
  induction n generalizing s k with
  | zero => simp [times, outcomesTimes]
  | succ n ih => simp only [times, outcomesTimes, h s, findSome?_flatMap, ih]

/-- What a repetition does after its body: once more, or no more if the body took nothing. -/
theorem findSome?_repeated (f : Outcomes) (s : Spot) (next : Outcomes) (k : Follow) :
    ((f s).flatMap fun t => if t.after.length < s.after.length then next t else [t]).findSome? k =
      (f s).findSome? fun t =>
        if t.after.length < s.after.length then (next t).findSome? k else k t := by
  rw [findSome?_flatMap]
  congr 1
  funext t
  split <;> simp

theorem searches_atMost {trial : Trial} {f : Outcomes} (h : Searches trial f) (n : Nat) :
    Searches (atMost trial n) (outcomesAtMost f n) := by
  intro s k
  induction n generalizing s k with
  | zero => simp [atMost, outcomesAtMost]
  | succ n ih =>
    rw [atMost, outcomesAtMost, List.findSome?_append, findSome?_repeated, h s]
    simp only [ih]
    cases (f s).findSome? _ <;> simp

theorem searches_asFew {trial : Trial} {f : Outcomes} (h : Searches trial f) (n : Nat) :
    Searches (asFew trial n) (outcomesAsFew f n) := by
  intro s k
  induction n generalizing s k with
  | zero => simp [asFew, outcomesAsFew]
  | succ n ih =>
    rw [asFew, outcomesAsFew, List.findSome?_cons, findSome?_repeated, h s]
    simp only [ih]
    cases k s <;> simp

/-- A run searches the outcomes of its pattern for the first from which one can go on. -/
theorem run_eq_findSome? (p : Pattern) : Searches p.run p.outcomes := by
  induction p with
  | empty => intro s k; simp [run, outcomes]
  | one set => intro s k; rw [run, outcomes, findSome?_toList]
  | anchor place =>
    intro s k
    rw [run, outcomes]
    split <;> simp
  | seq first second ihf ihs =>
    intro s k
    rw [run, outcomes, ihf s, findSome?_flatMap]
    congr 1
    funext t
    exact ihs t k
  | alt left right ihl ihr =>
    intro s k
    rw [run, outcomes, List.findSome?_append, ihl s, ihr s]
    cases (left.outcomes s).findSome? k <;> rfl
  | loop least most? preference body ih =>
    intro s k
    cases preference with
    | most =>
      rw [run, outcomes, searches_times ih least s, findSome?_flatMap]
      congr 1
      funext t
      exact searches_atMost ih _ t k
    | fewest =>
      rw [run, outcomes, searches_times ih least s, findSome?_flatMap]
      congr 1
      funext t
      exact searches_asFew ih _ t k
  | group number body ih =>
    intro s k
    rw [run, outcomes, ih s, List.findSome?_map]
    rfl
  | again number ignoreCase =>
    intro s k
    rw [run, outcomes, findSome?_toList]
    cases s.capture? number <;> rfl
  | look back? negated body ih =>
    intro s k
    have hb : (fun t => body.run t some) = fun t => (body.outcomes t).head? := by
      funext t
      rw [ih t, findSome?_some]
    simp only [run, outcomes, hb]
    cases (match back? with | some n => s.back? n | none => some s).bind _ <;> cases negated <;> simp
  | atomic body ih =>
    intro s k
    rw [run, outcomes, ih s, findSome?_some, findSome?_toList]
  | given number present absent ihp iha =>
    intro s k
    rw [run, outcomes]
    split
    · exact ihp s k
    · exact iha s k

/-- The first match is the preferred outcome from the beginning of the text. -/
theorem match?_eq_head? (p : Pattern) (t : Text) :
    p.match? t = (p.outcomes (Spot.ofText t)).head? := by
  rw [match?, run_eq_findSome? p, findSome?_some]

/-- A pattern can take a whole text if one of its outcomes leaves nothing. -/
theorem takes_iff (p : Pattern) (t : Text) :
    p.takes t = true ↔ ∃ s ∈ p.outcomes (Spot.ofText t), s.after = [] := by
  rw [takes, run_eq_findSome? p, List.findSome?_isSome_iff]
  constructor
  · rintro ⟨s, hs, h⟩
    refine ⟨s, hs, ?_⟩
    by_cases he : s.after.isEmpty = true
    · exact List.isEmpty_iff.mp he
    · simp [he] at h
  · rintro ⟨s, hs, h⟩
    exact ⟨s, hs, by simp [h]⟩

end Phrasebook.Pattern

import Phrasebook.Template

/-!
# Patterns that begin with certain characters

Where a pattern begins with certain characters, a text that begins with others is not taken, whatever
comes behind them.
-/

namespace Phrasebook

namespace Pattern

/-- Whether a text that begins with these characters might be taken, as far as the pattern begins
with single characters itself. -/
def admits : Pattern → Text → Bool
  | seq (anchor _) rest, t => rest.admits t
  | seq (one set) rest, c :: t => set.has c && rest.admits t
  | _, _ => true

theorem run_of_not_admits {p : Pattern} {opening : Text} (h : p.admits opening = false) {s : Spot}
    {more : Text} (hs : s.after = opening ++ more) (k : Follow) : p.run s k = none := by
  fun_induction admits p opening generalizing s with
  | case1 place rest t ih =>
    rw [run, run]
    split
    · exact ih h hs
    · rfl
  | case2 set rest c t ih =>
    have hadvance : s.advance? set =
        if set.has c then some { s with before := c :: s.before, after := t ++ more } else none := by
      rw [Spot.advance?, hs]
      rfl
    rw [run, run, hadvance]
    split
    · next hc =>
      rw [hc, Bool.true_and] at h
      exact ih h rfl
    · rfl
  | case3 => cases h

end Pattern

/-- Whether the template is known not to take a text that begins with these characters. -/
def Template.bars {α : Type} (t : Template α) (opening : Text) : Bool :=
  match t.compiled with
  | .ok (p, _) => !p.admits opening
  | .error _ => false

/-- It reads nothing in such a text. -/
theorem Template.read_of_bars {α : Type} {t : Template α} {opening : Text} (h : t.bars opening = true)
    (inject : Option Text → α) (more : Text) : t.read inject (opening ++ more) = .ok none := by
  rw [bars] at h
  rw [read]
  split at h
  · next p groups hc =>
    have hnone : p.match? (opening ++ more) = none :=
      Pattern.run_of_not_admits (by simpa using h) rfl some
    rw [hc]
    simp only [hnone]
  · cases h

end Phrasebook

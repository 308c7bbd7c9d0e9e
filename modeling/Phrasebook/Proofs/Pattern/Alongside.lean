import Phrasebook.Proofs.Pattern.Turns

/-!
# Patterns within others, whatever they hold

Any pattern that can be read on its own can be tried within another, in a silent group. It may have
flaws there that it does not have on its own, as when it refers to groups by number or gives names
that are given already. If it has none, it is closed by the parenthesis after it, and it has as many
groups as on its own, all with numbers beyond those before it.
-/

namespace Phrasebook.Pattern

/-- The reader `R` has come from `base` by the turns by which `r` has come from a start. -/
structure Reader.Alongside (base r R : Reader) (fs : List Frame) : Prop where
  frames : R.top :: R.outer = fs ++ base.top :: base.outer
  verbose : fs.map (·.flags.verbose) = (r.top :: r.outer).map (·.flags.verbose)
  between : ∀ f ∈ fs, f.Between base.opened R.opened
  opened : R.opened = r.opened + base.opened

namespace Reader.Alongside

variable {base r next R Next : Reader} {fs : List Frame}

theorem exists_top (h : base.Alongside r R fs) :
    ∃ gs, fs = R.top :: gs ∧ R.outer = gs ++ base.top :: base.outer ∧
      R.top.flags.verbose = r.top.flags.verbose ∧
      gs.map (·.flags.verbose) = r.outer.map (·.flags.verbose) := by
  have hverbose := h.verbose
  have hframes := h.frames
  cases fs with
  | nil => cases hverbose
  | cons f gs =>
    obtain ⟨rfl, houter⟩ := List.cons.inj hframes
    obtain ⟨htop, hgs⟩ := List.cons.inj hverbose
    exact ⟨gs, rfl, houter, htop, hgs⟩

/-- The same turn leaves the readers alongside each other. -/
theorem turn (h : base.Alongside r R fs) {turn : Turn} (ht : r.Turns next turn)
    (hT : R.Turns Next turn) : ∃ fs, base.Alongside next Next fs := by
  obtain ⟨gs, rfl, houter, htop, hgs⟩ := h.exists_top
  have hbetween : ∀ g ∈ gs, g.Between base.opened R.opened :=
    fun g hg => h.between g (by simp [hg])
  cases turn with
  | stay =>
    obtain ⟨ho, hopened, hverbose, -⟩ := ht
    obtain ⟨hO, hOpened, hVerbose, hkept⟩ := hT
    refine ⟨Next.top :: gs, by rw [hO, houter]; rfl, ?_, fun f hf => ?_, ?_⟩
    · rw [ho, List.map_cons, List.map_cons, hgs, hVerbose, htop, hverbose]
    · cases List.mem_cons.mp hf with
      | inl he => exact he ▸ hkept _ _ (hOpened ▸ h.between R.top (by simp))
      | inr hg => exact hOpened ▸ hbetween f hg
    · rw [hOpened, h.opened, hopened]
  | enter numbered verbose =>
    obtain ⟨ho, hopened, hverbose, -⟩ := ht
    obtain ⟨hO, hOpened, hVerbose, hnew⟩ := hT
    refine ⟨Next.top :: R.top :: gs, by rw [hO, houter]; rfl, ?_, fun f hf => ?_, ?_⟩
    · rw [ho, List.map_cons, h.verbose, hVerbose, ← hverbose]
      rfl
    · cases List.mem_cons.mp hf with
      | inl he =>
        have hle := h.opened
        exact he ▸ hnew _ _ (by omega) (Nat.le_refl _)
      | inr hg => exact (h.between f hg).mono (by omega)
    · have hle := h.opened
      omega
  | leave =>
    obtain ⟨around, item, ho, hopened, hnext, -⟩ := ht
    obtain ⟨Around, Item', hO, hOpened, hNext, hitem⟩ := hT
    rw [ho] at hgs
    cases gs with
    | nil => cases hgs
    | cons g gs =>
      rw [houter, List.cons_append] at hO
      obtain ⟨rfl, hOuter⟩ := List.cons.inj hO
      obtain ⟨hg, hrest⟩ := List.cons.inj hgs
      refine ⟨Next.top :: gs, by rw [← hOuter]; rfl, ?_, fun f hf => ?_, ?_⟩
      · rw [List.map_cons, List.map_cons, hrest, hNext, hnext]
        exact congrArg (· :: _) hg
      · cases List.mem_cons.mp hf with
        | inl he =>
          rw [he, hNext, hOpened]
          exact (hbetween g (by simp)).push (hitem _ _ (h.between R.top (by simp)))
        | inr hm => exact hOpened ▸ hbetween f (by simp [hm])
      · rw [hOpened, h.opened, hopened]

end Reader.Alongside

/-- What reading without a flaw begins with. -/
theorem exists_of_readFrom {r : Reader} {c : Char} {rest : Text} {found : Pattern × Nat}
    (h : readFrom r (c :: rest) = .ok found) :
    ∃ next after, readStep r c rest = .ok (next, after) ∧ readFrom next after = .ok found := by
  rw [readFrom] at h
  split at h
  · cases h
  · next next after hstep =>
    split at h
    · exact ⟨next, after, hstep, h⟩
    · cases h

/-- Whether blanks are left out of the whole pattern is settled before any turn. -/
theorem Reader.Turns.bottom {r next : Reader} {turn : Turn} (h : r.Turns next turn) :
    next.bottom.flags.verbose = r.bottom.flags.verbose := by
  cases turn with
  | stay =>
    obtain ⟨ho, -, hverbose, -⟩ := h
    rw [Reader.bottom, Reader.bottom, ho]
    cases r.outer.getLast? with
    | none => exact hverbose
    | some f => rfl
  | enter numbered verbose =>
    obtain ⟨ho, -⟩ := h
    rw [Reader.bottom, Reader.bottom, ho, List.getLast?_cons]
    rfl
  | leave =>
    obtain ⟨around, item, ho, -, hnext, -⟩ := h
    rw [Reader.bottom, Reader.bottom, ho, List.getLast?_cons, Option.getD_some, hnext]
    cases next.outer.getLast? with
    | none => rfl
    | some f => rfl

/-- Where one reader comes to the end of its text without a flaw, the other one comes to the
parenthesis after it, if it finds no flaw either. The induction is on the steps of the first one. -/
theorem exists_alongside {base r R : Reader} {fs : List Frame} {t rest : Text} {p : Pattern} {n : Nat}
    {found : Pattern × Nat} (ha : base.Alongside r R fs) (hb : r.bottom.flags.verbose = false)
    (h : readFrom r t = .ok (p, n)) (H : readFrom R (t ++ ')' :: rest) = .ok found) :
    ∃ r' R' fs', r'.outer = [] ∧ r'.opened = n ∧ base.Alongside r' R' fs' ∧
      readFrom R' (')' :: rest) = .ok found := by
  induction r, t using readFrom.induct generalizing R fs with
  | case1 r =>
    rw [readFrom] at h
    obtain ⟨ho, -, hn⟩ := Reader.finish_eq_ok h
    exact ⟨r, R, fs, ho, hn, ha, H⟩
  | case2 r c u fault hstep =>
    rw [readFrom, hstep] at h
    cases h
  | case3 r c u next after hstep hl ih =>
    rw [readFrom_cons hstep hl] at h
    obtain ⟨Next, After, hStep, H⟩ := exists_of_readFrom H
    obtain ⟨gs, -, houter, hverbose, -⟩ := ha.exists_top
    have ho : R.outer ≠ [] := by simp [houter]
    -- A remark that reaches the end of the text would leave its group open.
    have hend : after = [] → next = r → r.top.flags.verbose = false := by
      rintro rfl rfl
      rw [readFrom] at h
      rwa [Reader.bottom, (Reader.finish_eq_ok h).1] at hb
    obtain ⟨rfl, turn, hturn, hTurn⟩ :=
      inStep_of_readStep (show Closing (')' :: rest) from rfl) hverbose ho hend hstep hStep
    obtain ⟨fs', hnext⟩ := ha.turn hturn hTurn
    exact ih hnext (hturn.bottom.trans hb) h H
  | case4 r c u next after hstep hl =>
    rw [readFrom, hstep] at h
    simp only [if_neg hl] at h
    cases h

/-- In front of anything but a question mark or a plus sign, the text adds items with `n` groups of
their own, unless reading it or what follows comes upon a flaw. -/
def Nests (w : Text) (n : Nat) : Prop :=
  ∀ (r : Reader) (rest : Text) (found : Pattern × Nat), r.top.flags = .stepText →
    Unquantified rest → readFrom r (w ++ rest) = .ok found →
      ∃ items r', r'.top = (r.add items).top ∧ r'.outer = r.outer ∧ r'.opened = r.opened + n ∧
        (row items).Between r.opened (r.opened + n) ∧ readFrom r' rest = .ok found

theorem Gains.nests {w : Text} {n : Nat} {fits : Nat → Pattern → Prop} (h : Gains w [] n fits) :
    Nests w n := by
  intro r rest found hf hu H
  obtain ⟨items, closed, names, hread, -, hbetween, -⟩ := h r rest hf hu (.nil r)
  rw [hread] at H
  exact ⟨items, { r.add items with opened := r.opened + n, closed, names := names ++ r.names }, rfl,
    rfl, rfl, hbetween, H⟩

theorem exists_of_readFrom_closing {r : Reader} {around : Frame} {outer : List Frame}
    (ho : r.outer = around :: outer) {rest : Text} {found : Pattern × Nat}
    (h : readFrom r (')' :: rest) = .ok found) : readFrom (r.leave around outer) rest = .ok found := by
  obtain ⟨next, after, hstep, hrest⟩ := exists_of_readFrom h
  rw [readStep_closing, ho] at hstep
  cases hstep
  exact hrest

/-- A pattern in a silent group adds an item, and as many groups as it has on its own. -/
theorem nests_of_read {flags : Flags} (hf : flags.verbose = false) {w : Text} {p : Pattern} {n : Nat}
    (h : read flags w = .ok (p, n)) : Nests ("(?:".toList ++ w ++ [')']) n := by
  intro r rest found hr _ H
  have hw : "(?:".toList ++ w ++ [')'] ++ rest = '(' :: '?' :: ':' :: (w ++ ')' :: rest) := by simp
  rw [hw, readFrom_enter hr] at H
  have hstart : r.Alongside (.start flags) (r.enter .plain ((w ++ ')' :: rest).length + 3) .stepText)
      [⟨.plain, (w ++ ')' :: rest).length + 3, .stepText, [], []⟩] := by
    refine ⟨rfl, ?_, fun f hfs => ?_, (Nat.zero_add _).symm⟩
    · exact congrArg (fun verbose => [verbose]) hf.symm
    · rw [List.mem_singleton.mp hfs]
      exact ⟨nofun, .new⟩
  obtain ⟨r', R', fs, houter, hopened, halong, H⟩ := exists_alongside hstart hf h (hr ▸ H)
  obtain ⟨gs, rfl, hOuter, -, hgs⟩ := halong.exists_top
  rw [houter] at hgs
  obtain rfl : gs = [] := List.map_eq_nil_iff.mp hgs
  have hturn : R'.Turns (R'.leave r.top r.outer) .leave := Reader.turns_leave hOuter
  obtain ⟨around, item, hframes, hleft, htop, hitem⟩ := hturn
  have hframe : around = r.top ∧ (R'.leave r.top r.outer).outer = r.outer := by
    rw [hOuter] at hframes
    obtain ⟨he, hrest⟩ := List.cons.inj hframes
    exact ⟨he.symm, hrest.symm⟩
  obtain ⟨rfl, hrest⟩ := hframe
  have htotal : R'.opened = r.opened + n := by rw [halong.opened, hopened, Nat.add_comm]
  have hbetween := hitem _ _ (halong.between R'.top (by simp))
  rw [htotal] at hbetween
  exact ⟨[item], _, htop, hrest, hleft.trans htotal, ⟨hbetween, trivial⟩,
    exists_of_readFrom_closing hOuter H⟩

/-- A group with a number around such a text. -/
theorem Nests.group {w : Text} {n : Nat} (h : Nests w n) (hq : w.head? ≠ some '?') {r : Reader}
    (hf : r.top.flags = .stepText) {rest : Text} {found : Pattern × Nat}
    (H : readFrom r ('(' :: w ++ ')' :: rest) = .ok found) :
    ∃ body r', r'.top = (r.add [⟨.ordinary, .group (r.opened + 1) body⟩]).top ∧
      r'.outer = r.outer ∧ r'.opened = r.opened + 1 + n ∧
      body.Between (r.opened + 1) (r.opened + 1 + n) ∧
      readFrom r' rest = .ok found := by
  have hhead : (w ++ ')' :: rest).head? ≠ some '?' := by
    cases w with
    | nil => simp
    | cons c w => simpa using hq
  have hclose : Unquantified (')' :: rest) := ⟨by decide, by decide⟩
  rw [List.cons_append, readFrom_enterGroup hf hhead] at H
  obtain ⟨items, r', htop, houter, hopened, hbetween, H⟩ :=
    h (r.enterGroup ((w ++ ')' :: rest).length + 1)) (')' :: rest) found hf hclose H
  have hpattern : r'.top.pattern = row items := by
    rw [htop]
    simp [Reader.add, Reader.enterGroup, Reader.enter, Frame.pattern, sequence_reverse]
  have hopening : r'.top.opening = .group (r.opened + 1) := by
    rw [htop]
    rfl
  refine ⟨row items, r'.leave r.top r.outer, ?_, ?_, ?_, hbetween,
    exists_of_readFrom_closing houter H⟩
  · simp [Reader.leave, hopening, hpattern, Reader.push, Reader.add]
  · simp [Reader.leave, hopening, Reader.push]
  · have hleft : (r'.leave r.top r.outer).opened = r'.opened := by
      simp [Reader.leave, hopening, Reader.push]
    exact hleft.trans hopened

end Phrasebook.Pattern

import Phrasebook.Proofs.Pattern.Nesting

/-!
# Reading one text twice

Two readers may read one text under different flags, with different groups open around it and
different numbers and names given before. What they take it for need not be the same, and one may
find a flaw where the other finds none. But where both find none, they open and close groups at the
same places: which place that is depends on nothing but the text and on whether blanks are left out.
-/

namespace Phrasebook.Pattern

/-- What a step of reading does to the groups that are open. -/
inductive Turn where
  /-- Goes on within the innermost one. -/
  | stay
  /-- Opens one, with a number or without, in which blanks are left out or not. -/
  | enter (numbered verbose : Bool)
  /-- Closes the innermost one. -/
  | leave

/-- All groups in the frame have numbers beyond `k` up to `l`, and so has its own if it is one. -/
structure Frame.Between (k l : Nat) (f : Frame) : Prop where
  number : ∀ number, f.opening = .group number → k < number ∧ number ≤ l
  holds : f.Holds (Pattern.Between k l)

def Reader.Turns (r next : Reader) : Turn → Prop
  | .stay => next.outer = r.outer ∧ next.opened = r.opened ∧
      next.top.flags.verbose = r.top.flags.verbose ∧
      ∀ k l, r.top.Between k l → next.top.Between k l
  | .enter numbered verbose => next.outer = r.top :: r.outer ∧
      next.opened = r.opened + numbered.toNat ∧ next.top.flags.verbose = verbose ∧
      ∀ k l, k ≤ r.opened → next.opened ≤ l → next.top.Between k l
  | .leave => ∃ around item, r.outer = around :: next.outer ∧ next.opened = r.opened ∧
      next.top = { around with items := item :: around.items } ∧
      ∀ k l, r.top.Between k l → item.pattern.Between k l

namespace Frame.Between

variable {k l : Nat} {f : Frame}

theorem mono {l' : Nat} (h : f.Between k l) (hl : l ≤ l') : f.Between k l' :=
  ⟨fun number ho => ⟨(h.number number ho).1, Nat.le_trans (h.number number ho).2 hl⟩,
    h.holds.imp fun _ hp => hp.mono (Nat.le_refl k) hl⟩

theorem push (h : f.Between k l) {item : Item} (hi : item.pattern.Between k l) :
    Frame.Between k l { f with items := item :: f.items } := ⟨h.number, h.holds.push hi⟩

theorem pattern (h : f.Between k l) : f.pattern.Between k l :=
  h.holds.pattern (composes_between k l)

theorem givenBody (h : f.Between k l) (number : Nat) :
    (Reader.givenBody number f).Between k l := by
  obtain ⟨present, absent, he, hp, ha⟩ := h.holds.givenBody (composes_between k l) number
  rw [he]
  exact ⟨hp, ha⟩

end Frame.Between

namespace Reader

variable {r next : Reader}

theorem turns_push (r : Reader) (kind : ItemKind) (p : Pattern) (h : ∀ k l, p.Between k l) :
    r.Turns (r.push kind p) .stay :=
  ⟨rfl, rfl, rfl, fun k l hb => hb.push (h k l)⟩

theorem turns_pushSet (r : Reader) (ranges : List CharRange) (negated : Bool) :
    r.Turns (r.pushSet ranges negated) .stay := turns_push r .ordinary _ fun _ _ => trivial

theorem turns_pushAnchor (r : Reader) (place : Anchor) : r.Turns (r.pushAnchor place) .stay :=
  turns_push r .anchor _ fun _ _ => trivial

theorem turns_pushAgain (r : Reader) (number : Nat) (ignoreCase : Bool) :
    r.Turns (r.push .ordinary (.again number ignoreCase)) .stay :=
  turns_push r .ordinary _ fun _ _ => trivial

theorem turns_self (r : Reader) : r.Turns r .stay := ⟨rfl, rfl, rfl, fun _ _ h => h⟩

theorem turns_branch (r : Reader) : r.Turns r.branch .stay :=
  ⟨rfl, rfl, rfl, fun k l hb => ⟨hb.number, hb.holds.branch (composes_between k l)⟩⟩

theorem turns_move {e least : Nat} {most? : Option Nat} {manner : Manner}
    (h : r.move? e (.repeated least most? manner) = some next) : r.Turns next .stay := by
  obtain ⟨p, items, hi, rfl⟩ := exists_ordinary_of_move? h
  refine ⟨rfl, rfl, rfl, fun k l hb => ⟨hb.number, ?_⟩⟩
  exact hb.holds.repeated hi fun hp => manner.between_loop hp least most?

/-- A group without a number is opened. -/
theorem turns_enter {opening : Opening} (ho : ∀ number, opening ≠ .group number) (fromEnd : Nat)
    (flags : Flags) : r.Turns (r.enter opening fromEnd flags) (.enter false flags.verbose) :=
  ⟨rfl, rfl, rfl, fun _ _ _ _ => ⟨fun number he => absurd he (ho number), .new⟩⟩

/-- A group with a number is opened, and perhaps with a name. -/
theorem turns_enterGroup (r : Reader) (names : List (Text × Nat)) (fromEnd : Nat) :
    r.Turns ({ r with names }.enterGroup fromEnd) (.enter true r.top.flags.verbose) := by
  refine ⟨rfl, rfl, rfl, fun k l hk hl => ⟨fun number he => ?_, .new⟩⟩
  cases he
  exact ⟨Nat.lt_succ_of_le hk, hl⟩

/-- Closing a group of any kind adds what it holds to the one around it. -/
theorem turns_leave {around : Frame} {outer : List Frame} (ho : r.outer = around :: outer) :
    r.Turns (r.leave around outer) .leave := by
  have hadds : ∀ (rest : Reader) (p : Pattern), rest.top = around → rest.outer = outer →
      rest.opened = r.opened → (∀ k l, r.top.Between k l → p.Between k l) →
        r.Turns (rest.push .ordinary p) .leave := by
    rintro rest p rfl rfl hopened hp
    exact ⟨rest.top, ⟨.ordinary, p⟩, ho, hopened, rfl, hp⟩
  simp only [leave]
  split
  · exact hadds _ _ rfl rfl rfl fun k l hb => hb.pattern
  · next number he => exact hadds _ _ rfl rfl rfl fun k l hb => ⟨hb.number number he, hb.pattern⟩
  · exact hadds _ _ rfl rfl rfl fun k l hb => hb.pattern
  · exact hadds _ _ rfl rfl rfl fun k l hb => hb.pattern
  · exact hadds _ _ rfl rfl rfl fun k l hb => hb.pattern
  · next number he => exact hadds _ _ rfl rfl rfl fun k l hb => hb.givenBody number

end Reader

/-- Two readers have taken the same turn, and the second has left what the first has left, and
more. -/
def InStep (r next R Next : Reader) (after After more : Text) : Prop :=
  After = after ++ more ∧ ∃ turn, r.Turns next turn ∧ R.Turns Next turn

section

variable {r next R Next : Reader} {rest after After more : Text}

theorem inStep_stay (h : r.Turns next .stay) (H : R.Turns Next .stay) (ha : After = after ++ more) :
    InStep r next R Next after After more := ⟨ha, .stay, h, H⟩

theorem inStep_set (hm : Closing more) (h : readSet r rest = .ok (next, after))
    (H : readSet R (rest ++ more) = .ok (Next, After)) : InStep r next R Next after After more := by
  obtain ⟨ranges, negated, rfl, hall⟩ := exists_set_of_readSet h
  rw [hall R more hm] at H
  cases H
  exact inStep_stay (r.turns_pushSet ..) (R.turns_pushSet ..) rfl

/-- What is written after a quantifier is the same for both, and so is where it ends. -/
theorem inStep_quantify (hm : Closing more) {fromEnd fromEnd' least : Nat} {most? : Option Nat}
    (h : quantify r fromEnd least most? rest = .ok (next, after))
    (H : quantify R fromEnd' least most? (rest ++ more) = .ok (Next, After)) :
    InStep r next R Next after After more := by
  obtain ⟨manner, hmove, hall⟩ := exists_repeated h
  obtain ⟨manner', -, -, hmove'⟩ := exists_manner H
  obtain ⟨p, items, hi, -⟩ := exists_ordinary_of_move? (hmove' 0)
  have hmoves : R.move? 0 (.repeated least most? manner) = some ({ R with
      top := { R.top with items } }.push .repeated (manner.loop least most? p)) := by
    simp [Reader.move?, hi]
  rw [hall R _ more 0 fromEnd' hm hmoves] at H
  cases H
  exact inStep_stay (Reader.turns_move (hmove 0)) (Reader.turns_move hmoves) rfl

theorem inStep_brace (hm : Closing more) (h : readBrace r rest = .ok (next, after))
    (H : readBrace R (rest ++ more) = .ok (Next, After)) : InStep r next R Next after After more := by
  rw [readBrace, readBounds?_append hm] at H
  rw [readBrace] at h
  cases hb : readBounds? rest with
  | none =>
    rw [hb] at h H
    cases h
    cases H
    exact inStep_stay (r.turns_pushSet ..) (R.turns_pushSet ..) rfl
  | some found =>
    obtain ⟨leastDigits, mostDigits, tail⟩ := found
    rw [hb] at h H
    simp only [Option.map_some] at h H
    generalize (if mostDigits.isEmpty = true then none else some (numberIn 10 mostDigits)) =
      most? at h H
    split at h
    · cases h
    · next hlarge =>
      split at h
      · cases h
      · next hreversed =>
        rw [if_neg hlarge, if_neg hreversed] at H
        exact inStep_quantify hm h H

theorem turns_of_refer {number digits : Nat} (h : refer r number digits rest = .ok (next, after)) :
    r.Turns next .stay ∧ after = rest := by
  rw [refer] at h
  split at h
  · cases h
  · split at h
    · cases h
    · split at h
      · cases h
      · cases h
        exact ⟨r.turns_pushAgain .., rfl⟩

/-- What refers to a group refers to a group of the same number for whoever reads it. -/
theorem exists_refer {c : Char} (h : refers c rest = true) :
    ∃ number digits tail, ∀ (R : Reader) (more : Text), Closing more →
      digitEscape R c (rest ++ more) = refer R number digits (tail ++ more) := by
  have hclosing : Text.isAsciiDigit ')' = false := rfl
  have hoctal : isOctalDigit ')' = false := rfl
  match rest, h with
  | [], _ =>
    refine ⟨numberIn 10 [c], 1, [], fun R more hm => ?_⟩
    cases more with
    | nil => rfl
    | cons d more =>
      have hd : d = ')' := hm
      simp [digitEscape, hd, hclosing]
  | [second], _ =>
    by_cases hs : Text.isAsciiDigit second = true
    · refine ⟨numberIn 10 [c, second], 2, [], fun R more hm => ?_⟩
      cases more with
      | nil => simp [digitEscape, hs]
      | cons d more =>
        have hd : d = ')' := hm
        simp [digitEscape, hs, hd, hoctal]
    · exact ⟨numberIn 10 [c], 1, [second], fun R more _ => by simp [digitEscape, hs]⟩
  | second :: third :: rest', h =>
    have hno : (isOctalDigit c && isOctalDigit second && isOctalDigit third) = false := by
      simpa only [refers, Bool.not_eq_true'] using h
    by_cases hs : Text.isAsciiDigit second = true
    · refine ⟨numberIn 10 [c, second], 2, third :: rest', fun R more _ => ?_⟩
      simp [digitEscape, hs, hno]
    · exact ⟨numberIn 10 [c], 1, second :: third :: rest', fun R more _ => by simp [digitEscape, hs]⟩

/-- A digit begins no escape but that of a number. -/
theorem readEscape_of_digit {c : Char} (hd : Text.isAsciiDigit c = true) (hz : c ≠ '0') (R : Reader)
    (t : Text) : readEscape R c t = digitEscape R c t := by
  have hletters : ∀ d ∈ "AZbBdDsSwWafnrtvxuUN".toList, Text.isAsciiDigit d ≠ true :=
    List.forall_iff_forall_mem.mp (by decide)
  have hne : ∀ d ∈ "AZbBdDsSwWafnrtvxuUN".toList, c ≠ d := fun d hm he => hletters d hm (he ▸ hd)
  simp only [String.reduceToList, List.mem_cons, List.not_mem_nil, or_false, forall_eq_or_imp,
    forall_eq] at hne
  simp [readEscape, anchorEscape?, classEscape?, controlEscape?, codeEscape?, hne, hz, hd]

theorem inStep_escape (hm : Closing more) {c : Char} (h : readEscape r c rest = .ok (next, after))
    (H : readEscape R c (rest ++ more) = .ok (Next, After)) : InStep r next R Next after After more := by
  by_cases hregular : isRegularAt ('\\' :: c :: rest) = true
  · obtain ⟨ranges, rfl, hall⟩ := exists_set_of_escape hregular h
    rw [hall R more hm] at H
    cases H
    exact inStep_stay (r.turns_pushSet ..) (R.turns_pushSet ..) rfl
  · cases hanchor : anchorEscape? c false with
    | some place =>
      have hplace : ∀ ascii, ∃ place, anchorEscape? c ascii = some place := by
        intro ascii
        refine Option.ne_none_iff_exists'.mp fun hno => ?_
        cases ascii with
        | false => rw [hno] at hanchor; cases hanchor
        | true =>
          have hfalse : anchorEscape? c false = none := by
            simp only [anchorEscape?] at hno ⊢
            grind
          rw [hfalse] at hanchor
          cases hanchor
      obtain ⟨p, hp⟩ := hplace r.top.flags.ascii
      obtain ⟨P, hP⟩ := hplace R.top.flags.ascii
      simp only [readEscape, hp] at h
      simp only [readEscape, hP] at H
      cases h
      cases H
      exact inStep_stay (r.turns_pushAnchor p) (R.turns_pushAnchor P) rfl
    | none =>
      have hrefers : Text.isAsciiDigit c = true ∧ c ≠ '0' ∧ refers c rest = true := by
        simpa [isRegularAt, hanchor, and_assoc] using hregular
      obtain ⟨hd, hz, hr⟩ := hrefers
      obtain ⟨number, digits, tail, hall⟩ := exists_refer hr
      have hfirst := hall r [] trivial
      rw [List.append_nil, List.append_nil] at hfirst
      rw [readEscape_of_digit hd hz, hfirst] at h
      rw [readEscape_of_digit hd hz, hall R more hm] at H
      obtain ⟨hturn, rfl⟩ := turns_of_refer h
      obtain ⟨hTurn, rfl⟩ := turns_of_refer H
      exact inStep_stay hturn hTurn rfl

/-- Groups that switch flags for their body. Flags for the whole pattern are a flaw for a reader that
has a group open. -/
theorem inStep_flags (hv : R.top.flags.verbose = r.top.flags.verbose) (ho : R.outer ≠ [])
    {fromEnd fromEnd' : Nat} (h : readFlags r fromEnd rest = .ok (next, after))
    (H : readFlags R fromEnd' (rest ++ more) = .ok (Next, After)) :
    InStep r next R Next after After more := by
  cases hon : readFlagsOn .off rest with
  | error fault =>
    simp only [readFlags, hon, bind, Except.bind] at h
    cases h
  | ok found =>
    by_cases hs : found.2.1 = ')'
    · obtain ⟨on, stop, tail⟩ := found
      have houter : R.outer.isEmpty = false := by
        cases hR : R.outer with
        | nil => exact absurd hR ho
        | cons around outer => rfl
      obtain rfl : stop = ')' := hs
      simp only [readFlags, readFlagsOn_append hon more, bind, Except.bind, ↓reduceIte, houter,
        Bool.false_and, Bool.false_eq_true] at H
      cases H
    · obtain ⟨on, off, rfl, hall⟩ := exists_switch_of_readFlags hon hs h
      rw [hall R more fromEnd'] at H
      cases H
      have hflags : (R.top.flags.switch on off).verbose = (r.top.flags.switch on off).verbose := by
        simp only [Flags.switch, hv]
      have hturn : R.Turns (R.enter .plain fromEnd' (R.top.flags.switch on off)) (.enter false _) :=
        Reader.turns_enter (by simp) _ _
      rw [hflags] at hturn
      exact ⟨rfl, _, Reader.turns_enter (by simp) _ _, hturn⟩

theorem inStep_namedGroup (hv : R.top.flags.verbose = r.top.flags.verbose)
    {fromEnd fromEnd' : Nat} (h : readNamedGroup r fromEnd rest = .ok (next, after))
    (H : readNamedGroup R fromEnd' (rest ++ more) = .ok (Next, After)) :
    InStep r next R Next after After more := by
  cases hn : nameUntil '>' "group name".toList rest with
  | error fault =>
    simp only [readNamedGroup, hn, bind, Except.bind] at h
    cases h
  | ok found =>
    obtain ⟨name, tail⟩ := found
    have hN := nameUntil_append (by decide) hn more
    simp only [readNamedGroup, hn, bind, Except.bind] at h
    simp only [readNamedGroup, hN, bind, Except.bind] at H
    split at h
    · cases h
    · next hname =>
      rw [if_neg hname] at H
      split at h
      · cases h
      · split at H
        · cases H
        · cases h
          cases H
          have hturn := R.turns_enterGroup ((name, R.opened + 1) :: R.names) fromEnd'
          rw [hv] at hturn
          exact ⟨rfl, _, r.turns_enterGroup _ fromEnd, hturn⟩

theorem turns_of_namedReference {name tail : Text}
    (hn : nameUntil ')' "group name".toList rest = .ok (name, tail))
    (h : readNamedReference r rest = .ok (next, after)) : r.Turns next .stay ∧ after = tail := by
  simp only [readNamedReference, hn, bind, Except.bind] at h
  split at h
  · cases h
  · split at h
    · cases h
    · split at h
      · cases h
      · split at h
        · cases h
        · cases h
          exact ⟨r.turns_pushAgain .., rfl⟩

theorem inStep_namedReference (h : readNamedReference r rest = .ok (next, after))
    (H : readNamedReference R (rest ++ more) = .ok (Next, After)) :
    InStep r next R Next after After more := by
  cases hn : nameUntil ')' "group name".toList rest with
  | error fault =>
    simp only [readNamedReference, hn, bind, Except.bind] at h
    cases h
  | ok found =>
    obtain ⟨hturn, rfl⟩ := turns_of_namedReference hn h
    obtain ⟨hTurn, rfl⟩ := turns_of_namedReference (nameUntil_append (by decide) hn more) H
    exact inStep_stay hturn hTurn rfl

/-- A condition opens a group, by whatever it asks for. -/
theorem turns_of_condition {fromEnd : Nat} {name tail : Text}
    (hn : nameUntil ')' "group name".toList rest = .ok (name, tail))
    (h : readCondition r fromEnd rest = .ok (next, after)) :
    r.Turns next (.enter false r.top.flags.verbose) ∧ after = tail := by
  have hturn : ∀ number, r.Turns (r.enter (.given number) fromEnd r.top.flags)
      (.enter false r.top.flags.verbose) :=
    fun number => Reader.turns_enter (by simp) fromEnd r.top.flags
  simp only [readCondition, hn, bind, Except.bind] at h
  split at h
  · split at h
    · cases h
    · split at h
      · cases h
      · cases h
        exact ⟨hturn _, rfl⟩
  · split at h
    · split at h
      · cases h
      · split at h
        · cases h
        · cases h
          exact ⟨hturn _, rfl⟩
    · cases h

theorem inStep_condition (hv : R.top.flags.verbose = r.top.flags.verbose) {fromEnd fromEnd' : Nat}
    (h : readCondition r fromEnd rest = .ok (next, after))
    (H : readCondition R fromEnd' (rest ++ more) = .ok (Next, After)) :
    InStep r next R Next after After more := by
  cases hn : nameUntil ')' "group name".toList rest with
  | error fault =>
    simp only [readCondition, hn, bind, Except.bind] at h
    cases h
  | ok found =>
    obtain ⟨hturn, rfl⟩ := turns_of_condition hn h
    obtain ⟨hTurn, rfl⟩ := turns_of_condition (nameUntil_append (by decide) hn more) H
    exact ⟨rfl, _, hturn, hv ▸ hTurn⟩

/-- Both open a group without a number that keeps the flags. -/
theorem inStep_enter (hv : R.top.flags.verbose = r.top.flags.verbose) {opening opening' : Opening}
    (ho : ∀ number, opening ≠ .group number) (ho' : ∀ number, opening' ≠ .group number)
    (fromEnd fromEnd' : Nat) :
    InStep r (r.enter opening fromEnd r.top.flags) R (R.enter opening' fromEnd' R.top.flags) after
      (after ++ more) more := by
  have hturn := Reader.turns_enter (r := R) ho' fromEnd' R.top.flags
  rw [hv] at hturn
  exact ⟨rfl, _, Reader.turns_enter ho fromEnd r.top.flags, hturn⟩

/-- What a question mark after an opening parenthesis introduces is decided by what follows it. -/
theorem inStep_extension (hv : R.top.flags.verbose = r.top.flags.verbose) (ho : R.outer ≠ [])
    {fromEnd fromEnd' : Nat} (h : readExtension r fromEnd rest = .ok (next, after))
    (H : readExtension R fromEnd' (rest ++ more) = .ok (Next, After)) :
    InStep r next R Next after After more := by
  unfold readExtension at h
  split at h
  · cases h
  · exact inStep_namedGroup hv h H
  · exact inStep_namedReference h H
  · cases h
  · cases h
  · cases h
    cases H
    exact inStep_enter hv (by simp) (by simp) _ _
  · next tail =>
    split at h
    · next hcomment =>
      cases h
      simp only [List.cons_append, readExtension, afterComment?_append hcomment more] at H
      cases H
      exact inStep_stay r.turns_self R.turns_self rfl
    · cases h
  · cases h
    cases H
    exact inStep_enter hv (by simp) (by simp) _ _
  · cases h
    cases H
    exact inStep_enter hv (by simp) (by simp) _ _
  · cases h
    cases H
    exact inStep_enter hv (by simp) (by simp) _ _
  · cases h
    cases H
    exact inStep_enter hv (by simp) (by simp) _ _
  · cases h
  · cases h
  · exact inStep_condition hv h H
  · cases h
    cases H
    exact inStep_enter hv (by simp) (by simp) _ _
  · split at h
    · next hflag =>
      rw [List.cons_append, readExtension_of_flag hflag] at H
      exact inStep_flags hv ho h H
    · cases h

theorem readStep_opening (R : Reader) {t : Text} (ht : t.head? ≠ some '?') :
    readStep R '(' t = .ok (R.enterGroup (t.length + 1), t) := by
  cases t with
  | nil => simp [readStep, Text.isAsciiBlank]
  | cons d t =>
    have hd : d ≠ '?' := fun hd => ht (by simp [hd])
    simp [readStep, Text.isAsciiBlank, hd]

theorem inStep_parenthesis (hm : Closing more) (hv : R.top.flags.verbose = r.top.flags.verbose)
    (ho : R.outer ≠ []) (h : readStep r '(' rest = .ok (next, after))
    (H : readStep R '(' (rest ++ more) = .ok (Next, After)) :
    InStep r next R Next after After more := by
  by_cases hq : rest.head? = some '?'
  · obtain ⟨t, rfl⟩ := List.head?_eq_some_iff.mp hq
    have hstep : ∀ (R : Reader) (t : Text),
        readStep R '(' ('?' :: t) = readExtension R (t.length + 2) t := by
      intro R t
      simp [readStep, Text.isAsciiBlank]
    rw [hstep] at h
    rw [List.cons_append, hstep] at H
    exact inStep_extension hv ho h H
  · have hq' : (rest ++ more).head? ≠ some '?' := by
      cases rest with
      | nil => exact hm.head?_ne (by decide)
      | cons d rest => exact hq
    rw [readStep_opening r hq] at h
    rw [readStep_opening R hq'] at H
    cases h
    cases H
    have hturn := R.turns_enterGroup R.names ((rest ++ more).length + 1)
    rw [hv] at hturn
    exact ⟨rfl, _, r.turns_enterGroup r.names _, hturn⟩

theorem turns_of_bar (h : readStep r '|' rest = .ok (next, after)) :
    r.Turns next .stay ∧ after = rest := by
  simp only [readStep, Text.isAsciiBlank] at h
  split at h
  · next hblank => simp at hblank
  · split at h
    · next hremark => simp at hremark
    · split at h
      · cases h
      · cases h
        exact ⟨r.turns_branch, rfl⟩

theorem turns_of_closing (h : readStep r ')' rest = .ok (next, after)) :
    r.Turns next .leave ∧ after = rest := by
  rw [readStep_closing] at h
  split at h
  · cases h
  · next ho =>
    cases h
    exact ⟨Reader.turns_leave ho, rfl⟩

theorem turns_of_anchor {c : Char} (hc : c = '^' ∨ c = '$')
    (h : readStep r c rest = .ok (next, after)) : r.Turns next .stay ∧ after = rest := by
  obtain ⟨place, hstep⟩ : ∃ place, readStep r c rest = .ok (r.pushAnchor place, rest) := by
    rcases hc with rfl | rfl
    · exact ⟨.start r.top.flags.multiline, by simp [readStep, Text.isAsciiBlank]⟩
    · exact ⟨.lineFinish r.top.flags.multiline, by simp [readStep, Text.isAsciiBlank]⟩
  rw [hstep] at h
  cases h
  exact ⟨r.turns_pushAnchor place, rfl⟩

theorem turns_of_dot (h : readStep r '.' rest = .ok (next, after)) :
    r.Turns next .stay ∧ after = rest := by
  have hstep : readStep r '.' rest =
      .ok (r.push .ordinary (.one (if r.top.flags.dotAll then .all else .withinLine)), rest) := by
    simp [readStep, Text.isAsciiBlank]
  rw [hstep] at h
  cases h
  exact ⟨r.turns_push .ordinary _ fun _ _ => trivial, rfl⟩

theorem inStep_meta (hm : Closing more) (hv : R.top.flags.verbose = r.top.flags.verbose)
    (ho : R.outer ≠ []) {c : Char} (hc : c ∈ metaChars)
    (h : readStep r c rest = .ok (next, after))
    (H : readStep R c (rest ++ more) = .ok (Next, After)) :
    InStep r next R Next after After more := by
  have hset : ∀ (R : Reader) (t : Text), readStep R '[' t = readSet R t := by
    intro R t
    simp [readStep, Text.isAsciiBlank]
  have hbrace : ∀ (R : Reader) (t : Text), readStep R '{' t = readBrace R t := by
    intro R t
    simp [readStep, Text.isAsciiBlank]
  have hquantifier : ∀ bounds, bounds? c = some bounds → InStep r next R Next after After more := by
    intro bounds hb
    rw [readStep_quantifier _ hb] at h H
    exact inStep_quantify hm h H
  have hstays : r.Turns next .stay ∧ after = rest → R.Turns Next .stay ∧ After = rest ++ more →
      InStep r next R Next after After more := by
    rintro ⟨hturn, rfl⟩ ⟨hTurn, rfl⟩
    exact inStep_stay hturn hTurn rfl
  simp only [metaChars, List.mem_cons, List.not_mem_nil, or_false] at hc
  rcases hc with rfl | rfl | rfl | rfl | rfl | rfl | rfl | rfl | rfl | rfl | rfl | rfl
  · cases rest with
    | nil =>
      have hflaw : readStep r '\\' [] = flawAt .escapeAtEnd 1 := by
        simp [readStep, Text.isAsciiBlank]
      rw [hflaw] at h
      cases h
    | cons letter rest =>
      rw [readStep_backslash] at h
      rw [List.cons_append, readStep_backslash] at H
      exact inStep_escape hm h H
  · rw [hset] at h H
    exact inStep_set hm h H
  · exact hquantifier _ rfl
  · exact hquantifier _ rfl
  · exact hquantifier _ rfl
  · rw [hbrace] at h H
    exact inStep_brace hm h H
  · exact hstays (turns_of_dot h) (turns_of_dot H)
  · exact inStep_parenthesis hm hv ho h H
  · obtain ⟨hturn, rfl⟩ := turns_of_closing h
    obtain ⟨hTurn, rfl⟩ := turns_of_closing H
    exact ⟨rfl, _, hturn, hTurn⟩
  · exact hstays (turns_of_bar h) (turns_of_bar H)
  · exact hstays (turns_of_anchor (.inl rfl) h) (turns_of_anchor (.inl rfl) H)
  · exact hstays (turns_of_anchor (.inr rfl) h) (turns_of_anchor (.inr rfl) H)

/-- What is left out where blanks are, up to the end of the line. It may not be the end of the first
text, as the second reader would leave out more. -/
theorem inStep_remark (hv : R.top.flags.verbose = r.top.flags.verbose)
    (hverbose : r.top.flags.verbose = true)
    (hend : after = [] → next = r → r.top.flags.verbose = false)
    (h : readStep r '#' rest = .ok (next, after))
    (H : readStep R '#' (rest ++ more) = .ok (Next, After)) :
    InStep r next R Next after After more := by
  have hstep : ∀ (R : Reader) (t : Text), R.top.flags.verbose = true →
      readStep R '#' t = .ok (R, (t.dropWhile (· ≠ '\n')).drop 1) := by
    intro R t hf
    simp [readStep, Text.isAsciiBlank, hf]
  rw [hstep r rest hverbose] at h
  rw [hstep R _ (hv.trans hverbose)] at H
  cases h
  cases H
  refine inStep_stay r.turns_self R.turns_self ?_
  cases hline : rest.dropWhile (· ≠ '\n') with
  | nil =>
    rw [hline] at hend
    rw [hend rfl rfl] at hverbose
    cases hverbose
  | cons d line =>
    rw [List.dropWhile_append, hline]
    rfl

/-- Two readers that both find no flaw take the same turn. -/
theorem inStep_of_readStep (hm : Closing more) (hv : R.top.flags.verbose = r.top.flags.verbose)
    (ho : R.outer ≠ []) (hend : after = [] → next = r → r.top.flags.verbose = false) {c : Char}
    (h : readStep r c rest = .ok (next, after))
    (H : readStep R c (rest ++ more) = .ok (Next, After)) :
    InStep r next R Next after After more := by
  by_cases hmeta : c ∈ metaChars
  · exact inStep_meta hm hv ho hmeta h H
  · have hplain : (r.top.flags.verbose = true → Text.isAsciiBlank c = false ∧ c ≠ '#') →
        InStep r next R Next after After more := by
      intro hc
      rw [readStep_of_not_meta hc hmeta] at h
      rw [readStep_of_not_meta (by rwa [hv]) hmeta] at H
      cases h
      cases H
      exact inStep_stay (r.turns_pushSet ..) (R.turns_pushSet ..) rfl
    cases hverbose : r.top.flags.verbose with
    | false => exact hplain fun ht => absurd (hverbose.symm.trans ht) (by decide)
    | true =>
      cases hb : Text.isAsciiBlank c with
      | true =>
        have hstep : ∀ (R : Reader) (t : Text), R.top.flags.verbose = true →
            readStep R c t = .ok (R, t) := by
          intro R t hf
          simp [readStep, hb, hf]
        rw [hstep r rest hverbose] at h
        rw [hstep R _ (hv.trans hverbose)] at H
        cases h
        cases H
        exact inStep_stay r.turns_self R.turns_self rfl
      | false =>
        by_cases hsign : c = '#'
        · subst hsign
          exact inStep_remark hv hverbose hend h H
        · exact hplain fun _ => ⟨hb, hsign⟩

end

end Phrasebook.Pattern

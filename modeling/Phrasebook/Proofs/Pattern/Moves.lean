import Phrasebook.Proofs.Pattern.Closing
import Phrasebook.Proofs.Pattern.Regular

/-!
# Moves of the reader

Each step of reading a portable pattern is one of a few moves of the reader. Which move it is depends
on the flags of the innermost group and on the characters that it begins with, but neither on what
was read before nor on what stands behind a closing parenthesis. Some moves need more than others:
what refers to a group needs one with that name.
-/

namespace Phrasebook.Pattern

/-- How a repetition is tried: as often as possible, as rarely as possible, or as often as possible
and never less often afterwards. -/
inductive Manner where
  | most
  | fewest
  | kept

def Manner.loop (least : Nat) (most? : Option Nat) (p : Pattern) : Manner → Pattern
  | most => .loop least most? .most p
  | fewest => .loop least most? .fewest p
  | kept => .atomic (.loop least most? .most (.atomic p))

def Manner.written : Manner → Text
  | most => []
  | fewest => ['?']
  | kept => ['+']

/-- What the reader of a portable pattern does in one step. -/
inductive Move where
  /-- Adds a part that takes one character. -/
  | take (set : CharSet)
  /-- Repeats the last part. -/
  | repeated (least : Nat) (most? : Option Nat) (manner : Manner)
  /-- Opens a group with a number. -/
  | enter
  /-- Opens a silent group. -/
  | silent (flags : Flags)
  /-- Closes the innermost group. -/
  | leave
  /-- Begins the next alternative. -/
  | branch
  /-- Leaves out a comment or a blank. -/
  | skip
  /-- Adds a reference to the group with a name. -/
  | again (name : Text)
  /-- Opens a condition on the group with a name. -/
  | given (name : Text)

/-- Whether the group is a condition that has both its branches. -/
def Frame.isFull (f : Frame) : Bool :=
  match f.opening, f.finished with
  | .given _, _ :: _ => true
  | _, _ => false

/-- The number of the group with a name, if it may be referred to at this place. -/
def Reader.known? (r : Reader) (name : Text) : Option Nat :=
  (r.names.lookup name).bind fun number =>
    if (r.lookBehindFlaw? number).isNone then some number else none

/-- The reader after a move at some distance before the end, if it can make the move. -/
def Reader.move? (r : Reader) (fromEnd : Nat) : Move → Option Reader
  | .take set => some (r.push .ordinary (.one set))
  | .repeated least most? manner =>
    match r.top.items with
    | ⟨.ordinary, p⟩ :: items =>
      some ({ r with top := { r.top with items } }.push .repeated (manner.loop least most? p))
    | _ => none
  | .enter => some (r.enterGroup fromEnd)
  | .silent flags => some (r.enter .plain fromEnd flags)
  | .leave =>
    match r.outer with
    | [] => none
    | around :: outer => some (r.leave around outer)
  | .branch => if r.top.isFull then none else some r.branch
  | .skip => some r
  | .again name =>
    (r.known? name).bind fun number =>
      if (r.closed.lookup number).isSome then
        some (r.push .ordinary (.again number r.top.flags.ignoreCase))
      else none
  | .given name =>
    (r.known? name).map fun number => r.enter (.given number) fromEnd r.top.flags

/-- Whoever reads the character with these flags makes the move, if the move can be made, whatever
comes after the text in front of a closing parenthesis. -/
def Makes (flags : Flags) (c : Char) (rest : Text) (m : Move) (after : Text) : Prop :=
  ∀ (r next : Reader) (more : Text), r.top.flags = flags → Closing more →
    r.move? ((rest ++ more).length + 1) m = some next →
      readStep r c (rest ++ more) = .ok (next, after ++ more)

variable {r next : Reader} {rest after : Text}

theorem isAsciiDigit_of_isOctalDigit {c : Char} (h : isOctalDigit c = true) :
    Text.isAsciiDigit c = true := by
  simp only [isOctalDigit, Text.isAsciiDigit, Bool.and_eq_true, decide_eq_true_eq] at h ⊢
  exact ⟨h.1, Char.le_trans h.2 (by decide)⟩

/-- Three octal digits give a character, if they are not too large. -/
theorem exists_octal_of_not_refers {c : Char} (h : refers c rest = false) :
    ∃ second third rest', rest = second :: third :: rest' ∧
      ∀ (R : Reader) (more : Text), digitEscape R c (rest ++ more) =
        if 0o377 < numberIn 8 [c, second, third] then
          flawAt (.octalTooLarge ['\\', c, second, third]) ((rest' ++ more).length + 4)
        else .ok (R.pushCode (numberIn 8 [c, second, third]), rest' ++ more) := by
  match rest, h with
  | second :: third :: rest', h =>
    rw [refers, Bool.not_eq_false'] at h
    have hsecond : Text.isAsciiDigit second = true := by
      simp only [Bool.and_eq_true] at h
      exact isAsciiDigit_of_isOctalDigit h.1.2
    refine ⟨second, third, rest', rfl, fun R more => ?_⟩
    simp only [List.cons_append, digitEscape, if_pos hsecond, if_pos h]

/-- Which letters name positions does not depend on flags. -/
theorem anchorEscape?_eq_none {c : Char} (h : anchorEscape? c false = none) (ascii : Bool) :
    anchorEscape? c ascii = none := by
  cases ascii with
  | false => exact h
  | true =>
    simp only [anchorEscape?] at h ⊢
    split at h
    · cases h
    · split at h
      · cases h
      · split at h
        · cases h
        · simp_all

/-- An escape of a portable pattern gives a set of characters. -/
theorem exists_set_of_escape {c : Char} (hc : isRegularAt ('\\' :: c :: rest) = true)
    (h : readEscape r c rest = .ok (next, after)) :
    ∃ ranges, next = r.pushSet ranges false ∧
      ∀ (R : Reader) (more : Text), Closing more →
        readEscape R c (rest ++ more) = .ok (R.pushSet ranges false, after ++ more) := by
  rw [isRegularAt, Bool.and_eq_true, Option.isNone_iff_eq_none] at hc
  obtain ⟨hanchor, hdigit⟩ := hc
  have hanchor' : ∀ R : Reader, anchorEscape? c R.top.flags.ascii = none :=
    fun R => anchorEscape?_eq_none hanchor _
  simp only [readEscape, hanchor' r] at h
  split at h
  · next cls hcls =>
    cases h
    refine ⟨[cls], rfl, fun R more _ => ?_⟩
    simp only [readEscape, hanchor' R, hcls]
  · next hcls =>
    split at h
    · next code hcontrol =>
      cases h
      refine ⟨[.single code], rfl, fun R more _ => ?_⟩
      simp only [readEscape, hanchor' R, hcls, hcontrol]
      rfl
    · next hcontrol =>
      split at h
      · next read hread =>
        cases read with
        | error fault => cases h
        | ok found =>
          cases h
          refine ⟨[.single found.1], rfl, fun R more hm => ?_⟩
          simp only [readEscape, hanchor' R, hcls, hcontrol, codeEscape?_append hm hread]
          rfl
      · next hread =>
        have hlater : ∀ (R : Reader) (more : Text),
            readEscape R c (rest ++ more) =
              if c = '0' then
                .ok (R.pushCode (numberIn 8 (upTo 2 isOctalDigit (rest ++ more)).1),
                  (upTo 2 isOctalDigit (rest ++ more)).2)
              else if Text.isAsciiDigit c then digitEscape R c (rest ++ more)
              else if Text.isAsciiLetter c then
                flawAt (.badEscape ['\\', c]) ((rest ++ more).length + 2)
              else .ok (R.pushCode c.toNat, rest ++ more) := by
          intro R more
          simp only [readEscape, hanchor' R, hcls, hcontrol,
            codeEscape?_eq_none_append hread more]
        split at h
        · next hzero =>
          cases h
          refine ⟨[.single (numberIn 8 (upTo 2 isOctalDigit rest).1)], rfl, fun R more hm => ?_⟩
          rw [hlater R more, if_pos hzero, upTo_append hm rfl]
          rfl
        · next hzero =>
          split at h
          · next hd =>
            have hoctal : refers c rest = false := by simpa [hd, hzero] using hdigit
            obtain ⟨second, third, rest', rfl, heq⟩ := exists_octal_of_not_refers hoctal
            have hr := heq r []
            rw [List.append_nil, List.append_nil] at hr
            rw [hr] at h
            split at h
            · cases h
            · next hlarge =>
              cases h
              refine ⟨[.single (numberIn 8 [c, second, third])], rfl, fun R more _ => ?_⟩
              rw [hlater R more, if_neg hzero, if_pos hd, heq R more, if_neg hlarge]
              rfl
          · next hd =>
            split at h
            · cases h
            · next hl =>
              cases h
              refine ⟨[.single c.toNat], rfl, fun R more _ => ?_⟩
              rw [hlater R more, if_neg hzero, if_neg hd, if_neg hl]
              rfl

theorem exists_ordinary_of_move? {e least : Nat} {most? : Option Nat} {manner : Manner}
    (h : r.move? e (.repeated least most? manner) = some next) :
    ∃ p items, r.top.items = ⟨.ordinary, p⟩ :: items ∧
      next = { r with top := { r.top with items } }.push .repeated
        (manner.loop least most? p) := by
  simp only [Reader.move?] at h
  split at h
  · next p items hi =>
    cases h
    exact ⟨p, items, hi, rfl⟩
  · cases h

/-- A quantifier repeats the last item, in the manner that is written after it. -/
theorem quantify_eq {e fromEnd least : Nat} {most? : Option Nat} {manner : Manner}
    (h : r.move? e (.repeated least most? manner) = some next)
    (hu : manner = .most → Unquantified after) :
    quantify r fromEnd least most? (manner.written ++ after) = .ok (next, after) := by
  obtain ⟨p, items, hi, rfl⟩ := exists_ordinary_of_move? h
  cases manner with
  | most =>
    have hafter := hu rfl
    cases after with
    | nil => simp [quantify, hi, Manner.written, Manner.loop]
    | cons c after =>
      obtain ⟨hlazy, hkept⟩ := hafter
      simp [quantify, hi, Manner.written, Manner.loop, hlazy, hkept]
  | fewest => simp [quantify, hi, Manner.written, Manner.loop]
  | kept => simp [quantify, hi, Manner.written, Manner.loop]

theorem exists_manner {fromEnd least : Nat} {most? : Option Nat}
    (h : quantify r fromEnd least most? rest = .ok (next, after)) :
    ∃ manner : Manner, rest = manner.written ++ after ∧ (manner = .most → Unquantified after) ∧
      ∀ e, r.move? e (.repeated least most? manner) = some next := by
  unfold quantify at h
  split at h
  · cases h
  · next item items hi =>
    obtain ⟨kind, p⟩ := item
    cases kind with
    | anchor => cases h
    | repeated => cases h
    | ordinary =>
      have hmove : ∀ (e : Nat) (manner : Manner), r.move? e (.repeated least most? manner) =
          some ({ r with top := { r.top with items } }.push .repeated
            (manner.loop least most? p)) := by
        intro e manner
        simp [Reader.move?, hi]
      simp only at h
      split at h
      · next he => cases he
      · next he => cases he
      · cases h
        exact ⟨.fewest, rfl, by simp, fun e => hmove e .fewest⟩
      · cases h
        exact ⟨.kept, rfl, by simp, fun e => hmove e .kept⟩
      · next _ hlazy hkept =>
        cases h
        refine ⟨.most, rfl, fun _ => ?_, fun e => hmove e .most⟩
        cases after with
        | nil => trivial
        | cons c after =>
          constructor
          · rintro rfl
            exact hlazy after rfl
          · rintro rfl
            exact hkept after rfl

theorem Unquantified.append_closing {more : Text} (h : Unquantified after) (hm : Closing more) :
    Unquantified (after ++ more) := by
  cases after with
  | nil =>
    cases more with
    | nil => trivial
    | cons c more =>
      have hc : c = ')' := hm
      subst hc
      exact ⟨by decide, by decide⟩
  | cons c after => exact h

/-- A quantifier repeats the last item of whoever reads it. -/
theorem exists_repeated {fromEnd least : Nat} {most? : Option Nat}
    (h : quantify r fromEnd least most? rest = .ok (next, after)) :
    ∃ manner : Manner, (∀ e, r.move? e (.repeated least most? manner) = some next) ∧
      ∀ (R next' : Reader) (more : Text) (e fromEnd' : Nat), Closing more →
        R.move? e (.repeated least most? manner) = some next' →
          quantify R fromEnd' least most? (rest ++ more) = .ok (next', after ++ more) := by
  obtain ⟨manner, rfl, hu, hmove⟩ := exists_manner h
  refine ⟨manner, hmove, fun R next' more e fromEnd' hm hR => ?_⟩
  rw [List.append_assoc]
  exact quantify_eq hR fun he => (hu he).append_closing hm

theorem readFlagsOn_append {s on : Switches} {stop : Char} {t : Text}
    (h : readFlagsOn s t = .ok (on, stop, rest)) (more : Text) :
    readFlagsOn s (t ++ more) = .ok (on, stop, rest ++ more) := by
  induction t generalizing s with
  | nil => cases h
  | cons c t ih =>
    rw [readFlagsOn] at h
    rw [List.cons_append, readFlagsOn]
    split at h
    · next hstop =>
      cases h
      rw [if_pos hstop]
    · next hstop =>
      rw [if_neg hstop]
      split at h
      · cases h
      · next hbytes =>
        rw [if_neg hbytes]
        cases hadd : s.add? c with
        | none =>
          rw [hadd] at h
          simp only [badFlag] at h
          split at h <;> cases h
        | some s' =>
          rw [hadd] at h
          simp only at h ⊢
          split at h
          · cases h
          · next hboth =>
            rw [if_neg hboth]
            exact ih h

theorem readFlagsOff_append {begun : Bool} {s off : Switches} {t : Text}
    (h : readFlagsOff begun s t = .ok (off, rest)) (more : Text) :
    readFlagsOff begun s (t ++ more) = .ok (off, rest ++ more) := by
  induction t generalizing begun s with
  | nil => cases begun <;> cases h
  | cons c t ih =>
    rw [readFlagsOff] at h
    rw [List.cons_append, readFlagsOff]
    split at h
    · next hstop =>
      cases h
      rw [if_pos hstop]
    · next hstop =>
      rw [if_neg hstop]
      split at h
      · cases h
      · next hkind =>
        rw [if_neg hkind]
        cases hadd : s.add? c with
        | none =>
          rw [hadd] at h
          simp only [badFlag] at h
          split at h <;> cases h
        | some s' =>
          rw [hadd] at h
          exact ih h

theorem afterComment?_append {t : Text} (h : afterComment? t = some rest) (more : Text) :
    afterComment? (t ++ more) = some (rest ++ more) := by
  fun_induction afterComment? t with
  | case1 => cases h
  | case2 c t ih => exact ih h
  | case3 t hne =>
    cases h
    simp [afterComment?]
  | case4 c t hne hc ih =>
    by_cases hb : c = '\\'
    · cases t with
      | nil => cases h
      | cons d t => exact absurd rfl (hne d t hb)
    · have hstep : afterComment? (c :: (t ++ more)) = afterComment? (t ++ more) := by
        rw [afterComment?]
        · exact if_neg hc
        · exact fun d u he _ => hb he
      exact hstep.trans (ih h)

/-- Switching nothing changes nothing. -/
theorem Flags.switch_off (f : Flags) : f.switch .off .off = f := by
  simp [Flags.switch, Switches.off]

/-- What can be read as flags begins with one, or with what ends them. -/
theorem flag_of_readFlagsOn {c : Char} {t : Text} {found : Switches × Char × Text}
    (h : readFlagsOn .off (c :: t) = .ok found) :
    c = ')' ∨ c = ':' ∨ c = '-' ∨ (Switches.off.add? c).isSome = true := by
  rw [readFlagsOn] at h
  split at h
  · next hstop =>
    simp only [Bool.or_eq_true, decide_eq_true_eq] at hstop
    rcases hstop with (hc | hc) | hc
    · exact .inl hc
    · exact .inr (.inr (.inl hc))
    · exact .inr (.inl hc)
  · split at h
    · cases h
    · cases hadd : Switches.off.add? c with
      | none =>
        rw [hadd] at h
        simp only [badFlag] at h
        split at h <;> cases h
      | some s => exact .inr (.inr (.inr rfl))

/-- What begins with a flag, or with what may stand in its place, is read as flags. -/
theorem readExtension_of_flag {c : Char}
    (hc : (c = '-' || c = 'L' || (Switches.off.add? c).isSome) = true) (R : Reader) (fromEnd : Nat)
    (t : Text) : readExtension R fromEnd (c :: t) = readFlags R fromEnd (c :: t) := by
  have hnone : ∀ d ∈ ['P', ':', '#', '=', '!', '<', '(', '>'],
      ¬ (d = '-' || d = 'L' || (Switches.off.add? d).isSome) = true :=
    List.forall_iff_forall_mem.mp (by decide)
  have hother : ∀ d ∈ ['P', ':', '#', '=', '!', '<', '(', '>'], c ≠ d :=
    fun d hd he => hnone d hd (he ▸ hc)
  simp only [List.mem_cons, List.not_mem_nil, or_false, forall_eq_or_imp, forall_eq] at hother
  rw [readExtension, if_pos hc]
  all_goals simp [hother]

/-- Flags that are not for the whole pattern are read as such. -/
theorem readExtension_eq_readFlags {t : Text} {found : Switches × Char × Text}
    (h : readFlagsOn .off t = .ok found) (hs : found.2.1 ≠ ')') (R : Reader) (fromEnd : Nat) :
    readExtension R fromEnd t = readFlags R fromEnd t := by
  cases t with
  | nil => cases h
  | cons c t =>
    rcases flag_of_readFlagsOn h with rfl | rfl | hflag
    · cases h
      exact absurd rfl hs
    · cases h
      have hwhole : Switches.off.whole = false := rfl
      rw [readExtension, readFlags]
      simp [readFlagsOn, bind, Except.bind, hwhole, Flags.switch_off]
    · have hkind : (c = '-' || c = 'L' || (Switches.off.add? c).isSome) = true := by
        rcases hflag with hc | hadd
        · simp [hc]
        · simp [hadd]
      exact readExtension_of_flag hkind R fromEnd t

/-- A group that switches flags switches them for whoever reads it. -/
theorem exists_switch_of_readFlags {t : Text} {found : Switches × Char × Text}
    (h : readFlagsOn .off t = .ok found) (hs : found.2.1 ≠ ')') {fromEnd : Nat}
    (hr : readFlags r fromEnd t = .ok (next, after)) :
    ∃ on off, next = r.enter .plain fromEnd (r.top.flags.switch on off) ∧
      ∀ (R : Reader) (more : Text) (fromEnd' : Nat),
        readFlags R fromEnd' (t ++ more) =
          .ok (R.enter .plain fromEnd' (R.top.flags.switch on off), after ++ more) := by
  obtain ⟨on, stop, tail⟩ := found
  have hmore := readFlagsOn_append h
  simp only [readFlags, h, bind, Except.bind, if_neg hs] at hr
  simp only [readFlags, hmore, bind, Except.bind, if_neg hs]
  split at hr
  · cases hr
  · next hwhole =>
    simp only [if_neg hwhole]
    split at hr
    · next hcolon =>
      cases hr
      exact ⟨on, .off, rfl, fun R more e => by rw [if_pos hcolon]⟩
    · next hcolon =>
      simp only [if_neg hcolon]
      cases hoff : readFlagsOff false .off tail with
      | error fault =>
        rw [hoff] at hr
        cases hr
      | ok found =>
        obtain ⟨off, tail'⟩ := found
        have hmore' := readFlagsOff_append hoff
        rw [hoff] at hr
        simp only at hr
        split at hr
        · cases hr
        · next hwhole' =>
          split at hr
          · cases hr
          · next hmeets =>
            cases hr
            refine ⟨on, off, rfl, fun R more e => ?_⟩
            simp only [hmore', if_neg hwhole', if_neg hmeets]

section Steps

variable {c : Char}

/-- A step that adds a set of characters, whoever makes it, is a move. -/
theorem move_of_pushSet {ranges : List CharRange} {negated : Bool}
    (hn : next = r.pushSet ranges negated)
    (h : ∀ (R : Reader) (more : Text), R.top.flags = r.top.flags → Closing more →
      readStep R c (rest ++ more) = .ok (R.pushSet ranges negated, after ++ more)) :
    ∃ m, r.move? (rest.length + 1) m = some next ∧ Makes r.top.flags c rest m after := by
  refine ⟨.take ⟨ranges, negated, r.top.flags.ignoreCase, r.top.flags.ascii⟩, by rw [hn]; rfl,
    fun R next' more hf hm hmove => ?_⟩
  cases hmove
  rw [h R more hf hm, Reader.pushSet, hf]

/-- A step that quantifies the last item is a move. -/
theorem move_of_quantify {fromEnd least : Nat} {most? : Option Nat} {tail : Text}
    (hq : quantify r fromEnd least most? tail = .ok (next, after))
    (h : ∀ (R : Reader) (more : Text), Closing more →
      ∃ fromEnd', readStep R c (rest ++ more) = quantify R fromEnd' least most? (tail ++ more)) :
    ∃ m, r.move? (rest.length + 1) m = some next ∧ Makes r.top.flags c rest m after := by
  obtain ⟨manner, hmove, hmakes⟩ := exists_repeated hq
  refine ⟨_, hmove _, fun R next' more _ hm hR' => ?_⟩
  obtain ⟨fromEnd', heq⟩ := h R more hm
  rw [heq]
  exact hmakes R next' more _ _ hm hR'

theorem move_of_brace (h : readStep r '{' rest = .ok (next, after)) :
    ∃ m, r.move? (rest.length + 1) m = some next ∧ Makes r.top.flags '{' rest m after := by
  have hstep : ∀ (R : Reader) (t : Text), readStep R '{' t = readBrace R t := by
    intro R t
    simp [readStep, Text.isAsciiBlank]
  rw [hstep r rest] at h
  simp only [readBrace] at h
  cases hb : readBounds? rest with
  | none =>
    rw [hb] at h
    cases h
    have hnext : r.pushCode '{'.toNat = r.pushSet [.single '{'.toNat] false := rfl
    refine move_of_pushSet hnext fun R more _ hm => ?_
    rw [hstep R _, readBrace, readBounds?_append hm, hb]
    rfl
  | some found =>
    obtain ⟨leastDigits, mostDigits, tail⟩ := found
    rw [hb] at h
    simp only at h
    generalize hmost : (if mostDigits.isEmpty = true then none else some (numberIn 10 mostDigits)) =
      most? at h
    split at h
    · cases h
    · next hlarge =>
      split at h
      · cases h
      · next hreversed =>
        refine move_of_quantify h fun R more hm => ⟨(rest ++ more).length + 1, ?_⟩
        rw [hstep R _, readBrace, readBounds?_append hm, hb]
        simp only [Option.map_some, hmost, if_neg hlarge, if_neg hreversed]

theorem readStep_extension (R : Reader) (t : Text) :
    readStep R '(' ('?' :: t) = readExtension R (t.length + 2) t := by
  simp [readStep, Text.isAsciiBlank]

/-- A comment, or a group that switches flags for its body. -/
theorem move_of_switch (hc : switchesAt ('(' :: rest) = true)
    (h : readStep r '(' rest = .ok (next, after)) :
    ∃ m, r.move? (rest.length + 1) m = some next ∧ Makes r.top.flags '(' rest m after := by
  unfold switchesAt at hc
  split at hc
  · next t heq =>
    cases heq
    rw [readStep_extension, readExtension] at h
    cases hcomment : afterComment? t with
    | none =>
      rw [hcomment] at h
      cases h
    | some tail =>
      rw [hcomment] at h
      cases h
      refine ⟨.skip, rfl, fun R next' more _ _ hmove => ?_⟩
      cases hmove
      rw [List.cons_append, List.cons_append, readStep_extension, readExtension,
        afterComment?_append hcomment]
  · next t _ heq =>
    cases heq
    cases hon : readFlagsOn .off t with
    | error fault =>
      rw [hon] at hc
      cases hc
    | ok found =>
      rw [hon] at hc
      have hs : found.2.1 ≠ ')' := by simpa using hc
      rw [readStep_extension, readExtension_eq_readFlags hon hs] at h
      obtain ⟨on, off, rfl, hall⟩ := exists_switch_of_readFlags hon hs h
      refine ⟨.silent (r.top.flags.switch on off), rfl, fun R next' more hf _ hmove => ?_⟩
      cases hmove
      have hon' := readFlagsOn_append hon more
      rw [List.cons_append, readStep_extension, readExtension_eq_readFlags hon' hs, hall, hf]
      rfl
  · cases hc

/-- A reference by name is read where the group can be referred to. -/
theorem readNamedReference_eq_ok_iff {t name tail : Text}
    (hn : nameUntil ')' "group name".toList t = .ok (name, tail)) (r : Reader) (e : Nat) :
    readNamedReference r t = .ok (next, after) ↔
      Text.isIdentifier name = true ∧ tail = after ∧ r.move? e (.again name) = some next := by
  simp only [readNamedReference, hn, bind, Except.bind, Reader.move?, Reader.known?]
  cases Text.isIdentifier name with
  | false => simp [flawAt]
  | true =>
    cases r.names.lookup name with
    | none => simp [flawAt]
    | some number =>
      cases hclosed : r.closed.lookup number <;> cases hflaw : r.lookBehindFlaw? number <;>
        simp [flawAt, hclosed, hflaw, and_comm]

theorem readCondition_eq_ok_iff {t name tail : Text}
    (hn : nameUntil ')' "group name".toList t = .ok (name, tail))
    (hid : Text.isIdentifier name = true) (r : Reader) (e : Nat) :
    readCondition r e t = .ok (next, after) ↔
      tail = after ∧ r.move? e (.given name) = some next := by
  simp only [readCondition, hn, bind, Except.bind, Reader.move?, Reader.known?, hid]
  cases r.names.lookup name with
  | none => simp [flawAt]
  | some number => cases hflaw : r.lookBehindFlaw? number <;> simp [flawAt, hflaw, and_comm]

/-- What refers to a group by its name is a move for whoever knows the name. -/
theorem move_of_mention (hc : mentionsAt ('(' :: rest) = true)
    (h : readStep r '(' rest = .ok (next, after)) :
    ∃ m, r.move? (rest.length + 1) m = some next ∧ Makes r.top.flags '(' rest m after := by
  unfold mentionsAt at hc
  split at hc
  · next t heq =>
    cases heq
    rw [readStep_extension, readExtension] at h
    cases hn : nameUntil ')' "group name".toList t with
    | error fault =>
      simp only [readNamedReference, hn, bind, Except.bind] at h
      cases h
    | ok found =>
      obtain ⟨name, tail⟩ := found
      obtain ⟨hid, rfl, hmove⟩ := (readNamedReference_eq_ok_iff hn r _).mp h
      refine ⟨.again name, hmove, fun R next' more _ _ hmove' => ?_⟩
      rw [List.cons_append, List.cons_append, List.cons_append, readStep_extension, readExtension]
      exact (readNamedReference_eq_ok_iff (nameUntil_append (by decide) hn more) R _).mpr
        ⟨hid, rfl, hmove'⟩
  · next t heq =>
    cases heq
    rw [readStep_extension, readExtension] at h
    cases hn : nameUntil ')' "group name".toList t with
    | error fault =>
      rw [hn] at hc
      cases hc
    | ok found =>
      obtain ⟨name, tail⟩ := found
      rw [hn] at hc
      obtain ⟨rfl, hmove⟩ := (readCondition_eq_ok_iff hn hc r _).mp h
      refine ⟨.given name, hmove, fun R next' more _ _ hmove' => ?_⟩
      rw [List.cons_append, List.cons_append, readStep_extension, readExtension]
      exact (readCondition_eq_ok_iff (nameUntil_append (by decide) hn more) hc R _).mpr
        ⟨rfl, hmove'⟩
  · cases hc

/-- A group that begins with a question mark and a colon, or gets a number. -/
theorem move_of_parenthesis (hc : isRegularAt ('(' :: rest) = true)
    (h : readStep r '(' rest = .ok (next, after)) :
    ∃ m, r.move? (rest.length + 1) m = some next ∧ Makes r.top.flags '(' rest m after := by
  by_cases hq : rest.head? = some '?'
  · obtain ⟨t, rfl⟩ := List.head?_eq_some_iff.mp hq
    refine move_of_switch ?_ h
    cases t with
    | nil =>
      have hflaw : readStep r '(' ['?'] = flawAt .unexpectedEnd 0 := by
        simp [readStep, Text.isAsciiBlank, readExtension]
      rw [hflaw] at h
      cases h
    | cons d t =>
      have hd : d = ':' := by simpa [isRegularAt] using hc
      subst hd
      rfl
  · have hstep : ∀ (R : Reader) (t : Text), t.head? ≠ some '?' →
        readStep R '(' t = .ok (R.enterGroup (t.length + 1), t) := by
      intro R t ht
      cases t with
      | nil => simp [readStep, Text.isAsciiBlank]
      | cons d t =>
        have hd : d ≠ '?' := fun hd => ht (by simp [hd])
        simp [readStep, Text.isAsciiBlank, hd]
    rw [hstep r rest hq] at h
    cases h
    refine ⟨.enter, rfl, fun R next' more _ hm hmove => ?_⟩
    cases hmove
    refine hstep R _ ?_
    cases rest with
    | nil => exact hm.head?_ne (by decide)
    | cons d rest => exact hq

theorem move_of_escape (hc : isRegularAt ('\\' :: rest) = true)
    (h : readStep r '\\' rest = .ok (next, after)) :
    ∃ m, r.move? (rest.length + 1) m = some next ∧ Makes r.top.flags '\\' rest m after := by
  cases rest with
  | nil =>
    have hflaw : readStep r '\\' [] = flawAt .escapeAtEnd 1 := by simp [readStep, Text.isAsciiBlank]
    rw [hflaw] at h
    cases h
  | cons letter rest =>
    rw [readStep_backslash] at h
    obtain ⟨ranges, hnext, hall⟩ := exists_set_of_escape hc h
    refine move_of_pushSet hnext fun R more _ hm => ?_
    rw [List.cons_append, readStep_backslash]
    exact hall R more hm

theorem move_of_set (h : readStep r '[' rest = .ok (next, after)) :
    ∃ m, r.move? (rest.length + 1) m = some next ∧ Makes r.top.flags '[' rest m after := by
  have hstep : ∀ (R : Reader) (t : Text), readStep R '[' t = readSet R t := by
    intro R t
    simp [readStep, Text.isAsciiBlank]
  rw [hstep r rest] at h
  obtain ⟨ranges, negated, hnext, hall⟩ := exists_set_of_readSet h
  refine move_of_pushSet hnext fun R more _ hm => ?_
  rw [hstep R _, hall R more hm]

theorem move_of_quantifier {bounds : Nat × Option Nat} (hb : bounds? c = some bounds)
    (h : readStep r c rest = .ok (next, after)) :
    ∃ m, r.move? (rest.length + 1) m = some next ∧ Makes r.top.flags c rest m after := by
  rw [readStep_quantifier r hb] at h
  exact move_of_quantify h fun R more _ => ⟨_, readStep_quantifier R hb (rest ++ more)⟩

theorem move_of_dot (h : readStep r '.' rest = .ok (next, after)) :
    ∃ m, r.move? (rest.length + 1) m = some next ∧ Makes r.top.flags '.' rest m after := by
  have hstep : ∀ (R : Reader) (t : Text), readStep R '.' t =
      .ok (R.push .ordinary (.one (if R.top.flags.dotAll then .all else .withinLine)), t) := by
    intro R t
    simp [readStep, Text.isAsciiBlank]
  rw [hstep r rest] at h
  cases h
  refine ⟨.take (if r.top.flags.dotAll then .all else .withinLine), rfl,
    fun R next' more hf _ hmove => ?_⟩
  cases hmove
  rw [hstep R _, hf]

theorem readStep_closing (R : Reader) (t : Text) :
    readStep R ')' t =
      match R.outer with
      | [] => flawAt .unbalanced (t.length + 1)
      | around :: outer => .ok (R.leave around outer, t) := by
  cases ho : R.outer with
  | nil => simp [readStep, Text.isAsciiBlank, ho]
  | cons around outer => simp [readStep, Text.isAsciiBlank, ho]

theorem move_of_closing (h : readStep r ')' rest = .ok (next, after)) :
    ∃ m, r.move? (rest.length + 1) m = some next ∧ Makes r.top.flags ')' rest m after := by
  rw [readStep_closing] at h
  split at h
  · cases h
  · next around outer ho =>
    cases h
    refine ⟨.leave, by simp only [Reader.move?, ho], fun R next' more _ _ hmove => ?_⟩
    simp only [Reader.move?] at hmove
    split at hmove
    · cases hmove
    · next ho' =>
      cases hmove
      rw [readStep_closing, ho']

theorem move_of_bar (h : readStep r '|' rest = .ok (next, after)) :
    ∃ m, r.move? (rest.length + 1) m = some next ∧ Makes r.top.flags '|' rest m after := by
  have hstep : ∀ (R : Reader) (t : Text), readStep R '|' t =
      if R.top.isFull then flawAt .thirdBranch (t.length + 1) else .ok (R.branch, t) := by
    rintro ⟨⟨opening, _, _, finished, _⟩, _⟩ t
    cases opening <;> cases finished <;> simp [readStep, Text.isAsciiBlank, Frame.isFull]
  rw [hstep r rest] at h
  split at h
  · cases h
  · next hfull =>
    cases h
    refine ⟨.branch, by rw [Reader.move?, if_neg hfull], fun R next' more _ _ hmove => ?_⟩
    rw [Reader.move?] at hmove
    split at hmove
    · cases hmove
    · next hfull' =>
      cases hmove
      rw [hstep R _, if_neg hfull']

/-- What verbose patterns leave out up to the end of the line. It may not be the end of the text, as
a closing parenthesis would then be left out with it. -/
theorem move_of_remark (hv : r.top.flags.verbose = true)
    (hend : after = [] → next = r → r.top.flags.verbose = false)
    (h : readStep r '#' rest = .ok (next, after)) :
    ∃ m, r.move? (rest.length + 1) m = some next ∧ Makes r.top.flags '#' rest m after := by
  have hstep : ∀ (R : Reader) (t : Text), R.top.flags = r.top.flags →
      readStep R '#' t = .ok (R, (t.dropWhile (· ≠ '\n')).drop 1) := by
    intro R t hf
    simp [readStep, Text.isAsciiBlank, hf, hv]
  rw [hstep r rest rfl] at h
  cases h
  refine ⟨.skip, rfl, fun R next' more hf _ hmove => ?_⟩
  cases hmove
  rw [hstep R _ hf]
  cases hline : rest.dropWhile (· ≠ '\n') with
  | nil =>
    rw [hline] at hend
    rw [hend rfl rfl] at hv
    cases hv
  | cons d line =>
    have hmore : (rest ++ more).dropWhile (· ≠ '\n') = d :: line ++ more := by
      rw [List.dropWhile_append, hline]
      rfl
    rw [hmore]
    rfl

theorem move_of_blank (hv : r.top.flags.verbose = true) (hb : Text.isAsciiBlank c = true)
    (h : readStep r c rest = .ok (next, after)) :
    ∃ m, r.move? (rest.length + 1) m = some next ∧ Makes r.top.flags c rest m after := by
  have hstep : ∀ (R : Reader) (t : Text), R.top.flags = r.top.flags →
      readStep R c t = .ok (R, t) := by
    intro R t hf
    simp [readStep, hb, hf, hv]
  rw [hstep r rest rfl] at h
  cases h
  refine ⟨.skip, rfl, fun R next' more hf _ hmove => ?_⟩
  cases hmove
  exact hstep R _ hf

theorem move_of_plain (hv : r.top.flags.verbose = true → Text.isAsciiBlank c = false ∧ c ≠ '#')
    (hc : c ∉ metaChars) (h : readStep r c rest = .ok (next, after)) :
    ∃ m, r.move? (rest.length + 1) m = some next ∧ Makes r.top.flags c rest m after := by
  rw [readStep_of_not_meta hv hc] at h
  cases h
  have hnext : r.pushCode c.toNat = r.pushSet [.single c.toNat] false := rfl
  refine move_of_pushSet hnext fun R more hf _ => ?_
  rw [readStep_of_not_meta (by rwa [hf]) hc]
  rfl

/-- A step of reading a regular pattern is a move. -/
theorem exists_move_of_regular (hc : isRegularAt (c :: rest) = true)
    (hend : after = [] → next = r → r.top.flags.verbose = false)
    (h : readStep r c rest = .ok (next, after)) :
    ∃ m, r.move? (rest.length + 1) m = some next ∧ Makes r.top.flags c rest m after := by
  by_cases hmeta : c ∈ metaChars
  · simp only [metaChars, List.mem_cons, List.not_mem_nil, or_false] at hmeta
    rcases hmeta with rfl | rfl | rfl | rfl | rfl | rfl | rfl | rfl | rfl | rfl | rfl | rfl
    · exact move_of_escape hc h
    · exact move_of_set h
    · exact move_of_quantifier rfl h
    · exact move_of_quantifier rfl h
    · exact move_of_quantifier rfl h
    · exact move_of_brace h
    · exact move_of_dot h
    · exact move_of_parenthesis hc h
    · exact move_of_closing h
    · exact move_of_bar h
    · cases hc
    · cases hc
  · by_cases hv : r.top.flags.verbose = true
    · cases hb : Text.isAsciiBlank c with
      | true => exact move_of_blank hv hb h
      | false =>
        by_cases hsign : c = '#'
        · subst hsign
          exact move_of_remark hv hend h
        · exact move_of_plain (fun _ => ⟨hb, hsign⟩) hmeta h
    · exact move_of_plain (fun hverbose => absurd hverbose hv) hmeta h

/-- A step of reading a portable pattern is a move. -/
theorem exists_move (hc : isPortableAt (c :: rest) = true)
    (hend : after = [] → next = r → r.top.flags.verbose = false)
    (h : readStep r c rest = .ok (next, after)) :
    ∃ m, r.move? (rest.length + 1) m = some next ∧ Makes r.top.flags c rest m after := by
  simp only [isPortableAt, Bool.or_eq_true] at hc
  obtain (hregular | hswitch) | hmention := hc
  · exact exists_move_of_regular hregular hend h
  · obtain rfl : c = '(' := by
      unfold switchesAt at hswitch
      split at hswitch
      · next heq => exact (List.cons.inj heq).1
      · next heq => exact (List.cons.inj heq).1
      · cases hswitch
    exact move_of_switch hswitch h
  · obtain rfl : c = '(' := by
      unfold mentionsAt at hmention
      split at hmention
      · next heq => exact (List.cons.inj heq).1
      · next heq => exact (List.cons.inj heq).1
      · cases hmention
    exact move_of_mention hmention h

end Steps

end Phrasebook.Pattern

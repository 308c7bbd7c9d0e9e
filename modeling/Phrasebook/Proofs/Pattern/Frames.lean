import Phrasebook.Proofs.Lists
import Phrasebook.Proofs.Pattern.Moves

/-!
# What the open groups hold

A reader of a portable pattern has silent, numbered and conditional groups open, and comes upon no
numbers but those of the groups that it has opened. Where these have numbers raised by some `k`, all
that it holds is the same with the numbers raised.
-/

namespace Phrasebook.Pattern

variable {k l : Nat} {P : Pattern → Prop}

/-- A property of patterns that a sequence or a choice has if its parts have it. -/
structure Composes (P : Pattern → Prop) : Prop where
  empty : P empty
  seq : ∀ {first second}, P first → P second → P (seq first second)
  alt : ∀ {left right}, P left → P right → P (alt left right)

theorem composes_between (k l : Nat) : Composes (Between k l) := ⟨trivial, .intro, .intro⟩

theorem composes_numbered (l : Nat) : Composes (Numbered l) := ⟨trivial, .intro, .intro⟩

theorem Composes.sequence (hc : Composes P) {items : List Item}
    (h : ∀ item ∈ items, P item.pattern) : P (sequence items) := by
  have hfold : ∀ (items : List Item) (q : Pattern), (∀ item ∈ items, P item.pattern) → P q →
      P (items.foldl (fun rest item => Pattern.seq item.pattern rest) q) := by
    intro items
    induction items with
    | nil => exact fun q _ hq => hq
    | cons item items ih =>
      exact fun q h hq =>
        ih _ (fun other ho => h other (by simp [ho])) (hc.seq (h item (by simp)) hq)
  exact hfold items _ h hc.empty

theorem between_row_iff {items : List Item} :
    (row items).Between k l ↔ ∀ item ∈ items, item.pattern.Between k l := by
  induction items with
  | nil => simp [Between]
  | cons item items ih => simp [Between, ih]

/-- All that the frame holds has the property. -/
structure Frame.Holds (P : Pattern → Prop) (f : Frame) : Prop where
  finished : ∀ p ∈ f.finished, P p
  items : ∀ item ∈ f.items, P item.pattern

namespace Frame.Holds

variable {f : Frame}

theorem new {opening : Opening} {fromEnd : Nat} {flags : Flags} :
    Frame.Holds P ⟨opening, fromEnd, flags, [], []⟩ :=
  ⟨fun _ hp => absurd hp List.not_mem_nil, fun _ hi => absurd hi List.not_mem_nil⟩

theorem imp {Q : Pattern → Prop} (h : f.Holds P) (hi : ∀ p, P p → Q p) : f.Holds Q :=
  ⟨fun p hp => hi p (h.finished p hp), fun item hm => hi _ (h.items item hm)⟩

theorem push (h : f.Holds P) {item : Item} (hi : P item.pattern) :
    Frame.Holds P { f with items := item :: f.items } := by
  refine ⟨h.finished, fun other ho => ?_⟩
  cases List.mem_cons.mp ho with
  | inl he => exact he ▸ hi
  | inr hm => exact h.items other hm

theorem branch (h : f.Holds P) (hc : Composes P) :
    Frame.Holds P { f with finished := sequence f.items :: f.finished, items := [] } := by
  refine ⟨fun p hp => ?_, fun _ hi => absurd hi List.not_mem_nil⟩
  cases List.mem_cons.mp hp with
  | inl he => exact he ▸ hc.sequence h.items
  | inr hm => exact h.finished p hm

theorem pattern (h : f.Holds P) (hc : Composes P) : P f.pattern := by
  have hfold : ∀ (ps : List Pattern) (q : Pattern), (∀ p ∈ ps, P p) → P q →
      P (ps.foldl (fun rest p => alt p rest) q) := by
    intro ps
    induction ps with
    | nil => exact fun q _ hq => hq
    | cons p ps ih =>
      exact fun q h hq => ih _ (fun other ho => h other (by simp [ho])) (hc.alt (h p (by simp)) hq)
  exact hfold f.finished _ h.finished (hc.sequence h.items)

/-- A condition needs no more than what its frame holds. -/
theorem givenBody (h : f.Holds P) (hc : Composes P) (number : Nat) :
    ∃ present absent, Reader.givenBody number f = .given number present absent ∧
      P present ∧ P absent := by
  have hlast := hc.sequence h.items
  rw [Reader.givenBody]
  split
  · next present _ hf => exact ⟨present, _, rfl, h.finished present (by simp [hf]), hlast⟩
  · exact ⟨_, empty, rfl, hlast, hc.empty⟩

/-- A repetition of the last item takes its place. -/
theorem repeated (h : f.Holds P) {item : Item} {items : List Item} (hi : f.items = item :: items)
    {kind : ItemKind} {p : Pattern} (hp : P item.pattern → P p) :
    Frame.Holds P { f with items := ⟨kind, p⟩ :: items } := by
  have hless : Frame.Holds P { f with items } :=
    ⟨h.finished, fun other ho => h.items other (by simp [hi, ho])⟩
  exact hless.push (hp (h.items item (by simp [hi])))

end Frame.Holds

theorem Manner.between_loop {p : Pattern} (h : p.Between k l) (least : Nat) (most? : Option Nat)
    (manner : Manner) : (manner.loop least most? p).Between k l := by
  cases manner <;> exact h

theorem Manner.numbered_loop {p : Pattern} (h : p.Numbered l) (least : Nat) (most? : Option Nat)
    (manner : Manner) : (manner.loop least most? p).Numbered l := by
  cases manner <;> exact h

/-- A silent group, or one with a number from one to `l`, be it its own or that of a condition. -/
def Opening.Numbered (l : Nat) : Opening → Prop
  | plain => True
  | group number | given number => 0 < number ∧ number ≤ l
  | look _ _ _ | atomic => False

structure Frame.Numbered (l : Nat) (f : Frame) : Prop where
  opening : f.opening.Numbered l
  holds : f.Holds (Pattern.Numbered l)

theorem Opening.Numbered.mono {opening : Opening} {l' : Nat} (h : opening.Numbered l)
    (hl : l ≤ l') : opening.Numbered l' := by
  cases opening with
  | plain => trivial
  | group number | given number => exact ⟨h.1, Nat.le_trans h.2 hl⟩
  | look | atomic => exact h.elim

theorem Frame.Numbered.mono {f : Frame} {l' : Nat} (h : f.Numbered l) (hl : l ≤ l') :
    f.Numbered l' := ⟨h.opening.mono hl, h.holds.imp fun _ hp => hp.mono hl⟩

/-- What a silent, numbered or conditional group is once it is closed. -/
def Frame.whole (f : Frame) : Pattern :=
  match f.opening with
  | .group number => .group number f.pattern
  | .given number => Reader.givenBody number f
  | _ => f.pattern

theorem Frame.Numbered.whole {f : Frame} (h : f.Numbered l) : f.whole.Numbered l := by
  have hopening := h.opening
  have hpattern := h.holds.pattern (composes_numbered l)
  rw [Frame.whole]
  cases ho : f.opening with
  | plain => exact hpattern
  | group number =>
    rw [ho] at hopening
    exact ⟨hopening, hpattern⟩
  | given number =>
    rw [ho] at hopening
    obtain ⟨present, absent, he, hp, ha⟩ := h.holds.givenBody (composes_numbered l) number
    have hbody : (Reader.givenBody number f).Numbered l := by
      rw [he]
      exact ⟨hopening, hp, ha⟩
    exact hbody
  | look | atomic =>
    rw [ho] at hopening
    exact hopening.elim

/-- Closing such a group adds what it is to the frame around it. -/
theorem Reader.leave_eq {r : Reader} (h : r.top.opening.Numbered l) (around : Frame)
    (outer : List Frame) :
    ∃ closed, r.leave around outer =
        { r with
          top := { around with items := ⟨.ordinary, r.top.whole⟩ :: around.items }
          outer := outer
          closed := closed } ∧
      ∀ number, (closed.lookup number).isSome = true ↔
        r.top.opening = .group number ∨ (r.closed.lookup number).isSome = true := by
  cases ho : r.top.opening with
  | plain =>
    refine ⟨r.closed, ?_, fun number => by simp⟩
    simp only [leave, Frame.whole, ho]
    rfl
  | given number =>
    refine ⟨r.closed, ?_, fun number => by simp⟩
    simp only [leave, Frame.whole, ho]
    rfl
  | group own =>
    refine ⟨(own, r.top.pattern.width r.closed) :: r.closed, ?_, fun number => ?_⟩
    · simp only [leave, Frame.whole, ho]
      rfl
    · rw [List.lookup_cons]
      by_cases he : number = own
      · simp [he]
      · have hne : (number == own) = false := by simpa using he
        have hopening : Opening.group own ≠ .group number := fun h => he (Opening.group.inj h).symm
        simp [hne, hopening]
  | look | atomic =>
    rw [ho] at h
    exact h.elim

/-- The numbers that a reader has come upon, of groups and of what refers to groups, are from one to
that of the group opened last. -/
structure Reader.Numbered (r : Reader) : Prop where
  top : r.top.Numbered r.opened
  outer : ∀ f ∈ r.outer, f.Numbered r.opened
  names : ∀ entry ∈ r.names, 0 < entry.2 ∧ entry.2 ≤ r.opened

namespace Reader.Numbered

variable {r next : Reader}

theorem of_known? (h : r.Numbered) {name : Text} {number : Nat} (hk : r.known? name = some number) :
    0 < number ∧ number ≤ r.opened := by
  obtain ⟨found, hfound, hk⟩ := Option.bind_eq_some_iff.mp hk
  split at hk
  · cases hk
    obtain ⟨before, after, he, -⟩ := List.lookup_eq_some_iff.mp hfound
    exact h.names (name, number) (by simp [he])
  · cases hk

/-- A group is opened, within which there is nothing yet. -/
theorem enter (h : r.Numbered) (opening : Opening) (ho : opening.Numbered r.opened) (fromEnd : Nat)
    (flags : Flags) : (r.enter opening fromEnd flags).Numbered :=
  ⟨⟨ho, .new⟩, List.forall_mem_cons.mpr ⟨h.top, h.outer⟩, h.names⟩

theorem enterGroup (h : r.Numbered) (fromEnd : Nat) : (r.enterGroup fromEnd).Numbered := by
  have hle : r.opened ≤ r.opened + 1 := Nat.le_succ _
  have hmore : Reader.Numbered { r with opened := r.opened + 1 } :=
    ⟨h.top.mono hle, fun f hf => (h.outer f hf).mono hle,
      fun entry he => ⟨(h.names entry he).1, Nat.le_trans (h.names entry he).2 hle⟩⟩
  exact hmore.enter (.group _) ⟨Nat.succ_pos _, Nat.le_refl _⟩ fromEnd _

theorem enterNamed (h : r.Numbered) (name : Text) (fromEnd : Nat) :
    (r.enterNamed name fromEnd).Numbered := by
  obtain ⟨htop, houter, hnames⟩ := h.enterGroup fromEnd
  exact ⟨htop, houter, List.forall_mem_cons.mpr ⟨⟨Nat.succ_pos _, Nat.le_refl _⟩, hnames⟩⟩

theorem move {m : Move} {e : Nat} (h : r.Numbered) (hm : r.move? e m = some next) :
    next.Numbered := by
  have htop : ∀ f : Frame, f.opening = r.top.opening → f.Holds (Pattern.Numbered r.opened) →
      Reader.Numbered { r with top := f } :=
    fun f ho hf => ⟨⟨ho ▸ h.top.opening, hf⟩, h.outer, h.names⟩
  cases m with
  | take set =>
    cases hm
    exact htop _ rfl (h.top.holds.push trivial)
  | repeated least most? manner =>
    obtain ⟨p, items, hi, rfl⟩ := exists_ordinary_of_move? hm
    exact htop _ rfl (h.top.holds.repeated hi fun hp => manner.numbered_loop hp least most?)
  | enter =>
    cases hm
    exact h.enterGroup e
  | silent flags =>
    cases hm
    exact h.enter .plain trivial e flags
  | leave =>
    simp only [Reader.move?] at hm
    split at hm
    · cases hm
    · next around outer ho =>
      cases hm
      obtain ⟨closed, he, -⟩ := Reader.leave_eq h.top.opening around outer
      rw [he]
      have houter := h.outer
      rw [ho] at houter
      obtain ⟨haround, hrest⟩ := List.forall_mem_cons.mp houter
      exact ⟨⟨haround.opening, haround.holds.push h.top.whole⟩, hrest, h.names⟩
  | branch =>
    simp only [Reader.move?] at hm
    split at hm
    · cases hm
    · cases hm
      exact htop _ rfl (h.top.holds.branch (composes_numbered _))
  | skip =>
    cases hm
    exact h
  | again name =>
    obtain ⟨number, hk, hm⟩ := Option.bind_eq_some_iff.mp hm
    split at hm
    · cases hm
      have hagain : (Pattern.again number r.top.flags.ignoreCase).Numbered r.opened :=
        h.of_known? hk
      exact htop _ rfl (h.top.holds.push hagain)
    · cases hm
  | given name =>
    obtain ⟨number, hk, rfl⟩ := Option.map_eq_some_iff.mp hm
    exact h.enter (.given number) (h.of_known? hk) e _

end Reader.Numbered

def Item.raised (k : Nat) (item : Item) : Item := { item with pattern := item.pattern.raised k }

def Opening.raised (k : Nat) : Opening → Opening
  | plain => plain
  | group number => group (number + k)
  | look backward negated groupsBefore => look backward negated groupsBefore
  | atomic => atomic
  | given number => given (number + k)

theorem Opening.Numbered.raised {opening : Opening} (h : opening.Numbered l) (k : Nat) :
    (opening.raised k).Numbered (l + k) := by
  cases opening with
  | plain => trivial
  | group number | given number => exact ⟨Nat.add_pos_left h.1 k, Nat.add_le_add_right h.2 k⟩
  | look | atomic => exact h.elim

theorem raised_sequence (k : Nat) (items : List Item) :
    sequence (items.map (Item.raised k)) = (sequence items).raised k := by
  have hfold : ∀ (items : List Item) (q : Pattern),
      (items.map (Item.raised k)).foldl (fun rest item => seq item.pattern rest) (q.raised k) =
        (items.foldl (fun rest item => seq item.pattern rest) q).raised k := by
    intro items
    induction items with
    | nil => exact fun q => rfl
    | cons item items ih => exact fun q => ih (seq item.pattern q)
  exact hfold items empty

theorem Manner.raised_loop (p : Pattern) (least : Nat) (most? : Option Nat) (manner : Manner) :
    (manner.loop least most? p).raised k = manner.loop least most? (p.raised k) := by
  cases manner <;> rfl

/-- A frame, and one that the same moves have filled where groups get numbers beyond `k`. -/
structure Frame.Raised (k : Nat) (f g : Frame) : Prop where
  opening : g.opening = f.opening.raised k
  flags : g.flags = f.flags
  finished : g.finished = f.finished.map (Pattern.raised k)
  items : g.items = f.items.map (Item.raised k)

namespace Frame.Raised

variable {f g : Frame}

theorem new (opening : Opening) (fromEnd fromEnd' : Nat) (flags : Flags) :
    Frame.Raised k ⟨opening, fromEnd, flags, [], []⟩ ⟨opening.raised k, fromEnd', flags, [], []⟩ :=
  ⟨rfl, rfl, rfl, rfl⟩

theorem push (h : f.Raised k g) (kind : ItemKind) (p : Pattern) :
    Frame.Raised k { f with items := ⟨kind, p⟩ :: f.items }
      { g with items := ⟨kind, p.raised k⟩ :: g.items } :=
  ⟨h.opening, h.flags, h.finished, congrArg (⟨kind, p.raised k⟩ :: ·) h.items⟩

theorem branch (h : f.Raised k g) :
    Frame.Raised k { f with finished := sequence f.items :: f.finished, items := [] }
      { g with finished := sequence g.items :: g.finished, items := [] } := by
  refine ⟨h.opening, h.flags, ?_, rfl⟩
  rw [h.items, raised_sequence, h.finished]
  rfl

theorem isFull (h : f.Raised k g) : g.isFull = f.isFull := by
  rw [Frame.isFull, Frame.isFull, h.opening, h.finished]
  cases f.opening <;> cases f.finished <;> rfl

theorem pattern (h : f.Raised k g) : g.pattern = f.pattern.raised k := by
  have hfold : ∀ (ps : List Pattern) (q : Pattern),
      (ps.map (Pattern.raised k)).foldl (fun rest p => alt p rest) (q.raised k) =
        (ps.foldl (fun rest p => alt p rest) q).raised k := by
    intro ps
    induction ps with
    | nil => exact fun q => rfl
    | cons p ps ih => exact fun q => ih (alt p q)
  rw [Frame.pattern, Frame.pattern, h.finished, h.items, raised_sequence]
  exact hfold f.finished _

theorem givenBody (h : f.Raised k g) (number : Nat) :
    Reader.givenBody (number + k) g = (Reader.givenBody number f).raised k := by
  rw [Reader.givenBody, Reader.givenBody, h.finished, h.items, raised_sequence]
  cases f.finished <;> rfl

theorem whole (h : f.Raised k g) : g.whole = f.whole.raised k := by
  rw [Frame.whole, Frame.whole, h.opening]
  cases f.opening with
  | plain | look | atomic => exact h.pattern
  | group number => exact congrArg (group (number + k)) h.pattern
  | given number => exact h.givenBody number

end Frame.Raised

end Phrasebook.Pattern

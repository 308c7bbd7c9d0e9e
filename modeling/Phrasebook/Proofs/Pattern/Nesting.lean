import Phrasebook.Proofs.Pattern.Frames

/-!
# Regular patterns within others

A regular pattern is read within another as it is on its own: the reader makes the same moves, on
top of the groups that are open around it. What it reads is the same pattern, with its numbers
raised beyond those of the groups opened before.
-/

namespace Phrasebook.Pattern

def Reader.bottom (r : Reader) : Frame := r.outer.getLast?.getD r.top

theorem Reader.bottom_enter (r : Reader) (opening : Opening) (fromEnd : Nat) (flags : Flags) :
    (r.enter opening fromEnd flags).bottom = r.bottom := by
  rw [bottom, enter, List.getLast?_cons]
  rfl

/-- How a group, or the whole pattern, begins. -/
def Frame.head (f : Frame) : Opening × Flags := (f.opening, f.flags)

/-- A move goes on within the innermost group, opens one or closes one, and it gives no name. -/
theorem Reader.open_of_move {r next : Reader} {m : Move} {e : Nat} (hr : r.Numbered)
    (h : r.move? e m = some next) :
    next.names = r.names ∧
      (next.outer = r.outer ∧ next.top.head = r.top.head ∨ next.outer = r.top :: r.outer ∨
        ∃ around, r.outer = around :: next.outer ∧ next.top.head = around.head) := by
  cases m with
  | take set =>
    cases h
    exact ⟨rfl, .inl ⟨rfl, rfl⟩⟩
  | repeated least most? manner =>
    obtain ⟨p, items, -, rfl⟩ := exists_ordinary_of_move? h
    exact ⟨rfl, .inl ⟨rfl, rfl⟩⟩
  | enter | silent flags =>
    cases h
    exact ⟨rfl, .inr (.inl rfl)⟩
  | leave =>
    simp only [move?] at h
    split at h
    · cases h
    · next around outer ho =>
      cases h
      obtain ⟨closed, he, -⟩ := Reader.leave_eq hr.top.opening around outer
      rw [he]
      exact ⟨rfl, .inr (.inr ⟨around, ho, rfl⟩)⟩
  | branch =>
    simp only [move?] at h
    split at h
    · cases h
    · cases h
      exact ⟨rfl, .inl ⟨rfl, rfl⟩⟩
  | skip =>
    cases h
    exact ⟨rfl, .inl ⟨rfl, rfl⟩⟩
  | again name =>
    obtain ⟨number, -, h⟩ := Option.bind_eq_some_iff.mp h
    split at h
    · cases h
      exact ⟨rfl, .inl ⟨rfl, rfl⟩⟩
    · cases h
  | given name =>
    obtain ⟨number, -, rfl⟩ := Option.map_eq_some_iff.mp h
    exact ⟨rfl, .inr (.inl rfl)⟩

/-- So it does not change how the whole pattern begins. -/
theorem Reader.head_bottom_move {r next : Reader} {m : Move} {e : Nat} (hr : r.Numbered)
    (h : r.move? e m = some next) : next.bottom.head = r.bottom.head := by
  rw [bottom, bottom]
  obtain ⟨-, ⟨houter, hhead⟩ | houter | ⟨around, houter, hhead⟩⟩ := open_of_move hr h
  · rw [houter]
    cases r.outer.getLast? with
    | none => exact hhead
    | some f => rfl
  · rw [houter, List.getLast?_cons]
    rfl
  · rw [houter, List.getLast?_cons]
    cases next.outer.getLast? with
    | none => exact hhead
    | some f => rfl

theorem Reader.lookup_names_eq_none {r : Reader} {name : Text} :
    r.names.lookup name = none ↔ name ∉ r.names.map Prod.fst := by
  simp only [List.lookup_eq_none_iff, bne_iff_ne, List.mem_map, not_exists, not_and]
  exact ⟨fun h entry he hn => h entry he hn.symm, fun h entry he hn => h entry he hn.symm⟩

theorem readStep_named (r : Reader) (t : Text) :
    readStep r '(' ('?' :: 'P' :: '<' :: t) = readNamedGroup r (t.length + 4) t := by
  simp [readStep, Text.isAsciiBlank, readExtension]

/-- No look-behind is open. -/
def Reader.Forward (r : Reader) : Prop :=
  ∀ opening ∈ (r.top :: r.outer).map Frame.opening, ∀ negated before,
    opening ≠ .look true negated before

theorem Reader.forward_start (flags : Flags) : (Reader.start flags).Forward := by
  intro opening ho
  rw [List.mem_singleton.mp ho]
  nofun

/-- Where no look-behind is open, none is in the way of what refers to groups. -/
theorem Reader.Forward.lookBehindFlaw? {r : Reader} (h : r.Forward) (number : Nat) :
    r.lookBehindFlaw? number = none := by
  have hgroups : r.lookBehindGroups? = none := by
    rw [lookBehindGroups?]
    refine foldl_eq_self fun f hf => ?_
    split
    · next negated before ho => exact absurd ho (h _ (List.mem_map_of_mem hf) negated before)
    · rfl
  rw [Reader.lookBehindFlaw?, hgroups]
  rfl

/-- The names are new for the reader, none of them comes twice, and what refers to them may stand
here. -/
structure Reader.Fresh (r : Reader) (given : List Text) : Prop where
  nodup : given.Nodup
  unknown : ∀ name ∈ given, name ∉ r.names.map Prod.fst
  forward : given ≠ [] → r.Forward

namespace Reader.Fresh

variable {r R : Reader} {given : List Text}

theorem nil (r : Reader) : r.Fresh [] :=
  ⟨List.nodup_nil, fun _ hn => absurd hn List.not_mem_nil, absurd rfl⟩

/-- The later names are still new when the earlier ones have been given. -/
theorem after {more : List Text} (h : r.Fresh (given ++ more))
    (hnames : R.names.map Prod.fst = given.reverse ++ r.names.map Prod.fst)
    (hforward : r.Forward → R.Forward) : R.Fresh more := by
  obtain ⟨-, hmore, hapart⟩ := List.nodup_append.mp h.nodup
  refine ⟨hmore, fun name hn hmem => ?_, fun hne => hforward (h.forward (by simp [hne]))⟩
  rw [hnames, List.mem_append, List.mem_reverse] at hmem
  cases hmem with
  | inl hgiven => exact hapart name hgiven name hn rfl
  | inr hold => exact h.unknown name (List.mem_append_right _ hn) hold

theorem add (h : r.Fresh given) (items : List Item) : (r.add items).Fresh given :=
  ⟨h.nodup, h.unknown, h.forward⟩

theorem enterGroup (h : r.Fresh given) (fromEnd : Nat) : (r.enterGroup fromEnd).Fresh given := by
  refine ⟨h.nodup, h.unknown, fun hne opening ho negated before => ?_⟩
  cases List.mem_cons.mp ho with
  | inl he =>
    rw [he]
    nofun
  | inr hm => exact h.forward hne opening hm negated before

theorem of_append {more : List Text} (h : r.Fresh (given ++ more)) : r.Fresh given :=
  ⟨(List.nodup_append.mp h.nodup).1, fun name hn => h.unknown name (List.mem_append_left _ hn),
    fun hne => h.forward (by simp [hne])⟩

end Reader.Fresh

/-- A group with a name that is new for a reader opens for whoever reads it, if the name is new
there. -/
theorem readStep_named_append {r R next : Reader} {name rest after after' : Text}
    (hname : nameUntil '>' "group name".toList rest = .ok (name, after))
    (h : readStep r '(' ('?' :: 'P' :: '<' :: rest) = .ok (next, after'))
    (hnew : name ∉ R.names.map Prod.fst) (more : Text) :
    (next = r.enterNamed name (rest.length + 4) ∧ after' = after) ∧
      readStep R '(' ('?' :: 'P' :: '<' :: (rest ++ more)) =
        .ok (R.enterNamed name ((rest ++ more).length + 4), after ++ more) := by
  have hmore := nameUntil_append (by decide) hname more
  rw [readStep_named] at h ⊢
  simp only [readNamedGroup, hname, hmore, bind, Except.bind] at h ⊢
  split at h
  · cases h
  · next hid =>
    rw [if_neg hid, Reader.lookup_names_eq_none.mpr hnew]
    split at h
    · cases h
    · cases h
      exact ⟨⟨rfl, rfl⟩, rfl⟩

/-- The reader `R` has come from `base` by the moves by which `r` has come from a start. -/
def Reader.Within (base r R : Reader) : Prop :=
  (r.names ≠ [] → base.Forward) ∧ ∃ f fs closed,
    R = { base with
      top := f
      outer := fs ++ base.top :: base.outer
      opened := r.opened + base.opened
      closed := closed
      names := r.names.map (fun entry => (entry.1, entry.2 + base.opened)) ++ base.names } ∧
    (∀ number, (r.closed.lookup number).isSome = true →
      (closed.lookup (number + base.opened)).isSome = true) ∧
    List.Forall₂ (Frame.Raised base.opened) (r.top :: r.outer) (f :: fs)

namespace Reader.Within

variable {base r R next : Reader}

theorem flags (h : base.Within r R) : R.top.flags = r.top.flags := by
  obtain ⟨-, f, fs, closed, rfl, -, hall⟩ := h
  cases hall with
  | cons hf _ => exact hf.flags

/-- None of the groups that the moves have opened is a look-behind. -/
theorem forward (h : base.Within r R) (hr : r.Numbered) (hb : base.Forward) : R.Forward := by
  obtain ⟨-, f, fs, closed, rfl, -, hall⟩ := h
  intro opening hmap negated before ho
  obtain ⟨g, hg, rfl⟩ := List.mem_map.mp hmap
  have hmem : g ∈ (f :: fs) ++ (base.top :: base.outer) := hg
  cases List.mem_append.mp hmem with
  | inl hown =>
    obtain ⟨f', hf', hraised⟩ := exists_left hall hown
    have hnumbered : f'.Numbered r.opened := List.forall_mem_cons.mpr ⟨hr.top, hr.outer⟩ f' hf'
    have hopening := hnumbered.opening
    rw [hraised.opening] at ho
    cases hf'o : f'.opening <;> rw [hf'o] at ho hopening
    case look => exact hopening
    all_goals cases ho
  | inr hbase => exact hb _ (List.mem_map_of_mem hbase) negated before ho

/-- A group with a name has a raised number in the other reader, and can be referred to there. -/
theorem known? (h : base.Within r R) (hr : r.Numbered) {name : Text} {number : Nat}
    (hk : r.known? name = some number) : R.known? name = some (number + base.opened) := by
  obtain ⟨found, hfound, hk⟩ := Option.bind_eq_some_iff.mp hk
  split at hk
  · cases hk
    have hnames : r.names ≠ [] := fun he => by
      rw [he] at hfound
      cases hfound
    have hflaw := (h.forward hr (h.1 hnames)).lookBehindFlaw? (number + base.opened)
    have hlookup : R.names.lookup name = some (number + base.opened) := by
      obtain ⟨-, f, fs, closed, rfl, -, -⟩ := h
      rw [List.lookup_append, lookup_map_snd (· + base.opened), hfound]
      rfl
    rw [Reader.known?, hlookup, Option.bind_some, hflaw]
    rfl
  · cases hk

/-- Both can make the same moves. -/
theorem move {m : Move} {e : Nat} (h : base.Within r R) (hr : r.Numbered)
    (hm : r.move? e m = some next) (e' : Nat) :
    ∃ Next, R.move? e' m = some Next ∧ base.Within next Next := by
  have hknown : ∀ {name number}, r.known? name = some number →
      R.known? name = some (number + base.opened) := fun hk => h.known? hr hk
  obtain ⟨hforward, f, fs, closed, rfl, hclosed, hall⟩ := h
  cases hall with
  | cons hf hfs =>
    cases m with
    | take set =>
      cases hm
      exact ⟨_, rfl, hforward, _, fs, closed, rfl, hclosed,
        .cons (hf.push .ordinary (.one set)) hfs⟩
    | repeated least most? manner =>
      obtain ⟨p, items, hi, rfl⟩ := exists_ordinary_of_move? hm
      have hitems : f.items =
          ⟨.ordinary, p.raised base.opened⟩ :: items.map (Item.raised base.opened) := by
        rw [hf.items, hi]
        rfl
      have hless : Frame.Raised base.opened { r.top with items }
          { f with items := items.map (Item.raised base.opened) } :=
        ⟨hf.opening, hf.flags, hf.finished, rfl⟩
      refine ⟨_, by simp only [Reader.move?, hitems]; rfl, hforward, _, fs, closed, rfl, hclosed,
        .cons ?_ hfs⟩
      have hpush := hless.push .repeated (manner.loop least most? p)
      rwa [manner.raised_loop] at hpush
    | enter =>
      cases hm
      refine ⟨_, rfl, hforward, ⟨.group (r.opened + base.opened + 1), e', f.flags, [], []⟩, f :: fs,
        closed, ?_, hclosed, .cons ?_ (.cons hf hfs)⟩
      · simp only [enterGroup, Reader.enter, List.cons_append, Nat.add_right_comm]
      · rw [hf.flags, Nat.add_right_comm]
        exact .new (.group (r.opened + 1)) _ _ _
    | silent flags =>
      cases hm
      exact ⟨_, rfl, hforward, _, f :: fs, closed, rfl, hclosed,
        .cons (.new .plain _ _ _) (.cons hf hfs)⟩
    | leave =>
      simp only [Reader.move?] at hm
      split at hm
      · cases hm
      · next around outer ho =>
        cases hm
        rw [ho] at hfs
        cases hfs with
        | @cons _ g _ gs hg hgs =>
          obtain ⟨closed', hleft, hown⟩ := Reader.leave_eq hr.top.opening around outer
          have hopening : f.opening.Numbered (r.opened + base.opened) :=
            hf.opening ▸ hr.top.opening.raised base.opened
          obtain ⟨closed'', hLeft, hOwn⟩ := Reader.leave_eq (r := { base with
            top := f, outer := g :: gs ++ base.top :: base.outer, opened := r.opened + base.opened,
            closed
            names := r.names.map (fun entry => (entry.1, entry.2 + base.opened)) ++ base.names })
            hopening g (gs ++ base.top :: base.outer)
          have hpush := hg.push .ordinary r.top.whole
          rw [← hf.whole] at hpush
          refine ⟨_, rfl, ?_⟩
          rw [hleft]
          refine ⟨hforward, _, gs, closed'', hLeft, fun number hn => ?_, .cons hpush hgs⟩
          cases (hown number).mp hn with
          | inl ho => exact (hOwn _).mpr (.inl (by rw [hf.opening, ho]; rfl))
          | inr hc => exact (hOwn _).mpr (.inr (hclosed number hc))
    | branch =>
      simp only [Reader.move?] at hm
      split at hm
      · cases hm
      · next hfull =>
        cases hm
        refine ⟨_, ?_, hforward, _, fs, closed, rfl, hclosed, .cons hf.branch hfs⟩
        rw [Reader.move?, if_neg (by rwa [hf.isFull])]
        rfl
    | skip =>
      cases hm
      exact ⟨_, rfl, hforward, f, fs, closed, rfl, hclosed, .cons hf hfs⟩
    | again name =>
      obtain ⟨number, hk, hm⟩ := Option.bind_eq_some_iff.mp hm
      split at hm
      · next hc =>
        cases hm
        have hpush := hf.push .ordinary (.again number r.top.flags.ignoreCase)
        have hagain : (again number r.top.flags.ignoreCase).raised base.opened =
            again (number + base.opened) f.flags.ignoreCase := by
          rw [hf.flags]
          rfl
        rw [hagain] at hpush
        refine ⟨_, ?_, hforward, _, fs, closed, rfl, hclosed, .cons hpush hfs⟩
        rw [Reader.move?, hknown hk, Option.bind_some, if_pos (hclosed number hc)]
        rfl
      · cases hm
    | given name =>
      obtain ⟨number, hk, rfl⟩ := Option.map_eq_some_iff.mp hm
      refine ⟨_, ?_, hforward, _, f :: fs, closed, rfl, hclosed,
        .cons (.new (.given number) _ e' _) (.cons hf hfs)⟩
      rw [Reader.move?, hknown hk, Option.map_some, hf.flags]
      rfl

theorem names_eq (h : base.Within r R) :
    R.names.map Prod.fst = r.names.map Prod.fst ++ base.names.map Prod.fst := by
  obtain ⟨-, f, fs, closed, rfl, -, -⟩ := h
  rw [List.map_append, List.map_map]
  rfl

/-- Both can open a group with a name, if what refers to it may stand there. -/
theorem named (h : base.Within r R) (hb : base.Forward) (name : Text) (e e' : Nat) :
    base.Within (r.enterNamed name e) (R.enterNamed name e') := by
  obtain ⟨-, f, fs, closed, rfl, hclosed, hall⟩ := h
  cases hall with
  | cons hf hfs =>
    refine ⟨fun _ => hb, ⟨.group (r.opened + base.opened + 1), e', f.flags, [], []⟩, f :: fs,
      closed, ?_, hclosed, .cons ?_ (.cons hf hfs)⟩
    · simp [enterNamed, enterGroup, Reader.enter, Nat.add_right_comm]
    · rw [hf.flags, Nat.add_right_comm]
      exact .new (.group (r.opened + 1)) _ _ _

end Reader.Within

theorem Reader.finish_eq_ok {r : Reader} {p : Pattern} {n : Nat} (h : r.finish = .ok (p, n)) :
    r.outer = [] ∧ r.top.pattern = p ∧ r.opened = n := by
  simp only [finish] at h
  split at h
  · cases h
  · next ho =>
    split at h
    · cases h
    · split at h
      · cases h
      · cases h
        exact ⟨by simpa using ho, rfl, rfl⟩

/-- Within another pattern a portable one is read to its end, in front of the parenthesis that
closes the group around it, if the names that it has given to groups and will give to others are all
new. -/
theorem PortableFrom.exists_within {base r R : Reader} {t : Text} {p : Pattern} {n : Nat}
    {given : List Text} (h : PortableFrom r t p n given) (hr : r.Numbered)
    (hb : r.bottom.head = (.plain, .stepText)) (hw : base.Within r R)
    (hnew : base.Fresh ((r.names.map Prod.fst).reverse ++ given)) (rest : Text) :
    ∃ r' R' : Reader, r'.outer = [] ∧ r'.top.head = (.plain, .stepText) ∧ r'.top.pattern = p ∧
      r'.opened = n ∧ r'.Numbered ∧ base.Within r' R' ∧
      r'.names.map Prod.fst = given.reverse ++ r.names.map Prod.fst ∧
      readFrom R (t ++ ')' :: rest) = readFrom R' (')' :: rest) := by
  induction h generalizing R with
  | @done r p n h =>
    obtain ⟨ho, hp, hn⟩ := Reader.finish_eq_ok h
    rw [Reader.bottom, ho] at hb
    exact ⟨r, R, ho, hb, hp, hn, hr, hw, rfl, rfl⟩
  | @step r next c u after p n given hc h hl hrest ih =>
    -- A remark in a verbose group cannot reach the end of the text, as the group is still open then.
    have hend : after = [] → next = r → r.top.flags.verbose = false := by
      rintro rfl rfl
      cases hrest with
      | done hfinish =>
        rw [Reader.bottom, (Reader.finish_eq_ok hfinish).1] at hb
        rw [show next.top.flags = .stepText from congrArg Prod.snd hb]
        rfl
    obtain ⟨m, hmove, hmakes⟩ := exists_move hc hend h
    obtain ⟨Next, hMove, hnext⟩ := hw.move hr hmove ((u ++ ')' :: rest).length + 1)
    have hsame : next.names = r.names := (Reader.open_of_move hr hmove).1
    obtain ⟨r', R', houter, hhead, hp, hn, hr', hw', hnames, hread⟩ :=
      ih (hr.move hmove) ((Reader.head_bottom_move hr hmove).trans hb) hnext (by rwa [hsame])
    refine ⟨r', R', houter, hhead, hp, hn, hr', hw', hnames.trans (by rw [hsame]), ?_⟩
    have hstep := hmakes R Next (')' :: rest) hw.flags rfl hMove
    have hlength : (after ++ ')' :: rest).length ≤ (u ++ ')' :: rest).length := by
      simp only [List.length_append]
      omega
    rw [List.cons_append, readFrom_cons hstep hlength, hread]
  | @named r next name u after p n given hname h hl hrest ih =>
    have hbase : base.Forward := hnew.forward (by simp)
    have hunknown : name ∉ R.names.map Prod.fst := by
      rw [hw.names_eq, List.mem_append, not_or]
      refine ⟨fun hown => ?_, hnew.unknown name (by simp)⟩
      have hapart := (List.nodup_append.mp hnew.nodup).2.2
      exact hapart name (List.mem_reverse.mpr hown) name List.mem_cons_self rfl
    obtain ⟨⟨rfl, -⟩, hstep⟩ := readStep_named_append hname h hunknown (')' :: rest)
    have hgiven : base.Fresh
        (((r.enterNamed name (u.length + 4)).names.map Prod.fst).reverse ++ given) := by
      simpa [Reader.enterNamed, Reader.enterGroup, Reader.enter] using hnew
    obtain ⟨r', R', houter, hhead, hp, hn, hr', hw', hnames, hread⟩ :=
      ih (hr.enterNamed name _) (by rw [← hb]; exact congrArg Frame.head (r.bottom_enter _ _ _))
        (hw.named hbase name (u.length + 4) ((u ++ ')' :: rest).length + 4)) hgiven
    refine ⟨r', R', houter, hhead, hp, hn, hr', hw', ?_, ?_⟩
    · rw [hnames, List.reverse_cons, List.append_assoc]
      rfl
    · have hlength : (after ++ ')' :: rest).length ≤
          ('?' :: 'P' :: '<' :: (u ++ ')' :: rest)).length := by
        simp only [List.length_cons, List.length_append]
        omega
      simp only [List.cons_append]
      rw [readFrom_cons hstep hlength, hread]

/-- In front of anything but a question mark or a plus sign, the text adds items with `n` groups of
their own, which fit where groups have been opened up to a number, and gives groups the names that
are listed, if these are new. -/
def Gains (w : Text) (given : List Text) (n : Nat) (fits : Nat → Pattern → Prop) : Prop :=
  ∀ (r : Reader) (rest : Text), r.top.flags = .stepText → Unquantified rest → r.Fresh given →
    ∃ items closed names,
      readFrom r (w ++ rest) =
        readFrom { r.add items with
          opened := r.opened + n, closed := closed, names := names ++ r.names } rest ∧
      names.map Prod.fst = given.reverse ∧ (row items).Between r.opened (r.opened + n) ∧
      fits r.opened (row items)

theorem Gains.of_reads {w : Text} {items : List Item} (h : Reads .stepText w items)
    (hp : (row items).Plain) : Gains w [] 0 fun _ p => p = row items := by
  intro r rest hf hu _
  exact ⟨items, r.closed, [], h r rest hf hu, rfl, hp.between _ _, rfl⟩

theorem Gains.imp {w : Text} {given : List Text} {n : Nat} {fits fits' : Nat → Pattern → Prop}
    (h : Gains w given n fits) (hi : ∀ k p, fits k p → fits' k p) : Gains w given n fits' := by
  intro r rest hf hu hnew
  obtain ⟨items, closed, names, hread, hnames, hbetween, hfits⟩ := h r rest hf hu hnew
  exact ⟨items, closed, names, hread, hnames, hbetween, hi _ _ hfits⟩

/-- A part without groups in front changes neither how many groups there are nor what they take. -/
theorem Gains.behind {v w : Text} {items : List Item} (hv : Reads .stepText v items)
    (hp : (row items).Plain) {given : List Text} {n : Nat} {fits : Nat → Pattern → Prop}
    (h : Gains w given n fits) (hn : w ≠ []) (hu : Unquantified w) :
    Gains (v ++ w) given n fun _ _ => True := by
  intro r rest hf hr hnew
  have hw : Unquantified (w ++ rest) := by
    cases w with
    | nil => exact absurd rfl hn
    | cons c w => exact hu
  obtain ⟨more, closed, names, hread, hnames, hbetween, -⟩ :=
    h (r.add items) rest hf hr (hnew.add items)
  refine ⟨items ++ more, closed, names, ?_, hnames, between_row_iff.mpr fun item hi => ?_, trivial⟩
  · rw [List.append_assoc, hv r (w ++ rest) hf hw, hread, Reader.add_add]
    rfl
  · cases List.mem_append.mp hi with
    | inl hi => exact between_row_iff.mp (hp.between _ _) item hi
    | inr hi => exact between_row_iff.mp hbetween item hi

/-- A portable pattern in a silent group adds it as one item with its numbers raised, and as many
groups as it has. -/
theorem PortableFrom.gains {w : Text} {p : Pattern} {n : Nat} {given : List Text}
    (h : PortableFrom (.start .stepText) w p n given) :
    Gains ("(?:".toList ++ w ++ [')']) given n fun k q =>
      p.Numbered n ∧ q = row [⟨.ordinary, p.raised k⟩] := by
  intro r rest hf _ hnew
  have hw : "(?:".toList ++ w ++ [')'] ++ rest = '(' :: '?' :: ':' :: (w ++ ')' :: rest) := by simp
  have hstart : (Reader.start .stepText).Numbered :=
    ⟨⟨trivial, .new⟩, fun _ hf => absurd hf List.not_mem_nil,
      fun _ he => absurd he List.not_mem_nil⟩
  have hwithin : r.Within (.start .stepText)
      (r.enter .plain ((w ++ ')' :: rest).length + 3) r.top.flags) := by
    refine ⟨absurd rfl, ⟨.plain, (w ++ ')' :: rest).length + 3, r.top.flags, [], []⟩, [], r.closed,
      ?_, fun number hn => ?_, .cons ?_ .nil⟩
    · simp [Reader.enter, Reader.start]
    · cases hn
    · rw [hf]
      exact .new .plain _ _ _
  obtain ⟨r', R', houter, hhead, rfl, rfl, hr', ⟨-, f, fs, closed, rfl, -, hall⟩, hnames, hread⟩ :=
    h.exists_within hstart rfl hwithin hnew rest
  rw [houter] at hall
  cases hall with
  | cons hlike hfs =>
    cases hfs
    have hopening : r'.top.opening = .plain := congrArg Prod.fst hhead
    have hplain : f.opening = .plain := by
      rw [hlike.opening, hopening]
      rfl
    have hnumbered : r'.top.pattern.Numbered r'.opened :=
      hr'.top.holds.pattern (composes_numbered _)
    refine ⟨[⟨.ordinary, r'.top.pattern.raised r.opened⟩], closed,
      r'.names.map fun entry => (entry.1, entry.2 + r.opened), ?_, ?_,
      ⟨hnumbered.between_raised _, trivial⟩, hnumbered, rfl⟩
    · rw [hw, readFrom_enter hf, hread]
      refine readFrom_cons ?_ (Nat.le_refl _)
      rw [readStep_closing]
      simp only [List.nil_append, Reader.leave, hplain, hlike.pattern]
      rw [Nat.add_comm]
      rfl
    · rw [List.map_map]
      exact hnames.trans (List.append_nil _)

/-- A regular pattern in a silent group adds an item, and as many groups as it has. -/
theorem Regular.gains {w : Text} {n : Nat} (h : Regular w n) :
    Gains ("(?:".toList ++ w ++ [')']) [] n fun _ _ => True := by
  obtain ⟨p, hp⟩ := RegularFrom.exists_portableFrom h
  exact hp.gains.imp fun _ _ _ => trivial

end Phrasebook.Pattern

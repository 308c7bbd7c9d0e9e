import Phrasebook.Proofs.Pattern.Generated
import Phrasebook.Proofs.Pattern.Nesting
import Phrasebook.Proofs.Template.Pieces

/-!
# How the groups of a template lie

The types of a template may number groups of their own. As long as each says rightly how many, every
field reads the group that was made for it, whatever else the patterns contain: the groups take
texts from left to right, and none is overwritten by those after it.
-/

namespace Phrasebook

open Phrase (Piece namesIn fill)

namespace Pattern

theorem Firm.anchor {letter : Char} {place : Anchor} (h : anchorEscape? letter false = some place) :
    Firm .stepText ['\\', letter] [⟨.anchor, .anchor place⟩] := by
  intro r rest hf
  change readFrom r ('\\' :: letter :: rest) = _
  refine readFrom_cons ?_ (Nat.le_succ _)
  have hf' : r.top.flags.ascii = false := by rw [hf]; rfl
  rw [readStep_backslash]
  simp [readEscape, hf', h, Reader.pushAnchor, Reader.push_eq_add]

theorem plain_charItem (c : Char) : (charItem c).pattern.Plain := trivial

theorem mem_outcomes_row_append {items more : List Item} {s t : Spot} :
    t ∈ (row (items ++ more)).outcomes s ↔
      ∃ w, w ∈ (row items).outcomes s ∧ t ∈ (row more).outcomes w := by
  induction items generalizing s with
  | nil => simp [outcomes]
  | cons item items ih =>
    simp only [List.cons_append, row_cons, outcomes, List.mem_flatMap, ih]
    constructor
    · rintro ⟨v, hv, w, hw, ht⟩
      exact ⟨w, ⟨v, hv, hw⟩, ht⟩
    · rintro ⟨w, ⟨v, hv, hw⟩, ht⟩
      exact ⟨v, hv, w, hw, ht⟩

def enclosed (items : List Item) : Pattern :=
  row (⟨.anchor, .anchor (.start false)⟩ :: items ++ [⟨.anchor, .anchor .finish⟩])

theorem mem_outcomes_enclosed {items : List Item} {text : Text} {t : Spot} :
    t ∈ (enclosed items).outcomes (.ofText text) ↔
      t ∈ (row items).outcomes (.ofText text) ∧ t.after = [] := by
  have hstart : (Spot.ofText text).satisfies (.start false) = true := rfl
  rw [enclosed, List.cons_append, row_cons, outcomes, outcomes, if_pos hstart, List.flatMap_cons,
    List.flatMap_nil, List.append_nil, mem_outcomes_row_append]
  constructor
  · rintro ⟨w, hw, ht⟩
    by_cases he : w.after = []
    · have heq : t = w := by simpa [outcomes, Spot.satisfies, he] using ht
      exact ⟨heq ▸ hw, heq ▸ he⟩
    · simp [outcomes, Spot.satisfies, he] at ht
  · rintro ⟨ht, he⟩
    exact ⟨t, ht, by simp [outcomes, Spot.satisfies, he]⟩

/-- A group with a number around such a text. -/
theorem Gains.group {w : Text} {given : List Text} {n : Nat} {fits : Nat → Pattern → Prop}
    (h : Gains w given n fits) (hq : w.head? ≠ some '?') {r : Reader}
    (hf : r.top.flags = .stepText) (hnew : r.Fresh given) (rest : Text) :
    ∃ body closed names,
      readFrom r ('(' :: w ++ ')' :: rest) =
        readFrom { r.add [⟨.ordinary, .group (r.opened + 1) body⟩] with
          opened := r.opened + 1 + n, closed := closed, names := names ++ r.names } rest ∧
      names.map Prod.fst = given.reverse ∧ body.Between (r.opened + 1) (r.opened + 1 + n) ∧
      fits (r.opened + 1) body := by
  have hhead : (w ++ ')' :: rest).head? ≠ some '?' := by
    cases w with
    | nil => simp
    | cons c w => simpa using hq
  have hclose : Unquantified (')' :: rest) := ⟨by decide, by decide⟩
  obtain ⟨items, closed, names, hread, hnames, hbetween, hfits⟩ :=
    h (r.enterGroup ((w ++ ')' :: rest).length + 1)) (')' :: rest) hf hclose (hnew.enterGroup _)
  refine ⟨row items, (r.opened + 1, (row items).width closed) :: closed, names, ?_, hnames, hbetween,
    hfits⟩
  rw [List.cons_append, readFrom_enterGroup hf hhead, hread]
  refine readFrom_cons ?_ (Nat.le_refl _)
  have hv : r.top.flags.verbose = false := by rw [hf]; rfl
  simp [readStep, Reader.add, Reader.enterGroup, Reader.enter, hv, Reader.leave, Reader.push,
    Frame.pattern, sequence_reverse]

section Laid

variable (count : Text → Nat) (fits : Text → Nat → Pattern → Prop)

/-- Items for pieces, given the numbers of groups before and after them. A placeholder has a group
around a pattern that fits it there, which numbers as many groups as it should. -/
inductive Laid : Nat → List Piece → List Item → Nat → Prop where
  | nil (n : Nat) : Laid n [] [] n
  | plain {n m : Nat} {c : Char} {ps : List Piece} {items : List Item} (h : Laid n ps items m) :
      Laid n (.plain c :: ps) (charItem c :: items) m
  | hole {n m : Nat} {name : Text} {body : Pattern} {ps : List Piece} {items : List Item}
      (hb : body.Between (n + 1) (n + 1 + count name)) (hf : fits name (n + 1) body)
      (h : Laid (n + 1 + count name) ps items m) :
      Laid n (.hole name :: ps) (⟨.ordinary, .group (n + 1) body⟩ :: items) m

/-- How many groups stand before the group of each placeholder. -/
def places : Nat → List Text → List Nat
  | _, [] => []
  | n, name :: names => n :: places (n + 1 + count name) names

end Laid

variable {count : Text → Nat} {fits : Text → Nat → Pattern → Prop}

theorem Laid.le {n m : Nat} {ps : List Piece} {items : List Item}
    (h : Laid count fits n ps items m) : n ≤ m := by
  induction h with
  | nil => exact Nat.le_refl _
  | plain _ ih => exact ih
  | hole _ _ _ ih => omega

/-- Patterns that fit in one way may fit in another. -/
theorem Laid.imp {fits' : Text → Nat → Pattern → Prop} {n m : Nat} {ps : List Piece} {items : List Item}
    (h : Laid count fits n ps items m) (hi : ∀ name k p, fits name k p → fits' name k p) :
    Laid count fits' n ps items m := by
  induction h with
  | nil n => exact .nil n
  | plain _ ih => exact .plain ih
  | hole hb hf _ ih => exact .hole hb (hi _ _ _ hf) ih

theorem text_of_remember {s w : Spot} {c : Text} (h : w.before = c.reverse ++ s.before)
    (number : Nat) : ((w.remember number s).capture? number).map (·.text) = some c := by
  have hl : w.before.length - s.before.length = c.length := by
    rw [h, List.length_append, List.length_reverse]
    omega
  have ht : (w.before.take c.length).reverse = c := by
    rw [h, List.take_left' (by simp), List.reverse_reverse]
  simp [Spot.remember, Spot.capture?, hl, ht]

/-- What a group of a match holds: a placeholder's own pattern has taken it, where none of its own
groups had taken part. -/
def Took (fits : Nat → Pattern → Prop) (c : Capture) : Prop :=
  ∃ k body, fits k body ∧ ∃ s t : Spot, s.Unset k ∧ t ∈ body.outcomes s ∧ s.after = c.text ++ t.after

/-- The groups of the placeholders take texts, one after another, and with what stands between the
placeholders these are what the match passes. -/
theorem exists_captures {n m : Nat} {ps : List Piece} {items : List Item}
    (h : Laid count fits n ps items m) {s t : Spot} (hs : s.Unset n) (ht : t ∈ (row items).outcomes s) :
    s.Passes n m t ∧ ∃ cs : List Capture,
      List.Forall₂ (fun i c => t.capture? (i + 1) = some c ∧ i < m) (places count n (namesIn ps)) cs ∧
        List.Forall₂ (fun name c => Took (fits name) c) (namesIn ps) cs ∧
        s.after = fill ps (cs.map (·.text)) ++ t.after ∧
        cs.Pairwise (·.start ≤ ·.start) ∧
        ∀ c ∈ cs, s.before.length ≤ c.start ∧ c.text.length ≤ s.after.length := by
  induction h generalizing s with
  | nil n =>
    have he : t = s := by simpa [outcomes] using ht
    subst he
    exact ⟨Spot.Passes.refl t n n, [], .nil, .nil, rfl, .nil, by simp⟩
  | @plain n m c ps items hlaid ih =>
    obtain ⟨w, hw, ht⟩ := List.mem_flatMap.mp ht
    obtain ⟨u, hu, hg⟩ := (mem_outcomes_iff (plain_charItem c) s w).mp hw
    have hsw := Spot.Passes.of_goes hg n n
    obtain ⟨hwt, cs, hplaces, htook, hfill, hpair, hbounds⟩ := ih (hsw.unset hs (Nat.le_refl n)) ht
    refine ⟨(hsw.mono (Nat.le_refl n) hlaid.le).trans hwt, cs, hplaces, htook, ?_, hpair,
      fun d hd => ?_⟩
    · rw [hg.after, hfill, spells_charItem.mp hu]
      rfl
    · obtain ⟨hstart, hlength⟩ := hbounds d hd
      exact ⟨Nat.le_trans hsw.length_before hstart, Nat.le_trans hlength hsw.length_after⟩
  | @hole n m name body ps items hb hf hlaid ih =>
    obtain ⟨next, hnext, ht⟩ := List.mem_flatMap.mp ht
    obtain ⟨w, hw, rfl⟩ := List.mem_map.mp hnext
    have hle := hlaid.le
    have hsw := passing_of_between hb s w hw
    have hsnext := passes_remember hb hw
    obtain ⟨hwt, cs, hplaces, htook, hfill, hpair, hbounds⟩ := ih (hsnext.unset hs (by omega)) ht
    obtain ⟨u, hafter, hbefore⟩ := hsw.forward
    obtain ⟨own, hown, htext⟩ := Option.map_eq_some_iff.mp (text_of_remember hbefore (n + 1))
    have hstart : own.start = s.before.length := by
      have hsame : (w.remember (n + 1) s).capture? (n + 1) =
          some ⟨s.before.length, (w.before.take (w.before.length - s.before.length)).reverse⟩ := by
        simp [Spot.capture?, Spot.remember]
      rw [hsame] at hown
      exact (congrArg Capture.start (Option.some.inj hown)).symm
    have hkept : t.capture? (n + 1) = some own := by rw [hwt.kept (n + 1) (by omega), hown]
    have htaken : s.after = own.text ++ w.after := by rw [htext, hafter]
    refine ⟨(hsnext.mono (Nat.le_refl n) hle).trans (hwt.mono (by omega) (Nat.le_refl m)), own :: cs,
      .cons ⟨hkept, by omega⟩ hplaces,
      .cons ⟨n + 1, body, hf, s, w, hs.mono (Nat.le_succ n), hw, htaken⟩ htook,
      ?_, .cons (fun c hc => ?_) hpair, fun c hc => ?_⟩
    · rw [htaken, List.map_cons, fill, List.append_assoc]
      exact congrArg (own.text ++ ·) hfill
    · rw [hstart]
      exact Nat.le_trans hsw.length_before (hbounds c hc).1
    · cases List.mem_cons.mp hc with
      | inl he =>
        subst he
        refine ⟨Nat.le_of_eq hstart.symm, ?_⟩
        rw [htaken, List.length_append]
        omega
      | inr hr =>
        obtain ⟨hfrom, hlength⟩ := hbounds c hr
        exact ⟨Nat.le_trans hsw.length_before hfrom, Nat.le_trans hlength hsw.length_after⟩

theorem unset_ofText (text : Text) (k : Nat) : (Spot.ofText text).Unset k := fun _ _ => rfl

/-- The match of a whole text, by what the groups of the placeholders take in it. -/
theorem exists_captures_of_match? {m : Nat} {ps : List Piece} {items : List Item}
    (h : Laid count fits 0 ps items m) {text : Text} {s : Spot}
    (hm : (enclosed items).match? text = some s) :
    ∃ cs : List Capture,
      List.Forall₂ (fun i c => s.capture? (i + 1) = some c ∧ i < m) (places count 0 (namesIn ps)) cs ∧
        List.Forall₂ (fun name c => Took (fits name) c) (namesIn ps) cs ∧
        cs.Pairwise (·.start ≤ ·.start) ∧ ∀ c ∈ cs, c.text.length ≤ text.length := by
  rw [match?_eq_head?] at hm
  obtain ⟨hs, -⟩ := mem_outcomes_enclosed.mp (List.mem_of_mem_head? hm)
  obtain ⟨-, cs, hplaces, htook, -, hpair, hbounds⟩ := exists_captures h (unset_ofText text 0) hs
  exact ⟨cs, hplaces, htook, hpair, fun c hc => (hbounds c hc).2⟩

end Pattern

/-- The pattern of the type adds as many groups as the type says, and fits where it stands. It gives
groups the names that are listed. -/
structure FieldType.Adds {α : Type} (type : FieldType α) (given : List Text) (n : Nat)
    (fits : Nat → Pattern → Prop) : Prop where
  gains : Pattern.Gains type.pattern given n fits
  head : type.pattern.head? ≠ some '?'
  groups : type.groups.getD 0 = n

namespace FieldType

variable {α : Type} {type : FieldType α}

theorem Adds.imp {given : List Text} {n : Nat} {fits fits' : Nat → Pattern → Prop}
    (h : type.Adds given n fits) (hi : ∀ k p, fits k p → fits' k p) : type.Adds given n fits' :=
  ⟨h.gains.imp hi, h.head, h.groups⟩

/-- What the pattern of a type that numbers no groups is read as. -/
structure ReadsAs {α : Type} (type : FieldType α) (items : List Pattern.Item) : Prop where
  reads : Pattern.Reads .stepText type.pattern items
  head : type.pattern.head? ≠ some '?'
  plain : (Pattern.row items).Plain
  groups : type.groups = none

theorem ReadsAs.adds {items : List Pattern.Item} (h : type.ReadsAs items) :
    type.Adds [] 0 fun _ p => p = Pattern.row items :=
  ⟨.of_reads h.reads h.plain, h.head, by rw [h.groups]; rfl⟩

end FieldType

/-- A sign or a blank may stand before a number. -/
theorem Pattern.reads_signOrBlank :
    Reads .stepText "[-+ ]?".toList [loopItem (0, some 1) (oneOfItem ['-', '+', ' '] false).pattern] := by
  have hset : Firm .stepText ['[', '-', '+', ' ', ']'] [oneOfItem ['-', '+', ' '] false] :=
    Firm.set fun r rest => by simp [readSet, readMembers, readMember, Except.map]
  exact hset.quantified (c := '?') rfl

/-- What may stand before a field adds no groups. -/
theorem FieldType.Adds.signed {α : Type} {type : FieldType α} {given : List Text} {n : Nat}
    {fits : Nat → Pattern → Prop} (h : type.Adds given n fits) (hn : type.pattern ≠ [])
    (hu : Pattern.Unquantified type.pattern) (name : Text) :
    FieldType.Adds { type with pattern := Template.signPattern name ++ type.pattern } given n
      fun _ _ => True := by
  rw [Template.signPattern]
  split
  · refine ⟨h.gains.behind Pattern.reads_signOrBlank ?_ hn hu, ?_, h.groups⟩
    · simp [Pattern.loopItem, Pattern.oneOfItem, Pattern.setItem, Pattern.Plain]
    · simp
  · exact ⟨h.gains.imp fun _ _ _ => trivial, h.head, h.groups⟩

namespace Template

open Pattern

variable {α : Type} {typeOf : Text → FieldType α} {given : Text → List Text} {count : Text → Nat}
  {fits : Text → Nat → Pattern → Prop} {ps : List Piece}

/-- The fields read the groups of the placeholders, as long as the types say rightly how many groups
they number. -/
theorem indices_numbered {names : List Text}
    (hg : ∀ name ∈ names, (typeOf name).groups.getD 0 = count name) (n : Nat) :
    (numbered n (names.map typeOf)).map (·.index.toNat) = places count n names := by
  induction names generalizing n with
  | nil => rfl
  | cons name names ih =>
    have hnext : (n : Int) + count name + 1 = ((n + 1 + count name : Nat) : Int) := by omega
    rw [List.map_cons, numbered, hg name (by simp), hnext, List.map_cons,
      ih fun other ho => hg other (by simp [ho])]
    rfl

theorem countable_of_getD {type : FieldType α} {n : Nat} (h : type.groups.getD 0 = n) :
    Countable type := by
  intro m hm
  rw [Option.mem_def.mp hm, Option.getD_some] at h
  omega

/-- So no two fields of such types read one group. -/
theorem fields_of_places {t : Template α} (hf : t.fields = numbered 0 ((namesIn ps).map typeOf))
    (hg : ∀ name ∈ namesIn ps, (typeOf name).groups.getD 0 = count name)
    {r : Nat → Capture → Prop} {cs : List Capture}
    (h : List.Forall₂ r (places count 0 (namesIn ps)) cs) :
    Apart t.fields ∧ List.Forall₂ (fun f c => r f.index.toNat c) t.fields cs := by
  rw [hf]
  refine ⟨apart_numbered (Int.le_refl 0) fun type ht => ?_, ?_⟩
  · obtain ⟨name, hn, rfl⟩ := List.mem_map.mp ht
    exact countable_of_getD (hg name hn)
  · rw [← indices_numbered hg 0, List.forall₂_map_left_iff] at h
    exact h

theorem firm_plainText (typeOf : Text → FieldType α) (c : Char) :
    Firm .stepText (pieceText typeOf (.plain c)) [charItem c] := by
  rw [pieceText]
  split
  · next h =>
    have hsign : Text.isAsciiLetter c = false ∧ Text.isAsciiDigit c = false := by
      rw [Bool.or_eq_true, decide_eq_true_eq, decide_eq_true_eq] at h
      rcases h with rfl | rfl <;> decide
    exact Firm.escaped hsign.1 hsign.2
  · next h =>
    rw [plainText]
    split
    · next he =>
      have hsigns : ∀ d ∈ escapedChars, Text.isAsciiLetter d = false ∧ Text.isAsciiDigit d = false :=
        List.forall_iff_forall_mem.mp (by decide)
      obtain ⟨hl, hd⟩ := hsigns c (by simpa using he)
      exact Firm.escaped hl hd
    · next he =>
      have hmeta : ∀ d ∈ metaChars, d = '{' ∨ d ∈ escapedChars :=
        List.forall_iff_forall_mem.mp (by decide)
      refine Firm.char fun hc => ?_
      cases hmeta c hc with
      | inl ho => simp [ho] at h
      | inr hm => exact he (by simpa using hm)

theorem exists_laid
    (h : ∀ name ∈ namesIn ps, (typeOf name).Adds (given name) (count name) (fits name)) {r : Reader}
    (hf : r.top.flags = .stepText) (hnew : r.Fresh ((namesIn ps).flatMap given)) (rest : Text) :
    ∃ items m closed names, Laid count fits r.opened ps items m ∧
      readFrom r (ps.flatMap (pieceText typeOf) ++ rest) =
        readFrom { r.add items with opened := m, closed := closed, names := names } rest := by
  induction ps generalizing r with
  | nil => exact ⟨[], r.opened, r.closed, r.names, .nil r.opened, rfl⟩
  | cons p ps ih =>
    cases p with
    | plain c =>
      obtain ⟨items, m, closed, names, hlaid, hread⟩ := ih h (r := r.add [charItem c]) hf (hnew.add _)
      refine ⟨charItem c :: items, m, closed, names, .plain hlaid, ?_⟩
      rw [List.flatMap_cons, List.append_assoc, firm_plainText typeOf c r _ hf, hread,
        Reader.add_add]
      rfl
    | hole name =>
      have hname := h name (by simp)
      have hgiven : r.Fresh (given name ++ (namesIn ps).flatMap given) := hnew
      obtain ⟨body, closed, names, hgroup, hnames, hbetween, hfits⟩ :=
        hname.gains.group hname.head hf hgiven.of_append (ps.flatMap (pieceText typeOf) ++ rest)
      obtain ⟨items, m, closed', names', hlaid, hread⟩ := ih (fun n hn => h n (by simp [hn]))
        (r := { r.add [⟨.ordinary, .group (r.opened + 1) body⟩] with
          opened := r.opened + 1 + count name, closed, names := names ++ r.names }) hf
        (hgiven.after (by rw [List.map_append, hnames]) fun hforward => hforward)
      refine ⟨_ :: items, m, closed', names', .hole hbetween hfits hlaid, ?_⟩
      have hw : (Piece.hole name :: ps).flatMap (pieceText typeOf) ++ rest =
          '(' :: (typeOf name).pattern ++ ')' :: (ps.flatMap (pieceText typeOf) ++ rest) := by
        simp [pieceText]
      rw [hw, hgroup, hread]
      simp [Reader.add]

/-- The pattern that is written for pieces is read as items laid out for them, if no two groups get
one name. -/
theorem exists_compiled
    (h : ∀ name ∈ namesIn ps, (typeOf name).Adds (given name) (count name) (fits name))
    (hnew : ((namesIn ps).flatMap given).Nodup) :
    ∃ items m, Laid count fits 0 ps items m ∧
      compile (expressionFor typeOf ps) = .ok (enclosed items, m) := by
  have hstart : Firm .stepText "\\A".toList [⟨.anchor, .anchor (.start false)⟩] := Firm.anchor rfl
  have hfinish : Firm .stepText "\\Z".toList [⟨.anchor, .anchor .finish⟩] := Firm.anchor rfl
  obtain ⟨items, m, closed, names, hlaid, hread⟩ := exists_laid h
    (r := (Reader.start .stepText).add [⟨.anchor, .anchor (.start false)⟩]) rfl
    (Reader.Fresh.add ⟨hnew, fun _ _ hn => absurd hn List.not_mem_nil, fun _ => Reader.forward_start _⟩ _)
    "\\Z".toList
  refine ⟨items, m, hlaid, ?_⟩
  have hend := hfinish { ((Reader.start .stepText).add [⟨.anchor, .anchor (.start false)⟩]).add items with
    opened := m, closed := closed, names := names } [] rfl
  rw [List.append_nil] at hend
  have hall : Pattern.read .stepText (expressionFor typeOf ps) = .ok (enclosed items, m) := by
    rw [Pattern.read, expressionFor, List.append_assoc, hstart _ _ rfl, hread, hend, readFrom]
    simp [Reader.finish, Reader.add, Reader.start, Frame.pattern, enclosed, ← sequence_reverse]
  rw [compile, hall]

theorem nodup_unnamed (names : List Text) : (names.flatMap fun _ => ([] : List Text)).Nodup := by
  rw [List.flatMap_eq_nil_iff.mpr fun _ _ => rfl]
  exact List.nodup_nil

/-- Types that give no names can be compiled together. -/
theorem exists_compiled_unnamed
    (h : ∀ name ∈ namesIn ps, (typeOf name).Adds [] (count name) (fits name)) :
    ∃ items m, Laid count fits 0 ps items m ∧
      compile (expressionFor typeOf ps) = .ok (enclosed items, m) :=
  exists_compiled h (nodup_unnamed _)

/-- If all types say rightly how many groups they number, a failure is that of a conversion on what
the group of its own placeholder has taken. What the fields convert with may have been written with
something in front. -/
theorem exists_of_read_eq_error {t : Template α} {written : Text → FieldType α}
    (h : ∀ name ∈ namesIn ps, (written name).Adds [] (count name) (fits name))
    (hg : ∀ name ∈ namesIn ps, (written name).groups = (typeOf name).groups)
    (hf : t.fields = numbered 0 ((namesIn ps).map typeOf))
    (hc : t.compiled = compile (expressionFor written ps)) {inject : Option Text → α} {text : Text}
    {failure : Failure} (hr : t.read inject text = .error failure) :
    ∃ name c, name ∈ namesIn ps ∧ Took (fits name) c ∧ c.text.length ≤ text.length ∧
      (typeOf name).convert (inject (some c.text)) = .error failure := by
  obtain ⟨items, m, hlaid, hcompile⟩ := exists_compiled_unnamed h
  rw [hcompile] at hc
  cases hm : (enclosed items).match? text with
  | none =>
    simp only [read, hc, hm] at hr
    cases hr
  | some s =>
    obtain ⟨cs, hplaces, htook, -, hlength⟩ := exists_captures_of_match? hlaid hm
    have hgroups : ∀ name ∈ namesIn ps, (typeOf name).groups.getD 0 = count name :=
      fun name hn => hg name hn ▸ (h name hn).groups
    obtain ⟨hapart, hcaptures⟩ := fields_of_places hf hgroups hplaces
    rw [read_of_captures hapart hc hm hcaptures, hf, types_numbered] at hr
    obtain ⟨left, type, old, right, hz, -, hfail⟩ :=
      exists_of_convertEach_eq_error (eq_error_of_map hr)
    have hm : (type, old) ∈ left ++ (type, old) :: right := by simp
    rw [← hz, List.zip_map] at hm
    obtain ⟨⟨name, c⟩, hpair, he⟩ := List.mem_map.mp hm
    cases he
    obtain ⟨hn, hcs⟩ := List.of_mem_zip hpair
    exact ⟨name, c, hn, (List.forall₂_iff_zip.mp htook).2 hpair, hlength c hcs, hfail⟩

end Template

end Phrasebook

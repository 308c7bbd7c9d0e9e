import Mathlib.Data.List.Forall2
import Phrasebook.ParameterType
import Phrasebook.Pattern.Syntax

/-!
# Reading written patterns part by part

A written pattern is read with a stack of open groups. Most parts of it leave the stack as it was
and add items to the innermost group, whatever stands before and after them. `Firm` and `Reads` say
this of a part, so that the reading of a whole is put together from the readings of its parts. A
part that ends in a quantifier is not firm: a question mark or a plus sign after it would be taken
as belonging to the quantifier. Most parts are read alike under all flags that take characters
exactly as they are written.
-/

namespace Phrasebook.Pattern

def row (items : List Item) : Pattern := items.foldr (fun item rest => seq item.pattern rest) empty

@[simp] theorem row_nil : row [] = empty := rfl

@[simp] theorem row_cons (item : Item) (items : List Item) :
    row (item :: items) = seq item.pattern (row items) := rfl

theorem sequence_reverse (items : List Item) : sequence items.reverse = row items := by
  rw [sequence, List.foldl_reverse]
  rfl

def Reader.add (r : Reader) (items : List Item) : Reader :=
  { r with top := { r.top with items := items.reverse ++ r.top.items } }

@[simp] theorem Reader.add_add (r : Reader) (items more : List Item) :
    (r.add items).add more = r.add (items ++ more) := by
  simp [add]

theorem Reader.push_eq_add (r : Reader) (kind : ItemKind) (p : Pattern) :
    r.push kind p = r.add [⟨kind, p⟩] := rfl

/-- Nothing that would change the kind of a quantifier in front. -/
def Unquantified : Text → Prop
  | [] => True
  | c :: _ => c ≠ '?' ∧ c ≠ '+'

/-- Under the flags and in front of anything, the part adds the items. -/
def Firm (flags : Flags) (w : Text) (items : List Item) : Prop :=
  ∀ (r : Reader) (rest : Text), r.top.flags = flags →
    readFrom r (w ++ rest) = readFrom (r.add items) rest

/-- Under the flags and in front of anything but a question mark or a plus sign, the part adds the
items. -/
def Reads (flags : Flags) (w : Text) (items : List Item) : Prop :=
  ∀ (r : Reader) (rest : Text), r.top.flags = flags → Unquantified rest →
    readFrom r (w ++ rest) = readFrom (r.add items) rest

variable {flags : Flags}

theorem Firm.reads {w : Text} {items : List Item} (h : Firm flags w items) : Reads flags w items :=
  fun r rest hf _ => h r rest hf

theorem Firm.nil : Firm flags [] [] := fun _ _ _ => rfl

theorem Firm.append {w w' : Text} {items items' : List Item} (h : Firm flags w items)
    (h' : Firm flags w' items') : Firm flags (w ++ w') (items ++ items') := by
  intro r rest hf
  rw [List.append_assoc, h r _ hf, h' (r.add items) rest hf, Reader.add_add]

theorem Firm.append_reads {w w' : Text} {items items' : List Item} (h : Firm flags w items)
    (h' : Reads flags w' items') : Reads flags (w ++ w') (items ++ items') := by
  intro r rest hf hu
  rw [List.append_assoc, h r _ hf, h' (r.add items) rest hf hu, Reader.add_add]

theorem Reads.append {w w' : Text} {items items' : List Item} (h : Reads flags w items)
    (h' : Reads flags w' items') (hn : w' ≠ []) (hu : Unquantified w') :
    Reads flags (w ++ w') (items ++ items') := by
  intro r rest hf hr
  have hw : Unquantified (w' ++ rest) := by
    cases w' with
    | nil => exact absurd rfl hn
    | cons c w' => exact hu
  rw [List.append_assoc, h r _ hf hw, h' (r.add items) rest hf hr, Reader.add_add]

/-- One step of reading. -/
theorem readFrom_cons {r next : Reader} {c : Char} {rest after : Text}
    (h : readStep r c rest = .ok (next, after)) (hl : after.length ≤ rest.length) :
    readFrom r (c :: rest) = readFrom next after := by
  rw [readFrom, h]
  simp [hl]

/-- A part that is a pattern on its own. -/
theorem Reads.read_eq {w : Text} {items : List Item} (h : Reads flags w items) :
    read flags w = .ok (row items, 0) := by
  have hr := h (.start flags) [] rfl trivial
  rw [List.append_nil] at hr
  rw [read, hr, readFrom]
  simp [Reader.add, Reader.start, Reader.finish, Frame.pattern, sequence_reverse]

/-- Flags under which characters are taken exactly as they are written: not in the other case, no
blank is passed over, and no class is cut down to ASCII. -/
class Flags.Exact (f : Flags) : Prop where
  ignoreCase : f.ignoreCase = false
  verbose : f.verbose = false
  ascii : f.ascii = false

instance (multiline dotAll : Bool) : Flags.Exact ⟨false, multiline, dotAll, false, false⟩ :=
  ⟨rfl, rfl, rfl⟩

instance : Flags.stepText.Exact := ⟨rfl, rfl, rfl⟩

variable [flags.Exact]

def setItem (set : CharSet) : Item := ⟨.ordinary, .one set⟩

def charItem (c : Char) : Item := setItem (.only c)

theorem pushSet_eq_add {r : Reader} (hf : r.top.flags = flags) (ranges : List CharRange)
    (negated : Bool) :
    r.pushSet ranges negated = r.add [setItem ⟨ranges, negated, false, false⟩] := by
  rw [Reader.pushSet, hf, Flags.Exact.ignoreCase, Flags.Exact.ascii, Reader.push_eq_add]
  rfl

theorem pushCode_eq_add {r : Reader} (hf : r.top.flags = flags) (c : Char) :
    r.pushCode c.toNat = r.add [charItem c] :=
  pushSet_eq_add hf [.single c.toNat] false

def metaChars : Text := ['\\', '[', '*', '+', '?', '\x7b', '.', '(', ')', '|', '^', '$']

theorem readStep_of_not_meta {r : Reader} {c : Char}
    (hv : r.top.flags.verbose = true → Text.isAsciiBlank c = false ∧ c ≠ '#') (h : c ∉ metaChars)
    (rest : Text) : readStep r c rest = .ok (r.pushCode c.toNat, rest) := by
  have hblank : (r.top.flags.verbose && Text.isAsciiBlank c) = false := by
    cases hf : r.top.flags.verbose with
    | false => rfl
    | true => rw [(hv hf).1, Bool.and_false]
  have hsign : (r.top.flags.verbose && decide (c = '#')) = false := by
    cases hf : r.top.flags.verbose with
    | false => rfl
    | true => rw [decide_eq_false (hv hf).2, Bool.and_false]
  simp only [metaChars, List.mem_cons, not_or] at h
  unfold readStep
  simp only [hblank, hsign, Bool.false_eq_true, ↓reduceIte]
  split <;> simp_all

/-- A character without a meaning of its own stands for itself. -/
theorem Firm.char {c : Char} (h : c ∉ metaChars) : Firm flags [c] [charItem c] := by
  intro r rest hf
  refine readFrom_cons ?_ (Nat.le_refl _)
  have hv : r.top.flags.verbose = true → Text.isAsciiBlank c = false ∧ c ≠ '#' := by
    intro hv
    rw [hf, Flags.Exact.verbose] at hv
    cases hv
  rw [readStep_of_not_meta hv h, pushCode_eq_add hf]
  rfl

theorem ne_of_isAsciiLetter {c d : Char} (h : Text.isAsciiLetter c = false)
    (hd : Text.isAsciiLetter d = true) : c ≠ d := by
  rintro rfl
  simp [h] at hd

/-- No escape that means something of its own begins with anything but a letter or a digit. -/
theorem readEscape_of_sign {r : Reader} {c : Char} (rest : Text)
    (hl : Text.isAsciiLetter c = false) (hd : Text.isAsciiDigit c = false) :
    readEscape r c rest = .ok (r.pushCode c.toNat, rest) := by
  have hne : ∀ d, Text.isAsciiLetter d = true → c ≠ d := fun d => ne_of_isAsciiLetter hl
  have hanchor : anchorEscape? c r.top.flags.ascii = none := by
    simp [anchorEscape?, hne 'A' rfl, hne 'Z' rfl, hne 'b' rfl, hne 'B' rfl]
  have hclass : classEscape? c = none := by
    simp [classEscape?, hne 'd' rfl, hne 'D' rfl, hne 's' rfl, hne 'S' rfl, hne 'w' rfl, hne 'W' rfl]
  have hcontrol : controlEscape? c = none := by
    simp [controlEscape?, hne 'a' rfl, hne 'f' rfl, hne 'n' rfl, hne 'r' rfl, hne 't' rfl, hne 'v' rfl]
  have hcode : codeEscape? c rest = none := by
    simp [codeEscape?, hne 'x' rfl, hne 'u' rfl, hne 'U' rfl, hne 'N' rfl]
  have hzero : c ≠ '0' := by
    rintro rfl
    exact absurd hd (by decide)
  simp [readEscape, hanchor, hclass, hcontrol, hcode, hzero, hd, hl]

/-- A backslash and what follows it. -/
theorem readStep_backslash (r : Reader) (c : Char) (rest : Text) :
    readStep r '\\' (c :: rest) = readEscape r c rest := by
  simp [readStep, Text.isAsciiBlank]

/-- An escaped character that is neither letter nor digit stands for itself. -/
theorem Firm.escaped {c : Char} (hl : Text.isAsciiLetter c = false)
    (hd : Text.isAsciiDigit c = false) : Firm flags ['\\', c] [charItem c] := by
  intro r rest hf
  change readFrom r ('\\' :: c :: rest) = _
  refine readFrom_cons ?_ (Nat.le_succ _)
  rw [readStep_backslash, readEscape_of_sign rest hl hd, pushCode_eq_add hf]

/-- An escaped letter that names a class takes one character of it. -/
theorem Firm.named {letter : Char} {range : CharRange} (h : classEscape? letter = some range)
    (ha : anchorEscape? letter false = none) :
    Firm flags ['\\', letter] [setItem ⟨[range], false, false, false⟩] := by
  intro r rest hf
  change readFrom r ('\\' :: letter :: rest) = _
  refine readFrom_cons ?_ (Nat.le_succ _)
  have hf' : r.top.flags.ascii = false := by rw [hf, Flags.Exact.ascii]
  rw [readStep_backslash]
  simp [readEscape, hf', ha, h, pushSet_eq_add hf]

/-- The dot takes every character. -/
theorem Firm.dot : Firm .stepText ['.'] [setItem .all] := by
  intro r rest hf
  refine readFrom_cons ?_ (Nat.le_refl _)
  have hv : r.top.flags.verbose = false := by rw [hf, Flags.Exact.verbose]
  have hd : r.top.flags.dotAll = true := by rw [hf]; rfl
  simp [readStep, hv, hd, Reader.push_eq_add, setItem]

/-- A set in brackets, if it is read the same whatever stands behind it. -/
theorem Firm.set {w : Text} {ranges : List CharRange} {negated : Bool}
    (h : ∀ (r : Reader) (rest : Text), readSet r (w ++ rest) = .ok (r.pushSet ranges negated, rest)) :
    Firm flags ('[' :: w) [setItem ⟨ranges, negated, false, false⟩] := by
  intro r rest hf
  refine readFrom_cons ?_ (by simp)
  have hv : r.top.flags.verbose = false := by rw [hf, Flags.Exact.verbose]
  simp [readStep, hv, h, pushSet_eq_add hf]

/-- The numbers of repetitions that a quantifier of one character allows. -/
def bounds? (c : Char) : Option (Nat × Option Nat) :=
  if c = '*' then some (0, none)
  else if c = '+' then some (1, none)
  else if c = '?' then some (0, some 1)
  else none

def loopItem (bounds : Nat × Option Nat) (p : Pattern) : Item :=
  ⟨.repeated, .loop bounds.1 bounds.2 .most p⟩

theorem readStep_quantifier (r : Reader) {c : Char} {bounds : Nat × Option Nat}
    (hb : bounds? c = some bounds) (rest : Text) :
    readStep r c rest = quantify r (rest.length + 1) bounds.1 bounds.2 rest := by
  unfold bounds? at hb
  split at hb
  · next hc =>
    cases hb
    simp [readStep, Text.isAsciiBlank, hc]
  · split at hb
    · next hc =>
      cases hb
      simp [readStep, Text.isAsciiBlank, hc]
    · split at hb
      · next hc =>
        cases hb
        simp [readStep, Text.isAsciiBlank, hc]
      · cases hb

omit [flags.Exact] in
/-- A quantifier repeats the item before it. -/
theorem Firm.quantified {w : Text} {p : Pattern} (h : Firm flags w [⟨.ordinary, p⟩]) {c : Char}
    {bounds : Nat × Option Nat} (hb : bounds? c = some bounds) :
    Reads flags (w ++ [c]) [loopItem bounds p] := by
  intro r rest hf hu
  rw [List.append_assoc, h r _ hf]
  refine readFrom_cons ?_ (Nat.le_refl _)
  refine (readStep_quantifier _ hb rest).trans ?_
  cases rest with
  | nil => rfl
  | cons d rest =>
    obtain ⟨hd, hd'⟩ := hu
    simp [quantify, Reader.add, Reader.push, loopItem, hd, hd']

def choice : List (List Item) → Pattern
  | [] => empty
  | [items] => row items
  | items :: next :: rest => alt (row items) (choice (next :: rest))

def Reader.addChoice (r : Reader) : List (List Item) → Reader
  | [] => r
  | [items] => r.add items
  | items :: next :: rest => addChoice (r.add items).branch (next :: rest)

theorem Reader.addChoice_frame (r : Reader) (choices : List (List Item)) :
    r.addChoice choices =
      { r with top := { r.top with
          finished := (r.addChoice choices).top.finished
          items := (r.addChoice choices).top.items } } := by
  fun_induction Reader.addChoice r choices with
  | case1 r => rfl
  | case2 r items => rfl
  | case3 r items next rest ih =>
    rw [ih]
    rfl

theorem Reader.pattern_addChoice (r : Reader) {choices : List (List Item)} (hn : choices ≠ [])
    (hi : r.top.items = []) :
    (r.addChoice choices).top.pattern =
      r.top.finished.foldl (fun rest p => alt p rest) (choice choices) := by
  fun_induction Reader.addChoice r choices with
  | case1 r => exact absurd rfl hn
  | case2 r items => simp [Frame.pattern, add, hi, choice, sequence_reverse]
  | case3 r items next rest ih =>
    rw [ih (by simp) rfl]
    simp [branch, add, hi, choice, sequence_reverse]

theorem readFrom_join {r : Reader} {ws : List Text} {choices : List (List Item)}
    (h : List.Forall₂ (Reads flags) ws choices) (hf : r.top.flags = flags) (ho : r.top.opening = .plain)
    (rest : Text) :
    readFrom r (Text.join ['|'] ws ++ ')' :: rest) = readFrom (r.addChoice choices) (')' :: rest) := by
  induction h generalizing r with
  | nil => rfl
  | @cons w items ws choices hw hws ih =>
    have hclose : Unquantified (')' :: rest) := ⟨by decide, by decide⟩
    cases hws with
    | nil =>
      have hj : Text.join ['|'] [w] = w := by simp [Text.join, List.intercalate]
      rw [hj]
      exact hw r _ hf hclose
    | @cons w' items' ws choices hw' hws =>
      have hbar : Unquantified ('|' :: (Text.join ['|'] (w' :: ws) ++ ')' :: rest)) :=
        ⟨by decide, by decide⟩
      have hv : r.top.flags.verbose = false := by rw [hf, Flags.Exact.verbose]
      have hj : Text.join ['|'] (w :: w' :: ws) ++ ')' :: rest =
          w ++ '|' :: (Text.join ['|'] (w' :: ws) ++ ')' :: rest) := by
        simp [Text.join, List.intercalate]
      rw [hj, hw r _ hf hbar, Reader.addChoice, ← ih (r := (r.add items).branch) hf ho]
      refine readFrom_cons ?_ (Nat.le_refl _)
      simp [readStep, hv, Reader.add, ho]

/-- Closing a group adds an item to the frame around it. -/
theorem readFrom_leave {r : Reader} {fromEnd : Nat} {choices : List (List Item)}
    (hn : choices ≠ []) (rest : Text) :
    readFrom ((r.enter .plain fromEnd flags).addChoice choices) (')' :: rest) =
      readFrom (r.add [⟨.ordinary, choice choices⟩]) rest := by
  have hp := Reader.pattern_addChoice (r.enter .plain fromEnd flags) hn rfl
  rw [Reader.addChoice_frame] at hp ⊢
  refine readFrom_cons ?_ (Nat.le_refl _)
  have hv : flags.verbose = false := Flags.Exact.verbose
  simp only [readStep, Reader.enter, hv, Bool.false_and, Bool.false_eq_true, ↓reduceIte,
    Reader.leave]
  rw [Reader.push_eq_add]
  exact congrArg (fun p => Except.ok (r.add [⟨.ordinary, p⟩], rest)) hp

/-- A silent group is opened. -/
theorem readFrom_enter {r : Reader} (hf : r.top.flags = flags) (after : Text) :
    readFrom r ('(' :: '?' :: ':' :: after) =
      readFrom (r.enter .plain (after.length + 3) r.top.flags) after := by
  have hv : r.top.flags.verbose = false := by rw [hf, Flags.Exact.verbose]
  refine readFrom_cons ?_ (by simp only [List.length_cons]; omega)
  simp [readStep, hv, readExtension]

/-- A group with a number is opened. -/
theorem readFrom_enterGroup {r : Reader} (hf : r.top.flags = flags) {after : Text}
    (ha : after.head? ≠ some '?') :
    readFrom r ('(' :: after) = readFrom (r.enterGroup (after.length + 1)) after := by
  have hv : r.top.flags.verbose = false := by rw [hf, Flags.Exact.verbose]
  refine readFrom_cons ?_ (Nat.le_refl _)
  cases after with
  | nil => simp [readStep, hv]
  | cons c after =>
    have hc : c ≠ '?' := fun hc => ha (by simp [hc])
    simp [readStep, hv, hc]

/-- A silent group is one item. -/
theorem Firm.silent {ws : List Text} {choices : List (List Item)}
    (h : List.Forall₂ (Reads flags) ws choices) (hn : choices ≠ []) :
    Firm flags ("(?:".toList ++ Text.join ['|'] ws ++ [')']) [⟨.ordinary, choice choices⟩] := by
  intro r rest hf
  subst hf
  have hw : "(?:".toList ++ Text.join ['|'] ws ++ [')'] ++ rest =
      '(' :: '?' :: ':' :: (Text.join ['|'] ws ++ ')' :: rest) := by simp
  rw [hw, readFrom_enter rfl, readFrom_join h (by rfl) rfl, readFrom_leave hn]

end Phrasebook.Pattern

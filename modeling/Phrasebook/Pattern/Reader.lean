import Phrasebook.Pattern.Basic
import Phrasebook.Pattern.Flaw

/-!
# The state of reading a written pattern

A written pattern is read from left to right with a stack of open groups. The frame on top collects
the alternatives of the innermost group; closing it turns them into one item of the frame below.
This file holds the frames and what may be done with them; `Pattern/Syntax` reads the characters.
-/

namespace Phrasebook.Pattern

/-- The switches that change how a part of a pattern is read. -/
structure Flags where
  ignoreCase : Bool
  multiline : Bool
  dotAll : Bool
  verbose : Bool
  ascii : Bool
  deriving DecidableEq

/-- Patterns of step texts let the dot take line ends. -/
def Flags.stepText : Flags := ⟨false, false, true, false, false⟩

/-- A pattern on its own has no switches but, when asked for, ignoring case. -/
def Flags.standalone (ignoreCase : Bool) : Flags := ⟨ignoreCase, false, false, false, false⟩

/-- The least and the greatest number of characters that a pattern can take, up to a limit. -/
structure Width where
  least : Nat
  greatest : Nat
  deriving DecidableEq

def widthLimit : Nat := Nat.pow 2 64

/-- How many characters a pattern can take, given the widths of the groups before it. -/
def width (groups : List (Nat × Width)) : Pattern → Width
  | empty | anchor _ | look _ _ _ => ⟨0, 0⟩
  | one _ => ⟨1, 1⟩
  | seq first second =>
    let a := first.width groups
    let b := second.width groups
    ⟨min (a.least + b.least) widthLimit, min (a.greatest + b.greatest) widthLimit⟩
  | alt left right =>
    let a := left.width groups
    let b := right.width groups
    ⟨min a.least b.least, max a.greatest b.greatest⟩
  | loop least most? _ body =>
    let w := body.width groups
    let greatest := match most? with
      | some most => w.greatest * most
      | none => if w.greatest = 0 then 0 else widthLimit
    ⟨min (w.least * least) widthLimit, min greatest widthLimit⟩
  | group _ body | atomic body => body.width groups
  | again number _ => (groups.lookup number).getD ⟨0, 0⟩
  | given _ present absent =>
    let a := present.width groups
    let b := absent.width groups
    ⟨min a.least b.least, max a.greatest b.greatest⟩

inductive ItemKind where
  | ordinary
  | anchor
  | repeated
  deriving DecidableEq

/-- A part of a sequence that is being read. -/
structure Item where
  kind : ItemKind
  pattern : Pattern

/-- How an open group began. -/
inductive Opening where
  | plain
  | group (number : Nat)
  /-- With the number of groups opened before it. -/
  | look (backward negated : Bool) (groupsBefore : Nat)
  | atomic
  | given (number : Nat)
  deriving DecidableEq

/-- A group that is open, or the whole pattern. -/
structure Frame where
  opening : Opening
  /-- How far before the end it began. -/
  fromEnd : Nat
  flags : Flags
  /-- The alternatives read completely, the last one first. -/
  finished : List Pattern
  /-- The alternative being read, the last item first. -/
  items : List Item

/-- The items of a sequence, given the last one first. -/
def sequence (items : List Item) : Pattern :=
  items.foldl (fun rest item => seq item.pattern rest) empty

def Frame.pattern (f : Frame) : Pattern :=
  f.finished.foldl (fun rest p => alt p rest) (sequence f.items)

structure Reader where
  top : Frame
  outer : List Frame
  /-- The number of groups opened so far. -/
  opened : Nat
  /-- The widths of the groups that were closed. -/
  closed : List (Nat × Width)
  names : List (Text × Nat)
  /-- Groups that a condition asks for, and where. -/
  awaited : List (Nat × Nat)
  /-- The first look-behind that has no fixed width. -/
  lookFault? : Option PatternFlaw

namespace Reader

def start (flags : Flags) : Reader := ⟨⟨.plain, 0, flags, [], []⟩, [], 0, [], [], [], none⟩

def push (r : Reader) (kind : ItemKind) (p : Pattern) : Reader :=
  { r with top := { r.top with items := ⟨kind, p⟩ :: r.top.items } }

def pushSet (r : Reader) (ranges : List CharRange) (negated : Bool) : Reader :=
  r.push .ordinary (.one ⟨ranges, negated, r.top.flags.ignoreCase, r.top.flags.ascii⟩)

def pushCode (r : Reader) (code : Nat) : Reader := r.pushSet [.single code] false

def pushAnchor (r : Reader) (place : Anchor) : Reader := r.push .anchor (.anchor place)

def enter (r : Reader) (opening : Opening) (fromEnd : Nat) (flags : Flags) : Reader :=
  { r with top := ⟨opening, fromEnd, flags, [], []⟩, outer := r.top :: r.outer }

def enterGroup (r : Reader) (fromEnd : Nat) : Reader :=
  { r with opened := r.opened + 1 }.enter (.group (r.opened + 1)) fromEnd r.top.flags

/-- Opens a group with the next number and a name. -/
def enterNamed (r : Reader) (name : Text) (fromEnd : Nat) : Reader :=
  { r with names := (name, r.opened + 1) :: r.names }.enterGroup fromEnd

def branch (r : Reader) : Reader :=
  { r with top := { r.top with finished := sequence r.top.items :: r.top.finished, items := [] } }

/-- How many groups were open or closed before the outermost look-behind that is being read. -/
def lookBehindGroups? (r : Reader) : Option Nat :=
  (r.top :: r.outer).foldl (fun found f => match f.opening with
    | .look true _ groupsBefore => some groupsBefore
    | _ => found) none

/-- Whether a group may be referred to at this place as far as look-behinds are concerned. -/
def lookBehindFlaw? (r : Reader) (number : Nat) : Option PatternFlaw :=
  r.lookBehindGroups?.bind fun before =>
    if (r.closed.lookup number).isNone then some .groupStillOpen
    else if before < number then some .groupInSameLookBehind
    else none

/-- The body of a condition, with nothing in place of a branch that is not there. -/
def givenBody (number : Nat) (f : Frame) : Pattern :=
  match f.finished with
  | present :: _ => .given number present (sequence f.items)
  | [] => .given number (sequence f.items) .empty

/-- Closes the innermost group, which becomes an item of the one around it. -/
def leave (r : Reader) (around : Frame) (outer : List Frame) : Reader :=
  let body := r.top.pattern
  let rest := { r with top := around, outer := outer }
  match r.top.opening with
  | .plain => rest.push .ordinary body
  | .group number =>
    { rest with closed := (number, body.width r.closed) :: r.closed }.push .ordinary
      (.group number body)
  | .look false negated _ => rest.push .ordinary (.look none negated body)
  | .look true negated _ =>
    let w := body.width r.closed
    let fault? :=
      if Nat.pow 2 32 ≤ w.least then some PatternFlaw.distantLookBehind
      else if w.least ≠ w.greatest then some .variableLookBehind
      else none
    { rest with lookFault? := r.lookFault?.or fault? }.push .ordinary
      (.look (some w.least) negated body)
  | .atomic => rest.push .ordinary (.atomic body)
  | .given number => rest.push .ordinary (givenBody number r.top)

end Reader

end Phrasebook.Pattern

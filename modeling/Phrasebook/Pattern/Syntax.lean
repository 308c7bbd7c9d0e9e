import Phrasebook.Pattern.Reader
import Phrasebook.Text.CharacterNames
import Phrasebook.Text.Identifier

/-!
# Written patterns

`Pattern.read` reads a written pattern. Characters stand for themselves unless they are special;
a backslash takes a special character literally, names a class, a position or a group, or begins a
code. Groups may be numbered, named, silent, atomic, conditional or mere tests of what comes next or
before, and may switch flags. A flaw is reported where it is found.
-/

namespace Phrasebook.Pattern

/-- What a step of reading gives: the state, and the characters still to be read. -/
abbrev Step := Except PatternFault (Reader × Text)

def flawAt {α : Type} (flaw : PatternFlaw) (fromEnd : Nat) : Except PatternFault α :=
  .error ⟨flaw, some fromEnd⟩

def isOctalDigit (c : Char) : Bool := '0' ≤ c && c ≤ '7'

def upTo (n : Nat) (cls : Char → Bool) (t : Text) : Text × Text :=
  let taken := (t.take n).takeWhile cls
  (taken, t.drop taken.length)

def numberIn (base : Nat) (digits : Text) : Nat :=
  digits.foldl (fun n c => base * n + (Text.hexDigit? c).getD 0) 0

/-- The name up to a terminator, and what follows it. A backslash goes with its follower. -/
def nameUntil? (terminator : Char) : Text → Option (Text × Text)
  | [] => none
  | '\\' :: c :: rest =>
    (nameUntil? terminator rest).map fun found => ('\\' :: c :: found.1, found.2)
  | c :: rest =>
    if c = terminator then some ([], rest)
    else (nameUntil? terminator rest).map fun found => (c :: found.1, found.2)

/-- The name up to a terminator, which may be neither missing nor empty. -/
def nameUntil (terminator : Char) (what t : Text) : Except PatternFault (Text × Text) :=
  match nameUntil? terminator t with
  | some ([], rest) => flawAt (.missing what) (rest.length + 1)
  | some found => .ok found
  | none =>
    if t.isEmpty then flawAt (.missing what) 0 else flawAt (.unterminated [terminator]) t.length

def hexEscape (letter : Char) (digits : Nat) (rest : Text) : Except PatternFault (Nat × Text) :=
  let (taken, rest) := upTo digits (fun c => (Text.hexDigit? c).isSome) rest
  let escape := '\\' :: letter :: taken
  let code := numberIn 16 taken
  if taken.length ≠ digits then flawAt (.incompleteEscape escape) (rest.length + escape.length)
  else if 0x10ffff < code then flawAt (.badEscape escape) (rest.length + escape.length)
  else .ok (code, rest)

def namedEscape (rest : Text) : Except PatternFault (Nat × Text) :=
  match rest with
  | '{' :: rest => do
    let (name, rest) ← nameUntil '}' "character name".toList rest
    match Text.characterNamed? name with
    | some code => .ok (code, rest)
    | none => flawAt (.unknownCharacterName name) (rest.length + name.length + 4)
  | rest => flawAt (.missing ['{']) rest.length

def codeEscape? (letter : Char) (rest : Text) : Option (Except PatternFault (Nat × Text)) :=
  if letter = 'x' then some (hexEscape 'x' 2 rest)
  else if letter = 'u' then some (hexEscape 'u' 4 rest)
  else if letter = 'U' then some (hexEscape 'U' 8 rest)
  else if letter = 'N' then some (namedEscape rest)
  else none

/-- The control characters that have a letter. -/
def controlEscape? (letter : Char) : Option Nat :=
  if letter = 'a' then some 7
  else if letter = 'f' then some 12
  else if letter = 'n' then some 10
  else if letter = 'r' then some 13
  else if letter = 't' then some 9
  else if letter = 'v' then some 11
  else none

def classEscape? (letter : Char) : Option CharRange :=
  if letter = 'd' then some (.named .digit false)
  else if letter = 'D' then some (.named .digit true)
  else if letter = 's' then some (.named .blank false)
  else if letter = 'S' then some (.named .blank true)
  else if letter = 'w' then some (.named .word false)
  else if letter = 'W' then some (.named .word true)
  else none

def anchorEscape? (letter : Char) (ascii : Bool) : Option Anchor :=
  if letter = 'A' then some (.start false)
  else if letter = 'Z' then some .finish
  else if letter = 'b' then some (.wordEdge ascii false)
  else if letter = 'B' then some (.wordEdge ascii true)
  else none

def refer (r : Reader) (number digits : Nat) (rest : Text) : Step :=
  if r.opened < number then flawAt (.noSuchGroup number) (rest.length + digits)
  else if (r.closed.lookup number).isNone then flawAt .groupStillOpen (rest.length + digits + 1)
  else
    match r.lookBehindFlaw? number with
    | some flaw => flawAt flaw rest.length
    | none => .ok (r.push .ordinary (.again number r.top.flags.ignoreCase), rest)

/-- A backslash and a digit other than zero: three octal digits are a character, anything else is a
reference of one or two digits. -/
def digitEscape (r : Reader) (digit : Char) (rest : Text) : Step :=
  match rest with
  | second :: rest' =>
    if Text.isAsciiDigit second then
      match rest' with
      | third :: rest'' =>
        if isOctalDigit digit && isOctalDigit second && isOctalDigit third then
          let code := numberIn 8 [digit, second, third]
          if 0o377 < code then
            flawAt (.octalTooLarge ['\\', digit, second, third]) (rest''.length + 4)
          else .ok (r.pushCode code, rest'')
        else refer r (numberIn 10 [digit, second]) 2 rest'
      | [] => refer r (numberIn 10 [digit, second]) 2 rest'
    else refer r (numberIn 10 [digit]) 1 rest
  | [] => refer r (numberIn 10 [digit]) 1 rest

def readEscape (r : Reader) (letter : Char) (rest : Text) : Step :=
  match anchorEscape? letter r.top.flags.ascii with
  | some place => .ok (r.pushAnchor place, rest)
  | none =>
  match classEscape? letter with
  | some cls => .ok (r.pushSet [cls] false, rest)
  | none =>
  match controlEscape? letter with
  | some code => .ok (r.pushCode code, rest)
  | none =>
  match codeEscape? letter rest with
  | some read => read.map fun found => (r.pushCode found.1, found.2)
  | none =>
    if letter = '0' then
      let (digits, rest) := upTo 2 isOctalDigit rest
      .ok (r.pushCode (numberIn 8 digits), rest)
    else if Text.isAsciiDigit letter then digitEscape r letter rest
    else if Text.isAsciiLetter letter then flawAt (.badEscape ['\\', letter]) (rest.length + 2)
    else .ok (r.pushCode letter.toNat, rest)

/-- A member of a set that is not a range: what it covers, how it was written but for the digits of
a code, and the rest. -/
def readMember (c : Char) (rest : Text) : Except PatternFault (CharRange × Text × Text) :=
  match c, rest with
  | '\\', [] => flawAt .escapeAtEnd 1
  | '\\', letter :: rest =>
    let written := ['\\', letter]
    match classEscape? letter with
    | some cls => .ok (cls, written, rest)
    | none =>
    match controlEscape? letter with
    | some code => .ok (.single code, written, rest)
    | none =>
    match codeEscape? letter rest with
    | some read => read.map fun found => (.single found.1, written, found.2)
    | none =>
      if letter = 'b' then .ok (.single 8, written, rest)
      else if isOctalDigit letter then
        let (digits, rest) := upTo 2 isOctalDigit rest
        let code := numberIn 8 (letter :: digits)
        let escape := '\\' :: letter :: digits
        if 0o377 < code then flawAt (.octalTooLarge escape) (rest.length + escape.length)
        else .ok (.single code, written, rest)
      else if Text.isAsciiDigit letter || Text.isAsciiLetter letter then
        flawAt (.badEscape written) (rest.length + 2)
      else .ok (.single letter.toNat, written, rest)
  | c, rest => .ok (.single c.toNat, [c], rest)

def rangeOf? : CharRange → CharRange → Option CharRange
  | .single first, .single last => if first ≤ last then some (.between first last) else none
  | _, _ => none

/-- The members of a set up to its closing bracket, which cannot come first. A set has at most as
many members as there are characters, which is the first argument. -/
def readMembers (opened : Nat) : Nat → List CharRange → Text →
    Except PatternFault (List CharRange × Text)
  | 0, _, _ => flawAt .openSet opened
  | _, _, [] => flawAt .openSet opened
  | n + 1, members, c :: rest =>
    if c = ']' && !members.isEmpty then .ok (members.reverse, rest)
    else
      match readMember c rest with
      | .error fault => .error fault
      | .ok (first, written, '-' :: rest) =>
        match rest with
        | [] => flawAt .openSet opened
        | ']' :: rest => .ok ((.single '-'.toNat :: first :: members).reverse, rest)
        | d :: rest =>
          match readMember d rest with
          | .error fault => .error fault
          | .ok (last, written', rest) =>
            match rangeOf? first last with
            | some range => readMembers opened n (range :: members) rest
            | none =>
              flawAt (.badRange written written')
                (rest.length + written.length + 1 + written'.length)
      | .ok (member, _, rest) => readMembers opened n (member :: members) rest

def readSet (r : Reader) (rest : Text) : Step :=
  let (negated, body) := match rest with
    | '^' :: body => (true, body)
    | body => (false, body)
  (readMembers (rest.length + 1) body.length [] body).map fun found =>
    (r.pushSet found.1 negated, found.2)

/-- Repeats the last item. A question mark after the quantifier makes it lazy, a plus sign keeps
what it took. -/
def quantify (r : Reader) (fromEnd least : Nat) (most? : Option Nat) (rest : Text) : Step :=
  match r.top.items with
  | [] => flawAt .nothingToRepeat fromEnd
  | item :: items =>
    let r := { r with top := { r.top with items := items } }
    match item.kind, rest with
    | .anchor, _ => flawAt .nothingToRepeat fromEnd
    | .repeated, _ => flawAt .repeatedRepeat fromEnd
    | .ordinary, '?' :: rest =>
      .ok (r.push .repeated (.loop least most? .fewest item.pattern), rest)
    | .ordinary, '+' :: rest =>
      .ok (r.push .repeated (.atomic (.loop least most? .most (.atomic item.pattern))), rest)
    | .ordinary, rest => .ok (r.push .repeated (.loop least most? .most item.pattern), rest)

/-- Repetitions have to be fewer than this. -/
def repeatLimit : Nat := Nat.pow 2 32 - 1

/-- The bounds of a counted repetition, as written, and the rest; nothing if the braces hold
anything else. -/
def readBounds? (t : Text) : Option (Text × Text × Text) :=
  if t.head? = some '}' then none
  else
    let least := t.takeWhile Text.isAsciiDigit
    match t.dropWhile Text.isAsciiDigit with
    | '}' :: rest => some (least, least, rest)
    | ',' :: rest =>
      let most := rest.takeWhile Text.isAsciiDigit
      match rest.dropWhile Text.isAsciiDigit with
      | '}' :: rest => some (least, most, rest)
      | _ => none
    | _ => none

def readBrace (r : Reader) (rest : Text) : Step :=
  match readBounds? rest with
  | none => .ok (r.pushCode '{'.toNat, rest)
  | some (leastDigits, mostDigits, after) =>
    let least := numberIn 10 leastDigits
    let most? := if mostDigits.isEmpty then none else some (numberIn 10 mostDigits)
    if repeatLimit ≤ least || most?.any (repeatLimit ≤ ·) then .error ⟨.repeatTooLarge, none⟩
    else if most?.any (· < least) then flawAt .repeatsReversed rest.length
    else quantify r (rest.length + 1) least most? after

structure Switches where
  ignoreCase : Bool
  multiline : Bool
  dotAll : Bool
  verbose : Bool
  ascii : Bool
  unicode : Bool
  whole : Bool

def Switches.off : Switches := ⟨false, false, false, false, false, false, false⟩

def Switches.add? (s : Switches) (letter : Char) : Option Switches :=
  if letter = 'i' then some { s with ignoreCase := true }
  else if letter = 'm' then some { s with multiline := true }
  else if letter = 's' then some { s with dotAll := true }
  else if letter = 'x' then some { s with verbose := true }
  else if letter = 'a' then some { s with ascii := true }
  else if letter = 'u' then some { s with unicode := true }
  else if letter = 't' then some { s with whole := true }
  else none

def Switches.meets (s t : Switches) : Bool :=
  (s.ignoreCase && t.ignoreCase) || (s.multiline && t.multiline) || (s.dotAll && t.dotAll) ||
    (s.verbose && t.verbose)

def Flags.switch (f : Flags) (on off : Switches) : Flags :=
  { ignoreCase := (f.ignoreCase || on.ignoreCase) && !off.ignoreCase
    multiline := (f.multiline || on.multiline) && !off.multiline
    dotAll := (f.dotAll || on.dotAll) && !off.dotAll
    verbose := (f.verbose || on.verbose) && !off.verbose
    ascii := if on.unicode then false else f.ascii || on.ascii }

def badFlag {α : Type} (c : Char) (rest : Text) (expected : String) : Except PatternFault α :=
  if Text.isLetter c then flawAt .unknownFlag (rest.length + 1)
  else flawAt (.missingFlagEnd expected.toList) (rest.length + 1)

def readFlagsOn : Switches → Text → Except PatternFault (Switches × Char × Text)
  | _, [] => flawAt (.missingFlagEnd "-, : or )".toList) 0
  | on, c :: rest =>
    if c = ')' || c = '-' || c = ':' then .ok (on, c, rest)
    else if c = 'L' then
      flawAt (.flagRefused "cannot use 'L' flag with a str pattern".toList) rest.length
    else
      match on.add? c with
      | none => badFlag c rest "-, : or )"
      | some on =>
        if on.ascii && on.unicode then
          flawAt (.flagRefused "flags 'a', 'u' and 'L' are incompatible".toList) rest.length
        else readFlagsOn on rest

/-- The flags to switch off up to a colon, and the rest. Whether there is one already decides what
may come next. -/
def readFlagsOff : Bool → Switches → Text → Except PatternFault (Switches × Text)
  | true, _, [] => flawAt (.missingFlagEnd [':']) 0
  | false, _, [] => flawAt (.missingFlagEnd "flag".toList) 0
  | begun, off, c :: rest =>
    if c = ':' && begun then .ok (off, rest)
    else if c = 'a' || c = 'u' || c = 'L' then
      flawAt (.flagRefused "cannot turn off flags 'a', 'u' and 'L'".toList) rest.length
    else
      match off.add? c with
      | none => badFlag c rest (if begun then ":" else "flag")
      | some off => readFlagsOff true off rest

/-- A group that switches flags for its body, or, in front of the whole pattern, a switch for
all of it. -/
def readFlags (r : Reader) (fromEnd : Nat) (t : Text) : Step := do
  let (on, stop, rest) ← readFlagsOn .off t
  if stop = ')' then
    if r.outer.isEmpty && r.top.finished.isEmpty && r.top.items.isEmpty then
      .ok ({ r with top := { r.top with flags := r.top.flags.switch on .off } }, rest)
    else flawAt .flagsNotFirst fromEnd
  else if on.whole then
    flawAt (.flagRefused "cannot turn on global flag".toList) (rest.length + 1)
  else if stop = ':' then .ok (r.enter .plain fromEnd (r.top.flags.switch on .off), rest)
  else
    let (off, rest) ← readFlagsOff false .off rest
    if off.whole then
      flawAt (.flagRefused "cannot turn off global flag".toList) (rest.length + 1)
    else if on.meets off then
      flawAt (.flagRefused "flag turned on and off".toList) (rest.length + 1)
    else .ok (r.enter .plain fromEnd (r.top.flags.switch on off), rest)

def readNamedGroup (r : Reader) (fromEnd : Nat) (t : Text) : Step := do
  let (name, rest) ← nameUntil '>' "group name".toList t
  let here := rest.length + name.length + 1
  if !Text.isIdentifier name then flawAt (.badGroupName name) here
  else
    match r.names.lookup name with
    | some previous => flawAt (.groupRedefined name (r.opened + 1) previous) here
    | none => .ok (r.enterNamed name fromEnd, rest)

def readNamedReference (r : Reader) (t : Text) : Step := do
  let (name, rest) ← nameUntil ')' "group name".toList t
  let here := rest.length + name.length + 1
  if !Text.isIdentifier name then flawAt (.badGroupName name) here
  else
    match r.names.lookup name with
    | none => flawAt (.unknownGroupName name) here
    | some number =>
      if (r.closed.lookup number).isNone then flawAt .groupStillOpen here
      else
        match r.lookBehindFlaw? number with
        | some flaw => flawAt flaw rest.length
        | none => .ok (r.push .ordinary (.again number r.top.flags.ignoreCase), rest)

def readCondition (r : Reader) (fromEnd : Nat) (t : Text) : Step := do
  let (name, rest) ← nameUntil ')' "group name".toList t
  let here := rest.length + name.length + 1
  let enterFor := fun (r : Reader) (number : Nat) =>
    match r.lookBehindFlaw? number with
    | some flaw => flawAt flaw rest.length
    | none => .ok (r.enter (.given number) fromEnd r.top.flags, rest)
  if Text.isIdentifier name then
    match r.names.lookup name with
    | none => flawAt (.unknownGroupName name) here
    | some number => enterFor r number
  else if name.all Text.isAsciiDigit then
    let number := numberIn 10 name
    if number = 0 then flawAt .groupZero here
    else enterFor { r with awaited := r.awaited ++ [(number, here)] } number
  else flawAt (.badGroupName name) here

def afterComment? : Text → Option Text
  | [] => none
  | '\\' :: _ :: rest => afterComment? rest
  | c :: rest => if c = ')' then some rest else afterComment? rest

def extensionMark (c : Char) (rest : Text) : Text := if c = '\\' then c :: rest.take 1 else [c]

def readExtension (r : Reader) (fromEnd : Nat) : Text → Step
  | [] => flawAt .unexpectedEnd 0
  | 'P' :: '<' :: rest => readNamedGroup r fromEnd rest
  | 'P' :: '=' :: rest => readNamedReference r rest
  | ['P'] => flawAt .unexpectedEnd 0
  | 'P' :: c :: rest =>
    flawAt (.unknownExtension ('?' :: 'P' :: extensionMark c rest)) (rest.length + 3)
  | ':' :: rest => .ok (r.enter .plain fromEnd r.top.flags, rest)
  | '#' :: rest =>
    match afterComment? rest with
    | some rest => .ok (r, rest)
    | none => flawAt .openComment fromEnd
  | '=' :: rest => .ok (r.enter (.look false false r.opened) fromEnd r.top.flags, rest)
  | '!' :: rest => .ok (r.enter (.look false true r.opened) fromEnd r.top.flags, rest)
  | '<' :: '=' :: rest => .ok (r.enter (.look true false r.opened) fromEnd r.top.flags, rest)
  | '<' :: '!' :: rest => .ok (r.enter (.look true true r.opened) fromEnd r.top.flags, rest)
  | ['<'] => flawAt .unexpectedEnd 0
  | '<' :: c :: rest =>
    flawAt (.unknownExtension ('?' :: '<' :: extensionMark c rest)) (rest.length + 3)
  | '(' :: rest => readCondition r fromEnd rest
  | '>' :: rest => .ok (r.enter .atomic fromEnd r.top.flags, rest)
  | c :: rest =>
    if c = '-' || c = 'L' || (Switches.off.add? c).isSome then readFlags r fromEnd (c :: rest)
    else flawAt (.unknownExtension ('?' :: extensionMark c rest)) (rest.length + 2)

def readStep (r : Reader) (c : Char) (rest : Text) : Step :=
  let here := rest.length + 1
  if r.top.flags.verbose && Text.isAsciiBlank c then .ok (r, rest)
  else if r.top.flags.verbose && c = '#' then .ok (r, (rest.dropWhile (· ≠ '\n')).drop 1)
  else
    match c with
    | '\\' =>
      match rest with
      | [] => flawAt .escapeAtEnd 1
      | letter :: rest => readEscape r letter rest
    | '[' => readSet r rest
    | '*' => quantify r here 0 none rest
    | '+' => quantify r here 1 none rest
    | '?' => quantify r here 0 (some 1) rest
    | '{' => readBrace r rest
    | '.' =>
      .ok (r.push .ordinary (.one (if r.top.flags.dotAll then .all else .withinLine)), rest)
    | '(' =>
      match rest with
      | '?' :: rest => readExtension r here rest
      | rest => .ok (r.enterGroup here, rest)
    | ')' =>
      match r.outer with
      | [] => flawAt .unbalanced here
      | around :: outer => .ok (r.leave around outer, rest)
    | '|' =>
      match r.top.opening, r.top.finished with
      | .given _, _ :: _ => flawAt .thirdBranch here
      | _, _ => .ok (r.branch, rest)
    | '^' => .ok (r.pushAnchor (.start r.top.flags.multiline), rest)
    | '$' => .ok (r.pushAnchor (.lineFinish r.top.flags.multiline), rest)
    | c => .ok (r.pushCode c.toNat, rest)

/-- The pattern read, once the text has ended: every group is closed, and the groups that were asked
for exist. -/
def Reader.finish (r : Reader) : Except PatternFault (Pattern × Nat) :=
  if !r.outer.isEmpty then flawAt .openGroup r.top.fromEnd
  else
    match r.awaited.find? fun (number, _) => r.opened < number with
    | some (number, fromEnd) => flawAt (.noSuchGroup number) fromEnd
    | none =>
      match r.lookFault? with
      | some flaw => .error ⟨flaw, none⟩
      | none => .ok (r.top.pattern, r.opened)

/-- Reads the rest of a pattern. Every step takes a character at least. -/
def readFrom (r : Reader) : Text → Except PatternFault (Pattern × Nat)
  | [] => r.finish
  | c :: rest =>
    match readStep r c rest with
    | .error fault => .error fault
    | .ok (next, after) =>
      if after.length ≤ rest.length then readFrom next after else flawAt .unexpectedEnd 0
termination_by t => t.length

/-- The pattern that a text writes, and how many groups it numbers. -/
def read (flags : Flags) (t : Text) : Except PatternFault (Pattern × Nat) :=
  readFrom (.start flags) t

end Phrasebook.Pattern

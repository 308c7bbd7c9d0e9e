import Phrasebook.Proofs.Json.Reader

/-!
# JSON documents are read back

A document in its compact form is JSON, and is read back as that very document, whatever the strings
in it hold. Numbers are held in their written form, so they have to be written as JSON has them. The
proof follows the reader: the compact form falls into the tokens of the document, and the tokens
make up the document again.
-/

namespace Phrasebook.Json

theorem hexDigit?_digitChar {n : Nat} (h : n < 16) : Text.hexDigit? (Nat.digitChar n) = some n := by
  have hall : ∀ i : Fin 16, Text.hexDigit? (Nat.digitChar i) = some i.val := by decide
  exact hall ⟨n, h⟩

theorem hex_control {n : Nat} (h : n < 0x20) :
    Text.hex 4 n = ['0', '0', Nat.digitChar (n / 16), Nat.digitChar (n % 16)] := by
  have hall : ∀ i : Fin 0x20,
      Text.hex 4 i = ['0', '0', Nat.digitChar (i / 16), Nat.digitChar (i % 16)] := by decide
  exact hall ⟨n, h⟩

theorem readUnit?_hex {n : Nat} (h : n < 0x20) (rest : Text) :
    readUnit? (Text.hex 4 n ++ rest) = some (n, rest) := by
  have hzero : Text.hexDigit? '0' = some 0 := by decide
  have hhigh := hexDigit?_digitChar (n := n / 16) (by omega)
  have hlow := hexDigit?_digitChar (n := n % 16) (by omega)
  have hn : n / 16 * 16 + n % 16 = n := by omega
  simp [hex_control h, readUnit?, hzero, hhigh, hlow, hn]

theorem readCode?_hex {n : Nat} (h : n < 0x20) (rest : Text) :
    readCode? (Text.hex 4 n ++ rest) = some (Char.ofNat n, rest) := by
  have hn : n < 0xd800 := by omega
  simp [readCode?, readUnit?_hex h, hn]

/-- A character is written by a backslash and a letter, by its code if it is another control
character, or else as it is. -/
theorem escapedChar_cases (c : Char) :
    (∃ letter, letter ≠ 'u' ∧ escapes.lookup letter = some c ∧ escapedChar c = ['\\', letter]) ∨
      (c.toNat < 0x20 ∧ escapedChar c = '\\' :: 'u' :: Text.hex 4 c.toNat) ∨
        (c ≠ '"' ∧ c ≠ '\\' ∧ ¬ c.toNat < 0x20 ∧ escapedChar c = [c]) := by
  -- a slash may be escaped, but it is not
  have hall : ∀ p ∈ escapes, p.2 ≠ '/' →
      p.1 ≠ 'u' ∧ escapes.lookup p.1 = some p.2 ∧ escapedChar p.2 = ['\\', p.1] := by decide
  by_cases hc : ∃ p ∈ escapes, p.2 ≠ '/' ∧ p.2 = c
  · obtain ⟨p, hp, hs, rfl⟩ := hc
    exact .inl ⟨p.1, hall p hp hs⟩
  · have hne : ∀ p ∈ escapes, p.2 ≠ '/' → c ≠ p.2 := fun p hp hs he => hc ⟨p, hp, hs, he.symm⟩
    simp [escapes] at hne
    by_cases hlow : c.toNat < 0x20
    · exact .inr (.inl ⟨hlow, by simp [escapedChar, hne, hlow]⟩)
    · exact .inr (.inr ⟨hne.1, hne.2.1, hlow, by simp [escapedChar, hne, hlow]⟩)

/-- A character of a string is read back, however it is written. -/
theorem readChar?_escapedChar (c : Char) (rest : Text) :
    readChar? (escapedChar c ++ rest) = some (c, rest) := by
  rcases escapedChar_cases c with ⟨letter, hu, hl, he⟩ | ⟨hlow, he⟩ | ⟨hq, hs, hlow, he⟩
  · simp [he, readChar?, hl]
  · simp [he, readChar?, readCode?_hex hlow]
  · simp [he, readChar?, hq, hs, Nat.le_of_not_lt hlow]

theorem readString?_of_readChar? {t rest : Text} {c : Char} (h : readChar? t = some (c, rest)) :
    readString? t = (readString? rest).map fun found => (c :: found.1, found.2) := by
  cases t with
  | nil => cases h
  | cons d t =>
  have hq : d ≠ '"' := by
    rintro rfl
    cases h
  rw [readString?, if_neg hq]
  split
  · next hn =>
    rw [hn] at h
    cases h
  · next he =>
    rw [he] at h
    cases h
    rfl

/-- A string is read back, whatever it holds. -/
theorem readString?_escaped (s rest : Text) :
    readString? (s.flatMap escapedChar ++ '"' :: rest) = some (s, rest) := by
  induction s with
  | nil => rw [List.flatMap_nil, List.nil_append, readString?, if_pos rfl]
  | cons c s ih =>
    rw [List.flatMap_cons, List.append_assoc, readString?_of_readChar? (readChar?_escapedChar c _),
      ih, Option.map_some]

/-- A pair of surrogates is one character, and a slash may be escaped. -/
example : readString? "\\ud83d\\uDE00\\/\"".toList = some (['😀', '/'], []) := by cbv

theorem isWordChar_of_isAsciiDigit {c : Char} (h : Text.isAsciiDigit c = true) :
    isWordChar c = true := by simp [isWordChar, h]

theorem isWordChar_of_isDigits {t : Text} (h : isDigits t = true) :
    ∀ c ∈ t, isWordChar c = true := by
  rw [isDigits, Bool.and_eq_true, List.all_eq_true] at h
  exact fun c hc => isWordChar_of_isAsciiDigit (h.2 c hc)

theorem isWordChar_of_isPower {t : Text} (h : isPower t = true) : ∀ c ∈ t, isWordChar c = true := by
  have hsigned : ∀ rest, isSigned rest = true → ∀ c ∈ rest, isWordChar c = true := by
    intro rest hs
    unfold isSigned at hs
    split at hs
    · exact List.forall_mem_cons.mpr ⟨by decide, isWordChar_of_isDigits hs⟩
    · exact List.forall_mem_cons.mpr ⟨by decide, isWordChar_of_isDigits hs⟩
    · exact isWordChar_of_isDigits hs
  cases t with
  | nil => exact fun c hc => absurd hc List.not_mem_nil
  | cons c rest =>
    simp only [isPower, Bool.and_eq_true, Bool.or_eq_true, beq_iff_eq] at h
    refine List.forall_mem_cons.mpr ⟨?_, hsigned rest h.2⟩
    rcases h.1 with rfl | rfl <;> decide

/-- Digits may stand in front. -/
theorem isWordChar_of_dropWhile {t : Text}
    (h : ∀ c ∈ t.dropWhile Text.isAsciiDigit, isWordChar c = true) :
    ∀ c ∈ t, isWordChar c = true := by
  intro c hc
  rw [← List.takeWhile_append_dropWhile (p := Text.isAsciiDigit) (l := t), List.mem_append] at hc
  exact hc.elim (fun hd => isWordChar_of_isAsciiDigit (List.mem_takeWhile_imp hd)) (h c)

theorem isWordChar_of_isUnsigned {t : Text} (h : isUnsigned t = true) :
    ∀ c ∈ t, isWordChar c = true := by
  rw [isUnsigned, Bool.and_eq_true] at h
  refine isWordChar_of_dropWhile ?_
  generalize t.dropWhile Text.isAsciiDigit = rest at h
  have hrest := h.2
  unfold isFraction at hrest
  split at hrest
  · rw [Bool.and_eq_true] at hrest
    exact List.forall_mem_cons.mpr
      ⟨by decide, isWordChar_of_dropWhile (isWordChar_of_isPower hrest.2)⟩
  · exact isWordChar_of_isPower hrest

/-- A number is a word. -/
theorem isWordChar_of_isNumber {t : Text} (h : isNumber t = true) :
    ∀ c ∈ t, isWordChar c = true := by
  unfold isNumber at h
  split at h
  · exact List.forall_mem_cons.mpr ⟨by decide, isWordChar_of_isUnsigned h⟩
  · exact isWordChar_of_isUnsigned h

/-- Decimal digits do not begin with a zero, except those of zero. -/
theorem head?_decimal {n : Nat} (h : 0 < n) : (Text.decimal n).head? ≠ some '0' := by
  induction n using Nat.strongRecOn with
  | ind n ih =>
    by_cases hn : n < 10
    · have hall : ∀ i : Fin 10, 0 < i.val → Nat.digitChar i ≠ '0' := by decide
      rw [Text.decimal, Nat.toDigits_of_lt_base hn]
      simpa using hall ⟨n, hn⟩ h
    · have hq := ih (n / 10) (by omega) (by omega)
      rw [Text.decimal] at hq
      obtain ⟨c, digits, hd⟩ := List.exists_cons_of_ne_nil (l := Nat.toDigits 10 (n / 10))
        Nat.toDigits_ne_nil
      rw [Text.decimal, Nat.toDigits_of_base_le (by decide) (Nat.le_of_not_lt hn), hd]
      rwa [hd] at hq

theorem isDigits_decimal (n : Nat) : isDigits (Text.decimal n) = true := by
  have hdigit : ∀ c ∈ Text.decimal n, Text.isAsciiDigit c = true :=
    fun _ hc => Nat.isDigit_of_mem_toDigits (by decide) (by decide) hc
  have hne : Text.decimal n ≠ [] := Nat.toDigits_ne_nil
  simpa [isDigits, hne] using hdigit

/-- The decimal digits of a number are one as JSON writes it. -/
theorem isNumber_decimal (n : Nat) : isNumber (Text.decimal n) = true := by
  have hdigits := isDigits_decimal n
  have hdigit : ∀ c ∈ Text.decimal n, Text.isAsciiDigit c = true := by
    rw [isDigits, Bool.and_eq_true, List.all_eq_true] at hdigits
    exact hdigits.2
  have hsign : ∀ rest, Text.decimal n ≠ '-' :: rest := by
    intro rest he
    exact absurd (hdigit '-' (by simp [he])) (by decide)
  have hwhole : isWhole (Text.decimal n) = true := by
    rw [isWhole, hdigits]
    cases n with
    | zero => decide
    | succ n => simp [head?_decimal (Nat.succ_pos n)]
  rw [isNumber.eq_2 _ hsign, isUnsigned, List.takeWhile_eq_self_iff.mpr hdigit,
    List.dropWhile_eq_nil_iff.mpr hdigit, hwhole]
  rfl

theorem ofWord?_of_isNumber {w : Text} (h : isNumber w = true) : ofWord? w = some (number w) := by
  have hne : ∀ name : Text, isNumber name = false → w ≠ name := by
    rintro name hn rfl
    rw [hn] at h
    cases h
  rw [ofWord?, if_neg (hne _ (by decide)), if_neg (hne _ (by decide)), if_neg (hne _ (by decide)),
    if_pos h]

mutual

def tokens : Json → List Token
  | array items => .openArray :: (itemTokens items ++ [.closeArray])
  | object members => .openObject :: (memberTokens members ++ [.closeObject])
  | value => [.plain value]

def itemTokens : List Json → List Token
  | [] => []
  | [item] => tokens item
  | item :: next :: rest => tokens item ++ .comma :: itemTokens (next :: rest)

def memberTokens : List (Text × Json) → List Token
  | [] => []
  | [(name, value)] => .plain (string name) :: .colon :: tokens value
  | (name, value) :: next :: rest =>
    .plain (string name) :: .colon :: (tokens value ++ .comma :: memberTokens (next :: rest))

end

mutual

/-- Every number in the document is written as JSON writes numbers. -/
def WellWritten : Json → Prop
  | number written => isNumber written = true
  | array items => ItemsWellWritten items
  | object members => MembersWellWritten members
  | null | bool _ | string _ => True

def ItemsWellWritten : List Json → Prop
  | [] => True
  | item :: rest => WellWritten item ∧ ItemsWellWritten rest

def MembersWellWritten : List (Text × Json) → Prop
  | [] => True
  | (_, value) :: rest => WellWritten value ∧ MembersWellWritten rest

end

theorem itemsWellWritten_iff {items : List Json} :
    ItemsWellWritten items ↔ ∀ item ∈ items, item.WellWritten := by
  induction items with
  | nil => simp [ItemsWellWritten]
  | cons item rest ih => simp [ItemsWellWritten, ih]

/-- Nothing that would make a word in front of it longer. -/
def Parted (rest : Text) : Prop := ∀ c ∈ rest.head?, isWordChar c = false

/-- In front of anything that does not make its last word longer, the text falls into the tokens. -/
def Lexes (w : Text) (ts : List Token) : Prop :=
  ∀ rest, Parted rest → tokens? (w ++ rest) = (tokens? rest).map (ts ++ ·)

theorem tokens?_of_readToken? {c : Char} {rest after : Text} {token : Token}
    (hb : isBlank c = false) (h : readToken? (c :: rest) = some (token, after)) :
    tokens? (c :: rest) = (tokens? after).map (token :: ·) := by
  rw [tokens?, hb, if_neg Bool.false_ne_true]
  split
  · next hn =>
    rw [hn] at h
    cases h
  · next he =>
    rw [he] at h
    cases h
    rfl

/-- A mark is no blank, no part of a word, and begins no string. -/
theorem Token.not_of_ofMark? {c : Char} {token : Token} (h : ofMark? c = some token) :
    isBlank c = false ∧ isWordChar c = false ∧ c ≠ '"' := by
  unfold ofMark? at h
  split at h
  all_goals first
    | decide
    | cases h

theorem not_of_isWordChar {c : Char} (h : isWordChar c = true) :
    isBlank c = false ∧ Token.ofMark? c = none ∧ c ≠ '"' := by
  refine ⟨Bool.eq_false_iff.mpr fun hb => ?_,
    Option.eq_none_iff_forall_ne_some.mpr fun token ht => ?_, ?_⟩
  · simp only [isBlank, Bool.or_eq_true, decide_eq_true_eq] at hb
    rcases hb with ((rfl | rfl) | rfl) | rfl <;> exact absurd h (by decide)
  · rw [(Token.not_of_ofMark? ht).2.1] at h
    cases h
  · rintro rfl
    exact absurd h (by decide)

theorem tokens?_mark {c : Char} {token : Token} (h : Token.ofMark? c = some token) (rest : Text) :
    tokens? (c :: rest) = (tokens? rest).map (token :: ·) := by
  obtain ⟨hb, -, hq⟩ := Token.not_of_ofMark? h
  refine tokens?_of_readToken? hb ?_
  rw [readToken?, if_neg hq, h]

theorem Lexes.nil : Lexes [] [] := by
  intro rest _
  simp

/-- Two texts with a mark between them. -/
theorem Lexes.glue {w w' : Text} {ts ts' : List Token} (h : Lexes w ts) {c : Char} {token : Token}
    (hc : Token.ofMark? c = some token) (h' : Lexes w' ts') :
    Lexes (w ++ c :: w') (ts ++ token :: ts') := by
  intro rest hr
  have hparted : Parted (c :: (w' ++ rest)) := by
    intro d hd
    cases hd
    exact (Token.not_of_ofMark? hc).2.1
  rw [List.append_assoc, List.cons_append, h _ hparted, tokens?_mark hc, h' rest hr]
  simp [Function.comp_def]

theorem lexes_string (s : Text) : Lexes (renderString s) [.plain (string s)] := by
  intro rest _
  have hw : renderString s ++ rest = '"' :: (s.flatMap escapedChar ++ '"' :: rest) := by
    simp [renderString]
  rw [hw]
  refine tokens?_of_readToken? rfl ?_
  rw [readToken?, if_pos rfl, readString?_escaped]
  rfl

theorem lexes_word {w : Text} {value : Json} (hne : w ≠ []) (hw : ∀ c ∈ w, isWordChar c = true)
    (h : ofWord? w = some value) : Lexes w [.plain value] := by
  intro rest hr
  obtain ⟨c, w, rfl⟩ := List.exists_cons_of_ne_nil hne
  obtain ⟨hb, hm, hq⟩ := not_of_isWordChar (hw c List.mem_cons_self)
  have hmore : ∀ d ∈ w, isWordChar d = true := fun d hd => hw d (List.mem_cons_of_mem c hd)
  have hend : rest.takeWhile isWordChar = [] ∧ rest.dropWhile isWordChar = rest := by
    cases rest with
    | nil => exact ⟨rfl, rfl⟩
    | cons d rest => simp [hr d rfl]
  have htake : (w ++ rest).takeWhile isWordChar = w := by
    rw [List.takeWhile_append_of_pos hmore, hend.1, List.append_nil]
  have hdrop : (w ++ rest).dropWhile isWordChar = rest := by
    rw [List.dropWhile_append_of_pos hmore, hend.2]
  refine tokens?_of_readToken? hb ?_
  rw [List.append_eq, readToken?, if_neg hq, hm, htake, hdrop, h]
  rfl

theorem lexes_number {w : Text} (h : isNumber w = true) : Lexes w [.plain (number w)] := by
  refine lexes_word ?_ (isWordChar_of_isNumber h) (ofWord?_of_isNumber h)
  rintro rfl
  exact absurd h (by decide)

mutual

/-- A document in its compact form falls into its tokens. -/
theorem lexes_render : ∀ j : Json, j.WellWritten → Lexes j.render j.tokens
  | null, _ => lexes_word (by decide) (List.all_eq_true.mp (by decide)) rfl
  | bool true, _ => lexes_word (by decide) (List.all_eq_true.mp (by decide)) rfl
  | bool false, _ => lexes_word (by decide) (List.all_eq_true.mp (by decide)) rfl
  | number _, h => lexes_number h
  | string s, _ => lexes_string s
  | array items, h =>
    Lexes.nil.glue (c := '[') rfl ((lexes_renderItems items h).glue (c := ']') rfl .nil)
  | object members, h =>
    Lexes.nil.glue (c := '{') rfl ((lexes_renderMembers members h).glue (c := '}') rfl .nil)

theorem lexes_renderItems :
    ∀ items : List Json, ItemsWellWritten items → Lexes (renderItems items) (itemTokens items)
  | [], _ => .nil
  | [item], h => lexes_render item h.1
  | item :: next :: rest, h =>
    (lexes_render item h.1).glue (c := ',') rfl (lexes_renderItems (next :: rest) h.2)

theorem lexes_renderMembers :
    ∀ members : List (Text × Json), MembersWellWritten members →
      Lexes (renderMembers members) (memberTokens members)
  | [], _ => .nil
  | [(name, value)], h => (lexes_string name).glue (c := ':') rfl (lexes_render value h.1)
  | (name, value) :: next :: rest, h =>
    ((lexes_string name).glue (c := ':') rfl (lexes_render value h.1)).glue (c := ',') rfl
      (lexes_renderMembers (next :: rest) h.2)

end

mutual

/-- Where a value has to follow, the tokens of a document make it up. -/
theorem value?_tokens :
    ∀ (j : Json) (rest : List Token) (frames : List Frame),
      value? (j.tokens ++ rest) frames = next? rest j frames
  | null, _, _ | bool _, _, _ | number _, _, _ | string _, _, _ => rfl
  | array [], _, _ | object [], _, _ => rfl
  | array (item :: items), rest, frames => by
    have hitems := value?_itemTokens (item :: items) (List.cons_ne_nil _ _) [] rest frames
    simpa [tokens, value?] using hitems
  | object (member :: members), rest, frames => by
    have hmembers := name?_memberTokens (member :: members) (List.cons_ne_nil _ _) [] rest frames
    simpa [tokens, value?] using hmembers

theorem value?_itemTokens :
    ∀ items : List Json, items ≠ [] →
      ∀ (before : List Json) (rest : List Token) (frames : List Frame),
        value? (itemTokens items ++ .closeArray :: rest) (.item before :: frames) =
          next? rest (array (before ++ items)) frames
  | [], hn, _, _, _ => absurd rfl hn
  | [item], _, before, rest, frames => by rw [itemTokens, value?_tokens item, next?]
  | item :: next :: items, _, before, rest, frames => by
    rw [itemTokens, List.append_assoc, value?_tokens item, List.cons_append, next?,
      value?_itemTokens (next :: items) (List.cons_ne_nil _ _), List.append_assoc]
    rfl

theorem name?_memberTokens :
    ∀ members : List (Text × Json), members ≠ [] →
      ∀ (before : List (Text × Json)) (rest : List Token) (frames : List Frame),
        name? (memberTokens members ++ .closeObject :: rest) before frames =
          next? rest (object (before ++ members)) frames
  | [], hn, _, _, _ => absurd rfl hn
  | [(name, value)], _, before, rest, frames => by
    rw [memberTokens, List.cons_append, List.cons_append, name?, value?_tokens value, next?]
  | (name, value) :: next :: members, _, before, rest, frames => by
    rw [memberTokens, List.cons_append, List.cons_append, name?, List.append_assoc,
      value?_tokens value, List.cons_append, next?,
      name?_memberTokens (next :: members) (List.cons_ne_nil _ _), List.append_assoc]
    rfl

end

/-- A document is read back from its compact form. -/
theorem read?_render {j : Json} (h : j.WellWritten) : read? j.render = some j := by
  have hlexes := lexes_render j h [] fun c hc => by cases hc
  have hmake := value?_tokens j [] []
  rw [List.append_nil] at hlexes hmake
  rw [read?, hlexes, tokens?, Option.map_some, List.append_nil, Option.bind_some, hmake, next?]

/-- Nothing may follow a comma but another element. -/
example : value? [.openArray, .plain null, .comma, .closeArray] [] = none := rfl

end Phrasebook.Json

import Phrasebook.Pattern.Syntax

/-!
# Reading in front of a closing parenthesis

Escapes, sets and counted repetitions end where they are seen to end. A closing parenthesis after
them does not change how they are read: it is no digit, and none of the characters that could go on.
-/

namespace Phrasebook.Pattern

/-- Nothing, or a closing parenthesis first. -/
def Closing : Text → Prop
  | [] => True
  | c :: _ => c = ')'

theorem Closing.take {more : Text} (h : Closing more) (n : Nat) : Closing (more.take n) := by
  cases more with
  | nil =>
    rw [List.take_nil]
    exact h
  | cons c more =>
    cases n with
    | zero => trivial
    | succ n => exact h

theorem Closing.head?_ne {more : Text} (h : Closing more) {c : Char} (hc : c ≠ ')') :
    more.head? ≠ some c := by
  cases more with
  | nil => simp
  | cons d more =>
    intro he
    exact hc ((Option.some.inj he).symm.trans h)

variable {more : Text}

theorem takeWhile_append (hm : Closing more) {p : Char → Bool} (hc : p ')' = false) (t : Text) :
    (t ++ more).takeWhile p = t.takeWhile p := by
  induction t with
  | nil =>
    cases more with
    | nil => rfl
    | cons c more =>
      have he : c = ')' := hm
      simp [he, hc]
  | cons c t ih => rw [List.cons_append, List.takeWhile_cons, List.takeWhile_cons, ih]

theorem dropWhile_append (hm : Closing more) {p : Char → Bool} (hc : p ')' = false) (t : Text) :
    (t ++ more).dropWhile p = t.dropWhile p ++ more := by
  induction t with
  | nil =>
    cases more with
    | nil => rfl
    | cons c more =>
      have he : c = ')' := hm
      simp [he, hc]
  | cons c t ih =>
    rw [List.cons_append, List.dropWhile_cons, List.dropWhile_cons, ih]
    split
    · rfl
    · rfl

theorem upTo_append (hm : Closing more) {p : Char → Bool} (hc : p ')' = false) (n : Nat)
    (t : Text) : upTo n p (t ++ more) = ((upTo n p t).1, (upTo n p t).2 ++ more) := by
  have htaken : ((t ++ more).take n).takeWhile p = (t.take n).takeWhile p := by
    rw [List.take_append, takeWhile_append (hm.take _) hc]
  have hle : ((t.take n).takeWhile p).length ≤ t.length := by
    have hwhile := (List.takeWhile_sublist p (l := t.take n)).length_le
    have htake := List.length_take_le' n t
    omega
  simp only [upTo, htaken, List.drop_append_of_le_length hle]

theorem nameUntil?_append {terminator : Char} (ht : terminator ≠ '\\') {t name rest : Text}
    (h : nameUntil? terminator t = some (name, rest)) (more : Text) :
    nameUntil? terminator (t ++ more) = some (name, rest ++ more) := by
  fun_induction nameUntil? terminator t generalizing name with
  | case1 => cases h
  | case2 c t ih =>
    obtain ⟨found, hf, he⟩ := Option.map_eq_some_iff.mp h
    cases he
    simp only [List.cons_append, nameUntil?, ih hf, Option.map_some]
  | case3 t hne =>
    cases h
    rw [List.cons_append, nameUntil?]
    · exact if_pos rfl
    · exact fun _ _ he _ => ht he
  | case4 c t hne hc ih =>
    obtain ⟨found, hf, he⟩ := Option.map_eq_some_iff.mp h
    cases he
    have hstep : nameUntil? terminator (c :: (t ++ more)) =
        (nameUntil? terminator (t ++ more)).map fun found => (c :: found.1, found.2) := by
      by_cases hb : c = '\\'
      · cases t with
        | nil => cases hf
        | cons d t => exact absurd rfl (hne d t hb)
      · rw [nameUntil?]
        · exact if_neg hc
        · exact fun d u he _ => hb he
    rw [List.cons_append, hstep, ih hf]
    rfl

/-- A name ends where it is seen to end. -/
theorem nameUntil_append {terminator : Char} (ht : terminator ≠ '\\') {what t name rest : Text}
    (h : nameUntil terminator what t = .ok (name, rest)) (more : Text) :
    nameUntil terminator what (t ++ more) = .ok (name, rest ++ more) := by
  unfold nameUntil at h
  split at h
  · cases h
  · next found hne hf =>
    cases h
    rw [nameUntil, nameUntil?_append ht hf more]
    cases name with
    | nil => exact absurd rfl (hne rest)
    | cons c name => rfl
  · split at h
    · cases h
    · cases h

theorem hexEscape_append (hm : Closing more) {letter : Char} {digits code : Nat} {rest after : Text}
    (h : hexEscape letter digits rest = .ok (code, after)) :
    hexEscape letter digits (rest ++ more) = .ok (code, after ++ more) := by
  have hu := upTo_append hm (p := fun c => (Text.hexDigit? c).isSome) rfl digits rest
  simp only [hexEscape, hu] at h ⊢
  split at h
  · cases h
  · next hlength =>
    split at h
    · cases h
    · next hcode =>
      cases h
      rw [if_neg hlength, if_neg hcode]

theorem namedEscape_append {rest after : Text} {code : Nat}
    (h : namedEscape rest = .ok (code, after)) (more : Text) :
    namedEscape (rest ++ more) = .ok (code, after ++ more) := by
  unfold namedEscape at h
  split at h
  · next rest =>
    cases hn : nameUntil '}' "character name".toList rest with
    | error fault =>
      rw [hn] at h
      cases h
    | ok found =>
      obtain ⟨name, tail⟩ := found
      have hmore := nameUntil_append (by decide) hn more
      rw [hn] at h
      simp only [bind, Except.bind] at h
      simp only [List.cons_append, namedEscape, hmore, bind, Except.bind]
      cases hc : Text.characterNamed? name with
      | none =>
        rw [hc] at h
        cases h
      | some found =>
        rw [hc] at h
        cases h
        rfl
  · cases h

/-- A code is read the same in front of a closing parenthesis. -/
theorem codeEscape?_append (hm : Closing more) {letter : Char} {rest after : Text} {code : Nat}
    (h : codeEscape? letter rest = some (.ok (code, after))) :
    codeEscape? letter (rest ++ more) = some (.ok (code, after ++ more)) := by
  unfold codeEscape? at h ⊢
  split at h
  · next hl => rw [if_pos hl, hexEscape_append hm (Option.some.inj h)]
  · next hx =>
    split at h
    · next hl => rw [if_neg hx, if_pos hl, hexEscape_append hm (Option.some.inj h)]
    · next hu =>
      split at h
      · next hl => rw [if_neg hx, if_neg hu, if_pos hl, hexEscape_append hm (Option.some.inj h)]
      · next hU =>
        split at h
        · next hl =>
          rw [if_neg hx, if_neg hu, if_neg hU, if_pos hl, namedEscape_append (Option.some.inj h)]
        · cases h

theorem codeEscape?_eq_none_append {letter : Char} {rest : Text} (h : codeEscape? letter rest = none)
    (more : Text) : codeEscape? letter (rest ++ more) = none := by
  simp only [codeEscape?] at h ⊢
  split at h
  · cases h
  · split at h
    · cases h
    · split at h
      · cases h
      · split at h
        · cases h
        · simp_all

theorem readMember_of_ne {c : Char} (h : c ≠ '\\') (rest : Text) :
    readMember c rest = .ok (.single c.toNat, [c], rest) := by
  unfold readMember
  split
  · exact absurd rfl h
  · exact absurd rfl h
  · rfl

/-- A member of a set is read the same in front of a closing parenthesis. -/
theorem readMember_append (hm : Closing more) {c : Char} {rest written after : Text}
    {range : CharRange} (h : readMember c rest = .ok (range, written, after)) :
    readMember c (rest ++ more) = .ok (range, written, after ++ more) := by
  by_cases hc : c = '\\'
  · subst hc
    cases rest with
    | nil => cases h
    | cons letter rest =>
      simp only [List.cons_append, readMember] at h ⊢
      split at h
      · cases h
        rfl
      · split at h
        · cases h
          rfl
        · split at h
          · next read hread =>
            cases read with
            | error fault => cases h
            | ok found =>
              cases h
              rw [codeEscape?_append hm hread]
              rfl
          · next hread =>
            rw [codeEscape?_eq_none_append hread more]
            simp only [upTo_append hm (p := isOctalDigit) rfl]
            split at h
            · next hb =>
              cases h
              rw [if_pos hb]
            · next hb =>
              split at h
              · next ho =>
                split at h
                · cases h
                · next hlarge =>
                  cases h
                  rw [if_neg hb, if_pos ho, if_neg hlarge]
              · next ho =>
                split at h
                · cases h
                · next hl =>
                  cases h
                  rw [if_neg hb, if_neg ho, if_neg hl]
  · rw [readMember_of_ne hc] at h ⊢
    cases h
    rfl

/-- Nothing can be read of a set that has not been closed. -/
theorem readMembers_nil (opened n : Nat) (members : List CharRange) :
    readMembers opened n members [] = flawAt .openSet opened := by
  cases n <;> rfl

/-- A member that begins no range is one of the set. -/
theorem readMembers_single {opened n : Nat} {members : List CharRange} {c : Char}
    {rest written after : Text} {member : CharRange}
    (hclose : ¬(c = ']' && !members.isEmpty) = true)
    (hc : readMember c rest = .ok (member, written, after)) (hd : after.head? ≠ some '-') :
    readMembers opened (n + 1) members (c :: rest) =
      readMembers opened n (member :: members) after := by
  rw [readMembers, if_neg hclose, hc]
  split
  · next he => cases he
  · next he =>
    cases he
    exact absurd rfl hd
  · next he =>
    cases he
    rfl

/-- The members of a set are read the same in front of a closing parenthesis. -/
theorem readMembers_append (hm : Closing more) {opened opened' n n' : Nat} (hn : n ≤ n')
    {members found : List CharRange} {t after : Text}
    (h : readMembers opened n members t = .ok (found, after)) :
    readMembers opened' n' members (t ++ more) = .ok (found, after ++ more) := by
  induction n generalizing n' members t with
  | zero => cases h
  | succ n ih =>
    obtain ⟨n', rfl⟩ := Nat.exists_eq_add_of_lt (Nat.lt_of_lt_of_le n.succ_pos hn)
    have hle : n ≤ 0 + n' := by omega
    cases t with
    | nil => cases h
    | cons c rest =>
      by_cases hclose : (c = ']' && !members.isEmpty) = true
      · rw [readMembers, if_pos hclose] at h
        cases h
        rw [List.cons_append, readMembers, if_pos hclose]
      · cases hc : readMember c rest with
        | error fault =>
          rw [readMembers, if_neg hclose, hc] at h
          cases h
        | ok member =>
          obtain ⟨first, written, rest'⟩ := member
          have hc' := readMember_append hm hc
          by_cases hd : rest'.head? = some '-'
          · obtain ⟨rest', rfl⟩ := List.head?_eq_some_iff.mp hd
            rw [readMembers, if_neg hclose, hc] at h
            rw [List.cons_append, readMembers, if_neg hclose, hc']
            cases rest' with
            | nil => cases h
            | cons e rest' =>
              by_cases he : e = ']'
              · subst he
                cases h
                rfl
              · simp only [List.cons_append] at h ⊢
                cases hl : readMember e rest' with
                | error fault =>
                  rw [hl] at h
                  cases h
                | ok member =>
                  obtain ⟨last, written', rest''⟩ := member
                  rw [hl] at h
                  rw [readMember_append hm hl]
                  simp only at h ⊢
                  cases hrange : rangeOf? first last with
                  | none =>
                    rw [hrange] at h
                    cases h
                  | some range =>
                    rw [hrange] at h
                    exact ih hle h
          · rw [readMembers_single hclose hc hd] at h
            cases rest' with
            | nil =>
              rw [readMembers_nil] at h
              cases h
            | cons d rest' =>
              rw [List.cons_append, readMembers_single hclose hc' hd]
              exact ih hle h

theorem readSet_of_head?_ne {r : Reader} {t : Text} (h : t.head? ≠ some '^') :
    readSet r t = (readMembers (t.length + 1) t.length [] t).map
      fun found => (r.pushSet found.1 false, found.2) := by
  unfold readSet
  split
  next negated body heq =>
    split at heq
    · exact absurd rfl h
    · cases heq
      rfl

/-- A set is read the same by whoever reads it in front of a closing parenthesis. -/
theorem exists_set_of_readSet {r next : Reader} {rest after : Text}
    (h : readSet r rest = .ok (next, after)) :
    ∃ ranges negated, next = r.pushSet ranges negated ∧
      ∀ (R : Reader) (more : Text), Closing more →
        readSet R (rest ++ more) = .ok (R.pushSet ranges negated, after ++ more) := by
  have hbody : ∀ (negated : Bool) (opened : Nat) (body : Text),
      (readMembers opened body.length [] body).map
          (fun found => (r.pushSet found.1 negated, found.2)) = .ok (next, after) →
        ∃ ranges, next = r.pushSet ranges negated ∧
          ∀ (R : Reader) (more : Text) (opened' : Nat), Closing more →
            (readMembers opened' (body ++ more).length [] (body ++ more)).map
                (fun found => (R.pushSet found.1 negated, found.2)) =
              .ok (R.pushSet ranges negated, after ++ more) := by
    intro negated opened body hb
    cases hr : readMembers opened body.length [] body with
    | error fault =>
      rw [hr] at hb
      cases hb
    | ok found =>
      rw [hr] at hb
      cases hb
      refine ⟨found.1, rfl, fun R more opened' hm => ?_⟩
      have hlength : body.length ≤ (body ++ more).length := by simp
      rw [readMembers_append hm hlength hr]
      rfl
  by_cases hc : rest.head? = some '^'
  · obtain ⟨body, rfl⟩ := List.head?_eq_some_iff.mp hc
    obtain ⟨ranges, hnext, hall⟩ := hbody true _ body h
    exact ⟨ranges, true, hnext, fun R more hm => hall R more _ hm⟩
  · rw [readSet_of_head?_ne hc] at h
    obtain ⟨ranges, hnext, hall⟩ := hbody false _ rest h
    refine ⟨ranges, false, hnext, fun R more hm => ?_⟩
    have hc' : (rest ++ more).head? ≠ some '^' := by
      cases rest with
      | nil => exact hm.head?_ne (by decide)
      | cons c rest => exact hc
    rw [readSet_of_head?_ne hc', hall R more _ hm]

/-- The bounds of a repetition are read the same in front of a closing parenthesis. -/
theorem readBounds?_append (hm : Closing more) (t : Text) :
    readBounds? (t ++ more) = (readBounds? t).map fun found => (found.1, found.2.1, found.2.2 ++ more) := by
  have hcases : more = [] ∨ ∃ rest, more = ')' :: rest := by
    cases more with
    | nil => exact .inl rfl
    | cons c rest => exact .inr ⟨rest, congrArg (· :: rest) hm⟩
  have hhead : (t ++ more).head? = some '}' ↔ t.head? = some '}' := by
    cases t with
    | nil => simpa using hm.head?_ne (by decide)
    | cons c t => rfl
  simp only [readBounds?, hhead, takeWhile_append hm (p := Text.isAsciiDigit) rfl,
    dropWhile_append hm (p := Text.isAsciiDigit) rfl]
  split
  · rfl
  · generalize t.dropWhile Text.isAsciiDigit = rest
    rcases rest with _ | ⟨c, rest⟩
    · rcases hcases with rfl | ⟨_, rfl⟩ <;> rfl
    · by_cases hbrace : c = '}'
      · subst hbrace
        rfl
      · by_cases hcomma : c = ','
        · subst hcomma
          simp only [List.cons_append, takeWhile_append hm (p := Text.isAsciiDigit) rfl,
            dropWhile_append hm (p := Text.isAsciiDigit) rfl]
          generalize rest.dropWhile Text.isAsciiDigit = rest'
          rcases rest' with _ | ⟨d, rest'⟩
          · rcases hcases with rfl | ⟨_, rfl⟩ <;> rfl
          · by_cases hbrace : d = '}'
            · subst hbrace
              rfl
            · simp [hbrace]
        · simp [hbrace, hcomma]

end Phrasebook.Pattern

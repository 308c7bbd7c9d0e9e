import Phrasebook.Format
import Phrasebook.Host.Basic
import Phrasebook.Proofs.Lists
import Phrasebook.Proofs.Phrase.Renaming

/-!
# Type names are told apart

Different placeholder names have different type names, and a type name holds nothing but ASCII
letters, digits and underscores. The bytes of a name, two hexadecimal digits each, can be read back,
so spelling a name out loses nothing; and no plain name begins like the reserved ones.
-/

namespace Phrasebook.TypeName

theorem hex_byte (byte : UInt8) :
    Text.hex 2 byte.toNat = [Nat.digitChar (byte.toNat / 16), Nat.digitChar (byte.toNat % 16)] := by
  have hb : byte.toNat < 256 := byte.toNat_lt
  by_cases hs : byte.toNat < 16
  · have hd := Nat.toDigits_of_lt_base hs
    have hq : byte.toNat / 16 = 0 := by omega
    have hr : byte.toNat % 16 = byte.toNat := by omega
    rw [Text.hex, hd, hq, hr]
    rfl
  · have hd := Nat.toDigits_of_base_le (by decide : 1 < 16) (Nat.le_of_not_lt hs)
    have hq : byte.toNat / 16 < 16 := by omega
    rw [Nat.toDigits_of_lt_base hq] at hd
    rw [Text.hex, hd]
    rfl

theorem digitChar_injective {m n : Nat} (hm : m < 16) (hn : n < 16)
    (h : Nat.digitChar m = Nat.digitChar n) : m = n := by
  have hall : ∀ i : Fin 16, ∀ j : Fin 16, Nat.digitChar i = Nat.digitChar j → i = j := by decide
  have hij := hall ⟨m, hm⟩ ⟨n, hn⟩ h
  exact congrArg Fin.val hij

theorem hex_byte_injective {a b : UInt8} (h : Text.hex 2 a.toNat = Text.hex 2 b.toNat) : a = b := by
  have ha : a.toNat < 256 := a.toNat_lt
  have hb : b.toNat < 256 := b.toNat_lt
  rw [hex_byte, hex_byte] at h
  obtain ⟨hq, hr⟩ := List.cons.inj h
  have hhigh := digitChar_injective (by omega) (by omega) hq
  have hlow := digitChar_injective (by omega) (by omega) (List.cons.inj hr).1
  have hn : a.toNat = b.toNat := by omega
  exact UInt8.toNat_inj.mp hn

theorem utf8Encode_injective {s t : Text}
    (h : s.flatMap String.utf8EncodeChar = t.flatMap String.utf8EncodeChar) : s = t := by
  have hb : s.utf8Encode = t.utf8Encode := congrArg List.toByteArray h
  have hd := congrArg ByteArray.utf8Decode? hb
  rw [List.utf8Decode?_utf8Encode, List.utf8Decode?_utf8Encode] at hd
  exact congrArg Array.toList (Option.some.inj hd)

/-- A name can be read back from its bytes. -/
theorem spelledOut_injective {s t : Text} (h : spelledOut s = spelledOut t) : s = t := by
  rw [spelledOut, spelledOut, ← List.flatMap_assoc, ← List.flatMap_assoc] at h
  have hl : ∀ byte : UInt8, (Text.hex 2 byte.toNat).length = 2 := by
    intro byte
    rw [hex_byte]
    rfl
  exact utf8Encode_injective (flatMap_injective (by decide) hl (fun _ _ => hex_byte_injective) h)

theorem not_reserved_of_isPrefixOf {name rest : Text} (h : (!reserved.isPrefixOf name) = true) :
    name ≠ reserved ++ rest := by
  rintro rfl
  have hp : reserved.isPrefixOf (reserved ++ rest) = true :=
    List.isPrefixOf_iff_prefix.mpr (List.prefix_append _ _)
  rw [hp] at h
  cases h

theorem builtIn_ne_cons_x {name rest : Text} (h : isBuiltIn name = true) : name ≠ 'x' :: rest := by
  obtain ⟨b, rfl⟩ := Phrase.isBuiltIn_iff.mp h
  cases b <;> exact fun he => absurd (List.cons.inj he).1 (by decide)

/-- Different names have different type names. -/
theorem ofName_injective {name other : Text} (h : ofName name = ofName other) : name = other := by
  unfold ofName at h
  split at h
  · next hb =>
    split at h
    · exact List.append_cancel_left h
    · split at h
      · next hp =>
        rw [Bool.and_eq_true] at hp
        exact absurd h.symm (not_reserved_of_isPrefixOf hp.2)
      · exact absurd (List.append_cancel_left h) (builtIn_ne_cons_x hb)
  · split at h
    · next hp =>
      rw [Bool.and_eq_true] at hp
      split at h
      · exact absurd h (not_reserved_of_isPrefixOf hp.2)
      · split at h
        · exact h
        · exact absurd h (not_reserved_of_isPrefixOf hp.2)
    · split at h
      · next hb => exact absurd (List.append_cancel_left h).symm (builtIn_ne_cons_x hb)
      · split at h
        · next hp =>
          rw [Bool.and_eq_true] at hp
          exact absurd h.symm (not_reserved_of_isPrefixOf hp.2)
        · have hs := List.append_cancel_left h
          exact spelledOut_injective (List.cons.inj hs).2

theorem ofName_builtIn (b : BuiltIn) : ofName b.name = ofBuiltIn b := by
  have hb : isBuiltIn b.name = true := Phrase.isBuiltIn_iff.mpr ⟨b, rfl⟩
  rw [ofName, if_pos hb]
  rfl

theorem isAsciiWord_digitChar {n : Nat} (h : n < 16) : Text.isAsciiWord (Nat.digitChar n) = true := by
  have hall : ∀ i : Fin 16, Text.isAsciiWord (Nat.digitChar i) = true := by decide
  exact hall ⟨n, h⟩

theorem isAsciiWord_spelledOut {t : Text} {c : Char} (h : c ∈ spelledOut t) :
    Text.isAsciiWord c = true := by
  obtain ⟨d, -, hd⟩ := List.mem_flatMap.mp h
  obtain ⟨byte, -, hc⟩ := List.mem_flatMap.mp hd
  have hb : byte.toNat < 256 := byte.toNat_lt
  rw [hex_byte] at hc
  cases List.mem_cons.mp hc with
  | inl he => exact he ▸ isAsciiWord_digitChar (by omega)
  | inr he => exact List.mem_singleton.mp he ▸ isAsciiWord_digitChar (by omega)

/-- A type name holds ASCII letters, digits and underscores only. -/
theorem isAsciiWord_ofName {name : Text} {c : Char} (h : c ∈ ofName name) :
    Text.isAsciiWord c = true := by
  have hr : ∀ d ∈ reserved, Text.isAsciiWord d = true := List.forall_iff_forall_mem.mp (by decide)
  unfold ofName at h
  split at h
  · next hb =>
    obtain ⟨b, rfl⟩ := Phrase.isBuiltIn_iff.mp hb
    have hn : ∀ d ∈ b.name, Text.isAsciiWord d = true :=
      List.forall_iff_forall_mem.mp (by cases b <;> decide)
    exact (List.mem_append.mp h).elim (hr c) (hn c)
  · split at h
    · next hp =>
      rw [Bool.and_eq_true] at hp
      cases name with
      | nil => cases h
      | cons d rest =>
        have hd := hp.1
        simp only [isPlain, Bool.and_eq_true, List.all_eq_true] at hd
        cases List.mem_cons.mp h with
        | inl he => simp [he, Text.isAsciiWord, hd.1]
        | inr he => exact hd.2 c he
    · cases List.mem_append.mp h with
      | inl h => exact hr c h
      | inr h =>
        cases List.mem_cons.mp h with
        | inl he =>
          rw [he]
          decide
        | inr h => exact isAsciiWord_spelledOut h

/-- A type name is a plain name. -/
theorem isPlain_ofName (name : Text) : isPlain (ofName name) = true := by
  have hword : (ofName name).all Text.isAsciiWord = true :=
    List.all_eq_true.mpr fun _ hc => isAsciiWord_ofName hc
  have hreserved : ∀ rest, (reserved ++ rest).all Text.isAsciiWord = true →
      isPlain (reserved ++ rest) = true := by
    intro rest hr
    have hhead : reserved = 't' :: reserved.tail := by decide
    rw [hhead, List.cons_append, List.all_cons, Bool.and_eq_true] at hr
    rw [hhead, List.cons_append, isPlain, hr.2]
    decide
  unfold ofName at hword ⊢
  split
  · next hb =>
    rw [if_pos hb] at hword
    exact hreserved _ hword
  · next hb =>
    rw [if_neg hb] at hword
    split
    · next hp =>
      rw [Bool.and_eq_true] at hp
      exact hp.1
    · next hp =>
      rw [if_neg hp] at hword
      exact hreserved _ hword

theorem underscore_mem_reserved : '_' ∈ reserved := by decide

/-- The type names of a registered phrase hold an underscore. -/
theorem underscore_mem_ofName {name : Text} (h : isBuiltIn name = true ∨ '_' ∈ name) :
    '_' ∈ ofName name := by
  unfold ofName
  split
  · exact List.mem_append_left _ underscore_mem_reserved
  · next hb =>
    split
    · exact h.resolve_left hb
    · exact List.mem_append_left _ underscore_mem_reserved

theorem isPlain_iff {t : Text} :
    isPlain t = true ↔
      ∃ c rest, t = c :: rest ∧ Text.isAsciiLetter c = true ∧
        ∀ d ∈ rest, Text.isAsciiWord d = true := by
  cases t with
  | nil => simp [isPlain]
  | cons c rest => simp [isPlain]

/-- Type names can serve as keys: different names have different ones, each is a letter followed by
letters, digits and underscores, and those of the built-in field types are left to the built-in
placeholders, each to its own. -/
theorem ofName_apart :
    (∀ name other, name ≠ other → ofName name ≠ ofName other) ∧
      (∀ name, ∃ c rest, ofName name = c :: rest ∧ Text.isAsciiLetter c = true ∧
        ∀ d ∈ rest, Text.isAsciiWord d = true) ∧
      ∀ name, ∀ entry ∈ builtInTypes, ofName name = entry.1 →
        ∃ b : BuiltIn, name = b.name ∧ entry = (ofBuiltIn b, b.fieldType) := by
  refine ⟨fun name other => mt ofName_injective, ?_, ?_⟩
  · intro name
    exact isPlain_iff.mp (isPlain_ofName name)
  · intro name entry hentry hname
    obtain ⟨b, -, rfl⟩ := List.mem_map.mp hentry
    have hkey : ofName name = ofName b.name := hname.trans (ofName_builtIn b).symm
    exact ⟨b, ofName_injective hkey, rfl⟩

/-- A name that looks like the type name of another has a type name of its own. -/
theorem ofName_apart_imitating :
    ofName ['é'] = "typed_steps_xc3a9".toList ∧
      ofName "typed_steps_xc3a9".toList ≠ ofName ['é'] :=
  ⟨by decide +kernel, ofName_apart.1 _ _ (by decide)⟩

end Phrasebook.TypeName

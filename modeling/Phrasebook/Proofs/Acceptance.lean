import Phrasebook.Proofs.Host.Sound

/-!
# Phrases that go with their definitions are accepted

Phrases are registered with a new host one after another. None is refused, whatever its placeholders
are called and whatever braces it has: its names are found in its definitions; the names of its
types hold the token of the registration, so the host has none of them; renaming finds every
placeholder; and all types of its expression are known by then, under names that a format can have.
-/

namespace Phrasebook

namespace Request

variable {H : Type}

def tokensFrom : Nat → List (Request H) → List Text
  | _, [] => []
  | next, q :: rest => q.registrar.tokens next :: tokensFrom (next + 1) rest

def SameLength (texts : List Text) : Prop := ∀ t ∈ texts, ∀ u ∈ texts, t.length = u.length

/-- The name is a unique one, made with one of the tokens. -/
def Bears (tokens : List Text) (name : Text) : Prop :=
  ∃ separator token old index, token ∈ tokens ∧ name = Phrase.uniqueName separator token old index

theorem after_eq (requests : List (Request H)) (d : Desk (Standalone H)) :
    after requests d = Call.after (requests.map Call.register) d := by
  induction requests generalizing d with
  | nil => rfl
  | cons q rest ih => exact ih (q.make d).2

/-- A request defines types under its unique names only. -/
theorem mem_names_make {q : Request H} {d : Desk (Standalone H)} {name : Text}
    (h : name ∈ (q.make d).2.host.types.names) :
    name ∈ d.host.types.names ∨
      ∃ p, p ∈ q.registrar.holders q.phrase d ∧ name = p.uniqueName := by
  obtain ⟨types, hends⟩ := q.make_ends d
  have htypes : (q.make d).2.host.types = d.host.types ++ types.map fun t => (t.name, t) := by
    rcases hends.told with ht | ⟨next, events, ht, hs⟩
    · rw [Standalone.eq_withTypes ht]
      rfl
    · obtain ⟨format, -, hnext⟩ := Standalone.exists_of_defineStep hs
      rw [hnext, Standalone.eq_withTypes ht]
      rfl
  rw [Table.names, htypes, List.map_append, List.map_map, List.mem_append] at h
  refine h.imp_right fun hnew => ?_
  obtain ⟨t, hm, rfl⟩ := List.mem_map.mp hnew
  obtain ⟨p, hp, hg⟩ := hends.exists_holder hm
  exact ⟨p, hp, Registrar.name_of_gives hg⟩

/-- No unique name of a request has been made with another token. -/
theorem not_bears {q : Request H} {d : Desk (Standalone H)} {drawn : List Text}
    (hl : ∀ token ∈ drawn, (q.registrar.tokens d.drawn).length = token.length)
    (hn : q.registrar.tokens d.drawn ∉ drawn) {p : Placeholder}
    (hp : p ∈ q.registrar.holders q.phrase d) : ¬ Bears drawn p.uniqueName := by
  rintro ⟨separator, token, old, index, hm, he⟩
  obtain ⟨-, -, index', hu⟩ := Phrase.mem_placeholders hp
  rw [hu] at he
  exact hn (Phrase.token_of_uniqueName he (hl token hm) ▸ hm)

/-- Each of the requests is taken, at the desk that those before it leave. -/
def AllTaken : List (Request H) → Desk (Standalone H) → Prop
  | [], _ => True
  | q :: rest, d => q.Taken d ∧ AllTaken rest (q.make d).2

theorem AllTaken.succeed {requests : List (Request H)} {d : Desk (Standalone H)}
    (h : AllTaken requests d) : AllSucceed requests d := by
  induction requests generalizing d with
  | nil => trivial
  | cons q rest ih =>
    obtain ⟨⟨registration, _, _, hok, -⟩, hrest⟩ := h
    exact ⟨by rw [hok]; rfl, ih hrest⟩

/-- Requests are taken one after another if all names of the host have been made with earlier
tokens. -/
theorem allTaken_of_bears {requests : List (Request H)} {d : Desk (Standalone H)}
    {drawn : List Text} (hsound : d.host.Sound) (hnames : ∀ name ∈ d.host.types.names, Bears drawn name)
    (htokens : ∀ token ∈ tokensFrom d.drawn requests, Phrase.IsName token)
    (hlength : SameLength (drawn ++ tokensFrom d.drawn requests))
    (hnodup : (drawn ++ tokensFrom d.drawn requests).Nodup)
    (hcheck : ∀ q ∈ requests, ∃ events,
      Registrar.check q.registrar.settings q.phrase q.definitions = .ok events)
    (hs : ∀ q ∈ requests, q.Supported) : AllTaken requests d := by
  induction requests generalizing d drawn with
  | nil => trivial
  | cons q rest ih =>
    obtain ⟨events, hq⟩ := hcheck q (by simp)
    have hfresh : q.registrar.tokens d.drawn ∉ drawn := fun hm =>
      (List.nodup_append.mp hnodup).2.2 _ hm _ List.mem_cons_self rfl
    have hnew : ∀ p ∈ q.registrar.holders q.phrase d, p.uniqueName ∉ d.host.types.names := by
      intro p hp hm
      refine not_bears (fun token ht => hlength _ ?_ token ?_) hfresh hp (hnames _ hm)
      · simp [tokensFrom]
      · exact List.mem_append_left _ ht
    obtain ⟨registration, hok⟩ :=
      make_eq_ok hsound.toCoherent (htokens _ List.mem_cons_self) hq (hs q (by simp)) hnew
    have hdrawn : (q.make d).2.drawn = d.drawn + 1 := Registrar.drawn_define hok
    have hsplit : drawn ++ tokensFrom d.drawn (q :: rest) =
        (drawn ++ [q.registrar.tokens d.drawn]) ++ tokensFrom (q.make d).2.drawn rest := by
      rw [hdrawn, List.append_assoc]
      rfl
    have hbears : ∀ name ∈ (q.make d).2.host.types.names,
        Bears (drawn ++ [q.registrar.tokens d.drawn]) name := by
      intro name hm
      rcases mem_names_make hm with hold | ⟨p, hp, rfl⟩
      · obtain ⟨separator, token, old, index, ht, he⟩ := hnames name hold
        exact ⟨separator, token, old, index, List.mem_append_left _ ht, he⟩
      · obtain ⟨-, -, index, hu⟩ := Phrase.mem_placeholders hp
        exact ⟨_, _, _, index, by simp, hu⟩
    have hrest : ∀ token ∈ tokensFrom (q.make d).2.drawn rest, Phrase.IsName token := by
      intro token ht
      rw [hdrawn] at ht
      exact htokens token (List.mem_cons_of_mem _ ht)
    have htaken := (taken_of_ok hsound.toCoherent (htokens _ List.mem_cons_self) hok).2
    refine ⟨htaken, ih (hsound.after [.register q]) hbears hrest (hsplit ▸ hlength)
      (hsplit ▸ hnodup) (fun p hp => hcheck p (List.mem_cons_of_mem _ hp))
      fun p hp => hs p (List.mem_cons_of_mem _ hp)⟩

end Request

theorem Standalone.Coherent.exists_ofName {H : Type} {h : Standalone H} (hc : h.Coherent) {type : Text}
    (hk : h.converters.has type = true) : ∃ name, type = TypeName.ofName name := by
  rw [Table.has_eq_contains, List.contains_iff_mem, hc.converters, Table.names, List.map_append,
    List.mem_append] at hk
  cases hk with
  | inl hb =>
    obtain ⟨b, -, hb⟩ := List.mem_map.mp (List.map_map .. ▸ hb)
    exact ⟨b.name, hb ▸ (TypeName.ofName_builtIn b).symm⟩
  | inr ht =>
    rw [List.map_map] at ht
    obtain ⟨entry, -, he⟩ := List.mem_map.mp ht
    exact ⟨entry.1, he.symm⟩

namespace Request

variable {H : Type}

/-- Phrases that go with their definitions are all accepted by a new host, if their registrations
draw different tokens of one length. After each of them the host has its types and serves it. All
fields of all formats have no name, and the plain name of a known type. -/
theorem allSucceed (requests : List (Request H))
    (htokens : ∀ token ∈ tokensFrom 0 requests, Phrase.IsName token)
    (hlength : SameLength (tokensFrom 0 requests)) (hdistinct : (tokensFrom 0 requests).Nodup)
    (hcheck : ∀ q ∈ requests, ∃ events,
      Registrar.check q.registrar.settings q.phrase q.definitions = .ok events)
    (hs : ∀ q ∈ requests, q.Supported) :
    AllSucceed requests (newDesk : Desk (Standalone H)) ∧
      AllTaken requests (newDesk : Desk (Standalone H)) ∧
      ∀ step ∈ (after requests (newDesk : Desk (Standalone H))).host.steps, ∀ name type,
        .field name type ∈ Format.parts step.template.format →
          name = [] ∧ TypeName.isPlain type = true ∧
            (after requests (newDesk : Desk (Standalone H))).host.converters.has type = true := by
  have hnone : ∀ name ∈ (newDesk : Desk (Standalone H)).host.types.names, Bears [] name :=
    fun _ hm => absurd hm List.not_mem_nil
  have htaken :=
    allTaken_of_bears Standalone.sound_empty hnone htokens hlength hdistinct hcheck hs
  refine ⟨htaken.succeed, htaken, ?_⟩
  have hsound := Standalone.sound_empty.after (d := newDesk) (requests.map Call.register)
  rw [← after_eq] at hsound
  intro step hm name type hf
  obtain ⟨hnone, hk⟩ := hsound.fields step hm name type hf
  obtain ⟨other, rfl⟩ := hsound.toCoherent.exists_ofName hk
  exact ⟨hnone, TypeName.isPlain_ofName other, hk⟩

/-- A phrase with names of all kinds: an empty one, one with a colon, one between doubled braces, a
quote, a number with a sign, a line break; and braces that belong to none. -/
def tangledPhrase : Text :=
  ['{', '}', ' ', '{', 'a', ':', 'b', '}', '{', '{', '1', '}', '}', '{', '"', '}', '{', '-', '7', 'é',
    '}', '{', '\n', '}', '}', '{', '{', 'i', 'n', 't', '}']

def tangledDefinitions : Definitions :=
  [([], .string), (['a', ':', 'b'], .string), (['1'], .raw ⟨['x', '+'], none, ⟨[], .ok⟩, none⟩),
    (['"'], .string), (['-', '7', 'é'], .raw ⟨['(', 'x', ')'], none, ⟨[], .ok⟩, some 1⟩),
    (['\n'], .string)]

def tangled (separator : Text) (h : Separator.isLegal separator = true) : Request Unit :=
  ⟨⟨⟨false, separator, h⟩, fun n => Text.decimal n⟩, tangledPhrase, (), tangledDefinitions⟩

def tangledTwice : List (Request Unit) := [tangled ['_', '_'] rfl, tangled ['-'] rfl]

/-- A phrase may be registered again, also with another separator. -/
theorem allSucceed_tangled :
    (∀ token ∈ tokensFrom 0 tangledTwice, Phrase.IsName token) ∧
      SameLength (tokensFrom 0 tangledTwice) ∧ (tokensFrom 0 tangledTwice).Nodup ∧
      (∀ q ∈ tangledTwice, ∃ events,
        Registrar.check q.registrar.settings q.phrase q.definitions = .ok events) ∧
      (∀ q ∈ tangledTwice, q.Supported) ∧
      AllSucceed tangledTwice (newDesk : Desk (Standalone Unit)) := by
  have htokens : tokensFrom 0 tangledTwice = [['0'], ['1']] := by decide
  have hname : ∀ token ∈ tokensFrom 0 tangledTwice, Phrase.IsName token := by
    rw [htokens]
    decide
  have hlength : SameLength (tokensFrom 0 tangledTwice) := by
    rw [htokens, SameLength]
    decide
  have hdistinct : (tokensFrom 0 tangledTwice).Nodup := by
    rw [htokens]
    decide
  have hmember : ∀ q ∈ tangledTwice, ∃ separator h, q = tangled separator h := by
    intro q hq
    rcases List.mem_cons.mp hq with rfl | hq
    · exact ⟨_, _, rfl⟩
    · exact ⟨_, _, List.mem_singleton.mp hq⟩
  have hcheck : ∀ q ∈ tangledTwice, ∃ events,
      Registrar.check q.registrar.settings q.phrase q.definitions = .ok events := by
    intro q hq
    obtain ⟨separator, h, rfl⟩ := hmember q hq
    exact ⟨[], rfl⟩
  have hsupported : ∀ q ∈ tangledTwice, q.Supported := by
    intro q hq name _ value hf
    obtain ⟨separator, h, rfl⟩ := hmember q hq
    have hm : (name, Definition.unknown value) ∈ tangledDefinitions := Table.mem_of_find? hf
    simp [tangledDefinitions] at hm
  exact ⟨hname, hlength, hdistinct, hcheck, hsupported,
    (allSucceed _ hname hlength hdistinct hcheck hsupported).1⟩

end Request

end Phrasebook

import Phrasebook.Proofs.Lists
import Phrasebook.Template

/-!
# What the fields of a template give

A field reads a group by its number, and the numbers follow from what the types of the fields before
it say about their groups. However wrong that is, numbers that are not negative never fall together,
so no two fields share a group: what a field gives is always an output of its own conversion. Where
all groups that are read take part in the match, it is what the conversion makes of the group's text.
-/

namespace Phrasebook.Template

variable {α : Type}

def numbered : Int → List (FieldType α) → List (Field α)
  | _, [] => []
  | next, type :: types => ⟨next, type⟩ :: numbered (next + type.groups.getD 0 + 1) types

/-- No field counts from the end, and no two read the same group. -/
structure Apart (fields : List (Field α)) : Prop where
  natural : ∀ f ∈ fields, 0 ≤ f.index
  pairwise : fields.Pairwise (·.index ≠ ·.index)

theorem types_numbered (next : Int) (types : List (FieldType α)) :
    (numbered next types).map (·.type) = types := by
  induction types generalizing next with
  | nil => rfl
  | cons type types ih => rw [numbered, List.map_cons, ih]

/-- A type that leaves the number of its groups open, or says that it has some or none. -/
def Countable (type : FieldType α) : Prop := ∀ n ∈ type.groups, 0 ≤ n

theorem Countable.getD {type : FieldType α} (h : Countable type) : 0 ≤ type.groups.getD 0 := by
  unfold Countable at h
  cases hg : type.groups with
  | none => simp
  | some n =>
    have hn : 0 ≤ n := h n (by simp [hg])
    simpa using hn

theorem le_index_of_mem_numbered {next : Int} {types : List (FieldType α)}
    (h : ∀ type ∈ types, Countable type) {f : Field α} (hf : f ∈ numbered next types) :
    next ≤ f.index := by
  induction types generalizing next with
  | nil => cases hf
  | cons type types ih =>
    have hg : 0 ≤ type.groups.getD 0 := (h type (by simp)).getD
    cases List.mem_cons.mp hf with
    | inl he => exact he ▸ Int.le_refl next
    | inr hr =>
      have hi := ih (fun t ht => h t (by simp [ht])) hr
      omega

theorem apart_numbered {next : Int} (hn : 0 ≤ next) {types : List (FieldType α)}
    (h : ∀ type ∈ types, Countable type) : Apart (numbered next types) := by
  refine ⟨fun f hf => Int.le_trans hn (le_index_of_mem_numbered h hf), ?_⟩
  induction types generalizing next with
  | nil => exact List.Pairwise.nil
  | cons type types ih =>
    have hg : 0 ≤ type.groups.getD 0 := (h type (by simp)).getD
    have hrest : ∀ t ∈ types, Countable t := fun t ht => h t (by simp [ht])
    refine List.Pairwise.cons (fun f hf => ?_) (ih (by omega) hrest)
    have hi := le_index_of_mem_numbered hrest hf
    change next ≠ f.index
    omega

theorem typeAt?_of_mem {fields : List (Field α)} (h : Apart fields) {f : Field α} (hf : f ∈ fields) :
    typeAt? fields f.index = some f.type := by
  have hmem : f ∈ fields.filter (·.index = f.index) := List.mem_filter.mpr ⟨hf, by simp⟩
  have hpair := h.pairwise.filter (·.index = f.index)
  have hindex : ∀ g ∈ fields.filter (·.index = f.index), g.index = f.index := by
    intro g hg
    simpa using (List.mem_filter.mp hg).2
  rw [typeAt?]
  cases hl : fields.filter (·.index = f.index) with
  | nil => simp [hl] at hmem
  | cons g rest =>
    rw [hl] at hmem hpair hindex
    cases rest with
    | nil =>
      have he : f = g := by simpa using hmem
      rw [he]
      rfl
    | cons g' rest =>
      have hne := (List.pairwise_cons.mp hpair).1 g' (by simp)
      have hg : g.index = f.index := hindex g (by simp)
      have hg' : g'.index = f.index := hindex g' (by simp)
      exact absurd (hg.trans hg'.symm) hne

theorem slot?_of_natural (slots : List α) {index : Int} (h : 0 ≤ index) :
    slot? slots index = slots[index.toNat]?.map fun value => (index.toNat, value) := by
  rw [slot?, Text.place?, if_pos h]
  split
  · rfl
  · next hl =>
    have hle : slots.length ≤ index.toNat := by omega
    rw [List.getElem?_eq_none hle]
    rfl

/-- Converting what a field reads changes its own group only. -/
theorem convertAt_eq_ok {fields : List (Field α)} (h : Apart fields) {f : Field α}
    (hf : f ∈ fields) {slots after : List α} (hc : convertAt fields slots f = .ok after) :
    ∃ old new, slots[f.index.toNat]? = some old ∧ f.type.convert old = .ok new ∧
      after = slots.set f.index.toNat new := by
  rw [convertAt, slot?_of_natural slots (h.natural f hf), typeAt?_of_mem h hf] at hc
  cases hs : slots[f.index.toNat]? with
  | none =>
    rw [hs] at hc
    cases hc
  | some old =>
    rw [hs] at hc
    simp only [Option.map_some, Option.getD_some] at hc
    cases hv : f.type.convert old with
    | error failure =>
      rw [hv] at hc
      cases hc
    | ok new =>
      rw [hv] at hc
      cases hc
      exact ⟨old, new, rfl, hv, rfl⟩

/-- After all conversions each field's group holds an output of the field's own conversion. Groups
that no field reads are as before. -/
theorem convertAll_eq_ok {fields rest : List (Field α)} (h : Apart fields) (hr : Apart rest)
    (hs : ∀ f ∈ rest, f ∈ fields) {slots after : List α}
    (hc : convertAll fields rest slots = .ok after) :
    (∀ i, (∀ f ∈ rest, f.index.toNat ≠ i) → after[i]? = slots[i]?) ∧
      ∀ f ∈ rest, ∃ old new, slots[f.index.toNat]? = some old ∧ f.type.convert old = .ok new ∧
        after[f.index.toNat]? = some new := by
  induction rest generalizing slots with
  | nil =>
    cases hc
    exact ⟨fun _ _ => rfl, fun f hf => absurd hf List.not_mem_nil⟩
  | cons f rest ih =>
    rw [convertAll] at hc
    cases hf : convertAt fields slots f with
    | error failure =>
      rw [hf] at hc
      cases hc
    | ok next =>
      rw [hf] at hc
      obtain ⟨old, new, hold, hnew, rfl⟩ := convertAt_eq_ok h (hs f (by simp)) hf
      have hrest : Apart rest :=
        ⟨fun g hg => hr.natural g (by simp [hg]), (List.pairwise_cons.mp hr.pairwise).2⟩
      obtain ⟨hframe, hout⟩ := ih hrest (fun g hg => hs g (by simp [hg])) hc
      have hne : ∀ g ∈ rest, g.index.toNat ≠ f.index.toNat := by
        intro g hg
        have hd : f.index ≠ g.index := (List.pairwise_cons.mp hr.pairwise).1 g hg
        have h0 := hr.natural f (by simp)
        have h1 := hr.natural g (by simp [hg])
        omega
      refine ⟨fun i hi => ?_, fun g hg => ?_⟩
      · rw [hframe i fun g hg => hi g (by simp [hg])]
        exact List.getElem?_set_ne (hi f (by simp))
      · cases List.mem_cons.mp hg with
        | inl he =>
          subst he
          refine ⟨old, new, hold, hnew, ?_⟩
          rw [hframe _ hne]
          obtain ⟨hlt, -⟩ := List.getElem?_eq_some_iff.mp hold
          exact List.getElem?_set_self hlt
        | inr hg =>
          obtain ⟨gold, gnew, hgold, hgnew, hgout⟩ := hout g hg
          rw [List.getElem?_set_ne (Ne.symm (hne g hg))] at hgold
          exact ⟨gold, gnew, hgold, hgnew, hgout⟩

theorem value_of_readingOf {s : Spot} {text : Text} {slots : List α} {f : Field α}
    (hf : 0 ≤ f.index) {r : Reading α} (h : readingOf s text slots f = .ok r) :
    slots[f.index.toNat]? = some r.value := by
  rw [readingOf, slot?_of_natural slots hf] at h
  cases hs : slots[f.index.toNat]? with
  | none =>
    rw [hs] at h
    cases h
  | some value =>
    rw [hs] at h
    simp only [Option.map_some] at h
    cases hp : span s text f.index with
    | error failure =>
      rw [hp] at h
      cases h
    | ok found =>
      rw [hp] at h
      cases h
      rfl

/-- Whatever the pattern is and whichever groups the fields read, the value that a field gives is
what its own conversion has made of something. -/
theorem read_outputs {inject : Option Text → α} {t : Template α} (h : Apart t.fields) {text : Text}
    {readings : List (Reading α)} (hr : t.read inject text = .ok (some readings)) :
    List.Forall₂ (fun f r => ∃ old, f.type.convert old = .ok r.value) t.fields readings := by
  rw [read] at hr
  split at hr
  · cases hr
  · split at hr
    · cases hr
    · next s _ =>
      split at hr
      · cases hr
      · next slots hc =>
        obtain ⟨-, hout⟩ := convertAll_eq_ok h h (fun _ hf => hf) hc
        cases hm : t.fields.mapM (readingOf s text slots) with
        | error failure =>
          rw [hm] at hr
          cases hr
        | ok found =>
          rw [hm] at hr
          cases hr
          have hall := forall₂_of_mapM hm
          rw [List.forall₂_iff_get] at hall ⊢
          refine ⟨hall.1, fun i hi hi' => ?_⟩
          have hmem : t.fields.get ⟨i, hi⟩ ∈ t.fields := List.get_mem ..
          have hslot := value_of_readingOf (h.natural _ hmem) (hall.2 i hi hi')
          obtain ⟨old, new, -, hnew, hafter⟩ := hout _ hmem
          rw [hafter] at hslot
          exact ⟨old, by rw [hnew, Option.some.inj hslot]⟩

theorem convertAt_eq_error {fields : List (Field α)} {f : Field α} (hf : f ∈ fields) {slots : List α}
    {failure : Failure} (h : convertAt fields slots f = .error failure) :
    failure = .captureMissing ∨
      ∃ g, g ∈ fields ∧ ∃ old, g.type.convert old = .error failure := by
  rw [convertAt] at h
  cases hs : slot? slots f.index with
  | none =>
    rw [hs] at h
    cases h
    exact .inl rfl
  | some found =>
    obtain ⟨place, old⟩ := found
    rw [hs] at h
    obtain ⟨g, hg, htype⟩ : ∃ g, g ∈ fields ∧ (typeAt? fields f.index).getD f.type = g.type := by
      rw [typeAt?]
      cases hl : (fields.filter (·.index = f.index)).getLast? with
      | none => exact ⟨f, hf, rfl⟩
      | some g => exact ⟨g, (List.mem_filter.mp (List.mem_of_getLast? hl)).1, rfl⟩
    simp only [htype] at h
    cases hv : g.type.convert old with
    | error other =>
      rw [hv] at h
      cases h
      exact .inr ⟨g, hg, old, hv⟩
    | ok new =>
      rw [hv] at h
      cases h

theorem convertAll_eq_error {fields rest : List (Field α)} (hr : ∀ f ∈ rest, f ∈ fields)
    {slots : List α} {failure : Failure} (h : convertAll fields rest slots = .error failure) :
    failure = .captureMissing ∨
      ∃ g, g ∈ fields ∧ ∃ old, g.type.convert old = .error failure := by
  induction rest generalizing slots with
  | nil => cases h
  | cons f rest ih =>
    rw [convertAll] at h
    split at h
    · next hf =>
      cases h
      exact convertAt_eq_error (hr f (by simp)) hf
    · exact ih (fun g hg => hr g (by simp [hg])) h

theorem readingOf_eq_error {s : Spot} {text : Text} {slots : List α} {f : Field α}
    {failure : Failure} (h : readingOf s text slots f = .error failure) :
    failure = .captureMissing ∨ failure = .groupMissing := by
  rw [readingOf] at h
  split at h
  · cases h
    exact .inl rfl
  · rw [span] at h
    split at h
    · cases h
    · split at h
      · cases h
        exact .inr rfl
      · split at h
        · cases h
        · cases h

/-- A template with a pattern fails on a text only where a field reads a group that is not there, or
where the conversion of some field fails. -/
theorem read_eq_error {t : Template α} {found : Pattern × Nat} (hc : t.compiled = .ok found)
    {inject : Option Text → α} {text : Text} {failure : Failure}
    (h : t.read inject text = .error failure) :
    failure = .captureMissing ∨ failure = .groupMissing ∨
      ∃ f, f ∈ t.fields ∧ ∃ old, f.type.convert old = .error failure := by
  rw [read, hc] at h
  simp only at h
  split at h
  · cases h
  · split at h
    · next hall =>
      cases h
      exact (convertAll_eq_error (fun _ hf => hf) hall).imp_right .inr
    · next slots _ =>
      cases hm : t.fields.mapM (readingOf _ text slots) with
      | ok readings =>
        rw [hm] at h
        cases h
      | error other =>
        rw [hm] at h
        cases h
        obtain ⟨f, -, hf⟩ := exists_of_mapM_eq_error hm
        exact (readingOf_eq_error hf).imp_right .inl

/-- Converts values, each by a type of its own, up to the first that fails. -/
def convertEach : List (FieldType α) → List α → Except Failure (List α)
  | type :: types, old :: olds =>
    match type.convert old with
    | .error failure => .error failure
    | .ok new => (convertEach types olds).map (new :: ·)
  | _, _ => .ok []

/-- Where values are converted one after another and all together fail, there is a first one that
fails. -/
theorem exists_of_convertEach_eq_error {types : List (FieldType α)} {olds : List α} {failure : Failure}
    (h : convertEach types olds = .error failure) :
    ∃ left type old right, types.zip olds = left ++ (type, old) :: right ∧
      (∀ entry ∈ left, ∃ new, entry.1.convert entry.2 = .ok new) ∧
      type.convert old = .error failure := by
  induction types generalizing olds with
  | nil => cases h
  | cons type types ih =>
    cases olds with
    | nil => cases h
    | cons old olds =>
      rw [convertEach] at h
      cases hv : type.convert old with
      | error other =>
        rw [hv] at h
        cases h
        exact ⟨[], type, old, types.zip olds, rfl, by simp, hv⟩
      | ok new =>
        rw [hv] at h
        obtain ⟨left, type', old', right, hz, hleft, hfailure⟩ := ih (eq_error_of_map h)
        refine ⟨(type, old) :: left, type', old', right, congrArg _ hz, ?_, hfailure⟩
        exact List.forall_mem_cons.mpr ⟨⟨new, hv⟩, hleft⟩

/-- Where all succeed, each gives its value. -/
theorem forall₂_of_convertEach {types : List (FieldType α)} {olds news : List α}
    (h : convertEach types olds = .ok news) :
    List.Forall₂ (fun entry new => entry.1.convert entry.2 = .ok new) (types.zip olds) news := by
  induction types generalizing olds news with
  | nil =>
    cases h
    exact .nil
  | cons type types ih =>
    cases olds with
    | nil =>
      cases h
      exact .nil
    | cons old olds =>
      rw [convertEach] at h
      cases hv : type.convert old with
      | error failure =>
        rw [hv] at h
        cases h
      | ok new =>
        rw [hv] at h
        obtain ⟨rest, hrest, rfl⟩ := exists_of_map_eq_ok h
        exact .cons hv (ih hrest)

/-- Where each has its own value, these are the values of all. -/
theorem convertEach_eq_ok {β γ : Type} {typeOf : β → FieldType α} {old : γ → α} {names : List β}
    {written : List (γ × α)}
    (h : List.Forall₂ (fun name w => (typeOf name).convert (old w.1) = .ok w.2) names written) :
    convertEach (names.map typeOf) ((written.map (·.1)).map old) = .ok (written.map (·.2)) := by
  induction h with
  | nil => rfl
  | @cons name w names written hw _ ih =>
    simp only [List.map_cons, convertEach, hw]
    rw [ih]
    rfl

theorem length_of_convertEach {types : List (FieldType α)} {olds news : List α}
    (hl : olds.length = types.length) (h : convertEach types olds = .ok news) :
    news.length = types.length := by
  rw [← (forall₂_of_convertEach h).length_eq, List.length_zip, hl, Nat.min_self]

theorem convertAt_eq {fields : List (Field α)} (h : Apart fields) {f : Field α} (hf : f ∈ fields)
    {slots : List α} {old : α} (ho : slots[f.index.toNat]? = some old) :
    convertAt fields slots f =
      (f.type.convert old).map fun new => slots.set f.index.toNat new := by
  rw [convertAt, slot?_of_natural slots (h.natural f hf), typeAt?_of_mem h hf, ho]
  rfl

/-- The fields convert what is in their groups one after another, up to the first that fails. -/
theorem convertAll_eq {fields rest : List (Field α)} (h : Apart fields) (hr : Apart rest)
    (hs : ∀ f ∈ rest, f ∈ fields) {slots olds : List α}
    (ho : List.Forall₂ (fun f old => slots[f.index.toNat]? = some old) rest olds) :
    (∀ failure, convertEach (rest.map (·.type)) olds = .error failure →
        convertAll fields rest slots = .error failure) ∧
      ∀ news, convertEach (rest.map (·.type)) olds = .ok news →
        ∃ after, convertAll fields rest slots = .ok after ∧
          List.Forall₂ (fun f new => after[f.index.toNat]? = some new) rest news := by
  induction rest generalizing slots olds with
  | nil =>
    cases ho
    refine ⟨fun failure he => (by cases he), fun news hn => ?_⟩
    cases hn
    exact ⟨slots, rfl, .nil⟩
  | cons f rest ih =>
    cases ho with
    | @cons _ old _ olds hold hrest =>
      have hat := convertAt_eq h (hs f (by simp)) hold
      have hapart : Apart rest :=
        ⟨fun g hg => hr.natural g (by simp [hg]), (List.pairwise_cons.mp hr.pairwise).2⟩
      have hne : ∀ g ∈ rest, g.index.toNat ≠ f.index.toNat := by
        intro g hg
        have hd : f.index ≠ g.index := (List.pairwise_cons.mp hr.pairwise).1 g hg
        have h0 := hr.natural f (by simp)
        have h1 := hr.natural g (by simp [hg])
        omega
      rw [List.map_cons, convertEach, convertAll, hat]
      cases hv : f.type.convert old with
      | error failure =>
        exact ⟨fun other he => he, fun news hn => (by cases hn)⟩
      | ok new =>
        have hkept : List.Forall₂
            (fun g value => (slots.set f.index.toNat new)[g.index.toNat]? = some value) rest olds := by
          refine (forall₂_congr fun g hg value => ?_).mp hrest
          rw [List.getElem?_set_ne (Ne.symm (hne g hg))]
        obtain ⟨herror, hok⟩ := ih hapart (fun g hg => hs g (by simp [hg])) hkept
        simp only [Except.map]
        cases hc : convertEach (rest.map (·.type)) olds with
        | error failure =>
          refine ⟨fun other he => ?_, fun news hn => (by cases hn)⟩
          cases he
          exact herror failure hc
        | ok values =>
          refine ⟨fun other he => (by cases he), fun news hn => ?_⟩
          cases hn
          obtain ⟨after, hafter, hall⟩ := hok values hc
          obtain ⟨hframe, -⟩ := convertAll_eq_ok h hapart (fun g hg => hs g (by simp [hg])) hafter
          obtain ⟨hlt, -⟩ := List.getElem?_eq_some_iff.mp hold
          refine ⟨after, hafter, .cons ?_ hall⟩
          rw [hframe _ hne, List.getElem?_set_self hlt]

def readingFrom (c : Capture) (value : α) : Reading α := ⟨c.start, c.text, value⟩

/-- What the fields give if their groups hold some values and have taken some texts. -/
theorem readings_eq {fields : List (Field α)} (h : Apart fields) {s : Spot} (text : Text)
    {slots values : List α} {cs : List Capture}
    (hv : List.Forall₂ (fun f value => slots[f.index.toNat]? = some value) fields values)
    (hc : List.Forall₂ (fun f c => s.capture? (f.index.toNat + 1) = some c) fields cs) :
    fields.mapM (readingOf s text slots) =
      .ok (List.zipWith readingFrom cs values) := by
  induction fields generalizing values cs with
  | nil =>
    cases hv
    cases hc
    rfl
  | cons f fields ih =>
    cases hv with
    | @cons _ value _ values hvalue hvalues =>
      cases hc with
      | @cons _ c _ cs hcapture hcaptures =>
        have hn := h.natural f (by simp)
        have hplace : (f.index + 1).toNat = f.index.toNat + 1 := by omega
        have hfirst : readingOf s text slots f = .ok ⟨c.start, c.text, value⟩ := by
          rw [readingOf, slot?_of_natural slots hn, hvalue, span, if_neg (by omega),
            if_neg (by omega), hplace, hcapture]
          rfl
        have hrest := ih ⟨fun g hg => h.natural g (by simp [hg]),
          (List.pairwise_cons.mp h.pairwise).2⟩ hvalues hcaptures
        rw [List.mapM_cons, hfirst, hrest]
        rfl

theorem captured_getElem? {inject : Option Text → α} {s : Spot} {groups i : Nat} {c : Capture}
    (hi : i < groups) (hc : s.capture? (i + 1) = some c) :
    (captured inject s groups)[i]? = some (inject (some c.text)) := by
  simp [captured, hi, hc]

/-- What a template reads, if all groups that its fields read take part in the match: the values of
their texts, and where they begin. -/
theorem read_of_captures {t : Template α} (h : Apart t.fields) {pattern : Pattern} {groups : Nat}
    (hp : t.compiled = .ok (pattern, groups)) {text : Text} {s : Spot}
    (hm : pattern.match? text = some s) {cs : List Capture}
    (hc : List.Forall₂ (fun f c => s.capture? (f.index.toNat + 1) = some c ∧ f.index.toNat < groups)
      t.fields cs) (inject : Option Text → α) :
    t.read inject text =
      (convertEach (t.fields.map (·.type)) (cs.map fun c => inject (some c.text))).map fun values =>
        some (List.zipWith readingFrom cs values) := by
  have holds : List.Forall₂ (fun f old => (captured inject s groups)[f.index.toNat]? = some old)
      t.fields (cs.map fun c => inject (some c.text)) := by
    rw [List.forall₂_map_right_iff]
    exact hc.imp fun f c hfc => captured_getElem? hfc.2 hfc.1
  obtain ⟨herror, hok⟩ := convertAll_eq h h (fun _ hf => hf) holds
  rw [read, hp]
  simp only [hm]
  cases hv : convertEach (t.fields.map (·.type)) (cs.map fun c => inject (some c.text)) with
  | error failure =>
    rw [herror failure hv]
    rfl
  | ok values =>
    obtain ⟨slots, hslots, hvalues⟩ := hok values hv
    rw [hslots]
    simp only [readings_eq h text hvalues (hc.imp fun f c hfc => hfc.1)]
    rfl

theorem values_readings {cs : List Capture} {values : List α} (h : cs.length = values.length) :
    (List.zipWith readingFrom cs values).map (·.value) = values := by
  induction cs generalizing values with
  | nil => rw [List.eq_nil_of_length_eq_zero h.symm]; rfl
  | cons c cs ih =>
    cases values with
    | nil => cases h
    | cons value values => rw [List.zipWith_cons_cons, List.map_cons, ih (Nat.succ.inj h)]; rfl

/-- The values of readings are the values of the conversions. -/
theorem values_of_readings {cs : List Capture} {types : List (FieldType α)} {olds : List α}
    (hc : cs.length = types.length) (ho : olds.length = types.length) :
    ((convertEach types olds).map fun values => some (List.zipWith readingFrom cs values)).map
        (·.map (·.map (·.value))) =
      (convertEach types olds).map some := by
  cases hv : convertEach types olds with
  | error failure => rfl
  | ok values =>
    have hl : cs.length = values.length := by rw [length_of_convertEach ho hv, hc]
    exact congrArg (fun found => Except.ok (some found)) (values_readings hl)

theorem values_of_captures {t : Template α} (h : Apart t.fields) {pattern : Pattern} {groups : Nat}
    (hp : t.compiled = .ok (pattern, groups)) {text : Text} {s : Spot}
    (hm : pattern.match? text = some s) {cs : List Capture}
    (hc : List.Forall₂ (fun f c => s.capture? (f.index.toNat + 1) = some c ∧ f.index.toNat < groups)
      t.fields cs) (inject : Option Text → α) :
    (t.read inject text).map (·.map (·.map (·.value))) =
      (convertEach (t.fields.map (·.type)) (cs.map fun c => inject (some c.text))).map some := by
  rw [read_of_captures h hp hm hc inject]
  exact values_of_readings (by simp [hc.length_eq]) (by simp [hc.length_eq])

end Phrasebook.Template

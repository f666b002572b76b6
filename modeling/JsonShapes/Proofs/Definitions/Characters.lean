import JsonShapes.Proofs.Definitions.Layout
import JsonShapes.Proofs.Except
import JsonShapes.Text.Encoder
import JsonShapes.Text.Words

/-! # The characters of a definitions text

A definitions text is made of line feeds, characters that ASCII shows, characters of names, and what the
field names are made of (`madeOf_of_generate`). So line feeds are its only control characters, whatever the
keys and the root name are (`feedsOnly_of_generate`), and it is the same text when line ends are translated
(`unixLines_eq`). And a system that refuses it finds a surrogate in a key (`exists_key_of_refused`). -/

namespace JsonShapes

namespace Text

/-- **A text of characters with a property.** -/
def MadeOf (P : Char → Prop) (s : String) : Prop := ∀ c ∈ s.toList, P c

section MadeOf
variable {P : Char → Prop}

@[simp] theorem madeOf_append (a b : String) : MadeOf P (a ++ b) ↔ MadeOf P a ∧ MadeOf P b := by
  simp only [MadeOf, String.toList_append, List.forall_mem_append]

theorem madeOf_intercalate {separator : String} (hs : MadeOf P separator) {parts : List String}
    (h : ∀ p ∈ parts, MadeOf P p) : MadeOf P (separator.intercalate parts) := by
  induction parts with
  | nil => simp [MadeOf]
  | cons p rest ih =>
    rw [List.forall_mem_cons] at h
    cases rest with
    | nil =>
      rw [String.intercalate_singleton]
      exact h.1
    | cons q rest =>
      rw [String.intercalate_cons_cons, madeOf_append, madeOf_append]
      exact ⟨⟨h.1, hs⟩, ih h.2⟩

/-- **A property of all characters that templates and names are made of.** -/
structure Admits (P : Char → Prop) : Prop where
  feed : P '\n'
  ascii : ∀ c, isAscii c = true → P c
  name : ∀ c, isNameChar c = true → P c

/-- Whether a text may stand in a template. -/
def isTemplate (s : String) : Bool := s.toList.all fun c => c == '\n' || isAscii c

theorem Admits.template (hP : Admits P) {s : String} (h : isTemplate s = true) : MadeOf P s := by
  intro c hc
  have hchar := List.all_eq_true.mp h c hc
  rw [Bool.or_eq_true, beq_iff_eq] at hchar
  rcases hchar with rfl | hascii
  · exact hP.feed
  · exact hP.ascii c hascii

end MadeOf

/-! ### Line ends -/

/-- **A text whose control characters are line feeds.** -/
def FeedsOnly (s : String) : Prop := MadeOf (fun c => c = '\n' ∨ 0x20 ≤ c.toNat) s

theorem le_of_isNameChar {c : Char} (h : isNameChar c = true) : 0x20 ≤ c.toNat := by
  have hcontrol : ∀ n < 0x20, isNameChar (Char.ofNat n) = false := by decide +kernel
  by_contra hlow
  have hnone := forall_below (P := fun c => isNameChar c = false) hcontrol (Nat.lt_of_not_le hlow)
  exact Bool.false_ne_true (hnone.symm.trans h)

theorem admits_feedsOnly : Admits fun c => c = '\n' ∨ 0x20 ≤ c.toNat where
  feed := .inl rfl
  ascii _ h := .inr (le_of_isAscii h)
  name _ h := .inr (le_of_isNameChar h)

/-- **Translating line ends** leaves a text without carriage returns alone. -/
theorem unixLines_of_notMem {cs : List Char} (h : '\r' ∉ cs) : unixLines cs = cs := by
  induction cs with
  | nil => rfl
  | cons c rest ih =>
    rw [List.mem_cons, not_or] at h
    rw [unixLines, ih h.2]
    · rintro _ rfl
      exact absurd rfl h.1
    · rintro rfl
      exact absurd rfl h.1

theorem FeedsOnly.unixLines_eq {s : String} (h : FeedsOnly s) : unixLines s.toList = s.toList :=
  unixLines_of_notMem fun hmem => absurd (h _ hmem) (by decide)

/-! ### Surrogates -/

theorem not_isStandIn_of_isAscii {c : Char} (h : isAscii c = true) : isStandIn c = false := by
  rw [isAscii, Bool.and_eq_true, decide_eq_true_eq, decide_eq_true_eq] at h
  rw [isStandIn, decide_eq_false_iff_not, firstStandIn]
  omega

/-- The characters of private use at the end of Unicode stand in no name. -/
theorem not_isStandIn_of_isNameChar {c : Char} (h : isNameChar c = true) : isStandIn c = false := by
  have hwords : noWords firstStandIn 0x10FFFF = true := by decide +kernel
  have hmarks : coversNone marks.ranges firstStandIn 0x10FFFF = true := by decide +kernel
  have hlast : c.toNat ≤ 0x10FFFF := by
    rcases c.valid with hlow | ⟨-, hhigh⟩
    · exact le_of_lt (lt_trans hlow (by decide))
    · exact Nat.lt_succ_iff.mp hhigh
  rw [isStandIn, decide_eq_false_iff_not]
  intro hfirst
  rw [isNameChar, not_isWord_of_noWords hwords hfirst hlast, Bool.false_or] at h
  exact Bool.false_ne_true ((not_covers_of_coversNone hmarks hfirst hlast).symm.trans h)

theorem admits_noStandIn : Admits fun c => isStandIn c = false where
  feed := by decide
  ascii _ := not_isStandIn_of_isAscii
  name _ := not_isStandIn_of_isNameChar

end Text

namespace Definitions

open Inference Naming Text

variable {P : Char → Prop} {fields : List Field} {d : Declaration} {D : List Declaration}
  {type : TypeExpr} {lines block text hint : String} {parts : List String}

/-- The text of a type, if it has one, is made of characters with a property. -/
def MadeOfType (P : Char → Prop) (t : TypeExpr) : Prop := ∀ text, typeText t = .ok text → MadeOf P text

/-- A declaration in which all that is filled in is made of characters with a property. -/
structure MadeIn (P : Char → Prop) (d : Declaration) : Prop where
  name : MadeOf P d.name
  field : ∀ g ∈ d.fields, MadeOf P g.name ∧ MadeOfType P g.type

section Parts
variable (hP : Admits P)
include hP

theorem madeOf_fieldLines (h : ∀ g ∈ fields, MadeOf P g.name ∧ MadeOfType P g.type)
    (hlines : fieldLines fields = .ok lines) : MadeOf P lines := by
  induction fields generalizing lines with
  | nil =>
    cases hlines
    exact hP.template (by decide)
  | cons g rest ih =>
    obtain ⟨hname, htype⟩ := h g List.mem_cons_self
    obtain ⟨text, htext, hlines⟩ := bind_eq_ok_iff.mp hlines
    obtain ⟨others, hothers, hlines⟩ := bind_eq_ok_iff.mp hlines
    cases hlines
    have hrest := ih (fun f hf => h f (List.mem_cons_of_mem _ hf)) hothers
    simp (disch := decide) only [fieldLine, madeOf_append, hname, htype text htext, hrest, hP.template,
      and_self]

theorem madeOf_interfaceBlock (h : MadeIn P d) (hblock : interfaceBlock d = .ok block) :
    MadeOf P block := by
  obtain ⟨lines, hlines, hblock⟩ := bind_eq_ok_iff.mp hblock
  cases hblock
  have hfields := madeOf_fieldLines hP h.field hlines
  simp (disch := decide) only [madeOf_append, h.name, hfields, hP.template, and_self]

theorem madeOf_blocks (hD : ∀ d ∈ D, MadeIn P d) (ht : MadeOfType P type)
    (hblocks : blocks (.text hint) type D = .ok parts) : ∀ p ∈ parts, MadeOf P p := by
  induction D generalizing parts with
  | nil =>
    obtain ⟨text, htext, hblocks⟩ := bind_eq_ok_iff.mp hblocks
    cases hblocks
    have hname : MadeOf P (typeName hint) := fun c hc => hP.name c (typeName_chars hint c hc)
    rw [List.forall_mem_singleton]
    simp (disch := decide) only [aliasLine, madeOf_append, hname, ht text htext, hP.template, and_self]
  | cons d rest ih =>
    obtain ⟨block, hblock, hblocks⟩ := bind_eq_ok_iff.mp hblocks
    obtain ⟨others, hothers, hblocks⟩ := bind_eq_ok_iff.mp hblocks
    cases hblocks
    rw [List.forall_mem_cons] at hD ⊢
    exact ⟨madeOf_interfaceBlock hP hD.1 hblock, ih hD.2 hothers⟩

theorem madeOf_header {stamp : String} (h : MadeOf P stamp) : MadeOf P (header stamp) := by
  rw [header_eq]
  refine madeOf_intercalate (hP.template (by decide)) ?_
  rw [headerLines, List.forall_mem_cons, List.forall_mem_cons, List.forall_mem_cons,
    List.forall_mem_cons, List.forall_mem_singleton]
  refine ⟨hP.template (by decide), hP.template (by decide), hP.template (by decide), ?_,
    hP.template (by decide)⟩
  exact (madeOf_append _ _).mpr ⟨hP.template (by decide), h⟩

theorem madeOf_of_stamp {now : Moment} {written : String} (h : stamp now = .ok written) :
    MadeOf P written :=
  fun c hc => hP.ascii c (Moment.ascii_of_stamp? (Moment.stamp_eq_ok_iff.mp h) c hc)

theorem madeOf_render (hD : ∀ d ∈ D, MadeIn P d) (ht : MadeOfType P type) {now : Moment}
    (htext : render D (.text hint) type now = .ok text) : MadeOf P text := by
  obtain ⟨written, hwritten, htext⟩ := bind_eq_ok_iff.mp htext
  obtain ⟨parts, hparts, htext⟩ := bind_eq_ok_iff.mp htext
  rw [← Except.ok.inj htext]
  refine madeOf_intercalate (hP.template (by decide)) ?_
  rw [List.forall_mem_cons]
  exact ⟨madeOf_header hP (madeOf_of_stamp hP hwritten), madeOf_blocks hP hD ht hparts⟩

/-! ### Generated texts -/

theorem madeOf_of_infer (dates : Bool) (v : Value) (hint : String)
    (hkeys : ∀ fields, Inside fields v → ∀ f ∈ fields, MadeOf P (fieldName f.1.text)) :
    (∀ d ∈ (infer dates v hint .empty).registry.declarations, MadeIn P d) ∧
      MadeOfType P (infer dates v hint .empty).type := by
  have hmade := exists_made dates v hint
  have hwritten : ∀ t, Occurs (infer dates v hint .empty) t → MadeOfType P t := by
    intro t ht text htext
    obtain ⟨text', htext', hchars⟩ := ht.written.exists_text hmade
    obtain rfl := Except.ok.inj (htext.symm.trans htext')
    intro c hc
    rcases hchars c hc with hname | rfl | rfl
    · exact hP.name c hname
    · exact hP.ascii _ (by decide)
    · exact hP.ascii _ (by decide)
  refine ⟨fun d hd => ⟨?_, fun g hg => ⟨?_, hwritten _ (.field hd hg)⟩⟩, hwritten _ .root⟩
  · obtain ⟨_, hname⟩ := hmade d hd
    exact fun c hc => hP.name c (hname.chars c hc)
  · obtain ⟨fields, hinside, hdesc⟩ := (infer_sound dates v hint).2 d hd
    obtain ⟨f, hmem, hf⟩ := exists_left_of_forall₂ hdesc.fields g hg
    rw [hf.1]
    exact hkeys fields hinside f hmem

/-- **What a definitions text is made of**, besides templates and names: field names. -/
theorem madeOf_of_generate {dates : Bool} {v : Value} {now : Moment}
    (hkeys : ∀ fields, Inside fields v → ∀ f ∈ fields, MadeOf P (fieldName f.1.text))
    (h : (generate v (.text hint) dates now).outcome = .ok text) : MadeOf P text := by
  have hv : v ≠ .null := by
    rintro rfl
    cases h
  rw [generate_outcome hv, mapError_eq_ok_iff, bind_eq_ok_iff] at h
  obtain ⟨found, hfound, h⟩ := h
  obtain rfl := eq_infer_of_walk (mapError_eq_ok_iff.mp hfound)
  obtain ⟨hD, ht⟩ := madeOf_of_infer hP dates v hint hkeys
  exact madeOf_render hP hD ht (mapError_eq_ok_iff.mp h)

end Parts

/-- **Line feeds are the only control characters in a definitions text**, for all keys and root names. -/
theorem feedsOnly_of_generate {dates : Bool} {v : Value} {now : Moment}
    (h : (generate v (.text hint) dates now).outcome = .ok text) : FeedsOnly text :=
  madeOf_of_generate admits_feedsOnly
    (fun _ _ f _ c hc => .inr (noControl_fieldName f.1.text c hc)) h

/-- **Definitions that a system refuses to write** are those of a value with a surrogate in a key. -/
theorem exists_key_of_refused {dates : Bool} {v : Value} {now : Moment} {e : Encoder} {message : String}
    (h : (generate v (.text hint) dates now).outcome = .ok text)
    (hrefused : e.check text = .error message) :
    ∃ fields, Inside fields v ∧ ∃ f ∈ fields, ∃ c ∈ f.1.text.toList, isStandIn c = true := by
  by_contra hnone
  have hkeys : ∀ fields, Inside fields v → ∀ f ∈ fields,
      MadeOf (fun c => isStandIn c = false) (fieldName f.1.text) := by
    intro fields hinside f hf c hc
    rcases mem_key_or_isAscii_of_mem_fieldName hc with ⟨hkey, -⟩ | hascii
    · rw [Bool.eq_false_iff]
      exact fun hsurrogate => hnone ⟨fields, hinside, f, hf, c, hkey, hsurrogate⟩
    · exact not_isStandIn_of_isAscii hascii
  cases hrefused.symm.trans (e.plain text (madeOf_of_generate admits_noStandIn hkeys h))

end Definitions

end JsonShapes

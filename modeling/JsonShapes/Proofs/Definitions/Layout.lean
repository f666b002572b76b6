import JsonShapes.Proofs.Calendar.Stamps
import JsonShapes.Proofs.Definitions.Generating
import JsonShapes.Proofs.Definitions.TypeText
import JsonShapes.Proofs.Naming.FieldName

/-! # The layout of a definitions text

A definitions text is its header, one paragraph for every declaration, and a paragraph of one line for the
name that the root type is exported under (`LaidOut`). Nothing that is filled in breaks a line: field
names are identifiers or in quotes, all other names are words, and the types are in one piece.

Read back, a line ends its field name at the last blank in it, for the type behind it has none. So the
text tells the names, the field names and the texts of all types (`LaidOut.outline_eq`), also where a
key looks like a line of its own. -/

namespace JsonShapes

/-! ### Stamps -/

namespace Moment

open Text

theorem isAscii_of_isDigit {c : Char} (h : c.isDigit = true) : isAscii c = true := by
  rw [Char.isDigit, Bool.and_eq_true, decide_eq_true_eq, decide_eq_true_eq] at h
  have hlow : 48 ≤ c.toNat := h.1
  have hhigh : c.toNat ≤ 57 := h.2
  simp only [isAscii, Bool.and_eq_true, decide_eq_true_eq]
  omega

theorem ascii_padded (width n : ℕ) : Ascii (padded width n) :=
  fun _ hc => isAscii_of_isDigit (isDigit_of_mem_padded hc)

theorem ascii_text (m : Moment) : Ascii m.text := by
  have hyear : Ascii (toString m.day.year) :=
    fun _ hc => isAscii_of_isDigit (isDigit_of_mem_toString hc)
  simp only [text, ascii_append, hyear, ascii_padded, true_and]
  decide

theorem ascii_of_stamp? {now : Moment} {stamp : String} (h : now.stamp? = some stamp) :
    Ascii stamp := by
  obtain ⟨m, -, rfl⟩ := Option.map_eq_some_iff.mp h
  exact m.ascii_text

end Moment

namespace Definitions

open Inference Naming Text

/-! ### The parts of a text -/

/-- **The line of a field**: two blanks, its name, a colon, a blank, the text of its type, a semicolon. -/
def IsMember (g : Field) (line : String) : Prop :=
  ∃ text, typeText g.type = .ok text ∧ line = "  " ++ g.name ++ ": " ++ text ++ ";"

/-- **The block of a declaration**: one line for every field, in order, between two more. -/
def IsInterface (d : Declaration) (block : String) : Prop :=
  ∃ members, linesOf block = ("interface " ++ d.name ++ " \x7b") :: (members ++ ["\x7d"]) ∧
    List.Forall₂ IsMember d.fields members

/-- **The block of the root type** is one line. -/
def IsAlias (name : String) (type : TypeExpr) (block : String) : Prop :=
  ∃ text, typeText type = .ok text ∧ linesOf block = ["export type " ++ name ++ " = " ++ text ++ ";"]

/-- **A text laid out for declarations, a name and a root type**: what double line feeds separate is the
header, the blocks of the declarations in order, and that of the root type. -/
def LaidOut (stamp : String) (D : List Declaration) (name : String) (type : TypeExpr)
    (text : String) : Prop :=
  ∃ interfaces last, paragraphsOf text = header stamp :: (interfaces ++ [last]) ∧
    List.Forall₂ IsInterface D interfaces ∧ IsAlias name type last

/-- **What a text tells of declarations**: their names, with the names and type texts of their fields. -/
def outline (D : List Declaration) : List (String × List (String × Except Fault String)) :=
  D.map fun d => (d.name, d.fields.map fun g => (g.name, typeText g.type))

/-- A field that fills one line: its name has no line feed, and its type is in one piece. -/
def PlainField (g : Field) : Prop := NoFeed g.name ∧ OnePiece g.type

/-- A declaration with a name and fields that keep to their lines. -/
structure PlainDeclaration (d : Declaration) : Prop where
  name : NoFeed d.name
  field : ∀ g ∈ d.fields, PlainField g

variable {D D' : List Declaration} {name name' : String} {type type' : TypeExpr} {stamp : String}

/-! ### Writing -/

/-- **The lines of fields**, and how they are joined. The lines around them are any two, for in the
induction every line is once the one in front. -/
theorem exists_members {fields : List Field} (h : ∀ g ∈ fields, PlainField g) :
    ∃ members lines, fieldLines fields = .ok lines ∧ List.Forall₂ IsMember fields members ∧
      (∀ l ∈ members, l ≠ "" ∧ NoFeed l) ∧ ∀ first last,
        "\n".intercalate (first :: (members ++ [last])) = first ++ lines ++ "\n" ++ last := by
  induction fields with
  | nil =>
    refine ⟨[], "", rfl, .nil, nofun, fun first last => ?_⟩
    rw [List.nil_append, String.intercalate_cons_cons, String.intercalate_singleton,
      String.append_empty]
  | cons g rest ih =>
    obtain ⟨members, lines, hlines, hmembers, hplain, hjoin⟩ :=
      ih fun f hf => h f (List.mem_cons_of_mem _ hf)
    obtain ⟨hname, text, htext, -, hfeed⟩ := h g List.mem_cons_self
    refine ⟨("  " ++ g.name ++ ": " ++ text ++ ";") :: members, fieldLine g.name text ++ lines, ?_,
      .cons ⟨text, htext, rfl⟩ hmembers, ?_, fun first last => ?_⟩
    · rw [fieldLines, htext, hlines]
      rfl
    · rw [List.forall_mem_cons]
      refine ⟨⟨by simp, ?_⟩, hplain⟩
      simp only [noFeed_append, hname, hfeed, and_true]
      decide
    · rw [List.cons_append, String.intercalate_cons_cons, hjoin, fieldLine]
      simp only [String.append_assoc]
      rfl

theorem exists_interface {d : Declaration} (h : PlainDeclaration d) :
    ∃ block, interfaceBlock d = .ok block ∧ IsInterface d block ∧
      ∃ lines, IsParagraph lines block := by
  obtain ⟨members, lines, hlines, hmembers, hplain, hjoin⟩ := exists_members h.field
  have hblock : IsParagraph (("interface " ++ d.name ++ " \x7b") :: (members ++ ["\x7d"]))
      ("interface " ++ d.name ++ " \x7b" ++ lines ++ "\n\x7d") := by
    refine ⟨List.cons_ne_nil _ _, ?_, ?_⟩
    · rw [List.forall_mem_cons, List.forall_mem_append, List.forall_mem_singleton]
      refine ⟨⟨by simp, ?_⟩, hplain, by decide, by decide⟩
      simp only [noFeed_append, h.name, and_true]
      decide
    · rw [hjoin]
      simp only [String.append_assoc]
      rfl
  refine ⟨_, ?_, ⟨members, hblock.linesOf_eq, hmembers⟩, _, hblock⟩
  rw [interfaceBlock, hlines]
  rfl

theorem exists_blocks (hD : ∀ d ∈ D, PlainDeclaration d) (ht : OnePiece type) (hint : String) :
    ∃ interfaces last, blocks (.text hint) type D = .ok (interfaces ++ [last]) ∧
      List.Forall₂ IsInterface D interfaces ∧ IsAlias (typeName hint) type last ∧
      ∀ b ∈ interfaces ++ [last], ∃ lines, IsParagraph lines b := by
  induction D with
  | nil =>
    obtain ⟨text, htext, -, hfeed⟩ := ht
    have hname : NoFeed (typeName hint) := Word.notMem (typeName_chars hint) (by decide)
    have hline : IsParagraph [aliasLine (typeName hint) text] (aliasLine (typeName hint) text) := by
      refine ⟨List.cons_ne_nil _ _, ?_, String.intercalate_singleton.symm⟩
      rw [List.forall_mem_singleton, aliasLine]
      refine ⟨by simp, ?_⟩
      simp only [noFeed_append, hname, hfeed, and_true]
      decide
    refine ⟨[], aliasLine (typeName hint) text, ?_, .nil, ⟨text, htext, hline.linesOf_eq⟩, ?_⟩
    · rw [blocks, htext]
      rfl
    · rw [List.nil_append, List.forall_mem_singleton]
      exact ⟨_, hline⟩
  | cons d rest ih =>
    obtain ⟨block, hblock, hinterface, hlines⟩ := exists_interface (hD d List.mem_cons_self)
    obtain ⟨interfaces, last, hrest, hall, halias, hparagraphs⟩ :=
      ih fun e he => hD e (List.mem_cons_of_mem _ he)
    refine ⟨block :: interfaces, last, ?_, .cons hinterface hall, halias, ?_⟩
    · rw [blocks, hblock, hrest]
      rfl
    · rw [List.cons_append, List.forall_mem_cons]
      exact ⟨hlines, hparagraphs⟩

/-- The lines of a header. -/
def headerLines (stamp : String) : List String :=
  ["/**", " * Auto-generated TypeScript type definitions", " * Generated by " ++ toolName,
    " * Generated at: " ++ stamp, " */"]

theorem header_eq (stamp : String) : header stamp = "\n".intercalate (headerLines stamp) := by
  apply String.toList_injective
  -- `delta`, for Lean does not get to the equation of a definition with such long texts
  delta header headerLines toolName
  simp

theorem header_isParagraph (h : NoFeed stamp) : IsParagraph (headerLines stamp) (header stamp) := by
  refine ⟨List.cons_ne_nil _ _, ?_, header_eq stamp⟩
  rw [headerLines, List.forall_mem_cons, List.forall_mem_cons, List.forall_mem_cons,
    List.forall_mem_cons, List.forall_mem_singleton]
  refine ⟨by decide, by decide, by decide, ⟨by simp, ?_⟩, by decide⟩
  exact (noFeed_append _ _).mpr ⟨by decide, h⟩

/-- **A rendered text is laid out**, when nothing that is filled in breaks a line. -/
theorem exists_render (hD : ∀ d ∈ D, PlainDeclaration d) (ht : OnePiece type) (hint : String)
    {now : Moment} (hs : now.stamp? = some stamp) :
    ∃ text, render D (.text hint) type now = .ok text ∧
      LaidOut stamp D (typeName hint) type text := by
  obtain ⟨interfaces, last, hblocks, hall, halias, hparagraphs⟩ := exists_blocks hD ht hint
  refine ⟨"\n\n".intercalate (header stamp :: (interfaces ++ [last])), ?_, interfaces, last,
    paragraphsOf_intercalate (List.cons_ne_nil _ _) ?_, hall, halias⟩
  · rw [render, Definitions.stamp, hs, hblocks]
    rfl
  · rw [List.forall_mem_cons]
    exact ⟨⟨_, header_isParagraph (Moment.ascii_of_stamp? hs).noControl.noFeed⟩, hparagraphs⟩

/-! ### Reading -/

theorem append_blank_inj {a a' b b' : List Char} (hb : ' ' ∉ b) (hb' : ' ' ∉ b')
    (h : a ++ ' ' :: b = a' ++ ' ' :: b') : a = a' ∧ b = b' := by
  rcases List.append_eq_append_iff.mp h with ⟨m, rfl, hm⟩ | ⟨m, rfl, hm⟩
  · cases m with
    | nil => exact ⟨(List.append_nil a).symm, (List.cons.inj hm).2⟩
    | cons c m => exact absurd (by rw [(List.cons.inj hm).2]; simp) hb
  · cases m with
    | nil => exact ⟨List.append_nil a', (List.cons.inj hm).2.symm⟩
    | cons c m => exact absurd (by rw [(List.cons.inj hm).2]; simp) hb'

theorem line_inj {before after name name' text text' : String} (ht : ' ' ∉ text.toList)
    (ht' : ' ' ∉ text'.toList)
    (h : before ++ name ++ (after ++ " ") ++ text ++ ";" =
      before ++ name' ++ (after ++ " ") ++ text' ++ ";") : name = name' ∧ text = text' := by
  rw [String.append_left_inj] at h
  have hchars : (before ++ name ++ after).toList ++ ' ' :: text.toList =
      (before ++ name' ++ after).toList ++ ' ' :: text'.toList := by
    simpa using congrArg String.toList h
  obtain ⟨hfront, htext⟩ := append_blank_inj ht ht' hchars
  have hname := String.toList_injective hfront
  rw [String.append_left_inj, String.append_right_inj] at hname
  exact ⟨hname, String.toList_injective htext⟩

theorem IsMember.eq {g g' : Field} {line : String} (h : IsMember g line) (h' : IsMember g' line)
    (hg : OnePiece g.type) (hg' : OnePiece g'.type) :
    (g.name, typeText g.type) = (g'.name, typeText g'.type) := by
  obtain ⟨text, htext, hblank, -⟩ := hg
  obtain ⟨text', htext', hblank', -⟩ := hg'
  obtain ⟨_, heq, rfl⟩ := h
  obtain ⟨_, heq', hline⟩ := h'
  cases heq.symm.trans htext
  cases heq'.symm.trans htext'
  have hcut : "  " ++ g.name ++ (":" ++ " ") ++ text ++ ";" =
      "  " ++ g'.name ++ (":" ++ " ") ++ text' ++ ";" := hline
  obtain ⟨hname, rfl⟩ := line_inj hblank hblank' hcut
  rw [hname, htext, htext']

theorem IsAlias.eq {block : String} (h : IsAlias name type block) (h' : IsAlias name' type' block)
    (ht : OnePiece type) (ht' : OnePiece type') : name = name' ∧ typeText type = typeText type' := by
  obtain ⟨text, htext, hblank, -⟩ := ht
  obtain ⟨text', htext', hblank', -⟩ := ht'
  obtain ⟨_, heq, hlines⟩ := h
  obtain ⟨_, heq', hlines'⟩ := h'
  cases heq.symm.trans htext
  cases heq'.symm.trans htext'
  have hcut : "export type " ++ name ++ (" =" ++ " ") ++ text ++ ";" =
      "export type " ++ name' ++ (" =" ++ " ") ++ text' ++ ";" :=
    List.singleton_inj.mp (hlines.symm.trans hlines')
  obtain ⟨hname, rfl⟩ := line_inj hblank hblank' hcut
  exact ⟨hname, htext.trans htext'.symm⟩

theorem map_eq_of_forall₂ {α β γ : Type} {R : α → β → Prop} {f : α → γ} {as as' : List α}
    {bs : List β} (h : List.Forall₂ R as bs) (h' : List.Forall₂ R as' bs)
    (hf : ∀ a ∈ as, ∀ a' ∈ as', ∀ b, R a b → R a' b → f a = f a') : as.map f = as'.map f := by
  induction h generalizing as' with
  | nil =>
    cases h'
    rfl
  | @cons a b as bs hab _ ih =>
    cases h' with
    | @cons a' _ as' _ hab' hrest' =>
      rw [List.map_cons, List.map_cons, hf a List.mem_cons_self a' List.mem_cons_self b hab hab',
        ih hrest' fun e he e' he' => hf e (List.mem_cons_of_mem _ he) e' (List.mem_cons_of_mem _ he')]

theorem IsInterface.eq {d d' : Declaration} {block : String} (h : IsInterface d block)
    (h' : IsInterface d' block) (hd : PlainDeclaration d) (hd' : PlainDeclaration d') :
    (d.name, d.fields.map fun g => (g.name, typeText g.type)) =
      (d'.name, d'.fields.map fun g => (g.name, typeText g.type)) := by
  obtain ⟨members, hlines, hall⟩ := h
  obtain ⟨members', hlines', hall'⟩ := h'
  obtain ⟨hfirst, hrest⟩ := List.cons.inj (hlines.symm.trans hlines')
  rw [String.append_left_inj, String.append_right_inj] at hfirst
  rw [List.append_left_inj] at hrest
  subst hrest
  rw [hfirst, map_eq_of_forall₂ hall hall' fun g hg g' hg' line hline hline' =>
    hline.eq hline' (hd.field g hg).2 (hd'.field g' hg').2]

/-- **What a text tells**: the outline of the declarations, the name and the text of the root type. -/
theorem LaidOut.outline_eq {stamp' text : String} (h : LaidOut stamp D name type text)
    (h' : LaidOut stamp' D' name' type' text) (hD : ∀ d ∈ D, PlainDeclaration d)
    (hD' : ∀ d ∈ D', PlainDeclaration d) (ht : OnePiece type) (ht' : OnePiece type') :
    outline D = outline D' ∧ name = name' ∧ typeText type = typeText type' := by
  obtain ⟨interfaces, last, hparagraphs, hall, halias⟩ := h
  obtain ⟨interfaces', last', hparagraphs', hall', halias'⟩ := h'
  have hblocks := (List.cons.inj (hparagraphs.symm.trans hparagraphs')).2
  obtain ⟨rfl, hlast⟩ := List.append_inj' hblocks rfl
  cases hlast
  refine ⟨map_eq_of_forall₂ hall hall' fun d hd d' hd' block hblock hblock' => ?_,
    halias.eq halias' ht ht'⟩
  exact hblock.eq hblock' (hD d hd) (hD' d' hd')

/-! ### Generated texts -/

theorem plain_of_infer (dates : Bool) (v : Value) (hint : String) :
    (∀ d ∈ (infer dates v hint .empty).registry.declarations, PlainDeclaration d) ∧
      OnePiece (infer dates v hint .empty).type := by
  have hmade := exists_made dates v hint
  have hwritten : ∀ t, Occurs (infer dates v hint .empty) t → OnePiece t :=
    fun t ht => ht.written.onePiece hmade
  refine ⟨fun d hd => ⟨?_, fun g hg => ⟨?_, hwritten _ (.field hd hg)⟩⟩, hwritten _ .root⟩
  · obtain ⟨_, hname⟩ := hmade d hd
    exact Word.notMem hname.chars (by decide)
  · obtain ⟨fields, -, hdesc⟩ := (infer_sound dates v hint).2 d hd
    obtain ⟨f, -, hf⟩ := exists_left_of_forall₂ hdesc.fields g hg
    rw [hf.1]
    exact (noControl_fieldName f.1.text).noFeed

/-- **A value that is not null is generated** as a text laid out for what is found in it. -/
theorem exists_generate (dates : Bool) {v : Value} (hv : v ≠ .null) (hkeys : ShortKeys v)
    (hint : String) {now : Moment}
    (hs : now.stamp? = some stamp) :
    ∃ text, (generate v (.text hint) dates now).outcome = .ok text ∧
      LaidOut stamp (infer dates v hint .empty).registry.declarations (typeName hint)
        (infer dates v hint .empty).type text := by
  obtain ⟨hD, ht⟩ := plain_of_infer dates v hint
  obtain ⟨text, htext, hlaid⟩ := exists_render hD ht hint hs
  refine ⟨text, ?_, hlaid⟩
  rw [generate_outcome hv, start_text hkeys, mapError_eq_ok_iff]
  exact mapError_eq_ok_iff.mpr htext

/-- **A definitions text is unambiguous.** Every value that is not null and, like all JSON values, has
keys that can be written out is generated as a text whose paragraphs are the header, one block for each
declaration in order with one line for each field, and the line of the root type; and where two texts are
equal, so are the names, the field names and the texts of all types in them. -/
theorem definitions_text_unambiguous {v v' : Value} (hv : v ≠ .null) (hv' : v' ≠ .null)
    (hkeys : ShortKeys v) (hkeys' : ShortKeys v') {now now' : Moment} {stamp stamp' : String}
    (hs : now.stamp? = some stamp)
    (hs' : now'.stamp? = some stamp') (dates dates' : Bool) (hint hint' : String) :
    ∃ text text', (generate v (.text hint) dates now).outcome = .ok text ∧
      (generate v' (.text hint') dates' now').outcome = .ok text' ∧
      LaidOut stamp (infer dates v hint .empty).registry.declarations (typeName hint)
        (infer dates v hint .empty).type text ∧
      (text = text' →
        outline (infer dates v hint .empty).registry.declarations =
            outline (infer dates' v' hint' .empty).registry.declarations ∧
          typeName hint = typeName hint' ∧
          typeText (infer dates v hint .empty).type = typeText (infer dates' v' hint' .empty).type) := by
  obtain ⟨text, htext, hlaid⟩ := exists_generate dates hv hkeys hint hs
  obtain ⟨text', htext', hlaid'⟩ := exists_generate dates' hv' hkeys' hint' hs'
  refine ⟨text, text', htext, htext', hlaid, ?_⟩
  rintro rfl
  obtain ⟨hD, ht⟩ := plain_of_infer dates v hint
  obtain ⟨hD', ht'⟩ := plain_of_infer dates' v' hint'
  exact hlaid.outline_eq hlaid' hD hD' ht ht'

/-- A key that looks like two lines stays in one: its text is not that of two keys. -/
theorem texts_of_one_and_two_keys :
    Moment.stamp? ⟨⟨2024, 1, 2⟩, 3, 4, 5, 0, none⟩ = some "2024-01-02T03:04:05.000Z" ∧
      ∃ text text',
        (generate (.object [(.name "a: number;\n  b", .int 1)]) (.text "x\n\ny") false
          ⟨⟨2024, 1, 2⟩, 3, 4, 5, 0, none⟩).outcome = .ok text ∧
        (generate (.object [(.name "a", .int 1), (.name "b", .int 1)]) (.text "x\n\ny") false
          ⟨⟨2024, 1, 2⟩, 3, 4, 5, 0, none⟩).outcome = .ok text' ∧
        LaidOut "2024-01-02T03:04:05.000Z"
          [⟨"XY", "a: number;\n  b", [⟨"\"a: number;\\n  b\"", .number⟩]⟩] "XY" (.ref "XY") text ∧
        text ≠ text' := by
  have hone : (infer false (.object [(.name "a: number;\n  b", .int 1)]) "x\n\ny"
      .empty).registry.declarations =
        [⟨"XY", "a: number;\n  b", [⟨"\"a: number;\\n  b\"", .number⟩]⟩] := by decide +kernel
  have htype : (infer false (.object [(.name "a: number;\n  b", .int 1)]) "x\n\ny" .empty).type =
      .ref "XY" := by decide +kernel
  have htwo : (infer false (.object [(.name "a", .int 1), (.name "b", .int 1)]) "x\n\ny"
      .empty).registry.declarations = [⟨"XY", "a,b", [⟨"a", .number⟩, ⟨"b", .number⟩]⟩] := by cbv
  have hname : typeName "x\n\ny" = "XY" := by decide +kernel
  have hs : Moment.stamp? ⟨⟨2024, 1, 2⟩, 3, 4, 5, 0, none⟩ = some "2024-01-02T03:04:05.000Z" := by
    decide +kernel
  obtain ⟨text, text', htext, htext', hlaid, himp⟩ := definitions_text_unambiguous
    (by simp : Value.object [(.name "a: number;\n  b", .int 1)] ≠ .null)
    (by simp : Value.object [(.name "a", .int 1), (.name "b", .int 1)] ≠ .null)
    (shortKeys_of_isWritable (by decide)) (shortKeys_of_isWritable (by decide)) hs hs false false
    "x\n\ny" "x\n\ny"
  rw [hone, htype, hname] at hlaid
  refine ⟨hs, text, text', htext, htext', hlaid, fun heq => ?_⟩
  have houtlines := (himp heq).1
  rw [hone, htwo] at houtlines
  exact absurd (congrArg (List.map fun part => part.2.length) houtlines) (by decide)

end Definitions

end JsonShapes

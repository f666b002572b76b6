import JsonShapes.Conversion
import JsonShapes.Proofs.Definitions.Generating
import JsonShapes.Proofs.FileTree.Replacing

/-! # What the conversion of a file does

A file says the text of its bytes, with line feeds at all line ends and no blanks around it (`Says`), and a
text that is JSON has definitions under a name (`Defines`). A conversion ends in one of four ways
(`Converts`): the input has no definitions and nothing is touched, they cannot be written and no regular
file has changed, they replace the output and no other regular file differs, or the system refuses them and
the output, open by then, is left empty. The last may happen only where a surrogate is in the definitions;
else a conversion is all or nothing (`convertFile_all_or_nothing`), also where the input is the output. -/

namespace JsonShapes

namespace Conversion

open FileTree (SameFiles Written)
open Request (World)

variable {w : World} {t : FileTree} {input output path definitions : String} {root : Option String}
  {dates : Bool} {text content : List Char} {v : Value}

/-! ### Reading -/

/-- **What a file says**: the text of its bytes, with line feeds at all line ends and no blanks around
it. -/
def Says (w : World) (t : FileTree) (path : String) (content : List Char) : Prop :=
  ∃ bytes text, t.readFile w.surroundings.workingDirectory path.toList = .ok bytes ∧
    Text.Utf8.decode bytes = .ok text ∧ Text.trim (Text.unixLines text) = content

/-- **The definitions of a JSON text** under a name. -/
def Defines (w : World) (name : String) (dates : Bool) (content : List Char) (definitions : String) :
    Prop :=
  ∃ v, Json.read (String.ofList content) = .ok v ∧
    (Definitions.generate v (.text name) dates w.now).outcome = .ok definitions

/-- **A text without definitions**: it is empty, it is no JSON, or it is the null. -/
def IsUnusable (content : List Char) : Prop :=
  content = [] ∨ (∃ fault position, Json.read (String.ofList content) = .error (.malformed fault position)) ∨
    Json.read (String.ofList content) = .ok .null

/-- **The name for the root of a file**: the one that is given, unless it is empty, else the one that
the stem of the path suggests. -/
def nameFor (path : String) (given : Option String) : String :=
  (given.filter (· ≠ "")).getD (Naming.typeName (String.ofList (PathText.stem path.toList)))

theorem fileRootName_eq (path : String) (given : Option String) :
    fileRootName path given = nameFor path given := by
  unfold fileRootName nameFor fileRootName.fromPath
  generalize Naming.typeName (String.ofList (PathText.stem path.toList)) = suggested
  cases given with
  | none => rfl
  | some name => by_cases hname : name = "" <;> simp [hname, Option.filter]

theorem Says.unique {content' : List Char} (h : Says w t path content) (h' : Says w t path content') :
    content = content' := by
  obtain ⟨bytes, text, hread, htext, rfl⟩ := h
  obtain ⟨bytes', text', hread', htext', rfl⟩ := h'
  cases hread.symm.trans hread'
  cases htext.symm.trans htext'
  rfl

theorem Defines.unique {name other : String} (h : Defines w name dates content definitions)
    (h' : Defines w name dates content other) : definitions = other := by
  obtain ⟨v, hread, hdefinitions⟩ := h
  obtain ⟨v', hread', hother⟩ := h'
  have hv : v = v' := Except.ok.inj (hread.symm.trans hread')
  subst hv
  exact Except.ok.inj (hdefinitions.symm.trans hother)

theorem readText_eq_ok_iff : readText w t path = .ok text ↔
    ∃ bytes chars, t.readFile w.surroundings.workingDirectory path.toList = .ok bytes ∧
      Text.Utf8.decode bytes = .ok chars ∧ Text.unixLines chars = text := by
  unfold readText
  simp only [bind_eq_ok_iff, mapError_eq_ok_iff]
  constructor
  · rintro ⟨bytes, hread, chars, hchars, h⟩
    exact ⟨bytes, chars, hread, hchars, Except.ok.inj h⟩
  · rintro ⟨bytes, chars, hread, hchars, rfl⟩
    exact ⟨bytes, hread, chars, hchars, rfl⟩

theorem says_iff : Says w t path content ↔
    ∃ text, readText w t path = .ok text ∧ Text.trim text = content := by
  simp only [readText_eq_ok_iff]
  constructor
  · rintro ⟨bytes, text, hread, htext, hcontent⟩
    exact ⟨_, ⟨bytes, text, hread, htext, rfl⟩, hcontent⟩
  · rintro ⟨_, ⟨bytes, text, hread, htext, rfl⟩, hcontent⟩
    exact ⟨bytes, text, hread, htext, hcontent⟩

/-- **Of the texts that are JSON**, only the null is unusable. -/
theorem isUnusable_iff_of_read (h : Json.read (String.ofList content) = .ok v) :
    IsUnusable content ↔ v = .null := by
  have hempty : (Json.read (String.ofList [])).isOk = false := by decide +kernel
  constructor
  · rintro (rfl | ⟨fault, position, hmalformed⟩ | hnull)
    · rw [h] at hempty
      cases hempty
    · cases h.symm.trans hmalformed
    · exact Except.ok.inj (h.symm.trans hnull)
  · rintro rfl
    exact .inr (.inr h)

theorem IsUnusable.not_defines {name : String} (h : IsUnusable content) :
    ¬ Defines w name dates content definitions := by
  rintro ⟨v, hread, hdefinitions⟩
  rw [(isUnusable_iff_of_read hread).mp h] at hdefinitions
  cases hdefinitions

/-- **The ways in which a document is read**: it is JSON, it has no definitions and is rejected, or it is
beyond a limit. -/
theorem readDocument_cases (path : String) (text : List Char) :
    (∃ v, Json.read (String.ofList (Text.trim text)) = .ok v ∧ readDocument path text = .ok v) ∨
    (∃ r, IsUnusable (Text.trim text) ∧ r.kind = .invalidInput ∧
      readDocument path text = .error (.rejected r)) ∨
    ∃ limit, Json.read (String.ofList (Text.trim text)) = .error limit ∧
      ¬ IsUnusable (Text.trim text) ∧ readDocument path text = .error (.limit limit) := by
  unfold readDocument
  dsimp only
  by_cases hempty : (Text.trim text).isEmpty = true
  · rw [if_pos hempty]
    exact .inr (.inl ⟨_, .inl (List.isEmpty_iff.mp hempty), rfl, rfl⟩)
  · rw [if_neg hempty]
    have hne : Text.trim text ≠ [] := fun h => hempty (List.isEmpty_iff.mpr h)
    cases hread : Json.read (String.ofList (Text.trim text)) with
    | ok v => exact .inl ⟨v, rfl, rfl⟩
    | error e =>
      cases e with
      | malformed fault position =>
        exact .inr (.inl ⟨_, .inr (.inl ⟨fault, position, hread⟩), rfl, rfl⟩)
      | _ =>
        refine .inr (.inr ⟨_, rfl, ?_, rfl⟩)
        rintro (h | ⟨fault, position, h⟩ | h)
        · exact hne h
        · cases hread.symm.trans h
        · cases hread.symm.trans h

/-! ### Writing -/

theorem sameFiles_makeParent (w : World) (t : FileTree) (path : String) :
    SameFiles t (makeParent w t path).2 := by
  unfold makeParent
  dsimp only
  split
  · exact .refl t
  · exact FileTree.sameFiles_makeDirectories _ _ _ _

/-- **How a text is written to a file**, with the outcome and the tree behind it. -/
inductive Puts (w : World) (t : FileTree) (path text : String) : Except Fault Unit × FileTree → Prop
  | written {after : FileTree} : w.encoder.check text = .ok () →
      Written t after w.surroundings.workingDirectory path.toList (Saving.bytesOf text) →
        Puts w t path text (.ok (), after)
  | refused {message : String} {after : FileTree} : w.encoder.check text = .error message →
      Written t after w.surroundings.workingDirectory path.toList [] →
        Puts w t path text (.error (.unencodable message), after)
  | failed {fault : FileTree.Fault} {after : FileTree} : SameFiles t after →
      Puts w t path text (.error (.file fault), after)

theorem writeFile_puts {made : FileTree} (hsame : SameFiles t made) (path text : String) :
    Puts w t path text (writeFile w made path text) := by
  have hcases := FileTree.writeFile_written_or_kept hsame w.surroundings.workingDirectory path.toList
    (Saving.bytesOf (w.encoder.left text))
  unfold writeFile
  dsimp only
  generalize made.writeFile w.surroundings.workingDirectory path.toList
    (Saving.bytesOf (w.encoder.left text)) = written at hcases
  obtain ⟨opened, after⟩ := written
  rcases hcases with ⟨hok, hwritten⟩ | ⟨fault, hfault, hkept⟩
  · dsimp only at hok hwritten
    rw [hok]
    cases hcheck : w.encoder.check text with
    | ok _ =>
      rw [w.encoder.left_of_ok hcheck] at hwritten
      exact .written hcheck hwritten
    | error message =>
      rw [w.encoder.left_of_error hcheck] at hwritten
      exact .refused hcheck hwritten
  · dsimp only at hfault hkept
    rw [hfault]
    exact .failed hkept

theorem writeText_puts (w : World) (t : FileTree) (path text : String) :
    Puts w t path text (writeText w t path text) := by
  have hsame := sameFiles_makeParent w t path
  unfold writeText
  split
  · rename_i fault made hmade
    rw [hmade] at hsame
    exact .failed hsame
  · rename_i made hmade
    rw [hmade] at hsame
    exact writeFile_puts hsame path text

theorem check_of_writeText (h : (writeText w t path definitions).1 = .ok ()) :
    w.encoder.check definitions = .ok () := by
  have hputs := writeText_puts w t path definitions
  generalize writeText w t path definitions = put at h hputs
  cases hputs with
  | written hcheck _ => exact hcheck
  | refused _ _ => cases h
  | failed _ => cases h

/-! ### Converting -/

/-- **How a conversion ends**, with its outcome and the tree behind it. -/
inductive Converts (w : World) (t : FileTree) (input output name : String) (dates : Bool) :
    Except Fault Unit → FileTree → Prop
  | undefined {fault : Fault} : (∀ content definitions, Says w t input content →
      ¬ Defines w name dates content definitions) → Converts w t input output name dates (.error fault) t
  | unwritten {content : List Char} {definitions : String} {fault : FileTree.Fault} {after : FileTree} :
      Says w t input content → Defines w name dates content definitions →
        (writeText w t output definitions).1 = .error (.file fault) → SameFiles t after →
          Converts w t input output name dates (.error (.file fault)) after
  | refused {content : List Char} {definitions message : String} {after : FileTree} :
      Says w t input content → Defines w name dates content definitions →
        (writeText w t output definitions).1 = .error (.unencodable message) →
          w.encoder.check definitions = .error message →
            Written t after w.surroundings.workingDirectory output.toList [] →
              Converts w t input output name dates (.error (.unencodable message)) after
  | written {content : List Char} {definitions : String} {after : FileTree} :
      Says w t input content → Defines w name dates content definitions →
        (writeText w t output definitions).1 = .ok () →
          Written t after w.surroundings.workingDirectory output.toList (Saving.bytesOf definitions) →
            Converts w t input output name dates (.ok ()) after

theorem converts_of_fault {fault : Fault} (name : String)
    (h : readText w t input >>= readDocument input = .error fault) :
    ∀ content definitions, Says w t input content → ¬ Defines w name dates content definitions := by
  intro content definitions hsays hdefines
  obtain ⟨text, htext, rfl⟩ := says_iff.mp hsays
  rw [htext] at h
  rcases readDocument_cases input text with ⟨v, -, hv⟩ | ⟨r, hunusable, -⟩ | ⟨limit, hlimit, -⟩
  · cases hv.symm.trans h
  · exact hunusable.not_defines hdefines
  · obtain ⟨v, hv, -⟩ := hdefines
    cases hv.symm.trans hlimit

/-- **Every conversion ends in one of these ways.** -/
theorem converts (w : World) (t : FileTree) (input output : String) (root : Option String)
    (dates : Bool) : Converts w t input output (nameFor input root) dates
      (convertFile w t input output root dates).outcome
      (convertFile w t input output root dates).tree := by
  unfold convertFile
  split
  · rename_i fault hfault
    exact .undefined (converts_of_fault _ hfault)
  · rename_i v hv
    obtain ⟨text, htext, hdocument⟩ := bind_eq_ok_iff.mp hv
    have hsays : Says w t input (Text.trim text) := says_iff.mpr ⟨text, htext, rfl⟩
    have hread : Json.read (String.ofList (Text.trim text)) = .ok v := by
      rcases readDocument_cases input text with ⟨v', hv', hok⟩ | ⟨_, -, -, herror⟩ | ⟨_, -, -, herror⟩
      · rw [hv', Except.ok.inj (hok.symm.trans hdocument)]
      · cases herror.symm.trans hdocument
      · cases herror.symm.trans hdocument
    rw [fileRootName_eq]
    dsimp only
    split
    · rename_i rejection hrejection
      refine .undefined fun content definitions hsays' hdefines => ?_
      obtain ⟨v', hread', hdefinitions⟩ := hsays.unique hsays' ▸ hdefines
      have hvalue : v' = v := Except.ok.inj (hread'.symm.trans hread)
      rw [hvalue] at hdefinitions
      cases hrejection.symm.trans hdefinitions
    · rename_i definitions hdefinitions
      have hdefines : Defines w (nameFor input root) dates (Text.trim text) definitions :=
        ⟨v, hread, hdefinitions⟩
      have hputs := writeText_puts w t output definitions
      generalize hwrite : writeText w t output definitions = written at hputs
      cases hputs with
      | written _ hwritten => exact .written hsays hdefines (by rw [hwrite]) hwritten
      | refused hcheck hwritten => exact .refused hsays hdefines (by rw [hwrite]) hcheck hwritten
      | failed hsame => exact .unwritten hsays hdefines (by rw [hwrite]) hsame

/-- **A conversion of what has definitions** ends as the writing of them does. -/
theorem convertFile_outcome (hcontent : Says w t input content)
    (hdefines : Defines w (nameFor input root) dates content definitions) :
    (convertFile w t input output root dates).outcome = (writeText w t output definitions).1 := by
  have hconverts := converts w t input output root dates
  generalize (convertFile w t input output root dates).outcome = outcome at hconverts
  generalize (convertFile w t input output root dates).tree = after at hconverts
  cases hconverts with
  | undefined hnone => exact absurd hdefines (hnone content definitions hcontent)
  | unwritten hcontent' hdefines' hwrite _ =>
    obtain rfl := hcontent.unique hcontent'
    obtain rfl := hdefines.unique hdefines'
    exact hwrite.symm
  | refused hcontent' hdefines' hwrite _ _ =>
    obtain rfl := hcontent.unique hcontent'
    obtain rfl := hdefines.unique hdefines'
    exact hwrite.symm
  | written hcontent' hdefines' hwrite _ =>
    obtain rfl := hcontent.unique hcontent'
    obtain rfl := hdefines.unique hdefines'
    exact hwrite.symm

/-- **When a conversion writes**: exactly when the input has definitions and they can be written. -/
theorem convertFile_eq_ok_iff : (convertFile w t input output root dates).outcome = .ok () ↔
    ∃ content definitions, Says w t input content ∧
      Defines w (nameFor input root) dates content definitions ∧
        (writeText w t output definitions).1 = .ok () := by
  constructor
  · intro h
    have hconverts := converts w t input output root dates
    rw [h] at hconverts
    cases hconverts with
    | written hsays hdefines hwrite _ => exact ⟨_, _, hsays, hdefines, hwrite⟩
  · rintro ⟨content, definitions, hsays, hdefines, hwrite⟩
    rw [convertFile_outcome hsays hdefines, hwrite]

end Conversion

end JsonShapes

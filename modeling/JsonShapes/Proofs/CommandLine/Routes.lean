import JsonShapes.Proofs.CommandLine.Arguments
import JsonShapes.Proofs.CommandLine.Files

/-! # The routes of a text

The text of a conversion comes from a file or from the input, and its definitions are written to a file or
printed. What the input gives is copied to a temporary file and what is printed is copied from one, so both
are files in the end. When there is room for them (`HasRoom`), a run that prints succeeds exactly when its
text has definitions that the system takes, wherever the text comes from (`prints_run`), and a run that writes
needs an output that can be written besides (`writesTo_run`). So the routes agree (`routes_agree`). -/

namespace JsonShapes.CommandLine

open Conversion (Defines Says)
open FileTree (Grows TakesTemporaries Written)
open Request (World)

variable {c c' : Console} {t t' made : FileTree} {o : FileOptions} {verbose dates : Bool}
  {w : World} {name file root out text text' definitions : String} {content : List Char}

/-! ### Room for temporary files -/

/-- **There is room for the temporary files** of a run, the one for its input and the one for its output. -/
def HasRoom (c : Console) (t : FileTree) : Prop :=
  TakesTemporaries t c.temporary [".json".toList, []]

theorem length_source_le (c : Console) (t : FileTree) (o : FileOptions) :
    (source c t o).tree.entries.length ≤ t.entries.length + 1 := by
  unfold source
  cases o.input with
  | some path => exact Nat.le_succ _
  | none =>
    obtain ⟨k, -, -, hmade⟩ := FileTree.makeTemporary_vacant t c.temporary ".json".toList
    rw [hmade]
    cases c.input with
    | ok text =>
      dsimp only
      rw [FileTree.put_put]
      exact FileTree.length_put_le _ _ _
    | error message => exact FileTree.length_put_le _ _ _

theorem HasRoom.readFile_source (h : HasRoom c t) (ho : o.input = none) (hinput : c.input = .ok text)
    (workingDirectory : Path) :
    (source c t o).tree.readFile workingDirectory (source c t o).path.toList =
      .ok (Saving.bytesOf text) := by
  obtain ⟨name, hplace, hmade⟩ := h.exists_temporary (.refl t) (Nat.le_succ _)
    (List.mem_cons_self (a := ".json".toList)) (by decide) (by decide)
  have hgrows := (source_prepares c t o).grows
  unfold source at hgrows ⊢
  rw [ho, hmade, hinput] at hgrows ⊢
  dsimp only at hgrows ⊢
  rw [String.toList_ofList]
  exact FileTree.readFile_pathText (hgrows.hasPlace hplace) (by rw [FileTree.node?_put (by simp), if_pos rfl])

theorem HasRoom.writeText_target (h : HasRoom c t) (ho : o.output = none) (hg : Grows t made)
    (hlength : made.entries.length ≤ t.entries.length + 1) {w : World}
    (hcheck : w.encoder.check text = .ok ()) :
    (Conversion.writeText w (target c made o).2.2 (target c made o).1 text).1 = .ok () := by
  obtain ⟨name, hplace, hmade⟩ := h.exists_temporary hg hlength
    (List.mem_cons_of_mem _ List.mem_cons_self) List.not_mem_nil List.not_mem_nil
  have hgrows := (target_prepares c made o).grows
  unfold target at hgrows ⊢
  rw [ho, hmade] at hgrows ⊢
  dsimp only at hgrows ⊢
  have hplace' := hgrows.hasPlace hplace
  have hparent : FileTree.hasNode _ w.surroundings.workingDirectory _ = true :=
    FileTree.hasNode_parent hplace'
  have hfree : ¬ (made.put (c.temporary ++ [name]) (.file [])).isDirectory (c.temporary ++ [name]) =
      true := by
    rw [FileTree.isDirectory_iff, FileTree.node?_put (by simp), if_pos rfl]
    nofun
  rw [Conversion.writeText, Conversion.makeParent, String.toList_ofList, hparent, Bool.or_true, if_pos rfl]
  unfold Conversion.writeFile
  dsimp only
  rw [String.toList_ofList, FileTree.writeFile_pathText hplace' hfree, hcheck]
  rfl

/-! ### Runs -/

/-- **How a run that prints ends**, with its exit code and its output: with the definitions of a text and a
line feed, or with exit code 1 when it has none that the system takes. -/
inductive Prints (w : World) (name : String) (dates : Bool) (content : List Char) : ℕ → String → Prop
  | definitions {definitions : String} : Defines w name dates content definitions →
      w.encoder.check definitions = .ok () → Prints w name dates content 0 (definitions ++ "\n")
  | failed {output : String} : (∀ definitions, Defines w name dates content definitions →
      w.encoder.check definitions ≠ .ok ()) → Prints w name dates content 1 output

/-- **A run that prints** ends in one of these ways. -/
theorem prints_run (hroom : HasRoom c t) (ho : o.output = none) (hready : (source c t o).ready = .ok ())
    (hread : (source c t o).tree.readFile c.world.surroundings.workingDirectory
      (source c t o).path.toList = .ok (Saving.bytesOf text)) :
    Prints c.world (Conversion.nameFor (source c t o).path (source c t o).rootName) o.dates
      (Text.trim (Text.unixLines text.toList)) (runFile c t verbose o).exitCode
      (runFile c t verbose o).output := by
  have hsays : Says c.world (target c (source c t o).tree o).2.2 (source c t o).path
      (Text.trim (Text.unixLines text.toList)) :=
    ⟨_, _, (target_prepares c _ o).readFile hread, Text.Utf8.decode_encode _, rfl⟩
  cases h : (converted c t o).outcome with
  | ok _ =>
    obtain ⟨content, definitions, hsays', hdefines, hcheck, hexit, houtput⟩ :=
      @runFile_of_ok c t o verbose hready h
    have htemporary : ∃ path, (target c (source c t o).tree o).2.1 = some path := by
      unfold target
      rw [ho]
      exact ⟨_, rfl⟩
    obtain ⟨path, hpath⟩ := htemporary
    rw [hexit, houtput, hpath, hsays.unique hsays']
    exact .definitions hdefines hcheck
  | error fault =>
    rw [@runFile_of_fault c t o verbose fault h]
    refine .failed fun definitions hdefines hcheck => ?_
    have hwritten := hroom.writeText_target ho (source_prepares c t o).grows (length_source_le c t o) hcheck
    have hok : (converted c t o).outcome = .ok () :=
      Conversion.convertFile_eq_ok_iff.mpr ⟨_, definitions, hsays, hdefines, hwritten⟩
    cases h.symm.trans hok

theorem runFile_of_named (hinput : o.input = some file) (ho : o.output = some out) (hout : out ≠ "") :
    (source c t o).ready = .ok () ∧
      converted c t o = Conversion.convertFile c.world t file out o.rootName o.dates ∧
      (runFile c t verbose o).tree = (converted c t o).tree := by
  have hsource : source c t o = ⟨file, none, o.rootName, t, .ok ()⟩ := by
    unfold source
    rw [hinput]
  have htarget : target c t o = (out, none, t) := by
    unfold target
    rw [ho]
    simp [hout]
  have hready : (source c t o).ready = .ok () := by rw [hsource]
  rw [runFile_tree hready, converted, hsource]
  dsimp only
  rw [htarget]
  exact ⟨rfl, rfl, rfl⟩

/-- **A run writes the definitions of a text** to a file: it succeeds exactly when there are definitions
that can be written, and then they replace the file. -/
structure WritesTo (c : Console) (t : FileTree) (name : String) (dates : Bool) (content : List Char)
    (out : String) (finished : Finished) : Prop where
  succeeds : finished.exitCode = 0 ↔ ∃ definitions, Defines c.world name dates content definitions ∧
    (Conversion.writeText c.world t out definitions).1 = .ok ()
  written : finished.exitCode = 0 → ∀ definitions, Defines c.world name dates content definitions →
    Written t finished.tree c.world.surroundings.workingDirectory out.toList (Saving.bytesOf definitions)

/-- **A run with an output** does, with the text of its input. -/
theorem writesTo_run (hinput : o.input = some file) (ho : o.output = some out) (hout : out ≠ "")
    (hread : t.readFile c.world.surroundings.workingDirectory file.toList = .ok (Saving.bytesOf text)) :
    WritesTo c t (Conversion.nameFor file o.rootName) o.dates (Text.trim (Text.unixLines text.toList)) out
      (runFile c t verbose o) := by
  have hsays : Says c.world t file (Text.trim (Text.unixLines text.toList)) :=
    ⟨_, _, hread, Text.Utf8.decode_encode _, rfl⟩
  obtain ⟨hready, hconverted, htree⟩ := @runFile_of_named c t o verbose file out hinput ho hout
  constructor
  case succeeds =>
    rw [runFile_succeeds_iff, and_iff_right hready, hconverted, Conversion.convertFile_eq_ok_iff]
    constructor
    · rintro ⟨content, definitions, hsays', hdefines, hwritten⟩
      exact ⟨definitions, hsays.unique hsays' ▸ hdefines, hwritten⟩
    · rintro ⟨definitions, hdefines, hwritten⟩
      exact ⟨_, definitions, hsays, hdefines, hwritten⟩
  case written =>
    intro hzero definitions hdefines
    have hconverts := Conversion.converts c.world t file out o.rootName o.dates
    rw [← hconverted, (runFile_succeeds_iff.mp hzero).2, ← htree] at hconverts
    cases hconverts with
    | written hsays' hdefines' _ hwritten =>
      obtain rfl := hsays.unique hsays'
      obtain rfl := hdefines.unique hdefines'
      exact hwritten

/-! ### Arguments -/

/-- The arguments that name a file and a root. -/
def fileArgs (file root : String) : List String := ["json2ts", file, "--root-name=" ++ root]

/-- The arguments that name a root. -/
def inputArgs (root : String) : List String := ["json2ts", "--root-name=" ++ root]

/-- The arguments that name a file, a root and an output. -/
def outArgs (file root out : String) : List String :=
  ["json2ts", file, "--root-name=" ++ root, "--out", out]

/-- **An argument passes as a word** of json2ts. -/
structure Passes (arg : String) : Prop where
  main : ∃ mark, mainGrammar.mark arg = .ok mark
  word : fileGrammar.mark arg = .ok .word

theorem IsPlain.passes {arg : String} (h : IsPlain arg) : Passes arg :=
  ⟨⟨.word, h.mark_eq _⟩, h.mark_eq _⟩

theorem Passes.ne_dashes {arg : String} (h : Passes arg) : arg ≠ "--" := by
  rintro rfl
  have hambiguous : (fileGrammar.mark "--").isOk = false := by decide
  rw [h.word] at hambiguous
  cases hambiguous

/-! The text behind an equals sign is attached to the option. -/

theorem rootName_eq (root : String) : "--root-name=" ++ root = "--root-name" ++ "=" ++ root :=
  congrArg (· ++ root) (show "--root-name=" = "--root-name" ++ "=" by decide)

theorem rootName_ne_dashes (root : String) : "--root-name=" ++ root ≠ "--" := by
  intro h
  have hchars := congrArg String.toList h
  simp at hchars

theorem mark_rootName (root : String) : fileGrammar.mark ("--root-name=" ++ root) =
    .ok (.option (textOption "--root-name") "--root-name" (some ⟨true, root⟩)) := by
  have hfree : SignFree fileGrammar := (by decide : ∀ p ∈ fileGrammar.named, '=' ∉ p.1.toList)
  rw [rootName_eq]
  exact mark_attached hfree rfl (by decide) rfl root

theorem exists_mark_rootName (root : String) :
    ∃ mark, mainGrammar.mark ("--root-name=" ++ root) = .ok mark := by
  have hfree : SignFree mainGrammar := (by decide : ∀ p ∈ mainGrammar.named, '=' ∉ p.1.toList)
  rw [rootName_eq]
  exact exists_mark_of_foreign hfree rfl (by decide) rfl (by decide) root

theorem parse_fileArgs (hfile : Passes file) (root : String) :
    parse (fileArgs file root) = .ok (.file false ⟨some file, none, some root, false⟩) := by
  obtain ⟨mark, hmark⟩ := hfile.main
  obtain ⟨other, hother⟩ := exists_mark_rootName root
  have hmarks : mainGrammar.marks [file, "--root-name=" ++ root] = _ :=
    marks_cons hfile.ne_dashes hmark (marks_cons (rootName_ne_dashes root) hother rfl)
  have hparse : fileGrammar.parse [file, "--root-name=" ++ root] =
      .ok ⟨[("--root-name", [.text root])], some file, none, [], false⟩ := by
    rw [Grammar.parse, marks_cons hfile.ne_dashes hfile.word
      (marks_cons (rootName_ne_dashes root) (mark_rootName root) rfl)]
    rfl
  exact parse_file hmarks hparse rfl

theorem parse_inputArgs (root : String) :
    parse (inputArgs root) = .ok (.file false ⟨none, none, some root, false⟩) := by
  obtain ⟨mark, hmark⟩ := exists_mark_rootName root
  have hmarks : mainGrammar.marks ["--root-name=" ++ root] = _ :=
    marks_cons (rootName_ne_dashes root) hmark rfl
  have hparse : fileGrammar.parse ["--root-name=" ++ root] =
      .ok ⟨[("--root-name", [.text root])], none, none, [], false⟩ := by
    rw [Grammar.parse, marks_cons (rootName_ne_dashes root) (mark_rootName root) rfl]
    rfl
  exact parse_file hmarks hparse rfl

theorem parse_outArgs (hfile : Passes file) (hout : Passes out) (root : String) :
    parse (outArgs file root out) = .ok (.file false ⟨some file, some out, some root, false⟩) := by
  obtain ⟨mark, hmark⟩ := hfile.main
  obtain ⟨other, hother⟩ := exists_mark_rootName root
  obtain ⟨last, hlast⟩ := hout.main
  have hmarks : mainGrammar.marks [file, "--root-name=" ++ root, "--out", out] = _ :=
    marks_cons hfile.ne_dashes hmark (marks_cons (rootName_ne_dashes root) hother
      (marks_cons (by decide) (show mainGrammar.mark "--out" = .ok .unknown from rfl)
        (marks_cons hout.ne_dashes hlast rfl)))
  have hparse : fileGrammar.parse [file, "--root-name=" ++ root, "--out", out] =
      .ok ⟨[("--root-name", [.text root]), ("--out", [.text out])], some file, none, [], false⟩ := by
    rw [Grammar.parse, marks_cons hfile.ne_dashes hfile.word
      (marks_cons (rootName_ne_dashes root) (mark_rootName root)
        (marks_cons (by decide)
          (show fileGrammar.mark "--out" = .ok (.option (textOption "--out") "--out" none) from rfl)
          (marks_cons hout.ne_dashes hout.word rfl)))]
    rfl
  exact parse_file hmarks hparse rfl

/-! ### Agreement -/

theorem nameFor_of_ne (hroot : root ≠ "") (path : String) : Conversion.nameFor path (some root) = root := by
  simp [Conversion.nameFor, Option.filter, hroot]

theorem defines_of_clock {w' : World} (h : w'.now = w.now) :
    Defines w' name dates content definitions ↔ Defines w name dates content definitions := by
  rw [Defines, Defines, h]

/-- What is printed depends on how the system writes texts besides. -/
theorem Prints.of_clock {w' : World} {code : ℕ} {output : String} (hclock : w'.now = w.now)
    (hencoder : w'.encoder = w.encoder) (h : Prints w' name dates content code output) :
    Prints w name dates content code output := by
  cases h with
  | definitions hdefines hcheck =>
    exact .definitions ((defines_of_clock hclock).mp hdefines) (hencoder ▸ hcheck)
  | failed hnone =>
    refine .failed fun definitions hdefines hcheck => ?_
    exact hnone definitions ((defines_of_clock hclock).mpr hdefines) (hencoder ▸ hcheck)

theorem prints_fileArgs (hroom : HasRoom c t) (hfile : Passes file) (hroot : root ≠ "")
    (hread : t.readFile c.world.surroundings.workingDirectory file.toList = .ok (Saving.bytesOf text)) :
    Prints c.world root false (Text.trim (Text.unixLines text.toList))
      (run c t (fileArgs file root)).exitCode (run c t (fileArgs file root)).output := by
  have hprints := @prints_run c t ⟨some file, none, some root, false⟩ false text hroom rfl rfl hread
  rw [source, nameFor_of_ne hroot] at hprints
  rw [run, parse_fileArgs hfile]
  exact hprints

theorem prints_inputArgs (hroom : HasRoom c t) (hroot : root ≠ "") (hinput : c.input = .ok text) :
    Prints c.world root false (Text.trim (Text.unixLines text.toList))
      (run c t (inputArgs root)).exitCode (run c t (inputArgs root)).output := by
  have hready : (source c t ⟨none, none, some root, false⟩).ready = .ok () := by
    simp [source, hinput, Except.map]
  have hprints := @prints_run c t ⟨none, none, some root, false⟩ false text hroom rfl hready
    (hroom.readFile_source rfl hinput _)
  have hname : (source c t ⟨none, none, some root, false⟩).rootName = some root := by
    simp [source, Conversion.isNonempty, hroot]
  rw [hname, nameFor_of_ne hroot] at hprints
  rw [run, parse_inputArgs]
  exact hprints

theorem writesTo_outArgs (hfile : Passes file) (hroot : root ≠ "") (hout : Passes out) (hne : out ≠ "")
    (hread : t.readFile c.world.surroundings.workingDirectory file.toList = .ok (Saving.bytesOf text)) :
    WritesTo c t root false (Text.trim (Text.unixLines text.toList)) out
      (run c t (outArgs file root out)) := by
  have hwrites := @writesTo_run c t ⟨some file, some out, some root, false⟩ false file out text rfl rfl
    hne hread
  rw [nameFor_of_ne hroot] at hwrites
  rw [run, parse_outArgs hfile hout]
  exact hwrites

/-- **The routes of a text agree.** A run on a file and one on the input that give the same text, up to its
line ends, end with the same exit code, at the same time by the clock and where texts are written alike. When
that is 0, both print the same definitions and a line feed; and a run on the file with an output succeeds
exactly when these definitions can be written to it, and writes them. When it is not 0, no run with an output
succeeds. -/
theorem routes_agree (hclock : c'.world.now = c.world.now) (hencoder : c'.world.encoder = c.world.encoder)
    (hroom : HasRoom c t) (hroom' : HasRoom c' t') (hfile : Passes file) (hroot : root ≠ "")
    (hread : t.readFile c.world.surroundings.workingDirectory file.toList = .ok (Saving.bytesOf text))
    (hinput : c'.input = .ok text') (hlines : Text.unixLines text'.toList = Text.unixLines text.toList) :
    (run c t (fileArgs file root)).exitCode = (run c' t' (inputArgs root)).exitCode ∧
    ((run c t (fileArgs file root)).exitCode = 0 → ∃ definitions,
      (run c t (fileArgs file root)).output = definitions ++ "\n" ∧
      (run c' t' (inputArgs root)).output = definitions ++ "\n" ∧
      ∀ out, Passes out → out ≠ "" →
        ((run c t (outArgs file root out)).exitCode = 0 ↔
          (Conversion.writeText c.world t out definitions).1 = .ok ()) ∧
        ((run c t (outArgs file root out)).exitCode = 0 →
          Written t (run c t (outArgs file root out)).tree c.world.surroundings.workingDirectory
            out.toList (Saving.bytesOf definitions))) ∧
    ∀ out, Passes out → out ≠ "" → (run c t (outArgs file root out)).exitCode = 0 →
      (run c t (fileArgs file root)).exitCode = 0 := by
  have hprints := prints_fileArgs hroom hfile hroot hread
  have hprints' := (prints_inputArgs hroom' hroot hinput).of_clock hclock hencoder
  rw [hlines] at hprints'
  have hwrites := fun out (hout : Passes out) (hne : out ≠ "") =>
    writesTo_outArgs hfile hroot hout hne hread
  generalize (run c t (fileArgs file root)).exitCode = code at hprints ⊢
  generalize (run c t (fileArgs file root)).output = output at hprints ⊢
  generalize (run c' t' (inputArgs root)).exitCode = code' at hprints' ⊢
  generalize (run c' t' (inputArgs root)).output = output' at hprints' ⊢
  cases hprints with
  | @definitions definitions hdefines hcheck =>
    cases hprints' with
    | failed hnone => exact absurd hcheck (hnone _ hdefines)
    | @definitions definitions' hdefines' _ =>
      obtain rfl := hdefines.unique hdefines'
      refine ⟨rfl, fun _ => ⟨definitions, rfl, rfl, fun out hout hne => ⟨?_, fun hzero => ?_⟩⟩,
        fun _ _ _ _ => rfl⟩
      · rw [(hwrites out hout hne).succeeds]
        constructor
        · rintro ⟨written, hwritten, hcan⟩
          exact hdefines.unique hwritten ▸ hcan
        · intro hcan
          exact ⟨definitions, hdefines, hcan⟩
      · exact (hwrites out hout hne).written hzero definitions hdefines
  | failed hnone =>
    cases hprints' with
    | definitions hdefines hcheck => exact absurd hcheck (hnone _ hdefines)
    | failed _ =>
      refine ⟨rfl, nofun, fun out hout hne hzero => ?_⟩
      obtain ⟨definitions, hdefines, hwrite⟩ := (hwrites out hout hne).succeeds.mp hzero
      exact absurd (Conversion.check_of_writeText hwrite) (hnone definitions hdefines)

/-- A console with a text on its input that ends in a line feed. -/
def feedConsole : Console where
  world := ⟨⟨[], ['/']⟩, ⟨⟨2024, 1, 2⟩, 3, 4, 5, 0, none⟩, fun _ => .failure ⟨.connection, ""⟩,
    Text.Charset.codecs, .strict⟩
  temporary := ["tmp".toList]
  input := .ok "[1]\n"

/-- A tree with the same text in a file, where it ends in a carriage return and a line feed. -/
def returnTree : FileTree :=
  ⟨[(["tmp".toList], .directory), (["in.json".toList], .file (Saving.bytesOf "[1]\r\n"))]⟩

theorem hasRoom_returnTree : HasRoom feedConsole returnTree where
  there := (FileTree.isThere_root _).concat
    ⟨by decide, by decide, by decide, by decide, by decide, by decide⟩ rfl
  short := (by decide : ∀ ending ∈ [".json".toList, []], ∀ k ≤ 3,
    ¬ FileTree.isLongName (FileTree.temporaryName ending k) = true ∧
      ¬ (Text.Utf8.encode (FileTree.pathText (FileTree.temporaryPath ["tmp".toList] ending k))).length >
        FileTree.maxPathBytes)

/-- The routes of that text, which has definitions. -/
theorem routes_agree_line_ends :
    (run feedConsole returnTree (fileArgs "/in.json" "User")).exitCode = 0 ∧
    (run feedConsole returnTree (inputArgs "User")).exitCode = 0 ∧ ∃ definitions,
      (run feedConsole returnTree (fileArgs "/in.json" "User")).output = definitions ++ "\n" ∧
      (run feedConsole returnTree (inputArgs "User")).output = definitions ++ "\n" ∧
      Written returnTree (run feedConsole returnTree (outArgs "/in.json" "User" "/tmp/out.ts")).tree []
        "/tmp/out.ts".toList (Saving.bytesOf definitions) := by
  have hfile : Passes "/in.json" := IsPlain.passes (by decide)
  have hout : Passes "/tmp/out.ts" := IsPlain.passes (by decide)
  have hread : returnTree.readFile [] "/in.json".toList = .ok (Saving.bytesOf "[1]\r\n") := by decide
  obtain ⟨hcode, hzero, -⟩ := routes_agree rfl rfl hasRoom_returnTree hasRoom_returnTree hfile
    (by decide : "User" ≠ "") hread rfl rfl
  have hsucceeds : (run feedConsole returnTree (fileArgs "/in.json" "User")).exitCode = 0 := by
    decide +kernel
  obtain ⟨definitions, hprinted, hprinted', houts⟩ := hzero hsucceeds
  obtain ⟨-, hwritten⟩ := houts "/tmp/out.ts" hout (by decide)
  exact ⟨hsucceeds, hcode.symm.trans hsucceeds, definitions, hprinted, hprinted',
    hwritten (by decide +kernel)⟩

end JsonShapes.CommandLine

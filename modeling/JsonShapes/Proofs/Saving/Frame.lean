import JsonShapes.Proofs.FileTree.Making
import JsonShapes.Proofs.Saving

/-! # What saving changes

Saving makes the directory that definitions are saved in (`IsTarget`), with the parents it lacks, and writes
one file into it, whose name has its ending (`HasEnding`). So one regular file is replaced, or none when the
saving fails, and the only new directories are that directory and those above it. It does not fail where
nothing is in the way of the file (`HasWay`, `save_replaces_one_file`). -/

namespace JsonShapes.Saving

open FileTree (AddsOnTheWay CanBeMade IsShort OnTheWay PlainName SameFiles Written fromRoot leadOf pathText
  writtenOut)

variable {s : Surroundings} {t : FileTree} {place : Path} {full : List Char}

/-! ### Names -/

/-- **The directory that definitions are saved in**: a text that is given, unless it is empty, leads there and
is written out from the root; else it is the default directory below the home directory. -/
inductive IsTarget (s : Surroundings) : Option String → List Char → Prop
  | given {text : String} : text ≠ "" →
      IsTarget s (some text) (writtenOut (fromRoot s.workingDirectory text.toList))
  | byDefault {directory : Option String} : directory = none ∨ directory = some "" →
      IsTarget s directory (PathText.join s.home "quick-type-types".toList)

theorem isTarget_targetDirectory (s : Surroundings) (directory : Option String) :
    IsTarget s directory (targetDirectory s directory) := by
  cases directory with
  | none => exact .byDefault (.inl rfl)
  | some text =>
    by_cases htext : text = ""
    · rw [htext]
      exact .byDefault (.inr rfl)
    · have hgiven : targetDirectory s (some text) = writtenOut (fromRoot s.workingDirectory text.toList) := by
        rw [targetDirectory, if_neg (by simpa using htext), FileTree.absolute_eq]
      rw [hgiven]
      exact .given htext

/-- **A name with its ending**, which is appended just when it is missing. -/
def HasEnding (name full : List Char) : Prop :=
  (".ts".toList <:+ name ∧ full = name) ∨ (¬ ".ts".toList <:+ name ∧ full = name ++ ".ts".toList)

theorem hasEnding_withEnding (name : List Char) : HasEnding name (withEnding name) := by
  unfold withEnding
  split_ifs with hends
  · exact .inl ⟨List.isSuffixOf_iff_suffix.mp hends, rfl⟩
  · exact .inr ⟨fun h => hends (List.isSuffixOf_iff_suffix.mpr h), rfl⟩

/-! ### Directories -/

/-- **Saving makes directories on the way** to the one it saves in, and takes none away. -/
theorem write_directories (s : Surroundings) (t : FileTree) (content : List UInt8)
    (directory path : List Char) :
    ∃ made, AddsOnTheWay s.workingDirectory directory t made ∧
      ∀ q, (write s t content directory path).2.isDirectory q = made.isDirectory q := by
  have hadds := FileTree.makeDirectories_addsOnTheWay true t s.workingDirectory directory
  unfold write
  split
  · rename_i fault made hmade
    rw [hmade] at hadds
    exact ⟨made, hadds, fun q => rfl⟩
  · rename_i made hmade
    rw [hmade] at hadds
    exact ⟨made, hadds, FileTree.isDirectory_writeFile _ _ _ _⟩

theorem prefix_of_onTheWay {text : String} {q : Path} (htext : text ≠ "")
    (h : OnTheWay s.workingDirectory (targetDirectory s (some text)) q) :
    q <+: leadOf (leadOf [] (pathText s.workingDirectory)) text.toList := by
  rw [targetDirectory, if_neg (by simpa using htext), FileTree.absolute_eq,
    FileTree.onTheWay_writtenOut_iff, FileTree.leadOf_fromRoot] at h
  exact h

/-! ### Success -/

/-- **Nothing is in the way of a file**: the directory can be made, the name of the file is plain and its path
short enough, and it is not the name of a directory there. -/
structure HasWay (t : FileTree) (place : Path) (full : List Char) : Prop where
  directory : CanBeMade t place
  name : PlainName full
  short : IsShort (place ++ [full])
  free : t.isDirectory (place ++ [full]) = false

theorem join_pathText (hfull : PlainName full) (hplace : ∀ n ∈ place, PlainName n) (hne : place ≠ []) :
    PathText.join (pathText place) full = pathText (place ++ [full]) := by
  have hhead : full.head? ≠ some '/' := fun hhead => hfull.slash (List.mem_of_head? hhead)
  rcases List.eq_nil_or_concat place with rfl | ⟨front, last, rfl⟩
  · exact absurd rfl hne
  · rw [List.concat_eq_append] at hplace ⊢
    have hend := FileTree.getLast?_pathText (hplace last (by simp)) front
    rw [PathText.join, if_neg (by simpa using hhead), if_neg, FileTree.pathText_concat _ full]
    rw [Bool.or_eq_true, List.isEmpty_iff, beq_iff_eq, not_or]
    exact ⟨FileTree.pathText_ne_nil (by simp), hend⟩

theorem HasWay.free_of_made {made : FileTree} (h : HasWay t place full) (hne : place ≠ [])
    (hadds : AddsOnTheWay s.workingDirectory (pathText place) t made) :
    ¬ made.isDirectory (place ++ [full]) = true := by
  intro hmade
  obtain ⟨front, hfront, heq⟩ := hadds.onTheWay h.free hmade
  have horigin : FileTree.origin s.workingDirectory (pathText place) = [] := by
    cases place with
    | nil => exact absurd rfl hne
    | cons name rest => rfl
  rw [FileTree.components_pathText h.directory.name] at hfront
  rw [horigin, FileTree.lead_of_leadsDown fun n hn => (h.directory.name n (hfront.subset hn)).leadsDown,
    List.nil_append] at heq
  have hlength := hfront.length_le
  rw [← heq, List.length_append, List.length_singleton] at hlength
  omega

theorem write_of_hasWay (hne : place ≠ []) (h : HasWay t place full) (content : List UInt8) :
    (write s t content (pathText place) (PathText.join (pathText place) full)).1 = .ok () := by
  obtain ⟨made, hmade, hthere⟩ :=
    @FileTree.makeDirectories_pathText t s.workingDirectory place h.directory hne
  have hadds := FileTree.makeDirectories_addsOnTheWay true t s.workingDirectory (pathText place)
  rw [hmade] at hadds
  rw [write, hmade, join_pathText h.name h.directory.name hne]
  exact FileTree.writeFile_pathText ⟨hthere, h.name, h.short⟩ (h.free_of_made hne hadds) content

/-! ### Saving -/

theorem fault_message_ne_empty (fault : FileTree.Fault) : fault.message ≠ "" := by
  cases fault with
  | nulByte => decide
  | system errno path =>
    rw [FileTree.Fault.message, ne_eq, String.append_eq_empty_iff, String.append_eq_empty_iff]
    rintro ⟨⟨-, hcolon⟩, -⟩
    exact absurd hcolon (by decide)

/-- **Saving replaces one regular file or none.** When it succeeds, the path it tells is that of the file with
its ending in the directory to save in; that file holds the bytes of the text, and no other regular file is
created, altered or removed. When it fails, there is a message, and no regular file is; but it succeeds where
nothing is in the way of the file. Directories stay, and those that are new are the directory to save in and
what is above it. -/
theorem save_replaces_one_file (s : Surroundings) (t : FileTree) (text name : String)
    (directory : Option String) : ∃ target full, IsTarget s directory target ∧ HasEnding name.toList full ∧
      (∀ path, (save s t text name directory).outcome = .ok path →
        path.toList = PathText.join target full ∧
          Written t (save s t text name directory).tree s.workingDirectory path.toList (bytesOf text)) ∧
      (∀ fault, (save s t text name directory).outcome = .error fault →
        fault.message ≠ "" ∧ SameFiles t (save s t text name directory).tree) ∧
      (∀ place, place ≠ [] → target = pathText place → HasWay t place full →
        ∃ path, (save s t text name directory).outcome = .ok path) ∧
      (∀ q, t.isDirectory q = true → (save s t text name directory).tree.isDirectory q = true) ∧
      ∀ q, t.isDirectory q = false → (save s t text name directory).tree.isDirectory q = true →
        OnTheWay s.workingDirectory target q ∧ ∀ given, directory = some given → given ≠ "" →
          q <+: leadOf (leadOf [] (pathText s.workingDirectory)) given.toList := by
  obtain ⟨houtcome, htree⟩ := saveAt_eq s t text (targetDirectory s directory) (targetPath s name directory)
  have hcases := write_cases s t (bytesOf text) (targetDirectory s directory) (targetPath s name directory)
  obtain ⟨made, hadds, hdirectories⟩ := write_directories s t (bytesOf text) (targetDirectory s directory)
    (targetPath s name directory)
  rw [save, htree, houtcome]
  refine ⟨_, _, isTarget_targetDirectory s directory, hasEnding_withEnding name.toList, ?_, ?_, ?_, ?_, ?_⟩
  · intro path hpath
    obtain ⟨-, -, rfl⟩ := map_eq_ok_iff.mp hpath
    rcases hcases with ⟨-, hwritten⟩ | ⟨fault, hfault, -⟩
    · rw [String.toList_ofList]
      exact ⟨rfl, hwritten⟩
    · rw [hfault] at hpath
      cases hpath
  · intro fault hfault
    refine ⟨fault_message_ne_empty fault, ?_⟩
    rcases hcases with ⟨hok, -⟩ | ⟨-, -, hsame⟩
    · rw [hok] at hfault
      cases hfault
    · exact hsame
  · intro place hne htarget hway
    rw [targetPath, htarget, write_of_hasWay hne hway]
    exact ⟨_, rfl⟩
  · intro q hq
    rw [hdirectories]
    exact hadds.grows.directory q hq
  · intro q hold hnew
    rw [hdirectories] at hnew
    have hway := hadds.onTheWay hold hnew
    refine ⟨hway, ?_⟩
    rintro given rfl hgiven
    exact prefix_of_onTheWay hgiven hway

/-- A tree with an empty file below the root, and nothing else. -/
def fileOut : FileTree := ⟨[(["out".toList], .file [])]⟩

theorem hasWay_empty : HasWay ⟨[]⟩ ["out".toList] "a.ts".toList where
  directory := by
    refine ⟨List.forall_mem_singleton.mpr ?_, by unfold IsShort; decide, fun front _ content h => ?_⟩
    · constructor <;> decide
    · cases front <;> cases h
  name := by constructor <;> decide
  short := by unfold IsShort; decide
  free := rfl

/-- There the directory is made first; and where a file is in its place, nothing is saved. -/
theorem file_saved_in_new_directory :
    (∃ target full, ∃ path : String, IsTarget ⟨[], ['/']⟩ (some "/out") target ∧ HasEnding "a".toList full ∧
      HasWay ⟨[]⟩ ["out".toList] full ∧ path.toList = PathText.join target full ∧
      Written ⟨[]⟩ (save ⟨[], ['/']⟩ ⟨[]⟩ "x" "a" (some "/out")).tree [] path.toList (bytesOf "x") ∧
      (save ⟨[], ['/']⟩ ⟨[]⟩ "x" "a" (some "/out")).tree.isDirectory ["out".toList] = true ∧
      OnTheWay [] target ["out".toList]) ∧
    ∃ fault, (save ⟨[], ['/']⟩ fileOut "x" "a" (some "/out")).outcome = .error fault ∧
      SameFiles fileOut (save ⟨[], ['/']⟩ fileOut "x" "a" (some "/out")).tree := by
  have hdirectory : targetDirectory ⟨[], ['/']⟩ (some "/out") = "/out".toList := by decide
  constructor
  · obtain ⟨target, full, htarget, hfull, hok, -, hgoes, -, hnew⟩ :=
      save_replaces_one_file ⟨[], ['/']⟩ ⟨[]⟩ "x" "a" (some "/out")
    have htext : target = pathText ["out".toList] := by
      cases htarget with
      | given => decide
      | byDefault h => simp at h
    obtain rfl : full = "a.ts".toList := by
      rcases hfull with ⟨hends, -⟩ | ⟨-, rfl⟩
      · exact absurd hends (by decide)
      · decide
    obtain ⟨path, hpath⟩ := hgoes _ (List.cons_ne_nil _ _) htext hasWay_empty
    obtain ⟨hjoin, hwritten⟩ := hok path hpath
    have hmade : (⟨[]⟩ : FileTree).makeDirectories true [] "/out".toList =
        (.ok (), ⟨[(["out".toList], .directory)]⟩) := by
      rw [FileTree.makeDirectories_of_hasNode (by decide)]
      rfl
    have hthere : (save ⟨[], ['/']⟩ ⟨[]⟩ "x" "a" (some "/out")).tree.isDirectory ["out".toList] = true := by
      rw [save, (saveAt_eq _ _ _ _ _).2, write, hdirectory, hmade]
      rfl
    exact ⟨target, _, path, htarget, hfull, hasWay_empty, hjoin, hwritten, hthere,
      (hnew _ (by decide) hthere).1⟩
  · obtain ⟨-, -, -, -, -, herror, -⟩ :=
      save_replaces_one_file ⟨[], ['/']⟩ fileOut "x" "a" (some "/out")
    have hmade : fileOut.makeDirectories true [] "/out".toList =
        (.error (.system .exists "/out".toList), fileOut) := by
      rw [FileTree.makeDirectories_of_hasNode (by decide)]
      rfl
    have houtcome : (save ⟨[], ['/']⟩ fileOut "x" "a" (some "/out")).outcome =
        .error (.system .exists "/out".toList) := by
      rw [save, (saveAt_eq _ _ _ _ _).1, write, hdirectory, hmade]
      rfl
    exact ⟨_, houtcome, (herror _ houtcome).2⟩

end JsonShapes.Saving

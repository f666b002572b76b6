import JsonShapes.Proofs.FileTree.Replacing
import JsonShapes.Saving

/-! # What saving does

The file is written in one of three ways (`Writes`): it holds the definitions, the system refuses a step
and no regular file has changed, or a NUL is met. The last happens exactly when the directory or the path of
the file holds a NUL and the system refuses no directory (`MeetsNul`). -/

namespace JsonShapes.Saving

open FileTree (SameFiles Written)

variable {s : Surroundings} {t : FileTree} {content : List UInt8} {text : String}
  {directory path : List Char}

/-- **Saving meets a NUL**: the directory or the path of the file holds one, and the system refuses none
of the directories. -/
def MeetsNul (s : Surroundings) (t : FileTree) (directory path : List Char) : Prop :=
  ('\x00' ∈ directory ∨ '\x00' ∈ path) ∧
    ∀ errno refused, (t.makeDirectories true s.workingDirectory directory).1 ≠
      .error (.system errno refused)

theorem notMem_of_made (h : (t.makeDirectories true s.workingDirectory directory).1 = .ok ()) :
    '\x00' ∉ directory := by
  intro hmem
  rcases @FileTree.makeDirectories_of_nul t s.workingDirectory _ true hmem with
    hnul | ⟨errno, path, -, hsystem⟩
  · cases h.symm.trans hnul
  · cases h.symm.trans hsystem

/-- What is written meets no NUL. -/
theorem notMem_of_write (h : (write s t content directory path).1 = .ok ()) :
    '\x00' ∉ directory ∧ '\x00' ∉ path := by
  unfold write at h
  split at h
  · cases h
  · rename_i made hmade
    refine ⟨notMem_of_made (by rw [hmade]), fun hnul => ?_⟩
    cases h.symm.trans (FileTree.writeFile_eq_nulByte_iff.mpr hnul)

theorem not_meetsNul_of_write (h : (write s t content directory path).1 = .ok ()) :
    ¬ MeetsNul s t directory path :=
  fun hmeets => hmeets.1.elim (notMem_of_write h).1 (notMem_of_write h).2

/-- **A file is written**, or no regular file has changed. -/
theorem write_cases (s : Surroundings) (t : FileTree) (content : List UInt8) (directory path : List Char) :
    ((write s t content directory path).1 = .ok () ∧
      Written t (write s t content directory path).2 s.workingDirectory path content) ∨
    ∃ fault, (write s t content directory path).1 = .error fault ∧
      SameFiles t (write s t content directory path).2 := by
  have hsame := FileTree.sameFiles_makeDirectories true t s.workingDirectory directory
  unfold write
  split
  · rename_i fault made hmade
    rw [hmade] at hsame
    exact .inr ⟨fault, rfl, hsame⟩
  · rename_i made hmade
    rw [hmade] at hsame
    exact FileTree.writeFile_written_or_kept hsame _ _ _

/-- **What saving ends with** is how the file is written, told with the path of the file. -/
theorem saveAt_eq (s : Surroundings) (t : FileTree) (text : String) (directory path : List Char) :
    (saveAt s t text directory path).outcome =
        (write s t (bytesOf text) directory path).1.map (fun _ => String.ofList path) ∧
      (saveAt s t text directory path).tree = (write s t (bytesOf text) directory path).2 := by
  unfold saveAt
  dsimp only
  split
  · rename_i after h
    rw [h]
    exact ⟨rfl, rfl⟩
  · rename_i after h
    rw [h]
    exact ⟨rfl, rfl⟩
  · rename_i fault after _ h
    rw [h]
    exact ⟨rfl, rfl⟩

end JsonShapes.Saving

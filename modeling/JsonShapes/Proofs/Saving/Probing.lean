import JsonShapes.Proofs.FileTree.Ancestors
import JsonShapes.Proofs.FileTree.Removing
import JsonShapes.Saving

/-! # What probing changes

A directory is probed in one of three ways (`Probes`): what is at the place of the probe is erased after it was
written, or the system refuses the probe, or a NUL is met. So what is beside that place stays as it is
(`node?_isWritable_of_ne`), and the tree is left as it was just when no file had the name of the probe
(`HasProbeFile`, `probe_leaves_tree_iff`); such a file is overwritten and removed. -/

namespace JsonShapes.Saving

open FileTree (leadOf)

variable {s : Surroundings} {t : FileTree} {directory : String} {path q : Path}

/-- **The place of the probe** of a directory. -/
def probePlace (s : Surroundings) (directory : String) : Path :=
  leadOf s.workingDirectory directory.toList ++ [".write-test".toList]

/-- **A file has the name of the probe**: it can be read where the directory is probed. -/
def HasProbeFile (s : Surroundings) (t : FileTree) (directory : String) : Prop :=
  ∃ content, t.readFile s.workingDirectory (probePath directory) = .ok content

/-- **How a directory is probed**, each ending with its outcome. -/
inductive Probes (s : Surroundings) (t : FileTree) (directory : String) : FileTree.Outcome Bool → Prop
  | made : '\x00' ∉ probePath directory →
      t.writablePath s.workingDirectory (probePath directory) = .ok (probePlace s directory) →
        Probes s t directory (.ok true, t.erase (probePlace s directory))
  | refused {errno : Errno} :
      t.writablePath s.workingDirectory (probePath directory) = .error errno →
        Probes s t directory (.ok false, t)
  | nul : '\x00' ∈ probePath directory → Probes s t directory (.error .nulByte, t)

/-! ### Places -/

theorem leadOf_probePath (s : Surroundings) (directory : String) :
    leadOf s.workingDirectory (probePath directory) = probePlace s directory := by
  have hhead : ".write-test".toList.head? ≠ some '/' := by decide
  rw [leadOf, probePath, FileTree.origin_join hhead, FileTree.components_join hhead, FileTree.lead_append]
  rfl

theorem probePlace_ne_nil (s : Surroundings) (directory : String) : probePlace s directory ≠ [] := by
  simp [probePlace]

theorem writablePath_eq_probePlace
    (h : t.writablePath s.workingDirectory (probePath directory) = .ok path) :
    path = probePlace s directory := by
  obtain ⟨_, _, hplace, -, -, -, rfl⟩ := FileTree.writablePath_eq_ok_iff.mp h
  rw [← leadOf_probePath, FileTree.leadOf_of_locate hplace]

/-- **A file has the name of the probe** just when the probe can be written, and something is at its place. -/
theorem hasProbeFile_iff : HasProbeFile s t directory ↔ '\x00' ∉ probePath directory ∧
    t.writablePath s.workingDirectory (probePath directory) = .ok (probePlace s directory) ∧
      t.node? (probePlace s directory) ≠ none := by
  constructor
  · rintro ⟨content, hread⟩
    obtain ⟨hnul, place, name, hplace, hlong, hdemands, hnode⟩ := FileTree.readFile_eq_ok_iff.mp hread
    have hfree : ¬ t.isDirectory (place ++ [name]) = true := by
      rw [FileTree.isDirectory_iff, hnode]
      nofun
    have hpath := FileTree.writablePath_eq_ok_iff.mpr ⟨place, name, hplace, hdemands, hlong, hfree, rfl⟩
    have hprobe := writablePath_eq_probePlace hpath
    rw [hprobe] at hpath hnode
    exact ⟨hnul, hpath, by rw [hnode]; exact Option.some_ne_none _⟩
  · rintro ⟨hnul, hpath, hthere⟩
    obtain ⟨place, name, hplace, hdemands, hlong, hfree, heq⟩ := FileTree.writablePath_eq_ok_iff.mp hpath
    rw [← heq] at hthere
    cases hnode : t.node? (place ++ [name]) with
    | none => exact absurd hnode hthere
    | some found =>
      cases found with
      | directory => exact absurd ((FileTree.isDirectory_iff t _).mpr hnode) hfree
      | file content =>
        exact ⟨content, FileTree.readFile_eq_ok_iff.mpr ⟨hnul, place, name, hplace, hlong, hdemands, hnode⟩⟩

/-! ### Probing -/

theorem removeFile_of_written {content : List UInt8} (hnul : '\x00' ∉ probePath directory)
    (h : t.writablePath s.workingDirectory (probePath directory) = .ok path) :
    (t.put path (.file content)).removeFile s.workingDirectory (probePath directory) =
      (.ok (), t.erase path) := by
  obtain ⟨place, name, hplace, hdemands, hlong, hfree, rfl⟩ := FileTree.writablePath_eq_ok_iff.mp h
  have hne : place ++ [name] ≠ [] := by simp
  have hgrows := FileTree.grows_put hne (Bool.eq_false_iff.mpr hfree) (.file content)
  rw [FileTree.removeFile_of_file hnul (hgrows.locate hplace) hlong hdemands, FileTree.erase_put]
  rw [FileTree.node?_put hne, if_pos rfl]

/-- **Every directory is probed in one of these ways**, with that outcome. -/
theorem probes (s : Surroundings) (t : FileTree) (directory : String) :
    Probes s t directory (isWritable s t directory) := by
  unfold isWritable
  dsimp only
  rcases FileTree.writeFile_cases t s.workingDirectory (probePath directory) (bytesOf "test") with
    ⟨path, hnul, hpath, hwrite⟩ | ⟨fault, hfault, hwrite⟩
  · have hplace := writablePath_eq_probePlace hpath
    rw [hwrite]
    dsimp only
    rw [removeFile_of_written hnul hpath, hplace]
    exact .made hnul (hplace ▸ hpath)
  · rw [hwrite]
    cases fault with
    | nulByte => exact .nul (FileTree.checked_eq_nulByte_iff.mp hfault)
    | system errno path =>
      rw [FileTree.checked] at hfault
      split_ifs at hfault
      · cases hfault
      · obtain ⟨errno', hrefused, -⟩ := mapError_eq_error_iff.mp hfault
        exact .refused hrefused

/-- **Beside the place of the probe** nothing changes. -/
theorem node?_isWritable_of_ne (s : Surroundings) (t : FileTree) (directory : String)
    (hq : q ≠ probePlace s directory) : (isWritable s t directory).2.node? q = t.node? q := by
  have hprobes := probes s t directory
  generalize isWritable s t directory = outcome at hprobes
  cases hprobes with
  | made =>
    show (t.erase (probePlace s directory)).node? q = t.node? q
    rw [FileTree.node?_erase (probePlace_ne_nil s directory), if_neg hq]
  | refused => rfl
  | nul => rfl

/-- **A probe leaves the tree** as it was just when no file had its name. -/
theorem isWritable_tree_iff (s : Surroundings) (t : FileTree) (directory : String) :
    (isWritable s t directory).2 = t ↔ ¬ HasProbeFile s t directory := by
  have hprobes := probes s t directory
  generalize isWritable s t directory = outcome at hprobes
  rw [hasProbeFile_iff]
  cases hprobes with
  | made hnul hpath =>
    rw [FileTree.erase_eq_self_iff (probePlace_ne_nil s directory)]
    exact ⟨fun hnone h => h.2.2 hnone, fun h => not_not.mp fun hthere => h ⟨hnul, hpath, hthere⟩⟩
  | refused hrefused =>
    refine iff_of_true rfl fun h => ?_
    cases hrefused.symm.trans h.2.1
  | nul hnul => exact iff_of_true rfl fun h => h.1 hnul

theorem isWritable_of_hasProbeFile (h : HasProbeFile s t directory) :
    isWritable s t directory = (.ok true, t.erase (probePlace s directory)) := by
  obtain ⟨hnul, hpath, -⟩ := hasProbeFile_iff.mp h
  have hprobes := probes s t directory
  generalize isWritable s t directory = outcome at hprobes
  cases hprobes with
  | made => rfl
  | refused hrefused => cases hrefused.symm.trans hpath
  | nul hmem => exact absurd hmem hnul

theorem describe_tree (s : Surroundings) (t : FileTree) :
    (describe s t).2 = (isWritable s t (String.ofList s.home)).2 := rfl

/-- **Probing leaves the tree as it was just when no file has the name of the probe**, and so does describing
the machine, which probes the home directory. What is beside the probe stays in any case; but a file with its
name is removed, and the directory counts as writable. -/
theorem probe_leaves_tree_iff (s : Surroundings) (t : FileTree) (directory : String) :
    ((isWritable s t directory).2 = t ↔ ¬ HasProbeFile s t directory) ∧
      ((describe s t).2 = t ↔ ¬ HasProbeFile s t (String.ofList s.home)) ∧
      (∀ q, q ≠ probePlace s directory → (isWritable s t directory).2.node? q = t.node? q) ∧
      (HasProbeFile s t directory → (isWritable s t directory).1 = .ok true ∧
        t.node? (probePlace s directory) ≠ none ∧
        (isWritable s t directory).2.node? (probePlace s directory) = none) := by
  refine ⟨isWritable_tree_iff s t directory, ?_, fun q => node?_isWritable_of_ne s t directory, fun h => ?_⟩
  · rw [describe_tree]
    exact isWritable_tree_iff s t _
  · rw [isWritable_of_hasProbeFile h]
    exact ⟨rfl, (hasProbeFile_iff.mp h).2.2,
      by rw [FileTree.node?_erase (probePlace_ne_nil s directory), if_pos rfl]⟩

/-- A tree with a directory and a file in it that has the name of the probe. -/
def keptNotes : FileTree :=
  ⟨[(["d".toList], .directory), (["d".toList, ".write-test".toList], .file (bytesOf "keep"))]⟩

theorem hasProbeFile_keptNotes (home : List Char) : HasProbeFile ⟨[], home⟩ keptNotes "/d" := by
  refine ⟨bytesOf "keep", ?_⟩
  show keptNotes.readFile [] (probePath "/d") = .ok (bytesOf "keep")
  decide +kernel

/-- The file is removed by the probe of its directory. -/
theorem kept_notes_removed : HasProbeFile ⟨[], ['/']⟩ keptNotes "/d" ∧
    (isWritable ⟨[], ['/']⟩ keptNotes "/d").1 = .ok true ∧
      (isWritable ⟨[], ['/']⟩ keptNotes "/d").2.node? ["d".toList, ".write-test".toList] = none := by
  have hnotes := hasProbeFile_keptNotes ['/']
  obtain ⟨-, -, -, htaken⟩ := probe_leaves_tree_iff ⟨[], ['/']⟩ keptNotes "/d"
  obtain ⟨hanswer, -, hgone⟩ := htaken hnotes
  exact ⟨hnotes, hanswer, hgone⟩

/-- So probing and describing the machine do not leave every tree as they found it. -/
theorem probe_changes_tree : ¬ (∀ s t directory, (isWritable s t directory).2 = t) ∧
    ¬ ∀ s t, (describe s t).2 = t := by
  constructor
  · intro h
    exact (isWritable_tree_iff _ _ _).mp (h ⟨[], ['/']⟩ keptNotes "/d") (hasProbeFile_keptNotes _)
  · intro h
    have hhome := h ⟨[], "/d".toList⟩ keptNotes
    rw [describe_tree, String.ofList_toList] at hhome
    exact (isWritable_tree_iff _ _ _).mp hhome (hasProbeFile_keptNotes _)

end JsonShapes.Saving

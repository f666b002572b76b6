import JsonShapes.Proofs.FileTree.Growth
import JsonShapes.Proofs.Text.Cutting

/-! # What operations on files change

Writing a file and making a directory put one node where no directory is, or change nothing; so the tree
grows, and a file that was written is read back (`readFile_writeFile`). What the making of one directory
does, the making of its parents does too (`makeDirectories_induction`).

An operation on a path with a NUL does nothing (`checked_eq_nulByte_iff`), and when parents are made the last
step meets it (`makeDirectories_of_nul`). -/

namespace JsonShapes.FileTree

open Text

variable {t : FileTree} {workingDirectory path : Path} {text : List Char} {content : List UInt8}

/-! ### Checked paths -/

theorem containsNul_iff (text : List Char) : containsNul text = true ↔ '\x00' ∈ text :=
  List.contains_iff_mem

theorem checked_eq_ok_iff {α : Type} {answer : Except Errno α} {a : α} :
    checked text answer = .ok a ↔ '\x00' ∉ text ∧ answer = .ok a := by
  rw [checked, ite_error_eq_ok_iff, mapError_eq_ok_iff, containsNul_iff]

theorem checked_eq_nulByte_iff {α : Type} {answer : Except Errno α} :
    checked text answer = .error .nulByte ↔ '\x00' ∈ text := by
  rw [checked, ← containsNul_iff]
  cases hnul : containsNul text with
  | true => simp
  | false => cases answer <;> simp [Except.mapError]

/-! ### Writing a file -/

theorem writablePath_eq_ok_iff : t.writablePath workingDirectory text = .ok path ↔
    ∃ directory name, t.locate workingDirectory text = .ok (.named directory name) ∧
      ¬ demandsDirectory text = true ∧ ¬ isLongName name = true ∧
        ¬ t.isDirectory (directory ++ [name]) = true ∧ directory ++ [name] = path := by
  unfold writablePath
  rw [bind_eq_ok_iff]
  constructor
  · rintro ⟨place, hplace, h⟩
    cases place with
    | directory => cases h
    | named directory name =>
      simp only [throw_bind_eq, ite_error_eq_ok_iff] at h
      obtain ⟨hdemands, hlong, hdirectory, heq⟩ := h
      exact ⟨directory, name, hplace, hdemands, hlong, hdirectory, Except.ok.inj heq⟩
  · rintro ⟨directory, name, hplace, hdemands, hlong, hdirectory, rfl⟩
    refine ⟨_, hplace, ?_⟩
    simp only [throw_bind_eq, ite_error_eq_ok_iff]
    exact ⟨hdemands, hlong, hdirectory, rfl⟩

/-- **Writing a file** puts it at its path, or fails and changes nothing. -/
theorem writeFile_cases (t : FileTree) (workingDirectory : Path) (text : List Char)
    (content : List UInt8) :
    (∃ path, '\x00' ∉ text ∧ t.writablePath workingDirectory text = .ok path ∧
      t.writeFile workingDirectory text content = (.ok (), t.put path (.file content))) ∨
    ∃ fault, checked text (t.writablePath workingDirectory text) = .error fault ∧
      t.writeFile workingDirectory text content = (.error fault, t) := by
  unfold writeFile
  split
  · rename_i path h
    obtain ⟨hnul, hpath⟩ := checked_eq_ok_iff.mp h
    exact .inl ⟨path, hnul, hpath, rfl⟩
  · rename_i fault h
    exact .inr ⟨fault, h, rfl⟩

theorem isDirectory_writeFile (t : FileTree) (workingDirectory : Path) (text : List Char)
    (content : List UInt8) (q : Path) :
    (t.writeFile workingDirectory text content).2.isDirectory q = t.isDirectory q := by
  rcases writeFile_cases t workingDirectory text content with ⟨path, -, hpath, h⟩ | ⟨fault, -, h⟩
  · obtain ⟨directory, name, -, -, -, hdirectory, rfl⟩ := writablePath_eq_ok_iff.mp hpath
    rw [h, isDirectory, node?_put (by simp)]
    split_ifs with hq
    · rw [hq, Bool.eq_false_iff.mpr hdirectory]
      rfl
    · rfl
  · rw [h]

theorem writeFile_eq_nulByte_iff :
    (t.writeFile workingDirectory text content).1 = .error .nulByte ↔ '\x00' ∈ text := by
  rcases writeFile_cases t workingDirectory text content with ⟨path, hnul, -, h⟩ | ⟨fault, hfault, h⟩
  · simp [h, hnul]
  · rw [h, ← checked_eq_nulByte_iff, hfault, Except.error.injEq, Except.error.injEq]

theorem find_of_file {directory : Path} {name : List Char}
    (hplace : t.locate workingDirectory text = .ok (.named directory name))
    (hlong : ¬ isLongName name = true) (hdemands : ¬ demandsDirectory text = true)
    (hnode : t.node? (directory ++ [name]) = some (.file content)) :
    t.find workingDirectory text = .ok (.file content) := by
  unfold find
  refine bind_eq_ok_iff.mpr ⟨_, hplace, ?_⟩
  simp only [throw_bind_eq, ite_error_eq_ok_iff, hnode]
  exact ⟨hlong, if_neg hdemands⟩

theorem readFile_eq_ok_iff : t.readFile workingDirectory text = .ok content ↔ '\x00' ∉ text ∧
    ∃ directory name, t.locate workingDirectory text = .ok (.named directory name) ∧
      ¬ isLongName name = true ∧ ¬ demandsDirectory text = true ∧
        t.node? (directory ++ [name]) = some (.file content) := by
  rw [readFile, checked_eq_ok_iff]
  refine and_congr_right fun _ => ⟨fun h => ?_, ?_⟩
  · split at h
    · rename_i found hfind
      obtain rfl : found = content := Except.ok.inj h
      obtain ⟨place, hplace, hfind⟩ := bind_eq_ok_iff.mp hfind
      cases place with
      | directory => cases hfind
      | named directory name =>
        simp only [throw_bind_eq, ite_error_eq_ok_iff] at hfind
        obtain ⟨hlong, hfind⟩ := hfind
        refine ⟨directory, name, hplace, hlong, ?_⟩
        split at hfind
        · cases hfind
        · cases hfind
        · rename_i other hnode
          split at hfind
          · cases hfind
          · rename_i hdemands
            cases hfind
            exact ⟨hdemands, hnode⟩
    · cases h
    · cases h
  · rintro ⟨directory, name, hplace, hlong, hdemands, hnode⟩
    rw [find_of_file hplace hlong hdemands hnode]

/-- **What was written is read back.** -/
theorem readFile_writeFile (h : (t.writeFile workingDirectory text content).1 = .ok ()) :
    (t.writeFile workingDirectory text content).2.readFile workingDirectory text = .ok content := by
  rcases writeFile_cases t workingDirectory text content with
    ⟨path, hnul, hpath, hwrite⟩ | ⟨fault, -, hwrite⟩
  · obtain ⟨directory, name, hplace, hdemands, hlong, hdirectory, rfl⟩ :=
      writablePath_eq_ok_iff.mp hpath
    have hne : directory ++ [name] ≠ [] := by simp
    have hgrows := grows_put hne (Bool.eq_false_iff.mpr hdirectory) (.file content)
    have hnode : (t.put (directory ++ [name]) (.file content)).node? (directory ++ [name]) =
        some (.file content) := by rw [node?_put hne, if_pos rfl]
    rw [hwrite, readFile, find_of_file (hgrows.locate hplace) hlong hdemands hnode]
    exact checked_eq_ok_iff.mpr ⟨hnul, rfl⟩
  · rw [hwrite] at h
    cases h

/-! ### Making directories -/

theorem vacantPath_eq_ok_iff : t.vacantPath workingDirectory text = .ok path ↔
    ∃ directory name, t.locate workingDirectory text = .ok (.named directory name) ∧
      ¬ isLongName name = true ∧ t.node? (directory ++ [name]) = none ∧
        directory ++ [name] = path := by
  unfold vacantPath
  rw [bind_eq_ok_iff]
  constructor
  · rintro ⟨place, hplace, h⟩
    cases place with
    | directory => cases h
    | named directory name =>
      simp only [throw_bind_eq, ite_error_eq_ok_iff] at h
      obtain ⟨hlong, hnode, heq⟩ := h
      exact ⟨directory, name, hplace, hlong, by simpa using hnode, Except.ok.inj heq⟩
  · rintro ⟨directory, name, hplace, hlong, hnode, rfl⟩
    refine ⟨_, hplace, ?_⟩
    simp only [throw_bind_eq, ite_error_eq_ok_iff]
    exact ⟨hlong, by simp [hnode], rfl⟩

/-- **Making a directory** puts it where nothing is, or fails and changes nothing. -/
theorem makeDirectory_cases (t : FileTree) (workingDirectory : Path) (text : List Char) :
    (∃ path, path ≠ [] ∧ t.node? path = none ∧
      t.makeDirectory workingDirectory text = (.ok (), t.put path .directory)) ∨
    ∃ fault, checked text (t.vacantPath workingDirectory text) = .error fault ∧
      t.makeDirectory workingDirectory text = (.error fault, t) := by
  unfold makeDirectory
  split
  · rename_i path h
    obtain ⟨directory, name, -, -, hnode, rfl⟩ := vacantPath_eq_ok_iff.mp (checked_eq_ok_iff.mp h).2
    exact .inl ⟨_, by simp, hnode, rfl⟩
  · rename_i fault h
    exact .inr ⟨fault, h, rfl⟩

theorem makeDirectory_of_nul (h : '\x00' ∈ text) :
    t.makeDirectory workingDirectory text = (.error .nulByte, t) := by
  rw [makeDirectory, checked_eq_nulByte_iff.mpr h]

theorem sameFiles_makeDirectory (t : FileTree) (workingDirectory : Path) (text : List Char) :
    SameFiles t (t.makeDirectory workingDirectory text).2 := by
  rcases makeDirectory_cases t workingDirectory text with ⟨path, hne, hnode, h⟩ | ⟨fault, -, h⟩
  · rw [h]
    exact sameFiles_put_directory hne hnode
  · rw [h]
    exact .refl t

theorem makeLast_tree (existing : Bool) (t : FileTree) (workingDirectory : Path)
    (text : List Char) :
    (makeLast existing t workingDirectory text).2 = (t.makeDirectory workingDirectory text).2 := by
  unfold makeLast
  split
  · rename_i errno path after h
    rw [h]
    split <;> rfl
  · rfl

theorem makeLast_of_nul {existing : Bool} (h : '\x00' ∈ text) :
    makeLast existing t workingDirectory text = (.error .nulByte, t) := by
  rw [makeLast, makeDirectory_of_nul h]

theorem makeDirectories_of_hasNode {existing : Bool}
    (h : t.hasNode workingDirectory (PathText.parent (trimSlash text)) = true) :
    makeDirectories existing t workingDirectory text = makeLast existing t workingDirectory text := by
  unfold makeDirectories
  dsimp only
  rw [h, Bool.not_true, Bool.and_false, if_neg Bool.false_ne_true, dite_eq_ite, ite_self]

/-- **What the making of one directory does**, the making of its parents does too, when it is done to a path
as soon as it is done to its parent. -/
theorem makeDirectories_induction {R : List Char → FileTree → FileTree → Prop} (hrefl : ∀ text t, R text t t)
    (htrans : ∀ {text t t' t''}, R text t t' → R text t' t'' → R text t t'')
    (hstep : ∀ text t, R text t (t.makeDirectory workingDirectory text).2)
    (hparent : ∀ {text t t'}, PathText.parent (trimSlash text) ≠ [] →
      R (PathText.parent (trimSlash text)) t t' → R text t t')
    (existing : Bool) (t : FileTree) (text : List Char) :
    R text t (makeDirectories existing t workingDirectory text).2 := by
  have hlast : ∀ text t, R text t (makeLast existing t workingDirectory text).2 := by
    intro text t
    rw [makeLast_tree]
    exact hstep text t
  have hfinish : ∀ text t whole,
      R text t (makeDirectories.finish existing workingDirectory text t whole).2 := by
    intro text t whole
    unfold makeDirectories.finish
    split
    · exact hrefl text t
    · exact hlast text t
  have hparents : ∀ {text : List Char} {t t' : FileTree},
      (!(PathText.parent (trimSlash text)).isEmpty &&
        !t.hasNode workingDirectory (PathText.parent (trimSlash text))) = true →
      R (PathText.parent (trimSlash text)) t t' → R text t t' := by
    intro text t t' hmissing h
    rw [Bool.and_eq_true, Bool.not_eq_true', List.isEmpty_eq_false_iff] at hmissing
    exact hparent hmissing.1 h
  fun_induction makeDirectories existing t workingDirectory text
  -- the parents are made first, whether or not the last of them turns out to exist
  case case1 hmissing after hmade ih =>
    rw [hmade] at ih
    exact htrans (hparents hmissing ih) (hfinish _ _ _)
  case case2 hmissing path after hmade ih =>
    rw [hmade] at ih
    exact htrans (hparents hmissing ih) (hfinish _ _ _)
  case case3 hmissing fault after _ hmade ih =>
    rw [hmade] at ih
    exact hparents hmissing ih
  case case4 => exact hlast _ _
  case case5 => exact hlast _ _

theorem sameFiles_makeDirectories (existing : Bool) (t : FileTree) (workingDirectory : Path)
    (text : List Char) : SameFiles t (makeDirectories existing t workingDirectory text).2 :=
  makeDirectories_induction (fun _ => SameFiles.refl) SameFiles.trans
    (fun text t => sameFiles_makeDirectory t workingDirectory text) (fun _ h => h) existing t text

/-! ### NULs -/

theorem mem_parent_or_leaf {c : Char} (h : c ∈ text) (hc : c ≠ '/') :
    c ∈ PathText.parent text ∨ c ∈ PathText.leaf text := by
  rw [← uptoLast_append_afterLast '/' text, List.mem_append] at h
  refine h.imp_left fun hhead => ?_
  unfold PathText.parent
  dsimp only
  split
  · exact hhead
  · exact mem_dropEnd hhead (beq_eq_false_iff_ne.mpr hc)

theorem mem_trimSlash {c : Char} (h : c ∈ text) (hc : c ≠ '/') : c ∈ trimSlash text := by
  unfold trimSlash
  split
  · rename_i hleaf
    refine (mem_parent_or_leaf h hc).resolve_right fun hmem => ?_
    rw [List.isEmpty_iff.mp hleaf] at hmem
    cases hmem
  · exact h

theorem makeLast_eq_nulByte_iff {existing : Bool} :
    (makeLast existing t workingDirectory text).1 = .error .nulByte ↔ '\x00' ∈ text := by
  constructor
  · intro h
    rcases makeDirectory_cases t workingDirectory text with ⟨path, -, -, hmake⟩ | ⟨fault, hfault, hmake⟩
    · rw [makeLast, hmake] at h
      cases h
    · cases fault with
      | nulByte => exact checked_eq_nulByte_iff.mp hfault
      | system errno path =>
        rw [makeLast, hmake] at h
        dsimp only at h
        split at h <;> cases h
  · intro h
    rw [makeLast_of_nul h]

theorem finish_of_nul {existing : Bool} (h : '\x00' ∈ text)
    (hparent : '\x00' ∉ PathText.parent (trimSlash text)) :
    (makeDirectories.finish existing workingDirectory text t (trimSlash text)).1 =
      .error .nulByte := by
  have hleaf := (mem_parent_or_leaf (mem_trimSlash h (by decide)) (by decide)).resolve_left hparent
  unfold makeDirectories.finish
  rw [if_neg]
  · exact makeLast_eq_nulByte_iff.mpr h
  -- a dot at the end would be no step at all
  · intro hdot
    rw [beq_iff_eq.mp hdot] at hleaf
    revert hleaf
    decide

/-- **The last step meets a NUL** that the path holds, unless the system refuses a step before. -/
theorem makeDirectories_of_nul {existing : Bool} (h : '\x00' ∈ text) :
    (makeDirectories existing t workingDirectory text).1 = .error .nulByte ∨
      ∃ errno path, errno ≠ .exists ∧
        (makeDirectories existing t workingDirectory text).1 = .error (.system errno path) := by
  fun_induction makeDirectories existing t workingDirectory text
  -- parents that were made, or are there, hold no NUL, so the last component does
  case case1 after hmade ih =>
    rw [hmade] at ih
    refine .inl (finish_of_nul h fun hparent => ?_)
    rcases ih hparent with hnul | ⟨errno, path, -, hsystem⟩
    · cases hnul
    · cases hsystem
  case case2 path after hmade ih =>
    rw [hmade] at ih
    refine .inl (finish_of_nul h fun hparent => ?_)
    rcases ih hparent with hnul | ⟨errno, path, hne, hsystem⟩
    · cases hnul
    · cases hsystem
      exact hne rfl
  case case3 fault after hne hmade ih =>
    cases fault with
    | nulByte => exact .inl rfl
    | system errno path =>
      refine .inr ⟨errno, path, ?_, rfl⟩
      rintro rfl
      exact hne path rfl
  case case4 => exact .inl (makeLast_eq_nulByte_iff.mpr h)
  case case5 => exact .inl (makeLast_eq_nulByte_iff.mpr h)

end JsonShapes.FileTree

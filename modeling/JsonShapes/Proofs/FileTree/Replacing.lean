import JsonShapes.Proofs.FileTree.Changes

/-! # What replaces a file

A file is replaced when it holds the content afterwards and no other regular file differs (`Replaces`). A
write that succeeds replaces the file that the path text leads to, and it is read back (`Written`); one that
fails changes nothing, and directories made before do not count (`writeFile_written_or_kept`). -/

namespace JsonShapes.FileTree

variable {t t' made : FileTree} {workingDirectory path : Path} {text : List Char}
  {content : List UInt8}

/-- **A path text leads to a path**: to a name in a directory that is there. -/
def LeadsTo (t : FileTree) (workingDirectory : Path) (text : List Char) (path : Path) : Prop :=
  ∃ directory name, t.locate workingDirectory text = .ok (.named directory name) ∧
    directory ++ [name] = path

/-- **A regular file is replaced**: it holds the content, and no other regular file is created, altered
or removed. -/
structure Replaces (t t' : FileTree) (path : Path) (content : List UInt8) : Prop where
  holds : t'.node? path = some (.file content)
  others : ∀ q c, q ≠ path → (t.node? q = some (.file c) ↔ t'.node? q = some (.file c))

theorem LeadsTo.unique {path' : Path} (h : LeadsTo t workingDirectory text path)
    (h' : LeadsTo t workingDirectory text path') : path = path' := by
  obtain ⟨directory, name, hplace, rfl⟩ := h
  obtain ⟨directory', name', hplace', rfl⟩ := h'
  cases hplace.symm.trans hplace'
  rfl

theorem Grows.leadsTo (h : Grows t t') (hl : LeadsTo t workingDirectory text path) :
    LeadsTo t' workingDirectory text path := by
  obtain ⟨directory, name, hplace, hpath⟩ := hl
  exact ⟨directory, name, h.locate hplace, hpath⟩

theorem replaces_put (hsame : SameFiles t made) (hp : path ≠ []) (content : List UInt8) :
    Replaces t (made.put path (.file content)) path content := by
  refine ⟨by rw [node?_put hp, if_pos rfl], fun q c hq => ?_⟩
  rw [node?_put hp, if_neg hq]
  exact hsame q c

/-- **A file was written**: it is read back with the content, and no other regular file differs. -/
structure Written (t after : FileTree) (workingDirectory : Path) (text : List Char)
    (content : List UInt8) : Prop where
  read : after.readFile workingDirectory text = .ok content
  replaced : ∃ path, LeadsTo after workingDirectory text path ∧ Replaces t after path content

theorem writeFile_replaces (hsame : SameFiles t made)
    (h : (made.writeFile workingDirectory text content).1 = .ok ()) :
    ∃ path, LeadsTo (made.writeFile workingDirectory text content).2 workingDirectory text path ∧
      Replaces t (made.writeFile workingDirectory text content).2 path content := by
  rcases writeFile_cases made workingDirectory text content with
    ⟨path, -, hpath, hwrite⟩ | ⟨fault, -, hwrite⟩
  · obtain ⟨directory, name, hplace, -, -, hdirectory, hput⟩ := writablePath_eq_ok_iff.mp hpath
    have hne : path ≠ [] := by
      rw [← hput]
      simp
    have hfree : made.isDirectory path = false := by
      rw [← hput]
      exact Bool.eq_false_iff.mpr hdirectory
    rw [hwrite]
    refine ⟨path, (grows_put hne hfree _).leadsTo ⟨directory, name, hplace, hput⟩, ?_⟩
    exact replaces_put hsame hne content
  · rw [hwrite] at h
    cases h

theorem writeFile_of_error {fault : Fault}
    (h : (t.writeFile workingDirectory text content).1 = .error fault) :
    (t.writeFile workingDirectory text content).2 = t := by
  rcases writeFile_cases t workingDirectory text content with ⟨path, -, -, hwrite⟩ | ⟨_, -, hwrite⟩
  · rw [hwrite] at h
    cases h
  · rw [hwrite]

/-- **Writing after directories were made** writes the file, or no regular file has changed. -/
theorem writeFile_written_or_kept (hsame : SameFiles t made) (workingDirectory : Path)
    (text : List Char) (content : List UInt8) :
    ((made.writeFile workingDirectory text content).1 = .ok () ∧
      Written t (made.writeFile workingDirectory text content).2 workingDirectory text content) ∨
    ∃ fault, (made.writeFile workingDirectory text content).1 = .error fault ∧
      SameFiles t (made.writeFile workingDirectory text content).2 := by
  cases hwrite : (made.writeFile workingDirectory text content).1 with
  | ok _ => exact .inl ⟨rfl, readFile_writeFile hwrite, writeFile_replaces hsame hwrite⟩
  | error fault =>
    refine .inr ⟨fault, rfl, ?_⟩
    rw [writeFile_of_error hwrite]
    exact hsame

end JsonShapes.FileTree

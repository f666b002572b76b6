import JsonShapes.Proofs.FileTree.Changes

/-! # What is removed

What is erased at a path is gone, and all else stays (`node?_erase`); so a tree is as it was just when nothing
was there (`erase_eq_self_iff`), also when a file was put there before (`erase_put`). A file in its place can
be removed (`removeFile_of_file`). -/

namespace JsonShapes.FileTree

variable {t : FileTree} {workingDirectory path : Path} {text : List Char}

theorem lookup_filter_ne (path q : Path) (entries : List (Path × Node)) :
    (entries.filter fun e => e.1 ≠ path).lookup q = if q = path then none else entries.lookup q := by
  induction entries with
  | nil => simp
  | cons e rest ih =>
    obtain ⟨p, n⟩ := e
    by_cases hp : p = path
    · subst hp
      rw [List.filter_cons_of_neg (by simp), ih]
      by_cases hq : q = p
      · simp [hq]
      · simp [hq, List.lookup_cons, beq_eq_false_iff_ne.mpr hq]
    · rw [List.filter_cons_of_pos (by simpa using hp), List.lookup_cons, List.lookup_cons, ih]
      by_cases hq : q = p
      · subst hq
        simp [hp]
      · simp [beq_eq_false_iff_ne.mpr hq]

theorem node?_erase (hp : path ≠ []) (q : Path) :
    (t.erase path).node? q = if q = path then none else t.node? q := by
  cases q with
  | nil => rw [if_neg (Ne.symm hp), node?, node?]
  | cons name rest =>
    rw [node?_of_ne_nil _ (List.cons_ne_nil _ _), node?_of_ne_nil _ (List.cons_ne_nil _ _), erase,
      lookup_filter_ne]

theorem erase_put (t : FileTree) (path : Path) (n : Node) : (t.put path n).erase path = t.erase path := by
  have hentries : ∀ entries : List (Path × Node),
      (putEntry path n entries).filter (fun e => e.1 ≠ path) = entries.filter fun e => e.1 ≠ path := by
    intro entries
    induction entries with
    | nil => simp [putEntry]
    | cons e rest ih =>
      rw [putEntry]
      by_cases he : e.1 = path
      · rw [if_pos he, List.filter_cons_of_neg (by simp), List.filter_cons_of_neg (by simpa using he)]
      · rw [if_neg he, List.filter_cons_of_pos (by simpa using he), ih,
          List.filter_cons_of_pos (by simpa using he)]
  rw [erase, erase, put, hentries]

/-- **Erasing changes nothing** just when nothing is there. -/
theorem erase_eq_self_iff (hp : path ≠ []) : t.erase path = t ↔ t.node? path = none := by
  constructor
  · intro h
    rw [← h, node?_erase hp, if_pos rfl]
  · intro h
    rw [node?_of_ne_nil t hp, List.lookup_eq_none_iff] at h
    have hkept : (t.entries.filter fun e => e.1 ≠ path) = t.entries := by
      rw [List.filter_eq_self]
      intro e he
      simpa using Ne.symm (bne_iff_ne.mp (h e he))
    rw [erase, hkept]

theorem removeFile_of_file {directory : Path} {name : List Char} {content : List UInt8} (hnul : '\x00' ∉ text)
    (hplace : t.locate workingDirectory text = .ok (.named directory name))
    (hlong : ¬ isLongName name = true) (hdemands : ¬ demandsDirectory text = true)
    (hnode : t.node? (directory ++ [name]) = some (.file content)) :
    t.removeFile workingDirectory text = (.ok (), t.erase (directory ++ [name])) := by
  have hpath : t.filePath workingDirectory text = .ok (directory ++ [name]) := by
    unfold filePath
    refine bind_eq_ok_iff.mpr ⟨_, hplace, ?_⟩
    simp only [throw_bind_eq, ite_error_eq_ok_iff, hnode]
    exact ⟨hlong, if_neg hdemands⟩
  rw [removeFile, checked_eq_ok_iff.mpr ⟨hnul, hpath⟩]

end JsonShapes.FileTree

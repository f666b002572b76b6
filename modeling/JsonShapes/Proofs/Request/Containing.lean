import JsonShapes.Proofs.FileTree.Leading
import JsonShapes.Proofs.Request.Processing
import JsonShapes.Proofs.Url.Suggesting

/-! # Where processing writes

Processing creates or changes at most one regular file, and the name of that file is derived when none is
given: from the URL, else from the root name that is asked for, else it is a fixed one. The file is in
the target directory itself (`Request.IsInTarget`) unless the derived name is a root name whose slashes
lead elsewhere (`Request.Strays`); then it never is (`derived_file_in_target_iff`). -/

namespace JsonShapes

open FileTree (ChangesFile leadOf leadOfName)

/-! ### Saving -/

namespace Saving

variable {s : Surroundings} {t : FileTree} {content : List UInt8} {name : String}
  {directory : Option String} {path : Path}

theorem components_withEnding_ne_nil (name : List Char) :
    FileTree.components (withEnding name) ≠ [] := by
  have hletter : 's' ∈ withEnding name := by
    unfold withEnding
    split_ifs with hends
    · rw [List.isSuffixOf_iff_suffix] at hends
      exact hends.subset (by decide)
    · exact List.mem_append_right _ (by decide)
  intro hnone
  have hempty : ∀ p ∈ Text.pieces '/' (withEnding name), p = [] := by
    intro p hp
    by_contra hne
    have hmem : p ∈ FileTree.components (withEnding name) :=
      List.mem_filter.mpr ⟨hp, by simpa using hne⟩
    rw [hnone] at hmem
    cases hmem
  have hflat : 's' ∈ (Text.pieces '/' (withEnding name)).flatten := by
    rw [Text.flatten_pieces, List.mem_filter]
    exact ⟨hletter, by decide⟩
  rw [List.flatten_eq_nil_iff.mpr hempty] at hflat
  cases hflat

theorem slash_notMem_withEnding {name : List Char} (h : '/' ∉ name) : '/' ∉ withEnding name := by
  unfold withEnding
  split_ifs
  · exact h
  · rw [List.mem_append, not_or]
    exact ⟨h, by decide⟩

/-- **Saving changes one regular file at most**, where the name leads behind the target directory. -/
theorem changes_write (h : ChangesFile t (write s t content (targetDirectory s directory)
      (targetPath s name directory)).2 path) :
    ∃ leaf, path = leadOfName (leadOf s.workingDirectory (targetDirectory s directory))
      (withEnding name.toList) ++ [leaf] := by
  have hsame := FileTree.sameFiles_makeDirectories true t s.workingDirectory
    (targetDirectory s directory)
  unfold write at h
  split at h
  · next fault made hmade =>
    rw [hmade] at hsame
    exact absurd h (FileTree.not_changesFile_of_sameFiles hsame)
  · next made hmade =>
    rw [hmade] at hsame
    obtain ⟨leaf, hleaf⟩ := FileTree.changes_writeFile hsame h
    rw [targetPath, FileTree.lead_join (components_withEnding_ne_nil _)] at hleaf
    exact ⟨leaf, hleaf⟩

end Saving

namespace Request

variable {w : World} {t : FileTree} {r : Request} {path : Path}

/-! ### Derived names -/

/-- **The place of the directory** that a request is saved in. -/
def targetPlace (w : World) (r : Request) : Path :=
  leadOf w.surroundings.workingDirectory (Saving.targetDirectory w.surroundings r.directoryOf)

/-- A path lies in that directory itself. -/
def IsInTarget (w : World) (r : Request) (path : Path) : Prop :=
  ∃ leaf, path = r.targetPlace w ++ [leaf]

/-- **The derived name strays**: the URL suggests none, and the root name that is asked for leads to
another directory. -/
def Strays (w : World) (r : Request) : Prop :=
  Url.nameFrom? r.urlText Url.fileNameEnding = none ∧ ∃ name, r.rootTypeName = .string name ∧
    name ≠ "" ∧ leadOfName (r.targetPlace w) (Saving.withEnding name.toList) ≠ r.targetPlace w

theorem Strays.exists_slash (h : r.Strays w) :
    ∃ name, r.rootTypeName = .string name ∧ '/' ∈ name.toList := by
  obtain ⟨-, name, hname, -, hleads⟩ := h
  refine ⟨name, hname, ?_⟩
  by_contra hslash
  exact hleads (FileTree.leadOfName_of_notMem (Saving.slash_notMem_withEnding hslash))

theorem fileNameOf_of_not_given (h : r.fileName.isGiven = false) :
    r.fileNameOf = Url.suggestFileName r.urlText (some (hintText r.rootHint)) := by
  unfold fileNameOf
  split
  · next name hname =>
    rw [if_pos]
    simpa [hname, Value.isGiven] using h
  · rfl

/-- **What a derived name is**: one without a slash, or the root name that is asked for. -/
theorem derived_name_cases (hgiven : r.fileName.isGiven = false)
    (hhint : ∃ name, r.rootHint = .text name) :
    ('/' ∉ r.fileNameOf.toList ∧ ¬ r.Strays w) ∨
      Url.nameFrom? r.urlText Url.fileNameEnding = none ∧
        r.rootTypeName = .string r.fileNameOf ∧ r.fileNameOf ≠ "" := by
  rw [fileNameOf_of_not_given hgiven]
  cases hurl : Url.nameFrom? r.urlText Url.fileNameEnding with
  | some name =>
    refine .inl ⟨?_, ?_⟩
    · rw [Url.suggestFileName_of_some hurl]
      exact Url.slash_notMem_nameFrom? (by decide) (by decide) hurl
    · rintro ⟨hnone, -⟩
      cases hurl.symm.trans hnone
  | none =>
    obtain ⟨hint, hhint⟩ := hhint
    by_cases hroot : r.rootTypeName.isGiven = true
    · -- a hint that is a text is the root name itself
      right
      have hname : r.rootTypeName = .string hint := by
        rw [rootHint, if_pos hroot] at hhint
        cases hvalue : r.rootTypeName <;> rw [hvalue] at hhint <;> cases hhint
        rfl
      have hne : hint ≠ "" := by
        rintro rfl
        rw [hname] at hroot
        cases hroot
      have hsuggested : Url.suggestFileName r.urlText (some (hintText r.rootHint)) = hint := by
        rw [hhint, hintText, Url.suggestFileName_of_none hurl, if_neg (by simpa using hne)]
      rw [hsuggested]
      exact ⟨rfl, hname, hne⟩
    · left
      have hdefault : r.rootHint = .text defaultRootName := by
        have hnone : Url.nameFrom? r.urlText Url.rootNameEnding = none := by
          rw [Url.nameFrom?_eq_none_iff (by decide)] at hurl ⊢
          exact hurl
        rw [rootHint, if_neg hroot, Url.suggestRootName, hnone]
        rfl
      refine ⟨?_, ?_⟩
      · rw [hdefault, hintText, Url.suggestFileName_of_none hurl]
        decide
      · rintro ⟨-, name, hname, hne, -⟩
        rw [hname] at hroot
        exact hroot (by simpa [Value.isGiven] using hne)

/-- **A derived name leads to the target directory** just when it does not stray. -/
theorem leadOfName_fileNameOf_iff (hgiven : r.fileName.isGiven = false)
    (hhint : ∃ name, r.rootHint = .text name) :
    leadOfName (r.targetPlace w) (Saving.withEnding r.fileNameOf.toList) = r.targetPlace w ↔
      ¬ r.Strays w := by
  rcases derived_name_cases (w := w) hgiven hhint with ⟨hslash, hstrays⟩ | ⟨hurl, hroot, hne⟩
  · exact ⟨fun _ => hstrays,
      fun _ => FileTree.leadOfName_of_notMem (Saving.slash_notMem_withEnding hslash)⟩
  · constructor
    · rintro hleads ⟨-, name, hname, -, hother⟩
      rw [hroot, Value.string.injEq] at hname
      exact hother (hname ▸ hleads)
    · intro hstrays
      by_contra hother
      exact hstrays ⟨hurl, r.fileNameOf, hroot, hne, hother⟩

/-! ### Processing -/

theorem deliver_tree (w : World) (t : FileTree) (r : Request) (types : String) (data : Value) :
    (r.deliver w t types data).tree =
      (Saving.write w.surroundings t (Saving.bytesOf (w.encoder.left types))
        (w.encoder.met (r.directoryText w)) (w.encoder.met (r.pathText w))).2 := by
  rw [← (Saving.saveAt_eq _ _ _ _ _).2]
  unfold deliver
  dsimp only
  split <;> rfl

/-- What is saved changes a regular file at the path itself. -/
theorem changes_deliver {types : String} {data : Value}
    (h : ChangesFile t (r.deliver w t types data).tree path) :
    ∃ content, ChangesFile t
      (Saving.write w.surroundings t content (r.directoryText w) (r.pathText w)).2 path := by
  rw [deliver_tree] at h
  rcases Saving.write_cases w.surroundings t (Saving.bytesOf (w.encoder.left types))
    (w.encoder.met (r.directoryText w)) (w.encoder.met (r.pathText w)) with ⟨hok, -⟩ | ⟨-, -, hsame⟩
  · obtain ⟨hdirectory, hpath⟩ := Saving.notMem_of_write hok
    rw [w.encoder.met_eq_of_notMem hdirectory, w.encoder.met_eq_of_notMem hpath] at h
    exact ⟨_, h⟩
  · exact absurd h (FileTree.not_changesFile_of_sameFiles hsame)

/-- **Only what was retrieved and is saved** changes a regular file. -/
theorem changes_run (h : ChangesFile t (r.run w t).tree path) :
    (∃ name, r.rootHint = .text name) ∧ ∃ content, ChangesFile t
      (Saving.write w.surroundings t content (r.directoryText w) (r.pathText w)).2 path := by
  have hkept : ¬ ChangesFile t t path := FileTree.not_changesFile_of_sameFiles (.refl t)
  unfold run at h
  split at h
  · exact absurd h hkept
  · exact absurd h hkept
  · next types data calls log hretrieve =>
    have hfound : (r.retrieve w).1 = .ok (.ok (types, data)) := by rw [hretrieve]
    split_ifs at h
    · exact ⟨exists_name_of_retrieve hfound, changes_deliver h⟩
    · exact absurd h hkept

/-! ### A request that is saved -/

/-- A request that is saved in a directory below the root. -/
def saving (url root : String) : Value :=
  .object [(.name "url", .string url), (.name "rootTypeName", .string root),
    (.name "saveToFile", .bool true), (.name "savePath", .string "/out")]

/-- A tree with that directory and nothing else. -/
def emptyOut : FileTree := ⟨[(["out".toList], .directory)]⟩

/-- A world in which every call is answered by the empty array. -/
def emptyArray : World := answering (bodyInTwo "application/json" [0x5B] [0x5D])

/-- **Where processing writes.** A value that passes the checks is a request; and when it gives no file
name, each regular file that processing creates or changes lies in the target directory itself, unless
the URL suggests no name and the root name that is asked for leads elsewhere by its slashes: then no
such file does. -/
theorem derived_file_in_target_iff (w : World) (t : FileTree) (v : Value) (hv : fault? v = none) :
    ∃ r, ofValue v = .ok r ∧ (r.fileName.isGiven = false → ∀ path,
      ChangesFile t (process w t v).tree path → (r.IsInTarget w path ↔ ¬ r.Strays w)) ∧
      (r.Strays w → ∃ name, r.rootTypeName = .string name ∧ '/' ∈ name.toList) := by
  obtain ⟨r, hr, -, -, -, hprocess⟩ := process_of_accepted (w := w) (t := t) hv
  refine ⟨r, hr, fun hgiven path h => ?_, Strays.exists_slash⟩
  rw [hprocess] at h
  obtain ⟨hhint, types, h⟩ := changes_run h
  obtain ⟨leaf, rfl⟩ := Saving.changes_write h
  rw [← leadOfName_fileNameOf_iff hgiven hhint]
  constructor
  · rintro ⟨other, hother⟩
    exact (List.append_inj' hother rfl).1
  · intro hleads
    exact ⟨leaf, congrArg (· ++ [leaf]) hleads⟩

/-- The last segment of a URL names the file, and the root name is not looked at. -/
theorem suggested_file_in_target :
    fault? (saving "https://example.com/users" "../x") = none ∧
      ∃ r, ofValue (saving "https://example.com/users" "../x") = .ok r ∧
        ChangesFile emptyOut (process emptyArray emptyOut (saving "https://example.com/users" "../x")).tree
          ["out".toList, "UsersTypes.ts".toList] ∧
        r.IsInTarget emptyArray ["out".toList, "UsersTypes.ts".toList] := by
  have hv : fault? (saving "https://example.com/users" "../x") = none := by decide +kernel
  obtain ⟨r, hr, hin, -⟩ := derived_file_in_target_iff emptyArray emptyOut _ hv
  have hgiven : r.fileName.isGiven = false := by
    cases hr
    rfl
  have hchanges : ChangesFile emptyOut
      (process emptyArray emptyOut (saving "https://example.com/users" "../x")).tree
        ["out".toList, "UsersTypes.ts".toList] :=
    FileTree.changesFile_of_vacant (by decide) (by decide +kernel)
  refine ⟨hv, r, hr, hchanges, (hin hgiven _ hchanges).mpr ?_⟩
  rintro ⟨hnone, -⟩
  have hsuggested : Url.nameFrom? r.urlText Url.fileNameEnding ≠ none := by
    cases hr
    decide +kernel
  exact hsuggested hnone

/-- A root name with two dots and a slash writes beside the target directory. -/
theorem file_beside_target :
    fault? (saving "https://example.com" "../x") = none ∧
      ∃ r, ofValue (saving "https://example.com" "../x") = .ok r ∧ r.fileName.isGiven = false ∧
        ChangesFile emptyOut (process emptyArray emptyOut (saving "https://example.com" "../x")).tree
          ["x.ts".toList] ∧
        r.targetPlace emptyArray = ["out".toList] ∧ ¬ r.IsInTarget emptyArray ["x.ts".toList] := by
  have hv : fault? (saving "https://example.com" "../x") = none := by decide +kernel
  obtain ⟨r, hr, -⟩ := process_of_accepted (w := emptyArray) (t := emptyOut) hv
  have hgiven : r.fileName.isGiven = false := by
    cases hr
    rfl
  have hplace : r.targetPlace emptyArray = ["out".toList] := by
    cases hr
    decide +kernel
  refine ⟨hv, r, hr, hgiven, ?_, hplace, ?_⟩
  · exact FileTree.changesFile_of_vacant (by decide) (by decide +kernel)
  · rintro ⟨leaf, hleaf⟩
    rw [hplace] at hleaf
    simp at hleaf

end Request

end JsonShapes

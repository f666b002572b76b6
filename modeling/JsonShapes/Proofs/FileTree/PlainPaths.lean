import JsonShapes.Proofs.FileTree.Leading

/-! # Paths of plain names

The text of a path is followed to that path, when its names are plain and the directories on the way are
there (`locate_pathText`). Then the directory before its last name is there too, so it need not be made
(`hasNode_parent`). -/

namespace JsonShapes.FileTree

open Text

variable {t t' : FileTree} {workingDirectory here directory path : Path} {name : List Char}

/-- **A plain name**: one that names itself and is not too long. -/
structure PlainName (name : List Char) : Prop where
  ne_nil : name ≠ []
  slash : '/' ∉ name
  nul : '\x00' ∉ name
  dot : name ≠ ['.']
  dots : name ≠ ['.', '.']
  short : ¬ isLongName name = true

/-- **A directory is there**, and so are those on the way to it; their names are plain. -/
structure IsThere (t : FileTree) (directory : Path) : Prop where
  name : ∀ name ∈ directory, PlainName name
  front : ∀ front, front <+: directory → t.isDirectory front = true

/-- A path text of no more bytes than a system takes. -/
def IsShort (path : Path) : Prop := ¬ (Utf8.encode (pathText path)).length > maxPathBytes

/-- **A name has a place in a directory**: the directory is there, the name is plain, and the text of
the path is short enough. -/
structure HasPlace (t : FileTree) (directory : Path) (name : List Char) : Prop where
  there : IsThere t directory
  plain : PlainName name
  short : IsShort (directory ++ [name])

theorem IsThere.isDirectory (h : IsThere t directory) : t.isDirectory directory = true :=
  h.front directory List.prefix_rfl

theorem IsThere.of_prefix {front : Path} (h : IsThere t directory) (hfront : front <+: directory) :
    IsThere t front :=
  ⟨fun n hn => h.name n (hfront.subset hn), fun f hf => h.front f (hf.trans hfront)⟩

theorem isThere_root (t : FileTree) : IsThere t [] where
  name := nofun
  front front hfront := by
    rw [List.prefix_nil.mp hfront]
    rfl

theorem IsThere.concat (h : IsThere t directory) (hname : PlainName name)
    (hdirectory : t.isDirectory (directory ++ [name]) = true) : IsThere t (directory ++ [name]) := by
  refine ⟨List.forall_mem_append.mpr ⟨h.name, List.forall_mem_singleton.mpr hname⟩, fun front hfront => ?_⟩
  rcases List.prefix_concat_iff.mp hfront with rfl | hfront
  · exact hdirectory
  · exact h.front front hfront

theorem Grows.isThere (hg : Grows t t') (h : IsThere t directory) : IsThere t' directory :=
  ⟨h.name, fun front hfront => hg.directory front (h.front front hfront)⟩

theorem Grows.hasPlace (hg : Grows t t') (h : HasPlace t directory name) : HasPlace t' directory name :=
  ⟨hg.isThere h.there, h.plain, h.short⟩

theorem HasPlace.plainNames (h : HasPlace t directory name) : ∀ n ∈ directory ++ [name], PlainName n := by
  rw [List.forall_mem_append, List.forall_mem_singleton]
  exact ⟨h.there.name, h.plain⟩

/-! ### Texts -/

theorem pathText_concat (directory : Path) (name : List Char) :
    pathText (directory ++ [name]) = pathText directory ++ '/' :: name := by
  simp [pathText]

theorem components_of_plain (h : PlainName name) : components name = [name] := by
  rw [components, pieces_of_notMem h.slash, List.filter_cons_of_pos (by simpa using h.ne_nil)]
  rfl

theorem components_pathText (h : ∀ name ∈ path, PlainName name) : components (pathText path) = path := by
  induction path using List.reverseRecOn with
  | nil => rfl
  | append_singleton front name ih =>
    rw [List.forall_mem_append, List.forall_mem_singleton] at h
    rw [pathText_concat, components_append_slash, ih h.1, components_of_plain h.2]

theorem origin_pathText (directory : Path) (name : List Char) :
    origin workingDirectory (pathText (directory ++ [name])) = [] := by
  have hhead : (pathText (directory ++ [name])).head? = some '/' := by
    cases directory <;> rfl
  rw [origin, hhead]
  rfl

theorem nul_notMem_pathText (h : ∀ name ∈ path, PlainName name) : '\x00' ∉ pathText path := by
  rw [pathText, List.mem_flatMap]
  rintro ⟨name, hname, hmem⟩
  exact (List.mem_cons.mp hmem).elim (by decide) (h name hname).nul

theorem getLast?_pathText (h : PlainName name) (directory : Path) :
    (pathText (directory ++ [name])).getLast? ≠ some '/' := by
  rw [pathText_concat, List.getLast?_append_of_ne_nil _ (List.cons_ne_nil _ _),
    List.getLast?_cons_of_ne_nil h.ne_nil]
  intro hlast
  exact h.slash (List.mem_of_getLast? hlast)

/-! ### Following -/

theorem enter_of_isThere (h : IsThere t (here ++ [name])) : t.enter here name = .ok (here ++ [name]) := by
  have hname : PlainName name := h.name name (by simp)
  have hhere : t.isDirectory here = true := h.front here (List.prefix_append _ _)
  have hnode : (t.node? (here ++ [name])).isSome = true := by
    rw [(isDirectory_iff _ _).mp h.isDirectory]
    rfl
  rw [enter, hhere, if_neg (by decide), if_neg (by simpa using hname.dot), if_neg (by simpa using hname.dots),
    if_neg hname.short, if_pos hnode]

theorem walk_of_isThere {names : List (List Char)} (h : IsThere t (here ++ names)) :
    t.walk here names = .ok (here ++ names) := by
  induction names generalizing here with
  | nil =>
    rw [List.append_nil]
    rfl
  | cons name rest ih =>
    rw [List.append_cons] at h ⊢
    have hnext : IsThere t (here ++ [name]) := h.of_prefix (List.prefix_append _ _)
    exact bind_eq_ok_iff.mpr ⟨_, enter_of_isThere hnext, ih h⟩

theorem placeIn_pathText (h : ∀ n ∈ directory ++ [name], PlainName n) (here : Path) :
    placeIn here (pathText (directory ++ [name])) = .named here name := by
  have hname : PlainName name := h name (by simp)
  rw [placeIn, components_pathText h, List.getLast?_concat]
  dsimp only
  rw [if_neg]
  rw [Bool.or_eq_true, beq_iff_eq, beq_iff_eq]
  exact not_or.mpr ⟨hname.dot, hname.dots⟩

theorem locate_pathText (h : HasPlace t directory name) :
    t.locate workingDirectory (pathText (directory ++ [name])) = .ok (.named directory name) := by
  refine locate_eq_ok_iff.mpr ⟨?_, h.short, directory, ?_, h.there.isDirectory,
    placeIn_pathText h.plainNames directory⟩
  · rw [pathText_concat]
    simp
  · rw [origin_pathText, components_pathText h.plainNames, List.dropLast_concat]
    exact walk_of_isThere h.there

/-! ### The directory of a path -/

theorem parent_pathText (hname : PlainName name) (h : ∀ name ∈ directory, PlainName name) :
    PathText.parent (pathText (directory ++ [name])) =
      if directory = [] then ['/'] else pathText directory := by
  rcases List.eq_nil_or_concat directory with rfl | ⟨front, last, rfl⟩
  · rw [pathText_concat, PathText.parent, uptoLast_append hname.slash]
    rfl
  · rw [List.concat_eq_append] at h ⊢
    have hlast : PlainName last := h last (by simp)
    have hall : ¬ ((pathText (front ++ [last]) ++ ['/']).all fun c => c == '/') = true := by
      intro hall
      obtain ⟨c, rest, hc⟩ := List.exists_cons_of_ne_nil hlast.ne_nil
      have hmem : c ∈ pathText (front ++ [last]) ++ ['/'] := by simp [pathText_concat, hc]
      have hslash : c = '/' := by simpa using List.all_eq_true.mp hall c hmem
      exact hlast.slash (by simp [hc, hslash])
    have hend : ∀ c ∈ (pathText (front ++ [last])).getLast?, (c == '/') = false := by
      rintro c hc
      rw [beq_eq_false_iff_ne]
      rintro rfl
      exact getLast?_pathText hlast front hc
    rw [pathText_concat _ name, PathText.parent, uptoLast_append hname.slash]
    simp only [hall]
    rw [if_neg Bool.false_ne_true, dropEnd_concat, if_pos (by decide), dropEnd_of_getLast? hend,
      if_neg (by simp)]

theorem find_directory (h : IsThere t directory) (hshort : IsShort directory) (hne : directory ≠ []) :
    t.find workingDirectory (pathText directory) = .ok .directory := by
  rcases List.eq_nil_or_concat directory with rfl | ⟨front, last, rfl⟩
  · exact absurd rfl hne
  · rw [List.concat_eq_append] at h hshort ⊢
    have hfront : IsThere t front := h.of_prefix (List.prefix_append _ _)
    have hlast : PlainName last := h.name last (by simp)
    refine bind_eq_ok_iff.mpr ⟨_, locate_pathText ⟨hfront, hlast, hshort⟩, ?_⟩
    simp only [throw_bind_eq, ite_error_eq_ok_iff, (isDirectory_iff _ _).mp h.isDirectory]
    exact ⟨hlast.short, rfl⟩

theorem find_root (h : t.isDirectory [] = true) : t.find workingDirectory ['/'] = .ok .directory := by
  refine bind_eq_ok_iff.mpr ⟨.directory, locate_eq_ok_iff.mpr ⟨by decide, by decide, [], ?_⟩, rfl⟩
  exact ⟨rfl, h, rfl⟩

theorem IsShort.front (h : IsShort (directory ++ [name])) : IsShort directory := by
  rw [IsShort, pathText_concat, Utf8.encode, List.flatMap_append, List.length_append] at h
  rw [IsShort, Utf8.encode]
  omega

theorem hasNode_parent (h : HasPlace t directory name) :
    t.hasNode workingDirectory (PathText.parent (pathText (directory ++ [name]))) = true := by
  rw [parent_pathText h.plain h.there.name]
  by_cases hroot : directory = []
  · rw [if_pos hroot, hasNode, find_root (h.there.front [] List.nil_prefix)]
    rfl
  · have hnul : containsNul (pathText directory) = false := by
      rw [Bool.eq_false_iff, ne_eq, containsNul_iff]
      exact nul_notMem_pathText h.there.name
    rw [if_neg hroot, hasNode, find_directory h.there h.short.front hroot, hnul]
    rfl

/-! ### Reading and writing -/

theorem not_demandsDirectory_pathText (h : PlainName name) (directory : Path) :
    ¬ demandsDirectory (pathText (directory ++ [name])) = true := by
  rw [demandsDirectory, beq_iff_eq]
  exact getLast?_pathText h directory

theorem readFile_pathText (h : HasPlace t directory name) {content : List UInt8}
    (hnode : t.node? (directory ++ [name]) = some (.file content)) :
    t.readFile workingDirectory (pathText (directory ++ [name])) = .ok content := by
  rw [readFile, find_of_file (locate_pathText h) h.plain.short
    (not_demandsDirectory_pathText h.plain directory) hnode]
  exact checked_eq_ok_iff.mpr ⟨nul_notMem_pathText h.plainNames, rfl⟩

/-- **A file is written under the text of its path**, unless a directory is there. -/
theorem writeFile_pathText (h : HasPlace t directory name)
    (hfree : ¬ t.isDirectory (directory ++ [name]) = true) (content : List UInt8) :
    (t.writeFile workingDirectory (pathText (directory ++ [name])) content).1 = .ok () := by
  have hpath : t.writablePath workingDirectory (pathText (directory ++ [name])) =
      .ok (directory ++ [name]) := writablePath_eq_ok_iff.mpr
    ⟨directory, name, locate_pathText h, not_demandsDirectory_pathText h.plain directory, h.plain.short,
      hfree, rfl⟩
  rw [writeFile, checked_eq_ok_iff.mpr ⟨nul_notMem_pathText h.plainNames, hpath⟩]

end JsonShapes.FileTree

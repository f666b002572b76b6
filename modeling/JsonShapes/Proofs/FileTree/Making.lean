import JsonShapes.Proofs.FileTree.NormalPaths
import JsonShapes.Proofs.FileTree.PlainPaths

/-! # Directories that can be made

A directory can be made with the parents it lacks when its names are plain and no regular file is on the way
(`CanBeMade`). Then it is there afterwards, with all directories above it (`makeDirectories_pathText`). -/

namespace JsonShapes.FileTree

open Text

variable {t after : FileTree} {workingDirectory here directory place : Path} {text name : List Char}

/-- **A directory can be made**: its names are plain, the text of its path is short enough, and neither at
its place nor above it is a regular file. -/
structure CanBeMade (t : FileTree) (place : Path) : Prop where
  name : ∀ name ∈ place, PlainName name
  short : IsShort place
  free : ∀ front, front <+: place → ∀ content, t.node? front ≠ some (.file content)

theorem CanBeMade.parent (h : CanBeMade t (directory ++ [name])) : CanBeMade t directory :=
  ⟨fun n hn => h.name n (List.mem_append_left _ hn), h.short.front,
    fun front hfront => h.free front (hfront.trans (List.prefix_append _ _))⟩

theorem CanBeMade.hasPlace (h : CanBeMade t (directory ++ [name])) (hthere : IsThere after directory) :
    HasPlace after directory name :=
  ⟨hthere, h.name name (by simp), h.short⟩

/-! ### What is there -/

theorem PlainName.leadsDown (h : PlainName name) : LeadsDown name := ⟨h.ne_nil, h.slash, h.dot, h.dots⟩

theorem isDirectory_of_walk {c : List Char} {rest : List (List Char)} {found : Path}
    (h : t.walk here (c :: rest) = .ok found) : t.isDirectory here = true := by
  obtain ⟨next, hnext, -⟩ := bind_eq_ok_iff.mp h
  unfold enter at hnext
  split_ifs at hnext with hhere
  all_goals simpa using hhere

/-- **Where plain names lead down to a directory**, it is there. -/
theorem isThere_of_walk {names : List (List Char)} (hhere : IsThere t here)
    (hnames : ∀ name ∈ names, PlainName name) (h : t.walk here names = .ok (here ++ names))
    (hdirectory : t.isDirectory (here ++ names) = true) : IsThere t (here ++ names) := by
  induction names generalizing here with
  | nil =>
    rw [List.append_nil]
    exact hhere
  | cons name rest ih =>
    rw [List.forall_mem_cons] at hnames
    obtain ⟨next, hnext, hrest⟩ := bind_eq_ok_iff.mp h
    obtain rfl : next = here ++ [name] := by
      rw [step_of_enter hnext, step_of_leadsDown hnames.1.leadsDown]
    have hnames' : here ++ name :: rest = here ++ [name] ++ rest := List.append_cons _ _ _
    rw [hnames'] at hdirectory hrest ⊢
    refine ih (hhere.concat hnames.1 ?_) hnames.2 hrest hdirectory
    cases rest with
    | nil => rwa [List.append_nil] at hdirectory
    | cons c rest => exact isDirectory_of_walk hrest

theorem isThere_of_find {found : Node} (hnames : ∀ n ∈ directory ++ [name], PlainName n)
    (h : t.find workingDirectory (pathText (directory ++ [name])) = .ok found) :
    IsThere t directory ∧ t.node? (directory ++ [name]) = some found := by
  have hdirectory : ∀ n ∈ directory, PlainName n := fun n hn => hnames n (List.mem_append_left _ hn)
  obtain ⟨named, hnamed, hnode⟩ := bind_eq_ok_iff.mp h
  obtain ⟨-, -, above, hwalk, habove, hin⟩ := locate_eq_ok_iff.mp hnamed
  rw [origin_pathText, components_pathText hnames, List.dropLast_concat] at hwalk
  obtain rfl : above = directory := by
    rw [lead_of_walk hwalk, lead_of_leadsDown fun n hn => (hdirectory n hn).leadsDown, List.nil_append]
  have hthere : IsThere t ([] ++ above) := isThere_of_walk (isThere_root t) hdirectory hwalk habove
  rw [← hin, placeIn_pathText hnames] at hnode
  simp only [throw_bind_eq, ite_error_eq_ok_iff] at hnode
  refine ⟨hthere, ?_⟩
  obtain ⟨-, hnode⟩ := hnode
  split at hnode
  · cases hnode
  · rename_i hdown
    rw [hdown, Except.ok.inj hnode]
  · rename_i content hdown
    split at hnode
    · cases hnode
    · rw [hdown, Except.ok.inj hnode]

/-- **A directory that can be made** is there when anything is found at its place. -/
theorem CanBeMade.isThere (h : CanBeMade t (directory ++ [name]))
    (hnode : t.hasNode workingDirectory (pathText (directory ++ [name])) = true) :
    IsThere t (directory ++ [name]) := by
  rw [hasNode, Bool.and_eq_true] at hnode
  cases hfind : t.find workingDirectory (pathText (directory ++ [name])) with
  | error errno =>
    rw [hfind] at hnode
    cases hnode.2
  | ok found =>
    obtain ⟨hthere, hdown⟩ := isThere_of_find h.name hfind
    cases found with
    | file content => exact absurd hdown (h.free _ List.prefix_rfl content)
    | directory => exact hthere.concat (h.name name (by simp)) ((isDirectory_iff _ _).mpr hdown)

/-! ### Making -/

theorem pathText_ne_nil (h : place ≠ []) : pathText place ≠ [] := by
  cases place with
  | nil => exact absurd rfl h
  | cons name rest => exact List.cons_ne_nil _ _

theorem leaf_pathText (h : PlainName name) (directory : Path) :
    PathText.leaf (pathText (directory ++ [name])) = name := by
  rw [pathText_concat, PathText.leaf, afterLast_append h.slash]

theorem trimSlash_pathText (h : PlainName name) (directory : Path) :
    trimSlash (pathText (directory ++ [name])) = pathText (directory ++ [name]) := by
  rw [trimSlash, leaf_pathText h, if_neg (by simpa using h.ne_nil)]

/-- **The last directory is made** where there is a place for it and no regular file. -/
theorem makeLast_pathText (h : HasPlace t directory name)
    (hfree : ∀ content, t.node? (directory ++ [name]) ≠ some (.file content)) :
    ∃ made, makeLast true t workingDirectory (pathText (directory ++ [name])) = (.ok (), made) ∧
      IsThere made (directory ++ [name]) := by
  have hnul : '\x00' ∉ pathText (directory ++ [name]) := nul_notMem_pathText h.plainNames
  have hne : directory ++ [name] ≠ [] := by simp
  cases hnode : t.node? (directory ++ [name]) with
  | none =>
    have hvacant : t.vacantPath workingDirectory (pathText (directory ++ [name])) =
        .ok (directory ++ [name]) :=
      vacantPath_eq_ok_iff.mpr ⟨directory, name, locate_pathText h, h.plain.short, hnode, rfl⟩
    have hgrows : Grows t (t.put (directory ++ [name]) .directory) :=
      grows_put hne (by rw [isDirectory, hnode]; rfl) _
    refine ⟨t.put (directory ++ [name]) .directory, ?_, (hgrows.isThere h.there).concat h.plain ?_⟩
    · rw [makeLast, makeDirectory, checked_eq_ok_iff.mpr ⟨hnul, hvacant⟩]
    · rw [isDirectory_iff, node?_put hne, if_pos rfl]
  | some found =>
    cases found with
    | file content => exact absurd hnode (hfree content)
    | directory =>
      have hthere := h.there.concat h.plain ((isDirectory_iff _ _).mpr hnode)
      have hdirectory : t.hasDirectory workingDirectory (pathText (directory ++ [name])) = true := by
        rw [hasDirectory, find_directory hthere h.short hne, Bool.eq_false_iff.mpr
          ((containsNul_iff _).not.mpr hnul)]
        rfl
      have hexists : t.vacantPath workingDirectory (pathText (directory ++ [name])) = .error .exists := by
        rw [vacantPath, locate_pathText h]
        show (if isLongName name then throw Errno.nameTooLong else _) = _
        rw [if_neg h.plain.short, hnode]
        rfl
      refine ⟨t, ?_, hthere⟩
      rw [makeLast, makeDirectory, hexists, checked, if_neg ((containsNul_iff _).not.mpr hnul)]
      dsimp only [Except.mapError]
      rw [hdirectory, Bool.and_true, if_pos rfl]

theorem makeDirectories_of_missing {existing : Bool}
    (hleaf : (PathText.leaf (trimSlash text)).isEmpty = false)
    (hparent : (PathText.parent (trimSlash text)).isEmpty = false)
    (hmissing : t.hasNode workingDirectory (PathText.parent (trimSlash text)) = false)
    (hmade : t.makeDirectories existing workingDirectory (PathText.parent (trimSlash text)) =
      (.ok (), after)) :
    t.makeDirectories existing workingDirectory text =
      makeDirectories.finish existing workingDirectory text after (trimSlash text) := by
  rw [makeDirectories, dif_pos hleaf, hparent, hmissing, if_pos (by decide), hmade]

/-- **A directory that can be made is made**, and is there afterwards with all directories above it. -/
theorem makeDirectories_pathText (h : CanBeMade t place) (hne : place ≠ []) :
    ∃ made, t.makeDirectories true workingDirectory (pathText place) = (.ok (), made) ∧
      IsThere made place := by
  induction place using List.reverseRecOn with
  | nil => exact absurd rfl hne
  | append_singleton directory name ih =>
    have hname : PlainName name := h.name name (by simp)
    have hfree := h.free _ List.prefix_rfl
    by_cases hparent : t.hasNode workingDirectory (PathText.parent (pathText (directory ++ [name]))) = true
    · have hthere : IsThere t directory := by
        rw [parent_pathText hname h.parent.name] at hparent
        rcases List.eq_nil_or_concat directory with rfl | ⟨front, last, rfl⟩
        · exact isThere_root t
        · rw [List.concat_eq_append] at h hparent ⊢
          rw [if_neg (by simp)] at hparent
          exact h.parent.isThere hparent
      rw [makeDirectories_of_hasNode (by rwa [trimSlash_pathText hname])]
      exact makeLast_pathText (h.hasPlace hthere) hfree
    · have hdirectory : directory ≠ [] := by
        rintro rfl
        exact hparent (hasNode_parent (h.hasPlace (isThere_root t)))
      obtain ⟨above, habove, hthere⟩ := ih h.parent hdirectory
      have hsame := sameFiles_makeDirectories true t workingDirectory (pathText directory)
      rw [habove] at hsame
      have hdown : PathText.parent (trimSlash (pathText (directory ++ [name]))) = pathText directory := by
        rw [trimSlash_pathText hname, parent_pathText hname h.parent.name, if_neg hdirectory]
      obtain ⟨made, hmade, hlast⟩ := @makeLast_pathText above workingDirectory directory name
        (h.hasPlace hthere) fun content hcontent => hfree content ((hsame _ content).mpr hcontent)
      refine ⟨made, ?_, hlast⟩
      rw [makeDirectories_of_missing _ _ _ (hdown ▸ habove), makeDirectories.finish, trimSlash_pathText hname,
        leaf_pathText hname, if_neg (by simpa using hname.dot), hmade]
      · rw [trimSlash_pathText hname, leaf_pathText hname, List.isEmpty_eq_false_iff]
        exact hname.ne_nil
      · rw [hdown, List.isEmpty_eq_false_iff]
        exact pathText_ne_nil hdirectory
      · rw [trimSlash_pathText hname]
        exact Bool.eq_false_iff.mpr hparent

end JsonShapes.FileTree

import JsonShapes.Proofs.FileTree.Changes
import JsonShapes.Proofs.Text.Cutting

/-! # Where path texts lead

Where a path text leads is seen from the text alone (`leadOf`), for nothing in a tree leads elsewhere: if
the tree has what the components name, they lead there (`lead_of_walk`). A joined path leads from where
its base leads (`components_join`), and a regular file changes at the place of the path it was written
to, and nowhere else (`changes_writeFile`). -/

namespace JsonShapes.FileTree

open Text

variable {t t' : FileTree} {workingDirectory here path : Path} {text name : List Char}

/-- Where a component leads. -/
def step (here : Path) (component : List Char) : Path :=
  if component == ['.'] then here
  else if component == ['.', '.'] then here.dropLast
  else here ++ [component]

/-- **Where components lead**, one after the other. -/
def lead (here : Path) (components : List (List Char)) : Path := components.foldl step here

/-- **Where a path text leads.** -/
def leadOf (workingDirectory : Path) (text : List Char) : Path :=
  lead (origin workingDirectory text) (components text)

/-- **Where the directory of a name leads** that is put behind a directory: all but the last component of
the name are followed, from the root when the name is absolute. -/
def leadOfName (directory : Path) (name : List Char) : Path :=
  lead (origin directory name) (components name).dropLast

theorem lead_append (here : Path) (cs ds : List (List Char)) :
    lead here (cs ++ ds) = lead (lead here cs) ds := List.foldl_append

/-! ### Components -/

theorem components_nil : components [] = [] := rfl

theorem components_append_slash (a b : List Char) :
    components (a ++ '/' :: b) = components a ++ components b := by
  unfold components
  rw [pieces_append, List.filter_append]

theorem components_append (a b : List Char) (h : a.getLast? = some '/') :
    components (a ++ b) = components a ++ components b := by
  obtain ⟨front, rfl⟩ : ∃ front, a = front ++ ['/'] := by
    obtain ⟨front, last, rfl⟩ := (List.eq_nil_or_concat a).resolve_left (by rintro rfl; cases h)
    rw [List.concat_eq_append, List.getLast?_concat, Option.some.injEq] at h
    exact ⟨front, by rw [h, List.concat_eq_append]⟩
  rw [List.append_assoc, List.singleton_append, components_append_slash, components_append_slash,
    components_nil, List.append_nil]

/-- **A joined path is followed through its base**, unless the name is absolute. -/
theorem components_join {base : List Char} (h : name.head? ≠ some '/') :
    components (PathText.join base name) = components base ++ components name := by
  unfold PathText.join
  rw [if_neg (by simpa using h)]
  split_ifs with hends
  · rw [Bool.or_eq_true, List.isEmpty_iff, beq_iff_eq] at hends
    rcases hends with rfl | hends
    · rfl
    · exact components_append _ _ hends
  · exact components_append_slash _ _

theorem origin_join {base : List Char} (h : name.head? ≠ some '/') :
    origin workingDirectory (PathText.join base name) = origin workingDirectory base := by
  have hname : origin workingDirectory name = workingDirectory := by
    rw [origin, if_neg (by simpa using h)]
  unfold PathText.join
  rw [if_neg (by simpa using h)]
  cases base with
  | nil => exact hname
  | cons c rest => split_ifs <;> rfl

/-- **The directory of a joined path** is where the directory of the name leads, seen from the base. -/
theorem lead_join {base : List Char} (h : components name ≠ []) :
    lead (origin workingDirectory (PathText.join base name))
        (components (PathText.join base name)).dropLast =
      leadOfName (leadOf workingDirectory base) name := by
  by_cases habsolute : name.head? = some '/'
  · have hjoin : PathText.join base name = name := by
      rw [PathText.join, if_pos (by simpa using habsolute)]
    rw [hjoin, leadOfName, origin, origin, if_pos (by simpa using habsolute),
      if_pos (by simpa using habsolute)]
  · have horigin : origin (leadOf workingDirectory base) name = leadOf workingDirectory base := by
      rw [origin, if_neg (by simpa using habsolute)]
    rw [origin_join habsolute, components_join habsolute, List.dropLast_append_of_ne_nil h,
      lead_append, leadOfName, horigin, leadOf]

theorem leadOfName_of_notMem (h : '/' ∉ name) : leadOfName here name = here := by
  have horigin : origin here name = here := by
    rw [origin, if_neg]
    intro hhead
    exact h (List.mem_of_head? (by simpa using hhead))
  have hnone : (components name).dropLast = [] := by
    rw [components, pieces_of_notMem h]
    by_cases hname : name.isEmpty <;> simp [hname]
  rw [leadOfName, horigin, hnone]
  rfl

/-! ### Following -/

theorem step_of_enter {component : List Char} (h : t.enter here component = .ok path) :
    path = step here component := by
  unfold enter at h
  unfold step
  split_ifs at h ⊢ <;> cases h <;> rfl

/-- **Components lead where they are seen to lead**, if they lead anywhere. -/
theorem lead_of_walk {cs : List (List Char)} (h : t.walk here cs = .ok path) : path = lead here cs := by
  induction cs generalizing here with
  | nil => exact (Except.ok.inj h).symm
  | cons c rest ih =>
    obtain ⟨next, hnext, hrest⟩ := bind_eq_ok_iff.mp h
    rw [ih hrest, step_of_enter hnext]
    rfl

theorem exists_of_writablePath (h : t.writablePath workingDirectory text = .ok path) :
    ∃ name, path = lead (origin workingDirectory text) (components text).dropLast ++ [name] := by
  obtain ⟨directory, name, hplace, -, -, -, rfl⟩ := writablePath_eq_ok_iff.mp h
  obtain ⟨-, -, found, hwalk, -, hin⟩ := locate_eq_ok_iff.mp hplace
  have hdirectory : found = directory := by
    unfold placeIn at hin
    split at hin
    · cases hin
    · split_ifs at hin
      cases hin
      rfl
  exact ⟨name, by rw [← lead_of_walk hwalk, hdirectory]⟩

/-! ### Changes -/

/-- **A regular file is created or changed** at a path, or goes away. -/
def ChangesFile (t t' : FileTree) (path : Path) : Prop :=
  ∃ content, ¬ (t.node? path = some (.file content) ↔ t'.node? path = some (.file content))

theorem not_changesFile_of_sameFiles (h : SameFiles t t') : ¬ ChangesFile t t' path := by
  rintro ⟨content, hchange⟩
  exact hchange (h path content)

/-- A regular file where nothing was is one that was created. -/
theorem changesFile_of_vacant (hvacant : t.node? path = none)
    (h : t'.node? path ≠ none ∧ t'.node? path ≠ some .directory) : ChangesFile t t' path := by
  cases hnode : t'.node? path with
  | none => exact absurd hnode h.1
  | some node =>
    cases node with
    | directory => exact absurd hnode h.2
    | file content =>
      refine ⟨content, fun hiff => ?_⟩
      cases hvacant.symm.trans (hiff.mpr hnode)

theorem changes_writeFile {content : List UInt8} (hsame : SameFiles t t')
    (h : ChangesFile t (t'.writeFile workingDirectory text content).2 path) :
    ∃ name, path = lead (origin workingDirectory text) (components text).dropLast ++ [name] := by
  rcases writeFile_cases t' workingDirectory text content with ⟨put, -, hput, hwrite⟩ | ⟨_, -, hwrite⟩
  · obtain ⟨name, rfl⟩ := exists_of_writablePath hput
    rw [hwrite] at h
    obtain ⟨after, hchange⟩ := h
    rw [node?_put (by simp)] at hchange
    split_ifs at hchange with hpath
    · exact ⟨name, hpath⟩
    · exact absurd (hsame path after) hchange
  · rw [hwrite] at h
    exact absurd h (not_changesFile_of_sameFiles hsame)

end JsonShapes.FileTree

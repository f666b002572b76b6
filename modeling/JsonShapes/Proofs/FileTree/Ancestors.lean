import JsonShapes.Proofs.FileTree.Leading

/-! # The directories on the way to a path

A directory is on the way of a path text when the first components of the text lead to it
(`OnTheWay`); the parent of a path has the same way but for its leaf (`components_parent_leaf`). So making a
directory with the parents it lacks adds directories on its way, where nothing was, and changes nothing else
(`AddsOnTheWay`, `makeDirectories_addsOnTheWay`). -/

namespace JsonShapes.FileTree

open Text

variable {t t' t'' : FileTree} {workingDirectory q : Path} {text : List Char}

/-! ### Parents -/

theorem components_of_slashes {cs : List Char} (h : ∀ c ∈ cs, c = '/') : components cs = [] := by
  induction cs with
  | nil => rfl
  | cons c rest ih =>
    rw [List.forall_mem_cons] at h
    rw [h.1, ← List.nil_append ('/' :: rest), components_append_slash, ih h.2]
    rfl

theorem components_append_slashes {back : List Char} (h : ∀ c ∈ back, c = '/') (cs : List Char) :
    components (cs ++ back) = components cs := by
  cases back with
  | nil => rw [List.append_nil]
  | cons c rest =>
    rw [List.forall_mem_cons] at h
    rw [h.1, components_append_slash, components_of_slashes h.2, List.append_nil]

theorem components_parent_leaf (text : List Char) :
    components (PathText.parent text) ++ components (PathText.leaf text) = components text := by
  have hparent : components (PathText.parent text) = components (uptoLast '/' text) := by
    unfold PathText.parent
    dsimp only
    split_ifs
    · rfl
    · obtain ⟨back, hcut, hback, -⟩ := exists_dropEnd (· == '/') (uptoLast '/' text)
      conv_rhs => rw [hcut]
      exact (components_append_slashes (fun c hc => beq_iff_eq.mp (hback c hc)) _).symm
  have hcut := uptoLast_append_afterLast '/' text
  rw [hparent, PathText.leaf]
  conv_rhs => rw [← hcut]
  rcases List.eq_nil_or_concat (uptoLast '/' text) with hnil | ⟨front, last, hconcat⟩
  · rw [hnil]
    rfl
  · have hlast : (uptoLast '/' text).getLast? = some '/' := by
      rw [hconcat, List.concat_eq_append, List.getLast?_concat, Option.some.injEq]
      refine getLast?_uptoLast '/' text last ?_
      rw [hconcat, List.concat_eq_append, List.getLast?_concat]
      rfl
    exact (components_append _ _ hlast).symm

theorem components_trimSlash (text : List Char) : components (trimSlash text) = components text := by
  unfold trimSlash
  split_ifs with hleaf
  · rw [← components_parent_leaf text, List.isEmpty_iff.mp hleaf, components_nil, List.append_nil]
  · rfl

theorem isPrefix_parent (text : List Char) : PathText.parent text <+: text := by
  have hhead : uptoLast '/' text <+: text := ⟨_, uptoLast_append_afterLast '/' text⟩
  unfold PathText.parent
  dsimp only
  split_ifs
  · exact hhead
  · obtain ⟨back, hcut, -⟩ := exists_dropEnd (· == '/') (uptoLast '/' text)
    exact List.IsPrefix.trans ⟨back, hcut.symm⟩ hhead

theorem isPrefix_trimSlash (text : List Char) : trimSlash text <+: text := by
  unfold trimSlash
  split_ifs
  · exact isPrefix_parent text
  · exact List.prefix_rfl

/-- A path starts where its first characters do. -/
theorem origin_of_front {front : List Char} (h : front <+: text) (hne : front ≠ []) :
    origin workingDirectory front = origin workingDirectory text := by
  obtain ⟨rest, rfl⟩ := h
  rw [origin, origin, List.head?_append_of_ne_nil _ hne]

/-! ### On the way -/

/-- **A path is on the way** of a path text: the first components of the text lead to it, all of them
perhaps. -/
def OnTheWay (workingDirectory : Path) (text : List Char) (q : Path) : Prop :=
  ∃ front, front <+: components text ∧ q = lead (origin workingDirectory text) front

theorem OnTheWay.of_parent (h : OnTheWay workingDirectory (PathText.parent (trimSlash text)) q)
    (hne : PathText.parent (trimSlash text) ≠ []) : OnTheWay workingDirectory text q := by
  obtain ⟨front, hfront, rfl⟩ := h
  refine ⟨front, hfront.trans ?_, ?_⟩
  · rw [← components_trimSlash text, ← components_parent_leaf (trimSlash text)]
    exact List.prefix_append _ _
  · rw [origin_of_front ((isPrefix_parent _).trans (isPrefix_trimSlash text)) hne]

/-- **Directories on the way are added** to a tree, where nothing was, and nothing else changes. -/
def AddsOnTheWay (workingDirectory : Path) (text : List Char) (t t' : FileTree) : Prop :=
  ∀ q, t'.node? q = t.node? q ∨
    OnTheWay workingDirectory text q ∧ t.node? q = none ∧ t'.node? q = some .directory

theorem AddsOnTheWay.refl (t : FileTree) : AddsOnTheWay workingDirectory text t t := fun _ => .inl rfl

theorem AddsOnTheWay.of_parent
    (h : AddsOnTheWay workingDirectory (PathText.parent (trimSlash text)) t t')
    (hne : PathText.parent (trimSlash text) ≠ []) : AddsOnTheWay workingDirectory text t t' :=
  fun q => (h q).imp_right fun ⟨hway, hnone, hmade⟩ => ⟨hway.of_parent hne, hnone, hmade⟩

theorem AddsOnTheWay.trans (h : AddsOnTheWay workingDirectory text t t')
    (h' : AddsOnTheWay workingDirectory text t' t'') : AddsOnTheWay workingDirectory text t t'' := by
  intro q
  rcases h q with hq | ⟨hway, hnone, hmade⟩
  · rw [← hq]
    exact h' q
  · rcases h' q with hq' | ⟨-, hnone', -⟩
    · exact .inr ⟨hway, hnone, hq'.trans hmade⟩
    · cases hmade.symm.trans hnone'

theorem AddsOnTheWay.grows (h : AddsOnTheWay workingDirectory text t t') : Grows t t' := by
  refine grows_of_kept fun q hq => (h q).resolve_right ?_
  rintro ⟨-, hnone, -⟩
  rw [hnone] at hq
  cases hq

theorem AddsOnTheWay.onTheWay (h : AddsOnTheWay workingDirectory text t t')
    (hold : t.isDirectory q = false) (hnew : t'.isDirectory q = true) : OnTheWay workingDirectory text q := by
  rcases h q with hq | ⟨hway, -, -⟩
  · rw [isDirectory, hq, ← isDirectory, hold] at hnew
    cases hnew
  · exact hway

/-! ### Making directories -/

theorem leadOf_of_locate {directory : Path} {name : List Char}
    (h : t.locate workingDirectory text = .ok (.named directory name)) :
    leadOf workingDirectory text = directory ++ [name] := by
  obtain ⟨-, -, found, hwalk, -, hin⟩ := locate_eq_ok_iff.mp h
  unfold placeIn at hin
  split at hin
  · cases hin
  · rename_i last hlast
    split_ifs at hin with hdots
    cases hin
    rw [Bool.or_eq_true, not_or] at hdots
    have hcomponents := List.dropLast_append_getLast? name hlast
    rw [leadOf, ← hcomponents, lead_append, ← lead_of_walk hwalk]
    simp [lead, step, hdots.1, hdots.2]

theorem makeDirectory_addsOnTheWay (t : FileTree) (workingDirectory : Path) (text : List Char) :
    AddsOnTheWay workingDirectory text t (t.makeDirectory workingDirectory text).2 := by
  unfold makeDirectory
  split
  · rename_i path hpath
    obtain ⟨directory, name, hplace, -, hnode, rfl⟩ :=
      vacantPath_eq_ok_iff.mp (checked_eq_ok_iff.mp hpath).2
    have hne : directory ++ [name] ≠ [] := by simp
    intro q
    rw [node?_put hne]
    split_ifs with hq
    · rw [hq]
      exact .inr ⟨⟨components text, List.prefix_rfl, (leadOf_of_locate hplace).symm⟩, hnode, rfl⟩
    · exact .inl rfl
  · exact .refl t

/-- **Making a directory and its parents** adds directories on its way, and changes nothing else. -/
theorem makeDirectories_addsOnTheWay (existing : Bool) (t : FileTree) (workingDirectory : Path)
    (text : List Char) :
    AddsOnTheWay workingDirectory text t (makeDirectories existing t workingDirectory text).2 :=
  makeDirectories_induction (fun _ => .refl) .trans (fun text t => makeDirectory_addsOnTheWay t _ text)
    (fun hne h => h.of_parent hne) existing t text

end JsonShapes.FileTree

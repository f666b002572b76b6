import JsonShapes.Proofs.FileTree.Ancestors

/-! # Normal forms of paths

The normal form of a path from the root is the place where its components lead, written out (`normal_eq`).
The stack of components is that place in reverse, and it holds no two dots, so each pair of dots takes one name
off (`foldl_push`). So the absolute form of a path names the place where it leads as seen from the directory
(`absolute_eq`, `leadOf_fromRoot`), and its components are the names of that place
(`components_writtenOut`). -/

namespace JsonShapes.FileTree

open Text

variable {here place q : Path} {cs : List (List Char)} {text name : List Char}

/-! ### Names of places -/

/-- **A name that leads down**: it is not empty, it holds no slash, and it is neither a dot nor two. -/
structure LeadsDown (name : List Char) : Prop where
  ne_nil : name ≠ []
  slash : '/' ∉ name
  dot : name ≠ ['.']
  dots : name ≠ ['.', '.']

theorem step_of_leadsDown (h : LeadsDown name) : step here name = here ++ [name] := by
  rw [step, if_neg (by simpa using h.dot), if_neg (by simpa using h.dots)]

theorem lead_of_leadsDown (h : ∀ name ∈ cs, LeadsDown name) : lead here cs = here ++ cs := by
  induction cs generalizing here with
  | nil => exact (List.append_nil here).symm
  | cons c rest ih =>
    rw [List.forall_mem_cons] at h
    show lead (step here c) rest = _
    rw [step_of_leadsDown h.1, ih h.2, List.append_assoc, List.singleton_append]

theorem of_mem_components (h : name ∈ components text) : name ≠ [] ∧ '/' ∉ name := by
  obtain ⟨hpiece, hne⟩ := List.mem_filter.mp h
  exact ⟨by simpa using hne, mark_notMem_of_mem_pieces hpiece⟩

theorem leadsDown_of_mem_lead (hhere : ∀ name ∈ here, LeadsDown name)
    (hcs : ∀ name ∈ cs, name ≠ [] ∧ '/' ∉ name) : ∀ name ∈ lead here cs, LeadsDown name := by
  induction cs generalizing here with
  | nil => exact hhere
  | cons c rest ih =>
    rw [List.forall_mem_cons] at hcs
    refine ih (fun name hname => ?_) hcs.2
    unfold step at hname
    split_ifs at hname with hdot hdots
    · exact hhere name hname
    · exact hhere name (List.mem_of_mem_dropLast hname)
    · rcases List.mem_append.mp hname with hname | hname
      · exact hhere name hname
      · rw [List.mem_singleton.mp hname]
        exact ⟨hcs.1.1, hcs.1.2, by simpa using hdot, by simpa using hdots⟩

theorem leadsDown_of_mem_leadOf (hhere : ∀ name ∈ here, LeadsDown name) (text : List Char) :
    ∀ name ∈ leadOf here text, LeadsDown name := by
  refine leadsDown_of_mem_lead (fun name hname => ?_) fun name hname => of_mem_components hname
  unfold origin at hname
  split_ifs at hname
  · cases hname
  · exact hhere name hname

theorem components_place (h : ∀ name ∈ place, LeadsDown name) (k : ℕ) :
    components (List.replicate k '/' ++ join ['/'] place) = place := by
  have hjoin : components (join ['/'] place) = place := by
    cases place with
    | nil => rfl
    | cons first rest =>
      rw [components, pieces_join (List.cons_ne_nil _ _) fun name hname => (h name hname).slash,
        List.filter_eq_self]
      intro name hname
      simpa using (h name hname).ne_nil
  induction k with
  | zero => exact hjoin
  | succ k ih =>
    rw [List.replicate_succ, List.cons_append, ← List.nil_append ('/' :: _), components_append_slash, ih,
      components_nil, List.nil_append]

/-! ### Normal forms -/

theorem reverse_push {stack : List (List Char)} (hstack : ['.', '.'] ∉ stack) (hname : name ≠ []) :
    (PathText.push true stack name).reverse = step stack.reverse name ∧
      ['.', '.'] ∉ PathText.push true stack name := by
  unfold PathText.push step
  rw [List.isEmpty_eq_false_iff.mpr hname, Bool.false_or]
  by_cases hdot : name == ['.']
  · rw [if_pos hdot, if_pos hdot]
    exact ⟨rfl, hstack⟩
  rw [if_neg hdot, if_neg hdot]
  by_cases hdots : name == ['.', '.']
  · rw [if_pos hdots, if_pos hdots]
    cases stack with
    | nil => exact ⟨rfl, List.not_mem_nil⟩
    | cons top below =>
      rw [List.mem_cons, not_or] at hstack
      have htop : ¬(top == ['.', '.']) = true := fun heq => hstack.1 (beq_iff_eq.mp heq).symm
      dsimp only
      rw [if_neg htop, List.reverse_cons, List.dropLast_concat]
      exact ⟨rfl, hstack.2⟩
  · rw [if_neg hdots, if_neg hdots, List.reverse_cons, List.mem_cons, not_or]
    exact ⟨rfl, fun heq => hdots (beq_iff_eq.mpr heq.symm), hstack⟩

/-- **The stack is the place in reverse.** -/
theorem foldl_push {stack : List (List Char)} (hstack : ['.', '.'] ∉ stack) (ps : List (List Char)) :
    (ps.foldl (PathText.push true) stack).reverse = lead stack.reverse (ps.filter fun p => !p.isEmpty) := by
  induction ps generalizing stack with
  | nil => rfl
  | cons p rest ih =>
    rw [List.foldl_cons]
    by_cases hp : p = []
    · rw [hp, List.filter_cons_of_neg (by simp)]
      exact ih hstack
    · obtain ⟨hstep, hkept⟩ := reverse_push hstack hp
      rw [List.filter_cons_of_pos (by simpa using hp), ih hkept, hstep]
      rfl

/-- **A path text from the root**: a relative one is put behind the directory. -/
def fromRoot (directory : Path) (text : List Char) : List Char :=
  if text.head? = some '/' then text else pathText directory ++ '/' :: text

/-- **A path text written out**: the names of the place where it leads from the root. Two slashes stay in front
where there are just two, else there is one. -/
def writtenOut (text : List Char) : List Char :=
  List.replicate (if (text.takeWhile (· == '/')).length = 2 then 2 else 1) '/' ++ join ['/'] (leadOf [] text)

theorem head?_fromRoot (directory : Path) (text : List Char) : (fromRoot directory text).head? = some '/' := by
  unfold fromRoot
  split_ifs with htext
  · exact htext
  · cases directory <;> rfl

theorem leadOf_of_head? (h : text.head? = some '/') : leadOf here text = lead [] (components text) := by
  rw [leadOf, origin, if_pos (beq_iff_eq.mpr h)]

/-- **A path text leads from the root** where it leads from the directory. -/
theorem leadOf_fromRoot (directory : Path) (text : List Char) :
    leadOf [] (fromRoot directory text) = leadOf (leadOf [] (pathText directory)) text := by
  unfold fromRoot
  split_ifs with htext
  · rw [leadOf_of_head? htext, leadOf_of_head? htext]
  · have hhead : (pathText directory ++ '/' :: text).head? = some '/' := by
      cases directory <;> rfl
    rw [leadOf_of_head? hhead, components_append_slash, lead_append, leadOf, leadOf, origin, origin, ite_self,
      if_neg (by simpa using htext)]

theorem leadingSlashes_of_head? (h : text.head? = some '/') : PathText.leadingSlashes text =
    List.replicate (if (text.takeWhile (· == '/')).length = 2 then 2 else 1) '/' := by
  obtain ⟨rest, rfl⟩ : ∃ rest, text = '/' :: rest := by
    cases text with
    | nil => cases h
    | cons c rest => exact ⟨rest, by rw [Option.some.inj h]⟩
  unfold PathText.leadingSlashes
  split
  · rename_i hlength
    simp at hlength
  · rename_i hlength
    rw [hlength]
    rfl
  · rename_i htwo
    rw [if_neg htwo]
    rfl

/-- **The normal form of a path from the root** is the path written out. -/
theorem normal_eq (h : text.head? = some '/') : PathText.normal text = writtenOut text := by
  have hne : (PathText.leadingSlashes text).isEmpty = false := by
    rw [leadingSlashes_of_head? h]
    split_ifs <;> rfl
  unfold PathText.normal
  dsimp only
  rw [hne, Bool.not_false, foldl_push List.not_mem_nil, if_neg]
  · rw [writtenOut, leadOf_of_head? h, leadingSlashes_of_head? h]
    rfl
  · rw [List.isEmpty_iff, List.append_eq_nil_iff, ← List.isEmpty_iff, hne]
    exact fun h => Bool.false_ne_true h.1

/-- **The absolute form of a path** is the path from the root, written out. -/
theorem absolute_eq (directory : Path) (text : List Char) :
    PathText.absolute (pathText directory) text = writtenOut (fromRoot directory text) := by
  rw [← normal_eq (head?_fromRoot directory text)]
  unfold PathText.absolute fromRoot
  by_cases htext : text.head? = some '/'
  · rw [if_pos htext, if_pos (beq_iff_eq.mpr htext)]
  · rw [if_neg htext, if_neg (by simpa using htext)]

theorem components_writtenOut (text : List Char) : components (writtenOut text) = leadOf [] text :=
  components_place (leadsDown_of_mem_leadOf (List.forall_mem_nil _) text) _

/-- **On the way of a path that is written out** are the place where it leads and what is above that. -/
theorem onTheWay_writtenOut_iff {workingDirectory : Path} :
    OnTheWay workingDirectory (writtenOut text) q ↔ q <+: leadOf [] text := by
  have hdown : ∀ name ∈ leadOf [] text, LeadsDown name :=
    leadsDown_of_mem_leadOf (List.forall_mem_nil _) text
  have horigin : origin workingDirectory (writtenOut text) = [] := by
    rw [origin, if_pos]
    unfold writtenOut
    split_ifs <;> rfl
  have hlead : ∀ front, front <+: leadOf [] text → lead [] front = front := fun front hfront =>
    lead_of_leadsDown fun name hname => hdown name (hfront.subset hname)
  rw [OnTheWay, horigin, components_writtenOut]
  constructor
  · rintro ⟨front, hfront, rfl⟩
    rw [hlead front hfront]
    exact hfront
  · intro h
    exact ⟨q, h, (hlead q h).symm⟩

end JsonShapes.FileTree

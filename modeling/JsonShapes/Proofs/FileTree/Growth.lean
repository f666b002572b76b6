import JsonShapes.FileTree.Operations
import JsonShapes.Proofs.Except
import JsonShapes.Proofs.Pairs

/-! # How file trees change

A tree is known by what is at its paths (`node?_put`). Two trees may have the same regular files
(`SameFiles`); and a tree grows into another one when its directories stay and nothing goes away
(`Grows`). What a path text leads to is led to in every tree that it grows into (`Grows.locate`). -/

namespace JsonShapes.FileTree

open Text

variable {t t' t'' : FileTree} {path : Path}

/-! ### Nodes -/

theorem putEntry_eq (path : Path) (n : Node) (entries : List (Path × Node)) :
    putEntry path n entries = putPair path n entries := by
  induction entries with
  | nil => rfl
  | cons e rest ih => rw [putEntry, putPair, ih]

theorem lookup_putEntry (path q : Path) (n : Node) (entries : List (Path × Node)) :
    (putEntry path n entries).lookup q = if q = path then some n else entries.lookup q := by
  rw [putEntry_eq, lookup_putPair]

theorem length_put_le (t : FileTree) (path : Path) (n : Node) :
    (t.put path n).entries.length ≤ t.entries.length + 1 := by
  rw [put, putEntry_eq]
  exact length_putPair_le _ _ _

theorem put_put (t : FileTree) (path : Path) (m n : Node) : (t.put path m).put path n = t.put path n := by
  rw [put, put, put, putEntry_eq, putEntry_eq, putEntry_eq, putPair_putPair]

theorem node?_of_ne_nil (t : FileTree) {q : Path} (hq : q ≠ []) :
    t.node? q = t.entries.lookup q := by
  cases q with
  | nil => exact absurd rfl hq
  | cons name rest => rfl

theorem node?_put (hp : path ≠ []) (n : Node) (q : Path) :
    (t.put path n).node? q = if q = path then some n else t.node? q := by
  cases q with
  | nil => rw [if_neg (Ne.symm hp), node?, node?]
  | cons name rest =>
    rw [node?_of_ne_nil _ (List.cons_ne_nil _ _), node?_of_ne_nil _ (List.cons_ne_nil _ _), put,
      lookup_putEntry]

theorem isDirectory_iff (t : FileTree) (path : Path) :
    t.isDirectory path = true ↔ t.node? path = some .directory := beq_iff_eq

/-! ### Regular files -/

/-- **The same regular files**, with the same content. -/
def SameFiles (t t' : FileTree) : Prop :=
  ∀ path content, t.node? path = some (.file content) ↔ t'.node? path = some (.file content)

theorem SameFiles.refl (t : FileTree) : SameFiles t t := fun _ _ => Iff.rfl

theorem SameFiles.trans (h : SameFiles t t') (h' : SameFiles t' t'') : SameFiles t t'' :=
  fun path content => (h path content).trans (h' path content)

theorem sameFiles_put_directory (hp : path ≠ []) (h : t.node? path = none) :
    SameFiles t (t.put path .directory) := by
  intro q content
  rw [node?_put hp]
  split
  · rename_i hq
    subst hq
    simp [h]
  · rfl

/-! ### Growth -/

/-- **A tree grows**: its directories stay, and nothing goes away. -/
structure Grows (t t' : FileTree) : Prop where
  directory : ∀ path, t.isDirectory path = true → t'.isDirectory path = true
  node : ∀ path, (t.node? path).isSome = true → (t'.node? path).isSome = true

theorem Grows.refl (t : FileTree) : Grows t t := ⟨fun _ h => h, fun _ h => h⟩

theorem grows_of_kept (h : ∀ path, (t.node? path).isSome = true → t'.node? path = t.node? path) :
    Grows t t' := by
  constructor
  · intro q hq
    rw [isDirectory_iff] at hq ⊢
    rw [h q (by rw [hq]; rfl), hq]
  · intro q hq
    rw [h q hq]
    exact hq

theorem grows_put (hp : path ≠ []) (h : t.isDirectory path = false) (n : Node) :
    Grows t (t.put path n) := by
  constructor
  · intro q hq
    rw [isDirectory_iff, node?_put hp, if_neg, ← isDirectory_iff]
    · exact hq
    · rintro rfl
      exact Bool.false_ne_true (h.symm.trans hq)
  · intro q hq
    rw [node?_put hp]
    split
    · rfl
    · exact hq

theorem Grows.enter (h : Grows t t') {here next : Path} {component : List Char}
    (he : t.enter here component = .ok next) : t'.enter here component = .ok next := by
  unfold FileTree.enter at he ⊢
  split at he
  · cases he
  · rename_i hdirectory
    have hhere : t'.isDirectory here = true := h.directory here (by simpa using hdirectory)
    rw [hhere, if_neg (by decide)]
    split_ifs at he with hdot hdots hlong hnode
    · rw [if_pos hdot]
      exact he
    · rw [if_neg hdot, if_pos hdots]
      exact he
    · rw [if_neg hdot, if_neg hdots, if_neg hlong, if_pos (h.node _ hnode)]
      exact he

theorem Grows.walk (h : Grows t t') {components : List (List Char)} {here next : Path}
    (hw : t.walk here components = .ok next) : t'.walk here components = .ok next := by
  induction components generalizing here with
  | nil => exact hw
  | cons c rest ih =>
    obtain ⟨between, he, hrest⟩ := bind_eq_ok_iff.mp hw
    exact bind_eq_ok_iff.mpr ⟨between, h.enter he, ih hrest⟩

/-- The place in a directory that the last component of a path text names. -/
def placeIn (directory : Path) (text : List Char) : Place :=
  match (components text).getLast? with
  | none => .directory
  | some name => if name == ['.'] || name == ['.', '.'] then .directory else .named directory name

theorem locate_eq_ok_iff {workingDirectory : Path} {text : List Char} {place : Place} :
    t.locate workingDirectory text = .ok place ↔
      ¬ text.isEmpty = true ∧ ¬ (Utf8.encode text).length > maxPathBytes ∧ ∃ directory,
        t.walk (origin workingDirectory text) (components text).dropLast = .ok directory ∧
          t.isDirectory directory = true ∧ placeIn directory text = place := by
  unfold locate placeIn
  simp only [throw_bind_eq, ite_error_eq_ok_iff, bind_eq_ok_iff]
  refine and_congr_right fun _ => and_congr_right fun _ => exists_congr fun directory =>
    and_congr_right fun _ => and_congr (by simp) ?_
  cases (components text).getLast? with
  | none => exact iff_of_eq (Except.ok.injEq _ _)
  | some name =>
    dsimp only
    split
    · exact iff_of_eq (Except.ok.injEq _ _)
    · exact iff_of_eq (Except.ok.injEq _ _)

theorem Grows.locate (h : Grows t t') {workingDirectory : Path} {text : List Char} {place : Place}
    (hl : t.locate workingDirectory text = .ok place) :
    t'.locate workingDirectory text = .ok place := by
  obtain ⟨hempty, hlong, directory, hw, hd, hplace⟩ := locate_eq_ok_iff.mp hl
  exact locate_eq_ok_iff.mpr ⟨hempty, hlong, directory, h.walk hw, h.directory _ hd, hplace⟩

end JsonShapes.FileTree

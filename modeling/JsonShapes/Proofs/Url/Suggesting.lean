import JsonShapes.Proofs.Naming.TypeName
import JsonShapes.Proofs.Text.Cutting
import JsonShapes.Proofs.Text.LowerCase
import JsonShapes.Url.Suggestion

/-! # Names that a URL suggests

A URL suggests names by its last path segment, or no name at all whatever is put behind it
(`nameFrom?_eq_none_iff`). The segment lies between slashes and no case mapping brings one in, so a name
that a URL suggests holds no slash (`slash_notMem_nameFrom?`). -/

namespace JsonShapes

namespace Text

theorem mem_of_mem_words {p : Char → Bool} {cs w : List Char} {c : Char} (hw : w ∈ words p cs)
    (hc : c ∈ w) : c ∈ cs := by
  have hmem : c ∈ (words p cs).flatten := List.mem_flatten.mpr ⟨w, hw, hc⟩
  rw [flatten_words] at hmem
  exact List.mem_of_mem_filter hmem

theorem mem_of_mem_titleChars {w : List Char} {d : Char} (h : d ∈ Naming.titleChars w)
    (hd : d.toNat < 'A'.toNat) : d ∈ w := by
  cases w with
  | nil => exact h
  | cons c rest =>
    rw [Naming.titleChars, List.mem_append] at h
    rcases h with h | h
    · rw [eq_of_mem_upperChar h hd]
      exact List.mem_cons_self
    · exact List.mem_cons_of_mem _ (mem_of_mem_lower h hd)

end Text

namespace Url

open Text

variable {url ending name : String}

/-- The segment that a URL is named after. -/
def namingSegment? (url : String) : Option (List Char) :=
  match parse? url with
  | some parsed => if parsed.isAbsolute then lastSegment? parsed.path else none
  | none => none

theorem slash_notMem_of_namingSegment? {segment : List Char} (h : namingSegment? url = some segment) :
    '/' ∉ segment := by
  unfold namingSegment? at h
  split at h
  · split_ifs at h
    have hmem := List.mem_of_getLast? h
    exact mark_notMem_of_mem_pieces (List.mem_of_mem_filter hmem)
  · cases h

/-- **A name depends on the segment only**: it is made of the words of the segment, with the ending behind
them, and there is none when nothing remains. -/
theorem nameFrom?_eq_bind (url ending : String) : nameFrom? url ending = (namingSegment? url).bind fun s =>
    let name := (words separatesSegment s).flatMap Naming.titleChars ++ ending.toList
    if name.isEmpty then none else some (String.ofList name) := by
  unfold nameFrom? namingSegment?
  cases parse? url with
  | none => rfl
  | some parsed =>
    by_cases habsolute : parsed.isAbsolute
    · cases hsegment : lastSegment? parsed.path with
      | none => simp [habsolute, hsegment]
      | some segment =>
        simp only [Option.bind_eq_bind, Option.bind_some, habsolute, hsegment, guard, if_true, Option.pure_def]
        generalize (words separatesSegment segment).flatMap Naming.titleChars ++ ending.toList = name
        cases name.isEmpty <;> rfl
    · simp [habsolute, guard]

theorem nameFrom?_eq (hending : ending ≠ "") : nameFrom? url ending = (namingSegment? url).map fun s =>
    String.ofList ((words separatesSegment s).flatMap Naming.titleChars ++ ending.toList) := by
  rw [nameFrom?_eq_bind]
  cases namingSegment? url with
  | none => rfl
  | some segment => simp [hending]

theorem nameFrom?_eq_none_iff (hending : ending ≠ "") :
    nameFrom? url ending = none ↔ namingSegment? url = none := by
  rw [nameFrom?_eq hending, Option.map_eq_none_iff]

theorem slash_notMem_nameFrom? (hending : ending ≠ "") (hslash : '/' ∉ ending.toList)
    (h : nameFrom? url ending = some name) : '/' ∉ name.toList := by
  rw [nameFrom?_eq hending, Option.map_eq_some_iff] at h
  obtain ⟨segment, hsegment, rfl⟩ := h
  rw [String.toList_ofList, List.mem_append, not_or]
  refine ⟨fun hmem => ?_, hslash⟩
  obtain ⟨w, hw, hc⟩ := List.mem_flatMap.mp hmem
  have hword : '/' ∈ w := mem_of_mem_titleChars hc (by decide)
  exact slash_notMem_of_namingSegment? hsegment (mem_of_mem_words hw hword)

theorem suggestFileName_of_some {root : Option String} (h : nameFrom? url fileNameEnding = some name) :
    suggestFileName url root = name := by
  unfold suggestFileName
  rw [h]

theorem suggestFileName_of_none {root : String} (h : nameFrom? url fileNameEnding = none) :
    suggestFileName url (some root) = if root.isEmpty then defaultFileName else root := by
  unfold suggestFileName
  rw [h]

end Url

end JsonShapes

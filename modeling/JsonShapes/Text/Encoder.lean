import JsonShapes.Text.Quoted

/-!
# Writing texts

A surrogate without its partner is no character; in a text that was read a character of private use
stands for it (`standIn`).  A system may have no bytes for a text with a surrogate (`Encoder`).
-/

namespace JsonShapes.Text

/-- The first of the characters that stand for surrogates. -/
def firstStandIn : Nat := 0x10F800

/-- The character that stands for a surrogate: the last characters of private use do, in order. -/
def standIn (unit : Nat) : Char := Char.ofNat (firstStandIn + (unit - 0xD800))

/-- Whether a character may stand for a surrogate. -/
def isStandIn (c : Char) : Bool := firstStandIn ≤ c.toNat

/-- How a system writes texts, and how it takes paths.  It may refuse one with a surrogate, and takes
every other one. -/
structure Encoder where
  check : String → Except String Unit
  checkPath : String → Except String Unit
  plain : ∀ s : String, (∀ c ∈ s.toList, isStandIn c = false) → check s = .ok ()
  plainPath : ∀ s : String, (∀ c ∈ s.toList, isStandIn c = false) → checkPath s = .ok ()

/-- What stands in a file that a text is written to.  A text that is refused is so when the file is
open, and leaves it empty. -/
def Encoder.left (e : Encoder) (s : String) : String := if (e.check s).isOk then s else ""

theorem Encoder.left_of_ok (e : Encoder) {s : String} (h : e.check s = .ok ()) : e.left s = s := by
  rw [left, h]
  rfl

theorem Encoder.left_of_error (e : Encoder) {s message : String} (h : e.check s = .error message) :
    e.left s = "" := by
  rw [left, h]
  rfl

/-- A path as it is met by the system.  In one that is refused a surrogate stops what a NUL would
stop: not the directories in front of it. -/
def Encoder.met (e : Encoder) (path : List Char) : List Char :=
  if (e.checkPath (String.ofList path)).isOk then path
  else path.map fun c => if isStandIn c then '\x00' else c

/-- A path that meets no NUL is met as it is. -/
theorem Encoder.met_eq_of_notMem (e : Encoder) {path : List Char} (h : '\x00' ∉ e.met path) :
    e.met path = path := by
  unfold met at h ⊢
  split
  · rfl
  · rename_i hrefused
    rw [if_neg hrefused] at h
    have hplain : ∀ c ∈ path, isStandIn c = false := by
      intro c hc
      rw [Bool.eq_false_iff]
      intro hsurrogate
      exact h (List.mem_map.mpr ⟨c, hc, if_pos hsurrogate⟩)
    calc path.map (fun c => if isStandIn c then '\x00' else c)
        = path.map id := List.map_congr_left fun c hc => by simp [hplain c hc]
      _ = path := List.map_id path

/-- A stand-in of a byte of a path that is no text; such bytes are paths too. -/
def isEscapedByte (c : Char) : Bool :=
  firstStandIn + 0x480 ≤ c.toNat && c.toNat < firstStandIn + 0x500

/-- The message about the surrogates in a text, from the first bad one up to the next character. -/
def surrogatesText (bad : Char → Bool) (cs : List Char) : String :=
  let first := (cs.takeWhile (!bad ·)).length
  let run := (cs.drop first).takeWhile isStandIn
  let unit := (run.headD ' ').toNat - firstStandIn + 0xD800
  if run.length == 1 then
    let digits := String.ofList (hex 4 unit)
    s!"'utf-8' codec can't encode character '\\u{digits}' in position {first}: surrogates not allowed"
  else
    let last := first + run.length - 1
    s!"'utf-8' codec can't encode characters in position {first}-{last}: surrogates not allowed"

/-- Takes a text without bad characters, all of which are surrogates. -/
def refuseAny (bad : Char → Bool) (s : String) : Except String Unit :=
  if s.toList.any bad then .error (surrogatesText bad s.toList) else .ok ()

theorem refuseAny_of_none {bad : Char → Bool} {s : String} (h : ∀ c ∈ s.toList, bad c = false) :
    refuseAny bad s = .ok () := if_neg (by simpa using h)

/-- A system that refuses every text with a surrogate, and every path with one that is no byte. -/
def Encoder.strict : Encoder where
  check := refuseAny isStandIn
  checkPath := refuseAny fun c => isStandIn c && !isEscapedByte c
  plain _ h := refuseAny_of_none h
  plainPath _ h := refuseAny_of_none fun c hc => by rw [h c hc, Bool.false_and]

end JsonShapes.Text

import JsonShapes.Proofs.Definitions.Layout

/-! # When generation fails

A generation of a value with short keys ends in one of four ways (`Ends`): it rejects the null; it fails
on the items of an array, when there is no root name to make theirs from; it fails on a moment whose
universal time lies outside the calendar; else it gives a text. Nothing else inside a value makes it fail;
a key too long to be written out does (`generate_of_stop`).

Without a root name a value is walked and written as under the empty one (`start_namedBy`,
`render_namedBy`), so that what holds of named roots holds of the others too. -/

namespace JsonShapes.Definitions

open Inference Naming

/-- The hint that a root name gives: the null when there is none. -/
def namedBy : Option String → Hint
  | some name => .text name
  | none => .other .null

/-- **An array with items**, of either kind. -/
def HasItems (v : Value) : Prop := ∃ first rest, v = .array (first :: rest) ∨ v = .tuple (first :: rest)

/-- **How a generation ends.** -/
inductive Ends (v : Value) (root : Option String) (now : Moment) : Except Failure String → Prop
  | nothing (hv : v = .null) :
    Ends v root now (.error (.rejected ⟨.invalidInput, "No data provided for type generation", none⟩))
  | unnamed (hroot : root = none) (hv : HasItems v) : Ends v root now (.error (.rejected
    (Rejection.inference "unsupported operand type(s) for +: 'NoneType' and 'str'" root)))
  | outOfRange (hv : v ≠ .null) (hnow : ¬ now.InCalendar) :
    Ends v root now (.error (.rejected (Rejection.inference "date value out of range" root)))
  | written (hv : v ≠ .null) (hnamed : ¬ (root = none ∧ HasItems v)) (hnow : now.InCalendar)
    (text : String) : Ends v root now (.ok text)

variable {v : Value} {root : Option String} {dates : Bool} {now : Moment} {D : List Declaration}
  {type : TypeExpr}

theorem failure_namedBy (root : Option String) (cause : String) :
    failure (namedBy root) cause = .rejected (Rejection.inference cause root) := by
  cases root <;> rfl

theorem typeName_namedBy (root : Option String) :
    (namedBy root).typeName = .ok (typeName (root.getD "")) := by
  cases root with
  | none =>
    have hempty : typeName "" = unknownName := by decide
    rw [Option.getD_none, hempty]
    rfl
  | some name => rfl

/-- Only the items of an array need a root name. -/
theorem start_namedBy (hkeys : ShortKeys v) (h : ¬ (root = none ∧ HasItems v)) :
    start dates v (namedBy root) .empty = .ok (infer dates v (root.getD "") .empty) := by
  cases root with
  | some name => exact start_text hkeys name
  | none =>
    have hitems : ¬ HasItems v := fun hv => h ⟨rfl, hv⟩
    have hwalk : walk dates v "" .empty = .ok (infer dates v "" .empty) := start_text hkeys ""
    cases v with
    | array items =>
      cases items with
      | nil => exact hwalk
      | cons first rest => exact absurd ⟨first, rest, .inl rfl⟩ hitems
    | tuple items =>
      cases items with
      | nil => exact hwalk
      | cons first rest => exact absurd ⟨first, rest, .inr rfl⟩ hitems
    | object fields =>
      rw [namedBy, start, Value.isGiven, Bool.and_false]
      exact hwalk
    | _ => exact hwalk

theorem blocks_namedBy (root : Option String) (type : TypeExpr) (D : List Declaration) :
    blocks (namedBy root) type D = blocks (.text (root.getD "")) type D := by
  induction D with
  | nil =>
    rw [blocks, blocks, typeName_namedBy]
    rfl
  | cons d rest ih => rw [blocks, blocks, ih]

theorem render_namedBy (D : List Declaration) (root : Option String) (type : TypeExpr) (now : Moment) :
    render D (namedBy root) type now = render D (.text (root.getD "")) type now := by
  rw [render, render, blocks_namedBy]

/-! ### The ends -/

theorem exists_render_infer (dates : Bool) (v : Value) (root : Option String) {stamped : String}
    (h : stamp now = .ok stamped) :
    ∃ text, render (infer dates v (root.getD "") .empty).registry.declarations (namedBy root)
      (infer dates v (root.getD "") .empty).type now = .ok text := by
  obtain ⟨hD, ht⟩ := plain_of_infer dates v (root.getD "")
  obtain ⟨text, htext, -⟩ := exists_render hD ht (root.getD "") (Moment.stamp_eq_ok_iff.mp h)
  exact ⟨text, by rw [render_namedBy, htext]⟩

theorem render_eq_error {fault : Fault} (h : stamp now = .error fault) (hint : Hint) :
    render D hint type now = .error fault := by
  rw [render, h]
  rfl

/-- **Every generation ends so.** -/
theorem ends (hkeys : ShortKeys v) (root : Option String) (dates : Bool) (h : now.IsProper) :
    Ends v root now (generate v (namedBy root) dates now).outcome := by
  by_cases hv : v = .null
  · subst hv
    exact .nothing rfl
  by_cases hnamed : root = none ∧ HasItems v
  · obtain ⟨rfl, first, rest, rfl | rfl⟩ := hnamed
    · exact .unnamed rfl ⟨first, rest, .inl rfl⟩
    · exact .unnamed rfl ⟨first, rest, .inr rfl⟩
  rw [generate_outcome hv, start_namedBy hkeys hnamed]
  change Ends v root now (((render _ (namedBy root) _ now).mapError _).mapError _)
  rcases Moment.stamp_cases h with ⟨hin, u, hstamp, -⟩ | ⟨hout, hstamp⟩
  · obtain ⟨text, htext⟩ := exists_render_infer dates v root hstamp
    rw [htext]
    exact .written hv hnamed hin text
  · rw [render_eq_error hstamp]
    change Ends v root now (.error (failure (namedBy root) "date value out of range"))
    rw [failure_namedBy]
    exact .outOfRange hv hout

namespace Ends

variable {outcome : Except Failure String}

end Ends

end JsonShapes.Definitions

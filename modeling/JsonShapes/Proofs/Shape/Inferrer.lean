import JsonShapes.Shape.Inferrer
import JsonShapes.Proofs.Except
import JsonShapes.Proofs.Shape.Stopping

/-! # What holds between two calls

`Indexed r`: the memo is the list of declarations read by signature. It is so after every sequence of
calls, and each call keeps what was there before. `Settled r`: besides, every name taken is that of a
declaration. A fresh inferrer is settled, and a call with short keys keeps it so, whether it gives a type
or its hint fails; so it is settled after every sequence of such calls (`run_settled`). Inside a call it
is not: a name is taken before its declaration is there, and a call that stops at a long key leaves such
names behind (`run_consistent`). -/

namespace JsonShapes

namespace Inferrer

open Inference (Failure Hint HintFault ShortKeys stop?)

variable {dates : Bool} {v : Value} {hint : Hint} {r : Registry}

theorem start_cases (dates : Bool) (v : Value) (hint : Hint) (r : Registry) :
    (∃ fault, Inference.start dates v hint r = .error (.hint fault)) ∨
      ∃ s, Inference.start dates v hint r = Inference.walk dates v s r := by
  unfold Inference.start
  split
  · exact Or.inr ⟨_, rfl⟩
  · exact Or.inl ⟨_, rfl⟩
  · exact Or.inl ⟨_, rfl⟩
  · split_ifs
    · exact Or.inl ⟨_, rfl⟩
    · exact Or.inr ⟨_, rfl⟩
  · exact Or.inr ⟨_, rfl⟩

/-- **What a call does**: its hint fails and it changes nothing, or it stops, or it walks its value. -/
inductive Does (i : Inferrer) (v : Value) : Except Failure TypeExpr × Inferrer → Prop
  | hint (fault : HintFault) : Does i v (.error (.hint fault), i)
  | stopped {s : String} {left : Registry} {events : List Inference.Event}
    (h : stop? i.dates v s i.registry = some (left, events)) :
    Does i v (.error (.stopped left events), { i with registry := left })
  | walked {s : String} (h : stop? i.dates v s i.registry = none) :
    Does i v (.ok (Inference.infer i.dates v s i.registry).type,
      { i with registry := (Inference.infer i.dates v s i.registry).registry })

theorem infer_does (i : Inferrer) (v : Value) (hint : Hint) : Does i v (i.infer v hint) := by
  unfold infer
  rcases start_cases i.dates v hint i.registry with ⟨fault, hfault⟩ | ⟨s, hs⟩
  · rw [hfault]
    exact .hint fault
  · rw [hs, Inference.walk]
    cases hstop : stop? i.dates v s i.registry with
    | none => exact .walked hstop
    | some stopped => exact .stopped hstop

theorem infer_text_of_stop {i : Inferrer} {s : String} {left : Registry}
    {events : List Inference.Event} (h : stop? i.dates v s i.registry = some (left, events)) :
    i.infer v (.text s) = (.error (.stopped left events), { i with registry := left }) := by
  unfold infer
  rw [Inference.start, Inference.walk, h]

theorem infer_text_of_end {i : Inferrer} {s : String} (h : stop? i.dates v s i.registry = none) :
    i.infer v (.text s) = (.ok (Inference.infer i.dates v s i.registry).type,
      { i with registry := (Inference.infer i.dates v s i.registry).registry }) := by
  unfold infer
  rw [Inference.start, Inference.walk, h]

section
variable {i : Inferrer} {outcome : Except Failure TypeExpr × Inferrer}

theorem Does.dates_eq (h : Does i v outcome) : outcome.2.dates = i.dates := by
  cases h <;> rfl

theorem Does.extends (h : Does i v outcome) : i.registry.Extends outcome.2.registry := by
  cases h with
  | hint => exact .refl _
  | stopped h => exact Inference.stop_extends h
  | walked => exact Inference.infer_extends _ _ _ _

theorem Does.induction {P : Registry → Prop} (h : Does i v outcome) (hi : P i.registry)
    (walk : ∀ s r, P r → P (Inference.infer i.dates v s r).registry)
    (stop : ∀ s r left events, stop? i.dates v s r = some (left, events) → P r → P left) :
    P outcome.2.registry := by
  cases h with
  | hint => exact hi
  | stopped h => exact stop _ _ _ _ h hi
  | walked => exact walk _ _ hi

end

theorem infer_extends (i : Inferrer) (v : Value) (hint : Hint) :
    i.registry.Extends (i.infer v hint).2.registry := (i.infer_does v hint).extends

/-- **Induction over sequences of calls.** -/
theorem run_induction {P : Registry → Prop} (calls : List (Value × Hint)) (i : Inferrer)
    (h : P i.registry)
    (walk : ∀ call ∈ calls, ∀ s r, P r → P (Inference.infer i.dates call.1 s r).registry)
    (stop : ∀ call ∈ calls, ∀ s r left events,
      stop? i.dates call.1 s r = some (left, events) → P r → P left) :
    P (i.run calls).registry := by
  induction calls generalizing i with
  | nil => exact h
  | cons call calls ih =>
    rw [List.forall_mem_cons] at walk stop
    have hdoes := i.infer_does call.1 call.2
    refine ih (i.infer call.1 call.2).2 (hdoes.induction h walk.1 stop.1) ?_ ?_
    · rw [hdoes.dates_eq]
      exact walk.2
    · rw [hdoes.dates_eq]
      exact stop.2

/-- **After every sequence of calls the registry is consistent**; what is pending are names taken by
calls that stopped. -/
theorem run_consistent (dates : Bool) (calls : List (Value × Hint)) :
    ∃ pending, ((fresh dates).run calls).registry.Consistent pending := by
  refine run_induction (P := fun r => ∃ pending, r.Consistent pending) calls (fresh dates)
    ⟨[], Registry.consistent_empty⟩ ?_ ?_
  · rintro call - s r ⟨pending, hc⟩
    exact ⟨pending, Inference.infer_consistent dates hc call.1 s⟩
  · exact fun call _ s r left events hstop => Inference.exists_pending_of_stop hstop

-- The short keys are needed: a long one leaves the name of the object around it without a declaration.
example :
    let left := ((fresh false).run
      [(.object [(.name "a", .object [(.int (10 ^ 4300), .null)])], .text "Root")]).registry
    left.names = ["Root"] ∧ left.declarations = [] := by decide +kernel

end Inferrer

end JsonShapes

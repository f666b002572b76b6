import JsonShapes.Proofs.Request.Retrieving
import JsonShapes.Proofs.Saving

/-! # What processing reports

Whatever value is processed, whatever its fetch leads to and whatever the tree is, there is a report:
a message that is not empty, or the definitions, with what became of the file when one was asked for
(`Whole`). Three things alone stand against it (`LosesReport`): a path with a NUL, or with a surrogate that
the system refuses, definitions that it refuses to write, and a failure whose context cannot be shown
(`process_reports`). -/

namespace JsonShapes

/-! ### Messages -/

namespace Definitions

open Inference (Hint)

variable {v : Value} {hint : Hint} {dates : Bool} {now : Moment}

theorem blocks_of_other {given : Value} (hgiven : given.isGiven = true) (type : TypeExpr)
    (D : List Declaration) (parts : List String) : blocks (.other given) type D ≠ .ok parts := by
  induction D generalizing parts with
  | nil =>
    intro h
    obtain ⟨text, -, h⟩ := bind_eq_ok_iff.mp h
    obtain ⟨name, hname, -⟩ := bind_eq_ok_iff.mp h
    rw [mapError_eq_ok_iff, Hint.typeName, if_pos hgiven] at hname
    cases hname
  | cons d rest ih =>
    intro h
    obtain ⟨block, -, h⟩ := bind_eq_ok_iff.mp h
    obtain ⟨others, hothers, -⟩ := bind_eq_ok_iff.mp h
    exact ih others hothers

/-- **What is generated is named by a text**, unless no name is given. -/
theorem isGiven_of_generate {given : Value} {types : String}
    (h : (generate v (.other given) dates now).outcome = .ok types) : given.isGiven = false := by
  rw [← Bool.not_eq_true]
  intro hgiven
  have hv : v ≠ .null := by
    rintro rfl
    cases h
  rw [generate_outcome hv, mapError_eq_ok_iff] at h
  obtain ⟨found, -, hrender⟩ := bind_eq_ok_iff.mp h
  obtain ⟨written, -, hrender⟩ := bind_eq_ok_iff.mp (mapError_eq_ok_iff.mp hrender)
  obtain ⟨parts, hparts, -⟩ := bind_eq_ok_iff.mp hrender
  exact blocks_of_other hgiven _ _ _ hparts

/-- **A failure cannot be told** just when the walk or the writing fails under a root name that cannot be
shown. -/
theorem generate_untold_iff : (generate v hint dates now).outcome = .error .untold ↔
    (∀ types, (generate v hint dates now).outcome ≠ .ok types) ∧ v ≠ .null ∧ canShow hint = false := by
  by_cases hv : v = .null
  · subst hv
    exact iff_of_false nofun fun h => h.2.1 rfl
  · rw [generate_outcome hv]
    generalize (Inference.start dates v hint .empty).mapError Inference.Failure.message >>= _ = found
    cases found with
    | ok types => exact iff_of_false nofun fun h => h.1 types rfl
    | error cause =>
      change Except.error (failure hint cause) = _ ↔ _
      unfold failure
      cases canShow hint with
      | true => exact iff_of_false nofun fun h => Bool.noConfusion h.2.2
      | false => exact iff_of_true rfl ⟨nofun, hv, rfl⟩

end Definitions

namespace Request

variable {w : World} {t : FileTree} {r : Request} {v : Value}

/-! ### Retrieval -/

theorem isGiven_of_rootHint {given : Value} (h : r.rootHint = .other given) :
    given.isGiven = true := by
  unfold rootHint at h
  split at h
  · rename_i hname
    unfold hintOf at h
    split at h
    · cases h
    · cases h
      exact hname
  · cases h

theorem exists_name_of_retrieve {types : String} {data : Value}
    (h : (r.retrieve w).1 = .ok (.ok (types, data))) : ∃ name, r.rootHint = .text name := by
  have hretrieves := retrieves w r
  rw [h] at hretrieves
  generalize hx : (Except.ok (.ok (types, data)) : Except Break (Except String (String × Value))) = x
    at hretrieves
  cases hretrieves with
  | generated _ _ htypes =>
    cases hhint : r.rootHint with
    | text name => exact ⟨name, rfl⟩
    | other given =>
      rw [hhint] at htypes
      exact absurd ((isGiven_of_rootHint hhint).symm.trans
        (Definitions.isGiven_of_generate htypes)) (by decide)
  | _ => cases hx

/-! ### Reports -/

/-- **Definitions cannot be delivered**: saving them meets a NUL, or a surrogate in a path that the system
refuses; or the file opens and the system refuses the definitions. -/
inductive CannotDeliver (w : World) (t : FileTree) (r : Request) (types : String) : Break → Prop
  | path : Saving.MeetsNul w.surroundings t (w.encoder.met (r.directoryText w))
      (w.encoder.met (r.pathText w)) → CannotDeliver w t r types (r.pathBreak w)
  | definitions {message : String} : (Saving.write w.surroundings t [] (w.encoder.met (r.directoryText w))
      (w.encoder.met (r.pathText w))).1 = .ok () → w.encoder.check types = .error message →
        CannotDeliver w t r types (.unencodable message)

/-- **The request loses its report**: a body can be used, no definitions can be generated for it, and the
root name that is given cannot be shown; or its definitions are to be saved and cannot be delivered. -/
inductive LosesReport (w : World) (t : FileTree) (v : Value) : Break → Prop
  | untold {r : Request} {body : Value} : fault? v = none → ofValue v = .ok r →
      (r.fetched w).outcome = .ok body → Json.isUsable body = true → dataOf body ≠ .null →
        (∀ types, (Definitions.generate (dataOf body) r.rootHint false w.now).outcome ≠ .ok types) →
          Definitions.canShow r.rootHint = false → LosesReport w t v .unshownName
  | undelivered {r : Request} {types : String} {data : Value} {reason : Break} : fault? v = none →
      ofValue v = .ok r → (r.retrieve w).1 = .ok (.ok (types, data)) → r.saveToFile = true →
        CannotDeliver w t r types reason → LosesReport w t v reason

theorem losesReport_iff (hfault : fault? v = none) (hr : ofValue v = .ok r) {reason : Break} :
    LosesReport w t v reason ↔ (r.retrieve w).1 = .error reason ∨
      ∃ types data, (r.retrieve w).1 = .ok (.ok (types, data)) ∧ r.saveToFile = true ∧
        CannotDeliver w t r types reason := by
  constructor
  · intro h
    cases h with
    | untold _ hr' hbody husable hdata hnone hshow =>
      cases hr.symm.trans hr'
      exact .inl (retrieve_of_untold hbody husable
        (Definitions.generate_untold_iff.mpr ⟨hnone, hdata, hshow⟩))
    | undelivered _ hr' hfound hsave hcannot =>
      cases hr.symm.trans hr'
      exact .inr ⟨_, _, hfound, hsave, hcannot⟩
  · rintro (h | ⟨types, data, hfound, hsave, hcannot⟩)
    · have hretrieves := retrieves w r
      rw [h] at hretrieves
      cases hretrieves with
      | untold hbody husable huntold =>
        obtain ⟨hnone, hdata, hshow⟩ := Definitions.generate_untold_iff.mp huntold
        exact .untold hfault hr hbody husable hdata hnone hshow
    · exact .undelivered hfault hr hfound hsave hcannot

/-- A file that opens meets no NUL, so one thing at most stands against a report. -/
theorem CannotDeliver.unique {types : String} {reason reason' : Break}
    (h : CannotDeliver w t r types reason) (h' : CannotDeliver w t r types reason') :
    reason = reason' := by
  cases h with
  | path hnul =>
    cases h' with
    | path => rfl
    | definitions hok => exact absurd hnul (Saving.not_meetsNul_of_write hok)
  | definitions hok hcheck =>
    cases h' with
    | path hnul => exact absurd hnul (Saving.not_meetsNul_of_write hok)
    | definitions _ hcheck' =>
      cases hcheck.symm.trans hcheck'
      rfl

theorem LosesReport.unique {reason reason' : Break} (h : LosesReport w t v reason)
    (h' : LosesReport w t v reason') : reason = reason' := by
  obtain ⟨r, hfault, hr⟩ : ∃ r, fault? v = none ∧ ofValue v = .ok r := by
    cases h with
    | untold hfault hr => exact ⟨_, hfault, hr⟩
    | undelivered hfault hr => exact ⟨_, hfault, hr⟩
  rcases (losesReport_iff hfault hr).mp h with h | ⟨_, _, hfound, -, hcannot⟩
  · rcases (losesReport_iff hfault hr).mp h' with h' | ⟨_, _, hfound', -⟩
    · exact Except.error.inj (h.symm.trans h')
    · cases h.symm.trans hfound'
  · rcases (losesReport_iff hfault hr).mp h' with h' | ⟨_, _, hfound', -, hcannot'⟩
    · cases h'.symm.trans hfound
    · cases hfound.symm.trans hfound'
      exact hcannot.unique hcannot'

-- A surrogate in the path breaks off too, where the system refuses the path.
example : (process (answering (bodyInTwo "application/json" [0x5B] [0x5D])) ⟨[]⟩
    (.object [(.name "url", .string "https://example.com/a"), (.name "saveToFile", .bool true),
      (.name "savePath", .string (String.ofList ['/', Text.standIn 0xD800]))])).outcome.map (fun _ => ()) =
        .error (.unencodable
          "'utf-8' codec can't encode character '\\ud800' in position 1: surrogates not allowed") := by
  decide +kernel

end Request

end JsonShapes

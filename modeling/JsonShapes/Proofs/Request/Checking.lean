import JsonShapes.Proofs.Except
import JsonShapes.Request.Process
import Mathlib

/-! # What the checks of a request say

The checks turn a value down, or it is an object whose fields are as `Checked` says. Such fields
describe a request with the URL that was checked (`Checked.exists_ofFields`), so processing either tells
a fault or carries out a request (`process_of_fault`, `process_of_accepted`). -/

namespace JsonShapes.Request

variable {v : Value} {fields : List (Key × Value)}

/-- **What the checks demand of the fields of a request.** -/
structure Checked (fields : List (Key × Value)) : Prop where
  url : ∃ url parsed, Value.fieldOf fields "url" = .string url ∧ url.isEmpty = false ∧
    Url.parse? url = some parsed ∧ parsed.isAbsolute = true
  headers : absentOr Value.isObject (Value.fieldOf fields "headers") = true
  method : absentOr isMethod (Value.fieldOf fields "method") = true
  saving : (Value.fieldOf fields "saveToFile").isGiven = true →
    absentOr Value.isString (Value.fieldOf fields "fileName") = true ∧
      absentOr Value.isString (Value.fieldOf fields "savePath") = true

theorem demand_eq_ok_iff {condition : Bool} {fault : Fault} :
    demand condition fault = .ok () ↔ condition = true := by
  cases condition <;> simp [demand]

theorem checkUrl_eq_ok_iff (v : Value) : checkUrl v = .ok () ↔
    ∃ url parsed, v = .string url ∧ url.isEmpty = false ∧ Url.parse? url = some parsed ∧
      parsed.isAbsolute = true := by
  cases v with
  | string url =>
    rw [checkUrl, bind_eq_ok_iff]
    constructor
    · rintro ⟨_, hurl, hparse⟩
      split at hparse
      · rename_i parsed hparsed
        exact ⟨url, parsed, rfl, by simpa using demand_eq_ok_iff.mp hurl, hparsed,
          demand_eq_ok_iff.mp hparse⟩
      · cases hparse
    · rintro ⟨_, parsed, heq, hurl, hparsed, habsolute⟩
      cases heq
      refine ⟨(), demand_eq_ok_iff.mpr (by simpa using hurl), ?_⟩
      rw [hparsed]
      exact demand_eq_ok_iff.mpr habsolute
  | _ => simp [checkUrl]

theorem checkFields_eq_ok_iff (fields : List (Key × Value)) :
    checkFields fields = .ok () ↔ Checked fields := by
  unfold checkFields
  constructor
  · intro h
    obtain ⟨_, hurl, h⟩ := bind_eq_ok_iff.mp h
    obtain ⟨_, hheaders, h⟩ := bind_eq_ok_iff.mp h
    obtain ⟨_, hmethod, h⟩ := bind_eq_ok_iff.mp h
    refine ⟨(checkUrl_eq_ok_iff _).mp hurl, demand_eq_ok_iff.mp hheaders,
      demand_eq_ok_iff.mp hmethod, fun hsave => ?_⟩
    rw [if_pos hsave] at h
    obtain ⟨_, hname, hpath⟩ := bind_eq_ok_iff.mp h
    exact ⟨demand_eq_ok_iff.mp hname, demand_eq_ok_iff.mp hpath⟩
  · intro h
    refine bind_eq_ok_iff.mpr ⟨(), (checkUrl_eq_ok_iff _).mpr h.url, ?_⟩
    refine bind_eq_ok_iff.mpr ⟨(), demand_eq_ok_iff.mpr h.headers, ?_⟩
    refine bind_eq_ok_iff.mpr ⟨(), demand_eq_ok_iff.mpr h.method, ?_⟩
    split
    · rename_i hsave
      obtain ⟨hname, hpath⟩ := h.saving hsave
      exact bind_eq_ok_iff.mpr ⟨(), demand_eq_ok_iff.mpr hname, demand_eq_ok_iff.mpr hpath⟩
    · rfl

/-- **What passes the checks**: the objects whose fields do. -/
theorem fault?_eq_none_iff (v : Value) :
    fault? v = none ↔ ∃ fields, v = .object fields ∧ Checked fields := by
  have hcheck : fault? v = none ↔ check v = .ok () := by
    unfold fault?
    split <;> simp_all
  rw [hcheck]
  unfold check
  constructor
  · intro h
    split at h
    · cases h
    · split at h
      · exact ⟨_, rfl, (checkFields_eq_ok_iff _).mp h⟩
      · cases h
  · rintro ⟨fields, rfl, h⟩
    have hgiven : (Value.object fields).isGiven = true := by
      obtain ⟨url, -, hurl, -⟩ := h.url
      cases fields with
      | nil => cases hurl
      | cons f rest => rfl
    rw [hgiven]
    exact (checkFields_eq_ok_iff _).mpr h

theorem exists_headersOf (h : absentOr Value.isObject v = true) :
    ∃ headers, headersOf v = .ok headers := by
  cases v with
  | object fields => exact ⟨fields, rfl⟩
  | _ =>
    refine ⟨[], ?_⟩
    simp only [absentOr, Value.isObject, Bool.or_false, Bool.not_eq_true'] at h
    rw [headersOf, h]
    · rfl
    · intro fields hfields
      cases hfields

/-- **Fields that pass the checks describe a request**, with the URL and the wish to save as they are. -/
theorem Checked.exists_ofFields (h : Checked fields) : ∃ r, ofFields fields = .ok r ∧
    r.url = .string r.urlText ∧ r.url = Value.fieldOf fields "url" ∧
      r.saveToFile = (Value.fieldOf fields "saveToFile").isGiven := by
  obtain ⟨url, -, hurl, -⟩ := h.url
  obtain ⟨headers, hheaders⟩ := exists_headersOf h.headers
  have hlookup : fields.lookup (.name "url") = some (.string url) := by
    rw [Value.fieldOf] at hurl
    cases hl : fields.lookup (.name "url") with
    | none =>
      rw [hl] at hurl
      cases hurl
    | some found =>
      rw [hl] at hurl
      exact congrArg some hurl
  unfold ofFields
  simp only [hlookup, hheaders, hurl]
  exact ⟨_, rfl, rfl, rfl, rfl⟩

/-! ### Processing -/

variable {w : World} {t : FileTree}

theorem process_of_fault {fault : Fault} (h : fault? v = some fault) :
    process w t v =
      ⟨.ok ⟨Value.fieldOf (fieldsOf v) "url", .error fault.message⟩, t, [], []⟩ := by
  rw [process, h]

/-- **A value that passes the checks is carried out** as the request it describes. -/
theorem process_of_accepted (h : fault? v = none) : ∃ r, ofValue v = .ok r ∧
    r.url = .string r.urlText ∧ r.url = Value.fieldOf (fieldsOf v) "url" ∧
      r.saveToFile = (Value.fieldOf (fieldsOf v) "saveToFile").isGiven ∧
      process w t v = r.run w t := by
  obtain ⟨fields, rfl, hchecked⟩ := (fault?_eq_none_iff v).mp h
  obtain ⟨r, hr, htext, hurl, hsave⟩ := hchecked.exists_ofFields
  refine ⟨r, hr, htext, hurl, hsave, ?_⟩
  rw [process, h, fieldsOf, hr]

end JsonShapes.Request

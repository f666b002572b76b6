import JsonShapes.Proofs.Except
import JsonShapes.Proofs.Http.Gathering
import JsonShapes.Proofs.Text.Utf8

/-! # What an exchange ends with

An exchange ends in one of five ways (`Exchange.Ends`): its status is no success, the limit is tripped,
the size it declares has no value, a failure is raised, or its body arrives and is read. It is told as a
value or as an error, and the code of an error has its cause in the exchange (`Fails.cause`). -/

namespace JsonShapes.Http

variable {codecs : Text.Codecs} {limit : Int} {r : Response} {e : Exchange}

/-! ### Reading a body that arrived -/

theorem isCharsetName_eq_false_iff (name : String) :
    isCharsetName name = false ↔ '\x00' ∈ name.toList := by
  simp [isCharsetName]

theorem decodeText_of_nul {charset : Option String} (h : '\x00' ∈ (charsetName charset).toList)
    (body : List UInt8) :
    decodeText codecs charset body = .error (.other "embedded null character") := by
  rw [decodeText, (isCharsetName_eq_false_iff _).mpr h]
  rfl

section
variable {charset : Option String} (h : '\x00' ∉ (charsetName charset).toList)
include h

theorem decodeText_nil : decodeText codecs charset [] = .ok ([], []) := by
  have hname : isCharsetName (charsetName charset) = true := by
    simpa [← isCharsetName_eq_false_iff] using h
  rw [decodeText, hname]
  rfl

theorem decodeText_of_ne_nil {body : List UInt8} (hbody : body ≠ []) :
    decodeText codecs charset body = match codecs.decode (charsetName charset) body with
      | .text cs => .ok (cs, [])
      | .failed message => .error (.other message)
      | .unknown => .ok (Text.Utf8.decodeLossy body, [⟨.warning, .exchange,
          "Unknown response charset " ++ charsetName charset ++ ", decoding as utf-8"⟩]) := by
  have hname : isCharsetName (charsetName charset) = true := by
    simpa [← isCharsetName_eq_false_iff] using h
  rw [decodeText, hname, List.isEmpty_eq_false_iff.mpr hbody]
  rfl

end

/-- The encoding of a body is UTF-8: its name decodes as UTF-8 does, or it has none. -/
def IsUtf8 (codecs : Text.Codecs) (charset : Option String) : Prop :=
  '\x00' ∉ (charsetName charset).toList ∧
    ∀ bytes, codecs.decode (charsetName charset) bytes = .text (Text.Utf8.decodeLossy bytes)

theorem isUtf8_none (codecs : Text.Codecs) : IsUtf8 codecs none := ⟨by decide, codecs.utf8⟩

theorem decodeText_of_isUtf8 {charset : Option String} (h : IsUtf8 codecs charset)
    (body : List UInt8) : decodeText codecs charset body = .ok (Text.Utf8.decodeLossy body, []) := by
  by_cases hbody : body = []
  · rw [hbody, decodeText_nil h.1]
    simp [Text.Utf8.decodeLossy, Text.Utf8.heads]
  · rw [decodeText_of_ne_nil h.1 hbody, h.2]

theorem decodeText_encode {charset : Option String} (h : IsUtf8 codecs charset) (cs : List Char) :
    decodeText codecs charset (Text.Utf8.encode cs) = .ok (cs, []) := by
  rw [decodeText_of_isUtf8 h, Text.Utf8.decodeLossy_encode]

theorem fault_of_decodeText {charset : Option String} {body : List UInt8} {fault : Fault}
    (h : decodeText codecs charset body = .error fault) : ∃ message, fault = .other message := by
  unfold decodeText at h
  dsimp only at h
  split_ifs at h
  · cases h
    exact ⟨_, rfl⟩
  · split at h
    · cases h
    · cases h
      exact ⟨_, rfl⟩
    · cases h

theorem fault_of_read {body : List UInt8} {fault : Fault}
    (h : (r.read codecs body).outcome = .error fault) :
    (∃ f, fault = .notJson f) ∨ ∃ message, fault = .other message := by
  unfold Response.read at h
  split at h
  · rename_i hdecode
    cases h
    exact .inr (fault_of_decodeText hdecode)
  · dsimp only [interpret] at h
    split at h
    · cases h
    · split at h
      · cases h
      · split at h
        · cases h
          exact .inl ⟨_, rfl⟩
        · cases h
      · cases h
        exact .inr ⟨_, rfl⟩

/-- The content type of a response says JSON. -/
def Response.SaysJson (r : Response) : Prop :=
  occursIn "application/json".toList ((r.header? "content-type").getD "").toList = true

theorem interpret_of_malformed {contentType text : String} {fault : Json.SyntaxFault}
    {position : Json.Position}
    (hjson : occursIn "application/json".toList contentType.toList = true)
    (hread : Json.read text = .error (.malformed fault position)) :
    interpret contentType text = .error (.notJson (.malformed fault position)) := by
  rw [interpret, hjson, hread]
  rfl

/-- **A name that no encoding has** is no obstacle: the body is read as without a name. -/
theorem read_of_unknown_charset {body : List UInt8}
    (hname : '\x00' ∉ (charsetName r.charset).toList)
    (hunknown : codecs.decode (charsetName r.charset) body = .unknown) :
    (r.read codecs body).outcome = ({ r with charset := none }.read codecs body).outcome := by
  by_cases hbody : body = []
  · rw [hbody, Response.read, Response.read, decodeText_nil hname, decodeText_nil (isUtf8_none codecs).1]
    rfl
  · rw [Response.read, Response.read, decodeText_of_ne_nil hname hbody, hunknown,
      decodeText_of_isUtf8 (isUtf8_none codecs)]
    rfl

theorem read_of_failed_charset {body : List UInt8} {message : String}
    (hname : '\x00' ∉ (charsetName r.charset).toList) (hbody : body ≠ [])
    (hfailed : codecs.decode (charsetName r.charset) body = .failed message) :
    (r.read codecs body).outcome = .error (.other message) := by
  rw [Response.read, decodeText_of_ne_nil hname hbody, hfailed]

/-! ### Endings -/

namespace Response

theorem answer_of_not_succeeded (h : ¬ r.Succeeded) :
    r.answer codecs limit = ⟨.error (.status r.status r.reason), []⟩ := by
  rw [Response.answer, if_pos]
  simp only [Response.Succeeded] at h
  simp only [ge_iff_le, Bool.or_eq_true, decide_eq_true_eq]
  omega

theorem status_test_eq_false (h : r.Succeeded) :
    (decide (r.status < 200) || decide (r.status ≥ 300)) = false := by
  obtain ⟨hlow, hhigh⟩ := h
  simp only [ge_iff_le, Bool.or_eq_false_iff, decide_eq_false_iff_not]
  omega

theorem answer_of_gather_error (hs : r.Succeeded) {fault : Fault}
    (h : gather limit r = .error fault) : r.answer codecs limit = ⟨.error fault, []⟩ := by
  rw [Response.answer, status_test_eq_false hs, h]
  rfl

theorem answer_of_gather_ok (hs : r.Succeeded) {body : List UInt8}
    (h : gather limit r = .ok body) : r.answer codecs limit = r.read codecs body := by
  rw [Response.answer, status_test_eq_false hs, h]
  rfl

theorem outcome_of_tripsLimit (hs : r.Succeeded) (h : r.TripsLimit limit) :
    (r.answer codecs limit).outcome = .error .tooLarge := by
  rw [answer_of_gather_error hs (gather_of_tripsLimit h)]

theorem outcome_of_arrives (hs : r.Succeeded) (h : r.Arrives limit) :
    (r.answer codecs limit).outcome = (r.read codecs r.chunks.flatten).outcome := by
  rw [answer_of_gather_ok hs (gather_of_arrives h)]

end Response

namespace Exchange

/-- **A failure is raised**: by the call, or by a body that breaks off before the limit is tripped. -/
def Raises (limit : Int) (f : Failure) : Exchange → Prop
  | .failure g => g = f
  | .response r => r.Succeeded ∧ r.Breaks limit f

/-- **How an exchange ends**, each ending with its outcome. -/
inductive Ends (codecs : Text.Codecs) (limit : Int) (e : Exchange) : Except Fault Value → Prop
  | refused {r : Response} : e = .response r → ¬ r.Succeeded →
      Ends codecs limit e (.error (.status r.status r.reason))
  | tripped {r : Response} : e = .response r → r.Succeeded → r.TripsLimit limit →
      Ends codecs limit e (.error .tooLarge)
  | noValue {r : Response} {message : String} : e = .response r → r.Succeeded →
      r.DeclaresNoValue message → Ends codecs limit e (.error (.other message))
  | raised {f : Failure} : e.Raises limit f → Ends codecs limit e (.error f.fault)
  | arrived {r : Response} : e = .response r → r.Succeeded → r.Arrives limit →
      Ends codecs limit e (r.read codecs r.chunks.flatten).outcome

theorem outcome_of_raises {f : Failure} (h : e.Raises limit f) :
    (e.answer codecs limit).outcome = .error f.fault := by
  cases e with
  | failure g =>
    cases h
    rfl
  | response r =>
    obtain ⟨hs, hbreaks⟩ := h
    rw [answer, Response.answer_of_gather_error hs (Response.gather_of_breaks hbreaks)]

/-- **Every exchange ends in one of these ways**, with that outcome. -/
theorem ends (codecs : Text.Codecs) (limit : Int) (e : Exchange) :
    e.Ends codecs limit (e.answer codecs limit).outcome := by
  cases e with
  | failure f => exact .raised rfl
  | response r =>
    rw [answer]
    by_cases hs : r.Succeeded
    · have hends := r.ends limit
      generalize hg : gather limit r = gathered at hends
      cases hends with
      | tripped h =>
        rw [Response.answer_of_gather_error hs hg]
        exact .tripped rfl hs h
      | noValue h =>
        rw [Response.answer_of_gather_error hs hg]
        exact .noValue rfl hs h
      | broken h =>
        rw [Response.answer_of_gather_error hs hg]
        exact .raised ⟨hs, h⟩
      | arrived h =>
        rw [Response.answer_of_gather_ok hs hg]
        exact .arrived rfl hs h
    · rw [Response.answer_of_not_succeeded hs]
      exact .refused rfl hs

end Exchange

/-! ### Errors -/

variable {outcome : Except ApiError Value}

/-- **A fetch fails** with a code and a status. -/
def Fails (outcome : Except ApiError Value) (code : String) (status : Int) : Prop :=
  ∃ text, outcome = .error ⟨text, code, status⟩

theorem Fails.eq {code code' : String} {status status' : Int} (h : Fails outcome code status)
    (h' : Fails outcome code' status') : code = code' ∧ status = status' := by
  obtain ⟨text, rfl⟩ := h
  obtain ⟨text', h'⟩ := h'
  cases h'
  exact ⟨rfl, rfl⟩

/-- The outcome of a fetch tells that of the exchange: a fault as its error. -/
def told (x : Except Fault Value) : Except ApiError Value := x.mapError Fault.error

/-- What an exchange is told as. -/
def Exchange.told (codecs : Text.Codecs) (limit : Int) (e : Exchange) : Except ApiError Value :=
  Http.told (e.answer codecs limit).outcome

theorem fails_raised (f : Failure) :
    (f.trouble.isTimeout = true → Fails (told (.error f.fault)) "TIMEOUT" 408) ∧
      (f.trouble.isTimeout = false → f.trouble.isConnection = true →
        Fails (told (.error f.fault)) "NETWORK_ERROR" 503) ∧
      (f.trouble.isTimeout = false → f.trouble.isConnection = false →
        Fails (told (.error f.fault)) "UNKNOWN_ERROR" 500) := by
  unfold Failure.fault
  refine ⟨fun ht => ?_, fun ht hc => ?_, fun ht hc => ?_⟩
  · rw [ht]
    exact ⟨_, rfl⟩
  · rw [ht, hc]
    exact ⟨_, rfl⟩
  · rw [ht, hc]
    exact ⟨_, rfl⟩

/-- **What leads to an error** of a code and a status. -/
inductive Cause (limit : Int) (e : Exchange) : String → Int → Prop
  | status {r : Response} : e = .response r → ¬ r.Succeeded → Cause limit e "HTTP_ERROR" r.status
  | tooLarge {r : Response} : e = .response r → r.Succeeded → r.TripsLimit limit →
      Cause limit e "RESPONSE_TOO_LARGE" 413
  | timeout {f : Failure} : e.Raises limit f → f.trouble.isTimeout = true →
      Cause limit e "TIMEOUT" 408
  | connection {f : Failure} : e.Raises limit f → f.trouble.isTimeout = false →
      f.trouble.isConnection = true → Cause limit e "NETWORK_ERROR" 503
  | other : Cause limit e "UNKNOWN_ERROR" 500

theorem ok_or_fails_read (codecs : Text.Codecs) (r : Response) (body : List UInt8) :
    (∃ v, told (r.read codecs body).outcome = .ok v) ∨
      Fails (told (r.read codecs body).outcome) "UNKNOWN_ERROR" 500 := by
  cases h : (r.read codecs body).outcome with
  | ok v => exact .inl ⟨v, rfl⟩
  | error fault =>
    rcases fault_of_read h with ⟨f, rfl⟩ | ⟨message, rfl⟩
    · exact .inr ⟨_, rfl⟩
    · exact .inr ⟨_, rfl⟩

/-- **Every exchange is told** as a value, or as an error with its cause. -/
theorem ok_or_cause (codecs : Text.Codecs) (limit : Int) (e : Exchange) :
    (∃ v, e.told codecs limit = .ok v) ∨
      ∃ code status, Fails (e.told codecs limit) code status ∧ Cause limit e code status := by
  have hends := e.ends codecs limit
  rw [Exchange.told]
  generalize (e.answer codecs limit).outcome = x at hends
  cases hends with
  | refused he hs => exact .inr ⟨_, _, ⟨_, rfl⟩, .status he hs⟩
  | tripped he hs h => exact .inr ⟨_, _, ⟨_, rfl⟩, .tooLarge he hs h⟩
  | noValue => exact .inr ⟨_, _, ⟨_, rfl⟩, .other⟩
  | @raised f h =>
    obtain ⟨htimeout, hconnection, hother⟩ := fails_raised f
    cases ht : f.trouble.isTimeout with
    | true => exact .inr ⟨_, _, htimeout ht, .timeout h ht⟩
    | false =>
      cases hc : f.trouble.isConnection with
      | true => exact .inr ⟨_, _, hconnection ht hc, .connection h ht hc⟩
      | false => exact .inr ⟨_, _, hother ht hc, .other⟩
  | @arrived r =>
    rcases ok_or_fails_read codecs r r.chunks.flatten with hok | hfails
    · exact .inl hok
    · exact .inr ⟨_, _, hfails, .other⟩

theorem Fails.cause {code : String} {status : Int} (h : Fails (e.told codecs limit) code status) :
    Cause limit e code status := by
  rcases ok_or_cause codecs limit e with ⟨v, hv⟩ | ⟨code', status', hfails, hcause⟩
  · obtain ⟨text, heq⟩ := h
    cases hv.symm.trans heq
  · obtain ⟨rfl, rfl⟩ := hfails.eq h
    exact hcause

/-! ### Fetches -/

variable {transport : Call → Exchange} {url : String} {method : Value}
  {headers : List (Key × Value)} {body timeout : Value}

theorem fetch_of_refusal {refusal : Url.Refusal} (h : Url.refusal? url = some refusal) :
    fetch codecs transport url method headers body timeout limit = ⟨.error refusal.error, [], []⟩ := by
  rw [fetch, h]

/-- **A URL that is not refused is called once**, and the exchange is told. -/
theorem fetch_of_accepted (h : Url.refusal? url = none) :
    (fetch codecs transport url method headers body timeout limit).calls =
        [⟨method, url, withHeaders headers, body, timeout⟩] ∧
      (fetch codecs transport url method headers body timeout limit).outcome =
        (transport ⟨method, url, withHeaders headers, body, timeout⟩).told codecs limit := by
  rw [fetch, h, Exchange.told]
  dsimp only
  split
  · rename_i v hv
    rw [hv]
    exact ⟨rfl, rfl⟩
  · rename_i fault hfault
    rw [hfault]
    exact ⟨rfl, rfl⟩

end JsonShapes.Http

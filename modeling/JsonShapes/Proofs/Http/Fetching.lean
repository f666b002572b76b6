import JsonShapes.Proofs.Http.Outcomes

/-! # What a fetch tells

A fetch calls its transport once, unless the URL is refused, and ends with a value or an error.
`Classified` lists for every error what leads to it, and what the other endings do not look at: the body
behind a status that is no success, and the encoding of a name that is not known. The encodings are those
of any system; one of them may fail on what arrives.

The list is complete and exact (`fetch_classified`), with one edge: the name of an encoding is not even
looked up when it holds a NUL, and the fetch fails (`nul_charset_fails`). -/

namespace JsonShapes.Http

variable {codecs : Text.Codecs} {limit : Int} {e : Exchange}

/-- **What an outcome tells about the exchange.** -/
structure Classified (codecs : Text.Codecs) (limit : Int) (e : Exchange) (outcome : Except ApiError Value) :
    Prop where
  /-- There is a value, or an error of one of five codes with its status. -/
  complete : (∃ v, outcome = .ok v) ∨ (∃ status, Fails outcome "HTTP_ERROR" status) ∨
    Fails outcome "RESPONSE_TOO_LARGE" 413 ∨ Fails outcome "TIMEOUT" 408 ∨
    Fails outcome "NETWORK_ERROR" 503 ∨ Fails outcome "UNKNOWN_ERROR" 500
  httpError_iff : ∀ status : Int, Fails outcome "HTTP_ERROR" status ↔
    ∃ r, e = .response r ∧ ¬ r.Succeeded ∧ r.status = status
  tooLarge_iff : Fails outcome "RESPONSE_TOO_LARGE" 413 ↔
    ∃ r, e = .response r ∧ r.Succeeded ∧ r.TripsLimit limit
  timeout_iff : Fails outcome "TIMEOUT" 408 ↔
    ∃ f, e.Raises limit f ∧ f.trouble.isTimeout = true
  connection_iff : Fails outcome "NETWORK_ERROR" 503 ↔
    ∃ f, e.Raises limit f ∧ f.trouble.isTimeout = false ∧ f.trouble.isConnection = true
  /-- Behind another status than one of success, the body is not looked at. -/
  unread : ∀ r chunks breaksOff, e = .response r → ¬ r.Succeeded →
    outcome = (Exchange.response { r with chunks := chunks, breaksOff := breaksOff }).told codecs limit
  /-- What arrives under a content type that says JSON has to be JSON. -/
  notJson : ∀ r text log fault position, e = .response r → r.Succeeded → r.Arrives limit →
    r.SaysJson → decodeText codecs r.charset r.chunks.flatten = .ok (text, log) →
      Json.read (String.ofList text) = .error (.malformed fault position) →
        Fails outcome "UNKNOWN_ERROR" 500
  /-- An encoding that fails on what arrives is a failure. -/
  failedCharset : ∀ r message, e = .response r → r.Succeeded → r.Arrives limit →
    '\x00' ∉ (charsetName r.charset).toList → r.chunks.flatten ≠ [] →
      codecs.decode (charsetName r.charset) r.chunks.flatten = .failed message →
        Fails outcome "UNKNOWN_ERROR" 500
  /-- The name of an encoding that is not known counts like none, … -/
  unknownCharset : ∀ r, e = .response r →
    codecs.decode (charsetName r.charset) r.chunks.flatten = .unknown →
      '\x00' ∉ (charsetName r.charset).toList →
        outcome = (Exchange.response { r with charset := none }).told codecs limit
  /-- … unless it holds a NUL. -/
  nulCharset : ∀ r, e = .response r → r.Succeeded → r.Arrives limit →
    '\x00' ∈ (charsetName r.charset).toList →
      outcome = .error ⟨"embedded null character", "UNKNOWN_ERROR", 500⟩

theorem Exchange.told_of_not_succeeded {r : Response} (hs : ¬ r.Succeeded) :
    (Exchange.response r).told codecs limit = .error (Fault.status r.status r.reason).error := by
  rw [told, answer, Response.answer_of_not_succeeded hs]
  rfl

theorem Exchange.told_of_arrives {r : Response} (hs : r.Succeeded) (h : r.Arrives limit) :
    (Exchange.response r).told codecs limit = Http.told (r.read codecs r.chunks.flatten).outcome := by
  rw [told, answer, Response.outcome_of_arrives hs h]

theorem Exchange.told_of_unknown_charset {r : Response}
    (hunknown : codecs.decode (charsetName r.charset) r.chunks.flatten = .unknown)
    (hname : '\x00' ∉ (charsetName r.charset).toList) :
    (Exchange.response r).told codecs limit =
      (Exchange.response { r with charset := none }).told codecs limit := by
  by_cases hs : r.Succeeded
  · have hg' : gather limit { r with charset := none } = gather limit r := rfl
    rw [told, told, answer, answer]
    have hends := r.ends limit
    generalize hg : gather limit r = gathered at hends hg'
    cases hends with
    | arrived =>
      rw [Response.answer_of_gather_ok hs hg,
        Response.answer_of_gather_ok (r := { r with charset := none }) hs hg',
        read_of_unknown_charset hname hunknown]
    | _ =>
      rw [Response.answer_of_gather_error hs hg,
        Response.answer_of_gather_error (r := { r with charset := none }) hs hg']
  · rw [told_of_not_succeeded hs, told_of_not_succeeded (r := { r with charset := none }) hs]

theorem classified (codecs : Text.Codecs) (limit : Int) (e : Exchange) :
    Classified codecs limit e (e.told codecs limit) where
  complete := by
    rcases ok_or_cause codecs limit e with hok | ⟨code, status, hfails, hcause⟩
    · exact .inl hok
    · right
      cases hcause with
      | status => exact .inl ⟨_, hfails⟩
      | tooLarge => exact .inr (.inl hfails)
      | timeout => exact .inr (.inr (.inl hfails))
      | connection => exact .inr (.inr (.inr (.inl hfails)))
      | other => exact .inr (.inr (.inr (.inr hfails)))
  httpError_iff status := by
    constructor
    · intro h
      generalize hcode : "HTTP_ERROR" = code at h
      cases h.cause with
      | status he hs => exact ⟨_, he, hs, rfl⟩
      | _ => exact absurd hcode (by decide)
    · rintro ⟨r, rfl, hs, rfl⟩
      rw [Exchange.told_of_not_succeeded hs]
      exact ⟨_, rfl⟩
  tooLarge_iff := by
    constructor
    · intro h
      generalize hcode : "RESPONSE_TOO_LARGE" = code at h
      generalize (413 : Int) = status at h
      cases h.cause with
      | tooLarge he hs htrips => exact ⟨_, he, hs, htrips⟩
      | _ => exact absurd hcode (by decide)
    · rintro ⟨r, rfl, hs, htrips⟩
      rw [Exchange.told, Exchange.answer, Response.outcome_of_tripsLimit hs htrips]
      exact ⟨_, rfl⟩
  timeout_iff := by
    constructor
    · intro h
      generalize hcode : "TIMEOUT" = code at h
      generalize (408 : Int) = status at h
      cases h.cause with
      | timeout hraises ht => exact ⟨_, hraises, ht⟩
      | _ => exact absurd hcode (by decide)
    · rintro ⟨f, hraises, ht⟩
      rw [Exchange.told, Exchange.outcome_of_raises hraises]
      exact (fails_raised f).1 ht
  connection_iff := by
    constructor
    · intro h
      generalize hcode : "NETWORK_ERROR" = code at h
      generalize (503 : Int) = status at h
      cases h.cause with
      | connection hraises ht hc => exact ⟨_, hraises, ht, hc⟩
      | _ => exact absurd hcode (by decide)
    · rintro ⟨f, hraises, ht, hc⟩
      rw [Exchange.told, Exchange.outcome_of_raises hraises]
      exact (fails_raised f).2.1 ht hc
  unread := by
    rintro r chunks breaksOff rfl hs
    rw [Exchange.told_of_not_succeeded hs, Exchange.told_of_not_succeeded
      (r := { r with chunks := chunks, breaksOff := breaksOff }) hs]
  notJson := by
    rintro r text log fault position rfl hs harrives hjson htext hread
    rw [Exchange.told_of_arrives hs harrives, Response.read, htext]
    dsimp only
    rw [interpret_of_malformed hjson hread]
    exact ⟨_, rfl⟩
  failedCharset := by
    rintro r message rfl hs harrives hname hbody hfailed
    rw [Exchange.told_of_arrives hs harrives, read_of_failed_charset hname hbody hfailed]
    exact ⟨_, rfl⟩
  unknownCharset := by
    rintro r rfl hunknown hname
    exact Exchange.told_of_unknown_charset hunknown hname
  nulCharset := by
    rintro r rfl hs harrives hnul
    rw [Exchange.told_of_arrives hs harrives, Response.read, decodeText_of_nul hnul]
    rfl

/-- **What a fetch ends with.** A URL that is refused is not called, and the refusal is told. Any other
is called once, with all that was given, and the outcome is classified. -/
theorem fetch_classified (codecs : Text.Codecs) (transport : Call → Exchange) (url : String) (method : Value)
    (headers : List (Key × Value)) (body timeout : Value) (limit : Int) :
    (∀ refusal, Url.refusal? url = some refusal →
      (fetch codecs transport url method headers body timeout limit).calls = [] ∧
        (fetch codecs transport url method headers body timeout limit).outcome =
          .error refusal.error ∧ refusal.error.status = 400) ∧
    (Url.refusal? url = none → ∃ call : Call,
      call.method = method ∧ call.url = url ∧ call.headers = withHeaders headers ∧
        call.body = body ∧ call.timeout = timeout ∧
        (fetch codecs transport url method headers body timeout limit).calls = [call] ∧
        Classified codecs limit (transport call)
          (fetch codecs transport url method headers body timeout limit).outcome) := by
  constructor
  · intro refusal h
    rw [fetch_of_refusal h]
    refine ⟨rfl, rfl, ?_⟩
    cases refusal <;> rfl
  · intro h
    refine ⟨_, rfl, rfl, rfl, rfl, rfl, (fetch_of_accepted h).1, ?_⟩
    rw [(fetch_of_accepted h).2]
    exact classified codecs limit _

/-- A name with a NUL is that of no encoding, and still the fetch fails where it succeeds without a
name. -/
theorem nul_charset_fails :
    (∀ bytes, Text.Charset.codecs.decode (charsetName (some "a\x00b")) bytes = .unknown) ∧
      (fetch Text.Charset.codecs (fun _ => .response
          ⟨200, some "OK", [("content-type", "application/json")], some "a\x00b", [[0x7b, 0x7d]], none⟩)
        "https://example.com/a" (.string "GET") [] .null defaultTimeout defaultLimit).outcome =
          .error ⟨"embedded null character", "UNKNOWN_ERROR", 500⟩ ∧
      (fetch Text.Charset.codecs (fun _ => .response
          ⟨200, some "OK", [("content-type", "application/json")], none, [[0x7b, 0x7d]], none⟩)
        "https://example.com/a" (.string "GET") [] .null defaultTimeout defaultLimit).outcome =
          .ok (.object []) := by
  have haccepted : Url.refusal? "https://example.com/a" = none := by decide +kernel
  have hunknown : Text.Charset.named? (charsetName (some "a\x00b")) = none := by decide +kernel
  refine ⟨fun bytes => ?_, ?_, ?_⟩
  · show Text.Charset.decodeNamed (charsetName (some "a\x00b")) bytes = .unknown
    rw [Text.Charset.decodeNamed, hunknown]
  · rw [(fetch_of_accepted haccepted).2]
    rfl
  · have htext := decodeText_encode (isUtf8_none Text.Charset.codecs) ['\x7b', '\x7d']
    have hbody : gather defaultLimit
        ⟨200, some "OK", [("content-type", "application/json")], none, [[0x7b, 0x7d]], none⟩ =
          .ok (Text.Utf8.encode ['\x7b', '\x7d']) := rfl
    rw [(fetch_of_accepted haccepted).2, Exchange.told, Exchange.answer,
      Response.answer_of_gather_ok (by decide) hbody, Response.read, htext]
    rfl

end JsonShapes.Http

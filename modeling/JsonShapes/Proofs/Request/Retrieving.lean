import JsonShapes.Proofs.Definitions.Layout
import JsonShapes.Proofs.Http.Chunking
import JsonShapes.Proofs.Json.Reading
import JsonShapes.Proofs.Request.Checking

/-! # What a request retrieves

A request ends its retrieval in one of five ways (`Retrieves`): nothing is fetched, what is fetched is
no JSON, it cannot be typed, that cannot even be told, or it is delivered with its definitions.

A response that carries a JSON text is fetched as the text itself under a content type that says text,
else as the value of the text (`Carries.told_of_read`). Objects and arrays are delivered as they were
read either way; of the values that do not nest, the text is delivered and the value is turned down
(`process_faithful`). -/

namespace JsonShapes

namespace Http

variable {codecs : Text.Codecs} {r : Response} {text : String}

/-- **A response carries a text**: it succeeded, and all its bytes, within the limit and without a
declared size, are those of the text in UTF-8. -/
structure Carries (codecs : Text.Codecs) (r : Response) (text : String) : Prop where
  succeeded : r.Succeeded
  undeclared : r.header? "content-length" = none
  unbroken : r.breaksOff = none
  utf8 : IsUtf8 codecs r.charset
  bytes : r.chunks.flatten = Text.Utf8.encode text.toList
  short : (r.chunks.flatten.length : Int) ≤ defaultLimit

/-- The content type of a response says text, and not JSON. -/
def Response.SaysText (r : Response) : Prop :=
  ¬ r.SaysJson ∧ occursIn "text/".toList ((r.header? "content-type").getD "").toList = true

theorem interpret_of_read (contentType : String) {v : Value} (hread : Json.read text = .ok v) :
    (¬ occursIn "application/json".toList contentType.toList = true ∧
        occursIn "text/".toList contentType.toList = true →
      interpret contentType text = .ok (.string text)) ∧
    (¬ (¬ occursIn "application/json".toList contentType.toList = true ∧
        occursIn "text/".toList contentType.toList = true) →
      interpret contentType text = .ok v) := by
  rw [interpret, hread]
  constructor
  · rintro ⟨hjson, htext⟩
    rw [htext, Bool.eq_false_iff.mpr hjson]
    rfl
  · intro h
    rw [if_neg]
    simpa using h

theorem Carries.told_of_read (h : Carries codecs r text) {v : Value} (hread : Json.read text = .ok v) :
    (r.SaysText → (Exchange.response r).told codecs defaultLimit = .ok (.string text)) ∧
      (¬ r.SaysText → (Exchange.response r).told codecs defaultLimit = .ok v) := by
  have hwhole : (Exchange.response r).told codecs defaultLimit = _ :=
    ((told_of_no_size (by decide) h.succeeded h.undeclared).2 h.short).1 h.unbroken
  rw [h.bytes, Response.read, decodeText_encode h.utf8] at hwhole
  dsimp only at hwhole
  obtain ⟨hplain, hvalue⟩ := interpret_of_read ((r.header? "content-type").getD "") hread
  rw [hwhole, String.ofList_toList]
  refine ⟨fun hs => ?_, fun hs => ?_⟩
  · rw [hplain hs]
    rfl
  · rw [hvalue hs]
    rfl

end Http

namespace Request

open Inference (Hint)

variable {w : World} {t : FileTree} {r : Request}

/-! ### Retrieval -/

/-- What a request fetches. -/
def fetched (w : World) (r : Request) : Http.Fetched :=
  Http.fetch w.codecs w.transport r.urlText r.method r.headers r.body r.timeout Http.defaultLimit

/-- What is told of a value that cannot be handed to the generation. -/
def notUsable : String := "The API response is not valid JSON data"

/-- **How retrieval ends**, each ending with its outcome. -/
inductive Retrieves (w : World) (r : Request) :
    Except Break (Except String (String × Value)) → Prop
  | unfetched {e : ApiError} : (r.fetched w).outcome = .error e →
      Retrieves w r (.ok (.error e.message))
  | unusable {body : Value} : (r.fetched w).outcome = .ok body → Json.isUsable body = false →
      Retrieves w r (.ok (.error notUsable))
  | ungenerated {body : Value} {rejection : Rejection} : (r.fetched w).outcome = .ok body →
      Json.isUsable body = true →
        (Definitions.generate (dataOf body) r.rootHint false w.now).outcome =
            .error (.rejected rejection) →
          Retrieves w r (.ok (.error rejection.text))
  | untold {body : Value} : (r.fetched w).outcome = .ok body → Json.isUsable body = true →
      (Definitions.generate (dataOf body) r.rootHint false w.now).outcome = .error .untold →
        Retrieves w r (.error .unshownName)
  | generated {body : Value} {types : String} : (r.fetched w).outcome = .ok body →
      Json.isUsable body = true →
        (Definitions.generate (dataOf body) r.rootHint false w.now).outcome = .ok types →
          Retrieves w r (.ok (.ok (types, dataOf body)))

/-- **Every retrieval ends in one of these ways**, with that outcome. -/
theorem retrieves (w : World) (r : Request) : Retrieves w r (r.retrieve w).1 := by
  unfold retrieve
  dsimp only
  split
  · rename_i e he
    exact .unfetched he
  · rename_i body hbody
    split
    · rename_i husable
      exact .unusable hbody (by simpa using husable)
    · rename_i husable
      rw [Bool.not_eq_true, Bool.not_eq_false'] at husable
      split
      · rename_i rejection hrejection
        exact .ungenerated hbody husable hrejection
      · rename_i huntold
        exact .untold hbody husable huntold
      · rename_i types htypes
        exact .generated hbody husable htypes

theorem outcome_fetched (hu : Url.refusal? r.urlText = none) : (r.fetched w).outcome =
    (w.transport ⟨r.method, r.urlText, Http.withHeaders r.headers, r.body, r.timeout⟩).told
      w.codecs Http.defaultLimit :=
  (Http.fetch_of_accepted hu).2

theorem retrieve_of_unusable {body : Value} (hbody : (r.fetched w).outcome = .ok body)
    (husable : Json.isUsable body = false) : (r.retrieve w).1 = .ok (.error notUsable) := by
  rw [fetched] at hbody
  unfold retrieve
  simp only [hbody, husable]
  rfl

theorem retrieve_of_untold {body : Value} (hbody : (r.fetched w).outcome = .ok body)
    (husable : Json.isUsable body = true)
    (huntold : (Definitions.generate (dataOf body) r.rootHint false w.now).outcome = .error .untold) :
    (r.retrieve w).1 = .error .unshownName := by
  rw [fetched] at hbody
  unfold retrieve
  simp only [hbody, husable, huntold]
  rfl

/-- **What is fetched, can be used and is typed** is delivered as the value it stands for. -/
theorem retrieve_of_generated {body : Value} {types : String}
    (hbody : (r.fetched w).outcome = .ok body) (husable : Json.isUsable body = true)
    (htypes : (Definitions.generate (dataOf body) r.rootHint false w.now).outcome = .ok types) :
    (r.retrieve w).1 = .ok (.ok (types, dataOf body)) := by
  rw [fetched] at hbody
  unfold retrieve
  simp only [hbody, husable, htypes]
  rfl

theorem run_of_unsaved (hsave : r.saveToFile = false) {found : Except String (String × Value)}
    (h : (r.retrieve w).1 = .ok found) : (r.run w t).outcome =
      .ok ⟨r.url, found.map fun found => ⟨found.1, found.2, none⟩⟩ := by
  unfold run
  split
  · rename_i hretrieve
    rw [hretrieve] at h
    cases h
  · rename_i message calls log hretrieve
    rw [hretrieve] at h
    cases h
    rfl
  · rename_i types data calls log hretrieve
    rw [hretrieve] at h
    cases h
    rw [hsave]
    rfl

/-! ### Names -/

/-- The name of the root type: the text that is asked for, and where that is missing or empty the one
that the URL suggests. -/
def rootName (r : Request) : String :=
  match r.rootTypeName with
  | .string name => if name.isEmpty then suggested else name
  | _ => suggested
where
  suggested : String := Url.suggestRootName r.urlText Url.rootNameEnding defaultRootName

/-- A root name is asked for as a text, or not at all. -/
def NamesByText (r : Request) : Prop :=
  r.rootTypeName = .null ∨ ∃ name, r.rootTypeName = .string name

theorem rootHint_eq (h : r.NamesByText) : r.rootHint = .text r.rootName := by
  rcases h with hnull | ⟨name, hname⟩
  · rw [rootHint, rootName, hnull]
    rfl
  · rw [rootHint, rootName, hname]
    cases hempty : name.isEmpty <;> simp [Value.isGiven, hempty, hintOf, rootName.suggested]

/-! ### JSON texts -/

/-- A value with parts: an object or an array. -/
def HasParts (v : Value) : Prop := (∃ fields, v = .object fields) ∨ ∃ items, v = .array items

/-- A value that is a number or a truth value. -/
def IsPlain (v : Value) : Prop := (∃ b, v = .bool b) ∨ (∃ i, v = .int i) ∨ ∃ x, v = .float x

theorem isUsable_of_hasParts {text : String} {v : Value} (hread : Json.read text = .ok v)
    (hdeep : v.nesting ≤ Json.maxDepth) (h : HasParts v) : Json.isUsable v = true ∧ dataOf v = v := by
  have hwritable : Json.canWrite v = true := by
    rw [Json.canWrite, Json.isWritable_of_read hread, Bool.true_and, decide_eq_true hdeep]
  rcases h with ⟨fields, rfl⟩ | ⟨items, rfl⟩
  · exact ⟨hwritable, rfl⟩
  · exact ⟨hwritable, rfl⟩

theorem isUsable_of_isPlain {v : Value} (h : IsPlain v) : Json.isUsable v = false := by
  rcases h with ⟨b, rfl⟩ | ⟨i, rfl⟩ | ⟨x, rfl⟩ <;> rfl

theorem isUsable_text {text : String} {v : Value} (hread : Json.read text = .ok v) :
    Json.isUsable (.string text) = true ∧ dataOf (.string text) = v := by
  rw [Json.isUsable, dataOf, hread]
  exact ⟨rfl, rfl⟩

/-- How deep a value may be nested for the recursions over it: each takes up to two calls a level, and
systems are given a thousand calls at least. -/
def depthLimit : ℕ := 400

/-- **A request meets a response that carries a JSON text** of a value that is not nested too deep. -/
structure Meets (w : World) (r : Request) (response : Http.Response) (text : String)
    (value : Value) : Prop where
  accepted : Url.refusal? r.urlText = none
  answered : w.transport ⟨r.method, r.urlText, Http.withHeaders r.headers, r.body, r.timeout⟩ =
    .response response
  carries : Http.Carries w.codecs response text
  reads : Json.read text = .ok value
  nested : value.nesting ≤ depthLimit

variable {response : Http.Response} {text : String} {value : Value}

theorem Meets.nesting_le (h : Meets w r response text value) : value.nesting ≤ Json.maxDepth :=
  h.nested.trans (by decide)

/-- **A value is retrieved as it was read**, with its definitions, when it has parts or the content type
says text. -/
theorem retrieve_of_usable (h : Meets w r response text value) (hname : r.NamesByText)
    (hvalue : value ≠ .null) {stamp : String} (hs : w.now.stamp? = some stamp)
    (hbody : response.SaysText ∨ HasParts value) :
    ∃ types, (Definitions.generate value (.text r.rootName) false w.now).outcome = .ok types ∧
      (r.retrieve w).1 = .ok (.ok (types, value)) := by
  have hkeys := Inference.shortKeys_of_isWritable (Json.isWritable_of_read h.reads)
  obtain ⟨types, htypes, -⟩ := Definitions.exists_generate false hvalue hkeys r.rootName hs
  obtain ⟨hplain, hparsed⟩ := h.carries.told_of_read h.reads
  have hfetched : (r.fetched w).outcome = _ := outcome_fetched h.accepted
  rw [h.answered] at hfetched
  refine ⟨types, htypes, ?_⟩
  by_cases hs : response.SaysText
  · obtain ⟨husable, hdata⟩ := isUsable_text h.reads
    rw [← hdata, ← rootHint_eq hname] at htypes
    rw [retrieve_of_generated (hfetched.trans (hplain hs)) husable htypes, hdata]
  · obtain ⟨husable, hdata⟩ := isUsable_of_hasParts h.reads h.nesting_le (hbody.resolve_left hs)
    rw [← hdata, ← rootHint_eq hname] at htypes
    rw [retrieve_of_generated (hfetched.trans (hparsed hs)) husable htypes, hdata]

theorem retrieve_of_isPlain (h : Meets w r response text value) (hs : ¬ response.SaysText)
    (hplain : IsPlain value) : (r.retrieve w).1 = .ok (.error notUsable) := by
  have hfetched : (r.fetched w).outcome = _ := outcome_fetched h.accepted
  rw [h.answered, (h.carries.told_of_read h.reads).2 hs] at hfetched
  exact retrieve_of_unusable hfetched (isUsable_of_isPlain hplain)

/-- **Processing is faithful.** A value that passes the checks is a request; and where it meets a
response that carries a JSON text, in any chunks and under any content type, and is not to be saved, the
value of the text is reported with its definitions, when it is an object or an array or the content type
says text. A number or a truth value is turned down under any other content type. -/
theorem process_faithful (w : World) (t : FileTree) (v : Value) (hv : fault? v = none) :
    ∃ r, ofValue v = .ok r ∧ r.url = Value.fieldOf (fieldsOf v) "url" ∧
      ∀ response text value stamp, Meets w r response text value → r.NamesByText →
        r.saveToFile = false → value ≠ .null → w.now.stamp? = some stamp →
          (response.SaysText ∨ HasParts value → ∃ types,
            (Definitions.generate value (.text r.rootName) false w.now).outcome = .ok types ∧
              (process w t v).outcome = .ok ⟨r.url, .ok ⟨types, value, none⟩⟩) ∧
          (¬ response.SaysText → IsPlain value →
            (process w t v).outcome = .ok ⟨r.url, .error notUsable⟩) := by
  obtain ⟨r, hr, -, hurl, -, hprocess⟩ := process_of_accepted hv
  refine ⟨r, hr, hurl, fun response text value stamp h hname hsave hvalue hs => ?_⟩
  rw [hprocess]
  refine ⟨fun hbody => ?_, fun hs hplain => run_of_unsaved hsave (retrieve_of_isPlain h hs hplain)⟩
  obtain ⟨types, htypes, hfound⟩ := retrieve_of_usable h hname hvalue hs hbody
  exact ⟨types, htypes, run_of_unsaved hsave hfound⟩

/-- A world in which every call has the same answer. -/
def answering (response : Http.Response) : World :=
  ⟨⟨[], ['/']⟩, ⟨⟨2024, 1, 2⟩, 3, 4, 5, 0, none⟩, fun _ => .response response,
    Text.Charset.codecs, .strict⟩

/-- A response with a body in two chunks. -/
def bodyInTwo (contentType : String) (front back : List UInt8) : Http.Response :=
  ⟨200, some "OK", [("content-type", contentType)], none, [front, back], none⟩

/-- An array that is cut between its bracket and its item. -/
theorem process_faithful_array :
    fault? (.object [(.name "url", .string "https://example.com/a")]) = none ∧
      ∃ types, (process (answering (bodyInTwo "application/json" [0x5B] [0x31, 0x5D])) ⟨[]⟩
        (.object [(.name "url", .string "https://example.com/a")])).outcome =
          .ok ⟨.string "https://example.com/a", .ok ⟨types, .array [.int 1], none⟩⟩ := by
  have hv : fault? (.object [(.name "url", .string "https://example.com/a")]) = none := by
    decide +kernel
  obtain ⟨r, hr, hurl, hall⟩ :=
    process_faithful (answering (bodyInTwo "application/json" [0x5B] [0x31, 0x5D])) ⟨[]⟩ _ hv
  cases hr
  obtain ⟨hdelivered, -⟩ := hall (bodyInTwo "application/json" [0x5B] [0x31, 0x5D]) "[1]"
    (.array [.int 1]) "2024-01-02T03:04:05.000Z"
    ⟨by decide +kernel, rfl, ⟨by decide, rfl, rfl, Http.isUtf8_none _, by decide, by decide⟩, rfl,
      by decide⟩
    (.inl rfl) rfl nofun (by decide +kernel)
  obtain ⟨types, -, houtcome⟩ := hdelivered (.inr (.inr ⟨_, rfl⟩))
  exact ⟨hv, types, houtcome⟩

/-- A number is valid JSON, and turned down. -/
theorem number_turned_down :
    ∃ r, ofValue (.object [(.name "url", .string "https://example.com/a")]) = .ok r ∧
      fault? (.object [(.name "url", .string "https://example.com/a")]) = none ∧
      Meets (answering (bodyInTwo "application/json" [0x35] [])) r
        (bodyInTwo "application/json" [0x35] []) "5" (.int 5) ∧
      r.NamesByText ∧ r.saveToFile = false ∧
      (process (answering (bodyInTwo "application/json" [0x35] [])) ⟨[]⟩
        (.object [(.name "url", .string "https://example.com/a")])).outcome =
          .ok ⟨.string "https://example.com/a", .error notUsable⟩ := by
  have hv : fault? (.object [(.name "url", .string "https://example.com/a")]) = none := by
    decide +kernel
  obtain ⟨r, hr, -, hurl, -, hprocess⟩ := process_of_accepted hv
  have hmeets : Meets (answering (bodyInTwo "application/json" [0x35] [])) r
      (bodyInTwo "application/json" [0x35] []) "5" (.int 5) := by
    cases hr
    exact ⟨by decide +kernel, rfl, ⟨by decide, rfl, rfl, Http.isUtf8_none _, by decide, by decide⟩, rfl,
      by decide⟩
  have hname : r.NamesByText := by
    cases hr
    exact .inl rfl
  have hsave : r.saveToFile = false := by
    cases hr
    rfl
  refine ⟨r, hr, hv, hmeets, hname, hsave, ?_⟩
  rw [hprocess,
    run_of_unsaved hsave (retrieve_of_isPlain hmeets (fun hs => hs.1 rfl) (.inr (.inl ⟨5, rfl⟩))), hurl]
  rfl

end Request

end JsonShapes

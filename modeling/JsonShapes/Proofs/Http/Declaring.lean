import JsonShapes.Proofs.Http.Chunking
import JsonShapes.Proofs.Http.Fetching

/-! # What a declared size does

The header that declares the size of a body is any text. A decimal numeral, in the digits of any script,
declares its value; any other text should count like none. So a declared size can only shorten the
read: to nothing, when it is above the limit (`Response.OnlyShortens`).

That holds for every text except those that are made of digits and have no value all the same, for one
of their digits is not decimal or they are too many (`HasNoValue`); with such a header nothing is fetched
at all (`declared_size_only_shortens_iff`). -/

namespace JsonShapes.Http

open Text

/-! ### Numerals -/

/-- **A decimal numeral**: decimal digits of any script, one at least. -/
def IsNumeral (s : String) : Prop := s ≠ "" ∧ ∀ c ∈ s.toList, isDecimal c = true

/-- The value of a decimal digit. -/
def digitValue (c : Char) : ℕ := (decimalValue? c).getD 0

/-- The number that a numeral writes; its last digit counts ones. -/
def numeralValue (s : String) : ℕ := Nat.ofDigits 10 (s.toList.reverse.map digitValue)

/-- **A text of digits without a value**: one of them is not decimal, or they are too many. -/
def HasNoValue (s : String) : Prop :=
  s ≠ "" ∧ (∀ c ∈ s.toList, isDigitValued c = true) ∧
    ((∃ c ∈ s.toList, isDecimal c = false) ∨ Json.maxIntegerDigits < s.toList.length)

variable {s : String}

theorem IsNumeral.digitValued (h : IsNumeral s) : ∀ c ∈ s.toList, isDigitValued c = true := by
  intro c hc
  simp [isDigitValued, h.2 c hc]

theorem numeralValue_eq_foldl (s : String) :
    numeralValue s = s.toList.foldl (fun n c => n * 10 + (decimalValue? c).getD 0) 0 := by
  unfold numeralValue
  rw [Nat.ofDigits_eq_foldr, List.foldr_map, List.foldr_reverse]
  have hstep : (fun (n : ℕ) (c : Char) => ((digitValue c : ℕ) : ℕ) + 10 * n) =
      fun n c => n * 10 + (decimalValue? c).getD 0 := by
    funext n c
    unfold digitValue
    omega
  exact congrArg (fun step => List.foldl step 0 s.toList) hstep

theorem readSize_of_numeral (h : IsNumeral s) (hshort : s.toList.length ≤ Json.maxIntegerDigits) :
    readSize s.toList = .ok (numeralValue s) := by
  have hdigits : s.toList.takeWhile isDecimal = s.toList := List.takeWhile_eq_self_iff.mpr h.2
  unfold readSize
  rw [hdigits, numeralValue_eq_foldl]
  dsimp only
  rw [if_neg (by omega), if_neg (by omega)]

example : numeralValue "٠٢٥" = 25 := by decide

theorem readSize_of_noValue (h : HasNoValue s) : ∃ message, readSize s.toList = .error message := by
  obtain ⟨-, -, hno⟩ := h
  have hle : (s.toList.takeWhile isDecimal).length ≤ s.toList.length :=
    (List.takeWhile_prefix _).length_le
  by_cases hlong : (s.toList.takeWhile isDecimal).length > Json.maxIntegerDigits
  · exact ⟨_, if_pos hlong⟩
  · have hpart : (s.toList.takeWhile isDecimal).length < s.toList.length := by
      rcases hno with ⟨c, hc, hdecimal⟩ | hmany
      · refine lt_of_le_of_ne hle fun heq => ?_
        have hall := List.takeWhile_eq_self_iff.mp ((List.takeWhile_prefix _).eq_of_length heq)
        rw [hall c hc] at hdecimal
        cases hdecimal
      · omega
    unfold readSize
    dsimp only
    rw [if_neg hlong, if_pos hpart]
    exact ⟨_, rfl⟩

/-! ### Declared sizes -/

theorem declaredSize_of_digits (hne : s ≠ "") (h : ∀ c ∈ s.toList, isDigitValued c = true) :
    declaredSize (some s) = some (readSize s.toList) := by
  have hdigits : (!s.toList.isEmpty && s.toList.all isDigitValued) = true := by
    simp only [Bool.and_eq_true, Bool.not_eq_true', List.isEmpty_eq_false_iff, List.all_eq_true]
    exact ⟨by simpa using hne, h⟩
  exact if_pos hdigits

theorem hasNoValue_iff_of_numeral (h : IsNumeral s) :
    HasNoValue s ↔ Json.maxIntegerDigits < s.toList.length := by
  constructor
  · rintro ⟨-, -, ⟨c, hc, hdecimal⟩ | hmany⟩
    · rw [h.2 c hc] at hdecimal
      cases hdecimal
    · exact hmany
  · exact fun hmany => ⟨h.1, h.digitValued, .inr hmany⟩

theorem declaredSize_of_numeral (h : IsNumeral s) (hvalue : ¬ HasNoValue s) :
    declaredSize (some s) = some (.ok (numeralValue s)) := by
  have hshort : s.toList.length ≤ Json.maxIntegerDigits := by
    have := (hasNoValue_iff_of_numeral h).not.mp hvalue
    omega
  rw [declaredSize_of_digits h.1 h.digitValued, readSize_of_numeral h hshort]

/-- **What is no numeral declares nothing**, unless it is made of digits. -/
theorem declaredSize_of_no_numeral (h : ¬ IsNumeral s) (hvalue : ¬ HasNoValue s) :
    declaredSize (some s) = none := by
  have hdigits : ¬ (!s.toList.isEmpty && s.toList.all isDigitValued) = true := by
    simp only [Bool.and_eq_true, Bool.not_eq_true', List.isEmpty_eq_false_iff, List.all_eq_true]
    rintro ⟨hne, hall⟩
    have hs : s ≠ "" := by simpa using hne
    obtain ⟨c, hc, hdecimal⟩ : ∃ c ∈ s.toList, isDecimal c = false := by
      by_contra hnone
      push Not at hnone
      exact h ⟨hs, fun c hc => by simpa using hnone c hc⟩
    exact hvalue ⟨hs, hall, .inl ⟨c, hc, hdecimal⟩⟩
  exact if_neg hdigits

/-! ### Responses -/

variable {codecs : Text.Codecs} {limit : Int} {r : Response}

/-- Whether a header declares the size of the body. -/
def declaresSize (h : String × String) : Bool := lower h.1.toList == "content-length".toList

/-- **A response without the header that declares its size.** -/
def Response.undeclared (r : Response) : Response :=
  { r with headers := r.headers.filter fun h => !declaresSize h }

namespace Response

theorem header?_undeclared (r : Response) : r.undeclared.header? "content-length" = none := by
  unfold header? undeclared
  rw [Option.map_eq_none_iff, List.find?_eq_none]
  intro h hmem
  rw [List.mem_reverse, List.mem_filter] at hmem
  simpa [declaresSize] using hmem.2

theorem header?_undeclared_of_ne {name : String} (hname : name ≠ "content-length") :
    r.undeclared.header? name = r.header? name := by
  unfold header? undeclared
  rw [← List.filter_reverse, List.find?_filter]
  congr 2
  funext h
  have hother : lower h.1.toList = name.toList → declaresSize h = false := by
    intro heq
    rw [declaresSize, heq, beq_eq_false_iff_ne]
    exact fun hsame => hname (String.toList_injective hsame)
  by_cases heq : lower h.1.toList = name.toList
  · simp [heq, hother heq]
  · simp [heq]

theorem read_undeclared (body : List UInt8) : r.undeclared.read codecs body = r.read codecs body := by
  unfold read
  rw [header?_undeclared_of_ne (by decide)]
  rfl

/-- **Where no header stands against the body**, the response amounts to the same without it. -/
theorem answer_undeclared (h : r.Admitted limit) :
    r.undeclared.answer codecs limit = r.answer codecs limit := by
  have hadmitted : r.undeclared.Admitted limit := admitted_of_no_size r.header?_undeclared
  have hgather : gather limit r.undeclared = gather limit r := by
    rw [gather_of_admitted hadmitted, gather_of_admitted h]
    rfl
  unfold answer
  rw [hgather]
  simp only [read_undeclared]
  rfl

theorem admitted_of_no_numeral {c : String} (hc : r.header? "content-length" = some c)
    (h : ¬ IsNumeral c) (hvalue : ¬ HasNoValue c) : r.Admitted limit := by
  have hsize := declaredSize_of_no_numeral h hvalue
  rw [← hc] at hsize
  refine ⟨?_, fun message hmessage => ?_⟩
  · rintro ⟨size, hok, -⟩
    cases hsize.symm.trans hok
  · cases hsize.symm.trans hmessage

theorem admitted_of_le {c : String} (hc : r.header? "content-length" = some c) (h : IsNumeral c)
    (hvalue : ¬ HasNoValue c) (hle : (numeralValue c : Int) ≤ limit) : r.Admitted limit := by
  have hsize := declaredSize_of_numeral h hvalue
  rw [← hc] at hsize
  refine ⟨?_, fun message hmessage => ?_⟩
  · rintro ⟨size, hok, hlong⟩
    cases hsize.symm.trans hok
    omega
  · cases hsize.symm.trans hmessage

end Response

/-! ### Fetches -/

/-- What holds of every fetch of an accepted URL that is answered by `r`. -/
def Response.Fetches (limit : Int) (r : Response) (P : Fetched → Prop) : Prop :=
  ∀ (codecs : Text.Codecs) (transport : Call → Exchange) (url : String) (method : Value)
    (headers : List (Key × Value)) (body timeout : Value), Url.refusal? url = none →
      transport ⟨method, url, withHeaders headers, body, timeout⟩ = .response r →
        P (fetch codecs transport url method headers body timeout limit)

/-- **Two answers that no fetch tells apart**, by outcome, calls or log. -/
def Response.FetchedAs (limit : Int) (r r' : Response) : Prop :=
  ∀ (codecs : Text.Codecs) (transport transport' : Call → Exchange) (url : String) (method : Value)
    (headers : List (Key × Value)) (body timeout : Value),
      transport ⟨method, url, withHeaders headers, body, timeout⟩ = .response r →
        transport' ⟨method, url, withHeaders headers, body, timeout⟩ = .response r' →
          fetch codecs transport url method headers body timeout limit =
            fetch codecs transport' url method headers body timeout limit

/-- **A header `c` only shortens the read**: a numeral above the limit leads to the error of the size,
and any other text to the same fetch as no header. -/
structure Response.OnlyShortens (limit : Int) (c : String) (r : Response) : Prop where
  unheeded : ¬ IsNumeral c → r.FetchedAs limit r.undeclared
  tooLarge : IsNumeral c → limit < (numeralValue c : Int) →
    r.Fetches limit fun fetched => Fails fetched.outcome "RESPONSE_TOO_LARGE" 413
  within : IsNumeral c → (numeralValue c : Int) ≤ limit → r.FetchedAs limit r.undeclared

theorem fetch_congr {transport transport' : Call → Exchange} {url : String} {method : Value}
    {headers : List (Key × Value)} {body timeout : Value}
    (h : (transport ⟨method, url, withHeaders headers, body, timeout⟩).answer codecs limit =
      (transport' ⟨method, url, withHeaders headers, body, timeout⟩).answer codecs limit) :
    fetch codecs transport url method headers body timeout limit =
      fetch codecs transport' url method headers body timeout limit := by
  simp only [fetch, h]

theorem Response.fetchedAs_undeclared (h : r.Admitted limit) : r.FetchedAs limit r.undeclared := by
  intro codecs transport transport' url method headers body timeout ht ht'
  apply fetch_congr
  rw [ht, ht', Exchange.answer, Exchange.answer, Response.answer_undeclared h]

theorem Response.fails_of_noValue {c : String} (hs : r.Succeeded)
    (hc : r.header? "content-length" = some c) (h : HasNoValue c) :
    r.Fetches limit fun fetched => Fails fetched.outcome "UNKNOWN_ERROR" 500 := by
  intro codecs transport url method headers body timeout hu ht
  obtain ⟨message, hmessage⟩ := readSize_of_noValue h
  have hdeclares : r.DeclaresNoValue message := by
    rw [Response.DeclaresNoValue, hc, declaredSize_of_digits h.1 h.2.1, hmessage]
  rw [(fetch_of_accepted hu).2, ht, Exchange.told, Exchange.answer,
    Response.answer_of_gather_error hs (Response.gather_of_declaresNoValue hdeclares)]
  exact ⟨_, rfl⟩

theorem Response.onlyShortens {c : String} (hs : r.Succeeded)
    (hc : r.header? "content-length" = some c) (h : ¬ HasNoValue c) : r.OnlyShortens limit c where
  unheeded hnumeral := fetchedAs_undeclared (admitted_of_no_numeral hc hnumeral h)
  tooLarge hnumeral hlong := by
    intro codecs transport url method headers body timeout hu ht
    have htrips : r.TripsLimit limit := by
      refine .inl ⟨numeralValue c, ?_, hlong⟩
      rw [hc, declaredSize_of_numeral hnumeral h]
    rw [(fetch_of_accepted hu).2, ht, Exchange.told, Exchange.answer,
      Response.outcome_of_tripsLimit hs htrips]
    exact ⟨_, rfl⟩
  within hnumeral hle := fetchedAs_undeclared (admitted_of_le hc hnumeral h hle)

/-- A response with an empty body that declares a size. -/
def declaring (c : String) : Response := ⟨200, some "OK", [("Content-Length", c)], none, [], none⟩

theorem succeeded_declaring (c : String) : (declaring c).Succeeded := by
  show (200 : Int) ≤ 200 ∧ (200 : Int) < 300
  decide

theorem header?_declaring (c : String) : (declaring c).header? "content-length" = some c ∧
    (declaring c).header? "content-type" = none := by
  have hname : lower "Content-Length".toList = "content-length".toList := by decide +kernel
  unfold Response.header? declaring
  rw [List.reverse_singleton, List.find?_singleton, List.find?_singleton, hname]
  exact ⟨rfl, rfl⟩

/-- Without the header the empty body is told as the empty text. -/
theorem told_declaring_undeclared (codecs : Text.Codecs) (limit : Int) (c : String) :
    (Exchange.response (declaring c).undeclared).told codecs limit = .ok (.string "") := by
  have harrives : (declaring c).undeclared.Arrives limit :=
    ⟨admitted_of_no_size (declaring c).header?_undeclared, not_exceeds_nil, rfl⟩
  rw [Exchange.told_of_arrives (r := (declaring c).undeclared) (succeeded_declaring c) harrives,
    Response.read_undeclared, Response.read, (header?_declaring c).2]
  have hempty : decodeText codecs (declaring c).charset (declaring c).undeclared.chunks.flatten =
      .ok ([], []) := decodeText_encode (isUtf8_none codecs) []
  rw [hempty]
  rfl

theorem not_onlyShortens_declaring {c : String} (h : HasNoValue c) :
    ¬ (declaring c).OnlyShortens limit c := by
  rintro ⟨hunheeded, htooLarge, hwithin⟩
  have haccepted : Url.refusal? "https://example.com/a" = none := by decide +kernel
  have hno : (declaring c).Fetches limit fun fetched => Fails fetched.outcome "UNKNOWN_ERROR" 500 :=
    Response.fails_of_noValue (succeeded_declaring c) (header?_declaring c).1 h
  have hfails := hno Text.Charset.codecs (fun _ => .response (declaring c)) "https://example.com/a" .null
    [] .null .null haccepted rfl
  have hdiffers : ¬ (declaring c).FetchedAs limit (declaring c).undeclared := by
    intro hsame
    have hok : (fetch Text.Charset.codecs (fun _ => .response (declaring c).undeclared)
        "https://example.com/a" .null [] .null .null limit).outcome = .ok (.string "") := by
      rw [(fetch_of_accepted haccepted).2, told_declaring_undeclared]
    rw [hsame _ _ (fun _ => .response (declaring c).undeclared) _ _ _ _ _ rfl rfl, hok] at hfails
    obtain ⟨text, htext⟩ := hfails
    cases htext
  by_cases hnumeral : IsNumeral c
  · by_cases hlong : limit < (numeralValue c : Int)
    · have hlarge := htooLarge hnumeral hlong Text.Charset.codecs (fun _ => .response (declaring c))
        "https://example.com/a" .null [] .null .null haccepted rfl
      exact absurd (hfails.eq hlarge).1 (by decide)
    · exact hdiffers (hwithin hnumeral (by omega))
  · exact hdiffers (hunheeded hnumeral)

/-- **A declared size can only shorten the read, unless it is made of digits and has no value.** With any
other header the fetch fails for its size when the header is a numeral above the limit, and is the same
as without the header when it is not; with such a one every fetch fails. -/
theorem declared_size_only_shortens_iff (limit : Int) (c : String) :
    ((∀ r : Response, r.Succeeded → r.header? "content-length" = some c → r.OnlyShortens limit c) ↔
      ¬ HasNoValue c) ∧
    (HasNoValue c → ∀ r : Response, r.Succeeded → r.header? "content-length" = some c →
      r.Fetches limit fun fetched => Fails fetched.outcome "UNKNOWN_ERROR" 500) := by
  refine ⟨⟨fun hall h => ?_, fun h r hs hc => Response.onlyShortens hs hc h⟩,
    fun h r hs hc => Response.fails_of_noValue hs hc h⟩
  exact not_onlyShortens_declaring h (hall _ (succeeded_declaring c) (header?_declaring c).1)

/-- A superscript two is no numeral, and the fetch fails where it succeeds without the header. -/
theorem superscript_size_fails :
    ¬ IsNumeral "²" ∧
      Fails (fetch Text.Charset.codecs (fun _ => .response (declaring "²")) "https://example.com/a"
        (.string "GET") [] .null defaultTimeout defaultLimit).outcome "UNKNOWN_ERROR" 500 ∧
      (fetch Text.Charset.codecs (fun _ => .response (declaring "²").undeclared) "https://example.com/a"
        (.string "GET") [] .null defaultTimeout defaultLimit).outcome = .ok (.string "") := by
  have haccepted : Url.refusal? "https://example.com/a" = none := by decide +kernel
  have hchars : "²".toList = ['²'] := rfl
  have hdecimal : isDecimal '²' = false := by decide
  have hdigit : isDigitValued '²' = true := by decide
  have hno : HasNoValue "²" :=
    ⟨by decide, by simp [hchars, hdigit], .inl ⟨'²', by simp [hchars], hdecimal⟩⟩
  refine ⟨fun h => ?_, ?_, ?_⟩
  · exact Bool.false_ne_true (hdecimal.symm.trans (h.2 '²' (by simp [hchars])))
  · exact Response.fails_of_noValue (succeeded_declaring _) (header?_declaring _).1 hno _ _ _ _ _ _ _
      haccepted rfl
  · rw [(fetch_of_accepted haccepted).2, told_declaring_undeclared]

end JsonShapes.Http

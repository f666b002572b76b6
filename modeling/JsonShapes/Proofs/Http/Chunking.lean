import JsonShapes.Proofs.Http.Outcomes

/-! # Chunks do not show

Without a declared size, and for a limit from zero on, a fetch depends on the bytes of the body and not
on how they were cut: it fails as too large exactly when they are more than the limit, and otherwise with
the failure that breaks the body off, or with what the whole amounts to (`chunking_invisible`). -/

namespace JsonShapes.Http

variable {codecs : Text.Codecs} {limit : Int} {r : Response}

theorem admitted_of_no_size (h : r.header? "content-length" = none) : r.Admitted limit := by
  have hsize : declaredSize (r.header? "content-length") = none := by rw [h, declaredSize]
  refine ⟨?_, fun message hmessage => ?_⟩
  · rintro ⟨size, hok, -⟩
    cases hsize.symm.trans hok
  · cases hsize.symm.trans hmessage

theorem tripsLimit_iff (hl : 0 ≤ limit) (h : r.header? "content-length" = none) :
    r.TripsLimit limit ↔ limit < (r.chunks.flatten.length : Int) := by
  have hadmitted : r.Admitted limit := admitted_of_no_size h
  rw [Response.TripsLimit, exceeds_iff hl]
  exact ⟨fun htrips => htrips.elim (fun hsize => absurd hsize hadmitted.1) (·.2),
    fun hlong => .inr ⟨hadmitted, hlong⟩⟩

/-- **What a response without a declared size is told as**: the error of its size, the failure that
breaks it off, or what its bytes amount to. -/
theorem told_of_no_size (hl : 0 ≤ limit) (hs : r.Succeeded)
    (h : r.header? "content-length" = none) :
    (limit < (r.chunks.flatten.length : Int) →
      (Exchange.response r).told codecs limit = .error Fault.tooLarge.error) ∧
    ((r.chunks.flatten.length : Int) ≤ limit →
      (r.breaksOff = none →
        (Exchange.response r).told codecs limit = told (r.read codecs r.chunks.flatten).outcome) ∧
      ∀ f, r.breaksOff = some f → (Exchange.response r).told codecs limit = .error f.fault.error) := by
  have hadmitted : r.Admitted limit := admitted_of_no_size h
  refine ⟨fun hlong => ?_, fun hshort => ?_⟩
  · rw [Exchange.told, Exchange.answer,
      Response.outcome_of_tripsLimit hs ((tripsLimit_iff hl h).mpr hlong)]
    rfl
  · have hwithin : ¬ Exceeds limit r.chunks := by
      rw [exceeds_iff hl]
      omega
    refine ⟨fun hbreaks => ?_, fun f hbreaks => ?_⟩
    · have harrives : r.Arrives limit := ⟨hadmitted, hwithin, hbreaks⟩
      rw [Exchange.told, Exchange.answer, Response.outcome_of_arrives hs harrives]
    · have hraises : (Exchange.response r).Raises limit f := ⟨hs, hadmitted, hwithin, hbreaks⟩
      rw [Exchange.told, Exchange.outcome_of_raises hraises]
      rfl

theorem told_of_chunks (hl : 0 ≤ limit) (hs : r.Succeeded)
    (h : r.header? "content-length" = none) {chunks : List (List UInt8)}
    (hchunks : chunks.flatten = r.chunks.flatten) :
    (Exchange.response { r with chunks := chunks }).told codecs limit =
      (Exchange.response r).told codecs limit := by
  obtain ⟨hlong, hshort⟩ := told_of_no_size hl hs h
  obtain ⟨hlong', hshort'⟩ := told_of_no_size (r := { r with chunks := chunks }) hl hs h
  simp only [hchunks] at hlong' hshort'
  by_cases hsize : limit < (r.chunks.flatten.length : Int)
  · rw [hlong hsize, hlong' hsize]
  · obtain ⟨hwhole, hbroken⟩ := hshort (by omega)
    obtain ⟨hwhole', hbroken'⟩ := hshort' (by omega)
    rcases Option.eq_none_or_eq_some r.breaksOff with hbreaks | ⟨f, hbreaks⟩
    · rw [hwhole hbreaks, hwhole' hbreaks]
      rfl
    · rw [hbroken f hbreaks, hbroken' f hbreaks]

/-- **Chunks do not show, and the limit is exact**, for a response that succeeded and declares no size:
the fetch fails as too large exactly when the bytes are more than the limit; else it ends with what the
whole amounts to, or with the failure that broke the body off; and it ends alike for every way to cut
the same bytes. -/
theorem chunking_invisible (codecs : Text.Codecs) (transport : Call → Exchange) (url : String)
    (method : Value) (headers : List (Key × Value)) (body timeout : Value) (limit : Int) (hl : 0 ≤ limit)
    (hu : Url.refusal? url = none) (r : Response) (hs : r.Succeeded)
    (hsize : r.header? "content-length" = none)
    (ht : transport ⟨method, url, withHeaders headers, body, timeout⟩ = .response r) :
    (Fails (fetch codecs transport url method headers body timeout limit).outcome
      "RESPONSE_TOO_LARGE" 413 ↔ limit < (r.chunks.flatten.length : Int)) ∧
    ((r.chunks.flatten.length : Int) ≤ limit →
      (r.breaksOff = none → (fetch codecs transport url method headers body timeout limit).outcome =
        told (r.read codecs r.chunks.flatten).outcome) ∧
      ∀ f, r.breaksOff = some f →
        (fetch codecs transport url method headers body timeout limit).outcome = .error f.fault.error) ∧
    ∀ (transport' : Call → Exchange) (chunks : List (List UInt8)),
      transport' ⟨method, url, withHeaders headers, body, timeout⟩ =
          .response { r with chunks := chunks } →
        chunks.flatten = r.chunks.flatten →
          (fetch codecs transport' url method headers body timeout limit).outcome =
            (fetch codecs transport url method headers body timeout limit).outcome := by
  rw [(fetch_of_accepted hu).2, ht]
  obtain ⟨hlong, hshort⟩ := told_of_no_size hl hs hsize
  refine ⟨⟨fun hfails => ?_, fun h => ?_⟩, hshort, fun transport' chunks ht' hchunks => ?_⟩
  · generalize hcode : "RESPONSE_TOO_LARGE" = code at hfails
    generalize (413 : Int) = status at hfails
    cases hfails.cause with
    | tooLarge he _ htrips =>
      cases he
      exact (tripsLimit_iff hl hsize).mp htrips
    | _ => exact absurd hcode (by decide)
  · rw [hlong h]
    exact ⟨_, rfl⟩
  · rw [(fetch_of_accepted hu).2, ht']
    exact told_of_chunks hl hs hsize hchunks

/-- A character that is cut between two chunks, with an empty one among them, and a limit that is just
met. -/
theorem chunking_invisible_cut_character :
    Url.refusal? "https://example.com/a" = none ∧
      (fetch Text.Charset.codecs
          (fun _ => .response ⟨200, none, [], none, [[0x22, 0xC3], [], [0xA9, 0x22]], none⟩)
          "https://example.com/a" (.string "GET") [] .null defaultTimeout 4).outcome =
        (fetch Text.Charset.codecs
          (fun _ => .response ⟨200, none, [], none, [[0x22, 0xC3, 0xA9, 0x22]], none⟩)
          "https://example.com/a" (.string "GET") [] .null defaultTimeout 4).outcome ∧
      ¬ Fails (fetch Text.Charset.codecs
          (fun _ => .response ⟨200, none, [], none, [[0x22, 0xC3, 0xA9, 0x22]], none⟩)
          "https://example.com/a" (.string "GET") [] .null defaultTimeout 4).outcome
        "RESPONSE_TOO_LARGE" 413 := by
  have haccepted : Url.refusal? "https://example.com/a" = none := by decide +kernel
  obtain ⟨hlarge, -, hcut⟩ := chunking_invisible Text.Charset.codecs
    (fun _ => .response ⟨200, none, [], none, [[0x22, 0xC3, 0xA9, 0x22]], none⟩)
    "https://example.com/a" (.string "GET") [] .null defaultTimeout 4 (by decide) haccepted
    ⟨200, none, [], none, [[0x22, 0xC3, 0xA9, 0x22]], none⟩ (by decide) rfl rfl
  exact ⟨haccepted, hcut _ [[0x22, 0xC3], [], [0xA9, 0x22]] rfl (by decide),
    fun h => absurd (hlarge.mp h) (by decide)⟩

end JsonShapes.Http

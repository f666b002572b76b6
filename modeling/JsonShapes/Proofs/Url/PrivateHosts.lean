import JsonShapes.Proofs.Http.Outcomes
import JsonShapes.Proofs.Url.Decoration
import JsonShapes.Proofs.Url.DottedQuad

/-! # Private hosts behind a decoration

An address with a dotted quad as its host is refused just when the quad is private, and one with the name
of the local machine always, whatever stands around the host (`private_host_never_hidden`). What is
refused is not called (`TurnedAway`). -/

namespace JsonShapes.Url

open Text

/-- **No fetch of a URL makes a call**: each one ends with the error. -/
def TurnedAway (url : String) (error : ApiError) : Prop :=
  ∀ (codecs : Text.Codecs) (transport : Http.Call → Http.Exchange) (method : Value)
    (headers : List (Key × Value)) (body timeout : Value) (limit : Int),
    let fetched := Http.fetch codecs transport url method headers body timeout limit
    fetched.outcome = .error error ∧ fetched.calls = []

theorem turnedAway_of_refusal {url : String} {refusal : Refusal} (h : refusal? url = some refusal) :
    TurnedAway url refusal.error := by
  intro codecs transport method headers body timeout limit
  rw [Http.fetch_of_refusal h]
  exact ⟨rfl, rfl⟩

namespace Decoration

variable (d : Decoration)

theorem refusal?_quad (q : Quad) :
    refusal? (d.url q.text) = if q.IsPrivate then some .localAddress else none := by
  have hbare : IsBare q.text := by
    apply isBare_of_isAlphanum
    intro c hc
    have := q.isAlphanum_of_mem_text hc
    tauto
  have hplain : ∀ c ∈ q.text, c ∉ ":%[]".toList := by
    intro c hc
    rcases q.isAlphanum_of_mem_text hc with h | rfl
    · exact (plain_of_isAlphanum h).2.2
    · decide
  rw [d.refusal?_name hbare hplain q.text_ne_nil, q.toLower_text]
  simp only [q.isLocalAddress_text]

theorem refusal?_localhost {host : List Char} (h : host.map Char.toLower = "localhost".toList) :
    refusal? (d.url host) = some .localAddress := by
  have hletter : ∀ c ∈ host, c.isAlphanum = true := by
    intro c hc
    have hletters : "localhost".toList.all Char.isAlpha = true := by decide
    have hlower : c.toLower ∈ "localhost".toList := h ▸ List.mem_map_of_mem hc
    simp [Char.isAlphanum, isAlpha_of_toLower (List.all_eq_true.mp hletters _ hlower)]
  have hne : host ≠ [] := by
    rintro rfl
    exact absurd h (by decide)
  rw [d.refusal?_name (isBare_of_isAlphanum fun c hc => .inl (hletter c hc))
    (fun c hc => (plain_of_isAlphanum (hletter c hc)).2.2) hne, h]
  rfl

end Decoration

/-- **Nothing around a host hides a private one.** Behind any scheme, user, port and tail a dotted quad
is refused when it is private and accepted when it is not, the name of the local machine is refused, and
whatever is refused is not called. -/
theorem private_host_never_hidden (d : Decoration) :
    (∀ q : Quad, (q.IsPrivate → refusal? (d.url q.text) = some .localAddress) ∧
      (¬ q.IsPrivate → refusal? (d.url q.text) = none)) ∧
    (∀ host : List Char, host.map Char.toLower = "localhost".toList →
      refusal? (d.url host) = some .localAddress) ∧
    (∀ (host : List Char) (refusal : Refusal), refusal? (d.url host) = some refusal →
      TurnedAway (d.url host) refusal.error) ∧
    Refusal.localAddress.error.code = "LOCAL_ADDRESS_NOT_ALLOWED" := by
  refine ⟨fun q => ⟨fun h => ?_, fun h => ?_⟩, fun host h => d.refusal?_localhost h,
    fun host refusal h => turnedAway_of_refusal h, rfl⟩
  · rw [d.refusal?_quad, if_pos h]
  · rw [d.refusal?_quad, if_neg h]

/-- A decoration that names another host before and behind the real one. -/
def disguise : Decoration where
  scheme := "HtTp".toList
  userInfo := some "example.com:80@\tb".toList
  port := some "80".toList
  tail := "/@example.com".toList
  web := .inl (by decide)
  plainInfo := by simp
  digits := by
    simp
    decide
  ends := ends_of_slash "@example.com".toList

example : disguise.url "127.0.0.1".toList =
    "HtTp://example.com:80@\tb@127.0.0.1:80/@example.com" := by decide

/-- The loopback address is refused between two other hosts, and a public one is not. -/
theorem disguised_loopback_refused :
    refusal? "HtTp://example.com:80@\tb@127.0.0.1:80/@example.com" = some .localAddress ∧
      refusal? "HtTp://example.com:80@\tb@172.32.0.1:80/@example.com" = none ∧
      TurnedAway "HtTp://example.com:80@\tb@LocalHost:80/@example.com"
        ⟨"Local addresses are not allowed for security reasons", "LOCAL_ADDRESS_NOT_ALLOWED", 400⟩ := by
  have hdisguise := private_host_never_hidden disguise
  obtain ⟨hquad, hlocal, haway, -⟩ := hdisguise
  refine ⟨(hquad ⟨127, 0, 0, 1⟩).1 (by decide), (hquad ⟨172, 32, 0, 1⟩).2 (by decide), ?_⟩
  exact haway "LocalHost".toList _ (hlocal _ (by decide))

end JsonShapes.Url

import JsonShapes.Http.Fetch
import Mathlib

/-! # How a body arrives

The chunks of a body are read one by one and weighed against a limit after each. `Exceeds` says that
the chunks read so far, one at least, are too long already; the chunks are gathered to their join
exactly when that never happens (`collect_eq`), which for a limit from zero on depends on the join
alone (`exceeds_iff`).

A response that succeeded ends in one of four ways, each with its own outcome: its limit is tripped,
the header that declares its size has no value, its body breaks off, or it arrives
(`Response.Ends`, `Response.ends`). -/

namespace JsonShapes.Http

variable {limit : Int} {r : Response}

/-! ### Chunks -/

/-- **Chunks grow above a limit**: the ones read so far, one at least, are together too long. -/
def Exceeds (limit : Int) (chunks : List (List UInt8)) : Prop :=
  ∃ read, read ≠ [] ∧ read <+: chunks ∧ limit < (read.flatten.length : Int)

theorem not_exceeds_nil : ¬ Exceeds limit [] := by
  rintro ⟨read, hne, hread, -⟩
  exact hne (List.prefix_nil.mp hread)

theorem exceeds_cons (chunk : List UInt8) (rest : List (List UInt8)) :
    Exceeds limit (chunk :: rest) ↔
      limit < (chunk.length : Int) ∨ Exceeds (limit - chunk.length) rest := by
  constructor
  · rintro ⟨read, hne, hread, hlong⟩
    obtain ⟨c, read, rfl⟩ := List.exists_cons_of_ne_nil hne
    obtain ⟨rfl, hrest⟩ := List.cons_prefix_cons.mp hread
    rw [List.flatten_cons, List.length_append, Nat.cast_add] at hlong
    by_cases hnil : read = []
    · subst hnil
      rw [List.flatten_nil, List.length_nil] at hlong
      left
      omega
    · right
      exact ⟨read, hnil, hrest, by omega⟩
  · rintro (hlong | ⟨read, hne, hread, hlong⟩)
    · refine ⟨[chunk], List.cons_ne_nil _ _, List.cons_prefix_cons.mpr ⟨rfl, List.nil_prefix⟩, ?_⟩
      simpa using hlong
    · refine ⟨chunk :: read, List.cons_ne_nil _ _, List.cons_prefix_cons.mpr ⟨rfl, hread⟩, ?_⟩
      rw [List.flatten_cons, List.length_append, Nat.cast_add]
      omega

/-- **For a limit from zero on, the length of the whole decides**, however it is cut into chunks. -/
theorem exceeds_iff (hl : 0 ≤ limit) (chunks : List (List UInt8)) :
    Exceeds limit chunks ↔ limit < (chunks.flatten.length : Int) := by
  induction chunks generalizing limit with
  | nil => simpa [not_exceeds_nil] using hl
  | cons chunk rest ih =>
    rw [exceeds_cons, List.flatten_cons, List.length_append, Nat.cast_add]
    by_cases hlong : limit < (chunk.length : Int)
    · simp only [hlong, true_or, true_iff]
      omega
    · rw [ih (by omega)]
      omega

/-- **What is gathered of chunks**, behind some bytes: nothing when they exceed what the limit leaves,
else their join. -/
theorem collect_eq (limit : Int) (done : ℕ) (chunks : List (List UInt8)) :
    (Exceeds (limit - done) chunks → collect limit done chunks = none) ∧
      (¬ Exceeds (limit - done) chunks → collect limit done chunks = some chunks.flatten) := by
  induction chunks generalizing done with
  | nil => exact ⟨fun h => absurd h not_exceeds_nil, fun _ => rfl⟩
  | cons chunk rest ih =>
    obtain ⟨hmore, hjoin⟩ := ih (done + chunk.length)
    rw [Nat.cast_add, ← Int.sub_sub] at hmore hjoin
    rw [exceeds_cons, collect]
    by_cases hlong : limit < ((done + chunk.length : ℕ) : Int)
    · have hleft : limit - done < (chunk.length : Int) := by
        push_cast at hlong
        omega
      exact ⟨fun _ => if_pos hlong, fun h => absurd (.inl hleft) h⟩
    · have hleft : ¬ limit - done < (chunk.length : Int) := by
        push_cast at hlong
        omega
      rw [if_neg hlong]
      constructor
      · rintro (h | h)
        · exact absurd h hleft
        · rw [hmore h, Option.map_none]
      · intro h
        rw [hjoin fun hrest => h (.inr hrest), Option.map_some, List.flatten_cons]

/-! ### Responses -/

namespace Response

/-- The status of success. -/
def Succeeded (r : Response) : Prop := 200 ≤ r.status ∧ r.status < 300

instance (r : Response) : Decidable r.Succeeded :=
  inferInstanceAs (Decidable (200 ≤ r.status ∧ r.status < 300))

/-- The header that declares a size has a value above the limit. -/
def DeclaresTooMuch (limit : Int) (r : Response) : Prop :=
  ∃ size : ℕ, declaredSize (r.header? "content-length") = some (.ok size) ∧ limit < (size : Int)

/-- The header that declares a size is made of digits but has no value. -/
def DeclaresNoValue (message : String) (r : Response) : Prop :=
  declaredSize (r.header? "content-length") = some (.error message)

/-- The body is read: no header stands against it. -/
def Admitted (limit : Int) (r : Response) : Prop :=
  ¬ r.DeclaresTooMuch limit ∧ ∀ message, ¬ r.DeclaresNoValue message

/-- **One of the two checks of the size fails**: that of the header, or that of the chunks read. -/
def TripsLimit (limit : Int) (r : Response) : Prop :=
  r.DeclaresTooMuch limit ∨ r.Admitted limit ∧ Exceeds limit r.chunks

/-- **The body breaks off** before the limit is tripped. -/
def Breaks (limit : Int) (f : Failure) (r : Response) : Prop :=
  r.Admitted limit ∧ ¬ Exceeds limit r.chunks ∧ r.breaksOff = some f

/-- **The whole body arrives.** -/
def Arrives (limit : Int) (r : Response) : Prop :=
  r.Admitted limit ∧ ¬ Exceeds limit r.chunks ∧ r.breaksOff = none

/-- **How a body is gathered**, each ending with its outcome. -/
inductive Ends (limit : Int) (r : Response) : Except Fault (List UInt8) → Prop
  | tripped : r.TripsLimit limit → Ends limit r (.error .tooLarge)
  | noValue {message : String} : r.DeclaresNoValue message →
      Ends limit r (.error (.other message))
  | broken {f : Failure} : r.Breaks limit f → Ends limit r (.error f.fault)
  | arrived : r.Arrives limit → Ends limit r (.ok r.chunks.flatten)

theorem gather_of_declaresTooMuch (h : r.DeclaresTooMuch limit) :
    gather limit r = .error .tooLarge := by
  obtain ⟨size, hsize, hlong⟩ := h
  rw [gather, hsize]
  exact if_pos hlong

theorem gather_of_declaresNoValue {message : String} (h : r.DeclaresNoValue message) :
    gather limit r = .error (.other message) := by
  rw [gather, h]

theorem gather_of_admitted (h : r.Admitted limit) : gather limit r = gather.fromStream limit r := by
  obtain ⟨hsize, hvalue⟩ := h
  rw [gather]
  split
  case h_1 message hmessage => exact absurd hmessage (hvalue message)
  case h_2 size hok => exact if_neg fun hlong => hsize ⟨size, hok, hlong⟩
  case h_3 => rfl

theorem collect_chunks (limit : Int) (r : Response) :
    (Exceeds limit r.chunks → collect limit 0 r.chunks = none) ∧
      (¬ Exceeds limit r.chunks → collect limit 0 r.chunks = some r.chunks.flatten) := by
  simpa using collect_eq limit 0 r.chunks

theorem gather_of_tripsLimit (h : r.TripsLimit limit) : gather limit r = .error .tooLarge := by
  rcases h with h | ⟨hadmitted, hlong⟩
  · exact gather_of_declaresTooMuch h
  · rw [gather_of_admitted hadmitted, gather.fromStream, (collect_chunks limit r).1 hlong]

theorem gather_of_breaks {f : Failure} (h : r.Breaks limit f) :
    gather limit r = .error f.fault := by
  obtain ⟨hadmitted, hshort, hbreaks⟩ := h
  rw [gather_of_admitted hadmitted, gather.fromStream, (collect_chunks limit r).2 hshort, hbreaks]

theorem gather_of_arrives (h : r.Arrives limit) : gather limit r = .ok r.chunks.flatten := by
  obtain ⟨hadmitted, hshort, hbreaks⟩ := h
  rw [gather_of_admitted hadmitted, gather.fromStream, (collect_chunks limit r).2 hshort, hbreaks]

/-- **Every body ends in one of these ways**, with that outcome. -/
theorem ends (limit : Int) (r : Response) : r.Ends limit (gather limit r) := by
  by_cases hvalue : ∃ message, r.DeclaresNoValue message
  · obtain ⟨message, h⟩ := hvalue
    rw [gather_of_declaresNoValue h]
    exact .noValue h
  by_cases htrips : r.TripsLimit limit
  · rw [gather_of_tripsLimit htrips]
    exact .tripped htrips
  have hadmitted : r.Admitted limit := ⟨fun h => htrips (.inl h), fun m h => hvalue ⟨m, h⟩⟩
  have hshort : ¬ Exceeds limit r.chunks := fun h => htrips (.inr ⟨hadmitted, h⟩)
  cases hbreaks : r.breaksOff with
  | some f =>
    have h : r.Breaks limit f := ⟨hadmitted, hshort, hbreaks⟩
    rw [gather_of_breaks h]
    exact .broken h
  | none =>
    have h : r.Arrives limit := ⟨hadmitted, hshort, hbreaks⟩
    rw [gather_of_arrives h]
    exact .arrived h

end Response

end JsonShapes.Http

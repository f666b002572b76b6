import JsonShapes.Proofs.Shape.Registry

/-! # Calls on a registry

A registry answers calls one after the other; the history of a run holds every call with its answer and
the registries around it. What a call has to answer is said by the calls before it alone (`Lawful`): a
reservation gives the first free one of its names, a lookup the first declaration that was registered.

`Records` links a registry with the calls before it; a call keeps that (`Records.serve`), so every call
of a run is lawful (`history_lawful`). -/

namespace JsonShapes.Registry

/-! ### Histories -/

/-- A call on a registry. -/
inductive Call
  | reserve (candidate : String)
  | lookup (signature : String)
  | register (d : Declaration)

/-- A call that was made: the registry it found, its answer and the registry it left. -/
structure Entry where
  call : Call
  before : Registry
  answer : Option String
  after : Registry

/-- Makes a call; a registration has no answer. -/
def serve (r : Registry) : Call → Entry
  | .reserve candidate => ⟨.reserve candidate, r, some (r.reserve candidate).1, (r.reserve candidate).2⟩
  | .lookup signature => ⟨.lookup signature, r, r.lookup signature, r⟩
  | .register d => ⟨.register d, r, none, r.register d⟩

/-- A sequence of calls, each on the registry that the one before it left. -/
def history (r : Registry) : List Call → List Entry
  | [] => []
  | call :: calls => r.serve call :: history (r.serve call).after calls

/-- The name that a call handed out. -/
def Entry.handsOut? (e : Entry) : Option String :=
  match e.call with
  | .reserve _ => e.answer
  | _ => none

/-- The declaration that a call registered. -/
def Entry.registers? (e : Entry) : Option Declaration :=
  match e.call with
  | .register d => some d
  | _ => none

/-- The names that were handed out. -/
def handedOut (past : List Entry) : List String := past.filterMap Entry.handsOut?

/-- The declarations that were registered. -/
def registered (past : List Entry) : List Declaration := past.filterMap Entry.registers?

/-! ### What a call has to do -/

/-- **The search for a name**: `tried` is taken as it is when it is free, else the candidate with the
number `next` is tried. A search that comes to a name ends. -/
inductive Finds (taken : List String) (candidate : String) : (tried : String) → (next : ℕ) → String → Prop
  | free {tried : String} {next : ℕ} (h : tried ∉ taken) : Finds taken candidate tried next tried
  | taken {tried name : String} {next : ℕ} (h : tried ∈ taken)
    (rest : Finds taken candidate (candidate ++ toString next) (next + 1) name) :
    Finds taken candidate tried next name

/-- **What a call has to do**, by the calls before it. -/
def Lawful (past : List Entry) (e : Entry) : Prop :=
  match e.call with
  | .reserve candidate =>
    ∃ name, e.answer = some name ∧ Finds (handedOut past) candidate candidate 2 name ∧
      IsDue (handedOut past) candidate name ∧
      e.after.memo = e.before.memo ∧ e.after.declarations = e.before.declarations
  | .lookup signature =>
    e.answer = ((registered past).find? fun d => d.signature == signature).map (·.name) ∧
      e.after = e.before
  | .register d =>
    e.after.names = e.before.names ∧ e.after.declarations = e.before.declarations ++ [d]

/-! ### The search -/

theorem finds_numbered {taken : List String} {candidate : String} {k j : ℕ}
    (h : IsLeast {k : ℕ | 2 ≤ k ∧ candidate ++ toString k ∉ taken} k) (hj : 2 ≤ j) (hjk : j ≤ k) :
    Finds taken candidate (candidate ++ toString j) (j + 1) (candidate ++ toString k) := by
  induction hd : k - j generalizing j with
  | zero =>
    obtain rfl : j = k := by omega
    exact .free h.1.2
  | succ d ih =>
    refine .taken ?_ (ih (by omega) (by omega) (by omega))
    by_contra hfree
    have := h.2 ⟨hj, hfree⟩
    omega

theorem IsDue.finds {taken : List String} {candidate name : String} (h : IsDue taken candidate name) :
    Finds taken candidate candidate 2 name := by
  rcases h with ⟨hfree, rfl⟩ | ⟨htaken, k, hk, rfl⟩
  · exact .free hfree
  · exact .taken htaken (finds_numbered hk le_rfl hk.1.1)

/-! ### One call -/

section Serve
variable (r : Registry) (call : Call)

theorem names_serve :
    (r.serve call).after.names = r.names ++ (r.serve call).handsOut?.toList := by
  cases call with
  | reserve candidate => rfl
  | lookup signature => exact (List.append_nil _).symm
  | register d => exact (List.append_nil _).symm

theorem notMem_of_handsOut? {name : String} (h : (r.serve call).handsOut? = some name) :
    name ∉ r.names := by
  cases call with
  | reserve candidate =>
    obtain rfl := Option.some.inj h
    exact freshName_notMem r.names candidate
  | lookup signature => cases h
  | register d => cases h

theorem lookup_serve (s : String) :
    (r.serve call).after.lookup s = (r.lookup s).or
      (((r.serve call).registers?.toList.find? fun d => d.signature == s).map (·.name)) := by
  cases call with
  | reserve candidate => exact Option.or_none.symm
  | lookup signature => exact Option.or_none.symm
  | register d =>
    refine (lookup_register r d s).trans ?_
    cases hd : d.signature == s <;> simp [serve, Entry.registers?, hd]

end Serve

theorem handedOut_concat (past : List Entry) (e : Entry) :
    handedOut (past ++ [e]) = handedOut past ++ e.handsOut?.toList := by
  cases h : e.handsOut? <;> simp [handedOut, h]

theorem registered_concat (past : List Entry) (e : Entry) :
    registered (past ++ [e]) = registered past ++ e.registers?.toList := by
  cases h : e.registers? <;> simp [registered, h]

/-! ### Runs -/

/-- **What a registry holds of the calls before.** -/
structure Records (past : List Entry) (r : Registry) : Prop where
  names : r.names = handedOut past
  nodup : (handedOut past).Nodup
  lookup : ∀ s, r.lookup s = ((registered past).find? fun d => d.signature == s).map (·.name)

theorem records_empty : Records [] empty := ⟨rfl, .nil, fun _ => rfl⟩

section Records
variable {past : List Entry} {r : Registry}

theorem Records.serve (h : Records past r) (call : Call) :
    Records (past ++ [r.serve call]) (r.serve call).after := by
  refine ⟨?_, ?_, fun s => ?_⟩
  · rw [handedOut_concat, names_serve, h.names]
  · rw [handedOut_concat, ← h.names, List.nodup_append]
    refine ⟨h.names ▸ h.nodup, Option.toList_nodup _, fun a ha b hb => ?_⟩
    rintro rfl
    exact notMem_of_handsOut? r call (Option.mem_toList.mp hb) ha
  · rw [registered_concat, List.find?_append, Option.map_or, ← h.lookup s, lookup_serve]

theorem Records.lawful (h : Records past r) (call : Call) : Lawful past (r.serve call) := by
  cases call with
  | reserve candidate =>
    have hdue := isDue_freshName r.names candidate
    rw [h.names] at hdue
    refine ⟨freshName r.names candidate, rfl, ?_, ?_, rfl, rfl⟩
    · rw [h.names]
      exact hdue.finds
    · rw [h.names]
      exact hdue
  | lookup signature => exact ⟨h.lookup signature, rfl⟩
  | register d => exact ⟨names_register r d, declarations_register r d⟩

end Records

theorem map_call_history (r : Registry) (calls : List Call) :
    (history r calls).map (·.call) = calls := by
  induction calls generalizing r with
  | nil => rfl
  | cons call calls ih =>
    rw [history, List.map_cons, ih]
    cases call <;> rfl

theorem Records.history {past : List Entry} {r : Registry} (h : Records past r) (calls : List Call) :
    (∃ r', Records (past ++ r.history calls) r') ∧
      ∀ earlier e later, r.history calls = earlier ++ e :: later → Lawful (past ++ earlier) e := by
  induction calls generalizing past r with
  | nil =>
    refine ⟨⟨r, by rw [Registry.history, List.append_nil]; exact h⟩, fun earlier e later heq => ?_⟩
    rw [Registry.history] at heq
    cases earlier <;> cases heq
  | cons call calls ih =>
    obtain ⟨⟨r', hr'⟩, hlawful⟩ := ih (h.serve call)
    rw [Registry.history]
    refine ⟨⟨r', by rw [List.append_cons]; exact hr'⟩, fun earlier e later heq => ?_⟩
    cases earlier with
    | nil =>
      obtain rfl : r.serve call = e := (List.cons.inj heq).1
      rw [List.append_nil]
      exact h.lawful call
    | cons first earlier =>
      rw [List.cons_append, List.cons.injEq] at heq
      obtain ⟨rfl, hrest⟩ := heq
      rw [List.append_cons]
      exact hlawful earlier e later hrest

/-- **Every call of every run on a new registry does what the calls before it ask for.** No name is
handed out twice; each reservation ends its search with the first free one of its names and leaves the
declarations and the memo alone, a lookup answers with the first declaration of its signature, a
registration leaves the names alone. -/
theorem history_lawful (calls : List Call) :
    (empty.history calls).map (·.call) = calls ∧ (handedOut (empty.history calls)).Nodup ∧
      ∀ past e later, empty.history calls = past ++ e :: later → Lawful past e := by
  obtain ⟨⟨r, hr⟩, hlawful⟩ := records_empty.history calls
  exact ⟨map_call_history empty calls, hr.nodup, hlawful⟩

/-- A numbered name that another candidate has taken is passed over. -/
theorem taken_number_passed_over :
    ∃ past e, empty.history [.reserve "A2", .reserve "A", .reserve "A"] = past ++ [e] ∧
      e.answer = some "A3" ∧ Lawful past e :=
  ⟨[_, _], _, rfl, by decide, (history_lawful [.reserve "A2", .reserve "A", .reserve "A"]).2.2 _ _ [] rfl⟩

end JsonShapes.Registry

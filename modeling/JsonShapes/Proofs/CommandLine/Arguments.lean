import JsonShapes.CommandLine.Commands
import JsonShapes.Proofs.Except
import JsonShapes.Proofs.Text.Cutting

/-! # What arguments make

An argument that does not start with a dash is a word to every grammar. Behind the name of a command all
arguments belong to that command (`mainGrammar_parse`); and of options that are given one after the other,
each is taken with the words behind it (`takeAll_options`). -/

namespace JsonShapes.CommandLine

variable {g : Grammar} {f : Flag} {s : Settings} {arg name : String} {args rest : List String}
  {mark : Mark} {marked : List (String × Mark)}

/-! ### Words -/

/-- **An argument is plain** when it does not start with a dash. -/
def IsPlain (arg : String) : Prop := arg.toList.head? ≠ some '-'

instance (arg : String) : Decidable (IsPlain arg) := inferInstanceAs (Decidable (_ ≠ _))

theorem IsPlain.mark_eq (h : IsPlain arg) (g : Grammar) : g.mark arg = .ok .word := by
  unfold IsPlain at h
  unfold Grammar.mark
  split
  · rfl
  · rename_i rest _ hdash
    rw [hdash] at h
    exact absurd rfl h
  · rfl

theorem IsPlain.ne_dashes (h : IsPlain arg) : arg ≠ "--" := by
  rintro rfl
  exact h rfl

theorem marks_cons (hdashes : arg ≠ "--") (hmark : g.mark arg = .ok mark)
    (hrest : g.marks rest = .ok marked) : g.marks (arg :: rest) = .ok ((arg, mark) :: marked) := by
  rw [Grammar.marks, if_neg (by simpa using hdashes), hmark, hrest]
  rfl

theorem map_fst_of_marks (h : g.marks args = .ok marked) : marked.map (·.1) = args := by
  induction args generalizing marked with
  | nil =>
    cases h
    rfl
  | cons arg rest ih =>
    rw [Grammar.marks] at h
    split at h
    · cases h
      simp [Function.comp_def]
    · obtain ⟨mark, -, h⟩ := bind_eq_ok_iff.mp h
      obtain ⟨others, hothers, h⟩ := bind_eq_ok_iff.mp h
      cases h
      rw [List.map_cons, ih hothers]

theorem marks_append (hwords : ∀ arg ∈ args, IsPlain arg) (hrest : g.marks rest = .ok marked) :
    g.marks (args ++ rest) = .ok (args.map (·, .word) ++ marked) := by
  induction args with
  | nil => exact hrest
  | cons arg args ih =>
    have hplain := hwords arg List.mem_cons_self
    exact marks_cons hplain.ne_dashes (hplain.mark_eq g)
      (ih fun other hother => hwords other (List.mem_cons_of_mem _ hother))

/-! ### Attached texts -/

/-- **The names of a grammar have no equals sign.** -/
def SignFree (g : Grammar) : Prop := ∀ p ∈ g.named, '=' ∉ p.1.toList

theorem cutSign_attached (h : '=' ∉ name.toList) (text : String) :
    cutSign (name ++ "=" ++ text) = (name, some text) := by
  have hchars : (name ++ "=" ++ text).toList = name.toList ++ '=' :: text.toList := by simp
  rw [cutSign, hchars, Text.cut_append h]
  simp

theorem lookup_attached (h : SignFree g) (name text : String) :
    g.named.lookup (name ++ "=" ++ text) = none := by
  rw [List.lookup_eq_none_iff]
  intro p hp
  rw [bne_iff_ne]
  intro heq
  exact h p hp (by simp [← heq])

/-- **A text behind an equals sign** is attached to the option before it. -/
theorem mark_attached (hfree : SignFree g) {tail : List Char} (hdashes : name.toList = '-' :: '-' :: tail)
    (hsign : '=' ∉ name.toList) (hflag : g.named.lookup name = some f) (text : String) :
    g.mark (name ++ "=" ++ text) = .ok (.option f name (some ⟨true, text⟩)) := by
  have hchars : (name ++ "=" ++ text).toList = '-' :: '-' :: (tail ++ '=' :: text.toList) := by
    simp [hdashes]
  rw [Grammar.mark, hchars, lookup_attached hfree, cutSign_attached hsign]
  simp only [hflag]

theorem exists_mark_of_foreign (hfree : SignFree g) {tail : List Char}
    (hdashes : name.toList = '-' :: '-' :: tail) (hsign : '=' ∉ name.toList)
    (hflag : g.named.lookup name = none)
    (hnone : g.named.filter (fun p => name.toList.isPrefixOf p.1.toList) = []) (text : String) :
    ∃ mark, g.mark (name ++ "=" ++ text) = .ok mark := by
  have hchars : (name ++ "=" ++ text).toList = '-' :: '-' :: (tail ++ '=' :: text.toList) := by
    simp [hdashes]
  have hcandidates : g.candidates (name ++ "=" ++ text) = [] := by
    rw [Grammar.candidates, cutSign_attached hsign, hchars]
    simpa using hnone
  rw [Grammar.mark, hchars, lookup_attached hfree, cutSign_attached hsign]
  simp only [hflag, hcandidates]
  split <;> exact ⟨_, rfl⟩

/-! ### Commands -/

theorem takeAll_nil (hs : s.awaiting = false) (rounds : ℕ) : g.takeAll (rounds + 1) s [] = .ok s := by
  obtain ⟨options, positional, command, extras, awaiting⟩ := s
  obtain rfl : awaiting = false := hs
  simp [Grammar.takeAll, Grammar.takePositional, bind, Except.bind, pure, Except.pure]

theorem takePositional_command (hname : name ∈ commandNames)
    (hmarks : mainGrammar.marks rest = .ok marked) :
    mainGrammar.takePositional .start ((name, .word) :: marked) =
      .ok (⟨[], none, some (name, rest), [], false⟩, marked.length + 1) := by
  have hcontains : commandNames.contains name = true := by simpa using hname
  have hchosen : Grammar.takePositional mainGrammar .start ((name, .word) :: marked) =
      if commandNames.contains name then
        .ok (⟨[], none, some (name, marked.map (·.1)), [], false⟩, marked.length + 1)
      else .error (mainGrammar.wrong "command" (choiceMessage name commandNames)) := rfl
  rw [hchosen, if_pos hcontains, map_fst_of_marks hmarks]

/-- **Behind the name of a command** all arguments belong to that command. -/
theorem mainGrammar_parse (hname : name ∈ commandNames) (hmarks : mainGrammar.marks rest = .ok marked) :
    mainGrammar.parse (name :: rest) = .ok ⟨[], none, some (name, rest), [], false⟩ := by
  have hplain : IsPlain name := (by decide : ∀ name ∈ commandNames, IsPlain name) name hname
  have htaken := takePositional_command hname hmarks
  have hall : mainGrammar.takeAll (rest.length + 2) .start ((name, .word) :: marked) =
      .ok ⟨[], none, some (name, rest), [], false⟩ := by
    rw [Grammar.takeAll]
    split
    · dsimp only
      rw [if_neg (by decide), htaken]
      dsimp only [bind, Except.bind]
      rw [if_pos (by omega), List.drop_of_length_le (by simp)]
      exact takeAll_nil rfl _
    · rw [htaken]
      simp [bind, Except.bind, pure, Except.pure]
  rw [Grammar.parse, marks_cons hplain.ne_dashes (hplain.mark_eq _) hmarks]
  show (mainGrammar.takeAll (rest.length + 2) .start ((name, .word) :: marked)).bind _ = _
  rw [hall]
  rfl

/-- **What a command asks for** is what its arguments ask for. -/
theorem parse_command {command : Command} (hname : name ∈ commandNames)
    (hmarks : mainGrammar.marks rest = .ok marked)
    (hcommand : commandOf ⟨[], none, some (name, rest), [], false⟩ = .ok (command, [])) :
    parse (name :: rest) = .ok command := by
  unfold parse
  rw [mainGrammar_parse hname hmarks]
  simp only [bind, Except.bind, hcommand, pure, Except.pure]
  rfl

theorem parse_file {sub : Settings} (hmarks : mainGrammar.marks rest = .ok marked)
    (hparse : fileGrammar.parse rest = .ok sub) (hextras : sub.extras = []) :
    parse ("json2ts" :: rest) = .ok (.file false (fileOptions sub)) := by
  refine parse_command (by decide) hmarks ?_
  rw [commandOf, ← hextras]
  dsimp only
  rw [if_pos (by decide), hparse]
  rfl

theorem parse_url {sub : Settings} (hmarks : mainGrammar.marks rest = .ok marked)
    (hparse : urlGrammar.parse rest = .ok sub) (hextras : sub.extras = []) :
    parse ("url2ts" :: rest) = .ok (.url false (urlOptions sub)) := by
  refine parse_command (by decide) hmarks ?_
  rw [commandOf, ← hextras]
  dsimp only
  rw [if_neg (by decide), hparse]
  rfl

/-! ### Options -/

/-- An option with the words behind it. -/
def optionWords (f : Flag) (name : String) (words : List String) : List (String × Mark) :=
  (name, .option f name none) :: words.map (·, .word)

/-- The marks of one option that is given several times. -/
theorem marks_groups (hdashes : name ≠ "--") (hmark : g.mark name = .ok mark)
    {groups : List (List String)} (hwords : ∀ words ∈ groups, ∀ word ∈ words, IsPlain word) :
    g.marks (groups.flatMap (name :: ·)) =
      .ok (groups.flatMap fun words => (name, mark) :: words.map (·, .word)) := by
  induction groups with
  | nil => rfl
  | cons words groups ih =>
    have hrest := ih fun other hother => hwords other (List.mem_cons_of_mem _ hother)
    rw [List.flatMap_cons, List.flatMap_cons, List.cons_append, List.cons_append]
    exact marks_cons hdashes hmark (marks_append (hwords words List.mem_cons_self) hrest)

theorem wordsAhead_append (hrest : ∀ a ∈ marked.head?, a.2 ≠ .word) (words : List String) :
    wordsAhead (words.map (·, .word) ++ marked) = words := by
  have htake : marked.takeWhile (fun a => a.2 == .word) = [] := by
    cases marked with
    | nil => rfl
    | cons a others => simpa [List.takeWhile_cons] using hrest a rfl
  rw [wordsAhead, List.takeWhile_append_of_pos (by simp), htake]
  simp [Function.comp_def]

theorem set_texts (htext : f.reading = .text) (hhelp : f.isHelp = false) (words : List String) :
    g.set s f words =
      .ok { s with options := s.options ++ [(f.names.headD "", words.map .text)] } := by
  have hdata : words.mapM (g.datum f) = .ok (words.map .text) := by
    induction words with
    | nil => rfl
    | cons word words ih => simp [List.mapM_cons, Grammar.datum, htext, ih, bind, Except.bind, pure, Except.pure]
  rw [Grammar.set, hhelp, hdata]
  rfl

/-- **Options that are given one after the other** are taken each with the words behind it. -/
theorem takeAll_options (hmany : f.arity = .many) (htext : f.reading = .text) (hhelp : f.isHelp = false)
    (groups : List (List String)) {rounds : ℕ} (hrounds : groups.length < rounds)
    (hs : s.awaiting = false) :
    g.takeAll rounds s (groups.flatMap (optionWords f name)) =
      .ok { s with options := s.options ++ groups.map fun words =>
        (f.names.headD "", words.map .text) } := by
  induction groups generalizing s rounds with
  | nil =>
    obtain ⟨rounds, rfl⟩ := Nat.exists_eq_succ_of_ne_zero (Nat.ne_of_gt hrounds)
    rw [List.flatMap_nil, takeAll_nil hs]
    simp
  | cons words groups ih =>
    obtain ⟨rounds, rfl⟩ := Nat.exists_eq_succ_of_ne_zero (Nat.ne_of_gt (Nat.zero_lt_of_lt hrounds))
    have hahead : wordsAhead (words.map (·, .word) ++ groups.flatMap (optionWords f name)) = words := by
      refine wordsAhead_append ?_ words
      cases groups with
      | nil => nofun
      | cons other groups =>
        rintro a ⟨⟩
        nofun
    have htaken : g.takeOption s name (.option f name none)
        (words.map (·, .word) ++ groups.flatMap (optionWords f name)) =
          .ok ({ s with options := s.options ++ [(f.names.headD "", words.map .text)] }, words.length) := by
      simp only [Grammar.takeOption, hahead, hmany, set_texts htext hhelp]
      rfl
    rw [List.flatMap_cons, optionWords, List.cons_append, Grammar.takeAll, if_pos (by simp [Mark.isOption])]
    dsimp only
    rw [if_pos (show Mark.isOption _ = true from rfl), htaken]
    dsimp only [bind, Except.bind]
    rw [List.drop_left' (by simp)]
    refine (ih (by simpa using hrounds) ?_).trans ?_
    · exact hs
    · simp

end JsonShapes.CommandLine

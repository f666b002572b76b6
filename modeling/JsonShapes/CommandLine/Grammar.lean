import JsonShapes.Decimal.Text

/-!
# Argument grammars

A grammar says which options a command has and what its one positional argument is.  Arguments are
first told apart, options from words, and then taken in order.

* `Grammar.mark`: what an argument is to a grammar;
* `Grammar.parse`: the settings that arguments make, or why parsing stops.
-/

namespace JsonShapes.CommandLine

/-- How many arguments an option takes. -/
inductive Arity
  | none
  | one
  | many
deriving DecidableEq, Repr

/-- What the arguments of an option have to be. -/
inductive Reading
  | text
  | choice (among : List String)
  | number
deriving DecidableEq, Repr

/-- An option under its names. -/
structure Flag where
  names : List String
  arity : Arity
  reading : Reading
  /-- Whether the option asks for help. -/
  isHelp : Bool
deriving DecidableEq, Repr

/-- The one positional argument of a grammar. -/
inductive Positional
  | required (name : String)
  | optional (name : String)
  /-- The name of a command; all that follows belongs to that command. -/
  | command (name : String) (choices : List String)
deriving DecidableEq, Repr

structure Grammar where
  program : String
  usage : String
  help : String
  flags : List Flag
  positional : Positional

/-- Why parsing stops: help was asked for, or the arguments do not fit. -/
inductive Stop
  | help (text : String)
  | misuse (program usage message : String)
deriving DecidableEq, Repr

def Grammar.misuse (g : Grammar) (message : String) : Stop := .misuse g.program g.usage message

/-- A misuse of one argument, which is called by `name`. -/
def Grammar.wrong (g : Grammar) (name message : String) : Stop :=
  g.misuse ("argument " ++ name ++ ": " ++ message)

def Flag.title (f : Flag) : String := String.intercalate "/" f.names

/-! ### Telling arguments apart -/

/-- A text attached to an option: behind an equals sign, or right behind a short option. -/
structure Attached where
  behindSign : Bool
  text : String
deriving DecidableEq, Repr

/-- What an argument is to a grammar. -/
inductive Mark
  | word
  /-- The first pair of dashes, behind which all are words. -/
  | dashes
  | option (flag : Flag) (name : String) (attached : Option Attached)
  /-- What looks like an option and is none of the grammar's. -/
  | unknown
deriving DecidableEq, Repr

def Mark.isOption : Mark → Bool
  | option .. | unknown => true
  | word | dashes => false

/-- All names with their options, in order. -/
def Grammar.named (g : Grammar) : List (String × Flag) :=
  g.flags.flatMap fun f => f.names.map fun name => (name, f)

/-- A text cut at its first equals sign. -/
def cutSign (arg : String) : String × Option String :=
  let (name, value) := Text.cut '=' arg.toList
  (String.ofList name, value.map String.ofList)

/-- The options that an argument may abbreviate. -/
def Grammar.candidates (g : Grammar) (arg : String) : List (String × Flag × Option Attached) :=
  let cs := arg.toList
  if cs[1]? == some '-' then
    let (start, value) := cutSign arg
    (g.named.filter fun (name, _) => start.toList.isPrefixOf name.toList).map fun (name, f) =>
      (name, f, value.map (Attached.mk true))
  else
    g.named.filterMap fun (name, f) =>
      if name.toList == cs.take 2 then
        some (name, f, some ⟨false, String.ofList (cs.drop 2)⟩)
      else if cs.isPrefixOf name.toList then some (name, f, .none)
      else .none

/-- Digits, with a point before the last ones perhaps, and a line feed behind them perhaps. -/
def isUnsignedNumber (cs : List Char) : Bool :=
  let whole := cs.takeWhile Text.isDecimal
  let ends := fun (rest : List Char) => rest.isEmpty || rest == ['\n']
  match cs.drop whole.length with
  | '.' :: rest =>
    let decimals := rest.takeWhile Text.isDecimal
    !decimals.isEmpty && ends (rest.drop decimals.length)
  | rest => !whole.isEmpty && ends rest

/-- What an argument before the first pair of dashes is. -/
def Grammar.mark (g : Grammar) (arg : String) : Except Stop Mark :=
  match arg.toList with
  | ['-'] => .ok .word
  | '-' :: rest =>
    match g.named.lookup arg, cutSign arg with
    | some f, _ => .ok (.option f arg .none)
    | .none, (start, value) =>
      match g.named.lookup start, value with
      | some f, some text => .ok (.option f start (some ⟨true, text⟩))
      | _, _ =>
        match g.candidates arg with
        | [(name, f, attached)] => .ok (.option f name attached)
        | [] =>
          if isUnsignedNumber rest || rest.contains ' ' then .ok .word else .ok .unknown
        | several =>
          let matching := String.intercalate ", " (several.map (·.1))
          .error (g.misuse ("ambiguous option: " ++ arg ++ " could match " ++ matching))
  | _ => .ok .word

/-- The arguments with what they are. -/
def Grammar.marks (g : Grammar) : List String → Except Stop (List (String × Mark))
  | [] => .ok []
  | arg :: rest =>
    if arg == "--" then .ok ((arg, .dashes) :: rest.map (·, .word))
    else do
      let mark ← g.mark arg
      let others ← g.marks rest
      return (arg, mark) :: others

/-! ### Taking arguments -/

/-- A value given on the command line. -/
inductive Datum
  | text (s : String)
  | number (x : Float)
deriving Repr

/-- What was taken so far: the options with their values, the positional argument, the command with
its arguments, and what nothing took. -/
structure Settings where
  options : List (String × List Datum)
  positional : Option String
  command : Option (String × List String)
  extras : List String
  /-- Whether the positional argument is still to come. -/
  awaiting : Bool

def Settings.start : Settings := ⟨[], none, none, [], true⟩

/-- The values of the last option of a name. -/
def Settings.values? (s : Settings) (name : String) : Option (List Datum) :=
  s.options.reverse.lookup name

/-- The text of the last option of a name. -/
def Settings.text? (s : Settings) (name : String) : Option String :=
  match s.values? name with
  | some (.text t :: _) => some t
  | _ => none

def Settings.has (s : Settings) (name : String) : Bool := (s.values? name).isSome

/-- The message about a value outside its choices. -/
def choiceMessage (value : String) (choices : List String) : String :=
  "invalid choice: " ++ Text.quoted value ++ " (choose from "
    ++ String.intercalate ", " (choices.map Text.quoted) ++ ")"

/-- The value of an argument of an option. -/
def Grammar.datum (g : Grammar) (f : Flag) (arg : String) : Except Stop Datum :=
  match f.reading with
  | .text => .ok (.text arg)
  | .choice among =>
    if among.contains arg then .ok (.text arg)
    else .error (g.wrong f.title (choiceMessage arg among))
  | .number =>
    match Decimal.parse? arg with
    | some x => .ok (.number x)
    | none => .error (g.wrong f.title ("invalid float value: " ++ Text.quoted arg))

/-- Takes an option with its arguments. -/
def Grammar.set (g : Grammar) (s : Settings) (f : Flag) (args : List String) :
    Except Stop Settings := do
  if f.isHelp then throw (.help g.help)
  let data ← args.mapM (g.datum f)
  return { s with options := s.options ++ [(f.names.headD "", data)] }

/-- The message about a text attached to an option that takes none. -/
def ignoredMessage (text : String) : String := "ignored explicit argument " ++ Text.quoted text

/-- What is attached to a short option without arguments: more short options.  The first of them
that is not known ends the run. -/
def Grammar.cluster (g : Grammar) (s : Settings) (f : Flag) (behindSign : Bool) :
    List Char → Except Stop Settings
  | [] => .error (g.wrong f.title (ignoredMessage ""))
  | c :: rest =>
    if behindSign || c == '-' then
      .error (g.wrong f.title (ignoredMessage (String.ofList (c :: rest))))
    else
      match (g.named.lookup (String.ofList ['-', c])).isSome, rest with
      | true, '=' :: value => g.cluster s f true value
      | true, d :: more => g.cluster s f false (d :: more)
      | _, _ => g.set s f []

/-- The words that follow an option with arguments. -/
def wordsAhead (args : List (String × Mark)) : List String :=
  (args.takeWhile fun a => a.2 == .word).map (·.1)

/-- Takes the option at the head of the arguments; answers with how many follow it and are taken
with it. -/
def Grammar.takeOption (g : Grammar) (s : Settings) (arg : String) (mark : Mark)
    (rest : List (String × Mark)) : Except Stop (Settings × Nat) :=
  match mark with
  | .option f name (some attached) =>
    match f.arity with
    | .none =>
      if name.toList[1]? == some '-' then
        .error (g.wrong f.title (ignoredMessage attached.text))
      else (g.cluster s f attached.behindSign attached.text.toList).map (·, 0)
    | _ => (g.set s f [attached.text]).map (·, 0)
  | .option f _ .none =>
    let ahead := wordsAhead rest
    match f.arity, ahead with
    | .none, _ => (g.set s f []).map (·, 0)
    | .one, word :: _ => (g.set s f [word]).map (·, 1)
    | .one, [] => .error (g.wrong f.title "expected one argument")
    | .many, words => (g.set s f words).map (·, words.length)
  | _ => .ok ({ s with extras := s.extras ++ [arg] }, 0)

/-- The number of dashes at the head of the arguments. -/
def dashesAhead (args : List (String × Mark)) : Nat :=
  (args.takeWhile fun a => a.2 == .dashes).length

/-- Takes the positional argument at the head of the arguments, with the dashes around it; answers
with how many arguments that were. -/
def Grammar.takePositional (g : Grammar) (s : Settings) (args : List (String × Mark)) :
    Except Stop (Settings × Nat) :=
  let before := dashesAhead args
  let word := ((args.drop before).head?.filter fun a => a.2 == .word).map (·.1)
  let behind := dashesAhead (args.drop (before + 1))
  if !s.awaiting then .ok (s, 0)
  else
    match g.positional, word with
    | .required _, some w =>
      .ok ({ s with positional := some w, awaiting := false }, before + 1 + behind)
    | .required _, none => .ok (s, 0)
    | .optional _, some w =>
      .ok ({ s with positional := some w, awaiting := false }, before + 1 + behind)
    | .optional _, none => .ok ({ s with awaiting := false }, before)
    | .command name choices, some _ =>
      let texts := args.map (·.1)
      let chosen := texts.headD ""
      if choices.contains chosen then
        .ok ({ s with command := some (chosen, texts.drop 1), awaiting := false }, args.length)
      else .error (g.wrong name (choiceMessage chosen choices))
    | .command _ _, none => .ok (s, 0)

/-- Takes all arguments.  As long as options lie ahead, options are taken as they come, and words
before them are tried as the positional argument; the rest is the positional argument and what is
left over.  Every round takes an argument, so as many rounds as arguments suffice. -/
def Grammar.takeAll (g : Grammar) : (rounds : Nat) → Settings → List (String × Mark) →
    Except Stop Settings
  | 0, s, _ => .ok s
  | rounds + 1, s, args =>
    if args.any fun a => a.2.isOption then
      match args with
      | [] => .ok s
      | (arg, mark) :: rest =>
        if mark.isOption then do
          let (s, taken) ← g.takeOption s arg mark rest
          g.takeAll rounds s (rest.drop taken)
        else do
          let (s, taken) ← g.takePositional s args
          if taken > 0 then g.takeAll rounds s (args.drop taken)
          else
            let passed := args.takeWhile fun a => !a.2.isOption
            g.takeAll rounds { s with extras := s.extras ++ passed.map (·.1) }
              (args.drop passed.length)
    else do
      let (s, taken) ← g.takePositional s args
      return { s with extras := s.extras ++ (args.drop taken).map (·.1) }

/-- The settings that arguments make. -/
def Grammar.parse (g : Grammar) (args : List String) : Except Stop Settings := do
  let marked ← g.marks args
  let s ← g.takeAll (args.length + 1) .start marked
  match g.positional, s.positional with
  | .required name, none =>
    throw (g.misuse ("the following arguments are required: " ++ name))
  | _, _ => return s

end JsonShapes.CommandLine

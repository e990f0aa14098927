import GoMeter.Data.Integer

/-!
# Options and operands

The arguments of a command are options, which start with a hyphen, and operands. A long option may be
shortened as long as it stays clear which one is meant, and has its value behind an equals sign or in the
next argument. After `--` all arguments are operands. Negative numbers and texts with blanks are operands
unless an option has that name.

* `Usage`: the options and the operand of a command.
* `Usage.parse`: what some arguments say.
-/

namespace GoMeter.CommandLine

/-- What an option does. -/
inductive Effect (α : Type) where
  /-- It stands alone. -/
  | flag (given : α)
  /-- It has a value, which may be refused with a reason. -/
  | value (read : String → Except String α)

/-- An option: its names and its effect. -/
structure OptionSpec (α : Type) where
  names : List String
  effect : Effect α

/-- What a command takes apart from options. -/
inductive OperandSpec where
  /-- At most one operand. -/
  | one
  /-- The name of a command of its own, which takes all that follows. -/
  | command (label : String) (names : List String)
  deriving DecidableEq, Repr

/-- How a command is used. -/
structure Usage (α : Type) where
  program : String
  options : List (OptionSpec α)
  operand : OperandSpec

/-- The arguments are not understood. -/
structure Misuse where
  program : String
  reason : String
  deriving DecidableEq, Repr

/-- The line that reports a misuse. -/
def Misuse.line (m : Misuse) : String := m.program ++ ": error: " ++ m.reason

/-- A text in quotes. -/
def quote (s : String) : String := String.ofList (Text.quoted s.toList)

/-- The name of an option in messages: all its names. -/
def OptionSpec.label {α : Type} (o : OptionSpec α) : String := "/".intercalate o.names

/-- The reason for refusing the value of an option. -/
def optionReason {α : Type} (o : OptionSpec α) (reason : String) : String :=
  "argument " ++ o.label ++ ": " ++ reason

/-- A value that is not one of some words. -/
def choiceReason (given : String) (words : List String) : String :=
  "invalid choice: " ++ quote given ++ " (choose from " ++ ", ".intercalate (words.map quote) ++ ")"

/-! ## Kinds of arguments -/

/-- A value given together with the name of an option; `marked` says whether an equals sign stands
between them. -/
structure Attached where
  text : String
  marked : Bool
  deriving DecidableEq, Repr

/-- What an argument is. -/
inductive Argument (α : Type) where
  | operand (text : String)
  /-- The argument `--`. -/
  | separator
  /-- An option under one of its names, possibly with a value. -/
  | option (spec : OptionSpec α) (name : String) (attached : Option Attached)
  /-- An option that is not known here. -/
  | unknown (text : String)

namespace Argument

/-- Whether an argument is an option, known or not. -/
def isOption {α : Type} : Argument α → Bool
  | .option _ _ _ => true
  | .unknown _ => true
  | _ => false

end Argument

/-- A text before and after its first equals sign. -/
def splitEquals (cs : List Char) : List Char × Option (List Char) :=
  match cs.dropWhile (· != '=') with
  | [] => (cs, none)
  | _ :: value => (cs.takeWhile (· != '='), some value)

/-- Whether a text is a negative number. -/
def isNegativeNumber : List Char → Bool
  | '-' :: cs =>
    let whole := cs.takeWhile Text.isDecimalDigit
    match cs.drop whole.length with
    | [] => !whole.isEmpty
    | '.' :: fraction => !fraction.isEmpty && fraction.all Text.isDecimalDigit
    | _ => false
  | _ => false

namespace Usage

variable {α : Type}

/-- All names of options, in order. -/
def names (s : Usage α) : List (String × OptionSpec α) :=
  s.options.flatMap fun o => o.names.map fun n => (n, o)

/-- The option of a name. -/
def find? (s : Usage α) (name : String) : Option (OptionSpec α) := s.names.lookup name

/-- The options that a long name may be short for. -/
def longMatches (s : Usage α) (cs : List Char) : List (Argument α × String) :=
  let (stem, value) := splitEquals cs
  (s.names.filter fun (n, _) => stem.isPrefixOf n.toList).map fun (n, o) =>
    (.option o n (value.map fun v => ⟨String.ofList v, true⟩), n)

/-- The options that an argument with one hyphen may mean: a short name with more behind it, or the start
of a name. -/
def shortMatches (s : Usage α) (cs : List Char) : List (Argument α × String) :=
  s.names.filterMap fun (n, o) =>
    if n.toList = cs.take 2 then some (.option o n (some ⟨String.ofList (cs.drop 2), false⟩), n)
    else if cs.isPrefixOf n.toList then some (.option o n none, n)
    else none

/-- What an argument is, if it is not `--`. -/
def classify (s : Usage α) (arg : String) : Except Misuse (Argument α) :=
  let cs := arg.toList
  if cs.head? != some '-' then .ok (.operand arg)
  else
    match s.find? arg with
    | some o => .ok (.option o arg none)
    | none =>
      if cs.length = 1 then .ok (.operand arg)
      else
        let (stem, value) := splitEquals cs
        match value, s.find? (String.ofList stem) with
        | some v, some o =>
          .ok (.option o (String.ofList stem) (some ⟨String.ofList v, true⟩))
        | _, _ =>
          match if cs.take 2 = ['-', '-'] then s.longMatches cs else s.shortMatches cs with
          | [(a, _)] => .ok a
          | [] =>
            .ok (if isNegativeNumber cs || cs.contains ' ' then .operand arg else .unknown arg)
          | several =>
            .error ⟨s.program, "ambiguous option: " ++ arg ++ " could match " ++
              ", ".intercalate (several.map Prod.snd)⟩

/-- What some arguments are. -/
def classifyAll (s : Usage α) : List String → Except Misuse (List (Argument α))
  | [] => .ok []
  | arg :: rest =>
    if arg = "--" then .ok (.separator :: rest.map .operand)
    else do
      let a ← s.classify arg
      let as ← s.classifyAll rest
      pure (a :: as)

end Usage

/-! ## Reading -/

/-- What arguments say. -/
structure Parsed (α : Type) where
  given : List α
  operand : Option String
  /-- The name of a command and its arguments. -/
  command : Option (String × List String)
  /-- The arguments that have no meaning here. -/
  unknown : List String

/-- The options in one argument with one hyphen: flags without a value, each a letter. Nothing if
the rest of the letters is no option; those letters are then unknown. -/
def letters {α : Type} (s : Usage α) (o : OptionSpec α) (name : String) :
    Nat → Option Attached → Except Misuse (List α × Option (OptionSpec α) × Option String × List String)
  | 0, _ => .ok ([], none, none, [])
  | fuel + 1, attached =>
    match o.effect, attached with
    | .value _, none => .ok ([], some o, none, [])
    | .value _, some a => .ok ([], some o, some a.text, [])
    | .flag g, none => .ok ([g], none, none, [])
    | .flag g, some a =>
      let ignored : Misuse :=
        ⟨s.program, optionReason o ("ignored explicit argument " ++ quote a.text)⟩
      if name.toList.take 2 = ['-', '-'] then .error ignored
      else
        match a.text.toList with
        | [] => .error ignored
        | c :: rest =>
          if a.marked || c = '-' then .error ignored
          else
            match s.find? (String.ofList ['-', c]) with
            | none => .ok ([g], none, none, [String.ofList ('-' :: c :: rest)])
            | some o' =>
              let next : Option Attached := match rest with
                | [] => none
                | '=' :: v => some ⟨String.ofList v, true⟩
                | v => some ⟨String.ofList v, false⟩
              match letters s o' (String.ofList ['-', c]) fuel next with
              | .ok (gs, o'', v, unknown) => .ok (g :: gs, o'', v, unknown)
              | .error m => .error m

/-- The value of an option, read. -/
def readValue {α : Type} (s : Usage α) (o : OptionSpec α) (text : String) : Except Misuse (List α) :=
  match o.effect with
  | .flag g => .ok [g]
  | .value read =>
    match read text with
    | .ok g => .ok [g]
    | .error reason => .error ⟨s.program, optionReason o reason⟩

/-- The operand at the start of some arguments, over separators, and the arguments after it. -/
def takeOperand {α : Type} : List (Argument α) → Option String × List (Argument α)
  | .operand t :: .separator :: rest => (some t, rest)
  | .operand t :: rest => (some t, rest)
  | .separator :: .operand t :: rest => (some t, rest)
  | .separator :: rest => (none, rest)
  | rest => (none, rest)

/-- The text of an argument that is no option. -/
def Argument.text {α : Type} : Argument α → String
  | .operand t => t
  | .separator => "--"
  | .option _ n _ => n
  | .unknown t => t

namespace Usage

variable {α : Type}

/-- Reads arguments that are kept both as they are and as they were given. An option that stops the
program ends the reading. -/
def read (s : Usage α) (stops : α → Bool) :
    Nat → Bool → List (Argument α) → List String → Except Misuse (Parsed α)
  | 0, _, _, _ => .ok ⟨[], none, none, []⟩
  | fuel + 1, operandTaken, args, texts =>
    match args with
    | [] => .ok ⟨[], none, none, []⟩
    | .unknown t :: rest => do
      let p ← s.read stops fuel operandTaken rest (texts.drop 1)
      pure { p with unknown := t :: p.unknown }
    | .option o name attached :: rest => do
      let (flags, pending, value, unknown) ← letters s o name (name.length + 1 +
        ((attached.map fun a => a.text.length).getD 0)) attached
      let (last, rest, texts) ←
        match pending with
        | none => pure ([], rest, texts.drop 1)
        | some o =>
          match value, rest with
          | some v, _ => do pure (← readValue s o v, rest, texts.drop 1)
          | none, .operand v :: rest => do pure (← readValue s o v, rest, texts.drop 2)
          | none, _ => throw ⟨s.program, optionReason o "expected one argument"⟩
      let given := flags ++ last
      if given.any stops then pure ⟨given, none, none, []⟩
      else
        let p ← s.read stops fuel operandTaken rest texts
        pure { p with given := given ++ p.given, unknown := unknown ++ p.unknown }
    | _ =>
      match s.operand with
      | .command label names =>
        if args.any fun a => match a with
            | .separator => false
            | _ => true then
          match texts with
          | [] => .ok ⟨[], none, none, []⟩
          | name :: rest =>
            if names.contains name then .ok ⟨[], none, some (name, rest), []⟩
            else .error ⟨s.program, "argument " ++ label ++ ": " ++ choiceReason name names⟩
        else .ok ⟨[], none, none, texts⟩
      | .one =>
        if operandTaken then
          let extra := args.takeWhile fun a => !a.isOption
          do
            let p ← s.read stops fuel true (args.drop extra.length) (texts.drop extra.length)
            pure { p with unknown := extra.map Argument.text ++ p.unknown }
        else
          let (operand, rest) := takeOperand args
          do
            let p ← s.read stops fuel true rest (texts.drop (args.length - rest.length))
            pure { p with operand := operand }

/-- What some arguments say. `stops` tells the options that end the reading. -/
def parse (s : Usage α) (stops : α → Bool) (args : List String) : Except Misuse (Parsed α) := do
  let kinds ← s.classifyAll args
  s.read stops (2 * args.length + 2) false kinds args

end Usage

end GoMeter.CommandLine

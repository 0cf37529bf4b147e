import GuidedTour.Decimal.Reading

/-!
# Command line arguments

A command is followed by its options and operands in any order. An option may carry its value behind an
equals sign; `--` ends the options. A value is looked at when the next argument has been seen, so a fault
of the next argument may come first.

* `Command.ofArguments` - the command that arguments ask for.
-/

namespace GuidedTour

/-- The look that is asked for. -/
inductive StyleChoice where
  | default
  | white
  deriving DecidableEq, Inhabited

/-- The presentation that is asked for. -/
inductive ModeChoice where
  | dimAndHighlight
  | dim
  | none
  deriving DecidableEq, Inhabited

/-- What the showcase is asked to do. -/
structure DemoArguments where
  style   : StyleChoice := .default
  mode    : ModeChoice := .dimAndHighlight
  /-- Seconds until a step is left by itself. -/
  delay   : Option Float := none
  force   : Bool := false
  bubbles : Bool := false
  deriving Inhabited

/-- A command. -/
inductive Command where
  | demo (arguments : DemoArguments)
  | play (file : String) (force : Bool)
  | check (file : String)
  | reset

namespace Command

/-- What a help text is about. -/
inductive Topic where
  | program
  | demo
  | play
  | check
  | reset
  | help
  deriving DecidableEq

/-- Why arguments ask for no command. -/
inductive Fault where
  | unknownArgument
  | invalidSubcommand
  | invalidValue
  | valueValidation
  | missingRequiredArgument
  | argumentConflict
  | tooManyValues
  /-- Help was asked for. -/
  | displayHelp (topic : Topic)
  /-- The version was asked for. -/
  | displayVersion
  deriving DecidableEq

/-- The kind of a fault. -/
def Fault.kind : Fault → String
  | .unknownArgument => "UnknownArgument"
  | .invalidSubcommand => "InvalidSubcommand"
  | .invalidValue => "InvalidValue"
  | .valueValidation => "ValueValidation"
  | .missingRequiredArgument => "MissingRequiredArgument"
  | .argumentConflict => "ArgumentConflict"
  | .tooManyValues => "TooManyValues"
  | .displayHelp _ => "DisplayHelp"
  | .displayVersion => "DisplayVersion"

/-- The options and operands of a command. -/
structure Signature where
  topic    : Topic
  flags    : List String := []
  /-- Options with a value, and what their values have to be. -/
  valued   : List (String × (String → Option Fault)) := []
  operands : Nat := 0
  hasVersion : Bool := false

/-- What was given so far. -/
structure Given where
  flags    : List String := []
  values   : List (String × String) := []
  operands : List String := []

/-- An argument whose value has not been looked at. -/
inductive Pending where
  | option (name : String) (value : Option String)
  | operand (value : String)

/-- Looks at the pending value. -/
def Signature.settle (sig : Signature) (g : Given) : Option Pending → Except Fault Given
  | none => .ok g
  | some (.operand v) => if v.isEmpty then .error .invalidValue else .ok { g with operands := g.operands ++ [v] }
  | some (.option _ none) => .error .invalidValue
  | some (.option name (some v)) =>
    if (g.values.lookup name).isSome then .error .argumentConflict
    else
      match (sig.valued.lookup name).bind (· v) with
      | some fault => .error fault
      | none => .ok { g with values := g.values ++ [(name, v)] }

/-- A text cut at its first equals sign. -/
def cutAtEquals (cs : List Char) : String × Option String :=
  let name := String.ofList (cs.takeWhile (· ≠ '='))
  match cs.dropWhile (· ≠ '=') with
  | [] => (name, none)
  | _ :: value => (name, some (String.ofList value))

/-- How an argument looks. -/
inductive Shape where
  | endOfOptions
  | long (name : String) (value : Option String)
  | short (letters : List Char)
  | plain

/-- How an argument looks. -/
def shapeOf (arg : String) : Shape :=
  match arg.toList with
  | ['-', '-'] => .endOfOptions
  | '-' :: '-' :: rest => let (name, value) := cutAtEquals rest; .long name value
  | '-' :: c :: rest => .short (c :: rest)
  | _ => .plain

/-- Short options: only those for help and for the version exist. -/
def Signature.short (sig : Signature) (g : Given) (pending : Option Pending) : List Char → Fault
  | 'h' :: _ => match sig.settle g pending with
    | .ok _ => .displayHelp sig.topic
    | .error fault => fault
  | 'V' :: _ =>
    if sig.hasVersion then
      match sig.settle g pending with
      | .ok _ => .displayVersion
      | .error fault => fault
    else .unknownArgument
  | _ => .unknownArgument

/-- A long option: what was given and what is pending behind it. -/
def Signature.long (sig : Signature) (g : Given) (pending : Option Pending) (name : String)
    (value : Option String) : Except Fault (Given × Option Pending) := do
  if (sig.valued.lookup name).isSome then
    let g ← sig.settle g pending
    match value with
    | none => return (g, some (.option name none))
    | some v => return (← sig.settle g (some (.option name (some v))), none)
  else if sig.flags.contains name || name = "help" || (name = "version" && sig.hasVersion) then
    if value.isSome then throw .tooManyValues
    let g ← sig.settle g pending
    if name = "help" then throw (.displayHelp sig.topic)
    if name = "version" then throw .displayVersion
    if g.flags.contains name then throw .argumentConflict
    return ({ g with flags := g.flags ++ [name] }, none)
  else throw .unknownArgument

/-- An operand. -/
def Signature.operand (sig : Signature) (g : Given) (pending : Option Pending) (arg : String) :
    Except Fault (Given × Option Pending) := do
  let waiting := match pending with
    | some (.operand _) => 1
    | _ => 0
  if g.operands.length + waiting < sig.operands then
    return (← sig.settle g pending, some (.operand arg))
  else throw .unknownArgument

/-- Reads the arguments of a command. `closed` says that the options have ended. -/
def Signature.read (sig : Signature) : List String → (closed : Bool) → Given → Option Pending →
    Except Fault Given
  | [], _, g, pending => sig.settle g pending
  | arg :: rest, true, g, pending => do
    let (g, pending) ← sig.operand g pending arg
    sig.read rest true g pending
  | arg :: rest, false, g, pending =>
    match shapeOf arg, pending with
    | .endOfOptions, pending => sig.read rest true g pending
    | .long name value, pending => do
      let (g, pending) ← sig.long g pending name value
      sig.read rest false g pending
    | .short letters, pending => .error (sig.short g pending letters)
    | .plain, some (.option name none) => sig.read rest false g (some (.option name (some arg)))
    | .plain, pending => do
      let (g, pending) ← sig.operand g pending arg
      sig.read rest false g pending

/-- The looks by their names. -/
def styleNames : List (String × StyleChoice) := [("default", .default), ("white", .white)]

/-- The presentations by their names. -/
def modeNames : List (String × ModeChoice) :=
  [("dim-and-highlight", .dimAndHighlight), ("dim", .dim), ("none", .none)]

/-- Refuses a value that is not among names. -/
def oneOf {α : Type} (names : List (String × α)) (v : String) : Option Fault :=
  if (names.lookup v).isSome then none else some .invalidValue

/-- Refuses a value that is no number. -/
def aNumber (v : String) : Option Fault :=
  if (Decimal.readFloat? v).isSome then none else some .valueValidation

/-- The signature of the showcase's command. -/
def demoSignature : Signature :=
  { topic := .demo
    flags := ["force", "bubbles"]
    valued := [("style", oneOf styleNames), ("mode", oneOf modeNames), ("delay", aNumber)] }

/-- Reads the arguments of the showcase's command. -/
def readDemo (args : List String) : Except Fault Command := do
  let g ← demoSignature.read args false {} none
  return .demo
    { style := ((g.values.lookup "style").bind (styleNames.lookup ·)).getD .default
      mode := ((g.values.lookup "mode").bind (modeNames.lookup ·)).getD .dimAndHighlight
      delay := (g.values.lookup "delay").bind Decimal.readFloat?
      force := g.flags.contains "force"
      bubbles := g.flags.contains "bubbles" }

/-- Reads the arguments of a command on a file. -/
def readFile (topic : Topic) (flags : List String) (args : List String) : Except Fault (String × Given) := do
  let g ← Signature.read { topic := topic, flags := flags, operands := 1 } args false {} none
  match g.operands with
  | file :: _ => return (file, g)
  | [] => throw .missingRequiredArgument

/-- The topic that a command's name stands for. -/
def topicOf? : String → Option Topic
  | "demo" => some .demo
  | "play" => some .play
  | "check" => some .check
  | "reset" => some .reset
  | "help" => some .help
  | _ => none

/-- What is answered to a request for help on a command. -/
def helpFault : List String → Fault
  | [] => .displayHelp .program
  | name :: rest =>
    match topicOf? name, rest with
    | some topic, [] => .displayHelp topic
    | _, _ => .invalidSubcommand

/-- Reads the arguments of the command of a topic. -/
def readTopic (topic : Topic) (args : List String) : Except Fault Command :=
  match topic with
  | .demo | .program => readDemo args
  | .play => do
    let (file, g) ← readFile .play ["force"] args
    return .play file (g.flags.contains "force")
  | .check => do
    let (file, _) ← readFile .check [] args
    return .check file
  | .reset => do
    let _ ← Signature.read { topic := .reset } args false {} none
    return .reset
  | .help => .error (helpFault args)

/-- The command that arguments ask for; without arguments it is the showcase. -/
def ofArguments : List String → Except Fault Command
  | [] => .ok (.demo {})
  | arg :: rest =>
    match shapeOf arg with
    | .endOfOptions =>
      match rest with
      | [] => .ok (.demo {})
      | next :: _ => .error (if (topicOf? next).isSome then .unknownArgument else .invalidSubcommand)
    | .long name value => match Signature.long { topic := .program, hasVersion := true } {} none name value with
      | .error fault => .error fault
      | .ok _ => .error .unknownArgument
    | .short letters => .error (Signature.short { topic := .program, hasVersion := true } {} none letters)
    | .plain =>
      match topicOf? arg with
      | some topic => readTopic topic rest
      | none => .error .invalidSubcommand

end Command

end GuidedTour

import RobotScript.Text.Numeral
import RobotScript.Field.Basic
import RobotScript.Run.Settings

/-!
The arguments of the command line.

An option has a long name, behind two dashes, and may have a letter, behind one dash. Its value
follows an equals sign, or the letter directly, or is the next argument, which then must not look
like an option. An option is given once. Two dashes alone end the options. Arguments are judged from
left to right, so of a fault and a request for help the one that comes first decides.
-/

namespace RobotScript.Console

/-- Why a command is not carried out. -/
inductive Stop where
  /-- The arguments make no sense. -/
  | usage
  /-- Help was asked for. -/
  | help
deriving DecidableEq

/-! ### Values -/

/-- A path, which must not be empty. -/
def path? (text : String) : Option String := if text = "" then none else some text

/-- A number of 64 bits without sign. -/
def word? (text : String) : Option Nat := Text.readNat? maxWord text.toList

/-- A number of 32 bits with sign. -/
def size? (text : String) : Option Int := Text.readInt? (-2147483648) 2147483647 text.toList

/-! ### Options -/

/-- An option of a command. -/
structure OptionSpec where
  name : String
  letter : Option Char := none
  /-- The values it takes, if it takes one. -/
  accepts : Option (String → Bool) := none

/-- The arguments of a command: its options and how many paths besides. -/
structure CommandSpec where
  options : List OptionSpec := []
  paths : Nat := 0

/-- Arguments told apart: the options given, each with its value, and the paths. -/
structure Sorted where
  options : List (String × String) := []
  paths : List String := []

namespace Sorted

/-- Adds an option, which must not have been given before and must take the value. -/
def addOption (spec : OptionSpec) (value : String) (s : Sorted) : Except Stop Sorted :=
  if s.options.any (·.1 = spec.name) || !spec.accepts.all (· value) then .error .usage
  else .ok { s with options := s.options ++ [(spec.name, value)] }

/-- Adds a path, which must not be one too many. -/
def addPath (spec : CommandSpec) (s : Sorted) (text : String) : Except Stop Sorted :=
  if s.paths.length < spec.paths ∧ text ≠ "" then .ok { s with paths := s.paths ++ [text] }
  else .error .usage

/-- The value of an option, if it is given. -/
def value? {α : Type} (s : Sorted) (name : String) (read? : String → Option α) : Option α :=
  (s.options.lookup name).bind read?

end Sorted

/-- What one argument is. -/
inductive Reading where
  | path
  | option (spec : OptionSpec) (value : String)
  /-- An option that waits for its value. -/
  | awaiting (spec : OptionSpec)
  | stop (reason : Stop)

/-- Whether an argument looks like an option. A single dash does not. -/
def looksLikeOption (arg : String) : Bool :=
  match arg.toList with
  | '-' :: _ :: _ => true
  | _ => false

/-- The text before and, if there is one, after the first equals sign. -/
def splitValue (s : List Char) : String × Option String :=
  let name := String.ofList (s.takeWhile (· ≠ '='))
  match s.dropWhile (· ≠ '=') with
  | _ :: value => (name, some (String.ofList value))
  | [] => (name, none)

/-- Reads an argument behind two dashes. -/
def readLong (specs : List OptionSpec) (s : List Char) : Reading :=
  let (name, value) := splitValue s
  if name = "help" ∧ value = none then .stop .help
  else
    match specs.find? (·.name = name), value with
    | none, _ => .stop .usage
    | some spec, some v => if spec.accepts.isSome then .option spec v else .stop .usage
    | some spec, none => if spec.accepts.isSome then .awaiting spec else .option spec ""

/-- Reads an argument behind one dash: a letter and what follows it, which is its value. Every
option with a letter takes a value. -/
def readLetter (specs : List OptionSpec) (c : Char) (rest : List Char) : Reading :=
  if c = 'h' then .stop .help
  else
    match specs.find? (·.letter = some c), rest with
    | none, _ => .stop .usage
    | some spec, [] => .awaiting spec
    | some spec, '=' :: value => .option spec (String.ofList value)
    | some spec, value => .option spec (String.ofList value)

/-- Reads one argument. -/
def readArgument (specs : List OptionSpec) (arg : String) : Reading :=
  match arg.toList with
  | '-' :: '-' :: s => readLong specs s
  | '-' :: c :: s => readLetter specs c s
  | _ => .path

/-- Tells arguments apart, after those told apart already. -/
def sortArguments (spec : CommandSpec) : List String → Sorted → Except Stop Sorted
  | [], s => .ok s
  | arg :: rest, s =>
    if arg = "--" then rest.foldlM (Sorted.addPath spec) s
    else
      match readArgument spec.options arg with
      | .stop reason => .error reason
      | .path =>
        match s.addPath spec arg with
        | .error reason => .error reason
        | .ok s' => sortArguments spec rest s'
      | .option o value =>
        match s.addOption o value with
        | .error reason => .error reason
        | .ok s' => sortArguments spec rest s'
      | .awaiting o =>
        match rest with
        | [] => .error .usage
        | value :: more =>
          if looksLikeOption value then .error .usage
          else
            match s.addOption o value with
            | .error reason => .error reason
            | .ok s' => sortArguments spec more s'

/-! ### Commands -/

/-- What the command `run` is asked to do. -/
structure RunOptions where
  script : String
  field : Option String := none
  delayMs : Nat := 0
  maxSteps : Option Nat := none
  orientOnly : Bool := false
  json : Bool := false
  save : Option String := none

/-- A command with its options. -/
inductive Request where
  | version
  | run (options : RunOptions)
  | parse (script : String)
  | field (size : Int)

/-- An option whose value is a path. -/
def pathOption (name : String) (letter : Char) : OptionSpec :=
  ⟨name, some letter, some fun text => (path? text).isSome⟩

/-- An option whose value is a number of 64 bits without sign. -/
def wordOption (name : String) : OptionSpec := ⟨name, none, some fun text => (word? text).isSome⟩

/-- The arguments of the command `run`. -/
def runSpec : CommandSpec where
  options := [pathOption "field" 'f', pathOption "save" 's', wordOption "delay-ms",
    wordOption "max-steps", { name := "orient-only" }, { name := "json" }]
  paths := 1

/-- Reads the arguments of the command `run`. -/
def readRun (args : List String) : Except Stop RunOptions :=
  match sortArguments runSpec args {} with
  | .error reason => .error reason
  | .ok s =>
    match s.paths with
    | script :: _ => .ok {
        script
        field := s.value? "field" path?
        delayMs := (s.value? "delay-ms" word?).getD 0
        maxSteps := s.value? "max-steps" word?
        orientOnly := (s.value? "orient-only" some).isSome
        json := (s.value? "json" some).isSome
        save := s.value? "save" path? }
    | [] => .error .usage

/-- Reads the arguments of the command `parse`. -/
def readParse (args : List String) : Except Stop String :=
  match sortArguments { paths := 1 } args {} with
  | .error reason => .error reason
  | .ok s =>
    match s.paths with
    | script :: _ => .ok script
    | [] => .error .usage

/-- The arguments of the command `field`. -/
def fieldSpec : CommandSpec where
  options := [⟨"size", some 's', some fun text => (size? text).isSome⟩]

/-- Reads the arguments of the command `field`. -/
def readField (args : List String) : Except Stop Int :=
  match sortArguments fieldSpec args {} with
  | .error reason => .error reason
  | .ok s => .ok ((s.value? "size" size?).getD Field.defaultSize)

/-- The options that stand before any command. -/
def readTop (arg : String) : Except Stop Request :=
  match arg.toList with
  | '-' :: 'V' :: _ => .ok .version
  | '-' :: 'h' :: _ => .error .help
  | _ =>
    if arg = "--version" then .ok .version
    else if arg = "--help" then .error .help
    else .error .usage

/-- Reads the command line. -/
def Request.read (args : List String) : Except Stop Request :=
  match args with
  | [] => .error .usage
  | "run" :: rest => (readRun rest).map .run
  | "parse" :: rest => (readParse rest).map .parse
  | "field" :: rest => (readField rest).map .field
  | "help" :: rest =>
    if rest = [] ∨ rest ∈ [["run"], ["parse"], ["field"], ["help"]] then .error .help
    else .error .usage
  | arg :: _ => readTop arg

end RobotScript.Console

import RobotScript.Console.Arguments
import RobotScript.Field.Picture
import RobotScript.Json.Exchange
import RobotScript.Json.Printer
import RobotScript.Json.Reader
import RobotScript.Session.Run

/-!
The commands of the command line.

A command reads its files, shows what happens while it runs, then writes at most one file, and only
then prints its result. A file that cannot be written leaves what was shown before.
-/

namespace RobotScript.Console

/-- Why a command fails. -/
inductive Fault where
  /-- A file cannot be read as text or cannot be written. -/
  | file
  /-- A file does not hold the JSON it should. -/
  | json
  | field (error : Field.Error)
  | run (failure : Failure)

/-- The text of a fault. -/
def Fault.text : Fault → String
  | file => "<io>"
  | json => "<json>"
  | field error => error.detail
  | run failure => failure.detail

/-- How a command ends: its exit code and what it prints last. -/
structure Ending where
  code : Nat := 0
  stdout : String := ""
  stderr : String := ""

/-- The ending of a command that fails. -/
def Ending.failed (fault : Fault) (stdout : String) : Ending :=
  ⟨1, stdout, "Error: " ++ fault.text ++ "\n"⟩

/-- A command carried out up to the file it writes. -/
structure Performance where
  /-- The lines shown while a script ran. -/
  shown : List String := []
  /-- The pause after each of these lines, in milliseconds. -/
  delayMs : Nat := 0
  /-- The file to write, with its text. -/
  save : Option (String × String) := none
  /-- What follows once the file is written. -/
  ending : Ending

/-- Text behind enough blanks to make it four wide. -/
def alignRight (text : String) : String :=
  String.ofList (List.replicate (4 - text.length) ' ') ++ text

/-- Text with enough blanks behind it to make it four wide. -/
def alignLeft (text : String) : String :=
  text ++ String.ofList (List.replicate (4 - text.length) ' ')

/-- Lines of text, each with its line feed. -/
def unlines (lines : List String) : String := lines.foldl (fun out line => out ++ line ++ "\n") ""

/-! ### Files -/

/-- Reads a file as text. -/
def readText (read? : String → Option ByteArray) (path : String) : Except Fault String :=
  match read? path with
  | none => .error .file
  | some bytes =>
    match String.fromUTF8? bytes with
    | none => .error .file
    | some text => .ok text

/-- The field that a JSON text describes. -/
def readField? (text : String) : Except Fault Field :=
  match Json.read? text.toList with
  | none => .error .json
  | some j =>
    match Json.Codec.snapshot.decode j with
    | .error _ => .error .json
    | .ok snapshot =>
      match Field.ofSnapshot snapshot with
      | .error e => .error (.field e)
      | .ok f => .ok f

/-- The text that is saved of a field. -/
def savedText (f : Field) : String := (Json.Codec.snapshot.encode f.snapshot).pretty

/-! ### The command `run` -/

/-- The line that shows an event. -/
def eventLine : Event → String
  | .moved _ c d => s!"{d.arrow} ({c.x}, {c.y})"
  | .painted c _ => s!"# ({c.x}, {c.y})"
  | .wallHit a b => s!"! wall between ({a.x}, {a.y}) and ({b.x}, {b.y})"

/-- A watcher that keeps the events, the newest first. -/
def recorder : Session.Watcher (List Event) :=
  ⟨fun event s seen => (s.stopRequested, event :: seen)⟩

/-- The settings that the options ask for. -/
def RunOptions.settings (o : RunOptions) : Settings where
  delayMs := o.delayMs
  motion := if o.orientOnly then .orient else .step
  maxSteps := o.maxSteps.getD 100000

/-- What is printed of a run that did not fail. -/
def reportEnding (o : RunOptions) (f : Field) (report : Report) : Ending :=
  if o.json then { stdout := (Json.ofReport report).pretty ++ "\n" }
  else
    { stdout := f.pictureText ++ s!"Steps: {report.ticks.length}\n"
      stderr := unlines (report.skipped.map fun n =>
        s!"warning: line {n} was not recognised and was skipped") }

/-- What is printed of a run that failed. -/
def failureEnding (o : RunOptions) (f : Field) (failure : Failure) : Ending :=
  .failed (.run failure) <|
    if o.json then (Json.Codec.descriptor.encode failure.descriptor).pretty ++ "\n"
    else f.pictureText

/-- Runs a script on a field. -/
def runScript (o : RunOptions) (source : String) (field : Field) : Performance :=
  let session : Session := { field, engine := { settings := o.settings } }
  let (result, session, events) := session.run source recorder []
  { shown := if o.json then [] else events.reverse.map eventLine
    delayMs := o.delayMs
    save := o.save.map fun path => (path, savedText session.field)
    ending :=
      match result with
      | .ok report => reportEnding o session.field report
      | .error failure => failureEnding o session.field failure }

/-! ### The command `parse` -/

/-- What is printed of a program. -/
def programEnding (p : Program) : Ending :=
  let listed := p.instructions.zipIdx.map fun (i, index) =>
    alignRight (toString index) ++ "  line " ++ alignLeft (toString i.line) ++ " " ++ i.op.display
  let skipped :=
    if p.skipped.isEmpty then []
    else "=== SKIPPED LINES ===" :: p.skipped.map fun n => s!"  {n}"
  let listing := "=== INSTRUCTIONS ===" :: listed ++ skipped
  match p.blockFault? with
  | none => { stdout := unlines (listing ++ ["Blocks: ok"]) }
  | some failure => { stdout := unlines listing, stderr := s!"Blocks: {failure.message}\n" }

/-! ### All commands -/

/-- A command that fails before it does anything. -/
def refused (fault : Fault) : Performance := { ending := .failed fault "" }

/-- The files a command reads. -/
def Request.inputs : Request → List String
  | .run o => o.script :: o.field.toList
  | .parse script => [script]
  | _ => []

/-- Carries out a command up to the file it writes. -/
def Request.perform (read? : String → Option ByteArray) : Request → Performance
  | .version => { ending := { stdout := "grid-robot 0.1.0\n" } }
  | .field size =>
    match Field.ofSize size with
    | .error e => refused (.field e)
    | .ok f => { ending := { stdout := savedText f ++ "\n" } }
  | .parse script =>
    match readText read? script with
    | .error fault => refused fault
    | .ok source => { ending := programEnding (.ofSource .standard source) }
  | .run o =>
    match readText read? o.script with
    | .error fault => refused fault
    | .ok source =>
      match o.field with
      | none => runScript o source default
      | some path =>
        match readText read? path with
        | .error fault => refused fault
        | .ok text =>
          match readField? text with
          | .error fault => refused fault
          | .ok f => runScript o source f

/-- The ending of a command once it is known whether its file could be written. -/
def Performance.settle (p : Performance) (written : Bool) : Ending :=
  if p.save.isSome && !written then .failed .file "" else p.ending

/-- The text that tells how the command line is used. -/
def usageText : String :=
  unlines ["Usage: run SCRIPT [--field FILE] [--save FILE] [--delay-ms N] [--max-steps N]",
    "           [--orient-only] [--json]", "       parse SCRIPT", "       field [--size N]",
    "       --version"]

/-- The ending of a command line that asks for no command. -/
def Stop.ending : Stop → Ending
  | .usage => { code := 2, stderr := usageText }
  | .help => { stdout := usageText }

/-- What a command line prints and writes in all. -/
structure Outcome where
  ending : Ending
  saved : Option (String × String) := none

/-- Carries out a command line, given which files can be read and where files can be written. -/
def execute (read? : String → Option ByteArray) (writable : String → Bool) (args : List String) :
    Outcome :=
  match Request.read args with
  | .error stop => { ending := stop.ending }
  | .ok request =>
    let p := request.perform read?
    let saved := p.save.filter fun file => writable file.1
    let ending := p.settle saved.isSome
    { ending := { ending with stdout := unlines p.shown ++ ending.stdout }, saved }

end RobotScript.Console

import RobotScript.Console.Command

/-!
The command line program: reads the files a command asks for, shows its lines at their pace, writes
its file and prints its result.
-/

namespace RobotScript.Console

/-- The contents of a file, if it can be read. -/
def readFile? (path : String) : IO (Option ByteArray) := do
  try
    return some (← IO.FS.readBinFile path)
  catch _ =>
    return none

/-- Writes a file and tells whether that worked. -/
def writeFile (path text : String) : IO Bool := do
  try
    IO.FS.writeFile path text
    return true
  catch _ =>
    return false

/-- Carries out a command. -/
def Request.carryOut (request : Request) : IO Ending := do
  let mut files : List (String × Option ByteArray) := []
  for path in request.inputs do
    files := (path, ← readFile? path) :: files
  let known := files
  let p := request.perform fun path => (known.lookup path).join
  for line in p.shown do
    IO.println line
    IO.sleep (UInt32.ofNat (min p.delayMs 4294967295))
  match p.save with
  | none => return p.ending
  | some (path, text) => return p.settle (← writeFile path text)

end RobotScript.Console

open RobotScript.Console in
/-- Carries out the command line. -/
def main (args : List String) : IO UInt32 := do
  let ending ←
    match Request.read args with
    | .error stop => pure stop.ending
    | .ok request => request.carryOut
  IO.print ending.stdout
  IO.eprint ending.stderr
  return UInt32.ofNat ending.code

import RobotScript.Run.Settings
import RobotScript.Script.Source

/-!
An engine: the vocabulary and the settings with which scripts are read and run.
-/

namespace RobotScript

/-- The vocabulary and the settings of a run. -/
structure Engine where
  settings : Settings := {}
  vocabulary : Vocabulary := .standard

instance : Inhabited Engine := ⟨{}⟩

/-- Reads a script with the vocabulary of the engine. -/
def Engine.read (e : Engine) (source : String) : Program := .ofSource e.vocabulary source

end RobotScript

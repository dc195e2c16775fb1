import RobotScript.Script.Condition
import RobotScript.Text.Quoted

/-!
Why a run of a script fails.
-/

namespace RobotScript

/-- The causes that end a run. What the run did before stays done. -/
inductive Failure where
  | unterminatedLoop (line : Nat)
  | unterminatedConditional (line : Nat)
  | blockedMove (start goal : Cell) (line : Nat)
  | unknownCommand (keyword : String) (line : Nat)
  | invalidCondition (text : String) (line : Nat) (reason : Condition.Error)
  | unmatchedLoopEnd (line : Nat)
  | stepLimitExceeded (limit : Nat)
  | alreadyRunning
deriving DecidableEq

/-- The cause of a condition error with its parts by name. -/
def Condition.Error.detail : Condition.Error → String
  | empty => "Empty"
  | unknownSide word => s!"UnknownSide({Text.quoted word})"
  | unknownState word => s!"UnknownState({Text.quoted word})"
  | arity words => s!"Arity({words})"

namespace Failure

/-- The tag of a cause. -/
def kind : Failure → String
  | unterminatedLoop _ => "unterminated_loop"
  | unterminatedConditional _ => "unterminated_conditional"
  | blockedMove .. => "blocked_move"
  | unknownCommand .. => "unknown_command"
  | invalidCondition .. => "invalid_condition"
  | unmatchedLoopEnd _ => "unmatched_loop_end"
  | stepLimitExceeded _ => "step_limit_exceeded"
  | alreadyRunning => "already_running"

/-- The line of the script a cause points at. -/
def line? : Failure → Option Nat
  | unterminatedLoop line => some line
  | unterminatedConditional line => some line
  | blockedMove _ _ line => some line
  | unknownCommand _ line => some line
  | invalidCondition _ line _ => some line
  | unmatchedLoopEnd line => some line
  | stepLimitExceeded _ => none
  | alreadyRunning => none

/-- The text shown to people. -/
def message : Failure → String
  | unterminatedLoop line => s!"line {line}: loop has no matching кц"
  | unterminatedConditional line => s!"line {line}: condition has no matching все"
  | blockedMove a b line =>
    s!"line {line}: wall in the way, cannot move from ({a.x}, {a.y}) to ({b.x}, {b.y})"
  | unknownCommand keyword line => s!"line {line}: unknown command \"{keyword}\""
  | invalidCondition text line reason =>
    s!"line {line}: invalid condition \"{text}\": {reason.message}"
  | unmatchedLoopEnd line => s!"line {line}: кц without an open loop"
  | stepLimitExceeded limit => s!"script exceeded the limit of {limit} steps"
  | alreadyRunning => "a script is already running"

/-- The cause with its parts by name, as a failed command prints it. -/
def detail : Failure → String
  | unterminatedLoop line => s!"UnterminatedLoop \x7b line: {line} \x7d"
  | unterminatedConditional line => s!"UnterminatedConditional \x7b line: {line} \x7d"
  | blockedMove a b line =>
    s!"BlockedMove \x7b from: {a.describe}, to: {b.describe}, line: {line} \x7d"
  | unknownCommand keyword line =>
    s!"UnknownCommand \x7b keyword: {Text.quoted keyword}, line: {line} \x7d"
  | invalidCondition text line reason =>
    s!"InvalidCondition \x7b text: {Text.quoted text}, line: {line}, reason: {reason.detail} \x7d"
  | unmatchedLoopEnd line => s!"UnmatchedLoopEnd \x7b line: {line} \x7d"
  | stepLimitExceeded limit => s!"StepLimitExceeded \x7b limit: {limit} \x7d"
  | alreadyRunning => "AlreadyRunning"

/-- A failure as it is handed to other programs. -/
@[ext]
structure Descriptor where
  kind : String
  message : String
  line : Option Nat := none
deriving DecidableEq

/-- The descriptor of a failure. -/
def descriptor (e : Failure) : Descriptor := ⟨e.kind, e.message, e.line?⟩

end Failure

end RobotScript

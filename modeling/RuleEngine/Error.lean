import RuleEngine.Condition.Token
import RuleEngine.Text.Quoted

set_option autoImplicit false

/-! # Errors

Load errors end the call that they arise in. A failed action ends its rule, and the whole tick if
the rule is critical. -/

namespace RuleEngine

/-- Why one operation did not complete. -/
inductive ActionFailure
  | controller (operation message : String)
  | invalidParameter (operation param reason : String)
  | recognition (operation message : String)
  /-- A stop came before the end. -/
  | stopped (operation : String)
  | panicked (operation : String)
deriving DecidableEq, Inhabited

namespace ActionFailure

def operation : ActionFailure → String
  | .controller op _ | .invalidParameter op _ _ | .recognition op _ | .stopped op
  | .panicked op => op

def message : ActionFailure → String
  | .controller op m => "controller error in '" ++ op ++ "': " ++ m
  | .invalidParameter op p r => "invalid parameter '" ++ p ++ "' for '" ++ op ++ "': " ++ r
  | .recognition op m => "recognition failed in '" ++ op ++ "': " ++ m
  | .stopped op => "operation '" ++ op ++ "' was stopped"
  | .panicked op => "operation '" ++ op ++ "' panicked"

/-- The failure is the answer to a stop. -/
def isStopped : ActionFailure → Bool
  | .stopped _ => true
  | _ => false

end ActionFailure

/-- Why a call on the engine failed. -/
inductive EngineError
  | configuration (message : String)
  | notFound (what : String)
  /-- A source cannot be read; the condition error is the cause, if there is one. -/
  | parse (source message : String) (cause : Option ConditionError)
  | mergeConflict (id first second : String)
  | actionFailed (failure : ActionFailure)
  | criticalActionFailed (id : String) (failure : ActionFailure)
  /-- A task on the lane failed or panicked. -/
  | laneTask (message : String)
  | laneClosed
  | invalidState (action state : String)
  | taskFailed (message : String)
  | io (path message : String)
  | serialization (message : String)
deriving DecidableEq, Inhabited

namespace EngineError

def message : EngineError → String
  | .configuration m => "Configuration error: " ++ m
  | .notFound what => "Not found: " ++ what
  | .parse source m _ => "Parse error in " ++ source ++ ": " ++ m
  | .mergeConflict id first second =>
    "Duplicate rule id '" ++ id ++ "' in fragments '" ++ first ++ "' and '" ++ second ++ "'"
  | .actionFailed f => "Action failed: " ++ f.message
  | .criticalActionFailed id f => "Critical rule '" ++ id ++ "' failed: " ++ f.message
  | .laneTask m => "GPU lane task failed: " ++ m
  | .laneClosed => "GPU lane is shut down"
  | .invalidState action state => "Invalid state: cannot " ++ action ++ " while " ++ state
  | .taskFailed m => "Background task failed: " ++ m
  | .io path m => "I/O error at " ++ Text.quoted path ++ ": " ++ m
  | .serialization m => "Serialization error: " ++ m

/-- The error ends a session before it starts. -/
def isLoadError : EngineError → Bool
  | .configuration _ | .notFound _ | .parse .. | .mergeConflict .. => true
  | _ => false

end EngineError

end RuleEngine

import PageRecipe.Project.ProjectError

/-!
# Failures of a command

A command that cannot do its work ends with a failure : a message, the causes below it and an
exit status. An error that wraps another one repeats its message, so messages that follow
themselves are shown once (`Failure.shownCauses`).
-/

namespace PageRecipe

/-- How a process ends. -/
inductive ExitStatus where
  /-- All went well. -/
  | ok
  /-- A page has violations. -/
  | findings
  /-- The command line cannot be read. -/
  | badCommandLine
  /-- The arguments ask for something that is not there. -/
  | usage
  | badData
  | noInput
  | software
  | inputOutput
  | badSettings
  deriving DecidableEq, Repr

/-- The number of an exit status. -/
def ExitStatus.code : ExitStatus → Nat
  | ok => 0
  | findings => 1
  | badCommandLine => 2
  | usage => 64
  | badData => 65
  | noInput => 66
  | software => 70
  | inputOutput => 74
  | badSettings => 78

/-- The exit status of a project that has an error. -/
def ProjectError.exitStatus : ProjectError → ExitStatus
  | mistake _ | operation .. => .badData
  | recipeNotFound _ | contentNotFound _ => .noInput
  | settings _ => .badSettings

/-- Why a command cannot do its work. -/
inductive Failure where
  | project (error : ProjectError)
  /-- Something cannot be read or written, and why. -/
  | inputOutput (context cause : String)
  /-- A result cannot be written out, and why. -/
  | output (cause : String)
  /-- The arguments ask for something that is not there. -/
  | arguments (message : String)
  deriving DecidableEq, Repr

namespace Failure

/-- A failure in words. -/
def message : Failure → String
  | project error => error.message
  | inputOutput context _ => "I/O error: " ++ context
  | output cause => "output serialization failed: " ++ cause
  | arguments message => "invalid arguments: " ++ message

/-- The causes of a failure, with those of every error that is wrapped in it. -/
def causes (failure : Failure) : List String :=
  match failure with
  | project error => error.message :: error.message :: error.causes
  | inputOutput _ cause => [failure.message, cause]
  | output cause => [failure.message, cause]
  | arguments _ => []

/-- The exit status of a failure. -/
def exitStatus : Failure → ExitStatus
  | project error => error.exitStatus
  | inputOutput .. => .inputOutput
  | output _ => .software
  | arguments _ => .usage

/-- Messages without those that repeat the message before them. -/
def withoutRepeats (last : String) : List String → List String
  | [] => []
  | message :: rest =>
    if message = last then withoutRepeats last rest else message :: withoutRepeats message rest

/-- The causes that are shown below a failure. -/
def shownCauses (failure : Failure) : List String := withoutRepeats failure.message failure.causes

end Failure

end PageRecipe

import ManifestPolicy.Mishap
import ManifestPolicy.Number.Binary64
import ManifestPolicy.Text.Blank

/-!
# Calling tools

Templates are rendered and policies are evaluated by tools, programs that are called with
arguments and a time that they may take. What comes back is an exit status with the text of the
two output streams, or word that the tool could not be run, took too long, or broke down.
-/

namespace ManifestPolicy

/-- A call of a tool. -/
structure Call where
  args : List String
  timeout : Binary64
deriving Repr, DecidableEq

/-- How a tool ended. -/
structure Completion where
  status : Int
  stdout : String
  stderr : String
deriving Repr, DecidableEq

namespace Completion

/-- What a tool complained of, without the blanks around it. -/
def complaint (c : Completion) : String := Text.trim c.stderr

/-- A tool failed if its exit status is not zero or if it complained of anything. -/
def failed (c : Completion) : Bool := c.status ≠ 0 || !c.complaint.isEmpty

/-- What to say of a tool that was called with some arguments: its complaint, or else its exit
status. A status can only be told of a tool with a name. -/
def diagnostic? (args : List String) (c : Completion) : Option String :=
  if !c.complaint.isEmpty then some c.complaint
  else if c.status ≠ 0 then args.head?.map fun tool => s!"{tool} exited with status {c.status}"
  else some "Unknown error occurred."

/-- What to say of a tool that was called. -/
def diagnostic (call : Call) (c : Completion) : String := (c.diagnostic? call.args).getD ""

end Completion

/-- What comes back from a call. -/
inductive Answer where
  | completed (c : Completion)
  /-- The system could not run the tool. -/
  | notRun (text : String)
  | timedOut (text : String)
  /-- Something else was wrong. -/
  | broken (trouble : Trouble)
deriving Repr, DecidableEq

/-- What comes back if there is nothing to be called. -/
def Answer.absent (call : Call) : Answer :=
  .notRun ("[Errno 2] No such file or directory: " ++ Text.quoted (call.args.headD ""))

end ManifestPolicy

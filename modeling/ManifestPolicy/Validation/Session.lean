import ManifestPolicy.Tool.Call
import ManifestPolicy.Validation.Result

/-!
# Sessions

Validations act on files, call tools, and give notice of what they do. A session holds the files
as they are now, what tools will reply, and a record of calls and notices. What a tool replies is
settled when it is called; the files that it writes, and its answer, are there when the call is
over.
-/

namespace ManifestPolicy

/-- What the one who asked for a validation is told. -/
inductive Notice where
  | info (text : String)
  | warning (text : String)
  | report (r : Result)
deriving Repr, DecidableEq

/-- What one call of a tool does: the files that it writes, and its answer. -/
structure Reply where
  writes : List (Location × Entry)
  answer : Answer
deriving DecidableEq

/-- A session. -/
structure Session where
  files : FileSystem
  /-- The replies to the next calls; a call beyond them finds no tool. -/
  replies : List Reply := []
  calls : List Call := []
  notices : List Notice := []
  /-- How many calls are under way, and the most that ever were. -/
  active : Nat := 0
  peak : Nat := 0
deriving DecidableEq

namespace Session

/-- Calls a tool, which replies when the call is over. -/
def dial (s : Session) (call : Call) : Session × Reply :=
  let s := { s with
    calls := s.calls ++ [call]
    active := s.active + 1
    peak := max s.peak (s.active + 1) }
  match s.replies with
  | [] => (s, ⟨[], .absent call⟩)
  | reply :: rest => ({ s with replies := rest }, reply)

/-- A call is over, and the files that the tool has written are there. -/
def settle (s : Session) (reply : Reply) : Session :=
  { s with files := s.files.plantAll reply.writes, active := s.active - 1 }

/-- A call from its beginning to its end. -/
def ask (s : Session) (call : Call) : Session × Answer :=
  let dialled := s.dial call
  (dialled.1.settle dialled.2, dialled.2.answer)

/-- Gives notice. -/
def note (s : Session) (n : Notice) : Session := { s with notices := s.notices ++ [n] }

end Session

end ManifestPolicy

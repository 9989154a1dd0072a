import ManifestPolicy.Validation.Run

/-!
# Runs that take turns

Several runs can be under way at once. Each has a turn when it is its time in the queue, and keeps
it until it calls a tool, has to wait for another run, or ends; a call is over after a few turns.
If runs in one workspace wait for each other, each workspace has a lock, which its runs get in the
order in which they asked for it.
-/

namespace ManifestPolicy

/-- Where a run stands among others. -/
inductive Task where
  | new
  /-- It waits for the lock of its workspace. -/
  | queued
  /-- Its call is over after some turns, and will have this reply. -/
  | calling (turns : Nat) (reply : Reply) (wait : Wait)
  | ended (r : Result)
  /-- It was not begun, for its workspace could not be told from others. -/
  | refused (e : FileError)
  /-- It ended without a result. -/
  | broken (t : Trouble)
deriving DecidableEq

/-- The lock of a workspace: whether a run holds it, and which runs wait for it. -/
structure Lock where
  workspace : Location
  held : Bool := false
  waiting : List Nat := []
deriving Repr, DecidableEq

/-- How many turns a call takes. -/
def callTurns : Nat := 3

/-- Runs that take turns. A run goes by its number in the list. -/
structure Schedule where
  session : Session
  tasks : List (Request × Task)
  /-- The runs that can go on, the next one first. -/
  queue : List Nat
  locks : List Lock := []
deriving DecidableEq

namespace Schedule

/-- Changes the lock of a workspace, which is made if there is none. -/
def onLock (workspace : Location) (change : Lock → Lock) : List Lock → List Lock
  | [] => [change ⟨workspace, false, []⟩]
  | l :: ls => if l.workspace = workspace then change l :: ls else l :: onLock workspace change ls

/-- The lock of a workspace. -/
def lockOf (workspace : Location) (locks : List Lock) : Lock :=
  (locks.find? fun l => l.workspace = workspace).getD ⟨workspace, false, []⟩

/-- The location of a request's workspace. -/
def workspaceOf (c : Schedule) (q : Request) : Location :=
  q.workspace.locationFrom c.session.files.base.here

/-- Changes where a run stands. -/
def setTask (c : Schedule) (n : Nat) (t : Task) : Schedule :=
  { c with tasks := c.tasks.modify n fun p => (p.1, t) }

/-- Gives a run another turn, behind all that have one. -/
def enqueue (c : Schedule) (n : Nat) : Schedule := { c with queue := c.queue ++ [n] }

/-- Gives the lock of a workspace back; the run that waited longest has a turn. -/
def release (c : Schedule) (workspace : Location) : Schedule :=
  let change : Lock → Lock := fun l => { l with held := false }
  let c := { c with locks := onLock workspace change c.locks }
  match (lockOf workspace c.locks).waiting with
  | [] => c
  | n :: _ => c.enqueue n

/-- Takes note of how far a run has come. -/
def advance (v : Validator) (c : Schedule) (n : Nat) (q : Request) (p : Session × Progress) :
    Schedule :=
  match p with
  | (s, .asking call wait) =>
    let dialled := s.dial call
    ({ c with session := dialled.1 }.setTask n (.calling callTurns dialled.2 wait)).enqueue n
  | (s, .ended r) =>
    let c := { c with session := s }.setTask n (.ended r)
    let c := if v.settings.serialize then c.release (c.workspaceOf q) else c
    match v.notify (.report r) c.session with
    | (s, none) => { c with session := s }
    | (s, some t) => { c with session := s }.setTask n (.broken t)

/-- Begins a run that holds its lock if it needs one. -/
def begin (v : Validator) (c : Schedule) (n : Nat) (q : Request) : Schedule :=
  c.advance v n q (v.start q c.session)

/-- Takes the lock of a workspace for a run that no longer waits for it. -/
def take (c : Schedule) (n : Nat) (workspace : Location) : Schedule :=
  let change : Lock → Lock := fun l => { l with held := true, waiting := l.waiting.erase n }
  { c with locks := onLock workspace change c.locks }

/-- Has a run wait for the lock of a workspace. -/
def await (c : Schedule) (n : Nat) (workspace : Location) : Schedule :=
  let change : Lock → Lock := fun l => { l with waiting := l.waiting ++ [n] }
  { c with locks := onLock workspace change c.locks }.setTask n .queued

/-- One turn of a run. -/
def step (v : Validator) (c : Schedule) (n : Nat) : Schedule :=
  match c.tasks[n]? with
  | none => c
  | some (q, task) =>
    match task with
    | .new =>
      match v.refusal? q c.session.files with
      | some e => c.setTask n (.refused e)
      | none =>
        if v.settings.serialize then
          let workspace := c.workspaceOf q
          let lock := lockOf workspace c.locks
          if lock.held || !lock.waiting.isEmpty then c.await n workspace
          else (c.take n workspace).begin v n q
        else c.begin v n q
    | .queued => (c.take n (c.workspaceOf q)).begin v n q
    | .calling (turns + 2) reply wait => (c.setTask n (.calling (turns + 1) reply wait)).enqueue n
    | .calling _ reply wait =>
      c.advance v n q (v.resume q wait reply.answer (c.session.settle reply))
    | .ended _ => c
    | .refused _ => c
    | .broken _ => c

/-- One turn of any run that can go on. -/
def turnOf (v : Validator) (c : Schedule) (n : Nat) : Schedule :=
  { c with queue := c.queue.erase n }.step v n

/-- The next turn, which is that of the first run in the queue. -/
def turn (v : Validator) (c : Schedule) : Schedule :=
  match c.queue.head? with
  | none => c
  | some n => c.turnOf v n

/-- So many turns. -/
def turns (v : Validator) : Nat → Schedule → Schedule
  | 0, c => c
  | n + 1, c => turns v n (c.turn v)

/-- Runs that have not begun. -/
def ofRequests (session : Session) (locks : List Lock) (requests : List Request) : Schedule :=
  ⟨session, requests.map fun q => (q, .new), List.range requests.length, locks⟩

/-- How many turns one run has at most: one to begin, one when it gets its lock, and those of three
calls. -/
def turnsOfRun : Nat := 2 + 3 * callTurns

/-- Runs all requests to their ends. -/
def gather (v : Validator) (session : Session) (locks : List Lock) (requests : List Request) :
    Schedule :=
  turns v (turnsOfRun * requests.length) (ofRequests session locks requests)

/-- The results of the runs that have ended, in the order of their requests, or the first trouble
of a run that has none. -/
def results (c : Schedule) : Except Trouble (List Result) :=
  (c.tasks.filterMap fun p => match p.2 with
    | .ended r => some (.ok r)
    | .refused e => some (.error (.mishap (.file e)))
    | .broken t => some (.error t)
    | _ => none).mapM id

end Schedule

end ManifestPolicy

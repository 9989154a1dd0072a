/-!
# Arguments

The arguments of a command are options and operands. An option has a long name behind two dashes
and perhaps a letter behind one; its value follows as the next argument, behind an equals sign, or
right behind the letter. Letters of options without a value may stand together. After two dashes
alone there are only operands.
-/

namespace ManifestPolicy.Arguments

/-- An option of a command. -/
structure Known where
  name : String
  letter : Option Char := none
  takesValue : Bool := false
deriving Repr, DecidableEq

/-- What was read: options with their values, in order, and operands. -/
structure Given where
  options : List (String × String) := []
  operands : List String := []
deriving Repr, DecidableEq

namespace Given

/-- With some options before the others. -/
def withOptions (options : List (String × String)) (g : Given) : Given :=
  { g with options := options ++ g.options }

/-- With an operand before the others. -/
def withOperand (operand : String) (g : Given) : Given :=
  { g with operands := operand :: g.operands }

/-- Whether an option is given. -/
def has (g : Given) (name : String) : Bool := g.options.any fun o => o.1 = name

/-- The last value that is given for an option. -/
def value? (g : Given) (name : String) : Option String :=
  (g.options.reverse.find? fun o => o.1 = name).map (·.2)

end Given

/-- Letters that stand together: the options that they give, and the name of one that still waits
for its value. -/
def readLetters (known : List Known) :
    List Char → Option (List (String × String) × Option String)
  | [] => some ([], none)
  | c :: cs => do
    let k ← known.find? fun k => k.letter = some c
    if k.takesValue then
      if cs.isEmpty then return ([], some k.name)
      else return ([(k.name, String.ofList cs)], none)
    else
      let (options, waiting) ← readLetters known cs
      return ((k.name, "") :: options, waiting)

/-- A long name, perhaps with a value. -/
def readLong (known : List Known) (cs : List Char) :
    Option (List (String × String) × Option String) := do
  let name := cs.takeWhile (· ≠ '=')
  let k ← known.find? fun k => k.name.toList = name
  match cs.dropWhile (· ≠ '=') with
  | [] => if k.takesValue then return ([], some k.name) else return ([(k.name, "")], none)
  | _ :: value => if k.takesValue then return ([(k.name, String.ofList value)], none) else none

/-- One argument that gives options. -/
def readOption (known : List Known) : List Char → Option (List (String × String) × Option String)
  | '-' :: '-' :: cs => readLong known cs
  | '-' :: cs => readLetters known cs
  | _ => none

/-- Whether an argument gives options. -/
def givesOption (arg : String) : Bool :=
  match arg.toList with
  | '-' :: _ :: _ => true
  | _ => false

/-- Reads arguments, given the name of an option that waits for its value. Options either may stand
among the operands, or end at the first of them. Nothing is read if an option is unknown, or has a
value too many or too few. -/
def readFrom (known : List Known) (mixed : Bool) : Option String → List String → Option Given
  | none, [] => some {}
  | some _, [] => none
  | some name, value :: rest =>
    (readFrom known mixed none rest).map (Given.withOptions [(name, value)])
  | none, arg :: rest =>
    if arg = "--" then some { operands := rest }
    else if givesOption arg then
      match readOption known arg.toList with
      | none => none
      | some (options, waiting) =>
        (readFrom known mixed waiting rest).map (Given.withOptions options)
    else if mixed then (readFrom known mixed none rest).map (Given.withOperand arg)
    else some { operands := arg :: rest }

/-- Reads arguments. -/
def read (known : List Known) (mixed : Bool) (args : List String) : Option Given :=
  readFrom known mixed none args

end ManifestPolicy.Arguments

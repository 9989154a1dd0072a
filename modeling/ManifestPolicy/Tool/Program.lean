import ManifestPolicy.Text.Digit
import ManifestPolicy.Text.Quoted
import ManifestPolicy.Tool.Call

/-!
# Small programs

Of a few small programs it is known what they do without running them: they write some bytes, take
some time, and end with a status or by a signal. Among them is a shell that knows lists of simple
commands, quotes, and redirections to the other stream. A call of a program that is none of them
finds no program.
-/

namespace ManifestPolicy.Program

open Text

/-- How a program ends. -/
inductive Ending where
  | status (n : Nat)
  | signal (n : Nat)
deriving Repr, DecidableEq

/-- What a program does: the bytes that it writes to both streams, the microseconds that it takes,
and its end. -/
structure Effect where
  out : List UInt8 := []
  err : List UInt8 := []
  time : Nat := 0
  ending : Ending := .status 0
deriving Repr, DecidableEq

/-- One effect after another. -/
def Effect.andThen (e f : Effect) : Effect :=
  ⟨e.out ++ f.out, e.err ++ f.err, e.time + f.time, f.ending⟩

/-- Writes a text to the first stream. -/
def writes (bytes : List UInt8) : Effect := { out := bytes }

/-- Only ends with a status. -/
def exits (n : Nat) : Effect := { ending := .status n }

/-- The bytes of characters. -/
def bytesOf (cs : List Char) : List UInt8 := (String.ofList cs).toUTF8.toList

/-- The character that a letter behind a backslash stands for. -/
def escape? : Char → Option Char
  | 'a' => some '\x07'
  | 'b' => some '\x08'
  | 'f' => some '\x0c'
  | 'n' => some '\n'
  | 'r' => some '\r'
  | 't' => some '\t'
  | 'v' => some '\x0b'
  | '\\' => some '\\'
  | '"' => some '"'
  | _ => none

/-- An octal digit. -/
def isOctal (c : Char) : Bool := '0' ≤ c && c ≤ '7'

/-- The byte that octal digits behind a backslash stand for, and what follows them. -/
def octal (cs : List Char) : UInt8 × List Char :=
  let digits := (cs.take 3).takeWhile isOctal
  ((ofDigits 8 digits).toUInt8, cs.drop digits.length)

/-- A printing program at work: what it wrote, and the operands that it has not used. -/
structure Printing where
  written : List UInt8
  operands : List String

/-- Writes a format once, with fuel for each character. -/
def writeFormat : Nat → List Char → Printing → Printing
  | 0, _, p => p
  | _, [], p => p
  | fuel + 1, '\\' :: c :: cs, p =>
    if isOctal c then
      let (byte, rest) := octal (c :: cs)
      writeFormat fuel rest { p with written := p.written ++ [byte] }
    else
      match escape? c with
      | some e => writeFormat fuel cs { p with written := p.written ++ bytesOf [e] }
      | none => writeFormat fuel cs { p with written := p.written ++ bytesOf ['\\', c] }
  | fuel + 1, '%' :: '%' :: cs, p =>
    writeFormat fuel cs { p with written := p.written ++ bytesOf ['%'] }
  | fuel + 1, '%' :: c :: cs, p =>
    let operand := p.operands.headD (if c = 'd' then "0" else "")
    writeFormat fuel cs ⟨p.written ++ bytesOf operand.toList, p.operands.drop 1⟩
  | fuel + 1, c :: cs, p => writeFormat fuel cs { p with written := p.written ++ bytesOf [c] }

/-- Writes a format again and again until all operands are used, given the most rounds. -/
def writeAll : Nat → List Char → Printing → List UInt8
  | 0, _, p => p.written
  | rounds + 1, format, p =>
    let q := writeFormat format.length format p
    if q.operands.isEmpty || q.operands.length = p.operands.length then q.written
    else writeAll rounds format q

/-- The microseconds in a number of seconds with an optional fraction. -/
def microseconds (text : String) : Nat :=
  let cs := text.toList
  let whole := ofDigits 10 (cs.takeWhile Char.isDigit)
  let fraction := ((cs.dropWhile Char.isDigit).drop 1 ++ List.replicate 6 '0').take 6
  whole * 1000000 + ofDigits 10 fraction

/-- Texts with blanks between them. -/
def spaced (words : List String) : List UInt8 := bytesOf (" ".intercalate words).toList

/-- What reading a file does where only the file that is always empty is known to be there. -/
def reading (name : String) : Effect :=
  if name = "/dev/null" then {}
  else
    let complaint := s!"cat: {name}: No such file or directory\n"
    { err := bytesOf complaint.toList, ending := .status 1 }

/-- Effects one after another; the last one that does not end well decides the end. -/
def allOf : List Effect → Effect
  | [] => {}
  | e :: es =>
    let rest := allOf es
    { e.andThen rest with ending := if rest.ending = .status 0 then e.ending else rest.ending }

/-- What a simple program does, by its name and operands. -/
def simple? : String → List String → Option Effect
  | "true", _ => some {}
  | ":", _ => some {}
  | "false", _ => some (exits 1)
  | "echo", "-n" :: words => some (writes (spaced words))
  | "echo", words => some (writes (spaced words ++ bytesOf ['\n']))
  | "printf", format :: operands =>
    some (writes (writeAll (operands.length + 1) format.toList ⟨[], operands⟩))
  | "sleep", [seconds] => some { time := microseconds seconds }
  | "cat", name :: names => some (allOf ((name :: names).map reading))
  | _, _ => none

/-! ## The shell -/

/-- What separates the commands of a list. -/
inductive Joint where
  | always
  /-- The next command is run if the one before it went well. -/
  | ifWell
  /-- The next command is run if the one before it did not go well. -/
  | ifNot
deriving Repr, DecidableEq

/-- Where a stream of a command goes. -/
inductive Sink where
  | out
  | err
  | nowhere
deriving Repr, DecidableEq

/-- The two streams of a command, as it names them. -/
inductive Stream where
  | first
  | second
deriving Repr, DecidableEq

/-- What a redirection sends a stream to. -/
inductive Target where
  /-- Where the other stream goes at that point. -/
  | other
  | nowhere
deriving Repr, DecidableEq

/-- The parts of a script. -/
inductive Token where
  | word (text : String)
  | joint (j : Joint)
  | redirect (stream : Stream) (target : Target)
deriving Repr, DecidableEq

/-- Adds the word that was begun, if one was. -/
def close (word : Option (List Char)) (rest : List Token) : List Token :=
  match word with
  | some cs => .word (String.ofList cs.reverse) :: rest
  | none => rest

/-- Whether a character ends a word. -/
def endsWord (c : Char) : Bool := c == ' ' || c == '\t' || c == '\n' || c == ';'

/-- The target of a redirection behind its sign, and what follows. Only the other stream, by its
number, and the file that keeps nothing are known. -/
def target? (stream : Stream) (cs : List Char) : Option (Target × List Char) :=
  let number := match stream with
    | .first => '2'
    | .second => '1'
  match cs with
  | '&' :: c :: rest => if c = number then some (.other, rest) else none
  | cs =>
    let name := "/dev/null".toList
    let cs := cs.dropWhile (· = ' ')
    if name.isPrefixOf cs then some (.nowhere, cs.drop name.length) else none

/-- A redirection at the beginning of the text, given whether a word was begun, and what follows. -/
def redirection? (inWord : Bool) : List Char → Option (Token × List Char)
  | '1' :: '>' :: cs =>
    if inWord then none else (target? .first cs).map fun p => (.redirect .first p.1, p.2)
  | '2' :: '>' :: cs =>
    if inWord then none else (target? .second cs).map fun p => (.redirect .second p.1, p.2)
  | '>' :: cs => (target? .first cs).map fun p => (.redirect .first p.1, p.2)
  | _ => none

/-- The text that a parameter of the script stands for, from behind its dollar sign, and what
follows. Only parameters with a number of one digit are known. -/
def parameter? (params : List String) : List Char → Option (List Char × List Char)
  | c :: cs =>
    if c.isDigit then some ((params.getD (c.toNat - '0'.toNat) "").toList, cs) else none
  | [] => none

/-- A stretch in double quotes, with its parameters, and what follows the closing quote; with fuel
for each character. -/
def inQuotes (params : List String) : Nat → List Char → List Char × List Char
  | 0, cs => ([], cs)
  | _, [] => ([], [])
  | fuel + 1, c :: cs =>
    if c = '"' then ([], cs)
    else
      match if c = '$' then parameter? params cs else none with
      | some (text, rest) =>
        let p := inQuotes params fuel rest
        (text ++ p.1, p.2)
      | none =>
        let p := inQuotes params fuel cs
        (c :: p.1, p.2)

/-- The parts of a script, with fuel for each character, given the reversed word that was begun. -/
def tokens (params : List String) : Nat → Option (List Char) → List Char → List Token
  | 0, word, _ => close word []
  | _, word, [] => close word []
  | fuel + 1, word, '\'' :: cs =>
    let quoted := cs.takeWhile (· ≠ '\'')
    tokens params fuel (some (quoted.reverse ++ word.getD [])) (cs.drop (quoted.length + 1))
  | fuel + 1, word, '"' :: cs =>
    let p := inQuotes params cs.length cs
    tokens params fuel (some (p.1.reverse ++ word.getD [])) p.2
  | fuel + 1, word, '&' :: '&' :: cs =>
    close word (.joint .ifWell :: tokens params fuel none cs)
  | fuel + 1, word, '|' :: '|' :: cs => close word (.joint .ifNot :: tokens params fuel none cs)
  | fuel + 1, word, '\\' :: c :: cs => tokens params fuel (some (c :: word.getD [])) cs
  | fuel + 1, word, c :: cs =>
    if c = ';' || c = '\n' then close word (.joint .always :: tokens params fuel none cs)
    else if endsWord c then close word (tokens params fuel none cs)
    else
      match redirection? word.isSome (c :: cs) with
      | some (t, rest) => close word (t :: tokens params fuel none rest)
      | none =>
        match if c = '$' then parameter? params cs else none with
        | some (text, rest) => tokens params fuel (some (text.reverse ++ word.getD [])) rest
        | none => tokens params fuel (some (c :: word.getD [])) cs

/-- A command of a script: its words, and where its streams go. -/
structure Line where
  words : List String := []
  first : Sink := .out
  second : Sink := .err

/-- A command with one of its streams sent elsewhere. -/
def Line.redirect (line : Line) : Stream → Target → Line
  | .first, .other => { line with first := line.second }
  | .first, .nowhere => { line with first := .nowhere }
  | .second, .other => { line with second := line.first }
  | .second, .nowhere => { line with second := .nowhere }

/-- The commands of a script, each with what comes before it, given the one that was begun. -/
def linesOf : Joint → Line → List Token → List (Joint × Line)
  | j, line, [] => [(j, line)]
  | j, line, .joint k :: rest => (j, line) :: linesOf k {} rest
  | j, line, .word w :: rest => linesOf j { line with words := line.words ++ [w] } rest
  | j, line, .redirect stream target :: rest => linesOf j (line.redirect stream target) rest

/-- The number of a signal by its name or number. -/
def signal? (name : String) : Option Nat :=
  match name with
  | "HUP" => some 1
  | "INT" => some 2
  | "KILL" => some 9
  | "TERM" => some 15
  | digits => if digits.toList.all Char.isDigit then some (ofDigits 10 digits.toList) else none

/-- A text with what its escapes stand for. -/
def unescaped : List Char → List Char
  | '\\' :: c :: cs =>
    match escape? c with
    | some e => e :: unescaped cs
    | none => '\\' :: c :: unescaped cs
  | c :: cs => c :: unescaped cs
  | [] => []

/-- Ends a script by a signal, or goes on with it if there is no such signal. -/
def killed (name : String) : Effect × Bool :=
  match signal? name with
  | some n => ({ ending := .signal n }, true)
  | none => (exits 1, false)

/-- What a command of a script does, and whether the script ends with it. -/
def command (last : Nat) : List String → Effect × Bool
  | [] => (exits last, false)
  | ["exit"] => (exits last, true)
  | ["exit", n] => (exits (ofDigits 10 n.toList % 256), true)
  | ["kill", "$$"] => ({ ending := .signal 15 }, true)
  | ["kill", "-s", name, "$$"] => killed name
  | ["kill", option, "$$"] => killed (String.ofList (option.toList.drop 1))
  | "exec" :: name :: operands => ((simple? name operands).getD (exits 127), true)
  | "echo" :: operands =>
    let words := operands.map fun w => String.ofList (unescaped w.toList)
    ((simple? "echo" words).getD {}, false)
  | name :: operands =>
    match simple? name operands with
    | some e => (e, false)
    | none =>
      let complaint := s!"sh: 1: {name}: not found\n"
      ({ err := bytesOf complaint.toList, ending := .status 127 }, false)

/-- Sends the streams of an effect where a command wants them. -/
def redirected (line : Line) (e : Effect) : Effect :=
  let reaching (s : Sink) : List UInt8 :=
    (if line.first = s then e.out else []) ++ (if line.second = s then e.err else [])
  { e with out := reaching .out, err := reaching .err }

/-- Whether a command is run after an end. -/
def follows (j : Joint) : Ending → Bool
  | .status n =>
    match j with
    | .always => true
    | .ifWell => n = 0
    | .ifNot => n ≠ 0
  | .signal _ => false

/-- Runs the commands of a script after an effect. -/
def runLines (before : Effect) : List (Joint × Line) → Effect
  | [] => before
  | (j, line) :: rest =>
    if follows j before.ending then
      let last := match before.ending with
        | .status n => n
        | .signal _ => 0
      let (e, ends) := command last line.words
      let after := before.andThen (redirected line e)
      if ends then after else runLines after rest
    else runLines before rest

/-- Runs a script with parameters, of which the one with the number zero is the name. -/
def shell (script : String) (params : List String) : Effect :=
  let cs := script.toList
  runLines {} (linesOf .always {} (tokens params cs.length none cs))

/-! ## Calls -/

/-- What stands in every system without being a program. -/
def noPrograms : List String :=
  ["", "/", "/bin", "/dev", "/dev/null", "/etc", "/etc/hostname", "/etc/hosts", "/etc/passwd", "/home",
    "/lib", "/opt", "/proc", "/root", "/sbin", "/tmp", "/usr", "/usr/bin", "/usr/lib", "/var",
    "/work", ".", "..", "./", "../"]

/-- Why a program is not run. -/
inductive Fault where
  | noName
  | nullInArgument
  | missing (name : String)
  | forbidden (name : String)
  | tooSlow (name seconds : String)
deriving Repr, DecidableEq

/-- The wording of a fault. -/
def Fault.text : Fault → String
  | .noName => "create_subprocess_exec() missing 1 required positional argument: 'program'"
  | .nullInArgument => "embedded null byte"
  | .missing name => "[Errno 2] No such file or directory: " ++ quoted name
  | .forbidden name => "[Errno 13] Permission denied: " ++ quoted name
  | .tooSlow name seconds => s!"{name} did not finish within {seconds} seconds"

/-- The last part of a program's path. -/
def baseName (name : String) : String := String.ofList ((splitAt '/' name.toList).getLastD [])

/-- The directories that programs are in. -/
def programDirs : List String := ["/bin/", "/usr/bin/", ""]

/-- The effect of a program, if it is known. -/
def effect? (name : String) (operands : List String) : Option Effect :=
  let base := baseName name
  if programDirs.any fun d => d ++ base = name then
    match base, operands with
    | "sh", ["-c", script] => some (shell script [name])
    | "sh", "-c" :: script :: params => some (shell script params)
    | ":", _ => none
    | base, operands => simple? base operands
  else none

/-- How a program ended, from its effect. -/
def completion (e : Effect) : Completion :=
  let status : Int := match e.ending with
    | .status n => n
    | .signal n => -n
  ⟨status, Utf8.decodeLossy e.out, Utf8.decodeLossy e.err⟩

/-- Runs a program with arguments, of which the first is its name. It may take so many
microseconds, which messages give in seconds. -/
def run (args : List String) (limit : Option (Nat × String)) : Except Fault Completion :=
  match args with
  | [] => .error .noName
  | name :: operands =>
    if args.any fun a => a.toList.contains '\x00' then .error .nullInArgument
    else
      match effect? name operands with
      | none => .error (if noPrograms.contains name then .forbidden name else .missing name)
      | some e =>
        match limit with
        | some (most, seconds) =>
          if most = 0 ∨ most ≤ e.time then .error (.tooSlow name seconds) else .ok (completion e)
        | none => .ok (completion e)

example : (run ["sh", "-c", "printf a >&2; exit 3"] none).toOption =
    some ⟨3, "", "a"⟩ := by decide +kernel

end ManifestPolicy.Program

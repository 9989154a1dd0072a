import ManifestPolicy.Path
import ManifestPolicy.Text.Quoted

/-!
# Files

A file system is what stands at each location: a file with its bytes, or a directory. A path is
followed part by part from a directory, so that `..` leads from where one is, and each name on the
way has to be that of a directory. Operations give the new file system, or why they failed. A
failed one changes nothing, with two exceptions: the directories made on the way to a deeper one
stay, and a file is emptied before it is written, so that a text that cannot be encoded leaves it
empty, and one that it cannot hold leaves it cut short.

Left out are links, permissions, devices, and names that are not Unicode; a disk that is full and
a directory that cannot be changed; and everybody else who might act on the files. Nothing is
reached from a present directory that was removed.
-/

namespace ManifestPolicy

/-- What can stand at a location. -/
inductive Entry where
  | file (bytes : ByteArray)
  | directory

instance : DecidableEq Entry
  | .file a, .file b =>
    match ByteArray.decEq a b with
    | isTrue h => isTrue (congrArg Entry.file h)
    | isFalse h => isFalse fun e => h (Entry.file.inj e)
  | .file _, .directory => isFalse fun e => nomatch e
  | .directory, .file _ => isFalse fun e => nomatch e
  | .directory, .directory => isTrue rfl

/-- What no operation on files changes. -/
structure Base where
  /-- The present directory, which paths without a root start from. -/
  here : Location
  /-- Whether this directory was removed. Another one in its place does not bring it back. -/
  stranded : Bool := false
  /-- The most bytes that a file may have, if that is limited. -/
  limit : Option Nat := none
deriving Repr, DecidableEq

/-- The entries by their locations, and what they rest on. The root of all files is a directory
whatever is listed. -/
structure FileSystem where
  entries : List (Location × Entry)
  base : Base
deriving DecidableEq

/-- Why an operation on a file fails. -/
inductive FileFault where
  | missing
  | exists
  | notDirectory
  | isDirectory
  | nameTooLong
deriving Repr, DecidableEq

/-- The number of a fault. -/
def FileFault.number : FileFault → Nat
  | .missing => 2
  | .exists => 17
  | .notDirectory => 20
  | .isDirectory => 21
  | .nameTooLong => 36

/-- The wording of a fault. -/
def FileFault.text : FileFault → String
  | .missing => "No such file or directory"
  | .exists => "File exists"
  | .notDirectory => "Not a directory"
  | .isDirectory => "Is a directory"
  | .nameTooLong => "File name too long"

/-- What is reported of a failed operation. -/
inductive FileError where
  /-- The system refused the operation on the path. -/
  | system (fault : FileFault) (path : Path)
  /-- The path holds a null character. -/
  | nullInPath
  /-- The path starts from a directory that was removed. -/
  | stranded
  /-- The bytes are not those of a text. -/
  | encoding (fault : Text.Utf8.Fault)
  /-- The text has no bytes. -/
  | unencodable (fault : Text.Utf8.Unencodable)
  /-- The text has more bytes than a file may have. -/
  | tooLarge
deriving Repr, DecidableEq

/-- The wording of an error. -/
def FileError.text : FileError → String
  | .system fault path =>
    s!"[Errno {fault.number}] {fault.text}: " ++ Text.quoted path.text
  | .nullInPath => "embedded null byte"
  | .stranded => "[Errno 2] No such file or directory"
  | .encoding fault => fault.message
  | .unencodable fault => fault.message
  | .tooLarge => "[Errno 27] File too large"

namespace FileSystem

/-- Sets what stands at a key; a key that is there keeps its place. -/
def put (l : Location) (e : Entry) : List (Location × Entry) → List (Location × Entry)
  | [] => [(l, e)]
  | (k, f) :: rest => if k = l then (k, e) :: rest else (k, f) :: put l e rest

/-- What stands at a location. -/
def entry? (fs : FileSystem) (l : Location) : Option Entry :=
  if l = [] then some .directory
  else (fs.entries.find? fun p => p.1 = l).map (·.2)

/-- The file system with an entry at a location. -/
def set (fs : FileSystem) (l : Location) (e : Entry) : FileSystem :=
  { fs with entries := put l e fs.entries }

/-- The file system without what stands at a location or below it. -/
def erase (fs : FileSystem) (l : Location) : FileSystem where
  entries := fs.entries.filter fun p => !l.isPrefixOf p.1
  base := { fs.base with stranded := fs.base.stranded || l.isPrefixOf fs.base.here }

/-- The most bytes that a name may have. -/
def maxName : Nat := 255

/-- The most bytes that a path may have. -/
def maxPath : Nat := 4095

/-- Where the parts lead from a location. What stands at the end is not looked at. -/
def walk (fs : FileSystem) : Location → List String → Except FileFault Location
  | at_, [] => .ok at_
  | at_, part :: rest =>
    match fs.entry? at_ with
    | none => .error .missing
    | some (.file _) => .error .notDirectory
    | some .directory =>
      if part = ".." then walk fs at_.dropLast rest
      else if part.utf8ByteSize > maxName then .error .nameTooLong
      else walk fs (at_ ++ [part]) rest

/-- The file system with an entry at the end of some parts below a location, and directories on
the way to it. -/
def plant (fs : FileSystem) (e : Entry) : Location → List String → FileSystem
  | at_, [] => fs.set at_ e
  | at_, part :: rest =>
    plant (if (fs.entry? at_).isSome then fs else fs.set at_ .directory) e (at_ ++ [part]) rest

/-- The file system with several entries, and directories on the way to them. -/
def plantAll (fs : FileSystem) (entries : List (Location × Entry)) : FileSystem :=
  entries.foldl (fun fs (l, e) => fs.plant e [] l) fs

/-- Where a path starts. -/
def start (fs : FileSystem) (p : Path) : Location :=
  match p.root with
  | .none => fs.base.here
  | _ => []

/-- Whether a path starts from a directory that was removed. -/
def isLost (fs : FileSystem) (p : Path) : Bool := fs.base.stranded && p.root = .none

/-- Where a path leads. -/
def locate (fs : FileSystem) (p : Path) : Except FileError Location :=
  if p.hasNull then .error .nullInPath
  else if p.text.utf8ByteSize > maxPath then .error (.system .nameTooLong p)
  else if fs.isLost p then .error (.system .missing p)
  else
    match fs.walk (fs.start p) p.parts with
    | .ok l => .ok l
    | .error fault => .error (.system fault p)

/-- What stands at the end of a path. -/
def status (fs : FileSystem) (p : Path) : Except FileError Entry :=
  match fs.locate p with
  | .error e => .error e
  | .ok l =>
    match fs.entry? l with
    | some e => .ok e
    | none => .error (.system .missing p)

/-- What stands at the end of a path, if anything does. It is an error only if the system cannot
tell. -/
def status? (fs : FileSystem) (p : Path) : Except FileError (Option Entry) :=
  match fs.status p with
  | .ok e => .ok (some e)
  | .error (.system .missing _) => .ok none
  | .error (.system .notDirectory _) => .ok none
  | .error .nullInPath => .ok none
  | .error e => .error e

/-- Whether something stands at the end of a path. -/
def isThere (fs : FileSystem) (p : Path) : Except FileError Bool := (fs.status? p).map Option.isSome

/-- Whether a directory stands at the end of a path. -/
def isDirectory (fs : FileSystem) (p : Path) : Except FileError Bool :=
  (fs.status? p).map fun e => e = some .directory

/-- The bytes of a file. -/
def readBytes (fs : FileSystem) (p : Path) : Except FileError ByteArray :=
  match fs.status p with
  | .error e => .error e
  | .ok .directory => .error (.system .isDirectory p)
  | .ok (.file bytes) => .ok bytes

/-- The text of a file, with every line ended by a line feed. -/
def readText (fs : FileSystem) (p : Path) : Except FileError String :=
  match fs.readBytes p with
  | .error e => .error e
  | .ok bytes =>
    match Text.Utf8.decode bytes with
    | .error fault => .error (.encoding fault)
    | .ok s => .ok (String.ofList (Text.Utf8.unifyNewlines s.toList))

/-- The location of a file that a path leads to and that is opened to be written: it need not be
there. -/
def openFile (fs : FileSystem) (p : Path) : Except FileError Location :=
  match fs.locate p with
  | .error e => .error e
  | .ok l => if fs.entry? l = some .directory then .error (.system .isDirectory p) else .ok l

/-- What a file holds to which a text was written, and why it is not all of the text, if so. -/
def writing (base : Base) (s : String) : ByteArray × Option FileError :=
  match Text.Utf8.encode s with
  | .error fault => (.empty, some (.unencodable fault))
  | .ok bytes =>
    match base.limit with
    | none => (bytes, none)
    | some limit =>
      if bytes.size ≤ limit then (bytes, none) else (bytes.extract 0 limit, some .tooLarge)

/-- Writes a text to a file. Once it is opened, the file holds nothing but what was written. -/
def writeText (fs : FileSystem) (p : Path) (s : String) : FileSystem × Option FileError :=
  match fs.openFile p with
  | .error e => (fs, some e)
  | .ok l =>
    let written := writing fs.base s
    (fs.set l (.file written.1), written.2)

/-- Makes one directory. -/
def makeDirectory (fs : FileSystem) (p : Path) : Except FileError FileSystem :=
  match fs.locate p with
  | .error e => .error e
  | .ok l =>
    if (fs.entry? l).isSome then .error (.system .exists p) else .ok (fs.set l .directory)

/-- Makes a directory whose parent is there; it may be there itself. -/
def ensureDirectory (fs : FileSystem) (p : Path) : FileSystem × Option FileError :=
  match fs.makeDirectory p with
  | .ok fs' => (fs', none)
  | .error e =>
    match e with
    | .system .missing _ => (fs, some e)
    | .system _ _ =>
      match fs.isDirectory p with
      | .ok true => (fs, none)
      | .ok false => (fs, some e)
      | .error e => (fs, some e)
    | e => (fs, some e)

/-- Makes the directory with these parts behind a root, and the directories above it. -/
def ensureParts (fs : FileSystem) (root : Path.Root) (parts : List String) :
    FileSystem × Option FileError :=
  match fs.ensureDirectory ⟨root, parts⟩ with
  | (fs', some (.system .missing p)) =>
    if _h : parts = [] then (fs', some (.system .missing p))
    else
      match ensureParts fs' root parts.dropLast with
      | (fs'', some e) => (fs'', some e)
      | (fs'', none) => fs''.ensureDirectory ⟨root, parts⟩
  | r => r
termination_by parts.length
decreasing_by
  have : 0 < parts.length := List.length_pos_iff.2 _h
  rw [List.length_dropLast]
  omega

/-- Makes a directory and the directories above it, as far as they are not there. -/
def ensureDirectories (fs : FileSystem) (p : Path) : FileSystem × Option FileError :=
  fs.ensureParts p.root p.parts

/-- The location that a path resolves to, whether something is there or not. -/
def resolve (fs : FileSystem) (p : Path) : Except FileError Location :=
  if p.hasNull then .error .nullInPath
  else if fs.isLost p then .error .stranded
  else .ok (p.locationFrom fs.base.here)

end FileSystem

end ManifestPolicy

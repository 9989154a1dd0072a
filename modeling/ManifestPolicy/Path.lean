import ManifestPolicy.Text.Blank

/-!
# Paths

A path is a root and the parts behind it. Empty parts and the part `.` mean nothing and are left
out when a path is read; the part `..` is kept, for what it means depends on what is there. A path
that is resolved is a location: the parts that lead from the root of all files to it.
-/

namespace ManifestPolicy

/-- The way from the root of all files to a file: names only, outermost first. -/
abbrev Location := List String

/-- What a path begins with. Two slashes are kept apart from one, but three or more are not. -/
inductive Path.Root where
  | none
  | slash
  | twoSlashes
deriving Repr, DecidableEq

/-- A path. -/
structure Path where
  root : Path.Root
  parts : List String
deriving Repr, DecidableEq

namespace Path

/-- How a root is written. -/
def Root.text : Root → String
  | .none => ""
  | .slash => "/"
  | .twoSlashes => "//"

/-- The root that a text begins with. -/
def rootOf : List Char → Root
  | '/' :: '/' :: '/' :: _ => .slash
  | '/' :: '/' :: _ => .twoSlashes
  | '/' :: _ => .slash
  | _ => .none

/-- The parts of a text, without those that mean nothing. -/
def partsOf (cs : List Char) : List String :=
  (((Text.splitAt '/' cs).filter fun p => !p.isEmpty && p != ['.'])).map String.ofList

/-- The path that a text names. -/
def ofString (s : String) : Path := ⟨rootOf s.toList, partsOf s.toList⟩

/-- A path as text; the empty path is the point. -/
def text (p : Path) : String :=
  match p.root, p.parts with
  | .none, [] => "."
  | root, parts => root.text ++ "/".intercalate parts

/-- The path as seen from another one: a path with a root stays what it is. -/
def from_ (base p : Path) : Path :=
  match p.root with
  | .none => ⟨base.root, base.parts ++ p.parts⟩
  | _ => p

/-- The path that a text names below another one. -/
def join (base : Path) (s : String) : Path := from_ base (ofString s)

/-- The path without its last part. -/
def parent (p : Path) : Path := ⟨p.root, p.parts.dropLast⟩

/-- The last part, or nothing. -/
def name (p : Path) : String := p.parts.getLast?.getD ""

/-- The last point of a name and what follows it, if something does and something stands before
it. -/
def suffixOf (name : List Char) : List Char :=
  let tail := name.reverse.takeWhile (· ≠ '.')
  if tail.isEmpty ∨ name.length ≤ tail.length + 1 then [] else '.' :: tail.reverse

/-- The suffix of the last part, with its point. -/
def suffix (p : Path) : String := String.ofList (suffixOf p.name.toList)

/-- Whether some part holds a null character; such a path names nothing. -/
def hasNull (p : Path) : Bool := p.parts.any fun part => part.toList.contains '\x00'

/-- Where the parts lead from a location, if every `..` leads back by one name. -/
def follow (at_ : Location) (parts : List String) : Location :=
  parts.foldl (fun at_ part => if part = ".." then at_.dropLast else at_ ++ [part]) at_

/-- Where a path leads, seen from a location. -/
def locationFrom (here : Location) (p : Path) : Location :=
  match p.root with
  | .none => follow here p.parts
  | _ => follow [] p.parts

/-- A location as a path. -/
def ofLocation (l : Location) : Path := ⟨.slash, l⟩

/-- The suffixes of documents that hold structured data. -/
def structuredSuffixes : List String := [".yaml", ".yml"]

/-- Whether the path is that of a document with structured data, by its suffix in any case. -/
def isStructured (p : Path) : Bool := structuredSuffixes.contains p.suffix.toLower

example : (ofString "a//./b/../c").text = "a/b/../c" := by decide +kernel
example : ((ofString "a").join "/b").text = "/b" := by decide +kernel
example : (ofString "x/.yaml").suffix = "" := by decide +kernel
example : (ofString "a.tar.gz").suffix = ".gz" := by decide +kernel

theorem parent_parts (p : Path) : p.parent.parts = p.parts.dropLast := rfl

end Path

end ManifestPolicy

import ManifestPolicy.FileSystem
import ManifestPolicy.Json.Writer
import ManifestPolicy.Schema.Published

/-!
# Schema files

The published schemas are written to one file each.
-/

namespace ManifestPolicy.Schema

/-- The file of a schema in a directory. -/
def filePath (dir : Path) (name : String) : Path := dir.join s!"{name}.schema.json"

/-- Writes schemas to files of a directory, in order, and gives their paths. -/
def saveAll (dir : Path) :
    List (String × Json) → FileSystem → FileSystem × Except FileError (List (String × Path))
  | [], files => (files, .ok [])
  | (name, schema) :: rest, files =>
    let path := filePath dir name
    match files.writeText path (schema.pretty.toOption.getD "") with
    | (files, some e) => (files, .error e)
    | (files, none) =>
      match saveAll dir rest files with
      | (files, .ok saved) => (files, .ok ((name, path) :: saved))
      | (files, .error e) => (files, .error e)

/-- Writes the published schemas to a directory, which is made if needed. -/
def save (dir : Path) (files : FileSystem) :
    FileSystem × Except FileError (List (String × Path)) :=
  match files.ensureDirectories dir with
  | (files, some e) => (files, .error e)
  | (files, none) => saveAll dir published files

end ManifestPolicy.Schema

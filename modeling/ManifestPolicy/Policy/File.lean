import ManifestPolicy.Policy.Compile

/-!
# Policy files

A policy is written to the file that the settings give, over what is there, and directories are
made as needed.
-/

namespace ManifestPolicy

/-- The place of the generated policy in a workspace. -/
def PolicySettings.generatedPath (s : PolicySettings) (workspace : Path) : Path :=
  (workspace.join s.dir).join s.generatedFile

namespace Policy

/-- The trouble with a policy file that cannot be written. -/
def unwritten (path : Path) (e : FileError) : Trouble :=
  e.expected s!"Failed to write '{path.name}'. Check folder permissions"

/-- Writes the source of a policy to a file. The directories made on the way stay even if the
file cannot be written, and so does what was written of it. -/
def save (source : String) (path : Path) (files : FileSystem) : FileSystem × Option Trouble :=
  match files.ensureDirectories path.parent with
  | (files, some e) => (files, some (unwritten path e))
  | (files, none) =>
    let written := files.writeText path source
    (written.1, written.2.map (unwritten path))

end Policy

end ManifestPolicy

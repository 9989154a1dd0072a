import ManifestPolicy.CommandLine.Execute

/-!
# The program

The program reads the files below the present directory, the settings files above it, and the files
that its arguments name; it executes the command on them, prints what the command printed, and
writes the files that have changed. It calls no tools itself: to a command they are missing.
-/

namespace ManifestPolicy.Disk

/-- Adds a file if it can be read. -/
def addFile (fs : FileSystem) (l : Location) : IO FileSystem := do
  try
    let bytes ← IO.FS.readBinFile (Path.ofLocation l).text
    return fs.plant (.file bytes) [] l
  catch _ => return fs

/-- The files below the present directory. -/
def below (here : Location) : IO FileSystem := do
  let mut fs := (FileSystem.mk [] { here }).plant .directory [] here
  for path in ← (← IO.currentDir).walkDir do
    let l := (Path.ofString path.toString).locationFrom here
    if ← path.isDir then fs := fs.plant .directory [] l else fs ← addFile fs l
  return fs

/-- The files that a command can see from a directory. -/
def load (here : Location) (args : List String) : IO FileSystem := do
  let mut fs ← below here
  for n in List.range here.length do
    fs ← addFile fs (here.take n ++ [Settings.fileName])
  for path in ((Command.read args).map Command.paths).getD [] do
    if !path.hasNull then fs ← addFile fs (path.locationFrom here)
  return fs

/-- Writes what is not as it was before. -/
def save (before after : FileSystem) : IO Unit := do
  for (l, e) in after.entries do
    if before.entry? l ≠ some e then
      match e with
      | .directory => IO.FS.createDirAll (Path.ofLocation l).text
      | .file bytes => IO.FS.writeBinFile (Path.ofLocation l).text bytes

end ManifestPolicy.Disk

/-- Executes the command that the arguments make, on a screen of the usual width. -/
def main (args : List String) : IO UInt32 := do
  let here := (ManifestPolicy.Path.ofString (← IO.currentDir).toString).parts
  let files ← ManifestPolicy.Disk.load here args
  let (session, ended) := ManifestPolicy.Command.executeArgs 80 args { files }
  ManifestPolicy.Disk.save files session.files
  IO.print (String.ofList ended.stdout)
  match ended.trouble with
  | some t => IO.eprintln t.text
  | none => pure ()
  return ended.exitCode.toUInt32

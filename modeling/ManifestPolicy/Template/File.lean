import ManifestPolicy.Mishap
import ManifestPolicy.Template.Detect
import ManifestPolicy.Template.Sanitize

/-!
# Template files

A document is taken for a template by what its file holds. A template that is made plain is
written to a file beside it.
-/

namespace ManifestPolicy.Template

/-- The trouble with a file that cannot be read: here, bytes that are no text are expected too. -/
def trouble (message : String) : FileError → Trouble
  | .nullInPath => .mishap (.file .nullInPath)
  | e => .failure ⟨.io, message, some e.text⟩

/-- Whether a file holds a template; messages show the document in the words given. -/
def isTemplateShown (files : FileSystem) (shown : String) (document : Path) :
    Except Trouble Bool :=
  match files.readText document with
  | .ok text => .ok (isTemplate text)
  | .error e => .error (trouble s!"Failed to read '{shown}'" e)

/-- Whether a file holds a template. -/
def isTemplateFile (files : FileSystem) (document : Path) : Except Trouble Bool :=
  isTemplateShown files document.text document

/-- The file that a template is written to when it is made plain. -/
def plainPath (s : SanitizerSettings) (document : Path) : Path :=
  document.parent.join s.sanitizedFile

/-- Makes the template in a file plain, and gives the path of the new file. -/
def sanitizeFile (s : SanitizerSettings) (files : FileSystem) (document : Path) :
    FileSystem × Except Trouble Path :=
  match files.readText document with
  | .error e => (files, .error (trouble s!"Failed to read template '{document.name}'" e))
  | .ok text =>
    let plain := plainPath s document
    match files.writeText plain (sanitize s text) with
    | (files, some e) => (files, .error (e.expected s!"Failed to write '{plain.name}'"))
    | (files, none) => (files, .ok plain)

end ManifestPolicy.Template

import ManifestPolicy.Path
import ManifestPolicy.Settings.Basic
import ManifestPolicy.Tool.Call

/-!
# The renderer

A template is rendered by a tool that reads its values from a file beside the template and writes
what it renders to a directory there. The tool is asked for its version first; if it does not
answer well, it counts as missing.
-/

namespace ManifestPolicy.Renderer

/-- The directory that rendered documents go to. -/
def outputDir (s : RendererSettings) (document : Path) : Path := document.parent.join s.outputDir

/-- Where a rendered document is then found. -/
def renderedPath (s : RendererSettings) (document : Path) : Path :=
  (outputDir s document).join s.renderedFile

/-- What messages call the renderer. -/
def name (s : RendererSettings) : String := if s.enabled then "helm" else "unavailable"

/-- The call that asks for the version. -/
def versionCall (s : RendererSettings) : Call := ⟨[s.command, "version"], s.timeout⟩

/-- Whether the answer to the question for the version shows that the renderer is there. -/
def isAvailable : Answer → Except Trouble Bool
  | .completed c =>
    .ok (c.status = 0 && !Text.occursIn "not recognized".toList c.stderr.toList)
  | .notRun _ => .ok false
  | .timedOut _ => .ok false
  | .broken t => .error t

/-- The call that renders a document. -/
def renderCall (s : RendererSettings) (document : Path) : Call :=
  ⟨[s.command, "template", document.text,
    "--values", (document.parent.join s.valuesFile).text,
    "--output-dir", (outputDir s document).text], s.timeout⟩

/-- A failure of the renderer. -/
def failure (message details : String) : Trouble := .failure ⟨.render, message, some details⟩

/-- The rendered document, by the answer to the call that renders it. -/
def rendered (s : RendererSettings) (document : Path) : Answer → Except Trouble Path
  | .completed c =>
    if c.failed then
      .error (failure s!"{s.command} template failed" (c.diagnostic (renderCall s document)))
    else .ok (renderedPath s document)
  | .notRun text => .error (failure s!"Failed to run {s.command}" text)
  | .timedOut text => .error (failure s!"Rendering {document.name} timed out" text)
  | .broken t => .error t

/-- The failure of rendering without a renderer. -/
def none (document : Path) : Trouble :=
  failure "No template renderer is available" document.text

end ManifestPolicy.Renderer

import ManifestPolicy.Text.Blank

/-!
# Recognising templates

A document is taken for a template if one of a few marks of template syntax occurs in it,
wherever it stands.
-/

namespace ManifestPolicy.Template

open Text

/-- The marks of a template. -/
def marks : List String := ["\x7b\x7b", "\x7d\x7d", ".Values", "include "]

/-- Whether the text is a template. -/
def isTemplate (text : String) : Bool := marks.any fun m => occursIn m.toList text.toList

end ManifestPolicy.Template

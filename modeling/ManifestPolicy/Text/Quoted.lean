import ManifestPolicy.Text.Printable
import ManifestPolicy.Text.Utf8

/-!
# Quoted text

Messages show a text between quotes. Single quotes are the rule; a text that holds a single
quote and no double quote stands between double ones, so that nothing needs an escape.
-/

namespace ManifestPolicy.Text

/-- A character inside the quotes: the quote itself and the backslash are escaped, the common
controls have short forms, and what is not printable is written by its code. -/
def quotedChar (quote c : Char) : List Char :=
  if c = quote || c = '\\' then ['\\', c]
  else if c = '\n' then ['\\', 'n']
  else if c = '\r' then ['\\', 'r']
  else if c = '\t' then ['\\', 't']
  else if isPrintable c then [c]
  else
    let n := c.toNat
    if n < 0x100 then '\\' :: 'x' :: (Utf8.hexPadded 2 n).toList
    else if n < 0x10000 then '\\' :: 'u' :: (Utf8.hexPadded 4 n).toList
    else if Utf8.isHalf c then '\\' :: 'u' :: (Utf8.hexPadded 4 (Utf8.halfCode c)).toList
    else '\\' :: 'U' :: (Utf8.hexPadded 8 n).toList

/-- The quote that a text is shown between. -/
def quoteFor (cs : List Char) : Char :=
  if cs.contains '\'' && !cs.contains '"' then '"' else '\''

/-- The text between quotes. -/
def quotedChars (cs : List Char) : List Char :=
  let quote := quoteFor cs
  quote :: (cs.flatMap (quotedChar quote) ++ [quote])

/-- The string between quotes. -/
def quoted (s : String) : String := String.ofList (quotedChars s.toList)

example : quoted "it's" = "\"it's\"" := by decide
example : quoted "a\\\x07" = "'a\\\\\\x07'" := by decide

end ManifestPolicy.Text

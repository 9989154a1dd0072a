import ManifestPolicy.Calendar
import ManifestPolicy.Number.Integer
import ManifestPolicy.Text.Quoted
import ManifestPolicy.Yaml.Mark

/-!
# What can be wrong with a YAML text

A fault says what was being done and where that began, what the problem is, and where it was met.
Scalars whose text does not fit their type fail on their own account, with no place.
-/

namespace ManifestPolicy.Yaml

open Text

/-- The kinds of node. -/
inductive NodeKind where
  | scalar
  | sequence
  | mapping
deriving Repr, DecidableEq

/-- The word for a kind of node. -/
def NodeKind.text : NodeKind → String
  | .scalar => "scalar"
  | .sequence => "sequence"
  | .mapping => "mapping"

/-- What was being done when a problem was met. -/
inductive Activity where
  | simpleKey
  | directive
  | anchor
  | aliasName
  | tag
  | tagUri
  | directiveUri
  | blockScalar
  | doubleQuoted
  | quotedScalar
  | nextToken
  | node
  | blockNode
  | flowNode
  | blockCollection
  | blockMapping
  | flowSequence
  | flowMapping
  | mappingValue
  | orderedMap
  | pairs
  | firstAnchor (name : String)
  | singleDocument
deriving Repr, DecidableEq

/-- The wording of an activity. -/
def Activity.text : Activity → String
  | .simpleKey => "while scanning a simple key"
  | .directive => "while scanning a directive"
  | .anchor => "while scanning an anchor"
  | .aliasName => "while scanning an alias"
  | .tag => "while scanning a tag"
  | .tagUri => "while parsing a tag"
  | .directiveUri => "while parsing a directive"
  | .blockScalar => "while scanning a block scalar"
  | .doubleQuoted => "while scanning a double-quoted scalar"
  | .quotedScalar => "while scanning a quoted scalar"
  | .nextToken => "while scanning for the next token"
  | .node => "while parsing a node"
  | .blockNode => "while parsing a block node"
  | .flowNode => "while parsing a flow node"
  | .blockCollection => "while parsing a block collection"
  | .blockMapping => "while parsing a block mapping"
  | .flowSequence => "while parsing a flow sequence"
  | .flowMapping => "while parsing a flow mapping"
  | .mappingValue => "while constructing a mapping"
  | .orderedMap => "while constructing an ordered map"
  | .pairs => "while constructing pairs"
  | .firstAnchor name => s!"found duplicate anchor {quoted name}; first occurrence"
  | .singleDocument => "expected a single document in the stream"

/-- What is wrong. A character that was found is the zero character at the end of the text. -/
inductive Problem where
  | noColon
  | cannotStart (found : Char)
  | sequenceNotAllowed
  | keyNotAllowed
  | valueNotAllowed
  | notAlphanumeric (found : Char)
  | notDigit (found : Char)
  | notDigitOrPoint (found : Char)
  | notDigitOrSpace (found : Char)
  | notSpace (found : Char)
  | notCommentOrBreak (found : Char)
  | notClosingAngle (found : Char)
  | notExclamation (found : Char)
  | notUri (found : Char)
  | notUriEscape (found : Char)
  | uriEncoding (fault : Utf8.Fault)
  | zeroIndentation
  | notBlockIndicator (found : Char)
  | notHexEscape (length : Nat) (found : Char)
  | unknownEscape (found : Char)
  | unexpectedEnd
  | unexpectedSeparator
  | notDocumentStart (token : String)
  | duplicateVersion
  | incompatibleVersion
  | duplicateHandle (handle : String)
  | undefinedHandle (handle : String)
  | noContent (token : String)
  | noBlockEnd (token : String)
  | noSequenceEnd (token : String)
  | noMappingEnd (token : String)
  | undefinedAlias (name : String)
  | secondAnchor
  | anotherDocument
  | unknownTag (tag : String)
  | wrongKind (wanted found : NodeKind)
  | unhashableKey
  | mergeElement (found : NodeKind)
  | mergeValue (found : NodeKind)
  | notSequence (found : NodeKind)
  | notSingleMapping (found : NodeKind)
  | notSingleItem (count : Nat)
  | notAscii (cause : String)
  | notBase64 (cause : String)
deriving Repr, DecidableEq

/-- A character as a message shows it. -/
def shown (c : Char) : String := quoted (String.ofList [c])

/-- The wording of a problem. -/
def Problem.text : Problem → String
  | .noColon => "could not find expected ':'"
  | .cannotStart c => s!"found character {shown c} that cannot start any token"
  | .sequenceNotAllowed => "sequence entries are not allowed here"
  | .keyNotAllowed => "mapping keys are not allowed here"
  | .valueNotAllowed => "mapping values are not allowed here"
  | .notAlphanumeric c => s!"expected alphabetic or numeric character, but found {shown c}"
  | .notDigit c => s!"expected a digit, but found {shown c}"
  | .notDigitOrPoint c => s!"expected a digit or '.', but found {shown c}"
  | .notDigitOrSpace c => s!"expected a digit or ' ', but found {shown c}"
  | .notSpace c => s!"expected ' ', but found {shown c}"
  | .notCommentOrBreak c => s!"expected a comment or a line break, but found {shown c}"
  | .notClosingAngle c => s!"expected '>', but found {shown c}"
  | .notExclamation c => s!"expected '!', but found {shown c}"
  | .notUri c => s!"expected URI, but found {shown c}"
  | .notUriEscape c =>
    s!"expected URI escape sequence of 2 hexadecimal numbers, but found {shown c}"
  | .uriEncoding f => f.message
  | .zeroIndentation => "expected indentation indicator in the range 1-9, but found 0"
  | .notBlockIndicator c => s!"expected chomping or indentation indicators, but found {shown c}"
  | .notHexEscape n c =>
    s!"expected escape sequence of {n} hexadecimal numbers, but found {shown c}"
  | .unknownEscape c => s!"found unknown escape character {shown c}"
  | .unexpectedEnd => "found unexpected end of stream"
  | .unexpectedSeparator => "found unexpected document separator"
  | .notDocumentStart t => s!"expected '<document start>', but found {quoted t}"
  | .duplicateVersion => "found duplicate YAML directive"
  | .incompatibleVersion => "found incompatible YAML document (version 1.* is required)"
  | .duplicateHandle h => s!"duplicate tag handle {quoted h}"
  | .undefinedHandle h => s!"found undefined tag handle {quoted h}"
  | .noContent t => s!"expected the node content, but found {quoted t}"
  | .noBlockEnd t => s!"expected <block end>, but found {quoted t}"
  | .noSequenceEnd t => s!"expected ',' or ']', but got {quoted t}"
  | .noMappingEnd t => s!"expected ',' or '\x7d', but got {quoted t}"
  | .undefinedAlias n => s!"found undefined alias {quoted n}"
  | .secondAnchor => "second occurrence"
  | .anotherDocument => "but found another document"
  | .unknownTag t => s!"could not determine a constructor for the tag {quoted t}"
  | .wrongKind wanted found => s!"expected a {wanted.text} node, but found {found.text}"
  | .unhashableKey => "found unhashable key"
  | .mergeElement k => s!"expected a mapping for merging, but found {k.text}"
  | .mergeValue k => s!"expected a mapping or list of mappings for merging, but found {k.text}"
  | .notSequence k => s!"expected a sequence, but found {k.text}"
  | .notSingleMapping k => s!"expected a mapping of length 1, but found {k.text}"
  | .notSingleItem n => s!"expected a single mapping item, but found {n} items"
  | .notAscii cause => s!"failed to convert base64 data into ascii: {cause}"
  | .notBase64 cause => s!"failed to decode base64 data: {cause}"

/-- A problem, where it was met, and what was being done. -/
structure Fault where
  context : Option (Activity × Option Mark)
  problem : Problem
  mark : Mark
deriving Repr, DecidableEq

/-- The lines of a fault's message. The place where an activity began is left out when the
problem was met there. -/
def Fault.message (text : List Char) (f : Fault) : String :=
  let before := match f.context with
    | none => []
    | some (activity, none) => [activity.text]
    | some (activity, some m) =>
      if m.line = f.mark.line ∧ m.column = f.mark.column then [activity.text]
      else [activity.text, m.describe text]
  "\n".intercalate (before ++ [f.problem.text, f.mark.describe text])

/-- Why the text of a scalar is no value of its type. -/
inductive ScalarFault where
  | integer (fault : Integer.Fault)
  | real (text : List Char)
  | truth (text : List Char)
  | emptyNumeral
  | timestamp
  | calendar (fault : Calendar.Fault)
  | codePoint
  | codePointSize
  | factorSize
  /-- A mapping stands for a point in time, which only a text can. -/
  | timestampParts
deriving Repr, DecidableEq

/-- The wording of a scalar's fault. -/
def ScalarFault.message : ScalarFault → String
  | .integer f => f.message
  | .real text => s!"could not convert string to float: {quoted (String.ofList text)}"
  | .truth text => quoted (String.ofList text)
  | .emptyNumeral => "string index out of range"
  | .timestamp => "'NoneType' object has no attribute 'groupdict'"
  | .calendar f => f.message
  | .codePoint => "chr() arg not in range(0x110000)"
  | .codePointSize => "Python int too large to convert to C int"
  | .factorSize => "int too large to convert to float"
  | .timestampParts => "expected string or bytes-like object, got 'list'"

/-- Why a YAML text has no value. -/
inductive Failure where
  /-- A character that no YAML text may hold, and its place. -/
  | character (c : Char) (position : Nat)
  | fault (f : Fault)
  | scalar (f : ScalarFault)
deriving Repr, DecidableEq

/-- Whether a failure is one of the text's form; the others are those of a scalar's value. -/
def Failure.isFormal : Failure → Bool
  | .scalar _ => false
  | _ => true

/-- The wording of a failure. -/
def Failure.message (text : List Char) : Failure → String
  | .character c position =>
    s!"unacceptable character #x{Utf8.hexPadded 4 c.toNat}: special characters are not allowed\n  in \"<unicode string>\", position {position}"
  | .fault f => f.message text
  | .scalar f => f.message

end ManifestPolicy.Yaml

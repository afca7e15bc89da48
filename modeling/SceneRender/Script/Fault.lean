import SceneRender.Script.Token

/-!
# Faults of a script

Why a script is no script.  Each cause is a constructor and its wording is in
`Fault.message` alone.  A fault inside a replacement field of a string is worded
after the field's own mark, however deep the fields nest.
-/

namespace SceneRender.Script

/-- What is wrong with the replacement fields of a formatted string. -/
inductive FieldFault where
  | unclosed
  | emptyExpression
  | invalidConversion
  | mismatched (opener closer : Char)
  | unmatched (closer : Char)
  | singleBrace
  | nestedTooDeeply
  | unterminated
  deriving DecidableEq, Repr

/-- The wording of a field's fault. -/
def FieldFault.message : FieldFault → String
  | unclosed => "expecting '\x7d'"
  | emptyExpression => "empty expression not allowed"
  | invalidConversion => "invalid conversion character"
  | mismatched opener closer =>
    "closing parenthesis '" ++ closer.toString ++ "' does not match opening parenthesis '" ++
      opener.toString ++ "'"
  | unmatched closer => "unmatched '" ++ closer.toString ++ "'"
  | singleBrace => "single '\x7d' is not allowed"
  | nestedTooDeeply => "expressions nested too deeply"
  | unterminated => "unterminated string"

/-- A cause for which a script is refused before its policy is looked at. -/
inductive Fault where
  -- layout
  | unindent
  | mixedTabs
  | tabsAfterSpaces
  -- characters
  | unexpectedCharacter (c : Char)
  | unexpectedCloser
  | badContinuation
  | openAtEnd
  -- numbers
  | leadingZero
  | strayUnderscore
  | malformedDecimal
  | noDigits
  -- strings
  | stringOpenAtEnd
  | stringOpenAtLineEnd
  | badEscape
  | nonAsciiBytes
  | mixedBytes
  | field (fault : FieldFault)
  | fieldExpression (fault : Fault)
  -- parameters and arguments
  | duplicateParameter (name : String)
  | defaultOrder
  | bareStar
  | positionalOrder
  | unpackingOrder
  | repeatedKeyword (name : String)
  | starredHere
  | doubleStarredHere
  | wildcardTarget
  -- grammar
  | unexpectedToken (token : Token)
  | expectedIndent
  | unexpectedEnd
  deriving DecidableEq, Repr

/-- The wording of a fault. -/
def Fault.message : Fault → String
  | unindent => "unindent does not match any outer indentation level"
  | mixedTabs => "inconsistent use of tabs and spaces in indentation"
  | tabsAfterSpaces => "Tabs not allowed as part of indentation after spaces"
  | unexpectedCharacter c => "Got unexpected token " ++ c.toString
  | unexpectedCloser => "Got unexpected nesting"
  | badContinuation => "unexpected character after line continuation character"
  | openAtEnd => "unexpected EOF while parsing"
  | leadingZero => "Invalid Token"
  | strayUnderscore => "Invalid Syntax"
  | malformedDecimal => "Invalid decimal literal"
  | noDigits => "ParseBigIntError \x7b kind: Empty \x7d"
  | stringOpenAtEnd => "Got unexpected string"
  | stringOpenAtLineEnd => "EOL while scanning string literal"
  | badEscape => "Got unexpected unicode"
  | nonAsciiBytes => "bytes can only contain ASCII literal characters"
  | mixedBytes => "cannot mix bytes and nonbytes literals"
  | field fault => "f-string: " ++ fault.message
  | fieldExpression fault => "f-string: " ++ fault.message
  | duplicateParameter name => "duplicate argument '" ++ name ++ "' in function definition"
  | defaultOrder => "non-default argument follows default argument"
  | bareStar => "named arguments must follow bare *"
  | positionalOrder => "positional argument follows keyword argument"
  | unpackingOrder => "iterable argument unpacking follows keyword argument unpacking"
  | repeatedKeyword name => "keyword argument repeated: " ++ name
  | starredHere => "cannot use starred expression here"
  | doubleStarredHere => "cannot use double starred expression here"
  | wildcardTarget => "cannot use '_' as a target"
  | unexpectedToken .indent => "unexpected indent"
  | unexpectedToken token => "invalid syntax. Got unexpected token " ++ token.text
  | expectedIndent => "expected an indented block"
  | unexpectedEnd => "Got unexpected EOF"

/-- A fault and the byte offset at which it is reported. -/
structure ScriptError where
  fault : Fault
  offset : Nat
  deriving DecidableEq, Repr

end SceneRender.Script

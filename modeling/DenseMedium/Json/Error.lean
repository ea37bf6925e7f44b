import DenseMedium.Coefficient.Numeral
import DenseMedium.Stream.Error
import DenseMedium.Text.Quoted

/-!
Errors of the document reader, by cause.

A document is malformed, or well formed but not of the expected form, or its source stops. The
reader reports the first thing wrong; positions are not part of an error.
-/

namespace DenseMedium.Json

/-- Breaches of the grammar. -/
inductive Malformed where
  | endInList
  | endInObject
  | endInString
  | endInValue
  | colonExpected
  | listCommaOrEndExpected
  | objectCommaOrEndExpected
  | literalExpected
  | valueExpected
  | escape
  | number
  | numberOutOfRange
  | unicode
  | controlCharacter
  | keyNotString
  | loneSurrogate
  | unfinishedSurrogate
  | trailingComma
  | trailingCharacters
  deriving DecidableEq, Repr

def Malformed.message : Malformed → String
  | .endInList => "EOF while parsing a list"
  | .endInObject => "EOF while parsing an object"
  | .endInString => "EOF while parsing a string"
  | .endInValue => "EOF while parsing a value"
  | .colonExpected => "expected `:`"
  | .listCommaOrEndExpected => "expected `,` or `]`"
  | .objectCommaOrEndExpected => "expected `,` or `\x7d`"
  | .literalExpected => "expected ident"
  | .valueExpected => "expected value"
  | .escape => "invalid escape"
  | .number => "invalid number"
  | .numberOutOfRange => "number out of range"
  | .unicode => "invalid unicode code point"
  | .controlCharacter => "control character (\\u0000-\\u001F) found while parsing a string"
  | .keyNotString => "key must be a string"
  | .loneSurrogate => "lone leading surrogate in hex escape"
  | .unfinishedSurrogate => "unexpected end of hex escape"
  | .trailingComma => "trailing comma"
  | .trailingCharacters => "trailing characters"

/-- What stands where something else was expected. -/
inductive Found where
  | null
  | boolean (b : Bool)
  | integer (v : Int)
  | real (d : Double)
  | string (content : String)
  | list
  | object
  deriving DecidableEq, Repr

def Found.message : Found → String
  | .null => "null"
  | .boolean b => s!"boolean `{b}`"
  | .integer v => s!"integer `{v}`"
  | .real d => "floating point `" ++ Ascii.decode (d.spell .found) ++ "`"
  | .string content => "string " ++ Quoted.string content
  | .list => "sequence"
  | .object => "map"

inductive ReadError where
  | malformed (breach : Malformed)
  | invalidType (found : Found) (expected : String)
  | invalidValue (v : Int) (expected : String)
  | invalidLength (length : Nat) (expected : String)
  | missingField (name : String)
  | duplicateField (name : String)
  | source (e : StreamError)
  deriving DecidableEq, Repr

def ReadError.message : ReadError → String
  | .malformed breach => breach.message
  | .invalidType found expected => s!"invalid type: {found.message}, expected {expected}"
  | .invalidValue v expected => s!"invalid value: integer `{v}`, expected {expected}"
  | .invalidLength length expected => s!"invalid length {length}, expected {expected}"
  | .missingField name => s!"missing field `{name}`"
  | .duplicateField name => s!"duplicate field `{name}`"
  | .source e => e.message

end DenseMedium.Json

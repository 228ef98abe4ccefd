import Stencil.Text.Basic

/-! What a reader of a document complains about: the construct it was in, what it would have
accepted instead, and a cause that is not a matter of grammar.  Any of the three may be missing. -/

namespace Stencil.Toml

inductive Construct where
  | key
  | tableHeader
  | array
  | inlineTable
  | basicString
  | multilineBasicString
  | literalString
  | multilineLiteralString
  | string
  | escapeSequence
  | shortCode
  | longCode
  | integer
  | hexadecimalInteger
  | octalInteger
  | binaryInteger
  | float
  | dateTime
  | time
  | timeOffset
  deriving DecidableEq

def Construct.name : Construct → Text
  | .key => "key".toList
  | .tableHeader => "table header".toList
  | .array => "array".toList
  | .inlineTable => "inline table".toList
  | .basicString => "basic string".toList
  | .multilineBasicString => "multiline basic string".toList
  | .literalString => "literal string".toList
  | .multilineLiteralString => "multiline literal string".toList
  | .string => "string".toList
  | .escapeSequence => "escape sequence".toList
  | .shortCode => "unicode 4-digit hex code".toList
  | .longCode => "unicode 8-digit hex code".toList
  | .integer => "integer".toList
  | .hexadecimalInteger => "hexadecimal integer".toList
  | .octalInteger => "octal integer".toList
  | .binaryInteger => "binary integer".toList
  | .float => "floating-point number".toList
  | .dateTime => "date-time".toList
  | .time => "time".toList
  | .timeOffset => "time offset".toList

inductive Expectation where
  | mark (t : Text)
  | newline
  | digit
  | leadingDigit
  deriving DecidableEq

def Expectation.name : Expectation → Text
  | .mark t => Text.quoted '\x60' '\x60' t
  | .newline => "newline".toList
  | .digit => "digit".toList
  | .leadingDigit => "leading digit".toList

/-- The kinds of value that a dotted key cannot pass through. -/
inductive Kind where
  | string
  | integer
  | float
  | boolean
  | dateTime
  | array
  | inlineTable
  deriving DecidableEq

def Kind.name : Kind → Text
  | .string => "string".toList
  | .integer => "integer".toList
  | .float => "float".toList
  | .boolean => "boolean".toList
  | .dateTime => "datetime".toList
  | .array => "array".toList
  | .inlineTable => "inline table".toList

inductive Cause where
  | recursionLimit
  | outOfRange
  | tooLarge
  | tooSmall
  /-- The key, and the table that has it already if the document names that table. -/
  | duplicateKey (key : Text) (table : Option (List Text))
  | extendsValue (path : List Text) (kind : Kind)
  deriving DecidableEq

def dotted (path : List Text) : Text := ['.'].intercalate path

def Cause.message : Cause → Text
  | .recursionLimit => "recursion limit exceeded".toList
  | .outOfRange => "value is out of range".toList
  | .tooLarge => "number too large to fit in target type".toList
  | .tooSmall => "number too small to fit in target type".toList
  | .duplicateKey key none => "duplicate key `".toList ++ key ++ "`".toList
  | .duplicateKey key (some []) => "duplicate key `".toList ++ key ++ "` in document root".toList
  | .duplicateKey key (some table) =>
    "duplicate key `".toList ++ key ++ "` in table `".toList ++ dotted table ++ "`".toList
  | .extendsValue path kind =>
    "dotted key `".toList ++ dotted path ++ "` attempted to extend non-table type (".toList ++
      kind.name ++ ")".toList

structure Complaint where
  construct : Option Construct
  expected : List Expectation
  cause : Option Cause
  deriving DecidableEq

namespace Complaint

def none : Complaint := ⟨.none, [], .none⟩

def ofCause (c : Cause) : Complaint := ⟨.none, [], some c⟩

/-- Names the construct unless a construct inside it is named already. -/
def within (k : Construct) (c : Complaint) : Complaint :=
  { c with construct := c.construct.orElse fun _ => some k }

def expecting (e : Expectation) (c : Complaint) : Complaint :=
  { c with expected := c.expected ++ [e] }

/-- The parts that are present, each on a line of its own. -/
def message (c : Complaint) : Text :=
  ['\n'].intercalate
    ((c.construct.map fun k => "invalid ".toList ++ k.name).toList ++
      (if c.expected = [] then []
        else ["expected ".toList ++ [',', ' '].intercalate (c.expected.map (·.name))]) ++
      (c.cause.map (·.message)).toList)

end Complaint

end Stencil.Toml

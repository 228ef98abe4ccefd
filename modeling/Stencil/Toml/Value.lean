import Stencil.Toml.DateTimeText
import Stencil.Toml.Document

/-! What a document means.  The ways of writing tables and arrays are forgotten.  A table whose
first key is a certain private name stands for a date or time, which its value spells out. -/

namespace Stencil.Toml

inductive Value where
  | scalar (value : Scalar)
  | array (items : List Value)
  | table (entries : List (Text × Value))

def privateDateTime : Text := "$__toml_private_datetime".toList

/-- A value that does not spell the date or time it should. -/
inductive Misspelling where
  | noString (found : Text)
  | malformed (fault : DateTimeText.Fault)
  deriving DecidableEq

def Misspelling.message : Misspelling → Text
  | .noString found =>
    "invalid type: ".toList ++ found ++ ", expected string containing a datetime".toList
  | .malformed fault => fault.message

def intText (n : Int) : Text :=
  match n with
  | .ofNat n => Text.decimal n
  | .negSucc n => '-' :: Text.decimal (n + 1)

def inBackticks (what : String) (t : Text) : Text :=
  what.toList ++ ' ' :: Text.quoted '\x60' '\x60' t

def Node.described : Node → Text
  | .scalar _ (.string t) => inBackticks "string" t
  | .scalar _ (.integer n) => inBackticks "integer" (intText n)
  | .scalar _ (.float x) => inBackticks "floating point" x.text
  | .scalar _ (.boolean b) => inBackticks "boolean" (if b then "true".toList else "false".toList)
  | .scalar _ .dateTime => "map".toList
  | .array _ _ => "sequence".toList
  | .inline _ => "map".toList
  | .table _ => "map".toList
  | .tables _ _ => "sequence".toList

def Node.misspelling? : Node → Option Misspelling
  | .scalar _ (.string t) => (DateTimeText.fault? t).map .malformed
  | node => some (.noString node.described)

/-- A fault in what a node means, and where it stands. -/
structure MeaningFault where
  extent : Extent
  misspelling : Misspelling

abbrev Meaning (α : Type) := Except MeaningFault α

/-- A table that stands for a date: only its first value counts. -/
def dateMeaning (key : Key) (node : Node) : Meaning Value :=
  match node.misspelling? with
  | none => .ok (.scalar .dateTime)
  | some misspelling => .error ⟨node.extent?.getD key.extent, misspelling⟩

/-- The first entry of a table, if it makes the table stand for a date. -/
def dateEntry? : List (Key × Node) → Option (Key × Node)
  | [] => none
  | (key, node) :: _ => if key.name = privateDateTime then some (key, node) else none

mutual

def Node.meaning : Node → Meaning Value
  | .scalar _ value => .ok (.scalar value)
  | .array _ items => (itemMeanings items).map .array
  | .inline t => tableMeaning t
  | .table t => tableMeaning t
  | .tables earlier last =>
    match tableMeanings earlier with
    | .error fault => .error fault
    | .ok values => (tableMeaning last).map fun value => .array (values ++ [value])
termination_by structural node => node

def itemMeanings : List Node → Meaning (List Value)
  | [] => .ok []
  | item :: items =>
    match item.meaning with
    | .error fault => .error fault
    | .ok value => (itemMeanings items).map (value :: ·)
termination_by structural items => items

def tableMeanings : List (Table Node) → Meaning (List Value)
  | [] => .ok []
  | t :: ts =>
    match tableMeaning t with
    | .error fault => .error fault
    | .ok value => (tableMeanings ts).map (value :: ·)
termination_by structural ts => ts

def tableMeaning : Table Node → Meaning Value
  | ⟨_, _, entries⟩ =>
    match dateEntry? entries with
    | some (key, node) => dateMeaning key node
    | none => (entryMeanings entries).map .table
termination_by structural t => t

def entryMeanings : List (Key × Node) → Meaning (List (Text × Value))
  | [] => .ok []
  | entry :: entries =>
    match entryMeaning entry with
    | .error fault => .error fault
    | .ok value => (entryMeanings entries).map (value :: ·)
termination_by structural entries => entries

def entryMeaning : Key × Node → Meaning (Text × Value)
  | (key, node) => (node.meaning).map fun value => (key.name, value)
termination_by structural entry => entry

end

def MeaningFault.error (t : Text) (f : MeaningFault) : ParseError :=
  ⟨f.misspelling.message, some (offsetOf t f.extent.start, offsetOf t f.extent.stop)⟩

/-- The value of a top-level key, if the document has it; all else in the document only has to be
well formed. -/
def lookup (t key : Text) : Except ParseError (Option Value) :=
  match parse t with
  | .error e => .error e
  | .ok root =>
    match root.find? key with
    | none => .ok none
    | some node =>
      match node.meaning with
      | .ok value => .ok (some value)
      | .error f => .error (f.error t)

end Stencil.Toml

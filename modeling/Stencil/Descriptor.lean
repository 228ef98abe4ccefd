import Stencil.Failure
import Stencil.Record
import Stencil.Toml.Value

/-! A descriptor holds the records in the list `types_list`, one table each.  In each table first
every value must be a string, and then every key must be a placeholder's; the first table that
fails decides. -/

namespace Stencil.Descriptor

def listKey : Text := "types_list".toList

/-- The string pairs of a table, or the first key whose value is no string. -/
def stringPairs : List (Text × Toml.Value) → Except Text (List (Text × Text))
  | [] => .ok []
  | (key, .scalar (.string value)) :: entries =>
    (stringPairs entries).map fun pairs => (key, value) :: pairs
  | (key, _) :: _ => .error key

def recordOf (index : Nat) : Toml.Value → Except LoadFault Record
  | .table entries =>
    match stringPairs entries with
    | .error key => .error (.invalidValue index key)
    | .ok pairs =>
      match Record.ofPairs pairs with
      | .error fault => .error (.invalidKey index fault)
      | .ok record => .ok record
  | _ => .error (.invalidEntry index)

def recordsFrom : Nat → List Toml.Value → Except LoadFault (List Record)
  | _, [] => .ok []
  | index, value :: values =>
    match recordOf index value with
    | .error fault => .error fault
    | .ok record => (recordsFrom (index + 1) values).map (record :: ·)

def recordsOf : Toml.Value → Except LoadFault (List Record)
  | .array values => recordsFrom 0 values
  | _ => .error .notAList

/-- The records of a descriptor's text; the path only serves messages. -/
def parse (text : Text) (path : Path) : Except Failure (List Record) :=
  match Toml.lookup text listKey with
  | .error error => .error (.load path (.syntaxError error text))
  | .ok none => .error (.configuration path)
  | .ok (some value) =>
    match recordsOf value with
    | .error fault => .error (.load path fault)
    | .ok records => .ok records

def loadedMessage (records : List Record) (path : Path) : Text :=
  "loaded ".toList ++ Text.decimal records.length ++ " type record(s) from '".toList ++
    path.display ++ ['\'']

end Stencil.Descriptor

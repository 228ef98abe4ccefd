import Stencil.Toml.DateTimes
import Stencil.Toml.Nesting

/-! Keys and values.  Arrays and inline tables nest to a fixed depth, and the recursion is on what
is left of it; a dotted key may not have more parts than a value may have levels. -/

namespace Stencil.Toml

open Reader

/-- One more level than a value may have. -/
def depthLimit : Nat := 80

def KeyPath.ofParts (first : Key) : List Key → KeyPath
  | [] => ⟨[], first⟩
  | next :: more => ⟨first :: (ofParts next more).through, (ofParts next more).last⟩

def keyName : Reader Text
  | '"' :: rest => basicString ('"' :: rest)
  | '\'' :: rest => literalString ('\'' :: rest)
  | s => run1 Key.isBareChar s

def keyPart : Reader Key := do
  let _ ← spaces
  let part ← located (fun start stop name => ⟨name, ⟨start, stop⟩⟩) keyName
  let _ ← spaces
  return part

def keyParts : Reader KeyPath := do
  let first ← keyPart
  let more ← many (andThen (exactly '.') fun _ => keyPart)
  return .ofParts first more

def key : Reader KeyPath :=
  judged
    (fun path => if depthLimit ≤ path.through.length + 1 then .error .recursionLimit else .ok path)
    (within .key keyParts)

def equals : Reader Char :=
  expecting (.mark ['=']) (expecting (.mark ['.']) (exactly '='))

def scalar (f : α → Scalar) (p : Reader α) : Reader Node :=
  located (fun start stop a => .scalar ⟨start, stop⟩ (f a)) p

/-- Marks a reading as that of a value of which nothing is known. -/
def asString (p : Reader α) : Reader α :=
  expecting (.mark ['\'']) (expecting (.mark ['"']) (within .string p))

def boolean (b : Bool) (name : Text) : Reader Node :=
  asString (scalar (fun _ => .boolean b) (commit (literal name)))

def number : Reader Node :=
  orElse (scalar (fun _ => .dateTime) dateTime)
    (orElse (scalar .float float) (scalar .integer integer))

/-- A value that is neither array nor inline table; its first character decides its kind. -/
def atom : Reader Node
  | [] => .refused ⟨[], .none⟩
  | c :: rest =>
    if c = '"' ∨ c = '\'' then scalar .string string (c :: rest)
    else if c = '+' ∨ c = '-' ∨ isDigit c then number (c :: rest)
    else if c = '_' then expecting .leadingDigit (scalar .integer integer) (c :: rest)
    else if c = '.' then expecting .leadingDigit (scalar .float float) (c :: rest)
    else if c = 't' then boolean true "true".toList (c :: rest)
    else if c = 'f' then boolean false "false".toList (c :: rest)
    else if c = 'i' ∨ c = 'n' then
      asString (scalar .float namedFloat) (c :: rest)
    else asString (refuse .none) (c :: rest)

def arrayItem (item : Reader Node) : Reader Node := do
  gap
  let node ← item
  gap
  return node

/-- A comma may follow the last item. -/
def arrayItems (item : Reader Node) : Reader (List Node) := do
  let items ← separated (arrayItem item) ','
  if items.isEmpty then gap
  else
    let _ ← optional (exactly ',')
    gap
  return items

def array (item : Reader Node) : Reader Node :=
  located (fun start stop items => .array ⟨start, stop⟩ items) do
    let _ ← exactly '['
    let items ← commit (arrayItems item)
    let _ ← within .array (expecting (.mark [']']) (commit (exactly ']')))
    return items

def inlinePair (value : Reader Node) : Reader (KeyPath × Node) := do
  let path ← key
  commit do
    let _ ← equals
    let _ ← spaces
    let node ← value
    let _ ← spaces
    return (path, node)

def inlinePairs (value : Reader Node) : Reader (List (KeyPath × Node)) := do
  let pairs ← separated (inlinePair value) ','
  let _ ← spaces
  return pairs

def inlineTable (value : Reader Node) : Reader Node :=
  located (fun start stop (t : Table Node) => .inline { t with extent := some ⟨start, stop⟩ }) do
    let _ ← exactly '{'
    let t ← commit (judged (Table.ofPairs · (.empty .written none)) (inlinePairs value))
    let _ ← within .inlineTable (expecting (.mark ['}']) (commit (exactly '}')))
    return t

/-- A value; its first character tells whether it is an array, an inline table or neither. -/
def valueOf (array inlineTable : Reader Node) : Reader Node
  | '[' :: rest => array ('[' :: rest)
  | '\x7b' :: rest => inlineTable ('\x7b' :: rest)
  | s => atom s

def tooDeep : Reader Node := fun s => .failed ⟨s, .ofCause .recursionLimit⟩

/-- A value inside which arrays and inline tables can nest so many levels deep. -/
def value : Nat → Reader Node
  | 0 => valueOf tooDeep tooDeep
  | levels + 1 => valueOf (array (value levels)) (inlineTable (value levels))

end Stencil.Toml

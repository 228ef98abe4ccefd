import Stencil.Toml.Node

/-! Putting keys and tables in their places.  A dotted key makes the tables on its way, but adds
only to tables that dotted keys made; a header may pass through any table and through the last
table of an array, and may stand over a table that so far was only implied. -/

namespace Stencil.Toml

namespace Key

def isBareChar (c : Char) : Bool :=
  ('a' ≤ c && c ≤ 'z') || ('A' ≤ c && c ≤ 'Z') || ('0' ≤ c && c ≤ '9') || c == '_' || c == '-'

def isControl (c : Char) : Bool := c.toNat < 0x20 || c.toNat == 0x7F

def needsEscape (c : Char) : Bool := isControl c || c == '"' || c == '\\'

/-- A character of a basic string: four upper-case digits where no short escape exists. -/
def escape (c : Char) : Text :=
  match c with
  | '\x08' => ['\\', 'b']
  | '\t' => ['\\', 't']
  | '\n' => ['\\', 'n']
  | '\x0c' => ['\\', 'f']
  | '\r' => ['\\', 'r']
  | '"' => ['\\', '"']
  | '\\' => ['\\', '\\']
  | c =>
    if needsEscape c then
      ['\\', 'u'] ++ ((Nat.toDigits 16 c.toNat).map Char.toUpper).leftpad 4 '0'
    else [c]

/-- A string between quotation marks, in which any text can be written. -/
def basicForm (t : Text) : Text := Text.quoted '"' '"' (t.flatMap escape)

/-- How messages show a key: bare if it can be, else in the plainest quotes that hold it. -/
def shown (t : Text) : Text :=
  if t ≠ [] ∧ t.all isBareChar then t
  else if t.all fun c => c == '\t' || !needsEscape c then basicForm t
  else if t.all fun c => c == '\t' || (c != '\'' && !isControl c) then Text.quoted '\'' '\'' t
  else basicForm t

end Key

structure KeyPath where
  through : List Key
  last : Key

namespace Table

/-- Changes the table at the end of a path, making the tables that are missing on the way.  `made`
is how these come to be; a dotted key may not pass through a table that stands in the text. -/
def alter (made : Standing) (change : Table Node → Except Cause (Table Node)) :
    List Key → List Text → Table Node → Except Cause (Table Node)
  | [], _, t => change t
  | k :: path, walked, t =>
    match t.find? k.name with
    | none => do
      let inner ← alter made change path (walked ++ [k.name]) (.empty made none)
      return t.append k (.table inner)
    | some (.table inner) =>
      if made = .dotted ∧ inner.standing = .written then .error (.duplicateKey k.name none)
      else do
        let inner ← alter made change path (walked ++ [k.name]) inner
        return t.replace k.name (.table inner)
    | some (.tables earlier last) => do
      let last ← alter made change path (walked ++ [k.name]) last
      return t.replace k.name (.tables earlier last)
    | some (.scalar _ value) => .error (.extendsValue (walked ++ [k.name]) value.kind)
    | some (.array _ _) => .error (.extendsValue (walked ++ [k.name]) .array)
    | some (.inline _) => .error (.extendsValue (walked ++ [k.name]) .inlineTable)

/-- The same inside braces, where every table is made by dotted keys or by braces of its own. -/
def alterInline (change : Table Node → Except Cause (Table Node)) :
    List Key → List Text → Table Node → Except Cause (Table Node)
  | [], _, t => change t
  | k :: path, walked, t =>
    match t.find? k.name with
    | none => do
      let inner ← alterInline change path (walked ++ [k.name]) (.empty .dotted none)
      return t.append k (.inline inner)
    | some (.inline inner) =>
      if inner.standing = .written then .error (.duplicateKey k.name none)
      else do
        let inner ← alterInline change path (walked ++ [k.name]) inner
        return t.replace k.name (.inline inner)
    | some (.scalar _ value) => .error (.extendsValue (walked ++ [k.name]) value.kind)
    | some (.array _ _) => .error (.extendsValue (walked ++ [k.name]) .array)
    | some (.table _) => .error (.extendsValue (walked ++ [k.name]) .inlineTable)
    | some (.tables _ _) => .error (.extendsValue (walked ++ [k.name]) .array)

/-- Adds a pair to the table where its key ends.  Only a table made by dotted keys takes the last
part of a dotted key, and no table takes a name twice. -/
def insertLast (path : KeyPath) (owner : Option (List Text)) (value : Node) (t : Table Node) :
    Except Cause (Table Node) :=
  if (t.standing == .dotted) == path.through.isEmpty then .error (.duplicateKey path.last.name none)
  else
    match t.find? path.last.name with
    | some _ => .error (.duplicateKey path.last.name owner)
    | none => .ok (t.append path.last value)

def ofPairs : List (KeyPath × Node) → Table Node → Except Cause (Table Node)
  | [], t => .ok t
  | (path, value) :: rest, t =>
    match alterInline (insertLast path none value) path.through [] t with
    | .ok t => ofPairs rest t
    | .error cause => .error cause

end Table

/-- A document being read: its tables so far, and the header whose table takes the next pairs. -/
structure Draft where
  root : Table Node
  header : List Key

namespace Draft

def start : Draft := ⟨.empty .written none, []⟩

def headerNames (d : Draft) : List Text := d.header.map (·.name)

/-- A table with a header reaches to the end of its last value. -/
def extend (stop : Text) (t : Table Node) : Table Node :=
  { t with extent := t.extent.map fun extent => { extent with stop } }

def insert (path : KeyPath) (stop : Text) (value : Node) (d : Draft) : Except Cause Draft := do
  let add (current : Table Node) : Except Cause (Table Node) :=
    (extend stop current).alter .dotted
      (Table.insertLast path (some d.headerNames) value) path.through []
  let root ← d.root.alter .implied add d.header []
  return { d with root }

def taken (path : KeyPath) : Cause :=
  .duplicateKey (Key.shown path.last.name) (some (path.through.map (·.name)))

/-- Opens the table of a header.  A table that was only implied keeps its entries but moves to the
end of its parent. -/
def openTable (path : KeyPath) (extent : Extent) (d : Draft) : Except Cause Draft := do
  let add (parent : Table Node) : Except Cause (Table Node) :=
    match parent.find? path.last.name with
    | none => .ok (parent.append path.last (.table (.empty .written (some extent))))
    | some (.table t) =>
      if t.standing = .implied then
        .ok ((parent.erase path.last.name).append path.last
          (.table { t with standing := .written, extent := some extent }))
      else .error (taken path)
    | some _ => .error (taken path)
  let root ← d.root.alter .implied add path.through []
  return ⟨root, path.through ++ [path.last]⟩

def openNext (path : KeyPath) (extent : Extent) (d : Draft) : Except Cause Draft := do
  let new : Table Node := .empty .written (some extent)
  let add (parent : Table Node) : Except Cause (Table Node) :=
    match parent.find? path.last.name with
    | none => .ok (parent.append path.last (.tables [] new))
    | some (.tables earlier last) =>
      .ok (parent.replace path.last.name (.tables (earlier ++ [last]) new))
    | some _ => .error (taken path)
  let root ← d.root.alter .implied add path.through []
  return ⟨root, path.through ++ [path.last]⟩

end Draft

end Stencil.Toml

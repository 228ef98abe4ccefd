import Stencil.Binary64
import Stencil.Toml.Complaint

/-! What a document wrote.  Tables keep their keys in order, say how they came to be, and remember
where in the text they stand; arrays of tables keep their last table apart, because later lines
can only add to that one. -/

namespace Stencil.Toml

/-- A stretch of the text, as what remains of the text from its start and from its end on. -/
structure Extent where
  start : Text
  stop : Text
  deriving DecidableEq

structure Key where
  name : Text
  extent : Extent

inductive Scalar where
  | string (t : Text)
  | integer (n : Int)
  | float (x : Binary64)
  | boolean (b : Bool)
  | dateTime
  deriving DecidableEq

def Scalar.kind : Scalar → Kind
  | .string _ => .string
  | .integer _ => .integer
  | .float _ => .float
  | .boolean _ => .boolean
  | .dateTime => .dateTime

/-- A table stands in the text itself, is implied by the header of a table below it, or was made by
a dotted key. -/
inductive Standing where
  | written
  | implied
  | dotted
  deriving DecidableEq

structure Table (ν : Type) where
  standing : Standing
  extent : Option Extent
  entries : List (Key × ν)

inductive Node where
  | scalar (extent : Extent) (value : Scalar)
  | array (extent : Extent) (items : List Node)
  | inline (table : Table Node)
  | table (table : Table Node)
  | tables (earlier : List (Table Node)) (last : Table Node)

namespace Node

/-- Where a node stands.  An array of tables reaches from the first of them to the last. -/
def extent? : Node → Option Extent
  | .scalar extent _ => some extent
  | .array extent _ => some extent
  | .inline t => t.extent
  | .table t => t.extent
  | .tables [] last => last.extent
  | .tables (first :: _) last =>
    match first.extent, last.extent with
    | some first, some last => some ⟨first.start, last.stop⟩
    | _, _ => none

end Node

namespace Table

variable {ν : Type}

def empty (standing : Standing) (extent : Option Extent) : Table ν := ⟨standing, extent, []⟩

def find? (t : Table ν) (name : Text) : Option ν :=
  (t.entries.find? fun entry => entry.1.name == name).map (·.2)

def names (t : Table ν) : List Text := t.entries.map (·.1.name)

def append (t : Table ν) (key : Key) (value : ν) : Table ν :=
  { t with entries := t.entries ++ [(key, value)] }

def erase (t : Table ν) (name : Text) : Table ν :=
  { t with entries := t.entries.filter fun entry => entry.1.name != name }

/-- Gives a key that is present another value, in its place. -/
def replace (t : Table ν) (name : Text) (value : ν) : Table ν :=
  { t with entries := t.entries.map fun entry =>
      if entry.1.name = name then (entry.1, value) else entry }

@[simp] theorem names_append (t : Table ν) (key : Key) (value : ν) :
    (t.append key value).names = t.names ++ [key.name] := by
  simp [names, append]

@[simp] theorem names_replace (t : Table ν) (name : Text) (value : ν) :
    (t.replace name value).names = t.names := by
  simp only [names, replace, List.map_map]
  refine List.map_congr_left fun entry _ => ?_
  by_cases h : entry.1.name = name <;> simp [h]

theorem find?_eq_none_iff (t : Table ν) (name : Text) :
    t.find? name = none ↔ name ∉ t.names := by
  simp [find?, names]

end Table

end Stencil.Toml

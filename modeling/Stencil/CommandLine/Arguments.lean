import Stencil.Path

/-! The arguments of the program, read from left to right.  Options and templates may be mixed;
short options may share a dash, and the last of them may be followed by its value.  Help is given
at once, unless an argument before it was wrong. -/

namespace Stencil.CommandLine

structure Options where
  descriptors : List Path
  templates : List Path
  directory : Option Path
  dryRun : Bool
  verbosity : UInt8
  formatHelp : Bool
  deriving DecidableEq

namespace Options

def none : Options := ⟨[], [], .none, false, 0, false⟩

/-- A number in eight bits, or the highest there is. -/
def saturated (n : Nat) : UInt8 := .ofNat (min n 255)

theorem toNat_saturated (n : Nat) : (saturated n).toNat = min n 255 :=
  UInt8.toNat_ofNat_of_lt' (Nat.lt_succ_of_le (Nat.min_le_right n 255))

theorem saturated_toNat (n : UInt8) : saturated n.toNat = n := by
  have bound := n.toNat_lt
  apply UInt8.toNat_inj.mp
  rw [toNat_saturated]
  omega

def louder (k : Nat) (o : Options) : Options :=
  { o with verbosity := saturated (o.verbosity.toNat + k) }

@[simp] theorem louder_zero (o : Options) : o.louder 0 = o := by
  rw [louder, Nat.add_zero, saturated_toNat]

/-- However full the counter is, the flags of two parts of a command line add up. -/
theorem louder_louder (j k : Nat) (o : Options) : (o.louder j).louder k = o.louder (j + k) := by
  have sum : saturated ((saturated (o.verbosity.toNat + j)).toNat + k) =
      saturated (o.verbosity.toNat + (j + k)) := by
    apply UInt8.toNat_inj.mp
    simp only [toNat_saturated]
    omega
  simp only [louder, sum]

end Options

inductive Slot where
  | types
  | directory
  deriving DecidableEq

inductive Flag where
  | dryRun
  | verbose
  | formatHelp
  | help
  deriving DecidableEq

inductive Name where
  | slot (s : Slot)
  | flag (f : Flag)
  deriving DecidableEq

def longNames : List (Text × Name) :=
  [("types".toList, .slot .types), ("dir".toList, .slot .directory),
    ("dry-run".toList, .flag .dryRun), ("verbose".toList, .flag .verbose),
    ("format-help".toList, .flag .formatHelp), ("help".toList, .flag .help)]

def shortNames : List (Char × Name) :=
  [('f', .slot .types), ('d', .slot .directory), ('n', .flag .dryRun), ('v', .flag .verbose),
    ('h', .flag .help)]

def long? (name : Bytes) : Option Name :=
  (longNames.find? fun entry => Path.ofText entry.1 == name).map (·.2)

def short? (b : UInt8) : Option Name :=
  (shortNames.find? fun entry => entry.1.toNat == b.toNat).map (·.2)

inductive Request where
  | run (o : Options)
  | help
  | rejected
  deriving DecidableEq

/-- Reading goes on with these options, or is decided. -/
inductive Progress where
  | going (o : Options)
  /-- The next argument is a value. -/
  | awaiting (s : Slot) (o : Options)
  | decided (r : Request)

/-- No value is empty, and there is one directory at most. -/
def fill (s : Slot) (value : Bytes) (o : Options) : Progress :=
  if value = [] then .decided .rejected
  else
    match s, o.directory with
    | .types, _ => .going { o with descriptors := o.descriptors ++ [value] }
    | .directory, .none => .going { o with directory := some value }
    | .directory, some _ => .decided .rejected

def addTemplate (value : Bytes) (o : Options) : Progress :=
  if value = [] then .decided .rejected
  else .going { o with templates := o.templates ++ [value] }

/-- Only the verbosity flag may be repeated. -/
def raise (f : Flag) (o : Options) : Progress :=
  match f with
  | .verbose => .going (o.louder 1)
  | .dryRun => if o.dryRun then .decided .rejected else .going { o with dryRun := true }
  | .formatHelp =>
    if o.formatHelp then .decided .rejected else .going { o with formatHelp := true }
  | .help => .decided .help

def equalsSign : UInt8 := 61

def dash : UInt8 := 45

def attached (value : Bytes) : Bytes :=
  match value with
  | [] => []
  | b :: rest => if b = equalsSign then rest else b :: rest

def cluster : Bytes → Options → Progress
  | [], o => .going o
  | b :: rest, o =>
    match short? b with
    | none => .decided .rejected
    | some (.slot s) => if rest = [] then .awaiting s o else fill s (attached rest) o
    | some (.flag f) =>
      match raise f o with
      | .going o => cluster rest o
      | progress => progress

/-- A long option, with the value after its first equals sign if it has one. -/
def longOption (argument : Bytes) (o : Options) : Progress :=
  let name := argument.takeWhile (· != equalsSign)
  match long? name, argument.dropWhile (· != equalsSign) with
  | none, _ => .decided .rejected
  | some (.slot s), [] => .awaiting s o
  | some (.slot s), _ :: value => fill s value o
  | some (.flag f), [] => raise f o
  | some (.flag _), _ :: _ => .decided .rejected

/-- An argument that no option awaits; a lone dash is a template. -/
def argument : Bytes → Options → Progress
  | [], o => addTemplate [] o
  | [b], o => addTemplate [b] o
  | b :: c :: rest, o =>
    if b ≠ dash then addTemplate (b :: c :: rest) o
    else if c = dash then longOption rest o
    else cluster (c :: rest) o

def isOption : Bytes → Bool
  | b :: _ :: _ => b == dash
  | _ => false

def trailing : List Bytes → Options → Request
  | [], o => .run o
  | value :: rest, o =>
    match addTemplate value o with
    | .going o => trailing rest o
    | .awaiting _ _ => .rejected
    | .decided r => r

def request : List Bytes → Progress → Request
  | _, .decided r => r
  | [], .going o => .run o
  | [], .awaiting _ _ => .rejected
  | value :: rest, .awaiting s o =>
    if isOption value then .rejected else request rest (fill s value o)
  | value :: rest, .going o =>
    if value = [dash, dash] then trailing rest o else request rest (argument value o)

def read (arguments : List Bytes) : Request := request arguments (.going .none)

end Stencil.CommandLine

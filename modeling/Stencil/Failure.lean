import Stencil.Path
import Stencil.Placeholder
import Stencil.Toml.Document

/-! Everything that can go wrong in a run, as causes; the wording is in the `message` functions. -/

namespace Stencil

inductive FileFault where
  | notFound
  | permissionDenied
  | alreadyExists
  | notDirectory
  | isDirectory
  | noSpace
  | nameTooLong
  | linkLoop
  | outOfMemory
  | notUtf8
  | nulInPath
  | overwrites (template : Path)
  | other (text : Text)
  deriving DecidableEq

namespace FileFault

def code? : FileFault → Option Nat
  | .notFound => some 2
  | .permissionDenied => some 13
  | .alreadyExists => some 17
  | .notDirectory => some 20
  | .isDirectory => some 21
  | .noSpace => some 28
  | .nameTooLong => some 36
  | .linkLoop => some 40
  | _ => none

def systemFaults : List FileFault :=
  [.notFound, .permissionDenied, .alreadyExists, .notDirectory, .isDirectory, .noSpace,
    .nameTooLong, .linkLoop]

def ofCode? (code : Nat) : Option FileFault := systemFaults.find? fun f => f.code? == some code

def text : FileFault → Text
  | .notFound => "No such file or directory".toList
  | .permissionDenied => "Permission denied".toList
  | .alreadyExists => "File exists".toList
  | .notDirectory => "Not a directory".toList
  | .isDirectory => "Is a directory".toList
  | .noSpace => "No space left on device".toList
  | .nameTooLong => "File name too long".toList
  | .linkLoop => "Too many levels of symbolic links".toList
  | .outOfMemory => "out of memory".toList
  | .notUtf8 => "stream did not contain valid UTF-8".toList
  | .nulInPath => "file name contained an unexpected NUL byte".toList
  | .overwrites template => "output would overwrite template '".toList ++ template.display ++ ['\'']
  | .other text => text

def message (f : FileFault) : Text :=
  match f.code? with
  | some code => f.text ++ " (os error ".toList ++ Text.decimal code ++ [')']
  | none => f.text

end FileFault

inductive FileTask where
  | readTemplate
  | writeOutput
  deriving DecidableEq

inductive LoadFault where
  | read (fault : FileFault)
  | syntaxError (error : Toml.ParseError) (text : Text)
  | notAList
  | invalidEntry (index : Nat)
  | invalidValue (index : Nat) (key : Text)
  | invalidKey (index : Nat) (fault : KeyFault)
  deriving DecidableEq

namespace LoadFault

def entry (index : Nat) : Text := "types_list[".toList ++ Text.decimal index ++ [']']

/-- A fault of syntax is followed by its line and column, if its place is known. -/
def message : LoadFault → Text
  | .read fault => fault.message
  | .syntaxError error text =>
    match error.span with
    | none => error.message
    | some (start, _) =>
      let position := Text.lineColumn text start
      error.message ++ " at line ".toList ++ Text.decimal position.1 ++
        ", column ".toList ++ Text.decimal position.2
  | .notAList => "types_list is not a list".toList
  | .invalidEntry index => entry index ++ " is not a table".toList
  | .invalidValue index key => entry index ++ '.' :: key ++ " is not a string".toList
  | .invalidKey index fault => entry index ++ ": ".toList ++ fault.message

end LoadFault

inductive Failure where
  /-- The descriptor has no list of types. -/
  | configuration (path : Path)
  /-- The template's path ends in no name. -/
  | namelessTemplate (path : Path)
  | file (task : FileTask) (path : Path) (fault : FileFault)
  | load (path : Path) (fault : LoadFault)
  deriving DecidableEq

inductive FailureKind where
  | configuration
  | io
  | load
  deriving DecidableEq

namespace Failure

def kind : Failure → FailureKind
  | .configuration _ => .configuration
  | .namelessTemplate _ => .io
  | .file _ _ _ => .io
  | .load _ _ => .load

def path : Failure → Path
  | .configuration path => path
  | .namelessTemplate path => path
  | .file _ path _ => path
  | .load path _ => path

def message : Failure → Text
  | .configuration path => "types_list not found in descriptor '".toList ++ path.display ++ ['\'']
  | .namelessTemplate path => "template path '".toList ++ path.display ++ "' has no file name".toList
  | .file .readTemplate path fault =>
    "failed to read template '".toList ++ path.display ++ "': ".toList ++ fault.message
  | .file .writeOutput path fault =>
    "failed to write output '".toList ++ path.display ++ "': ".toList ++ fault.message
  | .load path fault =>
    "failed to load descriptor '".toList ++ path.display ++ "': ".toList ++ fault.message

end Failure

end Stencil

import Stencil.Descriptor
import Stencil.Plan

/-! A run, on its descriptors, its templates and the directory that takes the output: load every
descriptor, plan every job, and then expand job by job.  Nothing is written before the whole plan is
made; a preview stops there. -/

namespace Stencil

structure Settings where
  descriptors : List Path
  templates : List Path
  destination : Path
  deriving DecidableEq

namespace Settings

def ofDestination (destination : Path) : Settings := ⟨[], [], destination⟩

def withDescriptors (s : Settings) (paths : List Path) : Settings :=
  { s with descriptors := s.descriptors ++ paths }

def withDescriptor (s : Settings) (path : Path) : Settings := s.withDescriptors [path]

def withTemplates (s : Settings) (paths : List Path) : Settings :=
  { s with templates := s.templates ++ paths }

def withTemplate (s : Settings) (path : Path) : Settings := s.withTemplates [path]

end Settings

variable {m : Type → Type} [Monad m] [FileSystem m]

open FileSystem

/-- Reads a descriptor's text; what is no text counts as unreadable. -/
def readDescriptor (path : Path) : Run m Text := do
  let unreadable (fault : FileFault) : Failure := .load path (.read fault)
  let source ← orFail unreadable (openSource (m := m) path)
  let bytes ← orFail unreadable (readAll (m := m) source)
  match Utf8.decode bytes with
  | some text => return text
  | none => throw (unreadable .notUtf8)

def parseDescriptor (text : Text) (path : Path) : Run m (List Record) := do
  match Descriptor.parse text path with
  | .error failure => throw failure
  | .ok records =>
    say .debug .loading (Descriptor.loadedMessage records path)
    return records

def loadDescriptor (path : Path) : Run m (List Record) := do
  let text ← readDescriptor path
  parseDescriptor text path

def loadRecords : List Path → Run m (List Record)
  | [] => return []
  | path :: paths => do
    let records ← loadDescriptor path
    let more ← loadRecords paths
    return records ++ more

def preview (s : Settings) : Run m (List Job) := do
  let records ← loadRecords s.descriptors
  plan records s.templates s.destination

def nothingMessage (records : List Record) (templates : List Path) : Text :=
  "nothing to generate: ".toList ++ Text.decimal records.length ++ " type record(s), ".toList ++
    Text.decimal templates.length ++ " template(s)".toList

def noteNothing (records : List Record) (templates : List Path) : Run m PUnit :=
  if records.isEmpty || templates.isEmpty then
    say .warn .expanding (nothingMessage records templates)
  else pure ⟨⟩

def expandJob (records : List Record) (job : Job) : Run m PUnit := do
  let record := records[job.record]?.getD .empty
  say .debug .expanding
    ("expanding '".toList ++ job.template.display ++ "' with [".toList ++ record.label ++ [']'])
  Expansion.into job.template record job.destination
  say .info .expanding ("generated ".toList ++ job.destination.display)

def expandJobs (records : List Record) : List Job → Run m PUnit
  | [] => return ⟨⟩
  | job :: rest => do
    expandJob records job
    expandJobs records rest

def generate (s : Settings) : Run m (List Job) := do
  let records ← loadRecords s.descriptors
  noteNothing records s.templates
  let jobs ← plan records s.templates s.destination
  expandJobs records jobs
  return jobs

end Stencil

import AgentPlans.Audit.Record

/-!
# The audit log

A file that records are appended to, a line each. A record that is refused leaves the file as it
was, and so does a file that cannot be written. The file comes into being with the first record.
-/

namespace AgentPlans

inductive FileError where
  | notFound (path : String)
  | isDirectory (path : String)
  | notDirectory (path : String)
  | nameTooLong (path : String)
  deriving DecidableEq

namespace FileError

def code : FileError → String
  | .notFound _ => "ENOENT"
  | .isDirectory _ => "EISDIR"
  | .notDirectory _ => "ENOTDIR"
  | .nameTooLong _ => "ENAMETOOLONG"

def reason : FileError → String
  | .notFound _ => "no such file or directory"
  | .isDirectory _ => "illegal operation on a directory"
  | .notDirectory _ => "not a directory"
  | .nameTooLong _ => "name too long"

def path : FileError → String
  | .notFound p | .isDirectory p | .notDirectory p | .nameTooLong p => p

def message (e : FileError) : String :=
  e.code ++ ": " ++ e.reason ++ ", open '" ++ e.path ++ "'"

end FileError

namespace Audit

inductive Place where
  | nothing
  | file (text : String)
  | directory
  /-- The directory that would hold the file is missing. -/
  | noParent
  /-- What would hold the file is a file itself. -/
  | parentIsFile
  | nameTooLong
  /-- A device that takes every line and keeps none. -/
  | sink
  deriving DecidableEq

structure Log where
  path : String
  place : Place

inductive LogError where
  | record (e : RecordError)
  | file (e : FileError)

namespace Log

def text? (log : Log) : Option String :=
  match log.place with
  | .file text => some text
  | _ => none

def write (log : Log) (line : String) : Except FileError Log :=
  match log.place with
  | .nothing => .ok { log with place := .file line }
  | .file text => .ok { log with place := .file (text ++ line) }
  | .directory => .error (.isDirectory log.path)
  | .noParent => .error (.notFound log.path)
  | .parentIsFile => .error (.notDirectory log.path)
  | .nameTooLong => .error (.nameTooLong log.path)
  | .sink => .ok log

def append (log : Log) (r : Record) : Except LogError Log :=
  let r := r.withVersion
  match r.check with
  | .error e => .error (.record e)
  | .ok () =>
    match log.write r.line with
    | .error e => .error (.file e)
    | .ok log => .ok log

end Log

end Audit

end AgentPlans

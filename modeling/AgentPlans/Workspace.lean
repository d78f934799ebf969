import AgentPlans.Audit.Log
import AgentPlans.Path
import AgentPlans.Store.Table
import AgentPlans.Text.Units

/-!
# The workspace

The files around a program: texts, directories, stores and devices, under a working directory.
-/

namespace AgentPlans

inductive Item where
  | text (s : String)
  | directory
  | store (s : Store)
  /-- A device that drops what is written to it and has nothing to read. -/
  | sink

structure Workspace where
  directory : String
  items : List (Path × Item)

namespace Workspace

def systemDirectories : List String := [
  "bin", "dev", "etc", "home", "lib", "opt", "proc", "root", "run", "sys", "tmp", "usr", "var"]

def sinkPath : Path := ⟨"", ["dev", "null"]⟩

def path (w : Workspace) (s : String) : Path := .resolve w.directory s

/-- Directories that are always there: the root, the system's, and the working directory with those
above it. -/
def isGiven (w : Workspace) (p : Path) : Bool :=
  let here := Path.ofDirectory w.directory
  p == .root || p == here || (p.stepTo? here).isSome ||
    systemDirectories.any (fun name => p == ⟨"", [name]⟩) ||
    (p.base != "" && p.names.all (· == ".."))

/-- What stands at a path. Every directory on the way to an item is there. -/
def item? (w : Workspace) (p : Path) : Option Item :=
  if w.isGiven p then some .directory
  else if p = sinkPath then some .sink
  else
    match w.items.find? (·.1 == p) with
    | some (_, item) => some item
    | none => if w.items.any fun (q, _) => (p.stepTo? q).isSome then some .directory else none

def isDirectory (w : Workspace) (p : Path) : Bool :=
  match w.item? p with
  | some .directory => true
  | _ => false

/-- Where steps lead that are taken one after another. Each has to start from a directory. -/
def follow? (w : Workspace) (start : Path) (steps : List String) : Option Path :=
  steps.foldlM (fun p name => if w.isDirectory p then some (p.step name) else none) start

def erase (w : Workspace) (p : Path) : Workspace :=
  { w with items := w.items.filter (·.1 != p) }

def put (w : Workspace) (p : Path) (item : Item) : Workspace :=
  { w with items := (w.erase p).items ++ [(p, item)] }

def text? (w : Workspace) (p : Path) : Option String :=
  match w.item? p with
  | some (.text s) => some s
  | some .sink => some ""
  | _ => none

/-- What a log finds at a path where nothing is. The first name on the way that is no directory
decides. -/
def vacantPlace (w : Workspace) (p : Path) : Audit.Place :=
  match (p.ancestors ++ [p]).find? (!w.isDirectory ·) with
  | none => .nothing
  | some q =>
    if q.isTooLong then .nameTooLong
    else if q = p then .nothing
    else if (w.item? q).isSome then .parentIsFile
    else .noParent

def logPlace (w : Workspace) (p : Path) : Audit.Place :=
  match w.item? p with
  | some (.text s) => .file s
  | some .directory => .directory
  | some (.store _) => .file ""
  | some .sink => .sink
  | none => w.vacantPlace p

def log (w : Workspace) (s : String) : Audit.Log :=
  let p := w.path s
  ⟨p.text, w.logPlace p⟩

/-- Puts back what a log has written. A store at the log's path stays a store. -/
def putLog (w : Workspace) (s : String) (log : Audit.Log) : Workspace :=
  match log.place, w.item? (w.path s) with
  | _, some (.store _) => w
  | .file text, _ => w.put (w.path s) (.text text)
  | _, _ => w

def names (w : Workspace) : List String :=
  let inside := w.items.filterMap fun (p, _) => (Path.ofDirectory w.directory).stepTo? p
  (inside.filter (· != "..")).eraseDups.mergeSort fun a b => Text.unitsLe a.toList b.toList

end Workspace

inductive OpenError where
  | noDirectory
  | store (e : StoreError)

namespace Workspace

/-- A path that stands for a store that no file holds. -/
def isPassing (path : String) : Bool := path == "" || path == ":memory:"

/-- The file beside a store that holds a change until it is complete. -/
def journal (p : Path) : Path := p.beside "-journal"

/-- The most octets of a store's path. -/
def maxStorePath : Nat := 504

/-- Takes up what a store's journal holds: nothing that can be read, so only the file goes. -/
def dropJournal (w : Workspace) (p : Path) : Workspace :=
  match w.item? (journal p) with
  | some (.text _) => w.erase (journal p)
  | _ => w

/-- A new store. Where no journal can stand beside it only an empty file comes into being. -/
def openNew (w : Workspace) (p : Path) : Workspace × Except StoreError Store :=
  if w.isDirectory (journal p) || (journal p).isTooLong then
    (w.put p (.text ""), .error .cannotOpen)
  else (w.dropJournal p, .ok .empty)

/-- Opens the store at a path. A file that is not there is a new store. So is one without content,
and a single octet counts as none. -/
def openAt (w : Workspace) (p : Path) : Workspace × Except StoreError Store :=
  match w.item? p with
  | some (.store s) => (w.dropJournal p, .ok s)
  | some (.text s) => if s.utf8ByteSize ≤ 1 then w.openNew p else (w, .error .notADatabase)
  | some .directory => (w, .error .cannotOpen)
  | some .sink => (w, .error .notReadable)
  | none =>
    if w.isDirectory p.parent && !p.isTooLong && p.text.utf8ByteSize ≤ maxStorePath then w.openNew p
    else (w, .error .cannotOpen)

/-- Opens the store that a path names, white space around it aside. The steps up to its last have to
lead somewhere, one by one; then the path is resolved as a whole. -/
def openStore (w : Workspace) (path : String) : Workspace × Except OpenError Store :=
  let path := Text.trim path
  if isPassing path then (w, .ok .empty)
  else
    match (w.follow? (.start w.directory path) (Path.directorySteps path)).bind w.item? with
    | none => (w, .error .noDirectory)
    | some _ =>
      let (w, store) := w.openAt (w.path path)
      (w, store.mapError .store)

def putStore (w : Workspace) (path : String) (s : Store) : Workspace :=
  let path := Text.trim path
  if isPassing path then w else w.put (w.path path) (.store s)

end Workspace

end AgentPlans

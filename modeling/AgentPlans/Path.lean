import AgentPlans.Text.Split

/-!
# Paths

Paths are resolved against a working directory: empty and `.` steps are dropped, and `..` goes up.
The working directory is an absolute path or a name that stands for one. Nothing lies above the
root; what lies above a directory known by name is told by `..` alone.
-/

namespace AgentPlans

/-- An absolute path: the directory that it starts from, the root being empty, and the names below.
-/
structure Path where
  base : String
  names : List String
  deriving DecidableEq

namespace Path

def root : Path := ⟨"", []⟩

def steps (s : String) : List String := (Text.split '/' s.toList).map String.ofList

def parent (p : Path) : Path :=
  if p.base ≠ "" ∧ p.names.all (· == "..") then ⟨p.base, p.names ++ [".."]⟩
  else ⟨p.base, p.names.dropLast⟩

def step (p : Path) (name : String) : Path :=
  if name = "" ∨ name = "." then p
  else if name = ".." then p.parent
  else ⟨p.base, p.names ++ [name]⟩

def walk (p : Path) (steps : List String) : Path := steps.foldl step p

def isAbsolute (s : String) : Bool := s.toList.head? == some '/'

def ofDirectory (directory : String) : Path :=
  if isAbsolute directory then root.walk (steps directory) else ⟨directory, []⟩

def start (directory s : String) : Path :=
  if isAbsolute s then root else ofDirectory directory

def resolve (directory s : String) : Path := (start directory s).walk (steps s)

/-- The steps of a path but its last, slashes at its end aside. -/
def directorySteps (s : String) : List String :=
  (((steps s).reverse.dropWhile (· == "")).drop 1).reverse

def ancestors (p : Path) : List Path :=
  (List.range p.names.length).map fun n => ⟨p.base, p.names.take n⟩

/-- The first name on the way from `p` down to `q`, if `q` lies below `p`. -/
def stepTo? (p q : Path) : Option String :=
  if p.base = q.base ∧ p.names.isPrefixOf q.names then (q.names.drop p.names.length).head? else none

def text (p : Path) : String :=
  if p = root then "/" else p.base ++ String.join (p.names.map ("/" ++ ·))

def beside (p : Path) (suffix : String) : Path :=
  ⟨p.base, p.names.dropLast ++ [p.names.getLastD "" ++ suffix]⟩

def isTooLong (p : Path) : Bool :=
  255 < (p.names.getLastD "").utf8ByteSize || 4095 < p.text.utf8ByteSize

end Path

end AgentPlans

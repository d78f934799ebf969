import AgentPlans.Environment
import AgentPlans.Text.Blank

/-!
# The settings file

Assignments of variables, a line each: a name, `=` or a colon and white space, and a value up to a
`#`. A value between quotes of one of three kinds may hold anything, line ends too; between double
quotes `\n` and `\r` stand for line ends. Lines that are no assignments are skipped. `export` may
stand in front of a name. Of equal names the last counts, and a variable that is set already keeps
its value.
-/

namespace AgentPlans

namespace Settings

open Text

def isNameChar (c : Char) : Bool :=
  c.isAlphanum || c == '_' || c == '.' || c == '-'

def unifyLines : List Char → List Char
  | [] => []
  | '\r' :: '\n' :: rest => '\n' :: unifyLines rest
  | '\r' :: rest => '\n' :: unifyLines rest
  | c :: rest => c :: unifyLines rest

def backquote : Char := Char.ofNat 0x60

def isQuote (c : Char) : Bool := c == '\'' || c == '"' || c == backquote

/-- Whether only a comment, if anything, follows on the line. -/
def endsLine (cs : List Char) : Bool :=
  (cs.takeWhile isBlank).any isLineEnd ||
    match cs.dropWhile isBlank with
    | [] => true
    | c :: _ => c == '#'

/-- The places where a quoted value may end: each as the text before the quote, last character
first, and what follows the quote. The first quote without a backslash in front is preferred; after
it the quotes with one are tried, the last one first. -/
def closings (quote : Char) (reversed : List Char) (escaped : List (List Char × List Char)) :
    List Char → List (List Char × List Char)
  | [] => escaped
  | c :: rest =>
    if c = quote then
      match reversed with
      | '\\' :: _ => closings quote (c :: reversed) ((reversed, rest) :: escaped) rest
      | _ => (reversed, rest) :: escaped
    else closings quote (c :: reversed) escaped rest

def quotedValue? (cs : List Char) : Option (List Char × List Char) :=
  match cs.dropWhile isBlank with
  | [] => none
  | quote :: rest =>
    if isQuote quote then
      ((closings quote [] [] rest).find? fun (_, after) => endsLine after).map
        fun (reversed, after) => (quote :: (quote :: reversed).reverse, after)
    else none

def takeValue (cs : List Char) : List Char × List Char :=
  match quotedValue? cs with
  | some found => found
  | none =>
    let inLine (c : Char) : Bool := c != '#' && c != '\n' && c != '\r'
    (cs.takeWhile inLine, cs.dropWhile inLine)

/-- The first line of `cs` that ends in `quote`, as far to the right as possible: what stands before
that quote, and what follows it. -/
def lastClosing? (quote : Char) : List Char → Option (List Char × List Char)
  | [] => none
  | c :: rest =>
    match lastClosing? quote rest with
    | some (inner, after) => some (c :: inner, after)
    | none =>
      if c = quote ∧ (rest = [] ∨ rest.head?.any isLineEnd) then some ([], rest) else none

/-- Removes a pair of equal quotes around a value, or around lines of it. -/
def unquoteFrom (atLineStart : Bool) : Nat → List Char → List Char
  | 0, cs => cs
  | _, [] => []
  | fuel + 1, c :: rest =>
    if atLineStart && isQuote c then
      match lastClosing? c rest with
      | some (inner, after) => inner ++ unquoteFrom false fuel after
      | none => c :: unquoteFrom false fuel rest
    else c :: unquoteFrom (isLineEnd c) fuel rest

def unquote (cs : List Char) : List Char := unquoteFrom true cs.length cs

def expandEscape (letter image : Char) : List Char → List Char
  | [] => []
  | [c] => [c]
  | '\\' :: c :: rest =>
    if c = letter then image :: expandEscape letter image rest
    else '\\' :: expandEscape letter image (c :: rest)
  | c :: rest => c :: expandEscape letter image rest

def valueOf (written : List Char) : String :=
  let trimmed := trimChars written
  let bare := unquote trimmed
  String.ofList <|
    if trimmed.head? = some '"' then expandEscape 'r' '\r' (expandEscape 'n' '\n' bare) else bare

def bareAssignment? (cs : List Char) : Option (String × List Char × List Char) :=
  let name := cs.takeWhile isNameChar
  let after := cs.dropWhile isNameChar
  if name = [] then none
  else
    match after.dropWhile isBlank, after with
    | '=' :: rest, _ => some (String.ofList name, takeValue rest)
    | _, ':' :: c :: rest => if isBlank c then some (String.ofList name, takeValue rest) else none
    | _, _ => none

def assignment? (cs : List Char) : Option (String × List Char × List Char) :=
  let cs := cs.dropWhile isBlank
  match cs with
  | 'e' :: 'x' :: 'p' :: 'o' :: 'r' :: 't' :: c :: rest =>
    if isBlank c then
      match bareAssignment? (rest.dropWhile isBlank) with
      | some found => some found
      | none => bareAssignment? cs
    else bareAssignment? cs
  | _ => bareAssignment? cs

def nextLine (cs : List Char) : List Char := (cs.dropWhile (!isLineEnd ·)).drop 1

/-- Reads assignments from the start of a line on. Every round takes a line, so the length of the
text is fuel enough. -/
def readLines : Nat → Members String → List Char → Members String
  | 0, found, _ => found
  | _, found, [] => found
  | fuel + 1, found, cs =>
    match assignment? cs with
    | some (name, written, after) =>
      let found :=
        if name = Members.reserved then found else found.insert name (valueOf written)
      readLines fuel found (nextLine after)
    | none => readLines fuel found (nextLine cs)

def parse (s : String) : Members String :=
  let cs := unifyLines s.toList
  readLines (cs.length + 1) [] cs

/-- The variables of a program: those of its process, and then those of its settings file. -/
def extend (process : Variables) (file : Option String) : Variables := fun name =>
  match process name with
  | some value => some value
  | none => file.bind fun text => ((parse text).get? name).map untilNul

end Settings

end AgentPlans

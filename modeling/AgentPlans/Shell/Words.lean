import AgentPlans.Shell.Quote

/-!
# Reading shell words

How a shell splits text into words, for text without expansions. Outside quotes, space, tab and
newline part words. Between single quotes everything is literal; between double quotes everything
but the dollar sign, the backquote and the backslash. Pieces that touch form one word, and a pair of
quotes alone is an empty one. Text that would do more than form words is refused, and so is text
that ends inside quotes.
-/

namespace AgentPlans.Shell

open Utf16 (isAscii)

inductive Quoting where
  | bare
  | single
  | double
  deriving DecidableEq

def separatesWords (unit : UInt16) : Bool :=
  isAscii (fun c => c == ' ' || c == '\t' || c == '\n') unit

/-- Operators, expansions, globs, comments, tildes and braces. -/
def isSpecialBare (unit : UInt16) : Bool :=
  isAscii "|&;<>()$`\\*?[]#~\x7b\x7d!^".toList.contains unit

def isSpecialDouble (unit : UInt16) : Bool :=
  isAscii "$`\\".toList.contains unit

/-- The word under way, last unit first; `none` between words. -/
abbrev OpenWord := Option (List UInt16)

def OpenWord.begin (word : OpenWord) : List UInt16 := word.getD []

def OpenWord.close (word : OpenWord) (rest : List (List UInt16)) : List (List UInt16) :=
  match word with
  | none => rest
  | some reversed => reversed.reverse :: rest

/-- The words of the text; `none` if it is refused. -/
def wordsFrom (quoting : Quoting) (word : OpenWord) : List UInt16 → Option (List (List UInt16))
  | [] => if quoting = .bare then some (word.close []) else none
  | unit :: rest =>
    match quoting with
    | .bare =>
      if separatesWords unit then (word.close ·) <$> wordsFrom .bare none rest
      else if unit = singleQuote then wordsFrom .single (some word.begin) rest
      else if unit = doubleQuote then wordsFrom .double (some word.begin) rest
      else if isSpecialBare unit then none
      else wordsFrom .bare (some (unit :: word.begin)) rest
    | .single =>
      if unit = singleQuote then wordsFrom .bare word rest
      else wordsFrom .single (some (unit :: word.begin)) rest
    | .double =>
      if unit = doubleQuote then wordsFrom .bare word rest
      else if isSpecialDouble unit then none
      else wordsFrom .double (some (unit :: word.begin)) rest

def words? (t : Utf16) : Option (List Utf16) :=
  (wordsFrom .bare none t.units).map (·.map Utf16.mk)

end AgentPlans.Shell

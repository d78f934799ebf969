import AgentPlans.Text.Utf16

/-!
# Quoting for a shell

One argument becomes one shell word. A word of plain characters stands as it is; any other is put
between single quotes, and a single quote inside it closes them, stands between double quotes, and
opens them again.
-/

namespace AgentPlans.Shell

open Utf16 (ascii isAscii)

def isPlainChar (c : Char) : Bool :=
  c.isAlphanum || ['@', '%', '+', '=', ':', ',', '.', '/', '_', '-'].contains c

def isPlain (unit : UInt16) : Bool := isAscii isPlainChar unit

def singleQuote : UInt16 := ascii '\''

def doubleQuote : UInt16 := ascii '"'

def inSingleQuotes (unit : UInt16) : List UInt16 :=
  if unit = singleQuote then [singleQuote, doubleQuote, singleQuote, doubleQuote, singleQuote]
  else [unit]

def quoteUnits (units : List UInt16) : List UInt16 :=
  if units = [] then [singleQuote, singleQuote]
  else if units.all isPlain then units
  else singleQuote :: (units.flatMap inSingleQuotes ++ [singleQuote])

def quote (t : Utf16) : Utf16 := ⟨quoteUnits t.units⟩

def join (args : List Utf16) : Utf16 :=
  ⟨[ascii ' '].intercalate (args.map fun t => (quote t).units)⟩

end AgentPlans.Shell

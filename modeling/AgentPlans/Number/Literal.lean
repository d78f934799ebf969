import AgentPlans.Number.Rounding
import AgentPlans.Text.Blank

/-!
# Numeric literals

Reading a whole text as a number: surrounding white space is dropped; a blank text is zero; then a
decimal with optional sign, point and exponent, a signed `Infinity`, or an unsigned literal in base
16, 8 or 2. Any other text is not a number.
-/

namespace AgentPlans.Number

def isDigit (c : Char) : Bool := '0' ≤ c && c ≤ '9'

def digitValue (c : Char) : Nat := c.toNat - '0'.toNat

def ofDigits (digits : List Char) : Nat :=
  digits.foldl (fun n c => 10 * n + digitValue c) 0

/-- The number nearest to `± digits * 10^e`. Far outside the range the power is not computed. -/
def ofDecimal (negative : Bool) (digits : List Char) (e : Int) : Number :=
  let significant := digits.dropWhile (· == '0')
  let size : Int := significant.length + e
  if significant = [] ∨ size < -330 then nearest negative 0 1
  else if 310 < size then .infinity negative
  else
    let (n, d) := scaled 10 (ofDigits significant) 1 e
    nearest negative n d

/-- An exponent at the head of the text: `e` or `E`, a sign if any, and digits. Without a complete
one the exponent is zero and nothing is taken. -/
def takeExponent (cs : List Char) : Int × List Char :=
  match cs with
  | mark :: rest =>
    if mark = 'e' ∨ mark = 'E' then
      let (negative, body) := match rest with
        | '-' :: body => (true, body)
        | '+' :: body => (false, body)
        | body => (false, body)
      match body.takeWhile isDigit with
      | [] => (0, cs)
      | digits =>
        let n : Int := ofDigits digits
        (if negative then -n else n, body.dropWhile isDigit)
    else (0, cs)
  | [] => (0, cs)

/-- An unsigned decimal that makes up the whole text: digits on at least one side of the point. -/
def decimal? (negative : Bool) (cs : List Char) : Option Number :=
  let whole := cs.takeWhile isDigit
  let afterWhole := cs.dropWhile isDigit
  let (fraction, afterFraction) := match afterWhole with
    | '.' :: rest => (rest.takeWhile isDigit, rest.dropWhile isDigit)
    | rest => ([], rest)
  if whole = [] ∧ fraction = [] then none
  else
    match takeExponent afterFraction with
    | (e, []) => some (ofDecimal negative (whole ++ fraction) (e - fraction.length))
    | _ => none

def unsigned? (negative : Bool) (cs : List Char) : Option Number :=
  if cs = ['I', 'n', 'f', 'i', 'n', 'i', 't', 'y'] then some (.infinity negative)
  else decimal? negative cs

def baseDigit? (base : Nat) (c : Char) : Option Nat :=
  let value? :=
    if isDigit c then some (digitValue c)
    else if 'a' ≤ c ∧ c ≤ 'f' then some (c.toNat - 'a'.toNat + 10)
    else if 'A' ≤ c ∧ c ≤ 'F' then some (c.toNat - 'A'.toNat + 10)
    else none
  value?.filter (· < base)

def inBase? (base : Nat) (cs : List Char) : Option Number :=
  if cs = [] then none
  else do
    let digits ← cs.mapM (baseDigit? base)
    return nearest false (digits.foldl (fun n d => base * n + d) 0) 1

/-- Reads text from which white space has been trimmed. -/
def literal? : List Char → Option Number
  | [] => some 0
  | '0' :: 'x' :: rest | '0' :: 'X' :: rest => inBase? 16 rest
  | '0' :: 'o' :: rest | '0' :: 'O' :: rest => inBase? 8 rest
  | '0' :: 'b' :: rest | '0' :: 'B' :: rest => inBase? 2 rest
  | '-' :: rest => unsigned? true rest
  | '+' :: rest => unsigned? false rest
  | cs => unsigned? false cs

def ofText (s : String) : Number :=
  (literal? (Text.trimChars s.toList)).getD .nan

end AgentPlans.Number

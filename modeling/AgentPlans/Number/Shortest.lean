import AgentPlans.Number.Rounding

/-!
# Shortest decimal text

A number is written with the fewest digits that read back as it, and of those digits the nearest.
Positional notation is used from `1e-6` up to below `1e21`, an exponent outside. A whole number
below `2^53` has no shorter text than its own digits.
-/

namespace AgentPlans.Number

def digitsOf (n : Nat) : List Char :=
  if n = 0 then [] else Nat.toDigits 10 n

/-- The exponent `p` with `10^(p-1) ≤ num / den < 10^p`, for a positive quotient not below
`10^-fuel`. -/
def decimalExponent (num den : Nat) : Nat → Int
  | 0 => 0
  | fuel + 1 =>
    if den ≤ num then (digitsOf (num / den)).length
    else decimalExponent (num * 10) den fuel - 1

/-- The reals that round to a binary64 value, as `low / scale` to `high / scale`; the ends belong to
it when the value's last bit is even. -/
structure Neighbourhood where
  low : Nat
  high : Nat
  scale : Nat
  closed : Bool

def leastSignificand : Nat := 4503599627370496

/-- The neighbourhood of a positive binary64 value. Below a power of two the gap is half as wide. -/
def neighbourhood (num den : Nat) : Neighbourhood :=
  let e := lastPlace num den
  let (n, d) := inUnits num den e
  let m := n / d
  let below := if m = leastSignificand ∧ -1074 < e then 1 else 2
  let (unit, scale) := scaled 2 1 4 e
  ⟨(4 * m - below) * unit, (4 * m + 2) * unit, scale, m % 2 = 0⟩

def Neighbourhood.contains (r : Neighbourhood) (digits : Nat) (e : Int) : Bool :=
  let (n, d) := scaled 10 digits 1 e
  if r.closed then r.low * d ≤ n * r.scale && n * r.scale ≤ r.high * d
  else r.low * d < n * r.scale && n * r.scale < r.high * d

/-- Of the two decimals around `num / den` in units of `10^e`, the nearest that reads back. -/
def candidate? (r : Neighbourhood) (num den : Nat) (e : Int) : Option Nat :=
  let (n, d) := scaled 10 num den (-e)
  let f := n / d
  match r.contains f e, r.contains (f + 1) e with
  | true, true => some (roundHalfEven n d)
  | true, false => some f
  | false, true => some (f + 1)
  | false, false => none

/-- Tries ever more digits. Seventeen always suffice. -/
def shortestFrom (r : Neighbourhood) (num den : Nat) (p : Int) (count : Nat) : Nat → Nat × Int
  | 0 => (0, 0)
  | fuel + 1 =>
    let e := p - count
    match candidate? r num den e with
    | some f => (f, e)
    | none => shortestFrom r num den p (count + 1) fuel

def dropTrailingZeros (digits : List Char) : List Char :=
  (digits.reverse.dropWhile (· == '0')).reverse

/-- The significant digits of a positive value, and the position of the point counted from the first
of them. -/
def shortestDigits (num den : Nat) : List Char × Int :=
  let p := decimalExponent num den 400
  let (f, e) := shortestFrom (neighbourhood num den) num den p 1 17
  let digits := digitsOf f
  (dropTrailingZeros digits, e + digits.length)

def zeros (n : Nat) : List Char := List.replicate n '0'

def layout (digits : List Char) (point : Int) : List Char :=
  let k : Int := digits.length
  if k ≤ point ∧ point ≤ 21 then digits ++ zeros (point - k).toNat
  else if 0 < point ∧ point ≤ 21 then
    digits.take point.toNat ++ '.' :: digits.drop point.toNat
  else if -6 < point ∧ point ≤ 0 then '0' :: '.' :: zeros (-point).toNat ++ digits
  else
    let e := point - 1
    let exponent := (if e < 0 then '-' else '+') :: Nat.toDigits 10 e.natAbs
    match digits with
    | [] => []
    | [d] => d :: 'e' :: exponent
    | d :: rest => d :: '.' :: rest ++ 'e' :: exponent

def finiteText (q : Rat) : List Char :=
  let sign := if q.num < 0 then ['-'] else []
  let magnitude := q.num.natAbs
  if q.den = 1 ∧ magnitude < wholeLimit then sign ++ Nat.toDigits 10 magnitude
  else
    let (digits, point) := shortestDigits magnitude q.den
    sign ++ layout digits point

def infinityWord : List Char := ['I', 'n', 'f', 'i', 'n', 'i', 't', 'y']

/-- The text of a number. Negative zero is written as zero. -/
def chars : Number → List Char
  | .finite q => finiteText q
  | .negZero => ['0']
  | .infinity negative => if negative then '-' :: infinityWord else infinityWord
  | .nan => ['N', 'a', 'N']

def text (a : Number) : String := String.ofList a.chars

end AgentPlans.Number

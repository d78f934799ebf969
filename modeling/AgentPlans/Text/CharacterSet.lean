import AgentPlans.Text.Base64
import AgentPlans.Text.Utf16

/-!
# Character sets

The forms of Unicode text as octets, their names, and reading them. Units of sixteen bits come with
either octet first; in the seven-bit forms a mark switches to base 64, in which units are written,
and a hyphen ends it. What is not text becomes replacement characters.
-/

namespace AgentPlans.Text

inductive CharacterSet where
  | utf8
  | utf16
  | utf16Little
  | utf16Big
  | utf7
  /-- The seven-bit form for names of mailboxes. -/
  | utf7Mailbox
  deriving DecidableEq

namespace CharacterSet

def dropYear (name : List Char) : List Char :=
  match name.reverse with
  | a :: b :: c :: d :: ':' :: rest =>
    if [a, b, c, d].all Char.isDigit then rest.reverse else name
  | _ => name

/-- The set with this name, in lower case. Only letters and digits of the name count. -/
def ofName? (name : List Char) : Option CharacterSet :=
  let letters := (dropYear name).filter fun c => c.isLower || c.isDigit
  [("utf8", utf8), ("utf16", utf16), ("utf16le", utf16Little), ("utf16be", utf16Big),
    ("utf7", utf7), ("utf7imap", utf7Mailbox)].lookup (String.ofList letters)

def dropMark : List Nat → List Nat
  | 0xFEFF :: rest => rest
  | units => units

/-! ### Units of two octets -/

def pairs (octets : Array Nat) : List (Nat × Nat) :=
  (List.range (octets.size / 2)).map fun i => (octets.getD (2 * i) 0, octets.getD (2 * i + 1) 0)

def littleUnits (octets : Array Nat) : List Nat := (pairs octets).map fun (a, b) => a + b * 256

def bigUnits (octets : Array Nat) : List Nat := (pairs octets).map fun (a, b) => a * 256 + b

/-- Text that does not tell the order of its octets is taken for that in which more of its first
characters are ASCII. -/
def isBig (octets : Array Nat) : Bool :=
  let first := (pairs octets).take 32
  let big := first.filter fun (a, b) => a == 0 && b != 0
  let little := first.filter fun (a, b) => a != 0 && b == 0
  little.length < big.length

/-! ### Seven bits -/

structure SevenBit where
  mark : Nat
  lastDigit : Char

/-- How far seven-bit text has been read: the units so far, last first, and the digits of base 64
that is under way, last first, too. -/
structure SevenBitState where
  units : List Nat
  run : Option (List Nat)

def unitsOfRun (digits : List Nat) : List Nat := dropMark (bigUnits (ofSextets digits).toArray)

namespace SevenBitState

def addUnits (s : SevenBitState) (units : List Nat) : SevenBitState :=
  ⟨units.reverse ++ s.units, none⟩

def direct (form : SevenBit) (s : SevenBitState) (octet : Nat) : SevenBitState :=
  if octet = form.mark then ⟨s.units, some []⟩
  else s.addUnits [if octet < 0x80 then octet else replacement.toNat]

/-- Takes an octet. A hyphen behind the mark itself stands for the mark. -/
def step (form : SevenBit) (s : SevenBitState) (octet : Nat) : SevenBitState :=
  match s.run with
  | none => s.direct form octet
  | some run =>
    let c := Char.ofNat octet
    match if c = form.lastDigit then some 63 else base64Value? c with
    | some digit => ⟨s.units, some (digit :: run)⟩
    | none =>
      if c = '-' then s.addUnits (if run = [] then [form.mark] else unitsOfRun run.reverse)
      else (s.addUnits (unitsOfRun run.reverse)).direct form octet

/-- Base 64 at the very end is read in two parts, the first of whole groups of eight digits. -/
def finish (s : SevenBitState) : List Nat :=
  match s.run with
  | none => s.units.reverse
  | some run =>
    let whole := run.length - run.length % 8
    s.units.reverse ++ unitsOfRun (run.reverse.take whole) ++ unitsOfRun (run.reverse.drop whole)

end SevenBitState

def sevenBitUnits (form : SevenBit) (octets : Array Nat) : List Nat :=
  (octets.foldl (SevenBitState.step form) ⟨[], none⟩).finish

/-! ### Reading -/

/-- The text that octets are in a character set, without a byte order mark; `none` if they are no
UTF-8. -/
def decode? (set : CharacterSet) (octets : ByteArray) : Option (List Char) :=
  let values := octets.data.map (·.toNat)
  let ofUnits (units : List Nat) : Option (List Char) := 
    some (Utf16.mk ((dropMark units).map .ofNat)).repaired.toList
  match set with
  | utf8 => (String.fromUTF8? octets).map fun s =>
    match s.toList with
    | c :: rest => if c.toNat = 0xFEFF then rest else c :: rest
    | [] => []
  | utf16 => ofUnits (if isBig values then bigUnits values else littleUnits values)
  | utf16Little => ofUnits (littleUnits values)
  | utf16Big => ofUnits (bigUnits values)
  | utf7 => ofUnits (sevenBitUnits ⟨'+'.toNat, '/'⟩ values)
  | utf7Mailbox => ofUnits (sevenBitUnits ⟨'&'.toNat, ','⟩ values)

end CharacterSet

end AgentPlans.Text

import AgentPlans.Text.CodePoints
import AgentPlans.Text.Collation.Ideographs
import AgentPlans.Text.Collation.Order
import AgentPlans.Text.Collation.Variants

/-!
# Collation weights

What single characters, and sequences that count as one, are weighed as. Primary weights come from
the order of characters; a character that is a variant of others has their primary weights, and
tertiary weights of its own. Behind the characters of the order come scripts without one, then
ideographs, then characters that are not assigned, by code point.
-/

namespace AgentPlans.Text

structure Weight where
  primary : Nat
  secondary : Nat
  tertiary : Nat
  deriving DecidableEq

namespace Collation

def plainSecondary : Nat := 32

def plainTertiary : Nat := 2

def capitalTertiary : Nat := 8

/-! ### Primary weights -/

/-- The primary weights of the ASCII characters, capitals and controls aside. -/
def asciiPrimaries : List (Nat × Nat) := [
  (0x09, 2), (0x0A, 3), (0x0B, 4), (0x0C, 5), (0x0D, 6), (0x20, 10), (0x21, 106), (0x22, 311),
  (0x23, 462), (0x24, 8107), (0x25, 463), (0x26, 459), (0x27, 304), (0x28, 322), (0x29, 323),
  (0x2A, 451), (0x2B, 1253), (0x2C, 38), (0x2D, 14), (0x2E, 131), (0x2F, 456), (0x30, 8665),
  (0x31, 8666), (0x32, 8667), (0x33, 8668), (0x34, 8669), (0x35, 8670), (0x36, 8671),
  (0x37, 8672), (0x38, 8673), (0x39, 8674), (0x3A, 67), (0x3B, 61), (0x3C, 1257), (0x3D, 1258),
  (0x3E, 1259), (0x3F, 113), (0x40, 450), (0x5B, 324), (0x5C, 457), (0x5D, 325), (0x5E, 754),
  (0x5F, 12), (0x60, 751), (0x61, 8675), (0x62, 8690), (0x63, 8701), (0x64, 8710), (0x65, 8724),
  (0x66, 8747), (0x67, 8756), (0x68, 8769), (0x69, 8781), (0x6A, 8793), (0x6B, 8800),
  (0x6C, 8809), (0x6D, 8832), (0x6E, 8841), (0x6F, 8857), (0x70, 8887), (0x71, 8899),
  (0x72, 8906), (0x73, 8937), (0x74, 8957), (0x75, 8969), (0x76, 8993), (0x77, 9002),
  (0x78, 9007), (0x79, 9016), (0x7A, 9023), (0x7B, 326), (0x7C, 1261), (0x7D, 327), (0x7E, 1263)]

/-- The runs and the sequences of the order, each with the primary weight of its first. -/
structure Ranked where
  runs : List (CodeRun × Nat)
  sequences : List (List Nat × Nat)
  next : Nat

def Ranked.push (r : Ranked) (word : List Char) : Ranked :=
  if word.contains ':' then
    ⟨r.runs, (codeSequence word, r.next) :: r.sequences, r.next + 1⟩
  else
    let run := CodeRun.ofText word
    ⟨(run, r.next) :: r.runs, r.sequences, r.next + (run.last - run.first) + 1⟩

/-- The weights begin behind that of `U+FFFE`, which is the lowest. -/
def ranked : Ranked := (tableWords orderText).foldl Ranked.push ⟨[], [], 2⟩

/-- Scripts whose characters are ordered by code point alone, in ascending order. -/
def plainScripts : List (Nat × Nat × Nat) := [
  (0x17000, 0x18AFF, 0x100000), (0x18D00, 0x18DFF, 0x100000), (0x1B170, 0x1B2FF, 0x200000),
  (0x18B00, 0x18CFF, 0x300000)]

def ideographBlocks : List (Nat × Nat) := [
  (0x3400, 0x4DBF), (0x20000, 0x2A6DF), (0x2A700, 0x2EE5D), (0x30000, 0x33479)]

def singleIdeographs : List Nat := [
  0xFA0E, 0xFA0F, 0xFA11, 0xFA13, 0xFA14, 0xFA1F, 0xFA21, 0xFA23, 0xFA24, 0xFA27, 0xFA28, 0xFA29]

def ideographSteps : List (Nat × Nat) :=
  (tableWords ideographText).map fun word =>
    let (code, place) := splitFirst '=' word
    (hexNumber code, hexNumber place)

def ideographPlace (code : Nat) : Nat :=
  ideographSteps.foldl (fun place step => if step.1 ≤ code then step.2 else place) 0x4E00

def ideographPrimary? (code : Nat) : Option Nat :=
  if (0x4E00 ≤ code ∧ code ≤ 0x9FFF) ∨ singleIdeographs.contains code then
    some (code * 0x400000)
  else if ideographBlocks.any fun (first, last) => first ≤ code && code ≤ last then
    some (ideographPlace code * 0x400000 + code)
  else none

/-- The primary weight of a character that the order lacks. The replacement character and `U+FFFF`
are the last of all. -/
def implicitPrimary (code : Nat) : Nat :=
  if code = 0xFFFE then 1
  else if code = 0xFFFD then 0x20000000000
  else if code = 0xFFFF then 0x20000000001
  else
    match plainScripts.find? fun (first, last, _) => first ≤ code && code ≤ last with
    | some (_, _, start) => start + code
    | none => (ideographPrimary? code).getD (0x10000000000 + code)

def primaryOf (code : Nat) : Nat :=
  if code < 0x80 then (asciiPrimaries.lookup code).getD 0
  else
    match ranked.runs.findSome? fun (run, rank) => (run.offset? code).map (rank + ·) with
    | some primary => primary
    | none => implicitPrimary code

/-! ### Elements -/

inductive Element where
  /-- A character of the order, or a sequence, in some form. -/
  | form (codes : List Nat) (tertiary : Nat)
  /-- A mark. -/
  | mark (secondary tertiary : Nat)

namespace Element

def ofText (cs : List Char) : Element :=
  let (weighed, tertiary) := splitFirst '.' cs
  match weighed with
  | '*' :: secondary => .mark (hexNumber secondary) (hexNumber tertiary)
  | _ => .form (codeSequence weighed) (hexNumber tertiary)

def weight (offset : Nat) : Element → Weight
  | .mark secondary tertiary => ⟨0, secondary, tertiary⟩
  | .form [code] tertiary => ⟨primaryOf (code + offset), plainSecondary, tertiary⟩
  | .form codes tertiary =>
    ⟨(ranked.sequences.lookup codes).getD 0, plainSecondary, tertiary⟩

end Element

/-- What stands before the equals sign of a word, and the elements behind it. -/
def variantOf (word : List Char) : List Char × List Element :=
  let (codes, elements) := splitFirst '=' word
  (codes, (split '+' elements).map Element.ofText)

def variants : List (CodeRun × List Element) :=
  (tableWords variantText).map fun word =>
    let (codes, elements) := variantOf word
    (CodeRun.ofText codes, elements)

def weightless : List CodeRun := (tableWords weightlessText).map CodeRun.ofText

def sequences : List (List Nat × List Weight) :=
  ranked.sequences.map (fun (codes, primary) =>
      (codes, [⟨primary, plainSecondary, plainTertiary⟩])) ++
    (tableWords sequenceText).map fun word =>
      let (codes, elements) := variantOf word
      (codeSequence codes, elements.map (Element.weight 0))

/-- Vowels that are written in front of the consonant that they are spoken after, and these
consonants. -/
def frontVowels : List (List (Nat × Nat) × List (Nat × Nat)) := [
  ([(0xE40, 0xE44)], [(0xE01, 0xE2E)]),
  ([(0xEC0, 0xEC4)], [(0xE81, 0xE82), (0xE84, 0xE84), (0xE86, 0xE8A), (0xE8C, 0xEA3),
    (0xEA5, 0xEA5), (0xEA7, 0xEAE), (0xEDC, 0xEDF)]),
  ([(0x19B5, 0x19B7), (0x19BA, 0x19BA)], [(0x1980, 0x19AB)]),
  ([(0xAAB5, 0xAAB6), (0xAAB9, 0xAAB9), (0xAABB, 0xAABC)], [(0xAA80, 0xAAAF)])]

def changesPlaces (vowel consonant : Nat) : Bool :=
  let holds (ranges : List (Nat × Nat)) (code : Nat) : Bool :=
    ranges.any fun (first, last) => first ≤ code && code ≤ last
  frontVowels.any fun (vowels, consonants) => holds vowels vowel && holds consonants consonant

def asciiWeights (code : Nat) : List Weight :=
  if 0x41 ≤ code ∧ code ≤ 0x5A then [⟨primaryOf (code + 0x20), plainSecondary, capitalTertiary⟩]
  else
    match asciiPrimaries.lookup code with
    | some primary => [⟨primary, plainSecondary, plainTertiary⟩]
    | none => []

def weightsOf (code : Nat) : List Weight :=
  if code < 0x80 then asciiWeights code
  else if weightless.any (·.contains code) then []
  else
    match variants.findSome? fun (run, elements) => (run.offset? code).map (·, elements) with
    | some (offset, elements) => elements.map (Element.weight offset)
    | none => [⟨primaryOf code, plainSecondary, plainTertiary⟩]

end Collation

end AgentPlans.Text

import AgentPlans.Text.Canonical.Table
import AgentPlans.Text.CodePoints

/-!
# Canonical decomposition

Text with every composed character taken apart and the marks behind a character put in the order of
their classes. Texts that are told apart by nothing else have one decomposition.
-/

namespace AgentPlans.Text

def decompositions : List (CodeRun × List Nat) :=
  (tableWords decompositionText).map fun word =>
    let (codes, parts) := splitFirst '=' word
    (CodeRun.ofText codes, codeSequence parts)

def combiningRuns : List (CodeRun × Nat) :=
  (tableWords combiningText).map fun word =>
    let (codes, k) := splitFirst '=' word
    (CodeRun.ofText codes, hexNumber k)

def syllableParts (index : Nat) : List Nat :=
  let trailing := index % 28
  [0x1100 + index / 588, 0x1161 + index % 588 / 28] ++
    if trailing = 0 then [] else [0x11A7 + trailing]

def decompose (c : Char) : List Nat :=
  let code := c.toNat
  if code < 0x80 then [code]
  else if 0xAC00 ≤ code ∧ code ≤ 0xD7A3 then syllableParts (code - 0xAC00)
  else
    match decompositions.findSome? fun (run, parts) => (run.offset? code).map (·, parts) with
    | some (offset, [part]) => [part + offset]
    | some (_, parts) => parts
    | none => [code]

def combiningClass (code : Nat) : Nat :=
  if code < 0x80 then 0
  else
    match combiningRuns.find? fun (run, _) => run.contains code with
    | some (_, k) => k
    | none => 0

/-- Adds a character at the end of a text that is held last character first. A mark moves in front
of the marks of higher classes. -/
def addOrdered (code : Nat) : List Nat → List Nat
  | [] => [code]
  | last :: before =>
    if 0 < combiningClass code ∧ combiningClass code < combiningClass last then
      last :: addOrdered code before
    else
      code :: last :: before

def canonical (cs : List Char) : List Nat :=
  ((cs.flatMap decompose).foldl (fun reversed code => addOrdered code reversed) []).reverse

end AgentPlans.Text

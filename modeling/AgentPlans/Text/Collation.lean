import AgentPlans.Text.Canonical
import AgentPlans.Text.Collation.Weights

/-!
# Collation

The alphabetical order of texts. Texts are put into canonical form and weighed character by
character, or by sequences that count as one; primary weights tell letters apart, secondary ones
accents, tertiary ones case and form. A difference at an earlier level outweighs all later ones, and
texts whose weights agree at every level are equal.
-/

namespace AgentPlans.Text

namespace Collation

def isSequence (codes : List Nat) : Bool := (sequences.lookup codes).isSome

def longestSequence (codes : List Nat) : List Nat :=
  sequences.foldl (fun longest (known, _) =>
    if longest.length < known.length && known.isPrefixOf codes then known else longest)
    (codes.take 1)

/-- Takes those of the marks that follow which continue a sequence, and leaves the others. A mark
does not pass one of its own class; `passed` is the class of the last one left. -/
def takeMarks (taken : List Nat) (passed : Nat) : List Nat → List Nat × List Nat
  | [] => (taken, [])
  | mark :: rest =>
    let k := combiningClass mark
    if k = 0 then (taken, mark :: rest)
    else if k ≠ passed ∧ isSequence (taken ++ [mark]) then takeMarks (taken ++ [mark]) passed rest
    else
      let (taken, left) := takeMarks taken k rest
      (taken, mark :: left)

def sequenceWeights (codes : List Nat) : List Weight :=
  match sequences.lookup codes with
  | some weights => weights
  | none => codes.flatMap weightsOf

def takeElement (a b : Nat) (rest : List Nat) : List Weight × List Nat :=
  if b < 0x80 then (weightsOf a, b :: rest)
  else if changesPlaces a b then (weightsOf b ++ weightsOf a, rest)
  else
    let start := longestSequence (a :: b :: rest)
    let (taken, left) := takeMarks start 0 ((a :: b :: rest).drop start.length)
    (sequenceWeights taken, left)

/-- Weighs text. Every round takes a character at least. -/
def weigh : Nat → List Nat → List Weight
  | 0, _ | _, [] => []
  | _, [a] => weightsOf a
  | fuel + 1, a :: b :: rest =>
    let first := takeElement a b rest
    first.1 ++ weigh fuel first.2

end Collation

structure CollationKey where
  primary : List Nat
  secondary : List Nat
  tertiary : List Nat

def collationKey (s : String) : CollationKey :=
  let codes := canonical s.toList
  let weights := Collation.weigh codes.length codes
  ⟨(weights.map (·.primary)).filter (· != 0), (weights.map (·.secondary)).filter (· != 0),
    (weights.map (·.tertiary)).filter (· != 0)⟩

def compareWeights : List Nat → List Nat → Ordering
  | [], [] => .eq
  | [], _ :: _ => .lt
  | _ :: _, [] => .gt
  | a :: as, b :: bs => (compare a b).then (compareWeights as bs)

def CollationKey.compare (a b : CollationKey) : Ordering :=
  (compareWeights a.primary b.primary).then
    ((compareWeights a.secondary b.secondary).then (compareWeights a.tertiary b.tertiary))

def CollationKey.le (a b : CollationKey) : Bool := a.compare b != .gt

end AgentPlans.Text

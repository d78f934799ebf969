import AgentPlans.Text.CaseTable

/-!
# Lower case

The full lower-case mapping of Unicode text: each character by its own mapping, `U+0130` as `i`
with a dot above, and capital sigma as final sigma at the end of a word.
-/

namespace AgentPlans.Text

def inRanges (ranges : List (Nat × Nat)) (c : Char) : Bool :=
  ranges.any fun (low, high) => low ≤ c.toNat && c.toNat ≤ high

def isCased (c : Char) : Bool := inRanges casedRanges c

def isCaseIgnorable (c : Char) : Bool := inRanges ignorableRanges c

def lowerChar (c : Char) : Char :=
  if c.toNat < 0x80 then
    if 'A' ≤ c ∧ c ≤ 'Z' then Char.ofNat (c.toNat + 0x20) else c
  else
    match lowerRuns.findSome? (·.lower? c.toNat) with
    | some code => Char.ofNat code
    | none => c

/-- The first character that case does not ignore decides whether a letter stands there. -/
def meetsLetter (cs : List Char) : Bool :=
  match cs.dropWhile isCaseIgnorable with
  | [] => false
  | c :: _ => isCased c

/-- Lower-cases `rest`; `before` holds what stands in front of it, nearest first. -/
def lowerFrom (before : List Char) : List Char → List Char
  | [] => []
  | c :: rest =>
    let image :=
      if c.toNat = 0x130 then ['i', Char.ofNat 0x307]
      else if c.toNat = 0x3A3 then
        if meetsLetter before && !meetsLetter rest then [Char.ofNat 0x3C2] else [Char.ofNat 0x3C3]
      else [lowerChar c]
    image ++ lowerFrom (c :: before) rest

def lowerCase (s : String) : String :=
  String.ofList (lowerFrom [] s.toList)

end AgentPlans.Text

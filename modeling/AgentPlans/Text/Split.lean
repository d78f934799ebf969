/-!
# Splitting

Text in pieces, parted by every occurrence of one character.
-/

namespace AgentPlans.Text

def split (c : Char) (cs : List Char) : List (List Char) :=
  cs.foldr
    (fun x pieces =>
      if x = c then [] :: pieces
      else match pieces with
        | [] => [[x]]
        | piece :: rest => (x :: piece) :: rest)
    [[]]

end AgentPlans.Text

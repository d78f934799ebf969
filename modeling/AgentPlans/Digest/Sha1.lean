/-!
# SHA-1

The secure hash of 160 bits. A message is padded to blocks of sixty-four octets, and each block
changes a state of five words in eighty rounds. A round uses one word of the block's schedule, which
begins with the block's own sixteen words; every later word comes from the sixteen before it.
-/

namespace AgentPlans.Digest

structure Sha1 where
  a : UInt32
  b : UInt32
  c : UInt32
  d : UInt32
  e : UInt32

namespace Sha1

def initial : Sha1 := ⟨0x67452301, 0xEFCDAB89, 0x98BADCFE, 0x10325476, 0xC3D2E1F0⟩

def rotate (w n : UInt32) : UInt32 := (w <<< n) ||| (w >>> (32 - n))

def octets (count n : Nat) : List Nat :=
  (List.range count).reverse.map fun i => n / Nat.pow 256 i % 256

/-- A one bit, zeros up to the last eight octets of a block, and the message's length in bits. -/
def pad (message : List Nat) : List Nat :=
  let zeros := (119 - message.length % 64) % 64
  message ++ 0x80 :: List.replicate zeros 0 ++ octets 8 (message.length * 8)

def words : List Nat → List UInt32
  | a :: b :: c :: d :: rest =>
    UInt32.ofNat (((a * 256 + b) * 256 + c) * 256 + d) :: words rest
  | _ => []

def mix (round : Nat) (b c d : UInt32) : UInt32 :=
  if round < 20 then ((b &&& c) ||| (~~~b &&& d)) + 0x5A827999
  else if round < 40 then (b ^^^ c ^^^ d) + 0x6ED9EBA1
  else if round < 60 then ((b &&& c) ||| (b &&& d) ||| (c &&& d)) + 0x8F1BBCDC
  else (b ^^^ c ^^^ d) + 0xCA62C1D6

def step (s : Sha1) (round : Nat) (word : UInt32) : Sha1 :=
  ⟨rotate s.a 5 + mix round s.b s.c s.d + s.e + word, s.a, rotate s.b 30, s.c, s.d⟩

def nextWord (window : List UInt32) : UInt32 :=
  rotate (window.getD 13 0 ^^^ window.getD 8 0 ^^^ window.getD 2 0 ^^^ window.getD 0 0) 1

def rounds (s : Sha1) (block : List UInt32) : Sha1 :=
  ((List.range 80).foldl (fun (s, window) round =>
    (s.step round (window.headD 0), window.drop 1 ++ [nextWord window])) (s, block)).1

def add (s t : Sha1) : Sha1 := ⟨s.a + t.a, s.b + t.b, s.c + t.c, s.d + t.d, s.e + t.e⟩

def absorb (s : Sha1) : List UInt32 → Sha1
  | [] => s
  | w :: ws => (s.add (s.rounds ((w :: ws).take 16))).absorb (ws.drop 15)
termination_by ws => ws.length
decreasing_by simp only [List.length_drop, List.length_cons]; omega

def hash (message : List Nat) : List Nat :=
  let s := initial.absorb (words (pad message))
  [s.a, s.b, s.c, s.d, s.e].flatMap fun w => octets 4 w.toNat

end Sha1

end AgentPlans.Digest

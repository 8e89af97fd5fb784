import Chip8.Text.CaseTable

namespace Chip8.Text

def inRanges (ranges : List (Nat × Nat)) (c : Char) : Bool :=
  ranges.any fun (first, last) => first ≤ c.toNat && c.toNat ≤ last

def CaseRun.covers (run : CaseRun) (c : Char) : Bool :=
  run.first ≤ c.toNat && c.toNat ≤ run.last && (c.toNat - run.first) % run.step == 0

def dottedCapitalI : Char := Char.ofNat 0x130

def capitalSigma : Char := Char.ofNat 0x3A3

def lowerChar (c : Char) : List Char :=
  if c = dottedCapitalI then ['i', Char.ofNat 0x307]
  else match lowerRuns.find? (·.covers c) with
    | some run => [Char.ofNat (c.toNat + run.distance).toNat]
    | none => [c]

def nearestCased (neighbours : List Char) : Bool :=
  match neighbours.dropWhile (inRanges ignorableRanges) with
  | [] => false
  | c :: _ => inRanges casedRanges c

/-- The lower-case sigma between `before`, nearest character first, and `after`. -/
def lowerSigma (before after : List Char) : Char :=
  if nearestCased before && !nearestCased after then Char.ofNat 0x3C2 else Char.ofNat 0x3C3

/-- The lower-case form of the characters that follow `before`, which is written backwards. -/
def lowerAfter (before : List Char) : List Char → List Char
  | [] => []
  | c :: after =>
    (if c = capitalSigma then [lowerSigma before after] else lowerChar c) ++
      lowerAfter (c :: before) after

def lower (text : String) : String :=
  String.ofList (lowerAfter [] text.toList)

end Chip8.Text

namespace Chip8

structure Tempo (τ : Type) where
  frame : τ
  report : τ

def sixtyHertz : Tempo Float where
  frame := 1.0 / 60.0
  report := 1.0

/-- When the next frame and the next report are due. -/
structure Pacing (τ : Type) where
  nextFrame : τ
  nextReport : τ
deriving Repr

namespace Pacing

variable {τ : Type} [Add τ] [Sub τ] [LT τ] [LE τ] [DecidableLT τ] [DecidableLE τ] [OfNat τ 0]

def start (tempo : Tempo τ) (now : τ) : Pacing τ where
  nextFrame := now
  nextReport := now + tempo.report

def reportDue (pacing : Pacing τ) (now : τ) : Bool :=
  pacing.nextReport ≤ now

def reported (pacing : Pacing τ) (tempo : Tempo τ) (now : τ) : Pacing τ :=
  { pacing with nextReport := now + tempo.report }

def later (a b : τ) : τ :=
  if a < b then b else a

def afterFrame (pacing : Pacing τ) (tempo : Tempo τ) (began : τ) : Pacing τ :=
  { pacing with nextFrame := later (pacing.nextFrame + tempo.frame) began }

def pause (pacing : Pacing τ) (now : τ) : Option τ :=
  let rest := pacing.nextFrame - now
  if 0 < rest then some rest else none

end Pacing

end Chip8

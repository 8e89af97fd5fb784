import Chip8.Proofs.Display.Conversation

namespace Chip8

structure Cell where
  char : Char
  reversed : Bool
deriving DecidableEq, Repr

def Cell.blank : Cell where
  char := ' '
  reversed := false

/-- A pad of so many rows and columns, whose cells are blank until they are written. -/
structure Pad where
  rows : Int
  columns : Int
  cells : Int → Int → Cell

namespace Pad

def empty (rows columns : Int) : Pad where
  rows := rows
  columns := columns
  cells _ _ := Cell.blank

def write (pad : Pad) (row column : Int) (text : String) (reversed : Bool) : Pad :=
  { pad with cells := fun r c =>
      if r = row ∧ column ≤ c ∧ c < column + text.length ∧
          (0 ≤ r ∧ r < pad.rows) ∧ 0 ≤ c ∧ c < pad.columns then
        ⟨text.toList.getD (c - column).toNat ' ', reversed⟩
      else pad.cells r c }

end Pad

structure Stage where
  pad : Pad
  /-- The terminal is cleared with the next refresh. -/
  cleared : Bool
  shown : Int → Int → Cell

namespace Stage

def blank : Stage where
  pad := Pad.empty 0 0
  cleared := false
  shown _ _ := Cell.blank

def call (stage : Stage) : HostCall → Stage
  | .terminalOpened => { stage with cleared := false, shown := fun _ _ => Cell.blank }
  | .padMade rows columns => { stage with pad := Pad.empty rows columns }
  | .padWritten row column text reversed =>
    { stage with pad := stage.pad.write row column text reversed }
  | .padCopied _ _ => { stage with shown := stage.pad.cells }
  | .terminalCleared => { stage with cleared := true }
  | .terminalRefreshed =>
    if stage.cleared then { stage with cleared := false, shown := fun _ _ => Cell.blank } else stage
  | _ => stage

def replay (stage : Stage) (calls : List HostCall) : Stage :=
  calls.foldl call stage

def after (start : Stage) : List Exchange → Stage
  | [] => start
  | exchange :: past => (start.after past).replay exchange.calls

theorem replay_append (stage : Stage) (before after : List HostCall) :
    stage.replay (before ++ after) = (stage.replay before).replay after :=
  List.foldl_append ..

end Stage

end Chip8

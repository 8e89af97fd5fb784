import Chip8.HostCall

namespace Chip8

/-- What a display is asked for. A terminal has so many rows and columns when it shows a frame. -/
inductive Request where
  | resolution (width height : Int)
  | title (text : String)
  | frame (pixels : Array UInt8) (size : Int × Int)
deriving DecidableEq, Repr

structure Exchange where
  request : Request
  calls : List HostCall
  fault : Option Fault
deriving DecidableEq, Repr

def Response.exchange {δ : Type} (response : Response δ) (request : Request) : Exchange where
  request := request
  calls := response.calls
  fault := response.fault

namespace Exchange

def resolution : List Exchange → Option (Int × Int)
  | [] => none
  | ⟨.resolution width height, _, none⟩ :: _ => some (width, height)
  | _ :: past => resolution past

/-- The columns and rows of pixels; there are none before a resolution is set. -/
def extent (past : List Exchange) : Int × Int :=
  (resolution past).getD (0, 0)

/-- The frame shown last, if one was shown since the resolution was set. -/
def frameSince : List Exchange → Option (Array UInt8)
  | [] => none
  | ⟨.resolution _ _, _, none⟩ :: _ => none
  | ⟨.frame pixels _, _, none⟩ :: _ => some pixels
  | _ :: past => frameSince past

def lastSize : List Exchange → Option (Int × Int)
  | [] => none
  | ⟨.frame _ size, _, none⟩ :: _ => some size
  | _ :: past => lastSize past

theorem lastSize_of_shown {δ : Type} {response : Response δ} {pixels : Array UInt8}
    {size : Int × Int} {past : List Exchange} (complete : response.fault = none) :
    lastSize (response.exchange (.frame pixels size) :: past) = some size := by
  unfold Response.exchange
  rw [complete]
  rfl

/-- The last title that was set since the resolution was, of those shorter than a row of pixels. -/
def titleSince (scale : Int) : List Exchange → Option String
  | [] => none
  | ⟨.resolution _ _, _, none⟩ :: _ => none
  | ⟨.title text, _, none⟩ :: past =>
    if text.length < (extent past).1 * scale then some text else titleSince scale past
  | _ :: past => titleSince scale past

end Exchange

/-- A resolution has pixels, and a frame has as many as the resolution set last. -/
def Request.Fits (past : List Exchange) : Request → Prop
  | .resolution width height => 1 ≤ width ∧ 1 ≤ height
  | .title _ => True
  | .frame pixels _ => (pixels.size : Int) = (Exchange.extent past).1 * (Exchange.extent past).2

/-- The exchanges with a device that began in some state, and the state it is in after them. -/
inductive Conversation {δ : Type} (answer : δ → Request → Response δ) (start : δ) :
    List Exchange → δ → Prop where
  | opened : Conversation answer start [] start
  | asked {past : List Exchange} {device : δ} (before : Conversation answer start past device)
      (request : Request) (fitting : request.Fits past) :
      Conversation answer start ((answer device request).exchange request :: past)
        (answer device request).device

end Chip8

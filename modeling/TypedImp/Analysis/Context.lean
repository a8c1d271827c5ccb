/-
**The control-flow context.**

Loops and functions push a frame that says whether `break` and `continue` are allowed; only the
topmost frame counts. A function pushes a frame that allows neither, so that a loop around the
function is not seen from inside it.
-/

namespace TypedImp

/-- What a frame is the inside of. -/
structure ContextFrame where
  inLoop : Bool
  inSwitch : Bool
  deriving DecidableEq, Repr

/-- The frames, the topmost first. -/
structure ContextStack where
  frames : List ContextFrame
  deriving DecidableEq, Repr

namespace ContextFrame

/-- The frame of a loop. -/
def loop : ContextFrame := ⟨true, false⟩

/-- The frame of a function. -/
def function : ContextFrame := ⟨false, false⟩

end ContextFrame

namespace ContextStack

/-- No frames. -/
def empty : ContextStack := ⟨[]⟩

/-- Puts a frame on top. -/
def push (stack : ContextStack) (frame : ContextFrame) : ContextStack :=
  ⟨frame :: stack.frames⟩

/-- Takes the topmost frame off, if there is one. -/
def exit (stack : ContextStack) : ContextStack :=
  ⟨stack.frames.tail⟩

/-- Whether `break` is allowed. -/
def allowsBreak (stack : ContextStack) : Bool :=
  stack.frames.head?.any fun frame => frame.inLoop || frame.inSwitch

/-- Whether `continue` is allowed. -/
def allowsContinue (stack : ContextStack) : Bool :=
  stack.frames.head?.any (·.inLoop)

@[simp]
theorem exit_push (stack : ContextStack) (frame : ContextFrame) :
    (stack.push frame).exit = stack := rfl

end ContextStack

end TypedImp

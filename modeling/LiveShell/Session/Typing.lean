/-!
What is typed at the prompt, as a state that one key takes to the next. Enter hands the line over; after an
escape it only breaks the line.
-/

namespace LiveShell

/-- The line being typed, its last character first. -/
structure Typing where
  line : List Char := []
  /-- Whether the last key was an escape. -/
  escaped : Bool := false
deriving DecidableEq, Repr, Inhabited

/-- What a key can lead to. -/
inductive Submission
  | entered (text : String)
  /-- The end of typing. -/
  | left
deriving DecidableEq, Repr, Inhabited

namespace Typing

def enterKeys : List Char := ['\r', '\n']

def eraseKeys : List Char := ['\x08', '\x7f']

def interruptKey : Char := '\x03'

def endKey : Char := '\x04'

def escapeKey : Char := '\x1b'

def text (typing : Typing) : String := String.ofList typing.line.reverse

/-- One key. The end key counts on an empty line only, and keys that show nothing do nothing. -/
def step (typing : Typing) (key : Char) : Typing × Option Submission :=
  if key = interruptKey then ({}, some .left)
  else if key = escapeKey then ({ typing with escaped := true }, none)
  else if enterKeys.contains key then
    if typing.escaped then ({ line := '\n' :: typing.line }, none)
    else ({}, some (.entered typing.text))
  else if key = endKey then
    if typing.line.isEmpty then ({}, some .left) else ({ line := typing.line }, none)
  else if eraseKeys.contains key then ({ line := typing.line.drop 1 }, none)
  else if key.toNat < 32 then ({ line := typing.line }, none)
  else ({ line := key :: typing.line }, none)

end Typing

/-- The inputs that keys enter, up to the key that ends typing. -/
def Typing.inputs : Typing → List Char → List String
  | _, [] => []
  | typing, key :: keys =>
      match typing.step key with
      | (typing, none) => typing.inputs keys
      | (typing, some (.entered text)) => text :: typing.inputs keys
      | (_, some .left) => []

end LiveShell

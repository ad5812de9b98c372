/-!
Codings: texts as bytes and back. What a coding has no form for is told by its place and the reason.
-/

namespace LiveShell.Text

inductive Coding
  | utf8
  | ascii
  | latin
deriving DecidableEq, Repr, Inhabited

/-- A coding by one of its names. -/
def Coding.ofName? (name : String) : Option Coding :=
  let plain := String.ofList ((name.toList.map Char.toLower).map fun character =>
    if character = '_' || character = ' ' then '-' else character)
  if ["utf-8", "utf8", "u8", "cp65001"].contains plain then some .utf8
  else if ["ascii", "us-ascii", "646"].contains plain then some .ascii
  else if ["latin-1", "latin1", "iso-8859-1", "iso8859-1", "8859", "cp819", "l1"].contains plain then
    some .latin
  else none

def Coding.name : Coding → String
  | utf8 => "utf-8"
  | ascii => "ascii"
  | latin => "latin-1"

/-- How many code points a coding with single bytes has. -/
def Coding.size : Coding → Nat
  | utf8 => 0x110000
  | ascii => 128
  | latin => 256

/-- What cannot be coded: where it starts and ends, and why. -/
structure CodingFault where
  start : Nat
  stop : Nat
  reason : String
deriving Repr, Inhabited

def encodeCharacter (character : Char) : List UInt8 :=
  let code := character.toNat
  let byte (value : Nat) : UInt8 := UInt8.ofNat value
  let tail (shift : Nat) : UInt8 := byte (0x80 + code / Nat.pow 64 shift % 64)
  if code < 0x80 then [byte code]
  else if code < 0x800 then [byte (0xC0 + code / 64), tail 0]
  else if code < 0x10000 then [byte (0xE0 + code / Nat.pow 64 2), tail 1, tail 0]
  else [byte (0xF0 + code / Nat.pow 64 3), tail 2, tail 1, tail 0]

/-- A text as bytes; `instead` is what stands for a run of characters without a form. -/
def encodeFrom (coding : Coding) (instead : Nat → List Char → Except CodingFault (List UInt8)) :
    Nat → Nat → List Char → Except CodingFault (List UInt8)
  | 0, _, _ => pure []
  | _, _, [] => pure []
  | fuel + 1, place, character :: rest =>
      if character.toNat < coding.size then do
        let bytes := if coding = .utf8 then encodeCharacter character else [UInt8.ofNat character.toNat]
        pure (bytes ++ (← encodeFrom coding instead fuel (place + 1) rest))
      else do
        let run := character :: rest.takeWhile fun character => coding.size ≤ character.toNat
        let bytes ← instead place run
        pure (bytes ++ (← encodeFrom coding instead fuel (place + run.length) (rest.drop (run.length - 1))))

def isTail (byte : UInt8) : Bool := 0x80 ≤ byte && byte < 0xC0

/-- How many bytes a first byte asks for, and its own part of the code point. -/
def sequenceForm? (first : UInt8) : Option (Nat × Nat) :=
  let value := first.toNat
  if 0xC2 ≤ value && value < 0xE0 then some (1, value - 0xC0)
  else if 0xE0 ≤ value && value < 0xF0 then some (2, value - 0xE0)
  else if 0xF0 ≤ value && value < 0xF5 then some (3, value - 0xF0)
  else none

/-- Whether a second byte may follow a first one. -/
def mayFollow (first second : UInt8) : Bool :=
  isTail second &&
    !(first = 0xE0 && second < 0xA0) && !(first = 0xED && 0xA0 ≤ second) &&
    !(first = 0xF0 && second < 0x90) && !(first = 0xF4 && 0x90 ≤ second)

/-- Bytes as a text. -/
def decodeFrom (coding : Coding) (instead : Nat → Nat → String → Except CodingFault (List Char)) :
    Nat → Nat → List UInt8 → Except CodingFault (List Char)
  | 0, _, _ => pure []
  | _, _, [] => pure []
  | fuel + 1, place, first :: rest => do
      let go (place : Nat) (rest : List UInt8) := decodeFrom coding instead fuel place rest
      if first.toNat < 0x80 || coding = .latin then
        pure (Char.ofNat first.toNat :: (← go (place + 1) rest))
      else if coding = .ascii then
        let characters ← instead place (place + 1) "ordinal not in range(128)"
        pure (characters ++ (← go (place + 1) rest))
      else match sequenceForm? first with
        | none =>
            let characters ← instead place (place + 1) "invalid start byte"
            pure (characters ++ (← go (place + 1) rest))
        | some (count, lead) =>
            let tail := match rest with
              | second :: others =>
                  if mayFollow first second then second :: (others.takeWhile isTail).take (count - 1) else []
              | [] => []
            if tail.length = count then
              let code := tail.foldl (fun code byte => code * 64 + (byte.toNat - 0x80)) lead
              pure (Char.ofNat code :: (← go (place + count + 1) (rest.drop count)))
            else
              let atEnd : Bool := tail.length = rest.length
              let reason := if atEnd then "unexpected end of data" else "invalid continuation byte"
              let stop := place + 1 + tail.length
              let characters ← instead place stop reason
              pure (characters ++ (← go stop (rest.drop tail.length)))

end LiveShell.Text

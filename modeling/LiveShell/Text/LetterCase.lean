import LiveShell.Text.Ranges
import LiveShell.Text.CharacterClass

/-!
Letter case over all of Unicode: the cased classes, the four maps of a character, and the maps of a text,
where a capital sigma at the end of a word becomes the final one.
-/

namespace LiveShell.Text

/-- Characters from `first` to `last`, every `step`-th of them moved by `shift`. -/
structure CaseRun where
  first : Nat
  last : Nat
  step : Nat
  shift : Int
deriving Inhabited

def readCaseRuns (text : String) : Array CaseRun :=
  let rec read (last : Nat) : List (List Char) → List CaseRun
    | gap :: length :: step :: shift :: rest =>
        let first := last + readBase36 gap
        let stop := first + readBase36 length
        let distance : Int := match shift with
          | '-' :: digits => -(readBase36 digits : Int)
          | digits => readBase36 digits
        ⟨first, stop, readBase36 step, distance⟩ :: read stop rest
    | _ => []
  (read 0 (splitAtSpaces text.toList)).toArray

def readLongerForms (text : String) : Array (Nat × List Char) :=
  ((splitAtSpaces text.toList).map fun entry =>
    match (splitAtEach '.' entry).map readBase36 with
    | code :: forms => (code, forms.map Char.ofNat)
    | [] => (0, [])).toArray

def lowerRanges : Ranges :=
  Ranges.ofText
    "2p p 1c 0 b 0 5 0 11 n 2 7 2 0 2 0 2 0 2 0 2 0 2 0 2 0 2 0 2 0 2 0 2 0 2 0 2 0 2 0 2 0 2 0 2 0 2 0 2
     0 2 0 2 0 2 0 2 0 2 0 2 0 2 0 2 0 2 1 2 0 2 0 2 0 2 0 2 0 2 0 2 0 2 1 2 0 2 0 2 0 2 0 2 0 2 0 2 0 2
     0 2 0 2 0 2 0 2 0 2 0 2 0 2 0 2 0 2 0 2 0 2 0 2 0 2 0 2 0 2 0 3 0 2 0 2 2 3 0 2 0 3 0 4 1 5 0 3 0 4
     2 3 0 3 0 2 0 2 0 3 0 2 1 2 0 3 0 4 0 2 0 3 1 3 2 7 0 3 0 3 0 2 0 2 0 2 0 2 0 2 0 2 0 2 0 2 1 2 0 2
     0 2 0 2 0 2 0 2 0 2 0 2 0 2 1 3 0 2 0 4 0 2 0 2 0 2 0 2 0 2 0 2 0 2 0 2 0 2 0 2 0 2 0 2 0 2 0 2 0 2
     0 2 0 2 0 2 0 2 0 2 0 2 0 2 0 2 0 2 0 2 0 2 0 2 0 2 0 2 6 3 0 3 1 2 0 5 0 2 0 2 0 2 0 2 1w 2 z 8 1 v
     4 2p 0 18 0 2 0 4 0 3 3 j 0 s y 2 1 4 2 2 0 2 0 2 0 2 0 2 0 2 0 2 0 2 0 2 0 2 0 2 0 2 4 2 0 3 0 3 1
     1g 1b 2 0 2 0 2 0 2 0 2 0 2 0 2 0 2 0 2 0 2 0 2 0 2 0 2 0 2 0 2 0 2 0 2 0 a 0 2 0 2 0 2 0 2 0 2 0 2
     0 2 0 2 0 2 0 2 0 2 0 2 0 2 0 2 0 2 0 2 0 2 0 2 0 2 0 2 0 2 0 2 0 2 0 2 0 2 0 2 0 3 0 2 0 2 0 2 0 2
     0 2 0 2 1 2 0 2 0 2 0 2 0 2 0 2 0 2 0 2 0 2 0 2 0 2 0 2 0 2 0 2 0 2 0 2 0 2 0 2 0 2 0 2 0 2 0 2 0 2
     0 2 0 2 0 2 0 2 0 2 0 2 0 2 0 2 0 2 0 2 0 2 0 2 0 2 0 2 0 2 0 2 0 2 0 2 0 2 0 2 0 2 0 2 0 2 0 2 0 2
     0 1d 14 288 16 3 2 l5 5 1oj 8 3c 5b 1u 0 2 0 2 0 2 0 2 0 2 0 2 0 2 0 2 0 2 0 2 0 2 0 2 0 2 0 2 0 2 0
     2 0 2 0 2 0 2 0 2 0 2 0 2 0 2 0 2 0 2 0 2 0 2 0 2 0 2 0 2 0 2 0 2 0 2 0 2 0 2 0 2 0 2 0 2 0 2 0 2 0
     2 0 2 0 2 0 2 0 2 0 2 0 2 0 2 0 2 0 2 0 2 0 2 0 2 0 2 0 2 0 2 0 2 0 2 0 2 0 2 0 2 0 2 0 2 0 2 0 2 0
     2 0 2 0 2 0 2 0 2 0 2 0 2 0 2 0 2 8 2 0 2 0 2 0 2 0 2 0 2 0 2 0 2 0 2 0 2 0 2 0 2 0 2 0 2 0 2 0 2 0
     2 0 2 0 2 0 2 0 2 0 2 0 2 0 2 0 2 0 2 0 2 0 2 0 2 0 2 0 2 0 2 0 2 0 2 0 2 0 2 0 2 0 2 0 2 0 2 0 2 0
     2 0 2 0 2 0 2 0 2 0 2 0 2 0 2 8 9 5 b 7 9 7 9 5 b 7 9 7 9 d 3 7 9 7 9 7 9 4 2 1 7 0 4 2 2 1 9 3 3 1
     9 7 b 2 2 1 3e 0 e 0 h c 32 0 4 1 4 0 s 0 5 0 5 0 3 1 9 3 5 0 y f 5 0 ng p 1fr 1b 2 0 4 1 2 0 2 0 2
     0 5 0 2 1 2 7 4 0 2 0 2 0 2 0 2 0 2 0 2 0 2 0 2 0 2 0 2 0 2 0 2 0 2 0 2 0 2 0 2 0 2 0 2 0 2 0 2 0 2
     0 2 0 2 0 2 0 2 0 2 0 2 0 2 0 2 0 2 0 2 0 2 0 2 0 2 0 2 0 2 0 2 0 2 0 2 0 2 0 2 0 2 0 2 0 2 0 2 0 2
     0 2 0 2 0 2 1 8 0 2 0 5 0 d 11 2 0 6 0 nx0 0 2 0 2 0 2 0 2 0 2 0 2 0 2 0 2 0 2 0 2 0 2 0 2 0 2 0 2 0
     2 0 2 0 2 0 2 0 2 0 2 0 2 0 2 0 k 0 2 0 2 0 2 0 2 0 2 0 2 0 2 0 2 0 2 0 2 0 2 0 2 0 2 2 3q 0 2 0 2 0
     2 0 2 0 2 0 2 2 2 0 2 0 2 0 2 0 2 0 2 0 2 0 2 0 2 0 2 0 2 0 2 0 2 0 2 0 2 0 2 0 2 0 2 0 2 0 2 0 2 0
     2 0 2 0 2 0 2 0 2 0 2 0 2 0 2 0 2 0 2 9 2 0 2 0 3 0 2 0 2 0 2 0 2 0 5 0 2 0 3 0 2 2 2 0 2 0 2 0 2 0
     2 0 2 0 2 0 2 0 2 0 2 0 6 0 6 0 2 0 2 0 2 0 2 0 2 0 2 0 2 0 5 0 2 0 7 0 2 0 2 0 2 0 2 0 t 0 2 2 mu
     16 2 c 8 27 fnl 6 d 4 tm p y6 13 3t z 4c a 2 e 2 6 2 1 ck 0 3 2 2 15 2 8 zq 1e 2by v gw1 v k2j p r 6
     2 h r p r 3 2 0 2 6 2 a r p r p r p r p r p r p r p r p r r t o 2 5 r o 2 5 r o 2 5 r o 2 5 r o 2 5
     2 0 1f9 9 2 j 1z8 x"

def upperRanges : Ranges :=
  Ranges.ofText
    "1t p 2u m 2 6 y 0 2 0 2 0 2 0 2 0 2 0 2 0 2 0 2 0 2 0 2 0 2 0 2 0 2 0 2 0 2 0 2 0 2 0 2 0 2 0 2 0 2
     0 2 0 2 0 2 0 2 0 2 0 2 0 3 0 2 0 2 0 2 0 2 0 2 0 2 0 2 0 3 0 2 0 2 0 2 0 2 0 2 0 2 0 2 0 2 0 2 0 2
     0 2 0 2 0 2 0 2 0 2 0 2 0 2 0 2 0 2 0 2 0 2 0 2 0 2 1 2 0 2 0 4 1 2 0 2 1 2 2 3 3 2 1 2 2 4 1 2 1 2
     0 2 0 2 1 2 0 3 0 2 1 2 2 2 0 2 1 4 0 8 0 3 0 3 0 3 0 2 0 2 0 2 0 2 0 2 0 2 0 2 0 3 0 2 0 2 0 2 0 2
     0 2 0 2 0 2 0 2 0 3 0 3 0 2 2 2 0 2 0 2 0 2 0 2 0 2 0 2 0 2 0 2 0 2 0 2 0 2 0 2 0 2 0 2 0 2 0 2 0 2
     0 2 0 2 0 2 0 2 0 2 0 2 0 2 0 2 0 2 0 2 0 2 0 8 1 2 1 3 0 2 3 2 0 2 0 2 0 2 0 82 0 2 0 4 0 9 0 7 0 2
     2 2 0 2 1 2 g 2 8 10 0 3 2 4 0 2 0 2 0 2 0 2 0 2 0 2 0 2 0 2 0 2 0 2 0 2 0 6 0 3 0 2 1 3 1e 1d 0 2 0
     2 0 2 0 2 0 2 0 2 0 2 0 2 0 2 0 2 0 2 0 2 0 2 0 2 0 2 0 2 0 a 0 2 0 2 0 2 0 2 0 2 0 2 0 2 0 2 0 2 0
     2 0 2 0 2 0 2 0 2 0 2 0 2 0 2 0 2 0 2 0 2 0 2 0 2 0 2 0 2 0 2 0 2 0 2 1 2 0 2 0 2 0 2 0 2 0 2 0 3 0
     2 0 2 0 2 0 2 0 2 0 2 0 2 0 2 0 2 0 2 0 2 0 2 0 2 0 2 0 2 0 2 0 2 0 2 0 2 0 2 0 2 0 2 0 2 0 2 0 2 0
     2 0 2 0 2 0 2 0 2 0 2 0 2 0 2 0 2 0 2 0 2 0 2 0 2 0 2 0 2 0 2 0 2 0 2 0 2 0 2 0 2 0 2 0 3 11 28a 11
     2 0 6 0 k3 2d 1p7 16 3 2 8x 0 2 0 2 0 2 0 2 0 2 0 2 0 2 0 2 0 2 0 2 0 2 0 2 0 2 0 2 0 2 0 2 0 2 0 2
     0 2 0 2 0 2 0 2 0 2 0 2 0 2 0 2 0 2 0 2 0 2 0 2 0 2 0 2 0 2 0 2 0 2 0 2 0 2 0 2 0 2 0 2 0 2 0 2 0 2
     0 2 0 2 0 2 0 2 0 2 0 2 0 2 0 2 0 2 0 2 0 2 0 2 0 2 0 2 0 2 0 2 0 2 0 2 0 2 0 2 0 2 0 2 0 2 0 2 0 2
     0 2 0 2 0 2 0 2 0 2 0 2 0 a 0 2 0 2 0 2 0 2 0 2 0 2 0 2 0 2 0 2 0 2 0 2 0 2 0 2 0 2 0 2 0 2 0 2 0 2
     0 2 0 2 0 2 0 2 0 2 0 2 0 2 0 2 0 2 0 2 0 2 0 2 0 2 0 2 0 2 0 2 0 2 0 2 0 2 0 2 0 2 0 2 0 2 0 2 0 2
     0 2 0 2 0 2 0 2 0 2 0 a 7 9 5 b 7 9 7 9 5 c 0 2 0 2 0 2 0 9 7 21 3 d 3 d 3 d 4 c 3 7b 0 5 0 4 2 3 2
     3 0 4 4 7 0 2 0 2 0 2 3 3 3 b 1 6 0 r f k 0 mr p 1f5 1b 1d 0 2 2 3 0 2 0 2 0 2 3 2 0 3 0 9 2 2 0 2 0
     2 0 2 0 2 0 2 0 2 0 2 0 2 0 2 0 2 0 2 0 2 0 2 0 2 0 2 0 2 0 2 0 2 0 2 0 2 0 2 0 2 0 2 0 2 0 2 0 2 0
     2 0 2 0 2 0 2 0 2 0 2 0 2 0 2 0 2 0 2 0 2 0 2 0 2 0 2 0 2 0 2 0 2 0 2 0 2 0 2 0 2 0 2 0 9 0 2 0 5 0
     nym 0 2 0 2 0 2 0 2 0 2 0 2 0 2 0 2 0 2 0 2 0 2 0 2 0 2 0 2 0 2 0 2 0 2 0 2 0 2 0 2 0 2 0 2 0 k 0 2
     0 2 0 2 0 2 0 2 0 2 0 2 0 2 0 2 0 2 0 2 0 2 0 2 0 3s 0 2 0 2 0 2 0 2 0 2 0 2 0 4 0 2 0 2 0 2 0 2 0 2
     0 2 0 2 0 2 0 2 0 2 0 2 0 2 0 2 0 2 0 2 0 2 0 2 0 2 0 2 0 2 0 2 0 2 0 2 0 2 0 2 0 2 0 2 0 2 0 2 0 2
     0 b 0 2 0 2 1 2 0 2 0 2 0 2 0 5 0 2 0 3 0 2 0 4 0 2 0 2 0 2 0 2 0 2 0 2 0 2 0 2 0 2 0 2 4 2 4 2 0 2
     0 2 0 2 0 2 0 2 0 2 0 2 3 2 0 7 0 6 0 2 0 t 0 h7w p xy 13 3t z 4d a 2 e 2 6 2 1 1d7 1e 2cu v gw1 v
     k2p p r p r p r 0 2 1 3 0 3 1 3 3 2 7 r p r 1 2 3 3 7 2 6 s 1 2 3 2 4 2 0 4 6 s p r p r p r p r p r
     p v o y o y o y o y o y 0 3ee x 1lb p 7 p 7 p"

def titleRanges : Ranges :=
  Ranges.ofText
    "cl 0 3 0 3 0 13 0 5ue 7 9 7 9 7 d 0 g 0 1c 0"

/-- Characters that do not end a word for the choice of the final sigma. -/
def caseIgnorableRanges : Ranges :=
  Ranges.ofText
    "13 0 7 0 c 0 10 0 2 0 20 0 5 0 2 0 5 0 3 1 e0 5b 5 1 5 0 a 1 2 0 70 6 5s 0 6 0 1e 18 2 0 2 1 2 1 2 0
     19 0 c 5 b a 2 0 10 0 b k h 0 2u 7 2 9 2 3 y 0 2 0 v q 2k a 1n a 5 0 3 0 p n 18 2 19 0 8 1 7 7 16 1l
     1k 0 2 0 5 7 5 0 4 6 b 1 e 0 g 0 1n 0 5 3 9 0 l 1 r 0 3 1 1m 0 5 1 5 1 3 2 4 0 v 1 4 0 c 1 1m 0 5 4
     2 1 5 0 l 1 n 5 2 0 1n 0 3 0 2 3 9 0 8 1 c 1 v 0 1q 0 d 0 1f 0 4 0 1k 0 2 2 6 2 2 3 8 1 c 1 u 0 1n 0
     3 0 7 0 6 1 l 1 t 1 1m 1 5 3 9 0 l 1 u 0 21 0 8 2 2 0 2j 0 3 6 c 8 2r 0 3 8 a 0 2 5 23 1 s 0 2 0 2 0
     1k d 2 4 2 1 6 a 2 z a 0 2v 3 2 5 2 1 3 1 q 1 5 2 h 3 e 0 3 1 7 0 g 0 2n 0 gx 2 qb 2 u 1 v 1 v 1 1t
     1 2 6 9 0 3 a 4 0 6 0 1a 4 1g 0 1u 1 z 0 3b 2 5 1 a 0 7 2 64 1 3 0 1n 0 2 6 2 0 2 0 3 7 7 9 3 0 14 0
     9 u 1e 3 1d 0 2 4 2 0 6 0 15 8 d 1 x 3 3 1 2 2 1l 0 2 1 4 0 2 2 1n 7 3 1 1t 5 2b 2 2 c 2 6 5 0 7 0 4
     1 1f 1q e 0 z 2s ce 0 2 2 c 2 e 2 e 2 e 1 d 4 9 1 b 0 3 0 3 4 1e 4 2 9 2 0 e 0 h c 1g w 2a4 1 36 2
     3i 0 g 0 2p v 1c 0 d2 0 11 3 4 4 6 0 2m 5 2m 2 lxz 0 yr 5 7j 0 2r 3 2 9 2 0 t 3 29 1 f x 27 0 o 2 2w
     2 4 1 9 0 4 0 5 0 q 1 6 0 48 1 r h e 0 13 7 q a 1b 2 1d 0 3 3 3 1 i 0 m 1 1v 5 3 1 3 1 d 0 9 0 10 0
     c 0 1g 0 2 2 3 1 6 1 2 0 s 0 f 1 6 1 2 0 2t 4 a 2 3e 0 3 0 5 0 fn5 0 44 g fy f 4 0 d f z 0 3 0 4q 0
     8 0 7 0 c 0 10 0 2 0 1c 0 1a 1 1w 0 m 2 ea 0 6b 0 46 4 sm 5 2 15 2 8 g7 2 2 1 6 3 15 2 5 0 4m 1 fy 3
     as 1 4a a 1e 3 3g 0 1j e 16 0 3 1 b 2 1e 3 3 1 3 0 5 0 b 0 1f 2 11 4 2 7 1r 0 d 1 1h 8 b 3 3 0 2o 2
     3 0 2 1 7 0 4h 0 4 7 m 1 1m 1 4 0 12 6 4 4 5g 7 3 2 2 0 o 0 2d 5 2 0 5 1 2 1 6n 3 7 1 2 1 s 1 2e 7 3
     0 2 1 2z 0 2 0 3 5 2 0 2u 2 3 3 2 4 78 8 2 1 75 1 2 0 5 0 41 3 3 1 5 0 x 9 15 5 3 3 9 0 a 5 3 2 1b c
     2 1 bb 6 2 5 2 0 2b l 3 6 2 1 2 1 3f 5 4 0 2 1 2 6 2 0 21 1 4 0 2 0 9o 1 470 8 at4 4 1o 6 a 3 ss 0
     1s g 1t 1 2 1 cng 3 2 6 2 1 2hr 1 2 3 3ml 19 3 m f5 2 a f 3 6 v 3 45 2 1j0 1i 5 1d 9 0 f 0 n 4 2 e
     11t 6 2 g 3 6 2 1 2 4 7a d a9 0 1q 3 15t 6 32 7 240 4 gx6q 0 v 2n 3l 6n"

def lowerRuns : Array CaseRun :=
  readCaseRuns
    "1t p 1 w 2u m 1 w 2 6 1 w y 1a 2 1 4 4 2 1 3 e 2 1 3 18 2 1 2 0 1 -3d 1 4 2 1 4 0 1 5u 1 2 2 1 2 0 1
     5q 1 0 1 1 2 1 1 5p 1 0 1 1 3 0 1 27 1 0 1 5m 1 0 1 5n 1 0 1 1 2 0 1 5p 1 0 1 5r 2 0 1 5v 1 0 1 5t 1
     0 1 1 4 0 1 5v 1 0 1 5x 2 0 1 5y 1 4 2 1 2 0 1 62 1 0 1 1 2 0 1 62 3 0 1 1 2 0 1 62 1 0 1 1 2 1 1 61
     1 2 2 1 2 0 1 63 1 0 1 1 4 0 1 1 8 0 1 2 1 0 1 1 2 0 1 2 1 0 1 1 2 0 1 2 1 g 2 1 3 g 2 1 3 0 1 2 1 2
     2 1 2 0 1 -2p 1 0 1 -1k 1 12 2 1 2 0 1 -3m 2 g 2 1 8 0 1 8bv 1 0 1 1 2 0 1 -4j 1 0 1 8bs 3 0 1 1 2 0
     1 -5f 1 0 1 1x 1 0 1 1z 1 8 2 1 82 2 2 1 4 0 1 1 9 0 1 38 7 0 1 12 2 2 1 11 2 0 1 1s 2 1 1 1r 2 g 1
     w 2 8 1 w 10 0 1 8 9 m 2 1 6 0 1 -1o 3 0 1 1 2 0 1 -7 1 0 1 1 3 2 1 -3m 1 f 1 28 1 v 1 w 1d w 2 1 a
     1g 2 1 2 0 1 f 1 c 2 1 3 2m 2 1 3 11 1 1c 28a 11 1 5ls 2 0 1 5ls 6 0 1 5ls k3 27 1 tzk 1 5 1 8 1p7
     16 1 -2bk 3 2 1 -2bk 8x 44 2 1 a 0 1 -5vj 2 2m 2 1 a 7 1 -8 9 5 1 -8 b 7 1 -8 9 7 1 -8 9 5 1 -8 c 6
     2 -8 9 7 1 -8 p 7 1 -8 9 7 1 -8 9 7 1 -8 9 1 1 -8 1 1 1 -22 1 0 1 -9 c 3 1 -2e 1 0 1 -9 c 1 1 -8 1 1
     1 -2s d 1 1 -8 1 1 1 -34 1 0 1 -7 c 1 1 -3k 1 1 1 -3i 1 0 1 -9 8a 0 1 -5st 4 0 1 -6gv 1 0 1 -6di 7 0
     1 s 1a f 1 g k 0 1 1 mr p 1 q 1f5 1b 1 1c 1d 0 1 1 2 0 1 -8af 1 0 1 -2xy 1 0 1 -89z 3 4 2 1 2 0 1
     -8bg 1 0 1 -8al 1 0 1 -8bj 1 0 1 -8bi 2 0 1 1 3 0 1 1 9 1 1 -8cf 1 2q 2 1 9 2 2 1 5 0 1 1 nym 18 2 1
     k q 2 1 3s c 2 1 4 1o 2 1 b 2 2 1 2 0 1 -r9g 1 8 2 1 5 0 1 1 2 0 1 -wmg 3 2 2 1 4 i 2 1 2 0 1 -wn8 1
     0 1 -wnj 1 0 1 -wnf 1 0 1 -wn5 1 0 1 -wn8 2 0 1 -wlu 1 0 1 -wmi 1 0 1 -wlx 1 0 1 ps 1 e 2 1 2 0 1
     -1c 1 0 1 -wn7 1 0 1 -raw 1 2 2 1 7 0 1 1 6 2 2 1 t 0 1 1 h7w p 1 w xy 13 1 14 3t z 1 14 4d a 1 13 2
     e 1 13 2 6 1 13 2 1 1 13 1d7 1e 1 1s 2cu v 1 w gw1 v 1 w o81 x 1 y"

def lowerLonger : Array (Nat × List Char) :=
  readLongerForms
    "8g.2x.lj"

def upperRuns : Array CaseRun :=
  readCaseRuns
    "2p p 1 -w 1n 0 1 kn 17 m 1 -w 2 6 1 -w 1 0 1 3d 2 1a 2 -1 2 0 1 -6g 2 4 2 -1 3 e 2 -1 3 18 2 -1 3 4
     2 -1 1 0 1 -8c 1 0 1 5f 3 2 2 -1 3 0 1 -1 4 0 1 -1 6 0 1 -1 3 0 1 2p 4 0 1 -1 1 0 1 4j 4 0 1 3m 3 4
     2 -1 3 0 1 -1 5 0 1 -1 3 0 1 -1 4 2 2 -1 3 0 1 -1 4 0 1 -1 2 0 1 1k 6 0 1 -1 1 0 1 -2 2 0 1 -1 1 0 1
     -2 2 0 1 -1 1 0 1 -2 2 e 2 -1 1 0 1 -27 2 g 2 -1 3 0 1 -1 1 0 1 -2 2 0 1 -1 4 12 2 -1 4 g 2 -1 9 0 1
     -1 3 1 1 8cf 2 0 1 -1 5 8 2 -1 1 0 1 8bj 1 0 1 8bg 1 0 1 8bi 1 0 1 -5u 1 0 1 -5q 2 1 1 -5p 2 0 1 -5m
     2 0 1 -5n 1 0 1 wnj 4 0 1 -5p 1 0 1 wnf 2 0 1 -5r 2 0 1 wmg 1 0 1 wn8 2 0 1 -5t 1 0 1 -5v 1 0 1 wn8
     1 0 1 8af 1 0 1 wn5 3 0 1 -5v 2 0 1 8al 1 0 1 -5x 3 0 1 -5y 8 0 1 89z 3 0 1 -62 2 0 1 wn7 1 0 1 -62
     4 0 1 wmi 1 0 1 -62 1 0 1 -1x 1 1 1 -61 1 0 1 -1z 6 0 1 -63 b 0 1 wlx 1 0 1 wlu 4n 0 1 2c 18 2 2 -1
     4 0 1 -1 4 2 1 3m 1b 0 1 -12 1 2 1 -11 2 g 1 -w 1 0 1 -v 1 8 1 -w 1 0 1 -1s 1 1 1 -1r 2 0 1 -1q 1 0
     1 -1l 4 0 1 -1b 1 0 1 -1i 1 0 1 -8 2 m 2 -1 1 0 1 -2e 1 0 1 -28 1 0 1 7 1 0 1 -38 2 0 1 -2o 3 0 1 -1
     3 0 1 -1 1h v 1 -w 1 f 1 -28 2 w 2 -1 a 1g 2 -1 3 c 2 -1 1 0 1 -f 2 2m 2 -1 1e 11 1 -1c 28a 16 1 2bk
     3 2 1 2bk l5 5 1 -8 1oj 0 1 -4tq 1 0 1 -4tp 1 0 1 -4tg 1 1 1 -4te 1 0 1 -4tf 1 0 1 -4t8 1 0 1 -4rp 1
     0 1 r7m 6p 0 1 r9g 4 0 1 2xy h 0 1 raw 37 44 2 -1 6 0 1 -1n 6 2m 2 -1 1 7 1 8 9 5 1 8 b 7 1 8 9 7 1
     8 9 5 1 8 c 6 2 8 9 7 1 8 9 1 1 22 1 3 1 2e 1 1 1 2s 1 1 1 3k 1 1 1 34 1 1 1 3i 1f 1 1 8 d 0 1 -5k5
     i 1 1 8 f 1 1 8 4 0 1 7 a1 0 1 -s y f 1 -g 5 0 1 -1 ng p 1 -q 1fr 1b 1 -1c 2 0 1 -1 4 0 1 -8bv 1 0 1
     -8bs 2 4 2 -1 7 0 1 -1 3 0 1 -1 b 2q 2 -1 9 2 2 -1 5 0 1 -1 d 11 1 -5ls 2 0 1 -5ls 6 0 1 -5ls nx0 18
     2 -1 k q 2 -1 3s c 2 -1 4 1o 2 -1 b 2 2 -1 3 8 2 -1 5 0 1 -1 5 2 2 -1 1 0 1 1c 3 i 2 -1 c e 2 -1 5 2
     2 -1 7 0 1 -1 6 2 2 -1 t 0 1 -1 nx 0 1 -ps t 27 1 -tzk ghu p 1 -w y6 13 1 -14 3t z 1 -14 4c a 1 -13
     2 e 1 -13 2 6 1 -13 2 1 1 -13 1dw 1e 1 -1s 2by v 1 -w gw1 v 1 -w o83 x 1 -y"

def upperLonger : Array (Nat × List Char) :=
  readLongerForms
    "67.2b.2b 95.jg.26 ds.22.lo pc.pl.lk.ld q8.px.lk.ld 13b.111.11u 61i.20.mp 61j.2c.lk 61k.2f.lm
     61l.2h.lm 61m.1t.ji 66o.px.lv 66q.px.lv.lc 66s.px.lv.ld 66u.px.lv.n6 680.64o.pl 681.64p.pl
     682.64q.pl 683.64r.pl 684.64s.pl 685.64t.pl 686.64u.pl 687.64v.pl 688.64o.pl 689.64p.pl 68a.64q.pl
     68b.64r.pl 68c.64s.pl 68d.64t.pl 68e.64u.pl 68f.64v.pl 68g.65k.pl 68h.65l.pl 68i.65m.pl 68j.65n.pl
     68k.65o.pl 68l.65p.pl 68m.65q.pl 68n.65r.pl 68o.65k.pl 68p.65l.pl 68q.65m.pl 68r.65n.pl 68s.65o.pl
     68t.65p.pl 68u.65q.pl 68v.65r.pl 68w.67c.pl 68x.67d.pl 68y.67e.pl 68z.67f.pl 690.67g.pl 691.67h.pl
     692.67i.pl 693.67j.pl 694.67c.pl 695.67d.pl 696.67e.pl 697.67f.pl 698.67g.pl 699.67h.pl 69a.67i.pl
     69b.67j.pl 69e.69m.pl 69f.pd.pl 69g.p2.pl 69i.pd.n6 69j.pd.n6.pl 69o.pd.pl 69u.6a2.pl 69v.pj.pl
     69w.p5.pl 69y.pj.n6 69z.pj.n6.pl 6a4.pj.pl 6aa.pl.lk.lc 6ab.pl.lk.ld 6ae.pl.n6 6af.pl.lk.n6
     6aq.px.lk.lc 6ar.px.lk.ld 6as.pt.lv 6au.px.n6 6av.px.lk.n6 6b6.6be.pl 6b7.q1.pl 6b8.pb.pl 6ba.q1.n6
     6bb.q1.n6.pl 6bg.q1.pl 1dkw.1y.1y 1dkx.1y.21 1dky.1y.24 1dkz.1y.1y.21 1dl0.1y.1y.24 1dl1.2b.2c
     1dl2.2b.2c 1dlf.11g.11i 1dlg.11g.111 1dlh.11g.117 1dli.11q.11i 1dlj.11g.119"

def titleRuns : Array CaseRun :=
  readCaseRuns
    "2p p 1 -w 1n 0 1 kn 17 m 1 -w 2 6 1 -w 1 0 1 3d 2 1a 2 -1 2 0 1 -6g 2 4 2 -1 3 e 2 -1 3 18 2 -1 3 4
     2 -1 1 0 1 -8c 1 0 1 5f 3 2 2 -1 3 0 1 -1 4 0 1 -1 6 0 1 -1 3 0 1 2p 4 0 1 -1 1 0 1 4j 4 0 1 3m 3 4
     2 -1 3 0 1 -1 5 0 1 -1 3 0 1 -1 4 2 2 -1 3 0 1 -1 4 0 1 -1 2 0 1 1k 5 0 1 1 2 0 1 -1 1 0 1 1 2 0 1
     -1 1 0 1 1 2 g 2 -1 1 0 1 -27 2 g 2 -1 2 0 1 1 2 2 2 -1 4 12 2 -1 4 g 2 -1 9 0 1 -1 3 1 1 8cf 2 0 1
     -1 5 8 2 -1 1 0 1 8bj 1 0 1 8bg 1 0 1 8bi 1 0 1 -5u 1 0 1 -5q 2 1 1 -5p 2 0 1 -5m 2 0 1 -5n 1 0 1
     wnj 4 0 1 -5p 1 0 1 wnf 2 0 1 -5r 2 0 1 wmg 1 0 1 wn8 2 0 1 -5t 1 0 1 -5v 1 0 1 wn8 1 0 1 8af 1 0 1
     wn5 3 0 1 -5v 2 0 1 8al 1 0 1 -5x 3 0 1 -5y 8 0 1 89z 3 0 1 -62 2 0 1 wn7 1 0 1 -62 4 0 1 wmi 1 0 1
     -62 1 0 1 -1x 1 1 1 -61 1 0 1 -1z 6 0 1 -63 b 0 1 wlx 1 0 1 wlu 4n 0 1 2c 18 2 2 -1 4 0 1 -1 4 2 1
     3m 1b 0 1 -12 1 2 1 -11 2 g 1 -w 1 0 1 -v 1 8 1 -w 1 0 1 -1s 1 1 1 -1r 2 0 1 -1q 1 0 1 -1l 4 0 1 -1b
     1 0 1 -1i 1 0 1 -8 2 m 2 -1 1 0 1 -2e 1 0 1 -28 1 0 1 7 1 0 1 -38 2 0 1 -2o 3 0 1 -1 3 0 1 -1 1h v 1
     -w 1 f 1 -28 2 w 2 -1 a 1g 2 -1 3 c 2 -1 1 0 1 -f 2 2m 2 -1 1e 11 1 -1c 2uq 5 1 -8 1oj 0 1 -4tq 1 0
     1 -4tp 1 0 1 -4tg 1 1 1 -4te 1 0 1 -4tf 1 0 1 -4t8 1 0 1 -4rp 1 0 1 r7m 6p 0 1 r9g 4 0 1 2xy h 0 1
     raw 37 44 2 -1 6 0 1 -1n 6 2m 2 -1 1 7 1 8 9 5 1 8 b 7 1 8 9 7 1 8 9 5 1 8 c 6 2 8 9 7 1 8 9 1 1 22
     1 3 1 2e 1 1 1 2s 1 1 1 3k 1 1 1 34 1 1 1 3i 3 7 1 8 9 7 1 8 9 7 1 8 9 1 1 8 2 0 1 9 b 0 1 -5k5 5 0
     1 9 d 1 1 8 f 1 1 8 4 0 1 7 e 0 1 9 9n 0 1 -s y f 1 -g 5 0 1 -1 ng p 1 -q 1fr 1b 1 -1c 2 0 1 -1 4 0
     1 -8bv 1 0 1 -8bs 2 4 2 -1 7 0 1 -1 3 0 1 -1 b 2q 2 -1 9 2 2 -1 5 0 1 -1 d 11 1 -5ls 2 0 1 -5ls 6 0
     1 -5ls nx0 18 2 -1 k q 2 -1 3s c 2 -1 4 1o 2 -1 b 2 2 -1 3 8 2 -1 5 0 1 -1 5 2 2 -1 1 0 1 1c 3 i 2
     -1 c e 2 -1 5 2 2 -1 7 0 1 -1 6 2 2 -1 t 0 1 -1 nx 0 1 -ps t 27 1 -tzk ghu p 1 -w y6 13 1 -14 3t z 1
     -14 4c a 1 -13 2 e 1 -13 2 6 1 -13 2 1 1 -13 1dw 1e 1 -1s 2by v 1 -w gw1 v 1 -w o83 x 1 -y"

def titleLonger : Array (Nat × List Char) :=
  readLongerForms
    "67.2b.37 95.jg.26 ds.22.lo pc.pl.lk.ld q8.px.lk.ld 13b.111.136 61i.20.mp 61j.2c.lk 61k.2f.lm
     61l.2h.lm 61m.1t.ji 66o.px.lv 66q.px.lv.lc 66s.px.lv.ld 66u.px.lv.n6 69e.69m.n9 69g.p2.n9 69i.pd.n6
     69j.pd.n6.n9 69u.6a2.n9 69w.p5.n9 69y.pj.n6 69z.pj.n6.n9 6aa.pl.lk.lc 6ab.pl.lk.ld 6ae.pl.n6
     6af.pl.lk.n6 6aq.px.lk.lc 6ar.px.lk.ld 6as.pt.lv 6au.px.n6 6av.px.lk.n6 6b6.6be.n9 6b8.pb.n9
     6ba.q1.n6 6bb.q1.n6.n9 1dkw.1y.2u 1dkx.1y.2x 1dky.1y.30 1dkz.1y.2u.2x 1dl0.1y.2u.30 1dl1.2b.38
     1dl2.2b.38 1dlf.11g.12u 1dlg.11g.12d 1dlh.11g.12j 1dli.11q.12u 1dlj.11g.12l"

def foldRuns : Array CaseRun :=
  readCaseRuns
    "1t p 1 w 2j 0 1 lj b m 1 w 2 6 1 w y 1a 2 1 4 4 2 1 3 e 2 1 3 18 2 1 2 0 1 -3d 1 4 2 1 2 0 1 -7g 2 0
     1 5u 1 2 2 1 2 0 1 5q 1 0 1 1 2 1 1 5p 1 0 1 1 3 0 1 27 1 0 1 5m 1 0 1 5n 1 0 1 1 2 0 1 5p 1 0 1 5r
     2 0 1 5v 1 0 1 5t 1 0 1 1 4 0 1 5v 1 0 1 5x 2 0 1 5y 1 4 2 1 2 0 1 62 1 0 1 1 2 0 1 62 3 0 1 1 2 0 1
     62 1 0 1 1 2 1 1 61 1 2 2 1 2 0 1 63 1 0 1 1 4 0 1 1 8 0 1 2 1 0 1 1 2 0 1 2 1 0 1 1 2 0 1 2 1 g 2 1
     3 g 2 1 3 0 1 2 1 2 2 1 2 0 1 -2p 1 0 1 -1k 1 12 2 1 2 0 1 -3m 2 g 2 1 8 0 1 8bv 1 0 1 1 2 0 1 -4j 1
     0 1 8bs 3 0 1 1 2 0 1 -5f 1 0 1 1x 1 0 1 1z 1 8 2 1 6v 0 1 38 17 2 2 1 4 0 1 1 9 0 1 38 7 0 1 12 2 2
     1 11 2 0 1 1s 2 1 1 1r 2 g 1 w 2 8 1 w n 0 1 1 d 0 1 8 1 0 1 -u 1 0 1 -p 4 0 1 -f 1 0 1 -m 2 m 2 1 2
     0 1 -1i 1 0 1 -1c 3 0 1 -1o 1 0 1 -1s 2 0 1 1 2 0 1 -7 1 0 1 1 3 2 1 -3m 1 f 1 28 1 v 1 w 1d w 2 1 a
     1g 2 1 2 0 1 f 1 c 2 1 3 2m 2 1 3 11 1 1c 28a 11 1 5ls 2 0 1 5ls 6 0 1 5ls mj 5 1 -8 1oj 0 1 -4su 1
     0 1 -4st 1 0 1 -4sk 1 1 1 -4si 1 0 1 -4sj 1 0 1 -4sc 1 0 1 -4ro 1 0 1 r7n 8 16 1 -2bk 3 2 1 -2bk 8x
     44 2 1 7 0 1 -1m 5 2m 2 1 a 7 1 -8 9 5 1 -8 b 7 1 -8 9 7 1 -8 9 5 1 -8 c 6 2 -8 9 7 1 -8 21 1 1 -8 1
     1 1 -22 3 0 1 -5j9 a 3 1 -2e d 1 1 -8 1 1 1 -2s d 1 1 -8 1 1 1 -34 1 0 1 -7 c 1 1 -3k 1 1 1 -3i 8b 0
     1 -5st 4 0 1 -6gv 1 0 1 -6di 7 0 1 s 1a f 1 g k 0 1 1 mr p 1 q 1f5 1b 1 1c 1d 0 1 1 2 0 1 -8af 1 0 1
     -2xy 1 0 1 -89z 3 4 2 1 2 0 1 -8bg 1 0 1 -8al 1 0 1 -8bj 1 0 1 -8bi 2 0 1 1 3 0 1 1 9 1 1 -8cf 1 2q
     2 1 9 2 2 1 5 0 1 1 nym 18 2 1 k q 2 1 3s c 2 1 4 1o 2 1 b 2 2 1 2 0 1 -r9g 1 8 2 1 5 0 1 1 2 0 1
     -wmg 3 2 2 1 4 i 2 1 2 0 1 -wn8 1 0 1 -wnj 1 0 1 -wnf 1 0 1 -wn5 1 0 1 -wn8 2 0 1 -wlu 1 0 1 -wmi 1
     0 1 -wlx 1 0 1 ps 1 e 2 1 2 0 1 -1c 1 0 1 -wn7 1 0 1 -raw 1 2 2 1 7 0 1 1 6 2 2 1 t 0 1 1 or 27 1
     -tzk ggy p 1 w xy 13 1 14 3t z 1 14 4d a 1 13 2 e 1 13 2 6 1 13 2 1 1 13 1d7 1e 1 1s 2cu v 1 w gw1 v
     1 w o81 x 1 y"

def foldLonger : Array (Nat × List Char) :=
  readLongerForms
    "67.37.37 8g.2x.lj 95.jg.32 ds.2y.lo pc.qh.lk.ld q8.qt.lk.ld 13b.12d.136 61i.2w.mp 61j.38.lk
     61k.3b.lm 61l.3d.lm 61m.2p.ji 61q.37.37 66o.qt.lv 66q.qt.lv.lc 66s.qt.lv.ld 66u.qt.lv.n6 680.64g.qh
     681.64h.qh 682.64i.qh 683.64j.qh 684.64k.qh 685.64l.qh 686.64m.qh 687.64n.qh 688.64g.qh 689.64h.qh
     68a.64i.qh 68b.64j.qh 68c.64k.qh 68d.64l.qh 68e.64m.qh 68f.64n.qh 68g.65c.qh 68h.65d.qh 68i.65e.qh
     68j.65f.qh 68k.65g.qh 68l.65h.qh 68m.65i.qh 68n.65j.qh 68o.65c.qh 68p.65d.qh 68q.65e.qh 68r.65f.qh
     68s.65g.qh 68t.65h.qh 68u.65i.qh 68v.65j.qh 68w.674.qh 68x.675.qh 68y.676.qh 68z.677.qh 690.678.qh
     691.679.qh 692.67a.qh 693.67b.qh 694.674.qh 695.675.qh 696.676.qh 697.677.qh 698.678.qh 699.679.qh
     69a.67a.qh 69b.67b.qh 69e.67k.qh 69f.q9.qh 69g.q4.qh 69i.q9.n6 69j.q9.n6.qh 69o.q9.qh 69u.67o.qh
     69v.qf.qh 69w.q6.qh 69y.qf.n6 69z.qf.n6.qh 6a4.qf.qh 6aa.qh.lk.lc 6ab.qh.lk.ld 6ae.qh.n6
     6af.qh.lk.n6 6aq.qt.lk.lc 6ar.qt.lk.ld 6as.qp.lv 6au.qt.n6 6av.qt.lk.n6 6b6.67w.qh 6b7.qx.qh
     6b8.r2.qh 6ba.qx.n6 6bb.qx.n6.qh 6bg.qx.qh 1dkw.2u.2u 1dkx.2u.2x 1dky.2u.30 1dkz.2u.2u.2x
     1dl0.2u.2u.30 1dl1.37.38 1dl2.37.38 1dlf.12s.12u 1dlg.12s.12d 1dlh.12s.12j 1dli.132.12u 1dlj.12s.12l"

def findCaseRun? (runs : Array CaseRun) (code : Nat) : Option CaseRun :=
  runs.find? fun run => run.first ≤ code && code ≤ run.last && (code - run.first) % run.step = 0

/-- The image of a character under a map given by its runs and its longer forms. -/
def mapCase (runs : Array CaseRun) (longer : Array (Nat × List Char)) (character : Char) : List Char :=
  let code := character.toNat
  match longer.find? (·.1 = code) with
  | some (_, forms) => forms
  | none =>
      match findCaseRun? runs code with
      | some run => [Char.ofNat (code + run.shift).toNat]
      | none => [character]

def lowerForm (character : Char) : List Char :=
  if character.toNat < 0x80 then [character.toLower] else mapCase lowerRuns lowerLonger character

def upperForm (character : Char) : List Char :=
  if character.toNat < 0x80 then [character.toUpper] else mapCase upperRuns upperLonger character

def titleForm (character : Char) : List Char :=
  if character.toNat < 0x80 then [character.toUpper] else mapCase titleRuns titleLonger character

/-- The form for comparing texts without regard to case. -/
def foldForm (character : Char) : List Char :=
  if character.toNat < 0x80 then [character.toLower] else mapCase foldRuns foldLonger character

def isLower (character : Char) : Bool := inClass lowerRanges Char.isLower character

def isUpper (character : Char) : Bool := inClass upperRanges Char.isUpper character

def isTitle (character : Char) : Bool := inClass titleRanges (fun _ => false) character

def isCased (character : Char) : Bool := isLower character || isUpper character || isTitle character

def isCaseIgnorable (character : Char) : Bool := caseIgnorableRanges.contains character.toNat

/-- A capital sigma is final when a cased character stands before it and none after it. -/
def sigmaIsFinal (before after : List Char) : Bool :=
  (before.find? fun character => !isCaseIgnorable character).any isCased &&
    !(after.find? fun character => !isCaseIgnorable character).any isCased

/-- The lower case of a text, with what stands before it, nearest first. -/
def lowerAfter (before : List Char) : List Char → List Char
  | [] => []
  | character :: rest =>
      let form :=
        if character = 'Σ' then (if sigmaIsFinal before rest then ['ς'] else ['σ'])
        else lowerForm character
      form ++ lowerAfter (character :: before) rest

def lowerText (text : List Char) : List Char := lowerAfter [] text

def upperText (text : List Char) : List Char := text.flatMap upperForm

def foldText (text : List Char) : List Char := text.flatMap foldForm

/-- The first character in title case, the others in lower case. -/
def capitalizeText : List Char → List Char
  | [] => []
  | first :: rest => titleForm first ++ lowerAfter [first] rest

/-- Every word in title case: a cased character after an uncased one starts a word. -/
def titleTextAfter (before : List Char) (inWord : Bool) : List Char → List Char
  | [] => []
  | character :: rest =>
      let form :=
        if !inWord then titleForm character
        else if character = 'Σ' then (if sigmaIsFinal before rest then ['ς'] else ['σ'])
        else lowerForm character
      form ++ titleTextAfter (character :: before) (isCased character) rest

def titleText (text : List Char) : List Char := titleTextAfter [] false text

/-- Lower case for upper case and the reverse. -/
def swapCaseAfter (before : List Char) : List Char → List Char
  | [] => []
  | character :: rest =>
      let form :=
        if isUpper character then
          if character = 'Σ' then (if sigmaIsFinal before rest then ['ς'] else ['σ'])
          else lowerForm character
        else if isLower character then upperForm character
        else [character]
      form ++ swapCaseAfter (character :: before) rest

def swapCaseText (text : List Char) : List Char := swapCaseAfter [] text

end LiveShell.Text

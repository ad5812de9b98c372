import LiveShell.Text.Ranges

/-!
Classes of characters over all of Unicode, each a table of ranges: what may start and continue a name,
letters, the three widths of "digit", blanks, and what a quoted text shows as itself.
-/

namespace LiveShell.Text

def nameStartRanges : Ranges :=
  Ranges.ofText
    "1t p 5 0 2 p 1c 0 b 0 5 0 6 m 2 u 2 cp 5 b f 4 8 0 2 0 3m 4 2 1 4 2 2 0 7 0 2 2 2 0 2 j 2 2a 2 3u 9
     4l 2 11 3 0 7 14 20 q 5 3 1a 16 10 1 2 2q 2 0 g 1 8 1 b 2 3 0 h 0 2 t u 2g c 0 p w a 1 5 0 6 l 5 0 a
     0 4 0 o o 8 a 6 n 2 5 i 15 1n 1h 4 0 j 0 8 9 g f 5 7 3 1 3 l 2 6 2 0 4 3 4 0 h 0 e 1 2 2 f 1 b 0 9 5
     5 1 3 l 2 6 2 1 2 1 2 1 w 3 2 0 k 2 h 8 2 2 2 l 2 6 2 1 2 4 4 0 j 0 g 1 o 0 c 7 3 1 3 l 2 6 2 1 2 4
     4 0 v 1 2 2 g 0 i 0 2 5 4 2 2 3 4 1 2 0 2 1 4 1 4 2 4 b n 0 1h 7 2 2 2 m 2 f 4 0 r 2 3 0 3 1 v 0 5 7
     2 2 2 m 2 9 2 4 4 0 w 1 2 1 g 1 i 8 2 2 2 14 3 0 h 0 6 2 9 2 p 5 6 h 4 n 2 8 2 0 3 6 1n 1b 2 0 e 6
     1n 1 2 0 2 4 2 n 2 0 2 9 2 0 b 0 3 4 2 0 m 3 x 0 1s 7 2 z s 4 38 16 l 0 h 5 5 3 4 0 4 1 8 2 5 c d 0
     i 11 2 0 6 0 3 16 2 98 2 3 3 6 2 0 2 3 3 14 2 3 3 w 2 3 3 6 2 0 2 3 3 e 2 1k 2 3 3 1u 12 f h 2d 3 5
     4 h7 3 g 2 p 6 22 4 a 8 h e i f h f c 2 2 g 1f 10 0 5 0 1w 2g 8 14 2 0 6 1x b u 1e t 3 4 c 17 5 p 1j
     m a 1g 2b 0 2m 1a i 7 1j t e 1 b 17 r z 16 2 b z 3 8 8 16 3 2 16 3 2 5 2 1 4 0 6 5b 1t 7p 3 5 3 11 3
     5 3 7 2 0 2 0 2 0 2 u 3 1g 2 6 2 0 4 2 2 6 4 3 3 5 5 c 6 2 2 6 39 0 e 0 h c 2u 0 5 0 3 9 2 0 3 5 7 0
     2 0 2 0 2 f 3 3 6 4 5 0 i 14 22g 6c 7 3 4 1 d 11 2 0 6 0 3 1j 8 0 h m a 6 2 6 2 6 2 6 2 6 2 6 2 6 2
     6 fb 2 q 8 8 4 3 4 5 2d 7 2 2 2h 2 3 6 16 2 2l i v 1d f e9 533 1t h3g 1w 19 3 7g 4 f b 1 l 1a h u 3
     27 14 8 3 2u 3 1r 6 1 2 0 2 4 p f 2 2 2 3 2 m u 1f f 1d 1r 5 4 0 2 1 c r b m q s 8 1a t 0 h 4 2 9 b
     4 2 14 o 2 2 7 l m 4 0 4 1d 2 0 4 1 3 4 3 0 2 0 p 2 3 a 8 2 d 5 3 5 3 5 a 6 2 6 2 16 2 d 7 36 u 8mb
     d m 5 1c 6it a5 3 2x 13 6 d 4 6 0 2 9 2 c 2 4 2 0 2 1 2 1 2 2z y 3u 7 61 j 1r 3 1h 15 9 3c 0 2 0 4 0
     2 0 2 0 2 0 2 3h 11 p 7 p c 1j 3 u 4 5 3 5 3 5 3 2 10 b 2 p 2 i 2 1 2 e 3 d z 3e 1y 1g 7g s 4 1c 1c
     v e t 6 11 b t 3 z 5 7 2 4 17 4d j z 5 z 5 13 9 1f d a 2 e 2 6 2 1 2 a 2 e 2 6 2 1 1w 8m a l b 7 p 5
     2 15 2 8 1y 5 3 0 2 17 2 1 4 0 3 m b m a u 1u i 2 1 b l b p 1z 1j 7 1 1t 0 g 3 2 2 2 s 17 s 4 s 10 7
     2 r s 1h b l b i e h 33 20 1k 1e e 1e e z 9p 15 7 1 27 s b 0 9 l 17 h 1b k s m d 1g 1m 1 3 0 e 18 x
     o r z u 0 3 0 9 y 4 0 d 1b f 3 m 0 2 0 10 h 2 o 2d 6 2 0 2 3 2 e 2 9 8 1a 13 7 3 1 3 l 2 6 2 1 2 4 4
     0 j 0 d 4 4f 1g j 3 l 2 v 1b l 1 2 0 55 1a 16 3 11 1b l 0 1o 16 e 0 20 q 12 6 56 17 39 1r w 7 3 0 3
     7 2 1 2 n g 0 2 0 2n 7 3 12 h 0 2 0 t 0 b 13 8 0 m 0 c 19 k 0 j 20 7c 8 2 10 i 0 1e t 35 6 2 1 2 11
     m 0 q 5 2 1 2 v f 0 94 i 5a 0 28 pl 2v 32 i 5f 219 2o g tq 34i g6 6nu fs 8 u i 26 i t j 1b h 3 w k 6
     i j5 1r 3l 22 6 0 1v c 1t 1 2 0 t 4qf 9 yd 17 8 6w8 3 2 6 2 1 2 82 1a 2 i 3 9 az 1s5 2y 6 c 4 8 8 9
     4mf 2c 2 1y 2 1 3 0 3 1 3 3 2 b 2 0 2 6 2 1s 2 3 3 7 2 6 2 r 2 3 2 4 2 0 4 6 2 9f 3 o 2 o 2 u 2 o 2
     u 2 o 2 u 2 o 2 u 2 o 2 7 1f9 u de 18 b 6 h 0 8y t j 17 z9 6 2 3 2 1 2 e 2 5g 1o 1v 8 0 xh 3 2 q 2 1
     2 0 3 0 2 9 2 3 2 0 2 0 7 0 5 0 2 0 2 0 2 2 2 1 2 0 3 0 2 0 2 0 2 0 2 0 2 1 2 0 3 3 2 6 2 3 2 3 2 0
     2 9 2 g 6 2 2 4 2 g 3et wyn x 37c 8 65 3 4g1 f 5rk 2e8 f1 15v 3t6"

def nameContinueRanges : Ranges :=
  Ranges.ofText
    "1c 9 8 p 5 0 2 p 1c 0 b 0 2 0 3 0 6 m 2 u 2 cp 5 b f 4 8 0 2 0 i 38 2 1 4 2 2 0 7 4 2 0 2 j 2 2a 2
     3u 2 4 3 4l 2 11 3 0 7 14 9 18 2 0 2 1 2 1 2 0 9 q 5 3 u a 6 21 5 2t 2 7 3 9 2 i 3 0 h 1m 3 2s f 1h
     5 0 3 0 3 19 j r 5 a 6 n 2 5 a 21 2 3k 3 9 2 i 2 7 3 1 3 l 2 6 2 0 4 3 3 8 3 1 3 3 9 0 5 1 2 4 3 b b
     0 2 0 3 2 2 5 5 1 3 l 2 6 2 1 2 1 2 1 3 0 2 4 5 1 3 2 4 0 8 3 2 0 8 f c 2 2 8 2 2 2 l 2 6 2 1 2 4 3
     9 2 2 2 2 3 0 g 3 3 9 a 6 2 2 2 7 3 1 3 l 2 6 2 1 2 4 3 8 3 1 3 2 8 2 5 1 2 4 3 9 2 0 h 1 2 5 4 2 2
     3 4 1 2 0 2 1 4 1 4 2 4 b 5 4 4 2 2 3 3 0 7 0 f 9 h c 2 2 2 m 2 f 3 8 2 2 2 3 8 1 2 2 3 0 3 3 3 9 h
     3 2 7 2 2 2 m 2 9 2 4 3 8 2 2 2 3 8 1 7 1 2 3 3 9 2 1 e c 2 2 2 1e 2 2 2 4 6 3 8 4 3 9 b 5 2 2 2 h 4
     n 2 8 2 0 3 6 4 0 5 5 2 0 2 7 7 9 3 1 e 1l 6 e 2 9 14 1 2 0 2 4 2 n 2 0 2 m 3 4 2 0 2 5 3 9 3 3 x 0
     o 1 7 9 c 0 2 0 2 0 5 9 2 z 5 j 2 h 2 z a 0 1m 21 7 25 3 11 2 0 6 0 3 16 2 98 2 3 3 6 2 0 2 3 3 14 2
     3 3 w 2 3 3 6 2 0 2 3 3 e 2 1k 2 3 3 1u 3 2 a 8 f f h 2d 3 5 4 h7 3 g 2 p 6 22 4 a 8 l a l c j d c 2
     2 2 1 d 2b 4 0 5 1 3 9 y 2 2 a 7 2g 8 16 6 1x b u 2 b 5 b b 13 3 4 c 17 5 p 7 a 12 r 5 1q 2 s 3 a 7
     9 e 0 9 d 2 f 1e 24 4 9 i 8 d 37 d 1j 9 9 4 1c 3 8 8 16 3 2 h 2 2 12 6 et 3 5 3 11 3 5 3 7 2 0 2 0 2
     0 2 u 3 1g 2 6 2 0 4 2 2 6 4 3 3 5 5 c 6 2 2 6 1v 1 k 0 t 0 e 0 h c 1g c 5 0 4 b i 0 5 0 3 9 2 0 3 5
     7 0 2 0 2 0 2 f 3 3 6 4 5 0 i 14 22g 6c 7 8 d 11 2 0 6 0 3 1j 8 0 g n a 6 2 6 2 6 2 6 2 6 2 6 2 6 2
     6 2 v ee 2 q e 2 4 3 4 5 2d 3 1 3 2 2 2h 2 3 6 16 2 2l i v 1d f e9 533 1t h3g 1w 19 3 7g 4 r l 1b 5
     9 2 36 12 8 3 2u 3 1r 6 1 2 0 2 4 p 1h 5 0 k 1f d 1x b 9 7 n 4 0 2 1c 3 z d s 4 1s f a 7 u 2 1i a d
     3 9 7 m 4 20 p 2 3 f 3 4 b 5 3 5 3 5 a 6 2 6 2 16 2 d 7 3e 2 1 3 9 7 8mb d m 5 1c 6it a5 3 2x 13 6 d
     4 6 b 2 c 2 4 2 0 2 1 2 1 2 2z y 3u 7 61 j 1r 3 1h 15 9 7 f h f 4 1 p 2 y 0 2 0 4 0 2 0 2 0 2 0 2 3h
     k 9 8 p 5 0 2 p c 2g 4 5 3 5 3 5 3 2 10 b 2 p 2 i 2 1 2 e 3 d z 3e 1y 1g 3t 0 3n s 4 1c g 0 w v e t
     6 16 6 t 3 z 5 7 2 4 17 4d 3 9 7 z 5 z 5 13 9 1f d a 2 e 2 6 2 1 2 a 2 e 2 6 2 1 1w 8m a l b 7 p 5 2
     15 2 8 1y 5 3 0 2 17 2 1 4 0 3 m b m a u 1u i 2 1 b l b p 1z 1j 7 1 1t 3 2 1 6 7 2 2 2 s 3 2 5 0 x s
     4 s 10 7 2 t q 1h b l b i e h 33 20 1k 1e e 1e e 13 9 9 93 15 2 1 4 1 27 s b 0 9 w w l 17 k s m a 1y
     w f a 1n 8 0 e o 8 9 7 1g 2 9 5 3 9 z 3 0 a 1w 5 3 2 c 2 0 10 h 2 10 7 0 1u 6 2 0 2 3 2 e 2 9 8 1m 6
     9 7 3 2 7 3 1 3 l 2 6 2 1 2 4 2 9 3 1 3 2 3 0 7 0 6 6 3 6 4 4 3w 22 6 9 5 3 v 1x 2 0 9 9 4n 1h 3 8 o
     5 z 1s 4 0 c 9 13 1k 8 9 1j q 3 e 5 9 7 6 56 1m 2u 21 m 7 3 0 3 7 2 1 2 t 2 1 3 8 d 9 1z 7 3 19 3 7
     2 1 s 1q 9 0 9 21 4 0 j 20 7c 8 2 18 2 8 g 9 p t 3 l 2 d 22 6 2 1 2 17 4 0 2 1 2 8 9 9 7 5 2 1 2 10
     2 1 2 5 8 9 8n m 56 0 28 pl 2v 32 i 5f 219 2o g tq 34i g6 6nu fs 8 u 2 9 7 26 2 9 7 t 3 4 c 1i a 3 d
     9 a k 6 i j5 1r 3l 22 5 1k 8 g 1t 1 2 1 c 1 f 4qf 9 yd 17 8 6w8 3 2 6 2 1 2 82 1a 2 i 3 9 az 1s5 2y
     6 c 4 8 8 9 4 1 3mq 19 3 m f3 4 4 5 9 7 3 6 v 3 45 2 cc 2c 2 1y 2 1 3 0 3 1 3 3 2 b 2 0 2 6 2 1s 2 3
     3 7 2 6 2 r 2 3 2 4 2 0 4 6 2 9f 3 o 2 o 2 u 2 o 2 u 2 o 2 u 2 o 2 u 2 o 2 7 3 1d e9 1i 5 1d 9 0 f 0
     n 4 2 e up u 6a 6 2 g 3 6 2 1 2 4 5y 18 4 d 3 9 5 0 8y u i 1l yv 6 2 3 2 1 2 e 2 5g c 6 16 23 5 9 x3
     3 2 q 2 1 2 0 3 0 2 9 2 3 2 0 2 0 7 0 5 0 2 0 2 0 2 2 2 1 2 0 3 0 2 0 2 0 2 0 2 0 2 1 2 0 3 3 2 6 2
     3 2 3 2 0 2 9 2 g 6 2 2 4 2 g 2lx 9 sn wyn x 37c 8 65 3 4g1 f 5rk 2e8 f1 15v 3t6 fcmu 6n"

def letterRanges : Ranges :=
  Ranges.ofText
    "1t p 7 p 1c 0 b 0 5 0 6 m 2 u 2 cp 5 b f 4 8 0 2 0 3m 4 2 1 3 3 2 0 7 0 2 2 2 0 2 j 2 2a 2 3u 9 4l 2
     11 3 0 7 14 20 q 5 3 1a 16 10 1 2 2q 2 0 g 1 8 1 b 2 3 0 h 0 2 t u 2g c 0 p w a 1 5 0 6 l 5 0 a 0 4
     0 o o 8 a 6 n 2 5 i 15 1n 1h 4 0 j 0 8 9 g f 5 7 3 1 3 l 2 6 2 0 4 3 4 0 h 0 e 1 2 2 f 1 b 0 9 5 5 1
     3 l 2 6 2 1 2 1 2 1 w 3 2 0 k 2 h 8 2 2 2 l 2 6 2 1 2 4 4 0 j 0 g 1 o 0 c 7 3 1 3 l 2 6 2 1 2 4 4 0
     v 1 2 2 g 0 i 0 2 5 4 2 2 3 4 1 2 0 2 1 4 1 4 2 4 b n 0 1h 7 2 2 2 m 2 f 4 0 r 2 3 0 3 1 v 0 5 7 2 2
     2 m 2 9 2 4 4 0 w 1 2 1 g 1 i 8 2 2 2 14 3 0 h 0 6 2 9 2 p 5 6 h 4 n 2 8 2 0 3 6 1n 1b 2 1 d 6 1n 1
     2 0 2 4 2 n 2 0 2 9 2 1 a 0 3 4 2 0 m 3 x 0 1s 7 2 z s 4 38 16 l 0 h 5 5 3 4 0 4 1 8 2 5 c d 0 i 11
     2 0 6 0 3 16 2 98 2 3 3 6 2 0 2 3 3 14 2 3 3 w 2 3 3 6 2 0 2 3 3 e 2 1k 2 3 3 1u 12 f h 2d 3 5 4 h7
     3 g 2 p 6 22 7 7 8 h e i f h f c 2 2 g 1f 10 0 5 0 1w 2g 8 4 3 x 2 0 6 1x b u 1e t 3 4 c 17 5 p 1j m
     a 1g 2b 0 2m 1a i 7 1j t e 1 b 17 r z 16 2 b z 3 8 8 16 3 2 16 3 2 5 2 1 4 0 6 5b 1t 7p 3 5 3 11 3 5
     3 7 2 0 2 0 2 0 2 u 3 1g 2 6 2 0 4 2 2 6 4 3 3 5 5 c 6 2 2 6 39 0 e 0 h c 2u 0 5 0 3 9 2 0 4 4 7 0 2
     0 2 0 2 3 2 a 3 3 6 4 5 0 1h 1 22k 6c 7 3 4 1 d 11 2 0 6 0 3 1j 8 0 h m a 6 2 6 2 6 2 6 2 6 2 6 2 6
     2 6 29 0 d2 1 17 4 6 1 5 2d 7 2 2 2h 2 3 6 16 2 2l i v 1d f e9 533 1t h3g 1w 19 3 7g 4 f b 1 l 1a h
     u 3 1x 1e 8 3 2u 3 1r 6 1 2 0 2 4 p f 2 2 2 3 2 m u 1f f 1d 1r 5 4 0 2 1 c r b m q s 8 1a t 0 h 4 2
     9 b 4 2 14 o 2 2 7 l m 4 0 4 1d 2 0 4 1 3 4 3 0 2 0 p 2 3 a 8 2 d 5 3 5 3 5 a 6 2 6 2 16 2 d 7 36 u
     8mb d m 5 1c 6it a5 3 2x 13 6 d 4 6 0 2 9 2 c 2 4 2 0 2 1 2 1 2 2z y a2 j 1r 3 1h 15 b 39 4 2 3q 11
     p 7 p c 2g 4 5 3 5 3 5 3 2 10 b 2 p 2 i 2 1 2 e 3 d z 3e au s 4 1c 1c v e j 2 7 7 11 b t 3 z 5 7 1d
     4d j z 5 z 5 13 9 1f d a 2 e 2 6 2 1 2 a 2 e 2 6 2 1 1w 8m a l b 7 p 5 2 15 2 8 1y 5 3 0 2 17 2 1 4
     0 3 m b m a u 1u i 2 1 b l b p 1z 1j 7 1 1t 0 g 3 2 2 2 s 17 s 4 s 10 7 2 r s 1h b l b i e h 33 20
     1k 1e e 1e e z 9p 15 7 1 27 s b 0 9 l 17 h 1b k s m d 1g 1m 1 3 0 e 18 x o r z u 0 3 0 9 y 4 0 d 1b
     f 3 m 0 2 0 10 h 2 o 2d 6 2 0 2 3 2 e 2 9 8 1a 13 7 3 1 3 l 2 6 2 1 2 4 4 0 j 0 d 4 4f 1g j 3 l 2 v
     1b l 1 2 0 55 1a 16 3 11 1b l 0 1o 16 e 0 20 q 12 6 56 17 39 1r w 7 3 0 3 7 2 1 2 n g 0 2 0 2n 7 3
     12 h 0 2 0 t 0 b 13 8 0 m 0 c 19 k 0 j 20 7c 8 2 10 i 0 1e t 35 6 2 1 2 11 m 0 q 5 2 1 2 v f 0 94 i
     5a 0 28 pl 6f 5f 219 2o g tq 34i g6 6nu fs 8 u i 26 i t j 1b h 3 w k 6 i j5 1r 3l 22 6 0 1v c 1t 1 2
     0 t 4qf 9 yd 17 8 6w8 3 2 6 2 1 2 82 1a 2 i 3 9 az 1s5 2y 6 c 4 8 8 9 4mf 2c 2 1y 2 1 3 0 3 1 3 3 2
     b 2 0 2 6 2 1s 2 3 3 7 2 6 2 r 2 3 2 4 2 0 4 6 2 9f 3 o 2 o 2 u 2 o 2 u 2 o 2 u 2 o 2 u 2 o 2 7 1f9
     u de 18 b 6 h 0 8y t j 17 z9 6 2 3 2 1 2 e 2 5g 1o 1v 8 0 xh 3 2 q 2 1 2 0 3 0 2 9 2 3 2 0 2 0 7 0 5
     0 2 0 2 0 2 2 2 1 2 0 3 0 2 0 2 0 2 0 2 0 2 1 2 0 3 3 2 6 2 3 2 3 2 0 2 9 2 g 6 2 2 4 2 g 3et wyn x
     37c 8 65 3 4g1 f 5rk 2e8 f1 15v 3t6"

/-- Every range of decimal digits has a multiple of ten characters, counting from zero. -/
def decimalRanges : Ranges :=
  Ranges.ofText
    "1c 9 17r 9 3r 9 5j 9 bh 9 3b 9 3b 9 3b 9 3b 9 3b 9 3b 9 3b 9 3b 9 3b 9 2p 9 3b 9 1z 9 7r 9 1z 9 1fr
     9 13 9 8d 9 3l 9 4n 9 7 9 53 9 2f 9 3r 9 7 9 r7r 9 iv 9 13 9 5j 9 n 9 2f 9 bb 9 gev 9 13b 9 1on 9 ml
     9 3l 9 1p 9 41 9 7r 9 9j 9 3b 9 af 9 2v 9 2v 9 br 9 2v 9 l3 9 6v 9 1z 9 f5j 9 2f 9 3r 9 lf9 1d 1tt 9
     br 9 193 9 3o7 9"

def digitRanges : Ranges :=
  Ranges.ofText
    "1c 9 3d 1 6 0 147 9 3r 9 5j 9 bh 9 3b 9 3b 9 3b 9 3b 9 3b 9 3b 9 3b 9 3b 9 3b 9 2p 9 3b 9 1z 9 7r 9
     1z 9 k0 8 vj 9 13 9 8d 9 3l a 4m 9 7 9 53 9 2f 9 3r 9 7 9 t3 0 4 5 7 9 rb 8 c 8 c 8 2i 0 b 8 2 0 hj
     8 2 8 2 8 ozy 9 iv 9 13 9 5j 9 n 9 2f 9 bb 9 gev 9 13b 9 13r 3 kt 9 87 8 dm 8 c 9 3l 9 1p 9 41 9 7r
     9 9j 9 3b 9 af 9 2v 9 2v 9 br 9 2v 9 l3 9 6v 9 1z 9 f5j 9 2f 9 3r 9 lf9 1d 1tt 9 br 9 193 9 1if a
     25i 9"

def numericRanges : Ranges :=
  Ranges.ofText
    "1c 9 3d 1 6 0 3 2 142 9 3r 9 5j 9 bh 9 3b 9 5 5 31 9 3b 9 3b 9 3 5 33 c 38 9 9 6 2w 9 2x 6 8 i 32 9
     2p 9 3b 9 1z j 7h 9 1z 9 k0 j oi 2 6o 9 7 9 n 9 8d 9 3l a 4m 9 7 9 53 9 2f 9 3r 9 7 9 t3 0 4 5 7 9
     5j 1e 3 4 k7 1n 27 l hj t 12i 0 lm 0 q 8 f 2 9k 3 3v 9 v 7 2 e x 9 14 e 92 0 3i 0 pz 0 mb 0 3oz 0 3
     0 4 0 2 0 2c 0 1b 0 8 0 2 0 15 1 v 0 9 0 11 0 2r 0 b8 0 1u 0 z 0 2 0 2 0 d0 0 2 2 7 0 39 3 lz 0 eu 0
     8 0 135 0 3o 1 d 2 2 0 ry 0 26 0 w6 0 1f8 0 wg 0 ko 0 1zc 0 py 0 1oi 0 5 0 3h 0 1rl 0 11 0 6 0 18 0
     3i 0 2zu 9 59 9 8x 5 4b 9 13 9 5j 9 n 9 2f 9 bb 9 faq 0 8 0 5 0 1m 0 v 0 2 0 16 0 103 9 dq 18 d 1k i
     1 9i q 11 3 u 0 9 0 3r 4 5n 9 q7 7 q 6 14 8 24 4 n 5 4h 1 3 f 3 19 1t 8 1h 1 v 2 24 4 2x 7 p 7 16 6
     97 5 1d 9 87 u 4f 9 17 3 35 6 3r t 3l 9 1p 9 41 9 8 j 70 9 9j 9 3b 9 af 9 2v 9 2v b bp i 2m 9 l3 s
     6c 9 1z 9 ev k to 32 dte 9 2f 9 3r 9 2 6 m7 m jt6 j 31 o uu 1d 1tt 9 br 9 15a 8 3l 9 m0 1m 2 2 2 3
     25 18 2 e qr c 25g 9 so 0 2r 0 3i 0 1r 0 1l5 0 2h 0 9 0 g 0 9a 0 j 0 s 0 4tz 0 16w 0 3gj 0 7rm 0 tnn
     0"

def spaceRanges : Ranges :=
  Ranges.ofText
    "9 4 f 4 2t 0 r 0 4bk 0 1vk a u 1 6 0 1c 0 335 0"

def printableRanges : Ranges :=
  Ranges.ofText
    "w 2m z b 2 jt 3 5 5 6 2 0 2 j 2 b0 2 11 3 1d 3 2 2 1i 9 q 5 5 i l 2 5b 2 1b 3 1m 3 2s f 1m 3 1c 3 e
     2 r 3 0 2 a 6 u a 21 2 4g 2 7 3 1 3 l 2 6 2 0 4 3 3 8 3 1 3 3 9 0 5 1 2 4 3 o 3 2 2 5 5 1 3 l 2 6 2
     1 2 1 2 1 3 0 2 4 5 1 3 2 4 0 8 3 2 0 8 g b 2 2 8 2 2 2 l 2 6 2 1 2 4 3 9 2 2 2 2 3 0 g 3 3 b 8 6 2
     2 2 7 3 1 3 l 2 6 2 1 2 4 3 8 3 1 3 2 8 2 5 1 2 4 3 h b 1 2 5 4 2 2 3 4 1 2 0 2 1 4 1 4 2 4 b 5 4 4
     2 2 3 3 0 7 0 f k 6 c 2 2 2 m 2 f 3 8 2 2 2 3 8 1 2 2 3 0 3 3 3 9 8 l 2 2 2 m 2 9 2 4 3 8 2 2 2 3 8
     1 7 1 2 3 3 9 2 1 e c 2 2 2 1e 2 2 2 5 5 f 3 p 2 2 2 h 4 n 2 8 2 0 3 6 4 0 5 5 2 0 2 7 7 9 3 2 d 1l
     5 s 12 1 2 0 2 4 2 n 2 0 2 m 3 4 2 0 2 5 3 9 3 3 x 1z 2 z 5 12 2 z 2 e 2 c 12 5h 2 0 6 0 3 ag 2 3 3
     6 2 0 2 3 3 14 2 3 3 w 2 3 3 6 2 0 2 3 3 e 2 1k 2 3 3 1u 3 v 4 p 7 2d 3 5 3 hr 2 r 4 2g 8 l a n a j
     d c 2 2 2 1 d 2l 3 9 7 9 7 d 2 a 7 2g 8 16 6 1x b u 2 b 5 b 5 0 4 15 3 4 c 17 5 p 7 a 4 1p 3 1s 2 s
     3 a 7 9 7 d 3 u 1e 24 4 1a 2 37 9 1n 4 e 4 1n 8 16 3 a 9 16 6 et 3 5 3 11 3 5 3 7 2 0 2 0 2 0 2 u 3
     1g 2 e 2 d 3 5 2 i 3 2 2 8 i n 9 1a i 1 3 q 2 c 4 w g w g 3v 5 ie q a m 1eb 3 v 2 9o 6 18 2 0 6 0 3
     1j 8 1 f n a 6 2 6 2 6 2 6 2 6 2 6 2 6 2 6 2 3h z p 2 2g d 5x r b 6 1q 2 2d 3 2u 6 16 2 2l 2 2b d 1a
     2 mlo 4 1i a 9n l 53 9 5m 6 1 2 0 2 4 p 1m 4 9 7 1j 9 1x 9 b 7 37 c t 4 25 2 a 5 w 2 1i a d 3 9 3 2u
     p r b 5 3 5 3 5 a 6 2 6 2 1n 5 3h 3 9 7 8mb d m 5 1c 6it a5 3 2x 13 6 d 4 6 p 2 4 2 0 2 1 2 1 2 3g h
     cc 3 1h 8 0 x 15 7 1e 2 i 2 3 5 4 2 3q 5 59 4 5 3 5 3 5 3 2 4 6 2 6 e 1 3 b 2 p 2 i 2 1 2 e 3 d z 3e
     6 2 5 18 4 2f 2 c 4 0 1c 19 3n s 4 1c g r 5 z a t 6 16 6 t 2 10 5 d 17 4d 3 9 7 z 5 z 5 13 9 1f c b
     2 e 2 6 2 1 2 a 2 e 2 6 2 1 1w 8m a l b 7 p 5 2 15 2 8 1y 5 3 0 2 17 2 1 4 0 3 m 2 1z 9 8 1d i 2 1 6
     w 4 q 6 0 1t 1j 5 j 3 1d 2 1 6 7 2 2 2 s 3 2 5 9 8 8 8 1r x 12 5 b a 1h 4 s 3 q 6 p 8 3 d 6 29 20 1k
     1e e 1e 8 19 9 9 87 u 2 15 2 2 3 1 27 13 9 15 n p 13 r l m a 25 5 z a 1p 2 4 e o 8 9 7 1g 2 h 9 12 a
     2n 2 j c h 2 17 1u 6 2 0 2 3 2 e 2 a 7 1m 6 9 7 3 2 7 3 1 3 l 2 6 2 1 2 4 2 9 3 1 3 2 3 0 7 0 6 6 3
     6 4 4 3w 2j 2 4 v 1z 9 9 4n 1h 3 11 z 1w c 9 7 c k 1l 7 9 1j q 3 e 5 m 56 1n 2t 2a d 7 3 0 3 7 2 1 2
     t 2 1 3 b a 9 1z 7 3 19 3 a s 1z 9 2a e 20 7c 8 2 18 2 d b s 4 v 3 l 2 d 22 6 2 1 2 17 4 0 2 1 2 8 9
     9 7 5 2 1 2 10 2 1 2 5 8 9 8n o 54 0 g 1d e pm 2v 32 2 4 c 5f 219 2q e tq 34i g6 6nu fs 8 u 2 9 5 28
     2 9 7 t 3 5 b 1x b 9 2 6 2 k 6 i j5 2i 2u 22 5 1k 8 g 1t 4 c 1 f 4qf 9 yd 17 8 6w8 3 2 6 2 1 2 82 1a
     2 i 3 9 az 1s5 2y 6 c 4 8 8 9 3 3 3mp 19 3 m a 37 1p 6t b 12 3 21 9 33 m 1x 4b j d 2e a o 3s 2c 2 1y
     2 1 3 0 3 1 3 3 2 b 2 0 2 6 2 1s 2 3 3 7 2 6 2 r 2 3 2 4 2 0 4 6 2 9f 3 83 3 jh g 4 2 e up u 6a 6 2
     g 3 6 2 1 2 4 5y 18 4 d 3 9 5 1 8x u i 1l 6 0 yp 6 2 3 2 1 2 e 2 5g 3 f 16 23 5 9 5 1 lu 1v 25 1o 5f
     3 2 q 2 1 2 0 3 0 2 9 2 3 2 0 2 0 7 0 5 0 2 0 2 0 2 2 2 1 2 0 3 0 2 0 2 0 2 0 2 0 2 1 2 0 3 3 2 6 2
     3 2 3 2 0 2 9 2 g 6 2 2 4 2 g 1h 1 7j 17 5 2r d e 3 e 2 e 2 10 b 4t 1l s e 17 5 8 8 1 f 5 4b rb 6 f
     4 c 4 37 d 2g 8 b 5 0 g b 5 1j 9 9 7 13 9 t 3 1 27 9f d d 3 4 4 4 4 6 a s 4 a 6 5 b 9 7 7 9 6 a 42 2
     1i 12 9 sn wyn x 37c 8 65 3 4g1 f 5rk 2e8 f1 15v 3t6 fcmu 6n"

/-- Whether a character is in a class. The first 128 characters are told without its table. -/
def inClass (ranges : Ranges) (among : Char → Bool) (character : Char) : Bool :=
  if character.toNat < 0x80 then among character else ranges.contains character.toNat

/-- A character that a name may start with. -/
def isNameStart (character : Char) : Bool :=
  inClass nameStartRanges (fun character => character.isAlpha || character = '_') character

/-- A character that a name may go on with. -/
def isNameContinue (character : Char) : Bool :=
  inClass nameContinueRanges (fun character => character.isAlphanum || character = '_') character

/-- A text that is one name. Keywords are names here. -/
def isName (text : List Char) : Bool :=
  match text with
  | [] => false
  | first :: rest => isNameStart first && rest.all isNameContinue

def isLetter (character : Char) : Bool := inClass letterRanges Char.isAlpha character

def isDecimalDigit (character : Char) : Bool := inClass decimalRanges Char.isDigit character

/-- The value of a decimal digit of any script. -/
def decimalValue? (character : Char) : Option Nat :=
  if character.toNat < 0x80 then
    if character.isDigit then some (character.toNat - 48) else none
  else (decimalRanges.offset? character.toNat).map (· % 10)

/-- A digit in the wider sense, raised and circled ones among them. -/
def isDigitLike (character : Char) : Bool := inClass digitRanges Char.isDigit character

/-- A character with a number as its meaning, fractions and ideographs among them. -/
def isNumeric (character : Char) : Bool := inClass numericRanges Char.isDigit character

def isSpace (character : Char) : Bool :=
  inClass spaceRanges (fun character =>
    character = ' ' || (9 ≤ character.toNat && character.toNat ≤ 13) ||
      (28 ≤ character.toNat && character.toNat ≤ 31)) character

/-- A character that a quoted text shows as itself. -/
def isPrintable (character : Char) : Bool :=
  inClass printableRanges (fun character => 32 ≤ character.toNat && character.toNat < 127) character

def isAlphanumeric (character : Char) : Bool := isLetter character || isNumeric character

/-- A character of a word, as patterns know it. -/
def isWordCharacter (character : Char) : Bool := isAlphanumeric character || character = '_'

end LiveShell.Text

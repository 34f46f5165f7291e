import RowSignals.Text.Quoted

/-!
# SHA-256

The digest of a text's UTF-8 bytes, on lists of words and without any state that changes.

* `pad`: the message with its end mark and its length in bits, a whole number of blocks.
* `schedule`: the 64 words of one block.
* `compress`: one block folded into the eight words of the state.
* `digestHex`: the digest of a text in hexadecimal digits.

Only that equal texts have equal digests is ever relied on here. Whether different texts have
different ones is a hypothesis wherever it matters.
-/

namespace RowSignals.Digest

/-- The round constants: the first 32 bits of the fractional parts of the cube roots of the
first 64 primes. -/
def roundConstants : List UInt32 := [
  0x428a2f98, 0x71374491, 0xb5c0fbcf, 0xe9b5dba5, 0x3956c25b, 0x59f111f1, 0x923f82a4,
  0xab1c5ed5, 0xd807aa98, 0x12835b01, 0x243185be, 0x550c7dc3, 0x72be5d74, 0x80deb1fe,
  0x9bdc06a7, 0xc19bf174, 0xe49b69c1, 0xefbe4786, 0x0fc19dc6, 0x240ca1cc, 0x2de92c6f,
  0x4a7484aa, 0x5cb0a9dc, 0x76f988da, 0x983e5152, 0xa831c66d, 0xb00327c8, 0xbf597fc7,
  0xc6e00bf3, 0xd5a79147, 0x06ca6351, 0x14292967, 0x27b70a85, 0x2e1b2138, 0x4d2c6dfc,
  0x53380d13, 0x650a7354, 0x766a0abb, 0x81c2c92e, 0x92722c85, 0xa2bfe8a1, 0xa81a664b,
  0xc24b8b70, 0xc76c51a3, 0xd192e819, 0xd6990624, 0xf40e3585, 0x106aa070, 0x19a4c116,
  0x1e376c08, 0x2748774c, 0x34b0bcb5, 0x391c0cb3, 0x4ed8aa4a, 0x5b9cca4f, 0x682e6ff3,
  0x748f82ee, 0x78a5636f, 0x84c87814, 0x8cc70208, 0x90befffa, 0xa4506ceb, 0xbef9a3f7,
  0xc67178f2]

/-- The eight working words. -/
structure State where
  a : UInt32
  b : UInt32
  c : UInt32
  d : UInt32
  e : UInt32
  f : UInt32
  g : UInt32
  h : UInt32

/-- The first state: the fractional parts of the square roots of the first eight primes. -/
def State.start : State :=
  ⟨0x6a09e667, 0xbb67ae85, 0x3c6ef372, 0xa54ff53a,
    0x510e527f, 0x9b05688c, 0x1f83d9ab, 0x5be0cd19⟩

/-- A word rotated to the right. -/
def rotate (x n : UInt32) : UInt32 :=
  (x >>> n) ||| (x <<< (32 - n))

/-- One round: the word and the constant of the round mixed into the state. -/
def State.round (s : State) (constant word : UInt32) : State :=
  let s1 := rotate s.e 6 ^^^ rotate s.e 11 ^^^ rotate s.e 25
  let choice := (s.e &&& s.f) ^^^ ((~~~s.e) &&& s.g)
  let t1 := s.h + s1 + choice + constant + word
  let s0 := rotate s.a 2 ^^^ rotate s.a 13 ^^^ rotate s.a 22
  let majority := (s.a &&& s.b) ^^^ (s.a &&& s.c) ^^^ (s.b &&& s.c)
  ⟨t1 + (s0 + majority), s.a, s.b, s.c, s.d + t1, s.e, s.f, s.g⟩

/-- The sum of two states, word by word. -/
def State.add (s t : State) : State :=
  ⟨s.a + t.a, s.b + t.b, s.c + t.c, s.d + t.d, s.e + t.e, s.f + t.f, s.g + t.g, s.h + t.h⟩

/-- The words of a state in order. -/
def State.words (s : State) : List UInt32 :=
  [s.a, s.b, s.c, s.d, s.e, s.f, s.g, s.h]

/-- The next `count` words of a schedule, from the sixteen words before them, last one first. -/
def extend : Nat → List UInt32 → List UInt32
  | 0, recent => recent
  | count + 1, recent =>
    -- the last word comes first, so that word `t - 16` of the standard is word 15 here
    let at' (i : Nat) : UInt32 := recent.getD i 0
    let s0 := rotate (at' 14) 7 ^^^ rotate (at' 14) 18 ^^^ (at' 14 >>> 3)
    let s1 := rotate (at' 1) 17 ^^^ rotate (at' 1) 19 ^^^ (at' 1 >>> 10)
    extend count ((at' 15 + s0 + at' 6 + s1) :: recent)

/-- The 64 words of a block of sixteen. -/
def schedule (block : List UInt32) : List UInt32 :=
  (extend 48 block.reverse).reverse

/-- One block folded into the state. -/
def compress (s : State) (block : List UInt32) : State :=
  let rounds := (roundConstants.zip (schedule block)).foldl
    (fun t (constant, word) => t.round constant word) s
  s.add rounds

/-- A message with its end mark and its length in bits, filled to a whole number of 64-byte
blocks. -/
def pad (bytes : List UInt8) : List UInt8 :=
  let length := bytes.length
  -- the end mark and the eight bytes of the length take nine of the 64 bytes
  let zeros := (119 - length % 64) % 64
  let bits := 8 * length
  let lengthBytes := (List.range 8).map fun i => UInt8.ofNat (bits / Nat.pow 256 (7 - i) % 256)
  bytes ++ 0x80 :: (List.replicate zeros 0 ++ lengthBytes)

/-- Big-endian words of four bytes. -/
def wordsOf : List UInt8 → List UInt32
  | a :: b :: c :: d :: rest =>
    ((a.toUInt32 <<< 24) ||| (b.toUInt32 <<< 16) ||| (c.toUInt32 <<< 8) ||| d.toUInt32) ::
      wordsOf rest
  | _ => []

/-- The state after all blocks of sixteen words; `fuel` bounds their number. -/
def compressAll (fuel : Nat) (s : State) (words : List UInt32) : State :=
  match fuel, words with
  | _, [] => s
  | 0, _ => s
  | fuel + 1, words => compressAll fuel (compress s (words.take 16)) (words.drop 16)

/-- A word as eight hexadecimal digits. -/
def hexWord (w : UInt32) : String :=
  let digits := Text.hex w.toNat
  String.ofList (List.replicate (8 - digits.length) '0') ++ digits

/-- The digest of a text's UTF-8 bytes, as 64 hexadecimal digits. -/
def digestHex (text : String) : String :=
  let words := wordsOf (pad text.toUTF8.toList)
  String.join ((compressAll words.length State.start words).words.map hexWord)

end RowSignals.Digest

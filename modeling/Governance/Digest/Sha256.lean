/-!
# SHA-256

The digest of a byte sequence: padding to whole blocks, a schedule of sixty-four words for each
block, sixty-four rounds over eight words of state, and the state written out in bytes, most
significant first. A digest always has thirty-two bytes.
-/

namespace Governance.Digest

/-- Eight words of state, `a` to `h`. -/
structure State where
  a : UInt32
  b : UInt32
  c : UInt32
  d : UInt32
  e : UInt32
  f : UInt32
  g : UInt32
  h : UInt32
deriving DecidableEq

namespace State

def initial : State :=
  ⟨0x6a09e667, 0xbb67ae85, 0x3c6ef372, 0xa54ff53a, 0x510e527f, 0x9b05688c, 0x1f83d9ab, 0x5be0cd19⟩

def add (s t : State) : State :=
  ⟨s.a + t.a, s.b + t.b, s.c + t.c, s.d + t.d, s.e + t.e, s.f + t.f, s.g + t.g, s.h + t.h⟩

def words (s : State) : List UInt32 := [s.a, s.b, s.c, s.d, s.e, s.f, s.g, s.h]

end State

def roundConstants : List UInt32 :=
  [0x428a2f98, 0x71374491, 0xb5c0fbcf, 0xe9b5dba5, 0x3956c25b, 0x59f111f1, 0x923f82a4, 0xab1c5ed5,
   0xd807aa98, 0x12835b01, 0x243185be, 0x550c7dc3, 0x72be5d74, 0x80deb1fe, 0x9bdc06a7, 0xc19bf174,
   0xe49b69c1, 0xefbe4786, 0x0fc19dc6, 0x240ca1cc, 0x2de92c6f, 0x4a7484aa, 0x5cb0a9dc, 0x76f988da,
   0x983e5152, 0xa831c66d, 0xb00327c8, 0xbf597fc7, 0xc6e00bf3, 0xd5a79147, 0x06ca6351, 0x14292967,
   0x27b70a85, 0x2e1b2138, 0x4d2c6dfc, 0x53380d13, 0x650a7354, 0x766a0abb, 0x81c2c92e, 0x92722c85,
   0xa2bfe8a1, 0xa81a664b, 0xc24b8b70, 0xc76c51a3, 0xd192e819, 0xd6990624, 0xf40e3585, 0x106aa070,
   0x19a4c116, 0x1e376c08, 0x2748774c, 0x34b0bcb5, 0x391c0cb3, 0x4ed8aa4a, 0x5b9cca4f, 0x682e6ff3,
   0x748f82ee, 0x78a5636f, 0x84c87814, 0x8cc70208, 0x90befffa, 0xa4506ceb, 0xbef9a3f7, 0xc67178f2]

def rotate (x : UInt32) (n : UInt32) : UInt32 := (x >>> n) ||| (x <<< (32 - n))

/-! ### Padding -/

/-- The length `bits` in eight bytes, most significant first. -/
def lengthBytes (bits : Nat) : List UInt8 :=
  (List.range 8).map fun i => UInt8.ofNat (bits / Nat.pow 256 (7 - i))

/-- The `message`, a one bit, zeros, and the length of `message` in bits. -/
def pad (message : List UInt8) : List UInt8 :=
  message ++ 0x80 :: List.replicate ((119 - message.length % 64) % 64) 0
    ++ lengthBytes (8 * message.length)

/-- Bytes in groups of four, as words. -/
def wordsOf : List UInt8 → List UInt32
  | a :: b :: c :: d :: rest =>
    (a.toUInt32 <<< 24 ||| b.toUInt32 <<< 16 ||| c.toUInt32 <<< 8 ||| d.toUInt32) :: wordsOf rest
  | _ => []

/-! ### Blocks -/

/-- The next word of a schedule from the sixteen before it, `latest` first. -/
def nextWord (latest : List UInt32) : UInt32 :=
  match latest with
  | [_, w2, _, _, _, _, w7, _, _, _, _, _, _, _, w15, w16] =>
    let s0 := rotate w15 7 ^^^ rotate w15 18 ^^^ (w15 >>> 3)
    let s1 := rotate w2 17 ^^^ rotate w2 19 ^^^ (w2 >>> 10)
    w16 + s0 + w7 + s1
  | _ => 0

/-- `count` more words of a schedule behind the sixteen `latest`. -/
def extendSchedule : Nat → List UInt32 → List UInt32
  | 0, _ => []
  | count + 1, latest =>
    let w := nextWord latest
    w :: extendSchedule count (w :: latest.take 15)

/-- The sixty-four words of a `block`. -/
def schedule (block : List UInt32) : List UInt32 := block ++ extendSchedule 48 block.reverse

/-- One round with its `constant` and the `word` of the schedule. -/
def State.step (s : State) (constant word : UInt32) : State :=
  let s1 := rotate s.e 6 ^^^ rotate s.e 11 ^^^ rotate s.e 25
  let choice := (s.e &&& s.f) ^^^ (~~~s.e &&& s.g)
  let t1 := s.h + s1 + choice + constant + word
  let s0 := rotate s.a 2 ^^^ rotate s.a 13 ^^^ rotate s.a 22
  let majority := (s.a &&& s.b) ^^^ (s.a &&& s.c) ^^^ (s.b &&& s.c)
  let t2 := s0 + majority
  ⟨t1 + t2, s.a, s.b, s.c, s.d + t1, s.e, s.f, s.g⟩

/-- The state after a `block`. -/
def State.absorb (s : State) (block : List UInt32) : State :=
  s.add <| (roundConstants.zip (schedule block)).foldl (fun s kw => s.step kw.1 kw.2) s

/-- The state `s` after `count` blocks of sixteen words of `ws`. -/
def absorbBlocks : Nat → State → List UInt32 → State
  | 0, s, _ => s
  | count + 1, s, ws => absorbBlocks count (s.absorb (ws.take 16)) (ws.drop 16)

/-- The word `w` in four bytes, most significant first. -/
def bytesOfWord (w : UInt32) : List UInt8 :=
  [(w >>> 24).toUInt8, (w >>> 16).toUInt8, (w >>> 8).toUInt8, w.toUInt8]

/-- The digest of the bytes of `message`. -/
def sha256 (message : List UInt8) : List UInt8 :=
  let ws := wordsOf (pad message)
  (absorbBlocks (ws.length / 16) .initial ws).words.flatMap bytesOfWord

theorem length_sha256 (message : List UInt8) : (sha256 message).length = 32 := by
  simp [sha256, State.words, bytesOfWord]

end Governance.Digest

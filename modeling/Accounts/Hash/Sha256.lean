/-! SHA-256 and the keyed digest built on it. -/

namespace Accounts.Hash.Sha256

/-- The round constants: the fractional parts of the cube roots of the first sixty-four primes. -/
def constants : Array UInt32 := #[
  0x428a2f98, 0x71374491, 0xb5c0fbcf, 0xe9b5dba5, 0x3956c25b, 0x59f111f1, 0x923f82a4, 0xab1c5ed5,
  0xd807aa98, 0x12835b01, 0x243185be, 0x550c7dc3, 0x72be5d74, 0x80deb1fe, 0x9bdc06a7, 0xc19bf174,
  0xe49b69c1, 0xefbe4786, 0x0fc19dc6, 0x240ca1cc, 0x2de92c6f, 0x4a7484aa, 0x5cb0a9dc, 0x76f988da,
  0x983e5152, 0xa831c66d, 0xb00327c8, 0xbf597fc7, 0xc6e00bf3, 0xd5a79147, 0x06ca6351, 0x14292967,
  0x27b70a85, 0x2e1b2138, 0x4d2c6dfc, 0x53380d13, 0x650a7354, 0x766a0abb, 0x81c2c92e, 0x92722c85,
  0xa2bfe8a1, 0xa81a664b, 0xc24b8b70, 0xc76c51a3, 0xd192e819, 0xd6990624, 0xf40e3585, 0x106aa070,
  0x19a4c116, 0x1e376c08, 0x2748774c, 0x34b0bcb5, 0x391c0cb3, 0x4ed8aa4a, 0x5b9cca4f, 0x682e6ff3,
  0x748f82ee, 0x78a5636f, 0x84c87814, 0x8cc70208, 0x90befffa, 0xa4506ceb, 0xbef9a3f7, 0xc67178f2]

structure State where
  a : UInt32
  b : UInt32
  c : UInt32
  d : UInt32
  e : UInt32
  f : UInt32
  g : UInt32
  h : UInt32

/-- The fractional parts of the square roots of the first eight primes. -/
def State.initial : State :=
  ⟨0x6a09e667, 0xbb67ae85, 0x3c6ef372, 0xa54ff53a, 0x510e527f, 0x9b05688c, 0x1f83d9ab, 0x5be0cd19⟩

def State.add (s t : State) : State :=
  ⟨s.a + t.a, s.b + t.b, s.c + t.c, s.d + t.d, s.e + t.e, s.f + t.f, s.g + t.g, s.h + t.h⟩

def turn (word : UInt32) (bits : UInt32) : UInt32 := (word >>> bits) ||| (word <<< (32 - bits))

def State.round (s : State) (input : UInt32) : State :=
  let s1 := turn s.e 6 ^^^ turn s.e 11 ^^^ turn s.e 25
  let choice := (s.e &&& s.f) ^^^ ((~~~ s.e) &&& s.g)
  let t1 := s.h + s1 + choice + input
  let s0 := turn s.a 2 ^^^ turn s.a 13 ^^^ turn s.a 22
  let majority := (s.a &&& s.b) ^^^ (s.a &&& s.c) ^^^ (s.b &&& s.c)
  ⟨t1 + (s0 + majority), s.a, s.b, s.c, s.d + t1, s.e, s.f, s.g⟩

def wordAt (message : Array UInt8) (offset : Nat) : UInt32 :=
  (message.getD offset 0).toUInt32 <<< 24 ||| (message.getD (offset + 1) 0).toUInt32 <<< 16 |||
  (message.getD (offset + 2) 0).toUInt32 <<< 8 ||| (message.getD (offset + 3) 0).toUInt32

def nextWord (words : Array UInt32) : UInt32 :=
  let t := words.size
  let w15 := words.getD (t - 15) 0
  let w2 := words.getD (t - 2) 0
  let s0 := turn w15 7 ^^^ turn w15 18 ^^^ (w15 >>> 3)
  let s1 := turn w2 17 ^^^ turn w2 19 ^^^ (w2 >>> 10)
  words.getD (t - 16) 0 + s0 + words.getD (t - 7) 0 + s1

def schedule (message : Array UInt8) (offset : Nat) : Array UInt32 :=
  let words := (Array.range 16).map fun i => wordAt message (offset + 4 * i)
  (List.range 48).foldl (fun words _ => words.push (nextWord words)) words

def State.compress (state : State) (message : Array UInt8) (offset : Nat) : State :=
  let words := schedule message offset
  state.add <| (List.range 64).foldl
    (fun s i => s.round (constants.getD i 0 + words.getD i 0)) state

def wordBytes (word : UInt32) : List UInt8 :=
  [(word >>> 24).toUInt8, (word >>> 16).toUInt8, (word >>> 8).toUInt8, word.toUInt8]

def State.bytes (s : State) : List UInt8 :=
  wordBytes s.a ++ wordBytes s.b ++ wordBytes s.c ++ wordBytes s.d ++
  wordBytes s.e ++ wordBytes s.f ++ wordBytes s.g ++ wordBytes s.h

/-- A message filled up to whole blocks: a one bit, zeros, and the length in bits. -/
def pad (message : List UInt8) : List UInt8 :=
  let length := message.length
  let bits := 8 * length
  message ++ 0x80 :: List.replicate ((119 - length % 64) % 64) 0 ++
    wordBytes (UInt32.ofNat (bits / 0x100000000)) ++ wordBytes (UInt32.ofNat bits)

def digest (message : List UInt8) : List UInt8 :=
  let padded := (pad message).toArray
  ((List.range (padded.size / 64)).foldl
    (fun state i => state.compress padded (64 * i)) State.initial).bytes

theorem length_digest (message : List UInt8) : (digest message).length = 32 := by
  simp [digest, State.bytes, wordBytes]

/-- A key as one block: a long key is replaced by its digest, and zeros fill it up. -/
def blockKey (key : List UInt8) : List UInt8 :=
  let key := if key.length > 64 then digest key else key
  key ++ List.replicate (64 - key.length) 0

def keyed (key message : List UInt8) : List UInt8 :=
  let key := blockKey key
  let inner := digest (key.map (· ^^^ 0x36) ++ message)
  digest (key.map (· ^^^ 0x5C) ++ inner)

end Accounts.Hash.Sha256

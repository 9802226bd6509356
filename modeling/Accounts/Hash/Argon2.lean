import Accounts.Hash.Blake2b

/-! Argon2, in its three variants and two versions. -/

namespace Accounts.Hash.Argon2

/-- Which blocks a block is made from: those that the data point to, those that a count points to,
or the latter in the first half of the first pass alone. -/
inductive Variant
  | d
  | i
  | id
  deriving DecidableEq, Repr

def Variant.code : Variant → Nat
  | .d => 0
  | .i => 1
  | .id => 2

/-- The two versions; later passes replace blocks in the older one and are added to them in the
newer. -/
inductive Version
  | v16
  | v19
  deriving DecidableEq, Repr

def Version.code : Version → Nat
  | .v16 => 16
  | .v19 => 19

structure Block where
  r0 : Words
  r1 : Words
  r2 : Words
  r3 : Words
  r4 : Words
  r5 : Words
  r6 : Words
  r7 : Words

namespace Block

def zero : Block := ⟨.zero, .zero, .zero, .zero, .zero, .zero, .zero, .zero⟩

instance : Inhabited Block := ⟨zero⟩

def ofFn (f : Nat → Words) : Block := ⟨f 0, f 1, f 2, f 3, f 4, f 5, f 6, f 7⟩

def rows (b : Block) : List Words := [b.r0, b.r1, b.r2, b.r3, b.r4, b.r5, b.r6, b.r7]

def row (b : Block) (index : Nat) : Words :=
  match index with
  | 0 => b.r0
  | 1 => b.r1
  | 2 => b.r2
  | 3 => b.r3
  | 4 => b.r4
  | 5 => b.r5
  | 6 => b.r6
  | _ => b.r7

def get (b : Block) (index : Nat) : UInt64 := (b.row (index / 16)).get (index % 16)

def xor (x y : Block) : Block :=
  ⟨x.r0.xor y.r0, x.r1.xor y.r1, x.r2.xor y.r2, x.r3.xor y.r3,
   x.r4.xor y.r4, x.r5.xor y.r5, x.r6.xor y.r6, x.r7.xor y.r7⟩

@[inline] def map (f : Words → Words) (b : Block) : Block :=
  ⟨f b.r0, f b.r1, f b.r2, f b.r3, f b.r4, f b.r5, f b.r6, f b.r7⟩

def transpose (b : Block) : Block :=
  ⟨⟨b.r0.w0, b.r0.w1, b.r1.w0, b.r1.w1, b.r2.w0, b.r2.w1, b.r3.w0, b.r3.w1,
    b.r4.w0, b.r4.w1, b.r5.w0, b.r5.w1, b.r6.w0, b.r6.w1, b.r7.w0, b.r7.w1⟩,
   ⟨b.r0.w2, b.r0.w3, b.r1.w2, b.r1.w3, b.r2.w2, b.r2.w3, b.r3.w2, b.r3.w3,
    b.r4.w2, b.r4.w3, b.r5.w2, b.r5.w3, b.r6.w2, b.r6.w3, b.r7.w2, b.r7.w3⟩,
   ⟨b.r0.w4, b.r0.w5, b.r1.w4, b.r1.w5, b.r2.w4, b.r2.w5, b.r3.w4, b.r3.w5,
    b.r4.w4, b.r4.w5, b.r5.w4, b.r5.w5, b.r6.w4, b.r6.w5, b.r7.w4, b.r7.w5⟩,
   ⟨b.r0.w6, b.r0.w7, b.r1.w6, b.r1.w7, b.r2.w6, b.r2.w7, b.r3.w6, b.r3.w7,
    b.r4.w6, b.r4.w7, b.r5.w6, b.r5.w7, b.r6.w6, b.r6.w7, b.r7.w6, b.r7.w7⟩,
   ⟨b.r0.w8, b.r0.w9, b.r1.w8, b.r1.w9, b.r2.w8, b.r2.w9, b.r3.w8, b.r3.w9,
    b.r4.w8, b.r4.w9, b.r5.w8, b.r5.w9, b.r6.w8, b.r6.w9, b.r7.w8, b.r7.w9⟩,
   ⟨b.r0.w10, b.r0.w11, b.r1.w10, b.r1.w11, b.r2.w10, b.r2.w11, b.r3.w10, b.r3.w11,
    b.r4.w10, b.r4.w11, b.r5.w10, b.r5.w11, b.r6.w10, b.r6.w11, b.r7.w10, b.r7.w11⟩,
   ⟨b.r0.w12, b.r0.w13, b.r1.w12, b.r1.w13, b.r2.w12, b.r2.w13, b.r3.w12, b.r3.w13,
    b.r4.w12, b.r4.w13, b.r5.w12, b.r5.w13, b.r6.w12, b.r6.w13, b.r7.w12, b.r7.w13⟩,
   ⟨b.r0.w14, b.r0.w15, b.r1.w14, b.r1.w15, b.r2.w14, b.r2.w15, b.r3.w14, b.r3.w15,
    b.r4.w14, b.r4.w15, b.r5.w14, b.r5.w15, b.r6.w14, b.r6.w15, b.r7.w14, b.r7.w15⟩⟩

def ofBytes (bytes : List UInt8) : Block :=
  let bytes := bytes.toArray
  ofFn fun i => Words.ofFn fun j => wordAt bytes (128 * i + 8 * j)

def bytes (b : Block) : List UInt8 := b.rows.flatMap fun row => row.toList.flatMap wordBytes

end Block

@[inline] def blend (x y : UInt64) : UInt64 :=
  x + y + 2 * ((x &&& 0xFFFFFFFF) * (y &&& 0xFFFFFFFF))

@[inline] def quad (q : Quad) : Quad :=
  let a := blend q.a q.b
  let d := turnRight (q.d ^^^ a) 32
  let c := blend q.c d
  let b := turnRight (q.b ^^^ c) 24
  let a := blend a b
  let d := turnRight (d ^^^ a) 16
  let c := blend c d
  let b := turnRight (b ^^^ c) 63
  ⟨a, b, c, d⟩

def mixWords (v : Words) : Words := v.mix fun _ q => quad q

def Block.compress (x y : Block) : Block :=
  let sum := x.xor y
  (((sum.map mixWords).transpose.map mixWords).transpose).xor sum

structure Settings where
  variant : Variant
  version : Version
  memory : Nat
  passes : Nat
  lanes : Nat
  data : List UInt8

namespace Settings

def segment (s : Settings) : Nat := s.memory / (4 * s.lanes)

def lane (s : Settings) : Nat := 4 * s.segment

def blocks (s : Settings) : Nat := s.lane * s.lanes

end Settings

/-- A digest in any number of bytes: overlapping digests of 64 bytes give 32 bytes each, and the
last one gives the rest. -/
def longDigestFrom (block : List UInt8) : Nat → Nat → List UInt8
  | 0, _ => []
  | fuel + 1, size =>
    if size ≤ 64 then Blake2b.digest size block
    else
      let block := Blake2b.digest 64 block
      block.take 32 ++ longDigestFrom block fuel (size - 32)

def longDigest (size : Nat) (message : List UInt8) : List UInt8 :=
  longDigestFrom (shortBytes size ++ message) (size / 32 + 1) size

def seed (s : Settings) (password salt : List UInt8) (size : Nat) : List UInt8 :=
  Blake2b.digest 64 <|
    shortBytes s.lanes ++ shortBytes size ++ shortBytes s.memory ++ shortBytes s.passes ++
    shortBytes s.version.code ++ shortBytes s.variant.code ++
    shortBytes password.length ++ password ++ shortBytes salt.length ++ salt ++
    shortBytes 0 ++ shortBytes s.data.length ++ s.data

def firstBlocks (s : Settings) (seed : List UInt8) : Array Block :=
  (List.range s.lanes).foldl
    (fun memory lane =>
      (List.range 2).foldl
        (fun memory column =>
          memory.setIfInBounds (lane * s.lane + column)
            (Block.ofBytes (longDigest 1024 (seed ++ shortBytes column ++ shortBytes lane))))
        memory)
    (Array.replicate s.blocks Block.zero)

def pointers (s : Settings) (pass lane slice count : Nat) : Block :=
  let input := Block.zero
  let input := { input with
    r0 := ⟨UInt64.ofNat pass, UInt64.ofNat lane, UInt64.ofNat slice, UInt64.ofNat s.blocks,
      UInt64.ofNat s.passes, UInt64.ofNat s.variant.code, UInt64.ofNat count,
      0, 0, 0, 0, 0, 0, 0, 0, 0⟩ }
  Block.zero.compress (Block.zero.compress input)

def counted (s : Settings) (pass slice : Nat) : Bool :=
  match s.variant with
  | .d => false
  | .i => true
  | .id => pass == 0 && slice < 2

/-- The place of the block that a pointer names. Of the blocks of its lane that may be named, the
later ones are named more often. -/
def target (s : Settings) (pass lane slice index : Nat) (pointer : UInt64) : Nat :=
  let low := (pointer &&& 0xFFFFFFFF).toNat
  let high := (pointer >>> 32).toNat
  let other := if pass = 0 ∧ slice = 0 then lane else high % s.lanes
  let finished := if pass = 0 then slice * s.segment else s.lane - s.segment
  let area :=
    if other = lane then finished + index - 1
    else if index = 0 then finished - 1 else finished
  let back := area * (low * low / 0x100000000) / 0x100000000
  let start := if pass = 0 ∨ slice = 3 then 0 else (slice + 1) * s.segment
  other * s.lane + (start + (area - 1 - back)) % s.lane

def fillBlock (s : Settings) (pass lane slice : Nat) (table : Array Block) (memory : Array Block)
    (index : Nat) : Array Block :=
  let column := slice * s.segment + index
  let place := lane * s.lane + column
  let before := lane * s.lane + (if column = 0 then s.lane - 1 else column - 1)
  let previous := memory.getD before Block.zero
  let pointer :=
    if counted s pass slice then (table.getD (index / 128) Block.zero).get (index % 128)
    else previous.r0.w0
  let named := memory.getD (target s pass lane slice index pointer) Block.zero
  let made := previous.compress named
  let made :=
    match s.version with
    | .v16 => made
    | .v19 => if pass = 0 then made else made.xor (memory.getD place Block.zero)
  memory.setIfInBounds place made

def fillSegment (s : Settings) (pass slice : Nat) (memory : Array Block) (lane : Nat) :
    Array Block :=
  let first := if pass = 0 ∧ slice = 0 then 2 else 0
  let table :=
    if counted s pass slice then
      (Array.range (s.segment / 128 + 1)).map fun i => pointers s pass lane slice (i + 1)
    else #[]
  (List.range' first (s.segment - first)).foldl (fillBlock s pass lane slice table) memory

def fill (s : Settings) (memory : Array Block) : Array Block :=
  (List.range s.passes).foldl
    (fun memory pass =>
      (List.range 4).foldl
        (fun memory slice => (List.range s.lanes).foldl (fillSegment s pass slice) memory)
        memory)
    memory

def lastBlocks (s : Settings) (memory : Array Block) : Block :=
  (List.range s.lanes).foldl
    (fun sum lane => sum.xor (memory.getD (lane * s.lane + (s.lane - 1)) Block.zero))
    Block.zero

def hash (s : Settings) (password salt : List UInt8) (size : Nat) : List UInt8 :=
  longDigest size (lastBlocks s (fill s (firstBlocks s (seed s password salt size)))).bytes

theorem length_longDigestFrom (block : List UInt8) (fuel size : Nat) (enough : size / 32 < fuel) :
    (longDigestFrom block fuel size).length = size := by
  induction fuel generalizing block size with
  | zero => omega
  | succ fuel ih =>
    rw [longDigestFrom]
    split
    · simp
    · have := ih (Blake2b.digest 64 block) (size - 32) (by omega)
      simp only [List.length_append, List.length_take, Blake2b.length_digest, this]
      omega

@[simp] theorem length_hash (s : Settings) (password salt : List UInt8) (size : Nat) :
    (hash s password salt size).length = size :=
  length_longDigestFrom _ _ _ (by omega)

end Accounts.Hash.Argon2

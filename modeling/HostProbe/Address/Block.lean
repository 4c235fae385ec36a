import HostProbe.Address.Numeric

namespace HostProbe

structure Block where
  network : Nat
  length : Nat
deriving DecidableEq, Repr

/-- An address belongs to a block when clearing the bits after the first `length` gives the network
itself, so a network with later bits set has no members. -/
def Block.holds (width : Nat) (block : Block) (address : Nat) : Bool :=
  decide (address >>> (width - block.length) <<< (width - block.length) = block.network)

namespace V4

def block (a b c d : UInt8) (length : Nat) : Block := ⟨V4.toNat ⟨a, b, c, d⟩, length⟩

def privateBlocks : List Block :=
  [block 0 0 0 0 8, block 10 0 0 0 8, block 127 0 0 0 8, block 169 254 0 0 16, block 172 16 0 0 12,
   block 192 0 0 0 29, block 192 0 0 170 31, block 192 0 2 0 24, block 192 168 0 0 16,
   block 198 18 0 0 15, block 198 51 100 0 24, block 203 0 113 0 24, block 240 0 0 0 4,
   block 255 255 255 255 32]

def isPrivate (x : V4) : Bool := privateBlocks.any (·.holds 32 x.toNat)

def isReserved (x : V4) : Bool := x.a &&& 0xf0 == 0xf0

def isLoopback (x : V4) : Bool := x.a == 127

def isMulticast (x : V4) : Bool := decide (224 ≤ x.a.toNat ∧ x.a.toNat ≤ 239)

end V4

namespace V6

def block (g0 g1 : UInt16) (last : UInt16) (length : Nat) : Block :=
  ⟨V6.toNat ⟨g0, g1, 0, 0, 0, 0, 0, last⟩, length⟩

def privateBlocks : List Block :=
  [block 0 0 1 128, block 0 0 0 128, block 0x100 0 0 64, block 0x2001 0 0 23, block 0x2001 2 0 48,
   block 0x2001 0xdb8 0 32, block 0x2001 0x10 0 28, block 0xfc00 0 0 7, block 0xfe80 0 0 10]

/-- An address with an IPv4 form is judged by it. -/
def isPrivate (x : V6) : Bool :=
  match x.mapped? with
  | some v4 => v4.isPrivate
  | none => privateBlocks.any (·.holds 128 x.toNat)

def reservedBlocks : List Block :=
  [⟨0x0000, 8⟩, ⟨0x0100, 8⟩, ⟨0x0200, 7⟩, ⟨0x0400, 6⟩, ⟨0x0800, 5⟩, ⟨0x1000, 4⟩, ⟨0x4000, 3⟩,
   ⟨0x6000, 3⟩, ⟨0x8000, 3⟩, ⟨0xa000, 3⟩, ⟨0xc000, 3⟩, ⟨0xe000, 4⟩, ⟨0xf000, 5⟩, ⟨0xf800, 6⟩,
   ⟨0xfe00, 9⟩]

def isReserved (x : V6) : Bool := reservedBlocks.any (·.holds 16 x.g0.toNat)

def isLoopback (x : V6) : Bool := x == loopback

def isMulticast (x : V6) : Bool := x.g0 &&& 0xff00 == 0xff00

end V6

namespace Numeric

def isPrivate : Numeric → Bool
  | .v4 x => x.isPrivate
  | .v6 x => x.isPrivate

def isReserved : Numeric → Bool
  | .v4 x => x.isReserved
  | .v6 x => x.isReserved

def isLoopback : Numeric → Bool
  | .v4 x => x.isLoopback
  | .v6 x => x.isLoopback

def isMulticast : Numeric → Bool
  | .v4 x => x.isMulticast
  | .v6 x => x.isMulticast

end Numeric

end HostProbe

import MountSweep.Random.ChaCha

namespace MountSweep.Random.Seed

def next (s : UInt64) : UInt64 :=
  s * 6364136223846793005 + 11634580027462260723

/-- The word that a state yields: its upper half folded, and rotated by its highest five bits. -/
def word (s : UInt64) : UInt32 :=
  let folded := (((s >>> 18) ^^^ s) >>> 27).toUInt32
  let turn := (s >>> 59).toUInt32
  if turn = 0 then folded else ChaCha.rotateLeft folded (32 - turn)

def nth : Nat → UInt64 → UInt64
  | 0, s => s
  | n + 1, s => nth n (next s)

def key (seed : UInt64) : ChaCha.Key :=
  Vector.ofFn fun i ↦ word (nth (i.val + 1) seed)

end MountSweep.Random.Seed

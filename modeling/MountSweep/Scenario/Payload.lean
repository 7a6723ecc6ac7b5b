import MountSweep.Bytes
import MountSweep.Random.Seed

namespace MountSweep.Payload

open MountSweep.Random

def seed : UInt64 := 12345

def size : Nat := 2048

def alphabet : List Char :=
  "ABCDEFGHIJKLMNOPQRSTUVWXYZabcdefghijklmnopqrstuvwxyz0123456789".toList

def choose? (w : UInt32) : Option Char :=
  alphabet[(w >>> 26).toNat]?

def doubleRounds : Nat := 6

def blocks : Nat := 140

def content : Bytes :=
  Bytes.ofChars (((ChaCha.stream (Seed.key seed) doubleRounds blocks).filterMap choose?).take size)

def fileName : String := "data.txt"

end MountSweep.Payload

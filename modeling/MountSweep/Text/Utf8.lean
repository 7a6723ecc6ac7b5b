import MountSweep.Bytes

namespace MountSweep.Text.Utf8

def replacement : Char := '\ufffd'

inductive State
  | between
  | inside (owed value : Nat) (low high : UInt8)
  deriving DecidableEq, Repr

/-- A byte read between characters: the characters it completes and the state after it. -/
def begin (b : UInt8) : List Char × State :=
  if b < 0x80 then ([Char.ofNat b.toNat], .between)
  else if 0xC2 ≤ b ∧ b ≤ 0xDF then ([], .inside 1 (b.toNat % 0x20) 0x80 0xBF)
  else if b = 0xE0 then ([], .inside 2 0 0xA0 0xBF)
  else if b = 0xED then ([], .inside 2 0xD 0x80 0x9F)
  else if 0xE1 ≤ b ∧ b ≤ 0xEF then ([], .inside 2 (b.toNat % 0x10) 0x80 0xBF)
  else if b = 0xF0 then ([], .inside 3 0 0x90 0xBF)
  else if 0xF1 ≤ b ∧ b ≤ 0xF3 then ([], .inside 3 (b.toNat % 0x08) 0x80 0xBF)
  else if b = 0xF4 then ([], .inside 3 4 0x80 0x8F)
  else ([replacement], .between)

def step : State → UInt8 → List Char × State
  | .between, b => begin b
  | .inside owed value low high, b =>
    if low ≤ b ∧ b ≤ high then
      let value := value * 0x40 + b.toNat % 0x40
      if owed ≤ 1 then ([Char.ofNat value], .between)
      else ([], .inside (owed - 1) value 0x80 0xBF)
    else
      let (out, state) := begin b
      (replacement :: out, state)

def finish : State → List Char
  | .between => []
  | .inside .. => [replacement]

def decodeFrom : State → Bytes → List Char
  | state, [] => finish state
  | state, b :: rest =>
    let (out, state) := step state b
    out ++ decodeFrom state rest

/-- The text of a byte string, with a replacement character for every malformed part. -/
def decodeLossy (bs : Bytes) : List Char :=
  decodeFrom .between bs

/-- The text of a byte string that is well-formed UTF-8: the one whose encoding it is. -/
def decode? (bs : Bytes) : Option (List Char) :=
  let cs := decodeLossy bs
  if Bytes.ofChars cs = bs then some cs else none

theorem ofChars_of_decode? {bs : Bytes} {cs : List Char} (h : decode? bs = some cs) :
    Bytes.ofChars cs = bs := by
  simp only [decode?] at h
  split at h
  · simp_all
  · simp at h

end MountSweep.Text.Utf8

namespace MountSweep.Bytes

def display (bs : Bytes) : String :=
  String.ofList (Text.Utf8.decodeLossy bs)

def toString? (bs : Bytes) : Option String :=
  (Text.Utf8.decode? bs).map String.ofList

end MountSweep.Bytes

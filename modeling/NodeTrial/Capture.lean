import NodeTrial.Text.Utf8

namespace NodeTrial

/-- What has been kept of a stream, and how much of it has been dropped. -/
structure Capture where
  /-- The bytes that are kept, in pieces, last piece first. -/
  pieces : List (List UInt8)
  /-- The number of bytes that are kept. -/
  size : Nat
  dropped : Nat
  deriving DecidableEq, Repr

namespace Capture

def empty : Capture := ⟨[], 0, 0⟩

def receive (limit : Nat) (c : Capture) (piece : List UInt8) : Capture :=
  let front := piece.take (limit - c.size)
  { pieces := front :: c.pieces
    size := c.size + front.length
    dropped := c.dropped + (piece.length - front.length) }

/-- What is kept of a stream that comes in pieces. -/
def drain (limit : Nat) (stream : List (List UInt8)) : Capture :=
  stream.foldl (receive limit) empty

def bytes (c : Capture) : List UInt8 := c.pieces.reverse.flatten

/-- The text that is kept, with replacements for what is not UTF-8. -/
def text (c : Capture) : String := String.ofList (Utf8.decodeLossy c.bytes)

end Capture

end NodeTrial

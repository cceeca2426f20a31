/-!
# Lines

Input arrives as bytes, in pieces that may end anywhere. A line ends at a line feed; what stands
behind the last one is a line too, once the input has ended, unless it is empty.
-/

namespace Cutscene

/-- The bytes of a line that has not ended yet, in reverse. -/
structure LineReader where
  pending : List UInt8 := []
deriving DecidableEq

namespace LineReader

/-- The byte that ends a line. -/
def lineFeed : UInt8 := 10

/-- Takes one byte, which may end a line. -/
def push (r : LineReader) (byte : UInt8) : LineReader × Option (List UInt8) :=
  if byte = lineFeed then ({}, some r.pending.reverse) else (⟨byte :: r.pending⟩, none)

/-- Takes bytes and gives the lines that end in them. -/
def feed (r : LineReader) : List UInt8 → LineReader × List (List UInt8)
  | [] => (r, [])
  | byte :: rest =>
    let (r, line) := r.push byte
    let (r, lines) := feed r rest
    (r, line.toList ++ lines)

/-- The line that the end of the input ends. -/
def close (r : LineReader) : Option (List UInt8) :=
  if r.pending = [] then none else some r.pending.reverse

/-- The text of a line, if its bytes stand for one. -/
def text? (line : List UInt8) : Option String := String.fromUTF8? ⟨line.toArray⟩

end LineReader

end Cutscene

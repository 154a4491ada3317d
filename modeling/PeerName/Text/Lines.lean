import PeerName.Text.Utf8

/-!
# Pieces and lines

A text is cut at every occurrence of a separating character.  There is always one piece more than
there are separators, and joining the pieces with the separator gives the text back.

A file is read as UTF-8 text in blocks.  A line ends at a line feed, a carriage return, or both in
this order, and each of them becomes one line feed.  A block that is not UTF-8 ends the reading:
the lines completed before it are there, and the fault is placed within the bytes that were given
to the decoder, which are those held back from the block before and the block itself.

* `pieces` — the pieces of a text;
* `splitLines` — the completed lines of a text, and what is left;
* `Lines.ofBytes` — the lines of a file, and the fault that ended the reading.
-/

namespace PeerName.Text

/-! ### Pieces -/

/-- The pieces between the separators. -/
def pieces (separator : Char) : List Char → List (List Char)
  | [] => [[]]
  | c :: s =>
    if c = separator then [] :: pieces separator s
    else match pieces separator s with
      | [] => [[c]]
      | piece :: rest => (c :: piece) :: rest

/-! ### Lines -/

/-- Puts a character in front of the first line. -/
def consLine (c : Char) : List (List Char) × List Char → List (List Char) × List Char
  | ([], left) => ([], c :: left)
  | (line :: lines, left) => ((c :: line) :: lines, left)

/-- The completed lines of a text, each with a line feed at its end, and what is left.  A carriage
return at the end does not complete a line, since a line feed can follow it. -/
def splitLines : List Char → List (List Char) × List Char
  | [] => ([], [])
  | '\r' :: '\n' :: rest => (['\n'] :: (splitLines rest).1, (splitLines rest).2)
  | ['\r'] => ([], ['\r'])
  | '\r' :: c :: rest => (['\n'] :: (splitLines (c :: rest)).1, (splitLines (c :: rest)).2)
  | '\n' :: rest => (['\n'] :: (splitLines rest).1, (splitLines rest).2)
  | c :: rest => consLine c (splitLines rest)

/-- The lines of a file. -/
structure Lines where
  lines : List (List Char)
  /-- What ended the reading before the end of the file. -/
  fault : Option Utf8.Fault

/-- The size of a block. -/
def blockSize : Nat := 8192

/-- Whether a fault can be the end of a block inside a character.  The first two bytes of a
surrogate count as such, although no third byte makes them a character. -/
def mayContinue (bytes : List UInt8) (fault : Utf8.Fault) : Bool :=
  fault.flaw = .truncated || match bytes.drop fault.position with
    | [a, b] => a == 0xed && Utf8.isContinuation b
    | _ => false

/-- The characters of a block whose last character may be incomplete, and the bytes of that
character. -/
def decodeBlock (bytes : List UInt8) : Except Utf8.Fault (List Char × List UInt8) :=
  match Utf8.decode bytes with
  | .ok chars => .ok (chars, [])
  | .error fault =>
    if mayContinue bytes fault then
      match Utf8.decode (bytes.take fault.position) with
      | .ok chars => .ok (chars, bytes.drop fault.position)
      | .error fault => .error fault
    else .error fault

/-- The fault of bytes that are held back at the end of a file. -/
def heldFault (held : List UInt8) : Option Utf8.Fault :=
  match Utf8.decode held with
  | .ok _ => none
  | .error fault => some fault

/-- The characters of a file, and the fault that ended the reading; `held` are the bytes held back
from the blocks before, and `fuel` bounds the number of blocks. -/
def decodeBlocks : Nat → List UInt8 → List UInt8 → List Char × Option Utf8.Fault
  | 0, _, _ => ([], none)
  | fuel + 1, held, bytes =>
    if bytes.isEmpty then ([], heldFault held)
    else match decodeBlock (held ++ bytes.take blockSize) with
      | .error fault => ([], some fault)
      | .ok (chars, held) =>
        let (more, fault) := decodeBlocks fuel held (bytes.drop blockSize)
        (chars ++ more, fault)

/-- The lines of a file. -/
def Lines.ofBytes (bytes : List UInt8) : Lines :=
  let (chars, fault) := decodeBlocks (bytes.length + 1) [] bytes
  let (lines, left) := splitLines chars
  if fault.isSome || left.isEmpty then { lines, fault }
  else if left.getLast? = some '\r' then { lines := lines ++ [left.dropLast ++ ['\n']], fault }
  else { lines := lines ++ [left], fault }

end PeerName.Text

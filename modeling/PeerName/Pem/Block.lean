import PeerName.Pem.Base64
import PeerName.Text.Utf8
import PeerName.Unicode.Category

/-!
# Armoured blocks

Binary data are carried in text as blocks.  A block opens with a line that names what it holds,
may have headers, which an empty line separates from the rest, holds Base64 with blanks anywhere,
and closes with a line of the same name.  Text around the blocks is passed over, and so is an
opening line without a closing one.

* `cut?` — the bytes before the first mark, and those behind it;
* `rawBlocks` — the blocks of a byte sequence, as they stand there;
* `RawBlock.block?` — the content of a block;
* `Pem.blocks?` — the contents of all blocks;
* `Pem.armour` — data as a block with lines of a given width.
-/

namespace PeerName.Pem

/-- The bytes of an ASCII text. -/
def ascii (s : String) : List UInt8 := s.toList.map fun c => UInt8.ofNat c.toNat

/-- The five dashes that close the first and the last line of a block. -/
def dashes : List UInt8 := ascii "-----"

/-- What opens the first line of a block. -/
def openMark : List UInt8 := ascii "-----BEGIN "

/-- What opens the last line of a block. -/
def closeMark : List UInt8 := ascii "-----END "

/-- Looks for a mark of which the part `left` is still missing; `passed` holds the bytes already
passed, the last one first.  A mark that breaks off is passed over together with the byte that
breaks it. -/
def cutFrom (mark left passed : List UInt8) : List UInt8 → Option (List UInt8 × List UInt8)
  | [] => none
  | b :: rest =>
    if left.head? = some b then
      if left.length = 1 then some ((passed.drop (mark.length - 1)).reverse, rest)
      else cutFrom mark (left.drop 1) (b :: passed) rest
    else cutFrom mark mark (b :: passed) rest

/-- The bytes before the first mark, and those behind it. -/
def cut? (mark bytes : List UInt8) : Option (List UInt8 × List UInt8) :=
  cutFrom mark mark [] bytes

/-- Whether a byte separates lines or words. -/
def isSpace (b : UInt8) : Bool := b = 0x20 || b = 0x09 || b = 0x0a || b = 0x0d

/-- A block as it stands in a byte sequence. -/
structure RawBlock where
  openLabel : List UInt8
  headers : List UInt8
  data : List UInt8
  closeLabel : List UInt8

/-- The headers, which end at an empty line, and the data. -/
def splitHeaders (body : List UInt8) : List UInt8 × List UInt8 :=
  match cut? [0x0a, 0x0a] body with
  | some parts => parts
  | none => (cut? [0x0d, 0x0a, 0x0d, 0x0a] body).getD ([], body)

/-- The first block, and the bytes behind it. -/
def readBlock? (bytes : List UInt8) : Option (RawBlock × List UInt8) := do
  let (_, rest) ← cut? openMark bytes
  let (openLabel, rest) ← cut? dashes rest
  let (body, rest) ← cut? closeMark (rest.dropWhile isSpace)
  let (closeLabel, rest) ← cut? dashes rest
  let (headers, data) := splitHeaders body
  some ({ openLabel, headers, data, closeLabel }, rest.dropWhile isSpace)

/-- The blocks of a byte sequence, of which there are at most `fuel`. -/
def rawBlocksFrom : Nat → List UInt8 → List RawBlock
  | 0, _ => []
  | fuel + 1, bytes =>
    match readBlock? bytes with
    | some (block, rest) => block :: rawBlocksFrom fuel rest
    | none => []

/-- The blocks of a byte sequence. -/
def rawBlocks (bytes : List UInt8) : List RawBlock := rawBlocksFrom bytes.length bytes

/-- The content of a block: what it holds, and the data. -/
structure Block where
  label : String
  data : List UInt8
  deriving DecidableEq

/-- The lines of a text, without their line ends; no line follows the last line end. -/
def linesOf : List Char → List (List Char)
  | [] => []
  | c :: rest =>
    if c = '\n' then [] :: linesOf rest
    else match linesOf rest with
      | [] => [[c]]
      | line :: lines => (c :: line) :: lines

/-- Whether a character between the symbols of data is passed over. -/
def isFiller (c : Char) : Bool :=
  Unicode.isBlank c && !(0x1c ≤ c.toNat && c.toNat ≤ 0x1f)

/-- Whether every header has a name, a colon and a value. -/
def areHeaders (headers : List Char) : Bool := (linesOf headers).all (·.contains ':')

/-- The content of a block.  Its labels agree and are not empty, its headers are well formed, and
its data are Base64 with blanks anywhere. -/
def RawBlock.block? (raw : RawBlock) : Option Block := do
  let label ← Utf8.decode? raw.openLabel
  let closing ← Utf8.decode? raw.closeLabel
  let headers ← Utf8.decode? raw.headers
  let text ← Utf8.decode? raw.data
  let symbols := (text.toList.filter (!isFiller ·)).flatMap Utf8.encodeChar
  let data ← Base64.decode? symbols
  if label ≠ "" ∧ label = closing ∧ areHeaders headers.toList then some { label, data } else none

/-- The contents of all blocks of a byte sequence, if all are well formed. -/
def blocks? (bytes : List UInt8) : Option (List Block) := (rawBlocks bytes).mapM RawBlock.block?

/-- Breaks bytes into lines of a width, each closed by a line end; `room` is what is left of the
current line. -/
def wrapLines (width : Nat) (lineEnd : List UInt8) : Nat → List UInt8 → List UInt8
  | _, [] => []
  | room, [b] => if room = 0 then lineEnd ++ b :: lineEnd else b :: lineEnd
  | 0, b :: rest => lineEnd ++ b :: wrapLines width lineEnd (width - 1) rest
  | room + 1, b :: rest => b :: wrapLines width lineEnd room rest

/-- Data as a block with lines of a width. -/
def armour (label : String) (width : Nat) (lineEnd data : List UInt8) : List UInt8 :=
  openMark ++ ascii label ++ dashes ++ lineEnd
    ++ wrapLines width lineEnd width (Base64.encode data)
    ++ closeMark ++ ascii label ++ dashes ++ lineEnd

end PeerName.Pem

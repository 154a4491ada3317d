import PeerName.Number.Layout

/-!
# UTF-8

Bytes are read as text by the UTF-8 rules: shortest forms only, no surrogates, nothing beyond the
last plane.  Bytes that break the rules are reported by the place of the first faulty sequence,
its length and what is wrong with it.

* `Utf8.encode` — the bytes of a text;
* `Utf8.decode` — the characters of bytes, or the first fault;
* `Utf8.decode?` — the text of bytes.
-/

namespace PeerName.Utf8

/-- The bytes of a character. -/
def encodeChar (c : Char) : List UInt8 :=
  let n := c.toNat
  if n < 0x80 then [UInt8.ofNat n]
  else if n < 0x800 then [UInt8.ofNat (0xc0 + n / 64), UInt8.ofNat (0x80 + n % 64)]
  else if n < 0x10000 then
    [UInt8.ofNat (0xe0 + n / 4096), UInt8.ofNat (0x80 + n / 64 % 64), UInt8.ofNat (0x80 + n % 64)]
  else
    [UInt8.ofNat (0xf0 + n / 262144), UInt8.ofNat (0x80 + n / 4096 % 64),
      UInt8.ofNat (0x80 + n / 64 % 64), UInt8.ofNat (0x80 + n % 64)]

/-- The bytes of a text. -/
def encode (s : String) : List UInt8 := s.toList.flatMap encodeChar

/-- What is wrong with a faulty sequence. -/
inductive Flaw where
  /-- No character begins with this byte. -/
  | start
  /-- The byte after the sequence does not continue it. -/
  | continuation
  /-- The bytes end inside a character. -/
  | truncated
  deriving DecidableEq

/-- A faulty sequence. -/
structure Fault where
  /-- Where the sequence begins. -/
  position : Nat
  /-- The bytes of the sequence; there is at least one. -/
  sequence : List UInt8
  flaw : Flaw
  deriving DecidableEq

/-- What is wrong, in words. -/
def Flaw.text : Flaw → String
  | start => "invalid start byte"
  | continuation => "invalid continuation byte"
  | truncated => "unexpected end of data"

/-- The report of a faulty sequence: a single byte is shown, of several their range. -/
def Fault.message (f : Fault) : String :=
  let number (n : Nat) := String.ofList (natText n)
  let place := match f.sequence with
    | [b] =>
      "byte 0x" ++ String.ofList (zeroFill 2 (digitsOf 16 b.toNat)) ++ " in position "
        ++ number f.position
    | _ => "bytes in position " ++ number f.position ++ "-"
        ++ number (f.position + f.sequence.length - 1)
  "'utf-8' codec can't decode " ++ place ++ ": " ++ f.flaw.text

/-- Whether a byte lies between two bounds. -/
def within (low high : Nat) (b : UInt8) : Bool := low ≤ b.toNat && b.toNat ≤ high

/-- Whether a byte continues a character. -/
def isContinuation (b : UInt8) : Bool := within 0x80 0xbf b

/-- The least second byte after a first byte. -/
def secondLow (a : UInt8) : Nat := if a = 0xe0 then 0xa0 else if a = 0xf0 then 0x90 else 0x80

/-- The greatest second byte after a first byte. -/
def secondHigh (a : UInt8) : Nat := if a = 0xed then 0x9f else if a = 0xf4 then 0x8f else 0xbf

/-- Whether a byte may follow a first byte. -/
def isSecond (a b : UInt8) : Bool := within (secondLow a) (secondHigh a) b

/-- The six low bits of a continuing byte. -/
def low6 (b : UInt8) : Nat := b.toNat % 64

/-- The characters of bytes that begin at a position, or the first fault. -/
def decodeFrom (pos : Nat) : List UInt8 → Except Fault (List Char)
  | [] => .ok []
  | a :: rest =>
    if a.toNat < 0x80 then (decodeFrom (pos + 1) rest).map (Char.ofNat a.toNat :: ·)
    else if within 0xc2 0xdf a then
      match rest with
      | [] => .error ⟨pos, [a], .truncated⟩
      | b :: rest =>
        if isSecond a b then
          (decodeFrom (pos + 2) rest).map (Char.ofNat (a.toNat % 32 * 64 + low6 b) :: ·)
        else .error ⟨pos, [a], .continuation⟩
    else if within 0xe0 0xef a then
      match rest with
      | [] => .error ⟨pos, [a], .truncated⟩
      | b :: rest =>
        if isSecond a b then
          match rest with
          | [] => .error ⟨pos, [a, b], .truncated⟩
          | c :: rest =>
            if isContinuation c then
              (decodeFrom (pos + 3) rest).map
                (Char.ofNat (a.toNat % 16 * 4096 + low6 b * 64 + low6 c) :: ·)
            else .error ⟨pos, [a, b], .continuation⟩
        else .error ⟨pos, [a], .continuation⟩
    else if within 0xf0 0xf4 a then
      match rest with
      | [] => .error ⟨pos, [a], .truncated⟩
      | b :: rest =>
        if isSecond a b then
          match rest with
          | [] => .error ⟨pos, [a, b], .truncated⟩
          | c :: rest =>
            if isContinuation c then
              match rest with
              | [] => .error ⟨pos, [a, b, c], .truncated⟩
              | d :: rest =>
                if isContinuation d then
                  (decodeFrom (pos + 4) rest).map
                    (Char.ofNat (a.toNat % 8 * 262144 + low6 b * 4096 + low6 c * 64 + low6 d) :: ·)
                else .error ⟨pos, [a, b, c], .continuation⟩
            else .error ⟨pos, [a, b], .continuation⟩
        else .error ⟨pos, [a], .continuation⟩
    else .error ⟨pos, [a], .start⟩

/-- The characters of bytes, or the first fault. -/
def decode (bytes : List UInt8) : Except Fault (List Char) := decodeFrom 0 bytes

/-- The text of bytes, if they follow the rules. -/
def decode? (bytes : List UInt8) : Option String :=
  match decode bytes with
  | .ok chars => some (String.ofList chars)
  | .error _ => none

end PeerName.Utf8

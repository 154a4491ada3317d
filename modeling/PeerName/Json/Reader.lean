import PeerName.Value.Basic

/-!
# Reading JSON text

A JSON text is read into a value.  A number without a fraction and without an exponent is an
integer of any size, every other number is the nearest double, and the doubles that are no numbers
have words of their own; two escapes that name the halves of a UTF-16 pair are joined into one
character.

* `Json.decode?` — the value of a text that is JSON and nothing more;
* `Json.readValue`, `Json.readText`, `Json.readNumber` — the parts, each giving what is left of
  the text.

The readers recurse on a fuel that is the length of the text, since every call to a nested value
follows at least one character that is used up.
-/

namespace PeerName.Json

/-- The blanks between the tokens of a JSON text. -/
def isSpace (c : Char) : Bool := c = ' ' || c = '\n' || c = '\r' || c = '\t'

/-- Drops the blanks in front. -/
def skipSpace (s : List Char) : List Char := s.dropWhile isSpace

/-- The value of a hexadecimal digit. -/
def hexValue? (c : Char) : Option Nat :=
  if '0' ≤ c ∧ c ≤ '9' then some (c.toNat - 0x30)
  else if 'a' ≤ c ∧ c ≤ 'f' then some (c.toNat - 0x57)
  else if 'A' ≤ c ∧ c ≤ 'F' then some (c.toNat - 0x37)
  else none

/-- The code unit written in four hexadecimal digits, and what follows them. -/
def readUnit : List Char → Option (Nat × List Char)
  | a :: b :: c :: d :: rest => do
    let a ← hexValue? a
    let b ← hexValue? b
    let c ← hexValue? c
    let d ← hexValue? d
    some (((a * 16 + b) * 16 + c) * 16 + d, rest)
  | _ => none

/-- The character that a short escape stands for. -/
def shortEscape? (c : Char) : Option Char :=
  if c = 'n' then some '\n'
  else if c = 'r' then some '\r'
  else if c = 't' then some '\t'
  else if c = 'b' then some (Char.ofNat 8)
  else if c = 'f' then some (Char.ofNat 12)
  else if c = Char.ofNat 0x22 ∨ c = '\\' ∨ c = '/' then some c
  else none

/-- The character of an escape after its backslash, and what follows it. -/
def readEscape : List Char → Option (Char × List Char)
  | 'u' :: rest => do
    let (high, rest) ← readUnit rest
    if 0xd800 ≤ high ∧ high < 0xdc00 then
      match rest with
      | '\\' :: 'u' :: more => do
        let (low, rest) ← readUnit more
        if 0xdc00 ≤ low ∧ low < 0xe000 then
          some (Char.ofNat (0x10000 + (high - 0xd800) * 0x400 + (low - 0xdc00)), rest)
        else none
      | _ => none
    else if 0xdc00 ≤ high ∧ high < 0xe000 then none
    else some (Char.ofNat high, rest)
  | c :: rest => (shortEscape? c).map fun c => (c, rest)
  | [] => none

/-- The characters of a text up to its closing mark, and what follows the mark. -/
def readTextFrom : Nat → List Char → Option (List Char × List Char)
  | 0, _ => none
  | _, [] => none
  | fuel + 1, c :: rest =>
    if c = Char.ofNat 0x22 then some ([], rest)
    else if c = '\\' then do
      let (c, rest) ← readEscape rest
      let (s, rest) ← readTextFrom fuel rest
      some (c :: s, rest)
    else if c.toNat < 0x20 then none
    else do
      let (s, rest) ← readTextFrom fuel rest
      some (c :: s, rest)

/-- A text between quotation marks, and what follows it. -/
def readText : List Char → Option (String × List Char)
  | c :: rest =>
    if c = Char.ofNat 0x22 then
      (readTextFrom (rest.length + 1) rest).map fun r => (String.ofList r.1, r.2)
    else none
  | [] => none

/-- The number that decimal digits stand for. -/
def digitsValue (digits : List Char) : Nat :=
  digits.foldl (fun n c => n * 10 + (c.toNat - 0x30)) 0

/-- A number, and what follows it. -/
def readNumber (s : List Char) : Option (Value × List Char) :=
  let negative := s.head? = some '-'
  let s := if negative then s.drop 1 else s
  let whole := s.takeWhile Char.isDigit
  let rest := s.dropWhile Char.isDigit
  if whole.isEmpty ∨ (whole.head? = some '0' ∧ whole.length ≠ 1) then none
  else
    let places := match rest with
      | '.' :: more => more.takeWhile Char.isDigit
      | _ => []
    let rest' := if places.isEmpty then rest else rest.drop (places.length + 1)
    let exponent : Option (Int × List Char) := match rest' with
      | e :: more =>
        if e = 'e' ∨ e = 'E' then
          let signed := more.head? = some '-' ∨ more.head? = some '+'
          let digits := (if signed then more.drop 1 else more).takeWhile Char.isDigit
          if digits.isEmpty then none
          else
            let n := (digitsValue digits : Int)
            some (if more.head? = some '-' then -n else n,
              (if signed then more.drop 1 else more).drop digits.length)
        else none
      | [] => none
    if places.isEmpty ∧ exponent.isNone then
      let n := (digitsValue whole : Int)
      some (.int (if negative then -n else n), rest)
    else
      let (e, rest'') := exponent.getD (0, rest')
      let digits := whole ++ places
      some (.real (.ofDecimal negative (digitsValue digits) digits.length (e - places.length)),
        rest'')

/-- Adds a named value; a name that is there already keeps its place and gets the new value. -/
def putField (fields : List (String × Value)) (name : String) (v : Value) :
    List (String × Value) :=
  if fields.any (·.1 == name) then fields.map fun f => if f.1 == name then (name, v) else f
  else fields ++ [(name, v)]

mutual

/-- A value, and what follows it. -/
def readValue : Nat → List Char → Option (Value × List Char)
  | 0, _ => none
  | fuel + 1, s =>
    match skipSpace s with
    | [] => none
    | 'n' :: 'u' :: 'l' :: 'l' :: rest => some (.null, rest)
    | 't' :: 'r' :: 'u' :: 'e' :: rest => some (.bool true, rest)
    | 'f' :: 'a' :: 'l' :: 's' :: 'e' :: rest => some (.bool false, rest)
    | 'N' :: 'a' :: 'N' :: rest => some (.real .undefined, rest)
    | 'I' :: 'n' :: 'f' :: 'i' :: 'n' :: 'i' :: 't' :: 'y' :: rest =>
      some (.real (.infinite false), rest)
    | '-' :: 'I' :: 'n' :: 'f' :: 'i' :: 'n' :: 'i' :: 't' :: 'y' :: rest =>
      some (.real (.infinite true), rest)
    | '[' :: rest =>
      match skipSpace rest with
      | ']' :: rest => some (.list [], rest)
      | rest => (readItems fuel rest).map fun r => (.list r.1, r.2)
    | c :: rest =>
      if c = Char.ofNat 0x22 then (readText (c :: rest)).map fun r => (.text r.1, r.2)
      else if c = Char.ofNat 0x7b then
        match skipSpace rest with
        | d :: more =>
          if d = Char.ofNat 0x7d then some (.record [], more)
          else (readFields fuel [] (d :: more)).map fun r => (.record r.1, r.2)
        | [] => none
      else readNumber (c :: rest)

/-- The items of a list up to its closing bracket, and what follows it. -/
def readItems : Nat → List Char → Option (List Value × List Char)
  | 0, _ => none
  | fuel + 1, s => do
    let (v, rest) ← readValue fuel s
    match skipSpace rest with
    | ',' :: rest => do
      let (items, rest) ← readItems fuel rest
      some (v :: items, rest)
    | ']' :: rest => some ([v], rest)
    | _ => none

/-- The named values of a record up to its closing brace, and what follows it. -/
def readFields : Nat → List (String × Value) → List Char →
    Option (List (String × Value) × List Char)
  | 0, _, _ => none
  | fuel + 1, fields, s => do
    let (name, rest) ← readText (skipSpace s)
    match skipSpace rest with
    | ':' :: rest => do
      let (v, rest) ← readValue fuel rest
      let fields := putField fields name v
      match skipSpace rest with
      | ',' :: rest => readFields fuel fields rest
      | c :: rest => if c = Char.ofNat 0x7d then some (fields, rest) else none
      | [] => none
    | _ => none

end

/-- The value of a JSON text, or nothing if the text is not JSON. -/
def decode? (s : String) : Option Value :=
  let chars := s.toList
  match readValue (chars.length + 1) chars with
  | some (v, rest) => if (skipSpace rest).isEmpty then some v else none
  | none => none

end PeerName.Json

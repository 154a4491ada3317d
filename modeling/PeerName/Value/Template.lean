import PeerName.Number.Rounded
import PeerName.Text.Quoted
import PeerName.Value.Display

/-!
# Templates

A message can be a template with directives that are filled with values.  A directive begins with
a percent sign and ends with the letter of a conversion; in between stand, in this order and all
optional, a name in parentheses, flags, a width, a precision and a size letter that means nothing.
Two percent signs in a row stand for one.  Values are taken in order, or by name from a record.

* `Template.fill` — the text of a template filled with values;
* `Template.fillWith` — the same, where a single record that is not empty gives named values;
* `Template.Fault` — why a template cannot be filled.
-/

namespace PeerName.Template

/-- Why a template cannot be filled. -/
inductive Fault where
  /-- There are fewer values than directives. -/
  | tooFew
  /-- There are more values than directives. -/
  | tooMany
  /-- A directive names a value, but the values have no names. -/
  | needsRecord
  /-- No value has this name. -/
  | missingKey (name : String)
  /-- The name of a value is not closed. -/
  | incompleteKey
  /-- The template ends inside a directive. -/
  | incomplete
  /-- A width or a precision that is taken from the values is no integer. -/
  | needsInteger
  | widthTooBig
  | precisionTooBig
  /-- A width that is taken from the values is beyond the sizes of texts. -/
  | widthOverflow
  /-- A precision that is taken from the values is beyond the numbers of places. -/
  | precisionOverflow
  /-- There is no such conversion; it stands at this place. -/
  | unknownConversion (c : Char) (index : Nat)
  /-- The conversion needs a number. -/
  | needsNumber (c : Char) (kind : String)
  /-- The conversion needs an integer. -/
  | needsWholeNumber (c : Char) (kind : String)
  /-- The conversion needs a number that has a fraction. -/
  | needsReal (kind : String)
  /-- The conversion needs a character. -/
  | needsCharacter
  /-- There is no character of this number. -/
  | noCharacter
  | infiniteInteger
  | undefinedInteger
  /-- The integer is beyond the range of the doubles. -/
  | integerTooBig
  /-- A value cannot be written out. -/
  | unwritable (cause : Mismatch)
  deriving DecidableEq

/-- The report of a fault. -/
def Fault.message : Fault → String
  | tooFew => "not enough arguments for format string"
  | tooMany => "not all arguments converted during string formatting"
  | needsRecord => "format requires a mapping"
  | missingKey name => Text.quoted name
  | incompleteKey => "incomplete format key"
  | incomplete => "incomplete format"
  | needsInteger => "* wants int"
  | widthTooBig => "width too big"
  | precisionTooBig => "precision too big"
  | widthOverflow => "width out of range"
  | precisionOverflow => "precision out of range"
  | unknownConversion c index =>
    let shown := if 31 ≤ c.toNat ∧ c.toNat ≤ 126 then c else '?'
    "unsupported format character '" ++ String.singleton shown ++ "' (0x"
      ++ String.ofList (digitsOf 16 c.toNat) ++ ") at index " ++ String.ofList (natText index)
  | needsNumber c kind =>
    "%" ++ String.singleton c ++ " format: a real number is required, not " ++ kind
  | needsWholeNumber c kind =>
    "%" ++ String.singleton c ++ " format: an integer is required, not " ++ kind
  | needsReal kind => "must be real number, not " ++ kind
  | needsCharacter => "%c requires int or char"
  | noCharacter => "%c arg not in range(0x110000)"
  | infiniteInteger => "cannot convert float infinity to integer"
  | undefinedInteger => "cannot convert float NaN to integer"
  | integerTooBig => "int too large to convert to float"
  | unwritable cause => cause.message

/-- The flags of a directive. -/
structure Flags where
  left : Bool := false
  plus : Bool := false
  blank : Bool := false
  alternate : Bool := false
  zero : Bool := false

/-- The values that are left for the directives to come. -/
structure Supply where
  /-- The named values, if the values have names. -/
  named : Option (List (String × Value))
  rest : List Value

/-- The next value. -/
def Supply.next (s : Supply) : Except Fault (Value × Supply) :=
  match s.rest with
  | [] => .error .tooFew
  | v :: rest => .ok (v, { s with rest })

/-! ### Reading a directive -/

/-- A name up to the parenthesis that closes it, where parentheses inside are balanced; `depth` is
the number of those still open. -/
def readKey : Nat → List Char → Option (List Char × List Char)
  | _, [] => none
  | depth, c :: rest =>
    if c = ')' then
      if depth = 0 then some ([], rest)
      else (readKey (depth - 1) rest).map fun r => (c :: r.1, r.2)
    else (readKey (if c = '(' then depth + 1 else depth) rest).map fun r => (c :: r.1, r.2)

/-- Takes the name of a directive, and the value of that name. -/
def takeKey (supply : Supply) : List Char → Except Fault (Supply × List Char)
  | '(' :: rest =>
    match supply.named with
    | none => .error .needsRecord
    | some fields =>
      match readKey 0 rest with
      | none => .error .incompleteKey
      | some (name, rest) =>
        match fields.lookup (String.ofList name) with
        | none => .error (.missingKey (String.ofList name))
        | some v => .ok ({ supply with rest := [v] }, rest)
  | s => .ok (supply, s)

/-- Takes the flags of a directive. -/
def takeFlags (flags : Flags) : List Char → Flags × List Char
  | '-' :: rest => takeFlags { flags with left := true } rest
  | '+' :: rest => takeFlags { flags with plus := true } rest
  | ' ' :: rest => takeFlags { flags with blank := true } rest
  | '#' :: rest => takeFlags { flags with alternate := true } rest
  | '0' :: rest => takeFlags { flags with zero := true } rest
  | s => (flags, s)

/-- The number that decimal digits stand for. -/
def digitsValue (digits : List Char) : Nat :=
  digits.foldl (fun n c => n * 10 + (c.toNat - 0x30)) 0

/-- The integer that a value is, where truth values count. -/
def integer? : Value → Option Int
  | .int n => some n
  | .bool b => some (if b then 1 else 0)
  | _ => none

/-- The bounds of a size: its greatest value, and the faults of what goes beyond it. -/
structure Bounds where
  max : Nat
  /-- The fault of a size that is written out. -/
  tooBig : Fault
  /-- The fault of a size that is taken from the values. -/
  overflow : Fault

/-- The bounds of a width. -/
def widthBounds : Bounds := ⟨Nat.pow 2 63 - 1, .widthTooBig, .widthOverflow⟩

/-- The bounds of a precision. -/
def precisionBounds : Bounds := ⟨Nat.pow 2 31 - 1, .precisionTooBig, .precisionOverflow⟩

/-- Takes a size of a directive, written out or from the values. -/
def takeSize (supply : Supply) (bounds : Bounds) :
    List Char → Except Fault (Option Int × Supply × List Char)
  | '*' :: rest => do
    let (v, supply) ← supply.next
    match integer? v with
    | none => throw .needsInteger
    | some n =>
      if -(bounds.max : Int) - 1 ≤ n ∧ n ≤ bounds.max then return (some n, supply, rest)
      else throw bounds.overflow
  | s =>
    let digits := s.takeWhile Char.isDigit
    if digits.isEmpty then .ok (none, supply, s)
    else if bounds.max < digitsValue digits then .error bounds.tooBig
    else .ok (some (digitsValue digits), supply, s.drop digits.length)

/-- Takes the precision of a directive, which follows a point. -/
def takePrecision (supply : Supply) : List Char → Except Fault (Option Nat × Supply × List Char)
  | '.' :: rest => do
    let (n, supply, rest) ← takeSize supply precisionBounds rest
    return (some (n.getD 0).toNat, supply, rest)
  | s => .ok (none, supply, s)

/-- Drops one size letter. -/
def dropSizeLetter : List Char → List Char
  | c :: rest => if c = 'h' ∨ c = 'l' ∨ c = 'L' then rest else c :: rest
  | [] => []

/-! ### Conversions -/

/-- A converted value before padding. -/
structure Piece where
  sign : List Char := []
  /-- The mark of the base. -/
  base : List Char := []
  body : Text.CodePoints
  /-- Whether zeros can fill the width. -/
  numeric : Bool := false

/-- A piece filled up to a width: with blanks on either side, or with zeros behind the sign and
the mark of the base. -/
def Piece.pad (p : Piece) (flags : Flags) (width : Nat) : Text.CodePoints :=
  let front := Text.codePoints (p.sign ++ p.base)
  let fill (c : Char) := List.replicate (width - (front.length + p.body.length)) c.toNat
  if flags.left then front ++ p.body ++ fill ' '
  else if p.numeric && flags.zero then front ++ fill '0' ++ p.body
  else fill ' ' ++ front ++ p.body

/-- The sign of a number. -/
def signOf (flags : Flags) (negative : Bool) : List Char :=
  if negative then ['-'] else if flags.plus then ['+'] else if flags.blank then [' '] else []

/-- An integer to the base that a conversion asks for. -/
def integerPiece (flags : Flags) (precision : Option Nat) (c : Char) (n : Int) : Piece :=
  let base := if c = 'o' then 8 else if c = 'x' ∨ c = 'X' then 16 else 10
  let digits := zeroFill (precision.getD 0) (digitsOf base n.natAbs)
  let digits := if c = 'X' then digits.map Char.toUpper else digits
  { sign := signOf flags (n < 0), body := Text.codePoints digits, numeric := true,
    base := if flags.alternate && base ≠ 10 then ['0', c] else [] }

/-- The integer part of a double. -/
def truncate (x : Binary64) : Except Fault Int :=
  match x.decode with
  | .infinite => .error .infiniteInteger
  | .undefined => .error .undefinedInteger
  | .finite m q =>
    let two := powerRatio 2 q
    let n : Int := (m * two.1 / two.2 : Nat)
    .ok (if x.isNegative then -n else n)

/-- The integer that a conversion takes from a value. -/
def wholeNumber (c : Char) (v : Value) : Except Fault Int :=
  let exact := c = 'o' ∨ c = 'x' ∨ c = 'X'
  match integer? v with
  | some n => .ok n
  | none =>
    match v with
    | .real x => if exact then .error (.needsWholeNumber c "float") else truncate x
    | v => .error (if exact then .needsWholeNumber c v.kind else .needsNumber c v.kind)

/-- The double that a conversion takes from a value. -/
def realNumber (v : Value) : Except Fault Binary64 :=
  match v with
  | .real x => .ok x
  | v =>
    match integer? v with
    | none => .error (.needsReal v.kind)
    | some n =>
      let x := Binary64.ofInt n
      if x = Binary64.infinite (n < 0) then .error .integerTooBig else .ok x

/-- A double in the form that a conversion asks for. -/
def realPiece (flags : Flags) (precision : Option Nat) (c : Char) (x : Binary64) : Piece :=
  let places := precision.getD 6
  let mark := if c.isUpper then 'E' else 'e'
  let body := match x.decode with
    | .infinite => ['i', 'n', 'f']
    | .undefined => ['n', 'a', 'n']
    | .finite m q =>
      match c.toLower with
      | 'e' => scientificText m q places mark flags.alternate
      | 'f' => fixedText m q places flags.alternate
      | _ => generalText m q places mark flags.alternate
  let undefined := match x.decode with
    | .undefined => true
    | _ => false
  { sign := signOf flags (x.isNegative && !undefined), numeric := true,
    body := Text.codePoints (if c.isUpper then body.map Char.toUpper else body) }

/-- The number of the character that a value is, or the code point that it is. -/
def character (v : Value) : Except Fault Nat :=
  match v with
  | .text s =>
    match s.toList with
    | [c] => .ok c.toNat
    | _ => .error .needsCharacter
  | v =>
    match integer? v with
    | none => .error .needsCharacter
    | some n =>
      if 0 ≤ n ∧ n < Text.codePointBound then .ok n.toNat else .error .noCharacter

/-- A text in which the characters outside ASCII are escaped. -/
def escapeBeyondAscii (s : List Char) : List Char :=
  s.flatMap fun c =>
    if c.toNat < 0x80 then [c]
    else if c.toNat < 0x100 then '\\' :: 'x' :: Text.hexText 2 c.toNat
    else if c.toNat < 0x10000 then '\\' :: 'u' :: Text.hexText 4 c.toNat
    else '\\' :: 'U' :: Text.hexText 8 c.toNat

/-- A value converted to text; a precision limits its length. -/
def textPiece (precision : Option Nat) (c : Char) (v : Value) : Piece :=
  let s := if c = 's' then v.plain.toList
    else if c = 'r' then v.quotedChars
    else escapeBeyondAscii v.quotedChars
  { body := Text.codePoints (match precision with
      | some n => s.take n
      | none => s) }

section Limits

variable [Limits]

/-- A piece that shows a value, if this can be written out. -/
def Piece.showing (v : Value) (piece : Piece) : Except Fault Piece :=
  match Desk.message.hindrance? [v] with
  | some cause => .error (.unwritable cause)
  | none => .ok piece

/-- A value in the form that a conversion asks for; `index` is the place of the conversion.  Only
integers to the base ten can have too many digits. -/
def convert (flags : Flags) (precision : Option Nat) (c : Char) (index : Nat) (v : Value) :
    Except Fault Piece :=
  if c = 's' ∨ c = 'r' ∨ c = 'a' then (textPiece precision c v).showing v
  else if ['d', 'i', 'u'].contains c then do
    let n ← wholeNumber c v
    (integerPiece flags precision c n).showing (.int n)
  else if ['o', 'x', 'X'].contains c then
    (wholeNumber c v).map (integerPiece flags precision c)
  else if ['e', 'E', 'f', 'F', 'g', 'G'].contains c then
    (realNumber v).map (realPiece flags precision c)
  else if c = 'c' then (character v).map fun n => { body := [n] }
  else .error (.unknownConversion c index)

/-! ### Filling -/

/-- The text of the directive at the beginning of a text, after its percent sign, with what is
left of the values and of the text; `total` is the length of the whole template. -/
def fillDirective (total : Nat) (supply : Supply) (s : List Char) :
    Except Fault (Text.CodePoints × Supply × List Char) := do
  let (supply, s) ← takeKey supply s
  let (flags, s) := takeFlags {} s
  let (width, supply, s) ← takeSize supply widthBounds s
  let flags := if (width.getD 0) < 0 then { flags with left := true } else flags
  let (precision, supply, s) ← takePrecision supply s
  match dropSizeLetter s with
  | [] => throw .incomplete
  | c :: s =>
    let (v, supply) ← supply.next
    let piece ← convert flags precision c (total - s.length - 1) v
    return (piece.pad flags (width.getD 0).natAbs, supply, s)

/-- Fills a text; `fuel` bounds the number of its parts. -/
def fillFrom (total : Nat) : Nat → Supply → List Char → Except Fault Text.CodePoints
  | 0, _, _ => .ok []
  | _, supply, [] =>
    if supply.named.isNone && !supply.rest.isEmpty then .error .tooMany else .ok []
  | fuel + 1, supply, c :: s =>
    if c = '%' then
      if s.head? = some '%' then (fillFrom total fuel supply (s.drop 1)).map (c.toNat :: ·)
      else do
        let (piece, supply, s) ← fillDirective total supply s
        let more ← fillFrom total fuel supply s
        return piece ++ more
    else (fillFrom total fuel supply s).map (c.toNat :: ·)

/-- The text of a template filled with the values of a supply. -/
def fill (template : String) (supply : Supply) : Except Fault Text.CodePoints :=
  fillFrom template.length (template.length + 1) supply template.toList

/-- The text of a template filled with values.  Without values it is no template; a single record
that is not empty gives named values. -/
def fillWith (template : String) : List Value → Except Fault Text.CodePoints
  | [] => .ok (Text.codePoints template.toList)
  | [.record (f :: fields)] =>
    fill template { named := some (f :: fields), rest := [.record (f :: fields)] }
  | values => fill template { named := none, rest := values }

end Limits

end PeerName.Template

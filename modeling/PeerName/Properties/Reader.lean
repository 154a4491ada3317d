import PeerName.Properties.Document
import PeerName.Text.Lines
import PeerName.Unicode.Casing
import PeerName.Unicode.Category

/-!
# Reading documents of named options

A line whose first character that is not blank is a number sign or a semicolon is a comment.  A
line in square brackets opens a section.  A line with an equals sign or a colon gives an option;
its name is read without regard to case.  A line that is indented deeper than the option before
it continues its value, and an empty line belongs to the value of the option before it, though
what is empty at the end of a value does not count.  A section must not be opened twice and must
not have an option twice; both are reported at once.  Lines of no known form are collected and
reported together at the end.

* `Draft` — what has been read so far;
* `Draft.readLine` — the effect of one line;
* `Document.ofLines` — the document that lines form.
-/

namespace PeerName.Properties

open Unicode (isBlank trim trimEnd)

/-- Options whose values are still lists of lines. -/
abbrev OpenOptions := List (String × List (List Char))

/-- What has been read of a document. -/
structure Draft where
  defaults : OpenOptions := []
  sections : List (String × OpenOptions) := []
  /-- The section that is open. -/
  current : Option String := none
  /-- The option that can be continued. -/
  option : Option String := none
  /-- How far the line of that option, or the last header, is indented. -/
  indent : Nat := 0
  /-- The lines of no known form, with their numbers. -/
  unreadable : List (Nat × String) := []

namespace Draft

/-- Changes the options of the open section. -/
def update (d : Draft) (change : OpenOptions → OpenOptions) : Draft :=
  match d.current with
  | none => d
  | some name =>
    if name = defaultName then { d with defaults := change d.defaults }
    else { d with sections := d.sections.map fun s =>
      if s.1 = name then (s.1, change s.2) else s }

/-- The options of the open section. -/
def openOptions (d : Draft) : OpenOptions :=
  match d.current with
  | none => []
  | some name =>
    if name = defaultName then d.defaults else (d.sections.lookup name).getD []

/-- Adds a line to the value of the option that can be continued, if there is one. -/
def extend (d : Draft) (line : List Char) : Draft :=
  match d.option with
  | none => d
  | some option =>
    d.update fun options => options.map fun o =>
      if o.1 = option then (o.1, o.2 ++ [line]) else o

/-- Opens a section. -/
def enter (d : Draft) (number : Nat) (name : String) : Except SyntaxFault Draft :=
  if name = defaultName then .ok { d with current := some name, option := none }
  else if d.sections.any (·.1 = name) then .error (.repeatedSection number name)
  else .ok { d with
    current := some name, option := none, sections := d.sections ++ [(name, [])] }

/-- Adds an option to the open section.  An option without a name cannot be continued. -/
def addOption (d : Draft) (number : Nat) (owner name : String) (value : List Char) :
    Except SyntaxFault Draft :=
  if d.openOptions.any (·.1 = name) then .error (.repeatedOption number owner name)
  else
    let d := d.update (· ++ [(name, [value])])
    .ok { d with option := if name = "" then none else some name }

/-- Notes a line of no known form. -/
def note (d : Draft) (number : Nat) (line : List Char) : Draft :=
  { d with unreadable := d.unreadable ++ [(number, String.ofList line)] }

end Draft

/-- Whether a line without its blanks is a comment. -/
def isComment (value : List Char) : Bool :=
  value.head? = some '#' || value.head? = some ';'

/-- The name that a line opens a section with: what stands between a square bracket at its
beginning and the last closing one. -/
def header? (value : List Char) : Option (List Char) :=
  match value with
  | '[' :: rest =>
    let name := ((rest.reverse.dropWhile (· != ']')).drop 1).reverse
    if name.isEmpty then none else some name
  | _ => none

/-- Whether a character separates the name of an option from its value. -/
def isDelimiter (c : Char) : Bool := c = '=' || c = ':'

/-- The name and the value that a line gives an option. -/
def option? (value : List Char) : Option (List Char × List Char) :=
  match value.dropWhile (!isDelimiter ·) with
  | _ :: rest => some (trimEnd (value.takeWhile (!isDelimiter ·)), trim rest)
  | [] => none

/-- The effect of a line that is a header or an option. -/
def Draft.readStatement (d : Draft) (number : Nat) (line value : List Char) :
    Except SyntaxFault Draft :=
  match header? value with
  | some name => d.enter number (String.ofList name)
  | none =>
    match d.current with
    | none => .error (.outside number (String.ofList line))
    | some owner =>
      match option? value with
      | none => .ok (d.note number line)
      | some (name, value) =>
        let d := if name.isEmpty then d.note number line else d
        d.addOption number owner (Unicode.lower (String.ofList name)) value

/-- The effect of a line. -/
def Draft.readLine (d : Draft) (number : Nat) (line : List Char) : Except SyntaxFault Draft :=
  let value := trim line
  let indent := (line.takeWhile isBlank).length
  if isComment value then .ok d
  else if value.isEmpty then .ok (d.extend [])
  else if d.option.isSome ∧ d.indent < indent then .ok (d.extend value)
  else { d with indent }.readStatement number line value

/-- The effect of lines, the first of which has a given number. -/
def Draft.readLines (d : Draft) (number : Nat) : List (List Char) → Except SyntaxFault Draft
  | [] => .ok d
  | line :: rest =>
    match d.readLine number line with
    | .ok d => d.readLines (number + 1) rest
    | .error fault => .error fault

/-- Closes the values of options: their lines are joined, and the end is trimmed. -/
def closeOptions (options : OpenOptions) : Options :=
  options.map fun o => (o.1, String.ofList (trimEnd (List.intercalate ['\n'] o.2)))

/-- The document that has been read. -/
def Draft.document (d : Draft) : Document where
  defaults := closeOptions d.defaults
  sections := d.sections.map fun s => (s.1, closeOptions s.2)

/-- Why a file is no document. -/
inductive ReadFault where
  | malformed (cause : SyntaxFault)
  | undecodable (cause : Utf8.Fault)

/-- The document that the lines of a file form. -/
def Document.ofLines (source : Text.Lines) : Except ReadFault Document :=
  match ({} : Draft).readLines 1 source.lines, source.fault with
  | .error cause, _ => .error (.malformed cause)
  | .ok _, some cause => .error (.undecodable cause)
  | .ok d, none =>
    if d.unreadable.isEmpty then .ok d.document else .error (.malformed (.unreadable d.unreadable))

end PeerName.Properties

import PeerName.Text.Quoted

/-!
# Documents of named options

A document has sections, and a section has options with texts as values.  A section of a fixed
name holds the defaults, which every other section inherits.

* `Document` — the defaults and the sections, in the order of the text;
* `SyntaxFault` — why a text is no document;
* `Unresolved` — why the references in a value cannot be followed.
-/

namespace PeerName.Properties

/-- Options in order, with their values. -/
abbrev Options := List (String × String)

/-- A document of named options. -/
structure Document where
  defaults : Options
  sections : List (String × Options)

/-- The name of the section with the defaults. -/
def defaultName : String := "DEFAULT"

/-- Why a text is no document. -/
inductive SyntaxFault where
  /-- The line, with this number, stands before the first section. -/
  | outside (number : Nat) (line : String)
  /-- The section was there before. -/
  | repeatedSection (number : Nat) (name : String)
  /-- The option was there before in the same section. -/
  | repeatedOption (number : Nat) (owner option : String)
  /-- These lines are neither headers nor options. -/
  | unreadable (lines : List (Nat × String))

/-- A number in at least two columns. -/
def number2 (n : Nat) : String :=
  let digits := natText n
  String.ofList (List.replicate (2 - digits.length) ' ' ++ digits)

/-- The report of a fault in the text of a file. -/
def SyntaxFault.message (file : String) : SyntaxFault → String
  | outside number line =>
    "File contains no section headers.\nfile: " ++ Text.quoted file ++ ", line: "
      ++ String.ofList (natText number) ++ "\n" ++ Text.quoted line
  | repeatedSection number name =>
    "While reading from " ++ Text.quoted file ++ " [line " ++ number2 number ++ "]: section "
      ++ Text.quoted name ++ " already exists"
  | repeatedOption number name option =>
    "While reading from " ++ Text.quoted file ++ " [line " ++ number2 number ++ "]: option "
      ++ Text.quoted option ++ " in section " ++ Text.quoted name ++ " already exists"
  | unreadable lines =>
    "Source contains parsing errors: " ++ Text.quoted file
      ++ String.join (lines.map fun line =>
        "\n\t[line " ++ number2 line.1 ++ "]: " ++ Text.quoted line.2)

/-- What is wrong with the references of a value. -/
inductive ReferenceFlaw where
  /-- A percent sign is followed by neither a percent sign nor a name in parentheses. -/
  | stray (rest : String)
  /-- A name in parentheses is not closed as it should be. -/
  | unclosed (rest : String)
  /-- No option has this name. -/
  | missing (name : String)
  /-- The references lead too deep. -/
  | depth

/-- Why the references in the value of an option cannot be followed. -/
structure Unresolved where
  /-- The section of the option. -/
  owner : String
  option : String
  /-- The value as it stands in the document. -/
  value : String
  flaw : ReferenceFlaw

/-- How deep references may lead. -/
def maxDepth : Nat := 10

/-- The report. -/
def Unresolved.message (u : Unresolved) : String :=
  match u.flaw with
  | .stray rest => "'%' must be followed by '%' or '(', found: " ++ Text.quoted rest
  | .unclosed rest => "bad interpolation variable reference " ++ Text.quoted rest
  | .missing name =>
    "Bad value substitution: option " ++ Text.quoted u.option ++ " in section "
      ++ Text.quoted u.owner ++ " contains an interpolation key " ++ Text.quoted name
      ++ " which is not a valid option name. Raw value: " ++ Text.quoted u.value
  | .depth =>
    "Recursion limit exceeded in value substitution: option " ++ Text.quoted u.option
      ++ " in section " ++ Text.quoted u.owner
      ++ " contains an interpolation key which cannot be substituted in "
      ++ String.ofList (natText maxDepth) ++ " steps. Raw value: " ++ Text.quoted u.value

end PeerName.Properties

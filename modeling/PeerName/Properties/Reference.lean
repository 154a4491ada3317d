import PeerName.Properties.Document
import PeerName.Unicode.Casing

/-!
# References between options

In a value, a percent sign followed by a name in parentheses and the letter s stands for the value
of the option of that name, whose own references are followed in turn.  Two percent signs stand
for one.

* `expand` — a value with its references followed;
* `Document.entries` — all options of a document with their values, section by section.
-/

namespace PeerName.Properties

/-- Follows the references of a value by `resolve`, which is given the name; `fuel` bounds the
number of steps along the value. -/
def expandWith (resolve : String → Except ReferenceFlaw (List Char)) :
    Nat → List Char → Except ReferenceFlaw (List Char)
  | 0, _ | _, [] => .ok []
  | fuel + 1, c :: rest =>
    if c ≠ '%' then (expandWith resolve fuel rest).map (c :: ·)
    else match rest with
      | '%' :: rest => (expandWith resolve fuel rest).map ('%' :: ·)
      | '(' :: inner =>
        let name := inner.takeWhile (· != ')')
        match inner.drop name.length with
        | ')' :: 's' :: rest =>
          if name.isEmpty then .error (.unclosed (String.ofList (c :: '(' :: inner)))
          else do
            let value ← resolve (Unicode.lower (String.ofList name))
            let more ← expandWith resolve fuel rest
            return value ++ more
        | _ => .error (.unclosed (String.ofList (c :: '(' :: inner)))
      | rest => .error (.stray (String.ofList (c :: rest)))

/-- A value with its references followed, given the options that can be named; `depth` says how
deep references may still lead. -/
def expand (options : Options) : Nat → List Char → Except ReferenceFlaw (List Char)
  | 0, _ => .error .depth
  | depth + 1, value =>
    expandWith (fun name =>
      match options.lookup name with
      | none => .error (.missing name)
      | some value =>
        if value.toList.contains '%' then expand options depth value.toList
        else .ok value.toList) value.length value

/-- Gives a name a value; a name that is there already keeps its place. -/
def putOption (options : Options) (name value : String) : Options :=
  if options.any (·.1 = name) then options.map fun o => if o.1 = name then (name, value) else o
  else options ++ [(name, value)]

/-- The options of a section: the defaults, overridden by its own. -/
def inherited (defaults own : Options) : Options :=
  own.foldl (fun options o => putOption options o.1 o.2) defaults

/-- The options of a section with their references followed. -/
def resolveSection (defaults : Options) (name : String) (own : Options) :
    Except Unresolved Options :=
  let options := inherited defaults own
  options.mapM fun o =>
    match expand options maxDepth o.2.toList with
    | .ok value => .ok (o.1, String.ofList value)
    | .error flaw => .error { owner := name, option := o.1, value := o.2, flaw }

/-- All options of a document: the defaults as they stand, and then the options of each section
under the name of the section, a dot and their own name.  A name that occurs again keeps its place
and gets the later value. -/
def Document.entries (doc : Document) : Except Unresolved Options :=
  doc.sections.foldlM (fun entries s => do
    let options ← resolveSection doc.defaults s.1 s.2
    return options.foldl (fun entries o => putOption entries (s.1 ++ "." ++ o.1) o.2) entries)
    doc.defaults

end PeerName.Properties

import PeerName.Value.Basic

/-!
# Binding named values to fields

A record of a fixed form is built from named values, or from values in the order of the fields.
Every name has to be a field of the form, there are no more values than fields, and every field
without a default has to be given.

* `Form` — the fields with their defaults;
* `Form.bind` — the values of the fields, given by name;
* `Form.bindInOrder` — the values of the fields, given in order;
* `Unbound` — why there are none.
-/

namespace PeerName.Fields

/-- The fields of a form in order; a field may have a default. -/
structure Form where
  name : String
  fields : List (String × Option Value)

/-- Why named values do not fit a form. -/
inductive Unbound where
  /-- The form itself is named. -/
  | reserved (form : String)
  /-- There is no such field. -/
  | unknown (form field : String)
  /-- These fields have no default and are not given. -/
  | missing (form : String) (fields : List String)
  /-- There are so many values, and room for these counts of them at the least and at the most. -/
  | tooMany (form : String) (least most given : Nat)
  deriving DecidableEq

/-- Names between quotation marks, with commas and an "and" between them. -/
def enumerate : List String → String
  | [] => ""
  | [a] => "'" ++ a ++ "'"
  | [a, b] => "'" ++ a ++ "' and '" ++ b ++ "'"
  | [a, b, c] => "'" ++ a ++ "', '" ++ b ++ "', and '" ++ c ++ "'"
  | a :: rest => "'" ++ a ++ "', " ++ enumerate rest

/-- The report. -/
def Unbound.message : Unbound → String
  | reserved form => form ++ ".__init__() got multiple values for argument 'self'"
  | unknown form field => form ++ ".__init__() got an unexpected keyword argument '" ++ field ++ "'"
  | missing form fields =>
    form ++ ".__init__() missing " ++ Nat.repr fields.length ++ " required positional argument"
      ++ (if fields.length = 1 then "" else "s") ++ ": " ++ enumerate fields
  | tooMany form least most given =>
    form ++ ".__init__() takes "
      ++ (if least = most then Nat.repr (most + 1)
        else "from " ++ Nat.repr (least + 1) ++ " to " ++ Nat.repr (most + 1))
      ++ " positional arguments but " ++ Nat.repr (given + 1) ++ " were given"

/-- The first name that is no field. -/
def Form.stranger? (form : Form) (given : List (String × Value)) : Option Unbound :=
  given.findSome? fun g =>
    if g.1 = "self" then some (.reserved form.name)
    else if form.fields.any (·.1 = g.1) then none
    else some (.unknown form.name g.1)

/-- The value of a field. -/
def fieldValue (given : List (String × Value)) (field : String × Option Value) : Option Value :=
  (given.lookup field.1).or field.2

/-- The values of the fields of a form. -/
def Form.bind (form : Form) (given : List (String × Value)) : Except Unbound (List Value) :=
  match form.stranger? given with
  | some fault => .error fault
  | none =>
    match form.fields.mapM (fieldValue given) with
    | some values => .ok values
    | none =>
      .error (.missing form.name
        ((form.fields.filter fun field => (fieldValue given field).isNone).map (·.1)))

/-- The values of the fields of a form, given in the order of the fields. -/
def Form.bindInOrder (form : Form) (given : List Value) : Except Unbound (List Value) :=
  if form.fields.length < given.length then
    .error (.tooMany form.name (form.fields.filter (·.2.isNone)).length form.fields.length
      given.length)
  else form.bind ((form.fields.map (·.1)).zip given)

end PeerName.Fields

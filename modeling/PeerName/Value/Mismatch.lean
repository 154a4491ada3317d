import PeerName.Number.Layout
import PeerName.Value.Basic

/-!
# Values that do not fit

What is reported when an operation meets a value that it cannot work on: one of the wrong kind, or
one that is too large to be gone through.
-/

namespace PeerName

/-- An operation and what it was given in vain. -/
inductive Mismatch where
  /-- A value of this kind has no such member. -/
  | noMember (kind member : String)
  /-- A value of this kind cannot be gone through one by one. -/
  | notIterable (kind : String)
  /-- A value of this kind holds nothing to search in. -/
  | notContainer (kind : String)
  /-- Bytes were combined with a value of this kind. -/
  | bytesNeeded (kind : String)
  /-- A text was searched for bytes. -/
  | textNeeded
  /-- A value of this kind cannot be looked up. -/
  | notHashable (kind : String)
  /-- Nothing can be looked for under a value of this kind. -/
  | notPath (kind : String)
  /-- A value of this kind names no file. -/
  | notFileName (kind : String)
  /-- The reader of certificates takes bytes only. -/
  | undecodable
  /-- A number has more digits than this, which are the most that are written out. -/
  | tooManyDigits (most : Nat)
  /-- Values lie too deep within one another for this work. -/
  | tooDeep (work : String)
  deriving DecidableEq

/-- The report. -/
def Mismatch.message : Mismatch → String
  | noMember kind member =>
    "'" ++ kind ++ "' object has no attribute '" ++ member ++ "'"
  | notIterable kind => "'" ++ kind ++ "' object is not iterable"
  | notContainer kind => "argument of type '" ++ kind ++ "' is not iterable"
  | bytesNeeded kind => "a bytes-like object is required, not '" ++ kind ++ "'"
  | textNeeded => "'in <string>' requires string as left operand, not bytes"
  | notHashable kind => "unhashable type: '" ++ kind ++ "'"
  | notPath kind => "stat: path should be string, bytes, os.PathLike or integer, not " ++ kind
  | notFileName kind => "expected str, bytes or os.PathLike object, not " ++ kind
  | undecodable => "library error"
  | tooManyDigits most =>
    "Exceeds the limit (" ++ String.ofList (natText most)
      ++ " digits) for integer string conversion; "
      ++ "use sys.set_int_max_str_digits() to increase the limit"
  | tooDeep work => "maximum recursion depth exceeded" ++ work

/-- The members of a value, for the kinds that have members. -/
def Value.elements (v : Value) : Except Mismatch (List Value) :=
  match v.elements? with
  | some items => .ok items
  | none => .error (.notIterable v.kind)

/-- The path that a value is, where something is looked for. -/
def Value.path (v : Value) : Except Mismatch String :=
  match v.text? with
  | some path => .ok path
  | none => .error (.notPath v.kind)

/-- The path that a value is, where a file is written. -/
def Value.fileName (v : Value) : Except Mismatch String :=
  match v.text? with
  | some path => .ok path
  | none => .error (.notFileName v.kind)

end PeerName

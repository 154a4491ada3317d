import Mathlib.Data.List.Induction
import Mathlib.Data.List.TakeWhile
import PeerName.Proofs.Json.Digits
import PeerName.Proofs.Settings.Change
import PeerName.Proofs.Value.Obstacle
import PeerName.Settings.Source

/-!
# Settings from keys and values

Keys with their values are gone through in order, and each key that means a setting sets it.  A
setting is touched by the keys that mean it and by no other, so that the last of them decides,
whatever stood in front of it.  The name of the level is looked up at the end only: a name that is
no level does no harm as long as another one comes behind it.

The level and the log file are read as texts, and a number with too many digits has none.  Such a
number does harm wherever it stands.

* `Scalar`, `Scalar.IsOn`, `Scalar.plain`, `Scalar.IsLong` — values, when they switch something on,
  their texts, and numbers that have none;
* `Setting.Means`, `lastGiven` — the keys of a setting, and the value that the last of them has;
* `takeEntry`, `setEntries_eq` — **keys and values are taken up to the first that has no text**;
* `Draft.part_foldl_takeEntry` — **the last key that means a setting counts**;
* `log_foldl_takeEntry` — a record for each unknown key;
* `Settings.ofEntries_merges` — **what keys and values come to**.
-/

namespace PeerName

open Journal (Record)

/-! ### Values -/

/-- A value for a setting. -/
inductive Scalar where
  | null
  | bool (b : Bool)
  | int (n : Int)
  | text (s : String)
  deriving DecidableEq

namespace Scalar

/-- The scalar as a value. -/
def value : Scalar → Value
  | null => .null
  | bool b => .bool b
  | int n => .int n
  | text s => .text s

/-- A value that switches something on. -/
inductive IsOn : Scalar → Prop
  | yes : IsOn (.bool true)
  | nonzero {n : Int} (hn : n ≠ 0) : IsOn (.int n)
  | word {s : String}
      (hs : Unicode.lower (Settings.trimText s) ∈ ["true", "yes", "1", "on", "enabled"]) :
      IsOn (.text s)

/-- The text of a value. -/
def plain : Scalar → String
  | null => ""
  | bool b => if b then "True" else "False"
  | int n => toString n
  | text s => s

/-- A number with more digits than can be written out. -/
def IsLong [Limits] : Scalar → Prop
  | int n => 10 ^ Limits.digits ≤ n.natAbs
  | null | bool _ | text _ => False

instance [Limits] (v : Scalar) : Decidable v.IsLong :=
  match v with
  | int _ => inferInstanceAs (Decidable (_ ≤ _))
  | null | bool _ | text _ => inferInstanceAs (Decidable False)

end Scalar

theorem natText_eq_toDigits (n : Nat) : natText n = Nat.toDigits 10 n := by
  have hdigit (d : Nat) (hd : d < 10) : digitChar d = d.digitChar := by
    interval_cases d <;> rfl
  have hten : (2 : Nat) ≤ 10 := by decide
  rw [natText]
  induction n using digits_induction hten with
  | one n hn => rw [digitsOf_of_lt hn, Nat.toDigits_of_lt_base hn, hdigit n hn]
  | more n hn ih =>
    rw [digitsOf_of_le hten hn, Nat.toDigits_of_base_le (by decide) hn, ih,
      hdigit _ (Nat.mod_lt n (by decide))]

theorem intText_eq_toString (n : Int) : String.ofList (intText n) = toString n := by
  have hrepr (m : Nat) : String.ofList (natText m) = m.repr := by
    rw [natText_eq_toDigits, Nat.repr_eq_ofList_toDigits]
  cases n with
  | ofNat m =>
    have hsign : ¬Int.ofNat m < 0 := Int.not_lt.mpr (Int.natCast_nonneg m)
    rw [intText, if_neg hsign]
    exact hrepr m
  | negSucc m =>
    have hsign : String.singleton '-' = "-" := rfl
    rw [intText, if_pos (Int.negSucc_lt_zero m), String.ofList_cons, hsign]
    show "-" ++ String.ofList (natText (m + 1)) = "-" ++ (m + 1).repr
    rw [hrepr]

namespace Settings

theorem truth_value (v : Scalar) : truth v.value = true ↔ v.IsOn := by
  cases v with
  | null => exact iff_of_false Bool.false_ne_true fun h => nomatch h
  | bool b =>
    cases b with
    | false => exact iff_of_false Bool.false_ne_true fun h => nomatch h
    | true => exact iff_of_true rfl .yes
  | int n =>
    show (n != 0) = true ↔ _
    rw [bne_iff_ne]
    exact ⟨.nonzero, fun | .nonzero hn => hn⟩
  | text s =>
    show yesWords.contains (Unicode.lower (trimText s)) = true ↔ _
    rw [List.contains_iff_mem]
    exact ⟨.word, fun | .word hs => hs⟩

/-- The text of a value, as far as it exists. -/
def textOf : Value → String
  | .null => ""
  | v => v.plain

theorem textOf_value (v : Scalar) : textOf v.value = v.plain := by
  cases v with
  | null => rfl
  | bool b => cases b <;> rfl
  | int n => exact intText_eq_toString n
  | text s => rfl

variable [Limits]

/-- Only a number can be in the way. -/
theorem hindrance?_value (desk : Desk) (v : Scalar) :
    desk.hindrance? [v.value] = if v.IsLong then some (.tooManyDigits Limits.digits) else none := by
  by_cases h : v.IsLong
  · rw [if_pos h]
    cases v with
    | int n => exact desk.hindrance?_of_long h []
    | _ => cases h
  · have hroom : 1 ≤ Limits.room desk := Nat.le_trans (by decide) (Limits.ample desk)
    rw [if_neg h, Desk.hindrance?_eq_none_iff]
    cases v with
    | int n => exact ⟨hroom, List.forall_mem_singleton.mpr (Nat.not_le.mp h)⟩
    | _ => exact ⟨hroom, List.forall_mem_nil _⟩

theorem valueText_eq (v : Value) : valueText v = Desk.settings.write [v] (textOf v) := by
  cases v with
  | null =>
    have hnull : Desk.settings.hindrance? [.null] = none := hindrance?_value _ .null
    rw [Desk.write, hnull]
    rfl
  | _ => rfl

end Settings

/-! ### Keys -/

namespace Setting

/-- A key means a setting if it is its name, with or without the section. -/
def Means (k : Setting) (key : String) : Prop := key = k.owner ++ "." ++ k.name ∨ key = k.name

instance (k : Setting) (key : String) : Decidable (k.Means key) :=
  inferInstanceAs (Decidable (_ ∨ _))

theorem ofKey?_key (k : Setting) : ofKey? k.key = some k := by
  cases k <;> decide +kernel

theorem ofKey?_name (k : Setting) : ofKey? k.name = some k := by
  cases k <;> decide +kernel

theorem ofKey?_eq_some_iff {k : Setting} (key : String) :
    ofKey? key = some k ↔ key = k.key ∨ key = k.name := by
  constructor
  · intro h
    have hkey := List.find?_some h
    simp only [Bool.or_eq_true, decide_eq_true_eq] at hkey
    exact hkey.imp Eq.symm Eq.symm
  · intro h
    rcases h with rfl | rfl
    · exact ofKey?_key k
    · exact ofKey?_name k

theorem mem_all (k : Setting) : k ∈ all := by
  cases k <;> decide

/-- A key without a setting means none of them. -/
theorem ofKey?_eq_none_iff (key : String) : ofKey? key = none ↔ ∀ k ∈ all, ¬k.Means key := by
  rw [Option.eq_none_iff_forall_ne_some]
  constructor
  · intro h k _ hmeans
    exact h k ((ofKey?_eq_some_iff key).mpr hmeans)
  · intro h k hkey
    exact h k k.mem_all ((ofKey?_eq_some_iff key).mp hkey)

end Setting

namespace Settings

/-! ### Entries that are taken -/

section Taken

/-- Whether a setting is read as a text. -/
def isText : Setting → Bool
  | .logLevel | .logFile => true
  | .commonNameFallback | .wildcards | .jsonLogging => false

/-- The draft in which a setting has a value that has a text, if it needs one. -/
def Draft.give (d : Draft) (k : Setting) (v : Value) : Draft :=
  match k with
  | .commonNameFallback => { d with commonNameFallback := truth v }
  | .wildcards => { d with wildcards := truth v }
  | .logLevel => { d with levelName := Unicode.upper (trimText (textOf v)) }
  | .logFile => { d with logFile := textOf v }
  | .jsonLogging => { d with jsonLogging := truth v }

/-- What comes of an entry when nothing is in the way. -/
def takeEntry (state : Draft × List Record) (e : Value × Value) : Draft × List Record :=
  match e.1.text?.bind Setting.ofKey? with
  | some k => (state.1.give k e.2, state.2)
  | none =>
    (state.1, state.2 ++
      [loaderRecord .debug ("Ignoring unknown configuration key: " ++ e.1.plain)])

variable [Limits]

/-- What is in the way of an entry. -/
def entryHindrance? (e : Value × Value) : Option Mismatch :=
  match e.1.text?.bind Setting.ofKey? with
  | some k => if isText k then Desk.settings.hindrance? [e.2] else none
  | none => Desk.settings.hindrance? [e.1]

theorem Draft.set_eq (d : Draft) (k : Setting) (v : Value) :
    d.set k v = if isText k then (Desk.settings.write [v] (textOf v)).map fun _ => d.give k v
      else .ok (d.give k v) := by
  have hwrite (text : String) (next : String → Draft) :
      (Desk.settings.write [v] text).map next =
        (Desk.settings.write [v] text).map fun _ => next text := by
    rw [Desk.write]
    cases Desk.settings.hindrance? [v] <;> rfl
  cases k with
  | logLevel =>
    rw [set, valueText_eq, hwrite]
    rfl
  | logFile =>
    rw [set, valueText_eq, hwrite]
    rfl
  | _ => rfl

/-- **One entry** is taken unless something is in the way. -/
theorem setEntry_eq (state : Draft × List Record) (e : Value × Value) :
    setEntry state e = match entryHindrance? e with
      | some cause => .error cause
      | none => .ok (takeEntry state e) := by
  rw [setEntry, entryHindrance?, takeEntry]
  cases e.1.text?.bind Setting.ofKey? with
  | none =>
    dsimp only
    rw [Desk.write]
    cases Desk.settings.hindrance? [e.1] <;> rfl
  | some k =>
    dsimp only
    rw [Draft.set_eq, Desk.write]
    cases isText k with
    | false => rfl
    | true => cases Desk.settings.hindrance? [e.2] <;> rfl

/-- **Entries are taken in order**, up to the first with something in the way. -/
theorem setEntries_eq (state : Draft × List Record) (entries : List (Value × Value)) :
    setEntries state entries =
      ((entries.takeWhile fun e => (entryHindrance? e).isNone).foldl takeEntry state,
        entries.findSome? entryHindrance?) := by
  induction entries generalizing state with
  | nil => rfl
  | cons e rest ih =>
    rw [setEntries, setEntry_eq, List.takeWhile_cons, List.findSome?_cons]
    cases hindrance : entryHindrance? e with
    | some cause => rfl
    | none => exact ih _

/-- Nothing is in the way of texts. -/
theorem entryHindrance?_texts (key value : String) :
    entryHindrance? (.text key, .text value) = none := by
  rw [entryHindrance?]
  split <;> simp

/-- Texts are all taken. -/
theorem setEntries_texts (state : Draft × List Record) (entries : List (String × String)) :
    setEntries state (entries.map fun e => (.text e.1, .text e.2)) =
      ((entries.map fun e => (.text e.1, .text e.2)).foldl takeEntry state, none) := by
  induction entries generalizing state with
  | nil => rfl
  | cons e rest ih =>
    rw [List.map_cons, setEntries, setEntry_eq, entryHindrance?_texts]
    exact ih _

end Taken

variable {k other : Setting} {v : Value}

/-! ### The last key counts -/

/-- What a draft says about a setting. -/
def Draft.part (d : Draft) : Setting → Value
  | .commonNameFallback => .bool d.commonNameFallback
  | .wildcards => .bool d.wildcards
  | .logLevel => .text d.levelName
  | .logFile => .text d.logFile
  | .jsonLogging => .bool d.jsonLogging

/-- What a setting is given a value as. -/
def convert (v : Value) : Setting → Value
  | .commonNameFallback | .wildcards | .jsonLogging => .bool (truth v)
  | .logLevel => .text (Unicode.upper (trimText (textOf v)))
  | .logFile => .text (textOf v)

/-- The value that the last of the keys of a setting has. -/
def lastMeant (k : Setting) (entries : List (Value × Value)) : Option Value :=
  ((entries.filter fun e => e.1.text?.bind Setting.ofKey? = some k).getLast?).map Prod.snd

theorem lastMeant_of_last {front back : List (Value × Value)} {e : Value × Value}
    (hmeant : e.1.text?.bind Setting.ofKey? = some k)
    (hback : ∀ e ∈ back, e.1.text?.bind Setting.ofKey? ≠ some k) :
    lastMeant k (front ++ e :: back) = some e.2 := by
  have hnone : back.filter (fun e => e.1.text?.bind Setting.ofKey? = some k) = [] :=
    List.filter_eq_nil_iff.mpr fun e he => by simpa using hback e he
  simp only [lastMeant, List.filter_append, List.filter_cons, decide_eq_true hmeant, if_true, hnone,
    List.getLast?_concat, Option.map_some]

theorem lastMeant_concat_of_other (front : List (Value × Value)) {e : Value × Value}
    (hother : e.1.text?.bind Setting.ofKey? ≠ some k) :
    lastMeant k (front ++ [e]) = lastMeant k front := by
  simp only [lastMeant, List.filter_append, List.filter_cons, decide_eq_false hother,
    Bool.false_eq_true, if_false, List.filter_nil, List.append_nil]

theorem Draft.part_give_self (d : Draft) (k : Setting) (v : Value) :
    (d.give k v).part k = convert v k := by
  cases k <;> rfl

theorem Draft.part_give_of_ne (d : Draft) (hne : other ≠ k) (v : Value) :
    (d.give other v).part k = d.part k := by
  cases other <;> cases k <;>
    first | exact absurd rfl hne | simp only [Draft.part, Draft.give]

variable (state : Draft × List Record)

/-- A key sets the setting that it means. -/
theorem Draft.part_takeEntry_of_meant {e : Value × Value}
    (hmeant : e.1.text?.bind Setting.ofKey? = some k) :
    (takeEntry state e).1.part k = convert e.2 k := by
  rw [takeEntry, hmeant]
  exact state.1.part_give_self k e.2

/-- A key leaves every other setting alone. -/
theorem Draft.part_takeEntry_of_other {e : Value × Value}
    (hother : e.1.text?.bind Setting.ofKey? ≠ some k) :
    (takeEntry state e).1.part k = state.1.part k := by
  rw [takeEntry]
  split
  next found hfound =>
    refine state.1.part_give_of_ne (fun heq => hother ?_) e.2
    rw [hfound, heq]
  next => rfl

/-- **The last key that means a setting counts**, and where there is none the setting is left as it
was. -/
theorem Draft.part_foldl_takeEntry (k : Setting) (entries : List (Value × Value)) :
    (entries.foldl takeEntry state).1.part k =
      ((lastMeant k entries).map (convert · k)).getD (state.1.part k) := by
  induction entries using List.reverseRecOn with
  | nil => rfl
  | append_singleton front e ih =>
    rw [List.foldl_append, List.foldl_cons, List.foldl_nil]
    by_cases hmeant : e.1.text?.bind Setting.ofKey? = some k
    · have hlast : lastMeant k (front ++ [e]) = some e.2 :=
        lastMeant_of_last hmeant (List.forall_mem_nil _)
      rw [part_takeEntry_of_meant _ hmeant, hlast]
      rfl
    · rw [part_takeEntry_of_other _ hmeant, lastMeant_concat_of_other front hmeant, ih]

/-- Every unknown key is logged, and nothing else. -/
theorem log_foldl_takeEntry (entries : List (Value × Value)) :
    (entries.foldl takeEntry state).2 =
      state.2 ++ (entries.filter fun e => e.1.text?.bind Setting.ofKey? = none).map fun e =>
        loaderRecord .debug ("Ignoring unknown configuration key: " ++ e.1.plain) := by
  induction entries generalizing state with
  | nil => exact (List.append_nil _).symm
  | cons e rest ih =>
    rw [List.foldl_cons, ih, takeEntry, List.filter_cons]
    cases hkey : e.1.text?.bind Setting.ofKey? with
    | none => simp
    | some found => simp

/-! ### What it comes to -/

/-- The value that the last of the keys of a setting has. -/
def lastGiven (k : Setting) (entries : List (String × Scalar)) : Option Scalar :=
  ((entries.filter fun e => k.Means e.1).getLast?).map Prod.snd

/-- A switch is as its value says, or as it is by default. -/
def Switched (default : Bool) : Option Scalar → Prop
  | none => default = true
  | some v => v.IsOn

/-- The name of the level that a value says, or of the default level. -/
def levelWord (given : Option Scalar) : String :=
  (given.map fun v => Unicode.upper (trimText v.plain)).getD "INFO"

/-- The names of the levels. -/
def levelWords : List String := ["DEBUG", "INFO", "WARNING", "ERROR", "CRITICAL"]

/-- Every setting is as the last value that is given for it says, or as it is by default. -/
structure Merges (s : Settings) (entries : List (String × Scalar)) : Prop where
  commonNameFallback :
    s.commonNameFallback = true ↔ Switched true (lastGiven .commonNameFallback entries)
  wildcards : s.wildcards = true ↔ Switched true (lastGiven .wildcards entries)
  logLevel : s.logLevel.name = levelWord (lastGiven .logLevel entries)
  logFile : s.logFile = ((lastGiven .logFile entries).map Scalar.plain).getD ""
  jsonLogging : s.jsonLogging = true ↔ Switched false (lastGiven .jsonLogging entries)

/-- Keys and values as a program passes them on. -/
def pairs (entries : List (String × Scalar)) : List (Value × Value) :=
  entries.map fun e => (.text e.1, e.2.value)

variable (entries : List (String × Scalar))

theorem lastMeant_pairs (k : Setting) :
    lastMeant k (pairs entries) = (lastGiven k entries).map Scalar.value := by
  have hmeant : (fun e : String × Scalar => decide ((Value.text e.1).text?.bind Setting.ofKey? =
      some k)) = fun e => decide (k.Means e.1) := by
    funext e
    exact decide_eq_decide.mpr (Setting.ofKey?_eq_some_iff e.1)
  rw [lastMeant, lastGiven, pairs, List.filter_map, List.getLast?_map, Option.map_map,
    Option.map_map]
  simp only [Function.comp_def, hmeant]

/-- The draft that keys and values come to. -/
def draftOf : Draft := ((pairs entries).foldl takeEntry ({}, [])).1

theorem part_draftOf (k : Setting) :
    (draftOf entries).part k =
      ((lastGiven k entries).map fun v => convert v.value k).getD (({} : Draft).part k) := by
  rw [draftOf, Draft.part_foldl_takeEntry, lastMeant_pairs, Option.map_map]
  rfl

/-- A switch of the draft is as it should be. -/
theorem switched_iff {b default : Bool} {given : Option Scalar}
    (h : Value.bool b = (given.map fun v => Value.bool (truth v.value)).getD (.bool default)) :
    b = true ↔ Switched default given := by
  cases given with
  | none =>
    obtain rfl := Value.bool.inj h
    exact Iff.rfl
  | some v =>
    obtain rfl := Value.bool.inj h
    exact truth_value v

theorem levelName_draftOf :
    (draftOf entries).levelName = levelWord (lastGiven .logLevel entries) := by
  have hpart := part_draftOf entries .logLevel
  rw [levelWord]
  cases hlast : lastGiven .logLevel entries with
  | none =>
    rw [hlast] at hpart
    exact Value.text.inj hpart
  | some v =>
    rw [hlast] at hpart
    have hname := Value.text.inj hpart
    rwa [textOf_value] at hname

theorem logFile_draftOf :
    (draftOf entries).logFile = ((lastGiven .logFile entries).map Scalar.plain).getD "" := by
  have hpart := part_draftOf entries .logFile
  cases hlast : lastGiven .logFile entries with
  | none =>
    rw [hlast] at hpart
    exact Value.text.inj hpart
  | some v =>
    rw [hlast] at hpart
    have htext := Value.text.inj hpart
    rwa [textOf_value] at htext

theorem ofName?_eq_none_iff (name : String) : LogLevel.ofName? name = none ↔ name ∉ levelWords := by
  have hwords : levelWords = LogLevel.all.map LogLevel.name := by decide
  rw [hwords, LogLevel.ofName?, List.find?_eq_none]
  simp

/-- The settings of a draft, if its level is one. -/
theorem Draft.settings_eq_ok_iff {d : Draft} {s : Settings} :
    d.settings = .ok s ↔ s.commonNameFallback = d.commonNameFallback ∧ s.wildcards = d.wildcards ∧
      s.logLevel.name = d.levelName ∧ s.logFile = d.logFile ∧ s.jsonLogging = d.jsonLogging := by
  rw [Draft.settings]
  constructor
  · intro h
    cases hlevel : LogLevel.ofName? d.levelName with
    | none =>
      rw [hlevel] at h
      cases h
    | some level =>
      rw [hlevel] at h
      obtain rfl := Except.ok.inj h
      exact ⟨rfl, rfl, LogLevel.name_of_ofName? hlevel, rfl, rfl⟩
  · rintro ⟨hfallback, hwildcards, hlevel, hfile, hjson⟩
    rw [← hlevel, LogLevel.ofName?_name, ← hfallback, ← hwildcards, ← hfile, ← hjson]

theorem Draft.settings_eq_error_iff {d : Draft} {fault : Fault} :
    d.settings = .error fault ↔ fault = .unknownLevel ∧ LogLevel.ofName? d.levelName = none := by
  rw [Draft.settings]
  cases LogLevel.ofName? d.levelName with
  | none => exact ⟨fun h => ⟨(Except.error.inj h).symm, rfl⟩, fun h => by rw [h.1]⟩
  | some level => exact iff_of_false (fun h => nomatch h) fun h => nomatch h.2

/-- Settings come out of keys and values if they are what these say. -/
theorem settings_draftOf_eq_ok_iff {s : Settings} :
    (draftOf entries).settings = .ok s ↔ s.Merges entries := by
  have hfallback := part_draftOf entries .commonNameFallback
  have hwildcards := part_draftOf entries .wildcards
  have hjson := part_draftOf entries .jsonLogging
  rw [Draft.settings_eq_ok_iff, levelName_draftOf, logFile_draftOf]
  constructor
  · rintro ⟨h₁, h₂, hlevel, hfile, h₃⟩
    exact ⟨h₁ ▸ switched_iff hfallback, h₂ ▸ switched_iff hwildcards, hlevel, hfile,
      h₃ ▸ switched_iff hjson⟩
  · intro h
    exact ⟨Bool.eq_iff_iff.mpr (h.commonNameFallback.trans (switched_iff hfallback).symm),
      Bool.eq_iff_iff.mpr (h.wildcards.trans (switched_iff hwildcards).symm), h.logLevel, h.logFile,
      Bool.eq_iff_iff.mpr (h.jsonLogging.trans (switched_iff hjson).symm)⟩

theorem isText_iff (k : Setting) : isText k = true ↔ k = .logLevel ∨ k = .logFile := by
  cases k <;> decide

/-- A power of ten for the level, and behind it a level. -/
def longLevel (k : Nat) : List (String × Scalar) :=
  [("log_level", .int (10 ^ k)), ("app.log_level", .text "INFO")]

theorem lastGiven_longLevel (k : Nat) :
    lastGiven .logLevel (longLevel k) = some (.text "INFO") := by
  rw [lastGiven, longLevel]
  simp [Setting.Means, Setting.name, Setting.owner]

section Outcome

variable [Limits]

/-- A value that has no text is given where one is needed. -/
def Overlong (e : String × Scalar) : Prop :=
  (Setting.logLevel.Means e.1 ∨ Setting.logFile.Means e.1) ∧ e.2.IsLong

instance (e : String × Scalar) : Decidable (Overlong e) := inferInstanceAs (Decidable (_ ∧ _))

/-- A value without a text is what is in the way, if anything is. -/
theorem entryHindrance?_pair (e : String × Scalar) :
    entryHindrance? (.text e.1, e.2.value) =
      if Overlong e then some (.tooManyDigits Limits.digits) else none := by
  have hmeans : (Setting.logLevel.Means e.1 ∨ Setting.logFile.Means e.1) ↔
      ∃ k, Setting.ofKey? e.1 = some k ∧ isText k = true := by
    simp only [isText_iff, Setting.ofKey?_eq_some_iff, and_or_left, exists_or, exists_eq_right]
    rfl
  rw [entryHindrance?, Value.text?, Option.bind_some]
  simp only [Overlong, hmeans]
  cases hkey : Setting.ofKey? e.1 with
  | none =>
    rw [if_neg]
    · exact Desk.hindrance?_text _ _ _
    · rintro ⟨⟨k, hk, -⟩, -⟩
      cases hk
  | some k =>
    dsimp only
    cases htext : isText k with
    | false =>
      rw [if_neg Bool.false_ne_true, if_neg]
      rintro ⟨⟨k', hk, htrue⟩, -⟩
      obtain rfl := Option.some.inj hk
      exact absurd (htext.symm.trans htrue) Bool.false_ne_true
    | true =>
      rw [if_pos rfl, hindrance?_value]
      exact if_congr (iff_and_self.mpr fun _ => ⟨k, rfl, htext⟩) rfl rfl

/-- The entries in front of the first without a text are taken. -/
theorem setEntries_pairs :
    setEntries ({}, []) (pairs entries) =
      ((pairs (entries.takeWhile fun e => ¬Overlong e)).foldl takeEntry ({}, []),
        if ∃ e ∈ entries, Overlong e then some (.tooManyDigits Limits.digits) else none) := by
  have hfree : (fun e : String × Scalar =>
      (entryHindrance? (.text e.1, e.2.value)).isNone) = fun e => decide ¬Overlong e := by
    funext e
    rw [entryHindrance?_pair]
    by_cases h : Overlong e <;> simp [h]
  have hfirst : (pairs entries).findSome? entryHindrance? =
      if ∃ e ∈ entries, Overlong e then some (.tooManyDigits Limits.digits) else none := by
    induction entries with
    | nil => rfl
    | cons e rest ih =>
      have hcons : (pairs (e :: rest)).findSome? entryHindrance? =
          (entryHindrance? (.text e.1, e.2.value)).or
            ((pairs rest).findSome? entryHindrance?) := by
        rw [pairs, List.map_cons, List.findSome?_cons]
        cases entryHindrance? (.text e.1, e.2.value) <;> rfl
      rw [hcons, ih, entryHindrance?_pair]
      by_cases h : Overlong e
      · have hthere : ∃ e' ∈ e :: rest, Overlong e' := ⟨e, List.mem_cons_self, h⟩
        rw [if_pos h, if_pos hthere]
        rfl
      · rw [if_neg h, Option.none_or]
        exact if_congr (by simp [h]) rfl rfl
  rw [setEntries_eq, hfirst, pairs, List.takeWhile_map]
  simp only [Function.comp_def, hfree]
  rfl

/-- Where every value has a text that needs one, all entries are taken. -/
theorem outcome_pairs_of_short (h : ∀ e ∈ entries, ¬Overlong e) :
    (ofEntries (pairs entries)).outcome = (draftOf entries).settings := by
  have htaken : (entries.takeWhile fun e => ¬Overlong e) = entries := by
    rw [List.takeWhile_eq_self_iff]
    exact fun e he => decide_eq_true (h e he)
  have hnone : ¬∃ e ∈ entries, Overlong e := fun ⟨e, he, hlong⟩ => h e he hlong
  rw [ofEntries, setEntries_pairs, if_neg hnone, htaken]
  rfl

/-- A value without a text ends it all, wherever it stands. -/
theorem outcome_pairs_of_long (h : ∃ e ∈ entries, Overlong e) :
    (ofEntries (pairs entries)).outcome =
      .error (.unwritable (.tooManyDigits Limits.digits)) := by
  rw [ofEntries, setEntries_pairs, if_pos h]

/-- The records that keys and values leave. -/
theorem log_pairs :
    (ofEntries (pairs entries)).log =
      ((entries.takeWhile fun e => ¬Overlong e).filter
        fun e => ∀ k ∈ Setting.all, ¬k.Means e.1).map fun e =>
          loaderRecord .debug ("Ignoring unknown configuration key: " ++ e.1) := by
  have hlog : (ofEntries (pairs entries)).log =
      ((pairs (entries.takeWhile fun e => ¬Overlong e)).foldl takeEntry ({}, [])).2 := by
    rw [ofEntries, setEntries_pairs]
    by_cases h : ∃ e ∈ entries, Overlong e
    · rw [if_pos h]
    · rw [if_neg h]
  have hunknown : (fun e : String × Scalar => decide ((Value.text e.1).text?.bind Setting.ofKey? =
      none)) = fun e => decide (∀ k ∈ Setting.all, ¬k.Means e.1) := by
    funext e
    exact decide_eq_decide.mpr (Setting.ofKey?_eq_none_iff e.1)
  rw [hlog, log_foldl_takeEntry, List.nil_append, pairs, List.filter_map, List.map_map]
  simp only [Function.comp_def, hunknown]
  rfl

/-- **What keys and values come to.**  Settings come out exactly if no number that is given for the
level or the log file has more digits than can be written out, and every setting is as the last
value that is given for it says, under its bare name or with its section, or as it is by default
where none is given.  There are two faults.  One is such a number, even if another value comes
behind it.  The other is that the last word for the level names none, whatever stood in front of it.
One record is made for each unknown key in front of the first such number, in order. -/
theorem ofEntries_merges :
    (∀ s, (ofEntries (pairs entries)).outcome = .ok s ↔
      (∀ e ∈ entries, ¬Overlong e) ∧ s.Merges entries) ∧
      (∀ fault, (ofEntries (pairs entries)).outcome = .error fault ↔
        (∃ e ∈ entries, Overlong e) ∧ fault = .unwritable (.tooManyDigits Limits.digits) ∨
          (∀ e ∈ entries, ¬Overlong e) ∧ fault = .unknownLevel ∧
            levelWord (lastGiven .logLevel entries) ∉ levelWords) ∧
      (ofEntries (pairs entries)).log =
        ((entries.takeWhile fun e => ¬Overlong e).filter
          fun e => ∀ k ∈ Setting.all, ¬k.Means e.1).map fun e =>
            loaderRecord .debug ("Ignoring unknown configuration key: " ++ e.1) := by
  by_cases hlong : ∃ e ∈ entries, Overlong e
  · have hnot : ¬∀ e ∈ entries, ¬Overlong e := by
      obtain ⟨e, he, hlong⟩ := hlong
      exact fun h => h e he hlong
    have houtcome := outcome_pairs_of_long entries hlong
    refine ⟨fun s => ?_, fun fault => ?_, log_pairs entries⟩
    · rw [houtcome]
      exact iff_of_false (fun h => nomatch h) fun h => hnot h.1
    · rw [houtcome, Except.error.injEq, eq_comm, or_iff_left fun h => hnot h.1]
      exact (and_iff_right hlong).symm
  · have hshort : ∀ e ∈ entries, ¬Overlong e := fun e he h => hlong ⟨e, he, h⟩
    have houtcome := outcome_pairs_of_short entries hshort
    refine ⟨fun s => ?_, fun fault => ?_, log_pairs entries⟩
    · rw [houtcome, settings_draftOf_eq_ok_iff, and_iff_right hshort]
    · rw [houtcome, Draft.settings_eq_error_iff, levelName_draftOf, ofName?_eq_none_iff,
        or_iff_right fun h => hlong h.1, and_iff_right hshort]

theorem outcome_longLevel {k : Nat} (h : Limits.digits ≤ k) :
    (ofEntries (pairs (longLevel k))).outcome =
      .error (.unwritable (.tooManyDigits Limits.digits)) := by
  refine outcome_pairs_of_long _ ⟨_, List.mem_cons_self, Or.inl (Or.inr rfl), ?_⟩
  exact long_pow h

end Outcome

/-- **An overwritten number ends it all.**  The last word for the level is one of the five, and yet
no settings come out. -/
theorem ofEntries_longLevel :
    levelWord (lastGiven .logLevel (longLevel 5000)) ∈ levelWords ∧
      (@ofEntries .usual (pairs (longLevel 5000))).outcome =
        .error (.unwritable (.tooManyDigits 4300)) := by
  refine ⟨?_, @outcome_longLevel .usual 5000 (by decide)⟩
  rw [lastGiven_longLevel]
  decide +kernel

end Settings

end PeerName

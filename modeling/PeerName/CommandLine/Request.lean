import PeerName.Settings.Basic
import PeerName.Text.Quoted
import PeerName.Unicode.Category

/-!
# Command lines

A command line is a list of words.  Words that begin with a dash are options; some of them take a
value, which is attached with an equals sign or is the next word.  A long option may be cut short
as long as it stays unambiguous, and short options may be run together.  Nothing behind the
terminator is an option, and an attached terminator is dropped.  The first mistake is reported;
words that belong to no option are reported together at the end.

* `usageText`, `helpText` — the options in brief, and with explanations;
* `Switch` — the options;
* `Token` — a word as it is understood;
* `Argument` — the value of an option;
* `Request` — what a command line asks for;
* `Usage` — a mistake in a command line;
* `Request.ofWords` — the request of a command line, or the wish to be helped.
-/

namespace PeerName.CommandLine

/-! ### What the command line says about itself -/

/-- The name of the program. -/
def programName : String := "peercert"

/-- The names of the levels, as one of them is to be chosen. -/
def levelChoice : String := "\x7bDEBUG,INFO,WARNING,ERROR,CRITICAL\x7d"

/-- The options in brief. -/
def usageText : String :=
  "usage: peercert [-h] [--cert CERT] [--host HOSTS] [--config CONFIG]\n"
    ++ "                [--show-names] [--no-cn-fallback] [--no-wildcards]\n"
    ++ "                [--log-level " ++ levelChoice ++ "]\n"
    ++ "                [--write-default-config PATH]\n"

/-- The options with explanations. -/
def helpText : String :=
  usageText
    ++ "\nCheck whether an X.509 certificate authorizes a peer to act as a hostname\n"
    ++ "\noptions:\n"
    ++ "  -h, --help            show this help message and exit\n"
    ++ "  --cert CERT           PEM or DER certificate file\n"
    ++ "  --host HOSTS          Hostname to check (may be repeated)\n"
    ++ "  --config CONFIG, -c CONFIG\n"
    ++ "                        Configuration file path\n"
    ++ "  --show-names          Print the names the certificate claims\n"
    ++ "  --no-cn-fallback      Never match the commonName, even without\n"
    ++ "                        subjectAltName\n"
    ++ "  --no-wildcards        Compare wildcard names literally\n"
    ++ "  --log-level " ++ levelChoice ++ "\n"
    ++ "                        Override the configured log level\n"
    ++ "  --write-default-config PATH\n"
    ++ "                        Write an example configuration file and exit\n"

/-! ### Words -/

/-- The options. -/
inductive Switch where
  | help
  | cert
  | host
  | config
  | showNames
  | noFallback
  | noWildcards
  | logLevel
  | writeDefault
  deriving DecidableEq

namespace Switch

/-- The spellings of an option. -/
def spellings : Switch → List String
  | help => ["-h", "--help"]
  | cert => ["--cert"]
  | host => ["--host"]
  | config => ["--config", "-c"]
  | showNames => ["--show-names"]
  | noFallback => ["--no-cn-fallback"]
  | noWildcards => ["--no-wildcards"]
  | logLevel => ["--log-level"]
  | writeDefault => ["--write-default-config"]

/-- The name of an option in messages. -/
def label (s : Switch) : String := "/".intercalate s.spellings

/-- Whether an option takes a value. -/
def takesValue : Switch → Bool
  | help | showNames | noFallback | noWildcards => false
  | cert | host | config | logLevel | writeDefault => true

/-- All options. -/
def all : List Switch :=
  [help, cert, host, config, showNames, noFallback, noWildcards, logLevel, writeDefault]

/-- All spellings with their options. -/
def table : List (String × Switch) := all.flatMap fun s => s.spellings.map fun name => (name, s)

/-- The option of a spelling. -/
def ofSpelling? (name : String) : Option Switch := table.lookup name

end Switch

/-- A mistake in a command line. -/
inductive Usage where
  /-- A word could be short for several options. -/
  | ambiguous (word : String) (candidates : List String)
  /-- An option lacks its value. -/
  | valueMissing (s : Switch)
  /-- An option has a value but takes none. -/
  | valueIgnored (s : Switch) (value : String)
  /-- An option has a value that it does not admit. -/
  | valueUnknown (s : Switch) (value : String)
  /-- These words belong to no option. -/
  | unrecognized (words : List String)
  deriving DecidableEq

/-- The report of a mistake. -/
def Usage.message : Usage → String
  | ambiguous word candidates =>
    "ambiguous option: " ++ word ++ " could match " ++ ", ".intercalate candidates
  | valueMissing s => "argument " ++ s.label ++ ": expected one argument"
  | valueIgnored s value =>
    "argument " ++ s.label ++ ": ignored explicit argument " ++ Text.quoted value
  | valueUnknown s value =>
    "argument " ++ s.label ++ ": invalid choice: " ++ Text.quoted value ++ " (choose from "
      ++ ", ".intercalate (LogLevel.all.map fun l => Text.quoted l.name) ++ ")"
  | unrecognized words => "unrecognized arguments: " ++ " ".intercalate words

/-- A value that is attached to an option. -/
structure Attached where
  /-- Whether the option is spelled with a single dash. -/
  short : Bool
  value : List Char

/-- A word as it is understood. -/
inductive Token where
  | plain (word : String)
  | option (s : Switch) (attached : Option Attached)
  /-- An option that does not exist. -/
  | stranger (word : String)

/-- The word after which nothing is an option. -/
def terminator : String := "--"

/-- Whether a word without its dash is a number, with or without a fraction.  One line end at the
end does not count. -/
def isNumber (body : List Char) : Bool :=
  let body := if body.getLast? = some '\n' then body.dropLast else body
  let rest := body.dropWhile Unicode.isDecimalDigit
  match rest with
  | [] => !body.isEmpty
  | '.' :: places => !places.isEmpty && places.all Unicode.isDecimalDigit
  | _ => false

/-- The options that a word can be short for. -/
def candidates (word : List Char) : List (String × Token) :=
  match word with
  | '-' :: '-' :: _ =>
    let stem := word.takeWhile (· != '=')
    let attached := match word.drop stem.length with
      | _ :: value => some ⟨false, value⟩
      | [] => none
    (Switch.table.filter fun entry => stem.isPrefixOf entry.1.toList).map fun entry =>
      (entry.1, .option entry.2 attached)
  | _ =>
    (Switch.table.filter fun entry => entry.1.toList = word.take 2).map fun entry =>
      (entry.1, .option entry.2 (some ⟨true, word.drop 2⟩))

/-- The option that is spelled out before the equals sign of a word. -/
def separated? (word : List Char) : Option Token :=
  let name := word.takeWhile (· != '=')
  match word.drop name.length with
  | [] => none
  | _ :: value =>
    (Switch.ofSpelling? (String.ofList name)).map fun s =>
      .option s (some ⟨name.take 2 ≠ ['-', '-'], value⟩)

/-- A word that spells no option in full. -/
def tokenOfShort (word : List Char) : Except Usage Token :=
  match candidates word with
  | [found] => .ok found.2
  | [] =>
    if isNumber (word.drop 1) || word.contains ' ' then .ok (.plain (String.ofList word))
    else .ok (.stranger (String.ofList word))
  | several => .error (.ambiguous (String.ofList word) (several.map (·.1)))

/-- A word as it is understood. -/
def tokenOf (word : String) : Except Usage Token :=
  match Switch.ofSpelling? word with
  | some s => .ok (.option s none)
  | none =>
    match word.toList with
    | '-' :: c :: rest =>
      match separated? ('-' :: c :: rest) with
      | some token => .ok token
      | none => tokenOfShort ('-' :: c :: rest)
    | _ => .ok (.plain word)

/-- The words before the terminator as they are understood, and the words from it on. -/
def tokens : List String → Except Usage (List Token × List String)
  | [] => .ok ([], [])
  | word :: rest =>
    if word = terminator then .ok ([], word :: rest)
    else do
      let token ← tokenOf word
      let (more, others) ← tokens rest
      return (token :: more, others)

/-- The value of an option. -/
inductive Argument (α : Type) where
  /-- A value that is spelled out. -/
  | given (a : α)
  /-- An attached terminator, which is dropped and leaves nothing. -/
  | nothing
  deriving DecidableEq

namespace Argument

/-- The value if it is spelled out. -/
def given? {α : Type} : Argument α → Option α
  | given a => some a
  | nothing => none

/-- The argument with a function applied to its value. -/
def map {α β : Type} (f : α → β) : Argument α → Argument β
  | given a => given (f a)
  | nothing => nothing

/-- The argument as a value; the dropped one is an empty list. -/
def value : Argument String → Value
  | given s => .text s
  | nothing => .list []

/-- The argument that is attached to an option. -/
def ofAttached (value : List Char) : Argument String :=
  if String.ofList value = terminator then nothing else given (String.ofList value)

end Argument

/-- What a command line asks for. -/
structure Request where
  cert : Option String := none
  hosts : List (Argument String) := []
  config : Option String := none
  showNames : Bool := false
  noFallback : Bool := false
  noWildcards : Bool := false
  logLevel : Option (Argument LogLevel) := none
  writeDefault : Option String := none
  deriving DecidableEq

/-- The effect of an option without a value. -/
def Request.flag (r : Request) : Switch → Request
  | .showNames => { r with showNames := true }
  | .noFallback => { r with noFallback := true }
  | .noWildcards => { r with noWildcards := true }
  | _ => r

/-- The log level that an argument names. -/
def levelOf (s : Switch) : Argument String → Except Usage (Argument LogLevel)
  | .given name =>
    match LogLevel.ofName? name with
    | some l => .ok (.given l)
    | none => .error (.valueUnknown s name)
  | .nothing => .ok .nothing

/-- The effect of an option with a value. -/
def Request.set (r : Request) (s : Switch) (a : Argument String) : Except Usage Request :=
  match s with
  | .cert => .ok { r with cert := a.given? }
  | .host => .ok { r with hosts := r.hosts ++ [a] }
  | .config => .ok { r with config := a.given? }
  | .writeDefault => .ok { r with writeDefault := a.given? }
  | .logLevel => (levelOf s a).map fun l => { r with logLevel := some l }
  | _ => .ok r

/-- What comes of a command line. -/
inductive Parsed where
  | help
  | request (r : Request)
  deriving DecidableEq

/-- Short options that are run together behind the one for help, given the words that follow.
The wish to be helped is fulfilled unless they are spelled wrongly. -/
def helpCluster (rest : List Token) : List Char → Except Usage Parsed
  | [] => .error (.valueIgnored .help "")
  | c :: more =>
    match Switch.ofSpelling? (String.ofList ['-', c]) with
    | none => .error (.valueIgnored .help (String.ofList (c :: more)))
    | some .help => if more = [] then .ok .help else helpCluster rest more
    | some s =>
      match more, rest with
      | [], .plain _ :: _ => .ok .help
      | [], _ => .error (.valueMissing s)
      | _ :: _, _ => .ok .help

/-- The effect of the words in order; `strangers` are those that belong to no option. -/
def follow (r : Request) (strangers : List String) :
    List Token → Except Usage (Parsed × List String)
  | [] => .ok (.request r, strangers)
  | .plain word :: rest => follow r (strangers ++ [word]) rest
  | .stranger word :: rest => follow r (strangers ++ [word]) rest
  | .option .help none :: _ => .ok (.help, strangers)
  | .option .help (some ⟨true, value⟩) :: rest =>
    (helpCluster rest value).map fun p => (p, strangers)
  | .option s (some attached) :: rest =>
    if s.takesValue then do
      let r ← r.set s (.ofAttached attached.value)
      follow r strangers rest
    else .error (.valueIgnored s (String.ofList attached.value))
  | .option s none :: .plain word :: rest =>
    if s.takesValue then do
      let r ← r.set s (.given word)
      follow r strangers rest
    else follow (r.flag s) (strangers ++ [word]) rest
  | .option s none :: rest =>
    if s.takesValue then .error (.valueMissing s) else follow (r.flag s) strangers rest

/-- The request of a command line, or the wish to be helped. -/
def Request.ofWords (words : List String) : Except Usage Parsed := do
  let (tokens, others) ← tokens words
  match ← follow {} [] tokens with
  | (.help, _) => return .help
  | (.request r, strangers) =>
    if (strangers ++ others).isEmpty then return .request r
    else throw (.unrecognized (strangers ++ others))

end PeerName.CommandLine

import PeerName.CommandLine.Request
import PeerName.Proofs.Settings.Change

/-!
# What a command line says

The request of a command line is read off the options in it.  Every host is kept, in order; of
several certificates, settings files or log levels the last one counts; a switch is on as soon as
it is mentioned, and nothing turns it off again.

* `uses` — the options of a command line with their values, in order;
* `valuesOf`, `lastValue` — the values of one option;
* `Request.Follows` — a request after some options;
* `follow_uses` — the effect of a command line is that of its options one after another;
* `Request.ofWords_follows` — **the request of a command line**.
-/

namespace PeerName.CommandLine

/-- An option as it is used. -/
inductive Use where
  | flag (s : Switch)
  | value (s : Switch) (a : Argument String)

/-- The options of a command line, in order. -/
def uses : List Token → List Use
  | [] => []
  | .plain _ :: rest => uses rest
  | .stranger _ :: rest => uses rest
  | .option s (some attached) :: rest => .value s (.ofAttached attached.value) :: uses rest
  | .option s none :: .plain word :: rest =>
    if s.takesValue then .value s (.given word) :: uses rest else .flag s :: uses rest
  | .option s none :: rest => .flag s :: uses rest

/-- The value that a use gives to an option. -/
def Use.value? (s : Switch) : Use → Option (Argument String)
  | .flag _ => none
  | .value t a => if t = s then some a else none

/-- Whether a use turns a switch on. -/
def Use.turnsOn (s : Switch) : Use → Bool
  | .flag t => t = s
  | .value _ _ => false

/-- The values of an option, in order. -/
def valuesOf (s : Switch) (us : List Use) : List (Argument String) := us.filterMap (Use.value? s)

/-- The last value of an option. -/
def lastValue (s : Switch) (us : List Use) : Option (Argument String) := (valuesOf s us).getLast?

/-- Whether a switch is mentioned. -/
def isOn (s : Switch) (us : List Use) : Bool := us.any (Use.turnsOn s)

/-- The effect of an option. -/
def Request.use (r : Request) : Use → Except Usage Request
  | .flag s => .ok (r.flag s)
  | .value s a => r.set s a

/-- A request after some options have been followed. -/
structure Request.Follows (before : Request) (us : List Use) (after : Request) : Prop where
  hosts : after.hosts = before.hosts ++ valuesOf .host us
  cert : after.cert = ((lastValue .cert us).map Argument.given?).getD before.cert
  config : after.config = ((lastValue .config us).map Argument.given?).getD before.config
  writeDefault : after.writeDefault =
    ((lastValue .writeDefault us).map Argument.given?).getD before.writeDefault
  logLevel : after.logLevel.map (Argument.map LogLevel.name) =
    (lastValue .logLevel us).or (before.logLevel.map (Argument.map LogLevel.name))
  showNames : after.showNames = (before.showNames || isOn .showNames us)
  noFallback : after.noFallback = (before.noFallback || isOn .noFallback us)
  noWildcards : after.noWildcards = (before.noWildcards || isOn .noWildcards us)

variable {r first next last : Request} {us vs : List Use} {s : Switch}

/-! ### Options one after another -/

theorem valuesOf_append (s : Switch) (us vs : List Use) :
    valuesOf s (us ++ vs) = valuesOf s us ++ valuesOf s vs :=
  List.filterMap_append

theorem lastValue_append (s : Switch) (us vs : List Use) :
    lastValue s (us ++ vs) = (lastValue s vs).or (lastValue s us) := by
  rw [lastValue, valuesOf_append, List.getLast?_append]
  rfl

theorem isOn_append (s : Switch) (us vs : List Use) :
    isOn s (us ++ vs) = (isOn s us || isOn s vs) :=
  List.any_append

theorem lastGiven_append (s : Switch) (us vs : List Use) (before : Option String) :
    ((lastValue s (us ++ vs)).map Argument.given?).getD before =
      ((lastValue s vs).map Argument.given?).getD
        (((lastValue s us).map Argument.given?).getD before) := by
  rw [lastValue_append]
  cases lastValue s vs <;> rfl

theorem Request.Follows.refl (r : Request) : r.Follows [] r where
  hosts := (List.append_nil _).symm
  cert := rfl
  config := rfl
  writeDefault := rfl
  logLevel := rfl
  showNames := (Bool.or_false _).symm
  noFallback := (Bool.or_false _).symm
  noWildcards := (Bool.or_false _).symm

theorem Request.Follows.trans (h : first.Follows us next) (hnext : next.Follows vs last) :
    first.Follows (us ++ vs) last where
  hosts := by rw [hnext.hosts, h.hosts, valuesOf_append, List.append_assoc]
  cert := by rw [hnext.cert, h.cert, lastGiven_append]
  config := by rw [hnext.config, h.config, lastGiven_append]
  writeDefault := by rw [hnext.writeDefault, h.writeDefault, lastGiven_append]
  logLevel := by rw [hnext.logLevel, h.logLevel, lastValue_append, Option.or_assoc]
  showNames := by rw [hnext.showNames, h.showNames, isOn_append, Bool.or_assoc]
  noFallback := by rw [hnext.noFallback, h.noFallback, isOn_append, Bool.or_assoc]
  noWildcards := by rw [hnext.noWildcards, h.noWildcards, isOn_append, Bool.or_assoc]

theorem levelOf_name {a : Argument String} {l : Argument LogLevel} (h : levelOf s a = .ok l) :
    l.map LogLevel.name = a := by
  cases a with
  | nothing =>
    obtain rfl := Except.ok.inj h
    rfl
  | given name =>
    rw [levelOf] at h
    cases hname : LogLevel.ofName? name with
    | none =>
      rw [hname] at h
      cases h
    | some level =>
      rw [hname] at h
      obtain rfl := Except.ok.inj h
      rw [Argument.map, LogLevel.name_of_ofName? hname]

/-- The effect of one option. -/
theorem Request.use_follows {u : Use} (h : r.use u = .ok next) : r.Follows [u] next := by
  cases u with
  | flag s =>
    obtain rfl := Except.ok.inj h
    cases s <;> constructor <;> simp [Request.flag, valuesOf, lastValue, isOn, Use.value?,
      Use.turnsOn]
  | value s a =>
    cases s with
    | logLevel =>
      rw [Request.use, Request.set] at h
      cases hlevel : levelOf .logLevel a with
      | error mistake =>
        rw [hlevel] at h
        cases h
      | ok l =>
        rw [hlevel] at h
        obtain rfl := Except.ok.inj h
        constructor <;> simp [valuesOf, lastValue, isOn, Use.value?, Use.turnsOn,
          levelOf_name hlevel]
    | _ =>
      obtain rfl := Except.ok.inj h
      constructor <;> simp [valuesOf, lastValue, isOn, Use.value?, Use.turnsOn]

/-- The effect of options one after another. -/
theorem foldlM_use_follows (h : us.foldlM Request.use r = .ok last) : r.Follows us last := by
  induction us generalizing r with
  | nil =>
    obtain rfl := Except.ok.inj h
    exact .refl r
  | cons u rest ih =>
    rw [List.foldlM_cons] at h
    cases hstep : r.use u with
    | error mistake =>
      rw [hstep] at h
      cases h
    | ok next =>
      rw [hstep] at h
      exact (Request.use_follows hstep).trans (ih h)

/-! ### The words of a command line -/

theorem uses_flag {ts : List Token} (hplain : ∀ word rest, ts = .plain word :: rest → False) :
    uses (.option s none :: ts) = .flag s :: uses ts := by
  cases ts with
  | nil => rfl
  | cons t rest =>
    cases t with
    | plain word => exact (hplain word rest rfl).elim
    | option t attached => rfl
    | stranger word => rfl

/-- A wish to be helped is no request. -/
theorem helpCluster_eq_ok {rest : List Token} {cluster : List Char} {p : Parsed}
    (h : helpCluster rest cluster = .ok p) : p = .help := by
  fun_induction helpCluster rest cluster with
  | case1 => cases h
  | case2 => cases h
  | case3 => exact (Except.ok.inj h).symm
  | case4 c more hmore _ ih => exact ih h
  | case5 => exact (Except.ok.inj h).symm
  | case6 => cases h
  | case7 => exact (Except.ok.inj h).symm

/-- The effect of a command line is that of its options one after another. -/
theorem follow_uses {strangers others : List String} {ts : List Token}
    (h : follow r strangers ts = .ok (.request last, others)) :
    (uses ts).foldlM Request.use r = .ok last := by
  -- on the words; those that belong to no option change nothing
  fun_induction follow r strangers ts with
  | case1 r strangers =>
    obtain ⟨hlast, -⟩ := Prod.mk.inj (Except.ok.inj h)
    rw [uses, List.foldlM_nil, Parsed.request.inj hlast]
    rfl
  | case2 r strangers word rest ih => exact ih h
  | case3 r strangers word rest ih => exact ih h
  | case4 => cases (Prod.mk.inj (Except.ok.inj h)).1
  | case5 r strangers cluster rest =>
    cases hhelp : helpCluster rest cluster with
    | error mistake =>
      rw [hhelp] at h
      cases h
    | ok p =>
      rw [hhelp, helpCluster_eq_ok hhelp] at h
      cases (Prod.mk.inj (Except.ok.inj h)).1
  | case6 r strangers s attached rest _ _ ih =>
    rw [uses, List.foldlM_cons]
    cases hset : r.set s (.ofAttached attached.value) with
    | error mistake =>
      rw [hset] at h
      cases h
    | ok next =>
      rw [hset] at h
      rw [Request.use, hset]
      exact ih next h
  | case7 => cases h
  | case8 r strangers s word rest _ hvalue ih =>
    rw [uses, if_pos hvalue, List.foldlM_cons]
    cases hset : r.set s (.given word) with
    | error mistake =>
      rw [hset] at h
      cases h
    | ok next =>
      rw [hset] at h
      rw [Request.use, hset]
      exact ih next h
  | case9 r strangers s word rest _ hvalue ih =>
    rw [uses, if_neg hvalue, List.foldlM_cons]
    exact ih h
  | case10 => cases h
  | case11 r strangers s rest _ hplain _ ih =>
    rw [uses_flag hplain, List.foldlM_cons]
    exact ih h

/-- **The request of a command line** is read off its options. -/
theorem Request.ofWords_follows {words : List String}
    (h : Request.ofWords words = .ok (.request r)) :
    ∃ ts others, tokens words = .ok (ts, others) ∧ ({} : Request).Follows (uses ts) r := by
  rw [Request.ofWords] at h
  cases htokens : tokens words with
  | error mistake =>
    rw [htokens] at h
    cases h
  | ok found =>
    obtain ⟨ts, others⟩ := found
    rw [htokens] at h
    simp only [bind, Except.bind] at h
    cases hfollow : follow {} [] ts with
    | error mistake =>
      rw [hfollow] at h
      cases h
    | ok result =>
      obtain ⟨p, strangers⟩ := result
      rw [hfollow] at h
      cases p with
      | help => cases h
      | request found =>
        simp only at h
        split at h
        · obtain rfl : found = r := Parsed.request.inj (Except.ok.inj h)
          exact ⟨ts, others, rfl, foldlM_use_follows (follow_uses hfollow)⟩
        · cases h

end PeerName.CommandLine

import Mathlib.Algebra.Group.Int.Defs
import Mathlib.Algebra.Group.Nat.Defs
import PeerName.Value.Display

/-!
# What can be written out

Going through a value takes calls within calls, as many as the value has layers, and the numbers in
it must not have too many digits.  Nothing else is ever in the way.

* `Value.calls`, `Value.numbers` — the calls that a value takes, and the numbers in it;
* `Value.calls_le_calls` — the calls of one pass and of another;
* `Value.nested`, `Value.calls_nested` — lists within one another;
* `Value.obstacle?_eq_none_iff` — **when nothing is in the way**;
* `Value.meets_of_obstacle?` — what is in the way otherwise;
* `Desk.hindrance?_eq_none_iff` — **when values can be written out at a desk**;
* `Desk.hindrance?_of_long`, `Desk.hindrance?_powerOfTen` — numbers that cannot.
-/

namespace PeerName

namespace Value

/-! ### Layers and numbers -/

mutual

/-- The calls within calls that going through a value takes. -/
def calls (pass : Pass) : Value → Nat
  | list items => pass.node + itemsCalls pass items
  | record fields => pass.node + fieldsCalls pass fields
  | null | bool _ | int _ | real _ | text _ | bytes _ => pass.leaf

/-- The most that an item of a list takes. -/
def itemsCalls (pass : Pass) : List Value → Nat
  | [] => 0
  | v :: rest => max (calls pass v) (itemsCalls pass rest)

/-- The most that a name or a value of a record takes. -/
def fieldsCalls (pass : Pass) : List (String × Value) → Nat
  | [] => 0
  | (_, v) :: rest => max pass.leaf (max (calls pass v) (fieldsCalls pass rest))

end

mutual

/-- The numbers in a value. -/
def numbers : Value → List Int
  | list items => itemsNumbers items
  | record fields => fieldsNumbers fields
  | int n => [n]
  | null | bool _ | real _ | text _ | bytes _ => []

/-- The numbers in the items of a list. -/
def itemsNumbers : List Value → List Int
  | [] => []
  | v :: rest => numbers v ++ itemsNumbers rest

/-- The numbers in the values of a record. -/
def fieldsNumbers : List (String × Value) → List Int
  | [] => []
  | (_, v) :: rest => numbers v ++ fieldsNumbers rest

end

mutual

/-- A pass that takes more calls at every step takes more calls in all. -/
theorem calls_le_calls {pass other : Pass} (hleaf : pass.leaf ≤ other.leaf)
    (hnode : pass.node ≤ other.node) (v : Value) : v.calls pass ≤ v.calls other := by
  cases v with
  | list items =>
    rw [calls, calls]
    exact Nat.add_le_add hnode (itemsCalls_le_itemsCalls hleaf hnode items)
  | record fields =>
    rw [calls, calls]
    exact Nat.add_le_add hnode (fieldsCalls_le_fieldsCalls hleaf hnode fields)
  | _ => exact hleaf

theorem itemsCalls_le_itemsCalls {pass other : Pass} (hleaf : pass.leaf ≤ other.leaf)
    (hnode : pass.node ≤ other.node) (items : List Value) :
    itemsCalls pass items ≤ itemsCalls other items := by
  match items with
  | [] => exact Nat.le_refl 0
  | v :: rest =>
    have hv := calls_le_calls hleaf hnode v
    have hrest := itemsCalls_le_itemsCalls hleaf hnode rest
    rw [itemsCalls, itemsCalls]
    omega

theorem fieldsCalls_le_fieldsCalls {pass other : Pass} (hleaf : pass.leaf ≤ other.leaf)
    (hnode : pass.node ≤ other.node) (fields : List (String × Value)) :
    fieldsCalls pass fields ≤ fieldsCalls other fields := by
  match fields with
  | [] => exact Nat.le_refl 0
  | (_, v) :: rest =>
    have hv := calls_le_calls hleaf hnode v
    have hrest := fieldsCalls_le_fieldsCalls hleaf hnode rest
    rw [fieldsCalls, fieldsCalls]
    omega

end

/-- Lists within one another, so many of them. -/
def nested : Nat → Value
  | 0 => null
  | n + 1 => list [nested n]

theorem calls_nested (pass : Pass) (n : Nat) :
    (nested n).calls pass = pass.node * n + pass.leaf := by
  induction n with
  | zero => rw [nested, calls, Nat.mul_zero, Nat.zero_add]
  | succ n ih =>
    rw [nested, calls, itemsCalls, itemsCalls, Nat.max_zero, ih]
    rw [Nat.mul_succ]
    omega

/-! ### What is in the way -/

theorem shortage?_eq_none_iff (pass : Pass) (room calls : Nat) :
    pass.shortage? room calls = none ↔ calls ≤ room := by
  rw [Pass.shortage?]
  split
  next h => exact iff_of_false (Option.some_ne_none _) (Nat.not_le.mpr h)
  next h => exact iff_of_true rfl (Nat.not_lt.mp h)

mutual

/-- **Nothing is in the way** exactly if there is room for all layers, and every number passes. -/
theorem obstacle?_eq_none_iff (pass : Pass) (room : Nat) (v : Value) :
    v.obstacle? pass room = none ↔
      v.calls pass ≤ room ∧ ∀ n ∈ v.numbers, pass.excess? n = none := by
  cases v with
  | list items =>
    have hitems := itemsObstacle?_eq_none_iff pass (room - pass.node) items
    rw [obstacle?, Option.or_eq_none_iff, hitems, shortage?_eq_none_iff, calls, numbers,
      ← and_assoc]
    exact and_congr_left fun _ => by omega
  | record fields =>
    have hfields := fieldsObstacle?_eq_none_iff pass (room - pass.node) fields
    rw [obstacle?, Option.or_eq_none_iff, hfields, shortage?_eq_none_iff, calls, numbers,
      ← and_assoc]
    exact and_congr_left fun _ => by omega
  | int n =>
    rw [obstacle?, Option.or_eq_none_iff, shortage?_eq_none_iff, calls, numbers,
      List.forall_mem_singleton]
  | _ =>
    rw [obstacle?, shortage?_eq_none_iff, calls, numbers]
    exact (and_iff_left (List.forall_mem_nil _)).symm

theorem itemsObstacle?_eq_none_iff (pass : Pass) (room : Nat) (items : List Value) :
    itemsObstacle? pass room items = none ↔
      itemsCalls pass items ≤ room ∧ ∀ n ∈ itemsNumbers items, pass.excess? n = none := by
  match items with
  | [] => exact iff_of_true rfl ⟨Nat.zero_le _, List.forall_mem_nil _⟩
  | v :: rest =>
    rw [itemsObstacle?, Option.or_eq_none_iff, obstacle?_eq_none_iff pass room v,
      itemsObstacle?_eq_none_iff pass room rest, itemsCalls, itemsNumbers, List.forall_mem_append,
      Nat.max_le, and_and_and_comm]

theorem fieldsObstacle?_eq_none_iff (pass : Pass) (room : Nat) (fields : List (String × Value)) :
    fieldsObstacle? pass room fields = none ↔
      fieldsCalls pass fields ≤ room ∧ ∀ n ∈ fieldsNumbers fields, pass.excess? n = none := by
  match fields with
  | [] => exact iff_of_true rfl ⟨Nat.zero_le _, List.forall_mem_nil _⟩
  | (_, v) :: rest =>
    rw [fieldsObstacle?, Option.or_eq_none_iff, Option.or_eq_none_iff, shortage?_eq_none_iff,
      obstacle?_eq_none_iff pass room v, fieldsObstacle?_eq_none_iff pass room rest, fieldsCalls,
      fieldsNumbers, List.forall_mem_append, Nat.max_le, Nat.max_le, and_and_and_comm, and_assoc,
      and_assoc, and_assoc]

end

/-- Nothing is in the way of the items of a list exactly if nothing is in the way of any. -/
theorem itemsObstacle?_eq_none_iff_forall (pass : Pass) (room : Nat) (items : List Value) :
    itemsObstacle? pass room items = none ↔ ∀ v ∈ items, v.obstacle? pass room = none := by
  induction items with
  | nil => exact iff_of_true rfl (List.forall_mem_nil _)
  | cons v rest ih => rw [itemsObstacle?, Option.or_eq_none_iff, ih, List.forall_mem_cons]

end Value

/-! ### Which obstacles there are -/

/-- What a pass can come upon: the lack of room, or too many digits. -/
def Pass.Meets (pass : Pass) (cause : Mismatch) : Prop :=
  cause = .tooDeep pass.work ∨ ∃ most, pass.digits = some most ∧ cause = .tooManyDigits most

theorem Pass.meets_of_shortage? {pass : Pass} {room calls : Nat} {cause : Mismatch}
    (h : pass.shortage? room calls = some cause) : pass.Meets cause := by
  rw [Pass.shortage?] at h
  split at h
  · exact Or.inl (Option.some.inj h).symm
  · cases h

theorem Pass.meets_of_excess? {pass : Pass} {n : Int} {cause : Mismatch}
    (h : pass.excess? n = some cause) : pass.Meets cause := by
  rw [Pass.excess?, Option.bind_eq_some_iff] at h
  obtain ⟨most, hmost, h⟩ := h
  split at h
  · exact Or.inr ⟨most, hmost, (Option.some.inj h).symm⟩
  · cases h

namespace Value

mutual

/-- **Nothing else is ever in the way.** -/
theorem meets_of_obstacle? {pass : Pass} {room : Nat} {v : Value} {cause : Mismatch}
    (h : v.obstacle? pass room = some cause) : pass.Meets cause := by
  cases v with
  | list items =>
    rw [obstacle?, Option.or_eq_some_iff] at h
    exact h.elim Pass.meets_of_shortage? fun h => meets_of_itemsObstacle? h.2
  | record fields =>
    rw [obstacle?, Option.or_eq_some_iff] at h
    exact h.elim Pass.meets_of_shortage? fun h => meets_of_fieldsObstacle? h.2
  | int n =>
    rw [obstacle?, Option.or_eq_some_iff] at h
    exact h.elim Pass.meets_of_shortage? fun h => Pass.meets_of_excess? h.2
  | _ => exact Pass.meets_of_shortage? h

theorem meets_of_itemsObstacle? {pass : Pass} {room : Nat} {items : List Value} {cause : Mismatch}
    (h : itemsObstacle? pass room items = some cause) : pass.Meets cause := by
  match items with
  | [] => cases h
  | v :: rest =>
    rw [itemsObstacle?, Option.or_eq_some_iff] at h
    exact h.elim meets_of_obstacle? fun h => meets_of_itemsObstacle? h.2

theorem meets_of_fieldsObstacle? {pass : Pass} {room : Nat} {fields : List (String × Value)}
    {cause : Mismatch} (h : fieldsObstacle? pass room fields = some cause) :
    pass.Meets cause := by
  match fields with
  | [] => cases h
  | (_, v) :: rest =>
    rw [fieldsObstacle?, Option.or_eq_some_iff, Option.or_eq_some_iff] at h
    rcases h with h | ⟨-, h | ⟨-, h⟩⟩
    · exact Pass.meets_of_shortage? h
    · exact meets_of_obstacle? h
    · exact meets_of_fieldsObstacle? h

end

end Value

/-! ### At a desk -/

/-- A power of ten, which has one digit more than its exponent says. -/
def powerOfTen (exponent : Nat) : Value := .int (10 ^ exponent)

theorem Pass.excess?_eq_none_iff {pass : Pass} {most : Nat} (hdigits : pass.digits = some most)
    (n : Int) : pass.excess? n = none ↔ n.natAbs < 10 ^ most := by
  rw [Pass.excess?, hdigits, Option.bind_some]
  split
  next h => exact iff_of_false (Option.some_ne_none _) (Nat.not_lt.mpr h)
  next h => exact iff_of_true rfl (Nat.not_le.mp h)

variable [Limits]

/-- **Values can be written out at a desk** exactly if there is room for all their layers, and no
number in them has too many digits. -/
theorem Desk.hindrance?_eq_none_iff (desk : Desk) (values : List Value) :
    desk.hindrance? values = none ↔
      Value.itemsCalls .quoting values ≤ Limits.room desk ∧
        ∀ n ∈ Value.itemsNumbers values, n.natAbs < 10 ^ Limits.digits := by
  rw [hindrance?, Value.itemsObstacle?_eq_none_iff]
  exact and_congr_right fun _ => forall₂_congr fun n _ => Pass.excess?_eq_none_iff rfl n

/-- A number with too many digits cannot be written out anywhere. -/
theorem Desk.hindrance?_of_long (desk : Desk) {n : Int} (h : 10 ^ Limits.digits ≤ n.natAbs)
    (values : List Value) :
    desk.hindrance? (.int n :: values) = some (.tooManyDigits Limits.digits) := by
  have hexcess : Pass.quoting.excess? n = some (.tooManyDigits Limits.digits) := if_pos h
  rw [hindrance?, Value.itemsObstacle?, Value.obstacle?, shortage?_leaf, Option.none_or, hexcess,
    Option.some_or]

/-- A power of ten has one digit more than its exponent says. -/
theorem long_pow {k : Nat} (h : Limits.digits ≤ k) :
    10 ^ Limits.digits ≤ ((10 : Int) ^ k).natAbs := by
  rw [Int.natAbs_pow]
  exact Nat.pow_le_pow_right (by decide) h

end PeerName

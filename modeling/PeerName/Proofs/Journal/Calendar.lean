import PeerName.Journal.Calendar

/-!
# The range of the calendar

An era has 400 years, which are counted from March.  Within it the first 306 days fall into the year
in which the era begins, and the last 60 days into the year in which it ends.  So the days that
fall into four-digit years are a range, and a point in time has a date exactly if its day and the
day before are in that range.

* `Date.year_ofDay` — the year of a day, by its era and its day in the era;
* `Date.one_le_year_iff`, `Date.year_le_iff` — the days of the years 1 to 9999;
* `Moment.checkYear_eq_ok_iff` — the seconds of these days;
* `Moment.exists_text_iff` — **the points in time that have a date**.
-/

namespace PeerName.Journal

namespace Date

variable {day : Nat}

/-! ### Days of an era -/

/-- The year of a day in an era, where years begin in March. -/
def yearInEra (day : Nat) : Nat := (day - day / 1460 + day / 36524 - day / 146096) / 365

/-- The month of a day in an era, counted from March. -/
def monthInYear (day : Nat) : Nat :=
  (5 * (day - (365 * yearInEra day + yearInEra day / 4 - yearInEra day / 100)) + 2) / 153

/-- The year of a day in an era, where years begin in January. -/
def civilYear (day : Nat) : Nat := yearInEra day + if monthInYear day < 10 then 0 else 1

theorem year_ofDay (n : Int) :
    (ofDay n).year = civilYear ((n + 719468) % 146097).toNat + (n + 719468) / 146097 * 400 := by
  show (yearInEra _ : Int) + _ * 400 + (if monthInYear _ < 10 then 0 else 1) = _
  rw [civilYear]
  split <;> omega

theorem yearInEra_le (h : day < 146097) : yearInEra day ≤ 399 := by
  rw [yearInEra]
  omega

/-- The first 306 days of an era belong to the year in which it begins. -/
theorem one_le_civilYear_iff (h : day < 146097) : 1 ≤ civilYear day ↔ 306 ≤ day := by
  by_cases hfirst : yearInEra day = 0
  · have hmonth : monthInYear day = (5 * day + 2) / 153 := by
      rw [monthInYear, hfirst]
      rfl
    rw [civilYear, hfirst, hmonth]
    split <;> omega
  · have hday : 306 ≤ day := by
      rw [yearInEra] at hfirst
      omega
    rw [civilYear]
    omega

/-- The last 60 days of an era belong to the year in which it ends. -/
theorem civilYear_le_iff (h : day < 146097) : civilYear day ≤ 399 ↔ day < 146037 := by
  have hbound := yearInEra_le h
  by_cases hlast : yearInEra day = 399
  · have hmonth : monthInYear day = (5 * (day - 145731) + 2) / 153 := by
      rw [monthInYear, hlast]
    have hlow : 145731 ≤ day := by
      rw [yearInEra] at hlast
      omega
    rw [civilYear, hlast, hmonth]
    split <;> omega
  · have hday : day < 146037 := by
      rw [yearInEra] at hlast
      omega
    rw [civilYear]
    split <;> omega

theorem civilYear_le (h : day < 146097) : civilYear day ≤ 400 := by
  have hbound := yearInEra_le h
  rw [civilYear]
  split <;> omega

/-! ### Four-digit years -/

variable (n : Int)

/-- The years from 1 on begin at this day. -/
theorem one_le_year_iff : 1 ≤ (ofDay n).year ↔ -719162 ≤ n := by
  have hday : ((n + 719468) % 146097).toNat < 146097 := by omega
  have hfirst := one_le_civilYear_iff hday
  have hlast := civilYear_le hday
  rw [year_ofDay]
  generalize civilYear _ = year at *
  omega

/-- The years up to 9999 end at this day. -/
theorem year_le_iff : (ofDay n).year ≤ 9999 ↔ n ≤ 2932896 := by
  have hday : ((n + 719468) % 146097).toNat < 146097 := by omega
  have hfirst := civilYear_le_iff hday
  have hlast := civilYear_le hday
  rw [year_ofDay]
  generalize civilYear _ = year at *
  omega

end Date

/-! ### Points in time -/

namespace Moment

/-- The seconds of the days in four-digit years. -/
theorem checkYear_eq_ok_iff (seconds : Int) :
    checkYear seconds = .ok () ↔ -62135596800 ≤ seconds ∧ seconds ≤ 253402300799 := by
  have hlow := Date.one_le_year_iff (seconds / daySeconds)
  have hhigh := Date.year_le_iff (seconds / daySeconds)
  have hclock : ((Nat.pow 2 63 : Nat) : Int) = 9223372036854775808 := rfl
  have hcalendar : ((Nat.pow 2 31 : Nat) : Int) = 2147483648 := rfl
  rw [checkYear, hclock, hcalendar]
  generalize (Date.ofDay (seconds / daySeconds)).year = year at *
  rw [daySeconds] at hlow hhigh
  split
  next => exact iff_of_false (fun h => nomatch h) (by omega)
  next =>
    split
    next => exact iff_of_false (fun h => nomatch h) (by omega)
    next =>
      split
      next => exact iff_of_true rfl (by omega)
      next => exact iff_of_false (fun h => nomatch h) (by omega)

/-- **The points in time that have a date** lie in four-digit years with the day before. -/
theorem exists_text_iff (t : Moment) :
    (∃ s, t.text = .ok s) ↔ -62135510400 ≤ t.seconds ∧ t.seconds ≤ 253402300799 := by
  have htoday := checkYear_eq_ok_iff t.seconds
  have hbefore := checkYear_eq_ok_iff (t.seconds - daySeconds)
  have hlength : daySeconds = 86400 := rfl
  rw [text]
  cases hcheck : checkYear t.seconds with
  | error fault =>
    rw [hcheck] at htoday
    refine iff_of_false (fun ⟨_, h⟩ => nomatch h) fun hrange => ?_
    exact nomatch htoday.mpr (by omega)
  | ok _ =>
    have hend := htoday.mp hcheck
    cases hday : checkYear (t.seconds - daySeconds) with
    | error fault =>
      rw [hday] at hbefore
      refine iff_of_false (fun ⟨_, h⟩ => nomatch h) fun hrange => ?_
      exact nomatch hbefore.mpr (by omega)
    | ok _ =>
      have hstart := hbefore.mp hday
      exact iff_of_true ⟨_, rfl⟩ (by omega)

end Moment

end PeerName.Journal

import Mathlib.Data.Nat.Find
import Mathlib.Order.Monotone.Basic

/-!
# The civil calendar

Days are counted from 1 January 1970, and months from the January of that year. Going back by months
keeps the day of the month, or takes the last day of a shorter month, and keeps the time of day. That
is not monotone: from 28 and from 29 February it may lead to the same day. From the first of a month
on, it is.
-/

namespace GhgTool

def IsLeap (year : ℕ) : Prop :=
  year % 4 = 0 ∧ (year % 100 ≠ 0 ∨ year % 400 = 0)

instance (year : ℕ) : Decidable (IsLeap year) :=
  inferInstanceAs (Decidable (_ ∧ (_ ∨ _)))

def monthLength (month : ℕ) : ℕ :=
  match month % 12 with
  | 1 => if IsLeap (1970 + month / 12) then 29 else 28
  | 3 | 5 | 8 | 10 => 30
  | _ => 31

/-- The first day of a month. -/
def monthStart : ℕ → ℕ
  | 0 => 0
  | month + 1 => monthStart month + monthLength month

/-- The month in which a day falls. -/
def monthOf (day : ℕ) : ℕ :=
  Nat.findGreatest (fun month => monthStart month ≤ day) (day / 28)

/-- `t - INTERVAL '.. months'` for a time in seconds; 0 where that is before the first day. -/
def minusMonths (months t : ℕ) : ℕ :=
  let day := t / 86400
  let month := monthOf day
  if month < months then 0
  else
    let back := month - months
    (monthStart back + min (day - monthStart month) (monthLength back - 1)) * 86400 + t % 86400

def FirstOfMonth (t : ℕ) : Prop :=
  monthStart (monthOf (t / 86400)) = t / 86400

instance (t : ℕ) : Decidable (FirstOfMonth t) :=
  inferInstanceAs (Decidable (_ = _))

section Calendar

variable {day day' month month' months t now : ℕ}

theorem le_monthLength (month : ℕ) : 28 ≤ monthLength month := by
  unfold monthLength
  split
  · split <;> omega
  all_goals omega

theorem le_monthStart (month : ℕ) : 28 * month ≤ monthStart month := by
  induction month with
  | zero => exact Nat.zero_le _
  | succ month ih =>
      have hlength := le_monthLength month
      rw [monthStart]
      omega

theorem monthStart_strictMono : StrictMono monthStart :=
  strictMono_nat_of_lt_succ fun month => by
    have hlength := le_monthLength month
    rw [monthStart]
    omega

theorem monthStart_monthOf_le (day : ℕ) : monthStart (monthOf day) ≤ day :=
  Nat.findGreatest_spec (P := fun month => monthStart month ≤ day) (m := 0) (Nat.zero_le _)
    (Nat.zero_le day)

theorem lt_monthStart_succ (day : ℕ) : day < monthStart (monthOf day + 1) := by
  by_contra hstart
  have hle : monthStart (monthOf day + 1) ≤ day := Nat.not_lt.mp hstart
  have hbound : monthOf day + 1 ≤ day / 28 := by
    have hlong := le_monthStart (monthOf day + 1)
    omega
  have hgreatest := Nat.le_findGreatest (P := fun month => monthStart month ≤ day) hbound hle
  exact Nat.not_succ_le_self _ hgreatest

theorem monthOf_mono (h : day ≤ day') : monthOf day ≤ monthOf day' := by
  by_contra hless
  have hnext : monthStart (monthOf day' + 1) ≤ monthStart (monthOf day) :=
    monthStart_strictMono.monotone (Nat.not_le.mp hless)
  have hday := monthStart_monthOf_le day
  have hday' := lt_monthStart_succ day'
  omega

/-- From the first of a month on, a later time goes back to a later time. -/
theorem minusMonths_le_minusMonths (hfirst : FirstOfMonth now) (h : now ≤ t) :
    minusMonths months now ≤ minusMonths months t := by
  have hdays : now / 86400 ≤ t / 86400 := Nat.div_le_div_right h
  have hmonths := monthOf_mono hdays
  have hlength := le_monthLength (monthOf (t / 86400) - months)
  unfold FirstOfMonth at hfirst
  unfold minusMonths
  dsimp only
  split
  · exact Nat.zero_le _
  next hnow =>
    rw [if_neg fun hlt => hnow (lt_of_le_of_lt hmonths hlt), hfirst, Nat.sub_self, Nat.zero_min]
    rcases hmonths.eq_or_lt with hsame | hlater
    · rw [← hsame, hfirst]
      rw [← hsame] at hlength
      -- the same month: on the first itself the time of day decides
      rcases hdays.eq_or_lt with hday | hday
      · rw [← hday, Nat.sub_self, Nat.zero_min]
        omega
      · have hlate : 1 ≤ min (t / 86400 - now / 86400)
            (monthLength (monthOf (now / 86400) - months) - 1) :=
          le_min (by omega) (by omega)
        omega
    · have hstart : monthStart (monthOf (now / 86400) - months) <
          monthStart (monthOf (t / 86400) - months) := monthStart_strictMono (by omega)
      omega

/-- Ten years before 29 February 2032, one o'clock, and before the evening of the 28th. -/
example : minusMonths 120 1961629200 < minusMonths 120 1961622000 := by decide +kernel

end Calendar

end GhgTool

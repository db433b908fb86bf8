import TestTwins.Moment

namespace TestTwins.Moment

theorem le_iff {a b : Moment} :
    a.le b ↔ a.seconds < b.seconds ∨ a.seconds = b.seconds ∧ a.nanos ≤ b.nanos := by
  simp [le]

theorem le_total (a b : Moment) : a.le b ∨ b.le a := by
  simp only [le_iff]
  omega

theorem le_trans {a b c : Moment} (hab : a.le b) (hbc : b.le c) : a.le c := by
  simp only [le_iff] at hab hbc ⊢
  omega

theorem le_antisymm {a b : Moment} (hab : a.le b) (hba : b.le a) : a = b := by
  cases a
  cases b
  simp only [le_iff, mk.injEq] at hab hba ⊢
  omega

def Before (a b : Moment) : Prop := ¬ b.le a

theorem Before.le {a b : Moment} (h : a.Before b) : a.le b :=
  (le_total a b).resolve_right h

theorem le_ofNanos {a b : Int} : (ofNanos a).le (ofNanos b) ↔ a ≤ b := by
  simp only [le_iff, ofNanos, secondNanos]
  omega

def dayNanos : Int := daySeconds * secondNanos

def InCalendar (time : Int) : Prop :=
  earliest * secondNanos ≤ time ∧ time < (latest + 1) * secondNanos

instance (time : Int) : Decidable (InCalendar time) :=
  inferInstanceAs (Decidable (_ ∧ _))

theorem inCalendar_iff {time : Int} :
    InCalendar time ↔ earliest ≤ (ofNanos time).seconds ∧ (ofNanos time).seconds ≤ latest := by
  simp only [InCalendar, ofNanos, secondNanos]
  omega

theorem daysBefore?_ofNanos (now days : Int) :
    (ofNanos now).daysBefore? days =
      if InCalendar (now - days * dayNanos) then some (ofNanos (now - days * dayNanos)) else none := by
  have hseconds : (ofNanos now).seconds - days * daySeconds =
      (ofNanos (now - days * dayNanos)).seconds := by
    simp only [ofNanos, dayNanos, daySeconds, secondNanos]
    omega
  have hnanos : (ofNanos now).nanos = (ofNanos (now - days * dayNanos)).nanos := by
    simp only [ofNanos, dayNanos, daySeconds, secondNanos]
    omega
  simp only [daysBefore?, hseconds, hnanos, inCalendar_iff]

end TestTwins.Moment

import Registrar.Proofs.Calendar.Date
import Registrar.Proofs.Calendar.DayNumber
import Registrar.Proofs.Evaluation.Window

/-!
# The threshold between windows

Whether windows are separate is arithmetic on day numbers: one of them starts more days after the end of the other than
the threshold (`isSeparateFrom_iff`). This also holds where the calendar ends before the threshold is passed, since no
window starts behind the calendar. So windows that are separate stay so under a smaller threshold
(`isSeparateFrom_of_le`), and only the choice between a split and a conflict hangs on the threshold: a smaller one keeps
splits, a larger one keeps conflicts (`threshold_decides`).
-/

namespace Registrar

variable {gap gap' : Int} {a b w : Window} {r : Row .sisImport} {rows : List (Row .sisImport)}

namespace Window

/-- The calendar reaches both ends of the window. -/
def InCalendar (w : Window) : Prop := w.first.InCalendar ∧ w.last.InCalendar

instance (w : Window) : Decidable w.InCalendar := inferInstanceAs (Decidable (_ ∧ _))

/-- The days from the end of a window to the start of another, negative when that comes first. -/
def daysUntil (a b : Window) : Int := b.first.number - a.last.number

theorem isBefore_iff (hgap : 0 ≤ gap) (ha : a.InCalendar) (hb : b.InCalendar) :
    isBefore gap a b = true ↔ gap < a.daysUntil b := by
  have hlast := (Date.inCalendar_iff_number.1 ha.2).1
  have hfirst := (Date.inCalendar_iff_number.1 hb.1).2
  unfold isBefore Date.numberAfter? daysUntil
  dsimp only
  split
  · rw [Option.any_some, decide_eq_true_eq]
    omega
  · -- the threshold leaves the calendar, and `b` starts within it
    refine iff_of_false (fun h => nomatch h) ?_
    omega

/-- Windows are separate where more days than the threshold lie from the end of one to the start of the other. -/
theorem isSeparateFrom_iff (hgap : 0 ≤ gap) (ha : a.InCalendar) (hb : b.InCalendar) :
    a.isSeparateFrom gap b = true ↔ gap < a.daysUntil b ∨ gap < b.daysUntil a := by
  rw [isSeparateFrom, Bool.or_eq_true, isBefore_iff hgap ha hb, isBefore_iff hgap hb ha]

theorem isSeparateFrom_of_le (hgap : 0 ≤ gap) (hle : gap ≤ gap') (ha : a.InCalendar) (hb : b.InCalendar)
    (h : a.isSeparateFrom gap' b = true) : a.isSeparateFrom gap b = true := by
  rw [isSeparateFrom_iff (Int.le_trans hgap hle) ha hb] at h
  rw [isSeparateFrom_iff hgap ha hb]
  omega

/-- The calendar reaches all dates that are read. -/
theorem inCalendar_of_of? (h : of? r = some w) : w.InCalendar := by
  obtain ⟨hfirst, hlast⟩ := of?_eq_some_iff.1 h
  have hyear := Date.year_of_parse? hfirst
  have hyear' := Date.year_of_parse? hlast
  constructor
  · constructor <;> omega
  · constructor <;> omega

end Window

namespace GroupDecision

theorem Splits.of_le (hgap : 0 ≤ gap) (hle : gap ≤ gap') (h : Splits gap' rows) : Splits gap rows where
  readable := h.readable
  differing := h.differing
  separate := fun r hr r' hr' w w' hw hw' hne huid =>
    Window.isSeparateFrom_of_le hgap hle (Window.inCalendar_of_of? hw) (Window.inCalendar_of_of? hw')
      (h.separate r hr r' hr' w w' hw hw' hne huid)

/-- **The threshold decides between split and conflict only.** Within the calendar, windows are separate where more days
than the threshold lie from the end of one to the start of the other. What is split at a threshold is split at every
smaller one that is not negative, what is a conflict is one at every larger one, and neither equal nor unreadable
windows hang on the threshold. -/
theorem threshold_decides :
    (∀ a b : Window, a.InCalendar → b.InCalendar → ∀ gap : Int, 0 ≤ gap →
      (a.isSeparateFrom gap b = true ↔ gap < a.daysUntil b ∨ gap < b.daysUntil a)) ∧
    ∀ (rows : List (Row .sisImport)) (gap gap' : Int), 0 ≤ gap → gap ≤ gap' →
      (GroupDecision.of gap' rows = .split → GroupDecision.of gap rows = .split) ∧
      (GroupDecision.of gap rows = .conflict → GroupDecision.of gap' rows = .conflict) ∧
      (GroupDecision.of gap rows = .uniform ↔ GroupDecision.of gap' rows = .uniform) ∧
      (GroupDecision.of gap rows = .unreadable ↔ GroupDecision.of gap' rows = .unreadable) := by
  refine ⟨fun a b ha hb gap hgap => Window.isSeparateFrom_iff hgap ha hb, fun rows gap gap' hgap hle => ?_⟩
  have hsplit : GroupDecision.of gap' rows = .split → GroupDecision.of gap rows = .split := fun h =>
    of_eq_split_iff.2 ((of_eq_split_iff.1 h).of_le hgap hle)
  have huniform : GroupDecision.of gap rows = .uniform ↔ GroupDecision.of gap' rows = .uniform := by
    rw [of_eq_uniform_iff, of_eq_uniform_iff]
  have hunreadable : GroupDecision.of gap rows = .unreadable ↔ GroupDecision.of gap' rows = .unreadable := by
    rw [of_eq_unreadable_iff, of_eq_unreadable_iff]
  refine ⟨hsplit, fun hconflict => ?_, huniform, hunreadable⟩
  -- at the larger threshold no other decision is left
  rw [hconflict] at hsplit huniform hunreadable
  cases hof : GroupDecision.of gap' rows with
  | uniform => exact nomatch huniform.2 hof
  | split => exact nomatch hsplit hof
  | conflict => rfl
  | unreadable => exact nomatch hunreadable.2 hof

/-- On the last days of the calendar, and for two periods of one instructor, twelve days apart. -/
theorem threshold_decides_periods :
    let eve : Date := ⟨262142, 12, 30, by decide, by decide⟩
    let a : Window := ⟨eve, eve⟩
    let b : Window := ⟨eve.next, eve.next⟩
    let row (first last : String) : Row .sisImport :=
      .ofPairs _ [(.ldapUid, "100"), (.startDate, first), (.endDate, last)]
    let rows := [row "01-20-2015" "03-08-2015", row "03-20-2015" "05-08-2015"]
    a.InCalendar ∧ b.InCalendar ∧ (0 : Int) ≤ 5 ∧ a.daysUntil b = 1 ∧
      (a.isSeparateFrom 5 b = true ↔ 5 < a.daysUntil b ∨ 5 < b.daysUntil a) ∧
      (0 : Int) ≤ 3 ∧ (3 : Int) ≤ 11 ∧ GroupDecision.of 11 rows = .split ∧ GroupDecision.of 3 rows = .split ∧
      (0 : Int) ≤ 12 ∧ (12 : Int) ≤ 40 ∧ GroupDecision.of 12 rows = .conflict ∧
      GroupDecision.of 40 rows = .conflict := by
  intro eve a b row rows
  have ha : a.InCalendar := by decide
  have hb : b.InCalendar := by decide
  have hsplit : GroupDecision.of 11 rows = .split := by decide +kernel
  have hconflict : GroupDecision.of 12 rows = .conflict := by decide +kernel
  obtain ⟨hseparate, hdecision⟩ := threshold_decides
  exact ⟨ha, hb, by decide, by decide, hseparate a b ha hb 5 (by decide), by decide, by decide, hsplit,
    (hdecision rows 3 11 (by decide) (by decide)).1 hsplit, by decide, by decide, hconflict,
    (hdecision rows 12 40 (by decide) (by decide)).2.1 hconflict⟩

end GroupDecision

end Registrar

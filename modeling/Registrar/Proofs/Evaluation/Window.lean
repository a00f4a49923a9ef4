import Mathlib.Data.List.Pairwise
import Registrar.Evaluation.Window

/-!
# Separate windows

Whether windows are separate does not depend on their order (`isSeparateFrom_comm`). Across a gap that is not negative,
separate windows whose days are in order end on different days (`last_ne_of_isSeparateFrom`).

What is decided about rows hangs on their windows in four ways (`of_cases`). Rows are split exactly where each has a
window, some windows differ, and different windows of one instructor are separate (`of_eq_split_iff`). So only which
rows there are matters, not their order (`Splits.congr`).
-/

namespace Registrar

namespace Window

variable {gap : Int} {a b w : Window} {r r' : Row .sisImport}

theorem of?_eq_some_iff :
    of? r = some w ↔ Date.parse? (r.get .startDate) = some w.first ∧ Date.parse? (r.get .endDate) = some w.last := by
  unfold of?
  cases Date.parse? (r.get .startDate) with
  | none => exact iff_of_false (fun h => nomatch h) fun h => nomatch h.1
  | some first =>
    cases Date.parse? (r.get .endDate) with
    | none => exact iff_of_false (fun h => nomatch h) fun h => nomatch h.2
    | some last =>
      constructor
      · intro h
        cases h
        exact ⟨rfl, rfl⟩
      · rintro ⟨hfirst, hlast⟩
        cases hfirst
        cases hlast
        rfl

theorem of?_congr (hstart : r.get .startDate = r'.get .startDate) (hend : r.get .endDate = r'.get .endDate) :
    of? r = of? r' := by
  rw [of?, of?, hstart, hend]

theorem isSeparateFrom_comm (gap : Int) (a b : Window) : a.isSeparateFrom gap b = b.isSeparateFrom gap a :=
  Bool.or_comm _ _

theorem lt_of_isBefore (h : isBefore gap a b = true) : a.last.number + gap < b.first.number := by
  unfold isBefore Date.numberAfter? at h
  dsimp only at h
  split at h
  · exact of_decide_eq_true h
  · cases h

/-- Separate windows whose days are in order end on different days. -/
theorem last_ne_of_isSeparateFrom (hgap : 0 ≤ gap) (ha : a.first.number ≤ a.last.number)
    (hb : b.first.number ≤ b.last.number) (h : a.isSeparateFrom gap b = true) : a.last ≠ b.last := by
  intro hlast
  have hnumber := congrArg Date.number hlast
  rcases Bool.or_eq_true_iff.1 h with hbefore | hafter
  · have := lt_of_isBefore hbefore
    omega
  · have := lt_of_isBefore hafter
    omega

end Window

namespace GroupDecision

variable {gap : Int} {rows : List (Row .sisImport)} {windows : List Window}

/-- Each row has a window, some windows differ, and different windows of one instructor are separate. -/
structure Splits (gap : Int) (rows : List (Row .sisImport)) : Prop where
  readable : ∀ r ∈ rows, (Window.of? r).isSome = true
  differing : ∃ r ∈ rows, ∃ r' ∈ rows, Window.of? r ≠ Window.of? r'
  separate : ∀ r ∈ rows, ∀ r' ∈ rows, ∀ w w', Window.of? r = some w → Window.of? r' = some w' → w ≠ w' →
    r.get .ldapUid = r'.get .ldapUid → w.isSeparateFrom gap w' = true

theorem Splits.congr {rows' : List (Row .sisImport)} (h : Splits gap rows) (hmem : ∀ r, r ∈ rows ↔ r ∈ rows') :
    Splits gap rows' := by
  obtain ⟨r, hr, r', hr', hne⟩ := h.differing
  exact ⟨fun r hr => h.readable r ((hmem r).2 hr), ⟨r, (hmem r).1 hr, r', (hmem r').1 hr', hne⟩,
    fun r hr r' hr' => h.separate r ((hmem r).2 hr) r' ((hmem r').2 hr')⟩

/-! ## Windows of rows -/

theorem windows?_cons (r : Row .sisImport) (rest : List (Row .sisImport)) :
    windows? (r :: rest) = (Window.of? r).bind fun w => (windows? rest).map (w :: ·) := by
  rw [windows?]
  cases Window.of? r with
  | none => rfl
  | some w => cases windows? rest <;> rfl

theorem windows?_eq_none_iff : windows? rows = none ↔ ∃ r ∈ rows, Window.of? r = none := by
  induction rows with
  | nil => simp [windows?]
  | cons r rest ih =>
    rw [windows?_cons]
    cases hr : Window.of? r with
    | none => simp [hr]
    | some w => simp [hr, ih]

theorem exists_window (h : windows? rows = some windows) {r : Row .sisImport} (hr : r ∈ rows) :
    ∃ w, Window.of? r = some w := by
  rw [← Option.ne_none_iff_exists']
  intro hnone
  rw [windows?_eq_none_iff.2 ⟨r, hr, hnone⟩] at h
  cases h

theorem map_some_of_windows? (h : windows? rows = some windows) : windows.map some = rows.map Window.of? := by
  induction rows generalizing windows with
  | nil =>
    cases h
    rfl
  | cons r rest ih =>
    rw [windows?_cons] at h
    obtain ⟨w, hw, hrest⟩ := Option.bind_eq_some_iff.1 h
    obtain ⟨ws, hws, rfl⟩ := Option.map_eq_some_iff.1 hrest
    rw [List.map_cons, List.map_cons, hw, ih hws]

/-- The rows stand beside their windows. -/
theorem mem_zip_iff (h : windows? rows = some windows) {r : Row .sisImport} {w : Window} :
    (r, w) ∈ rows.zip windows ↔ r ∈ rows ∧ Window.of? r = some w := by
  induction rows generalizing windows with
  | nil => simp
  | cons r' rest ih =>
    rw [windows?_cons] at h
    obtain ⟨w', hw', hrest⟩ := Option.bind_eq_some_iff.1 h
    obtain ⟨ws, hws, rfl⟩ := Option.map_eq_some_iff.1 hrest
    rw [List.zip_cons_cons, List.mem_cons, List.mem_cons, ih hws]
    constructor
    · rintro (heq | ⟨hr, hw⟩)
      · cases heq
        exact ⟨.inl rfl, hw'⟩
      · exact ⟨.inr hr, hw⟩
    · rintro ⟨rfl | hr, hw⟩
      · rw [Option.some.inj (hw'.symm.trans hw)]
        exact .inl rfl
      · exact .inr ⟨hr, hw⟩

theorem mem_windows_iff (h : windows? rows = some windows) {w : Window} :
    w ∈ windows ↔ ∃ r ∈ rows, Window.of? r = some w := by
  have hmem : some w ∈ windows.map some ↔ w ∈ windows := by simp
  rw [← hmem, map_some_of_windows? h, List.mem_map]

theorem isUniform_iff : isUniform windows = true ↔ ∀ w ∈ windows, ∀ w' ∈ windows, w = w' := by
  cases windows with
  | nil => simp [isUniform]
  | cons w rest =>
    simp only [isUniform, List.all_eq_true, decide_eq_true_eq]
    constructor
    · intro h
      have hall : ∀ v ∈ w :: rest, v = w := fun v hv => (List.mem_cons.1 hv).elim id (h v)
      exact fun v hv v' hv' => (hall v hv).trans (hall v' hv').symm
    · exact fun h v hv => h v (List.mem_cons_of_mem _ hv) w List.mem_cons_self

theorem isUniform_windows_iff (h : windows? rows = some windows) :
    isUniform windows = true ↔ ∀ r ∈ rows, ∀ r' ∈ rows, Window.of? r = Window.of? r' := by
  rw [isUniform_iff]
  constructor
  · intro hall r hr r' hr'
    obtain ⟨w, hw⟩ := exists_window h hr
    obtain ⟨w', hw'⟩ := exists_window h hr'
    rw [hw, hw', hall w ((mem_windows_iff h).2 ⟨r, hr, hw⟩) w' ((mem_windows_iff h).2 ⟨r', hr', hw'⟩)]
  · intro hall w hmem w' hmem'
    obtain ⟨r, hr, hw⟩ := (mem_windows_iff h).1 hmem
    obtain ⟨r', hr', hw'⟩ := (mem_windows_iff h).1 hmem'
    exact Option.some.inj (hw.symm.trans ((hall r hr r' hr').trans hw'))

/-! ## Clashes -/

theorem clash_eq_false_iff {a b : Row .sisImport × Window} :
    clash gap a b = false ↔ (a.2 ≠ b.2 → a.1.get .ldapUid = b.1.get .ldapUid → a.2.isSeparateFrom gap b.2 = true) := by
  unfold clash
  by_cases hwindow : a.2 = b.2
  · simp [hwindow]
  · by_cases huid : a.1.get .ldapUid = b.1.get .ldapUid <;> simp [hwindow, huid]

/-- No two rows clash: it does not matter which comes first, and no row clashes with itself. -/
theorem hasClash_eq_false_iff {l : List (Row .sisImport × Window)} :
    hasClash gap l = false ↔ ∀ a ∈ l, ∀ b ∈ l, clash gap a b = false := by
  have hpairwise : hasClash gap l = false ↔ l.Pairwise fun a b => clash gap a b = false := by
    induction l with
    | nil => simp [hasClash]
    | cons a rest ih => simp [hasClash, ih, List.pairwise_cons]
  have hsymm : Std.Symm fun a b : Row .sisImport × Window => clash gap a b = false := ⟨fun a b hab => by
    rw [clash_eq_false_iff] at hab ⊢
    intro hne huid
    rw [Window.isSeparateFrom_comm]
    exact hab hne.symm huid.symm⟩
  rw [hpairwise]
  constructor
  · intro h a ha b hb
    exact h.forall_of_forall (fun x _ => clash_eq_false_iff.2 fun hne => absurd rfl hne) ha hb
  · exact List.pairwise_of_forall_mem_list

theorem hasClash_zip_eq_false_iff (h : windows? rows = some windows) :
    hasClash gap (rows.zip windows) = false ↔
      ∀ r ∈ rows, ∀ r' ∈ rows, ∀ w w', Window.of? r = some w → Window.of? r' = some w' → w ≠ w' →
        r.get .ldapUid = r'.get .ldapUid → w.isSeparateFrom gap w' = true := by
  rw [hasClash_eq_false_iff]
  constructor
  · intro hnone r hr r' hr' w w' hw hw'
    exact clash_eq_false_iff.1 (hnone (r, w) ((mem_zip_iff h).2 ⟨hr, hw⟩) (r', w') ((mem_zip_iff h).2 ⟨hr', hw'⟩))
  · intro hall a ha b hb
    obtain ⟨har, haw⟩ := (mem_zip_iff h).1 ha
    obtain ⟨hbr, hbw⟩ := (mem_zip_iff h).1 hb
    exact clash_eq_false_iff.2 (hall _ har _ hbr _ _ haw hbw)

/-- The decision and what it is made from. -/
theorem of_cases (gap : Int) (rows : List (Row .sisImport)) :
    (windows? rows = none ∧ GroupDecision.of gap rows = .unreadable) ∨
      ∃ windows, windows? rows = some windows ∧
        (isUniform windows = true ∧ GroupDecision.of gap rows = .uniform ∨
          isUniform windows = false ∧ hasClash gap (rows.zip windows) = true ∧ GroupDecision.of gap rows = .conflict ∨
          isUniform windows = false ∧ hasClash gap (rows.zip windows) = false ∧
            GroupDecision.of gap rows = .split) := by
  cases hw : windows? rows with
  | none => exact .inl ⟨rfl, by rw [GroupDecision.of, hw]⟩
  | some windows =>
    refine .inr ⟨windows, rfl, ?_⟩
    cases hu : isUniform windows with
    | true => exact .inl ⟨rfl, by simp only [GroupDecision.of, hw, hu, if_true]⟩
    | false =>
      have hof : GroupDecision.of gap rows = if hasClash gap (rows.zip windows) then .conflict else .split := by
        simp only [GroupDecision.of, hw, hu, Bool.false_eq_true, if_false]
      cases hc : hasClash gap (rows.zip windows) with
      | true => exact .inr (.inl ⟨rfl, rfl, by rw [hof, if_pos hc]⟩)
      | false => exact .inr (.inr ⟨rfl, rfl, by rw [hof, if_neg (ne_true_of_eq_false hc)]⟩)

/-- Rows are split exactly where each has a window, some windows differ, and different windows of one instructor are
separate. -/
theorem of_eq_split_iff : GroupDecision.of gap rows = .split ↔ Splits gap rows := by
  rcases of_cases gap rows with ⟨hw, hof⟩ | ⟨windows, hw, ⟨hu, hof⟩ | ⟨hu, hc, hof⟩ | ⟨hu, hc, hof⟩⟩
  · obtain ⟨r, hr, hnone⟩ := windows?_eq_none_iff.1 hw
    refine iff_of_false (hof ▸ nofun) fun h => ?_
    have := h.readable r hr
    rw [hnone] at this
    cases this
  · refine iff_of_false (hof ▸ nofun) fun h => ?_
    obtain ⟨r, hr, r', hr', hne⟩ := h.differing
    exact hne ((isUniform_windows_iff hw).1 hu r hr r' hr')
  · refine iff_of_false (hof ▸ nofun) fun h => ?_
    rw [(hasClash_zip_eq_false_iff hw).2 h.separate] at hc
    cases hc
  · refine iff_of_true hof ⟨fun r hr => ?_, ?_, (hasClash_zip_eq_false_iff hw).1 hc⟩
    · exact Option.isSome_iff_exists.2 (exists_window hw hr)
    · rw [← Bool.not_eq_true, isUniform_windows_iff hw] at hu
      simpa using hu

theorem of_eq_unreadable_iff : GroupDecision.of gap rows = .unreadable ↔ ∃ r ∈ rows, Window.of? r = none := by
  rw [← windows?_eq_none_iff]
  rcases of_cases gap rows with ⟨hw, hof⟩ | ⟨windows, hw, ⟨-, hof⟩ | ⟨-, -, hof⟩ | ⟨-, -, hof⟩⟩
  · exact iff_of_true hof hw
  all_goals exact iff_of_false (hof ▸ nofun) (hw ▸ nofun)

/-- Rows are uniform exactly where each has a window, and all have the same. -/
theorem of_eq_uniform_iff :
    GroupDecision.of gap rows = .uniform ↔
      (∀ r ∈ rows, (Window.of? r).isSome = true) ∧ ∀ r ∈ rows, ∀ r' ∈ rows, Window.of? r = Window.of? r' := by
  rcases of_cases gap rows with ⟨hw, hof⟩ | ⟨windows, hw, ⟨hu, hof⟩ | ⟨hu, -, hof⟩ | ⟨hu, -, hof⟩⟩
  · obtain ⟨r, hr, hnone⟩ := windows?_eq_none_iff.1 hw
    refine iff_of_false (hof ▸ nofun) fun h => ?_
    have := h.1 r hr
    rw [hnone] at this
    cases this
  · refine iff_of_true hof ⟨fun r hr => ?_, (isUniform_windows_iff hw).1 hu⟩
    exact Option.isSome_iff_exists.2 (exists_window hw hr)
  all_goals
    refine iff_of_false (hof ▸ nofun) fun h => ?_
    rw [(isUniform_windows_iff hw).2 h.2] at hu
    cases hu

end GroupDecision

end Registrar

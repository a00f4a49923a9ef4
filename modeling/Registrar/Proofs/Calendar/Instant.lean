import Registrar.Calendar.Instant
import Registrar.Proofs.Calendar.Date

/-!
# Instants as texts

The short text of an instant reads back as the instant (`parse?_shortText`) where its year has four digits and its
second is one of a minute, a leap second only behind second 59 (`Instant.IsPlain`). Each reader takes what was written
for it off the front and leaves the rest (`takeNumber?_padded`, `takeYear?_padded`, `takeFraction?_fractionText`).
-/

namespace Registrar

namespace Instant

open Text

variable {t : Instant}

/-- An instant as a clock shows it: a year of four digits, and a leap second only at the end of a minute. -/
structure IsPlain (t : Instant) : Prop where
  year : 0 ≤ t.date.year ∧ t.date.year ≤ 9999
  nano : t.nano < 1000000000 ∨ (t.second % 60 = 59 ∧ t.nano < 2000000000)

/-! ## Digits in front -/

/-- The digits in front are those of the number when no digit follows. -/
theorem takeWhile_padded (width n : Nat) {rest : List Char} (hrest : ∀ c ∈ rest.head?, isAsciiDigit c = false) :
    ((padded width n).toList ++ rest).takeWhile isAsciiDigit = (padded width n).toList := by
  rw [List.takeWhile_append_of_pos fun c hc => isAsciiDigit_of_mem_padded hc]
  cases rest with
  | nil => simp
  | cons c rest => rw [List.takeWhile_cons_of_neg (by simp [hrest c rfl]), List.append_nil]

theorem isEmpty_padded {width : Nat} (hwidth : 0 < width) (n : Nat) : (padded width n).toList.isEmpty = false := by
  rw [Bool.eq_false_iff]
  intro hempty
  have := length_padded width n
  rw [List.isEmpty_iff.1 hempty] at this
  simp only [List.length_nil] at this
  omega

/-- No blank stands in front of a number. -/
theorem dropWhile_padded {width : Nat} (hwidth : 0 < width) (n : Nat) (rest : List Char) :
    ((padded width n).toList ++ rest).dropWhile isBlank = (padded width n).toList ++ rest := by
  have hlength := length_padded width n
  cases hcs : (padded width n).toList with
  | nil =>
    rw [hcs] at hlength
    simp only [List.length_nil] at hlength
    omega
  | cons c cs =>
    have hc := isBlank_of_isAsciiDigit (isAsciiDigit_of_mem_padded (hcs ▸ List.mem_cons_self : c ∈ _))
    rw [List.cons_append, List.dropWhile_cons_of_neg (by simp [hc])]

theorem takeNumber?_padded {width n : Nat} (hwidth : 0 < width) (hn : n < 10 ^ width) (rest : List Char) :
    takeNumber? width ((padded width n).toList ++ rest) = some (n, rest) := by
  have hdigits : (((padded width n).toList ++ rest).take width).takeWhile isAsciiDigit = (padded width n).toList := by
    rw [List.take_left' (length_padded width n),
      List.takeWhile_eq_self_iff.2 fun c hc => isAsciiDigit_of_mem_padded hc]
  rw [takeNumber?, hdigits, isEmpty_padded hwidth, if_neg (by decide), readNat_padded hn, List.drop_left]

theorem takePart?_padded {width n : Nat} (hwidth : 0 < width) (hn : n < 10 ^ width) (rest : List Char) :
    takePart? width ((padded width n).toList ++ rest) = some (n, rest) := by
  rw [takePart?, dropWhile_padded hwidth, takeNumber?_padded hwidth hn]

theorem skipMark?_cons {mark : Char} (hmark : isBlank mark = false) (rest : List Char) :
    skipMark? mark (mark :: rest) = some rest := by
  rw [skipMark?, List.dropWhile_cons_of_neg (by simp [hmark])]
  exact if_pos rfl

/-- A year of four digits has no sign. -/
theorem takeYear?_padded {n : Nat} (hn : n < 10 ^ 4) (rest : List Char) :
    takeYear? ((padded 4 n).toList ++ rest) = some ((n : Int), rest) := by
  have hread := takeNumber?_padded (by decide : 0 < 4) hn rest
  rw [takeYear?, dropWhile_padded (by decide)]
  have hsign : ∀ sign ∈ ((padded 4 n).toList ++ rest).head?, isAsciiDigit sign = true := by
    intro sign hsign
    have hne : (padded 4 n).toList ≠ [] := List.isEmpty_eq_false_iff.1 (isEmpty_padded (by decide) n)
    rw [List.head?_append, List.head?_eq_some_head hne] at hsign
    exact isAsciiDigit_of_mem_padded (Option.some.inj hsign ▸ List.head_mem _)
  split
  · rename_i rest' hcs
    have := hsign '-' (by rw [hcs]; rfl)
    cases this
  · rename_i rest' hcs
    have := hsign '+' (by rw [hcs]; rfl)
    cases this
  · rw [hread, Option.map_some]

/-! ## Fractions -/

/-- A fraction in at most nine digits counts as if zeros followed. -/
theorem takeFraction?_padded {width n : Nat} (hwidth : 0 < width) (hle : width ≤ 9) (hn : n < 10 ^ width)
    {rest : List Char} (hrest : ∀ c ∈ rest.head?, isAsciiDigit c = false) :
    takeFraction? ('.' :: ((padded width n).toList ++ rest)) = some (n * 10 ^ (9 - width), rest) := by
  have hlength := length_padded width n
  have hshort : ∀ c ∈ (rest.take (9 - width)).head?, isAsciiDigit c = false := by
    intro c hc
    cases rest with
    | nil => simp at hc
    | cons d rest =>
      cases hk : 9 - width with
      | zero =>
        rw [hk] at hc
        simp at hc
      | succ k =>
        rw [hk] at hc
        exact hrest c hc
  have hdigits : (((padded width n).toList ++ rest).take 9).takeWhile isAsciiDigit = (padded width n).toList := by
    rw [List.take_append, hlength, List.take_of_length_le (by omega), takeWhile_padded width n hshort]
  have hbehind : rest.dropWhile isAsciiDigit = rest := by
    cases rest with
    | nil => rfl
    | cons c rest => exact List.dropWhile_cons_of_neg (by simp [hrest c rfl])
  rw [takeFraction?, hdigits, isEmpty_padded hwidth, if_neg (by decide), readNat_padded hn, hlength,
    List.drop_left' hlength, hbehind]
  rfl

/-- The fraction of an instant is read as its billionths, up to a leap second. -/
theorem takeFraction?_fractionText (t : Instant) :
    takeFraction? (t.fractionText.toList ++ ['Z']) = some (t.nano % 1000000000, ['Z']) := by
  have hz : ∀ c ∈ ['Z'].head?, isAsciiDigit c = false := by
    intro c hc
    cases hc
    decide
  have hlt : t.nano % 1000000000 < 1000000000 := Nat.mod_lt _ (by decide)
  have hdot : ∀ width n : Nat, ("." ++ padded width n).toList = '.' :: (padded width n).toList := fun width n => by
    rw [String.toList_append]
    rfl
  unfold fractionText
  dsimp only
  generalize hm : t.nano % 1000000000 = m at hlt ⊢
  split
  · rename_i hzero
    rw [hzero]
    rfl
  split
  · rename_i hthree
    rw [hdot, List.cons_append, takeFraction?_padded (by decide) (by decide) (by omega) hz]
    exact congrArg (fun n => some (n, ['Z'])) (by omega)
  split
  · rename_i hsix
    rw [hdot, List.cons_append, takeFraction?_padded (by decide) (by decide) (by omega) hz]
    exact congrArg (fun n => some (n, ['Z'])) (by omega)
  · rw [hdot, List.cons_append, takeFraction?_padded (by decide) (by decide) (by omega) hz]
    exact congrArg (fun n => some (n, ['Z'])) (by omega)

/-! ## Whole instants -/

theorem toList_shortText (hyear : 0 ≤ t.date.year ∧ t.date.year ≤ 9999) :
    t.shortText.toList = (padded 4 t.date.year.toNat).toList ++ '-' :: ((padded 2 t.date.month).toList ++ '-' ::
      ((padded 2 t.date.day).toList ++ 'T' :: ((padded 2 t.hour).toList ++ ':' :: ((padded 2 t.minute).toList ++ ':' ::
        ((padded 2 t.secondOfMinute).toList ++ (t.fractionText.toList ++ ['Z'])))))) := by
  simp [shortText, localText, Date.isoText, Date.yearText, hyear, String.toList_append]

/-- At offset zero local time is universal time. -/
theorem ofLocal_zero (t : Instant) : ofLocal t.date t.second t.nano 0 = t := by
  obtain ⟨date, second, nano, second_lt⟩ := t
  simp only [ofLocal, mk.injEq, and_true]
  refine ⟨?_, by omega⟩
  rw [if_neg (by omega), if_neg (by omega)]

/-- The short text of a plain instant reads back as the instant. -/
theorem parse?_shortText (ht : t.IsPlain) : parse? t.shortText = some t := by
  obtain ⟨hmonth, hday⟩ := t.date.month_day_lt
  have hyear := ht.year
  have hsecond := t.second_lt
  have hhour : t.hour < 24 := by unfold hour; omega
  have hminute : t.minute < 60 := by unfold minute; omega
  have hleap : t.secondOfMinute ≤ 60 := by
    have := ht.nano
    unfold secondOfMinute
    omega
  have hdate : Date.of? (t.date.year.toNat : Int) t.date.month t.date.day = some t.date :=
    Date.of?_eq_some_iff.2 ⟨(Int.toNat_of_nonneg hyear.1).symm, rfl, rfl⟩
  -- the seconds and billionths that are read make up those of the instant, in a leap second too
  have hseconds : t.hour * 3600 + t.minute * 60 + min t.secondOfMinute 59 = t.second := by
    have := ht.nano
    unfold hour minute secondOfMinute
    omega
  have hnano : (t.nano % 1000000000 + if t.secondOfMinute = 60 then 1000000000 else 0) = t.nano := by
    have := ht.nano
    unfold secondOfMinute
    split <;> omega
  have hz : takeOffset? (['Z'].dropWhile isBlank) = some (0, []) := by decide
  rw [parse?, toList_shortText hyear]
  -- each reader takes off what was written for it, up to the date that is checked last
  refine Option.bind_eq_some_iff.2 ⟨_, takeYear?_padded (by omega) _, ?_⟩
  refine Option.bind_eq_some_iff.2 ⟨_, skipMark?_cons (by decide) _, ?_⟩
  refine Option.bind_eq_some_iff.2 ⟨_, takePart?_padded (by decide) hmonth _, ?_⟩
  refine Option.bind_eq_some_iff.2 ⟨_, skipMark?_cons (by decide) _, ?_⟩
  refine Option.bind_eq_some_iff.2 ⟨_, takePart?_padded (by decide) hday _, ?_⟩
  refine Option.bind_eq_some_iff.2 ⟨_, rfl, ?_⟩
  refine Option.bind_eq_some_iff.2 ⟨_, takePart?_padded (by decide) (by omega) _, ?_⟩
  refine Option.bind_eq_some_iff.2 ⟨_, skipMark?_cons (by decide) _, ?_⟩
  refine Option.bind_eq_some_iff.2 ⟨_, takePart?_padded (by decide) (by omega) _, ?_⟩
  refine Option.bind_eq_some_iff.2 ⟨_, skipMark?_cons (by decide) _, ?_⟩
  refine Option.bind_eq_some_iff.2 ⟨_, takePart?_padded (by decide) (by omega) _, ?_⟩
  refine Option.bind_eq_some_iff.2 ⟨_, takeFraction?_fractionText t, ?_⟩
  refine Option.bind_eq_some_iff.2 ⟨_, hz, ?_⟩
  refine Option.bind_eq_some_iff.2 ⟨_, hdate, ?_⟩
  rw [if_pos ⟨hhour, hminute, hleap, rfl, by omega, by omega⟩, hseconds, hnano, ofLocal_zero]

end Instant

end Registrar

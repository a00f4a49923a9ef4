import Registrar.Calendar.Instant
import Registrar.Proofs.Calendar.Date

/-!
# Stamps

A `Stamp` is a minute in a year of four digits. Stamps are ordered by year, month, day, hour and minute, as the numbers
that their digits form, and so are their texts, since every part has its own width (`Stamp.text_lt_text_iff`). The stamp
of a run is the text of one (`Stamp.exists_text_eq`).
-/

namespace Registrar

namespace Stash

/-! ## Stamps -/

/-- A minute, by the digits that file names give it. -/
structure Stamp where
  year : Fin 10000
  month : Fin 100
  day : Fin 100
  hour : Fin 100
  minute : Fin 100
  deriving DecidableEq

namespace Stamp

variable {s t : Stamp}

/-- The number that the digits form. -/
def number (s : Stamp) : Nat := (((s.year.val * 100 + s.month) * 100 + s.day) * 100 + s.hour) * 100 + s.minute

theorem number_injective : Function.Injective number := by
  intro s t h
  obtain ⟨year, month, day, hour, minute⟩ := s
  obtain ⟨year', month', day', hour', minute'⟩ := t
  simp only [number] at h
  simp only [mk.injEq, Fin.ext_iff]
  omega

instance : LT Stamp := ⟨fun s t => s.number < t.number⟩

instance : LE Stamp := ⟨fun s t => s.number ≤ t.number⟩

instance (s t : Stamp) : Decidable (s < t) := inferInstanceAs (Decidable (s.number < t.number))

theorem lt_trans {u : Stamp} (hst : s < t) (htu : t < u) : s < u := Nat.lt_trans hst htu

theorem not_lt : ¬ s < t ↔ t ≤ s := Nat.not_lt

theorem lt_trichotomy (s t : Stamp) : s < t ∨ s = t ∨ t < s :=
  (Nat.lt_trichotomy s.number t.number).imp_right fun h => h.imp_left fun heq => number_injective heq

/-- The stamp in file names, `YYYY-MM-DD-hh-mm`. -/
def text (s : Stamp) : String :=
  Text.padded 4 s.year ++ "-" ++ Text.padded 2 s.month ++ "-" ++ Text.padded 2 s.day ++ "-" ++ Text.padded 2 s.hour ++
    "-" ++ Text.padded 2 s.minute

theorem length_text (s : Stamp) : s.text.toList.length = 16 := by
  simp only [text, String.toList_append, List.length_append, Text.length_padded]
  rfl

/-- Texts are in the order of time. -/
theorem text_lt_text_iff : s.text < t.text ↔ s < t := by
  have hdash : ∀ {cs ds : List Char}, "-".toList ++ cs < "-".toList ++ ds ↔ cs < ds := fun {cs ds} => by
    rw [Text.append_lt_append_iff rfl]
    simp
  show s.text.toList < t.text.toList ↔ s.number < t.number
  simp only [text, String.toList_append, List.append_assoc]
  rw [Text.padded_append_lt_iff s.year.2 t.year.2, hdash, Text.padded_append_lt_iff s.month.2 t.month.2, hdash,
    Text.padded_append_lt_iff s.day.2 t.day.2, hdash, Text.padded_append_lt_iff s.hour.2 t.hour.2, hdash,
    Text.padded_lt_padded_iff s.minute.2 t.minute.2]
  -- the larger unit decides, in the text as in the number
  unfold number
  omega

/-- The stamp of a run in a year of four digits. -/
theorem exists_text_eq {t : Instant} (hyear : 0 ≤ t.date.year ∧ t.date.year ≤ 9999) :
    ∃ s : Stamp, s.text = t.minuteStamp := by
  obtain ⟨hmonth, hday⟩ := t.date.month_day_lt
  have hsecond := t.second_lt
  have hhour : t.hour < 100 := by
    rw [Instant.hour]
    omega
  have hminute : t.minute < 100 := by
    rw [Instant.minute]
    omega
  refine ⟨⟨⟨t.date.year.toNat, by omega⟩, ⟨t.date.month, hmonth⟩, ⟨t.date.day, hday⟩, ⟨t.hour, hhour⟩,
    ⟨t.minute, hminute⟩⟩, ?_⟩
  rw [Instant.minuteStamp, Date.isoText, Date.yearText, if_pos hyear]
  rfl

end Stamp

end Stash

end Registrar

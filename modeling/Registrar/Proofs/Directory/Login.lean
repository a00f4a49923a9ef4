import Registrar.Directory.Account
import Registrar.Proofs.Text.Lead

/-!
# Campus logins

A login is read as a campus ID exactly when it is a numeral, with or without the mark of inactivation
(`parse?_eq_some_iff`). What is looked up for a login, `bare`, is the campus ID that the login is read as
(`bare_of_parse?`).
-/

namespace Registrar.CampusLogin

/-- The text of a login. -/
def text (l : CampusLogin) : String := if l.inactive then inactiveMark ++ l.uid else l.uid

theorem stripLead?_inactiveMark {uid : String} (h : Text.isNumeral uid = true) :
    Text.stripLead? inactiveMark uid = none := Text.stripLead?_of_isNumeral (by decide) h

theorem parse?_eq_some_iff {login : String} {l : CampusLogin} :
    parse? login = some l ↔ Text.isNumeral l.uid = true ∧ login = l.text := by
  obtain ⟨uid, inactive⟩ := l
  constructor
  · intro h
    unfold parse? at h
    split at h
    · rename_i rest hs
      split at h
      · rename_i hn
        cases h
        exact ⟨hn, Text.stripLead?_eq_some_iff.1 hs⟩
      · cases h
    · split at h
      · rename_i hn
        cases h
        exact ⟨hn, rfl⟩
      · cases h
  · rintro ⟨hn, rfl⟩
    cases inactive with
    | true => simp only [text, if_true, parse?, Text.stripLead?_append]; rw [if_pos hn]
    | false =>
      simp only [text, Bool.false_eq_true, if_false, parse?, stripLead?_inactiveMark hn]
      rw [if_pos hn]

theorem parse?_text {l : CampusLogin} (h : Text.isNumeral l.uid = true) : parse? l.text = some l :=
  parse?_eq_some_iff.2 ⟨h, rfl⟩

/-- The campus ID asked for is the campus ID that is judged. -/
theorem bare_of_parse? {login : String} {l : CampusLogin} (h : parse? login = some l) : bare login = l.uid := by
  obtain ⟨hn, rfl⟩ := parse?_eq_some_iff.1 h
  obtain ⟨uid, inactive⟩ := l
  cases inactive with
  | true => simp [bare, text, Text.stripLead?_append]
  | false => simp [bare, text, stripLead?_inactiveMark hn]

end Registrar.CampusLogin

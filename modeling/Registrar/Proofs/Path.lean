import Registrar.Path
import Registrar.Proofs.Calendar.Date

/-!
# Components of paths

A name in a folder is a piece of a path that counts (`IsName`). Joining a folder with a name puts the name behind the
components of the folder (`components_join`), so the names that a folder joins with are told apart by their paths.
-/

namespace Registrar

namespace Text

variable {sep : Char}

theorem splitAt_append_sep (as bs : List Char) : splitAt sep (as ++ sep :: bs) = splitAt sep as ++ splitAt sep bs := by
  induction as with
  | nil => simp [splitAt]
  | cons a as ih =>
    rw [List.cons_append, splitAt, splitAt, ih]
    split
    · rfl
    · cases hs : splitAt sep as with
      | nil => exact absurd hs (splitAt_ne_nil sep as)
      | cons piece rest => rfl

theorem not_mem_of_mem_splitAt {cs piece : List Char} (h : piece ∈ splitAt sep cs) : sep ∉ piece := by
  induction cs generalizing piece with
  | nil => simp [List.mem_singleton.1 h]
  | cons c cs ih =>
    rw [splitAt] at h
    split at h
    · rcases List.mem_cons.1 h with rfl | h
      · simp
      · exact ih h
    · rename_i hc
      cases hs : splitAt sep cs with
      | nil => exact absurd hs (splitAt_ne_nil sep cs)
      | cons first rest =>
        rw [hs] at h ih
        rcases List.mem_cons.1 h with rfl | h
        · exact List.not_mem_cons_of_ne_of_not_mem (Ne.symm hc) (ih List.mem_cons_self)
        · exact ih (List.mem_cons_of_mem _ h)

end Text

namespace Path

/-- A name of a file in a folder. -/
def IsName (name : String) : Prop := name ≠ "" ∧ name ≠ "." ∧ '/' ∉ name.toList

instance (name : String) : Decidable (IsName name) := inferInstanceAs (Decidable (_ ∧ _ ∧ _))

theorem isName_of_mem_pieces {p : Path} {piece : String} (h : piece ∈ pieces p) : IsName piece := by
  obtain ⟨hmem, hcounts⟩ := List.mem_filter.1 h
  obtain ⟨cs, hcs, rfl⟩ := List.mem_map.1 hmem
  obtain ⟨hempty, hdot⟩ := of_decide_eq_true hcounts
  refine ⟨hempty, hdot, ?_⟩
  rw [String.toList_ofList]
  exact Text.not_mem_of_mem_splitAt hcs

/-- What stands before the pieces that count, as the cuts of a path at its slashes tell it. -/
def lead (cuts : List (List Char)) : List String :=
  if cuts.head? = some [] ∧ 1 < cuts.length then ["/"] else if cuts.head? = some ['.'] then ["."] else []

theorem components_eq (p : Path) : components p = lead (Text.splitAt '/' p.toList) ++ pieces p := by
  unfold components isAbsolute
  cases hcs : p.toList with
  | nil => rfl
  | cons c cs =>
    by_cases hc : c = '/'
    · subst hc
      have hlength := List.length_pos_iff.2 (Text.splitAt_ne_nil '/' cs)
      simp [Text.splitAt, lead, hlength]
    · simp only [List.head?_cons, Option.some.injEq, hc, decide_false, Bool.false_eq_true, if_false, Text.splitAt]
      cases Text.splitAt '/' cs with
      | nil => by_cases hdot : c = '.' <;> simp [lead, hdot]
      | cons piece rest =>
        by_cases hdot : c = '.' ∧ piece = []
        · simp [lead, hdot.1, hdot.2]
        · simp only [lead, List.head?_cons, Option.some.injEq, List.cons.injEq, hdot]
          split
          · simp_all
          · simp

theorem length_lead_le (cuts : List (List Char)) : (lead cuts).length ≤ 1 := by
  unfold lead
  split
  · simp
  · split <;> simp

/-- What stands behind other components is a name. -/
theorem isName_of_components {p : Path} {cs : List String} {last : String} (h : components p = cs ++ [last])
    (hcs : cs ≠ []) : IsName last := by
  rw [components_eq] at h
  have hlead := length_lead_le (Text.splitAt '/' p.toList)
  have hlength := List.length_pos_iff.2 hcs
  obtain ⟨mid, hmid⟩ : ∃ mid, pieces p = mid ++ [last] := by
    rcases List.append_eq_append_iff.1 h with ⟨mid, -, hmid⟩ | ⟨mid, hmid, hlast⟩
    · exact ⟨mid, hmid⟩
    · -- the lead has one component at most, so nothing is left for it of the last one
      have hnil : mid = [] := by
        rw [hmid, List.length_append] at hlead
        exact List.length_eq_zero_iff.1 (by omega)
      exact ⟨[], by rw [hlast, hnil, List.nil_append, List.nil_append]⟩
  exact isName_of_mem_pieces (hmid ▸ List.mem_append_right mid (List.mem_singleton.2 rfl))

theorem lead_append_singleton {cuts : List (List Char)} (hne : cuts ≠ []) (a b : List Char) :
    lead (cuts ++ [a]) = lead (cuts ++ [b]) := by
  obtain ⟨first, rest, rfl⟩ := List.exists_cons_of_ne_nil hne
  simp [lead]

theorem lead_append_of_ne {cuts : List (List Char)} (hne : cuts ≠ []) (hempty : cuts ≠ [[]]) (a : List Char) :
    lead (cuts ++ [a]) = lead cuts := by
  obtain ⟨first, rest, rfl⟩ := List.exists_cons_of_ne_nil hne
  cases rest with
  | nil =>
    have hfirst : first ≠ [] := fun h => hempty (h ▸ rfl)
    simp [lead, hfirst]
  | cons second rest => simp [lead]

theorem pieces_of_splitAt {p : Path} {cut : List (List Char)} {piece : String}
    (h : Text.splitAt '/' p.toList = cut ++ [piece.toList]) :
    pieces p = ((cut.map String.ofList).filter fun c => c ≠ "" ∧ c ≠ ".") ++
      [piece].filter fun c => c ≠ "" ∧ c ≠ "." := by
  rw [pieces, h, List.map_append, List.filter_append, List.map_singleton, String.ofList_toList]

/-- Joining a folder with a name puts the name behind the components of the folder. -/
theorem components_join {name : String} (h : IsName name) (folder : Path) :
    components (join folder name) = components folder ++ [name] := by
  obtain ⟨hempty, hdot, hslash⟩ := h
  have hname : [name].filter (fun c => c ≠ "" ∧ c ≠ ".") = [name] := by simp [hempty, hdot]
  have hcut : Text.splitAt '/' name.toList = [name.toList] := Text.splitAt_of_not_mem hslash
  have hrelative : isAbsolute name = false := by
    refine decide_eq_false fun hhead => hslash ?_
    exact List.mem_of_mem_head? hhead
  rw [join, if_neg (by simp [hrelative]), components_eq folder]
  cases hlast : folder.toList.getLast? with
  | none =>
    obtain rfl : folder = "" := by simpa using hlast
    have hpieces : pieces name = [name] := by
      rw [pieces, hcut, List.map_singleton, String.ofList_toList, hname]
    rw [if_pos (by simp), components_eq, String.empty_append, hpieces, hcut]
    have hlead : lead [name.toList] = [] := by
      have hne : name.toList ≠ ['.'] := fun hn => hdot (String.toList_inj.1 hn)
      simp [lead, hne]
    rw [hlead]
    rfl
  | some last =>
    obtain ⟨front, hfront⟩ := List.getLast?_eq_some_iff.1 hlast
    by_cases hl : last = '/'
    · subst hl
      have hfolder : Text.splitAt '/' folder.toList = Text.splitAt '/' front ++ [("" : String).toList] := by
        rw [hfront, Text.splitAt_append_sep]
        rfl
      have hjoined : Text.splitAt '/' (folder ++ name).toList = Text.splitAt '/' front ++ [name.toList] := by
        rw [String.toList_append, hfront, List.append_assoc, List.singleton_append, Text.splitAt_append_sep, hcut]
      rw [if_pos (by simp), components_eq, pieces_of_splitAt hjoined, pieces_of_splitAt hfolder, hname, hfolder,
        hjoined, lead_append_singleton (Text.splitAt_ne_nil _ _) _ ("" : String).toList]
      simp
    · have hfolder : folder.toList ≠ [] := by
        rw [hfront]
        exact List.append_ne_nil_of_right_ne_nil _ (List.cons_ne_nil _ _)
      have hjoined : Text.splitAt '/' (folder ++ "/" ++ name).toList =
          Text.splitAt '/' folder.toList ++ [name.toList] := by
        rw [String.toList_append, String.toList_append, List.append_assoc]
        show Text.splitAt '/' (folder.toList ++ '/' :: name.toList) = _
        rw [Text.splitAt_append_sep, hcut]
      have hcuts : Text.splitAt '/' folder.toList ≠ [[]] := by
        intro hs
        apply hfolder
        rw [← Text.joinWith_splitAt '/' folder.toList, hs]
        rfl
      rw [if_neg (by simpa [hl] using hfolder), components_eq, pieces_of_splitAt hjoined, hname, hjoined,
        lead_append_of_ne (Text.splitAt_ne_nil _ _) hcuts, List.append_assoc]
      rfl

end Path

end Registrar

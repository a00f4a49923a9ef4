import Registrar.Directory.Stash
import Registrar.Proofs.Batches
import Registrar.Proofs.Directory.Stamp
import Registrar.Proofs.Path

/-!
# Names in the stash

The stamp of a run consists of digits and signs (`isPlain_minuteStamp`), so the names that a run gives to its files are
names in a folder and none is taken for another (`isUpdates_renamesName`, `isReport_updatesName`). Nothing around the
stamp of a name holds a digit, so the stamp found in a name is the one found in the stamp alone, the same for every file
of a run (`stampOf?_reportName`); in a year of four digits it is the stamp of the run (`stampOf?_minuteStamp`). Names of
one kind are in the order of their stamps (`framed_lt_framed_iff`).
-/

namespace Registrar

theorem Text.isDecimal_of_isAsciiDigit {c : Char} (h : isAsciiDigit c = true) : isDecimal c = true := by
  rw [isAsciiDigit_iff] at h
  simp [isDecimal, decimalRanges, Ranges.contains, h]

namespace Stash

variable {stamp : String}

/-! ## Stamps -/

/-- Digits and signs, and nothing else. -/
def IsPlain (stamp : String) : Prop := ∀ c ∈ stamp.toList, c = '-' ∨ c = '+' ∨ Text.isAsciiDigit c = true

instance (stamp : String) : Decidable (IsPlain stamp) := List.decidableBAll _ stamp.toList

theorem isPlain_append {s t : String} : IsPlain (s ++ t) ↔ IsPlain s ∧ IsPlain t := by
  simp [IsPlain, or_imp, forall_and]

theorem isPlain_padded (width n : Nat) : IsPlain (Text.padded width n) :=
  fun _ hc => .inr (.inr (Text.isAsciiDigit_of_mem_padded hc))

theorem isPlain_toString (n : Nat) : IsPlain (toString n) :=
  fun _ hc => .inr (.inr (Text.isAsciiDigit_of_mem_toString hc))

theorem isPlain_yearText (year : Int) : IsPlain (Date.yearText year) := by
  have hwide : ∀ n, IsPlain (Date.yearText.wide n) := by
    intro n
    unfold Date.yearText.wide
    split
    · exact isPlain_padded 4 n
    · exact isPlain_toString n
  unfold Date.yearText
  split
  · exact isPlain_padded 4 _
  · split
    · exact isPlain_append.2 ⟨by decide, hwide _⟩
    · exact isPlain_append.2 ⟨by decide, hwide _⟩

/-- The stamp of a run consists of digits and signs. -/
theorem isPlain_minuteStamp (t : Instant) : IsPlain t.minuteStamp := by
  have hdash : IsPlain "-" := by decide
  simp only [Instant.minuteStamp, Date.isoText, isPlain_append]
  exact ⟨⟨⟨⟨⟨⟨⟨⟨isPlain_yearText _, hdash⟩, isPlain_padded _ _⟩, hdash⟩, isPlain_padded _ _⟩, hdash⟩,
    isPlain_padded _ _⟩, hdash⟩, isPlain_padded _ _⟩

/-- So does the text of a stamp. -/
theorem Stamp.isPlain_text (s : Stamp) : IsPlain s.text := by
  have hdash : IsPlain "-" := by decide
  simp only [Stamp.text, isPlain_append]
  exact ⟨⟨⟨⟨⟨⟨⟨⟨isPlain_padded _ _, hdash⟩, isPlain_padded _ _⟩, hdash⟩, isPlain_padded _ _⟩, hdash⟩,
    isPlain_padded _ _⟩, hdash⟩, isPlain_padded _ _⟩

/-! ## Names -/

theorem reportName_eq (stamp : String) : reportName stamp = "provisioned-users-" ++ stamp ++ ".csv" := rfl

theorem updatesName_eq (stamp : String) : updatesName stamp = "canvas-" ++ stamp ++ "-users-maintain.csv" := rfl

theorem renamesName_eq (stamp : String) : renamesName stamp = "canvas-" ++ stamp ++ "-sis-ids.csv" := rfl

/-- A character of a name stands around the stamp, or is a digit or a sign. -/
theorem char_of_mem_framed (h : IsPlain stamp) {front back : String} {c : Char}
    (hc : c ∈ (front ++ stamp ++ back).toList) :
    c ∈ front.toList ++ back.toList ∨ c = '-' ∨ c = '+' ∨ Text.isAsciiDigit c = true := by
  simp only [String.toList_append, List.mem_append] at hc ⊢
  rcases hc with (hc | hc) | hc
  · exact .inl (.inl hc)
  · exact .inr (h c hc)
  · exact .inl (.inr hc)

theorem isName_framed (h : IsPlain stamp) {front back : String} (hlength : 2 ≤ front.toList.length)
    (hslash : '/' ∉ front.toList ++ back.toList) : Path.IsName (front ++ stamp ++ back) := by
  have hlong : 2 ≤ (front ++ stamp ++ back).toList.length := by
    simp only [String.toList_append, List.length_append]
    omega
  refine ⟨?_, ?_, fun hc => ?_⟩
  · intro hempty
    rw [hempty] at hlong
    exact absurd hlong (by decide)
  · intro hdot
    rw [hdot] at hlong
    exact absurd hlong (by decide)
  · rcases char_of_mem_framed h hc with hc | hc
    · exact hslash hc
    · exact absurd hc (by decide)

theorem isName_reportName (h : IsPlain stamp) : Path.IsName (reportName stamp) :=
  isName_framed h (by decide) (by decide)

theorem isName_updatesName (h : IsPlain stamp) : Path.IsName (updatesName stamp) :=
  isName_framed h (by decide) (by decide)

theorem isName_renamesName (h : IsPlain stamp) : Path.IsName (renamesName stamp) :=
  isName_framed h (by decide) (by decide)

theorem isReport_reportName (stamp : String) : isReport (reportName stamp) = true := by
  simp [isReport, reportName_eq, Text.startsWith, Text.endsWith]

theorem isReport_updatesName (stamp : String) : isReport (updatesName stamp) = false := by
  simp [isReport, updatesName_eq, Text.startsWith]

theorem isReport_renamesName (stamp : String) : isReport (renamesName stamp) = false := by
  simp [isReport, renamesName_eq, Text.startsWith]

theorem isUpdates_reportName (stamp : String) : isUpdates (reportName stamp) = false := by
  simp [isUpdates, reportName_eq, Text.startsWith]

theorem holds_append (needle as bs : List Char) : Text.holds needle (as ++ (needle ++ bs)) = true := by
  induction as with
  | nil =>
    cases hcs : needle ++ bs with
    | nil => simp [Text.holds, (List.append_eq_nil_iff.1 hcs).1]
    | cons c cs =>
      rw [List.nil_append, Text.holds, ← hcs]
      simp
  | cons a as ih => simp [Text.holds, ih]

theorem subset_of_holds {needle cs : List Char} (h : Text.holds needle cs = true) : needle ⊆ cs := by
  induction cs with
  | nil => simp [List.isEmpty_iff.1 h]
  | cons c cs ih =>
    rw [Text.holds, Bool.or_eq_true] at h
    rcases h with h | h
    · exact (List.isPrefixOf_iff_prefix.1 h).subset
    · exact List.subset_cons_of_subset c (ih h)

theorem isUpdates_updatesName (stamp : String) : isUpdates (updatesName stamp) = true := by
  have hmiddle : Text.holds "-users-".toList (updatesName stamp).toList = true := by
    have := holds_append "-users-".toList ("canvas-".toList ++ stamp.toList) "maintain.csv".toList
    simpa [updatesName_eq] using this
  rw [isUpdates, hmiddle, Bool.and_true]
  simp [updatesName_eq, Text.startsWith, Text.endsWith]

/-- A sheet of ID changes is not taken for one of account updates. -/
theorem isUpdates_renamesName (h : IsPlain stamp) : isUpdates (renamesName stamp) = false := by
  rw [Bool.eq_false_iff]
  intro hupdates
  simp only [isUpdates, Bool.and_eq_true] at hupdates
  have hu : 'u' ∈ (renamesName stamp).toList := subset_of_holds hupdates.1.2 (by decide)
  rcases char_of_mem_framed h hu with hu | hu
  · exact absurd hu (by decide)
  · exact absurd hu (by decide)

theorem isRenames_reportName (stamp : String) : isRenames (reportName stamp) = false := by
  simp [isRenames, reportName_eq, Text.startsWith]

theorem isRenames_updatesName (stamp : String) : isRenames (updatesName stamp) = false := by
  have hends : Text.endsWith "-sis-ids.csv" (updatesName stamp) = false := by
    rw [updatesName_eq, Text.endsWith, String.toList_append, List.reverse_append]
    rfl
  rw [isRenames, hends, Bool.and_false]

theorem isRenames_renamesName (stamp : String) : isRenames (renamesName stamp) = true := by
  simp [isRenames, renamesName_eq, Text.startsWith, Text.endsWith]

/-! ## Finding the stamp of a name -/

/-- Characters have the form of a stamp or of a part of one: `d` stands for a digit. -/
def Fits (cs form : List Char) : Prop :=
  cs.length = form.length ∧
    ∀ pair ∈ cs.zip form, (if pair.2 = 'd' then Text.isDecimal pair.1 else decide (pair.1 = pair.2)) = true

theorem isStamp_iff {cs : List Char} : isStamp cs = true ↔ Fits cs stampForm := by
  rw [isStamp, Bool.and_eq_true, decide_eq_true_iff, List.all_eq_true]
  rfl

theorem Fits.append {cs ds form form' : List Char} (hcs : Fits cs form) (hds : Fits ds form') :
    Fits (cs ++ ds) (form ++ form') := by
  refine ⟨by rw [List.length_append, List.length_append, hcs.1, hds.1], fun pair hpair => ?_⟩
  rw [List.zip_append hcs.1, List.mem_append] at hpair
  exact hpair.elim (hcs.2 pair) (hds.2 pair)

theorem fits_padded (width n : Nat) : Fits (Text.padded width n).toList (List.replicate width 'd') := by
  refine ⟨by rw [Text.length_padded, List.length_replicate], fun pair hpair => ?_⟩
  obtain ⟨hc, hf⟩ := List.of_mem_zip hpair
  rw [if_pos (List.eq_of_mem_replicate hf)]
  exact Text.isDecimal_of_isAsciiDigit (Text.isAsciiDigit_of_mem_padded hc)

/-- Where the form asks for a digit, there is one. -/
theorem Fits.isDecimal {cs form : List Char} (h : Fits cs form) {i : Nat} {c : Char} (hc : cs[i]? = some c)
    (hf : form[i]? = some 'd') : Text.isDecimal c = true := by
  have := h.2 (c, 'd') (List.mem_of_getElem? (List.getElem?_zip_eq_some.2 ⟨hc, hf⟩))
  rwa [if_pos rfl] at this

theorem findStamp_cons (c : Char) (cs : List Char) :
    findStamp (c :: cs) =
      if isStamp ((c :: cs).take 16) = true then some ((c :: cs).take 16) else findStamp cs := rfl

theorem findStamp_cons_of_not {c : Char} {cs : List Char} (h : isStamp ((c :: cs).take 16) = false) :
    findStamp (c :: cs) = findStamp cs := by
  rw [findStamp_cons, h, if_neg Bool.false_ne_true]

/-- A stamp starts behind what holds no digit. -/
theorem findStamp_append_left {front : List Char} (h : ∀ c ∈ front, Text.isDecimal c = false) (cs : List Char) :
    findStamp (front ++ cs) = findStamp cs := by
  induction front with
  | nil => rfl
  | cons c rest ih =>
    rw [List.cons_append, findStamp_cons_of_not, ih fun d hd => h d (List.mem_cons_of_mem _ hd)]
    rw [Bool.eq_false_iff]
    intro hstamp
    have hdigit := (isStamp_iff.1 hstamp).isDecimal (i := 0) rfl rfl
    rw [h c List.mem_cons_self] at hdigit
    cases hdigit

/-- A stamp ends before what holds no digit. -/
theorem findStamp_append_right {back : List Char} (h : ∀ c ∈ back, Text.isDecimal c = false) (cs : List Char) :
    findStamp (cs ++ back) = findStamp cs := by
  induction cs with
  | nil => simpa [findStamp] using findStamp_append_left h []
  | cons c rest ih =>
    by_cases hlength : 16 ≤ (c :: rest).length
    · have htake : ((c :: rest) ++ back).take 16 = (c :: rest).take 16 := List.take_append_of_le_length hlength
      rw [List.cons_append] at htake
      rw [List.cons_append, findStamp_cons, findStamp_cons, htake, ih]
    · have hshort : isStamp ((c :: rest).take 16) = false := by
        rw [Bool.eq_false_iff]
        intro hstamp
        have htaken : ((c :: rest).take 16).length = 16 := (isStamp_iff.1 hstamp).1
        rw [List.length_take] at htaken
        omega
      -- the candidate that goes on into the back ends there, and not in a digit
      have hlong : isStamp ((c :: (rest ++ back)).take 16) = false := by
        rw [Bool.eq_false_iff]
        intro hstamp
        have htaken : ((c :: (rest ++ back)).take 16).length = 16 := (isStamp_iff.1 hstamp).1
        rw [List.length_take, List.length_cons, List.length_append] at htaken
        rw [List.length_cons] at hlength
        obtain ⟨d, hd⟩ : ∃ d, back[15 - (rest.length + 1)]? = some d :=
          ⟨_, List.getElem?_eq_getElem (by omega)⟩
        have hlast : ((c :: (rest ++ back)).take 16)[15]? = some d := by
          rw [List.getElem?_take_of_lt (by decide), ← List.cons_append, List.getElem?_append_right, List.length_cons,
            hd]
          rw [List.length_cons]
          omega
        have hdigit := (isStamp_iff.1 hstamp).isDecimal hlast rfl
        rw [h d (List.mem_of_getElem? hd)] at hdigit
        cases hdigit
      rw [List.cons_append, findStamp_cons_of_not hlong, findStamp_cons_of_not hshort, ih]

theorem stampOf?_framed {front back : String} (hfront : front.toList.any Text.isDecimal = false)
    (hback : back.toList.any Text.isDecimal = false) (stamp : String) :
    stampOf? (front ++ stamp ++ back) = stampOf? stamp := by
  have hnone : ∀ {cs : List Char}, cs.any Text.isDecimal = false → ∀ c ∈ cs, Text.isDecimal c = false :=
    fun hcs c hc => Bool.eq_false_iff.2 (List.any_eq_false.1 hcs c hc)
  rw [stampOf?, stampOf?, String.toList_append, String.toList_append, findStamp_append_right (hnone hback),
    findStamp_append_left (hnone hfront)]

theorem stampOf?_reportName (stamp : String) : stampOf? (reportName stamp) = stampOf? stamp :=
  stampOf?_framed (by decide) (by decide) stamp

theorem stampOf?_updatesName (stamp : String) : stampOf? (updatesName stamp) = stampOf? stamp :=
  stampOf?_framed (by decide) (by decide) stamp

theorem stampOf?_renamesName (stamp : String) : stampOf? (renamesName stamp) = stampOf? stamp :=
  stampOf?_framed (by decide) (by decide) stamp

/-- The text of a stamp is found in it. -/
theorem Stamp.stampOf?_text (s : Stamp) : stampOf? s.text = some s.text := by
  have hdash : Fits "-".toList ['-'] := ⟨rfl, by decide⟩
  have hfits : Fits s.text.toList stampForm := by
    simp only [Stamp.text, String.toList_append]
    exact ((((((((fits_padded 4 _).append hdash).append (fits_padded 2 _)).append hdash).append
      (fits_padded 2 _)).append hdash).append (fits_padded 2 _)).append hdash).append (fits_padded 2 _)
  obtain ⟨c, cs, hcs⟩ : ∃ c cs, s.text.toList = c :: cs :=
    List.exists_cons_of_length_pos (by rw [hfits.1]; decide)
  have htake : (c :: cs).take 16 = c :: cs := List.take_of_length_le (by rw [← hcs, hfits.1]; decide)
  rw [stampOf?, hcs, findStamp_cons, htake, ← hcs, if_pos (isStamp_iff.2 hfits), Option.map_some, String.ofList_toList]

/-- In a year of four digits, the stamp of a run is found in it. -/
theorem stampOf?_minuteStamp {t : Instant} (hyear : 0 ≤ t.date.year ∧ t.date.year ≤ 9999) :
    stampOf? t.minuteStamp = some t.minuteStamp := by
  obtain ⟨s, hs⟩ := Stamp.exists_text_eq hyear
  rw [← hs, s.stampOf?_text]

/-- Whether a name is newer is decided by its stamp. -/
theorem isNewer_of_stampOf? {name found : String} (h : stampOf? name = some found) (stamp : String) :
    isNewer stamp name = decide (stamp < found) := by
  rw [isNewer, h]
  rfl

/-! ## Names in order -/

theorem framed_lt_framed_iff {front back : String} {s t : Stamp} :
    front ++ s.text ++ back < front ++ t.text ++ back ↔ s < t := by
  show (front ++ s.text ++ back).toList < (front ++ t.text ++ back).toList ↔ s < t
  simp only [String.toList_append, List.append_assoc]
  rw [Text.append_lt_append_iff rfl, Text.append_lt_append_iff (s.length_text.trans t.length_text.symm),
    ← Stamp.text_lt_text_iff]
  simp only [List.lt_irrefl, false_or, true_and, and_false, or_false]
  exact Iff.rfl

theorem mem_sorted {names : List String} {name : String} : name ∈ sorted names ↔ name ∈ names := List.mem_mergeSort

/-- The last name of a kind is one that no other name of the kind comes after. -/
theorem getLast?_filter_sorted {names : List String} {last : String} {p : String → Bool} (hmem : last ∈ names)
    (hp : p last = true) (hlast : ∀ name ∈ names, p name = true → name ≤ last) :
    ((sorted names).filter p).getLast? = some last := by
  have hin : last ∈ (sorted names).filter p := List.mem_filter.2 ⟨mem_sorted.2 hmem, hp⟩
  cases hgot : ((sorted names).filter p).getLast? with
  | none =>
    rw [List.getLast?_eq_none_iff.1 hgot] at hin
    cases hin
  | some got =>
    obtain ⟨hsorted, hpgot⟩ := List.mem_filter.1 (List.mem_of_getLast? hgot)
    obtain ⟨front, hfront⟩ := List.getLast?_eq_some_iff.1 hgot
    have hle : last ≤ got := by
      have hpairs : ((sorted names).filter p).Pairwise (· ≤ ·) :=
        (pairwise_le_mergeSort names).sublist List.filter_sublist
      rw [hfront] at hpairs hin
      rcases List.mem_append.1 hin with hin | hin
      · exact (List.pairwise_append.1 hpairs).2.2 last hin got List.mem_cons_self
      · exact List.mem_singleton.1 hin ▸ String.le_refl last
    rw [String.le_antisymm (hlast got (mem_sorted.1 hsorted) hpgot) hle]

end Stash

end Registrar

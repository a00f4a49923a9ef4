import Mathlib.Data.List.TakeWhile
import Registrar.Evaluation.CourseName

/-!
# The grammar of course names

A text *names* a course when it starts with a department, a catalog number, a format and a section, with single spaces
between them, and no word goes on behind the section (`Names`). Catalog numbers hold no space, so what follows a
department is read in one way only (`readAfter?_eq_some_iff`). The search tries departments from the shortest on: it
finds a name exactly where there is one, and the one that it finds has the shortest department (`search_spec`,
`parse?_shortest`).
-/

namespace Registrar.CourseName

open Text

variable {cs dept rest : List Char} {name : CourseName} {c : Char}

/-! ## Catalog numbers -/

/-- Letters `A` to `Z`, one or more digits, letters `A` to `Z`. -/
def IsCatalogNumber (cs : List Char) : Prop :=
  ∃ lead digits trail, cs = lead ++ (digits ++ trail) ∧ (∀ c ∈ lead, isAsciiUpper c = true) ∧ digits ≠ [] ∧
    (∀ c ∈ digits, isDecimal c = true) ∧ ∀ c ∈ trail, isAsciiUpper c = true

theorem isDecimal_of_isAsciiUpper (h : isAsciiUpper c = true) : isDecimal c = false := by
  rw [isAsciiUpper, Bool.and_eq_true, decide_eq_true_eq, decide_eq_true_eq] at h
  have hlower : 65 ≤ c.toNat := h.1
  have hupper : c.toNat ≤ 90 := h.2
  have hnone : ∀ n < 91, 65 ≤ n → isDecimal (Char.ofNat n) = false := by decide +kernel
  rw [← Char.ofNat_toNat c]
  exact hnone c.toNat (Nat.lt_succ_of_le hupper) hlower

theorem isCatalog_iff : isCatalog cs = true ↔ IsCatalogNumber cs := by
  simp only [isCatalog, Bool.and_eq_true, Bool.not_eq_true', List.isEmpty_eq_false_iff, List.all_eq_true]
  constructor
  · rintro ⟨hdigits, htrail⟩
    refine ⟨cs.takeWhile isAsciiUpper, _, _, ?_, fun c hc => List.mem_takeWhile_imp hc, hdigits,
      fun c hc => List.mem_takeWhile_imp hc, htrail⟩
    rw [List.takeWhile_append_dropWhile, List.takeWhile_append_dropWhile]
  · rintro ⟨lead, digits, trail, rfl, hlead, hne, hdigits, htrail⟩
    -- no digit is a letter, so the letters in front end where the digits begin, and the digits where letters follow
    have hfront : (lead ++ (digits ++ trail)).dropWhile isAsciiUpper = digits ++ trail := by
      rw [List.dropWhile_append_of_pos hlead]
      cases digits with
      | nil => exact absurd rfl hne
      | cons d ds =>
        refine List.dropWhile_cons_of_neg fun hd => ?_
        have := hdigits d List.mem_cons_self
        rw [isDecimal_of_isAsciiUpper hd] at this
        cases this
    have hback : trail.takeWhile isDecimal = [] ∧ trail.dropWhile isDecimal = trail := by
      cases trail with
      | nil => exact ⟨rfl, rfl⟩
      | cons t ts =>
        have ht := isDecimal_of_isAsciiUpper (htrail t List.mem_cons_self)
        exact ⟨List.takeWhile_cons_of_neg (by simp [ht]), List.dropWhile_cons_of_neg (by simp [ht])⟩
    rw [hfront, List.takeWhile_append_of_pos hdigits, List.dropWhile_append_of_pos hdigits, hback.1, hback.2,
      List.append_nil]
    exact ⟨hne, htrail⟩

theorem IsCatalogNumber.not_mem_space (h : IsCatalogNumber cs) : ' ' ∉ cs := by
  obtain ⟨lead, digits, trail, rfl, hlead, -, hdigits, htrail⟩ := h
  rw [List.mem_append, List.mem_append]
  rintro (hc | hc | hc)
  · exact absurd (hlead _ hc) (by decide)
  · exact absurd (hdigits _ hc) (by decide)
  · exact absurd (htrail _ hc) (by decide)

/-! ## What follows a department -/

/-- The parts one after the other, with single spaces between them. -/
def joined (name : CourseName) : String :=
  name.dept ++ " " ++ name.catalog ++ " " ++ name.format ++ " " ++ name.number

/-- The catalog number is one, the format has three letters `A` to `Z` and the section three digits. -/
structure HasParts (name : CourseName) : Prop where
  catalog : IsCatalogNumber name.catalog.toList
  format : name.format.toList.length = 3 ∧ ∀ c ∈ name.format.toList, isAsciiUpper c = true
  number : name.number.toList.length = 3 ∧ ∀ c ∈ name.number.toList, isDecimal c = true

/-- The text goes on behind a department as the name does, and no word goes on behind the section. -/
def Continues (name : CourseName) (cs : List Char) : Prop :=
  ∃ rest, cs = ' ' :: name.catalog.toList ++ ' ' :: name.format.toList ++ ' ' :: name.number.toList ++ rest ∧
    ∀ c ∈ rest.head?, isWordChar c = false

theorem isWordEnd_iff : isWordEnd rest = true ↔ ∀ c ∈ rest.head?, isWordChar c = false := by
  cases rest <;> simp [isWordEnd]

theorem exists_of_length_eq_three (h : cs.length = 3) : ∃ a b c, cs = [a, b, c] := by
  match cs, h with
  | [a, b, c], _ => exact ⟨a, b, c, rfl⟩

theorem readSection?_eq_some_iff {format number : List Char} :
    readSection? cs = some (format, number) ↔
      ∃ rest, cs = ' ' :: format ++ ' ' :: number ++ rest ∧ (format.length = 3 ∧ ∀ c ∈ format, isAsciiUpper c = true) ∧
        (number.length = 3 ∧ ∀ c ∈ number, isDecimal c = true) ∧ ∀ c ∈ rest.head?, isWordChar c = false := by
  constructor
  · intro h
    unfold readSection? at h
    split at h
    · rename_i f₁ f₂ f₃ d₁ d₂ d₃ rest
      split at h
      · rename_i hparts
        rw [Bool.and_eq_true, Bool.and_eq_true, List.all_eq_true, List.all_eq_true, isWordEnd_iff] at hparts
        obtain ⟨⟨hformat, hnumber⟩, hend⟩ := hparts
        cases h
        exact ⟨rest, rfl, ⟨rfl, hformat⟩, ⟨rfl, hnumber⟩, hend⟩
      · cases h
    · cases h
  · rintro ⟨rest, rfl, ⟨hformat, hletters⟩, ⟨hnumber, hdigits⟩, hend⟩
    obtain ⟨f₁, f₂, f₃, rfl⟩ := exists_of_length_eq_three hformat
    obtain ⟨d₁, d₂, d₃, rfl⟩ := exists_of_length_eq_three hnumber
    refine if_pos ?_
    rw [Bool.and_eq_true, Bool.and_eq_true, List.all_eq_true, List.all_eq_true, isWordEnd_iff]
    exact ⟨⟨hletters, hdigits⟩, hend⟩

/-- What follows a department is read in one way only. -/
theorem readAfter?_eq_some_iff :
    readAfter? dept cs = some name ↔ name.dept.toList = dept ∧ name.HasParts ∧ name.Continues cs := by
  constructor
  · intro h
    unfold readAfter? at h
    split at h
    · rename_i cs
      dsimp only at h
      split at h
      · rename_i hcatalog
        obtain ⟨⟨format, number⟩, hsection, rfl⟩ := Option.map_eq_some_iff.1 h
        obtain ⟨rest, hrest, hformat, hnumber, hend⟩ := readSection?_eq_some_iff.1 hsection
        refine ⟨String.toList_ofList, ⟨?_, ?_, ?_⟩, rest, ?_, hend⟩
        · rw [String.toList_ofList]
          exact isCatalog_iff.1 hcatalog
        · rw [String.toList_ofList]
          exact hformat
        · rw [String.toList_ofList]
          exact hnumber
        · have hwhole : cs.takeWhile (· ≠ ' ') ++ cs.dropWhile (· ≠ ' ') = cs := List.takeWhile_append_dropWhile
          rw [hrest] at hwhole
          simp only [String.toList_ofList, List.cons_append, List.append_assoc] at hwhole ⊢
          rw [hwhole]
      · cases h
    · cases h
  · rintro ⟨rfl, hparts, rest, rfl, hend⟩
    have hspace : ∀ c ∈ name.catalog.toList, decide (c ≠ ' ') = true := fun c hc =>
      decide_eq_true fun heq => hparts.catalog.not_mem_space (heq ▸ hc)
    have hsection : readSection? (' ' :: name.format.toList ++ ' ' :: name.number.toList ++ rest) =
        some (name.format.toList, name.number.toList) :=
      readSection?_eq_some_iff.2 ⟨rest, rfl, hparts.format, hparts.number, hend⟩
    simp only [List.cons_append, List.append_assoc, readAfter?] at hsection ⊢
    rw [List.takeWhile_append_of_pos hspace, List.dropWhile_append_of_pos hspace,
      List.takeWhile_cons_of_neg (by simp), List.dropWhile_cons_of_neg (by simp), List.append_nil,
      if_pos (isCatalog_iff.2 hparts.catalog), hsection]
    simp only [Option.map_some, String.ofList_toList]

/-! ## The search -/

/-- Behind the characters `lead` of a department, the text completes the department and goes on as the name does. -/
def NamesFrom (lead cs : List Char) (name : CourseName) : Prop :=
  ∃ more rest, cs = more ++ rest ∧ name.dept.toList = lead ++ more ∧ name.dept.toList ≠ [] ∧ '\n' ∉ more ∧
    name.HasParts ∧ name.Continues rest

theorem not_namesFrom_nil (lead : List Char) (name : CourseName) : ¬ NamesFrom lead [] name := by
  rintro ⟨more, rest, hnil, -, -, -, -, _, hrest, -⟩
  rw [(List.append_eq_nil_iff.1 hnil.symm).2] at hrest
  cases hrest

/-- Either the department ends here, or it takes the next character in, which is on the same line. -/
theorem namesFrom_cons_iff {lead : List Char} :
    NamesFrom lead (c :: cs) name ↔
      (lead ≠ [] ∧ name.dept.toList = lead ∧ name.HasParts ∧ name.Continues (c :: cs)) ∨
        (c ≠ '\n' ∧ NamesFrom (lead ++ [c]) cs name) := by
  constructor
  · rintro ⟨more, rest, hcs, hdept, hne, hline, hparts, hrest⟩
    cases more with
    | nil =>
      rw [List.nil_append] at hcs
      rw [List.append_nil] at hdept
      exact .inl ⟨hdept ▸ hne, hdept, hparts, hcs ▸ hrest⟩
    | cons d more =>
      obtain ⟨rfl, rfl⟩ := List.cons.inj hcs
      rw [List.mem_cons, not_or] at hline
      refine .inr ⟨Ne.symm hline.1, more, rest, rfl, ?_, hne, hline.2, hparts, hrest⟩
      rw [hdept, List.append_assoc, List.singleton_append]
  · rintro (⟨hlead, hdept, hparts, hrest⟩ | ⟨hc, more, rest, rfl, hdept, hne, hline, hparts, hrest⟩)
    · exact ⟨[], c :: cs, rfl, by rw [hdept, List.append_nil], hdept ▸ hlead, List.not_mem_nil, hparts, hrest⟩
    · refine ⟨c :: more, rest, rfl, ?_, hne, ?_, hparts, hrest⟩
      · rw [hdept, List.append_assoc, List.singleton_append]
      · rw [List.mem_cons, not_or]
        exact ⟨Ne.symm hc, hline⟩

theorem length_le_of_namesFrom {lead : List Char} (h : NamesFrom lead cs name) : lead.length ≤ name.dept.length := by
  obtain ⟨more, -, -, hdept, -⟩ := h
  rw [← String.length_toList, hdept, List.length_append]
  exact Nat.le_add_right _ _

/-- What the search gives behind the characters `lead` of a department: a name with the shortest department that the
text allows, or nothing where it allows none. -/
def Finds (lead cs : List Char) : Option CourseName → Prop
  | some name => NamesFrom lead cs name ∧
      ∀ name', NamesFrom lead cs name' → name' = name ∨ name.dept.length < name'.dept.length
  | none => ∀ name, ¬ NamesFrom lead cs name

theorem search_spec (cs lead : List Char) : Finds lead cs (search lead.reverse cs) := by
  induction cs generalizing lead with
  | nil => exact not_namesFrom_nil lead
  | cons c cs ih =>
    have hhere : ∀ name,
        (if lead.reverse.isEmpty then none else readAfter? lead.reverse.reverse (c :: cs)) = some name ↔
          lead ≠ [] ∧ name.dept.toList = lead ∧ name.HasParts ∧ name.Continues (c :: cs) := by
      intro name
      cases lead with
      | nil => simp
      | cons d ds => simp [readAfter?_eq_some_iff]
    rw [search]
    split
    · -- the department that ends here is the shortest, and what follows it is read in one way only
      rename_i name hname
      refine ⟨namesFrom_cons_iff.2 (.inl ((hhere name).1 hname)), fun name' hname' => ?_⟩
      rcases namesFrom_cons_iff.1 hname' with hends | ⟨-, hmore⟩
      · exact .inl (Option.some.inj (((hhere name').2 hends).symm.trans hname))
      · have hlength := length_le_of_namesFrom hmore
        rw [List.length_append, List.length_singleton, ← ((hhere name).1 hname).2.1, String.length_toList] at hlength
        exact .inr hlength
    · rename_i hnone
      have hlater : ∀ name, NamesFrom lead (c :: cs) name ↔ c ≠ '\n' ∧ NamesFrom (lead ++ [c]) cs name := by
        intro name
        rw [namesFrom_cons_iff, ← hhere name, hnone]
        exact or_iff_right (fun h => nomatch h)
      split
      · rename_i hline
        exact fun name hname => ((hlater name).1 hname).1 hline
      · rename_i hline
        have hrest := ih (lead ++ [c])
        rw [List.reverse_append, List.reverse_singleton, List.singleton_append] at hrest
        cases hfound : search (c :: lead.reverse) cs with
        | none =>
          rw [hfound] at hrest
          exact fun name hname => hrest name ((hlater name).1 hname).2
        | some name =>
          rw [hfound] at hrest
          exact ⟨(hlater name).2 ⟨hline, hrest.1⟩, fun name' hname' => hrest.2 name' ((hlater name').1 hname').2⟩

/-! ## Course names -/

/-- The text starts with the parts of the name, and no word goes on behind the section. -/
structure Names (cs : List Char) (name : CourseName) : Prop where
  text : ∃ rest, cs = name.joined.toList ++ rest ∧ ∀ c ∈ rest.head?, isWordChar c = false
  dept : name.dept ≠ "" ∧ '\n' ∉ name.dept.toList
  parts : name.HasParts

theorem namesFrom_nil_iff : NamesFrom [] cs name ↔ Names cs name := by
  constructor
  · rintro ⟨more, rest, rfl, hdept, hne, hline, hparts, tail, rfl, hend⟩
    rw [List.nil_append] at hdept
    refine ⟨⟨tail, ?_, hend⟩, ⟨fun h => hne (by rw [h]; rfl), hdept ▸ hline⟩, hparts⟩
    simp [joined, hdept]
  · rintro ⟨⟨tail, rfl, hend⟩, ⟨hne, hline⟩, hparts⟩
    refine ⟨name.dept.toList, _, ?_, rfl, fun h => hne (String.toList_eq_nil_iff.1 h), hline, hparts, tail, rfl, hend⟩
    simp [joined]

/-- **A course name is read with the shortest department.** A text has a course name exactly where its trimmed form
starts with the parts of one. The name that is read is the one with the shortest department; that of any other name is
longer. Its parts, joined by single spaces, start the trimmed text. -/
theorem parse?_shortest (s : String) :
    ((parse? s).isSome = true ↔ ∃ name, Names (trim s).toList name) ∧
    ∀ name, parse? s = some name ↔
      Names (trim s).toList name ∧ name.joined.toList <+: (trim s).toList ∧
        ∀ name', Names (trim s).toList name' → name' = name ∨ name.dept.length < name'.dept.length := by
  have hfinds : Finds [] (trim s).toList (parse? s) := by
    rw [toList_trim]
    exact search_spec _ []
  cases hparse : parse? s with
  | none =>
    rw [hparse] at hfinds
    have hnone : ∀ name, ¬ Names (trim s).toList name := fun name h => hfinds name (namesFrom_nil_iff.2 h)
    exact ⟨iff_of_false (fun h => nomatch h) fun ⟨name, h⟩ => hnone name h,
      fun name => iff_of_false (fun h => nomatch h) fun h => hnone name h.1⟩
  | some found =>
    rw [hparse] at hfinds
    obtain ⟨hfound, hshortest⟩ := hfinds
    have hnames := namesFrom_nil_iff.1 hfound
    refine ⟨iff_of_true rfl ⟨found, hnames⟩, fun name => ⟨fun h => ?_, fun h => ?_⟩⟩
    · cases h
      obtain ⟨rest, hrest, -⟩ := hnames.text
      exact ⟨hnames, ⟨rest, hrest.symm⟩, fun name' hname' => hshortest name' (namesFrom_nil_iff.2 hname')⟩
    · rcases hshortest name (namesFrom_nil_iff.2 h.1) with rfl | hlt
      · rfl
      · rcases h.2.2 found hnames with rfl | hlt'
        · rfl
        · exact absurd hlt (Nat.lt_asymm hlt')

/-- Three departments work, and the trimmed text goes on behind the section of the first. -/
example : parse? "  A 1 LEC 002 B 3 LAB 004 C169D SEM ٠٠٧ E" = some ⟨"A", "1", "LEC", "002"⟩ := by decide +kernel

end Registrar.CourseName

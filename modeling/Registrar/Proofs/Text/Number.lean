import Mathlib.Algebra.Group.Nat.Defs
import Registrar.Text.Blank
import Registrar.Text.Digit

/-!
# Numbers in decimal digits

The decimal text of a number has digits only and denotes the number (`readNat_toString`), so it determines the number
(`toString_nat_injective`). A run of digits denotes a number below a power of ten (`readNat_lt`), and a number written
in a fixed width denotes itself where it fits (`readNat_padded`). Texts of one width are in the order of their numbers
(`padded_lt_padded_iff`), and what follows them decides where the numbers are equal (`padded_append_lt_iff`). No digit
is blank (`isBlank_of_isAsciiDigit`).
-/

namespace Registrar.Text

/-! ## Digits -/

theorem isAsciiDigit_iff {c : Char} : isAsciiDigit c = true ↔ 48 ≤ c.toNat ∧ c.toNat ≤ 57 := by
  simp only [isAsciiDigit, Bool.and_eq_true, decide_eq_true_eq]
  exact Iff.rfl

theorem isBlank_of_isAsciiDigit {c : Char} (h : isAsciiDigit c = true) : isBlank c = false := by
  rw [isAsciiDigit_iff] at h
  rw [Bool.eq_false_iff]
  intro hb
  obtain ⟨⟨first, last⟩, hmem, hc⟩ := List.any_eq_true.1 hb
  simp only [Bool.and_eq_true, decide_eq_true_eq] at hc
  simp only [blankRanges, List.mem_cons, Prod.mk.injEq, List.not_mem_nil, or_false] at hmem
  omega

theorem isAsciiDigit_digitChar {d : Nat} (h : d < 10) : isAsciiDigit (Nat.digitChar d) = true := by
  have hall : ∀ d, d < 10 → isAsciiDigit (Nat.digitChar d) = true := by decide
  exact hall d h

theorem digitValue_digitChar {d : Nat} (h : d < 10) : digitValue (Nat.digitChar d) = d := by
  have hall : ∀ d, d < 10 → digitValue (Nat.digitChar d) = d := by decide
  exact hall d h

/-! ## Decimal texts -/

theorem isAsciiDigit_of_mem_toString {n : Nat} {c : Char} (h : c ∈ (toString n).toList) : isAsciiDigit c = true := by
  rw [Nat.toString_eq_repr, Nat.toList_repr] at h
  exact Nat.isDigit_of_mem_toDigits (by decide) (by decide) h

theorem readNat_toString (n : Nat) : readNat (toString n).toList = n := by
  rw [Nat.toString_eq_repr, Nat.toList_repr]
  exact Nat.ofDigitChars_toDigits (by decide) (by decide)

theorem toString_nat_injective {m n : Nat} (h : toString m = toString n) : m = n := by
  rw [← readNat_toString m, h, readNat_toString]

/-! ## Runs of digits -/

theorem readNat_cons (c : Char) (cs : List Char) : readNat (c :: cs) = digitValue c * 10 ^ cs.length + readNat cs := by
  have hfold : ∀ (cs : List Char) (n : Nat),
      cs.foldl (fun n c => 10 * n + digitValue c) n = n * 10 ^ cs.length + readNat cs := by
    intro cs
    induction cs with
    | nil =>
      intro n
      simp [readNat]
    | cons c rest ih =>
      intro n
      have hmul : 10 * n * 10 ^ rest.length = n * (10 ^ rest.length * 10) := by
        rw [Nat.mul_comm 10 n, Nat.mul_assoc, Nat.mul_comm 10]
      rw [readNat, List.foldl_cons, List.foldl_cons, ih, ih, List.length_cons, Nat.pow_succ, Nat.add_mul, hmul,
        Nat.mul_zero, Nat.zero_add, Nat.add_assoc]
  rw [readNat, List.foldl_cons, hfold]
  simp

theorem readNat_lt {cs : List Char} (h : ∀ c ∈ cs, isAsciiDigit c = true) : readNat cs < 10 ^ cs.length := by
  induction cs with
  | nil => decide
  | cons c rest ih =>
    have hrest := ih fun c' hc' => h c' (List.mem_cons_of_mem _ hc')
    have hc : digitValue c ≤ 9 := by
      have := isAsciiDigit_iff.1 (h c List.mem_cons_self)
      show c.toNat - 48 ≤ 9
      omega
    have hmul := Nat.mul_le_mul_right (10 ^ rest.length) hc
    rw [readNat_cons, List.length_cons, Nat.pow_succ]
    omega

/-- Of runs of the same length, the one that comes first denotes the smaller number. -/
theorem readNat_lt_readNat_iff {cs ds : List Char} (hcs : ∀ c ∈ cs, isAsciiDigit c = true)
    (hds : ∀ d ∈ ds, isAsciiDigit d = true) (hlength : cs.length = ds.length) :
    readNat cs < readNat ds ↔ cs < ds := by
  induction cs generalizing ds with
  | nil =>
    obtain rfl := List.eq_nil_of_length_eq_zero hlength.symm
    simp
  | cons c cs ih =>
    obtain _ | ⟨d, ds⟩ := ds
    · cases hlength
    have hcs' : ∀ c' ∈ cs, isAsciiDigit c' = true := fun c' hc' => hcs c' (List.mem_cons_of_mem _ hc')
    have hds' : ∀ d' ∈ ds, isAsciiDigit d' = true := fun d' hd' => hds d' (List.mem_cons_of_mem _ hd')
    have hlength' : cs.length = ds.length := Nat.succ.inj hlength
    have hc := isAsciiDigit_iff.1 (hcs c List.mem_cons_self)
    have hd := isAsciiDigit_iff.1 (hds d List.mem_cons_self)
    have hfirst : c < d ↔ digitValue c < digitValue d := by
      show c.toNat < d.toNat ↔ c.toNat - 48 < d.toNat - 48
      omega
    have hsame : c = d ↔ digitValue c = digitValue d := by
      rw [← Char.toNat_inj]
      show c.toNat = d.toNat ↔ c.toNat - 48 = d.toNat - 48
      omega
    have hbound := readNat_lt hcs'
    have hbound' := readNat_lt hds'
    rw [List.cons_lt_cons_iff, ← ih hcs' hds' hlength', hfirst, hsame, readNat_cons, readNat_cons, hlength']
    rw [hlength'] at hbound
    rcases Nat.lt_trichotomy (digitValue c) (digitValue d) with hlt | heq | hgt
    · have hstep := Nat.mul_le_mul_right (10 ^ ds.length) hlt
      rw [Nat.succ_mul] at hstep
      omega
    · rw [heq]
      omega
    · have hstep := Nat.mul_le_mul_right (10 ^ ds.length) hgt
      rw [Nat.succ_mul] at hstep
      omega

/-! ## Fixed widths -/

theorem toList_padded (width n : Nat) :
    (padded width n).toList = (List.range width).reverse.map fun i => Nat.digitChar (n / 10 ^ i % 10) := by
  rw [padded, String.toList_ofList]
  rfl

theorem length_padded (width n : Nat) : (padded width n).toList.length = width := by
  rw [toList_padded]
  simp

theorem isAsciiDigit_of_mem_padded {width n : Nat} {c : Char} (h : c ∈ (padded width n).toList) :
    isAsciiDigit c = true := by
  rw [toList_padded] at h
  obtain ⟨i, -, rfl⟩ := List.mem_map.1 h
  exact isAsciiDigit_digitChar (Nat.mod_lt _ (by decide))

theorem readNat_padded_mod (width n : Nat) : readNat (padded width n).toList = n % 10 ^ width := by
  rw [toList_padded]
  induction width with
  | zero => simp [readNat, Nat.mod_one]
  | succ width ih =>
    rw [List.range_succ, List.reverse_append, List.reverse_singleton, List.singleton_append, List.map_cons,
      readNat_cons, ih, digitValue_digitChar (Nat.mod_lt _ (by decide)), List.length_map, List.length_reverse,
      List.length_range, Nat.mod_pow_succ, Nat.mul_comm, Nat.add_comm]

theorem readNat_padded {width n : Nat} (h : n < 10 ^ width) : readNat (padded width n).toList = n := by
  rw [readNat_padded_mod, Nat.mod_eq_of_lt h]

theorem padded_injective {width m n : Nat} (hm : m < 10 ^ width) (hn : n < 10 ^ width)
    (h : padded width m = padded width n) : m = n := by
  rw [← readNat_padded hm, h, readNat_padded hn]

theorem padded_lt_padded_iff {width m n : Nat} (hm : m < 10 ^ width) (hn : n < 10 ^ width) :
    (padded width m).toList < (padded width n).toList ↔ m < n := by
  rw [← readNat_lt_readNat_iff (fun _ => isAsciiDigit_of_mem_padded) (fun _ => isAsciiDigit_of_mem_padded)
    (by rw [length_padded, length_padded]), readNat_padded hm, readNat_padded hn]

/-- What stands behind texts of one length counts where they are equal. -/
theorem append_lt_append_iff {cs ds cs' ds' : List Char} (hlength : cs.length = ds.length) :
    cs ++ cs' < ds ++ ds' ↔ cs < ds ∨ cs = ds ∧ cs' < ds' := by
  induction cs generalizing ds with
  | nil =>
    obtain rfl := List.eq_nil_of_length_eq_zero hlength.symm
    simp
  | cons c cs ih =>
    obtain _ | ⟨d, ds⟩ := ds
    · cases hlength
    rw [List.cons_append, List.cons_append, List.cons_lt_cons_iff, List.cons_lt_cons_iff, ih (Nat.succ.inj hlength),
      List.cons.injEq, and_or_left, or_assoc, and_assoc]

/-- Numbers of one width come before what follows them. -/
theorem padded_append_lt_iff {width m n : Nat} (hm : m < 10 ^ width) (hn : n < 10 ^ width) {cs ds : List Char} :
    (padded width m).toList ++ cs < (padded width n).toList ++ ds ↔ m < n ∨ m = n ∧ cs < ds := by
  have hsame : (padded width m).toList = (padded width n).toList ↔ m = n :=
    ⟨fun h => padded_injective hm hn (String.toList_inj.1 h), fun h => h ▸ rfl⟩
  rw [append_lt_append_iff ((length_padded width m).trans (length_padded width n).symm), padded_lt_padded_iff hm hn,
    hsame]

end Registrar.Text

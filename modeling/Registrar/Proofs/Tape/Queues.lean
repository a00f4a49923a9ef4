import Registrar.Proofs.Batches
import Registrar.Tape.Basic

/-!
# Tapes as queues

Every pair of family and method on a tape is a queue of its own. A call takes the head of the queue of its pair and
leaves all others alone (`of_next`), so what any calls leave of a queue is known from the number of calls of its pair
(`of_playAll`), in whatever order the calls of other pairs come in between. From this follows what each of the calls
gets, and the text of the refusal where its queue is used up (`playAll_in_order`).
-/

namespace Registrar.Tape

variable {t : Tape} {family method : String} {i : Interaction}

/-! ## One call -/

theorem next_of_eq_cons {queue : Tape} (h : of family method t = i :: queue) :
    (next family method t).1 = .ok i.output ∧ of family method (next family method t).2 = queue := by
  cases htake : take? family method t with
  | none =>
    rw [take?_eq_none_iff.1 htake] at h
    cases h
  | some found =>
    obtain ⟨j, rest⟩ := found
    rw [of_eq_cons_of_take? htake] at h
    obtain ⟨rfl, rfl⟩ := List.cons.inj h
    simp only [next, htake, and_self]

theorem next_of_eq_nil (h : of family method t = []) :
    next family method t = (.error (exhausted family method t), t) := by
  simp only [next, take?_eq_none_iff.2 h]

/-- A call takes the head of its own queue and leaves all others. -/
theorem of_next (p q : String × String) (t : Tape) :
    of p.1 p.2 (next q.1 q.2 t).2 = if q = p then (of p.1 p.2 t).tail else of p.1 p.2 t := by
  cases htake : take? q.1 q.2 t with
  | none =>
    have hqueue := take?_eq_none_iff.1 htake
    rw [next_of_eq_nil hqueue]
    split
    · rename_i hq
      rw [← hq, hqueue, List.tail_nil]
    · rfl
  | some found =>
    obtain ⟨i, rest⟩ := found
    have hrest : (next q.1 q.2 t).2 = rest := by simp only [next, htake]
    rw [hrest]
    split
    · rename_i hq
      rw [← hq, of_eq_cons_of_take? htake, List.tail_cons]
    · rename_i hq
      exact of_eq_of_take? htake (Ne.symm hq)

/-- A call that is served takes one interaction from the tape, and one that is refused takes none. -/
theorem length_next (p : String × String) (t : Tape) :
    (next p.1 p.2 t).2.length + (if (next p.1 p.2 t).1.isOk then 1 else 0) = t.length := by
  cases htake : take? p.1 p.2 t with
  | none =>
    rw [next_of_eq_nil (take?_eq_none_iff.1 htake)]
    rfl
  | some found =>
    simp only [next, htake]
    exact (length_of_take? htake).symm

/-! ## Any calls -/

/-- Makes calls one after the other: what comes of each, and what is left. -/
def playAll (t : Tape) : List (String × String) → List (Except String Value) × Tape
  | [] => ([], t)
  | p :: calls =>
    let (outcome, rest) := next p.1 p.2 t
    let (outcomes, left) := playAll rest calls
    (outcome :: outcomes, left)

theorem playAll_cons (t : Tape) (p : String × String) (calls : List (String × String)) :
    t.playAll (p :: calls) =
      ((next p.1 p.2 t).1 :: ((next p.1 p.2 t).2.playAll calls).1, ((next p.1 p.2 t).2.playAll calls).2) := rfl

theorem playAll_append (t : Tape) (before after : List (String × String)) :
    t.playAll (before ++ after) =
      ((t.playAll before).1 ++ ((t.playAll before).2.playAll after).1, ((t.playAll before).2.playAll after).2) := by
  induction before generalizing t with
  | nil => rfl
  | cons p before ih =>
    rw [List.cons_append, playAll_cons, playAll_cons, ih, List.cons_append]

theorem length_playAll (t : Tape) (calls : List (String × String)) : (t.playAll calls).1.length = calls.length := by
  induction calls generalizing t with
  | nil => rfl
  | cons p calls ih => exact congrArg (· + 1) (ih _)

/-- What calls leave of a queue is what stands behind as many interactions as there were calls of its pair. -/
theorem of_playAll (t : Tape) (calls : List (String × String)) (p : String × String) :
    of p.1 p.2 (t.playAll calls).2 = (of p.1 p.2 t).drop (calls.count p) := by
  induction calls generalizing t with
  | nil => rfl
  | cons q calls ih =>
    rw [playAll_cons, ih, of_next, List.count_cons]
    by_cases hq : q = p
    · rw [if_pos hq, if_pos (beq_iff_eq.2 hq), List.drop_tail]
    · rw [if_neg hq, if_neg fun h => hq (beq_iff_eq.1 h), Nat.add_zero]

/-- Every call that was served has taken one interaction. -/
theorem length_left (t : Tape) (calls : List (String × String)) :
    (t.playAll calls).2.length + (t.playAll calls).1.countP Except.isOk = t.length := by
  induction calls generalizing t with
  | nil => rfl
  | cons p calls ih =>
    rw [playAll_cons, List.countP_cons, ← Nat.add_assoc, ih, length_next]

/-! ## What is left -/

/-- The number of interactions of a pair that calls leave. -/
def stock (t : Tape) (calls : List (String × String)) (p : String × String) : Nat :=
  (of p.1 p.2 t).length - calls.count p

/-- The pairs of which calls leave something, each with the number of what is left, in the order of these texts. -/
def stockTexts (t : Tape) (calls : List (String × String)) : List String :=
  (((pairs t).filter fun p => 0 < stock t calls p).map fun p => s!"{p.1}::{p.2} ({stock t calls p})").mergeSort
    fun a b => decide (a ≤ b)

theorem mem_pairs_iff {p : String × String} : p ∈ pairs t ↔ of p.1 p.2 t ≠ [] := by
  have hpair : ∀ i : Interaction, (i.family, i.method) = p ↔ i.isOf p.1 p.2 = true := by
    intro i
    rw [Interaction.isOf, Bool.and_eq_true, beq_iff_eq, beq_iff_eq, Prod.ext_iff]
  rw [pairs, mem_distinct, List.mem_map, of, ne_eq, List.filter_eq_nil_iff]
  simp only [hpair, not_forall, not_not, exists_prop]

/-- Something is left of a queue exactly where its pair is among those of the tape. -/
theorem mem_pairs_playAll_iff {calls : List (String × String)} {p : String × String} :
    p ∈ pairs (t.playAll calls).2 ↔ 0 < stock t calls p := by
  rw [mem_pairs_iff, of_playAll, stock, ← List.length_drop, List.length_pos_iff]

theorem pairs_playAll_perm (t : Tape) (calls : List (String × String)) :
    (pairs (t.playAll calls).2).Perm ((pairs t).filter fun p => 0 < stock t calls p) := by
  have hleft : ∀ p ∈ pairs (t.playAll calls).2, p ∈ pairs t := by
    intro p hp
    rw [mem_pairs_iff] at hp ⊢
    intro hnone
    rw [of_playAll, hnone, List.drop_nil] at hp
    exact hp rfl
  refine (List.perm_ext_iff_of_nodup (nodup_distinct _) ((nodup_distinct _).filter _)).2 fun p => ?_
  show p ∈ pairs _ ↔ p ∈ (pairs t).filter _
  rw [List.mem_filter, decide_eq_true_eq, ← mem_pairs_playAll_iff]
  exact ⟨fun hp => ⟨hleft p hp, hp⟩, And.right⟩

theorem inventory_playAll (t : Tape) (calls : List (String × String)) :
    inventory (t.playAll calls).2 = stockTexts t calls := by
  have hlabels : ∀ p : String × String, s!"{p.1}::{p.2} ({(of p.1 p.2 (t.playAll calls).2).length})" =
      s!"{p.1}::{p.2} ({stock t calls p})" := by
    intro p
    rw [of_playAll, List.length_drop, stock]
  rw [stockTexts, inventory]
  simp only [hlabels]
  exact mergeSort_eq_of_perm ((pairs_playAll_perm t calls).map _)

theorem exhausted_playAll (t : Tape) (calls : List (String × String)) (family method : String) :
    exhausted family method (t.playAll calls).2 =
      s!"Cassette exhausted for {family}::{method}; remaining: [" ++ String.intercalate ", " (stockTexts t calls) ++
        "]" := by
  rw [← inventory_playAll]
  rfl

/-! ## What comes of each call -/

/-- **Every pair is played in its order.** Whatever calls came before and come after, a call gets the output of the
interaction of its pair that has the number of the call among those of the pair. Where there are not so many, it is
refused with the texts of what is left, in their order, and changes nothing. What calls leave of a tape are the queues
of its pairs without as many interactions as there were calls of the pair, and every served call has taken one
interaction. -/
theorem playAll_in_order (t : Tape) (before after : List (String × String)) (p : String × String) :
    let outcome := (t.playAll (before ++ p :: after)).1[before.length]?
    let left := (t.playAll before).2
    (match (of p.1 p.2 t)[before.count p]? with
      | some i => outcome = some (.ok i.output)
      | none =>
        outcome = some (.error (s!"Cassette exhausted for {p.1}::{p.2}; remaining: [" ++
          String.intercalate ", " (stockTexts t before) ++ "]")) ∧
        (t.playAll (before ++ [p])).2 = left) ∧
      (∀ q, of q.1 q.2 left = (of q.1 q.2 t).drop (before.count q)) ∧
      left.length + (t.playAll before).1.countP Except.isOk = t.length := by
  intro outcome left
  have hleft : of p.1 p.2 left = (of p.1 p.2 t).drop (before.count p) := of_playAll t before p
  have houtcome : outcome = some (next p.1 p.2 left).1 := by
    show (t.playAll (before ++ p :: after)).1[before.length]? = _
    rw [playAll_append, playAll_cons, ← length_playAll t before, List.getElem?_append_right (Nat.le_refl _),
      Nat.sub_self, List.getElem?_cons_zero]
  refine ⟨?_, of_playAll t before, length_left t before⟩
  rw [houtcome]
  cases hnext : (of p.1 p.2 t)[before.count p]? with
  | some i =>
    obtain ⟨hnumber, rfl⟩ := List.getElem?_eq_some_iff.1 hnext
    rw [List.drop_eq_getElem_cons hnumber] at hleft
    exact congrArg some (next_of_eq_cons hleft).1
  | none =>
    have hrefused := next_of_eq_nil (hleft.trans (List.drop_eq_nil_of_le (List.getElem?_eq_none_iff.1 hnext)))
    rw [exhausted_playAll] at hrefused
    refine ⟨congrArg (fun call => some call.1) hrefused, ?_⟩
    rw [playAll_append, playAll_cons, hrefused]
    rfl

end Registrar.Tape

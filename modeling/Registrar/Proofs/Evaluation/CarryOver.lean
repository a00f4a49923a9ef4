import Registrar.Proofs.Evaluation.Publication

/-!
# What the term before adds

A publication is built with a term before and without one. The pairings of the term before come after the current ones,
as far as their keys are new (`entries_carryPairings`), and each person that a pairing refers to takes the first record
with this campus ID to complete the current one or, for want of one, as it is (`get?_carryInstructors`). The other
sheets do not depend on the term before, so it only fills gaps (`build_fills_gaps`).
-/

namespace Registrar

open Integrity

/-- The record of the term before with a campus ID: the first one, if there is any. -/
def PreviousTerm.record? (previous : PreviousTerm) (uid : String) : Option (Row .instructors) :=
  (previous.instructors.matching .ldapUid uid).head?

namespace Publication

variable {σ : Type} {h : Handler services σ} {s : σ} {p₀ p : Publication} {previous : PreviousTerm} {uid : String}
  {r : Row .instructors}

/-! ## Pairings -/

/-- The key of a pairing. -/
def pairingKey (r : Row .courseInstructors) : String := CourseId.pairKey (r.get .courseId) (r.get .ldapUid)

/-- The pairings with new keys, the first one with each. -/
def newPairings (current previous : Sheet .courseInstructors) : List (Row .courseInstructors) :=
  (previous.toList.filter fun r => !current.contains (pairingKey r)).eraseDupsBy fun a b => pairingKey a == pairingKey b

theorem entries_carryPairings (current previous : Sheet .courseInstructors) :
    (carryPairings current previous).entries =
      current.entries ++ (newPairings current previous).map fun r => (pairingKey r, r) :=
  Sheet.entries_foldl_insertNew pairingKey id current previous.toList

/-! ## Instructors -/

theorem mem_referenced_iff {pairings : Sheet .courseInstructors} :
    uid ∈ referenced pairings ↔ uid ∈ values pairings .ldapUid := by
  rw [referenced, List.mem_mergeSort, mem_distinct, values]

theorem nodup_referenced (pairings : Sheet .courseInstructors) : (referenced pairings).Nodup :=
  List.nodup_mergeSort.2 (nodup_distinct _)

/-- The people that pairings refer to, with their records. -/
def records (pairings : Sheet .courseInstructors) (previous : PreviousTerm) : List (String × Row .instructors) :=
  (referenced pairings).filterMap fun uid => (previous.record? uid).map fun prior => (uid, prior)

/-- The record for a person that pairings refer to. -/
def carriedRecord? (pairings : Sheet .courseInstructors) (previous : PreviousTerm) (uid : String) :
    Option (Row .instructors) :=
  if uid ∈ values pairings .ldapUid then previous.record? uid else none

theorem filter_records (pairings : Sheet .courseInstructors) (previous : PreviousTerm) (uid : String) :
    ((records pairings previous).filter fun a => a.1 = uid) =
      ((carriedRecord? pairings previous uid).map fun prior => (uid, prior)).toList := by
  have huid : ∀ x ∈ referenced pairings, ∀ a, ((previous.record? x).map fun prior => (x, prior)) = some a →
      decide (a.1 = uid) = decide (x = uid) := by
    intro x _ a ha
    obtain ⟨prior, -, rfl⟩ := Option.map_eq_some_iff.1 ha
    rfl
  rw [records, filter_filterMap_of_nodup (nodup_referenced pairings) huid, carriedRecord?]
  simp only [mem_referenced_iff]
  split <;> rfl

theorem carryInstructors_eq (pairings : Sheet .courseInstructors) (previous : PreviousTerm)
    (current : Sheet .instructors) :
    carryInstructors pairings previous.instructors current =
      Sheet.enterAll Prod.fst (fun found a => (found.map fun there => there.fillFrom a.2).getD a.2) current
        (records pairings previous) := by
  rw [← Sheet.foldl_enterOrFill Prod.fst Prod.snd, records, List.foldl_filterMap, carryInstructors]
  congr 1
  funext s uid
  rw [PreviousTerm.record?]
  cases previous.instructors.matching .ldapUid uid <;> rfl

section CarryInstructors

variable {pairings : Sheet .courseInstructors} {current : Sheet .instructors}

/-- The record of the term before completes the current one or, for want of one, stands for it. -/
theorem get?_carryInstructors (pairings : Sheet .courseInstructors) (previous : PreviousTerm)
    (current : Sheet .instructors) (uid : String) :
    (carryInstructors pairings previous.instructors current).get? uid =
      (current.get? uid).merge Row.fillFrom (carriedRecord? pairings previous uid) := by
  rw [carryInstructors_eq, Sheet.get?_enterAll, filter_records]
  cases carriedRecord? pairings previous uid <;> cases current.get? uid <;> rfl

/-- What a current record says stays. -/
theorem kept_carryInstructors (hr : current.get? uid = some r) :
    ∃ r', (carryInstructors pairings previous.instructors current).get? uid = some r' ∧
      ∀ c, r.isBlankAt c = false → r'.get c = r.get c := by
  rw [get?_carryInstructors, hr]
  cases carriedRecord? pairings previous uid with
  | none => exact ⟨r, rfl, fun _ _ => rfl⟩
  | some prior => exact ⟨r.fillFrom prior, rfl, fun _ => Row.get_fillFrom_of_not_blank prior⟩

/-- An added record is that of the term before of somebody whom a pairing refers to. -/
theorem added_carryInstructors (hnone : current.get? uid = none)
    (hr : (carryInstructors pairings previous.instructors current).get? uid = some r) :
    uid ∈ values pairings .ldapUid ∧ previous.record? uid = some r := by
  rw [get?_carryInstructors, hnone, carriedRecord?] at hr
  split at hr
  · rename_i hmem
    refine ⟨hmem, ?_⟩
    cases hprior : previous.record? uid with
    | none =>
      rw [hprior] at hr
      cases hr
    | some prior =>
      rw [hprior] at hr
      exact hr
  · cases hr

end CarryInstructors

/-! ## Gaps -/

/-- A publication is another one with gaps filled from the term before: the sheets apart from the two of instructors are
the same, pairings with new keys come after the current ones, and a record of the term before completes the current one
or, for want of one, stands for it. So what a current record says stays, and an added one is a record of the term before
of somebody whom a pairing refers to. -/
structure FillsGaps (previous : PreviousTerm) (p₀ p : Publication) : Prop where
  courses : p.courses = p₀.courses
  courseStudents : p.courseStudents = p₀.courseStudents
  students : p.students = p₀.students
  courseSupervisors : p.courseSupervisors = p₀.courseSupervisors
  supervisors : p.supervisors = p₀.supervisors
  departmentHierarchy : p.departmentHierarchy = p₀.departmentHierarchy
  reportViewerHierarchy : p.reportViewerHierarchy = p₀.reportViewerHierarchy
  pairings : p.courseInstructors.entries = p₀.courseInstructors.entries ++
    (newPairings p₀.courseInstructors previous.pairings).map fun r => (pairingKey r, r)
  completed : ∀ uid, p.instructors.get? uid =
    (p₀.instructors.get? uid).merge Row.fillFrom (carriedRecord? p.courseInstructors previous uid)
  kept : ∀ uid r, p₀.instructors.get? uid = some r → ∃ r', p.instructors.get? uid = some r' ∧
    ∀ c, r.isBlankAt c = false → r'.get c = r.get c
  added : ∀ uid r, p₀.instructors.get? uid = none → p.instructors.get? uid = some r →
    uid ∈ values p.courseInstructors .ldapUid ∧ previous.record? uid = some r

theorem fillsGaps_carryOver (previous : PreviousTerm) (p : Publication) :
    FillsGaps previous p (p.carryOver previous) where
  courses := rfl
  courseStudents := rfl
  students := rfl
  courseSupervisors := rfl
  supervisors := rfl
  departmentHierarchy := rfl
  reportViewerHierarchy := rfl
  pairings := entries_carryPairings _ _
  completed := get?_carryInstructors _ previous _
  kept := fun _ _ => kept_carryInstructors
  added := fun _ _ => added_carryInstructors

/-- Looking up the students of both leaves the gaps filled in the same way. -/
theorem FillsGaps.attended (hp : FillsGaps previous p₀ p) (es : List Enrollment) :
    FillsGaps previous (p₀.attended es) (p.attended es) :=
  { hp with
    courseStudents := congrArg (courseStudentsOf · es) hp.courses
    students := congrArg (studentsOf · es) hp.courses }

/-- **The term before only fills gaps.** Whatever the source replies, a publication is built without a term before and
with one, and the second is the first with its gaps filled. -/
theorem build_fills_gaps (merged : Sheet .sisImport) (supervisors : Sheet .supervisors) (previous : PreviousTerm)
    (options : PublicationOptions) (reply : Except String (List Enrollment))
    (hreply : Replies h s options.term (sections (coursesOf (evaluated merged))) reply) :
    ∃ p₀ p, ((build merged supervisors none options).run h s).result = .ok p₀ ∧
      ((build merged supervisors (some previous) options).run h s).result = .ok p ∧ FillsGaps previous p₀ p := by
  obtain ⟨t₀, hwithout⟩ := yields_build supervisors none hreply
  obtain ⟨t, hwith⟩ := yields_build supervisors (some previous) hreply
  exact ⟨_, _, hwithout.result, hwith.result, (fillsGaps_carryOver previous _).attended _⟩

/-- A current instructor gets a last name and keeps the first one, and a pairing of the term before brings its
instructor along; a pairing that is current already is not added again. -/
theorem build_fills_gaps_names :
    let row : Row .sisImport :=
      .ofPairs _ [(.courseId, "2015-B-34821"), (.ldapUid, "100"), (.firstName, "Ann"), (.evaluate, "Y")]
    let merged : Sheet .sisImport := .ofRows _ [row]
    let previous : PreviousTerm := {
      pairings := .ofRows _ [pairing _ "2015-B-34821" "100", pairing _ "2014-D-11111" "400"]
      instructors := .ofRows _
        [.ofPairs _ [(.ldapUid, "100"), (.firstName, "Old"), (.lastName, "Zed")], .ofPairs _ [(.ldapUid, "400")]] }
    let world : World := { now := .sinceEpoch 0 0 }
    let ccns := sections (coursesOf (evaluated merged))
    Replies World.handler world "2015-B" ccns (world.query (world.campus.enrollmentsOf ccns)) ∧
      ∃ p₀ p, ((build merged {} none ⟨"2015-B", "Campus", "23"⟩).run World.handler world).result = .ok p₀ ∧
        ((build merged {} (some previous) ⟨"2015-B", "Campus", "23"⟩).run World.handler world).result = .ok p ∧
        FillsGaps previous p₀ p ∧ p.courseInstructors.rows.keys = ["2015-B-34821-100", "2014-D-11111-400"] ∧
        (p.instructors.get? "100").map (fun r => (r.get .firstName, r.get .lastName)) = some ("Ann", "Zed") ∧
        (p.instructors.get? "400").isSome = true := by
  intro row merged previous world ccns
  have hevaluated : evaluated merged = [row] := (evaluated_ofRows (by decide +kernel)).trans (by decide +kernel)
  have hreply := replies_memory world "2015-B" ccns
  obtain ⟨p₀, p, hwithout, hwith, hgaps⟩ := build_fills_gaps merged {} previous ⟨"2015-B", "Campus", "23"⟩ _ hreply
  obtain ⟨t, ht⟩ : ∃ t, (build merged {} none ⟨"2015-B", "Campus", "23"⟩).Yields World.handler world _ t :=
    yields_build {} none hreply
  obtain rfl : p₀ = _ := Except.ok.inj (hwithout.symm.trans ht.result)
  have hpairings : p.courseInstructors.entries = [("2015-B-34821-100", pairing _ "2015-B-34821" "100"),
      ("2014-D-11111-400", pairing _ "2014-D-11111" "400")] := by
    refine hgaps.pairings.trans ?_
    show (courseInstructorsOf (evaluated merged)).entries ++
      (newPairings (courseInstructorsOf (evaluated merged)) previous.pairings).map _ = _
    rw [hevaluated]
    decide +kernel
  have hreferred : values p.courseInstructors .ldapUid = ["100", "400"] := by
    show (p.courseInstructors.entries.map Prod.snd).map _ = _
    rw [hpairings]
    decide +kernel
  have hinstructors : ∀ uid, p.instructors.get? uid = ((instructorsOf "23" [row]).get? uid).merge Row.fillFrom
      (if uid ∈ ["100", "400"] then previous.record? uid else none) := by
    intro uid
    rw [hgaps.completed, carriedRecord?, hreferred, ← hevaluated]
    rfl
  refine ⟨hreply, _, p, hwithout, hwith, hgaps, ?_, ?_, ?_⟩
  · show p.courseInstructors.entries.map Prod.fst = _
    rw [hpairings]
    rfl
  · rw [hinstructors]
    decide +kernel
  · rw [hinstructors]
    decide +kernel

end Publication

end Registrar

import Registrar.Proofs.Evaluation.Republication

/-!
# Records of instructors

The record of an instructor is completed from row to row, and from the term before at last. So under each column that
rows and records share, it says what the first row of the instructor says that says anything, in export order
(`bind_said?_instructorsOf`); where none does, the record of the term before does, as far as a pairing refers to the
instructor (`bind_said?_carried`). The role is the configured one throughout, if that is not blank.

A publication has one record like this for every instructor of its rows (`build_completes_instructors`).
-/

namespace Registrar.Publication

variable {σ : Type} {h : Handler services σ} {s : σ} {rows : List (Row .sisImport)} {role uid : String} {c : Column}

/-! ## Instructors of rows -/

/-- The columns in which the record of an instructor takes over what rows say. -/
def details : List Column := [.sisId, .firstName, .lastName, .emailAddress]

theorem said?_instructorOf (hc : c ∈ details) (role : String) (r : Row .sisImport) :
    (instructorOf role r).said? c = r.said? c := by
  have hshared : ∀ c ∈ details, c ∈ Kind.instructors.columns ∧ c ∈ Kind.sisImport.columns ∧
      c ≠ .ldapUid ∧ c ≠ .blueRole := by decide
  obtain ⟨hdeclared, hstated, huid, hrole⟩ := hshared c hc
  apply Row.said?_congr
  rw [instructorOf, Row.get_set_of_ne _ _ hrole, Row.get_set_of_ne _ _ huid, Row.get_project r hdeclared hstated]

theorem said?_instructorOf_blueRole (hrole : Text.isBlankText role = false) (r : Row .sisImport) :
    (instructorOf role r).said? .blueRole = some role := by
  have hget : (instructorOf role r).get .blueRole = role := Row.get_set_self _ _ (by decide)
  refine Row.said?_eq_some_iff.2 ⟨?_, hget⟩
  rw [Row.isBlankAt, hget]
  exact hrole

/-- The rows of an instructor. -/
def rowsOf (uid : String) (rows : List (Row .sisImport)) : List (Row .sisImport) :=
  rows.filter fun r => instructorUid r = uid

/-- A campus ID is not blank, so the rows with it have an instructor. -/
theorem filter_taught (huid : uid ≠ "") :
    ((taught rows).filter fun r => instructorUid r = uid) = rowsOf uid rows := by
  rw [taught, List.filter_filter, rowsOf]
  refine List.filter_congr fun r _ => ?_
  by_cases hr : instructorUid r = uid
  · have hstated : r.isBlankAt .ldapUid ≠ true := fun hblank =>
      huid (hr.symm.trans (Text.trim_eq_empty_iff.2 hblank))
    rw [Bool.eq_false_iff.2 hstated]
    simp
  · simp [hr]

theorem bind_said?_instructorsOf (huid : uid ≠ "") (role : String) (rows : List (Row .sisImport)) (c : Column) :
    ((instructorsOf role rows).get? uid).bind (·.said? c) =
      (rowsOf uid rows).findSome? fun r => (instructorOf role r).said? c := by
  rw [← filter_taught huid]
  exact Sheet.said?_foldl_enterOrFill instructorUid (instructorOf role) (taught rows) uid c

/-! ## The term before -/

/-- The record for a person that pairings refer to, where there is a term before. -/
def priorRecord? (pairings : Sheet .courseInstructors) (previous : Option PreviousTerm) (uid : String) :
    Option (Row .instructors) :=
  previous.bind fun previous => carriedRecord? pairings previous uid

theorem get?_carried (p : Publication) (previous : Option PreviousTerm) (uid : String) :
    (p.carried previous).instructors.get? uid =
      (p.instructors.get? uid).merge Row.fillFrom
        (priorRecord? (p.carried previous).courseInstructors previous uid) := by
  cases previous with
  | some previous => exact get?_carryInstructors _ previous _ uid
  | none =>
    rw [priorRecord?, Option.bind_none]
    show p.instructors.get? uid = _
    cases p.instructors.get? uid <;> rfl

theorem keyedBy_carried {p : Publication} (hp : p.instructors.KeyedBy .ldapUid) (previous : Option PreviousTerm) :
    (p.carried previous).instructors.KeyedBy .ldapUid := by
  cases previous with
  | none => exact hp
  | some previous => exact keyedBy_carryInstructors hp _ previous

/-! ## The whole -/

/-- The record of an instructor: it has the role, and under each column of details it says what the first row says that
says anything or, where none does, what the prior record says, if there is one. -/
structure IsRecordOf (role : String) (rows : List (Row .sisImport)) (prior : Option (Row .instructors))
    (r : Row .instructors) : Prop where
  blueRole : r.get .blueRole = role
  said : ∀ c ∈ details, r.said? c = (rows.findSome? (·.said? c)).or (prior.bind (·.said? c))

/-- With the term before, a record says what it said before, or else what the prior record says. -/
theorem bind_said?_carried (huid : uid ≠ "") (rows : List (Row .sisImport)) (supervisors : Sheet .supervisors)
    (options : PublicationOptions) (previous : Option PreviousTerm) (c : Column) :
    ((((ofRows rows supervisors options).carried previous).instructors.get? uid).bind (·.said? c)) =
      ((rowsOf uid rows).findSome? fun r => (instructorOf options.role r).said? c).or
        ((priorRecord? ((ofRows rows supervisors options).carried previous).courseInstructors previous uid).bind
          (·.said? c)) := by
  rw [get?_carried, Row.bind_said?_merge, ← bind_said?_instructorsOf huid options.role rows c]
  rfl

theorem exists_isRecordOf_carried {options : PublicationOptions} {row : Row .sisImport}
    (hrole : Text.isBlankText options.role = false) (supervisors : Sheet .supervisors)
    (previous : Option PreviousTerm) (hrow : row ∈ taught rows) :
    let p := (ofRows rows supervisors options).carried previous
    ∃ r, p.instructors.matching .ldapUid (instructorUid row) = [r] ∧
      IsRecordOf options.role (rowsOf (instructorUid row) rows)
        (priorRecord? p.courseInstructors previous (instructorUid row)) r := by
  intro p
  obtain ⟨hmem, hstated⟩ := mem_taught_iff.1 hrow
  have huid : instructorUid row ≠ "" := fun hempty => by
    rw [Row.isBlankAt, Text.trim_eq_empty_iff.1 hempty] at hstated
    cases hstated
  have hkeyed : p.instructors.KeyedBy .ldapUid := keyedBy_carried (keyedBy_instructorsOf options.role rows) previous
  have hsaid := bind_said?_carried huid rows supervisors options previous
  -- the first row of the instructor says the role, so there is a record, which says the role
  obtain ⟨first, rest, hrows⟩ : ∃ first rest, rowsOf (instructorUid row) rows = first :: rest :=
    List.exists_cons_of_ne_nil (List.ne_nil_of_mem (List.mem_filter.2 ⟨hmem, decide_eq_true rfl⟩))
  obtain ⟨r, hr, hblue⟩ : ∃ r, p.instructors.get? (instructorUid row) = some r ∧
      r.said? .blueRole = some options.role := by
    rw [← Option.bind_eq_some_iff]
    refine (hsaid .blueRole).trans ?_
    rw [hrows, List.findSome?_cons, said?_instructorOf_blueRole hrole]
    rfl
  refine ⟨r, ?_, (Row.said?_eq_some_iff.1 hblue).2, fun c hc => ?_⟩
  · rw [Sheet.matching_of_keyedBy hkeyed, hr]
    rfl
  · calc r.said? c = (p.instructors.get? (instructorUid row)).bind (·.said? c) := by rw [hr, Option.bind_some]
      _ = ((rowsOf (instructorUid row) rows).findSome? (·.said? c)).or
            ((priorRecord? p.courseInstructors previous (instructorUid row)).bind (·.said? c)) := by
        rw [hsaid c]
        simp only [said?_instructorOf hc, p]

/-- **Records of instructors have the first details that are stated.** Whatever the source replies, with or without a
term before, a publication is built. Where the role is not blank, there is exactly one record with the trimmed campus ID
of each row that is evaluated and has an instructor. It has the role, and under each column of details it says what the
first of the rows with this campus ID, in export order, says that says anything. Where none does, it says what the first
record of the term before with this campus ID says, if a pairing refers to it, and otherwise nothing. -/
theorem build_completes_instructors (merged : Sheet .sisImport) (supervisors : Sheet .supervisors)
    (previous : Option PreviousTerm) (options : PublicationOptions) (reply : Except String (List Enrollment))
    (hrole : Text.isBlankText options.role = false)
    (hreply : Replies h s options.term (sections (coursesOf (evaluated merged))) reply) :
    ∃ p, ((build merged supervisors previous options).run h s).result = .ok p ∧
      ∀ row ∈ evaluated merged, row.isBlankAt .ldapUid = false →
        ∃ r, p.instructors.matching .ldapUid (instructorUid row) = [r] ∧
          IsRecordOf options.role (rowsOf (instructorUid row) (evaluated merged))
            (priorRecord? p.courseInstructors previous (instructorUid row)) r := by
  obtain ⟨t, ht⟩ := yields_build supervisors previous hreply
  refine ⟨_, ht.result, fun row hmem hstated => ?_⟩
  -- the enrollments change neither the instructors nor their pairings
  exact exists_isRecordOf_carried hrole supervisors previous (mem_taught_iff.2 ⟨hmem, hstated⟩)

/-- The first name is blank in the first row and comes from the second, the last name comes from the term before, and
nobody states the student ID or the address. -/
theorem build_completes_instructors_names :
    let row (course uid first : String) : Row .sisImport :=
      .ofPairs _ [(.courseId, course), (.ldapUid, uid), (.firstName, first), (.evaluate, "Y")]
    let rows := [row "2015-B-34821" " 300" "  ", row "2015-B-34822" "300" "Ann", row "2015-B-34823" "300 " "Anna"]
    let merged : Sheet .sisImport := .ofRows _ rows
    let previous : PreviousTerm := {
      instructors := .ofRows _ [.ofPairs _ [(.ldapUid, "300"), (.firstName, "Old"), (.lastName, "Zed")],
        .ofPairs _ [(.ldapUid, "300"), (.lastName, "Zett"), (.emailAddress, "zett@example.edu")]] }
    let world : World := { now := .sinceEpoch 0 0 }
    let options : PublicationOptions := ⟨"2015-B", "Campus", "23"⟩
    let ccns := sections (coursesOf (evaluated merged))
    Text.isBlankText options.role = false ∧
      Replies World.handler world "2015-B" ccns (world.query (world.campus.enrollmentsOf ccns)) ∧
      ∃ p r, ((build merged {} (some previous) options).run World.handler world).result = .ok p ∧
        p.instructors.matching .ldapUid "300" = [r] ∧ r.get .blueRole = "23" ∧
        details.map r.said? = [none, some "Ann", some "Zed", none] := by
  intro row rows merged previous world options ccns
  have hrole : Text.isBlankText options.role = false := by decide
  have hreply := replies_memory world "2015-B" ccns
  have hevaluated : evaluated merged = rows := (evaluated_ofRows (by decide +kernel)).trans (by decide +kernel)
  obtain ⟨p, hrun, hrecords⟩ := build_completes_instructors merged {} (some previous) options _ hrole hreply
  obtain ⟨t, ht⟩ : ∃ t, (build merged {} (some previous) options).Yields World.handler world _ t :=
    yields_build {} (some previous) hreply
  obtain rfl : p = _ := Except.ok.inj (hrun.symm.trans ht.result)
  have huid : instructorUid (row "2015-B-34822" "300" "Ann") = "300" := by decide +kernel
  have hstated : (row "2015-B-34822" "300" "Ann").isBlankAt .ldapUid = false := by decide +kernel
  have hmem : row "2015-B-34822" "300" "Ann" ∈ evaluated merged := by
    rw [hevaluated]
    exact List.mem_cons_of_mem _ List.mem_cons_self
  obtain ⟨r, hmatching, hrecord⟩ := hrecords _ hmem hstated
  rw [huid] at hmatching hrecord
  have hprior : priorRecord? (carryPairings (courseInstructorsOf (evaluated merged)) previous.pairings) (some previous)
      "300" = previous.record? "300" := by
    rw [hevaluated]
    decide +kernel
  have hrows : rowsOf "300" (evaluated merged) = rows := by
    rw [hevaluated]
    decide +kernel
  have hsaid : ∀ c ∈ details,
      r.said? c = (rows.findSome? (·.said? c)).or ((previous.record? "300").bind (·.said? c)) := by
    intro c hc
    rw [← hprior, ← hrows]
    exact hrecord.said c hc
  refine ⟨hrole, hreply, _, r, hrun, hmatching, hrecord.blueRole, ?_⟩
  rw [List.map_congr_left hsaid]
  decide +kernel

end Registrar.Publication

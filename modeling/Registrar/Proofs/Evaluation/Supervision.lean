import Registrar.Proofs.Evaluation.Publication

/-!
# Supervision of courses

A row that is to be evaluated assigns its course to each supervisor of its department form (`assignment`). A course may
be evaluated under several forms, and a supervisor may oversee several of them, but the sheet of course supervisors has
one row for each course and supervisor. So it holds the assignments that come last among those with their key
(`assigns_iff`), and every assignment exactly where no two different ones share a key (`assignsAll_iff`). As far as
campus IDs have no `-`, that is where a supervisor has each course under one form only (`keysApart_iff`).
-/

namespace Registrar.Publication

variable {σ : Type} {h : Handler services σ} {s : σ} {rows : List (Row .sisImport)} {supervisors : Sheet .supervisors}

/-! ## Assignments -/

/-- A course that a supervisor oversees for a department form. -/
structure Assignment where
  course : String
  uid : String
  form : String
  deriving DecidableEq

namespace Assignment

/-- The key of the assignment in the sheet, which leaves out the form. -/
def key (a : Assignment) : String := CourseId.pairKey a.course a.uid

/-- The assignment that a row of the sheet states. -/
def ofRow (r : Row .courseSupervisors) : Assignment := ⟨r.get .courseId, r.get .ldapUid, r.get .deptName⟩

end Assignment

/-- The assignment that a row makes to a supervisor. -/
def assignment (r : Row .sisImport) (supervisor : Row .supervisors) : Assignment :=
  ⟨r.get .courseId, supervisor.get .ldapUid, r.get .deptForm⟩

theorem ofRow_supervision (r : Row .sisImport) (supervisor : Row .supervisors) :
    Assignment.ofRow (supervision r supervisor) = assignment r supervisor := by
  have hform : (supervision r supervisor).get .deptName = r.get .deptForm := Row.get_set_self _ _ (by decide)
  rw [Assignment.ofRow, get_supervision_courseId, get_supervision_ldapUid, hform, assignment]

/-- All assignments, in the order of the rows. -/
def assignments (rows : List (Row .sisImport)) (supervisors : Sheet .supervisors) : List Assignment :=
  (supervisions rows supervisors).map fun a => assignment a.1 a.2

theorem mem_assignments_iff {a : Assignment} :
    a ∈ assignments rows supervisors ↔
      ∃ r ∈ rows, ∃ supervisor ∈ supervisors.supervisorsOfForm (r.get .deptForm), assignment r supervisor = a := by
  rw [assignments, List.mem_map]
  constructor
  · rintro ⟨⟨r, supervisor⟩, hmem, rfl⟩
    obtain ⟨hr, hsupervisor⟩ := mem_supervisions_iff.1 hmem
    exact ⟨r, hr, supervisor, hsupervisor, rfl⟩
  · rintro ⟨r, hr, supervisor, hsupervisor, rfl⟩
    exact ⟨(r, supervisor), mem_supervisions_iff.2 ⟨hr, hsupervisor⟩, rfl⟩

/-- The last assignment with a key. -/
def lastUnder? (rows : List (Row .sisImport)) (supervisors : Sheet .supervisors) (x : String) : Option Assignment :=
  ((assignments rows supervisors).filter fun a => a.key = x).getLast?

theorem of_lastUnder? {x : String} {a : Assignment} (ha : lastUnder? rows supervisors x = some a) :
    a ∈ assignments rows supervisors ∧ a.key = x := by
  have hmem := List.mem_filter.1 (List.mem_of_getLast? ha)
  exact ⟨hmem.1, of_decide_eq_true hmem.2⟩

theorem exists_lastUnder? {a : Assignment} (ha : a ∈ assignments rows supervisors) :
    ∃ b, lastUnder? rows supervisors a.key = some b := by
  have hmem : a ∈ (assignments rows supervisors).filter fun b => b.key = a.key :=
    List.mem_filter.2 ⟨ha, decide_eq_true rfl⟩
  exact ⟨_, List.getLast?_eq_some_getLast (List.ne_nil_of_mem hmem)⟩

/-! ## What the sheet holds -/

/-- The sheet has a row that states the assignment. -/
def Assigns (s : Sheet .courseSupervisors) (a : Assignment) : Prop := ∃ r ∈ s.toList, Assignment.ofRow r = a

/-- Under each key the sheet states the last assignment with it. -/
theorem get?_courseSupervisorsOf (rows : List (Row .sisImport)) (supervisors : Sheet .supervisors) (x : String) :
    ((courseSupervisorsOf rows supervisors).get? x).map Assignment.ofRow = lastUnder? rows supervisors x := by
  have hstated : (Assignment.ofRow ∘ fun a : Row .sisImport × Row .supervisors => supervision a.1 a.2) =
      fun a => assignment a.1 a.2 := funext fun a => ofRow_supervision a.1 a.2
  rw [courseSupervisorsOf_eq, Sheet.get?_enterAll_row, Option.map_map, hstated, lastUnder?, assignments,
    List.filter_map, List.getLast?_map]
  rfl

theorem assigns_iff {a : Assignment} :
    Assigns (courseSupervisorsOf rows supervisors) a ↔ lastUnder? rows supervisors a.key = some a := by
  rw [Assigns]
  constructor
  · rintro ⟨r, hr, rfl⟩
    obtain ⟨x, hx⟩ := Sheet.mem_toList_iff.1 hr
    have hlast := get?_courseSupervisorsOf rows supervisors x
    rw [hx, Option.map_some] at hlast
    rw [(of_lastUnder? hlast.symm).2]
    exact hlast.symm
  · intro hlast
    rw [← get?_courseSupervisorsOf, Option.map_eq_some_iff] at hlast
    obtain ⟨r, hr, hrow⟩ := hlast
    exact ⟨r, Sheet.mem_toList_iff.2 ⟨_, hr⟩, hrow⟩

/-- The sheet states every assignment of the rows. -/
def AssignsAll (s : Sheet .courseSupervisors) (rows : List (Row .sisImport)) (supervisors : Sheet .supervisors) :
    Prop :=
  ∀ r ∈ rows, ∀ supervisor ∈ supervisors.supervisorsOfForm (r.get .deptForm), Assigns s (assignment r supervisor)

/-- No two different assignments share a key. -/
def KeysApart (as : List Assignment) : Prop := ∀ a ∈ as, ∀ b ∈ as, a.key = b.key → a = b

theorem assignsAll_iff :
    AssignsAll (courseSupervisorsOf rows supervisors) rows supervisors ↔ KeysApart (assignments rows supervisors) := by
  constructor
  · intro hall a ha b hb hkey
    have hlast : ∀ c ∈ assignments rows supervisors, lastUnder? rows supervisors c.key = some c := by
      intro c hc
      obtain ⟨r, hr, supervisor, hsupervisor, rfl⟩ := mem_assignments_iff.1 hc
      exact assigns_iff.1 (hall r hr supervisor hsupervisor)
    have hb' := hlast b hb
    rw [← hkey, hlast a ha] at hb'
    exact Option.some.inj hb'
  · intro hapart r hr supervisor hsupervisor
    have ha := mem_assignments_iff.2 ⟨r, hr, supervisor, hsupervisor, rfl⟩
    obtain ⟨b, hb⟩ := exists_lastUnder? ha
    obtain ⟨hmem, hkey⟩ := of_lastUnder? hb
    rw [assigns_iff, hb, hapart b hmem _ ha hkey]

/-- Where campus IDs have no `-`, keys are apart exactly when no supervisor has a course under two forms. -/
theorem keysApart_iff {as : List Assignment} (hplain : ∀ a ∈ as, '-' ∉ a.uid.toList) :
    KeysApart as ↔ ∀ a ∈ as, ∀ b ∈ as, a.course = b.course → a.uid = b.uid → a.form = b.form := by
  constructor
  · intro hapart a ha b hb hcourse huid
    refine congrArg Assignment.form (hapart a ha b hb ?_)
    rw [Assignment.key, Assignment.key, hcourse, huid]
  · intro hforms a ha b hb hkey
    obtain ⟨hcourse, huid⟩ := CourseId.pairKey_inj (hplain a ha) (hplain b hb) hkey
    have hform := hforms a ha b hb hcourse huid
    cases a
    cases b
    rw [Assignment.mk.injEq]
    exact ⟨hcourse, huid, hform⟩

/-! ## The whole -/

/-- **A supervisor keeps one form of a course.** Whatever the source replies, a publication is built. It states an
assignment exactly when this is the last one with its key, so all assignments of the evaluated rows are stated exactly
when no two different ones share a key. As far as campus IDs of supervisors have no `-`, this means that no course is
assigned to one supervisor for two forms. -/
theorem build_supervision (merged : Sheet .sisImport) (supervisors : Sheet .supervisors)
    (previous : Option PreviousTerm) (options : PublicationOptions) (reply : Except String (List Enrollment))
    (hreply : Replies h s options.term (sections (coursesOf (evaluated merged))) reply) :
    let assigned := assignments (evaluated merged) supervisors
    ∃ p, ((build merged supervisors previous options).run h s).result = .ok p ∧
      (∀ a, Assigns p.courseSupervisors a ↔ (assigned.filter fun b => b.key = a.key).getLast? = some a) ∧
      (AssignsAll p.courseSupervisors (evaluated merged) supervisors ↔ KeysApart assigned) ∧
      ((∀ r ∈ supervisors.toList, '-' ∉ (r.get .ldapUid).toList) →
        (AssignsAll p.courseSupervisors (evaluated merged) supervisors ↔
          ∀ a ∈ assigned, ∀ b ∈ assigned, a.course = b.course → a.uid = b.uid → a.form = b.form)) := by
  intro assigned
  obtain ⟨t, ht⟩ := yields_build supervisors previous hreply
  refine ⟨_, ht.result, ?_⟩
  rw [courseSupervisors_attended]
  refine ⟨fun a => assigns_iff, assignsAll_iff, fun hplain => ?_⟩
  rw [assignsAll_iff]
  refine keysApart_iff fun a ha => ?_
  obtain ⟨r, -, supervisor, hsupervisor, rfl⟩ := mem_assignments_iff.1 ha
  exact hplain supervisor (mem_of_mem_supervisorsOfForm hsupervisor)

namespace TwoForms

/-- A course that is to be evaluated under a form. -/
def row (form : String) : Row .sisImport :=
  .ofPairs _ [(.courseId, "2015-B-91111"), (.ldapUid, "100"), (.deptForm, form), (.evaluate, "Y")]

/-- One course under two forms. -/
def merged : Sheet .sisImport := .ofRows _ [row "GWS", row "MCELLBI"]

theorem evaluated_merged : evaluated merged = [row "GWS", row "MCELLBI"] :=
  (evaluated_ofRows (by decide +kernel)).trans (by decide +kernel)

/-- A supervisor of up to two departments. -/
def supervisor (uid first second : String) : Row .supervisors :=
  .ofPairs _ [(.ldapUid, uid), (.supervisedDept 0, first), (.supervisedDept 1, second)]

def campus : PublicationOptions := ⟨"2015-B", "Campus", "Instructor"⟩

def world : World := { now := .sinceEpoch 0 0 }

end TwoForms

open TwoForms in
/-- Where each form has a supervisor of its own, both keep the course. -/
theorem build_supervision_apart :
    let supervisors : Sheet .supervisors := .ofRows _ [supervisor "500" "GWS" "", supervisor "501" "MCELLBI" ""]
    let ccns := sections (coursesOf (evaluated merged))
    Replies World.handler world "2015-B" ccns (world.query (world.campus.enrollmentsOf ccns)) ∧
      (∀ r ∈ supervisors.toList, '-' ∉ (r.get .ldapUid).toList) ∧
      ∃ p, ((build merged supervisors none campus).run World.handler world).result = .ok p ∧
        AssignsAll p.courseSupervisors (evaluated merged) supervisors ∧
        Assigns p.courseSupervisors ⟨"2015-B-91111", "500", "GWS"⟩ := by
  intro supervisors ccns
  have hreply := replies_memory world "2015-B" ccns
  have hplain : ∀ r ∈ supervisors.toList, '-' ∉ (r.get .ldapUid).toList := by decide +kernel
  obtain ⟨p, hrun, hassigns, -, hall⟩ := build_supervision merged supervisors none campus _ hreply
  rw [evaluated_merged] at hassigns hall
  refine ⟨hreply, hplain, p, hrun, ?_, (hassigns _).2 (by decide +kernel)⟩
  rw [evaluated_merged]
  exact (hall hplain).2 (by decide +kernel)

open TwoForms in
/-- A supervisor of both forms keeps the course for the second one only. -/
theorem supervision_lost :
    let both := supervisor "500" "GWS" "MCELLBI"
    let supervisors : Sheet .supervisors := .ofRows _ [both]
    row "GWS" ∈ evaluated merged ∧ both ∈ supervisors.supervisorsOfForm "GWS" ∧
      ∃ p, ((build merged supervisors none campus).run World.handler world).result = .ok p ∧
        ∀ r ∈ p.courseSupervisors.toList, r.get .courseId = "2015-B-91111" → r.get .ldapUid = "500" →
          r.get .deptName ≠ "GWS" := by
  intro both supervisors
  obtain ⟨t, ht⟩ : ∃ t, (build merged supervisors none campus).Yields World.handler world _ t :=
    yields_build supervisors none (replies_memory world _ _)
  refine ⟨?_, by decide +kernel, _, ht.result, ?_⟩
  · rw [evaluated_merged]
    exact List.mem_cons_self
  · rw [courseSupervisors_attended, evaluated_merged]
    decide +kernel

end Registrar.Publication

import Registrar.Proofs.Evaluation.Publication

/-!
# The department hierarchy and its viewers

The hierarchy has its root on top and one node for each department form right below it, each node once
(`isHierarchy_departmentHierarchyOf`); a form that is the root gets no node of its own. A supervisor views each form
that he oversees (`Oversees`). As far as campus IDs have no `-`, the pairs of a form and a viewer are these and no
others (`mem_viewings_iff`), so every viewed form is a node, and every supervisor of a course views the form for which
he supervises it (`build_hierarchy`).
-/

namespace Registrar.Publication

variable {σ : Type} {h : Handler services σ} {s : σ} {supervisors : Sheet .supervisors} {supervisor : Row .supervisors}
  {root name form uid : String}

/-! ## Supervised forms -/

/-- A supervisor has a department of a form. -/
def Oversees (supervisor : Row .supervisors) (form : String) : Prop :=
  ∃ slot, supervisor.isBlankAt (.supervisedDept slot) = false ∧
    CourseId.departmentForm (supervisor.get (.supervisedDept slot)) = form

instance (supervisor : Row .supervisors) (form : String) : Decidable (Oversees supervisor form) :=
  inferInstanceAs (Decidable (∃ slot : Fin 10, supervisor.isBlankAt (.supervisedDept slot) = false ∧
    CourseId.departmentForm (supervisor.get (.supervisedDept slot)) = form))

theorem mem_departments_iff :
    name ∈ supervisor.departments ↔
      ∃ slot, supervisor.isBlankAt (.supervisedDept slot) = false ∧ supervisor.get (.supervisedDept slot) = name := by
  simp only [Row.departments, Column.supervisedDepts, List.mem_filter, List.mem_map, Bool.not_eq_true']
  constructor
  · rintro ⟨⟨_, ⟨slot, -, rfl⟩, rfl⟩, hblank⟩
    exact ⟨slot, hblank, rfl⟩
  · rintro ⟨slot, hblank, rfl⟩
    exact ⟨⟨_, ⟨slot, List.mem_finRange slot, rfl⟩, rfl⟩, hblank⟩

theorem oversees_iff :
    Oversees supervisor form ↔ ∃ name ∈ supervisor.departments, CourseId.departmentForm name = form := by
  constructor
  · rintro ⟨slot, hblank, rfl⟩
    exact ⟨_, mem_departments_iff.2 ⟨slot, hblank, rfl⟩, rfl⟩
  · rintro ⟨name, hname, rfl⟩
    obtain ⟨slot, hblank, rfl⟩ := mem_departments_iff.1 hname
    exact ⟨slot, hblank, rfl⟩

theorem mem_supervised_iff :
    (supervisor, name) ∈ supervised supervisors ↔ supervisor ∈ supervisors.toList ∧ name ∈ supervisor.departments := by
  simp only [supervised, List.mem_flatMap, List.mem_map, Prod.mk.injEq]
  constructor
  · rintro ⟨_, hsupervisor, _, hname, rfl, rfl⟩
    exact ⟨hsupervisor, hname⟩
  · rintro ⟨hsupervisor, hname⟩
    exact ⟨supervisor, hsupervisor, name, hname, rfl, rfl⟩

theorem oversees_of_mem_supervisorsOfForm (h : supervisor ∈ supervisors.supervisorsOfForm form) :
    Oversees supervisor form := by
  rw [Sheet.supervisorsOfForm] at h
  split at h
  · cases h
  · obtain ⟨name, hname, hform⟩ := List.any_eq_true.1 (List.mem_filter.1 h).2
    exact oversees_iff.2 ⟨name, hname, of_decide_eq_true hform⟩

/-! ## Nodes -/

/-- One node on top, and all others right below it. -/
structure IsHierarchy (root : String) (nodes : Sheet .departmentHierarchy) : Prop where
  nodup_nodes : (Integrity.values nodes .nodeId).Nodup
  top : ∃ r, nodes.matching .level "1" = [r] ∧ r.get .nodeId = root ∧ r.get .parentNodeId = "" ∧
    r.get .parentNodeCaption = ""
  below : ∀ r ∈ nodes.toList, r.get .nodeId ≠ root → r.get .level = "2" ∧ r.get .parentNodeId = root ∧
    r.get .parentNodeCaption = root

theorem get_departmentNode_nodeId (root name : String) :
    (departmentNode root name).get .nodeId = CourseId.departmentForm name := by
  simp (disch := decide) only [departmentNode, Row.ofPairs, List.foldl_cons, List.foldl_nil, Row.get_set_of_ne,
    Row.get_set_self]

theorem get_departmentNode_level (root name : String) : (departmentNode root name).get .level = "2" := by
  simp (disch := decide) only [departmentNode, Row.ofPairs, List.foldl_cons, List.foldl_nil, Row.get_set_self]

theorem get_rootNode_nodeId (root : String) : (rootNode root).get .nodeId = root := by
  simp (disch := decide) only [rootNode, Row.ofPairs, List.foldl_cons, List.foldl_nil, Row.get_set_of_ne,
    Row.get_set_self]

theorem departmentHierarchyOf_eq (root : String) (supervisors : Sheet .supervisors) :
    departmentHierarchyOf root supervisors =
      (supervised supervisors).foldl (fun s a => s.insertNew (CourseId.departmentForm a.2) (departmentNode root a.2))
        (Sheet.insert {} root (rootNode root)) := rfl

theorem keyedBy_departmentHierarchyOf (root : String) (supervisors : Sheet .supervisors) :
    (departmentHierarchyOf root supervisors).KeyedBy .nodeId := by
  have hroot : (Sheet.insert {} root (rootNode root)).KeyedBy .nodeId := by
    intro x r hr
    obtain ⟨rfl, rfl⟩ : x = root ∧ rootNode root = r := by
      simpa [Sheet.get?, Sheet.insert, Keyed.get?_insert] using hr
    exact get_rootNode_nodeId x
  rw [departmentHierarchyOf_eq]
  exact hroot.insertedNew fun a _ => get_departmentNode_nodeId root a.2

/-- The nodes are the root and the forms of supervised departments, each once. -/
theorem values_departmentHierarchyOf (root : String) (supervisors : Sheet .supervisors) :
    Integrity.values (departmentHierarchyOf root supervisors) .nodeId =
      distinct (root :: (supervised supervisors).map fun a => CourseId.departmentForm a.2) := by
  rw [Sheet.values_of_keyedBy (keyedBy_departmentHierarchyOf root supervisors), departmentHierarchyOf_eq,
    Sheet.foldl_insertNew, Sheet.keys_enterAll]
  rfl

/-- The hierarchy starts with the root, and all that comes after it are nodes of departments. -/
theorem exists_toList_departmentHierarchyOf (root : String) (supervisors : Sheet .supervisors) :
    ∃ names : List String, (departmentHierarchyOf root supervisors).toList =
      rootNode root :: names.map (departmentNode root) := by
  obtain ⟨added, hentries⟩ : ∃ added : List (Row .supervisors × String),
      (departmentHierarchyOf root supervisors).entries = [(root, rootNode root)] ++
        added.map fun a => (CourseId.departmentForm a.2, departmentNode root a.2) :=
    ⟨_, Sheet.entries_foldl_insertNew _ _ _ _⟩
  refine ⟨added.map Prod.snd, ?_⟩
  show (departmentHierarchyOf root supervisors).entries.map Prod.snd = _
  rw [hentries, List.map_append, List.map_map, List.map_map]
  rfl

theorem isHierarchy_departmentHierarchyOf (root : String) (supervisors : Sheet .supervisors) :
    IsHierarchy root (departmentHierarchyOf root supervisors) := by
  obtain ⟨names, hnodes⟩ := exists_toList_departmentHierarchyOf root supervisors
  refine ⟨?_, ⟨rootNode root, ?_, get_rootNode_nodeId root, ?_, ?_⟩, ?_⟩
  · rw [values_departmentHierarchyOf]
    exact nodup_distinct _
  · have hlevel : (rootNode root).get .level = "1" := by
      simp (disch := decide) only [rootNode, Row.ofPairs, List.foldl_cons, List.foldl_nil, Row.get_set_self]
    rw [Sheet.matching, hnodes, List.filter_cons, if_pos (decide_eq_true hlevel), List.filter_map,
      List.filter_eq_nil_iff.2, List.map_nil]
    intro name _
    rw [Function.comp_apply, get_departmentNode_level]
    decide
  · simp (disch := decide) only [rootNode, Row.ofPairs, List.foldl_cons, List.foldl_nil, Row.get_set_of_ne,
      Row.get_blank]
  · simp (disch := decide) only [rootNode, Row.ofPairs, List.foldl_cons, List.foldl_nil, Row.get_set_of_ne,
      Row.get_blank]
  · intro r hr hne
    rw [hnodes] at hr
    rcases List.mem_cons.1 hr with rfl | hr
    · exact absurd (get_rootNode_nodeId root) hne
    · obtain ⟨name, -, rfl⟩ := List.mem_map.1 hr
      refine ⟨get_departmentNode_level root name, ?_, ?_⟩
      · simp (disch := decide) only [departmentNode, Row.ofPairs, List.foldl_cons, List.foldl_nil, Row.get_set_of_ne,
          Row.get_set_self]
      · simp (disch := decide) only [departmentNode, Row.ofPairs, List.foldl_cons, List.foldl_nil, Row.get_set_of_ne,
          Row.get_set_self]

/-! ## Viewers -/

/-- The forms of reports with the supervisors who see them. -/
def viewings (s : Sheet .reportViewerHierarchy) : List (String × String) :=
  s.toList.map fun r => (r.get .source, r.get .target)

/-- The viewing of the reports of a department by a supervisor. -/
def viewing (supervisor : Row .supervisors) (name : String) : Row .reportViewerHierarchy :=
  .ofPairs _ [(.source, CourseId.departmentForm name), (.target, supervisor.get .ldapUid),
    (.roleId, supervisor.get .supervisorGroup)]

theorem get_viewing (supervisor : Row .supervisors) (name : String) :
    ((viewing supervisor name).get .source, (viewing supervisor name).get .target) =
      (CourseId.departmentForm name, supervisor.get .ldapUid) := by
  simp (disch := decide) only [viewing, Row.ofPairs, List.foldl_cons, List.foldl_nil, Row.get_set_of_ne,
    Row.get_set_self]

theorem reportViewersOf_eq (supervisors : Sheet .supervisors) :
    reportViewersOf supervisors =
      Sheet.enterAll (fun a => CourseId.pairKey (CourseId.departmentForm a.2) (a.1.get .ldapUid))
        (fun _ a => viewing a.1 a.2) {} (supervised supervisors) := rfl

theorem nodup_viewings (supervisors : Sheet .supervisors) : (viewings (reportViewersOf supervisors)).Nodup := by
  refine Sheet.nodup_map_toList (g := fun a => CourseId.pairKey a.1 a.2) fun x r hr => ?_
  rw [reportViewersOf_eq] at hr
  obtain ⟨a, -, rfl, rfl⟩ := Sheet.exists_of_get?_enterAll hr
  rw [get_viewing]

section Plain

variable (hplain : ∀ r ∈ supervisors.toList, '-' ∉ (r.get .ldapUid).toList)
include hplain

/-- The viewers of a form are the supervisors who oversee it. -/
theorem mem_viewings_iff :
    (form, uid) ∈ viewings (reportViewersOf supervisors) ↔
      ∃ supervisor ∈ supervisors.toList, supervisor.get .ldapUid = uid ∧ Oversees supervisor form := by
  have hkeys : ∀ a ∈ supervised supervisors, ∀ b ∈ supervised supervisors,
      CourseId.pairKey (CourseId.departmentForm a.2) (a.1.get .ldapUid) =
        CourseId.pairKey (CourseId.departmentForm b.2) (b.1.get .ldapUid) →
      ((viewing a.1 a.2).get .source, (viewing a.1 a.2).get .target) =
        ((viewing b.1 b.2).get .source, (viewing b.1 b.2).get .target) := by
    intro a ha b hb hkey
    obtain ⟨hform, huid⟩ := CourseId.pairKey_inj (hplain _ (mem_supervised_iff.1 ha).1)
      (hplain _ (mem_supervised_iff.1 hb).1) hkey
    rw [get_viewing, get_viewing, hform, huid]
  rw [viewings, reportViewersOf_eq, Sheet.mem_map_toList_enterAll_iff hkeys]
  simp only [get_viewing, Prod.mk.injEq, oversees_iff]
  constructor
  · rintro ⟨⟨supervisor, name⟩, ha, hform, huid⟩
    obtain ⟨hsupervisor, hname⟩ := mem_supervised_iff.1 ha
    exact ⟨supervisor, hsupervisor, huid, name, hname, hform⟩
  · rintro ⟨supervisor, hsupervisor, huid, name, hname, hform⟩
    exact ⟨(supervisor, name), mem_supervised_iff.2 ⟨hsupervisor, hname⟩, hform, huid⟩

/-- Every viewed form is a node. -/
theorem mem_nodes_of_mem_viewings (root : String) (hview : (form, uid) ∈ viewings (reportViewersOf supervisors)) :
    form ∈ Integrity.values (departmentHierarchyOf root supervisors) .nodeId := by
  obtain ⟨supervisor, hsupervisor, -, hoversees⟩ := (mem_viewings_iff hplain).1 hview
  obtain ⟨name, hname, rfl⟩ := oversees_iff.1 hoversees
  rw [values_departmentHierarchyOf, mem_distinct]
  refine List.mem_cons_of_mem _ (List.mem_map.2 ⟨(supervisor, name), ?_, rfl⟩)
  exact mem_supervised_iff.2 ⟨hsupervisor, hname⟩

/-- Who supervises a course for a form views the form. -/
theorem mem_viewings_of_mem_courseSupervisorsOf {rows : List (Row .sisImport)} {r : Row .courseSupervisors}
    (hr : r ∈ (courseSupervisorsOf rows supervisors).toList) :
    (r.get .deptName, r.get .ldapUid) ∈ viewings (reportViewersOf supervisors) := by
  obtain ⟨row, -, supervisor, hsupervisor, rfl⟩ := exists_of_mem_courseSupervisorsOf hr
  have hform : (supervision row supervisor).get .deptName = row.get .deptForm := Row.get_set_self _ _ (by decide)
  rw [hform, get_supervision_ldapUid, mem_viewings_iff hplain]
  exact ⟨supervisor, mem_of_mem_supervisorsOfForm hsupervisor, rfl, oversees_of_mem_supervisorsOfForm hsupervisor⟩

end Plain

/-! ## The whole -/

/-- **The hierarchy is closed.** Where no campus ID of a supervisor has a `-`, a publication is built from whatever the
source replies. Its hierarchy has the configured root on top and all other nodes right below it, no node twice. The
viewers of reports are the pairs of a form and a supervisor who oversees it, each once; every form among them is a node,
and every supervisor of a course is a viewer of the form for which he supervises it. -/
theorem build_hierarchy (merged : Sheet .sisImport) (supervisors : Sheet .supervisors)
    (previous : Option PreviousTerm) (options : PublicationOptions) (reply : Except String (List Enrollment))
    (hreply : Replies h s options.term (sections (coursesOf (evaluated merged))) reply)
    (hplain : ∀ r ∈ supervisors.toList, '-' ∉ (r.get .ldapUid).toList) :
    ∃ p, ((build merged supervisors previous options).run h s).result = .ok p ∧
      IsHierarchy options.root p.departmentHierarchy ∧
      (viewings p.reportViewerHierarchy).Nodup ∧
      (∀ form uid, (form, uid) ∈ viewings p.reportViewerHierarchy ↔
        ∃ supervisor ∈ supervisors.toList, supervisor.get .ldapUid = uid ∧ Oversees supervisor form) ∧
      (∀ r ∈ p.reportViewerHierarchy.toList, r.get .source ∈ Integrity.values p.departmentHierarchy .nodeId) ∧
      ∀ r ∈ p.courseSupervisors.toList, (r.get .deptName, r.get .ldapUid) ∈ viewings p.reportViewerHierarchy := by
  obtain ⟨t, ht⟩ := yields_build supervisors previous hreply
  refine ⟨_, ht.result, ?_⟩
  rw [departmentHierarchy_attended, reportViewerHierarchy_attended, courseSupervisors_attended]
  exact ⟨isHierarchy_departmentHierarchyOf _ _, nodup_viewings _, fun _ _ => mem_viewings_iff hplain,
    fun r hr => mem_nodes_of_mem_viewings hplain _ (List.mem_map_of_mem hr),
    fun r hr => mem_viewings_of_mem_courseSupervisorsOf hplain hr⟩

namespace SharedForm

/-- A supervisor of departments. -/
def overseer (uid : String) (names : List String) : Row .supervisors :=
  .ofPairs _ ((.ldapUid, uid) :: Column.supervisedDepts.zip names)

/-- Two departments of one form, and one whose form is the root. -/
def overseers : Sheet .supervisors :=
  .ofRows _ [overseer "500" ["Arts, Design", "Campus"], overseer "501" ["Arts_ Design"]]

def merged : Sheet .sisImport :=
  .ofRows _ [.ofPairs _ [(.courseId, "2015-B-91111"), (.deptForm, "Arts_ Design"), (.evaluate, "Y")]]

def campus : PublicationOptions := ⟨"2015-B", "Campus", "Instructor"⟩

def world : World := { now := .sinceEpoch 0 0 }

end SharedForm

open SharedForm in
/-- Both supervisors view the form that their departments share, and one of them the root. -/
theorem build_hierarchy_shared :
    let ccns := sections (coursesOf (evaluated merged))
    Replies World.handler world "2015-B" ccns (world.query (world.campus.enrollmentsOf ccns)) ∧
      (∀ r ∈ overseers.toList, '-' ∉ (r.get .ldapUid).toList) ∧
      ∃ p, ((build merged overseers none campus).run World.handler world).result = .ok p ∧
        IsHierarchy "Campus" p.departmentHierarchy ∧
        (∀ a ∈ [("Arts_ Design", "500"), ("Arts_ Design", "501"), ("Campus", "500")],
          a ∈ viewings p.reportViewerHierarchy) ∧
        ("Campus", "501") ∉ viewings p.reportViewerHierarchy := by
  have hplain : ∀ r ∈ overseers.toList, '-' ∉ (r.get .ldapUid).toList := by decide +kernel
  intro ccns
  have hreply := replies_memory world "2015-B" ccns
  obtain ⟨p, hrun, hnodes, -, hviewings, -, -⟩ := build_hierarchy merged overseers none campus _ hreply hplain
  refine ⟨hreply, hplain, p, hrun, hnodes, ?_, ?_⟩
  · have hoversees : ∀ a ∈ [("Arts_ Design", "500"), ("Arts_ Design", "501"), ("Campus", "500")],
        ∃ supervisor ∈ overseers.toList, supervisor.get .ldapUid = a.2 ∧ Oversees supervisor a.1 := by
      decide +kernel
    exact fun a ha => (hviewings a.1 a.2).2 (hoversees a ha)
  · rw [hviewings]
    decide +kernel

end Registrar.Publication

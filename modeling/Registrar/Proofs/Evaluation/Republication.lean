import Registrar.Proofs.Evaluation.CarryOver

/-!
# Publishing again

A publication passes its pairings and its instructors on (`Publication.asPrevious`). Building it again with these as the
term before gives the same sheets (`build_again`). The pairings that were passed on start with the current ones, so only
those come again that were carried over. A person whom a pairing refers to finds the record that was completed or
carried over under the own campus ID, and completing from it changes nothing (`get?_carryInstructors_again`); the
people who are added are the same, so their order is (`keys_carryInstructors_again`).
-/

namespace Registrar.Publication

variable {σ : Type} {h : Handler services σ} {previous : PreviousTerm} {uid : String}

/-- What a publication passes on to the next term. -/
def asPrevious (p : Publication) : PreviousTerm where
  pairings := p.courseInstructors
  instructors := p.instructors

/-! ## Pairings -/

section Pairings

variable {current : Sheet .courseInstructors}

/-- Every pairing tells its key. -/
def Paired (s : Sheet .courseInstructors) : Prop := ∀ x r, s.get? x = some r → pairingKey r = x

theorem paired_courseInstructorsOf (rows : List (Row .sisImport)) : Paired (courseInstructorsOf rows) := by
  intro x r hr
  obtain ⟨a, -, rfl, rfl⟩ := Sheet.exists_of_get?_enterAll hr
  rw [pairingKey, get_pairing_courseId (by decide), get_pairing_ldapUid (by decide)]

theorem carryPairings_eq (current previous : Sheet .courseInstructors) :
    carryPairings current previous =
      Sheet.enterAll pairingKey (fun found r => found.getD r) current previous.toList :=
  Sheet.foldl_insertNew pairingKey id current previous.toList

theorem Paired.carryPairings (hcurrent : Paired current) (previous : Sheet .courseInstructors) :
    Paired (carryPairings current previous) := by
  intro x r hr
  rw [carryPairings_eq] at hr
  refine Sheet.of_get?_enterAll (P := fun x r => pairingKey r = x) hcurrent ?_ hr
  intro a _ found hfound
  cases found with
  | none => rfl
  | some there => exact hfound there rfl

theorem carryPairings_again (hcurrent : Paired current) (previous : Sheet .courseInstructors) :
    carryPairings current (carryPairings current previous) = carryPairings current previous := by
  refine Sheet.foldl_insertNew_of_grown ?_ ?_ ?_ (hcurrent.carryPairings previous)
  · rw [carryPairings_eq, Sheet.name_enterAll]
  · show _ <+: (Publication.carryPairings current previous).entries.map Prod.fst
    rw [entries_carryPairings, List.map_append]
    exact List.prefix_append _ _
  · intro x r hr
    show (Publication.carryPairings current previous).entries.lookup x = some r
    rw [entries_carryPairings, List.lookup_append]
    exact Option.or_eq_some_iff.2 (.inl hr)

end Pairings

/-! ## Instructors -/

section Instructors

variable {pairings : Sheet .courseInstructors} {current : Sheet .instructors}

theorem keyedBy_instructorsOf (role : String) (rows : List (Row .sisImport)) :
    (instructorsOf role rows).KeyedBy .ldapUid := by
  have hentered : instructorsOf role rows =
      (taught rows).foldl (fun s r => enterOrFill s (instructorUid r) (instructorOf role r)) {} := rfl
  rw [hentered, Sheet.foldl_enterOrFill]
  exact (Sheet.keyedBy_empty .ldapUid).completed fun r _ => get_instructorOf_ldapUid role r

/-- A record of the term before has the campus ID that it was looked up by. -/
theorem get_record?_ldapUid {prior : Row .instructors} (hprior : previous.record? uid = some prior) :
    prior.get .ldapUid = uid :=
  of_decide_eq_true (List.mem_filter.1 (List.mem_of_head? hprior)).2

theorem keyedBy_carryInstructors (hcurrent : current.KeyedBy .ldapUid) (pairings : Sheet .courseInstructors)
    (previous : PreviousTerm) : (carryInstructors pairings previous.instructors current).KeyedBy .ldapUid := by
  rw [carryInstructors_eq]
  apply hcurrent.completed
  intro a ha
  obtain ⟨uid, -, hrecord⟩ := List.mem_filterMap.1 ha
  obtain ⟨prior, hprior, rfl⟩ := Option.map_eq_some_iff.1 hrecord
  exact get_record?_ldapUid hprior

/-- Where instructors stand under their campus IDs, their records are found there. -/
theorem record?_of_keyedBy (hkeyed : previous.instructors.KeyedBy .ldapUid) (uid : String) :
    previous.record? uid = previous.instructors.get? uid := by
  rw [PreviousTerm.record?, Sheet.matching_of_keyedBy hkeyed]
  cases previous.instructors.get? uid <;> rfl

/-- Instructors with what they, as the instructors of the term before, know about those that pairings refer to. -/
theorem get?_carryInstructors_again (hcurrent : current.KeyedBy .ldapUid) (pairings : Sheet .courseInstructors)
    (previous : PreviousTerm) (uid : String) :
    (carryInstructors pairings (carryInstructors pairings previous.instructors current) current).get? uid =
      (carryInstructors pairings previous.instructors current).get? uid := by
  let again : PreviousTerm := ⟨pairings, carryInstructors pairings previous.instructors current⟩
  have hrecord : again.record? uid = again.instructors.get? uid :=
    record?_of_keyedBy (keyedBy_carryInstructors hcurrent pairings previous) uid
  rw [get?_carryInstructors pairings again current, carriedRecord?, hrecord]
  split
  · rw [get?_carryInstructors]
    -- what was completed or carried over is not completed again
    cases current.get? uid with
    | none => cases carriedRecord? pairings previous uid <;> rfl
    | some r =>
      cases carriedRecord? pairings previous uid with
      | none => exact congrArg some r.fillFrom_self
      | some prior => exact congrArg some (r.fillFrom_fillFrom prior)
  · rename_i hout
    rw [get?_carryInstructors, carriedRecord?, if_neg hout]

theorem map_fst_records (pairings : Sheet .courseInstructors) (previous : PreviousTerm) :
    (records pairings previous).map Prod.fst =
      (referenced pairings).filter fun uid => (previous.record? uid).isSome := by
  rw [records, List.map_filterMap, ← List.filterMap_eq_filter]
  refine List.filterMap_congr fun uid _ => ?_
  cases hrecord : previous.record? uid <;> simp [Option.guard, hrecord]

/-- The people who are added are those without a current record who have one in the term before. -/
theorem keys_carryInstructors (pairings : Sheet .courseInstructors) (previous : PreviousTerm)
    (current : Sheet .instructors) :
    (carryInstructors pairings previous.instructors current).rows.keys =
      current.rows.keys ++ (referenced pairings).filter fun uid =>
        decide (uid ∉ current.rows.keys) && (previous.record? uid).isSome := by
  have hkeys : current.rows.keys.Nodup := current.rows.nodup_keys
  rw [carryInstructors_eq, Sheet.keys_enterAll, map_fst_records, distinct_append, List.filter_filter,
    distinct_of_nodup hkeys, distinct_of_nodup ((nodup_referenced pairings).filter _)]

theorem keys_carryInstructors_again (hcurrent : current.KeyedBy .ldapUid) (pairings : Sheet .courseInstructors)
    (previous : PreviousTerm) :
    (carryInstructors pairings (carryInstructors pairings previous.instructors current) current).rows.keys =
      (carryInstructors pairings previous.instructors current).rows.keys := by
  let again : PreviousTerm := ⟨pairings, carryInstructors pairings previous.instructors current⟩
  rw [keys_carryInstructors pairings again, keys_carryInstructors]
  congr 1
  refine List.filter_congr fun uid huid => ?_
  by_cases hthere : uid ∈ current.rows.keys
  · rw [decide_eq_false (not_not_intro hthere), Bool.false_and, Bool.false_and]
  · have hnone : current.get? uid = none := lookup_eq_none hthere
    rw [record?_of_keyedBy (keyedBy_carryInstructors hcurrent pairings previous), get?_carryInstructors, hnone,
      carriedRecord?, if_pos (mem_referenced_iff.1 huid)]
    cases previous.record? uid <;> rfl

theorem carryInstructors_again (hcurrent : current.KeyedBy .ldapUid) (pairings : Sheet .courseInstructors)
    (previous : PreviousTerm) :
    carryInstructors pairings (carryInstructors pairings previous.instructors current) current =
      carryInstructors pairings previous.instructors current := by
  let again : PreviousTerm := ⟨pairings, carryInstructors pairings previous.instructors current⟩
  refine Sheet.eq_of_rows (Keyed.eq_of_get? (keys_carryInstructors_again hcurrent pairings previous)
    (get?_carryInstructors_again hcurrent pairings previous)) ?_
  rw [carryInstructors_eq pairings again, carryInstructors_eq, Sheet.name_enterAll, Sheet.name_enterAll]

end Instructors

/-! ## The whole -/

/-- A publication as it is before the term before is looked at: pairings tell their keys, and instructors stand under
their campus IDs. -/
structure IsFresh (p : Publication) : Prop where
  paired : Paired p.courseInstructors
  keyed : p.instructors.KeyedBy .ldapUid

theorem isFresh_ofRows (rows : List (Row .sisImport)) (supervisors : Sheet .supervisors)
    (options : PublicationOptions) : IsFresh (ofRows rows supervisors options) where
  paired := paired_courseInstructorsOf rows
  keyed := keyedBy_instructorsOf options.role rows

/-- A publication whose gaps are filled passes on nothing that fills a gap of it. -/
theorem carryOver_again {p : Publication} (hp : IsFresh p) (previous : PreviousTerm) :
    p.carryOver (p.carryOver previous).asPrevious = p.carryOver previous := by
  have hpairings : carryPairings p.courseInstructors (p.carryOver previous).courseInstructors =
      (p.carryOver previous).courseInstructors := carryPairings_again hp.paired previous.pairings
  have hinstructors : carryInstructors (p.carryOver previous).courseInstructors (p.carryOver previous).instructors
      p.instructors = (p.carryOver previous).instructors := carryInstructors_again hp.keyed _ previous
  rw [carryOver]
  dsimp only [asPrevious]
  rw [hpairings, hinstructors]
  rfl

/-- An empty term before fills no gap. -/
theorem carryOver_empty (p : Publication) : p.carryOver {} = p := by
  have hinstructors : carryInstructors p.courseInstructors {} p.instructors = p.instructors := by
    rw [carryInstructors]
    induction referenced p.courseInstructors with
    | nil => rfl
    | cons uid rest ih => exact ih
  exact congrArg (fun instructors => { p with instructors }) hinstructors

theorem carried_again {p : Publication} (hp : IsFresh p) (previous : Option PreviousTerm) :
    p.carryOver (p.carried previous).asPrevious = p.carried previous := by
  cases previous with
  | none =>
    have hagain := carryOver_again hp {}
    rw [carryOver_empty] at hagain
    exact hagain
  | some previous => exact carryOver_again hp previous

/-- **Publishing again gives the same publication.** Whatever the source replies, with or without a term before, a
publication is built; and where the source replies the same again, building it with its own pairings and instructors as
the term before gives the same sheets, with the same keys and rows in the same order. -/
theorem build_again (merged : Sheet .sisImport) (supervisors : Sheet .supervisors) (previous : Option PreviousTerm)
    (options : PublicationOptions) (reply : Except String (List Enrollment)) {s t : σ}
    (hreply : Replies h s options.term (sections (coursesOf (evaluated merged))) reply)
    (hagain : Replies h t options.term (sections (coursesOf (evaluated merged))) reply) :
    ∃ p, ((build merged supervisors previous options).run h s).result = .ok p ∧
      ((build merged supervisors (some p.asPrevious) options).run h t).result = .ok p := by
  obtain ⟨s', hfirst⟩ := yields_build supervisors previous hreply
  refine ⟨_, hfirst.result, ?_⟩
  obtain ⟨t', hsecond⟩ := yields_build supervisors
    (some (((ofRows (evaluated merged) supervisors options).carried previous).attended (answered reply)).asPrevious)
    hagain
  -- the enrollments are no part of what is passed on
  have hcarried := carried_again (isFresh_ofRows (evaluated merged) supervisors options) previous
  rw [hsecond.result]
  exact congrArg (fun p => Except.ok (attended p (answered reply))) hcarried

/-- A current instructor was given a last name and another one came with a pairing of the term before; when all this is
passed on, neither is given anything more, and the student of the course is found again. -/
theorem build_again_completed :
    let row : Row .sisImport :=
      .ofPairs _ [(.courseId, "2015-B-34821"), (.ldapUid, "300"), (.firstName, "Ann"), (.evaluate, "Y")]
    let merged : Sheet .sisImport := .ofRows _ [row]
    let previous : PreviousTerm := {
      pairings := .ofRows _ [pairing _ "2014-D-11111" "400"]
      instructors := .ofRows _
        [.ofPairs _ [(.ldapUid, "300"), (.firstName, "Old"), (.lastName, "Zed")], .ofPairs _ [(.ldapUid, "400")]] }
    let student : Enrollment := { ccn := "34821", uid := "200" }
    let world : World := { now := .sinceEpoch 0 0, campus := { enrollments := [student], unfiltered := true } }
    let options : PublicationOptions := ⟨"2015-B", "Campus", "23"⟩
    let ccns := sections (coursesOf (evaluated merged))
    let asked := world.noteCampus (.enrollments "2015-B" ccns)
    Replies World.handler world "2015-B" ccns (.ok [student]) ∧
      Replies World.handler asked "2015-B" ccns (.ok [student]) ∧
      ∃ p, ((build merged {} (some previous) options).run World.handler world).result = .ok p ∧
        ((build merged {} (some p.asPrevious) options).run World.handler asked).result = .ok p ∧
        p.courseInstructors.rows.keys = ["2015-B-34821-300", "2014-D-11111-400"] ∧
        (p.instructors.get? "300").map (fun r => (r.get .firstName, r.get .lastName)) = some ("Ann", "Zed") ∧
        (p.instructors.get? "400").isSome = true := by
  intro row merged previous student world options ccns asked
  have hreply : Replies World.handler world "2015-B" ccns (.ok [student]) := replies_memory world _ ccns
  have hagain : Replies World.handler asked "2015-B" ccns (.ok [student]) := replies_memory asked _ ccns
  obtain ⟨p, hfirst, hsecond⟩ := build_again merged {} (some previous) options (.ok [student]) hreply hagain
  obtain ⟨t, ht⟩ : ∃ t, (build merged {} (some previous) options).Yields World.handler world _ t :=
    yields_build {} (some previous) hreply
  obtain rfl : p = _ := Except.ok.inj (hfirst.symm.trans ht.result)
  have hevaluated : evaluated merged = [row] := (evaluated_ofRows (by decide +kernel)).trans (by decide +kernel)
  have hinstructors : ∀ uid, ((((ofRows (evaluated merged) {} options).carried (some previous)).attended
      (answered (.ok [student]))).instructors.get? uid) =
        ((instructorsOf "23" [row]).get? uid).merge Row.fillFrom
          (carriedRecord? (carryPairings (courseInstructorsOf [row]) previous.pairings) previous uid) := by
    intro uid
    rw [← hevaluated]
    exact get?_carryInstructors _ previous _ uid
  refine ⟨hreply, hagain, _, hfirst, hsecond, ?_, ?_, ?_⟩
  · show ((carryPairings (courseInstructorsOf (evaluated merged)) previous.pairings).rows.keys) = _
    rw [hevaluated]
    decide +kernel
  · rw [hinstructors]
    decide +kernel
  · rw [hinstructors]
    decide +kernel

end Registrar.Publication

import Mathlib.Data.List.Induction
import Registrar.Evaluation.Backfill
import Registrar.Proofs.Batches
import Registrar.Proofs.Sheet.Row
import Registrar.Proofs.Text.Blank
import Registrar.Proofs.World.Lookup
import Registrar.Proofs.World.Yields

/-!
# What the back-fill fills in

Against a source that answers, a back-fill is a map over the rows with the SIS IDs that it has learnt, and it counts the
rows that take one (`yields_run_counted`, `yields_run`). From a source that serves a feed, it has learnt for each campus
ID of an answered lookup the SIS ID of the last person with that ID in the feed, and nothing for the others
(`yields_lookups_of_feed`): a campus ID is asked for in one batch, and the reply has everyone with it. So where no
lookup is refused, what is filled in depends on the row and the feed alone, not on batches or on the other rows
(`yields_run_of_feed`).
-/

namespace Registrar.Backfill

variable {σ : Type} {h : Handler services σ} {feed : List Person} {ids : Keyed String} {uids : List String}
  {uid : String} {rows : List (Row .sisImport)} {r : Row .sisImport}

/-! ## Learning from people -/

/-- The SIS ID that a feed gives a campus ID: that of the last person who has it. -/
def sisIdIn? (feed : List Person) (uid : String) : Option String :=
  ((feed.filter fun p => Text.trim p.uid = uid).getLast?).map Person.sisId

theorem sisIdIn?_append_singleton (feed : List Person) (p : Person) (uid : String) :
    sisIdIn? (feed ++ [p]) uid = if Text.trim p.uid = uid then some p.sisId else sisIdIn? feed uid := by
  rw [sisIdIn?, List.filter_append]
  by_cases hp : Text.trim p.uid = uid
  · simp [hp]
  · simp [hp, sisIdIn?]

theorem get?_learn (ids : Keyed String) (people : List Person) (uid : String) :
    (learn ids people).get? uid = (sisIdIn? people uid).or (ids.get? uid) := by
  induction people using List.reverseRecOn with
  | nil => rfl
  | append_singleton people p ih =>
    have hlearn : learn ids (people ++ [p]) = (learn ids people).insert (Text.trim p.uid) p.sisId := by
      rw [learn, List.map_append, Keyed.insertAll, List.foldl_append]
      rfl
    rw [hlearn, Keyed.get?_insert, ih, sisIdIn?_append_singleton]
    by_cases hp : Text.trim p.uid = uid
    · rw [if_pos hp.symm, if_pos hp, Option.some_or]
    · rw [if_neg fun h => hp h.symm, if_neg hp]

/-- A reply tells of the campus IDs that were asked for what the feed tells. -/
theorem sisIdIn?_peopleAmong (feed : List Person) (uids : List String) (uid : String) :
    sisIdIn? (peopleAmong feed uids) uid = if uid ∈ uids then sisIdIn? feed uid else none := by
  rw [sisIdIn?, peopleAmong, List.filter_filter]
  by_cases hu : uid ∈ uids
  · rw [if_pos hu, sisIdIn?]
    congr 3
    funext p
    by_cases hp : Text.trim p.uid = uid <;> simp [hp, hu]
  · rw [if_neg hu, List.filter_eq_nil_iff.2, List.getLast?_nil, Option.map_none]
    intro p _
    by_cases hp : Text.trim p.uid = uid <;> simp [hp, hu]

/-! ## Lookups -/

theorem yields_lookupStep_answered {people : List Person} {s s' : σ}
    (hl : lookup h uids s = (.ok (.ok people), s')) (ids : Keyed String) :
    (lookupStep ids uids).Yields h s (learn ids people) s' :=
  .bind (Program.yields_ask hl) (Program.yields_pure _ _ _)

theorem yields_lookupStep_refused {reason : String} {s s' : σ}
    (hl : lookup h uids s = (.ok (.error reason), s')) (ids : Keyed String) :
    (lookupStep ids uids).Yields h s ids s' :=
  .bind (Program.yields_ask hl) (.bind (Program.yields_log _ _ _) (Program.yields_pure _ _ _))

theorem yields_lookups (hh : AnswersLookups h) (bs : List (List String)) (ids : Keyed String) (s : σ) :
    ∃ ids' t, (Program.foldList lookupStep ids bs).Yields h s ids' t := by
  induction bs generalizing ids s with
  | nil => exact ⟨ids, s, Program.yields_foldList_nil _ _ _ _⟩
  | cons uids rest ih =>
    obtain ⟨reply, hr⟩ := hh uids s
    cases reply with
    | ok people =>
      obtain ⟨ids', t, ht⟩ := ih (learn ids people) (lookup h uids s).2
      exact ⟨ids', t, .foldList (yields_lookupStep_answered (Prod.ext hr rfl) ids) ht⟩
    | error reason =>
      obtain ⟨ids', t, ht⟩ := ih ids (lookup h uids s).2
      exact ⟨ids', t, .foldList (yields_lookupStep_refused (Prod.ext hr rfl) ids) ht⟩

/-- The campus IDs of the batches whose lookup is answered. -/
def answeredIds (h : Handler services σ) : σ → List (List String) → List String
  | _, [] => []
  | s, uids :: rest =>
    match lookup h uids s with
    | (.ok (.ok _), s') => uids ++ answeredIds h s' rest
    | (_, s') => answeredIds h s' rest

theorem answeredIds_of_neverRefuses (hn : NeverRefuses h) (s : σ) (bs : List (List String)) :
    answeredIds h s bs = bs.flatten := by
  induction bs generalizing s with
  | nil => rfl
  | cons uids rest ih =>
    obtain ⟨people, hp⟩ := hn uids s
    have hl : lookup h uids s = (.ok (.ok people), (lookup h uids s).2) := Prod.ext hp rfl
    rw [answeredIds, hl, List.flatten_cons, ← ih (lookup h uids s).2]

/-- The lookups learn what the feed tells of the campus IDs that are answered. -/
theorem yields_lookups_of_feed (hf : ServesFeed h feed) (bs : List (List String)) (ids : Keyed String) (s : σ) :
    ∃ ids' t, (Program.foldList lookupStep ids bs).Yields h s ids' t ∧
      ∀ uid, ids'.get? uid =
        if uid ∈ answeredIds h s bs then (sisIdIn? feed uid).or (ids.get? uid) else ids.get? uid := by
  induction bs generalizing ids s with
  | nil => exact ⟨ids, s, Program.yields_foldList_nil _ _ _ _, fun _ => rfl⟩
  | cons uids rest ih =>
    rcases hf uids s with ⟨reason, hr⟩ | ha
    · have hl : lookup h uids s = (.ok (.error reason), (lookup h uids s).2) := Prod.ext hr rfl
      obtain ⟨ids', t, ht, hget⟩ := ih ids (lookup h uids s).2
      refine ⟨ids', t, .foldList (yields_lookupStep_refused hl ids) ht, fun uid => ?_⟩
      rw [hget, answeredIds, hl]
    · have hl : lookup h uids s = (.ok (.ok (peopleAmong feed uids)), (lookup h uids s).2) := Prod.ext ha rfl
      obtain ⟨ids', t, ht, hget⟩ := ih (learn ids (peopleAmong feed uids)) (lookup h uids s).2
      refine ⟨ids', t, .foldList (yields_lookupStep_answered hl ids) ht, fun uid => ?_⟩
      rw [hget, get?_learn, sisIdIn?_peopleAmong, answeredIds, hl]
      dsimp only
      by_cases hu : uid ∈ uids <;> by_cases hrest : uid ∈ answeredIds h (lookup h uids s).2 rest <;>
        cases sisIdIn? feed uid <;> simp [hu, hrest]

/-! ## Filling in -/

theorem get_fill_of_ne (ids : Keyed String) (r : Row .sisImport) {c : Column} (hc : c ≠ .sisId) :
    (fill ids r).get c = r.get c := by
  unfold fill
  split
  · exact Row.get_set_of_ne _ _ hc
  · rfl

theorem filling?_empty (r : Row .sisImport) : filling? Keyed.empty r = none := by
  unfold filling?
  split <;> rfl

theorem fill_empty (r : Row .sisImport) : fill Keyed.empty r = r := by
  rw [fill, filling?_empty]

/-- Without anything to look up the rows stay, so a back-fill is always a map, and counts the rows that take an ID. -/
theorem yields_run_counted {s t : σ} {batchSize : Nat}
    (ht : (Program.foldList lookupStep Keyed.empty (batches batchSize (missing rows))).Yields h s ids t) :
    (run batchSize rows).Yields h s (rows.map (fill ids), rows.countP fun r => (filling? ids r).isSome) t := by
  unfold run
  dsimp only
  split
  · rename_i hempty
    rw [List.isEmpty_iff.1 hempty, batches] at ht
    obtain ⟨rfl, rfl⟩ := ht.unique (Program.yields_foldList_nil _ _ _ _)
    have hnone : (rows.countP fun r => (filling? Keyed.empty r).isSome) = 0 :=
      List.countP_eq_zero.2 fun r _ => by simp [filling?_empty]
    rw [List.map_congr_left fun r _ => fill_empty r, List.map_id', hnone]
    exact Program.yields_pure _ _ _
  · exact .bind ht (.bind (Program.yields_log _ _ _) (Program.yields_pure _ _ _))

/-- A back-fill is a map over the rows. -/
theorem yields_run (hh : AnswersLookups h) (batchSize : Nat) (rows : List (Row .sisImport)) (s : σ) :
    ∃ ids n t, (run batchSize rows).Yields h s (rows.map (fill ids), n) t := by
  obtain ⟨ids, t, ht⟩ := yields_lookups hh (batches batchSize (missing rows)) Keyed.empty s
  exact ⟨ids, _, t, yields_run_counted ht⟩

/-! ## Filling in from a feed -/

theorem mem_missing_iff :
    uid ∈ missing rows ↔ ∃ r ∈ rows, r.isBlankAt .sisId = true ∧ r.isBlankAt .ldapUid = false ∧ uidOf r = uid := by
  simp [missing, mem_distinct, and_assoc]

/-- A row without a campus ID is not looked up, also where other rows are. -/
theorem uidOf_mem_missing_iff (hr : r ∈ rows) (hs : r.isBlankAt .sisId = true) :
    uidOf r ∈ missing rows ↔ r.isBlankAt .ldapUid = false := by
  rw [mem_missing_iff]
  constructor
  · rintro ⟨r', -, -, hblank, hu⟩
    rw [Row.isBlankAt, ← Bool.not_eq_true, ← Text.trim_eq_empty_iff] at hblank ⊢
    exact fun h => hblank (hu.trans h)
  · exact fun hblank => ⟨r, hr, hs, hblank, rfl⟩

/-- The SIS ID that a row takes from a feed, if it lacks one that the feed gives its instructor. -/
def supply? (feed : List Person) (r : Row .sisImport) : Option String :=
  if r.isBlankAt .sisId && !r.isBlankAt .ldapUid then sisIdIn? feed (uidOf r) else none

/-- The row with its SIS ID filled in from a feed. -/
def supply (feed : List Person) (r : Row .sisImport) : Row .sisImport :=
  match supply? feed r with
  | some id => r.set .sisId id
  | none => r

theorem filling?_eq_supply? (hr : r ∈ rows)
    (hget : ∀ uid, ids.get? uid = if uid ∈ missing rows then sisIdIn? feed uid else none) :
    filling? ids r = supply? feed r := by
  unfold filling? supply?
  cases hs : r.isBlankAt .sisId with
  | false => rfl
  | true =>
    rw [if_pos rfl, hget, Bool.true_and]
    cases hu : r.isBlankAt .ldapUid with
    | false => exact if_pos ((uidOf_mem_missing_iff hr hs).2 hu)
    | true =>
      refine if_neg fun hmem => ?_
      rw [(uidOf_mem_missing_iff hr hs).1 hmem] at hu
      cases hu

theorem fill_eq_supply (hr : r ∈ rows)
    (hget : ∀ uid, ids.get? uid = if uid ∈ missing rows then sisIdIn? feed uid else none) :
    fill ids r = supply feed r := by
  unfold fill supply
  cases hs : supply? feed r <;> rw [(filling?_eq_supply? hr hget).trans hs]

/-- Where no lookup is refused, a back-fill is a map over the rows that depends on the feed alone. -/
theorem yields_run_of_feed (hf : ServesFeed h feed) (hn : NeverRefuses h) (batchSize : Nat)
    (rows : List (Row .sisImport)) (s : σ) :
    ∃ n t, (run batchSize rows).Yields h s (rows.map (supply feed), n) t := by
  obtain ⟨ids, t, ht, hget⟩ := yields_lookups_of_feed hf (batches batchSize (missing rows)) Keyed.empty s
  rw [answeredIds_of_neverRefuses hn, flatten_batches] at hget
  have hlearnt : ∀ uid, ids.get? uid = if uid ∈ missing rows then sisIdIn? feed uid else none := by
    intro uid
    rw [hget, Keyed.get?_empty, Option.or_none]
  rw [← List.map_congr_left fun r hr => fill_eq_supply hr hlearnt]
  exact ⟨_, t, yields_run_counted ht⟩

end Registrar.Backfill

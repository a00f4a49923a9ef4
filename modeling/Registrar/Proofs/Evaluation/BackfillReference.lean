import Mathlib.Data.List.Forall2
import Registrar.Proofs.Evaluation.Backfill
import Registrar.Proofs.World.Exchanges

/-!
# A back-fill and its reference

What a back-fill has to do can be said without batches, row by row: a row without a SIS ID takes the one that the feed
gives its campus ID, provided that this ID was in a query that was answered (`taking?`). A run does this
(`run_reference`). Its queries ask for the campus IDs of the rows without a SIS ID, each once and in the order of the
rows (`exchanges_run`), and what it has learnt from the answers is what the feed tells of the IDs in them. Where no
query is refused, the result is a function of the rows and the feed.
-/

namespace Registrar.Backfill

open Program

variable {σ : Type} {h : Handler services σ} {feed : List Person} {ids : Keyed String} {uids : List String}
  {rows : List (Row .sisImport)} {r : Row .sisImport} {batchSize : Nat} {s s' t : σ}

/-! ## What a run asks -/

/-- The campus IDs of the rows without a SIS ID, in row order; blank ones are left out. -/
def wanted (rows : List (Row .sisImport)) : List String :=
  ((rows.filter fun r => r.isBlankAt .sisId).map uidOf).filter fun uid => uid ≠ ""

theorem missing_eq_distinct (rows : List (Row .sisImport)) : missing rows = distinct (wanted rows) := by
  rw [missing, wanted, List.filter_map, List.filter_filter]
  refine congrArg (fun rows => distinct (rows.map uidOf)) (List.filter_congr fun r _ => ?_)
  have hblank : uidOf r = "" ↔ r.isBlankAt .ldapUid = true := Text.trim_eq_empty_iff
  cases hu : r.isBlankAt .ldapUid <;> simp [hblank, hu]

/-- The campus IDs of a query that was answered with people. -/
def answeredBy : Exchange services → List String
  | ⟨.people uids, .ok _⟩ => uids
  | _ => []

/-- The campus IDs in the queries that were answered with people. -/
def answeredIn (exchanges : List (Exchange services)) : List String := exchanges.flatMap answeredBy

/-- The exchange is a query for people that was refused. -/
def IsRefusal (e : Exchange services) : Prop := ∃ uids reason, e = ⟨.people uids, .error reason⟩

/-- Where no query is refused, all campus IDs asked for are answered. -/
theorem answeredIn_of_not_refused {exchanges : List (Exchange services)} {queries : List (List String)}
    (hcalls : exchanges.map Exchange.call = queries.map Service.people) (hnot : ∀ e ∈ exchanges, ¬ IsRefusal e) :
    answeredIn exchanges = queries.flatten := by
  induction exchanges generalizing queries with
  | nil =>
    rw [List.map_eq_nil_iff.1 hcalls.symm]
    rfl
  | cons e rest ih =>
    cases queries with
    | nil => cases hcalls
    | cons q queries =>
      obtain ⟨hcall, hrest⟩ := List.cons.inj hcalls
      obtain ⟨call, reply⟩ := e
      obtain rfl : call = .people q := hcall
      rw [answeredIn, List.flatMap_cons, List.flatten_cons,
        ← ih hrest fun e he => hnot e (List.mem_cons_of_mem _ he), answeredIn]
      cases reply with
      | ok people => rfl
      | error reason => exact absurd ⟨q, reason, rfl⟩ (hnot _ List.mem_cons_self)

theorem exchanges_lookupStep {reply : Except String (List Person)} (hl : lookup h uids s = (.ok reply, s'))
    (ids : Keyed String) : (lookupStep ids uids).exchanges h s = [⟨.people uids, reply⟩] := by
  refine (exchanges_ask_bind (yields_ask hl)).trans ?_
  cases reply <;> rfl

/-- Each batch is one query. -/
theorem exchanges_lookups (hh : AnswersLookups h) (bs : List (List String)) (ids : Keyed String) (s : σ) :
    ((foldList lookupStep ids bs).exchanges h s).map Exchange.call = bs.map Service.people ∧
      answeredIn ((foldList lookupStep ids bs).exchanges h s) = answeredIds h s bs := by
  induction bs generalizing ids s with
  | nil => exact ⟨rfl, rfl⟩
  | cons uids rest ih =>
    obtain ⟨reply, hr⟩ := hh uids s
    have hl : lookup h uids s = (.ok reply, (lookup h uids s).2) := Prod.ext hr rfl
    obtain ⟨ids', hstep⟩ : ∃ ids', (lookupStep ids uids).Yields h s ids' (lookup h uids s).2 := by
      cases reply with
      | ok people => exact ⟨_, yields_lookupStep_answered hl ids⟩
      | error reason => exact ⟨_, yields_lookupStep_refused hl ids⟩
    have hexchanges : (foldList lookupStep ids (uids :: rest)).exchanges h s =
        ⟨.people uids, reply⟩ :: (foldList lookupStep ids' rest).exchanges h (lookup h uids s).2 := by
      refine hstep.exchanges_bind.trans ?_
      rw [exchanges_lookupStep hl ids]
      rfl
    obtain ⟨hcalls, hanswered⟩ := ih ids' (lookup h uids s).2
    rw [hexchanges, List.map_cons, hcalls, answeredIn, List.flatMap_cons, ← answeredIn, hanswered, answeredIds, hl]
    refine ⟨rfl, ?_⟩
    cases reply <;> rfl

/-- A run asks what its lookups ask. -/
theorem exchanges_run (ht : (foldList lookupStep Keyed.empty (batches batchSize (missing rows))).Yields h s ids t) :
    (run batchSize rows).exchanges h s =
      (foldList lookupStep Keyed.empty (batches batchSize (missing rows))).exchanges h s := by
  unfold run
  dsimp only
  split
  · rename_i hempty
    rw [List.isEmpty_iff.1 hempty, batches]
    rfl
  · rw [ht.exchanges_bind]
    exact List.append_nil _

/-! ## What a run fills in -/

/-- The SIS ID that a row takes: where it has none and its campus ID was answered, the one that the feed gives. -/
def taking? (feed : List Person) (answered : List String) (r : Row .sisImport) : Option String :=
  if r.isBlankAt .sisId ∧ uidOf r ∈ answered then sisIdIn? feed (uidOf r) else none

/-- The row has taken the SIS ID that it takes, if any, and has all other cells as before. -/
structure FilledFrom (feed : List Person) (answered : List String) (r r' : Row .sisImport) : Prop where
  sisId : r'.get .sisId = (taking? feed answered r).getD (r.get .sisId)
  others : ∀ c, c ≠ .sisId → r'.get c = r.get c

/-- What a run does to rows: every row takes its SIS ID, and the rows that take one are counted. -/
structure FillsIn (feed : List Person) (answered : List String) (rows : List (Row .sisImport))
    (result : List (Row .sisImport) × Nat) : Prop where
  cells : List.Forall₂ (FilledFrom feed answered) rows result.1
  count : result.2 = rows.countP fun r => (taking? feed answered r).isSome

theorem filling?_eq_taking? {answered : List String}
    (hget : ∀ uid, ids.get? uid = if uid ∈ answered then sisIdIn? feed uid else none) (r : Row .sisImport) :
    filling? ids r = taking? feed answered r := by
  rw [filling?, taking?, hget]
  by_cases hs : r.isBlankAt .sisId = true <;> simp [hs]

theorem filledFrom_fill {answered : List String}
    (hget : ∀ uid, ids.get? uid = if uid ∈ answered then sisIdIn? feed uid else none) (r : Row .sisImport) :
    FilledFrom feed answered r (fill ids r) where
  sisId := by
    rw [fill, filling?_eq_taking? hget]
    cases taking? feed answered r with
    | none => rfl
    | some id => exact Row.get_set_self _ _ (by decide)
  others := fun _ hc => get_fill_of_ne ids r hc

/-- The queries of a run: they ask for the campus IDs that are wanted, in the order in which they first come and each
once, and none is empty or too long. -/
structure Queries (batchSize : Nat) (rows : List (Row .sisImport)) (queries : List (List String)) : Prop where
  asked : FirstAppearances (wanted rows) queries.flatten
  once : queries.flatten.Nodup
  sizes : ∀ q ∈ queries, q ≠ [] ∧ q.length ≤ max 1 batchSize

/-- **A back-fill equals the reference without batches.** Let the campus source serve a feed, refusing what it likes.
The calls of a run are queries for people that ask for the distinct campus IDs of the rows without a SIS ID, blank ones
left out, in the order in which they first come, at most `max 1 batchSize` at a time. The run ends. Those rows without a
SIS ID whose campus ID was in an answered query take the SIS ID of the last person of the feed who has it, if there is
one; all other cells stay, and the rows that took an ID are counted. If no query was refused, the outcome is one that
the rows and the feed determine, whatever the size of the batches. -/
theorem run_reference (hf : ServesFeed h feed) (batchSize : Nat) (rows : List (Row .sisImport)) (s : σ) :
    let exchanges := (run batchSize rows).exchanges h s
    (∃ queries, exchanges.map Exchange.call = queries.map Service.people ∧ Queries batchSize rows queries) ∧
      ∃ result t, (run batchSize rows).Yields h s result t ∧ FillsIn feed (answeredIn exchanges) rows result ∧
        ((∀ e ∈ exchanges, ¬ IsRefusal e) →
          result = (rows.map (supply feed), rows.countP fun r => (supply? feed r).isSome)) := by
  intro exchanges
  have hh : AnswersLookups h := fun uids s => (hf uids s).elim (fun ⟨_, hr⟩ => ⟨_, hr⟩) fun ha => ⟨_, ha⟩
  obtain ⟨ids, t, ht, hget⟩ := yields_lookups_of_feed hf (batches batchSize (missing rows)) Keyed.empty s
  obtain ⟨hcalls, hanswered⟩ := exchanges_lookups hh (batches batchSize (missing rows)) Keyed.empty s
  rw [← exchanges_run ht] at hcalls hanswered
  have hlearnt : ∀ uid, ids.get? uid = if uid ∈ answeredIn exchanges then sisIdIn? feed uid else none := fun uid => by
    rw [hget, hanswered, Keyed.get?_empty, Option.or_none]
  have hasked : FirstAppearances (wanted rows) (batches batchSize (missing rows)).flatten := by
    rw [flatten_batches, missing_eq_distinct]
    exact firstAppearances_distinct _
  refine ⟨⟨_, hcalls, hasked, hasked.nodup, fun q hq => mem_batches hq⟩, _, t, yields_run_counted ht, ⟨?_, ?_⟩,
    fun hnot => ?_⟩
  · exact List.forall₂_map_right_iff.2 (List.forall₂_same.2 fun r _ => filledFrom_fill hlearnt r)
  · simp only [filling?_eq_taking? hlearnt]
  · rw [answeredIn_of_not_refused hcalls hnot, flatten_batches] at hlearnt
    have hcount : (rows.countP fun r => (filling? ids r).isSome) = rows.countP fun r => (supply? feed r).isSome :=
      List.countP_congr fun r hr => by rw [filling?_eq_supply? hr hlearnt]
    rw [List.map_congr_left fun r hr => fill_eq_supply hr hlearnt, hcount]

/-- Four campus IDs are looked up in twos, and the second query is refused. The feed has the first instructor twice, and
does not have the second. -/
theorem run_reference_refused :
    let feed : List Person := [{ uid := "100" }, { uid := " 100", studentId := some "77", student := true },
      { uid := "300" }, { uid := "" }]
    let source := countingLookups feed fun n => n == 1
    let row (uid sisId : String) : Row .sisImport := .ofPairs _ [(.ldapUid, uid), (.sisId, sisId)]
    let rows := [row "100" "", row "200" " ", row "300" "", row " 100" "", row "400" "88", row " " "", row "500" ""]
    let exchanges := (run 2 rows).exchanges source 0
    ServesFeed source feed ∧ answeredIn exchanges = ["100", "200"] ∧
      (∃ queries, exchanges.map Exchange.call = queries.map Service.people ∧ Queries 2 rows queries) ∧
      ∃ result t, (run 2 rows).Yields source 0 result t ∧ FillsIn feed (answeredIn exchanges) rows result ∧
        result = ([row "100" "77", row "200" " ", row "300" "", row " 100" "77", row "400" "88", row " " "",
          row "500" ""], 2) := by
  intro feed source row rows exchanges
  have hf : ServesFeed source feed := servesFeed_countingLookups feed _
  obtain ⟨hqueries, result, t, hy, hfills, -⟩ := run_reference hf 2 rows 0
  have hresult : (run 2 rows).Yields source 0 ([row "100" "77", row "200" " ", row "300" "", row " 100" "77",
      row "400" "88", row " " "", row "500" ""], 2) 2 := ⟨by decide +kernel, by decide +kernel⟩
  exact ⟨hf, by decide +kernel, hqueries, result, t, hy, hfills, (hy.unique hresult).1⟩

end Registrar.Backfill

import Registrar.Directory.Run
import Registrar.Proofs.Batches
import Registrar.Proofs.Directory.Take
import Registrar.Proofs.World.Lookup
import Registrar.Proofs.World.Yields

/-!
# Batches do not matter

Where a campus source serves a feed, the campus IDs of a batch hold those of all its accounts, so judging a batch
against the reply is judging it against the whole feed (`takeAll_peopleAmong`). A run in batches therefore ends like one
judgement after the other over the accounts whose lookup was answered (`reconcile_eq_takeAll`).
-/

namespace Registrar

open Reconciliation

variable {σ τ : Type} {policy : SyncPolicy} {feed : List Person} {h : Handler services σ} {s s' : σ}
  {r : Reconciliation} {accounts : List (Row .provisionedUsers)}

/-! ## Lookups -/

/-- The campus IDs that a batch asks for. -/
def idsOf (batch : List (Row .provisionedUsers)) : List String :=
  batch.map fun account => CampusLogin.bare (account.get .loginId)

/-- The batches whose lookup is answered. -/
def answered (h : Handler services σ) : σ → List (List (Row .provisionedUsers)) → List (List (Row .provisionedUsers))
  | _, [] => []
  | s, batch :: rest =>
    match lookup h (idsOf batch) s with
    | (.ok (.ok _), s') => batch :: answered h s' rest
    | (_, s') => answered h s' rest

/-! ## Judging against a part of the feed -/

theorem findPerson_peopleAmong {uids : List String} {uid : String} (hu : uid ∈ uids) :
    findPerson (peopleAmong feed uids) uid = findPerson feed uid := by
  unfold findPerson peopleAmong
  rw [List.find?_filter]
  congr 1
  funext p
  by_cases hp : Text.trim p.uid = uid
  · simp [hp, hu]
  · simp [hp]

theorem take_peopleAmong {uids : List String} {account : Row .provisionedUsers}
    (hu : CampusLogin.bare (account.get .loginId) ∈ uids) :
    r.take policy (peopleAmong feed uids) account = r.take policy feed account := by
  unfold take
  split
  · rfl
  · rename_i login hl
    rw [CampusLogin.bare_of_parse? hl] at hu
    have hst : Standing.of policy (peopleAmong feed uids) login.uid = Standing.of policy feed login.uid := by
      unfold Standing.of
      rw [findPerson_peopleAmong hu]
    have hv : Verdict.of policy (peopleAmong feed uids) account login = Verdict.of policy feed account login := by
      unfold Verdict.of
      rw [hst]
    rw [hv]

theorem takeAll_peopleAmong {uids : List String}
    (hu : ∀ account ∈ accounts, CampusLogin.bare (account.get .loginId) ∈ uids) (r : Reconciliation) :
    r.takeAll policy (peopleAmong feed uids) accounts = r.takeAll policy feed accounts := by
  induction accounts generalizing r with
  | nil => rfl
  | cons account rest ih =>
    simp only [takeAll]
    rw [take_peopleAmong (hu account List.mem_cons_self), ih fun a ha => hu a (List.mem_cons_of_mem _ ha)]

/-! ## One batch -/

theorem yields_batch_answered {people : List Person} (hl : lookup h (idsOf accounts) s = (.ok (.ok people), s'))
    (r : Reconciliation) :
    (r.batch policy accounts).Yields h s (.ok (r.takeAll policy people accounts).1) s' :=
  .bind (Program.yields_ask hl) (.bind (Program.yields_logAll _ _ _) (Program.yields_pure _ _ _))

theorem yields_batch_refused {reason : String} (hl : lookup h (idsOf accounts) s = (.ok (.error reason), s'))
    (r : Reconciliation) :
    (r.batch policy accounts).Yields h s (.error (.callFailed .attributesLookup reason)) s' :=
  .bind (Program.yields_ask hl) (Program.yields_pure _ _ _)

/-- An answered batch is judged against the feed. -/
theorem yields_batchStep_answered
    (hl : lookup h (idsOf accounts) s = (.ok (.ok (peopleAmong feed (idsOf accounts))), s'))
    (r : Reconciliation) (skipped : Nat) :
    (SyncRun.batchStep policy (r, skipped) accounts).Yields h s ((r.takeAll policy feed accounts).1, skipped) s' := by
  have hids : ∀ account ∈ accounts, CampusLogin.bare (account.get .loginId) ∈ idsOf accounts :=
    fun account hmem => List.mem_map.2 ⟨account, hmem, rfl⟩
  rw [← takeAll_peopleAmong hids]
  exact .bind (yields_batch_answered hl r) (Program.yields_pure _ _ _)

/-- A refused batch is counted and leaves the reconciliation alone. -/
theorem yields_batchStep_refused {reason : String} (hl : lookup h (idsOf accounts) s = (.ok (.error reason), s'))
    (r : Reconciliation) (skipped : Nat) :
    (SyncRun.batchStep policy (r, skipped) accounts).Yields h s (r, skipped + 1) s' :=
  .bind (yields_batch_refused hl r) (.bind (Program.yields_log _ _ _) (Program.yields_pure _ _ _))

/-! ## All batches -/

theorem answered_cons_answered {batch : List (Row .provisionedUsers)} {people : List Person}
    (hl : lookup h (idsOf batch) s = (.ok (.ok people), s')) (rest : List (List (Row .provisionedUsers))) :
    answered h s (batch :: rest) = batch :: answered h s' rest := by
  rw [answered, hl]

theorem answered_cons_refused {batch : List (Row .provisionedUsers)} {reason : String}
    (hl : lookup h (idsOf batch) s = (.ok (.error reason), s')) (rest : List (List (Row .provisionedUsers))) :
    answered h s (batch :: rest) = answered h s' rest := by
  rw [answered, hl]

theorem length_answered_le (h : Handler services σ) (s : σ) (bs : List (List (Row .provisionedUsers))) :
    (answered h s bs).length ≤ bs.length := by
  induction bs generalizing s with
  | nil => exact Nat.le_refl 0
  | cons batch rest ih =>
    rw [answered]
    split
    · exact Nat.succ_le_succ (ih _)
    · exact Nat.le_succ_of_le (ih _)

theorem answered_of_neverRefuses (hn : NeverRefuses h) (s : σ) (bs : List (List (Row .provisionedUsers))) :
    answered h s bs = bs := by
  induction bs generalizing s with
  | nil => rfl
  | cons batch rest ih =>
    obtain ⟨people, hp⟩ := hn (idsOf batch) s
    rw [answered_cons_answered (Prod.ext hp rfl), ih]

/-- Going through the batches judges the accounts whose lookup is answered, and counts the other batches. -/
theorem yields_foldList_batchStep (policy : SyncPolicy) (hf : ServesFeed h feed)
    (bs : List (List (Row .provisionedUsers))) (s : σ) (r : Reconciliation) (skipped : Nat) :
    ∃ t, (Program.foldList (SyncRun.batchStep policy) (r, skipped) bs).Yields h s
      ((r.takeAll policy feed (answered h s bs).flatten).1, skipped + (bs.length - (answered h s bs).length)) t := by
  induction bs generalizing s r skipped with
  | nil => exact ⟨s, Program.yields_foldList_nil _ _ _ _⟩
  | cons batch rest ih =>
    rcases hf (idsOf batch) s with ⟨reason, hr⟩ | ha
    · have hl : lookup h (idsOf batch) s = (.ok (.error reason), (lookup h (idsOf batch) s).2) := Prod.ext hr rfl
      obtain ⟨t, ht⟩ := ih (lookup h (idsOf batch) s).2 r (skipped + 1)
      have hle := length_answered_le h (lookup h (idsOf batch) s).2 rest
      refine ⟨t, ?_⟩
      rw [answered_cons_refused hl, List.length_cons]
      have hcount : skipped + 1 + (rest.length - (answered h (lookup h (idsOf batch) s).2 rest).length) =
          skipped + (rest.length + 1 - (answered h (lookup h (idsOf batch) s).2 rest).length) := by omega
      rw [hcount] at ht
      exact .foldList (yields_batchStep_refused hl r skipped) ht
    · have hl : lookup h (idsOf batch) s =
          (.ok (.ok (peopleAmong feed (idsOf batch))), (lookup h (idsOf batch) s).2) := Prod.ext ha rfl
      obtain ⟨t, ht⟩ := ih (lookup h (idsOf batch) s).2 (r.takeAll policy feed batch).1 skipped
      refine ⟨t, ?_⟩
      rw [answered_cons_answered hl, List.flatten_cons, takeAll_append, List.length_cons, List.length_cons,
        Nat.add_sub_add_right]
      exact .foldList (yields_batchStep_answered hl r skipped) ht

theorem result_reconcile (settings : SyncSettings) (known : KnownIds) (accounts : List (Row .provisionedUsers))
    (hf : ServesFeed h feed) (s : σ) :
    ((SyncRun.reconcile settings known accounts).run h s).result =
      .ok (((start known).takeAll settings.policy feed (answered h s (batches settings.batchSize accounts)).flatten).1,
        (batches settings.batchSize accounts).length -
          (answered h s (batches settings.batchSize accounts)).length) := by
  obtain ⟨t, ht⟩ := yields_foldList_batchStep settings.policy hf (batches settings.batchSize accounts) s (start known) 0
  rw [Nat.zero_add] at ht
  exact ht.result

/-- Where no lookup is refused, the batch size does not matter. -/
theorem result_reconcile_of_neverRefuses (settings : SyncSettings) (known : KnownIds)
    (accounts : List (Row .provisionedUsers)) (hf : ServesFeed h feed) (hn : NeverRefuses h) (s : σ) :
    ((SyncRun.reconcile settings known accounts).run h s).result =
      .ok (((start known).takeAll settings.policy feed accounts).1, 0) := by
  rw [result_reconcile settings known accounts hf, answered_of_neverRefuses hn, flatten_batches, Nat.sub_self]

/-- **A run in batches is one judgement after the other** over the accounts whose lookup is answered, against the whole
feed. Without refusals it does not depend on the batch size, and a refused batch has no more effect than one that is not
in the report. -/
theorem reconcile_eq_takeAll (settings : SyncSettings) (known : KnownIds) (accounts : List (Row .provisionedUsers))
    (h : Handler services σ) (feed : List Person) (hf : ServesFeed h feed) (s : σ) :
    let bs := batches settings.batchSize accounts
    let kept := answered h s bs
    let outcome := ((start known).takeAll settings.policy feed kept.flatten).1
    (settings.batchSize = 0 → bs = batches 1 accounts) ∧
      ((SyncRun.reconcile settings known accounts).run h s).result = .ok (outcome, bs.length - kept.length) ∧
      (NeverRefuses h → ∀ n,
        ((SyncRun.reconcile { settings with batchSize := n } known accounts).run h s).result =
          .ok (((start known).takeAll settings.policy feed accounts).1, 0)) ∧
      ∀ (τ : Type) (h' : Handler services τ) (t : τ), ServesFeed h' feed → NeverRefuses h' → ∀ n,
        ((SyncRun.reconcile { settings with batchSize := n } known kept.flatten).run h' t).result =
          .ok (outcome, 0) := by
  intro bs kept outcome
  refine ⟨fun hz => ?_, result_reconcile settings known accounts hf s, fun hn n => ?_, fun τ h' t hf' hn' n => ?_⟩
  · show batches settings.batchSize accounts = _
    rw [hz, batches_zero]
  · exact result_reconcile_of_neverRefuses { settings with batchSize := n } known accounts hf hn s
  · exact result_reconcile_of_neverRefuses { settings with batchSize := n } known kept.flatten hf' hn' t

/-! ## Any set of batches may be refused -/

theorem answered_countingLookups (feed : List Person) (refused : Nat → Bool) (n : Nat)
    (bs : List (List (Row .provisionedUsers))) :
    answered (countingLookups feed refused) n bs = ((bs.zipIdx n).filter fun b => !refused b.2).map Prod.fst := by
  induction bs generalizing n with
  | nil => rfl
  | cons batch rest ih =>
    have hl := lookup_countingLookups feed refused (idsOf batch) n
    rw [List.zipIdx_cons, List.filter_cons]
    cases hr : refused n with
    | true =>
      rw [hr, if_pos rfl] at hl
      rw [answered_cons_refused hl, ih]
      rfl
    | false =>
      rw [hr, if_neg Bool.false_ne_true] at hl
      rw [answered_cons_answered hl, ih]
      rfl

/-- Two accounts of one person in two batches, the first of which is refused: the second account is judged, as if it
stood alone in the report. -/
theorem reconcile_eq_takeAll_refused :
    let settings : SyncSettings := { batchSize := 1, inactivateExpiredUsers := true }
    let first : Row .provisionedUsers := .ofPairs _ [(.canvasUserId, "7"), (.loginId, "101")]
    let second : Row .provisionedUsers := .ofPairs _ [(.canvasUserId, "8"), (.loginId, "inactive-101")]
    let refusing := countingLookups [] fun n => n == 0
    let willing := countingLookups [] fun _ => false
    let outcome := ((start {}).takeAll settings.policy [] [second]).1
    ServesFeed refusing [] ∧ ServesFeed willing [] ∧ NeverRefuses willing ∧
      ((SyncRun.reconcile settings {} [first, second]).run refusing 0).result = .ok (outcome, 1) ∧
      ((SyncRun.reconcile { settings with batchSize := 5 } {} [second]).run willing 0).result = .ok (outcome, 0) := by
  intro settings first second refusing willing outcome
  have hf : ServesFeed refusing [] := servesFeed_countingLookups [] _
  have hw : ServesFeed willing [] := servesFeed_countingLookups [] _
  have hn : NeverRefuses willing := neverRefuses_countingLookups []
  have hbs : batches settings.batchSize [first, second] = [[first], [second]] := by simp [batches, settings]
  have hkept : answered refusing 0 (batches settings.batchSize [first, second]) = [[second]] := by
    rw [answered_countingLookups, hbs]
    rfl
  obtain ⟨-, hresult, -, halone⟩ := reconcile_eq_takeAll settings {} [first, second] refusing [] hf 0
  rw [hkept] at hresult halone
  rw [hbs] at hresult
  exact ⟨hf, hw, hn, hresult, halone Nat willing 0 hw hn 5⟩

end Registrar

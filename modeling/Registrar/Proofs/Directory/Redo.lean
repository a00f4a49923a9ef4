import Registrar.Proofs.Directory.CachedRun

/-!
# Cached runs that redo a fresh one

The report and the sheets of one run have the same stamp, and a cached run takes up only sheets of a later stamp than
its report has. So the first cached run after a fresh one submits everything again, and only what it submits itself
counts from then on (`cached_redone_once`). In `StaleAccount`, one account with an old email address is updated twice.
-/

namespace Registrar

open Program

theorem timeOf?_run_memory (settings : SyncSettings) (request : SyncRequest) (w : World) :
    timeOf? ((SyncRun.run settings request).exchanges World.handler w) = some w.now := rfl

namespace StaleAccount

/-- A report of one account with an old email address. -/
def report : String :=
  "canvas_user_id,user_id,login_id,first_name,last_name,full_name,email,status\n" ++
    "7,UID:101,101,Ann,Aaa,Ann Aaa,old@example.edu,active\n"

def account : Row .provisionedUsers :=
  .ofPairs _ [(.canvasUserId, "7"), (.userId, "UID:101"), (.loginId, "101"), (.givenName, "Ann"),
    (.familyName, "Aaa"), (.fullName, "Ann Aaa"), (.email, "old@example.edu"), (.status, "active")]

def feed : CampusFeed :=
  { people := [{ uid := "101", firstName := "Ann", lastName := "Aaa", email := some "new@example.edu" }] }

/-- A minute after midnight. -/
def minute (n : Fin 60) : Instant :=
  ⟨⟨2015, 3, 9, by decide, by decide⟩, 60 * n, 0, by omega⟩

/-- The services at midnight, with an empty stash. -/
def world : World := { now := minute 0, campus := feed, directory := { report := some report } }

def settings (dryRun : Bool) : SyncSettings := { dryRun }

/-- What the account comes to: an update of the email address. -/
def outcome (dryRun : Bool) : Reconciliation :=
  ((Reconciliation.start {}).takeAll (settings dryRun).policy feed.people [account]).1

theorem readStrict_report :
    Sheet.readStrict .provisionedUsers report = .ok (Sheet.ofRows .provisionedUsers [account]) := by
  decide +kernel

theorem holds_world : World.Holds "tmp/canvas" feed world .empty :=
  ⟨rfl, rfl, rfl, fun _ => (ite_self _).symm⟩

theorem comesTo_outcome (dryRun : Bool) :
    SyncRun.ComesTo World.handler (World.Holds "tmp/canvas" feed) (settings dryRun) {} [account] (outcome dryRun) := by
  have hl : lookup World.handler (idsOf [account]) world =
      (.ok (.ok (peopleAmong feed.people (idsOf [account]))), world.noteCampus (.people (idsOf [account]))) := rfl
  have hbatches : batches (settings dryRun).batchSize [account] = [[account]] := by simp [batches]
  refine ⟨world, .empty, 0, world.noteCampus (.people (idsOf [account])), holds_world, ?_⟩
  rw [SyncRun.reconcile, hbatches]
  exact .foldList (yields_batchStep_answered hl _ 0) (yields_foldList_nil _ _ _ _)

theorem mentions_outcome (dryRun : Bool) : Mentions (outcome dryRun).updates.write "101" "UID:101" := by
  rw [Reconciliation.mentions_write_iff (comesTo_outcome dryRun).addressed]
  cases dryRun
  · exact ⟨accountOf {} feed.people[0], by decide +kernel, by decide +kernel⟩
  · exact ⟨accountOf {} feed.people[0], by decide +kernel, by decide +kernel⟩

theorem serves : ServesFolder World.handler "tmp/canvas" (World.Holds "tmp/canvas" feed) :=
  World.servesFolder_memory (by decide) feed

theorem steady : SteadyFeed World.handler (World.Holds "tmp/canvas" feed) := steadyFeed_memory _ rfl

theorem exists_mentions_offered (stamp : String) :
    ∃ text ∈ SyncRun.offered (settings false) (SyncRun.sheetsFor (settings false) stamp (outcome false)),
      Mentions text "101" "UID:101" := by
  have hrows : (outcome false).updates.rows.isEmpty = false := by decide +kernel
  exact ⟨_, List.mem_map.2 ⟨_, SyncRun.updates_mem_sheetsFor _ stamp hrows, rfl⟩, mentions_outcome false⟩

/-- What a fresh run leaves. -/
def left (dryRun : Bool) : Contents :=
  Contents.putAll .empty (SyncRun.reportFiles false (minute 0).minuteStamp report ++
    SyncRun.sheetsFor (settings dryRun) (minute 0).minuteStamp (outcome dryRun))

/-- A fresh run at midnight and a cached one five minutes later. -/
theorem runs (dryRun : Bool) :
    ∃ first w second w', (SyncRun.run (settings dryRun) ⟨none, false⟩).Yields World.handler world (.ok first) w ∧
      (SyncRun.run (settings dryRun) ⟨none, true⟩).Yields World.handler { w with now := minute 5 } (.ok second) w' ∧
      SyncRun.Completed World.handler (World.Holds "tmp/canvas" feed) (settings dryRun) ⟨none, false⟩ world w
        (Sheet.ofRows _ [account]) {} (minute 0) (outcome dryRun) (left dryRun) ∧
      SyncRun.Completed World.handler (World.Holds "tmp/canvas" feed) (settings dryRun) ⟨none, true⟩
        { w with now := minute 5 } w' (Sheet.ofRows _ [account]) {} (minute 5) (outcome dryRun)
        ((left dryRun).putAll (SyncRun.sheetsFor (settings dryRun) (minute 5).minuteStamp (outcome dryRun))) := by
  obtain ⟨first, w, now, o, hfirst, hone⟩ := SyncRun.fresh_run (settings dryRun) World.answers_handler serves
    holds_world rfl readStrict_report none
  obtain rfl : minute 0 = now := Option.some.inj ((timeOf?_run_memory _ _ _).symm.trans hone.time)
  obtain rfl := hone.comes.unique serves steady (comesTo_outcome dryRun)
  have hprecedes := Stash.precedes_empty (minute 0).minuteStamp
  obtain ⟨second, w', now, hsecond, htwo⟩ := SyncRun.cached_run_again World.answers_handler serves steady
    (hone.left.later (minute 5)) (SyncRun.newest_putAll _ _ hprecedes report)
    (SyncRun.precedes_putAll _ _ hprecedes report) readStrict_report hone.comes
  obtain rfl : minute 5 = now := Option.some.inj ((timeOf?_run_memory _ _ _).symm.trans htwo.time)
  exact ⟨first, w, second, w', hfirst, hsecond, hone, htwo⟩

/-- What the two runs leave says that the account was updated. -/
theorem seeded (dryRun : Bool) {w : World}
    (hw : World.Holds "tmp/canvas" feed w
      ((left dryRun).putAll (SyncRun.sheetsFor (settings dryRun) (minute 5).minuteStamp (outcome dryRun)))) :
    ∃ report known t, (Stash.load "tmp/canvas" {}).Yields World.handler w (.ok (report, known)) t ∧
      known.users.get? "101" = some "UID:101" := by
  have hprecedes := Stash.precedes_empty (minute 0).minuteStamp
  have hnewest := SyncRun.newest_putAll (settings dryRun) (outcome dryRun) hprecedes report
  obtain ⟨names, cached, known, t, hnames, hfound, -, hload⟩ := SyncRun.yields_load_of_newest serves hw hnewest.putAll
  refine ⟨cached, known, t, hload, ?_⟩
  exact Stash.users_found_of_later hnewest (SyncRun.precedes_putAll _ _ hprecedes report)
    (Stash.isPlain_minuteStamp _) (Stash.stampOf?_minuteStamp (by decide)) (Stash.stampOf?_minuteStamp (by decide))
    (by decide +kernel) hnames hfound (comesTo_outcome dryRun).addressed (mentions_outcome dryRun)

end StaleAccount

namespace SyncRun

variable {σ : Type} {h : Handler services σ} {holds : σ → Contents → Prop} {settings : SyncSettings} {m : Contents}
  {s t : σ}

/-- **A cached run redoes a fresh one, once.** A cached run over what a fresh run left submits the very sheets that the
fresh run submitted, since these have the stamp of the report and only sheets of a later stamp count as submitted. It
leaves its own sheets behind. If its stamp is later, a further cached run submits nothing for a campus ID that got a SIS
ID then. -/
theorem cached_redone_once (hh : Answers h) (hserves : ServesFolder h settings.exportDir holds)
    (hsteady : SteadyFeed h holds) {uids : Option (List String)} {first : SyncReport} {now : Instant} {s' : σ}
    (hs : holds s m) (hfirst : (run settings ⟨uids, false⟩).Yields h s (.ok first) t)
    (hnow : timeOf? ((run settings ⟨uids, false⟩).exchanges h s) = some now)
    (hprecedes : Stash.Precedes m now.minuteStamp) (hkept : ∀ m, holds t m → holds s' m) :
    ∃ second t', (run settings ⟨uids, true⟩).Yields h s' (.ok second) t' ∧
      submissions h s' settings ⟨uids, true⟩ = submissions h s settings ⟨uids, false⟩ ∧
      ∀ now' s'' uids', timeOf? ((run settings ⟨uids, true⟩).exchanges h s') = some now' →
        (0 ≤ now.date.year ∧ now.date.year ≤ 9999) → (0 ≤ now'.date.year ∧ now'.date.year ≤ 9999) →
        now.minuteStamp < now'.minuteStamp → (∀ m, holds t' m → holds s'' m) →
        ∃ third t'', (run settings ⟨uids', true⟩).Yields h s'' (.ok third) t'' ∧
          ∀ uid id, id ≠ "" → (∃ text ∈ submissions h s settings ⟨uids, false⟩, Mentions text uid id) →
            ∀ text ∈ submissions h s'' settings ⟨uids', true⟩, ∀ id', ¬ Mentions text uid id' := by
  obtain ⟨now₁, text, known, sheet, outcome, u, hobtained, hread, hone⟩ := completed_of_yields hserves hs hfirst
  obtain rfl : now₁ = now := Option.some.inj (hone.time.symm.trans hnow)
  obtain rfl := known_of_obtained hobtained
  have hnewest := newest_putAll settings outcome hprecedes text
  have hlatest := precedes_putAll settings outcome hprecedes text
  obtain ⟨second, t', now₂, hsecond, htwo⟩ :=
    cached_run_again hh hserves hsteady (hkept _ hone.left) hnewest hlatest hread hone.comes
  refine ⟨second, t', hsecond, ?_, fun now' s'' uids' hnow' hyear hyear' hlater hkept' => ?_⟩
  · rw [htwo.submitted, hone.submitted]
    exact offered_sheetsFor settings outcome _ _
  obtain rfl : now₂ = now' := Option.some.inj (htwo.time.symm.trans hnow')
  obtain ⟨third, t'', names, known, cached, now₃, outcome', hthird, hnames, hfound, hthree⟩ :=
    cached_run hh hserves (hkept' _ htwo.left) hnewest.putAll hread uids'
  refine ⟨third, t'', hthird, fun uid id hid ⟨text', htext', hmentions⟩ text'' htext'' id' => ?_⟩
  rw [hone.submitted] at htext'
  rw [eq_of_mentions htext' hmentions] at hmentions
  have hknown := Stash.users_found_of_later hnewest hlatest (Stash.isPlain_minuteStamp now₂)
    (Stash.stampOf?_minuteStamp hyear) (Stash.stampOf?_minuteStamp hyear') hlater hnames hfound hone.comes.addressed
    hmentions
  refine hthree.not_mentions ?_ htext''
  rw [KnownIds.hasUser, hknown]
  simpa using hid

/-- After the account was updated twice, it is not updated a third time. -/
theorem cached_redone_once_stale :
    let settings := StaleAccount.settings false
    ∃ first w second w' third w'', (run settings ⟨none, false⟩).Yields World.handler StaleAccount.world (.ok first) w ∧
      (run settings ⟨none, true⟩).Yields World.handler { w with now := StaleAccount.minute 5 } (.ok second) w' ∧
      submissions World.handler { w with now := StaleAccount.minute 5 } settings ⟨none, true⟩ =
        submissions World.handler StaleAccount.world settings ⟨none, false⟩ ∧
      (∃ text ∈ submissions World.handler StaleAccount.world settings ⟨none, false⟩, Mentions text "101" "UID:101") ∧
      (run settings ⟨none, true⟩).Yields World.handler { w' with now := StaleAccount.minute 10 } (.ok third) w'' ∧
      ∀ text ∈ submissions World.handler { w' with now := StaleAccount.minute 10 } settings ⟨none, true⟩,
        ∀ id, ¬ Mentions text "101" id := by
  intro settings
  obtain ⟨first, w, -, -, hfirst, -, hone, -⟩ := StaleAccount.runs false
  obtain ⟨second, w', hsecond, hsame, hrest⟩ := cached_redone_once World.answers_handler StaleAccount.serves
    StaleAccount.steady StaleAccount.holds_world hfirst hone.time (Stash.precedes_empty _)
    (fun m hm => hm.later (StaleAccount.minute 5))
  obtain ⟨third, w'', hthird, hnone⟩ := hrest (StaleAccount.minute 5) { w' with now := StaleAccount.minute 10 } none
    (timeOf?_run_memory _ _ _) (by decide) (by decide) (by decide +kernel) (fun m hm => hm.later _)
  have hmentioned : ∃ text ∈ submissions World.handler StaleAccount.world settings ⟨none, false⟩,
      Mentions text "101" "UID:101" := by
    rw [hone.submitted]
    exact StaleAccount.exists_mentions_offered _
  exact ⟨first, w, second, w', third, w'', hfirst, hsecond, hsame, hmentioned, hthird,
    hnone "101" "UID:101" (by decide) hmentioned⟩

/-- The account is updated by a fresh run that nothing disturbs, and again by a cached run five minutes later. -/
theorem cached_redoes_stale :
    let settings := StaleAccount.settings false
    ∃ first w second w', (run settings ⟨none, false⟩).Yields World.handler StaleAccount.world (.ok first) w ∧
      Undisturbed ((run settings ⟨none, false⟩).exchanges World.handler StaleAccount.world) ∧
      (run settings ⟨none, true⟩).Yields World.handler { w with now := StaleAccount.minute 5 } (.ok second) w' ∧
      StaleAccount.world.now.minuteStamp < (StaleAccount.minute 5).minuteStamp ∧
      (∃ text ∈ submissions World.handler StaleAccount.world settings ⟨none, false⟩, Mentions text "101" "UID:101") ∧
      ∃ text ∈ submissions World.handler { w with now := StaleAccount.minute 5 } settings ⟨none, true⟩,
        Mentions text "101" "UID:101" := by
  obtain ⟨first, w, second, w', hfirst, hsecond, hone, htwo⟩ := StaleAccount.runs false
  refine ⟨first, w, second, w', hfirst, World.AcceptsAll.undisturbed ⟨rfl, rfl⟩ _, hsecond, by decide +kernel, ?_, ?_⟩
  · rw [hone.submitted]
    exact StaleAccount.exists_mentions_offered _
  · rw [htwo.submitted]
    exact StaleAccount.exists_mentions_offered _

end SyncRun

end Registrar

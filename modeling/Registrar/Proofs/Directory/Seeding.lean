import Registrar.Proofs.Directory.Redo

/-!
# Where known IDs come from

A history of runs over one folder that was empty at first (`History`). Every sheet of account updates in the folder was
stashed by one of the runs, and submitted by it unless it was a dry run (`History.sourced`). So a campus ID that loading
the stash makes known is mentioned by a sheet that a past run stashed (`seeded_from_past`); that the directory accepted
the sheet follows only for a run that was not dry and that nothing disturbed. The stash of dry runs makes known what
nobody submitted (`seeded_dry`).
-/

namespace Registrar

open Program

variable {σ : Type} {h : Handler services σ} {folder : Path} {holds : σ → Contents → Prop} {m : Contents} {s t : σ}

/-- A run that is over. -/
structure PastRun where
  settings : SyncSettings
  exchanges : List (Exchange services)

namespace PastRun

/-- The run stashed this text as a sheet of account updates. -/
def Stashed (r : PastRun) (text : String) : Prop :=
  ∃ name reply, Stash.isUpdates name = true ∧
    (⟨.writeFile (Path.join r.settings.exportDir name) text, reply⟩ : Exchange services) ∈ r.exchanges

/-- The run submitted this text and got this reply. -/
def Submitted (r : PastRun) (text : String) (reply : Except String Unit) : Prop :=
  (⟨.importSheet text, reply⟩ : Exchange services) ∈ r.exchanges

/-- The run stashed this text, and submitted it unless it was a dry run. -/
structure Sources (r : PastRun) (text : String) : Prop where
  stashed : r.Stashed text
  submitted (hdry : r.settings.dryRun = false) : ∃ reply, r.Submitted text reply

end PastRun

/-- The runs over a folder that was empty at first lead to a state of the services. -/
inductive History (h : Handler services σ) (folder : Path) (holds : σ → Contents → Prop) : List PastRun → σ → Prop
  | start {s : σ} (hs : holds s .empty) : History h folder holds [] s
  | run {past : List PastRun} {s t : σ} {settings : SyncSettings} {request : SyncRequest}
      {result : Except Failure SyncReport} (before : History h folder holds past s)
      (shared : settings.exportDir = folder) (yields : (SyncRun.run settings request).Yields h s result t) :
      History h folder holds (past ++ [⟨settings, (SyncRun.run settings request).exchanges h s⟩]) t
  /-- Something else happens that leaves the folder alone. -/
  | idle {past : List PastRun} {s t : σ} (before : History h folder holds past s)
      (kept : ∀ m, holds s m → holds t m) : History h folder holds past t

/-- Every sheet of account updates in a folder has a past run as its source. -/
def Sourced (past : List PastRun) (m : Contents) : Prop :=
  ∀ name text, m name = some text → Stash.isUpdates name = true → ∃ r ∈ past, r.Sources text

theorem Sourced.append {past : List PastRun} (hm : Sourced past m) (r : PastRun) : Sourced (past ++ [r]) m := by
  intro name text hname hupdates
  obtain ⟨q, hq, hsources⟩ := hm name text hname hupdates
  exact ⟨q, List.mem_append_left _ hq, hsources⟩

namespace SyncRun

/-- The sheet of account updates among the files of a run is one of its sheets. -/
theorem Course.mem_sheets {settings : SyncSettings} {request : SyncRequest} {stamp : String}
    {result : Except Failure SyncReport} {reports sheets : List (String × String)}
    (hc : Course h settings request stamp s result reports sheets) {file : String × String}
    (hfile : file ∈ reports ++ sheets) (hupdates : Stash.isUpdates file.1 = true) : file ∈ sheets := by
  have hreport : ∀ text, file ∉ reportFiles request.cached stamp text := by
    intro text hmem
    unfold reportFiles at hmem
    split at hmem
    · cases hmem
    · rw [List.mem_singleton.1 hmem, Stash.isUpdates_reportName] at hupdates
      cases hupdates
  cases hc with
  | missing => exact hfile
  | malformed => exact absurd ((List.mem_append.1 hfile).resolve_right (List.not_mem_nil)) (hreport _)
  | done => exact (List.mem_append.1 hfile).resolve_left (hreport _)

/-- What a run adds to a folder has the run as its source. -/
theorem sourced_of_yields {past : List PastRun} {settings : SyncSettings} {request : SyncRequest}
    {result : Except Failure SyncReport} (hserves : ServesFolder h settings.exportDir holds) (hs : holds s m)
    (hm : Sourced past m) (hy : (run settings request).Yields h s result t) :
    ∃ m', holds t m' ∧ Sourced (past ++ [⟨settings, (run settings request).exchanges h s⟩]) m' := by
  obtain ⟨now, reports, sheets, -, hcourse, hleaves⟩ := course_of_yields hy
  have hplain := Stash.isPlain_minuteStamp now
  refine ⟨_, hserves.holds_of_yields hy hs (fun _ => hcourse.isName hplain) hleaves, ?_⟩
  intro name text hname hupdates
  rcases Contents.mem_or_of_putAll hname with hfile | hbefore
  · have hsheet := hcourse.mem_sheets hfile hupdates
    obtain ⟨reply, hwritten⟩ := hleaves.mem_files hfile
    refine ⟨_, List.mem_append_right _ List.mem_cons_self, ⟨name, reply, hupdates, hwritten⟩, fun hdry => ?_⟩
    have hoffered : text ∈ offered settings sheets := by
      rw [offered, if_neg (by simpa using hdry)]
      exact List.mem_map.2 ⟨(name, text), hsheet, rfl⟩
    rw [← hleaves.sheets] at hoffered
    exact mem_sheetsOf.1 hoffered
  · exact hm.append _ name text hbefore hupdates

end SyncRun

/-- Whatever the runs were, the folder that they lead to is sourced. -/
theorem History.sourced {past : List PastRun} (hserves : ServesFolder h folder holds)
    (hpast : History h folder holds past s) : ∃ m, holds s m ∧ Sourced past m := by
  induction hpast with
  | start hs => exact ⟨.empty, hs, fun _ _ hname => nomatch hname⟩
  | run before shared yields ih =>
    obtain ⟨m, hs, hm⟩ := ih
    subst shared
    exact SyncRun.sourced_of_yields hserves hs hm yields
  | idle before kept ih =>
    obtain ⟨m, hs, hm⟩ := ih
    exact ⟨m, kept m hs, hm⟩

/-- **Known IDs come from stashed sheets.** After any runs over a folder that was empty at first, a SIS ID that loading
the stash makes known was known before, or is given by a sheet that one of the runs stashed; the run submitted the sheet
unless it was a dry run, and the directory accepted it if nothing disturbed the run. -/
theorem seeded_from_past {past : List PastRun} {known known' : KnownIds} {report : Stash.CachedReport} {uid id : String}
    (hserves : ServesFolder h folder holds) (hpast : History h folder holds past s)
    (hload : (Stash.load folder known).Yields h s (.ok (report, known')) t) (huser : known'.users.get? uid = some id) :
    known.users.get? uid = some id ∨
      ∃ r ∈ past, ∃ text, Mentions text uid id ∧ r.Stashed text ∧
        (r.settings.dryRun = false → ∃ reply, r.Submitted text reply) ∧
        (r.settings.dryRun = false → Undisturbed r.exchanges → r.Submitted text (.ok ())) := by
  obtain ⟨m, hs, hm⟩ := hpast.sourced hserves
  obtain ⟨u, -, ⟨names, hnames, hfound⟩ | ⟨failure, -, hfailed⟩⟩ := Stash.yields_load hserves hs known
  · rcases Stash.users_found (hfound.unique hload).1 huser with ⟨name, hname, hupdates, hmentions⟩ | hknown
    · obtain ⟨text, htext⟩ := Option.isSome_iff_exists.1 ((hnames name).1 hname)
      rw [htext, Option.getD_some] at hmentions
      obtain ⟨r, hr, hsources⟩ := hm name text htext hupdates
      refine .inr ⟨r, hr, text, hmentions, hsources.stashed, hsources.submitted, fun hdry hundisturbed => ?_⟩
      obtain ⟨reply, hsubmitted⟩ := hsources.submitted hdry
      exact hundisturbed.accepted hsubmitted ▸ hsubmitted
    · exact .inl hknown
  · exact nomatch (hfailed.unique hload).1

namespace StaleAccount

/-- The history of a fresh run and a cached one, with what the stash says afterwards. -/
theorem exists_history (dryRun : Bool) :
    ∃ past w, History World.handler "tmp/canvas" (World.Holds "tmp/canvas" feed) past w ∧
      (∀ r ∈ past, r.settings = settings dryRun ∧ Undisturbed r.exchanges ∧
        ∀ text reply, r.Submitted text reply → dryRun = false) ∧
      ∃ report known w', (Stash.load "tmp/canvas" {}).Yields World.handler w (.ok (report, known)) w' ∧
        known.users.get? "101" = some "UID:101" := by
  obtain ⟨first, w, second, w', hfirst, hsecond, hone, htwo⟩ := runs dryRun
  have hworld : world.AcceptsAll := ⟨rfl, rfl⟩
  have hlater : World.AcceptsAll { w with now := minute 5 } :=
    ⟨(hworld.of_yields hfirst).unwritable, (hworld.of_yields hfirst).rejectedImports⟩
  refine ⟨_, w', .run (.idle (.run (.start holds_world) rfl hfirst) fun m hm => hm.later (minute 5)) rfl hsecond,
    ?_, seeded dryRun htwo.left⟩
  intro r hr
  rcases List.mem_append.1 hr with hr | hr
  · obtain rfl := List.mem_singleton.1 hr
    exact ⟨rfl, hworld.undisturbed _, fun text reply hsubmitted =>
      hone.dryRun_eq_false (mem_sheetsOf.2 ⟨reply, hsubmitted⟩)⟩
  · obtain rfl := List.mem_singleton.1 hr
    exact ⟨rfl, hlater.undisturbed _, fun text reply hsubmitted =>
      htwo.dryRun_eq_false (mem_sheetsOf.2 ⟨reply, hsubmitted⟩)⟩

end StaleAccount

/-- After two runs that were not dry, the ID that the stash makes known was accepted by the directory. -/
theorem seeded_from_past_accepted :
    ∃ past w, History World.handler "tmp/canvas" (World.Holds "tmp/canvas" StaleAccount.feed) past w ∧
      ∃ report known w', (Stash.load "tmp/canvas" {}).Yields World.handler w (.ok (report, known)) w' ∧
        known.users.get? "101" = some "UID:101" ∧
          ∃ r ∈ past, ∃ text, Mentions text "101" "UID:101" ∧ r.Submitted text (.ok ()) := by
  obtain ⟨past, w, hpast, hruns, report, known, w', hload, huser⟩ := StaleAccount.exists_history false
  refine ⟨past, w, hpast, report, known, w', hload, huser, ?_⟩
  rcases seeded_from_past StaleAccount.serves hpast hload huser with hknown | ⟨r, hr, text, hmentions, -, -, haccepted⟩
  · cases hknown
  · obtain ⟨hsettings, hundisturbed, -⟩ := hruns r hr
    exact ⟨r, hr, text, hmentions, haccepted (by rw [hsettings]; rfl) hundisturbed⟩

/-- After two dry runs, which submitted nothing, the stash makes an ID known. -/
theorem seeded_dry :
    ∃ past w, History World.handler "tmp/canvas" (World.Holds "tmp/canvas" StaleAccount.feed) past w ∧
      (∀ r ∈ past, ∀ text reply, ¬ r.Submitted text reply) ∧
      ∃ report known w', (Stash.load "tmp/canvas" {}).Yields World.handler w (.ok (report, known)) w' ∧
        known.users.get? "101" = some "UID:101" := by
  obtain ⟨past, w, hpast, hruns, hseeded⟩ := StaleAccount.exists_history true
  refine ⟨past, w, hpast, fun r hr text reply hsubmitted => ?_, hseeded⟩
  cases (hruns r hr).2.2 text reply hsubmitted

end Registrar

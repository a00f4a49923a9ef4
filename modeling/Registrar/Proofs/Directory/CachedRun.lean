import Registrar.Proofs.Directory.Submission
import Registrar.Proofs.World.Lookup

/-!
# Runs over a stash

A run that obtains a well-formed report goes through (`SyncRun.Completed`): its accounts come to an outcome, and the
folder holds the sheets of the outcome besides what it held. Where the feed is steady, accounts come to the same outcome
whenever they are reconciled (`SyncRun.ComesTo.unique`).

A cached run works on the newest report of the folder (`Stash.Newest`) and knows what the sheets of a later stamp say
(`SyncRun.cached_run`, `Stash.users_found_of_later`). Where there are none, it comes to what a fresh run came to with
the report (`SyncRun.cached_run_again`).
-/

namespace Registrar

open Program

/-! ## The sheets of an outcome -/

namespace SyncRun

variable {settings : SyncSettings} {stamp : String} {outcome : Reconciliation} {file : String × String}

theorem mem_sheetsFor (h : file ∈ sheetsFor settings stamp outcome) :
    file = (Stash.renamesName stamp, outcome.changes.toSheet.write) ∨
      file = (Stash.updatesName stamp, outcome.updates.write) := by
  rw [sheetsFor, List.mem_append, renameSheets, updateSheets] at h
  rcases h with h | h
  · split at h
    · exact .inl (List.mem_singleton.1 h)
    · cases h
  · split at h
    · cases h
    · exact .inr (List.mem_singleton.1 h)

theorem updates_mem_sheetsFor (settings : SyncSettings) (stamp : String) (h : outcome.updates.rows.isEmpty = false) :
    (Stash.updatesName stamp, outcome.updates.write) ∈ sheetsFor settings stamp outcome := by
  rw [sheetsFor, updateSheets, h]
  exact List.mem_append_right _ List.mem_cons_self

/-- The stamp of a run shows in the names of its sheets only. -/
theorem offered_sheetsFor (settings : SyncSettings) (outcome : Reconciliation) (stamp stamp' : String) :
    offered settings (sheetsFor settings stamp outcome) = offered settings (sheetsFor settings stamp' outcome) := by
  unfold offered sheetsFor renameSheets updateSheets
  split
  · rfl
  · rw [List.map_append, List.map_append]
    congr 1
    · split <;> rfl
    · split <;> rfl

theorem isName_of_mem_sheetsFor (hplain : Stash.IsPlain stamp) (h : file ∈ sheetsFor settings stamp outcome) :
    Path.IsName file.1 := by
  rcases mem_sheetsFor h with rfl | rfl
  · exact Stash.isName_renamesName hplain
  · exact Stash.isName_updatesName hplain

theorem isReport_of_mem_sheetsFor (h : file ∈ sheetsFor settings stamp outcome) : Stash.isReport file.1 = false := by
  rcases mem_sheetsFor h with rfl | rfl
  · exact Stash.isReport_renamesName stamp
  · exact Stash.isReport_updatesName stamp

theorem stampOf?_of_mem_sheetsFor (h : file ∈ sheetsFor settings stamp outcome) :
    Stash.stampOf? file.1 = Stash.stampOf? stamp := by
  rcases mem_sheetsFor h with rfl | rfl
  · exact Stash.stampOf?_renamesName stamp
  · exact Stash.stampOf?_updatesName stamp

/-- The sheet of account updates is the only one that is taken for such. -/
theorem eq_of_isUpdates (hplain : Stash.IsPlain stamp) (h : file ∈ sheetsFor settings stamp outcome)
    (hupdates : Stash.isUpdates file.1 = true) : file = (Stash.updatesName stamp, outcome.updates.write) := by
  rcases mem_sheetsFor h with rfl | rfl
  · rw [Stash.isUpdates_renamesName hplain] at hupdates
    cases hupdates
  · rfl

theorem nodup_sheetsFor (hplain : Stash.IsPlain stamp) : ((sheetsFor settings stamp outcome).map Prod.fst).Nodup := by
  have hne : Stash.renamesName stamp ≠ Stash.updatesName stamp := by
    intro heq
    have hupdates := Stash.isUpdates_updatesName stamp
    rw [← heq, Stash.isUpdates_renamesName hplain] at hupdates
    cases hupdates
  unfold sheetsFor renameSheets updateSheets
  split <;> split <;> simp [hne]

theorem mem_offered {sheets : List (String × String)} {text : String} (h : text ∈ offered settings sheets) :
    ∃ file ∈ sheets, file.2 = text := by
  unfold offered at h
  split at h
  · cases h
  · exact List.mem_map.1 h

/-- Of the sheets that are submitted, only the one of account updates mentions anybody. -/
theorem eq_of_mentions {text uid id : String} (h : text ∈ offered settings (sheetsFor settings stamp outcome))
    (hmentions : Mentions text uid id) : text = outcome.updates.write := by
  obtain ⟨file, hfile, rfl⟩ := mem_offered h
  rcases mem_sheetsFor hfile with rfl | rfl
  · exact absurd hmentions (Reconciliation.not_mentions_toSheet _)
  · rfl

end SyncRun

/-! ## The newest report of a folder -/

namespace Stash

variable {m : Contents} {stamp text : String} {settings : SyncSettings} {outcome : Reconciliation} {folder : Path}
  {names : List String} {known : KnownIds}

/-- The last report of a folder has this stamp and this text. -/
structure Newest (m : Contents) (stamp text : String) : Prop where
  held : m (reportName stamp) = some text
  last {name : String} (hname : (m name).isSome = true) (hreport : isReport name = true) : name ≤ reportName stamp

/-- Nothing in a folder is later than a stamp. -/
structure Precedes (m : Contents) (stamp : String) : Prop where
  report {name : String} (hname : (m name).isSome = true) (hreport : isReport name = true) : name ≤ reportName stamp
  newer {name found : String} (hname : (m name).isSome = true) (hfound : stampOf? stamp = some found) :
    isNewer found name = false

theorem precedes_empty (stamp : String) : Precedes .empty stamp where
  report hname := nomatch hname
  newer hname := nomatch hname

/-- Files of the same stamp are not later than it. -/
theorem Precedes.putAll {files : List (String × String)} (h : Precedes m stamp)
    (hreport : ∀ file ∈ files, isReport file.1 = true → file.1 ≤ reportName stamp)
    (hstamp : ∀ file ∈ files, stampOf? file.1 = stampOf? stamp) : Precedes (m.putAll files) stamp where
  report {name} hname hisReport := by
    rcases Contents.isSome_putAll.1 hname with hput | hbefore
    · obtain ⟨file, hfile, rfl⟩ := List.mem_map.1 hput
      exact hreport file hfile hisReport
    · exact h.report hbefore hisReport
  newer {name found} hname hfound := by
    rcases Contents.isSome_putAll.1 hname with hput | hbefore
    · obtain ⟨file, hfile, rfl⟩ := List.mem_map.1 hput
      rw [isNewer_of_stampOf? ((hstamp file hfile).trans hfound)]
      exact decide_eq_false (String.lt_irrefl found)
    · exact h.newer hbefore hfound

/-- The sheets of a run do not replace a report. -/
theorem Newest.putAll {stamp' : String} (h : Newest m stamp text) :
    Newest (m.putAll (SyncRun.sheetsFor settings stamp' outcome)) stamp text where
  held := by
    rw [Contents.putAll_of_not_mem, h.held]
    intro hmem
    obtain ⟨file, hfile, hname⟩ := List.mem_map.1 hmem
    have hreport := SyncRun.isReport_of_mem_sheetsFor hfile
    rw [hname, isReport_reportName] at hreport
    cases hreport
  last {name} hname hreport := by
    rcases Contents.isSome_putAll.1 hname with hput | hbefore
    · obtain ⟨file, hfile, rfl⟩ := List.mem_map.1 hput
      rw [SyncRun.isReport_of_mem_sheetsFor hfile] at hreport
      cases hreport
    · exact h.last hbefore hreport

theorem Precedes.newest_put (h : Precedes m stamp) (text : String) :
    Newest (m.put (reportName stamp, text)) stamp text where
  held := by rw [Contents.get_put, if_pos rfl]
  last {name} hname hreport := by
    rw [Contents.get_put] at hname
    split at hname
    · rename_i heq
      exact heq ▸ String.le_refl name
    · exact h.report hname hreport

/-- A folder says its newest report, and what the sheets say that are later than its stamp. -/
theorem Newest.found_eq (h : Newest m stamp text) (hnames : ∀ name, name ∈ names ↔ (m name).isSome = true)
    (folder : Path) (known : KnownIds) :
    found folder m names known = .ok (⟨Path.join folder (reportName stamp), text⟩,
      (stampOf? stamp).elim known fun since => takeUpNewer m since (sorted names) known) := by
  have hmem : reportName stamp ∈ names := (hnames _).2 (by rw [h.held]; rfl)
  have hlast := getLast?_filter_sorted hmem (isReport_reportName stamp)
    fun name hname hreport => h.last ((hnames name).1 hname) hreport
  simp only [found, hlast, h.held, Option.getD_some, stampOf?_reportName]
  cases stampOf? stamp with
  | none => rfl
  | some since => rfl

/-- Where nothing is later than the stamp, nothing is taken up. -/
theorem takeUpNewer_of_not_newer (h : ∀ name ∈ names, isNewer stamp name = false) (known : KnownIds) :
    takeUpNewer m stamp names known = known := by
  have hnone : names.filter (isNewer stamp) = [] :=
    List.filter_eq_nil_iff.2 fun name hname => by rw [h name hname]; exact Bool.false_ne_true
  rw [takeUpNewer, hnone]
  rfl

/-- Where nothing is later than its newest report, a folder says the report only. -/
theorem Newest.found_eq_of_precedes (h : Newest m stamp text) (hprecedes : Precedes m stamp)
    (hnames : ∀ name, name ∈ names ↔ (m name).isSome = true) :
    found folder m names known = .ok (⟨Path.join folder (reportName stamp), text⟩, known) := by
  rw [h.found_eq hnames]
  cases hstamp : stampOf? stamp with
  | none => rfl
  | some since =>
    rw [Option.elim_some, takeUpNewer_of_not_newer]
    exact fun name hname => hprecedes.newer ((hnames name).1 (mem_sorted.1 hname)) hstamp

/-- The only sheet of account updates that is later than the report is the one of the run. -/
theorem eq_updatesName_of_newer {stamp' name : String} (hprecedes : Precedes m stamp) (hplain : IsPlain stamp')
    (hstamp : stampOf? stamp = some stamp)
    (hname : (m.putAll (SyncRun.sheetsFor settings stamp' outcome) name).isSome = true)
    (hnewer : isNewer stamp name = true) (hupdates : isUpdates name = true) : name = updatesName stamp' := by
  rcases Contents.isSome_putAll.1 hname with hput | hbefore
  · obtain ⟨file, hfile, rfl⟩ := List.mem_map.1 hput
    rw [SyncRun.eq_of_isUpdates hplain hfile hupdates]
  · rw [hprecedes.newer hbefore hstamp] at hnewer
    cases hnewer

/-- Sheets of a later stamp are taken up, and nothing else is. -/
theorem users_found_of_later {stamp' uid id : String} {report : CachedReport} {known' : KnownIds}
    (hnewest : Newest m stamp text) (hprecedes : Precedes m stamp) (hplain : IsPlain stamp')
    (hstamp : stampOf? stamp = some stamp) (hstamp' : stampOf? stamp' = some stamp') (hlater : stamp < stamp')
    (hnames : ∀ name, name ∈ names ↔
      (m.putAll (SyncRun.sheetsFor settings stamp' outcome) name).isSome = true)
    (hfound : found folder (m.putAll (SyncRun.sheetsFor settings stamp' outcome)) names known = .ok (report, known'))
    (haddressed : Reconciliation.Addressed outcome.updates) (hmentions : Mentions outcome.updates.write uid id) :
    known'.users.get? uid = some id := by
  obtain ⟨r, hr, -⟩ := (Reconciliation.mentions_write_iff haddressed).1 hmentions
  have hsheet := SyncRun.updates_mem_sheetsFor settings stamp' (Keyed.isEmpty_of_get? hr)
  have htext := Contents.putAll_of_mem (m := m) (SyncRun.nodup_sheetsFor hplain) hsheet
  rw [hnewest.putAll.found_eq hnames, hstamp, Option.elim_some] at hfound
  obtain ⟨-, rfl⟩ := Prod.mk.inj (Except.ok.inj hfound)
  rw [users_takeUpNewer]
  refine users_foldl_takeUp_of_agree (fun name hname id' hid' => ?_) (.inr ⟨updatesName stamp', ?_, ?_⟩)
  · obtain ⟨hname, hupdates⟩ := List.mem_filter.1 hname
    obtain ⟨hname, hnewer⟩ := List.mem_filter.1 hname
    have hheld := (hnames name).1 (mem_sorted.1 hname)
    obtain rfl := eq_updatesName_of_newer hprecedes hplain hstamp hheld hnewer hupdates
    rw [htext, Option.getD_some, Reconciliation.mentions_write_iff haddressed] at hid'
    rw [Reconciliation.mentions_write_iff haddressed] at hmentions
    obtain ⟨r', hr', rfl⟩ := hid'
    obtain ⟨r, hr, rfl⟩ := hmentions
    rw [Option.some.inj (hr'.symm.trans hr)]
  · have hmem : updatesName stamp' ∈ names := (hnames _).2 (by rw [htext]; rfl)
    have hnewer : isNewer stamp (updatesName stamp') = true := by
      rw [isNewer_of_stampOf? ((stampOf?_updatesName stamp').trans hstamp')]
      exact decide_eq_true hlater
    exact List.mem_filter.2 ⟨List.mem_filter.2 ⟨mem_sorted.2 hmem, hnewer⟩, isUpdates_updatesName stamp'⟩
  · rw [htext]
    exact hmentions

end Stash

/-! ## Runs and the folder -/

section Runs

variable {σ : Type} {h : Handler services σ} {holds : σ → Contents → Prop} {settings : SyncSettings}
  {request : SyncRequest} {known : KnownIds} {accounts : List (Row .provisionedUsers)} {outcome : Reconciliation}
  {m : Contents} {s t : σ}

/-- A lookup is answered alike whenever it is made. -/
def SteadyFeed (h : Handler services σ) (holds : σ → Contents → Prop) : Prop :=
  ∀ uids s m s' m', holds s m → holds s' m' → (lookup h uids s).1 = (lookup h uids s').1

theorem steadyFeed_memory (folder : Path) {feed : CampusFeed} (hfeed : feed.failing = []) :
    SteadyFeed World.handler (World.Holds folder feed) := by
  intro uids w m w' m' hw hw'
  show Except.ok (w.query (w.campus.peopleOf uids)) = Except.ok (w'.query (w'.campus.peopleOf uids))
  unfold World.query CampusFeed.refusal?
  rw [hw.campus, hw'.campus, hfeed]
  rfl

namespace SyncRun

/-- With what is known, the accounts come to an outcome. -/
def ComesTo (h : Handler services σ) (holds : σ → Contents → Prop) (settings : SyncSettings) (known : KnownIds)
    (accounts : List (Row .provisionedUsers)) (outcome : Reconciliation) : Prop :=
  ∃ s m skipped t, holds s m ∧ (reconcile settings known accounts).Yields h s (outcome, skipped) t

/-- The accounts come to the same outcome whenever they are reconciled. -/
theorem ComesTo.unique (hserves : ServesFolder h settings.exportDir holds) (hsteady : SteadyFeed h holds)
    {outcome' : Reconciliation} (ho : ComesTo h holds settings known accounts outcome)
    (ho' : ComesTo h holds settings known accounts outcome') : outcome = outcome' := by
  obtain ⟨s, m, skipped, t, hs, hy⟩ := ho
  obtain ⟨s', m', skipped', t', hs', hy'⟩ := ho'
  have hresult := (asks_reconcile settings known accounts).result_eq (h := h) (R := fun s => ∃ m, holds s m)
    (fun c s hc ⟨m, hm⟩ => ⟨m, hserves.keep hm hc.isQuiet.1⟩)
    (fun c s s' hc ⟨m, hm⟩ ⟨m', hm'⟩ => by
      obtain ⟨uids, rfl⟩ := hc
      exact hsteady uids s m s' m' hm hm') ⟨m, hs⟩ ⟨m', hs'⟩
  rw [hy.result, hy'.result] at hresult
  cases hresult
  rfl

/-- The sheets that a run submits, in order. -/
def submissions (h : Handler services σ) (s : σ) (settings : SyncSettings) (request : SyncRequest) : List String :=
  sheetsOf ((run settings request).exchanges h s)

/-- A run went through: with what was known, the wanted accounts of the report came to this outcome, whose sheets were
submitted, and the folder holds `m`. -/
structure Completed (h : Handler services σ) (holds : σ → Contents → Prop) (settings : SyncSettings)
    (request : SyncRequest) (s t : σ) (sheet : Sheet .provisionedUsers) (known : KnownIds) (now : Instant)
    (outcome : Reconciliation) (m : Contents) : Prop where
  time : timeOf? ((run settings request).exchanges h s) = some now
  comes : ComesTo h holds settings known (sheet.toList.filter (isWanted request.uids)) outcome
  submitted : submissions h s settings request = offered settings (sheetsFor settings now.minuteStamp outcome)
  left : holds t m

theorem ComesTo.addressed (ho : ComesTo h holds settings known accounts outcome) :
    Reconciliation.Addressed outcome.updates := by
  obtain ⟨_, _, _, _, -, hy⟩ := ho
  exact Reconciliation.addressed_reconcile hy

theorem Completed.dryRun_eq_false {sheet : Sheet .provisionedUsers} {now : Instant} {text : String}
    (hc : Completed h holds settings request s t sheet known now outcome m)
    (htext : text ∈ submissions h s settings request) : settings.dryRun = false := by
  rw [hc.submitted, offered] at htext
  split at htext
  · cases htext
  · rename_i hdry
    exact Bool.eq_false_iff.2 hdry

/-- A campus ID that is known is mentioned by no sheet that a run submits. -/
theorem Completed.not_mentions {sheet : Sheet .provisionedUsers} {now : Instant}
    (hc : Completed h holds settings request s t sheet known now outcome m) {uid id text : String}
    (hknown : known.hasUser uid = true) (htext : text ∈ submissions h s settings request) :
    ¬ Mentions text uid id := by
  intro hmentions
  rw [hc.submitted] at htext
  obtain ⟨_, _, _, _, -, hy⟩ := hc.comes
  rw [eq_of_mentions htext hmentions] at hmentions
  exact Reconciliation.not_mentions_of_hasUser hknown hy hmentions

theorem isName_of_mem_reportFiles {cached : Bool} {stamp text : String} {file : String × String}
    (hplain : Stash.IsPlain stamp) (hfile : file ∈ reportFiles cached stamp text) : Path.IsName file.1 := by
  cases cached with
  | true => cases hfile
  | false => exact List.mem_singleton.1 hfile ▸ Stash.isName_reportName hplain

theorem holds_clocked (hserves : ServesFolder h settings.exportDir holds) (hs : holds s m) :
    holds (clocked h s) m := hserves.keep (hserves.keep hs rfl) rfl

theorem holds_of_obtained (hserves : ServesFolder h settings.exportDir holds) (hs : holds s m) {cached : Bool}
    {stamp text : String} (hplain : Stash.IsPlain stamp)
    (hy : (obtainReport settings cached stamp).Yields h s (.ok (text, known)) t) :
    holds t (m.putAll (reportFiles cached stamp text)) := by
  rcases leaves_obtainReport hy with ⟨failure, hsource, -⟩ | ⟨text', known', hsource, hleaves⟩
  · cases hsource
  · cases hsource
    exact hserves.holds_of_yields hy hs (fun _ => isName_of_mem_reportFiles hplain) hleaves

/-- A run writes to names in the folder. -/
theorem Course.isName {stamp : String} {result : Except Failure SyncReport} {reports sheets : List (String × String)}
    (hc : Course h settings request stamp s result reports sheets) (hplain : Stash.IsPlain stamp)
    {file : String × String} (hfile : file ∈ reports ++ sheets) : Path.IsName file.1 := by
  cases hc with
  | missing => cases hfile
  | malformed =>
    rw [List.append_nil] at hfile
    exact isName_of_mem_reportFiles hplain hfile
  | done =>
    rcases List.mem_append.1 hfile with hfile | hfile
    · exact isName_of_mem_reportFiles hplain hfile
    · exact isName_of_mem_sheetsFor hplain hfile

/-- A run that reports obtained a well-formed report, and went through. -/
theorem completed_of_yields (hserves : ServesFolder h settings.exportDir holds) (hs : holds s m) {report : SyncReport}
    (hy : (run settings request).Yields h s (.ok report) t) :
    ∃ now text known sheet outcome u,
      (obtainReport settings request.cached now.minuteStamp).Yields h (clocked h s) (.ok (text, known)) u ∧
        Sheet.readStrict .provisionedUsers text = .ok sheet ∧
        Completed h holds settings request s t sheet known now outcome (m.putAll
          (reportFiles request.cached now.minuteStamp text ++ sheetsFor settings now.minuteStamp outcome)) := by
  obtain ⟨now, reports, sheets, htime, hcourse, hleaves⟩ := course_of_yields hy
  have hplain := Stash.isPlain_minuteStamp now
  have hleft := hserves.holds_of_yields hy hs (fun _ => hcourse.isName hplain) hleaves
  cases hcourse with
  | @done _ text known sheet skipped outcome u v obtained read reconciled =>
    have hu := holds_of_obtained hserves (holds_clocked hserves hs) hplain obtained
    exact ⟨now, text, known, sheet, outcome, u, obtained, read, htime, ⟨u, _, skipped, v, hu, reconciled⟩,
      hleaves.sheets, hleft⟩

/-- A run that obtains a well-formed report reports. -/
theorem exists_report_of_obtained (hh : Answers h) {text : String} {sheet : Sheet .provisionedUsers}
    (hobtained : ∀ stamp, ∃ u,
      (obtainReport settings request.cached stamp).Yields h (clocked h s) (.ok (text, known)) u)
    (hread : Sheet.readStrict .provisionedUsers text = .ok sheet) :
    ∃ report t, (run settings request).Yields h s (.ok report) t := by
  obtain ⟨result, t, hy⟩ := exists_yields hh (run settings request) s
  obtain ⟨now, reports, sheets, -, hcourse, -⟩ := course_of_yields hy
  obtain ⟨u, hu⟩ := hobtained now.minuteStamp
  cases hcourse with
  | missing obtained => exact nomatch (hu.unique obtained).1
  | malformed obtained read =>
    cases (hu.unique obtained).1
    exact nomatch hread.symm.trans read
  | done obtained read reconciled => exact ⟨_, t, hy⟩

theorem yields_obtainReport_fresh (hh : Answers h) {text : String}
    (hreport : (h .usersReport s).1 = .ok (.ok text)) (stamp : String) :
    ∃ u, (obtainReport settings false stamp).Yields h s (.ok (text, {})) u := by
  obtain ⟨_, u, hstash⟩ := exists_yields hh
    (stash (Path.join settings.exportDir (Stash.reportName stamp)) text) (h .usersReport s).2
  exact ⟨u, .bind (yields_ask (Prod.ext hreport rfl)) (.bind hstash (yields_pure _ h u))⟩

/-- A fresh run goes through if the directory has a well-formed report. -/
theorem fresh_run (settings : SyncSettings) (hh : Answers h) (hserves : ServesFolder h settings.exportDir holds)
    (hs : holds s m) {text : String} (hreport : (h .usersReport (clocked h s)).1 = .ok (.ok text))
    {sheet : Sheet .provisionedUsers} (hread : Sheet.readStrict .provisionedUsers text = .ok sheet)
    (uids : Option (List String)) :
    ∃ report t now outcome, (run settings ⟨uids, false⟩).Yields h s (.ok report) t ∧
      Completed h holds settings ⟨uids, false⟩ s t sheet {} now outcome
        (m.putAll (reportFiles false now.minuteStamp text ++ sheetsFor settings now.minuteStamp outcome)) := by
  have hobtained (stamp : String) :
      ∃ u, (obtainReport settings false stamp).Yields h (clocked h s) (.ok (text, {})) u :=
    yields_obtainReport_fresh hh hreport stamp
  obtain ⟨report, t, hy⟩ : ∃ report t, (run settings ⟨uids, false⟩).Yields h s (.ok report) t :=
    exists_report_of_obtained hh hobtained hread
  obtain ⟨now, text', known, sheet', outcome, u, hu, hread', hcompleted⟩ := completed_of_yields hserves hs hy
  obtain ⟨v, hv⟩ := hobtained now.minuteStamp
  cases (hu.unique hv).1
  cases hread'.symm.trans hread
  exact ⟨report, t, now, outcome, hy, hcompleted⟩

theorem known_of_obtained {stamp text : String}
    (hy : (obtainReport settings false stamp).Yields h s (.ok (text, known)) t) : known = {} := by
  obtain ⟨reply, u, -, hrest⟩ := yields_bind_iff.1 hy
  cases reply with
  | error reason => exact nomatch (yields_pure_iff.1 hrest).1
  | ok _ =>
    obtain ⟨_, _, -, hpure⟩ := yields_bind_iff.1 hrest
    cases (yields_pure_iff.1 hpure).1
    rfl

/-- A folder with a newest report can be loaded. -/
theorem yields_load_of_newest {folder : Path} (hserves : ServesFolder h folder holds) (hs : holds s m)
    {stamp text : String} (hnewest : Stash.Newest m stamp text) :
    ∃ names report known t, (∀ name, name ∈ names ↔ (m name).isSome = true) ∧
      Stash.found folder m names {} = .ok (report, known) ∧ report.text = text ∧
        (Stash.load folder {}).Yields h s (.ok (report, known)) t := by
  obtain ⟨t, -, ⟨names, hnames, hload⟩ | ⟨failure, hempty, -⟩⟩ := Stash.yields_load hserves hs {}
  · have hfound := hnewest.found_eq hnames folder {}
    rw [hfound] at hload
    exact ⟨names, _, _, t, hnames, hfound, rfl, hload⟩
  · have hheld := hnewest.held
    rw [hempty] at hheld
    cases hheld

/-- A cached run over a folder with a well-formed report goes through. -/
theorem cached_run (hh : Answers h) (hserves : ServesFolder h settings.exportDir holds) (hs : holds s m)
    {stamp text : String} (hnewest : Stash.Newest m stamp text) {sheet : Sheet .provisionedUsers}
    (hread : Sheet.readStrict .provisionedUsers text = .ok sheet) (uids : Option (List String)) :
    ∃ report t names known cached now outcome, (run settings ⟨uids, true⟩).Yields h s (.ok report) t ∧
      (∀ name, name ∈ names ↔ (m name).isSome = true) ∧
        Stash.found settings.exportDir m names {} = .ok (cached, known) ∧
          Completed h holds settings ⟨uids, true⟩ s t sheet known now outcome
            (m.putAll (sheetsFor settings now.minuteStamp outcome)) := by
  obtain ⟨names, cached, known, u, hnames, hfound, rfl, hload⟩ :=
    yields_load_of_newest hserves (holds_clocked hserves hs) hnewest
  have hobtained (stamp' : String) :
      ∃ u, (obtainReport settings true stamp').Yields h (clocked h s) (.ok (cached.text, known)) u :=
    ⟨u, hload.bind (yields_pure _ h u)⟩
  obtain ⟨report, t, hy⟩ : ∃ report t, (run settings ⟨uids, true⟩).Yields h s (.ok report) t :=
    exists_report_of_obtained hh hobtained hread
  obtain ⟨now, text', known', sheet', outcome, u, hu, hread', hcompleted⟩ := completed_of_yields hserves hs hy
  obtain ⟨v, hv⟩ := hobtained now.minuteStamp
  cases (hu.unique hv).1
  cases hread'.symm.trans hread
  exact ⟨report, t, names, known, cached, now, outcome, hy, hnames, hfound, hcompleted⟩

/-- The folder that a fresh run leaves holds nothing later than the run. -/
theorem precedes_putAll (settings : SyncSettings) (outcome : Reconciliation) {stamp : String}
    (hprecedes : Stash.Precedes m stamp) (text : String) :
    Stash.Precedes (m.putAll (reportFiles false stamp text ++ sheetsFor settings stamp outcome)) stamp := by
  refine hprecedes.putAll (fun file hfile hreport => ?_) (fun file hfile => ?_)
  · rcases List.mem_append.1 hfile with hfile | hfile
    · exact List.mem_singleton.1 hfile ▸ String.le_refl _
    · rw [isReport_of_mem_sheetsFor hfile] at hreport
      cases hreport
  · rcases List.mem_append.1 hfile with hfile | hfile
    · exact List.mem_singleton.1 hfile ▸ Stash.stampOf?_reportName stamp
    · exact stampOf?_of_mem_sheetsFor hfile

theorem newest_putAll (settings : SyncSettings) (outcome : Reconciliation) {stamp : String}
    (hprecedes : Stash.Precedes m stamp) (text : String) :
    Stash.Newest (m.putAll (reportFiles false stamp text ++ sheetsFor settings stamp outcome)) stamp text := by
  rw [Contents.putAll_append]
  exact (hprecedes.newest_put text).putAll

/-- Where nothing is later than the newest report, a cached run comes to what a fresh one came to with that report. -/
theorem cached_run_again (hh : Answers h) (hserves : ServesFolder h settings.exportDir holds)
    (hsteady : SteadyFeed h holds) (hs : holds s m) {stamp text : String} (hnewest : Stash.Newest m stamp text)
    (hprecedes : Stash.Precedes m stamp) {sheet : Sheet .provisionedUsers}
    (hread : Sheet.readStrict .provisionedUsers text = .ok sheet) {uids : Option (List String)}
    (ho : ComesTo h holds settings {} (sheet.toList.filter (isWanted uids)) outcome) :
    ∃ report t now, (run settings ⟨uids, true⟩).Yields h s (.ok report) t ∧
      Completed h holds settings ⟨uids, true⟩ s t sheet {} now outcome
        (m.putAll (sheetsFor settings now.minuteStamp outcome)) := by
  obtain ⟨report, t, names, known, cached, now, outcome', hy, hnames, hfound, hcompleted⟩ :=
    cached_run hh hserves hs hnewest hread uids
  cases hfound.symm.trans (hnewest.found_eq_of_precedes hprecedes hnames)
  obtain rfl := hcompleted.comes.unique hserves hsteady ho
  exact ⟨report, t, now, hy, hcompleted⟩

end SyncRun

end Runs

end Registrar

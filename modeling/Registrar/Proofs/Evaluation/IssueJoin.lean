import Mathlib.Data.List.Induction
import Mathlib.Data.Set.Card
import Registrar.Proofs.Batches
import Registrar.Proofs.Evaluation.IssueLog
import Registrar.Proofs.Keyed

/-!
# Logs joined together

Joining a log with another adds up how often each message counts (`count_extend`), and the messages of a row are those
of the first log, then those that only the second one has (`messages_extend`). Logs that are made by recording and
joining have no row without messages and no message that counts zero times (`Sound`, `Reachable.sound`), so two of them
are equal when they have the same messages for every row in the same order and count them alike (`Sound.eq_of_counts`).
Joining such logs is recording everything once more that the second one holds, as often as it counts
(`extend_eq_replay`). From these laws follows that logs form a monoid (`logs_form_monoid`).
-/

namespace Registrar.IssueLog

variable {a b c log other : IssueLog} {held : Option (Keyed Nat)} {place : Place} {sheet key message m : String}

/-! ## The messages of one row -/

/-- What a row holds after messages were counted more often. -/
def joined (held : Option (Keyed Nat)) (counts : List (String × Nat)) : Option (Keyed Nat) :=
  counts.foldl (fun held e => some (bump e.1 e.2 held)) held

theorem messagesIn_joined (held : Option (Keyed Nat)) (counts : List (String × Nat)) :
    messagesIn (joined held counts) = distinct (messagesIn held ++ counts.map Prod.fst) := by
  induction counts using List.reverseRecOn with
  | nil =>
    rw [List.map_nil, List.append_nil, distinct_of_nodup (nodup_messagesIn held)]
    rfl
  | append_singleton counts e ih =>
    rw [List.map_append, List.map_singleton, ← List.append_assoc, distinct_append_singleton, ← ih, joined,
      List.foldl_append]
    show (bump _ _ _).keys = _
    rw [keys_bump]
    refine ite_congr (propext ?_) (fun _ => rfl) fun _ => rfl
    show e.1 ∈ messagesIn (joined held counts) ↔ _
    rw [ih, mem_distinct]

theorem countIn_joined {counts : List (String × Nat)} (hn : (counts.map Prod.fst).Nodup) (held : Option (Keyed Nat))
    (m : String) : countIn (joined held counts) m = countIn held m + (counts.lookup m).getD 0 := by
  induction counts generalizing held with
  | nil => rfl
  | cons e rest ih =>
    obtain ⟨he, hrest⟩ := List.nodup_cons.1 hn
    show countIn (joined (some (bump e.1 e.2 held)) rest) m = _
    rw [ih hrest, countIn_bump, lookup_cons_eq_ite]
    split
    · subst m
      rw [lookup_eq_none he]
      rfl
    · rfl

/-! ## Joining -/

theorem get?_recordCounts (log : IssueLog) (place place' : Place) (counts : List (String × Nat)) :
    (counts.foldl (fun log e => log.recordTimes place e.1 e.2) log).places.get? place' =
      if place' = place then joined (log.places.get? place) counts else log.places.get? place' := by
  induction counts generalizing log with
  | nil =>
    split
    · subst place'
      rfl
    · rfl
  | cons e rest ih =>
    rw [List.foldl_cons, ih, recordTimes, Ordered.get?_update, Ordered.get?_update, if_pos rfl]
    split <;> rfl

/-- What a log holds for a row after it was joined with another. -/
theorem get?_extend (log other : IssueLog) (place : Place) :
    (log.extend other).places.get? place =
      joined (log.places.get? place) (((other.places.get? place).map Keyed.entries).getD []) := by
  have hentries : ∀ (l : List (Place × Keyed Nat)) (log : IssueLog), (l.map Prod.fst).Nodup →
      (l.foldl (fun log e => e.2.entries.foldl (fun log t => log.recordTimes e.1 t.1 t.2) log) log).places.get? place =
        joined (log.places.get? place) (((l.lookup place).map Keyed.entries).getD []) := by
    intro l
    induction l with
    | nil => exact fun _ _ => rfl
    | cons e rest ih =>
      intro log hn
      obtain ⟨he, hrest⟩ := List.nodup_cons.1 hn
      rw [List.foldl_cons, ih _ hrest, get?_recordCounts, lookup_cons_eq_ite]
      split
      · -- the place does not come again
        subst place
        rw [lookup_eq_none he]
        rfl
      · rfl
  rw [extend, issues, List.foldl_map]
  exact hentries other.places.entries log other.places.nodup_keys

theorem messages_extend (log other : IssueLog) (sheet key : String) :
    (log.extend other).messages sheet key = distinct (log.messages sheet key ++ other.messages sheet key) := by
  show messagesIn ((log.extend other).places.get? ⟨sheet, key⟩) = _
  rw [get?_extend, messagesIn_joined]
  congr 2
  show _ = messagesIn (other.places.get? ⟨sheet, key⟩)
  cases other.places.get? ⟨sheet, key⟩ <;> rfl

/-- Behind the messages of the first log stand those that only the second one has. -/
theorem messages_extend_eq_append (log other : IssueLog) (sheet key : String) :
    (log.extend other).messages sheet key = log.messages sheet key ++
      (other.messages sheet key).filter fun m => m ∉ log.messages sheet key := by
  have hnodup : ∀ log : IssueLog, (log.messages sheet key).Nodup := fun log => nodup_messagesIn _
  rw [messages_extend, distinct_append, distinct_of_nodup (hnodup log), distinct_of_nodup ((hnodup other).filter _)]

theorem count_extend (log other : IssueLog) (sheet key m : String) :
    (log.extend other).count sheet key m = log.count sheet key m + other.count sheet key m := by
  show countIn ((log.extend other).places.get? ⟨sheet, key⟩) m = _ + countIn (other.places.get? ⟨sheet, key⟩) m
  rw [get?_extend, countIn_joined]
  · cases other.places.get? ⟨sheet, key⟩ <;> rfl
  · cases other.places.get? ⟨sheet, key⟩ with
    | none => exact List.nodup_nil
    | some messages => exact messages.nodup_keys

/-! ## Logs without empty rows -/

/-- A row has messages, and each counts. -/
structure Filled (messages : Keyed Nat) : Prop where
  keys_ne : messages.keys ≠ []
  positive : ∀ m n, messages.get? m = some n → 0 < n

/-- Every row of the log has messages, and each counts. -/
def Sound (log : IssueLog) : Prop := ∀ place messages, log.places.get? place = some messages → Filled messages

theorem filled_bump {times : Nat} (htimes : 0 < times) (hheld : ∀ messages, held = some messages → Filled messages) :
    Filled (bump message times held) where
  keys_ne := by
    rw [keys_bump]
    split
    · rename_i hmem
      exact List.ne_nil_of_mem hmem
    · simp
  positive := by
    intro m n hn
    rw [bump, Keyed.get?_insert] at hn
    split at hn
    · cases hn
      omega
    · cases held with
      | none => cases hn
      | some messages => exact (hheld messages rfl).positive m n hn

theorem Filled.joined {counts : List (String × Nat)} (hcounts : ∀ e ∈ counts, 0 < e.2)
    (hheld : ∀ messages, held = some messages → Filled messages) :
    ∀ messages, IssueLog.joined held counts = some messages → Filled messages := by
  induction counts generalizing held with
  | nil => exact hheld
  | cons e rest ih =>
    refine ih (fun e' he' => hcounts e' (List.mem_cons_of_mem _ he')) fun messages hmessages => ?_
    cases hmessages
    exact filled_bump (hcounts e List.mem_cons_self) hheld

theorem sound_empty : Sound empty := fun _ _ h => nomatch h

theorem Sound.record (h : Sound log) (sheet key message : String) : Sound (log.record sheet key message) := by
  intro place messages hmessages
  rw [IssueLog.record, recordTimes, Ordered.get?_update] at hmessages
  split at hmessages
  · cases hmessages
    exact filled_bump Nat.one_pos (h _)
  · exact h place messages hmessages

theorem Sound.positive_of_mem (h : Sound log) {e : Place × Keyed Nat} (he : e ∈ log.places.entries) {t : String × Nat}
    (ht : t ∈ e.2.entries) : 0 < t.2 :=
  (h e.1 e.2 (Ordered.mem_entries_iff.1 he)).positive t.1 t.2 (Keyed.mem_entries_iff.1 ht)

theorem Sound.extend (h : Sound log) (hother : Sound other) : Sound (log.extend other) := by
  intro place messages hmessages
  rw [get?_extend] at hmessages
  refine Filled.joined (fun e he => ?_) (h place) messages hmessages
  cases hplace : other.places.get? place with
  | none => rw [hplace] at he; cases he
  | some found =>
    rw [hplace] at he
    exact hother.positive_of_mem (Ordered.mem_entries_iff.2 hplace) he

/-- Sound logs are equal where they have the same messages for every row and count them alike. -/
theorem Sound.eq_of_counts (ha : Sound a) (hb : Sound b)
    (hmessages : ∀ sheet key, a.messages sheet key = b.messages sheet key)
    (hcount : ∀ sheet key m, a.count sheet key m = b.count sheet key m) : a = b := by
  obtain ⟨places⟩ := a
  obtain ⟨places'⟩ := b
  congr 1
  refine Ordered.eq_of_get? fun place => ?_
  have hkeys : messagesIn (places.get? place) = messagesIn (places'.get? place) := hmessages place.sheet place.key
  have hcounts : ∀ m, countIn (places.get? place) m = countIn (places'.get? place) m := hcount place.sheet place.key
  cases hp : places.get? place with
  | none =>
    cases hp' : places'.get? place with
    | none => rfl
    | some messages' =>
      rw [hp, hp'] at hkeys
      exact absurd hkeys.symm (hb place messages' hp').keys_ne
  | some messages =>
    cases hp' : places'.get? place with
    | none =>
      rw [hp, hp'] at hkeys
      exact absurd hkeys (ha place messages hp).keys_ne
    | some messages' =>
      rw [hp, hp'] at hkeys hcounts
      have hsame : messages.keys = messages'.keys := hkeys
      refine congrArg some (Keyed.eq_of_holds hsame fun m n hn => ?_)
      obtain ⟨n', hn'⟩ := Keyed.mem_keys_iff.1 (hsame ▸ Keyed.mem_keys_iff.2 ⟨n, hn⟩)
      have heq := hcounts m
      rw [countIn, countIn, Option.bind_some, Option.bind_some, hn, hn'] at heq
      rw [hn']
      exact congrArg some heq.symm

theorem extend_empty (log : IssueLog) : log.extend empty = log := rfl

theorem Sound.empty_extend (h : Sound log) : empty.extend log = log := by
  refine Sound.eq_of_counts (sound_empty.extend h) h (fun sheet key => ?_) fun sheet key m => ?_
  · rw [messages_extend]
    exact distinct_of_nodup (nodup_messagesIn _)
  · rw [count_extend]
    exact Nat.zero_add _

theorem Sound.extend_assoc (ha : Sound a) (hb : Sound b) (hc : Sound c) :
    (a.extend b).extend c = a.extend (b.extend c) := by
  refine Sound.eq_of_counts ((ha.extend hb).extend hc) (ha.extend (hb.extend hc)) (fun sheet key => ?_)
    fun sheet key m => ?_
  · simp only [messages_extend_eq_append, List.append_assoc, List.filter_append, List.filter_filter]
    congr 2
    refine List.filter_congr fun m _ => ?_
    by_cases hm : m ∈ a.messages sheet key <;> simp [hm]
  · simp only [count_extend, Nat.add_assoc]

/-! ## Recording everything again -/

theorem bump_bump (message : String) (times times' : Nat) (held : Option (Keyed Nat)) :
    bump message times' (some (bump message times held)) = bump message (times + times') held := by
  have hmem : message ∈ (bump message times held).keys := by
    rw [keys_bump]
    split
    · assumption
    · simp
  refine Keyed.eq_of_get? ?_ fun m => ?_
  · rw [keys_bump message times']
    refine (if_pos hmem).trans ?_
    show (bump message times held).keys = _
    rw [keys_bump, keys_bump]
  · simp only [bump, Option.getD_some, Keyed.get?_insert, if_true, Nat.add_assoc]
    split <;> rfl

/-- Recording a message several times counts it as often. -/
theorem recordAll_replicate (log : IssueLog) (place : Place) (message : String) {times : Nat} (h : 0 < times) :
    log.recordAll place.sheet place.key (List.replicate times message) = log.recordTimes place message times := by
  induction times, h using Nat.le_induction generalizing log with
  | base => rfl
  | succ times _ ih =>
    show (log.recordTimes place message 1).recordAll place.sheet place.key (List.replicate times message) = _
    rw [ih, recordTimes, recordTimes, recordTimes, Ordered.update_update]
    congr 2
    funext held
    rw [bump_bump, Nat.add_comm]

/-- The log with every message of another recorded again, one time after the other. -/
def replay (log other : IssueLog) : IssueLog :=
  other.issues.foldl (fun log e =>
    e.2.foldl (fun log t => log.recordAll e.1.sheet e.1.key (List.replicate t.2 t.1)) log) log

/-- Joining is recording everything again that the other log holds. -/
theorem extend_eq_replay (h : Sound other) : log.extend other = log.replay other := by
  rw [extend, replay, issues, List.foldl_map, List.foldl_map]
  refine List.foldl_ext _ _ _ fun log e he => List.foldl_ext _ _ _ fun log t ht => ?_
  exact (recordAll_replicate log e.1 t.1 (h.positive_of_mem he ht)).symm

/-! ## How many messages there are -/

/-- The messages of all rows, each with its sheet and key. -/
def triples (log : IssueLog) : List (String × String × String) :=
  log.places.entries.flatMap fun e => e.2.keys.map fun m => (e.1.sheet, e.1.key, m)

theorem mem_triples_iff : (sheet, key, m) ∈ log.triples ↔ m ∈ log.messages sheet key := by
  have hmem : m ∈ log.messages sheet key ↔
      ∃ messages, log.places.get? ⟨sheet, key⟩ = some messages ∧ m ∈ messages.keys := by
    rw [messages]
    cases log.places.get? ⟨sheet, key⟩ <;> simp
  simp only [triples, List.mem_flatMap, List.mem_map, Prod.mk.injEq, hmem]
  constructor
  · rintro ⟨e, he, m', hm', rfl, rfl, rfl⟩
    exact ⟨e.2, Ordered.mem_entries_iff.1 he, hm'⟩
  · rintro ⟨messages, hget, hm⟩
    exact ⟨_, Ordered.mem_entries_iff.2 hget, m, hm, rfl, rfl, rfl⟩

theorem nodup_triples (log : IssueLog) : log.triples.Nodup := by
  rw [triples, List.nodup_flatMap]
  constructor
  · intro e _
    exact e.2.nodup_keys.map fun m m' h => (Prod.mk.inj (Prod.mk.inj h).2).2
  · -- rows of different places share no triple
    refine (List.pairwise_map.1 log.places.nodup_keys).imp fun hne t ht ht' => hne ?_
    obtain ⟨m, -, rfl⟩ := List.mem_map.1 ht
    obtain ⟨m', -, h⟩ := List.mem_map.1 ht'
    obtain ⟨hsheet, hrest⟩ := Prod.mk.inj h
    exact (Place.mk.injEq ..).symm ▸ ⟨hsheet.symm, (Prod.mk.inj hrest).1.symm⟩

theorem length_triples (log : IssueLog) : log.triples.length = log.size := by
  rw [triples, size]
  induction log.places.entries with
  | nil => rfl
  | cons e rest ih =>
    rw [List.flatMap_cons, List.length_append, List.length_map, ih]
    show e.2.keys.length + _ = e.2.size + _
    rw [Keyed.keys, List.length_map, Keyed.size]

theorem Sound.mem_messages_iff (h : Sound log) : m ∈ log.messages sheet key ↔ 0 < log.count sheet key m := by
  show m ∈ messagesIn (log.places.get? ⟨sheet, key⟩) ↔ 0 < countIn (log.places.get? ⟨sheet, key⟩) m
  cases hplace : log.places.get? ⟨sheet, key⟩ with
  | none => exact iff_of_false List.not_mem_nil (Nat.lt_irrefl 0)
  | some messages =>
    show m ∈ messages.keys ↔ 0 < (messages.get? m).getD 0
    rw [Keyed.mem_keys_iff]
    cases hm : messages.get? m with
    | none => simp
    | some n => simpa using (h _ messages hplace).positive m n hm

/-- The size of a log is the number of its messages, each told apart by sheet and key. -/
theorem Sound.encard_eq_size (h : Sound log) :
    {t : String × String × String | 0 < log.count t.1 t.2.1 t.2.2}.encard = log.size := by
  have hset : {t : String × String × String | 0 < log.count t.1 t.2.1 t.2.2} = log.triples.toFinset := by
    ext ⟨sheet, key, m⟩
    rw [Finset.mem_coe, List.mem_toFinset, mem_triples_iff, h.mem_messages_iff]
    rfl
  rw [hset, Set.encard_coe_eq_coe_finsetCard, List.toFinset_card_of_nodup log.nodup_triples, length_triples]

theorem Sound.isEmpty_iff (h : Sound log) : log.isEmpty = true ↔ log.size = 0 := by
  rw [← length_triples, List.length_eq_zero_iff, triples, List.flatMap_eq_nil_iff, isEmpty, Ordered.isEmpty,
    List.isEmpty_iff]
  constructor
  · intro hnil e he
    rw [hnil] at he
    cases he
  · intro hall
    refine List.eq_nil_iff_forall_not_mem.2 fun e he => ?_
    exact (h e.1 e.2 (Ordered.mem_entries_iff.1 he)).keys_ne (List.map_eq_nil_iff.1 (hall e he))

/-! ## The monoid of logs -/

/-- A log that recording and joining make from nothing. -/
inductive Reachable : IssueLog → Prop where
  | empty : Reachable empty
  | record {log : IssueLog} : Reachable log → ∀ sheet key message, Reachable (log.record sheet key message)
  | extend {log other : IssueLog} : Reachable log → Reachable other → Reachable (log.extend other)

theorem Reachable.sound (h : Reachable log) : Sound log := by
  induction h with
  | empty => exact sound_empty
  | record _ sheet key message ih => exact ih.record sheet key message
  | extend _ _ ih ih' => exact ih.extend ih'

/-- **Logs form a monoid that counts.** For logs made by recording and joining: joining adds up how often each message
counts and puts the new messages of a row behind the others; it is recording everything again that the other log holds.
The size is the number of messages that count, each told apart by sheet and key, and a log is empty when there are none.
Joining is associative, and nothing is changed by joining with the empty log on either side. -/
theorem logs_form_monoid (ha : Reachable a) (hb : Reachable b) (hc : Reachable c) :
    (∀ sheet key m, (a.extend b).count sheet key m = a.count sheet key m + b.count sheet key m) ∧
    (∀ sheet key, (a.extend b).messages sheet key =
      a.messages sheet key ++ (b.messages sheet key).filter fun m => m ∉ a.messages sheet key) ∧
    (∀ sheet key m, m ∈ a.messages sheet key ↔ 0 < a.count sheet key m) ∧
    a.extend b = a.replay b ∧
    {t : String × String × String | 0 < a.count t.1 t.2.1 t.2.2}.encard = a.size ∧
    (a.isEmpty = true ↔ a.size = 0) ∧
    empty.extend b = b ∧ a.extend empty = a ∧ (a.extend b).extend c = a.extend (b.extend c) :=
  ⟨count_extend a b, messages_extend_eq_append a b, fun _ _ _ => ha.sound.mem_messages_iff,
    extend_eq_replay hb.sound, ha.sound.encard_eq_size, ha.sound.isEmpty_iff, hb.sound.empty_extend, extend_empty a,
    ha.sound.extend_assoc hb.sound hc.sound⟩

/-- Two logs of one row that share a message and meet in two orders. -/
theorem logs_form_monoid_shared :
    let a := (empty.record "courses" "k" "m").record "courses" "k" "n"
    let b := ((empty.record "courses" "k" "p").record "courses" "k" "m").record "students" "k" "m"
    Reachable a ∧ Reachable b ∧ (a.extend b).count "courses" "k" "m" = 2 ∧
      (a.extend b).messages "courses" "k" = ["m", "n", "p"] ∧ (b.extend a).messages "courses" "k" = ["p", "m", "n"] ∧
      {t : String × String × String | 0 < b.count t.1 t.2.1 t.2.2}.encard = 3 ∧
      (a.extend b).extend a = a.extend (b.extend a) := by
  intro a b
  have ha : Reachable a := (Reachable.empty.record ..).record ..
  have hb : Reachable b := ((Reachable.empty.record ..).record ..).record ..
  obtain ⟨hcount, hmessages, -, -, -, -, -, -, hassoc⟩ := logs_form_monoid ha hb ha
  obtain ⟨-, hmessages', -, -, hsize, -, -, -, -⟩ := logs_form_monoid hb ha ha
  refine ⟨ha, hb, (hcount _ _ _).trans (by decide +kernel), (hmessages _ _).trans (by decide +kernel),
    (hmessages' _ _).trans (by decide +kernel), hsize.trans ?_, hassoc⟩
  have hb3 : b.size = 3 := by decide +kernel
  rw [hb3]
  rfl

end Registrar.IssueLog

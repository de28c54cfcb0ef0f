import TexCompletion.Proofs.List.Places
import TexCompletion.Proofs.Record.Listing
import TexCompletion.Proofs.Record.Spelling

/-!
# What a page of a room holds

A room is listed with the newest records first and those of one time in order of creation.
`ListedBefore` is this order for records that are told apart by where they stand in the store, so it also
orders records that are equal; and they stand there in the order in which they were created
(`origins_run`).  A listing is what the store has of the room in this order (`inOrder_listing`).

A page is the beginning of a listing.  `IsPage` says which records these are without naming the listing:
as many as asked for or as there are, in order, and all others behind them.  The main statement is
`page_of_room`, which also compares a page with larger ones and with that of a later time.
-/

namespace TexCompletion

/-- What stays of a record whatever is done to it: its id, room, user and time. -/
def Record.origin (r : Record) : RecordId × RecordId × RecordId × Int :=
  (r.id, r.room, r.user, r.timestamp)

namespace Store

open RecordId (normalize normalize_eq_ok_iff)

/-! ## The order of creation -/

/-- An operation keeps the order of the records that it leaves, and puts what it creates at the end. -/
theorem origins_step (s : Store) (op : Operation) :
    ((s.step op).2.records.map Record.origin).Sublist
      (s.records.map Record.origin ++
        (Entry.created? ⟨op, (s.step op).1⟩).toList.map Record.origin) := by
  have hsame : (s.records.map Record.origin).Sublist (s.records.map Record.origin ++ []) := by
    rw [List.append_nil]
  have hfilter (p : Record → Bool) : ((s.records.filter p).map Record.origin).Sublist
      (s.records.map Record.origin ++ []) :=
    (List.filter_sublist.map _).trans hsame
  have houtcome := outcome_step s op
  generalize s.step op = result at houtcome ⊢
  cases houtcome with
  | failed =>
    rw [created?_of_error]
    exact hsame
  | listed => exact hsame
  | picked => exact hsame
  | created => simp [Entry.created?]
  | updated _ _ hreplaced =>
    obtain ⟨front, r, back, hs, -, -, rfl⟩ := replaceFirst?_eq_some_iff.mp hreplaced
    simp [hs, Record.origin, Entry.created?]
  | deleted => exact hfilter _
  | emptied => exact hfilter _

/-- The records of a store stand in the order in which they were created. -/
theorem origins_run (ops : List Operation) :
    ((run {} ops).2.records.map Record.origin).Sublist
      (((log {} ops).filterMap Entry.created?).map Record.origin) := by
  induction ops using List.reverseRecOn with
  | nil => exact .slnil
  | append_singleton ops op ih =>
    rw [run_concat, log_concat, List.filterMap_append, List.map_append]
    refine (origins_step _ op).trans ?_
    have hcreated (e : Entry) : [e].filterMap Entry.created? = e.created?.toList := by
      cases h : e.created? <;> simp [h]
    rw [hcreated]
    exact ih.append_right _

/-! ## The listing by places -/

/-- The record at the first index is listed before that at the second: it is newer, or of the same time
and was created before. -/
def ListedBefore (records : List Record) (i j : Nat) : Prop :=
  ∃ a b, records[i]? = some a ∧ records[j]? = some b ∧
    (b.timestamp < a.timestamp ∨ b.timestamp = a.timestamp ∧ i < j)

theorem listedBefore_iff {records : List Record} {i j : Nat} :
    ListedBefore records i j ↔
      SortsBefore (fun a b => decide (b.timestamp ≤ a.timestamp)) records i j := by
  refine exists_congr fun a => exists_congr fun b => and_congr_right fun _ => and_congr_right fun _ => ?_
  simp only [decide_eq_true_eq]
  omega

theorem ListedBefore.asymm {records : List Record} (i j : Nat) (h : ListedBefore records i j) :
    ¬ListedBefore records j i := by
  rw [listedBefore_iff] at h ⊢
  exact h.asymm

/-- The record is in the room and, if a time is given, older. -/
def isListed (room : RecordId) (before : Option Int) (r : Record) : Bool :=
  r.room = room ∧ before.all (r.timestamp < ·)

/-- Records that are sorted, the newest first, are in the order of listings. -/
theorem inOrder_newest (records : List Record) :
    InOrder (ListedBefore records) (fun i : Nat => records[i]?)
      (records.mergeSort fun a b => b.timestamp ≤ a.timestamp) :=
  (inOrder_mergeSort newer_trans newer_total records).imp fun _ _ => listedBefore_iff.mpr

variable {s : Store} {room : String} {id : RecordId} {limit : Nat} {before : Option Int}

/-- A listing has all records that are to be listed, in the order of listings. -/
theorem inOrder_listing (s : Store) (id : RecordId) (before : Option Int) :
    InOrder (ListedBefore s.records) (fun i : Nat => s.records[i]?.filter (isListed id before))
      (s.listing id before) := by
  have hlisting : s.listing id before =
      (s.records.mergeSort fun a b => b.timestamp ≤ a.timestamp).filter (isListed id before) :=
    mergeSort_filter newer_trans newer_total _ _
  rw [hlisting]
  exact (inOrder_newest s.records).filter _

theorem length_listing (s : Store) (id : RecordId) (before : Option Int) :
    (s.listing id before).length = s.records.countP (isListed id before) := by
  rw [listing, List.length_mergeSort, List.countP_eq_length_filter]
  rfl

/-- What is older than a time stands at the end of the listing. -/
theorem listing_isSuffix (s : Store) (id : RecordId) (before : Option Int) :
    s.listing id before <:+ s.listing id none := by
  cases before with
  | none => exact List.suffix_refl _
  | some time =>
    have hnone : ∀ later ∈ (none : Option Int), time ≤ later := nofun
    rw [listing_older hnone]
    exact ⟨_, (eq_append_older (pairwise_listing s id none) time).symm⟩

/-! ## Pages -/

/-- The page has the first `limit` of the records that satisfy a predicate, in the order of listings:
they stand at these indices, and those that are left out come behind all of them. -/
structure IsPage (records : List Record) (listed : Record → Bool) (limit : Nat) (page : List Record)
    (places : List Nat) : Prop where
  found : List.Forall₂ (fun i r => records[i]? = some r ∧ listed r = true) places page
  distinct : places.Nodup
  ordered : places.Pairwise (ListedBefore records)
  length : page.length = min limit (records.countP listed)
  others : ∀ i r, records[i]? = some r → listed r = true → i ∉ places →
    ∀ j ∈ places, ListedBefore records j i

/-- The first records of a listing are a page. -/
theorem exists_isPage (s : Store) (id : RecordId) (limit : Nat) (before : Option Int) :
    ∃ places, IsPage s.records (isListed id before) limit ((s.listing id before).take limit) places := by
  obtain ⟨places, hsorted, hall, hfound⟩ := inOrder_listing s id before
  have hfirst : (places.take limit).Pairwise (ListedBefore s.records) :=
    hsorted.sublist (List.take_sublist limit places)
  refine ⟨places.take limit, ?_, InOrder.nodup_of_asymm ListedBefore.asymm hfirst, hfirst, ?_,
    fun i r hi hr hnot j hj => ?_⟩
  · exact (List.forall₂_take limit hfound).imp fun i r h => Option.filter_eq_some_iff.mp h
  · rw [List.length_take, length_listing]
  · -- What is left out stands behind the first places.
    have hmem : i ∈ places := hall i (by simp [hi, hr])
    rw [← List.take_append_drop limit places] at hmem hsorted
    have hrest : i ∈ places.drop limit := (List.mem_append.mp hmem).resolve_left hnot
    exact (List.pairwise_append.mp hsorted).2.2 j hj i hrest

/-- **What a page of a room holds.**  After any operations the records of a store stand in the order in
which they were created.  A page of a room has the first of its records that are older than the given
time, if one is given: the newest first, those of one time in order of creation, each once, as many as
asked for or as there are, and none that is left out comes before one that is not.  If the ids that were
made are distinct, so are those of the page.  A page begins with every smaller one; and one that is
large enough for all records of the room is the end of the page without a time. -/
theorem page_of_room (ops : List Operation) {room : String} {id : RecordId}
    (valid : id.IsSpelling room) (limit : Nat) (before : Option Int) :
    let s := (run {} ops).2
    let created := (log {} ops).filterMap Entry.created?
    (s.records.map Record.origin).Sublist (created.map Record.origin) ∧
    ∃ page places, s.list room limit before = .ok page ∧
      IsPage s.records (isListed id before) limit page places ∧
      ((ops.filterMap Operation.newId?).Nodup → (page.map Record.id).Nodup) ∧
      (∀ larger, limit ≤ larger →
        ∃ longer, s.list room larger before = .ok longer ∧ page <+: longer) ∧
      (s.records.countP (·.room = id) ≤ limit →
        ∃ full, s.list room limit none = .ok full ∧ page <:+ full) := by
  intro s created
  have hlist (limit : Nat) (before : Option Int) :
      s.list room limit before = .ok ((s.listing id before).take limit) :=
    list_of_ok (normalize_eq_ok_iff.mpr valid)
  obtain ⟨places, hpage⟩ := exists_isPage s id limit before
  refine ⟨origins_run ops, _, places, hlist limit before, hpage, fun distinct => ?_,
    fun larger hlarger => ⟨_, hlist larger before, ?_⟩, fun henough => ⟨_, hlist limit none, ?_⟩⟩
  · exact ((List.take_sublist limit _).map Record.id).nodup
      (nodup_ids_listing (nodup_ids_run distinct))
  · exact List.take_prefix_take_left hlarger
  · have hall (before : Option Int) : (s.listing id before).length ≤ limit := by
      rw [length_listing]
      refine Nat.le_trans (List.countP_mono_left fun r _ hr => ?_) henough
      exact decide_eq_true (of_decide_eq_true hr).1
    rw [List.take_of_length_le (hall before), List.take_of_length_le (hall none)]
    exact listing_isSuffix s id before

/-- Of two records of one time the page ends with the one that was created first. -/
theorem page_of_room_two_of_three :
    let id (count : Nat) : RecordId := .stamped 0 0 count
    let room := " 5F1E0C9A2B3C4D5E6F708192\n"
    let roomId : RecordId := .stamped 0x5f1e0c9a 0x2b3c4d5e 0x6f708192
    let user := "000000000000000000000001"
    let ops : List Operation := [.create (id 0) room user "first" 1, .create (id 1) room user "second" 1,
      .create (id 2) room user "late" 3, .create (id 3) room user "newer" 2]
    let s := (run {} ops).2
    let record (count : Nat) (content : String) (timestamp : Int) : Record :=
      ⟨id count, roomId, .stamped 0 0 1, content, timestamp, none⟩
    roomId.IsSpelling room ∧
      ∃ places, IsPage s.records (isListed roomId (some 3)) 2
        [record 3 "newer" 2, record 0 "first" 1] places := by
  intro id room roomId user ops s record
  have hrun : normalize room = .ok roomId ∧
      s.records = [record 0 "first" 1, record 1 "second" 1, record 2 "late" 3, record 3 "newer" 2] := by
    decide +kernel
  obtain ⟨hroom, hrecords⟩ := hrun
  have hlist : s.list room 2 (some 3) = .ok [record 3 "newer" 2, record 0 "first" 1] := by
    simp only [list_of_ok hroom, listing, hrecords, mergeSort_filter newer_trans newer_total,
      mergeSort_cons_eq newer_trans newer_total, List.mergeSort_nil]
    decide +kernel
  have valid : roomId.IsSpelling room := normalize_eq_ok_iff.mp hroom
  obtain ⟨-, page, places, hpage, isPage, -⟩ := page_of_room ops valid 2 (some 3)
  obtain rfl : page = [record 3 "newer" 2, record 0 "first" 1] :=
    Except.ok.inj (hpage.symm.trans hlist)
  exact ⟨valid, places, isPage⟩

end Store

end TexCompletion

import TexCompletion.Proofs.Record.History
import TexCompletion.Proofs.Record.Listing

/-!
# Reading a room page by page

A room is read by pages: each page is asked for with the time of the last record of the page before,
until a page is empty.  Only what is older than that time is listed then, so records of the same time
that did not fit into the page come in no page.

`CutInto` says of a listing and some pages what becomes of every record, page after page; it is what
the pages of a room satisfy (`Paging.cutInto`).  The other statements are about lists that are cut into
pages, by induction on the pages: the pages together are the listing without the records that are
missed (`CutInto.flatten_eq_filter`), and the whole of it if no two records are of one time.
-/

namespace TexCompletion.Store

open RecordId (normalize)

/-- The pages of a room after a time, up to the first that is empty. -/
inductive Paging (s : Store) (room : String) (limit : Nat) :
    Option Int → List (List Record) → Prop
  | done {before : Option Int} (h : s.list room limit before = .ok []) : Paging s room limit before []
  | next {before : Option Int} {page : List Record} {last : Record} {pages : List (List Record)}
      (h : s.list room limit before = .ok page) (hlast : page.getLast? = some last)
      (older : Paging s room limit (some last.timestamp) pages) :
      Paging s room limit before (page :: pages)

/-- A listing is cut into pages: behind each page there are records of the time of its last record,
which are missed, and then older ones, which are cut into the other pages. -/
inductive CutInto : List Record → List (List Record) → Prop
  | nil : CutInto [] []
  | cons {page missed rest : List Record} {last : Record} {pages : List (List Record)}
      (hlast : page.getLast? = some last) (newer : ∀ r ∈ page, last.timestamp ≤ r.timestamp)
      (same : ∀ r ∈ missed, r.timestamp = last.timestamp)
      (older : ∀ r ∈ rest, r.timestamp < last.timestamp) (cut : CutInto rest pages) :
      CutInto (page ++ (missed ++ rest)) (page :: pages)

/-- The record comes after the last record of some page and is of the time of that record. -/
def IsMissed (full : List Record) (pages : List (List Record)) (r : Record) : Prop :=
  ∃ page ∈ pages, ∃ last ∈ page.getLast?, [last, r].Sublist full ∧ r.timestamp = last.timestamp

instance (full : List Record) (pages : List (List Record)) :
    DecidablePred (IsMissed full pages) := fun r =>
  inferInstanceAs (Decidable (∃ page ∈ pages, ∃ last ∈ page.getLast?,
    [last, r].Sublist full ∧ r.timestamp = last.timestamp))

/-! ## Pages of a room -/

/-- Behind the last record of a page that a sorted list begins with come records of its time, and then
all that is older in the list. -/
theorem behind_getLast? {page behind : List Record} {last : Record}
    (sorted : (page ++ behind).Pairwise fun a b => b.timestamp ≤ a.timestamp)
    (hlast : page.getLast? = some last) :
    (∀ r ∈ page, last.timestamp ≤ r.timestamp) ∧ ∃ missed,
      behind = missed ++ (page ++ behind).filter (·.timestamp < last.timestamp) ∧
      ∀ r ∈ missed, r.timestamp = last.timestamp := by
  obtain ⟨front, rfl⟩ := List.getLast?_eq_some_iff.mp hlast
  obtain ⟨hpage, hbehind, hacross⟩ := List.pairwise_append.mp sorted
  have hnewer : ∀ r ∈ front ++ [last], last.timestamp ≤ r.timestamp := by
    have hfront := (List.pairwise_append.mp hpage).2.2
    rw [List.forall_mem_append]
    exact ⟨fun r hr => hfront r hr last List.mem_cons_self, by simp⟩
  have hnone : (front ++ [last]).filter (·.timestamp < last.timestamp) = [] :=
    List.filter_eq_nil_iff.mpr fun r hr => by simpa using hnewer r hr
  refine ⟨hnewer, behind.filter (last.timestamp ≤ ·.timestamp), ?_, fun r hr => ?_⟩
  · rw [List.filter_append, hnone, List.nil_append]
    exact eq_append_older hbehind last.timestamp
  · obtain ⟨hr, hle⟩ := List.mem_filter.mp hr
    exact Int.le_antisymm (hacross last (by simp) r hr) (of_decide_eq_true hle)

variable {s : Store} {room : String} {id : RecordId} {limit : Nat} {before : Option Int}

/-- Behind a page come records of the time of its last record, and then the listing up to that time. -/
theorem listing_of_getLast? {page behind : List Record} {last : Record}
    (hlisting : s.listing id before = page ++ behind) (hlast : page.getLast? = some last) :
    (∀ r ∈ page, last.timestamp ≤ r.timestamp) ∧ ∃ missed,
      behind = missed ++ s.listing id (some last.timestamp) ∧
      ∀ r ∈ missed, r.timestamp = last.timestamp := by
  have hlisted : last ∈ s.listing id before :=
    hlisting ▸ List.mem_append_left behind (List.mem_of_getLast? hlast)
  have holder : ∀ later ∈ before, last.timestamp ≤ later := fun later hlater =>
    Int.le_of_lt ((mem_listing.mp hlisted).2.2 later hlater)
  rw [listing_older holder, hlisting]
  exact behind_getLast? (hlisting ▸ pairwise_listing s id before) hlast

/-- A page is what a listing begins with, and nothing only if the listing is empty. -/
theorem listing_of_list {page : List Record} (valid : normalize room = .ok id) (positive : 0 < limit)
    (h : s.list room limit before = .ok page) :
    (∃ behind, s.listing id before = page ++ behind) ∧ (page = [] → s.listing id before = []) := by
  rw [list_of_ok valid, Except.ok.injEq] at h
  subst h
  exact ⟨⟨_, (List.take_append_drop limit _).symm⟩, fun h =>
    (List.take_eq_nil_iff.mp h).resolve_left (Nat.ne_of_gt positive)⟩

/-- Some page is empty. -/
theorem exists_paging (s : Store) (valid : normalize room = .ok id) (positive : 0 < limit)
    (before : Option Int) : ∃ pages, Paging s room limit before pages := by
  generalize hn : (s.listing id before).length = n
  induction n using Nat.strongRecOn generalizing before with
  | _ n ih =>
    obtain ⟨page, hpage⟩ : ∃ page, s.list room limit before = .ok page := ⟨_, list_of_ok valid⟩
    cases hlast : page.getLast? with
    | none =>
      obtain rfl := List.getLast?_eq_none_iff.mp hlast
      exact ⟨[], .done hpage⟩
    | some last =>
      -- The next listing is a part of what is behind the page, and the page is not empty.
      obtain ⟨⟨behind, hlisting⟩, -⟩ := listing_of_list valid positive hpage
      obtain ⟨-, missed, rfl, -⟩ := listing_of_getLast? hlisting hlast
      have hnonempty := List.length_pos_of_mem (List.mem_of_getLast? hlast)
      have hless : (s.listing id (some last.timestamp)).length < n := by
        rw [← hn, hlisting, List.length_append, List.length_append]
        omega
      obtain ⟨pages, hpages⟩ := ih _ hless (some last.timestamp) rfl
      exact ⟨page :: pages, .next hpage hlast hpages⟩

/-- The pages after a time are what the listing up to that time is cut into. -/
theorem Paging.cutInto {pages : List (List Record)} (paging : Paging s room limit before pages)
    (valid : normalize room = .ok id) (positive : 0 < limit) :
    CutInto (s.listing id before) pages := by
  induction paging with
  | done h =>
    rw [(listing_of_list valid positive h).2 rfl]
    exact .nil
  | next h hlast _ ih =>
    obtain ⟨⟨behind, hlisting⟩, -⟩ := listing_of_list valid positive h
    obtain ⟨hnewer, missed, rfl, hsame⟩ := listing_of_getLast? hlisting hlast
    rw [hlisting]
    exact .cons hlast hnewer hsame (fun r hr => (mem_listing.mp hr).2.2 _ rfl) ih

/-! ## Lists that are cut into pages -/

variable {full page missed rest : List Record} {pages : List (List Record)} {last r : Record}

/-- The records of the pages are records of the list, in the same order and no more often. -/
theorem CutInto.sublist (cut : CutInto full pages) : pages.flatten.Sublist full := by
  induction cut with
  | nil => exact .slnil
  | cons _ _ _ _ _ ih =>
    rw [List.flatten_cons]
    exact (ih.trans (List.sublist_append_right _ _)).append_left _

/-- If no two records are of one time, there is nothing that could be missed. -/
theorem CutInto.flatten_of_nodup (cut : CutInto full pages)
    (distinct : (full.map Record.timestamp).Nodup) : pages.flatten = full := by
  induction cut with
  | nil => rfl
  | @cons page missed rest last pages hlast _ hsame _ _ ih =>
    rw [List.map_append, List.map_append, List.nodup_append, List.nodup_append] at distinct
    obtain ⟨-, ⟨-, hrest, -⟩, hacross⟩ := distinct
    have hmissed : missed = [] := by
      refine List.eq_nil_iff_forall_not_mem.mpr fun r hr => ?_
      refine hacross _ (List.mem_map_of_mem (List.mem_of_getLast? hlast)) _
        (List.mem_append_left _ (List.mem_map_of_mem hr)) (hsame r hr).symm
    rw [List.flatten_cons, ih hrest, hmissed, List.nil_append]

/-- What comes after an element in a list without repetitions. -/
theorem pair_sublist_iff {α : Type} {front back : List α} {a b : α}
    (nodup : (front ++ a :: back).Nodup) : [a, b].Sublist (front ++ a :: back) ↔ b ∈ back := by
  induction front with
  | nil => rw [List.nil_append, List.cons_sublist_cons, List.singleton_sublist]
  | cons c front ih =>
    rw [List.cons_append, List.nodup_cons] at nodup
    have hne : a ≠ c := fun h => nodup.1 (h ▸ List.mem_append_right front List.mem_cons_self)
    rw [List.cons_append, List.sublist_cons_iff, ← ih nodup.2]
    simp [hne]

theorem IsMissed.mem (h : IsMissed full pages r) : r ∈ full := by
  obtain ⟨-, -, last, -, hafter, -⟩ := h
  exact hafter.subset (List.mem_cons_of_mem last List.mem_cons_self)

/-- What is missed of a list that is cut into pages is missed behind the first page or later. -/
theorem CutInto.isMissed_cons_iff (cut : CutInto rest pages)
    (nodup : (page ++ (missed ++ rest)).Nodup) (hlast : page.getLast? = some last)
    (same : ∀ r ∈ missed, r.timestamp = last.timestamp)
    (older : ∀ r ∈ rest, r.timestamp < last.timestamp) :
    IsMissed (page ++ (missed ++ rest)) (page :: pages) r ↔ r ∈ missed ∨ IsMissed rest pages r := by
  simp only [IsMissed, List.mem_cons, exists_eq_or_imp, hlast, Option.mem_some_iff, exists_eq_left']
  refine or_congr ?_ (exists_congr fun other => and_congr_right fun hother =>
    exists_congr fun last' => and_congr_right fun hlast' => and_congr_left fun _ => ?_)
  · obtain ⟨front, rfl⟩ := List.getLast?_eq_some_iff.mp hlast
    rw [List.append_assoc, List.singleton_append] at nodup ⊢
    rw [pair_sublist_iff nodup, List.mem_append]
    constructor
    · rintro ⟨hr | hr, htime⟩
      · exact hr
      · exact absurd htime (Int.ne_of_lt (older r hr))
    · exact fun hr => ⟨.inl hr, same r hr⟩
  · have hrest : last' ∈ rest := cut.sublist.subset
      (List.mem_flatten.mpr ⟨other, hother, List.mem_of_getLast? hlast'⟩)
    obtain ⟨front, back, rfl⟩ := List.append_of_mem hrest
    rw [pair_sublist_iff nodup.of_append_right.of_append_right]
    rw [← List.append_assoc, ← List.append_assoc] at nodup ⊢
    exact pair_sublist_iff nodup

/-- **The pages are the list without what is missed**, if the list repeats nothing. -/
theorem CutInto.flatten_eq_filter (cut : CutInto full pages) (nodup : full.Nodup) :
    pages.flatten = full.filter (¬IsMissed full pages ·) := by
  induction cut with
  | nil => rfl
  | @cons page missed rest last pages hlast _ hsame holder cut ih =>
    have hiff (r : Record) := cut.isMissed_cons_iff (r := r) nodup hlast hsame holder
    obtain ⟨-, hbehind, hpage_ne⟩ := List.nodup_append.mp nodup
    obtain ⟨-, hrest, hmissed_ne⟩ := List.nodup_append.mp hbehind
    have hpage : page.filter (¬IsMissed (page ++ (missed ++ rest)) (page :: pages) ·) = page := by
      refine List.filter_eq_self.mpr fun r hr => ?_
      rw [decide_eq_true_iff, hiff]
      rintro (hmissed | hmissed)
      · exact hpage_ne r hr r (List.mem_append_left rest hmissed) rfl
      · exact hpage_ne r hr r (List.mem_append_right missed hmissed.mem) rfl
    have hmissed : missed.filter (¬IsMissed (page ++ (missed ++ rest)) (page :: pages) ·) = [] := by
      refine List.filter_eq_nil_iff.mpr fun r hr => ?_
      simp [hiff, hr]
    have hrest_filter : rest.filter (¬IsMissed (page ++ (missed ++ rest)) (page :: pages) ·) =
        rest.filter (¬IsMissed rest pages ·) := by
      refine List.filter_congr fun r hr => ?_
      have hnot : r ∉ missed := fun h => hmissed_ne r h r hr rfl
      simp [hiff, hnot]
    rw [List.flatten_cons, List.filter_append, List.filter_append, hpage, hmissed, hrest_filter,
      ih hrest, List.nil_append]

/-! ## Reading a room -/

/-- **A room is read page by page.**  Whatever was done to a store, and however many records are asked
for at a time, the pages of a room end.  Behind the last record of each page the listing of the room
goes on with records of its time, which are missed, and then with what the later pages are taken from.
So a record comes in at most one page and there once, the pages together are the listing without the
records that come after the last record of a page and are of its time, and they are the whole listing
if no two of its records are of one time. -/
theorem pages_of_room (ops : List Operation) {room : String} {id : RecordId} {limit : Nat}
    (valid : normalize room = .ok id) (positive : 0 < limit) :
    let s := (run {} ops).2
    ∃ full, (∀ all, s.records.length ≤ all → s.list room all none = .ok full) ∧
      (∃ pages, Paging s room limit none pages) ∧
      ∀ pages, Paging s room limit none pages →
        CutInto full pages ∧ pages.flatten.Sublist full ∧
        ((ops.filterMap Operation.newId?).Nodup →
          (pages.flatten.map Record.id).Nodup ∧
          pages.flatten = full.filter (¬IsMissed full pages ·)) ∧
        ((full.map Record.timestamp).Nodup → pages.flatten = full) := by
  intro s
  refine ⟨s.listing id none, fun all hall => ?_, exists_paging s valid positive none,
    fun pages paging => ?_⟩
  · rw [list_of_ok valid, List.take_of_length_le (Nat.le_trans (length_listing_le s id none) hall)]
  · have cut := paging.cutInto valid positive
    refine ⟨cut, cut.sublist, fun distinct => ?_, cut.flatten_of_nodup⟩
    have hids : ((s.listing id none).map Record.id).Nodup :=
      nodup_ids_listing (nodup_ids_run distinct)
    exact ⟨(cut.sublist.map Record.id).nodup hids, cut.flatten_eq_filter hids.of_map⟩

/-- Two records of one time, of which the first ends a page.  The other is missed. -/
theorem pages_of_room_tie :
    let id (count : Nat) : RecordId := .stamped 0 0 count
    let room := " 5F1E0C9A2B3C4D5E6F708192\n"
    let user := "000000000000000000000001"
    let ops : List Operation := [.create (id 0) room user "old" 1, .create (id 1) room user "first" 2,
      .create (id 2) room user "second" 2, .create (id 3) room user "new" 3]
    let s := (run {} ops).2
    let record (count : Nat) (content : String) (timestamp : Int) : Record :=
      ⟨id count, .stamped 0x5f1e0c9a 0x2b3c4d5e 0x6f708192, .stamped 0 0 1, content, timestamp, none⟩
    let full := [record 3 "new" 3, record 1 "first" 2, record 2 "second" 2, record 0 "old" 1]
    let pages := [[record 3 "new" 3, record 1 "first" 2], [record 0 "old" 1]]
    (ops.filterMap Operation.newId?).Nodup ∧ s.list room 4 none = .ok full ∧
      Paging s room 2 none pages ∧ pages.flatten = full.filter (¬IsMissed full pages ·) := by
  intro id room user ops s record full pages
  have hrun : (ops.filterMap Operation.newId?).Nodup ∧
      normalize room = .ok (.stamped 0x5f1e0c9a 0x2b3c4d5e 0x6f708192) ∧
      s.records = [record 0 "old" 1, record 1 "first" 2, record 2 "second" 2, record 3 "new" 3] := by
    decide +kernel
  obtain ⟨distinct, valid, hrecords⟩ := hrun
  have hlists : s.list room 4 none = .ok full ∧
      s.list room 2 none = .ok [record 3 "new" 3, record 1 "first" 2] ∧
      s.list room 2 (some 2) = .ok [record 0 "old" 1] ∧ s.list room 2 (some 1) = .ok [] := by
    simp only [list_of_ok valid, listing, hrecords, mergeSort_filter newer_trans newer_total,
      mergeSort_cons_eq newer_trans newer_total, List.mergeSort_nil]
    decide +kernel
  obtain ⟨hfull, hfirst, hsecond, hthird⟩ := hlists
  have paging : Paging s room 2 none pages := .next hfirst rfl (.next hsecond rfl (.done hthird))
  obtain ⟨full', hlist, -, hpages⟩ := pages_of_room ops valid (by decide : 0 < 2)
  obtain rfl : full = full' := Except.ok.inj (hfull.symm.trans (hlist 4 (by rw [hrecords]; decide)))
  obtain ⟨-, -, hdistinct, -⟩ := hpages pages paging
  exact ⟨distinct, hfull, paging, (hdistinct distinct).2⟩

end TexCompletion.Store

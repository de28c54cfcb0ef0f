import Mathlib.Data.List.Dedup
import Mathlib.Data.List.Perm.Basic
import TexCompletion.Proofs.Record.Failures
import TexCompletion.Proofs.Record.Page

/-!
# The records of several rooms

The records of several rooms are picked by one test of membership, those of one room by a filter and a
sort.  Both find the same records: what is picked for several rooms is, up to the order, the listings of
these rooms one after the other (`filter_rooms_perm`), each of them once however often it is named
(`roomsNamed`).  What is picked for a single room is its listing, once it is sorted.

The main statement is `records_of_rooms`.
-/

namespace TexCompletion.Store

open RecordId (IsSpelling IsValid FirstInvalid normalize normalize_eq_ok_iff isValid_iff)

/-- The rooms that texts spell, each once. -/
def roomsNamed (texts : List String) : List RecordId :=
  (texts.filterMap fun text => (normalize text).toOption).dedup

variable {texts others : List String} {s : Store} {id : RecordId}

theorem mem_roomsNamed_iff : id ∈ roomsNamed texts ↔ ∃ text ∈ texts, id.IsSpelling text := by
  rw [roomsNamed, List.mem_dedup, List.mem_filterMap]
  refine exists_congr fun text => and_congr_right fun _ => ?_
  rw [← normalize_eq_ok_iff]
  cases normalize text <;> simp [Except.toOption]

theorem nodup_roomsNamed (texts : List String) : (roomsNamed texts).Nodup :=
  List.nodup_dedup _

/-! ## Picking and listing -/

/-- The records of some rooms are picked, in order of creation, if their texts are all ids. -/
theorem listInRooms_of_valid (valid : ∀ text ∈ texts, IsValid text) :
    s.listInRooms texts = .ok (s.records.filter (·.room ∈ roomsNamed texts)) := by
  cases h : texts.mapM normalize with
  | error error =>
    obtain ⟨front, text, back, rfl, -, hinvalid, -⟩ := RecordId.mapM_normalize_eq_error_iff.mp h
    exact absurd (valid text (by simp)) hinvalid
  | ok ids =>
    have hmem (id : RecordId) : id ∈ ids ↔ id ∈ roomsNamed texts := by
      rw [roomsNamed, List.mem_dedup, filterMap_of_mapM_eq_ok h]
    rw [listInRooms, h]
    simp only [← hmem]
    rfl

/-- What is picked for rooms that are told apart is what is picked for each of them. -/
theorem filter_rooms_perm (records : List Record) {ids : List RecordId} (distinct : ids.Nodup) :
    (records.filter (·.room ∈ ids)).Perm (ids.flatMap fun id => records.filter (·.room = id)) := by
  induction ids with
  | nil => simp
  | cons id ids ih =>
    obtain ⟨hid, hids⟩ := List.nodup_cons.mp distinct
    have hhere : (records.filter (·.room ∈ id :: ids)).filter (·.room = id) =
        records.filter (·.room = id) := by
      rw [List.filter_filter]
      exact List.filter_congr fun r _ => by by_cases h : r.room = id <;> simp [h]
    have hothers : (records.filter (·.room ∈ id :: ids)).filter (fun r => !decide (r.room = id)) =
        records.filter (·.room ∈ ids) := by
      rw [List.filter_filter]
      refine List.filter_congr fun r _ => ?_
      by_cases h : r.room = id
      · simp [h, hid]
      · simp [h]
    rw [List.flatMap_cons]
    refine (List.filter_append_perm (·.room = id) _).symm.trans ?_
    rw [hhere, hothers]
    exact (ih hids).append_left _

/-- A listing without a time is what is picked for the room, sorted. -/
theorem listing_none (s : Store) (id : RecordId) :
    s.listing id none =
      (s.records.filter (·.room = id)).mergeSort fun a b => b.timestamp ≤ a.timestamp := by
  have hroom : (s.records.filter fun r => r.room = id ∧ (none : Option Int).all (r.timestamp < ·)) =
      s.records.filter (·.room = id) := by
    simp
  rw [listing, hroom]

/-- The listings of rooms, one after the other, are what is picked for each of them. -/
theorem flatten_listings_perm (s : Store) (ids : List RecordId) :
    (ids.map (s.listing · none)).flatten.Perm
      (ids.flatMap fun id => s.records.filter (·.room = id)) := by
  rw [← List.flatMap_def]
  refine List.Perm.flatMap_left ids fun id _ => ?_
  rw [listing_none]
  exact List.mergeSort_perm _ _

/-- **The records of several rooms.**  They are asked for in vain exactly if one of the texts is no id,
and the error names the first such text.  Otherwise the records of the rooms that are spelled come in the
order in which they were created, each once, and so they do for any other texts that spell the same
rooms.  Up to the order these are the full listings of the rooms, each room taken once, and if there is a
single room, they are its listing as soon as they are sorted, the newest first, with those of one time
left in their order. -/
theorem records_of_rooms (ops : List Operation) (rooms : List String) :
    let s := (run {} ops).2
    let created := (log {} ops).filterMap Entry.created?
    (s.records.map Record.origin).Sublist (created.map Record.origin) ∧
    ((∃ error, s.listInRooms rooms = .error error) ↔ ∃ text ∈ rooms, ¬IsValid text) ∧
    (∀ error, s.listInRooms rooms = .error error ↔ FirstInvalid rooms error) ∧
    ((∀ text ∈ rooms, IsValid text) → ∃ found, s.listInRooms rooms = .ok found ∧
      InOrder (· < ·) (fun i : Nat => s.records[i]?.filter (·.room ∈ roomsNamed rooms)) found ∧
      (∀ others, (∀ text ∈ others, IsValid text) →
        (∀ id : RecordId, (∃ text ∈ others, id.IsSpelling text) ↔ ∃ text ∈ rooms, id.IsSpelling text) →
        s.listInRooms others = .ok found) ∧
      ∀ all, s.records.length ≤ all →
        (∀ texts, List.Forall₂ IsSpelling (roomsNamed rooms) texts →
          ∃ listings, texts.mapM (s.list · all none) = .ok listings ∧ found.Perm listings.flatten) ∧
        ∀ id text, roomsNamed rooms = [id] → id.IsSpelling text → ∀ sorted,
          s.list text all none = .ok sorted ↔
            InOrder (ListedBefore found) (fun i : Nat => found[i]?) sorted) := by
  intro s created
  refine ⟨origins_run ops, ?_, fun error => listInRooms_eq_error_iff, fun valid => ?_⟩
  · simp only [listInRooms_eq_error_iff]
    exact RecordId.exists_firstInvalid_iff
  refine ⟨_, listInRooms_of_valid valid, (InOrder.getElem? s.records).filter _,
    fun others hvalid hsame => ?_, fun all hall => ?_⟩
  · have hrooms (id : RecordId) : id ∈ roomsNamed others ↔ id ∈ roomsNamed rooms := by
      rw [mem_roomsNamed_iff, mem_roomsNamed_iff, hsame]
    rw [listInRooms_of_valid hvalid]
    simp only [hrooms]
  have hlist {id : RecordId} {text : String} (htext : id.IsSpelling text) :
      s.list text all none = .ok (s.listing id none) := by
    rw [list_of_ok (normalize_eq_ok_iff.mpr htext),
      List.take_of_length_le (Nat.le_trans (length_listing_le s id none) hall)]
  refine ⟨fun texts htexts => ?_, ?_⟩
  · have hlistings : List.Forall₂ (fun text listing => s.list text all none = .ok listing) texts
        ((roomsNamed rooms).map (s.listing · none)) :=
      List.forall₂_map_right_iff.mpr (htexts.flip.imp fun _ _ htext => hlist htext)
    refine ⟨_, mapM_eq_ok_iff.mpr hlistings, ?_⟩
    exact (filter_rooms_perm s.records (nodup_roomsNamed rooms)).trans
      (flatten_listings_perm s (roomsNamed rooms)).symm
  · intro id text hsingle htext sorted
    have hfound : s.records.filter (·.room ∈ roomsNamed rooms) = s.records.filter (·.room = id) := by
      simp [hsingle]
    rw [hlist htext, listing_none, hfound, Except.ok.injEq]
    constructor
    · rintro rfl
      exact inOrder_newest _
    · exact (inOrder_newest _).unique ListedBefore.asymm

/-- A room that is named twice, in two spellings, has its records found once. -/
theorem records_of_rooms_named_twice :
    let id (count : Nat) : RecordId := .stamped 0 0 count
    let room := " 5F1E0C9A2B3C4D5E6F708192\n"
    let roomId : RecordId := .stamped 0x5f1e0c9a 0x2b3c4d5e 0x6f708192
    let user := "000000000000000000000001"
    let ops : List Operation := [.create (id 0) room user "first" 1, .create (id 1) user user "other" 3,
      .create (id 2) room user "second" 2]
    let rooms := [room, "5f1e0c9a2b3c4d5e6f708192"]
    let s := (run {} ops).2
    let record (count : Nat) (content : String) (timestamp : Int) : Record :=
      ⟨id count, roomId, .stamped 0 0 1, content, timestamp, none⟩
    let found := [record 0 "first" 1, record 2 "second" 2]
    (∀ text ∈ rooms, IsValid text) ∧ roomsNamed rooms = [roomId] ∧ s.listInRooms rooms = .ok found ∧
      InOrder (ListedBefore found) (fun i : Nat => found[i]?)
        [record 2 "second" 2, record 0 "first" 1] := by
  intro id room roomId user ops rooms s record found
  have hrun : (∀ text ∈ rooms, normalize text = .ok roomId) ∧ roomsNamed rooms = [roomId] ∧
      s.listInRooms rooms = .ok found ∧ s.records.length ≤ 3 ∧
      s.records.filter (·.room = roomId) = found := by
    decide +kernel
  obtain ⟨hrooms, hnamed, hfound, hlength, hroomFound⟩ := hrun
  have valid (text : String) (htext : text ∈ rooms) : roomId.IsSpelling text :=
    normalize_eq_ok_iff.mp (hrooms text htext)
  have hroom : roomId.IsSpelling room := valid room List.mem_cons_self
  obtain ⟨-, -, -, hvalid⟩ := records_of_rooms ops rooms
  obtain ⟨found', hfound', -, -, hlistings⟩ := hvalid fun text htext => ⟨roomId, valid text htext⟩
  obtain rfl : found = found' := Except.ok.inj (hfound.symm.trans hfound')
  have hlist : s.list room 3 none = .ok [record 2 "second" 2, record 0 "first" 1] := by
    simp only [list_of_ok (normalize_eq_ok_iff.mpr hroom), listing_none, hroomFound, found,
      mergeSort_cons_eq newer_trans newer_total, List.mergeSort_nil]
    decide +kernel
  exact ⟨fun text htext => ⟨roomId, valid text htext⟩, hnamed, hfound,
    ((hlistings 3 hlength).2 roomId room hnamed hroom _).mp hlist⟩

end TexCompletion.Store

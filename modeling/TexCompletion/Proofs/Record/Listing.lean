import TexCompletion.Proofs.Record.Operations

/-!
# The listing of a room

A listing is sorted by a stable sort.  Such a sort commutes with leaving out elements
(`mergeSort_filter`), because the place of the first element of a list among the others, once they are
sorted, is where those end that it does not precede (`mergeSort_cons_eq`).  So what is older than a time
is listed in the order of the whole listing (`listing_older`), as the end of it (`eq_append_older`).
-/

namespace TexCompletion.Store

open RecordId (normalize)

/-! ## Stable sorting -/

section StableSort

variable {α : Type} {le : α → α → Bool}
  (trans : ∀ a b c, le a b → le b c → le a c) (total : ∀ a b, le a b || le b a)

include trans total

/-- The first element of a list goes behind those that it does not precede, before all others. -/
theorem mergeSort_cons_eq (a : α) (l : List α) :
    (a :: l).mergeSort le =
      (l.mergeSort le).filter (!le a ·) ++ a :: (l.mergeSort le).filter (le a) := by
  obtain ⟨front, back, hcons, hl, hfront⟩ := List.mergeSort_cons trans total a l
  have hback : ∀ b ∈ back, le a b := by
    have hsorted := List.pairwise_mergeSort trans total (a :: l)
    rw [hcons, List.pairwise_append, List.pairwise_cons] at hsorted
    exact hsorted.2.1.1
  have hfront_not : ∀ b ∈ front, ¬le a b := by simpa using hfront
  have hback_not : ∀ b ∈ back, ¬(!le a b) := by simpa using hback
  rw [hcons, hl, List.filter_append, List.filter_append, List.filter_eq_self.mpr hfront,
    List.filter_eq_self.mpr hback, List.filter_eq_nil_iff.mpr hfront_not,
    List.filter_eq_nil_iff.mpr hback_not, List.append_nil, List.nil_append]

/-- What is left of a list is sorted as it is in the list. -/
theorem mergeSort_filter (p : α → Bool) (l : List α) :
    (l.filter p).mergeSort le = (l.mergeSort le).filter p := by
  induction l with
  | nil => simp
  | cons a l ih =>
    cases h : p a with
    | true =>
      rw [List.filter_cons_of_pos h, mergeSort_cons_eq trans total, mergeSort_cons_eq trans total, ih,
        List.filter_append, List.filter_cons_of_pos h]
      simp only [List.filter_filter, Bool.and_comm]
    | false =>
      obtain ⟨front, back, hcons, hl, -⟩ := List.mergeSort_cons trans total a l
      rw [List.filter_cons_of_neg (by simp [h]), ih, hcons, hl, List.filter_append,
        List.filter_append, List.filter_cons_of_neg (by simp [h])]

end StableSort

/-! ## The listing -/

variable {s : Store} {room : String} {id : RecordId} {limit : Nat} {before : Option Int}

theorem newer_trans (a b c : Record) :
    decide (b.timestamp ≤ a.timestamp) → decide (c.timestamp ≤ b.timestamp) →
      decide (c.timestamp ≤ a.timestamp) := by
  simp only [decide_eq_true_eq]
  omega

theorem newer_total (a b : Record) :
    decide (b.timestamp ≤ a.timestamp) || decide (a.timestamp ≤ b.timestamp) := by
  simp only [Bool.or_eq_true, decide_eq_true_eq]
  omega

/-- The newest records come first. -/
theorem pairwise_listing (s : Store) (id : RecordId) (before : Option Int) :
    (s.listing id before).Pairwise fun a b => b.timestamp ≤ a.timestamp :=
  (List.pairwise_mergeSort newer_trans newer_total _).imp fun h => of_decide_eq_true h

theorem mem_listing {r : Record} :
    r ∈ s.listing id before ↔
      r ∈ s.records ∧ r.room = id ∧ ∀ later ∈ before, r.timestamp < later := by
  cases before <;> simp [listing]

theorem length_listing_le (s : Store) (id : RecordId) (before : Option Int) :
    (s.listing id before).length ≤ s.records.length := by
  rw [listing, List.length_mergeSort]
  exact List.length_filter_le _ _

/-- No record is listed twice. -/
theorem nodup_ids_listing (unique : (s.records.map Record.id).Nodup) :
    ((s.listing id before).map Record.id).Nodup :=
  ((List.mergeSort_perm _ _).map Record.id).nodup_iff.mpr
    ((List.filter_sublist.map Record.id).nodup unique)

/-- A listing up to an earlier time is what is older in the listing. -/
theorem listing_older {time : Int} (h : ∀ later ∈ before, time ≤ later) :
    s.listing id (some time) = (s.listing id before).filter (·.timestamp < time) := by
  rw [listing, listing, ← mergeSort_filter newer_trans newer_total, List.filter_filter]
  congr 1
  refine List.filter_congr fun r _ => ?_
  have hlater (hr : r.timestamp < time) : before.all (r.timestamp < ·) :=
    Option.all_eq_true _ _ |>.mpr fun later hl => decide_eq_true (Int.lt_of_lt_of_le hr (h later hl))
  rw [← Bool.decide_and, decide_eq_decide]
  simp only [Option.all_some, decide_eq_true_eq]
  exact ⟨fun ⟨hroom, hr⟩ => ⟨hr, hroom, hlater hr⟩, fun ⟨hr, hroom, _⟩ => ⟨hroom, hr⟩⟩

/-- What is older than a time stands at the end. -/
theorem eq_append_older {l : List Record} (sorted : l.Pairwise fun a b => b.timestamp ≤ a.timestamp)
    (time : Int) :
    l = l.filter (time ≤ ·.timestamp) ++ l.filter (·.timestamp < time) := by
  induction sorted with
  | nil => rfl
  | @cons r l hr _ ih =>
    by_cases h : time ≤ r.timestamp
    · have hnot : ¬r.timestamp < time := by omega
      simp [h, hnot, ← ih]
    · have hall : ∀ other ∈ r :: l, other.timestamp < time := by
        intro other hother
        rcases List.mem_cons.mp hother with rfl | hother
        · omega
        · have := hr other hother
          omega
      rw [List.filter_eq_nil_iff.mpr fun other hother => by simpa using hall other hother,
        List.filter_eq_self.mpr fun other hother => decide_eq_true (hall other hother),
        List.nil_append]

theorem list_eq_ok_iff {page : List Record} :
    s.list room limit before = .ok page ↔
      ∃ id, normalize room = .ok id ∧ page = (s.listing id before).take limit := by
  simp only [list, bind_eq_ok_iff, pure, Except.pure, Except.ok.injEq, @eq_comm _ page]

theorem list_of_ok (valid : normalize room = .ok id) :
    s.list room limit before = .ok ((s.listing id before).take limit) :=
  list_eq_ok_iff.mpr ⟨id, valid, rfl⟩

end TexCompletion.Store

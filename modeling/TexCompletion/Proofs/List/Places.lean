import Mathlib.Data.List.Induction
import Mathlib.Data.List.Nodup
import Mathlib.Data.List.Forall2

/-!
# Places in lists

Some lists are known by what stands at places that are ordered: indices of another list, or pairs of
indices if that list holds lists.  `InOrder` says of a list that it has what is found at the places, place
by place in their order and nothing else, so that equal things at two places are both there.  If the
order is strict, this determines the list (`InOrder.unique`).

A list is in the order of its own indices, and to map, to filter and to flatten keeps what is in order in
order.  A stable sort is in the order of the sort first and of the indices then (`inOrder_mergeSort`).
-/

namespace TexCompletion

/-! ## Places in a longer list -/

/-- Where a list that is longer by one element can be split: at its last element, or where the shorter
list can. -/
theorem exists_split_concat {α : Type} {l : List α} {a : α} {p : List α → α → List α → Prop} :
    (∃ front b back, l ++ [a] = front ++ b :: back ∧ p front b back) ↔
      p l a [] ∨ ∃ front b back, l = front ++ b :: back ∧ p front b (back ++ [a]) := by
  constructor
  · rintro ⟨front, b, back, h, hp⟩
    rcases List.eq_nil_or_concat back with rfl | ⟨back, last, rfl⟩
    · obtain ⟨rfl, hlast⟩ := List.append_inj' h rfl
      obtain rfl := List.singleton_inj.mp hlast
      exact .inl hp
    · rw [List.concat_eq_append] at h hp
      rw [← List.cons_append, ← List.append_assoc] at h
      obtain ⟨rfl, hlast⟩ := List.append_inj' h rfl
      obtain rfl := List.singleton_inj.mp hlast
      exact .inr ⟨front, b, back, rfl, hp⟩
  · rintro (hp | ⟨front, b, back, rfl, hp⟩)
    · exact ⟨l, a, [], rfl, hp⟩
    · exact ⟨front, b, back ++ [a], by simp, hp⟩

/-! ## The order of places -/

/-- A list holds what is found at places, place by place in their order. -/
def InOrder {ι α : Type} (before : ι → ι → Prop) (find? : ι → Option α) (xs : List α) : Prop :=
  ∃ places : List ι, places.Pairwise before ∧ (∀ place, (find? place).isSome → place ∈ places) ∧
    List.Forall₂ (fun place x => find? place = some x) places xs

namespace InOrder

variable {ι α β : Type} {before : ι → ι → Prop}

/-- A list holds its elements in the order of their indices. -/
theorem getElem? (xs : List α) : InOrder (· < ·) (fun i : Nat => xs[i]?) xs := by
  refine ⟨List.range xs.length, List.pairwise_lt_range, fun i hi => ?_, ?_⟩
  · simpa using hi
  · exact List.forall₂_iff_get.mpr ⟨by simp, fun i hi hi' => by simp [hi']⟩

/-- Places in an order are in every order that has its pairs. -/
theorem imp {before' : ι → ι → Prop} {find? : ι → Option α} {xs : List α}
    (h : InOrder before find? xs) (himp : ∀ i j, before i j → before' i j) :
    InOrder before' find? xs := by
  obtain ⟨places, hsorted, hall, hfound⟩ := h
  exact ⟨places, hsorted.imp (himp _ _), hall, hfound⟩

/-- What is made of each element is found where the element is. -/
theorem map {find? : ι → Option α} {xs : List α} (h : InOrder before find? xs) (f : α → β) :
    InOrder before (fun place => (find? place).map f) (xs.map f) := by
  obtain ⟨places, hsorted, hall, hfound⟩ := h
  refine ⟨places, hsorted, fun place hplace => hall place (by simpa using hplace), ?_⟩
  exact List.forall₂_map_right_iff.mpr
    (hfound.imp fun place x hx => Option.map_eq_some_iff.mpr ⟨x, hx, rfl⟩)

/-- Elements that are left out take their places with them. -/
theorem filterMap {find? : ι → Option α} {xs : List α} (h : InOrder before find? xs)
    (f : α → Option β) : InOrder before (fun place => (find? place).bind f) (xs.filterMap f) := by
  obtain ⟨places, hsorted, hall, hfound⟩ := h
  refine ⟨places.filter fun place => ((find? place).bind f).isSome, hsorted.filter _,
    fun place hplace => ?_, ?_⟩
  · exact List.mem_filter.mpr ⟨hall place (Option.isSome_of_isSome_bind hplace), hplace⟩
  · clear hsorted hall
    induction hfound with
    | nil => exact .nil
    | @cons place x places xs hx _ ih =>
      cases hf : f x with
      | none => simpa [hx, hf] using ih
      | some y => simpa [hx, hf] using ih

/-- Elements are left out together with their places. -/
theorem filter {find? : ι → Option α} {xs : List α} (h : InOrder before find? xs)
    (p : α → Bool) : InOrder before (fun place => (find? place).filter p) (xs.filter p) := by
  rw [← List.filterMap_eq_filter]
  have hguard : (fun place => (find? place).filter p) =
      fun place => (find? place).bind (Option.guard p) := by
    funext place
    cases h : find? place <;> simp [Option.filter, Option.guard]
  rw [hguard]
  exact h.filterMap _

/-- Lists one behind the other: the place in the outer list decides first. -/
theorem flatMap {find? : α → ι → Option β} {f : α → List β} {xs : List α}
    (h : ∀ x ∈ xs, InOrder before (find? x) (f x)) :
    InOrder (Prod.Lex (· < ·) before)
      (fun place : Nat × ι => xs[place.1]?.bind (find? · place.2)) (xs.flatMap f) := by
  induction xs with
  | nil => exact ⟨[], .nil, by simp, .nil⟩
  | cons x xs ih =>
    obtain ⟨here, hhere, hhereAll, hhereFound⟩ := h x List.mem_cons_self
    obtain ⟨later, hlater, hlaterAll, hlaterFound⟩ :=
      ih fun y hy => h y (List.mem_cons_of_mem x hy)
    refine ⟨here.map (0, ·) ++ later.map (fun place => (place.1 + 1, place.2)), ?_, ?_, ?_⟩
    · refine List.pairwise_append.mpr ⟨?_, ?_, fun p hp q hq => ?_⟩
      · exact List.pairwise_map.mpr (hhere.imp fun hpq => .right 0 hpq)
      · refine List.pairwise_map.mpr (hlater.imp fun {p q} hpq => ?_)
        cases hpq with
        | left _ _ h => exact .left _ _ (Nat.succ_lt_succ h)
        | right _ h => exact .right _ h
      · obtain ⟨p, -, rfl⟩ := List.mem_map.mp hp
        obtain ⟨q, -, rfl⟩ := List.mem_map.mp hq
        exact .left _ _ (Nat.succ_pos _)
    · rintro ⟨_ | i, place⟩ hplace
      · exact List.mem_append_left _ (List.mem_map_of_mem (hhereAll place hplace))
      · have hmem := hlaterAll (i, place) hplace
        exact List.mem_append_right _
          (List.mem_map_of_mem (f := fun place => (place.1 + 1, place.2)) hmem)
    · rw [List.flatMap_cons]
      refine List.rel_append ?_ ?_
      · exact List.forall₂_map_left_iff.mpr hhereFound
      · exact List.forall₂_map_left_iff.mpr hlaterFound

/-- The places of a list in order are those where something is found. -/
theorem mem_iff_of_forall₂ {find? : ι → Option α} {places : List ι} {xs : List α}
    (hall : ∀ place, (find? place).isSome → place ∈ places)
    (hfound : List.Forall₂ (fun place x => find? place = some x) places xs) (place : ι) :
    place ∈ places ↔ (find? place).isSome := by
  refine ⟨fun h => ?_, hall place⟩
  clear hall
  induction hfound with
  | nil => cases h
  | cons hx _ ih =>
    rcases List.mem_cons.mp h with rfl | h
    · rw [hx, Option.isSome_some]
    · exact ih h

/-- No place comes twice in a strict order. -/
theorem nodup_of_asymm (asymm : ∀ i j, before i j → ¬before j i) {places : List ι}
    (h : places.Pairwise before) : places.Nodup :=
  h.imp fun {i j} hij (heq : i = j) => asymm i j hij (heq ▸ hij)

/-- In a strict order there is only one list of what is found. -/
theorem unique (asymm : ∀ i j, before i j → ¬before j i) {find? : ι → Option α} {xs ys : List α}
    (hx : InOrder before find? xs) (hy : InOrder before find? ys) : xs = ys := by
  obtain ⟨places, hsorted, hall, hfound⟩ := hx
  obtain ⟨others, hsorted', hall', hfound'⟩ := hy
  have hperm : places.Perm others := by
    refine (List.perm_ext_iff_of_nodup (nodup_of_asymm asymm hsorted)
      (nodup_of_asymm asymm hsorted')).mpr fun place => ?_
    rw [mem_iff_of_forall₂ hall hfound, mem_iff_of_forall₂ hall' hfound']
  obtain rfl : places = others :=
    List.Perm.eq_of_pairwise (fun i j _ _ hij hji => absurd hji (asymm i j hij)) hsorted hsorted' hperm
  clear hsorted hall hsorted' hall' hperm
  induction hfound generalizing ys with
  | nil => cases hfound'; rfl
  | cons hx _ ih =>
    cases hfound' with
    | cons hy hrest => rw [Option.some.inj (hx.symm.trans hy), ih hrest]

end InOrder

/-! ## Stable sorting -/

/-- Sorting puts one index before another if the element there goes first, or may go first and did. -/
def SortsBefore {α : Type} (le : α → α → Bool) (l : List α) (i j : Nat) : Prop :=
  ∃ a b, l[i]? = some a ∧ l[j]? = some b ∧ le a b ∧ (le b a → i < j)

section StableSort

variable {α : Type} {le : α → α → Bool}

theorem SortsBefore.asymm {l : List α} {i j : Nat} (h : SortsBefore le l i j) :
    ¬SortsBefore le l j i := by
  rintro ⟨b, a, hj, hi, hba, hji⟩
  obtain ⟨a', b', hi', hj', hab, hij⟩ := h
  obtain rfl := Option.some.inj (hi.symm.trans hi')
  obtain rfl := Option.some.inj (hj.symm.trans hj')
  exact Nat.lt_asymm (hij hba) (hji hab)

/-- A stable sort has all elements in the order of the sort, and those that go in either order in the
order in which they stood. -/
theorem inOrder_mergeSort (trans : ∀ a b c, le a b → le b c → le a c)
    (total : ∀ a b, le a b || le b a) (l : List α) :
    InOrder (SortsBefore le l) (fun i : Nat => l[i]?) (l.mergeSort le) := by
  -- The library sorts the elements with their indices to say what a stable sort is.
  have hperm : (l.zipIdx.mergeSort (List.zipIdxLE le)).Perm l.zipIdx := List.mergeSort_perm _ _
  have hat {p : α × Nat} (hp : p ∈ l.zipIdx.mergeSort (List.zipIdxLE le)) : l[p.2]? = some p.1 :=
    List.mem_zipIdx_iff_getElem?.mp (hperm.mem_iff.mp hp)
  have hsorted : (l.zipIdx.mergeSort (List.zipIdxLE le)).Pairwise fun p q => List.zipIdxLE le p q :=
    List.pairwise_mergeSort (List.zipIdxLE_trans trans) (List.zipIdxLE_total total) _
  have hdistinct : (l.zipIdx.mergeSort (List.zipIdxLE le)).Pairwise fun p q => p.2 ≠ q.2 := by
    refine List.pairwise_map.mp ((hperm.map Prod.snd).nodup_iff.mpr ?_)
    rw [List.zipIdx_map_snd]
    exact List.nodup_range'
  refine ⟨(l.zipIdx.mergeSort (List.zipIdxLE le)).map Prod.snd, ?_, fun i hi => ?_, ?_⟩
  · refine List.pairwise_map.mpr ((hsorted.and hdistinct).imp_of_mem fun {p q} hp hq h => ?_)
    obtain ⟨hle, hne⟩ := h
    unfold List.zipIdxLE at hle
    split at hle
    next hpq =>
      refine ⟨p.1, q.1, hat hp, hat hq, hpq, fun hqp => ?_⟩
      rw [if_pos hqp, decide_eq_true_iff] at hle
      omega
    next => cases hle
  · obtain ⟨a, ha⟩ := Option.isSome_iff_exists.mp hi
    have hmem : (a, i) ∈ l.zipIdx := List.mem_zipIdx_iff_getElem?.mpr ha
    exact List.mem_map.mpr ⟨(a, i), hperm.mem_iff.mpr hmem, rfl⟩
  · have hsort : (l.zipIdx.mergeSort (List.zipIdxLE le)).map Prod.fst = l.mergeSort le :=
      List.mergeSort_zipIdx
    rw [← hsort, List.forall₂_map_left_iff, List.forall₂_map_right_iff, List.forall₂_same]
    exact fun p hp => hat hp

end StableSort

end TexCompletion

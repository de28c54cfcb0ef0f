import Mathlib.Data.List.Induction
import Mathlib.Data.List.Nodup
import TexCompletion.Dictionary
import TexCompletion.Json.Value

/-!
# The members of an object

The members of a value are put in order as they come.  Three facts say what is left of the order and the
repetitions of a text: the names are ascending (`ascending_membersOf`), no name is lost and none
added (`mem_names_membersOf`), and under each name is the last value that came with it
(`lookup_membersOf`).  Each is an induction on the text with the member that came last taken off, and
rests on what one `putMember` does.
-/

namespace TexCompletion

/-- The last of the values under a name. -/
def lastNamed {α : Type} (name : String) (ps : List (String × α)) : Option α :=
  ps.reverse.lookup name

theorem lastNamed_concat {α : Type} (name other : String) (a : α) (ps : List (String × α)) :
    lastNamed name (ps ++ [(other, a)]) = if name = other then some a else lastNamed name ps := by
  rw [lastNamed, List.reverse_concat, lookup_cons_ite, lastNamed]

/-- Where no name comes twice, the last value of a name is its first. -/
theorem lastNamed_of_nodup {α : Type} {ps : List (String × α)} (h : (ps.map Prod.fst).Nodup)
    (name : String) : lastNamed name ps = ps.lookup name := by
  induction ps with
  | nil => rfl
  | cons p ps ih =>
    obtain ⟨k, a⟩ := p
    obtain ⟨hk, hps⟩ := List.nodup_cons.mp h
    have ih : ps.reverse.lookup name = ps.lookup name := ih hps
    rw [lastNamed, List.reverse_cons, List.lookup_append, ih, lookup_cons_ite, lookup_cons_ite]
    split
    next heq =>
      have hnone : ps.lookup name = none := by
        refine List.lookup_eq_none_iff.mpr fun p hp => ?_
        have hmem : p.1 ∈ ps.map Prod.fst := List.mem_map_of_mem hp
        have hne : name ≠ p.1 := fun h => hk (by rwa [← heq, h])
        simpa using hne
      rw [hnone]
      rfl
    next => simp

namespace Json

/-! ## Putting a member in its place -/

theorem mem_names_putMember {name : String} {v : Value} {ms : List (String × Value)}
    {other : String} :
    other ∈ (putMember name v ms).map Prod.fst ↔ other = name ∨ other ∈ ms.map Prod.fst := by
  induction ms with
  | nil => simp [putMember]
  | cons m ms ih =>
    obtain ⟨n, w⟩ := m
    rw [putMember]
    split
    next => simp
    next =>
      split
      next h => simp [h]
      next => rw [List.map_cons, List.mem_cons, ih, List.map_cons, List.mem_cons, or_left_comm]

/-- A member goes where the names stay ascending. -/
theorem ascending_putMember (name : String) (v : Value) {ms : List (String × Value)}
    (h : (ms.map Prod.fst).Pairwise (· < ·)) :
    ((putMember name v ms).map Prod.fst).Pairwise (· < ·) := by
  induction ms with
  | nil => exact List.pairwise_singleton _ _
  | cons m ms ih =>
    obtain ⟨n, w⟩ := m
    obtain ⟨hn, hms⟩ := List.pairwise_cons.mp h
    rw [putMember]
    split
    next hlt =>
      refine List.pairwise_cons.mpr ⟨fun other hother => ?_, h⟩
      obtain rfl | hother := List.mem_cons.mp hother
      · exact hlt
      · exact String.lt_trans hlt (hn other hother)
    next hge =>
      split
      next heq =>
        rw [heq]
        exact h
      next hne =>
        have hlt : n < name := String.not_le.mp fun hle =>
          hne (String.le_antisymm (String.not_lt.mp fun h' => hge h') hle).symm
        refine List.pairwise_cons.mpr ⟨fun other hother => ?_, ih hms⟩
        obtain rfl | hother := mem_names_putMember.mp hother
        · exact hlt
        · exact hn other hother

/-- A member replaces what was under its name and leaves the others. -/
theorem lookup_putMember (name : String) (v : Value) (ms : List (String × Value)) (other : String) :
    (putMember name v ms).lookup other = if other = name then some v else ms.lookup other := by
  induction ms with
  | nil => rw [putMember, lookup_cons_ite]
  | cons m ms ih =>
    obtain ⟨n, w⟩ := m
    rw [putMember]
    split
    next => rw [lookup_cons_ite]
    next =>
      split
      next h =>
        rw [lookup_cons_ite, lookup_cons_ite, ← h]
        split <;> rfl
      next hne =>
        rw [lookup_cons_ite, lookup_cons_ite, ih]
        split
        next h => rw [if_neg fun h' : other = name => hne (h'.symm.trans h)]
        next => rfl

/-! ## Members in the order of a text -/

/-- A member that is read last is put in its place last. -/
theorem membersOf_concat (pairs : List (String × Value)) (name : String) (v : Value) :
    membersOf (pairs ++ [(name, v)]) = putMember name v (membersOf pairs) := by
  rw [membersOf, List.foldl_append]
  rfl

/-- The names are ascending. -/
theorem ascending_membersOf (pairs : List (String × Value)) :
    ((membersOf pairs).map Prod.fst).Pairwise (· < ·) := by
  induction pairs using List.reverseRecOn with
  | nil => exact .nil
  | append_singleton pairs pair ih =>
    rw [membersOf_concat]
    exact ascending_putMember _ _ ih

theorem nodup_names_membersOf (pairs : List (String × Value)) :
    ((membersOf pairs).map Prod.fst).Nodup :=
  (ascending_membersOf pairs).nodup

/-- The names are those of the text. -/
theorem mem_names_membersOf {pairs : List (String × Value)} {name : String} :
    name ∈ (membersOf pairs).map Prod.fst ↔ name ∈ pairs.map Prod.fst := by
  induction pairs using List.reverseRecOn with
  | nil => rfl
  | append_singleton pairs pair ih =>
    rw [membersOf_concat, mem_names_putMember, ih, List.map_append, List.mem_append, or_comm,
      List.map_singleton, List.mem_singleton]

/-- Under a name is the last value that the text has under it. -/
theorem lookup_membersOf (pairs : List (String × Value)) (name : String) :
    (membersOf pairs).lookup name = lastNamed name pairs := by
  induction pairs using List.reverseRecOn with
  | nil => rfl
  | append_singleton pairs pair ih =>
    rw [membersOf_concat, lookup_putMember, ih, lastNamed_concat]

end Json

end TexCompletion

/-!
# Dictionaries in order of entry

A dictionary from strings that remembers the order in which its keys came in.  Putting a value under
a key that is there keeps the place of the key; erasing closes the gap.  That each key occurs once
is part of the type (`Dictionary.distinct`), so the operations need no precondition.
-/

namespace TexCompletion

/-- Replaces the value under a key, or adds the pair at the end. -/
def putPair {α : Type} (key : String) (value : α) : List (String × α) → List (String × α)
  | [] => [(key, value)]
  | (k, v) :: rest => if k = key then (key, value) :: rest else (k, v) :: putPair key value rest

/-- Putting keeps the keys in place and adds a new one at the end. -/
theorem keys_putPair {α : Type} (key : String) (value : α) (ps : List (String × α)) :
    (putPair key value ps).map Prod.fst =
      if key ∈ ps.map Prod.fst then ps.map Prod.fst else ps.map Prod.fst ++ [key] := by
  induction ps with
  | nil => simp [putPair]
  | cons p ps ih =>
    obtain ⟨k, v⟩ := p
    rw [putPair]
    split
    next h => simp [h]
    next h =>
      simp only [List.map_cons, List.mem_cons, Ne.symm h, false_or, ih]
      split <;> simp

/-- If no key occurs twice, putting changes the one pair of the key, or adds a pair at the end. -/
theorem putPair_eq {α : Type} {key : String} {value : α} {ps : List (String × α)}
    (distinct : (ps.map Prod.fst).Nodup) :
    putPair key value ps =
      if key ∈ ps.map Prod.fst then ps.map fun p => if p.1 = key then (key, value) else p
      else ps ++ [(key, value)] := by
  induction ps with
  | nil => rfl
  | cons p ps ih =>
    obtain ⟨k, v⟩ := p
    obtain ⟨hk, hps⟩ := List.nodup_cons.mp distinct
    rw [putPair]
    split
    next heq =>
      subst heq
      have hothers : (ps.map fun p => if p.1 = k then (k, value) else p) = ps := by
        refine (List.map_congr_left fun q hq => if_neg ?_).trans (List.map_id ps)
        have hmem : q.1 ∈ ps.map Prod.fst := List.mem_map_of_mem hq
        exact fun h => hk (h ▸ hmem)
      rw [List.map_cons, List.map_cons, hothers, if_pos List.mem_cons_self, if_pos rfl]
    next hne =>
      rw [ih hps]
      simp only [List.map_cons, List.mem_cons, Ne.symm hne, false_or, if_neg hne, List.cons_append]
      split <;> rfl

/-- Looking a key up compares it with the first key, then goes on. -/
theorem lookup_cons_ite {α : Type} (key k : String) (v : α) (ps : List (String × α)) :
    ((k, v) :: ps).lookup key = if key = k then some v else ps.lookup key := by
  rw [List.lookup_cons]
  by_cases h : key = k
  · simp [h]
  · rw [if_neg h, beq_false_of_ne h]

/-- After putting, the key has the new value and the others have what they had. -/
theorem lookup_putPair {α : Type} (key : String) (value : α) (ps : List (String × α))
    (other : String) :
    (putPair key value ps).lookup other = if other = key then some value else ps.lookup other := by
  induction ps with
  | nil => rw [putPair, lookup_cons_ite]
  | cons p ps ih =>
    obtain ⟨k, v⟩ := p
    rw [putPair]
    by_cases hk : k = key
    · subst hk
      rw [if_pos rfl, lookup_cons_ite, lookup_cons_ite]
      split <;> rfl
    · rw [if_neg hk, lookup_cons_ite, lookup_cons_ite, ih]
      split
      next ho => rw [ho, if_neg hk]
      next => rfl

/-- After erasing, the key has no value and the others have what they had. -/
theorem lookup_filter_ne {α : Type} (key : String) (ps : List (String × α)) (other : String) :
    (ps.filter (·.1 ≠ key)).lookup other = if other = key then none else ps.lookup other := by
  induction ps with
  | nil => simp
  | cons p ps ih =>
    obtain ⟨k, v⟩ := p
    by_cases hk : k = key
    · subst hk
      rw [List.filter_cons_of_neg (by simp), ih, lookup_cons_ite]
      split <;> rfl
    · rw [List.filter_cons_of_pos (by simpa using hk), lookup_cons_ite, lookup_cons_ite, ih]
      split
      next ho => rw [ho, if_neg hk]
      next => rfl

/-- Takes the pair of a key out of a list, in one pass: the value, if the key is there, and the pairs
that are left. -/
def takePair {α : Type} (key : String) : List (String × α) → Option α × List (String × α)
  | [] => (none, [])
  | (k, v) :: rest =>
    if k = key then (some v, rest)
    else
      let (taken, left) := takePair key rest
      (taken, (k, v) :: left)

theorem takePair_sublist {α : Type} (key : String) (ps : List (String × α)) :
    (takePair key ps).2.Sublist ps := by
  induction ps with
  | nil => exact .slnil
  | cons p ps ih =>
    obtain ⟨k, v⟩ := p
    rw [takePair]
    split
    · exact List.sublist_cons_self _ _
    · exact ih.cons_cons (k, v)

/-- If no key occurs twice, a pair is taken out by looking its key up and leaving the key out. -/
theorem takePair_eq {α : Type} {key : String} {ps : List (String × α)}
    (distinct : (ps.map Prod.fst).Nodup) :
    takePair key ps = (ps.lookup key, ps.filter (·.1 ≠ key)) := by
  induction ps with
  | nil => rfl
  | cons p ps ih =>
    obtain ⟨k, v⟩ := p
    obtain ⟨hk, hps⟩ := List.nodup_cons.mp distinct
    rw [takePair, lookup_cons_ite]
    split
    next heq =>
      subst heq
      have hothers : ps.filter (·.1 ≠ k) = ps := by
        refine List.filter_eq_self.mpr fun q hq => decide_eq_true ?_
        have hmem : q.1 ∈ ps.map Prod.fst := List.mem_map_of_mem hq
        exact fun h => hk (h ▸ hmem)
      rw [if_pos rfl, List.filter_cons_of_neg (by simp), hothers]
    next hne => rw [if_neg (Ne.symm hne), ih hps, List.filter_cons_of_pos (by simpa using hne)]

/-- A dictionary whose keys keep their order of entry. -/
structure Dictionary (α : Type) where
  /-- The pairs, in order. -/
  toList : List (String × α)
  /-- No key occurs twice. -/
  distinct : (toList.map Prod.fst).Nodup

namespace Dictionary

variable {α : Type}

instance [DecidableEq α] : DecidableEq (Dictionary α) := fun a b =>
  if h : a.toList = b.toList then
    .isTrue (by cases a; cases b; simp_all)
  else .isFalse fun e => h (e ▸ rfl)

theorem ext {a b : Dictionary α} (h : a.toList = b.toList) : a = b := by
  cases a; cases b; simp_all

instance : EmptyCollection (Dictionary α) := ⟨⟨[], List.nodup_nil⟩⟩

instance : Inhabited (Dictionary α) := ⟨∅⟩

/-- The keys, in order. -/
def keys (d : Dictionary α) : List String :=
  d.toList.map Prod.fst

/-- The values, in the order of their keys. -/
def values (d : Dictionary α) : List α :=
  d.toList.map Prod.snd

/-- The value under a key. -/
def get? (d : Dictionary α) (key : String) : Option α :=
  d.toList.lookup key

/-- The dictionary with a value put under a key. -/
def put (d : Dictionary α) (key : String) (value : α) : Dictionary α where
  toList := putPair key value d.toList
  distinct := by
    rw [keys_putPair]
    split
    · exact d.distinct
    next h =>
      refine List.nodup_append.mpr ⟨d.distinct, by simp, fun a ha b hb => ?_⟩
      rw [List.mem_singleton.mp hb]
      rintro rfl
      exact h ha

/-- The dictionary without a key. -/
def erase (d : Dictionary α) (key : String) : Dictionary α where
  toList := d.toList.filter (·.1 ≠ key)
  distinct := (List.Sublist.map _ List.filter_sublist).nodup d.distinct

/-- The value under a key, if there is one, and the dictionary without the key. -/
def take (d : Dictionary α) (key : String) : Option α × Dictionary α :=
  ((takePair key d.toList).1,
    { toList := (takePair key d.toList).2
      distinct := ((takePair_sublist key d.toList).map _).nodup d.distinct })

/-- The dictionary of a list of pairs.  A key that is repeated keeps its first place and takes its
last value. -/
def ofList (ps : List (String × α)) : Dictionary α :=
  ps.foldl (fun d (key, value) => d.put key value) ∅

@[simp] theorem toList_empty : (∅ : Dictionary α).toList = [] := rfl

@[simp] theorem toList_put (d : Dictionary α) (key : String) (value : α) :
    (d.put key value).toList = putPair key value d.toList := rfl

@[simp] theorem toList_erase (d : Dictionary α) (key : String) :
    (d.erase key).toList = d.toList.filter (·.1 ≠ key) := rfl

/-- Putting changes the pair of the key, or adds one at the end. -/
theorem toList_put_eq (d : Dictionary α) (key : String) (value : α) :
    (d.put key value).toList =
      if key ∈ d.keys then d.toList.map fun p => if p.1 = key then (key, value) else p
      else d.toList ++ [(key, value)] :=
  putPair_eq d.distinct

/-- Putting keeps the keys in place and adds a new one at the end. -/
theorem keys_put (d : Dictionary α) (key : String) (value : α) :
    (d.put key value).keys = if key ∈ d.keys then d.keys else d.keys ++ [key] :=
  keys_putPair key value d.toList

@[simp] theorem get?_empty (key : String) : (∅ : Dictionary α).get? key = none := rfl

/-- After putting, the key has the new value and the others have what they had. -/
theorem get?_put (d : Dictionary α) (key : String) (value : α) (other : String) :
    (d.put key value).get? other = if other = key then some value else d.get? other :=
  lookup_putPair key value d.toList other

theorem get?_put_self (d : Dictionary α) (key : String) (value : α) :
    (d.put key value).get? key = some value := by
  rw [get?_put, if_pos rfl]

/-- After erasing, the key has no value and the others have what they had. -/
theorem get?_erase (d : Dictionary α) (key other : String) :
    (d.erase key).get? other = if other = key then none else d.get? other :=
  lookup_filter_ne key d.toList other

/-- To take a key out is to look it up and to erase it. -/
theorem take_eq (d : Dictionary α) (key : String) : d.take key = (d.get? key, d.erase key) := by
  have htake : takePair key d.toList = (d.get? key, (d.erase key).toList) := takePair_eq d.distinct
  have hvalue : (d.take key).1 = d.get? key := congrArg Prod.fst htake
  have hrest : (d.take key).2 = d.erase key := ext (congrArg Prod.snd htake)
  exact Prod.ext hvalue hrest

/-- Erasing takes a key away and leaves the others in order. -/
theorem keys_erase (d : Dictionary α) (key : String) :
    (d.erase key).keys = d.keys.filter (· ≠ key) := by
  simp [keys, List.filter_map, Function.comp_def]

/-- The pairs are the keys with their values. -/
theorem mem_toList_iff {d : Dictionary α} {key : String} {value : α} :
    (key, value) ∈ d.toList ↔ d.get? key = some value := by
  rw [get?, List.lookup_eq_some_iff]
  constructor
  · intro h
    obtain ⟨front, back, hlist⟩ := List.append_of_mem h
    refine ⟨front, back, hlist, fun p hp => ?_⟩
    have hdistinct := d.distinct
    rw [hlist, List.map_append, List.nodup_append] at hdistinct
    simpa using (hdistinct.2.2 p.1 (List.mem_map_of_mem hp) key (by simp)).symm
  · rintro ⟨front, back, hlist, -⟩
    simp [hlist]

/-- The keys are those that have a value. -/
theorem mem_keys_iff {d : Dictionary α} {key : String} :
    key ∈ d.keys ↔ ∃ value, d.get? key = some value := by
  simp only [keys, List.mem_map, ← mem_toList_iff, Prod.exists, exists_and_right, exists_eq_right]

theorem mem_keys_put {d : Dictionary α} {key : String} {value : α} {other : String} :
    other ∈ (d.put key value).keys ↔ other = key ∨ other ∈ d.keys := by
  rw [keys_put]
  split
  next h => exact ⟨.inr, fun hother => hother.elim (· ▸ h) id⟩
  next => rw [List.mem_append, List.mem_singleton, or_comm]

theorem mem_keys_erase {d : Dictionary α} {key other : String} :
    other ∈ (d.erase key).keys ↔ other ≠ key ∧ other ∈ d.keys := by
  rw [keys_erase, List.mem_filter, decide_eq_true_iff, and_comm]

end Dictionary

end TexCompletion

import Mathlib.Data.List.Induction
import TexCompletion.Proofs.List.Places
import TexCompletion.Proofs.Registry.Enumeration

/-!
# The documents of a registry after its changes

A registry is changed by setting and removing documents.  What it holds then can be read off the
changes alone: the documents whose last change was to be set (`LastSet`), in the order in which they
came in (`EntersAt`).  A document comes in with a set that finds it not registered, unless it is removed
later on, so it has the place of its first set since it was last taken out.  `IsListing` puts this
together and leaves no choice: two listings of the same changes are equal (`IsListing.unique`).

All facts about a run of changes are inductions from its end.  Their steps say what one more change
makes of the reading: `lastSet_concat` and `entersAt_concat`.  The main statement is
`listing_after_changes`: the registry has the listing of its changes, what is read from it and taken out
of it agrees with the listing, and one more change sets a document in its place, takes it out without
moving the others, or adds it at the end.
-/

namespace TexCompletion

namespace Registry

/-! ## Changes -/

/-- A change of the registry. -/
inductive Change where
  /-- A document contributes packages. -/
  | set (document : String) (packages : PackageCommands)
  /-- A document is forgotten. -/
  | remove (document : String)

/-- Makes a change. -/
def apply (r : Registry) : Change → Registry
  | .set document packages => r.set document packages
  | .remove document => r.remove document

/-- The registry that changes build up from nothing. -/
def replay (changes : List Change) : Registry :=
  changes.foldl apply {}

/-- The document that is set or removed. -/
def Change.document : Change → String
  | .set document _ => document
  | .remove document => document

/-! ## Reading the changes -/

/-- The last change of a document is to set it to packages. -/
def LastSet (changes : List Change) (document : String) (packages : PackageCommands) : Prop :=
  ∃ earlier last since, changes = earlier ++ last :: since ∧ last = .set document packages ∧
    ∀ later ∈ since, later.document ≠ document

/-- A document is registered after changes if the last of its changes is a set. -/
def IsRegistered (changes : List Change) (document : String) : Prop :=
  ∃ packages, LastSet changes document packages

/-- The change at a place brings a document in for good: it sets the document, which is not registered
before it, and no later change removes the document. -/
def EntersAt (changes : List Change) (document : String) (place : Nat) : Prop :=
  ∃ earlier change since, changes = earlier ++ change :: since ∧
    earlier.length = place ∧ (∃ packages, change = .set document packages) ∧
    ¬IsRegistered earlier document ∧ .remove document ∉ since

/-- The first document comes in before the second. -/
def EntersBefore (changes : List Change) (first second : String) : Prop :=
  ∃ i j, EntersAt changes first i ∧ EntersAt changes second j ∧ i < j

/-- The documents that changes leave, each once and with the packages that it was last set to, in the
order in which they came in. -/
structure IsListing (changes : List Change) (documents : List (String × PackageCommands)) : Prop where
  once : (documents.map Prod.fst).Nodup
  mem_iff : ∀ document packages,
    (document, packages) ∈ documents ↔ LastSet changes document packages
  ordered : (documents.map Prod.fst).Pairwise (EntersBefore changes)

/-! ## One more change -/

section Concat

variable {changes : List Change} {change : Change} {document : String} {packages : PackageCommands}

theorem not_lastSet_nil : ¬LastSet [] document packages := by
  rintro ⟨earlier, last, since, h, -⟩
  simp at h

/-- The last change decides, or is about another document. -/
theorem lastSet_concat :
    LastSet (changes ++ [change]) document packages ↔
      change = .set document packages ∨
        change.document ≠ document ∧ LastSet changes document packages := by
  rw [LastSet, exists_split_concat]
  refine or_congr (by simp) ?_
  simp only [List.forall_mem_append, List.forall_mem_singleton, ← and_assoc, exists_and_right]
  rw [and_comm]
  simp only [LastSet, and_assoc]

theorem isRegistered_concat :
    IsRegistered (changes ++ [change]) document ↔
      (∃ packages, change = .set document packages) ∨
        change.document ≠ document ∧ IsRegistered changes document := by
  simp only [IsRegistered, lastSet_concat, exists_or, exists_and_left]

theorem not_isRegistered_nil : ¬IsRegistered [] document :=
  fun ⟨_, h⟩ => not_lastSet_nil h

theorem not_entersAt_nil {place : Nat} : ¬EntersAt [] document place := by
  rintro ⟨earlier, change, since, h, -⟩
  simp at h

/-- The last change brings in a document that it sets, if it was not registered.  Those that came in
before have their places still, unless it removes them. -/
theorem entersAt_concat {place : Nat} :
    EntersAt (changes ++ [change]) document place ↔
      (changes.length = place ∧ (∃ packages, change = .set document packages) ∧
        ¬IsRegistered changes document) ∨
      change ≠ .remove document ∧ EntersAt changes document place := by
  rw [EntersAt, exists_split_concat]
  refine or_congr (by simp) ?_
  simp only [List.mem_append, List.mem_singleton, not_or, ← and_assoc, exists_and_right]
  rw [and_comm]
  simp only [EntersAt, and_assoc, ne_comm (a := change), ne_eq]

end Concat

/-! ## Where documents come in -/

section Entrance

variable {changes : List Change} {document : String}

theorem EntersAt.lt_length {place : Nat} (h : EntersAt changes document place) :
    place < changes.length := by
  obtain ⟨earlier, change, since, rfl, rfl, -⟩ := h
  simp

/-- The documents that are registered are those that came in somewhere. -/
theorem isRegistered_iff_exists_entersAt :
    IsRegistered changes document ↔ ∃ place, EntersAt changes document place := by
  induction changes using List.reverseRecOn with
  | nil => exact iff_of_false not_isRegistered_nil fun ⟨_, h⟩ => not_entersAt_nil h
  | append_singleton changes change ih =>
    simp only [isRegistered_concat, entersAt_concat, exists_or, exists_and_left, ← ih]
    -- Only a change of the document itself makes a difference.
    by_cases hregistered : IsRegistered changes document
    · cases change with
      | set other packages => simp [hregistered, Change.document, em]
      | remove other => simp [hregistered, Change.document]
    · simp [hregistered]

/-- A document comes in at one place only. -/
theorem EntersAt.unique {i j : Nat} (hi : EntersAt changes document i)
    (hj : EntersAt changes document j) : i = j := by
  induction changes using List.reverseRecOn with
  | nil => exact absurd hi not_entersAt_nil
  | append_singleton changes change ih =>
    rw [entersAt_concat] at hi hj
    rcases hi with ⟨rfl, -, hnew⟩ | ⟨-, hi⟩ <;> rcases hj with ⟨rfl, -, hnew'⟩ | ⟨-, hj⟩
    · rfl
    · exact absurd (isRegistered_iff_exists_entersAt.mpr ⟨j, hj⟩) hnew
    · exact absurd (isRegistered_iff_exists_entersAt.mpr ⟨i, hi⟩) hnew'
    · exact ih hi hj

theorem EntersBefore.asymm {first second : String} (h : EntersBefore changes first second) :
    ¬EntersBefore changes second first := by
  obtain ⟨i, j, hi, hj, hlt⟩ := h
  rintro ⟨j', i', hj', hi', hlt'⟩
  rw [hj.unique hj', hi.unique hi'] at hlt
  omega

/-- A further change leaves the order of two documents, unless it removes one of them. -/
theorem EntersBefore.concat {change : Change} {first second : String}
    (h : EntersBefore changes first second) (hfirst : change ≠ .remove first)
    (hsecond : change ≠ .remove second) : EntersBefore (changes ++ [change]) first second := by
  obtain ⟨i, j, hi, hj, hlt⟩ := h
  exact ⟨i, j, entersAt_concat.mpr (.inr ⟨hfirst, hi⟩), entersAt_concat.mpr (.inr ⟨hsecond, hj⟩), hlt⟩

end Entrance

/-- The changes leave no choice in what to list, and in which order. -/
theorem IsListing.unique {changes : List Change} {documents others : List (String × PackageCommands)}
    (h : IsListing changes documents) (h' : IsListing changes others) : documents = others := by
  have hperm : documents.Perm others := by
    refine (List.perm_ext_iff_of_nodup h.once.of_map h'.once.of_map).mpr fun ⟨document, packages⟩ => ?_
    rw [h.mem_iff, h'.mem_iff]
  have hordered := List.pairwise_map.mp h.ordered
  have hordered' := List.pairwise_map.mp h'.ordered
  exact List.Perm.eq_of_pairwise (fun _ _ _ _ hab hba => absurd hba hab.asymm) hordered hordered' hperm

/-! ## The registry -/

variable (changes : List Change)

theorem replay_concat (change : Change) :
    replay (changes ++ [change]) = (replay changes).apply change := by
  rw [replay, List.foldl_concat, replay]

variable {changes} in
/-- A document has the packages that it was last set to. -/
theorem get?_replay {document : String} {packages : PackageCommands} :
    (replay changes).get? document = some packages ↔ LastSet changes document packages := by
  induction changes using List.reverseRecOn with
  | nil => exact iff_of_false nofun not_lastSet_nil
  | append_singleton changes change ih =>
    rw [replay_concat, lastSet_concat, ← ih]
    cases change with
    | set other packages' =>
      have hget : ((replay changes).apply (.set other packages')).get? document =
          if document = other then some packages' else (replay changes).get? document :=
        Dictionary.get?_put _ _ _ _
      rw [hget]
      by_cases h : document = other
      · simp [h, Change.document]
      · simp [h, Change.document, Ne.symm h]
    | remove other =>
      have hget : ((replay changes).apply (.remove other)).get? document =
          if document = other then none else (replay changes).get? document :=
        Dictionary.get?_erase _ _ _
      rw [hget]
      by_cases h : document = other
      · simp [h, Change.document]
      · simp [h, Change.document, Ne.symm h]

variable {changes} in
/-- The documents of the registry are those that are registered. -/
theorem mem_keys_replay {document : String} :
    document ∈ (replay changes).documents.keys ↔ IsRegistered changes document := by
  rw [Dictionary.mem_keys_iff]
  exact exists_congr fun _ => get?_replay

/-- The documents of the registry stand in the order in which they came in. -/
theorem ordered_replay : (replay changes).documents.keys.Pairwise (EntersBefore changes) := by
  induction changes using List.reverseRecOn with
  | nil => exact .nil
  | append_singleton changes change ih =>
    rw [replay_concat]
    cases change with
    | set document packages =>
      have hkept : (replay changes).documents.keys.Pairwise
          (EntersBefore (changes ++ [.set document packages])) :=
        ih.imp fun h => h.concat nofun nofun
      have hkeys : ((replay changes).apply (.set document packages)).documents.keys =
          if document ∈ (replay changes).documents.keys then (replay changes).documents.keys
          else (replay changes).documents.keys ++ [document] := Dictionary.keys_put _ _ _
      rw [hkeys]
      split
      next => exact hkept
      next hnew =>
        -- What is new comes in now, and all others came in before.
        rw [mem_keys_replay] at hnew
        refine List.pairwise_append.mpr ⟨hkept, List.pairwise_singleton _ _, fun other hother d hd => ?_⟩
        obtain rfl := List.mem_singleton.mp hd
        obtain ⟨place, hplace⟩ :=
          isRegistered_iff_exists_entersAt.mp (mem_keys_replay.mp hother)
        exact ⟨place, changes.length, entersAt_concat.mpr (.inr ⟨nofun, hplace⟩),
          entersAt_concat.mpr (.inl ⟨rfl, ⟨packages, rfl⟩, hnew⟩), hplace.lt_length⟩
    | remove document =>
      have hkeys : ((replay changes).apply (.remove document)).documents.keys =
          (replay changes).documents.keys.filter (· ≠ document) := Dictionary.keys_erase _ _
      rw [hkeys]
      refine (ih.filter _).imp_of_mem fun {first second} hfirst hsecond h => ?_
      have hne {other : String}
          (hother : other ∈ (replay changes).documents.keys.filter (· ≠ document)) :
          Change.remove document ≠ .remove other := by
        have : other ≠ document := of_decide_eq_true (List.mem_filter.mp hother).2
        simpa using this.symm
      exact h.concat (hne hfirst) (hne hsecond)

/-- The registry has the listing of its changes. -/
theorem isListing_replay : IsListing changes (replay changes).documents.toList where
  once := (replay changes).documents.distinct
  mem_iff _ _ := Dictionary.mem_toList_iff.trans get?_replay
  ordered := ordered_replay changes

theorem take_eq (r : Registry) (document : String) :
    r.take document = (r.get? document, r.remove document) := by
  rw [take, Dictionary.take_eq]
  rfl

/-- **The documents after any changes.**  The registry has the only listing there is of the changes: each
document whose last change was a set, once, with the packages of that set, in the order of the first
set since the document was last taken out.  A document is found exactly if it is listed, and to take it
out gives the packages it is listed with, or nothing, and leaves the registry that one more removal
leaves.  A document that is set again keeps its place, a removal closes the gap and moves no other
document, and what is set after its removal goes to the end.  The package names and the commands with
their documents and packages are those of the listing, in its order, and equal ones of two documents
are all there. -/
theorem listing_after_changes (changes : List Change) :
    let r := replay changes
    let documents := r.documents.toList
    (∀ listing, IsListing changes listing ↔ listing = documents) ∧
    (∀ document packages,
      r.get? document = some packages ↔ (document, packages) ∈ documents) ∧
    (∀ document,
      r.take document = (r.get? document, replay (changes ++ [.remove document]))) ∧
    (∀ document packages, (replay (changes ++ [.set document packages])).documents.toList =
      if document ∈ documents.map Prod.fst then
        documents.map fun listed => if listed.1 = document then (document, packages) else listed
      else documents ++ [(document, packages)]) ∧
    (∀ document, (replay (changes ++ [.remove document])).documents.toList =
      documents.filter (·.1 ≠ document)) ∧
    (∀ document packages,
      (replay (changes ++ [.remove document, .set document packages])).documents.toList =
        documents.filter (·.1 ≠ document) ++ [(document, packages)]) ∧
    InOrder (Prod.Lex (· < ·) (· < ·)) r.packageAt? r.packageNames ∧
    InOrder Earlier r.contributionAt? r.commands := by
  intro r documents
  have hset (changes : List Change) (document : String) (packages : PackageCommands) :
      (replay (changes ++ [.set document packages])).documents =
        (replay changes).documents.put document packages := by
    rw [replay_concat]
    rfl
  have hremove (document : String) :
      replay (changes ++ [.remove document]) = r.remove document := replay_concat _ _
  refine ⟨fun listing => ⟨fun h => h.unique (isListing_replay changes), ?_⟩,
    fun document packages => Dictionary.mem_toList_iff.symm, fun document => ?_,
    fun document packages => ?_, fun document => ?_, fun document packages => ?_,
    r.inOrder_packageNames, r.inOrder_contributions⟩
  · rintro rfl
    exact isListing_replay changes
  · rw [hremove, take_eq]
  · rw [hset]
    exact Dictionary.toList_put_eq _ _ _
  · rw [hremove]
    rfl
  · have hgone : document ∉ (r.remove document).documents.keys := fun h =>
      (Dictionary.mem_keys_erase.mp h).1 rfl
    rw [← List.singleton_append, ← List.append_assoc, hset, hremove, Dictionary.toList_put_eq,
      if_neg hgone]
    rfl

/-- The first document is set again in its place, taken out, and set once more behind the others; a
removal of what is not there changes nothing. -/
example :
    let packages (name : String) : PackageCommands := .ofList [(name, [])]
    let changes : List Change := [
      .set "a" (packages "one"), .set "b" (packages "two"), .set "a" (packages "three"),
      .remove "c", .remove "a", .set "c" (packages "four"), .set "a" (packages "two")]
    (replay (changes.take 4)).documents.keys = ["a", "b"] ∧
      (replay changes).documents.keys = ["b", "c", "a"] ∧
      (replay changes).packageNames = ["two", "four", "two"] := by
  decide +kernel

end Registry

end TexCompletion

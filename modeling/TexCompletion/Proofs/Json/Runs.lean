import TexCompletion.Json.Decoder

/-!
# Runs of readers

A reader is run from a cursor.  What a run comes to is told here for the ways in which readers are put
together, and for those that only move along the text.  Of the latter it matters what they leave of the
text (`Cursor.rest`), not how they count lines and columns.
-/

namespace TexCompletion.Json.Reader

variable {α β : Type} {c c' : Cursor}

/-! ## Readers put together -/

/-- A map changes what was read and leaves faults and the cursor as they are. -/
theorem map_run (f : α → β) (r : Reader α) (c : Cursor) :
    (f <$> r) c =
      match r c with
      | .ok a c' => .ok (f a) c'
      | .error fault c' => .error fault c' := by
  show EStateM.map f r c = _
  rw [EStateM.map]
  cases r c <;> rfl

theorem map_eq_ok_iff {f : α → β} {r : Reader α} {b : β} :
    (f <$> r) c = .ok b c' ↔ ∃ a, r c = .ok a c' ∧ f a = b := by
  rw [map_run]
  cases r c with
  | ok a c'' =>
    simp only [EStateM.Result.ok.injEq, and_assoc, exists_eq_left']
    exact and_comm
  | error => simp

/-- A reader that goes on from another succeeds exactly if both do. -/
theorem bind_eq_ok_iff {r : Reader α} {next : α → Reader β} {b : β} :
    (r >>= next) c = .ok b c' ↔ ∃ a c'', r c = .ok a c'' ∧ next a c'' = .ok b c' := by
  show EStateM.bind r next c = _ ↔ _
  rw [EStateM.bind]
  cases r c with
  | ok a c'' => simp only [EStateM.Result.ok.injEq, and_assoc, exists_and_left, exists_eq_left']
  | error => simp

theorem pure_eq_ok_iff {a b : α} : (pure a : Reader α) c = .ok b c' ↔ a = b ∧ c = c' := by
  show EStateM.Result.ok a c = _ ↔ _
  simp

/-- To place a fault does not change a success. -/
theorem located_eq_ok_iff {r : Reader α} {a : α} : located r c = .ok a c' ↔ r c = .ok a c' := by
  rw [located]
  rcases r c with ⟨b, c''⟩ | ⟨⟨cause, _ | place⟩, c''⟩ <;> simp

/-- A whole text is read if it begins with what is read and nothing but white space follows. -/
theorem onText_eq_ok_iff {r : Reader α} {text : String} {a : α} :
    r.onText text = .ok a ↔ ∃ c c', r (Cursor.start text) = .ok a c ∧ finish c = .ok () c' := by
  have hrun (c' : Cursor) :
      (do let a ← r; finish; return a : Reader α) (Cursor.start text) = .ok a c' ↔
        ∃ c, r (Cursor.start text) = .ok a c ∧ finish c = .ok () c' := by
    simp only [bind_eq_ok_iff, pure_eq_ok_iff]
    constructor
    · rintro ⟨_, c, hr, _, _, hfinish, rfl, rfl⟩
      exact ⟨c, hr, hfinish⟩
    · rintro ⟨c, hr, hfinish⟩
      exact ⟨a, c, hr, (), c', hfinish, rfl, rfl⟩
  rw [exists_comm]
  simp only [← hrun]
  rw [onText, onBeginning]
  cases (do let a ← r; finish; return a : Reader α) (Cursor.start text) <;> simp

/-! ## Moving along the text -/

theorem rest_advance (c : Cursor) : c.advance.rest = c.rest.tail := by
  rw [Cursor.advance]
  split <;> simp [*]

/-- The characters of a class that come next are taken, and what begins with another is left. -/
theorem exists_run_takeWhile (p : Char → Bool) (c : Cursor) :
    ∃ c', takeWhile p c = .ok (c.rest.takeWhile p) c' ∧ c'.rest = c.rest.dropWhile p := by
  have hskip (taken left : List Char) (c : Cursor) (h : c.rest = taken ++ left) :
      ∃ c', (taken.forM fun _ => skip) c = .ok () c' ∧ c'.rest = left := by
    induction taken generalizing c with
    | nil => exact ⟨c, rfl, h⟩
    | cons ch taken ih => exact ih c.advance (by rw [rest_advance, h, List.cons_append, List.tail_cons])
  obtain ⟨c', hrun, hleft⟩ := hskip _ _ c List.takeWhile_append_dropWhile.symm
  refine ⟨c', ?_, hleft⟩
  rw [takeWhile, bind_eq_ok_iff]
  refine ⟨c, c, rfl, ?_⟩
  rw [bind_eq_ok_iff]
  exact ⟨(), c', hrun, rfl⟩

/-- White space is stepped over. -/
theorem exists_run_peekToken (c : Cursor) :
    ∃ c', peekToken c = .ok (c.rest.dropWhile isSpace).head? c' ∧
      c'.rest = c.rest.dropWhile isSpace := by
  obtain ⟨c', hrun, hleft⟩ := exists_run_takeWhile isSpace c
  refine ⟨c', ?_, hleft⟩
  rw [peekToken, bind_eq_ok_iff]
  exact ⟨_, c', hrun, by rw [← hleft]; rfl⟩

end TexCompletion.Json.Reader

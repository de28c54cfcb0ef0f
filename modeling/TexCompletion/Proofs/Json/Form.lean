import Mathlib.Data.List.Forall2
import TexCompletion.Proofs.Except
import TexCompletion.Proofs.Json.Document

/-!
# Records that are read alike

Two forms of records may differ in what they keep of a part and not in what they take.  A form
follows another (`Form.Follows`) if its fields have the names of the other's, take the same text, and
fill a draft that a map makes out of the other's draft.

`Form.Follows.read_eq` says that such a form reads what the other reads, up to the map, for every text:
the faults and the places are the same.  Both ways of writing a record are covered, members by name and
elements in order; the first is the run of `Reader.members_map`, the second an induction on the fields.
-/

namespace TexCompletion.Json

namespace Reader

variable {α β : Type}

theorem map_wrongType (f : α → β) (wanted : String) :
    f <$> (wrongType wanted : Reader α) = wrongType wanted := by
  rw [wrongType, wrongType, map_bind]
  refine bind_congr fun next => ?_
  split
  case h_8 c _ _ _ _ _ _ _ =>
    by_cases hdigit : c.isDigit
    · simp only [*, if_true, map_bind, map_mismatch]
    · simp only [*, Bool.false_eq_true, if_false, map_bind, map_mismatch]
  all_goals simp only [map_bind, map_mismatch]

theorem map_valueOf (f : α → β) (wanted : String) (begin? : Char → Option (Reader α)) :
    f <$> valueOf wanted begin? = valueOf wanted fun c => (f <$> ·) <$> begin? c := by
  rw [valueOf, valueOf, map_located, map_bind]
  refine congrArg located (bind_congr fun next => ?_)
  cases next with
  | none => rfl
  | some c =>
    cases h : begin? c with
    | none => simp only [h, Option.map_eq_map, Option.map_none, map_wrongType]
    | some r => simp only [h, Option.map_eq_map, Option.map_some]

end Reader

namespace Decoder

variable {δ δ' α β : Type}

/-- A field takes what another takes and fills the draft that `draft` makes out of the other's. -/
structure Field.Follows (draft : δ' → δ) (field : Field δ) (field' : Field δ') : Prop where
  name : field.name = field'.name
  isSet : ∀ d, field.isSet (draft d) = field'.isSet d
  fromText : ∀ d, (fun put => put (draft d)) <$> field.value.fromText =
    (fun put => draft (put d)) <$> field'.value.fromText

/-- A field that is made of `f`'s result where another takes the result itself. -/
theorem Field.follows_of {α' : Type} {draft : δ' → δ} {f : α' → α} (name : String) {d : Decoder α}
    {d' : Decoder α'} {get : δ → Option α} {get' : δ' → Option α'} {set : α → δ → δ}
    {set' : α' → δ' → δ'} (hd : d.fromText = f <$> d'.fromText)
    (hget : ∀ e, get (draft e) = (get' e).map f)
    (hset : ∀ a e, set (f a) (draft e) = draft (set' a e)) :
    (Field.of name d get set).Follows draft (Field.of name d' get' set') where
  name := rfl
  isSet e := by simp only [Field.of, hget, Option.isSome_map]
  fromText e := by
    simp only [Field.of, hd, Functor.map_map, hset]

/-- A field that keeps what another keeps, in a draft of another kind. -/
theorem Field.follows_of_same {γ : Type} {draft : δ' → δ} (name : String) {d : Decoder γ}
    {get : δ → Option γ} {get' : δ' → Option γ} {set : γ → δ → δ} {set' : γ → δ' → δ'}
    (hget : ∀ e, get (draft e) = get' e) (hset : ∀ a e, set a (draft e) = draft (set' a e)) :
    (Field.of name d get set).Follows draft (Field.of name d get' set') :=
  Field.follows_of name (id_map' _).symm (fun e => by rw [hget, Option.map_id']) hset

/-- What is read behind the two fields may go on from the drafts that they fill. -/
theorem Field.Follows.read_bind {draft : δ' → δ} {field : Field δ} {field' : Field δ'}
    (h : field.Follows draft field') {f : β → α} {r : δ → Reader α} {r' : δ' → Reader β}
    (hr : ∀ d, r (draft d) = f <$> r' d) (d : δ') :
    (do r ((← field.value.fromText) (draft d))) = f <$> (do r' ((← field'.value.fromText) d)) :=
  calc (field.value.fromText >>= fun put => r (put (draft d)))
      = ((fun put => put (draft d)) <$> field.value.fromText) >>= r := (bind_map_left _ _ _).symm
    _ = field'.value.fromText >>= fun put => r (draft (put d)) := by
        rw [h.fromText, bind_map_left]
    _ = f <$> (field'.value.fromText >>= fun put => r' (put d)) := by
        rw [map_bind]
        exact bind_congr fun put => hr (put d)

/-- A form has the fields of another, up to a map between the drafts, and completes them to the same
records, up to a map between these. -/
structure Form.Follows (draft : δ' → δ) (result : β → α) (form : Form δ α) (form' : Form δ' β) :
    Prop where
  name : form.name = form'.name
  fields : List.Forall₂ (Field.Follows draft) form.fields form'.fields
  isClosed : form.isClosed = form'.isClosed
  empty : form.empty = draft form'.empty
  complete : ∀ d, form.complete (draft d) = result <$> form'.complete d
  completeInOrder : ∀ d, form.completeInOrder (draft d) = result <$> form'.completeInOrder d

namespace Form.Follows

variable {draft : δ' → δ} {result : β → α} {form : Form δ α} {form' : Form δ' β}

/-- A name finds a field in both forms or in none. -/
theorem find? {fields : List (Field δ)} {fields' : List (Field δ')}
    (h : List.Forall₂ (Field.Follows draft) fields fields') (name : String) :
    Option.Rel (Field.Follows draft) (fields.find? (·.name == name))
      (fields'.find? (·.name == name)) := by
  induction h with
  | nil => exact .none
  | cons hfield _ ih =>
    rw [List.find?_cons, List.find?_cons, hfield.name]
    split
    next => exact .some hfield
    next => exact ih

theorem names {fields : List (Field δ)} {fields' : List (Field δ')}
    (h : List.Forall₂ (Field.Follows draft) fields fields') :
    fields.map (·.name) = fields'.map (·.name) := by
  induction h with
  | nil => rfl
  | cons hfield _ ih => rw [List.map_cons, List.map_cons, hfield.name, ih]

theorem unknown (h : form.Follows draft result form') (name : String) :
    form.unknown name = form'.unknown name := by
  rw [Form.unknown, Form.unknown, names h.fields]

theorem tooShort (h : form.Follows draft result form') (length : Nat) :
    form.tooShort length = form'.tooShort length := by
  rw [Form.tooShort, Form.tooShort, h.name, h.fields.length_eq]

/-- A member is read alike into drafts that belong together. -/
theorem readMember (h : form.Follows draft result form') (name : String) (d : δ') :
    form.readMember name (draft d) = draft <$> form'.readMember name d := by
  rw [Form.readMember, Form.readMember, h.isClosed, h.unknown]
  have hfound := find? h.fields name
  generalize form.fields.find? (·.name == name) = found,
    form'.fields.find? (·.name == name) = found' at hfound ⊢
  cases hfound with
  | none =>
    simp only
    split
    next => rfl
    next => simp only [map_bind, map_pure]
  | some hfield =>
    simp only [hfield.isSet]
    split
    next => rfl
    next =>
      rw [map_bind]
      exact bind_congr fun _ => hfield.read_bind (fun _ => (map_pure draft _).symm) d

theorem close (h : form.Follows draft result form') (length : Nat) (d : δ') :
    readInOrder.close form length (draft d) = result <$> readInOrder.close form' length d := by
  rw [readInOrder.close, readInOrder.close, h.completeInOrder, h.tooShort]
  cases form'.completeInOrder d <;> rfl

/-- Elements are read alike.  The drafts belong together after every element. -/
theorem readInOrder (h : form.Follows draft result form') {fields : List (Field δ)}
    {fields' : List (Field δ')} (hfields : List.Forall₂ (Field.Follows draft) fields fields')
    (length : Nat) (first : Bool) (d : δ') :
    form.readInOrder length first fields (draft d) =
      result <$> form'.readInOrder length first fields' d := by
  induction hfields generalizing length first d with
  | nil => exact h.close length d
  | @cons field field' fields fields' hfield _ ih =>
    rw [Form.readInOrder, Form.readInOrder, map_bind]
    refine bind_congr fun more => ?_
    cases more with
    | false => exact h.close length d
    | true =>
      simp only [if_true]
      exact hfield.read_bind (ih (length + 1) false) d

/-- **A form that follows another reads what the other reads**, up to the map between the records. -/
theorem read_eq (h : form.Follows draft result form') : form.read = result <$> form'.read := by
  rw [Form.read, Form.read, Reader.map_valueOf, h.name]
  refine congrArg (Reader.valueOf form'.name) (funext fun c => ?_)
  split
  next =>
    refine congrArg some ?_
    simp only
    rw [Reader.map_enclosed, h.empty, h.readInOrder h.fields]
  split
  next =>
    refine congrArg some ?_
    simp only
    rw [Reader.map_enclosed, h.empty, Reader.members_map h.readMember, bind_map_left, map_bind]
    refine congrArg (Reader.enclosed · _) (bind_congr fun d => ?_)
    rw [h.complete]
    cases form'.complete d <;> rfl
  next => rfl

end Form.Follows

/-! ## Members of a value -/

/-- A member of the name of a field fills the field in, if its value is of the right form and the field
was not filled in before. -/
theorem Form.putMember_eq_ok_iff {γ : Type} (form : Form δ α) {name : String} {d : Decoder γ}
    {get : δ → Option γ} {set : γ → δ → δ}
    (hfind : form.fields.find? (·.name == name) = some (.of name d get set)) {v : Value}
    {draft draft' : δ} :
    form.putMember draft (name, v) = .ok draft' ↔
      get draft = none ∧ ∃ a, d.fromValue v = .ok a ∧ draft' = set a draft := by
  simp only [Form.putMember, hfind, Field.of]
  cases hget : get draft with
  | some b => simp
  | none => cases d.fromValue v <;> simp [bind, Except.bind, Functor.map, Except.map, pure,
      Except.pure, eq_comm]

end Decoder

end TexCompletion.Json

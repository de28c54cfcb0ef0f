import TexCompletion.Json.Decoder
import TexCompletion.Proofs.Except

/-!
# Fields and the members that fill them in

A form reads the members of an object one after another into a draft.  For a single field the order and
the other members do not matter: what counts are the values under its name (`valuesUnder`).  There may be
one at most, of the form that the field wants, and if there is none the draft stays as it was (`Fills`).
`fills_append_iff` is the step from one member to all of them.

A decoder is told by what it accepts if that is a written form of its results.  `exists_fills_iff` says
what such a decoder makes of a field that has a default (`Gives`).

The fields of a form can also be given in order, as the elements of an array.  `Form.putInOrder_eq_foldlM`
says that this is to put the names of the fields back.
-/

namespace TexCompletion.Json

variable {α : Type}

/-! ## The values under a name -/

/-- The values that an object has under a name.  In an object of a document no name comes twice, so there
is one at most. -/
def valuesUnder (name : String) (ms : List (String × Value)) : List Value :=
  (ms.filter (·.1 = name)).map Prod.snd

theorem valuesUnder_append (name : String) (ms ns : List (String × Value)) :
    valuesUnder name (ms ++ ns) = valuesUnder name ms ++ valuesUnder name ns := by
  rw [valuesUnder, List.filter_append, List.map_append, valuesUnder, valuesUnder]

theorem valuesUnder_singleton (name other : String) (v : Value) :
    valuesUnder name [(other, v)] = if other = name then [v] else [] := by
  by_cases h : other = name <;> simp [valuesUnder, h]

/-! ## Filling in a field -/

/-- The field is filled in from the values under its name.  There is none, and it stays as it was; or there
is one, of the right form, and the field was not filled in before. -/
def Fills (d : Decoder α) (vs : List Value) (old new : Option α) : Prop :=
  vs = [] ∧ new = old ∨ old = none ∧ ∃ v a, vs = [v] ∧ d.fromValue v = .ok a ∧ new = some a

theorem fills_nil_iff {d : Decoder α} {old new : Option α} : Fills d [] old new ↔ new = old := by
  simp [Fills]

theorem fills_singleton_iff {d : Decoder α} {v : Value} {old new : Option α} :
    Fills d [v] old new ↔ old = none ∧ ∃ a, d.fromValue v = .ok a ∧ new = some a := by
  simp [Fills]

/-- Values that come one after another fill a field in as they do together. -/
theorem fills_append_iff {d : Decoder α} {vs ws : List Value} {old new : Option α} :
    Fills d (vs ++ ws) old new ↔ ∃ between, Fills d vs old between ∧ Fills d ws between new := by
  constructor
  -- one value in all stands in one of the two lists, and the other list is empty
  · rintro (⟨h, rfl⟩ | ⟨rfl, v, a, h, hv, rfl⟩)
    · obtain ⟨rfl, rfl⟩ := List.append_eq_nil_iff.mp h
      exact ⟨_, .inl ⟨rfl, rfl⟩, .inl ⟨rfl, rfl⟩⟩
    · obtain ⟨rfl, rfl⟩ | ⟨rfl, rfl⟩ := List.append_eq_singleton_iff.mp h
      · exact ⟨none, .inl ⟨rfl, rfl⟩, .inr ⟨rfl, v, a, rfl, hv, rfl⟩⟩
      · exact ⟨some a, .inr ⟨rfl, v, a, rfl, hv, rfl⟩, .inl ⟨rfl, rfl⟩⟩
  · rintro ⟨between, ⟨rfl, rfl⟩ | ⟨rfl, v, a, rfl, hv, rfl⟩, h⟩
    · exact h
    · obtain ⟨rfl, rfl⟩ | ⟨hunset, -⟩ := h
      · exact .inr ⟨rfl, v, a, rfl, hv, rfl⟩
      · cases hunset

/-! ## Fields with a default -/

/-- The values under the name of a field give it the value `a`.  There is one, and it is `a` as it is
written; or there is none, and `a` is the default. -/
def Gives (write : α → Value) (default : α) (vs : List Value) (a : α) : Prop :=
  vs = [write a] ∨ vs = [] ∧ a = default

section Default

variable {d : Decoder α} {write : α → Value} {default : α} {vs : List Value} {a : α}

/-- A field whose decoder accepts the written forms of some values is given one of these or keeps the
default. -/
theorem exists_fills_and_iff {p : α → Prop} (hd : ∀ v a, d.fromValue v = .ok a ↔ v = write a ∧ p a)
    (hdefault : p default) :
    (∃ new, Fills d vs none new ∧ new.getD default = a) ↔ Gives write default vs a ∧ p a := by
  constructor
  · rintro ⟨new, ⟨rfl, rfl⟩ | ⟨-, v, b, rfl, hv, rfl⟩, rfl⟩
    · exact ⟨.inr ⟨rfl, rfl⟩, hdefault⟩
    · obtain ⟨rfl, hb⟩ := (hd v b).mp hv
      exact ⟨.inl rfl, hb⟩
  · rintro ⟨rfl | ⟨rfl, rfl⟩, ha⟩
    · exact ⟨some a, .inr ⟨rfl, _, a, rfl, (hd _ a).mpr ⟨rfl, ha⟩, rfl⟩, rfl⟩
    · exact ⟨none, .inl ⟨rfl, rfl⟩, rfl⟩

/-- A field whose decoder accepts the written forms of all values is given one of them or keeps the
default. -/
theorem exists_fills_iff (hd : ∀ v a, d.fromValue v = .ok a ↔ v = write a) :
    (∃ new, Fills d vs none new ∧ new.getD default = a) ↔ Gives write default vs a := by
  have htrue (v : Value) (a : α) : d.fromValue v = .ok a ↔ v = write a ∧ True := by
    rw [hd, and_true]
  rw [exists_fills_and_iff htrue trivial, and_true]

end Default

/-! ## What decoders accept -/

namespace Decoder

theorem string_fromValue_eq_ok_iff {v : Value} {s : String} :
    string.fromValue v = .ok s ↔ v = .string s := by
  cases v <;> simp [string, parsed]

theorem bool_fromValue_eq_ok_iff {v : Value} {b : Bool} :
    bool.fromValue v = .ok b ↔ v = .bool b := by
  cases v <;> simp [bool]

/-- An integer between the bounds is accepted.  A number that was read as floating point is none. -/
theorem int_fromValue_eq_ok_iff {wanted : String} {least greatest : Int} {v : Value} {k : Int} :
    (int wanted least greatest).fromValue v = .ok k ↔ v = .ofInt k ∧ least ≤ k ∧ k ≤ greatest := by
  cases v with
  | number n =>
    cases n with
    | int i =>
      simp only [int, ofNumber, Value.ofInt, Value.number.injEq, Number.int.injEq]
      split
      next h =>
        rw [Except.ok.injEq]
        exact ⟨fun hik => ⟨hik, hik ▸ h⟩, And.left⟩
      next h =>
        refine iff_of_false nofun fun ⟨hik, hk⟩ => h (hik ▸ hk)
    | float x => simp [int, ofNumber, Value.ofInt]
  | _ => simp [int, Value.ofInt]

theorem int32_fromValue_eq_ok_iff {v : Value} {k : Int} :
    int32.fromValue v = .ok k ↔ v = .ofInt k ∧ -0x80000000 ≤ k ∧ k ≤ 0x7FFFFFFF :=
  int_fromValue_eq_ok_iff

/-- An array is accepted whose elements are. -/
theorem array_fromValue_eq_ok_iff {d : Decoder α} {write : α → Value}
    (hd : ∀ v a, d.fromValue v = .ok a ↔ v = write a) {v : Value} {as : List α} :
    (array d).fromValue v = .ok as ↔ v = .array (as.map write) := by
  have helements (vs : List Value) : vs.mapM d.fromValue = .ok as ↔ vs = as.map write := by
    rw [mapM_eq_ok_iff]
    simp only [hd]
    rw [← List.forall₂_map_right_iff (R := Eq), List.forall₂_eq_eq_eq]
  cases v <;> simp [array, helements]

/-! ## Fields in order -/

section InOrder

variable {δ : Type}

/-- To fill in one of the fields does not fill in another one behind it. -/
def Field.Apart (field later : Field δ) : Prop :=
  ∀ v put draft, field.value.fromValue v = .ok put → later.isSet (put draft) = later.isSet draft

/-- Fields that have places of their own in a draft are filled in apart. -/
theorem Field.Apart.of_isSet {name : String} {d : Decoder α} {get : δ → Option α} {set : α → δ → δ}
    {later : Field δ} (h : ∀ a draft, later.isSet (set a draft) = later.isSet draft) :
    (Field.of name d get set).Apart later := by
  intro v put draft hv
  obtain ⟨a, -, hput⟩ := bind_eq_ok_iff.mp hv
  cases hput
  exact h a draft

/-- Array elements fill in a draft as members do that have them under the names of the fields. -/
theorem Form.putInOrder_eq_foldlM (form : Form δ α) {fields : List (Field δ)}
    (hfind : ∀ field ∈ fields, form.fields.find? (·.name == field.name) = some field)
    (hapart : fields.Pairwise Field.Apart) {draft : δ}
    (hunset : ∀ field ∈ fields, field.isSet draft = false) {vs : List Value}
    (h : vs.length ≤ fields.length) :
    putInOrder fields vs draft =
      ([], ·) <$> ((fields.map (·.name)).zip vs).foldlM form.putMember draft := by
  induction fields generalizing draft vs with
  | nil =>
    obtain rfl := List.length_eq_zero_iff.mp (Nat.le_zero.mp h)
    rfl
  | cons field fields ih =>
    cases vs with
    | nil => rfl
    | cons v vs =>
      obtain ⟨hfirst, hfind⟩ := List.forall_mem_cons.mp hfind
      obtain ⟨hapart, hlater⟩ := List.pairwise_cons.mp hapart
      obtain ⟨hunset, hunset'⟩ := List.forall_mem_cons.mp hunset
      rw [List.map_cons, List.zip_cons_cons, List.foldlM_cons, putMember]
      simp only [hfirst, hunset, putInOrder]
      cases hv : field.value.fromValue v with
      | error cause => rfl
      | ok put =>
        -- the fields behind are as empty as they were, so a member of the object finds them so as well
        refine ih hfind hlater (fun later hmem => ?_) (Nat.le_of_succ_le_succ h)
        rw [hapart later hmem v put draft hv, hunset' later hmem]

/-- The fields take one element each, and the elements behind are left. -/
theorem Form.length_left_of_putInOrder {fields : List (Field δ)} {vs left : List Value}
    {draft draft' : δ} (h : putInOrder fields vs draft = .ok (left, draft')) :
    left.length = vs.length - fields.length := by
  induction fields generalizing vs draft with
  | nil =>
    cases h
    rfl
  | cons field fields ih =>
    cases vs with
    | nil =>
      cases h
      simp
    | cons v vs =>
      obtain ⟨put, -, hrest⟩ := bind_eq_ok_iff.mp h
      rw [ih hrest, List.length_cons, List.length_cons, Nat.add_sub_add_right]

end InOrder

end Decoder

end TexCompletion.Json

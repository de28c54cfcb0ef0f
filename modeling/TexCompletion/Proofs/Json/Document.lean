import TexCompletion.Json.Decoder
import TexCompletion.Proofs.Json.Members
import TexCompletion.Proofs.Json.Runs

/-!
# Documents as they are written

A value has the members of an object in ascending order of their names, whatever order they were
written in.  A `Document` keeps what the text has: the members in the order of the text, and a name as
often as it comes.

`Reader.document` reads a text from left to right as `Reader.anyValue` does, and keeps the members as it
meets them.  `anyValue_eq` says that the two readers agree on every text, in what they take, in what
they find fault with and in what they make of it, up to the order that a value forgets
(`Document.value`).  The induction is on the depth, and each kind of reader has a lemma that moves
a map out of it.
-/

namespace TexCompletion.Json

/-- A JSON document, the members of its objects in the order of the text. -/
inductive Document where
  | null
  | bool (b : Bool)
  | number (n : Number)
  | string (s : String)
  | array (elements : List Document)
  | object (members : List (String × Document))

mutual

/-- The value that a document stands for. -/
def Document.value : Document → Value
  | .null => .null
  | .bool b => .bool b
  | .number n => .number n
  | .string s => .string s
  | .array ds => .array (valuesOf ds)
  | .object ms => .object (membersOf (pairsOf ms))

/-- The values of array elements. -/
def valuesOf : List Document → List Value
  | [] => []
  | d :: ds => d.value :: valuesOf ds

/-- The values of object members, in the order of the text. -/
def pairsOf : List (String × Document) → List (String × Value)
  | [] => []
  | (name, d) :: ms => (name, d.value) :: pairsOf ms

end

theorem valuesOf_eq_map (ds : List Document) : valuesOf ds = ds.map Document.value := by
  induction ds with
  | nil => rfl
  | cons d ds ih => rw [valuesOf, ih, List.map_cons]

theorem pairsOf_append (ms ns : List (String × Document)) :
    pairsOf (ms ++ ns) = pairsOf ms ++ pairsOf ns := by
  induction ms with
  | nil => rfl
  | cons m ms ih => rw [List.cons_append, pairsOf, pairsOf, ih, List.cons_append]

/-- The last document under a name gives the last value under it. -/
theorem lastNamed_pairsOf (name : String) (ms : List (String × Document)) :
    lastNamed name (pairsOf ms) = (lastNamed name ms).map Document.value := by
  induction ms using List.reverseRecOn with
  | nil => rfl
  | append_singleton ms m ih =>
    rw [pairsOf_append, pairsOf, pairsOf, lastNamed_concat, lastNamed_concat, ih]
    split <;> rfl

/-- The members of an object in the order of the text, each with its value. -/
def Document.members : Document → List (String × Value)
  | .object ms => pairsOf ms
  | _ => []

namespace Reader

/-- Reads any document.  Members of objects come in the order of the text. -/
def document : Nat → Reader Document
  | 0 => failAhead .tooDeep
  | fuel + 1 => located do
    match ← peekToken with
    | none => failAhead .endBeforeValue
    | some 'n' => skip; word ['u', 'l', 'l']; return .null
    | some 't' => skip; word ['r', 'u', 'e']; return .bool true
    | some 'f' => skip; word ['a', 'l', 's', 'e']; return .bool false
    | some '-' => skip; return .number (← number true)
    | some '"' => skip; return .string (← string)
    | some '[' => enclosed (return .array (← elements (document fuel))) endArray
    | some '\x7b' =>
      enclosed (return .object (← members (fun name acc => do
        colon
        return acc ++ [(name, ← document fuel)]) [])) endObject
    | some c => if c.isDigit then return .number (← number false) else failAhead .valueWanted

/-! ## Maps move out of readers -/

variable {α β σ τ : Type}

theorem map_mismatch (f : α → β) (cause : Cause) :
    f <$> (mismatch cause : Reader α) = mismatch cause := rfl

theorem map_located (f : α → β) (r : Reader α) : f <$> located r = located (f <$> r) := by
  funext c
  simp only [map_run, located]
  rcases r c with ⟨a, c'⟩ | ⟨⟨cause, _ | place⟩, c'⟩ <;> rfl

theorem map_enclosed (f : α → β) (inside : Reader α) (closing : Reader Unit) :
    f <$> enclosed inside closing = enclosed (f <$> inside) closing := by
  have hinside : (do skip; f <$> inside : Reader β) = f <$> (do skip; inside) :=
    (map_bind f skip fun _ => inside).symm
  funext c
  rw [map_run, enclosed, enclosed]
  by_cases hdepth : c.depth ≤ 1
  · rw [if_pos hdepth, if_pos hdepth]
    rfl
  · rw [if_neg hdepth, if_neg hdepth, hinside, map_run]
    -- the closing bracket is looked for in both cases, and it does not see what was read
    rcases (do skip; inside : Reader α) { c with depth := c.depth - 1 } with
      ⟨a, c'⟩ | ⟨fault, c'⟩
    · simp only
      cases closing { c' with depth := c.depth } <;> rfl
    · simp only
      cases closing { c' with depth := c.depth } <;> rfl

theorem elementsFrom_map (f : α → β) (element : Reader α) (first : Bool) (fuel : Nat) :
    elementsFrom (f <$> element) first fuel = List.map f <$> elementsFrom element first fuel := by
  induction fuel generalizing first with
  | zero => rw [elementsFrom, elementsFrom, map_pure, List.map_nil]
  | succ fuel ih =>
    rw [elementsFrom, elementsFrom, map_bind]
    refine bind_congr fun more => ?_
    cases more with
    | false => rfl
    | true => simp only [if_true, ih, map_bind, bind_map_left, map_pure, List.map_cons]

theorem elements_map (f : α → β) (element : Reader α) :
    elements (f <$> element) = List.map f <$> elements element := by
  rw [elements, elements, map_bind]
  exact bind_congr fun c => elementsFrom_map f element true _

theorem membersFrom_map {step : String → σ → Reader σ} {step' : String → τ → Reader τ} {f : τ → σ}
    (hstep : ∀ name acc, step name (f acc) = f <$> step' name acc) (first : Bool) (fuel : Nat)
    (acc : τ) :
    membersFrom step first fuel (f acc) = f <$> membersFrom step' first fuel acc := by
  induction fuel generalizing first acc with
  | zero => rw [membersFrom, membersFrom, map_pure]
  | succ fuel ih =>
    rw [membersFrom, membersFrom, map_bind]
    refine bind_congr fun more => ?_
    cases more with
    | false => rfl
    | true => simp only [if_true, hstep, ih, map_bind, bind_map_left]

theorem members_map {step : String → σ → Reader σ} {step' : String → τ → Reader τ} {f : τ → σ}
    (hstep : ∀ name acc, step name (f acc) = f <$> step' name acc) (acc : τ) :
    members step (f acc) = f <$> members step' acc := by
  rw [members, members, map_bind]
  exact bind_congr fun c => membersFrom_map hstep true _ acc

/-! ## The two readers -/

/-- The members of an object, put in order as they are met, are those of the text put in order. -/
theorem membersOf_pairsOf_members {fuel : Nat}
    (h : anyValue fuel = Document.value <$> document fuel) :
    members (fun name acc => do
        colon
        return putMember name (← anyValue fuel) acc) [] =
      (membersOf ∘ pairsOf) <$> members (fun name acc => do
        colon
        return acc ++ [(name, ← document fuel)]) [] := by
  refine members_map (f := membersOf ∘ pairsOf) (fun name acc => ?_) []
  simp only [h, map_bind, bind_map_left, map_pure, Function.comp_apply, pairsOf_append, pairsOf,
    membersOf_concat]

/-- **The two readers agree** up to the order of members. -/
theorem anyValue_eq (fuel : Nat) : anyValue fuel = Document.value <$> document fuel := by
  induction fuel with
  | zero => rfl
  | succ fuel ih =>
    rw [anyValue, document, map_located, map_bind]
    refine congrArg located (bind_congr fun next => ?_)
    -- by the character that comes next; only arrays and objects read further documents
    split
    case h_1 => rfl
    case h_7 =>
      simp only [map_enclosed, ih, elements_map, map_bind, bind_map_left, map_pure, Document.value,
        valuesOf_eq_map]
    case h_8 =>
      simp only [map_enclosed, membersOf_pairsOf_members ih, map_bind, bind_map_left, map_pure,
        Document.value, Function.comp_apply]
    case h_9 c _ _ _ _ _ _ _ =>
      by_cases hdigit : c.isDigit
      · simp only [*, if_true, map_bind, map_pure, Document.value]
      · simp only [*]
        rfl
    all_goals simp only [map_bind, map_pure, Document.value]

end Reader

end TexCompletion.Json

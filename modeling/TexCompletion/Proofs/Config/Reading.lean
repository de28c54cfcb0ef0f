import TexCompletion.Config
import TexCompletion.Proofs.Json.Fields
import TexCompletion.Proofs.Json.Form

/-!
# What values are taken for settings

Settings are meant to be `null`, which stands for the defaults, or an object whose members set the fields
that bear their names (`Described`).  They are looked for in the section of a value, if it has one, or
else are the value itself (`settingsIn`).

The members of an object are read one after another into a draft.  `putMember_eq_ok_iff` says what one
member does, and by induction `foldlM_putMember_eq_ok_iff` says of all of them that each field is filled
in from the values under its own name, whatever else the object holds.

A record is also read from an array of its fields in order.  `form_ofValue_array` shows that this comes to
the same as an object with the names put back, and an array that is longer is refused.  So some arrays are
taken for settings although they are none.  `readAsDescribed_iff` says that this is all that goes wrong,
and `ofValue_empty_array` is the smallest case.
-/

namespace TexCompletion.Config

open Json

/-! ## What settings are meant to be -/

/-- The settings in a value: the member under the name of the section if the value is an object that has
one, or else the value itself. -/
def settingsIn : Value → Value
  | .object ms => (ms.lookup "latex").getD (.object ms)
  | v => v

/-- The members of an object set the fields of a configuration.  A field that has no member keeps its
default, and members of other names say nothing. -/
@[mk_iff]
structure SetBy (ms : List (String × Value)) (config : Config) : Prop where
  extraPackages : Gives (fun names => .array (names.map .string)) []
    (valuesUnder "extraPackages" ms) config.extraPackages
  emptyDeclarationBoost : Gives .ofInt 10
    (valuesUnder "emptyDeclarationBoost" ms) config.emptyDeclarationBoost
  boost_range : -0x80000000 ≤ config.emptyDeclarationBoost ∧ config.emptyDeclarationBoost ≤ 0x7FFFFFFF
  scanDocument : Gives .bool true (valuesUnder "scanDocument" ms) config.scanDocument

/-- The settings that stand for a configuration: `null` for the defaults, an object for what its members
set. -/
inductive Described : Value → Config → Prop
  | null : Described .null {}
  | object {ms : List (String × Value)} {config : Config} (h : SetBy ms config) :
    Described (.object ms) config

/-- The fields in order. -/
def fieldNames : List String :=
  ["extraPackages", "emptyDeclarationBoost", "scanDocument"]

/-- An array has the values of the first fields, in order. -/
def ListedIn (vs : List Value) (config : Config) : Prop :=
  vs.length ≤ fieldNames.length ∧ SetBy (fieldNames.zip vs) config

/-! ## Members of an object -/

/-- The second draft is the first one with the fields filled in from some members. -/
@[mk_iff]
structure Draft.FilledFrom (ms : List (String × Value)) (draft draft' : Draft) : Prop where
  extraPackages : Fills (.array .string) (valuesUnder "extraPackages" ms)
    draft.extraPackages draft'.extraPackages
  emptyDeclarationBoost : Fills .int32 (valuesUnder "emptyDeclarationBoost" ms)
    draft.emptyDeclarationBoost draft'.emptyDeclarationBoost
  scanDocument : Fills .bool (valuesUnder "scanDocument" ms)
    draft.scanDocument draft'.scanDocument

variable {draft draft' : Draft} {config : Config}

/-- What some members fill in and others behind them, all of them fill in together. -/
theorem Draft.filledFrom_append_iff {ms ns : List (String × Value)} :
    Draft.FilledFrom (ms ++ ns) draft draft' ↔
      ∃ between, Draft.FilledFrom ms draft between ∧ Draft.FilledFrom ns between draft' := by
  constructor
  · rintro ⟨hextra, hboost, hscan⟩
    rw [valuesUnder_append, fills_append_iff] at hextra hboost hscan
    obtain ⟨extra, hextra, hextra'⟩ := hextra
    obtain ⟨boost, hboost, hboost'⟩ := hboost
    obtain ⟨scan, hscan, hscan'⟩ := hscan
    exact ⟨⟨extra, boost, scan⟩, ⟨hextra, hboost, hscan⟩, ⟨hextra', hboost', hscan'⟩⟩
  · rintro ⟨between, h, h'⟩
    constructor
    · rw [valuesUnder_append, fills_append_iff]
      exact ⟨_, h.extraPackages, h'.extraPackages⟩
    · rw [valuesUnder_append, fills_append_iff]
      exact ⟨_, h.emptyDeclarationBoost, h'.emptyDeclarationBoost⟩
    · rw [valuesUnder_append, fills_append_iff]
      exact ⟨_, h.scanDocument, h'.scanDocument⟩

/-- A member fills in the field of its name, if there is one, and leaves the others as they are. -/
theorem putMember_eq_ok_iff {name : String} {v : Value} :
    form.putMember draft (name, v) = .ok draft' ↔
      Draft.FilledFrom [(name, v)] draft draft' := by
  obtain ⟨extra, boost, scan⟩ := draft
  obtain ⟨extra', boost', scan'⟩ := draft'
  rw [Draft.filledFrom_iff]
  simp only [valuesUnder_singleton]
  by_cases hextra : name = "extraPackages"
  · subst hextra
    rw [form.putMember_eq_ok_iff rfl]
    simp [fills_singleton_iff, fills_nil_iff]
    tauto
  by_cases hboost : name = "emptyDeclarationBoost"
  · subst hboost
    rw [form.putMember_eq_ok_iff rfl]
    simp [fills_singleton_iff, fills_nil_iff]
    tauto
  by_cases hscan : name = "scanDocument"
  · subst hscan
    rw [form.putMember_eq_ok_iff rfl]
    simp [fills_singleton_iff, fills_nil_iff]
    tauto
  · have hfind : form.fields.find? (·.name == name) = none := by
      simp [form, Decoder.Field.of, Ne.symm hextra, Ne.symm hboost, Ne.symm hscan]
    have hopen : form.isClosed = false := rfl
    simp [Decoder.Form.putMember, hfind, hopen, hextra, hboost, hscan, fills_nil_iff, eq_comm]

/-- **Members fill in the fields of their names**, each field from the values under its name. -/
theorem foldlM_putMember_eq_ok_iff {ms : List (String × Value)} :
    ms.foldlM form.putMember draft = .ok draft' ↔ Draft.FilledFrom ms draft draft' := by
  induction ms generalizing draft with
  | nil =>
    obtain ⟨extra, boost, scan⟩ := draft
    obtain ⟨extra', boost', scan'⟩ := draft'
    simp [Draft.filledFrom_iff, valuesUnder, fills_nil_iff, pure, Except.pure, eq_comm]
  | cons m ms ih =>
    obtain ⟨name, v⟩ := m
    rw [← List.singleton_append, Draft.filledFrom_append_iff, List.singleton_append,
      List.foldlM_cons, bind_eq_ok_iff]
    simp only [ih, putMember_eq_ok_iff]

/-- A draft that is filled in from nothing is completed to a configuration exactly if each field of the
draft is completed to the field of the configuration. -/
theorem exists_filledFrom_iff {ms : List (String × Value)} :
    (∃ draft, Draft.FilledFrom ms {} draft ∧ ofDraft draft = config) ↔
      (∃ extra, Fills (.array .string) (valuesUnder "extraPackages" ms) none extra ∧
        extra.getD [] = config.extraPackages) ∧
      (∃ boost, Fills .int32 (valuesUnder "emptyDeclarationBoost" ms) none boost ∧
        boost.getD 10 = config.emptyDeclarationBoost) ∧
      ∃ scan, Fills .bool (valuesUnder "scanDocument" ms) none scan ∧
        scan.getD true = config.scanDocument := by
  constructor
  · rintro ⟨draft, ⟨hextra, hboost, hscan⟩, rfl⟩
    exact ⟨⟨_, hextra, rfl⟩, ⟨_, hboost, rfl⟩, ⟨_, hscan, rfl⟩⟩
  · rintro ⟨⟨extra, hextra, heq⟩, ⟨boost, hboost, heq'⟩, ⟨scan, hscan, heq''⟩⟩
    refine ⟨⟨extra, boost, scan⟩, ⟨hextra, hboost, hscan⟩, ?_⟩
    obtain ⟨_, _, _⟩ := config
    exact congr (congr (congrArg Config.mk heq) heq') heq''

/-- **An object is read as the configuration that its members set**, and as none if they set none. -/
theorem form_ofValue_object_eq_ok_iff {ms : List (String × Value)} :
    form.ofValue (.object ms) = .ok config ↔ SetBy ms config := by
  have hread : form.ofValue (.object ms) = .ok config ↔
      ∃ draft, Draft.FilledFrom ms {} draft ∧ ofDraft draft = config := by
    simp only [← foldlM_putMember_eq_ok_iff]
    rw [Decoder.Form.ofValue, bind_eq_ok_iff]
    simp only [form, Except.ok.injEq]
  have hnames (v : Value) (names : List String) :
      (Decoder.array .string).fromValue v = .ok names ↔ v = .array (names.map .string) :=
    Decoder.array_fromValue_eq_ok_iff fun _ _ => Decoder.string_fromValue_eq_ok_iff
  rw [hread, exists_filledFrom_iff, setBy_iff, exists_fills_iff hnames,
    exists_fills_and_iff (fun _ _ => Decoder.int32_fromValue_eq_ok_iff) (by decide),
    exists_fills_iff fun _ _ => Decoder.bool_fromValue_eq_ok_iff, and_assoc]

/-! ## Elements of an array -/

/-- An array of the first fields in order is read as the object that has them under their names. -/
theorem form_ofValue_array {vs : List Value} (h : vs.length ≤ fieldNames.length) :
    form.ofValue (.array vs) = form.ofValue (.object (fieldNames.zip vs)) := by
  have hfind : ∀ field ∈ form.fields, form.fields.find? (·.name == field.name) = some field := by
    simp [form, Decoder.Field.of]
  have hunset : ∀ field ∈ form.fields, field.isSet form.empty = false := by
    simp [form, Decoder.Field.of]
  have hapart : form.fields.Pairwise Decoder.Field.Apart := by
    simp only [form, List.pairwise_cons, List.forall_mem_cons]
    exact ⟨⟨.of_isSet fun _ _ => rfl, .of_isSet fun _ _ => rfl, List.forall_mem_nil _⟩,
      ⟨.of_isSet fun _ _ => rfl, List.forall_mem_nil _⟩, List.forall_mem_nil _, .nil⟩
  have hfill : Decoder.Form.putInOrder form.fields vs form.empty =
      ([], ·) <$> (fieldNames.zip vs).foldlM form.putMember form.empty :=
    form.putInOrder_eq_foldlM hfind hapart hunset h
  rw [Decoder.Form.ofValue, Decoder.Form.ofValue, hfill]
  -- no field is needed, so a draft is completed in the same way from both
  cases (fieldNames.zip vs).foldlM form.putMember form.empty <;> rfl

/-- A longer array is refused. -/
theorem form_ofValue_array_ne_ok {vs : List Value} (h : fieldNames.length < vs.length) :
    form.ofValue (.array vs) ≠ .ok config := by
  intro hok
  obtain ⟨⟨left, draft⟩, hleft, hcomplete⟩ := bind_eq_ok_iff.mp hok
  have hlength : left.length = vs.length - fieldNames.length :=
    Decoder.Form.length_left_of_putInOrder hleft
  have hne : left.isEmpty = false := by
    rw [List.isEmpty_eq_false_iff]
    rintro rfl
    rw [List.length_nil] at hlength
    omega
  simp only [form, hne] at hcomplete
  cases hcomplete

/-- **An array is read as the configuration whose first fields it lists**, and as none if it lists none. -/
theorem form_ofValue_array_eq_ok_iff {vs : List Value} :
    form.ofValue (.array vs) = .ok config ↔ ListedIn vs config := by
  rw [ListedIn]
  by_cases h : vs.length ≤ fieldNames.length
  · rw [form_ofValue_array h, form_ofValue_object_eq_ok_iff, and_iff_right h]
  · exact iff_of_false (form_ofValue_array_ne_ok (Nat.lt_of_not_le h)) fun hlisted => h hlisted.1

/-! ## The settings of a value -/

theorem settingsIn_eq (v : Value) : settingsIn v = (v.member? sectionName).getD v := by
  cases v <;> rfl

theorem described_null_iff : Described .null config ↔ config = {} :=
  ⟨fun | .null => rfl, fun h => h ▸ .null⟩

theorem described_object_iff {ms : List (String × Value)} :
    Described (.object ms) config ↔ SetBy ms config :=
  ⟨fun | .object h => h, .object⟩

/-- Settings other than `null` are those that the form accepts. -/
theorem ofValue_of_ne_null {v : Value} (h : settingsIn v ≠ .null) :
    ofValue v = .ok config ↔ form.ofValue (settingsIn v) = .ok config := by
  rw [ofValue, ← settingsIn_eq]
  split
  next hnull => exact absurd hnull h
  next => cases form.ofValue (settingsIn v) <;> simp

/-- A value is accepted if its settings stand for a configuration, or are an array that lists the first
fields of one. -/
theorem ofValue_eq_ok_iff {v : Value} :
    ofValue v = .ok config ↔
      Described (settingsIn v) config ∨ ∃ vs, settingsIn v = .array vs ∧ ListedIn vs config := by
  have hform (h : settingsIn v ≠ .null) :
      ofValue v = .ok config ↔ form.ofValue (settingsIn v) = .ok config :=
    ofValue_of_ne_null h
  cases h : settingsIn v with
  | null =>
    rw [ofValue, ← settingsIn_eq, h]
    simp [described_null_iff, eq_comm]
  | object ms =>
    rw [h] at hform
    simp [hform, described_object_iff, form_ofValue_object_eq_ok_iff]
  | array vs =>
    have hno : ¬Described (.array vs) config := nofun
    rw [h] at hform
    simp [hform, hno, form_ofValue_array_eq_ok_iff]
  | _ =>
    -- what else there is has no form of settings and stands for none
    rw [h] at hform
    rw [hform nofun]
    exact iff_of_false nofun (not_or.mpr ⟨nofun, fun ⟨_, harray, _⟩ => nomatch harray⟩)

/-- A value is read as it is meant to be: as the configuration that its settings stand for, and with an
error if they stand for none. -/
def ReadAsDescribed (v : Value) : Prop :=
  (∀ config, ofValue v = .ok config ↔ Described (settingsIn v) config) ∧
  ((∃ e, ofValue v = .error e) ↔ ¬∃ config, Described (settingsIn v) config)

/-- **Settings are read as they are meant to be, but for arrays.**  A value is accepted if its settings are
`null`, which gives the defaults, or an object whose members set the fields of their names, each with a
value of its form, or are an array of at most three elements that have the forms of the first fields in
order.  So a value is read as it is meant to be exactly if its settings are no such array. -/
theorem readAsDescribed_iff (v : Value) :
    (∀ config, ofValue v = .ok config ↔
      Described (settingsIn v) config ∨ ∃ vs, settingsIn v = .array vs ∧ ListedIn vs config) ∧
    (ReadAsDescribed v ↔ ¬∃ vs config, settingsIn v = .array vs ∧ ListedIn vs config) := by
  refine ⟨fun config => ofValue_eq_ok_iff, ⟨?_, fun hno => ?_⟩⟩
  · rintro ⟨hread, -⟩ ⟨vs, config, hvs, hlisted⟩
    have hdescribed := (hread config).mp (ofValue_eq_ok_iff.mpr (.inr ⟨vs, hvs, hlisted⟩))
    rw [hvs] at hdescribed
    cases hdescribed
  · have hread (config : Config) : ofValue v = .ok config ↔ Described (settingsIn v) config := by
      rw [ofValue_eq_ok_iff]
      exact or_iff_left fun ⟨vs, h⟩ => hno ⟨vs, config, h⟩
    refine ⟨hread, ?_⟩
    simp only [← hread]
    cases ofValue v <;> simp

/-- An array of nothing is no settings, and it is read as the defaults. -/
theorem ofValue_empty_array :
    ofValue (.array []) = .ok {} ∧ ¬∃ config, Described (settingsIn (.array [])) config :=
  ⟨rfl, nofun⟩

end TexCompletion.Config

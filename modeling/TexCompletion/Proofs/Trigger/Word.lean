import TexCompletion.Proofs.Text.Ending
import TexCompletion.Trigger

/-!
# The word under the cursor

A trigger names a column, and what stands between that column and the cursor is the word that
completion replaces.  `Channel.IsWord` says which endings of a text are words.  The two searches
behind `Trigger.find?` each find a word and nothing else (`packageName?_eq_some_iff`,
`command?_eq_some_iff`).

The column of the cursor may lie inside the last character of the text in front of it.  A word
without characters could then start behind the cursor, but in front of such a word stands a brace, a
comma or a blank, and each of these takes one unit (`units_of_isGap`).
-/

namespace TexCompletion

open Text

/-! ## Words -/

/-- The ending `word` of a text is what completion replaces, with `front` in front of it.  A command
is the last backslash with the letters and `@` behind it.  A package name is all there is of letters,
digits, `_` and `-`, so in front of it stands none of these. -/
def Channel.IsWord : Channel → List Char → List Char → Prop
  | .command, _, word =>
    ∃ letters, word = '\\' :: letters ∧ '\\' ∉ letters ∧ ∀ c ∈ letters, c.isAlpha = true ∨ c = '@'
  | .packageParameter, front, word =>
    (∀ c ∈ word, c.isAlphanum = true ∨ c = '_' ∨ c = '-') ∧
      ∀ c, front.getLast? = some c → ¬(c.isAlphanum = true ∨ c = '_' ∨ c = '-')

variable {before front word : List Char}

theorem isWord_packageParameter_iff :
    Channel.packageParameter.IsWord front word ↔
      (∀ c ∈ word, isNameChar c = true) ∧ ∀ c, front.getLast? = some c → isNameChar c = false := by
  have hchar (c : Char) : isNameChar c = true ↔ c.isAlphanum = true ∨ c = '_' ∨ c = '-' := by
    simp only [isNameChar, Bool.or_eq_true, beq_iff_eq, or_assoc]
  simp only [Channel.IsWord, ← hchar, Bool.not_eq_true]

theorem isWord_command_iff :
    Channel.command.IsWord front word ↔
      ∃ letters, word = '\\' :: letters ∧ ∀ c ∈ letters, isCommandChar c = true := by
  have hchar (c : Char) : isCommandChar c = true ↔ c.isAlpha = true ∨ c = '@' := by
    simp only [isCommandChar, Bool.or_eq_true, beq_iff_eq]
  simp only [Channel.IsWord, ← hchar]
  constructor
  · rintro ⟨letters, rfl, -, hletters⟩
    exact ⟨letters, rfl, hletters⟩
  · rintro ⟨letters, rfl, hletters⟩
    exact ⟨letters, rfl, fun h => absurd (hletters _ h) (by decide), hletters⟩

/-! ## The braces of a declaration -/

/-- What stands ahead of the opening brace: nothing, or options in brackets that hold no closing
one. -/
def IsBracketed (options : List Char) : Prop :=
  options = [] ∨ ∃ inner, ']' ∉ inner ∧ options = '[' :: (inner ++ [']'])

/-- What stands ahead of a name in the braces: nothing, or text without a closing brace up to a
comma. -/
def IsUpToComma (names : List Char) : Prop :=
  names = [] ∨ ∃ earlier, '\x7d' ∉ earlier ∧ names = earlier ++ [',']

/-- The text leads into the braces of a declaration, to a place where a name may be put. -/
def LeadsToName (front : List Char) : Prop :=
  ∃ before options names blanks,
    front = before ++ Declaration.keyword ++ options ++ '\x7b' :: (names ++ blanks) ∧
      IsBracketed options ∧ IsUpToComma names ∧ ∀ c ∈ blanks, isBlank c = true

/-- What follows the opening brace, after options that end at the first closing bracket. -/
theorem openArgument?_eq_some_iff {cs names : List Char} :
    openArgument? cs = some names ↔ ∃ options, IsBracketed options ∧ cs = options ++ '\x7b' :: names := by
  constructor
  · intro h
    unfold openArgument? at h
    split at h
    next => exact ⟨[], .inl rfl, by rw [Option.some.inj h, List.nil_append]⟩
    next cs =>
      split at h
      next rest hrest =>
        obtain rfl := Option.some.inj h
        have hcs := List.takeWhile_append_dropWhile (p := (· ≠ ']')) (l := cs)
        rw [hrest] at hcs
        refine ⟨'[' :: (cs.takeWhile (· ≠ ']') ++ [']']), .inr ⟨_, fun hmem => ?_, rfl⟩, ?_⟩
        · simpa using List.mem_takeWhile_imp hmem
        · rw [List.cons_append, List.append_assoc, List.singleton_append, hcs]
      next => cases h
    next => cases h
  · rintro ⟨options, rfl | ⟨inner, hinner, rfl⟩, rfl⟩
    · rfl
    · have hne : ∀ c ∈ inner, decide (c ≠ ']') = true := by
        intro c hc
        simpa using fun h : c = ']' => hinner (h ▸ hc)
      rw [List.cons_append, List.append_assoc, openArgument?, List.dropWhile_append_of_pos hne]
      rfl

theorem isUpToComma_iff {names : List Char} :
    (names.isEmpty || (names.getLast? == some ',' && !names.contains '\x7d')) = true ↔
      IsUpToComma names := by
  simp only [Bool.or_eq_true, List.isEmpty_iff, Bool.and_eq_true, beq_iff_eq, Bool.not_eq_true',
    List.contains_eq_mem, decide_eq_false_iff_not, IsUpToComma]
  refine or_congr_right ?_
  constructor
  · rintro ⟨hlast, hclose⟩
    obtain ⟨earlier, rfl⟩ := List.getLast?_eq_some_iff.mp hlast
    exact ⟨earlier, fun hmem => hclose (List.mem_append_left _ hmem), rfl⟩
  · rintro ⟨earlier, hclose, rfl⟩
    exact ⟨List.getLast?_concat, by simp [hclose]⟩

/-- The beginning of a declaration up to the last name. -/
theorem opensArgument_iff {cs : List Char} :
    opensArgument cs = true ↔
      ∃ options names, cs = Declaration.keyword ++ options ++ '\x7b' :: names ∧
        IsBracketed options ∧ IsUpToComma names := by
  unfold opensArgument
  constructor
  · intro h
    split at h
    next names hnames =>
      obtain ⟨rest, hrest, hargument⟩ := Option.bind_eq_some_iff.mp hnames
      obtain ⟨options, hoptions, rfl⟩ := openArgument?_eq_some_iff.mp hargument
      rw [stripWord?_eq_some_iff.mp hrest, ← List.append_assoc]
      exact ⟨options, names, rfl, hoptions, isUpToComma_iff.mp h⟩
    next => cases h
  · rintro ⟨options, names, rfl, hoptions, hnames⟩
    have hargument : openArgument? (options ++ '\x7b' :: names) = some names :=
      openArgument?_eq_some_iff.mpr ⟨options, hoptions, rfl⟩
    rw [List.append_assoc, stripWord?_eq_some_iff.mpr rfl, Option.bind_some, hargument]
    exact isUpToComma_iff.mpr hnames

/-- The place for a name is behind a brace or a comma. -/
theorem getLast?_of_isUpToComma {names : List Char} (h : IsUpToComma names) (front : List Char) :
    (front ++ '\x7b' :: names).getLast? = some '\x7b' ∨
      (front ++ '\x7b' :: names).getLast? = some ',' := by
  rcases h with rfl | ⟨earlier, -, rfl⟩
  · exact .inl List.getLast?_concat
  · right
    rw [← List.cons_append, ← List.append_assoc, List.getLast?_concat]

/-- A text leads to a name exactly if it ends, but for blanks, with the beginning of a declaration up
to the name. -/
theorem leadsToName_iff :
    anySuffix opensArgument (dropEndWhile isBlank front) = true ↔ LeadsToName front := by
  rw [anySuffix_iff]
  constructor
  · rintro ⟨before, opening, hopening, hopens⟩
    obtain ⟨options, names, rfl, hoptions, hnames⟩ := opensArgument_iff.mp hopens
    have hwhole := dropEndWhile_append_takeEndWhile isBlank front
    refine ⟨before, options, names, takeEndWhile isBlank front, ?_, hoptions, hnames,
      fun c => List.mem_rtakeWhile_imp⟩
    rw [hopening] at hwhole
    simpa using hwhole.symm
  · rintro ⟨before, options, names, blanks, rfl, hoptions, hnames, hblanks⟩
    have hcut : dropEndWhile isBlank
        (before ++ Declaration.keyword ++ options ++ '\x7b' :: (names ++ blanks)) =
          before ++ Declaration.keyword ++ options ++ '\x7b' :: names := by
      refine (eq_append_iff_dropEndWhile.mp ⟨by simp, hblanks, fun c hc => ?_⟩).1
      rcases getLast?_of_isUpToComma hnames (before ++ Declaration.keyword ++ options) with h | h
      · obtain rfl := Option.some.inj (h.symm.trans hc)
        decide
      · obtain rfl := Option.some.inj (h.symm.trans hc)
        decide
    refine ⟨before, Declaration.keyword ++ options ++ '\x7b' :: names, ?_,
      opensArgument_iff.mpr ⟨options, names, rfl, hoptions, hnames⟩⟩
    rw [hcut]
    simp

/-- A character that can stand in front of a name: a brace, a comma or a blank. -/
def isGap (c : Char) : Bool :=
  c == '\x7b' || c == ',' || isBlank c

theorem LeadsToName.getLast? (h : LeadsToName front) :
    ∃ c, front.getLast? = some c ∧ isGap c = true := by
  obtain ⟨before, options, names, blanks, rfl, -, hnames, hblanks⟩ := h
  rw [← List.cons_append, ← List.append_assoc]
  cases hlast : blanks.getLast? with
  | some c =>
    refine ⟨c, by rw [List.getLast?_append, hlast, Option.some_or], ?_⟩
    simp [isGap, hblanks c (List.mem_of_getLast? hlast)]
  | none =>
    -- without blanks the text ends with the brace or the comma
    rw [List.getLast?_eq_none_iff.mp hlast, List.append_nil]
    rcases getLast?_of_isUpToComma hnames (before ++ Declaration.keyword ++ options) with h | h
    · exact ⟨_, h, by decide⟩
    · exact ⟨_, h, by decide⟩

theorem toNat_of_isGap {c : Char} (h : isGap c = true) :
    c.toNat < 45 ∨ c.toNat = 123 ∨ 133 ≤ c.toNat ∧ c.toNat ≤ 0x3000 := by
  rcases Bool.or_eq_true_iff.mp h with h | h
  · rcases Bool.or_eq_true_iff.mp h with h | h
    · obtain rfl := beq_iff_eq.mp h
      decide
    · obtain rfl := beq_iff_eq.mp h
      decide
  · simp only [isBlank, Bool.or_eq_true, Bool.and_eq_true, decide_eq_true_eq, beq_iff_eq] at h
    omega

theorem toNat_of_isAlpha {c : Char} (h : c.isAlpha = true) : 65 ≤ c.toNat ∧ c.toNat ≤ 122 := by
  rcases Bool.or_eq_true_iff.mp h with hupper | hlower
  · obtain ⟨hA, hZ⟩ : 65 ≤ c.toNat ∧ c.toNat ≤ 90 := of_decide_eq_true hupper
    omega
  · obtain ⟨ha, hz⟩ := Bool.and_eq_true_iff.mp hlower
    have ha : 97 ≤ c.toNat := of_decide_eq_true ha
    have hz : c.toNat ≤ 122 := of_decide_eq_true hz
    omega

/-- A character that can stand in front of a name is part of no name. -/
theorem isNameChar_of_isGap {c : Char} (h : isGap c = true) : isNameChar c = false := by
  have hgap := toNat_of_isGap h
  refine Bool.eq_false_iff.mpr fun hname => ?_
  simp only [isNameChar, Char.isAlphanum, Bool.or_eq_true, beq_iff_eq] at hname
  rcases hname with ((hletter | hdigit) | rfl) | rfl
  · have := toNat_of_isAlpha hletter
    omega
  · obtain ⟨hzero, hnine⟩ := Bool.and_eq_true_iff.mp hdigit
    have hzero : 48 ≤ c.toNat := of_decide_eq_true hzero
    have hnine : c.toNat ≤ 57 := of_decide_eq_true hnine
    omega
  · exact absurd hgap (by decide)
  · exact absurd hgap (by decide)

/-- Nor is it part of a command. -/
theorem isCommandChar_of_isGap {c : Char} (h : isGap c = true) :
    isCommandChar c = false ∧ c ≠ '\\' := by
  have hgap := toNat_of_isGap h
  refine ⟨Bool.eq_false_iff.mpr fun hcommand => ?_, ?_⟩
  · simp only [isCommandChar, Bool.or_eq_true, beq_iff_eq] at hcommand
    rcases hcommand with hletter | rfl
    · have := toNat_of_isAlpha hletter
      omega
    · exact absurd hgap (by decide)
  · rintro rfl
    exact absurd hgap (by decide)

theorem units_of_isGap {c : Char} (h : isGap c = true) : units c = 1 := by
  have := toNat_of_isGap h
  exact if_pos (by omega)

/-! ## What a trigger finds -/

namespace Trigger

variable {t : Trigger}

/-- The search for a package name finds the word at the end of the text, if the text in front of it
leads into the braces of a declaration. -/
theorem packageName?_eq_some_iff :
    packageName? before = some t ↔
      ∃ front word, before = front ++ word ∧ Channel.packageParameter.IsWord front word ∧
        LeadsToName front ∧ t = ⟨.packageParameter, units16 front⟩ := by
  simp only [packageName?]
  constructor
  · intro h
    split at h
    next hopens =>
      obtain ⟨heq, hword⟩ := eq_append_iff_dropEndWhile.mpr
        ⟨rfl, (rfl : takeEndWhile isNameChar before = _)⟩
      exact ⟨_, _, heq, isWord_packageParameter_iff.mpr hword, leadsToName_iff.mp hopens,
        (Option.some.inj h).symm⟩
    next => cases h
  · rintro ⟨front, word, heq, hword, hopens, rfl⟩
    have hcut := eq_append_iff_dropEndWhile.mp ⟨heq, isWord_packageParameter_iff.mp hword⟩
    rw [hcut.1]
    exact if_pos (leadsToName_iff.mpr hopens)

/-- The search for a command finds the word at the end of the text. -/
theorem command?_eq_some_iff :
    command? before = some t ↔
      ∃ front word, before = front ++ word ∧ Channel.command.IsWord front word ∧
        t = ⟨.command, units16 front⟩ := by
  simp only [command?]
  constructor
  · intro h
    split at h
    next hlast =>
      obtain ⟨front, hfront⟩ := List.getLast?_eq_some_iff.mp hlast
      obtain ⟨heq, hletters, -⟩ := eq_append_iff_dropEndWhile.mpr
        ⟨hfront, (rfl : takeEndWhile isCommandChar before = _)⟩
      rw [hfront, List.dropLast_concat] at h
      exact ⟨front, _, heq.trans (List.append_assoc _ _ _),
        isWord_command_iff.mpr ⟨_, rfl, hletters⟩, (Option.some.inj h).symm⟩
    next => cases h
  · rintro ⟨front, word, heq, hword, rfl⟩
    obtain ⟨letters, rfl, hletters⟩ := isWord_command_iff.mp hword
    have hcut : dropEndWhile isCommandChar before = front ++ ['\\'] := by
      refine (eq_append_iff_dropEndWhile.mp ⟨?_, hletters, fun c hc => ?_⟩).1
      · rw [heq, List.append_assoc, List.singleton_append]
      · rw [List.getLast?_concat] at hc
        obtain rfl := Option.some.inj hc
        decide
    rw [hcut, if_pos List.getLast?_concat, List.dropLast_concat]

/-- **A trigger points at a word**: the text before the cursor ends in one of its channel, and the
column is that of its start.  If the word has no characters, a character of one unit is in front. -/
theorem isWord_of_find? (h : find? (String.ofList before) = some t) :
    ∃ front word, before = front ++ word ∧ t.channel.IsWord front word ∧ t.start = units16 front ∧
      (word = [] → ∃ c, front.getLast? = some c ∧ units c = 1) := by
  rw [find?, String.toList_ofList, Option.orElse_eq_orElse, Option.orElse_eq_or] at h
  rcases Option.or_eq_some_iff.mp h with hname | ⟨-, hcommand⟩
  · obtain ⟨front, word, heq, hword, hopens, rfl⟩ := packageName?_eq_some_iff.mp hname
    obtain ⟨c, hc, hgap⟩ := hopens.getLast?
    exact ⟨front, word, heq, hword, rfl, fun _ => ⟨c, hc, units_of_isGap hgap⟩⟩
  · obtain ⟨front, word, heq, hword, rfl⟩ := command?_eq_some_iff.mp hcommand
    refine ⟨front, word, heq, hword, rfl, ?_⟩
    rintro rfl
    obtain ⟨letters, hnil, -⟩ := hword
    cases hnil

end Trigger

end TexCompletion

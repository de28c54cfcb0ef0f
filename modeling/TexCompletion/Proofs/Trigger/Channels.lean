import TexCompletion.Proofs.Trigger.Word

/-!
# Which channel a text asks for

`Trigger.find?` tries the channels one after the other.  Here is what it answers, in terms of the text
before the cursor alone.

* The text asks for a package name (`AsksForName`) if it leads into the braces of a `\usepackage`, with
  options in brackets or without, and ends there in a name that may be empty.
* It asks for a command (`AsksForCommand`) if it ends in a backslash and letters or `@`.

A text may be taken apart for a name in several ways, at different `\usepackage`s or commas.  All of
them end in the same name: what is in front of it ends in a brace, a comma or a blank, which belongs to
no name (`AsksForName.isWord`).  Such a character belongs to no command either, so no text asks for both
(`AsksForName.not_asksForCommand`), and it does not matter which channel is tried first.
`find?_on_channels` collects all of this.
-/

namespace TexCompletion

open Text

/-- The text ends in a package name in the braces of a declaration, with `front` in front of it. -/
def AsksForName (before front word : List Char) : Prop :=
  before = front ++ word ∧ LeadsToName front ∧
    ∀ c ∈ word, c.isAlphanum = true ∨ c = '_' ∨ c = '-'

/-- The text ends in a command, a backslash and `letters`, with `front` in front of it. -/
def AsksForCommand (before front letters : List Char) : Prop :=
  before = front ++ '\\' :: letters ∧ ∀ c ∈ letters, c.isAlpha = true ∨ c = '@'

variable {before front word other letters : List Char}

/-! ## One word -/

/-- The name is all there is of letters, digits, `_` and `-` at the end of the text. -/
theorem AsksForName.isWord (h : AsksForName before front word) :
    Channel.packageParameter.IsWord front word := by
  obtain ⟨-, hleads, hword⟩ := h
  refine ⟨hword, fun c hc hname => ?_⟩
  obtain ⟨d, hd, hgap⟩ := hleads.getLast?
  obtain rfl := Option.some.inj (hd.symm.trans hc)
  have hnot := isNameChar_of_isGap hgap
  simp only [isNameChar, Bool.or_eq_false_iff, beq_eq_false_iff_ne] at hnot
  rcases hname with halnum | rfl | rfl
  · exact absurd (hnot.1.1.symm.trans halnum) (by decide)
  · exact hnot.1.2 rfl
  · exact hnot.2 rfl

/-- The command begins with the last backslash of the text. -/
theorem AsksForCommand.isWord (h : AsksForCommand before front letters) :
    Channel.command.IsWord front ('\\' :: letters) := by
  refine ⟨letters, rfl, fun hmem => ?_, h.2⟩
  exact absurd (h.2 _ hmem) (by decide)

/-- **No text asks for both.**  A backslash is part of no name, and what stands in front of a name is
part of no command. -/
theorem AsksForName.not_asksForCommand (h : AsksForName before front word) :
    ¬ AsksForCommand before other letters := by
  rintro ⟨hcommand, hletters⟩
  obtain ⟨hname, hleads, hword⟩ := h
  rcases List.append_eq_append_iff.mp (hname.symm.trans hcommand) with
    ⟨more, -, rfl⟩ | ⟨more, rfl, hmore⟩
  · -- the backslash would lie in the name
    exact absurd (hword '\\' (by simp)) (by decide)
  · obtain ⟨c, hc, hgap⟩ := hleads.getLast?
    obtain ⟨hnot, hbackslash⟩ := isCommandChar_of_isGap hgap
    cases more with
    | nil =>
      rw [List.nil_append] at hmore
      exact absurd (hword '\\' (hmore ▸ List.mem_cons_self)) (by decide)
    | cons d more =>
      -- the end of what is in front of the name would lie in the command
      obtain ⟨rfl, rfl⟩ := List.cons.inj hmore
      rw [List.getLast?_append_of_ne_nil _ (by simp)] at hc
      rcases List.mem_cons.mp (List.mem_of_getLast? hc) with rfl | hmem
      · exact hbackslash rfl
      · have hchar : isCommandChar c = true := by
          simpa [isCommandChar] using hletters c (List.mem_append_left _ hmem)
        rw [hnot] at hchar
        cases hchar

/-! ## What is found -/

namespace Trigger

theorem packageName?_eq_some_iff_asksForName {t : Trigger} :
    packageName? before = some t ↔
      ∃ front word, AsksForName before front word ∧ t = ⟨.packageParameter, units16 front⟩ := by
  rw [packageName?_eq_some_iff]
  constructor
  · rintro ⟨front, word, heq, hword, hleads, rfl⟩
    exact ⟨front, word, ⟨heq, hleads, hword.1⟩, rfl⟩
  · rintro ⟨front, word, h, rfl⟩
    exact ⟨front, word, h.1, h.isWord, h.2.1, rfl⟩

theorem command?_eq_some_iff_asksForCommand {t : Trigger} :
    command? before = some t ↔
      ∃ front letters, AsksForCommand before front letters ∧ t = ⟨.command, units16 front⟩ := by
  rw [command?_eq_some_iff]
  constructor
  · rintro ⟨front, word, heq, ⟨letters, rfl, -, hletters⟩, rfl⟩
    exact ⟨front, letters, ⟨heq, hletters⟩, rfl⟩
  · rintro ⟨front, letters, h, rfl⟩
    exact ⟨front, _, h.1, h.isWord, rfl⟩

/-- The two searches do not both succeed. -/
theorem packageName?_eq_none_or_command?_eq_none (before : List Char) :
    packageName? before = none ∨ command? before = none := by
  cases hname : packageName? before with
  | none => exact .inl rfl
  | some t =>
    right
    refine Option.eq_none_iff_forall_ne_some.mpr fun u hcommand => ?_
    obtain ⟨front, word, h, -⟩ := packageName?_eq_some_iff_asksForName.mp hname
    obtain ⟨other, letters, h', -⟩ := command?_eq_some_iff_asksForCommand.mp hcommand
    exact h.not_asksForCommand h'

/-- Each search that succeeds decides what is found. -/
theorem find?_eq_some_iff {before : String} {t : Trigger} :
    find? before = some t ↔
      packageName? before.toList = some t ∨ command? before.toList = some t := by
  rw [find?, Option.orElse_eq_orElse, Option.orElse_eq_or]
  rcases packageName?_eq_none_or_command?_eq_none before.toList with h | h <;> simp [h]

theorem find?_of_asksForName {before : String} (h : AsksForName before.toList front word) :
    find? before = some ⟨.packageParameter, units16 front⟩ :=
  find?_eq_some_iff.mpr (.inl (packageName?_eq_some_iff_asksForName.mpr ⟨front, word, h, rfl⟩))

theorem find?_of_asksForCommand {before : String} (h : AsksForCommand before.toList front letters) :
    find? before = some ⟨.command, units16 front⟩ :=
  find?_eq_some_iff.mpr (.inr (command?_eq_some_iff_asksForCommand.mpr ⟨front, letters, h, rfl⟩))

/-- What is found on a channel is what the text asks for. -/
theorem asks_of_find? {before : String} {t : Trigger} (h : find? before = some t) :
    (t.channel = .packageParameter ∧ ∃ front word, AsksForName before.toList front word) ∨
      t.channel = .command ∧ ∃ front letters, AsksForCommand before.toList front letters := by
  rcases find?_eq_some_iff.mp h with h | h
  · obtain ⟨front, word, hasks, rfl⟩ := packageName?_eq_some_iff_asksForName.mp h
    exact .inl ⟨rfl, front, word, hasks⟩
  · obtain ⟨front, letters, hasks, rfl⟩ := command?_eq_some_iff_asksForCommand.mp h
    exact .inr ⟨rfl, front, letters, hasks⟩

theorem exists_find?_packageParameter_iff {before : String} :
    (∃ start, find? before = some ⟨.packageParameter, start⟩) ↔
      ∃ front word, AsksForName before.toList front word := by
  constructor
  · rintro ⟨start, h⟩
    rcases asks_of_find? h with ⟨-, hasks⟩ | ⟨hchannel, -⟩
    · exact hasks
    · cases hchannel
  · rintro ⟨front, word, h⟩
    exact ⟨_, find?_of_asksForName h⟩

theorem exists_find?_command_iff {before : String} :
    (∃ start, find? before = some ⟨.command, start⟩) ↔
      ∃ front letters, AsksForCommand before.toList front letters := by
  constructor
  · rintro ⟨start, h⟩
    rcases asks_of_find? h with ⟨hchannel, -⟩ | ⟨-, hasks⟩
    · cases hchannel
    · exact hasks
  · rintro ⟨front, letters, h⟩
    exact ⟨_, find?_of_asksForCommand h⟩

theorem find?_eq_none_iff {before : String} :
    find? before = none ↔ (¬ ∃ front word, AsksForName before.toList front word) ∧
      ¬ ∃ front letters, AsksForCommand before.toList front letters := by
  constructor
  · intro hnone
    refine ⟨?_, ?_⟩
    · rintro ⟨front, word, h⟩
      simp [find?_of_asksForName h] at hnone
    · rintro ⟨front, letters, h⟩
      simp [find?_of_asksForCommand h] at hnone
  · rintro ⟨hname, hcommand⟩
    refine Option.eq_none_iff_forall_ne_some.mpr fun t h => ?_
    rcases asks_of_find? h with ⟨-, hasks⟩ | ⟨-, hasks⟩
    · exact hname hasks
    · exact hcommand hasks

/-- **Which channel a text asks for.**  A package name is completed exactly if the text asks for one, a
command exactly if it asks for one.  It never asks for both, so the channels can be tried in either
order, and if it asks for neither, nothing is completed.  However the text is taken apart, the column
is that of the start of the whole word. -/
theorem find?_on_channels (before : String) :
    ((∃ start, find? before = some ⟨.packageParameter, start⟩) ↔
      ∃ front word, AsksForName before.toList front word) ∧
    ((∃ start, find? before = some ⟨.command, start⟩) ↔
      ∃ front letters, AsksForCommand before.toList front letters) ∧
    ¬((∃ front word, AsksForName before.toList front word) ∧
      ∃ front letters, AsksForCommand before.toList front letters) ∧
    find? before = (command? before.toList <|> packageName? before.toList) ∧
    (find? before = none ↔
      (¬ ∃ front word, AsksForName before.toList front word) ∧
        ¬ ∃ front letters, AsksForCommand before.toList front letters) ∧
    (∀ front word, AsksForName before.toList front word →
      Channel.packageParameter.IsWord front word ∧
        find? before = some ⟨.packageParameter, units16 front⟩) ∧
    ∀ front letters, AsksForCommand before.toList front letters →
      Channel.command.IsWord front ('\\' :: letters) ∧
        find? before = some ⟨.command, units16 front⟩ := by
  refine ⟨exists_find?_packageParameter_iff, exists_find?_command_iff, ?_, ?_,
    find?_eq_none_iff, ?_, ?_⟩
  · rintro ⟨⟨front, word, h⟩, other, letters, h'⟩
    exact h.not_asksForCommand h'
  · rw [find?]
    rcases packageName?_eq_none_or_command?_eq_none before.toList with h | h <;> simp [h]
  · intro front word h
    exact ⟨h.isWord, find?_of_asksForName h⟩
  · intro front letters h
    exact ⟨h.isWord, find?_of_asksForCommand h⟩

/-- A second name is completed behind a comma and a blank, and it starts there. -/
theorem find?_on_channels_inp :
    let before := "\\usepackage[utf8]\x7bamsmath, inp"
    let front := "\\usepackage[utf8]\x7bamsmath, "
    AsksForName before.toList front.toList "inp".toList ∧
      Channel.packageParameter.IsWord front.toList "inp".toList ∧
        find? before = some ⟨.packageParameter, 27⟩ := by
  intro before front
  have hleads : LeadsToName front.toList := by
    refine ⟨[], "[utf8]".toList, "amsmath,".toList, [' '], by decide, ?_, ?_, ?_⟩
    · exact .inr ⟨"utf8".toList, by decide, by decide⟩
    · exact .inr ⟨"amsmath".toList, by decide, by decide⟩
    · exact List.forall_mem_singleton.mpr (by decide)
  have hletters : "inp".toList.all Char.isAlphanum = true := by decide
  have hasks : AsksForName before.toList front.toList "inp".toList :=
    ⟨by decide, hleads, fun c hc => .inl (List.all_eq_true.mp hletters c hc)⟩
  have hunits : units16 front.toList = 27 := by decide
  obtain ⟨-, -, -, -, -, hname, -⟩ := find?_on_channels before
  obtain ⟨hword, hfound⟩ := hname _ _ hasks
  exact ⟨hasks, hword, by rw [hfound, hunits]⟩

end Trigger

end TexCompletion

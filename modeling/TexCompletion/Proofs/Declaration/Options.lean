import TexCompletion.Proofs.Declaration.Matches

/-!
# Declarations with and without options

The options of a declaration are what makes a scan subtle: they run over any text up to a closing
bracket that a name in braces follows.

**Without options** there is nothing to run over.  If no line that counts has a `\usepackage[`, a name
is reported exactly if its declaration occurs on one of these lines, whatever stands around it
(`scan_without_options`).  Reading never steps over a declaration: a backslash begins one, and none
lies inside of one (`eq_or_infix_of_plainOf`).

**With options** the place to end them is the first bracket with a brace directly behind it.  A match
does not end them there if they would be empty or if no name follows in the braces (`LacksName`).  It
reads on to the next bracket that a name in braces follows (`SkipsNoName`), which may be the argument of
another command (`scan_cited_tikz`).  Apart from such names, every name that is reported is declared
(`scan_declared_iff`).
-/

namespace TexCompletion.Declaration

open Text

/-! ## The lines that count -/

/-- A line of the text other than the excluded one. -/
def Counts (text : String) (excluded : Nat) (line : List Char) : Prop :=
  ∃ i, (lines text.toList)[i]? = some line ∧ i + 1 ≠ excluded

theorem mem_scan_iff_counts {name text : String} {excluded : Nat} :
    name ∈ scan text excluded ↔ ∃ line, Counts text excluded line ∧ name.toList ∈ namesIn line := by
  rw [mem_scan, mem_scanChars]
  constructor
  · rintro ⟨i, line, hline, hi, hname⟩
    exact ⟨line, ⟨i, hline, hi⟩, hname⟩
  · rintro ⟨line, ⟨i, hline, hi⟩, hname⟩
    exact ⟨i, line, hline, hi, hname⟩

/-! ## Where a text occurs -/

/-- Behind characters that cannot begin it, a text occurs in what follows. -/
theorem infix_of_infix_append {c : Char} {word front rest : List Char} (hc : c ∉ front)
    (h : c :: word <:+: front ++ rest) : c :: word <:+: rest := by
  induction front with
  | nil => exact h
  | cons d front ih =>
    rw [List.mem_cons, not_or] at hc
    rcases List.infix_cons_iff.mp h with hprefix | hlater
    · exact absurd (List.cons_prefix_cons.mp hprefix).1 hc.1
    · exact ih hc.2 hlater

/-- A text that occurs has a first occurrence. -/
theorem exists_first_occurrence {word cs : List Char} (hword : word ≠ []) (h : word <:+: cs) :
    ∃ first rest, cs = first ++ word ++ rest ∧ ¬ word <:+: first := by
  induction cs with
  | nil => exact absurd (List.eq_nil_of_infix_nil h) hword
  | cons c cs ih =>
    by_cases hprefix : word <+: c :: cs
    · obtain ⟨rest, hrest⟩ := hprefix
      exact ⟨[], rest, hrest.symm, fun hnil => hword (List.eq_nil_of_infix_nil hnil)⟩
    · obtain ⟨first, rest, rfl, hfirst⟩ := ih ((List.infix_cons_iff.mp h).resolve_left hprefix)
      refine ⟨c :: first, rest, rfl, fun hin => ?_⟩
      rcases List.infix_cons_iff.mp hin with hearly | hin
      · refine hprefix (hearly.trans ⟨word ++ rest, ?_⟩)
        simp
      · exact hfirst hin

/-! ## Without options -/

/-- The declaration of a name without options. -/
def plainOf (name : List Char) : List Char :=
  keyword ++ '\x7b' :: (name ++ ['\x7d'])

/-- The declaration of a name without options, as a declaration in writing. -/
def Written.plain (name : List Char) (h : IsName name) : Written where
  options := none
  name := name
  options_ne := by simp
  isName := h

theorem Written.chars_of_options_eq_none {d : Written} (h : d.options = none) :
    d.chars = plainOf d.name := by
  rw [chars, argument, bracketed, h]
  rfl

/-- On a line without `\usepackage[` no declaration has options. -/
theorem Written.options_eq_none {d : Written} {line : List Char}
    (hline : ¬ keyword ++ ['['] <:+: line) (hd : d.chars <:+: line) : d.options = none := by
  refine Option.eq_none_iff_forall_ne_some.mpr fun o ho => hline ?_
  have hchars : d.chars = keyword ++ ['['] ++ (o ++ [']'] ++ '\x7b' :: (d.name ++ ['\x7d'])) := by
    simp [chars, argument, bracketed, ho]
  rw [hchars] at hd
  exact (List.prefix_append _ _).isInfix.trans hd

/-- Two declarations without options that stand at one place have one name. -/
theorem name_eq_of_plainOf {name other rest : List Char} (hname : IsName name)
    (hother : IsName other) (h : plainOf other <+: plainOf name ++ rest) : other = name := by
  obtain ⟨tail, htail⟩ := h
  simp only [plainOf, List.append_assoc, List.append_cancel_left_eq, List.cons_append,
    List.nil_append] at htail
  have hread := braced?_of_isName hother tail
  rw [htail, braced?_of_isName hname rest] at hread
  exact (congrArg Prod.fst (Option.some.inj hread)).symm

/-- A declaration that occurs where one begins is that one or occurs behind it: no backslash lies
inside of it. -/
theorem eq_or_infix_of_plainOf {name other rest : List Char} (hname : IsName name)
    (hother : IsName other) (h : plainOf other <:+: plainOf name ++ rest) :
    other = name ∨ plainOf other <:+: rest := by
  have hbegin (n : List Char) : plainOf n = '\\' :: (keyword.tail ++ '\x7b' :: (n ++ ['\x7d'])) := by
    have hkeyword : keyword = '\\' :: keyword.tail := by decide
    rw [plainOf, hkeyword]
    rfl
  rw [hbegin name, List.cons_append] at h
  rcases List.infix_cons_iff.mp h with hprefix | hlater
  · rw [← List.cons_append, ← hbegin name] at hprefix
    exact .inl (name_eq_of_plainOf hname hother hprefix)
  · have hkeyword : '\\' ∉ keyword.tail := by decide
    have hword : '\\' ∉ name := fun hmem => absurd (hname.2 _ hmem) (by decide)
    rw [hbegin other] at hlater ⊢
    refine .inr (infix_of_infix_append ?_ hlater)
    simp [hkeyword, hword]

/-- A line without `\usepackage[` declares the names whose declarations occur in it. -/
theorem mem_namesIn_iff_plainOf {line name : List Char} (hline : ¬ keyword ++ ['['] <:+: line) :
    name ∈ namesIn line ↔ IsName name ∧ plainOf name <:+: line := by
  constructor
  · intro h
    obtain ⟨found, hfound, hmem⟩ := mem_namesIn_iff.mp h
    obtain ⟨⟨i, d⟩, hd, rfl⟩ := List.mem_map.mp hmem
    have hstands : d.chars <:+: line :=
      (hfound.standsAt hd).isInfix.trans (List.drop_suffix i line).isInfix
    rw [Written.chars_of_options_eq_none (Written.options_eq_none hline hstands)] at hstands
    exact ⟨d.isName, hstands⟩
  · rintro ⟨hname, hin⟩
    -- reading goes on behind a declaration, or behind a character that begins none
    fun_induction namesIn line with
    | case1 => exact absurd (List.eq_nil_of_infix_nil hin) (by simp [plainOf])
    | case2 c cs found rest hread ih =>
      obtain ⟨d, rfl, happend, -⟩ := shortest_of_read? hread
      rw [← happend] at hline hin
      have hoptions := Written.options_eq_none hline (List.prefix_append _ _).isInfix
      rw [Written.chars_of_options_eq_none hoptions] at hline hin
      rcases eq_or_infix_of_plainOf d.isName hname hin with rfl | hlater
      · exact List.mem_cons_self
      · refine List.mem_cons_of_mem _ (ih (fun h => hline ?_) hlater)
        exact h.trans (List.suffix_append _ _).isInfix
    | case3 c cs hread ih =>
      rcases List.infix_cons_iff.mp hin with hprefix | hlater
      · exact absurd hprefix (not_prefix_of_read? hread (.plain name hname))
      · exact ih (fun h => hline (List.infix_cons h)) hlater

/-- **Without options the scan finds every declaration.**  No line that counts has a `\usepackage[`.
Then a name is reported exactly if it is a word of letters, digits and underscores and its
declaration occurs on a line that counts. -/
theorem scan_without_options {text : String} {excluded : Nat}
    (h : ∀ line, Counts text excluded line → ¬ keyword ++ ['['] <:+: line) (name : String) :
    name ∈ scan text excluded ↔
      (name ≠ "" ∧ ∀ c ∈ name.toList, c.isAlphanum = true ∨ c = '_') ∧
        ∃ line, Counts text excluded line ∧ (declarationOf name).toList <:+: line := by
  have hword : IsName name.toList ↔
      name ≠ "" ∧ ∀ c ∈ name.toList, c.isAlphanum = true ∨ c = '_' := by
    simp only [IsName, isWordChar, Bool.or_eq_true, beq_iff_eq, ne_eq, String.toList_eq_nil_iff]
  have hdeclaration : (declarationOf name).toList = plainOf name.toList := toList_declarationOf name
  rw [mem_scan_iff_counts, hdeclaration, ← hword]
  constructor
  · rintro ⟨line, hline, hmem⟩
    obtain ⟨hname, hin⟩ := (mem_namesIn_iff_plainOf (h line hline)).mp hmem
    exact ⟨hname, line, hline, hin⟩
  · rintro ⟨hname, line, hline, hin⟩
    exact ⟨line, hline, (mem_namesIn_iff_plainOf (h line hline)).mpr ⟨hname, hin⟩⟩

/-- A declaration is found behind one that is not finished, with a comment sign in front, if the only
options of the text are on the line that does not count. -/
theorem scan_without_options_tikz :
    let text := "% \\usepackage\x7b\\usepackage\x7btikz\x7d\n\\usepackage[utf8]\x7binputenc\x7d"
    (∀ line, Counts text 2 line → ¬ keyword ++ ['['] <:+: line) ∧ "tikz" ∈ scan text 2 := by
  intro text
  let first := "% \\usepackage\x7b\\usepackage\x7btikz\x7d".toList
  have hlines : lines text.toList = [first, "\\usepackage[utf8]\x7binputenc\x7d".toList] := by
    decide
  have hplain : ∀ line, Counts text 2 line → ¬ keyword ++ ['['] <:+: line := by
    rintro line ⟨i, hline, hi⟩
    rw [hlines] at hline
    rcases i with _ | _ | i
    · obtain rfl := Option.some.inj hline
      decide +kernel
    · exact absurd rfl hi
    · simp at hline
  have hfirst : Counts text 2 first := ⟨0, by rw [hlines, List.getElem?_cons_zero], by decide⟩
  have hletters : "tikz".toList.all Char.isAlphanum = true := by decide
  have hword : ∀ c ∈ "tikz".toList, c.isAlphanum = true ∨ c = '_' :=
    fun c hc => .inl (List.all_eq_true.mp hletters c hc)
  refine ⟨hplain, (scan_without_options hplain "tikz").mpr ⟨⟨by decide, hword⟩, first, hfirst, ?_⟩⟩
  decide +kernel

/-! ## Where options end -/

/-- What ends the options of a declaration: a bracket with a brace directly behind it. -/
def optionsEnd : List Char :=
  [']', '\x7b']

/-- The declaration of a name with options. -/
def optioned (o name : List Char) : List Char :=
  keyword ++ '[' :: (o ++ optionsEnd ++ (name ++ ['\x7d']))

/-- A line declares a name: its declaration occurs there without options, or with options that end at
the first bracket that has a brace directly behind it. -/
def Declares (line name : List Char) : Prop :=
  plainOf name <:+: line ∨ ∃ o, ¬ optionsEnd <:+: o ∧ optioned o name <:+: line

/-- Behind the command stand options that end where they should, but they are empty, or the braces
behind them hold something else than one name. -/
def LacksName (cs : List Char) : Prop :=
  ∃ o rest, cs = keyword ++ '[' :: (o ++ optionsEnd ++ rest) ∧ ¬ optionsEnd <:+: o ∧
    (o = [] ∨ ∀ name after, IsName name → rest ≠ name ++ '\x7d' :: after)

/-- Wherever an end lies inside of the options, they would be empty up to there or no name follows in
the braces. -/
def SkipsNoName (o : List Char) : Prop :=
  ∀ first behind, o = first ++ optionsEnd ++ behind → first ≠ [] →
    ∀ name after, IsName name → behind ≠ name ++ '\x7d' :: after

/-- The scan matches a declaration at an index of the line. -/
def IsMatch (line : List Char) (i : Nat) (d : Written) : Prop :=
  ∃ found, Matches line 0 found ∧ (i, d) ∈ found

/-- An end of options that begins a text is the first one there: it shares no character with another,
and nothing without one stands ahead of it. -/
theorem eq_nil_of_optionsEnd_append {more rest behind : List Char} (hmore : ¬ optionsEnd <:+: more)
    (h : optionsEnd ++ rest = more ++ (optionsEnd ++ behind)) : more = [] := by
  rcases more with _ | ⟨c, _ | ⟨d, more⟩⟩
  · rfl
  · simp [optionsEnd] at h
  · obtain ⟨rfl, rfl, -⟩ : ']' = c ∧ '\x7b' = d ∧ _ := by simpa [optionsEnd] using h
    exact absurd ⟨[], more, rfl⟩ hmore

/-- There is one way to cut a text at the first end of options. -/
theorem append_optionsEnd_inj {o other rest behind : List Char} (ho : ¬ optionsEnd <:+: o)
    (hother : ¬ optionsEnd <:+: other)
    (h : o ++ (optionsEnd ++ rest) = other ++ (optionsEnd ++ behind)) :
    o = other ∧ rest = behind := by
  have hsame : o = other := by
    rcases List.append_eq_append_iff.mp h with ⟨more, rfl, hmore⟩ | ⟨more, rfl, hmore⟩
    · obtain rfl := eq_nil_of_optionsEnd_append
        (fun hin => hother (hin.trans (List.suffix_append o more).isInfix)) hmore
      rw [List.append_nil]
    · obtain rfl := eq_nil_of_optionsEnd_append
        (fun hin => ho (hin.trans (List.suffix_append other more).isInfix)) hmore
      rw [List.append_nil]
  rw [hsame] at h
  exact ⟨hsame, List.append_cancel_left (List.append_cancel_left h)⟩

theorem Written.chars_of_options {d : Written} {o : List Char} (h : d.options = some o) :
    d.chars = optioned o d.name := by
  simp [optioned, chars, argument, bracketed, h, optionsEnd]

/-- A name in braces that begins in front of an end of options is closed in front of it. -/
theorem exists_closed_of_append {behind rest name after : List Char} (hname : IsName name)
    (h : behind ++ (optionsEnd ++ rest) = name ++ '\x7d' :: after) :
    ∃ more, behind = name ++ '\x7d' :: more := by
  rcases List.append_eq_append_iff.mp h with ⟨more, hmore, hrest⟩ | ⟨more, hmore, hrest⟩
  · -- the name would hold the bracket, or be closed by it
    cases more with
    | nil => simp [optionsEnd] at hrest
    | cons c more =>
      obtain ⟨rfl, -⟩ := List.cons.inj hrest
      exact absurd (hname.2 ']' (by simp [hmore])) (by decide)
  · cases more with
    | nil => simp [optionsEnd] at hrest
    | cons c more =>
      obtain ⟨rfl, -⟩ := List.cons.inj hrest
      exact ⟨more, hmore⟩

/-- The options of a match end at the first place where a name follows. -/
theorem IsNext.skipsNoName {line o : List Char} {start i : Nat} {d : Written}
    (h : IsNext line start i d) (hoptions : d.options = some o) : SkipsNoName o := by
  rintro first behind rfl hne name after hname rfl
  obtain ⟨tail, htail⟩ := h.stands
  -- otherwise a declaration with shorter options would stand there
  let shorter : Written := ⟨some first, name, by simpa using hne, hname⟩
  have hstands : shorter.StandsAt line i := by
    refine ⟨after ++ optionsEnd ++ (d.name ++ ['\x7d']) ++ tail, ?_⟩
    rw [← htail, Written.chars_of_options hoptions, Written.chars_of_options (d := shorter) rfl]
    simp [optioned, shorter]
  have hlength := h.shortest shorter hstands
  simp only [Written.optionsLength, hoptions, shorter, optionsEnd, Option.getD_some,
    List.length_append, List.length_cons, List.length_nil] at hlength
  omega

/-- A match reads past the first end of its options exactly if no name follows there. -/
theorem IsNext.lacksName_iff {line : List Char} {start i : Nat} {d : Written}
    (h : IsNext line start i d) :
    LacksName (line.drop i) ↔ ∃ o, d.options = some o ∧ optionsEnd <:+: o := by
  obtain ⟨tail, htail⟩ := h.stands
  constructor
  · rintro ⟨o, rest, heq, ho, hlacks⟩
    rw [heq] at htail
    cases hoptions : d.options with
    | none =>
      rw [Written.chars_of_options_eq_none hoptions, plainOf, List.append_assoc] at htail
      simp at htail
    | some other =>
      refine ⟨other, rfl, ?_⟩
      by_contra hother
      rw [Written.chars_of_options hoptions, List.append_assoc] at htail
      have hcut : other ++ (optionsEnd ++ (d.name ++ ['\x7d'] ++ tail)) =
          o ++ (optionsEnd ++ rest) := by
        simpa [optioned] using htail
      obtain ⟨rfl, hrest⟩ := append_optionsEnd_inj hother ho hcut
      rcases hlacks with hnil | hlacks
      · exact d.options_ne (hnil ▸ hoptions)
      · refine hlacks d.name tail d.isName ?_
        rw [← hrest]
        simp
  · rintro ⟨o, hoptions, hin⟩
    obtain ⟨first, behind, rfl, hfirst⟩ := exists_first_occurrence (by simp [optionsEnd]) hin
    refine ⟨first, behind ++ (optionsEnd ++ (d.name ++ ['\x7d'] ++ tail)), ?_, hfirst, ?_⟩
    · rw [← htail, Written.chars_of_options hoptions]
      simp [optioned]
    · refine or_iff_not_imp_left.mpr fun hne name after hname hafter => ?_
      obtain ⟨more, hmore⟩ := exists_closed_of_append hname hafter
      exact h.skipsNoName hoptions first behind rfl hne name more hname hmore

theorem IsMatch.isNext {line : List Char} {i : Nat} {d : Written} (h : IsMatch line i d) :
    ∃ start, IsNext line start i d := by
  obtain ⟨found, hfound, hmem⟩ := h
  exact hfound.isNext hmem

/-- A match is a declaration without options, or with options that end at the first place where a name
follows. -/
theorem IsMatch.stands {line : List Char} {i : Nat} {d : Written} (h : IsMatch line i d) :
    plainOf d.name <:+: line ∨
      ∃ o, d.options = some o ∧ SkipsNoName o ∧ optioned o d.name <:+: line := by
  obtain ⟨start, hnext⟩ := h.isNext
  have hstands : d.chars <:+: line := hnext.stands.isInfix.trans (List.drop_suffix i line).isInfix
  cases hoptions : d.options with
  | none =>
    rw [Written.chars_of_options_eq_none hoptions] at hstands
    exact .inl hstands
  | some o =>
    rw [Written.chars_of_options hoptions] at hstands
    exact .inr ⟨o, rfl, hnext.skipsNoName hoptions, hstands⟩

/-- A match that does not read past the first end of its options is a declaration of its name. -/
theorem IsMatch.declares {line : List Char} {i : Nat} {d : Written} (h : IsMatch line i d)
    (hname : ¬ LacksName (line.drop i)) : Declares line d.name := by
  obtain ⟨start, hnext⟩ := h.isNext
  rcases h.stands with hplain | ⟨o, hoptions, -, hin⟩
  · exact .inl hplain
  · exact .inr ⟨o, fun hend => hname (hnext.lacksName_iff.mpr ⟨o, hoptions, hend⟩), hin⟩

theorem mem_scan_iff_isMatch {name text : String} {excluded : Nat} :
    name ∈ scan text excluded ↔
      ∃ line i d, Counts text excluded line ∧ IsMatch line i d ∧ d.name = name.toList := by
  rw [mem_scan_iff_counts]
  constructor
  · rintro ⟨line, hline, hname⟩
    obtain ⟨found, hfound, hmem⟩ := mem_namesIn_iff.mp hname
    obtain ⟨⟨i, d⟩, hd, hname⟩ := List.mem_map.mp hmem
    exact ⟨line, i, d, hline, ⟨found, hfound, hd⟩, hname⟩
  · rintro ⟨line, i, d, hline, ⟨found, hfound, hd⟩, hname⟩
    exact ⟨line, hline, mem_namesIn_iff.mpr ⟨found, hfound, List.mem_map.mpr ⟨(i, d), hd, hname⟩⟩⟩

/-- **What the scan reports is declared, but for what it reads behind the options.**  Every name that is
reported stands in a declaration on a line that counts, whose options may skip ends that no name
follows.  The options of a match skip one exactly if they are empty up to the first end or no name
follows there.  So every name is declared, in the strict sense, exactly if the names of these matches
are. -/
theorem scan_declared_iff (text : String) (excluded : Nat) :
    (∀ name ∈ scan text excluded, ∃ line, Counts text excluded line ∧
      (plainOf name.toList <:+: line ∨
        ∃ o, o ≠ [] ∧ SkipsNoName o ∧ optioned o name.toList <:+: line)) ∧
    (∀ line i d, Counts text excluded line → IsMatch line i d →
      ((∃ o, d.options = some o ∧ optionsEnd <:+: o) ↔ LacksName (line.drop i))) ∧
    ((∀ name ∈ scan text excluded,
        ∃ line, Counts text excluded line ∧ Declares line name.toList) ↔
      ∀ line i d, Counts text excluded line → IsMatch line i d → LacksName (line.drop i) →
        ∃ other, Counts text excluded other ∧ Declares other d.name) := by
  refine ⟨fun name hname => ?_, fun line i d _ hmatch => ?_, ?_, ?_⟩
  · obtain ⟨line, i, d, hline, hmatch, heq⟩ := mem_scan_iff_isMatch.mp hname
    refine ⟨line, hline, ?_⟩
    rw [← heq]
    rcases hmatch.stands with hplain | ⟨o, hoptions, hskips, hin⟩
    · exact .inl hplain
    · refine .inr ⟨o, ?_, hskips, hin⟩
      rintro rfl
      exact d.options_ne hoptions
  · obtain ⟨start, hnext⟩ := hmatch.isNext
    exact hnext.lacksName_iff.symm
  · intro h line i d hline hmatch _
    have hname : String.ofList d.name ∈ scan text excluded :=
      mem_scan_iff_isMatch.mpr ⟨line, i, d, hline, hmatch, String.toList_ofList.symm⟩
    obtain ⟨other, hother, hdeclares⟩ := h _ hname
    rw [String.toList_ofList] at hdeclares
    exact ⟨other, hother, hdeclares⟩
  · intro h name hname
    obtain ⟨line, i, d, hline, hmatch, heq⟩ := mem_scan_iff_isMatch.mp hname
    rw [← heq]
    by_cases hlacks : LacksName (line.drop i)
    · exact h line i d hline hmatch hlacks
    · exact ⟨line, hline, hmatch.declares hlacks⟩

/-- A list of two packages is no name, so its declaration takes the argument of a command further on
for one. -/
theorem scan_cited_tikz :
    let text := "\\usepackage[utf8]\x7ba,b\x7d \\cite[p]\x7btikz\x7d"
    "tikz" ∈ scan text 0 ∧ ¬ ∃ line, Counts text 0 line ∧ Declares line "tikz".toList := by
  intro text
  have hlines : lines text.toList = [text.toList] := by decide
  have hcounts : Counts text 0 text.toList :=
    ⟨0, by rw [hlines, List.getElem?_cons_zero], by decide⟩
  have hread : read? text.toList = some ("tikz".toList, []) := by decide
  have hscan : "tikz" ∈ scan text 0 := by
    refine mem_scan_iff_counts.mpr ⟨text.toList, hcounts, ?_⟩
    rw [namesIn_of_read? hread]
    exact List.mem_cons_self
  refine ⟨hscan, ?_⟩
  rintro ⟨line, ⟨i, hline, -⟩, hdeclares⟩
  obtain rfl : line = text.toList := by
    simpa [hlines] using List.mem_of_getElem? hline
  have htext : text.toList =
      keyword ++ '[' :: ("utf8".toList ++ optionsEnd ++ "a,b\x7d \\cite[p]\x7btikz\x7d".toList) := by
    decide
  rcases hdeclares with hplain | ⟨o, ho, hin⟩
  · exact absurd hplain (by decide +kernel)
  · obtain ⟨front, behind, heq⟩ := hin
    cases front with
    | cons c front =>
      -- the command occurs at the start of the line only
      have honce : ¬ keyword <:+: text.toList.tail := by decide +kernel
      refine honce ⟨front, '[' :: (o ++ optionsEnd ++ "tikz".toList ++ ['\x7d']) ++ behind, ?_⟩
      rw [← heq]
      simp [optioned]
    | nil =>
      have hcut : o ++ (optionsEnd ++ ("tikz".toList ++ '\x7d' :: behind)) =
          "utf8".toList ++ (optionsEnd ++ "a,b\x7d \\cite[p]\x7btikz\x7d".toList) := by
        rw [htext] at heq
        simpa [optioned] using heq
      have hutf8 : ¬ optionsEnd <:+: "utf8".toList := by decide +kernel
      have hname := (append_optionsEnd_inj ho hutf8 hcut).2
      simp at hname

end TexCompletion.Declaration

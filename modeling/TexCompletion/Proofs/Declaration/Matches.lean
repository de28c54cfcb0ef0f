import TexCompletion.Proofs.Completion.Declared
import TexCompletion.Proofs.Declaration.Scan

/-!
# Which declarations a line has

`Declaration.namesIn` is a program: it tries to read a declaration, goes on behind it if there is
one, and moves on by a character if there is none.  Here is what it reads, in terms of the line
alone.  A declaration in writing (`Written`) is the command with a name and options that are not
empty, if any.  The matches of a line (`Matches`) go from left to right.  Each of them begins as far
left as a declaration behind the one before can begin, and of those that begin there it is the one
with the shortest options.

A line has exactly one sequence of matches (`exists_matches`, `Matches.unique`), and their names are
those that are read.  `scan_matches` is the law of the scan: it reports the names of the matches of
every line but one.
-/

namespace TexCompletion.Declaration

open Text

/-! ## Declarations in writing -/

/-- A declaration as it is written. -/
@[ext]
structure Written where
  /-- What stands in brackets, nothing if there are none. -/
  options : Option (List Char)
  name : List Char
  options_ne : options ≠ some []
  isName : IsName name

namespace Written

/-- What stands ahead of the name. -/
def bracketed (d : Written) : List Char :=
  match d.options with
  | none => []
  | some o => '[' :: (o ++ [']'])

/-- What stands behind the command. -/
def argument (d : Written) : List Char :=
  d.bracketed ++ '\x7b' :: (d.name ++ ['\x7d'])

/-- The declaration as text. -/
def chars (d : Written) : List Char :=
  keyword ++ d.argument

theorem chars_ne_nil (d : Written) : d.chars ≠ [] := by
  have hkeyword : keyword ≠ [] := by decide
  exact List.append_ne_nil_of_left_ne_nil hkeyword _

/-- The length of the options. -/
def optionsLength (d : Written) : Nat :=
  (d.options.getD []).length

end Written

/-- A declaration stands in the line from an index on. -/
def Written.StandsAt (d : Written) (line : List Char) (i : Nat) : Prop :=
  d.chars <+: line.drop i

/-- The first declaration from an index on: where it starts, none starts further left, and none that
starts there has shorter options. -/
structure IsNext (line : List Char) (start i : Nat) (d : Written) : Prop where
  le : start ≤ i
  stands : d.StandsAt line i
  leftmost : ∀ (j : Nat) (other : Written), start ≤ j → other.StandsAt line j → i ≤ j
  shortest : ∀ other : Written, other.StandsAt line i → d.optionsLength ≤ other.optionsLength

/-- The matches of a line from an index on, with the indices where they start.  Behind the last one
no declaration starts. -/
inductive Matches (line : List Char) : Nat → List (Nat × Written) → Prop
  | done {start : Nat} (none : ∀ (j : Nat) (d : Written), start ≤ j → ¬ d.StandsAt line j) :
      Matches line start []
  | next {start i : Nat} {d : Written} {rest : List (Nat × Written)} (first : IsNext line start i d)
      (others : Matches line (i + d.chars.length) rest) : Matches line start ((i, d) :: rest)

/-! ## Names in braces -/

/-- A name in braces is read exactly if it stands there. -/
theorem braced?_eq_some_iff {cs name rest : List Char} :
    braced? cs = some (name, rest) ↔ IsName name ∧ cs = '\x7b' :: (name ++ '\x7d' :: rest) := by
  constructor
  · intro h
    refine ⟨isName_of_braced? h, ?_⟩
    unfold braced? at h
    split at h
    next cs =>
      split at h
      next c n r htake hdrop =>
        obtain ⟨rfl, rfl⟩ := Prod.mk.inj (Option.some.inj h)
        rw [← htake, ← hdrop, List.takeWhile_append_dropWhile]
      next => simp at h
    next => simp at h
  · rintro ⟨hname, rfl⟩
    exact braced?_of_isName hname rest

/-! ## Options -/

/-- Options that have begun end with `o`, and a name in braces follows. -/
def Closes (cs o name rest : List Char) : Prop :=
  ∃ tail, cs = o ++ ']' :: tail ∧ braced? tail = some (name, rest)

/-- Options end here, or behind the next character. -/
theorem closes_cons_iff {c : Char} {cs o name rest : List Char} :
    Closes (c :: cs) o name rest ↔
      (o = [] ∧ c = ']' ∧ braced? cs = some (name, rest)) ∨
        ∃ o', o = c :: o' ∧ Closes cs o' name rest := by
  constructor
  · rintro ⟨tail, htail, hbraced⟩
    cases o with
    | nil =>
      obtain ⟨rfl, rfl⟩ := List.cons.inj htail
      exact .inl ⟨rfl, rfl, hbraced⟩
    | cons d o' =>
      obtain ⟨rfl, rfl⟩ := List.cons.inj htail
      exact .inr ⟨o', rfl, tail, rfl, hbraced⟩
  · rintro (⟨rfl, rfl, hbraced⟩ | ⟨o', rfl, tail, rfl, hbraced⟩)
    · exact ⟨cs, rfl, hbraced⟩
    · exact ⟨tail, rfl, hbraced⟩

/-- Options are read up to the first place where they can end. -/
theorem closes_of_closeOptions? {cs name rest : List Char}
    (h : closeOptions? cs = some (name, rest)) :
    ∃ o, Closes cs o name rest ∧
      ∀ o' name' rest', Closes cs o' name' rest' → o.length ≤ o'.length := by
  induction cs with
  | nil => simp [closeOptions?] at h
  | cons c cs ih =>
    rw [closeOptions?] at h
    split at h
    next found hbraced =>
      obtain ⟨hc, hbraced⟩ := Option.ite_none_right_eq_some.mp (hbraced.trans h)
      exact ⟨[], closes_cons_iff.mpr (.inl ⟨rfl, hc, hbraced⟩), fun _ _ _ _ => Nat.zero_le _⟩
    next hopen =>
      obtain ⟨o, hcloses, hshortest⟩ := ih h
      refine ⟨c :: o, closes_cons_iff.mpr (.inr ⟨o, rfl, hcloses⟩), fun o' name' rest' h' => ?_⟩
      rcases closes_cons_iff.mp h' with ⟨-, hc, hbraced⟩ | ⟨o'', rfl, h''⟩
      · rw [if_pos hc, hbraced] at hopen
        simp at hopen
      · exact Nat.succ_le_succ (hshortest o'' name' rest' h'')

/-- Options that are not read cannot end anywhere. -/
theorem not_closes_of_closeOptions? {cs : List Char} (h : closeOptions? cs = none)
    (o name rest : List Char) : ¬ Closes cs o name rest := by
  induction cs generalizing o with
  | nil =>
    rintro ⟨tail, htail, -⟩
    simp at htail
  | cons c cs ih =>
    rw [closeOptions?] at h
    split at h
    next => simp at h
    next hopen =>
      intro hcloses
      rcases closes_cons_iff.mp hcloses with ⟨-, hc, hbraced⟩ | ⟨o', -, hlater⟩
      · rw [if_pos hc, hbraced] at hopen
        simp at hopen
      · exact ih h o' hlater

/-! ## One declaration -/

namespace Written

/-- Behind a bracket stand options that are not empty, and the name behind them. -/
theorem argument_append_eq_bracket_iff {d : Written} {rest cs : List Char} {c : Char} :
    d.argument ++ rest = '[' :: c :: cs ↔
      ∃ o, d.options = some (c :: o) ∧ Closes cs o d.name rest := by
  have hend (o : List Char) : Closes cs o d.name rest ↔
      o ++ ']' :: '\x7b' :: (d.name ++ '\x7d' :: rest) = cs := by
    constructor
    · rintro ⟨tail, rfl, hbraced⟩
      rw [(braced?_eq_some_iff.mp hbraced).2]
    · exact fun h => ⟨_, h.symm, braced?_of_isName d.isName rest⟩
  rcases ho : d.options with _ | _ | ⟨x, o⟩
  · simp [argument, bracketed, ho]
  · exact absurd ho d.options_ne
  · simp [argument, bracketed, ho, hend]

/-- Without a bracket there are no options. -/
theorem argument_append_eq_iff {d : Written} {rest cs : List Char}
    (hcs : ∀ c tail, cs ≠ '[' :: c :: tail) :
    d.argument ++ rest = cs ↔ d.options = none ∧ braced? cs = some (d.name, rest) := by
  rcases ho : d.options with _ | _ | ⟨x, o⟩
  · simpa [argument, bracketed, ho, braced?_eq_some_iff, d.isName] using eq_comm
  · exact absurd ho d.options_ne
  · simpa [argument, bracketed, ho] using fun h => hcs _ _ h.symm

end Written

/-- What is read behind the command is the declaration with the shortest options. -/
theorem shortest_of_argument? {cs name rest : List Char} (h : argument? cs = some (name, rest)) :
    ∃ d : Written, d.name = name ∧ d.argument ++ rest = cs ∧
      ∀ other : Written, other.argument <+: cs → d.optionsLength ≤ other.optionsLength := by
  unfold argument? at h
  split at h
  next c cs =>
    obtain ⟨o, hcloses, hshortest⟩ := closes_of_closeOptions? h
    refine ⟨⟨some (c :: o), name, by simp, isName_of_closeOptions? h⟩, rfl,
      Written.argument_append_eq_bracket_iff.mpr ⟨o, rfl, hcloses⟩, ?_⟩
    rintro other ⟨tail, htail⟩
    obtain ⟨o', hoptions, hcloses'⟩ := Written.argument_append_eq_bracket_iff.mp htail
    simpa [Written.optionsLength, hoptions] using hshortest o' _ _ hcloses'
  next hcs =>
    exact ⟨⟨none, name, by simp, isName_of_braced? h⟩, rfl,
      (Written.argument_append_eq_iff fun c tail => hcs c tail).mpr ⟨rfl, h⟩,
      fun _ _ => Nat.zero_le _⟩

/-- If nothing is read, no declaration stands there. -/
theorem not_prefix_of_argument? {cs : List Char} (h : argument? cs = none) (d : Written) :
    ¬ d.argument <+: cs := by
  rintro ⟨tail, htail⟩
  unfold argument? at h
  split at h
  next c cs =>
    obtain ⟨o, -, hcloses⟩ := Written.argument_append_eq_bracket_iff.mp htail
    exact not_closes_of_closeOptions? h o _ _ hcloses
  next hcs =>
    have hbraced := ((Written.argument_append_eq_iff fun c tail => hcs c tail).mp htail).2
    exact absurd (hbraced.symm.trans h) (by simp)

/-- What is read is the declaration with the shortest options. -/
theorem shortest_of_read? {cs name rest : List Char} (h : read? cs = some (name, rest)) :
    ∃ d : Written, d.name = name ∧ d.chars ++ rest = cs ∧
      ∀ other : Written, other.chars <+: cs → d.optionsLength ≤ other.optionsLength := by
  obtain ⟨argument, hword, hargument⟩ := Option.bind_eq_some_iff.mp h
  obtain rfl := stripWord?_eq_some_iff.mp hword
  obtain ⟨d, hname, rfl, hshortest⟩ := shortest_of_argument? hargument
  refine ⟨d, hname, List.append_assoc _ _ _, fun other hother => hshortest other ?_⟩
  exact (List.prefix_append_right_inj keyword).mp hother

/-- If nothing is read, no declaration stands there. -/
theorem not_prefix_of_read? {cs : List Char} (h : read? cs = none) (d : Written) :
    ¬ d.chars <+: cs := by
  rintro ⟨tail, rfl⟩
  have hword := stripWord?_eq_some_iff.mpr (List.append_assoc keyword d.argument tail)
  exact not_prefix_of_argument? (Option.bind_eq_none_iff.mp h _ hword) d (List.prefix_append _ _)

/-- Where the options end decides what they are and which name follows. -/
theorem Closes.eq_of_length {cs o name rest o' name' rest' : List Char}
    (h : Closes cs o name rest) (h' : Closes cs o' name' rest') (hlength : o.length = o'.length) :
    o = o' ∧ name = name' := by
  obtain ⟨tail, rfl, hbraced⟩ := h
  obtain ⟨tail', heq, hbraced'⟩ := h'
  obtain ⟨rfl, htail⟩ := List.append_inj heq hlength
  obtain rfl := List.tail_eq_of_cons_eq htail
  exact ⟨rfl, congrArg Prod.fst (Option.some.inj (hbraced.symm.trans hbraced'))⟩

/-- At one place there is at most one declaration with options of a given length. -/
theorem Written.eq_of_prefix {d other : Written} {cs : List Char} (hd : d.chars <+: cs)
    (hother : other.chars <+: cs) (hlength : d.optionsLength = other.optionsLength) :
    d = other := by
  obtain ⟨rest, rfl⟩ := hd
  obtain ⟨rest', heq⟩ := hother
  rw [chars, chars, List.append_assoc, List.append_assoc] at heq
  have hargument : other.argument ++ rest' = d.argument ++ rest := List.append_cancel_left heq
  by_cases hbracket : ∃ c tail, d.argument ++ rest = '[' :: c :: tail
  · obtain ⟨c, tail, htail⟩ := hbracket
    obtain ⟨o, hoptions, hcloses⟩ := argument_append_eq_bracket_iff.mp htail
    obtain ⟨o', hoptions', hcloses'⟩ :=
      argument_append_eq_bracket_iff.mp (hargument.trans htail)
    obtain ⟨rfl, hname⟩ := hcloses.eq_of_length hcloses' (by
      simpa [optionsLength, hoptions, hoptions'] using hlength)
    exact Written.ext (hoptions.trans hoptions'.symm) hname
  · have hnone : ∀ c tail, d.argument ++ rest ≠ '[' :: c :: tail :=
      fun c tail h => hbracket ⟨c, tail, h⟩
    obtain ⟨hoptions, hbraced⟩ := (argument_append_eq_iff hnone).mp rfl
    obtain ⟨hoptions', hbraced'⟩ := (argument_append_eq_iff hnone).mp hargument
    have hname := congrArg Prod.fst (Option.some.inj (hbraced.symm.trans hbraced'))
    exact Written.ext (hoptions.trans hoptions'.symm) hname

/-! ## The matches of a line -/

/-- There is at most one next declaration. -/
theorem IsNext.unique {line : List Char} {start i j : Nat} {d other : Written}
    (h : IsNext line start i d) (h' : IsNext line start j other) : i = j ∧ d = other := by
  obtain rfl : i = j :=
    Nat.le_antisymm (h.leftmost j other h'.le h'.stands) (h'.leftmost i d h.le h.stands)
  have hlength := Nat.le_antisymm (h.shortest other h'.stands) (h'.shortest d h.stands)
  exact ⟨rfl, Written.eq_of_prefix h.stands h'.stands hlength⟩

/-- A line has at most one sequence of matches. -/
theorem Matches.unique {line : List Char} {start : Nat} {found others : List (Nat × Written)}
    (h : Matches line start found) (h' : Matches line start others) : found = others := by
  induction h generalizing others with
  | done hnone =>
    cases h' with
    | done => rfl
    | next first _ => exact absurd first.stands (hnone _ _ first.le)
  | next first _ ih =>
    cases h' with
    | done hnone => exact absurd first.stands (hnone _ _ first.le)
    | next first' hrest' =>
      obtain ⟨rfl, rfl⟩ := first.unique first'
      rw [ih hrest']

/-- Where no declaration starts, the matches are those from the next character on. -/
theorem Matches.of_succ {line : List Char} {start : Nat} {found : List (Nat × Written)}
    (hnone : ∀ d : Written, ¬ d.StandsAt line start) (h : Matches line (start + 1) found) :
    Matches line start found := by
  have hlater : ∀ (j : Nat) (d : Written), start ≤ j → d.StandsAt line j → start + 1 ≤ j := by
    intro j d hj hd
    refine Nat.lt_of_le_of_ne hj ?_
    rintro rfl
    exact hnone d hd
  cases h with
  | done hdone => exact .done fun j d hj hd => hdone j d (hlater j d hj hd) hd
  | next first others =>
    refine .next ⟨Nat.le_of_succ_le first.le, first.stands, fun j d hj hd => ?_,
      first.shortest⟩ others
    exact first.leftmost j d (hlater j d hj hd) hd

/-- Reading a line finds its matches, from any index on. -/
theorem exists_matches (line : List Char) (start : Nat) :
    ∃ found, Matches line start found ∧ found.map (·.2.name) = namesIn (line.drop start) := by
  generalize hdrop : line.drop start = cs
  fun_induction namesIn cs generalizing start with
  | case1 =>
    refine ⟨[], .done fun j d hj hd => ?_, rfl⟩
    have hnil : line.drop j = [] :=
      List.drop_eq_nil_of_le ((List.drop_eq_nil_iff.mp hdrop).trans hj)
    rw [Written.StandsAt, hnil] at hd
    exact d.chars_ne_nil (List.prefix_nil.mp hd)
  | case2 c cs name rest hread ih =>
    obtain ⟨d, rfl, happend, hshortest⟩ := shortest_of_read? hread
    rw [← hdrop] at happend hshortest
    have hrest : line.drop (start + d.chars.length) = rest := by
      rw [← List.drop_drop, ← happend, List.drop_left]
    obtain ⟨found, hfound, hnames⟩ := ih _ hrest
    have hfirst : IsNext line start start d :=
      ⟨Nat.le_refl _, ⟨rest, happend⟩, fun _ _ hj _ => hj, hshortest⟩
    exact ⟨(start, d) :: found, .next hfirst hfound, by rw [List.map_cons, hnames]⟩
  | case3 c cs hread ih =>
    have hrest : line.drop (start + 1) = cs := by
      rw [← List.drop_drop, hdrop, List.drop_one, List.tail_cons]
    obtain ⟨found, hfound, hnames⟩ := ih _ hrest
    refine ⟨found, hfound.of_succ fun d => ?_, hnames⟩
    rw [Written.StandsAt, hdrop]
    exact not_prefix_of_read? hread d

/-- A line declares the names of its matches. -/
theorem mem_namesIn_iff {line name : List Char} :
    name ∈ namesIn line ↔ ∃ found, Matches line 0 found ∧ name ∈ found.map (·.2.name) := by
  obtain ⟨found, hfound, hnames⟩ := exists_matches line 0
  rw [List.drop_zero] at hnames
  constructor
  · exact fun h => ⟨found, hfound, hnames ▸ h⟩
  · rintro ⟨others, hothers, h⟩
    rwa [hothers.unique hfound, hnames] at h

/-- Every match is the first declaration from some index on. -/
theorem Matches.isNext {line : List Char} {start : Nat} {found : List (Nat × Written)}
    (h : Matches line start found) {i : Nat} {d : Written} (hmem : (i, d) ∈ found) :
    ∃ behind, IsNext line behind i d := by
  induction h with
  | done => simp at hmem
  | next first _ ih =>
    rcases List.mem_cons.mp hmem with heq | hmem
    · obtain ⟨rfl, rfl⟩ := Prod.mk.inj heq
      exact ⟨_, first⟩
    · exact ih hmem

/-- Every match stands in the line. -/
theorem Matches.standsAt {line : List Char} {start : Nat} {found : List (Nat × Written)}
    (h : Matches line start found) {i : Nat} {d : Written} (hmem : (i, d) ∈ found) :
    d.StandsAt line i := by
  obtain ⟨behind, hnext⟩ := h.isNext hmem
  exact hnext.stands

/-! ## The scan -/

/-- **The law of the scan.**  Every line has one sequence of matches, and a name is reported exactly
if it is the name of a match on some line other than the excluded one.  So all lines count if the
excluded number is no line of the text, and every reported name stands in a declaration on a line
that counts. -/
theorem scan_matches (text : String) :
    (∀ line, ∃! found, Matches line 0 found) ∧
    (∀ excluded name, name ∈ scan text excluded ↔ ∃ i line found,
      (lines text.toList)[i]? = some line ∧ i + 1 ≠ excluded ∧
        Matches line 0 found ∧ name.toList ∈ found.map (·.2.name)) ∧
    (∀ excluded, excluded = 0 ∨ (lines text.toList).length < excluded → ∀ name,
      name ∈ scan text excluded ↔ ∃ line ∈ lines text.toList, ∃ found,
        Matches line 0 found ∧ name.toList ∈ found.map (·.2.name)) ∧
    ∀ excluded, ∀ name ∈ scan text excluded, ∃ i line,
      (lines text.toList)[i]? = some line ∧ i + 1 ≠ excluded ∧
        ∃ j, ∃ d : Written, d.StandsAt line j ∧ d.name = name.toList := by
  have hscan (excluded : Nat) (name : String) : name ∈ scan text excluded ↔ ∃ i line found,
      (lines text.toList)[i]? = some line ∧ i + 1 ≠ excluded ∧
        Matches line 0 found ∧ name.toList ∈ found.map (·.2.name) := by
    simp only [mem_scan, mem_scanChars, mem_namesIn_iff, exists_and_left]
  refine ⟨fun line => ?_, hscan, fun excluded hexcluded name => ?_, fun excluded name hname => ?_⟩
  · obtain ⟨found, hfound, -⟩ := exists_matches line 0
    exact ⟨found, hfound, fun others hothers => hothers.unique hfound⟩
  · rw [hscan]
    constructor
    · rintro ⟨i, line, found, hline, -, h⟩
      exact ⟨line, List.mem_of_getElem? hline, found, h⟩
    · rintro ⟨line, hline, found, h⟩
      obtain ⟨i, hi⟩ := List.mem_iff_getElem?.mp hline
      have := (List.getElem?_eq_some_iff.mp hi).1
      exact ⟨i, line, found, hi, by omega, h⟩
  · obtain ⟨i, line, found, hline, hi, hfound, hmem⟩ := (hscan excluded name).mp hname
    obtain ⟨⟨j, d⟩, hd, hdname⟩ := List.mem_map.mp hmem
    exact ⟨i, line, hline, hi, j, d, hfound.standsAt hd, hdname⟩

/-- A declaration on the first line is reported if the excluded line is the second, or none. -/
theorem scan_matches_amsmath :
    let text := "\\usepackage\x7bamsmath\x7d\nHello"
    (lines text.toList).length < 3 ∧
    (∃ line ∈ lines text.toList, ∃ found,
      Matches line 0 found ∧ "amsmath".toList ∈ found.map (·.2.name)) ∧
    "amsmath" ∈ scan text 2 ∧
    ∃ i line, (lines text.toList)[i]? = some line ∧ i + 1 ≠ 2 ∧
      ∃ j, ∃ d : Written, d.StandsAt line j ∧ d.name = "amsmath".toList := by
  intro text
  have hname : IsName "amsmath".toList := by decide
  have hline : (lines text.toList)[0]? = some (declarationOf "amsmath").toList := by decide
  have hpast : (lines text.toList).length < 3 := by decide
  have hreported (excluded : Nat) (h : 0 + 1 ≠ excluded) : "amsmath" ∈ scan text excluded :=
    mem_scan_of_line hname hline h
  obtain ⟨-, -, hall, hstands⟩ := scan_matches text
  exact ⟨hpast, (hall 3 (.inr hpast) _).mp (hreported 3 (by decide)), hreported 2 (by decide),
    hstands 2 _ (hreported 2 (by decide))⟩

end TexCompletion.Declaration

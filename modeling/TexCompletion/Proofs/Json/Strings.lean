import Mathlib.Data.List.Basic
import TexCompletion.Json.Printer
import TexCompletion.Proofs.Json.Runs

/-!
# Strings of a JSON text

A place that wants a string reads a text by a reader of its own, which complains of anything else, and not
by the reader of values.  `fromText_string_iff` says that it takes the strings that the reader of values
takes, and no other value: what begins with a quote is read by the same reader (`Reader.string`), and what
begins with something else is no string for either (`OnlyReturns`).  So a place that makes sense of strings
accepts a text exactly if the text is a string that it makes sense of (`onText_checked_string_iff`).

A string that needs no escapes is printed between quotes and read back as it was
(`ofText_printedString`).
-/

namespace TexCompletion.Json

namespace Reader

variable {α β : Type} {p : α → Prop} {q : β → Prop} {c c' : Cursor}

/-! ## What readers can return -/

/-- Whatever the reader returns is in `p`. -/
def OnlyReturns (p : α → Prop) (r : Reader α) : Prop :=
  ∀ c a c', r c = .ok a c' → p a

theorem OnlyReturns.bind {r : Reader α} {next : α → Reader β} (h : ∀ a, OnlyReturns q (next a)) :
    OnlyReturns q (r >>= next) := by
  intro c b c' hrun
  obtain ⟨a, c'', -, hnext⟩ := bind_eq_ok_iff.mp hrun
  exact h a c'' b c' hnext

theorem onlyReturns_pure {a : α} (h : p a) : OnlyReturns p (pure a : Reader α) := by
  intro c b c' hrun
  obtain ⟨rfl, -⟩ := pure_eq_ok_iff.mp hrun
  exact h

theorem onlyReturns_failAhead {cause : Cause} : OnlyReturns p (failAhead cause : Reader α) :=
  .bind fun _ => nofun

theorem onlyReturns_mismatch {cause : Cause} : OnlyReturns p (mismatch cause : Reader α) :=
  nofun

theorem OnlyReturns.enclosed {inside : Reader α} {closing : Reader Unit} (h : OnlyReturns p inside) :
    OnlyReturns p (enclosed inside closing) := by
  intro c a c' hrun
  have hinside : OnlyReturns p (do skip; inside) := .bind fun _ => h
  rw [Reader.enclosed] at hrun
  split at hrun
  next => exact onlyReturns_failAhead _ _ _ hrun
  split at hrun
  next b d hskip =>
    obtain rfl : b = a := by
      split at hrun <;> cases hrun
      rfl
    exact hinside _ _ _ hskip
  next => split at hrun <;> cases hrun

/-- A complaint about a value of the wrong form returns nothing. -/
theorem onlyReturns_wrongType {wanted : String} : OnlyReturns p (wrongType wanted : Reader α) := by
  rw [wrongType]
  refine .bind fun next => ?_
  dsimp only
  -- whatever was found, the last step is the complaint
  repeat' first
    | exact onlyReturns_mismatch
    | exact onlyReturns_failAhead
    | refine .bind fun _ => ?_
    | split

/-! ## The reader of strings -/

/-- A place that wants a string reads the strings that the reader of values reads. -/
theorem fromText_string_iff (fuel : Nat) {s : String} :
    Decoder.string.fromText c = .ok s c' ↔ anyValue (fuel + 1) c = .ok (.string s) c' := by
  rw [Decoder.string, Decoder.parsed]
  simp only
  rw [valueOf, anyValue, located_eq_ok_iff, located_eq_ok_iff, bind_eq_ok_iff, bind_eq_ok_iff]
  refine exists_congr fun next => exists_congr fun c'' => and_congr_right fun _ => ?_
  -- but for the quote both readers go on in ways that give no string
  have hno {r : Reader String} {r' : Reader Value} (hr : OnlyReturns (fun _ => False) r)
      (hr' : OnlyReturns (fun v => ∀ s, v ≠ .string s) r') :
      r c'' = .ok s c' ↔ r' c'' = .ok (.string s) c' :=
    iff_of_false (hr _ _ _) fun h => hr' _ _ _ h s rfl
  cases next with
  | none => exact hno onlyReturns_failAhead onlyReturns_failAhead
  | some ch =>
    by_cases hquote : ch = '"'
    · subst hquote
      have hvalue : (do skip; return .string (← string) : Reader Value) =
          Value.string <$> (do skip; string) := (map_bind _ _ _).symm
      have hread : (do skip; return .string (← string) : Reader Value) c'' = .ok (.string s) c' ↔
          (do skip; string : Reader String) c'' = .ok s c' := by
        rw [hvalue, map_eq_ok_iff]
        simp only [Value.string.injEq, exists_eq_right]
      simp only [if_true, bind_pure]
      exact hread.symm
    · simp only [if_neg hquote]
      refine hno onlyReturns_wrongType ?_
      split
      case h_6 h => exact absurd (Option.some.inj h) hquote
      all_goals
        repeat' first
          | exact onlyReturns_pure nofun
          | exact onlyReturns_failAhead
          | refine .bind fun _ => ?_
          | refine .enclosed ?_
          | split

end Reader

/-! ## Places that make sense of strings -/

/-- What makes sense of what another decoder reads succeeds where both do. -/
theorem Decoder.fromText_checked_iff {α β : Type} {d : Decoder α} {f : α → Except Cause β} {b : β}
    {c c' : Cursor} :
    (checked d f).fromText c = .ok b c' ↔ ∃ a, d.fromText c = .ok a c' ∧ f a = .ok b := by
  rw [checked]
  simp only [Reader.bind_eq_ok_iff]
  constructor
  · rintro ⟨a, c'', ha, hb⟩
    cases hf : f a with
    | error => simp only [hf] at hb; cases hb
    | ok b' =>
      simp only [hf] at hb
      obtain ⟨rfl, rfl⟩ := Reader.pure_eq_ok_iff.mp hb
      exact ⟨a, ha, hf⟩
  · rintro ⟨a, ha, hf⟩
    refine ⟨a, c', ha, ?_⟩
    simp only [hf]
    rfl

theorem Decoder.fromValue_checked_string {α : Type} (f : String → Except Cause α) (s : String) :
    (checked string f).fromValue (.string s) = f s := rfl

/-- **A place that makes sense of strings accepts the strings of which it does**, and no other text. -/
theorem Decoder.onText_checked_string_iff {α : Type} {f : String → Except Cause α} {text : String}
    {a : α} :
    (checked string f).onText text = .ok a ↔ ∃ s, Value.ofText text = .ok (.string s) ∧ f s = .ok a := by
  rw [onText, Value.ofText]
  simp only [Reader.onText_eq_ok_iff, fromText_checked_iff, Reader.fromText_string_iff 128]
  constructor
  · rintro ⟨c, c', ⟨s, hs, hf⟩, hfinish⟩
    exact ⟨s, ⟨c, c', hs, hfinish⟩, hf⟩
  · rintro ⟨s, ⟨c, c', hs, hfinish⟩, hf⟩
    exact ⟨c, c', ⟨s, hs, hf⟩, hfinish⟩

/-! ## Strings without escapes -/

open Reader (isPlain isSpace)

/-- A character that stands for itself in a string is printed as it is. -/
theorem printedChar_of_isPlain {c : Char} (h : isPlain c = true) : printedChar c = [c] := by
  have hplain : (c ≠ '"' ∧ c ≠ '\\') ∧ 0x20 ≤ c.toNat := by simpa [isPlain] using h
  have hcontrol (d : Char) (hd : d.toNat < 0x20) : c ≠ d := by
    rintro rfl
    omega
  rw [printedChar, if_neg (by simp [hplain.1]), if_neg (hcontrol _ (by decide)),
    if_neg (hcontrol _ (by decide)), if_neg (hcontrol _ (by decide)),
    if_neg (hcontrol _ (by decide)), if_neg (hcontrol _ (by decide)),
    if_neg (Nat.not_lt.mpr hplain.2)]

variable {s : String} {c : Cursor}

theorem toList_printedString (h : ∀ ch ∈ s.toList, isPlain ch = true) :
    (printedString s).toList = '"' :: (s.toList ++ ['"']) := by
  have hself : s.toList.flatMap printedChar = s.toList := by
    rw [List.flatMap_congr fun ch hch => printedChar_of_isPlain (h ch hch), List.flatMap_singleton']
  rw [printedString, String.toList_ofList, hself, List.cons_append]

/-- What stands in front of the closing quote is read as it is. -/
theorem Reader.exists_run_string {left : List Char} (h : ∀ ch ∈ s.toList, isPlain ch = true)
    (hrest : c.rest = s.toList ++ '"' :: left) : ∃ c', string c = .ok s c' ∧ c'.rest = left := by
  obtain ⟨c', hrun, hleft⟩ := exists_run_takeWhile isPlain c
  have hquote : isPlain '"' = false := by decide
  rw [hrest, List.takeWhile_append_of_pos h, List.takeWhile_cons_of_neg (by simp [hquote]),
    List.append_nil] at hrun
  rw [hrest, List.dropWhile_append_of_pos h, List.dropWhile_cons_of_neg (by simp [hquote])] at hleft
  have hnext : next c' = .ok (some '"') c'.advance := by
    show EStateM.Result.ok c'.rest.head? c'.advance = _
    rw [hleft, List.head?_cons]
  have hfrom (fuel : Nat) : stringFrom (fuel + 1) c = .ok s.toList c'.advance := by
    rw [stringFrom]
    exact bind_eq_ok_iff.mpr ⟨_, c', hrun, bind_eq_ok_iff.mpr ⟨_, _, hnext, rfl⟩⟩
  refine ⟨c'.advance, ?_, by rw [rest_advance, hleft, List.tail_cons]⟩
  rw [string]
  exact bind_eq_ok_iff.mpr ⟨c, c, rfl, bind_eq_ok_iff.mpr ⟨_, _, hfrom _,
    pure_eq_ok_iff.mpr ⟨String.ofList_toList, rfl⟩⟩⟩

/-- At the end of a text nothing follows. -/
theorem Reader.exists_run_finish (h : c.rest = []) : ∃ c', finish c = .ok () c' := by
  obtain ⟨c', hrun, -⟩ := exists_run_peekToken c
  rw [h] at hrun
  exact ⟨c', bind_eq_ok_iff.mpr ⟨_, _, hrun, rfl⟩⟩

/-- **A string that needs no escapes is read back from what is printed.** -/
theorem ofText_printedString (h : ∀ ch ∈ s.toList, isPlain ch = true) :
    Value.ofText (Value.string s).text = .ok (.string s) := by
  rw [Value.text, Value.ofText, Reader.onText_eq_ok_iff]
  have hstart : (Cursor.start (printedString s)).rest = '"' :: (s.toList ++ ['"']) :=
    toList_printedString h
  obtain ⟨c, hpeek, hc⟩ := Reader.exists_run_peekToken (Cursor.start (printedString s))
  rw [hstart, List.dropWhile_cons_of_neg (by decide)] at hpeek hc
  have hrest : c.advance.rest = s.toList ++ ['"'] := by
    rw [Reader.rest_advance, hc, List.tail_cons]
  obtain ⟨c', hstring, hc'⟩ := Reader.exists_run_string h hrest
  obtain ⟨c'', hfinish⟩ := Reader.exists_run_finish hc'
  refine ⟨c', c'', ?_, hfinish⟩
  rw [Reader.anyValue, Reader.located_eq_ok_iff, Reader.bind_eq_ok_iff]
  refine ⟨_, c, hpeek, ?_⟩
  exact Reader.bind_eq_ok_iff.mpr ⟨(), c.advance, rfl, Reader.bind_eq_ok_iff.mpr ⟨s, c', hstring, rfl⟩⟩

end TexCompletion.Json

import TexCompletion.Proofs.Position.Column
import TexCompletion.Proofs.Session.History
import TexCompletion.Proofs.Trigger.Word

/-!
# What an item replaces

The start of an item's range is a column that is measured on the text in front of the cursor, the end
is the position as the client sent it.  The two need not fit: that text stops at the end of the line
however large the column is, and it goes past the column when the column lies inside a character.

`start_le_character` says that they fit, on any line and for any column.  A word with characters
starts in front of the last character that was taken, so its start falls short of the column; a word
without any starts at the column, since the character in front of it takes one unit.  The main
statement, `complete_replaces_word`, adds what lies in the range: the word in front of the cursor,
as the channel understands it.
-/

namespace TexCompletion

open Text

/-- The range goes from the start of the word in front of the cursor to the position, on the line of
the position.  The text in front of the cursor is the line up to its column, or all of the line if
the column is past its end. -/
def Range.ReplacesWord (range : Range) (channel : Channel) (text : String) (p : Position) : Prop :=
  ∃ line front word,
    (editorLines text.toList)[p.line]? = some line ∧
      ReachesColumn (lineContent line) p.character (front ++ word) ∧ channel.IsWord front word ∧
        range.start = ⟨p.line, units16 front⟩ ∧ range.stop = p

/-! ## The channel of a suggestion -/

theorem Suggestion.channel_of_ofEntry? {entry : CommandEntry} {s : Suggestion}
    (h : Suggestion.ofEntry? entry = some s) : s.channel = .command := by
  unfold Suggestion.ofEntry? at h
  split at h
  next => rw [← Option.some.inj h]
  next => cases h

/-- The suggestions for a channel are of that channel. -/
theorem channel_of_mem_onChannel {provider : Provider} {r : Request} {channel : Channel}
    {s : Suggestion} (h : s ∈ (provider.suggestions r).onChannel channel) : s.channel = channel := by
  unfold Provider.suggestions at h
  split at h
  next => cases channel <;> simp [Completions.onChannel] at h
  next registry _ =>
    cases channel with
    | packageParameter =>
      obtain ⟨name, -, rfl⟩ := List.mem_map.mp h
      rfl
    | command =>
      simp only [Completions.onChannel, List.mem_append, List.mem_filterMap, List.mem_map,
        List.mem_singleton] at h
      rcases h with (⟨entry, -, hentry⟩ | ⟨name, -, rfl⟩) | rfl
      · exact Suggestion.channel_of_ofEntry? hentry
      · rfl
      · rfl

/-! ## The range -/

/-- **No word starts behind the column** up to which the text in front of it was taken. -/
theorem start_le_character {line : List Char} {k : Nat} {t : Trigger}
    (h : Trigger.find? (String.ofList (columnText line k)) = some t) : t.start ≤ k := by
  obtain ⟨front, word, hfront, -, hstart, hnil⟩ := Trigger.isWord_of_find? h
  rw [hstart]
  cases word with
  | cons c cs => exact (units16_lt_of_columnText hfront (List.cons_ne_nil c cs)).le
  | nil =>
    -- the word starts where the text ends, and the last character is not half behind the column
    obtain ⟨c, hlast, hc⟩ := hnil rfl
    rw [List.append_nil] at hfront
    rw [← hfront] at hlast ⊢
    exact units16_columnText_le hlast hc

namespace Session

/-- **An answer replaces the word in front of the cursor.**  In any state, all items of an answer have
the same range.  It stays on the line of the position, ends at the position and starts no later, so a
column of 32 bits leads to one of 32 bits.  What lies in it is the word of the channel that the line
calls for. -/
theorem complete_replaces_word {s : Session} {document : String} {p : Position}
    {items : List Completion.Item} (h : s.complete document p = some items) :
    ∃ text before channel range,
      s.documents.get? document = some text ∧ p.before? text = some before ∧
        Trigger.find? before = some ⟨channel, range.start.character⟩ ∧
        range.ReplacesWord channel text p ∧ range.start.character ≤ p.character ∧
        (p.character < UInt32.size → range.start.character % UInt32.size = range.start.character) ∧
        (∃ offered : List Suggestion, (∀ suggestion ∈ offered, suggestion.channel = channel) ∧
          items = offered.map (.ofSuggestion range)) ∧
        ∀ item ∈ items, item.range = range := by
  obtain ⟨text, before, offset, trigger, hdoc, hbefore, -, htrigger, rfl⟩ :=
    (complete_eq_some_iff s document p items).mp h
  obtain ⟨chars, hchars, rfl⟩ := Option.map_eq_some_iff.mp hbefore
  obtain ⟨line, hline, rfl⟩ := Option.map_eq_some_iff.mp hchars
  obtain ⟨front, word, hfront, hword, hstart, -⟩ := Trigger.isWord_of_find? htrigger
  have hreaches := reachesColumn_columnText line p.character
  rw [hfront] at hreaches
  have hle := start_le_character htrigger
  refine ⟨text, _, trigger.channel, ⟨⟨p.line, trigger.start⟩, p⟩, hdoc, hbefore, htrigger,
    ⟨line, front, word, hline, hreaches, hword, by rw [hstart], rfl⟩, hle,
    fun hbits => Nat.mod_eq_of_lt (hle.trans_lt hbits),
    ⟨_, fun _ => channel_of_mem_onChannel, rfl⟩, fun item hitem => ?_⟩
  obtain ⟨suggestion, -, rfl⟩ := List.mem_map.mp hitem
  rfl

/-- Behind `\us` the column is far past the end of the line, and in front of it a character takes two
units.  All items replace the columns from the backslash on. -/
theorem complete_replaces_us :
    let text := "😀 \\us"
    let p : Position := ⟨0, 30⟩
    let s : Session :=
      { bundled := .ofList ["amsmath"], documents := Dictionary.put ∅ "main.tex" text }
    ∃ items range,
      s.complete "main.tex" p = some items ∧ items ≠ [] ∧ (∀ item ∈ items, item.range = range) ∧
        range.ReplacesWord .command text p ∧ range.start.character = 3 ∧
        range.start.character ≤ p.character ∧
        p.character < UInt32.size ∧ range.start.character % UInt32.size = range.start.character := by
  intro text p s
  have hdoc : s.documents.get? "main.tex" = some text := Dictionary.get?_put_self ∅ _ _
  have hbefore : p.before? text = some text := by decide
  have hoffset : p.offset? text = some 8 := by decide
  have htrigger : Trigger.find? text = some ⟨.command, 3⟩ := by decide
  have hitems := (complete_eq_some_iff s "main.tex" p _).mpr
    ⟨text, text, 8, _, hdoc, hbefore, hoffset, htrigger, rfl⟩
  obtain ⟨text', before, channel, range, hdoc', hbefore', htrigger', hreplaces, hle, hfits, -,
    hrange⟩ := complete_replaces_word hitems
  have hbits : p.character < UInt32.size := by decide
  obtain rfl : text = text' := Option.some.inj (hdoc.symm.trans hdoc')
  obtain rfl : text = before := Option.some.inj (hbefore.symm.trans hbefore')
  obtain ⟨rfl, hstart⟩ := Trigger.mk.inj (Option.some.inj (htrigger.symm.trans htrigger'))
  refine ⟨_, range, hitems, ?_, hrange, hreplaces, hstart.symm, hle, hbits, hfits hbits⟩
  simp [Provider.suggestions, Completions.onChannel]

end Session

end TexCompletion

import TexCompletion.Proofs.Completion.Appended
import TexCompletion.Proofs.Completion.SortText
import TexCompletion.Proofs.Session.History

/-!
# Where the template is sorted

The template of an empty declaration comes last in an answer, but editors sort by text, and there the
boost in the settings moves it.  It is the only command with a boost (`commands_eq_append_template`),
so a boost of at least one puts it in front of everything and one of at most minus one behind
everything, whatever the labels: these count only among equal ranks.  A name in the catalog may be
empty, so that another item has the very label of the template.

The main statement, `template_first_or_last`, is about every answer on the channel of commands, and
stands together with the order of sort texts that it comes from.
-/

namespace TexCompletion

/-! ## The only boost -/

/-- The commands are others without a boost, then the template. -/
theorem Provider.commands_eq_append_template (p : Provider) {r : Request} {registry : Registry}
    (h : r.metadata = some registry) :
    ∃ others : List Suggestion, (∀ suggestion ∈ others, suggestion.boost = none) ∧
      (p.suggestions r).commands = others ++ [.emptyDeclaration p.emptyBoost] := by
  rw [suggestions, h]
  refine ⟨_, fun suggestion hmem => ?_, rfl⟩
  rcases List.mem_append.mp hmem with hmem | hmem
  · obtain ⟨contribution, -, hentry⟩ := List.mem_filterMap.mp hmem
    exact (Suggestion.ofEntry?_eq_some_iff.mp hentry).boost
  · obtain ⟨name, -, rfl⟩ := List.mem_map.mp hmem
    rfl

namespace Completion

/-- A boost comes before none, whatever the labels. -/
theorem sortText_some_lt_none {boost : Int} (h : 1 ≤ boost) (x y : String) :
    sortText (some boost) x < sortText none y := by
  refine (sortText_lt_iff _ _ x y).mpr (.inl ?_)
  simp only [Option.getD_some, Option.getD_none]
  omega

/-- A boost below zero comes after none, whatever the labels. -/
theorem sortText_none_lt_some {boost : Int} (h : boost ≤ -1) (x y : String) :
    sortText none x < sortText (some boost) y := by
  refine (sortText_lt_iff _ _ x y).mpr (.inl ?_)
  simp only [Option.getD_some, Option.getD_none]
  omega

end Completion

/-! ## Answers -/

namespace Session

open Completion

/-- The item of the template in the answers of a session. -/
def templateItem (s : Session) (range : Range) : Item where
  label := "\\usepackage\x7b\x7d"
  kind := .module
  detail := "pkg"
  sortText := sortText (some s.config.emptyDeclarationBoost) "\\usepackage\x7b\x7d"
  filterText := "\\usepackage\x7b\x7d"
  format := .snippet
  range := range
  newText := "\\\\usepackage\x7b$1\\\x7d"

theorem ofSuggestion_emptyDeclaration (s : Session) (range : Range) :
    Item.ofSuggestion range (.emptyDeclaration s.provider.emptyBoost) = s.templateItem range := by
  have hsnippet : Template.snippet (declarationOf "#\x7b\x7d") = "\\\\usepackage\x7b$1\\\x7d" := by
    decide +kernel
  simp only [Item.ofSuggestion, Suggestion.emptyDeclaration, hsnippet]
  rfl

/-- An answer on the channel of commands is other items without a boost, then the template. -/
theorem complete_eq_append_templateItem {s : Session} {document : String} {p : Position}
    {text before : String} {start : Nat} (hdocument : s.documents.get? document = some text)
    (hbefore : p.before? text = some before)
    (htrigger : Trigger.find? before = some ⟨.command, start⟩) :
    ∃ others : List Item,
      (∀ item ∈ others, item.sortText = sortText none item.label) ∧
        s.complete document p = some (others ++ [s.templateItem ⟨⟨p.line, start⟩, p⟩]) := by
  have hisSome : (p.offset? text).isSome := by
    rw [Position.offset?_isSome, hbefore, Option.isSome_some]
  obtain ⟨offset, hoffset⟩ := Option.isSome_iff_exists.mp hisSome
  obtain ⟨others, hnone, hcommands⟩ := s.provider.commands_eq_append_template
    (r := ⟨text, offset, some s.registry, s.catalog⟩) rfl
  refine ⟨others.map (.ofSuggestion ⟨⟨p.line, start⟩, p⟩), fun item hitem => ?_,
    (complete_eq_some_iff s document p _).mpr
      ⟨text, before, offset, _, hdocument, hbefore, hoffset, htrigger, ?_⟩⟩
  · obtain ⟨suggestion, hmem, rfl⟩ := List.mem_map.mp hitem
    exact congrArg (sortText · suggestion.label) (hnone suggestion hmem)
  · rw [Completions.onChannel, hcommands, List.map_append, List.map_singleton,
      ofSuggestion_emptyDeclaration]

/-- **The template is sorted by its boost alone.**  Sort texts put the higher boost first, within the
limits and with zero for none, and the label decides among equal boosts; the rank can be worked out
on 32 bits.  Hence in any state, in every answer on the channel of commands, a boost of at least one
puts the template in front of every other item, and one of at most minus one puts it behind. -/
theorem template_first_or_last :
    (∀ (a b : Option Int) (x y : String),
      sortText a x < sortText b y ↔
        max (-9999) (min 9999 (b.getD 0)) < max (-9999) (min 9999 (a.getD 0)) ∨
          max (-9999) (min 9999 (a.getD 0)) = max (-9999) (min 9999 (b.getD 0)) ∧ x < y) ∧
    (∀ (boost : Option Int32) (label : String),
      let b := (boost.getD 0).toInt
      (rank32 boost).toInt = 10000 - max (-9999) (min 9999 b) ∧
        sortText (boost.map Int32.toInt) label =
          String.ofList (fiveDigits (rank32 boost).toInt.toNat) ++ label) ∧
    ∀ (s : Session) (document text before : String) (p : Position) (start : Nat),
      s.documents.get? document = some text → p.before? text = some before →
      Trigger.find? before = some ⟨.command, start⟩ →
      let boost := s.config.emptyDeclarationBoost
      let template := s.templateItem ⟨⟨p.line, start⟩, p⟩
      ∃ others, s.complete document p = some (others ++ [template]) ∧
        (1 ≤ boost → ∀ item ∈ others, template.sortText < item.sortText) ∧
        (boost ≤ -1 → ∀ item ∈ others, item.sortText < template.sortText) := by
  refine ⟨sortText_lt_iff, fun boost label => ?_, ?_⟩
  · have hrank := toInt_rank32 boost
    refine ⟨by rw [hrank, rank_eq, getD_map_toInt], ?_⟩
    rw [hrank, Int.toNat_natCast]
    rfl
  · intro s document text before p start hdocument hbefore htrigger boost template
    obtain ⟨others, hnone, hanswer⟩ :=
      complete_eq_append_templateItem hdocument hbefore htrigger
    refine ⟨others, hanswer, fun hboost item hitem => ?_, fun hboost item hitem => ?_⟩
    · rw [hnone item hitem]
      exact sortText_some_lt_none hboost _ _
    · rw [hnone item hitem]
      exact sortText_none_lt_some hboost _ _

/-- A catalog with an empty name leads to another item with the label of the template.  Its boost
puts the template in front of that item, or behind it. -/
theorem template_beside_empty_name :
    let s (boost : Int) : Session :=
      { bundled := .ofList ["amsmath", ""], config := { emptyDeclarationBoost := boost }
        documents := Dictionary.put ∅ "main.tex" "\\" }
    let sortTexts (boost : Int) : Option (List String) :=
      ((s boost).complete "main.tex" ⟨0, 1⟩).map (·.map (·.sortText))
    let template (boost : Int) : Item := (s boost).templateItem ⟨⟨0, 0⟩, ⟨0, 1⟩⟩
    sortTexts 10 =
        some ["10000\\usepackage\x7bamsmath\x7d", "10000\\usepackage\x7b\x7d",
          "09990\\usepackage\x7b\x7d"] ∧
      (∃ others, (s 10).complete "main.tex" ⟨0, 1⟩ = some (others ++ [template 10]) ∧
        ∀ item ∈ others, (template 10).sortText < item.sortText) ∧
      sortTexts (-2147483648) =
        some ["10000\\usepackage\x7bamsmath\x7d", "10000\\usepackage\x7b\x7d",
          "19999\\usepackage\x7b\x7d"] ∧
      ∃ others,
        (s (-2147483648)).complete "main.tex" ⟨0, 1⟩ = some (others ++ [template (-2147483648)]) ∧
        ∀ item ∈ others, item.sortText < (template (-2147483648)).sortText := by
  intro s sortTexts template
  have hanswer (boost : Int) :=
    template_first_or_last.2.2 (s boost) "main.tex" "\\" "\\" ⟨0, 1⟩ 0
      (Dictionary.get?_put_self ∅ _ _) (by decide) (by decide)
  obtain ⟨others, hfirst, hbefore, -⟩ := hanswer 10
  obtain ⟨others', hlast, -, hbehind⟩ := hanswer (-2147483648)
  exact ⟨by decide +kernel, ⟨others, hfirst, hbefore (by decide)⟩,
    by decide +kernel, others', hlast, hbehind (by decide)⟩

end Session

end TexCompletion

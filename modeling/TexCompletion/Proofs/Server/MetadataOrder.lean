import TexCompletion.Proofs.Completion.Contributed
import TexCompletion.Proofs.Metadata.Listing
import TexCompletion.Proofs.Server.Written
import TexCompletion.Server.Basic

/-!
# The order of packages, from the text of a message to completion

A client lists the packages of a document in the text of a notification.  On the way to the registry the
list goes through the parameters, which are a value, and a value has its members in ascending order.

`receive_metadata_asListed_iff` follows the packages from the text to the answers.  A message that brings
metadata (`metadata?`) does nothing but register its packages, and any other call of the method changes
nothing (`receive_of_metadata?_none`).  The packages are those that the text lists, each once, with the
commands that it has last, but in ascending order of their names.  So they are in the order of the text
exactly if the names come first in ascending order there.  From the registry on the order stays:
completion has the names and the commands of the document in the order in which they were registered.
-/

namespace TexCompletion.Server

open Json

/-- The metadata that a text brings to a running server. -/
def metadata? (text : String) : Option Metadata :=
  match Message.ofText text with
  | .ok (.call ⟨"latex/packageMetadata", some v, none⟩) => (Metadata.form.ofValue v).toOption
  | _ => none

/-- The packages that a text lists, in its order. -/
def listing (text : String) : List (String × Value) :=
  ((WrittenCall.ofText? text).bind (·.params)).elim [] Metadata.listing

variable {text : String} {m : Metadata}

/-- A text that brings metadata is a notification whose parameters fit. -/
theorem exists_call_of_metadata? (h : metadata? text = some m) :
    ∃ v, Message.ofText text = .ok (.call ⟨"latex/packageMetadata", some v, none⟩) ∧
      Metadata.form.ofValue v = .ok m := by
  rw [metadata?] at h
  split at h
  next v hcall =>
    refine ⟨v, hcall, ?_⟩
    cases hv : Metadata.form.ofValue v with
    | error cause => rw [hv] at h; cases h
    | ok m' =>
      rw [hv] at h
      rw [Option.some.inj h]
  next => cases h

/-- The packages are those that the text lists, in ascending order of their names. -/
theorem asListed_membersOf_listing (h : metadata? text = some m) :
    AsListed (membersOf (listing text)) m.packages := by
  obtain ⟨v, hcall, hv⟩ := exists_call_of_metadata? h
  obtain ⟨w, hw, hcall⟩ := exists_written hcall
  obtain ⟨d, hd, rfl⟩ : ∃ d, w.params = some d ∧ d.value = v :=
    Option.map_eq_some_iff.mp (congrArg Call.params hcall)
  rw [listing, hw, Option.bind_some, hd]
  exact Metadata.asListed_membersOf hv

/-- What the method of metadata takes in. -/
def takeMetadata (v : Value) : Except Cause Session.Event := do
  let metadata ← Metadata.form.ofValue v
  return .contributed metadata.document metadata.packages

/-- Metadata is for a running server, and it is a notification. -/
theorem call_metadata (s : Server) {c : Call} (hmethod : c.method = "latex/packageMetadata") :
    s.call c =
      if s.stage ≠ .running then (s, replyTo c (.error (wrongStage s.stage)))
      else if c.id.isSome then (s, replyTo c (.error .invalidRequest))
      else s.perform c (.event takeMetadata) := by
  obtain ⟨method, params, id⟩ := c
  obtain rfl : method = "latex/packageMetadata" := hmethod
  rfl

/-- Parameters that fit have their packages registered, and others change nothing. -/
theorem perform_metadata (s : Server) (c : Call) :
    s.perform c (.event takeMetadata) =
      match c.params.map Metadata.form.ofValue with
      | some (.ok m) =>
        ({ s with
          session := { s.session with
            registry := s.session.registry.set m.document m.packages } }, [])
      | _ => (s, []) := by
  rw [perform, paramsOf]
  cases c.params with
  | none => rfl
  | some v =>
    simp only [takeMetadata, Option.map_some]
    cases Metadata.form.ofValue v <;> rfl

/-- A running server that is brought metadata registers the packages and says nothing. -/
theorem receive_of_metadata? {s : Server} (hrunning : s.stage = .running)
    (h : metadata? text = some m) :
    s.receive text = ({ s with
      session := { s.session with
        registry := s.session.registry.set m.document m.packages } }, []) := by
  obtain ⟨v, hcall, hv⟩ := exists_call_of_metadata? h
  have hempty : ¬ text.isEmpty := fun he => by
    rw [String.isEmpty_iff.mp he] at h
    have hnone : metadata? "" = none := by decide +kernel
    rw [hnone] at h
    cases h
  rw [receive, if_neg (by simp [hrunning, hempty]), hcall]
  change s.call ⟨"latex/packageMetadata", some v, none⟩ = _
  rw [call_metadata s rfl, if_neg (not_not.mpr hrunning), if_neg (by simp), perform_metadata]
  simp only [Option.map_some, hv]

/-- A call of the method that brings no metadata leaves the server as it was. -/
theorem receive_of_metadata?_none (s : Server) {c : Call}
    (hcall : Message.ofText text = .ok (.call c)) (hmethod : c.method = "latex/packageMetadata")
    (h : metadata? text = none) : (s.receive text).1 = s := by
  obtain ⟨method, params, id⟩ := c
  obtain rfl : method = "latex/packageMetadata" := hmethod
  rw [receive]
  split
  next => rfl
  rw [hcall]
  change (s.call ⟨"latex/packageMetadata", params, id⟩).1 = s
  rw [call_metadata s rfl]
  split
  next => rfl
  split
  next => rfl
  next hid =>
    rw [perform_metadata]
    split
    next m hm =>
      obtain rfl : id = none := by simpa using hid
      obtain ⟨v, rfl, hv⟩ := Option.map_eq_some_iff.mp hm
      simp only [metadata?, hcall, hv] at h
      cases h
    next => rfl

/-- **The packages reach the registry in ascending order of their names**, whatever the order of the
text.  They are the packages of the text, each with its last commands, and they are in the order of the
text exactly if the names come first in ascending order there.  As long as the registry has them,
completion keeps their order: among the commands, and among the names that nothing ahead of the document
offers and the text does not declare. -/
theorem receive_metadata_asListed_iff {s : Server} (hrunning : s.stage = .running)
    (hm : metadata? text = some m) :
    let names := (listing text).map Prod.fst
    s.receive text = ({ s with
      session := { s.session with
        registry := s.session.registry.set m.document m.packages } }, []) ∧
    (s.receive text).1.session.registry.get? m.document = some m.packages ∧
    (AsListed (listing text) m.packages ↔ names.eraseDups.Pairwise (· < ·)) ∧
    m.packages.keys.Pairwise (· < ·) ∧
    (∀ name, name ∈ m.packages.keys ↔ name ∈ names) ∧
    (∀ name v, lastNamed name (listing text) = some v →
      ∃ entries, CommandEntry.listDecoder.fromValue v = .ok entries ∧
        m.packages.get? name = some entries) ∧
    ∀ (later : Session) (document : String) (offset : Nat),
      later.registry.get? m.document = some m.packages →
      let r : Request := ⟨document, offset, some later.registry, later.catalog⟩
      let suggestions := later.provider.suggestions r
      m.packages.values.flatten.filterMap Suggestion.ofEntry? <:+: suggestions.commands ∧
      (m.packages.keys.filter fun name =>
        name ∉ Provider.ahead r later.registry m.document ∧ name ∉ later.provider.existing r).map
          Suggestion.ofPackage <:+: suggestions.packages := by
  intro names
  have hreceive := receive_of_metadata? hrunning hm
  have hlisted := asListed_membersOf_listing hm
  refine ⟨hreceive, ?_, hlisted.of_membersOf_iff, ?_, fun name => ?_,
    fun name v => hlisted.commands_of_membersOf, ?_⟩
  · rw [hreceive]
    exact Dictionary.get?_put_self _ _ _
  · rw [hlisted.keys_of_membersOf]
    exact ascending_membersOf _
  · rw [hlisted.keys_of_membersOf, mem_names_membersOf]
  · intro later document offset hlater r suggestions
    exact ⟨Provider.contributed_infix_commands _ rfl hlater,
      Provider.contributed_infix_packages _ rfl hlater⟩

/-- The text of a notification with the given members as the packages of the document `file:///a`. -/
def metadataText (members : String) : String :=
  "\x7b\"jsonrpc\":\"2.0\",\"method\":\"latex/packageMetadata\",\"params\":\x7b" ++
    "\"uri\":\"file:///a\",\"packages\":\x7b" ++ members ++ "\x7d\x7d\x7d"

/-- `alpha` comes first in front of `zeta`, so it keeps its place and has its last commands. -/
theorem receive_metadata_alpha_zeta :
    let text := metadataText "\"alpha\":[],\"zeta\":[],\"alpha\":[\x7b\x7d]"
    let m : Metadata := ⟨"file:///a", .ofList [("alpha", [⟨none, none, ""⟩]), ("zeta", [])]⟩
    let s : Server := ⟨.running, { bundled := .ofList [] }⟩
    s.stage = .running ∧ metadata? text = some m ∧ AsListed (listing text) m.packages ∧
      (s.receive text).1.session.registry = Registry.set {} m.document m.packages := by
  intro text m s
  have htext : metadata? text = some m ∧
      ((listing text).map Prod.fst).eraseDups.Pairwise (· < ·) := by decide +kernel
  obtain ⟨hm, hascending⟩ := htext
  obtain ⟨hreceive, -, hlisted, -⟩ := receive_metadata_asListed_iff (s := s) rfl hm
  exact ⟨rfl, hm, hlisted.mpr hascending, by rw [hreceive]⟩

/-- A text that has `zeta` in front of `alpha`.  They are registered and offered the other way
round. -/
theorem receive_metadata_zeta_alpha :
    let text := metadataText "\"zeta\":[],\"alpha\":[]"
    let session : Session :=
      { bundled := .ofList [], documents := .ofList [("file:///a", "\\usepackage\x7b")] }
    let after := (Server.receive ⟨.running, session⟩ text).1.session
    (listing text).map Prod.fst = ["zeta", "alpha"] ∧
    after.registry.packageNames = ["alpha", "zeta"] ∧
    (after.complete "file:///a" ⟨0, 12⟩).map (·.map (·.label)) = some ["alpha", "zeta"] ∧
    ¬ ∃ packages, after.registry.get? "file:///a" = some packages ∧
      AsListed (listing text) packages := by
  intro text session after
  have hrun : (listing text).map Prod.fst = ["zeta", "alpha"] ∧
      after.registry.packageNames = ["alpha", "zeta"] ∧
      (after.complete "file:///a" ⟨0, 12⟩).map (·.map (·.label)) = some ["alpha", "zeta"] ∧
      (after.registry.get? "file:///a").map Dictionary.keys = some ["alpha", "zeta"] := by
    decide +kernel
  obtain ⟨hlisting, hnames, hlabels, hkeys⟩ := hrun
  refine ⟨hlisting, hnames, hlabels, ?_⟩
  rintro ⟨packages, hget, hlisted⟩
  rw [hget, Option.map_some, hlisted.keys, hlisting] at hkeys
  exact absurd hkeys (by decide)

end TexCompletion.Server

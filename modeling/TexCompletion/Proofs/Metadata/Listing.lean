import Mathlib.Data.List.Sort
import TexCompletion.Metadata
import TexCompletion.Proofs.Completion.Offered
import TexCompletion.Proofs.Json.Form
import TexCompletion.Proofs.Json.Members

/-!
# Packages as metadata lists them

The packages of a message are listed under names, a name perhaps several times.  `AsListed` says that a
dictionary has them in the order of the listing: a repeated name keeps its first place and has its
last commands.

The decoder of packages keeps the order of the members that it is given (`asListed_of_decoder`, by
induction on the members, the last one taken off).  The members of a value, however, are in
ascending order, so of what a text lists the order is kept exactly if the names come first in this
order (`AsListed.of_membersOf_iff`).

`Metadata.asListed_membersOf` applies this to whole messages, which have the packages under a name or in
the second place.
-/

namespace TexCompletion

open Json

/-! ## The order of a listing -/

/-- The commands of a package in JSON. -/
def CommandEntry.listDecoder : Decoder (List CommandEntry) :=
  .array (.record CommandEntry.form)

/-- The packages are those of a listing, in its order.  A repeated name keeps its first place and
has its last commands. -/
structure AsListed (listing : List (String × Value)) (packages : PackageCommands) : Prop where
  keys : packages.keys = (listing.map Prod.fst).eraseDups
  commands : ∀ name v, lastNamed name listing = some v →
    ∃ entries, CommandEntry.listDecoder.fromValue v = .ok entries ∧
      packages.get? name = some entries

namespace AsListed

/-- One more package, listed behind the others. -/
theorem put {listing : List (String × Value)} {packages : PackageCommands}
    (h : AsListed listing packages) {name : String} {v : Value} {entries : List CommandEntry}
    (hv : CommandEntry.listDecoder.fromValue v = .ok entries) :
    AsListed (listing ++ [(name, v)]) (packages.put name entries) where
  keys := by
    rw [Dictionary.keys_put, h.keys, List.map_append, List.map_singleton, eraseDups_concat]
    simp only [List.mem_eraseDups]
  commands other w hw := by
    rw [lastNamed_concat] at hw
    rw [Dictionary.get?_put]
    split at hw
    next heq =>
      obtain rfl := Option.some.inj hw
      exact ⟨entries, hv, if_pos heq⟩
    next hne =>
      rw [if_neg hne]
      exact h.commands other w hw

end AsListed

/-- The decoder keeps the order of the members that it is given. -/
theorem asListed_of_decoder {ms : List (String × Value)} {packages : PackageCommands}
    (h : PackageCommands.decoder.fromValue (.object ms) = .ok packages) : AsListed ms packages := by
  simp only [PackageCommands.decoder, Decoder.object] at h
  induction ms using List.reverseRecOn generalizing packages with
  | nil =>
    cases h
    exact ⟨rfl, nofun⟩
  | append_singleton ms m ih =>
    obtain ⟨before, hbefore, hmember⟩ := foldlM_concat_eq_ok_iff.mp h
    obtain ⟨entries, hentries, hput⟩ := bind_eq_ok_iff.mp hmember
    cases hput
    exact (ih hbefore).put hentries

/-! ## Ascending members -/

namespace AsListed

variable {listing : List (String × Value)} {packages : PackageCommands}

/-- Packages that are listed by the members of a value have their names in ascending order. -/
theorem keys_of_membersOf (h : AsListed (membersOf listing) packages) :
    packages.keys = (membersOf listing).map Prod.fst := by
  rw [h.keys, eraseDups_of_nodup (nodup_names_membersOf listing)]

/-- Packages that are listed by the members of a value have the last commands of their names. -/
theorem commands_of_membersOf (h : AsListed (membersOf listing) packages) {name : String} {v : Value}
    (hv : lastNamed name listing = some v) :
    ∃ entries, CommandEntry.listDecoder.fromValue v = .ok entries ∧
      packages.get? name = some entries := by
  refine h.commands name v ?_
  rw [lastNamed_of_nodup (nodup_names_membersOf listing), lookup_membersOf, hv]

/-- What a value keeps of a listing is in the order of the listing if the names come first in
ascending order there, and otherwise it is not. -/
theorem of_membersOf_iff (h : AsListed (membersOf listing) packages) :
    AsListed listing packages ↔ (listing.map Prod.fst).eraseDups.Pairwise (· < ·) := by
  have hascending : packages.keys.Pairwise (· < ·) := by
    rw [h.keys_of_membersOf]
    exact ascending_membersOf listing
  constructor
  · intro hlisted
    rwa [← hlisted.keys]
  · intro hfirst
    refine ⟨hascending.eq_of_mem_iff hfirst fun name => ?_, fun name v => h.commands_of_membersOf⟩
    rw [h.keys_of_membersOf, mem_names_membersOf, List.mem_eraseDups]

end AsListed

/-! ## Messages -/

namespace Metadata

/-- Where the parameters of a message have the packages. -/
def packages? : Value → Option Value
  | .object ms => ms.lookup "packages"
  | .array vs => vs[1]?
  | _ => none

/-- A member of the name `packages` fills in the packages, if that was not done before, and no other
member does. -/
theorem putMember_packages {draft draft' : Draft} {name : String} {v : Value}
    (h : form.putMember draft (name, v) = .ok draft') :
    if name = "packages" then
      draft.packages = none ∧ some <$> PackageCommands.decoder.fromValue v = .ok draft'.packages
    else draft'.packages = draft.packages := by
  by_cases huri : name = "uri"
  · subst huri
    obtain ⟨-, document, -, rfl⟩ := (form.putMember_eq_ok_iff rfl).mp h
    rfl
  by_cases hpackages : name = "packages"
  · subst hpackages
    obtain ⟨hunset, packages, hv, rfl⟩ := (form.putMember_eq_ok_iff rfl).mp h
    rw [if_pos rfl, hv]
    exact ⟨hunset, rfl⟩
  · have hfind : form.fields.find? (·.name == name) = none := by
      simp [form, Decoder.Field.of, Ne.symm huri, Ne.symm hpackages]
    simp only [Decoder.Form.putMember, hfind] at h
    cases h
    rw [if_neg hpackages]

/-- The members of an object have filled in the packages, if they are among them. -/
theorem foldlM_putMember_packages {ms : List (String × Value)} {draft : Draft}
    (h : ms.foldlM form.putMember form.empty = .ok draft) :
    (ms.lookup "packages").elim (.ok none) (some <$> PackageCommands.decoder.fromValue ·) =
      .ok draft.packages := by
  induction ms using List.reverseRecOn generalizing draft with
  | nil =>
    cases h
    rfl
  | append_singleton ms m ih =>
    obtain ⟨before, hbefore, hmember⟩ := foldlM_concat_eq_ok_iff.mp h
    have hput := putMember_packages hmember
    have ih := ih hbefore
    rw [List.lookup_append, lookup_cons_ite]
    by_cases hname : m.1 = "packages"
    · rw [if_pos hname] at hput
      rw [if_pos hname.symm]
      cases hlookup : ms.lookup "packages" with
      | none => exact hput.2
      | some v =>
        rw [hlookup, hput.1] at ih
        obtain ⟨packages, -, hsome⟩ := bind_eq_ok_iff.mp ih
        cases hsome
    · rw [if_neg hname] at hput
      rwa [if_neg (Ne.symm hname), List.lookup_nil, Option.or_none, hput]

/-- Parameters that are an object have the packages under their name. -/
theorem packages_of_object {ms : List (String × Value)} {m : Metadata}
    (h : form.ofValue (.object ms) = .ok m) :
    (ms.lookup "packages").elim (.ok ∅) PackageCommands.decoder.fromValue = .ok m.packages := by
  obtain ⟨draft, hdraft, hcomplete⟩ := bind_eq_ok_iff.mp h
  obtain ⟨document, -, hm⟩ := bind_eq_ok_iff.mp hcomplete
  cases hm
  have hpackages := foldlM_putMember_packages hdraft
  cases hlookup : ms.lookup "packages" with
  | none =>
    rw [hlookup] at hpackages
    have hnone : none = draft.packages := Except.ok.inj hpackages
    rw [← hnone]
    rfl
  | some v =>
    rw [hlookup] at hpackages
    obtain ⟨packages, hv, hsome⟩ := bind_eq_ok_iff.mp hpackages
    have hsome : some packages = draft.packages := Except.ok.inj hsome
    rw [← hsome]
    exact hv

/-- Parameters that are an array have the packages in the second place. -/
theorem packages_of_array {vs : List Value} {m : Metadata} (h : form.ofValue (.array vs) = .ok m) :
    vs[1]?.elim (.ok ∅) PackageCommands.decoder.fromValue = .ok m.packages := by
  obtain ⟨⟨left, draft⟩, hdraft, hcomplete⟩ := bind_eq_ok_iff.mp h
  match vs with
  | [] =>
    cases hdraft
    cases hcomplete
  | [u] =>
    obtain ⟨put, hput, hrest⟩ := bind_eq_ok_iff.mp hdraft
    obtain ⟨document, -, hset⟩ := bind_eq_ok_iff.mp hput
    cases hset
    cases hrest
    cases hcomplete
    rfl
  | u :: p :: rest =>
    obtain ⟨put, hput, hrest⟩ := bind_eq_ok_iff.mp hdraft
    obtain ⟨document, -, hset⟩ := bind_eq_ok_iff.mp hput
    obtain ⟨put', hput', hrest'⟩ := bind_eq_ok_iff.mp hrest
    obtain ⟨packages, hv, hset'⟩ := bind_eq_ok_iff.mp hput'
    cases hset
    cases hset'
    cases hrest'
    -- a third element is one too many
    cases left with
    | nil =>
      cases hcomplete
      exact hv
    | cons v' left => cases hcomplete

/-- The packages of a message are those that the parameters have; a message without has none. -/
theorem packages_of_ofValue {v : Value} {m : Metadata} (h : form.ofValue v = .ok m) :
    (packages? v).elim (.ok ∅) PackageCommands.decoder.fromValue = .ok m.packages := by
  cases v with
  | object ms => exact packages_of_object h
  | array vs => exact packages_of_array h
  | _ => cases h

/-! ## Messages as they are written -/

/-- Where the parameters of a message have the packages as they are written.  Of several members of an
object the last counts. -/
def writtenPackages? : Document → Option Document
  | .object ms => lastNamed "packages" ms
  | .array ds => ds[1]?
  | _ => none

/-- The packages of a message in the order of the text. -/
def listing (params : Document) : List (String × Value) :=
  (writtenPackages? params).elim [] Document.members

theorem packages?_value (params : Document) :
    packages? params.value = (writtenPackages? params).map Document.value := by
  cases params with
  | object ms =>
    rw [Document.value, packages?, lookup_membersOf, lastNamed_pairsOf, writtenPackages?]
  | array ds => rw [Document.value, packages?, valuesOf_eq_map, List.getElem?_map, writtenPackages?]
  | _ => rfl

/-- The packages of a message are those that the text lists, in ascending order of their names. -/
theorem asListed_membersOf {params : Document} {m : Metadata}
    (h : form.ofValue params.value = .ok m) : AsListed (membersOf (listing params)) m.packages := by
  have hpackages := packages_of_ofValue h
  rw [packages?_value] at hpackages
  rw [listing]
  cases hwritten : writtenPackages? params with
  | none =>
    rw [hwritten] at hpackages
    have hempty : ∅ = m.packages := Except.ok.inj hpackages
    rw [← hempty]
    exact ⟨rfl, nofun⟩
  | some d =>
    rw [hwritten] at hpackages
    cases d with
    | object ms => exact asListed_of_decoder hpackages
    | _ => cases hpackages

end Metadata

end TexCompletion

import Mathlib.Data.List.Perm.Basic
import DoubleAuction.Json.Record
import DoubleAuction.Proofs.Json.Text

/-! # Records in any order

The members of an object may stand in any order, at every level of a value (`Rearranged`). A record
whose names differ is read the same in all of them: every field that it has is found, with a value
that differs in nothing but the order of members (`record?_of_rearranged`).
-/

namespace DoubleAuction.Json

/-- Two values that differ in nothing but the order of the members of their objects. -/
inductive Rearranged : Json → Json → Prop
  | null : Rearranged .null .null
  | bool (value : Bool) : Rearranged (.bool value) (.bool value)
  | number (value : Option Nat) : Rearranged (.number value) (.number value)
  | string (text : Option String) : Rearranged (.string text) (.string text)
  | array {items others : List Json} (alike : List.Forall₂ Rearranged items others) :
      Rearranged (.array items) (.array others)
  | object {members others rearranged : List (Option String × Json)}
      (names : others.map Prod.fst = members.map Prod.fst)
      (alike : List.Forall₂ (fun member other => Rearranged member.2 other.2) members others)
      (moved : others.Perm rearranged) :
      Rearranged (.object members) (.object rearranged)

theorem Rearranged.refl (json : Json) : Rearranged json json := by
  induction json using nested with
  | null => exact .null
  | bool value => exact .bool value
  | number value => exact .number value
  | string text => exact .string text
  | array items ih => exact .array (List.forall₂_same.mpr ih)
  | object members ih => exact .object rfl (List.forall₂_same.mpr ih) (.refl members)

/-- Reading a list reads every entry. -/
theorem mapM_eq_some_iff {α β : Type} {read : α → Option β} {entries : List α} {values : List β} :
    entries.mapM read = some values ↔
      List.Forall₂ (fun entry value => read entry = some value) entries values := by
  induction entries generalizing values with
  | nil =>
    rw [List.mapM_nil, List.forall₂_nil_left_iff]
    exact ⟨fun same => (Option.some.inj same).symm, fun same => same ▸ rfl⟩
  | cons first rest ih =>
    simp only [List.mapM_cons, bind, Option.bind_eq_some_iff, pure, Option.some.injEq,
      List.forall₂_cons_left_iff, ih]
    constructor
    · rintro ⟨value, here, others, later, rfl⟩
      exact ⟨value, others, here, later, rfl⟩
    · rintro ⟨value, others, here, later, rfl⟩
      exact ⟨value, here, others, later, rfl⟩

/-- A list in another order reads as the same values in another order. -/
theorem mapM_of_perm {α β : Type} {read : α → Option β} {entries moved : List α} {values : List β}
    (perm : entries.Perm moved) (reads : entries.mapM read = some values) :
    ∃ others, moved.mapM read = some others ∧ values.Perm others := by
  obtain ⟨others, alike, back⟩ := List.perm_comp_forall₂ perm.symm (mapM_eq_some_iff.mp reads)
  exact ⟨others, mapM_eq_some_iff.mpr alike, back.symm⟩

theorem members?_of_alike {members : List (String × Json)} {others : List (Option String × Json)}
    (names : others.map Prod.fst = members.map fun member => some member.1)
    (alike : List.Forall₂ (fun member other => Rearranged member.2 other.2) members others) :
    ∃ plain, (Json.object others).members? = some plain ∧
      List.Forall₂ (fun member other => member.1 = other.1 ∧ Rearranged member.2 other.2)
        members plain := by
  induction alike with
  | nil => exact ⟨[], rfl, .nil⟩
  | @cons member other _ _ here _ ih =>
    obtain ⟨name, names⟩ := List.cons.inj names
    obtain ⟨plain, read, later⟩ := ih names
    refine ⟨(member.1, other.2) :: plain, ?_, .cons ⟨rfl, here⟩ later⟩
    simp only [members?] at read ⊢
    rw [List.mapM_cons, name, read]
    rfl

/-- The members of a rearranged object are those of the object, up to their order and to what is
rearranged inside of them. -/
theorem members?_of_rearranged {members : List (String × Json)} {json : Json}
    (rearranged : Rearranged (ofMembers members) json) :
    ∃ others moved, json.members? = some moved ∧ others.Perm moved ∧
      List.Forall₂ (fun member other => member.1 = other.1 ∧ Rearranged member.2 other.2)
        members others := by
  cases rearranged with
  | object names alike perm =>
    rw [List.map_map] at names
    obtain ⟨plain, read, alike⟩ := members?_of_alike names (List.forall₂_map_left_iff.mp alike)
    obtain ⟨moved, readMoved, perm⟩ := mapM_of_perm perm read
    exact ⟨plain, moved, readMoved, perm, alike⟩

/-- A field is found by its name, if no other has that name. -/
theorem field?_of_mem {members : List (String × Json)} (distinct : (members.map (·.1)).Nodup)
    {name : String} {json : Json} (member : (name, json) ∈ members) :
    field? members name = some (some json) := by
  have only : members.filter (fun member => member.1 = name) = [(name, json)] := by
    induction members with
    | nil => cases member
    | cons first rest ih =>
      obtain ⟨apart, distinct⟩ := List.nodup_cons.mp distinct
      rcases List.mem_cons.mp member with rfl | later
      · rw [List.filter_cons_of_pos (by simp), List.filter_eq_nil_iff.mpr]
        intro other inside same
        obtain rfl : other.1 = name := of_decide_eq_true same
        exact apart (List.mem_map.mpr ⟨other, inside, rfl⟩)
      · rw [List.filter_cons_of_neg, ih distinct later]
        intro same
        obtain rfl : first.1 = name := of_decide_eq_true same
        exact apart (List.mem_map.mpr ⟨_, later, rfl⟩)
  rw [field?, only]

section Record

variable {members : List (String × Json)} {json : Json}

theorem exists_of_mem_left {α β : Type} {relation : α → β → Prop} {left : List α} {right : List β}
    (alike : List.Forall₂ relation left right) {entry : α} (member : entry ∈ left) :
    ∃ other ∈ right, relation entry other := by
  induction alike with
  | nil => cases member
  | cons here _ ih =>
    rcases List.mem_cons.mp member with rfl | later
    · exact ⟨_, List.mem_cons_self, here⟩
    · obtain ⟨other, inside, related⟩ := ih later
      exact ⟨other, List.mem_cons_of_mem _ inside, related⟩

/-- Whatever the order of its members, a record with different names has every field of theirs. -/
theorem record?_of_rearranged (rearranged : Rearranged (ofMembers members) json)
    (distinct : (members.map (·.1)).Nodup) :
    ∃ find : String → Json,
      (∀ names : List String, (∀ name ∈ names, name ∈ members.map (·.1)) →
        json.record? names = some (names.map fun name => some (find name))) ∧
      ∀ member ∈ members, Rearranged member.2 (find member.1) := by
  obtain ⟨others, moved, read, perm, alike⟩ := members?_of_rearranged rearranged
  have names : others.map (·.1) = members.map (·.1) := by
    clear perm distinct rearranged
    induction alike with
    | nil => rfl
    | cons here _ ih => rw [List.map_cons, List.map_cons, ih, here.1]
  have apart : (moved.map (·.1)).Nodup := by
    rw [← (perm.map _).nodup_iff, names]
    exact distinct
  have found {member : String × Json} (inside : member ∈ members) :
      ∃ value, field? moved member.1 = some (some value) ∧ Rearranged member.2 value := by
    obtain ⟨other, there, same, value⟩ := exists_of_mem_left alike inside
    refine ⟨other.2, ?_, value⟩
    rw [same]
    exact field?_of_mem apart (perm.mem_iff.mp there)
  refine ⟨fun name => ((field? moved name).join).getD .null, ?_, ?_⟩
  · intro names present
    have fields : names.mapM (field? moved) =
        some (names.map fun name => some (((field? moved name).join).getD .null)) := by
      rw [mapM_eq_some_iff, List.forall₂_map_right_iff, List.forall₂_same]
      intro name inside
      obtain ⟨member, here, rfl⟩ := List.mem_map.mp (present name inside)
      obtain ⟨value, field, _⟩ := found here
      rw [field]
      rfl
    cases rearranged
    simp only [record?, read, Option.bind_some, fields]
  · intro member inside
    obtain ⟨value, field, rearranged⟩ := found inside
    dsimp only
    rw [field]
    exact rearranged

end Record

/-- A variant is read with its name and what it carries. -/
theorem variant?_of_rearranged {name : String} {payload json : Json}
    (rearranged : Rearranged (ofMembers [(name, payload)]) json) :
    ∃ other, json.variant? = some (name, some other) ∧ Rearranged payload other := by
  cases rearranged with
  | object names alike perm =>
    obtain ⟨⟨_, other⟩, _, here, ⟨⟩, rfl⟩ := List.forall₂_cons_left_iff.mp alike
    obtain rfl := List.perm_singleton.mp perm.symm
    cases names
    exact ⟨other, rfl, here⟩

end DoubleAuction.Json

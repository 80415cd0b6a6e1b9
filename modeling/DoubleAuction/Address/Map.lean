import DoubleAuction.Address

/-! # Finite maps keyed by address

Balances and claims are kept in maps whose entries stand in address order, each address once. The
order is part of the type, so two maps that answer every look-up alike are equal (`AddressMap.ext`).
-/

namespace DoubleAuction

/-- A finite map from addresses, as its entries in address order. -/
structure AddressMap (α : Type u) where
  entries : List (Address × α)
  sorted : entries.Pairwise fun earlier later => earlier.1 < later.1
  deriving DecidableEq, Repr

namespace AddressMap

variable {α : Type u}

/-- The map without entries. -/
def empty : AddressMap α := ⟨[], .nil⟩

instance : Inhabited (AddressMap α) := ⟨empty⟩

/-- The value that a list of entries first gives to an address. -/
def lookup (key : Address) : List (Address × α) → Option α
  | [] => none
  | entry :: rest => if entry.1 = key then some entry.2 else lookup key rest

/-- Puts an entry in its place, instead of an entry for the same address. -/
def place (key : Address) (value : α) : List (Address × α) → List (Address × α)
  | [] => [(key, value)]
  | entry :: rest =>
    if key < entry.1 then (key, value) :: entry :: rest
    else if key = entry.1 then (key, value) :: rest
    else entry :: place key value rest

theorem mem_place {key : Address} {value : α} {entries : List (Address × α)} {entry : Address × α}
    (member : entry ∈ place key value entries) : entry = (key, value) ∨ entry ∈ entries := by
  induction entries with
  | nil => simpa [place] using member
  | cons head rest ih =>
    simp only [place] at member
    split at member
    · simpa using member
    · split at member
      · rcases List.mem_cons.mp member with here | there
        · exact .inl here
        · exact .inr (List.mem_cons_of_mem _ there)
      · rcases List.mem_cons.mp member with here | there
        · exact .inr (here ▸ List.mem_cons_self)
        · exact (ih there).imp_right (List.mem_cons_of_mem _)

theorem pairwise_place (key : Address) (value : α) {entries : List (Address × α)}
    (sorted : entries.Pairwise fun earlier later => earlier.1 < later.1) :
    (place key value entries).Pairwise fun earlier later => earlier.1 < later.1 := by
  induction entries with
  | nil => simp [place]
  | cons head rest ih =>
    obtain ⟨below, tail⟩ := List.pairwise_cons.mp sorted
    simp only [place]
    split
    case isTrue less =>
      refine List.pairwise_cons.mpr ⟨fun entry member => ?_, sorted⟩
      rcases List.mem_cons.mp member with rfl | there
      · exact less
      · exact Address.lt_trans less (below entry there)
    case isFalse notLess =>
      split
      case isTrue same => exact List.pairwise_cons.mpr ⟨same ▸ below, tail⟩
      case isFalse ne =>
        refine List.pairwise_cons.mpr ⟨fun entry member => ?_, ih tail⟩
        rcases mem_place member with rfl | there
        · exact Address.lt_of_not_lt_of_ne notLess ne
        · exact below entry there

theorem lookup_place (key other : Address) (value : α) {entries : List (Address × α)}
    (sorted : entries.Pairwise fun earlier later => earlier.1 < later.1) :
    lookup other (place key value entries) =
      if key = other then some value else lookup other entries := by
  induction entries with
  | nil => rfl
  | cons head rest ih =>
    obtain ⟨_, tail⟩ := List.pairwise_cons.mp sorted
    simp only [place]
    split
    case isTrue => rfl
    case isFalse =>
      split
      case isTrue same =>
        subst same
        simp only [lookup]
        split <;> rfl
      case isFalse ne =>
        simp only [lookup, ih tail]
        split
        case isTrue here => rw [if_neg fun same => ne (same.trans here.symm)]
        case isFalse => rfl

/-- The value of an address, if it has one. -/
def find? (map : AddressMap α) (key : Address) : Option α := lookup key map.entries

/-- Gives an address a value, in place of the one it had. -/
def insert (map : AddressMap α) (key : Address) (value : α) : AddressMap α :=
  ⟨place key value map.entries, pairwise_place key value map.sorted⟩

/-- The map of a list of entries; of two entries for one address the later counts. -/
def ofList (entries : List (Address × α)) : AddressMap α :=
  entries.foldl (fun map entry => map.insert entry.1 entry.2) empty

@[simp] theorem find?_empty (key : Address) : (empty : AddressMap α).find? key = none := rfl

theorem find?_insert (map : AddressMap α) (key other : Address) (value : α) :
    (map.insert key value).find? other = if key = other then some value else map.find? other :=
  lookup_place key other value map.sorted

@[simp] theorem find?_insert_self (map : AddressMap α) (key : Address) (value : α) :
    (map.insert key value).find? key = some value := by
  simp [find?_insert]

theorem find?_insert_of_ne (map : AddressMap α) {key other : Address} (value : α)
    (ne : key ≠ other) : (map.insert key value).find? other = map.find? other := by
  simp [find?_insert, ne]

/-- An address below all entries has no value. -/
theorem lookup_eq_none {key : Address} {entries : List (Address × α)}
    (below : ∀ entry ∈ entries, key < entry.1) : lookup key entries = none := by
  induction entries with
  | nil => rfl
  | cons head rest ih =>
    have less := below head List.mem_cons_self
    simp [lookup, (Address.ne_of_lt less).symm,
      ih fun entry member => below entry (List.mem_cons_of_mem _ member)]

theorem lookup_injective {left right : List (Address × α)}
    (sortedLeft : left.Pairwise fun earlier later => earlier.1 < later.1)
    (sortedRight : right.Pairwise fun earlier later => earlier.1 < later.1)
    (agree : ∀ key, lookup key left = lookup key right) : left = right := by
  induction left generalizing right with
  | nil =>
    cases right with
    | nil => rfl
    | cons head rest => simpa [lookup] using agree head.1
  | cons head rest ih =>
    cases right with
    | nil => simpa [lookup] using agree head.1
    | cons other others =>
      obtain ⟨belowLeft, tailLeft⟩ := List.pairwise_cons.mp sortedLeft
      obtain ⟨belowRight, tailRight⟩ := List.pairwise_cons.mp sortedRight
      have sameKey : head.1 = other.1 := by
        by_cases less : head.1 < other.1
        · have absent : lookup head.1 (other :: others) = none :=
            lookup_eq_none fun entry member => by
              rcases List.mem_cons.mp member with rfl | there
              · exact less
              · exact Address.lt_trans less (belowRight entry there)
          have found := agree head.1
          rw [absent] at found
          simp [lookup] at found
        · by_cases same : head.1 = other.1
          · exact same
          · have greater := Address.lt_of_not_lt_of_ne less same
            have absent : lookup other.1 (head :: rest) = none :=
              lookup_eq_none fun entry member => by
                rcases List.mem_cons.mp member with rfl | there
                · exact greater
                · exact Address.lt_trans greater (belowLeft entry there)
            have found := agree other.1
            rw [absent] at found
            simp [lookup] at found
      have sameValue : head.2 = other.2 := by
        simpa [lookup, sameKey] using agree head.1
      have sameRest : rest = others := by
        refine ih tailLeft tailRight fun key => ?_
        by_cases atHead : head.1 = key
        · subst atHead
          rw [lookup_eq_none belowLeft, lookup_eq_none (sameKey ▸ belowRight)]
        · have found := agree key
          simpa [lookup, atHead, sameKey ▸ atHead] using found
      rw [sameRest, Prod.ext sameKey sameValue]

/-- Two maps are equal when every address has the same value in both. -/
@[ext] theorem ext {left right : AddressMap α} (agree : ∀ key, left.find? key = right.find? key) :
    left = right := by
  obtain ⟨entries, sorted⟩ := left
  obtain ⟨others, sortedOthers⟩ := right
  obtain rfl : entries = others := lookup_injective sorted sortedOthers agree
  rfl

end AddressMap

end DoubleAuction

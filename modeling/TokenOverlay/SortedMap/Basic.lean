namespace TokenOverlay

/-!
Finite maps kept as lists of entries in strictly ascending key order.  A map
has exactly one representation, so two maps that answer every lookup alike are
equal; the tables of the protocol rely on this when a
state is compared with, or restored from, another one.  Listing a map lists it
in key order, and for text keys that is the order of their UTF-8 bytes.
-/

/-- Entries in strictly ascending key order. -/
structure SortedMap (κ : Type) (β : Type) [Ord κ] where
  entries : List (κ × β)
  ascending : entries.Pairwise (fun a b => compare a.1 b.1 = .lt)
deriving DecidableEq

namespace SortedMap

variable {κ β γ : Type} [Ord κ]

/-- The value stored under a key in a list of entries. -/
def lookup (key : κ) : List (κ × β) → Option β
  | [] => none
  | (k, v) :: rest =>
      match compare key k with
      | .lt => none
      | .eq => some v
      | .gt => lookup key rest

/-- Put a value at its place, replacing the one that was there. -/
def place (key : κ) (value : β) : List (κ × β) → List (κ × β)
  | [] => [(key, value)]
  | (k, v) :: rest =>
      match compare key k with
      | .lt => (key, value) :: (k, v) :: rest
      | .eq => (key, value) :: rest
      | .gt => (k, v) :: place key value rest

/-- Take the entry of a key out of a list of entries. -/
def without (key : κ) : List (κ × β) → List (κ × β)
  | [] => []
  | (k, v) :: rest =>
      match compare key k with
      | .lt => (k, v) :: rest
      | .eq => rest
      | .gt => (k, v) :: without key rest

theorem mem_place {key : κ} {value : β} {entry : κ × β} {entries : List (κ × β)}
    (member : entry ∈ place key value entries) : entry = (key, value) ∨ entry ∈ entries := by
  induction entries with
  | nil => simpa [place] using member
  | cons head rest ih =>
      rcases head with ⟨k, v⟩
      simp only [place] at member
      split at member
      · simpa using member
      · simp only [List.mem_cons] at member ⊢
        exact member.imp id Or.inr
      · simp only [List.mem_cons] at member ⊢
        rcases member with rfl | member
        · exact Or.inr (Or.inl rfl)
        · exact (ih member).imp id Or.inr

theorem without_sublist (key : κ) (entries : List (κ × β)) :
    (without key entries).Sublist entries := by
  induction entries with
  | nil => exact List.Sublist.refl _
  | cons head rest ih =>
      rcases head with ⟨k, v⟩
      simp only [without]
      split
      · exact List.Sublist.refl _
      · exact List.sublist_cons_self _ _
      · exact ih.cons_cons _

variable [Std.TransOrd κ]

theorem place_ascending (key : κ) (value : β) {entries : List (κ × β)}
    (ascending : entries.Pairwise (fun a b => compare a.1 b.1 = .lt)) :
    (place key value entries).Pairwise (fun a b => compare a.1 b.1 = .lt) := by
  induction entries with
  | nil => simp [place]
  | cons head rest ih =>
      rcases head with ⟨k, v⟩
      rcases List.pairwise_cons.mp ascending with ⟨first, later⟩
      simp only [place]
      split
      · next before =>
          refine List.pairwise_cons.mpr ⟨?_, ascending⟩
          intro entry member
          rcases List.mem_cons.mp member with rfl | member
          · exact before
          · exact Std.TransCmp.lt_trans before (first entry member)
      · next same =>
          refine List.pairwise_cons.mpr ⟨?_, later⟩
          intro entry member
          exact Std.TransCmp.lt_of_eq_of_lt same (first entry member)
      · next after =>
          refine List.pairwise_cons.mpr ⟨?_, ih later⟩
          intro entry member
          rcases mem_place member with rfl | member
          · exact Std.OrientedCmp.gt_iff_lt.mp after
          · exact first entry member

def empty : SortedMap κ β := ⟨[], List.Pairwise.nil⟩

instance : EmptyCollection (SortedMap κ β) := ⟨empty⟩

instance : Inhabited (SortedMap κ β) := ⟨empty⟩

def get? (map : SortedMap κ β) (key : κ) : Option β :=
  lookup key map.entries

def contains (map : SortedMap κ β) (key : κ) : Bool :=
  (map.get? key).isSome

def insert (map : SortedMap κ β) (key : κ) (value : β) : SortedMap κ β :=
  ⟨place key value map.entries, place_ascending key value map.ascending⟩

def erase (map : SortedMap κ β) (key : κ) : SortedMap κ β :=
  ⟨without key map.entries, map.ascending.sublist (without_sublist key map.entries)⟩

def isEmpty (map : SortedMap κ β) : Bool := map.entries.isEmpty

def size (map : SortedMap κ β) : Nat := map.entries.length

def keys (map : SortedMap κ β) : List κ := map.entries.map Prod.fst

def values (map : SortedMap κ β) : List β := map.entries.map Prod.snd

def toList (map : SortedMap κ β) : List (κ × β) := map.entries

/-- Of two entries with one key the later one counts. -/
def ofList (entries : List (κ × β)) : SortedMap κ β :=
  entries.foldl (fun map entry => map.insert entry.1 entry.2) empty

/-- Keep the entries whose key passes a test. -/
def filterKeys (keep : κ → Bool) (map : SortedMap κ β) : SortedMap κ β :=
  ⟨map.entries.filter (fun entry => keep entry.1), map.ascending.filter _⟩

/-- Put a value under a key, or take the key out. -/
def assign (map : SortedMap κ β) (key : κ) : Option β → SortedMap κ β
  | some value => map.insert key value
  | none => map.erase key

end SortedMap
end TokenOverlay

import Mathlib.Tactic
import Tandem.TestCase

/-!
# The order of cases

`Name.le` is the order of byte strings that compares unsigned bytes from the left, in which a
beginning comes before what it is a beginning of (`Name.le_iff`). The cases of a directory are its
entries in this order, whatever the order in which they were listed (`TestCase.discover_ok`,
`Name.ascending_inOrder`, `Name.perm_inOrder`, `Name.inOrder_congr`). A listing with a fault anywhere
gives no cases (`TestCase.discover_error`); the first fault is the one that counts
(`TestCase.discover_fault`).
-/

namespace Tandem

/-! ### The order of names -/

theorem Name.le_iff {a b : Name} : Name.le a b ↔ a ≤ b := by
  induction a generalizing b with
  | nil => simp [Name.le]
  | cons x as ih =>
    cases b with
    | nil => simp [Name.le]
    | cons y bs => simp [Name.le, List.cons_le_cons_iff, ih]

/-- Names in ascending order. -/
def Name.inOrder (names : List Name) : List Name :=
  names.mergeSort Name.le

theorem Name.perm_inOrder (names : List Name) : (Name.inOrder names).Perm names :=
  List.mergeSort_perm names _

theorem Name.ascending_inOrder (names : List Name) :
    (Name.inOrder names).Pairwise (· ≤ ·) := by
  refine (List.pairwise_mergeSort (fun a b c hab hbc => ?_) (fun a b => ?_) names).imp Name.le_iff.mp
  · rw [Name.le_iff] at hab hbc ⊢
    exact List.le_trans hab hbc
  · rw [Bool.or_eq_true, Name.le_iff, Name.le_iff]
    exact List.le_total a b

/-- **Names have one order**, however they were listed. -/
theorem Name.inOrder_congr {names names' : List Name} (h : names.Perm names') :
    Name.inOrder names = Name.inOrder names' :=
  List.Perm.eq_of_pairwise (fun _ _ _ _ => List.le_antisymm) (Name.ascending_inOrder names)
    (Name.ascending_inOrder names')
    ((Name.perm_inOrder names).trans (h.trans (Name.perm_inOrder names').symm))

/-- Different names come one strictly after the other. -/
theorem Name.strictAscending_inOrder {names : List Name} (h : names.Nodup) :
    (Name.inOrder names).Pairwise (· < ·) :=
  (Name.ascending_inOrder names).imp₂ (fun _ _ => Std.lt_of_le_of_ne)
    (List.nodup_iff_pairwise_ne.mp ((Name.perm_inOrder names).nodup_iff.mpr h))

/-! ### Listings -/

theorem mapM_id_eq_ok_iff {entries : List (Except Fault Name)} {names : List Name} :
    entries.mapM id = .ok names ↔ entries = names.map .ok := by
  constructor
  · intro h
    induction entries generalizing names with
    | nil => cases h; rfl
    | cons entry entries ih =>
      rw [List.mapM_cons] at h
      rcases entry with fault | name
      · cases h
      rcases hrest : entries.mapM id with fault | rest
      · rw [hrest] at h; cases h
      · rw [hrest] at h; cases h
        rw [List.map_cons, ih hrest]
  · rintro rfl
    induction names with
    | nil => rfl
    | cons name names ih =>
      rw [List.map_cons, List.mapM_cons, ih]
      rfl

/-- A listing has names just when it did not fail and none of its entries did. -/
theorem Listing.names_eq_ok_iff {listing : Listing} {names : List Name} :
    listing.names = .ok names ↔ listing = .ok (names.map .ok) := by
  rcases listing with fault | entries
  · exact iff_of_false (by simp [Listing.names, Except.bind]) (by simp)
  · rw [Except.ok.injEq]
    exact mapM_id_eq_ok_iff

/-- Entries are names throughout, or there is a first one that is not. -/
theorem exists_first_fault (entries : List (Except Fault Name)) :
    (∃ names : List Name, entries = names.map .ok) ∨
      ∃ (names : List Name) (first : Fault) (rest : List (Except Fault Name)),
        entries = names.map .ok ++ .error first :: rest := by
  induction entries with
  | nil => exact .inl ⟨[], rfl⟩
  | cons entry entries ih =>
    rcases entry with fault | name
    · exact .inr ⟨[], fault, entries, rfl⟩
    · rcases ih with ⟨names, rfl⟩ | ⟨names, first, rest, rfl⟩
      · exact .inl ⟨name :: names, rfl⟩
      · exact .inr ⟨name :: names, first, rest, rfl⟩

/-- The first fault in a listing is the fault of the listing. -/
theorem Listing.names_fault (names : List Name) (fault : Fault) (rest : List (Except Fault Name)) :
    Listing.names (.ok (names.map .ok ++ .error fault :: rest)) = .error fault := by
  rw [Listing.names, Except.bind]
  induction names with
  | nil => rfl
  | cons name names ih =>
    rw [List.map_cons, List.cons_append, List.mapM_cons, ih]
    rfl

namespace TestCase

variable {dir : Path} {listing : Listing}

theorem discover_ok {names : List Name} (h : listing.names = .ok names) :
    discover dir listing = .ok ((Name.inOrder names).map (ofName dir)) := by
  rw [discover, h]
  rfl

theorem discover_error {fault : Fault} (h : listing.names = .error fault) :
    discover dir listing = .error (.discovery dir fault) := by
  rw [discover, h]

/-- The cases of names have these names. -/
theorem map_name_ofName (dir : Path) (names : List Name) :
    (names.map (ofName dir)).map TestCase.name = names := by
  rw [List.map_map]
  exact List.map_id names

theorem discover_names (dir : Path) (names : List Name) :
    discover dir (.ok (names.map .ok)) = .ok ((Name.inOrder names).map (ofName dir)) :=
  discover_ok (Listing.names_eq_ok_iff.mpr rfl)

theorem discover_fault (dir : Path) (names : List Name) (fault : Fault)
    (rest : List (Except Fault Name)) :
    discover dir (.ok (names.map .ok ++ .error fault :: rest)) = .error (.discovery dir fault) :=
  discover_error (Listing.names_fault names fault rest)

end TestCase

end Tandem

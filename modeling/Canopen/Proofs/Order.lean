import Canopen.Proofs.Acceptance

/-!
# The order of the enabled entries

Entries that take part are put in ascending order of their indices.  Cutting a dictionary in two at
an index cuts this order in two, and an accepted dictionary has only one such order.
-/

namespace Canopen.Dictionary

theorem insertByIndex_pairwise (entry : Entry) {entries : List Entry}
    (ascending : entries.Pairwise (·.index ≤ ·.index)) :
    (insertByIndex entry entries).Pairwise (·.index ≤ ·.index) := by
  induction entries with
  | nil => exact List.pairwise_singleton _ _
  | cons first rest ih =>
      obtain ⟨least, restAscending⟩ := List.pairwise_cons.1 ascending
      unfold insertByIndex
      split
      · next small =>
        refine List.pairwise_cons.2 ⟨fun other member => ?_, ascending⟩
        rcases List.mem_cons.1 member with rfl | later
        · exact small
        · exact UInt16.le_trans small (least other later)
      · next large =>
        refine List.pairwise_cons.2 ⟨fun other member => ?_, ih restAscending⟩
        rcases List.mem_cons.1 ((insertByIndex_perm entry rest).mem_iff.1 member) with rfl | later
        · exact UInt16.le_of_lt (UInt16.not_le.1 large)
        · exact least other later

theorem sortByIndex_pairwise (entries : List Entry) :
    (sortByIndex entries).Pairwise (·.index ≤ ·.index) := by
  induction entries with
  | nil => exact .nil
  | cons entry rest ih => exact insertByIndex_pairwise entry ih

/-- The entries that take part are some of the objects, in another order. -/
theorem enabled_perm (dictionary : Dictionary) :
    dictionary.enabled.Perm (dictionary.objects.filter fun entry => !entry.disabled) :=
  sortByIndex_perm _

/-! ## One order -/

/-- Entries in ascending order without a repeated index are in strictly ascending order. -/
theorem pairwise_lt_of_nodup {entries : List Entry}
    (ascending : entries.Pairwise (·.index ≤ ·.index)) (distinct : (entries.map (·.index)).Nodup) :
    entries.Pairwise (·.index < ·.index) := by
  have different : entries.Pairwise (·.index ≠ ·.index) := List.pairwise_map.1 distinct
  exact (ascending.and different).imp fun ⟨small, other⟩ => UInt16.lt_of_le_of_ne small other

theorem Accepted.enabled_indices_nodup {dictionary : Dictionary} (accepted : dictionary.Accepted) :
    (dictionary.enabled.map (·.index)).Nodup := by
  have kept : (dictionary.objects.filter fun entry => !entry.disabled).Sublist
      dictionary.objects := List.filter_sublist
  have chosen := (kept.map (·.index)).nodup accepted.indices_nodup
  exact (dictionary.enabled_perm.map (·.index)).nodup_iff.2 chosen

theorem Accepted.enabled_ascending {dictionary : Dictionary} (accepted : dictionary.Accepted) :
    dictionary.enabled.Pairwise (·.index < ·.index) :=
  pairwise_lt_of_nodup (sortByIndex_pairwise _) accepted.enabled_indices_nodup

/-- Strictly ascending entries are determined by which entries they are. -/
theorem eq_of_perm_of_ascending {first second : List Entry}
    (firstAscending : first.Pairwise (·.index < ·.index))
    (secondAscending : second.Pairwise (·.index < ·.index)) (same : first.Perm second) :
    first = second := by
  refine List.Perm.eq_of_pairwise ?_ firstAscending secondAscending same
  intro a b _ _ below above
  exact absurd (UInt16.lt_trans below above) (UInt16.lt_irrefl _)

/-- Dictionaries with the same objects that are not disabled have the same order of entries. -/
theorem enabled_eq_of_perm {first second : Dictionary} (accepted : first.Accepted)
    (same : (first.objects.filter fun entry => !entry.disabled).Perm
      (second.objects.filter fun entry => !entry.disabled)) :
    first.enabled = second.enabled := by
  have together : first.enabled.Perm second.enabled :=
    first.enabled_perm.trans (same.trans second.enabled_perm.symm)
  have distinct : (second.enabled.map (·.index)).Nodup :=
    (together.map (·.index)).nodup accepted.enabled_indices_nodup
  have ascending := pairwise_lt_of_nodup (sortByIndex_pairwise _) distinct
  exact eq_of_perm_of_ascending accepted.enabled_ascending ascending together

/-! ## Cutting at an index -/

/-- The dictionary with those objects only whose index is below the threshold. -/
def below (threshold : Int) (dictionary : Dictionary) : Dictionary :=
  { dictionary with
    objects := dictionary.objects.filter fun entry => (entry.index.toNat : Int) < threshold }

/-- The dictionary with those objects only whose index is not below the threshold. -/
def notBelow (threshold : Int) (dictionary : Dictionary) : Dictionary :=
  { dictionary with
    objects := dictionary.objects.filter fun entry => threshold ≤ (entry.index.toNat : Int) }

theorem insertByIndex_append_of_le (entry : Entry) (earlier later : List Entry)
    (small : ∀ other ∈ later, entry.index ≤ other.index) :
    insertByIndex entry (earlier ++ later) = insertByIndex entry earlier ++ later := by
  induction earlier with
  | nil =>
      cases later with
      | nil => rfl
      | cons first rest => exact if_pos (small first List.mem_cons_self)
  | cons first rest ih =>
      simp only [List.cons_append, insertByIndex, ih]
      split <;> rfl

theorem insertByIndex_append_of_lt (entry : Entry) (earlier later : List Entry)
    (large : ∀ other ∈ earlier, other.index < entry.index) :
    insertByIndex entry (earlier ++ later) = earlier ++ insertByIndex entry later := by
  induction earlier with
  | nil => rfl
  | cons first rest ih =>
      have stop : ¬ entry.index ≤ first.index := UInt16.not_le.2 (large first List.mem_cons_self)
      have rest := ih fun other member => large other (List.mem_cons_of_mem _ member)
      rw [List.cons_append, insertByIndex, if_neg stop, rest, List.cons_append]

/-- Sorting the entries on both sides of a threshold sorts all of them. -/
theorem sortByIndex_cut (threshold : Int) (entries : List Entry) :
    sortByIndex entries =
      sortByIndex (entries.filter fun entry => (entry.index.toNat : Int) < threshold) ++
        sortByIndex (entries.filter fun entry => threshold ≤ (entry.index.toNat : Int)) := by
  induction entries with
  | nil => rfl
  | cons entry rest ih =>
      rw [sortByIndex, ih]
      by_cases low : (entry.index.toNat : Int) < threshold
      · have notHigh : ¬ threshold ≤ (entry.index.toNat : Int) := by omega
        rw [List.filter_cons_of_pos (by simpa using low),
          List.filter_cons_of_neg (by simpa using notHigh), sortByIndex]
        apply insertByIndex_append_of_le
        intro other member
        have high := (List.mem_filter.1 ((sortByIndex_perm _).mem_iff.1 member)).2
        simp only [decide_eq_true_eq] at high
        exact UInt16.le_iff_toNat_le.2 (by omega)
      · have high : threshold ≤ (entry.index.toNat : Int) := by omega
        rw [List.filter_cons_of_neg (by simpa using low),
          List.filter_cons_of_pos (by simpa using high), sortByIndex]
        apply insertByIndex_append_of_lt
        intro other member
        have small := (List.mem_filter.1 ((sortByIndex_perm _).mem_iff.1 member)).2
        simp only [decide_eq_true_eq] at small
        exact UInt16.lt_iff_toNat_lt.2 (by omega)

/-- The entries that take part are those below a threshold and then the others. -/
theorem enabled_cut (dictionary : Dictionary) (threshold : Int) :
    dictionary.enabled =
      (dictionary.below threshold).enabled ++ (dictionary.notBelow threshold).enabled := by
  rw [enabled, sortByIndex_cut threshold, enabled, enabled, below, notBelow]
  simp only [List.filter_filter, Bool.and_comm]

end Canopen.Dictionary

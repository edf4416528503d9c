import Mathlib.Data.List.Basic
import Canopen.Image.Basic

/-!
# Counters

Counters are kept in ascending order of their labels.  After any labels have been counted, each of
them stands there once, with the number of times that it was counted.
-/

namespace Canopen.Image

/-- The counters after more labels. -/
def countAll (labels : List Script) (counters : List (Script × Nat)) : List (Script × Nat) :=
  labels.foldl (fun counters label => increment label counters) counters

/-- The counters that stand for labels which have been counted. -/
structure Tally (labels : List Script) (counters : List (Script × Nat)) : Prop where
  ascending : counters.Pairwise (·.1 < ·.1)
  mem_iff : ∀ label count, (label, count) ∈ counters ↔ 0 < count ∧ count = labels.count label

theorem mem_increment_of_ne {other label : Script} (different : other ≠ label) (count : Nat)
    (counters : List (Script × Nat)) :
    (other, count) ∈ increment label counters ↔ (other, count) ∈ counters := by
  fun_induction increment label counters with
  | case1 => simp [different]
  | case2 total rest => simp [different]
  | case3 first total rest _ _ => simp [different]
  | case4 first total rest _ _ ih => simp [ih]

theorem mem_increment_self {label : Script} {counters : List (Script × Nat)}
    (ascending : counters.Pairwise (·.1 < ·.1)) (count : Nat) :
    (label, count) ∈ increment label counters ↔
      (∃ before, (label, before) ∈ counters ∧ count = before + 1) ∨
        ((∀ before, (label, before) ∉ counters) ∧ count = 1) := by
  fun_induction increment label counters with
  | case1 => simp
  | case2 total rest =>
      have once : ∀ before, (label, before) ∉ rest := fun before member =>
        absurd ((List.pairwise_cons.1 ascending).1 _ member) (Script.lt_irrefl label)
      constructor
      · intro member
        rcases List.mem_cons.1 member with same | later
        · exact .inl ⟨total, List.mem_cons_self, congrArg Prod.snd same⟩
        · exact absurd later (once count)
      · rintro (⟨before, member, rfl⟩ | ⟨absent, _⟩)
        · rcases List.mem_cons.1 member with same | later
          · cases same
            exact List.mem_cons_self
          · exact absurd later (once before)
        · exact absurd List.mem_cons_self (absent total)
  | case3 first total rest different small =>
      have absent : ∀ before, (label, before) ∉ (first, total) :: rest := by
        intro before member
        rcases List.mem_cons.1 member with same | later
        · exact different (congrArg Prod.fst same)
        · have large := (List.pairwise_cons.1 ascending).1 _ later
          exact Script.lt_irrefl label (Script.lt_trans small large)
      constructor
      · intro member
        rcases List.mem_cons.1 member with same | later
        · exact .inr ⟨absent, congrArg Prod.snd same⟩
        · exact absurd later (absent count)
      · rintro (⟨before, member, _⟩ | ⟨_, rfl⟩)
        · exact absurd member (absent before)
        · exact List.mem_cons_self
  | case4 first total rest different _ ih =>
      have other : ∀ before, (label, before) ≠ (first, total) := fun before same =>
        different (congrArg Prod.fst same)
      simp only [List.mem_cons, other, false_or]
      exact ih ascending.of_cons

theorem increment_ascending {counters : List (Script × Nat)}
    (ascending : counters.Pairwise (·.1 < ·.1)) (label : Script) :
    (increment label counters).Pairwise (·.1 < ·.1) := by
  fun_induction increment label counters with
  | case1 => exact List.pairwise_singleton _ _
  | case2 total rest =>
      obtain ⟨least, later⟩ := List.pairwise_cons.1 ascending
      exact List.pairwise_cons.2 ⟨least, later⟩
  | case3 first total rest _ small =>
      refine List.pairwise_cons.2 ⟨fun counter member => ?_, ascending⟩
      rcases List.mem_cons.1 member with rfl | later
      · exact small
      · exact Script.lt_trans small ((List.pairwise_cons.1 ascending).1 counter later)
  | case4 first total rest different large ih =>
      obtain ⟨least, later⟩ := List.pairwise_cons.1 ascending
      refine List.pairwise_cons.2 ⟨fun counter member => ?_, ih later⟩
      by_cases same : counter.1 = label
      · rw [same]
        exact Script.lt_of_not_lt different large
      · exact least counter ((mem_increment_of_ne same counter.2 rest).1 member)

theorem Tally.nil : Tally [] [] where
  ascending := .nil
  mem_iff label count := by
    rw [List.count_nil]
    constructor
    · intro member
      cases member
    · rintro ⟨positive, rfl⟩
      exact absurd positive (Nat.lt_irrefl 0)

theorem Tally.increment {labels : List Script} {counters : List (Script × Nat)}
    (tally : Tally labels counters) (label : Script) :
    Tally (labels ++ [label]) (increment label counters) where
  ascending := increment_ascending tally.ascending label
  mem_iff other count := by
    rw [List.count_append, List.count_singleton]
    by_cases same : label = other
    · subst same
      rw [mem_increment_self tally.ascending, if_pos (beq_self_eq_true label)]
      simp only [tally.mem_iff]
      constructor
      · rintro (⟨before, ⟨_, rfl⟩, rfl⟩ | ⟨absent, rfl⟩)
        · exact ⟨Nat.succ_pos _, rfl⟩
        · have none : labels.count label = 0 := by
            by_contra some
            exact absent _ ⟨Nat.pos_of_ne_zero some, rfl⟩
          rw [none]
          exact ⟨Nat.one_pos, rfl⟩
      · rintro ⟨_, rfl⟩
        by_cases none : labels.count label = 0
        · refine .inr ⟨fun before known => ?_, by rw [none]⟩
          omega
        · exact .inl ⟨labels.count label, ⟨Nat.pos_of_ne_zero none, rfl⟩, rfl⟩
    · rw [mem_increment_of_ne (Ne.symm same), tally.mem_iff, if_neg (by simpa using same),
        Nat.add_zero]

/-- Counting labels one after another gives the tally of all of them. -/
theorem tally_countAll (labels : List Script) : Tally labels (countAll labels []) := by
  have grows : ∀ (earlier more : List Script) (counters : List (Script × Nat)),
      Tally earlier counters → Tally (earlier ++ more) (countAll more counters) := by
    intro earlier more
    induction more generalizing earlier with
    | nil =>
        intro counters tally
        rwa [List.append_nil]
    | cons label later ih =>
        intro counters tally
        have next := ih (earlier ++ [label]) _ (tally.increment label)
        rwa [List.append_assoc] at next
  exact grows [] labels [] .nil

/-- How often a label has been counted. -/
def countOf (image : Image) (label : Script) : Nat :=
  (image.counters.lookup label).getD 0

theorem Tally.countOf_eq {image : Image} {labels : List Script}
    (tally : Tally labels image.counters) (label : Script) :
    image.countOf label = labels.count label := by
  unfold countOf
  cases found : image.counters.lookup label with
  | none =>
      have absent := List.lookup_eq_none_iff.1 found
      by_contra different
      have positive : 0 < labels.count label := by
        rw [Option.getD_none] at different
        omega
      have member := (tally.mem_iff label _).2 ⟨positive, rfl⟩
      exact absurd (absent _ member) (by simp)
  | some count =>
      obtain ⟨earlier, later, split, _⟩ := List.lookup_eq_some_iff.1 found
      have member : (label, count) ∈ image.counters := by
        rw [split]
        exact List.mem_append_right _ List.mem_cons_self
      exact ((tally.mem_iff label count).1 member).2

end Canopen.Image

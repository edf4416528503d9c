import Mathlib.Data.List.DropRight
import Canopen.Text.Blank

/-!
# Trimmed texts

A trimmed text neither begins nor ends with a character of the dropped kind.  Trimming changes no
trimmed text, so that trimming twice is trimming once.
-/

namespace Canopen.Text

variable {kind : Char → Bool} {text : List Char}

/-- No character of the kind stands at an end of the text. -/
structure Trimmed (kind : Char → Bool) (text : List Char) : Prop where
  first : ∀ c, text.head? = some c → kind c = false
  last : ∀ c, text.getLast? = some c → kind c = false

theorem trimBy_eq (kind : Char → Bool) (text : List Char) :
    trimBy kind text = (text.dropWhile kind).rdropWhile kind :=
  rfl

/-- What is trimmed off a text stands at its ends. -/
theorem exists_trimBy (kind : Char → Bool) (text : List Char) :
    ∃ front behind, text = front ++ (trimBy kind text ++ behind) ∧
      (∀ c ∈ front, kind c = true) ∧ ∀ c ∈ behind, kind c = true := by
  have ending := List.takeWhile_append_dropWhile (p := kind) (l := (text.dropWhile kind).reverse)
  have inner : trimBy kind text ++ ((text.dropWhile kind).reverse.takeWhile kind).reverse =
      text.dropWhile kind := by
    rw [trimBy, ← List.reverse_append, ending, List.reverse_reverse]
  refine ⟨text.takeWhile kind, ((text.dropWhile kind).reverse.takeWhile kind).reverse,
    ?_, ?_, ?_⟩
  · rw [inner, List.takeWhile_append_dropWhile]
  · exact fun c inside => List.mem_takeWhile_imp inside
  · exact fun c inside => List.mem_takeWhile_imp (List.mem_reverse.1 inside)

theorem head?_dropWhile {c : Char} (first : (text.dropWhile kind).head? = some c) :
    kind c = false := by
  have stopped := List.head?_dropWhile_not kind text
  rw [first] at stopped
  exact stopped

/-- Nothing is dropped from a trimmed text. -/
theorem Trimmed.trimBy_eq_self (trimmed : Trimmed kind text) : trimBy kind text = text := by
  have front : text.dropWhile kind = text := by
    cases text with
    | nil => rfl
    | cons c rest => exact List.dropWhile_cons_of_neg (by simp [trimmed.first c rfl])
  rw [trimBy_eq, front, List.rdropWhile_eq_self_iff]
  intro some
  simp [trimmed.last _ (List.getLast?_eq_getLast_of_ne_nil some)]

theorem trimmed_trimBy (kind : Char → Bool) (text : List Char) :
    Trimmed kind (trimBy kind text) where
  first c first := by
    -- the front stays where it is when the end is dropped
    obtain ⟨rest, front⟩ := List.rdropWhile_prefix kind (text.dropWhile kind)
    have kept : (text.dropWhile kind).head? = some c := by
      rw [← front, ← trimBy_eq, List.head?_append, first]
      rfl
    exact head?_dropWhile kept
  last c last := by
    rw [trimBy, List.getLast?_reverse] at last
    exact head?_dropWhile last

theorem trim_trim (text : String) : trim (trim text) = trim text := by
  rw [trim, trim, String.toList_ofList, trimChars, trimChars,
    (trimmed_trimBy isBlank text.toList).trimBy_eq_self]

/-- Nothing is left of a text exactly when it holds nothing else than what is dropped. -/
theorem trimBy_eq_nil_iff : trimBy kind text = [] ↔ ∀ c ∈ text, kind c = true := by
  rw [trimBy_eq, List.rdropWhile_eq_nil_iff]
  constructor
  · intro inside
    cases kept : text.dropWhile kind with
    | nil => exact List.dropWhile_eq_nil_iff.1 kept
    | cons c rest =>
        have solid : kind c = false := head?_dropWhile (by rw [kept]; rfl)
        rw [inside c (by rw [kept]; exact List.mem_cons_self)] at solid
        cases solid
  · intro all c member
    rw [List.dropWhile_eq_nil_iff.2 all] at member
    cases member

/-- Nothing is trimmed off a text without what is dropped. -/
theorem trimBy_eq_self_of_solid (solid : ∀ c ∈ text, kind c = false) : trimBy kind text = text := by
  have trimmed : Trimmed kind text :=
    ⟨fun c first => solid c (List.mem_of_head? first),
      fun c last => solid c (List.mem_of_getLast? last)⟩
  exact trimmed.trimBy_eq_self

/-- What is dropped in front of a text is dropped with more of its kind in front of it. -/
theorem dropWhile_append_left {front : List Char} (before : ∀ c ∈ front, kind c = true)
    (text : List Char) : (front ++ text).dropWhile kind = text.dropWhile kind := by
  rw [List.dropWhile_append, List.dropWhile_eq_nil_iff.2 before]
  rfl

/-- A text is trimmed alike with more of what is trimmed around it. -/
theorem trimBy_around {front behind : List Char} (before : ∀ c ∈ front, kind c = true)
    (after : ∀ c ∈ behind, kind c = true) (text : List Char) :
    trimBy kind (front ++ (text ++ behind)) = trimBy kind text := by
  rw [trimBy, trimBy, dropWhile_append_left before]
  by_cases white : ∀ c ∈ text, kind c = true
  · rw [dropWhile_append_left white, List.dropWhile_eq_nil_iff.2 after,
      List.dropWhile_eq_nil_iff.2 white]
  · have solid : text.dropWhile kind ≠ [] := fun empty => white (List.dropWhile_eq_nil_iff.1 empty)
    have kept : (text ++ behind).dropWhile kind = text.dropWhile kind ++ behind := by
      rw [List.dropWhile_append, if_neg (by simpa using solid)]
    rw [kept, List.reverse_append,
      dropWhile_append_left fun c inside => after c (List.mem_reverse.1 inside)]

end Canopen.Text

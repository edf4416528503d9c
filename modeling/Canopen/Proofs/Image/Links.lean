import Canopen.Image.Basic
import Canopen.Proofs.Identifier

/-!
# Links between the pieces of an image

Rows, descriptors, extensions and groups are kept in lists of their own and name each other.  In a
linked image every such name leads somewhere.
-/

namespace Canopen

open CName (IsWord)

/-- The addresses in a descriptor. -/
def Descriptor.references : Descriptor → List Reference
  | var _ data _ _ => data.toList
  | array _ count data _ _ _ _ => count.toList ++ data.toList
  | record _ parts => parts.filterMap (·.data)

/-- The member that a row refers to. -/
def Row.member (row : Row) : String :=
  (if row.extended then "oE_" else "o_") ++ row.name

theorem extended_ne_plain (first second : String) : "oE_" ++ first ≠ "o_" ++ second := by
  intro same
  have chars := congrArg (fun text => text.toList[1]?) same
  simp [String.toList_append] at chars

theorem Row.name_eq_of_member_eq {first second : Row} (same : first.member = second.member) :
    first.name = second.name := by
  unfold member at same
  split at same
  · split at same
    · exact (String.append_right_inj _).1 same
    · exact absurd same (extended_ne_plain _ _)
  · split at same
    · exact absurd same.symm (extended_ne_plain _ _)
    · exact (String.append_right_inj _).1 same

theorem Row.member_eq_extended_iff (row : Row) :
    (∃ rest, row.member = "oE_" ++ rest) ↔ row.extended = true := by
  unfold member
  cases row.extended with
  | false =>
      constructor
      · rintro ⟨rest, same⟩
        exact absurd same.symm (extended_ne_plain _ _)
      · exact fun none => nomatch none
  | true => exact ⟨fun _ => rfl, fun _ => ⟨row.name, rfl⟩⟩

theorem Row.typeTag_mem_extended_iff (row : Row) :
    row.typeTag ∈ ["ODT_EVAR", "ODT_EARR", "ODT_EREC"] ↔ row.extended = true := by
  unfold typeTag
  cases row.extended <;> cases row.shape <;> decide

namespace Image

/-- The names in an image lead somewhere. -/
structure Linked (image : Image) : Prop where
  names : image.objects.map (·.name) = image.rows.map (·.name)
  distinct : (image.rows.map (·.name)).Nodup
  words : ∀ row ∈ image.rows, IsWord row.name
  extended : ∀ row ∈ image.rows, row.extended = (image.extension? row.name).isSome
  stored :
    ∀ descriptor ∈ image.objects, ∀ reference ∈ descriptor.references,
      IsWord reference.group ∧ ∃ group ∈ image.usedGroups, group.name = reference.group

namespace Linked

variable {image : Image} (linked : image.Linked)

include linked

theorem exists_row {descriptor : Descriptor} (inside : descriptor ∈ image.objects) :
    ∃ row ∈ image.rows, row.name = descriptor.name := by
  have named := List.mem_map_of_mem (f := Descriptor.name) inside
  rw [linked.names] at named
  exact List.mem_map.1 named

theorem exists_object {row : Row} (inside : row ∈ image.rows) :
    ∃ descriptor ∈ image.objects, descriptor.name = row.name := by
  have named := List.mem_map_of_mem (f := Row.name) inside
  rw [← linked.names] at named
  exact List.mem_map.1 named

theorem isWord_object {descriptor : Descriptor} (inside : descriptor ∈ image.objects) :
    IsWord descriptor.name := by
  obtain ⟨row, listed, same⟩ := linked.exists_row inside
  exact same ▸ linked.words row listed

/-- No two rows refer to one member. -/
theorem nodup_members : (image.rows.map Row.member).Nodup := by
  have once := linked.distinct
  refine List.Nodup.map_on ?_ (List.Nodup.of_map _ once)
  intro first inside second other same
  exact List.inj_on_of_nodup_map once inside other (Row.name_eq_of_member_eq same)

end Linked

end Image

end Canopen

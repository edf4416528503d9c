import Canopen.Schema.Reader

/-!
# Accepted dictionaries

A dictionary is accepted when the schema reads it from some document value.  The last check of the
schema is the one that later stages rely on: no index is given twice.
-/

namespace Canopen

namespace Dictionary

/-- Some document value describes the dictionary. -/
def Accepted (dictionary : Dictionary) : Prop :=
  ∃ value, Schema.read value = .sound dictionary

theorem repeatedIndex?_eq_none_iff (seen : List UInt16) (entries : List Entry) :
    repeatedIndex? seen entries = none ↔
      (entries.map (·.index)).Nodup ∧ ∀ entry ∈ entries, entry.index ∉ seen := by
  induction entries generalizing seen with
  | nil => simp [repeatedIndex?]
  | cons entry rest ih =>
      unfold repeatedIndex?
      split
      · next known =>
        simp only [reduceCtorEq, false_iff, not_and]
        intro _ fresh
        exact fresh entry List.mem_cons_self known
      · next unknown =>
        rw [ih, List.map_cons, List.nodup_cons]
        constructor
        · rintro ⟨distinct, fresh⟩
          refine ⟨⟨?_, distinct⟩, ?_⟩
          · intro again
            obtain ⟨other, member, same⟩ := List.mem_map.1 again
            exact fresh other member (same ▸ List.mem_cons_self)
          · intro other member
            rcases List.mem_cons.1 member with rfl | later
            · exact unknown
            · exact fun known => fresh other later (List.mem_cons_of_mem _ known)
        · rintro ⟨⟨once, distinct⟩, fresh⟩
          refine ⟨distinct, fun other member known => ?_⟩
          rcases List.mem_cons.1 known with same | known
          · exact once (List.mem_map.2 ⟨other, member, same⟩)
          · exact fresh other (List.mem_cons_of_mem _ member) known

end Dictionary

namespace Schema

open Dictionary

theorem checkIndices_eq_sound {dictionary result : Dictionary}
    (done : checkIndices dictionary = .sound result) :
    result = dictionary ∧ repeatedIndex? [] dictionary.objects = none := by
  unfold checkIndices at done
  split at done
  · cases done
  · next none =>
    cases done
    exact ⟨rfl, none⟩

end Schema

/-- No two objects of an accepted dictionary have one index. -/
theorem Dictionary.Accepted.indices_nodup {dictionary : Dictionary}
    (accepted : dictionary.Accepted) : (dictionary.objects.map (·.index)).Nodup := by
  obtain ⟨value, read⟩ := accepted
  unfold Schema.read at read
  split at read
  · obtain ⟨middle, _, checked⟩ := Schema.Checked.andThen_eq_sound read
    obtain ⟨rfl, none⟩ := Schema.checkIndices_eq_sound checked
    exact ((Dictionary.repeatedIndex?_eq_none_iff [] dictionary.objects).1 none).1
  · cases read

/-! ## A small device -/

namespace Example

/-- A mapping with text keys. -/
def mapping (fields : List (String × Value)) : Value :=
  .map (fields.map fun field => (.text field.1, field.2))

/-- A document with one object of each shape, out of order. -/
def document : Value :=
  mapping [("objects", .list [
    mapping [("index", .int 0x1018), ("name", .text "Identity"), ("object_type", .int 9),
      ("sub_entries", .list [
        mapping [("subindex", .int 0), ("name", .text "max sub"), ("data_type", .int 5),
          ("default", .int 1)],
        mapping [("subindex", .int 1), ("name", .text "Vendor ID"), ("data_type", .int 7),
          ("default", .int 9)]])],
    mapping [("index", .int 0x1000), ("name", .text "Device type"), ("data_type", .int 7),
      ("default", .text "0x12")],
    mapping [("index", .int 0x1003), ("name", .text "Errors"), ("object_type", .int 8),
      ("data_type", .int 7), ("sub_entries", .list [
        mapping [("subindex", .int 0), ("data_type", .int 5), ("default", .int 0)],
        mapping [("subindex", .int 1), ("default", .int 0)]])]])]

def identity : Entry where
  index := 0x1018
  name := "Identity"
  content := .record [
    { subindex := 0, name := "max sub"
      datum := { dataType := some (.known .unsigned8), default := some "1" } },
    { subindex := 1, name := "Vendor ID"
      datum := { dataType := some (.known .unsigned32), default := some "9" } }]

def deviceType : Entry where
  index := 0x1000
  name := "Device type"
  content := .var { dataType := some (.known .unsigned32), default := some "0x12" }

def errors : Entry where
  index := 0x1003
  name := "Errors"
  content := .array (some (.known .unsigned32)) [
    { subindex := 0, datum := { dataType := some (.known .unsigned8), default := some "0" } },
    { subindex := 1, datum := { default := some "0" } }]

/-- The device that the document describes. -/
def device : Dictionary where
  objects := [identity, deviceType, errors]

theorem device_accepted : device.Accepted :=
  ⟨document, by decide +kernel⟩

end Example

end Canopen

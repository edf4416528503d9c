import Canopen.Proofs.Compile.Listing
import Canopen.Proofs.Encoding.Width

/-!
# Widths in descriptors

The descriptor of a single value, and that of each part of a record, gives the width of the value as
its type has it.  A default that is missing or cannot be converted leaves the descriptor as wide as a
good one does.
-/

namespace Canopen

/-- The types of the values that have flags and a length of their own. -/
def Content.valueTypes : Content → List (Option TypeName)
  | var datum => [datum.dataType]
  | array _ _ => []
  | record subEntries => subEntries.map (·.datum.dataType)

namespace Descriptor

/-- The flags and the length of every value that has its own. -/
def values : Descriptor → List (List Attribute × Nat)
  | var _ _ flags length => [(flags, length)]
  | array _ _ _ _ _ _ _ => []
  | record _ parts => parts.map fun part => (part.attributes, part.length)

/-- Flags and length are those of a value of the type. -/
structure SaysWidth (value : List Attribute × Nat) (type : Option TypeName) : Prop where
  wide : .multibyte ∈ value.1 ↔ TypeName.IsWide type
  length : ¬ TypeName.IsText type → TypeName.bytes? type = some value.2

/-- The descriptor gives the widths of the types of the entry. -/
def SaysWidths (descriptor : Descriptor) (entry : Entry) : Prop :=
  List.Forall₂ SaysWidth descriptor.values entry.content.valueTypes

end Descriptor

theorem Encoding.HasWidth.saysWidth {encoding : Encoding} {type : Option TypeName}
    (width : encoding.HasWidth type) (access : Option Access) (mapping : Option Mapping) :
    Descriptor.SaysWidth (attributes access mapping encoding.multibyte, encoding.length) type :=
  ⟨(multibyte_mem_attributes access mapping _).trans width.wide, width.length⟩

namespace Compile

variable {lengths : StringLengths} {entry : Entry}

/-- A part of a record is as wide as its own type. -/
theorem saysWidth_of_mem {subEntries : List SubEntry} {part : EncodedPart}
    (among : part ∈ recordParts lengths entry subEntries) :
    Descriptor.SaysWidth (part.attributes, part.encoding.length) part.sub.datum.dataType := by
  obtain ⟨position, bound, rfl⟩ := List.mem_mapIdx.1 among
  exact (Encoding.hasWidth_ofDefault _ _ _).saysWidth _ _

/-- Whatever is compiled of an entry gives the widths of its types. -/
theorem Compiled.saysWidths {object : CompiledObject} (compiled : Compiled lengths entry object) :
    object.descriptor.SaysWidths entry := by
  unfold Descriptor.SaysWidths
  cases compiled with
  | @var datum shape =>
      rw [shape]
      exact .cons ((Encoding.hasWidth_ofDefault _ _ _).saysWidth _ _) .nil
  | array shape parts =>
      rw [shape]
      exact .nil
  | @record subEntries shape enough =>
      have types : subEntries.map (·.datum.dataType) =
          (recordParts lengths entry subEntries).map (·.sub.datum.dataType) := by
        conv => lhs; rw [← map_sub_recordParts lengths entry subEntries, List.map_map]
        rfl
      rw [shape, Content.valueTypes, types, recordObject, Descriptor.values, List.map_map,
        List.forall₂_map_left_iff, List.forall₂_map_right_iff, List.forall₂_same]
      exact fun part among => saysWidth_of_mem among

end Compile

namespace Dictionary

/-- The width of an encoded value depends on its type alone, unless this is a text, and all
descriptors of single values and of parts of records give this width. -/
theorem compile_widths (dictionary : Dictionary) (lengths : StringLengths) (name : Option String)
    (warnings : List String) :
    (∀ type, ¬ TypeName.IsText type → ∀ (default other : Option Script) (elements others : Int),
      (Encoding.ofDefault type default elements).1.length =
          (Encoding.ofDefault type other others).1.length ∧
        (Encoding.ofDefault type default elements).1.multibyte =
          (Encoding.ofDefault type other others).1.multibyte) ∧
      List.Forall₂ Descriptor.SaysWidths (dictionary.compile lengths name warnings).objects
        dictionary.listed := by
  constructor
  · intro type number default other elements others
    have first := Encoding.hasWidth_ofDefault type default elements
    have second := Encoding.hasWidth_ofDefault type other others
    refine ⟨Option.some.inj ((first.length number).symm.trans (second.length number)), ?_⟩
    rw [Bool.eq_iff_iff, first.wide, second.wide]
  · rw [compile_eq]
    refine (Compile.forall₂_descriptors lengths dictionary.enabled).imp ?_
    rintro _ entry ⟨object, found, rfl⟩
    exact (Compile.compiled_of_object? lengths found).saysWidths

end Dictionary

namespace Example

/-- A record of a count, a number that is written too large, and a text. -/
def gauge : Entry where
  index := 0x2000
  content := .record [
    { subindex := 0
      datum := { dataType := some (.known .unsigned8), default := some "2", access := some .const } },
    { subindex := 1, datum := { dataType := some (.known .integer16), default := some "70000" } },
    { subindex := 2, datum := { dataType := some (.known .visibleString), default := some "bar" } }]

end Example

namespace Dictionary

/-- A number that is too large is as wide as one that is missing, and its part says so. -/
theorem compile_widths_gauge :
    (Encoding.ofDefault (some (.known .integer16)) (some "70000") 0).1.length =
        (Encoding.ofDefault (some (.known .integer16)) none 8).1.length ∧
      (Compile.content (fixedLength 0) Example.gauge).1 = [.conversion "70000" "INTEGER16"] ∧
      (compile { objects := [Example.gauge] } (fixedLength 0)).objects.map (·.values) =
        [[([.sdoRead], 1), ([.multibyte], 2), ([], 3)]] ∧
      List.Forall₂ Descriptor.SaysWidths
        (compile { objects := [Example.gauge] } (fixedLength 0)).objects [Example.gauge] := by
  have number : ¬ TypeName.IsText (some (.known .integer16)) := by
    rintro ⟨known, text, same⟩
    cases same
    exact absurd text (by decide)
  have widths := compile_widths { objects := [Example.gauge] } (fixedLength 0) none []
  exact ⟨(widths.1 _ number (some "70000") none 0 8).1, by decide, by decide, widths.2⟩

end Dictionary

end Canopen

import Canopen.Proofs.Compile.Listing
import Canopen.Proofs.Compile.Members
import Canopen.Proofs.Encoding.Length
import Canopen.Proofs.Storage.Layout

/-!
# Addresses of stored values

A descriptor points into the storage of its object and gives a length.  Declaration, address and
length are written separately for each shape; here every address is followed to the one member that
it names, and the member has as many bytes as the descriptor says.
-/

namespace Canopen

/-- Every address of a descriptor leads to a member of the storage location, or of the structure
there that is named for the row, and the lengths are those of the members.  The first value of an
array is a single byte, and the others are stored one after another. -/
def Image.Stores (image : Image) (location : String) (row : Row) : Descriptor → Prop
  | .var _ data _ length =>
      ∀ reference, data = some reference → image.Addresses location reference length
  | .array _ count data _ _ length elementType =>
      (∀ reference, count = some reference → image.Addresses location reference 1) ∧
      (∀ reference, data = some reference →
        image.Addresses location reference ((row.subCount - 1) * length)) ∧
      ∀ type, elementType = some type → Layout.size? type.toList = some length
  | .record _ parts =>
      ∀ part ∈ parts, ∀ reference, part.data = some reference →
        (∃ member, reference.path = ["x" ++ row.name, member]) ∧
          image.Addresses location reference part.length

/-- The names of the parts of a record make different identifiers. -/
def Entry.PartsDiffer (entry : Entry) : Prop :=
  ∀ subEntries, entry.content = .record subEntries →
    (subEntries.map fun sub => CName.identifier sub.name.shown).Nodup

theorem CName.plain_of_isWordChar {c : Char} (word : isWordChar c = true) : c ≠ '[' ∧ c ≠ '.' := by
  constructor
  · rintro rfl
    exact absurd word (by decide)
  · rintro rfl
    exact absurd word (by decide)

namespace Compile

/-! ## Storage of an encoded value -/

theorem toList_arraySuffix (encoding : Encoding) :
    encoding.arraySuffix.toList = Layout.declared encoding.elements.toList := by
  unfold Encoding.arraySuffix
  cases encoding.elements with
  | none => rfl
  | some count =>
      simp [Layout.declared, Number.decimal, String.toList_append]

theorem toList_firstSuffix (encoding : Encoding) :
    encoding.firstSuffix.toList = Layout.firsts encoding.elements.toList.length := by
  unfold Encoding.firstSuffix
  cases encoding.elements <;> simp [Layout.firsts]

theorem head_firstSuffix (encoding : Encoding) :
    Layout.head encoding.firstSuffix.toList = [] := by
  rw [toList_firstSuffix, Layout.head_firsts]

theorem prod_elements (encoding : Encoding) :
    encoding.elements.toList.prod = encoding.elements.getD 1 := by
  cases encoding.elements <;> simp

/-- A stored value has a type, and its length is the size of the member that holds it. -/
theorem storageField_fits {encoding : Encoding} (consistent : encoding.Consistent)
    {value : Initializer} (stored : encoding.initializer = some value) (name : String) :
    (storageField name encoding value).Fits encoding.firstSuffix.toList encoding.length := by
  obtain ⟨type, typed⟩ := Option.isSome_iff_exists.1 (consistent.typed (by rw [stored]; rfl))
  have cType : (storageField name encoding value).cType = type.name := by
    rw [storageField, typed]
    rfl
  have fits := StorageField.fits_of_declared type _ rfl cType (toList_arraySuffix encoding)
  rw [prod_elements, Nat.mul_comm, ← consistent.length type typed, ← toList_firstSuffix] at fits
  exact fits

variable (lengths : StringLengths)

theorem consistent_encodePart (entry : Entry) (position : Nat) (type : Option TypeName)
    (sub : SubEntry) : (encodePart lengths entry position type sub).encoding.Consistent :=
  Encoding.ofDefault_consistent _ _ _

theorem toList_elementsArray (count : Nat) (encoding : Encoding) :
    ("[" ++ Number.decimal count ++ "]" ++ encoding.arraySuffix).toList =
      Layout.declared (count :: encoding.elements.toList) := by
  simp [Layout.declared, Number.decimal, String.toList_append, toList_arraySuffix]

/-- The size of the type of an element is its length. -/
theorem size?_elementType {encoding : Encoding} (consistent : encoding.Consistent) {text : String}
    (named : (encoding.cType.map fun type => type.name ++ encoding.arraySuffix) = some text) :
    Layout.size? text.toList = some encoding.length := by
  obtain ⟨type, typed, rfl⟩ := Option.map_eq_some_iff.1 named
  rw [String.toList_append, toList_arraySuffix, Layout.size?_declared, prod_elements, Nat.mul_comm,
    consistent.length type typed]

/-! ## Members of the three shapes -/

theorem append_sub0_ne (name : String) : name ++ "_sub0" ≠ name := by
  intro same
  have long := congrArg String.length same
  have five : "_sub0".length = 5 := by decide
  rw [String.length_append, five] at long
  omega

theorem filter_arrayFields_count (name : String) {count : EncodedPart} (element : EncodedPart)
    (elements : List EncodedPart) {value : Initializer}
    (stored : count.encoding.initializer = some value) :
    (arrayFields name count element elements).filter (·.name == name ++ "_sub0") =
      [{ cType := CType.uint8.name, name := name ++ "_sub0", initializer := value.text
         halved := value.isHalved }] := by
  have other := Ne.symm (append_sub0_ne name)
  unfold arrayFields
  rw [stored]
  split <;> simp [other]

theorem filter_arrayFields_elements (name : String) (count : EncodedPart) {element : EncodedPart}
    (elements : List EncodedPart) (defined : element.encoding.isDefined = true) :
    (arrayFields name count element elements).filter (·.name == name) =
      [{ cType := (element.encoding.cType.map CType.name).getD ""
         name
         array := "[" ++ Number.decimal elements.length ++ "]" ++ element.encoding.arraySuffix
         initializer := Initializer.braced (elements.map (elementText element))
         halved := elements.any (·.encoding.isHalved) }] := by
  have other := append_sub0_ne name
  unfold arrayFields
  rw [if_pos defined]
  cases count.encoding.initializer <;> simp [other]

/-- Under the name of one part the structure of a record holds the value of this part only. -/
theorem filter_recordMembers {parts : List EncodedPart}
    (distinct : (parts.map fun part => CName.identifier part.sub.name.shown).Nodup)
    {part : EncodedPart} (inside : part ∈ parts) {value : Initializer}
    (stored : part.encoding.initializer = some value) :
    (parts.filterMap recordMember?).filter (·.name == CName.identifier part.sub.name.shown) =
      [storageField (CName.identifier part.sub.name.shown) part.encoding value] := by
  induction parts with
  | nil => cases inside
  | cons first rest ih =>
      obtain ⟨once, restDistinct⟩ := List.nodup_cons.1 distinct
      have named {other : EncodedPart} {field : StorageField}
          (member : recordMember? other = some field) :
          field.name = CName.identifier other.sub.name.shown := by
        obtain ⟨_, _, rfl⟩ := Option.map_eq_some_iff.1 member
        rfl
      rcases List.mem_cons.1 inside with rfl | later
      · have own : recordMember? part =
            some (storageField (CName.identifier part.sub.name.shown) part.encoding value) := by
          rw [recordMember?, stored]
          rfl
        have none : (rest.filterMap recordMember?).filter
            (·.name == CName.identifier part.sub.name.shown) = [] := by
          refine List.filter_eq_nil_iff.2 fun field member same => ?_
          obtain ⟨other, among, made⟩ := List.mem_filterMap.1 member
          rw [named made] at same
          exact once (List.mem_map.2 ⟨other, among, eq_of_beq same⟩)
        rw [List.filterMap_cons_some own, List.filter_cons_of_pos (by simp [storageField]), none]
      · have different :
            CName.identifier first.sub.name.shown ≠ CName.identifier part.sub.name.shown :=
          fun same => once (List.mem_map.2 ⟨part, later, same.symm⟩)
        cases made : recordMember? first with
        | none => rw [List.filterMap_cons_none made, ih restDistinct later]
        | some field =>
            rw [List.filterMap_cons_some made,
              List.filter_cons_of_neg (by simpa [named made] using different),
              ih restDistinct later]

theorem recordFields_eq {entry : Entry} {parts : List EncodedPart}
    (some : parts.filterMap recordMember? ≠ []) :
    recordFields entry parts =
      [{ cType := "struct", name := entry.member, members := parts.filterMap recordMember? }] := by
  unfold recordFields
  split
  · next none => exact absurd none some
  · rfl

/-- All that a record stores stands under its name. -/
theorem filter_recordFields (entry : Entry) (parts : List EncodedPart) :
    (recordFields entry parts).filter (·.name == entry.member) = recordFields entry parts := by
  unfold recordFields
  split <;> simp

/-! ## Addresses -/

variable {entry : Entry} {reference : Reference}

theorem plain_of_mem_member {c : Char} (inside : c ∈ entry.member.toList) : c ≠ '[' ∧ c ≠ '.' :=
  CName.plain_of_isWordChar (Entry.isWordChar_of_mem_member inside)

theorem exists_of_referTo {encoding : Encoding} {suffix : String}
    (found : referTo entry encoding suffix = some reference) :
    ∃ value, encoding.initializer = some value ∧
      reference = ⟨entry.storageLocation, entry.member ++ suffix⟩ := by
  obtain ⟨value, stored, rfl⟩ := Option.map_eq_some_iff.1 found
  exact ⟨value, stored, rfl⟩

/-- The address of a part of a record names the structure first and then the part. -/
theorem reference_recordPart {part : EncodedPart}
    (found : (recordPart entry part).data = some reference) :
    reference.group = entry.storageLocation ∧
      reference.path = [entry.member, CName.identifier part.sub.name.shown] ∧
      reference.subscripts = part.encoding.firstSuffix.toList := by
  obtain ⟨value, stored, rfl⟩ := exists_of_referTo found
  have opens := head_firstSuffix part.encoding
  have plain : ∀ c ∈ entry.member.toList ++ (CName.identifier part.sub.name.shown).toList,
      c ≠ '[' ∧ c ≠ '.' := by
    intro c member
    rcases List.mem_append.1 member with named | inner
    · exact plain_of_mem_member named
    · rw [CName.identifier, String.toList_ofList] at inner
      exact CName.plain_of_isWordChar (CName.isWordChar_of_mem_identifierChars inner)
  exact ⟨rfl, Reference.path_of_part entry.storageLocation plain opens,
    Reference.subscripts_of_part entry.storageLocation plain opens⟩

variable {lengths} {name : String} {warnings : List String} {entries : List Entry} {bytes : Nat}
  (distinct : (entries.map (·.index)).Nodup) (inside : entry ∈ entries)

include distinct inside

/-- All that an image stores under a name of an object is what the object has put there. -/
theorem filter_stored {member rest : String} (named : member = entry.member ++ rest) :
    (((imageOf lengths name warnings entries).groups.filter
      (·.name == entry.storageLocation)).flatMap (·.fields)).filter (·.name == member) =
        (fields lengths entry).filter (·.name == member) := by
  have all := flatMap_filter_groupsOf lengths entry.storageLocation entries
  exact (congrArg (List.filter _) all).trans (filter_fieldsIn lengths distinct inside named)

/-- An address by one name leads to the member that the object has under this name. -/
theorem addresses_of_name (group : reference.group = entry.storageLocation) {member rest : String}
    (named : member = entry.member ++ rest) (path : reference.path = [member])
    {field : StorageField} (own : (fields lengths entry).filter (·.name == member) = [field])
    (fits : field.Fits reference.subscripts bytes) :
    (imageOf lengths name warnings entries).Addresses entry.storageLocation reference bytes where
  group := group
  target := by
    refine ⟨field, ?_, fits⟩
    rw [Image.targets, path, group]
    exact (filter_stored distinct inside named).trans own

/-- An address by two names leads into the structure that the object has. -/
theorem addresses_of_part (group : reference.group = entry.storageLocation) {part : String}
    (path : reference.path = [entry.member, part]) {holder field : StorageField}
    (own : (fields lengths entry).filter (·.name == entry.member) = [holder])
    (inner : holder.members.filter (·.name == part) = [field])
    (fits : field.Fits reference.subscripts bytes) :
    (imageOf lengths name warnings entries).Addresses entry.storageLocation reference bytes where
  group := group
  target := by
    refine ⟨field, ?_, fits⟩
    rw [Image.targets, path, group, StorageField.reach,
      filter_stored distinct inside String.append_empty.symm, own, List.flatMap_singleton]
    · exact inner
    · exact fun none => by cases none

/-- The single value of an object. -/
theorem stores_var {datum : Datum} {encoding : Encoding} (consistent : encoding.Consistent)
    (kept : fields lengths entry = (varObject entry datum encoding).fields) :
    (imageOf lengths name warnings entries).Stores entry.storageLocation entry.row
      (varObject entry datum encoding).descriptor := by
  intro reference found
  obtain ⟨value, stored, rfl⟩ := exists_of_referTo found
  have opens := head_firstSuffix encoding
  have fits := storageField_fits consistent stored entry.member
  have own : (fields lengths entry).filter (·.name == entry.member) =
      [storageField entry.member encoding value] := by
    rw [kept, varObject, stored]
    simp [storageField]
  have plain : ∀ c ∈ entry.member.toList, c ≠ '[' ∧ c ≠ '.' := fun c => plain_of_mem_member
  have path := Reference.path_of_name entry.storageLocation plain opens
  refine addresses_of_name distinct inside rfl String.append_empty.symm path own ?_
  rwa [Reference.subscripts_of_name entry.storageLocation plain opens]

/-- The number of elements of an array is a single byte. -/
theorem addresses_count {count element : EncodedPart} {rest : List EncodedPart}
    (kept : fields lengths entry = (arrayObject entry count element rest).fields)
    (found : referTo entry count.encoding "_sub0" = some reference) :
    (imageOf lengths name warnings entries).Addresses entry.storageLocation reference 1 := by
  obtain ⟨value, stored, rfl⟩ := exists_of_referTo found
  have own := filter_arrayFields_count entry.member element (element :: rest) stored
  have counted : ∀ c ∈ "_sub0".toList, CName.isWordChar c = true := List.all_eq_true.1 (by rfl)
  have plain : ∀ c ∈ (entry.member ++ "_sub0").toList, c ≠ '[' ∧ c ≠ '.' := by
    intro c member
    rw [String.toList_append] at member
    rcases List.mem_append.1 member with named | suffix
    · exact plain_of_mem_member named
    · exact CName.plain_of_isWordChar (counted c suffix)
  have closed : Layout.head "".toList = [] := rfl
  have path := Reference.path_of_name entry.storageLocation plain closed
  have subscripts := Reference.subscripts_of_name entry.storageLocation plain closed
  rw [String.append_empty] at path subscripts
  refine addresses_of_name distinct inside rfl rfl path (by rw [kept]; exact own) ?_
  rw [subscripts]
  exact StorageField.fits_of_declared .uint8 [] rfl rfl rfl

/-- The elements of an array are stored one after another. -/
theorem addresses_elements {count element : EncodedPart} {rest : List EncodedPart}
    (consistent : element.encoding.Consistent)
    (kept : fields lengths entry = (arrayObject entry count element rest).fields)
    (found : referTo entry element.encoding ("[0]" ++ element.encoding.firstSuffix) =
      some reference) :
    (imageOf lengths name warnings entries).Addresses entry.storageLocation reference
      ((rest.length + 1) * element.encoding.length) := by
  obtain ⟨value, stored, rfl⟩ := exists_of_referTo found
  have defined : element.encoding.isDefined = true := by
    rw [Encoding.isDefined, stored]
    rfl
  obtain ⟨type, typed⟩ := Option.isSome_iff_exists.1 (consistent.typed defined)
  have own := filter_arrayFields_elements entry.member count (element :: rest) defined
  have suffix : ("[0]" ++ element.encoding.firstSuffix).toList =
      Layout.firsts ((rest.length + 1) :: element.encoding.elements.toList).length := by
    rw [String.toList_append, toList_firstSuffix]
    rfl
  have opens : Layout.head ("[0]" ++ element.encoding.firstSuffix).toList = [] := by
    rw [suffix, Layout.head_firsts]
  have plain : ∀ c ∈ entry.member.toList, c ≠ '[' ∧ c ≠ '.' := fun c => plain_of_mem_member
  have path := Reference.path_of_name entry.storageLocation plain opens
  refine addresses_of_name distinct inside rfl String.append_empty.symm path
    (by rw [kept]; exact own) ?_
  rw [Reference.subscripts_of_name entry.storageLocation plain opens, suffix]
  have bytes : type.size * ((rest.length + 1) :: element.encoding.elements.toList).prod =
      (rest.length + 1) * element.encoding.length := by
    rw [List.prod_cons, prod_elements, consistent.length type typed]
    ring
  rw [← bytes]
  refine StorageField.fits_of_declared type _ rfl ?_ (toList_elementsArray _ _)
  rw [typed]
  rfl

/-- A part of a record is a member of the structure that is named for the record. -/
theorem addresses_recordPart {parts : List EncodedPart}
    (different : (parts.map fun part => CName.identifier part.sub.name.shown).Nodup)
    (kept : fields lengths entry = (recordObject entry parts).fields)
    {part : EncodedPart} (among : part ∈ parts) (consistent : part.encoding.Consistent)
    (found : (recordPart entry part).data = some reference) :
    reference.path = [entry.member, CName.identifier part.sub.name.shown] ∧
      (imageOf lengths name warnings entries).Addresses entry.storageLocation reference
        part.encoding.length := by
  obtain ⟨group, path, subscripts⟩ := reference_recordPart found
  obtain ⟨value, stored, _⟩ := exists_of_referTo found
  have inner := filter_recordMembers different among stored
  have own : (fields lengths entry).filter (·.name == entry.member) =
      [{ cType := "struct", name := entry.member, members := parts.filterMap recordMember? }] := by
    have some : parts.filterMap recordMember? ≠ [] := by
      intro none
      rw [none] at inner
      cases inner
    rw [kept, recordObject, filter_recordFields, recordFields_eq some]
  have fits := storageField_fits consistent stored (CName.identifier part.sub.name.shown)
  refine ⟨path, addresses_of_part distinct inside group path own inner ?_⟩
  rw [subscripts]
  exact fits

/-- Everything that the descriptor of an entry says about storage holds in the whole image. -/
theorem stores_of_object? (different : entry.PartsDiffer) {object : CompiledObject}
    (found : object? lengths entry = some object) :
    (imageOf lengths name warnings entries).Stores entry.storageLocation entry.row
      object.descriptor := by
  have kept := fields_of_object? lengths found
  cases compiled_of_object? lengths found with
  | var shape => exact stores_var distinct inside (Encoding.ofDefault_consistent _ _ _) kept
  | @array type subEntries count element rest shape parts =>
      have among : element ∈ arrayParts lengths entry type subEntries := by
        rw [parts]
        exact List.mem_cons_of_mem _ List.mem_cons_self
      have consistent : element.encoding.Consistent := by
        obtain ⟨position, bound, rfl⟩ := List.mem_mapIdx.1 among
        exact consistent_encodePart lengths entry position _ _
      have total : entry.row.subCount - 1 = rest.length + 1 := by
        have same := length_arrayParts lengths entry type subEntries
        rw [parts, List.length_cons, List.length_cons] at same
        rw [Entry.row, shape, Content.subCount, ← same]
        rfl
      refine ⟨fun reference => addresses_count distinct inside kept, fun reference data => ?_,
        fun text => size?_elementType consistent⟩
      rw [total]
      exact addresses_elements distinct inside consistent kept data
  | @record subEntries shape enough =>
      have apart : ((recordParts lengths entry subEntries).map fun part =>
          CName.identifier part.sub.name.shown).Nodup := by
        have names := different subEntries shape
        rw [← map_sub_recordParts lengths entry subEntries, List.map_map] at names
        exact names
      intro part member reference data
      obtain ⟨encoded, among, rfl⟩ := List.mem_map.1 member
      have consistent : encoded.encoding.Consistent := by
        obtain ⟨position, bound, rfl⟩ := List.mem_mapIdx.1 among
        exact consistent_encodePart lengths entry position _ _
      obtain ⟨path, addressed⟩ :=
        addresses_recordPart distinct inside apart kept among consistent data
      exact ⟨⟨_, path⟩, addressed⟩

end Compile

namespace Dictionary

/-- In the image of an accepted dictionary every address leads to a member of the right size, as
long as the parts of the records have different names. -/
theorem compile_stores {dictionary : Dictionary} (accepted : dictionary.Accepted)
    (lengths : StringLengths) (name : Option String) (warnings : List String) {entry : Entry}
    (enabled : entry ∈ dictionary.enabled) (different : entry.PartsDiffer) {position : Nat}
    {row : Row}
    (listed : (dictionary.compile lengths name warnings).rows[position]? = some row)
    (own : row.index = entry.index.toNat) :
    ∃ descriptor, (dictionary.compile lengths name warnings).objects[position]? = some descriptor ∧
      descriptor.Describes entry ∧
      (dictionary.compile lengths name warnings).Stores entry.storageLocation row descriptor := by
  rw [compile_eq] at listed ⊢
  have distinct := accepted.enabled_indices_nodup
  obtain ⟨other, inside, rfl, object, found, here⟩ := Compile.exists_of_row lengths listed
  have same : other = entry :=
    List.inj_on_of_nodup_map distinct inside enabled (UInt16.toNat_inj.1 own)
  subst same
  exact ⟨object.descriptor, here, (Compile.compiled_of_object? lengths found).describes,
    Compile.stores_of_object? distinct inside different found⟩

/-- The second part of the record of a small device has four bytes in a structure. -/
theorem compile_stores_device :
    (Example.device.compile defaultLength none []).Addresses "RAM"
      ⟨"RAM", "x1018_identity.vendorID"⟩ 4 := by
  have enabled : Example.identity ∈ Example.device.enabled := by decide +kernel
  have different : Example.identity.PartsDiffer := by
    rintro subEntries ⟨rfl⟩
    decide +kernel
  have listed : (Example.device.compile defaultLength none []).rows[2]? =
      some Example.identity.row := by decide +kernel
  have concrete : (Example.device.compile defaultLength none []).objects[2]? =
      some (.record "1018_identity"
        [⟨some ⟨"RAM", "x1018_identity.maxSub"⟩, 0, [], 1⟩,
          ⟨some ⟨"RAM", "x1018_identity.vendorID"⟩, 1, [.multibyte], 4⟩]) := by
    decide +kernel
  obtain ⟨descriptor, found, _, stores⟩ :=
    compile_stores Example.device_accepted defaultLength none [] enabled different listed rfl
  rw [concrete] at found
  cases found
  exact (stores _ (List.mem_cons_of_mem _ List.mem_cons_self) _ rfl).2

end Dictionary

end Canopen

import Canopen.CName
import Canopen.Encoding
import Canopen.Image.Basic

/-!
# Compiling an object dictionary

Every object is compiled on its own, from its entry and the lengths to reserve for strings; the
image is then put together in ascending order of the indices.
-/

namespace Canopen

/-- What a length is reserved for: a whole object, or the part of it at a position. -/
inductive Slot where
  | object (entry : Entry)
  | part (entry : Entry) (position : Nat) (sub : SubEntry)

def Slot.name : Slot → Script
  | object entry => entry.name
  | part _ _ sub => sub.name

/-- How many elements to reserve for a string.  Every place of a dictionary is asked about once, so
the answers of a provider that remembers earlier questions are such a function as well. -/
abbrev StringLengths := Slot → Int

/-- The same number of elements for every string. -/
def fixedLength (length : Int) : StringLengths :=
  fun _ => length

def defaultLength : StringLengths :=
  fixedLength 8

/-- A value that has been encoded for its part of an object. -/
structure EncodedPart where
  sub : SubEntry
  encoding : Encoding
  finding : Option Finding
  attributes : List Attribute

/-- What an entry contributes to the image. -/
structure CompiledObject where
  fields : List StorageField
  descriptor : Descriptor
  subCount : Nat

namespace Entry

/-- The index in hexadecimal. -/
def label (entry : Entry) : String :=
  Number.paddedHex 4 entry.index.toNat

/-- The name that the parts of the object are known by. -/
def symbol (entry : Entry) : String :=
  entry.label ++ "_" ++ CName.identifier entry.name.shown

/-- The name of the member of its group that holds the object. -/
def member (entry : Entry) : String :=
  "x" ++ entry.symbol

end Entry

namespace Compile

/-- The stack reaches these objects only through an extension. -/
def extensionIndices : List UInt16 :=
  [0x1003, 0x1012, 0x1014, 0x1200]

/-- Encode the part at a position, with the type that holds for it. -/
def encodePart (lengths : StringLengths) (entry : Entry) (position : Nat)
    (type : Option TypeName) (sub : SubEntry) : EncodedPart :=
  let (encoding, finding) :=
    Encoding.ofDefault type sub.datum.default (lengths (.part entry position sub))
  { sub, encoding, finding
    attributes := attributes sub.datum.access (some sub.datum.mapping) encoding.multibyte }

/-- A member for an encoded value. -/
def storageField (name : String) (encoding : Encoding) (value : Initializer) : StorageField :=
  { cType := (encoding.cType.map CType.name).getD ""
    name
    array := encoding.arraySuffix
    initializer := value.text
    halved := value.isHalved }

/-- The value is a single byte without sign. -/
def isByte (encoding : Encoding) : Bool :=
  encoding.cType = some .uint8 && encoding.length = 1

/-- A reference to a value of an object, if the value is stored. -/
def referTo (entry : Entry) (encoding : Encoding) (suffix : String) : Option Reference :=
  encoding.initializer.map fun _ => ⟨entry.storageLocation, entry.member ++ suffix⟩

/-- What an object with a single encoded value contributes. -/
def varObject (entry : Entry) (datum : Datum) (encoding : Encoding) : CompiledObject where
  fields := (encoding.initializer.map (storageField entry.member encoding)).toList
  descriptor :=
    .var entry.symbol (referTo entry encoding encoding.firstSuffix)
      (attributes datum.access (some datum.mapping) encoding.multibyte) encoding.length
  subCount := 1

/-- An object with a single value. -/
def var (lengths : StringLengths) (entry : Entry) (datum : Datum) :
    List Finding × Option CompiledObject :=
  let (encoding, finding) :=
    Encoding.ofDefault datum.dataType datum.default (lengths (.object entry))
  (finding.toList, some (varObject entry datum encoding))

/-- The type that a document gives, if it is not empty. -/
def givenType (type : Option TypeName) : Option TypeName :=
  match type with
  | some (.unknown "") => none
  | type => type

/-- The type that holds for a part of an array: the one given to the array, save for the first. -/
def partType (type : Option TypeName) (position : Nat) (sub : SubEntry) : Option TypeName :=
  if position = 0 then sub.datum.dataType else givenType type <|> sub.datum.dataType

/-- Encode every part of an array. -/
def arrayParts (lengths : StringLengths) (entry : Entry) (type : Option TypeName)
    (subEntries : List SubEntry) : List EncodedPart :=
  subEntries.mapIdx fun position sub =>
    encodePart lengths entry position (partType type position sub) sub

/-- Encode every part of a record. -/
def recordParts (lengths : StringLengths) (entry : Entry) (subEntries : List SubEntry) :
    List EncodedPart :=
  subEntries.mapIdx fun position sub => encodePart lengths entry position sub.datum.dataType sub

/-- What is found where an element differs from the first one. -/
def differences (element part : EncodedPart) : List Finding :=
  (if part.encoding.cType ≠ element.encoding.cType ∨
      part.encoding.length ≠ element.encoding.length then [.arrayTypes] else []) ++
    (if part.encoding.isDefined ≠ element.encoding.isDefined then [.arrayValues] else []) ++
    (if part.attributes ≠ element.attributes then [.arrayAttributes] else [])

/-- What is found at a part of an array. -/
def arrayFindings (element : EncodedPart) (position : Nat) (part : EncodedPart) : List Finding :=
  part.finding.toList ++
    (if part.sub.subindex.toNat ≠ position then [.arrayOrder] else []) ++
    (if position = 0 then
      if isByte part.encoding then [] else [.arrayCountType (shownType part.sub.datum.dataType)]
    else if position = 1 then []
    else differences element part)

/-- What is found at every part of an array, from a position on. -/
def arrayFindingsFrom (element : EncodedPart) (position : Nat) : List EncodedPart → List Finding
  | [] => []
  | part :: rest =>
      arrayFindings element position part ++ arrayFindingsFrom element (position + 1) rest

/-- A finding that is reported once for a whole array. -/
def isReportedOnce : Finding → Bool
  | .arrayTypes | .arrayValues | .arrayAttributes => true
  | _ => false

/-- Findings that are reported once are left out from the second time on. -/
def reportOnce (reported : List Finding) : List Finding → List Finding
  | [] => []
  | finding :: rest =>
      if isReportedOnce finding then
        if finding ∈ reported then reportOnce reported rest
        else finding :: reportOnce (finding :: reported) rest
      else finding :: reportOnce reported rest

/-- The value of an element, zero when it has none. -/
def elementText (element part : EncodedPart) : String :=
  match part.encoding.initializer with
  | some value => value.text
  | none => if element.encoding.elements.isSome then "\x7b0\x7d" else "0"

/-- The members of an array: the number of elements and the elements. -/
def arrayFields (name : String) (count element : EncodedPart) (elements : List EncodedPart) :
    List StorageField :=
  ((count.encoding.initializer.map fun value =>
      { cType := CType.uint8.name, name := name ++ "_sub0", initializer := value.text
        halved := value.isHalved : StorageField }).toList) ++
    (if element.encoding.isDefined then
      [{ cType := (element.encoding.cType.map CType.name).getD ""
         name
         array := "[" ++ Number.decimal elements.length ++ "]" ++ element.encoding.arraySuffix
         initializer := Initializer.braced (elements.map (elementText element))
         halved := elements.any (·.encoding.isHalved) : StorageField }]
    else [])

/-- What an array contributes: the number of its elements and the elements. -/
def arrayObject (entry : Entry) (count element : EncodedPart) (rest : List EncodedPart) :
    CompiledObject where
  fields := arrayFields entry.member count element (element :: rest)
  descriptor :=
    .array entry.symbol (referTo entry count.encoding "_sub0")
      (referTo entry element.encoding ("[0]" ++ element.encoding.firstSuffix))
      count.attributes element.attributes element.encoding.length
      (element.encoding.cType.map fun type => type.name ++ element.encoding.arraySuffix)
  subCount := rest.length + 2

/-- An object whose parts have one type. -/
def array (lengths : StringLengths) (entry : Entry) (type : Option TypeName)
    (subEntries : List SubEntry) : List Finding × Option CompiledObject :=
  match arrayParts lengths entry type subEntries with
  | count :: element :: rest =>
      (reportOnce [] (arrayFindingsFrom element 0 (count :: element :: rest)),
        some (arrayObject entry count element rest))
  | parts => ([.arrayTooShort parts.length], none)

/-- The first part of a record counts the others. -/
def isRecordCount (part : EncodedPart) : Bool :=
  part.sub.subindex = 0 && isByte part.encoding

/-- What is found at the parts of a record. -/
def recordFindings : List EncodedPart → List Finding
  | [] => []
  | first :: rest =>
      first.finding.toList ++
        (if isRecordCount first then []
        else [.recordCountType (shownType first.sub.datum.dataType)]) ++
        rest.flatMap fun part => part.finding.toList

/-- The member of a part of a record. -/
def recordMember? (part : EncodedPart) : Option StorageField :=
  part.encoding.initializer.map (storageField (CName.identifier part.sub.name.shown) part.encoding)

/-- The descriptor of a part of a record. -/
def recordPart (entry : Entry) (part : EncodedPart) : RecordPart where
  data := referTo entry part.encoding
    ("." ++ CName.identifier part.sub.name.shown ++ part.encoding.firstSuffix)
  subindex := part.sub.subindex.toNat
  attributes := part.attributes
  length := part.encoding.length

/-- The structure that holds the members of a record, if there are any. -/
def recordFields (entry : Entry) (parts : List EncodedPart) : List StorageField :=
  match parts.filterMap recordMember? with
  | [] => []
  | members => [{ cType := "struct", name := entry.member, members }]

/-- What a record contributes. -/
def recordObject (entry : Entry) (parts : List EncodedPart) : CompiledObject where
  fields := recordFields entry parts
  descriptor := .record entry.symbol (parts.map (recordPart entry))
  subCount := parts.length

/-- An object whose parts have types of their own. -/
def record (lengths : StringLengths) (entry : Entry) (subEntries : List SubEntry) :
    List Finding × Option CompiledObject :=
  if subEntries.length < 2 then ([.recordTooShort subEntries.length], none)
  else
    let parts := recordParts lengths entry subEntries
    (recordFindings parts, some (recordObject entry parts))

/-- What is found in an object, and what it contributes if it has enough parts. -/
def content (lengths : StringLengths) (entry : Entry) : List Finding × Option CompiledObject :=
  match entry.content with
  | .var datum => var lengths entry datum
  | .array type subEntries => array lengths entry type subEntries
  | .record subEntries => record lengths entry subEntries

/-- The object is reached through an extension although the document does not say so. -/
def lacksExtension (entry : Entry) : Bool :=
  !entry.extIo && extensionIndices.contains entry.index

def isExtended (entry : Entry) : Bool :=
  entry.extIo || extensionIndices.contains entry.index

/-- Everything that is found in an object. -/
def findings (lengths : StringLengths) (entry : Entry) : List Finding :=
  (if lacksExtension entry then [.extensionMissing] else []) ++ (content lengths entry).1

/-- The image with what an entry contributes. -/
def add (entry : Entry) (object : CompiledObject) (image : Image) : Image :=
  let stored := (image.store entry.storageLocation object.fields).addObject object.descriptor
  let extended :=
    if isExtended entry then
      stored.addExtension
        { name := entry.symbol, group := entry.storageLocation, extIo := true
          subCount := object.subCount }
    else stored
  (extended.addRow
    { index := entry.index.toNat, subCount := object.subCount, shape := entry.content.shape
      extended := isExtended entry, name := entry.symbol }).count entry.countLabel

/-- The image with one entry more. -/
def entry (lengths : StringLengths) (image : Image) (entry : Entry) : Image :=
  let registered :=
    (image.warn ((findings lengths entry).map (Finding.report entry.label))).register
      entry.storageLocation
  match (content lengths entry).2 with
  | some object => add entry object registered
  | none => registered

end Compile

/-- The image of an object dictionary.  The name may be replaced, and the warnings go behind those
already collected. -/
def Dictionary.compile (dictionary : Dictionary) (lengths : StringLengths := defaultLength)
    (name : Option String := none) (warnings : List String := []) : Image :=
  let chosen :=
    match name with
    | some name => if name.isEmpty then dictionary.name else name
    | none => dictionary.name
  dictionary.enabled.foldl (Compile.entry lengths) { name := chosen, warnings }

end Canopen

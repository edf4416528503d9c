import Canopen.Proofs.Encoding.NodeId
import Canopen.Proofs.Encoding.Octets
import Canopen.Proofs.Encoding.Texts
import Canopen.Proofs.Initializer.Constants

/-!
# Stored initializers

What is stored is printed as it is, so that it has to be an initializer in C.  It is one for every
type but the floating ones: its value belongs to the declared type, and an array has as many items as
are declared.  A floating type keeps what is left of its text, so that an initializer is stored
exactly when a numeric constant is left.
-/

namespace Canopen

/-! ## Initializers without the number of the node -/

namespace Initializer

open Default (nodeId)

variable {type : CType} {text body : List Char}

theorem not_infix_of_plain (plain : ∀ c ∈ text, c ≠ '$') : ¬ nodeId <:+: text :=
  fun held => plain '$' (held.subset List.mem_cons_self) rfl

theorem not_infix_of_numericChars (chars : ∀ c ∈ text, c ∈ numericChars) : ¬ nodeId <:+: text :=
  not_infix_of_plain fun c inside => (numericChars_plain c (chars c inside)).2.2

/-- Between characters that the placeholder does not have, it stands in the inner text. -/
theorem not_infix_enclosed {first last : Char} (outside : first ∉ nodeId) (outside' : last ∉ nodeId)
    (inner : ¬ nodeId <:+: body) : ¬ nodeId <:+: first :: (body ++ [last]) := by
  have none : ¬ nodeId <:+: [] := by decide
  have cut := Default.infix_append_cons_iff outside [] (body ++ [last])
  rw [List.nil_append] at cut
  rw [cut, Default.infix_append_cons_iff outside']
  simp [none, inner]

theorem not_infix_intercalate {items : List (List Char)}
    (inner : ∀ item ∈ items, ¬ nodeId <:+: item) : ¬ nodeId <:+: [',', ' '].intercalate items := by
  induction items with
  | nil => decide
  | cons item items ih =>
      obtain ⟨first, others⟩ := List.forall_mem_cons.1 inner
      cases items with
      | nil =>
          rw [List.intercalate_singleton]
          exact first
      | cons next items =>
          have later := ih others
          -- the comma and the blank behind it cut the text between two items
          have gap : ¬ nodeId <:+: ' ' :: [',', ' '].intercalate (next :: items) := by
            rw [List.infix_cons_iff, not_or]
            exact ⟨Default.not_prefix_cons (by decide) _, later⟩
          rw [List.intercalate_cons_cons, List.append_assoc]
          change ¬ nodeId <:+: item ++ ',' :: ' ' :: _
          rw [Default.infix_append_cons_iff (by decide)]
          exact not_or.2 ⟨first, gap⟩

/-- A character constant is too short for the placeholder, or it is an escape of other characters. -/
theorem not_infix_body {code : Nat} (meant : Token.Body body code) : ¬ nodeId <:+: body := by
  cases meant with
  | plain other =>
      intro held
      have long : 7 ≤ 1 := held.length_le
      exact absurd long (by decide)
  | escaped escape =>
      refine not_infix_of_plain (List.forall_mem_cons.2 ⟨by decide, ?_⟩)
      cases escape with
      | simple known =>
          have plain : ∀ entry ∈ Token.simpleEscapes, entry.1 ≠ '$' := forall_mem_of_all rfl
          exact List.forall_mem_singleton.2 (plain _ known)
      | octal numeral few =>
          exact fun c inside =>
            (numericChars_plain c (mem_numericChars_of_numeral numeral c inside)).2.2
      | hexadecimal numeral =>
          exact List.forall_mem_cons.2 ⟨by decide, fun c inside =>
            (numericChars_plain c (mem_numericChars_of_numeral numeral c inside)).2.2⟩

theorem IsItem.lacksNodeId (item : IsItem type text) : ¬ nodeId <:+: text := by
  cases item with
  | character meant ascii shown =>
      exact not_infix_enclosed (by decide) (by decide) (not_infix_body meant)
  | number constant held => exact not_infix_of_numericChars constant.mem_numericChars

/-- No initializer holds the placeholder for the number of the node. -/
theorem IsInitializer.lacksNodeId {elements : Option Nat}
    (initial : IsInitializer type elements text) : ¬ nodeId <:+: text := by
  cases initial with
  | truth word =>
      have words : ∀ word ∈ ["true".toList, "false".toList], ¬ nodeId <:+: word :=
        forall_mem_of_all rfl
      exact words text word
  | integer constant held => exact not_infix_of_numericChars constant.mem_numericChars
  | numeric kind constant => exact not_infix_of_numericChars constant.mem_numericChars
  | list filled constants =>
      exact not_infix_enclosed (by decide) (by decide)
        (not_infix_intercalate fun item among => (constants item among).lacksNodeId)

/-- A floating type is initialized with a numeric constant, and with nothing else. -/
theorem isInitializer_floating_iff (kind : type ∈ [.float32, .float64]) :
    IsInitializer type none text ↔ IsNumeric text := by
  constructor
  · intro initial
    cases initial with
    | truth word => exact absurd kind (by decide)
    | integer constant held =>
        simp only [List.mem_cons, List.not_mem_nil, or_false] at kind
        rcases kind with rfl | rfl <;> cases held
    | numeric kind constant => exact constant
  · exact .numeric kind

end Initializer

namespace Encoding

open Initializer (Typed IsInitializer IsNumeric IsShown)

/-- A stored value belongs to the type and to the size that are declared. -/
def WellTyped (encoding : Encoding) : Prop :=
  ∀ initial, encoding.initializer = some initial →
    ∃ type, encoding.cType = some type ∧ Typed type encoding.elements initial

/-- The text initializes what is declared.  It stands on one line, and no placeholder is in it. -/
structure Initializes (encoding : Encoding) (text : List Char) : Prop where
  typed : ∃ type, encoding.cType = some type ∧ IsInitializer type encoding.elements text
  shown : ∀ c ∈ text, IsShown c
  numbered : ¬ Default.nodeId <:+: text

/-- How the text that is stored for a default looks. -/
structure Printed (known : DataType) (default : Option Script) (encoded : Encoding × Option Finding)
    (text : List Char) : Prop where
  quiet : encoded.2 = none
  /-- Any other type is initialized as it has to be. -/
  whole : (∀ bytes, known.family ≠ .real bytes) → Initializes encoded.1 text
  /-- A floating type gets what is left of its default, whether it is a constant or not. -/
  floating : ∀ bytes, known.family = .real bytes → ∃ given, default = some given ∧
    text = (Default.literal given).text ∧ (Initializes encoded.1 text ↔ IsNumeric text)
  /-- Of a numeric constant only the blanks around it are left out. -/
  numeric : ∀ bytes given, known.family = .real bytes → default = some given →
    IsNumeric (Text.trimChars given.shown.toList) →
    text = Text.trimChars given.shown.toList ∧ Initializes encoded.1 text

variable {known : DataType} {elements : Int} {encoding : Encoding}

theorem initializes_of_isInitializer {type : CType} {text : List Char}
    (typed : encoding.cType = some type) (initial : IsInitializer type encoding.elements text) :
    Initializes encoding text :=
  ⟨⟨type, typed, initial⟩, initial.shown, initial.lacksNodeId⟩

theorem WellTyped.initializes {initial : Initializer} (typed : encoding.WellTyped)
    (stored : encoding.initializer = some initial) : Initializes encoding initial.text.toList := by
  obtain ⟨type, same, belongs⟩ := typed initial stored
  exact initializes_of_isInitializer same belongs.isInitializer

/-! ## Values of the declared type -/

theorem wellTyped_empty (none : encoding.initializer = none) : encoding.WellTyped := by
  intro initial stored
  rw [none] at stored
  cases stored

theorem wellTyped_scalar {type : CType} {bytes : Nat} {value : Initializer}
    (typed : Typed type none value) : (scalar type bytes value).WellTyped := by
  rintro _ ⟨⟩
  exact ⟨type, rfl, typed⟩

theorem wellTyped_array {type : CType} {count : Nat} {value : Initializer}
    (typed : Typed type (some count) value) : (array type count value).WellTyped := by
  rintro _ ⟨⟩
  exact ⟨type, rfl, typed⟩

theorem holds_signedType {bytes : Nat} {value : Int}
    (fits : Literal.FitsSigned ((signedType bytes).size * 8) value) :
    (signedType bytes).Holds value := by
  revert fits
  unfold signedType
  split <;> exact id

theorem holds_unsignedType {bytes : Nat} {value : Int}
    (fits : Literal.FitsUnsigned ((unsignedType bytes).size * 8) value) :
    (unsignedType bytes).Holds value := by
  revert fits
  unfold unsignedType
  split <;> exact id

theorem converted_eq_ok {α : Type} {result : Except LiteralError α} {value : α}
    (done : converted result = .ok value) : result = .ok value := by
  cases result with
  | error _ => cases done
  | ok _ =>
      cases done
      rfl

/-- A type of the target holds every number that is read with its width. -/
theorem wellTyped_signed {bytes : Nat} {value : Default.Written}
    (sized : (signedType bytes).IsNumber bytes)
    (done : ofFamily elements (some value) (.signed bytes) = .ok encoding) :
    encoding.WellTyped := by
  obtain ⟨number, read, stored⟩ := exists_of_bind_eq_ok done
  cases stored
  have positive : 0 < bytes * 8 := by
    have size := CType.size_pos (signedType bytes)
    rw [sized.size] at size
    omega
  obtain ⟨spelled, -, reads⟩ := (Literal.signed_eq_ok_iff positive).1 (converted_eq_ok read)
  have fits : Literal.FitsSigned (bytes * 8) number := by
    cases reads with
    | decimal _ fits => exact fits
    | pattern _ _ fits _ => exact fits
  refine wellTyped_scalar (.signed (holds_signedType ?_))
  rwa [sized.size]

theorem wellTyped_unsigned {bytes : Nat} {value : Default.Written}
    (sized : (unsignedType bytes).IsNumber bytes)
    (done : ofFamily elements (some value) (.unsigned bytes) = .ok encoding) :
    encoding.WellTyped := by
  obtain ⟨number, read, stored⟩ := exists_of_bind_eq_ok done
  cases stored
  obtain ⟨-, fits⟩ := Literal.unsigned_eq_ok_iff.1 (converted_eq_ok read)
  refine wellTyped_scalar (.unsigned (holds_unsignedType ?_))
  rwa [sized.size]

theorem uint8_holds {octet : Nat} (small : octet < 0x100) : CType.uint8.Holds octet :=
  ⟨Int.natCast_nonneg octet, by exact_mod_cast small⟩

theorem uint16_holds {unit : Nat} (small : unit < 0x10000) : CType.uint16.Holds unit :=
  ⟨Int.natCast_nonneg unit, by exact_mod_cast small⟩

theorem reserve_ne_nil {values : List Nat} (filled : values ≠ [] ∨ ¬ elements ≤ 0) :
    reserve elements values ≠ [] := by
  have total := length_reserve elements values
  rintro empty
  rw [empty, List.length_nil] at total
  rcases filled with some | reserved
  · have positive := List.length_pos_of_ne_nil some
    omega
  · omega

theorem wellTyped_characters {values : List Nat} (filled : values ≠ [] ∨ ¬ elements ≤ 0)
    (ascii : ∀ code ∈ values, code < 0x80) :
    (array .char (reserve elements values).length
      (.characters (reserve elements values))).WellTyped :=
  wellTyped_array (.characters (reserve_ne_nil filled)
    (forall_mem_reserve (by decide) ascii elements))

theorem wellTyped_octets {values : List Nat} (filled : values ≠ [] ∨ ¬ elements ≤ 0)
    (small : ∀ octet ∈ values, octet < 0x100) :
    (array .uint8 (reserve elements values).length
      (.numbers 2 (reserve elements values))).WellTyped :=
  wellTyped_array (.numbers (reserve_ne_nil filled) fun octet inside =>
    uint8_holds (forall_mem_reserve (by decide) small elements octet inside))

theorem wellTyped_units {values : List Nat} (filled : values ≠ [] ∨ ¬ elements ≤ 0)
    (small : ∀ unit ∈ values, unit < 0x10000) :
    (array .uint16 (reserve elements values).length
      (.numbers 4 (reserve elements values))).WellTyped :=
  wellTyped_array (.numbers (reserve_ne_nil filled) fun unit inside =>
    uint16_holds (forall_mem_reserve (by decide) small elements unit inside))

theorem utf16Units_ne_nil (c : Char) : utf16Units c ≠ [] := by
  unfold utf16Units
  split <;> exact List.cons_ne_nil _ _

/-! ## Words of octets -/

theorem forall_mem_of_mapM {α β : Type} {f : α → Except Failure β} {p : β → Prop} {list : List α}
    {values : List β} (done : list.mapM f = .ok values)
    (each : ∀ item value, f item = .ok value → p value) :
    (∀ value ∈ values, p value) ∧ values.length = list.length := by
  induction list generalizing values with
  | nil =>
      cases done
      exact ⟨List.forall_mem_nil _, rfl⟩
  | cons item rest ih =>
      rw [List.mapM_cons] at done
      obtain ⟨value, first, later⟩ := exists_of_bind_eq_ok done
      obtain ⟨others, behind, stored⟩ := exists_of_bind_eq_ok later
      cases stored
      obtain ⟨all, length⟩ := ih behind
      exact ⟨List.forall_mem_cons.2 ⟨each item value first, all⟩, congrArg (· + 1) length⟩

/-- A text that is not blank has words. -/
theorem words_ne_nil {text : List Char} (solid : Text.trimChars text ≠ []) :
    Text.words text ≠ [] := by
  intro none
  have ink : text.filter (!Text.isBlank ·) = [] := by
    rw [← Text.flatten_wordsBy]
    exact congrArg List.flatten none
  refine solid (Text.trimBy_eq_nil_iff.2 fun c inside => ?_)
  simpa using List.filter_eq_nil_iff.1 ink c inside

theorem octetValues_small {text : List Char} {values : List Nat}
    (solid : Text.trimChars text ≠ []) (done : octetValues (Text.trimChars text) = .ok values) :
    (∀ octet ∈ values, octet < 0x100) ∧ values ≠ [] := by
  rw [octetValues_eq, Text.words_trimChars] at done
  obtain ⟨small, length⟩ := forall_mem_of_mapM (p := (· < 0x100)) done fun word octet read => by
    obtain ⟨-, -, fits⟩ := Literal.unsigned_eq_ok_iff.1 (converted_eq_ok read)
    exact_mod_cast fits
  refine ⟨small, fun empty => words_ne_nil solid ?_⟩
  rw [empty] at length
  exact List.length_eq_zero_iff.1 length.symm

/-! ## All families -/

/-- Whatever is stored for another type than a floating one belongs to the declared type. -/
theorem wellTyped_ofFamily {value : Option Default.Written}
    (other : ∀ bytes, known.family ≠ .real bytes)
    (filled : known.isString = true → ∀ given, value = some given → given.text ≠ [])
    (done : ofFamily elements value known.family = .ok encoding) : encoding.WellTyped := by
  have sized := known.family_hasType
  rw [DataType.isString] at filled
  cases family : known.family with
  | real bytes => exact absurd family (other bytes)
  | domain =>
      rw [family] at done
      cases done
      exact wellTyped_empty rfl
  | boolean =>
      rw [family] at done
      cases value with
      | none =>
          cases done
          exact wellTyped_empty rfl
      | some value =>
          cases done
          exact wellTyped_scalar (.truth _)
  | signed bytes =>
      rw [family] at done sized
      cases value with
      | none =>
          cases done
          exact wellTyped_empty rfl
      | some value => exact wellTyped_signed sized done
  | unsigned bytes =>
      rw [family] at done sized
      cases value with
      | none =>
          cases done
          exact wellTyped_empty rfl
      | some value => exact wellTyped_unsigned sized done
  | octetNumber bytes signed =>
      -- C has no initializer for an array of no elements
      have several : bytes ≠ 0 := by
        rintro rfl
        cases known <;> cases family
      rw [family] at done
      cases value with
      | none =>
          cases done
          exact wellTyped_empty rfl
      | some value =>
          obtain ⟨number, rfl⟩ := exists_of_octetNumber done
          have length := length_littleEndian bytes number
          have typed : Typed .uint8 (some (littleEndian bytes number).length)
              (.numbers 2 (littleEndian bytes number)) := by
            refine .numbers ?_ fun octet inside => uint8_holds (lt_of_mem_littleEndian inside)
            intro empty
            rw [empty] at length
            exact several length.symm
          rw [length] at typed
          exact wellTyped_array typed
  | visibleText =>
      rw [family] at done filled
      cases value with
      | none =>
          rw [ofFamily] at done
          split at done
          · cases done
            exact wellTyped_empty rfl
          · next reserved =>
            cases done
            exact wellTyped_characters (.inr reserved) (List.forall_mem_nil _)
      | some value =>
          cases done
          refine wellTyped_characters (.inl ?_) fun code inside => ?_
          · rw [ne_eq, List.map_eq_nil_iff]
            exact filled rfl value rfl
          · obtain ⟨c, -, rfl⟩ := List.mem_map.1 inside
            exact asciiCode_lt c
  | octets =>
      rw [family, ofFamily] at done
      split at done
      · split at done
        · cases done
          exact wellTyped_empty rfl
        · next reserved =>
          cases done
          exact wellTyped_octets (.inr reserved) (List.forall_mem_nil _)
      · next solid =>
        obtain ⟨values, read, stored⟩ := exists_of_bind_eq_ok done
        cases stored
        obtain ⟨small, some⟩ := octetValues_small solid read
        exact wellTyped_octets (.inl some) small
  | unicodeText =>
      rw [family] at done filled
      cases value with
      | none =>
          rw [ofFamily] at done
          split at done
          · cases done
            exact wellTyped_empty rfl
          · next reserved =>
            cases done
            exact wellTyped_units (.inr reserved) (List.forall_mem_nil _)
      | some value =>
          rw [ofFamily] at done
          split at done
          · cases done
          · cases done
            refine wellTyped_units (.inl fun empty => ?_) fun unit inside => ?_
            · have units : ∀ c ∈ value.text, utf16Units c = [] := List.flatMap_eq_nil_iff.1 empty
              obtain ⟨c, inside⟩ := List.exists_mem_of_ne_nil _ (filled rfl value rfl)
              exact utf16Units_ne_nil c (units c inside)
            · obtain ⟨c, -, among⟩ := List.mem_flatMap.1 inside
              exact Text.lt_of_mem_utf16Units among

/-! ## Defaults -/

/-- The value of a string is not empty. -/
theorem text_ne_nil_of_written {default : Option Script} {value : Default.Written}
    (written : Default.written true default = some value) : value.text ≠ [] := by
  rw [Default.written] at written
  split at written
  · cases written
  · next solid =>
    cases written
    exact solid

theorem wellTyped_ofDefault (other : ∀ bytes, known.family ≠ .real bytes)
    (default : Option Script) : (ofDefault (some (.known known)) default elements).1.WellTyped := by
  rcases ofDefault_known known default elements with ⟨encoding, done, same⟩ | ⟨-, finding, same, -⟩
  · rw [same]
    refine wellTyped_ofFamily other (fun string given written => ?_) done
    rw [string] at written
    exact text_ne_nil_of_written written
  · rw [same]
    exact wellTyped_empty (initializer_failed _)

/-- A type is known when a value of it is stored, and then nothing is found. -/
theorem known_of_stored {type : Option TypeName} {default : Option Script} {initial : Initializer}
    (stored : (ofDefault type default elements).1.initializer = some initial) :
    ∃ known, type = some (.known known) ∧ (ofDefault type default elements).2 = none ∧
      ofFamily elements (Default.written known.isString default) known.family =
        .ok (ofDefault type default elements).1 := by
  have known : ∃ known, type = some (.known known) := by
    unfold ofDefault at stored
    split at stored
    · next known => exact ⟨known, rfl⟩
    · cases stored
  obtain ⟨known, rfl⟩ := known
  rcases ofDefault_known known default elements with ⟨encoding, done, same⟩ | ⟨-, finding, same, -⟩
  · rw [same]
    exact ⟨known, rfl, rfl, done⟩
  · rw [same, initializer_failed] at stored
    cases stored

/-- Outside of strings, the literal of a text is written. -/
theorem exists_literal (scalar : known.isString = false) {default : Option Script}
    {value : Default.Written} (written : Default.written known.isString default = some value) :
    ∃ given, default = some given ∧ value = Default.literal given := by
  have other : known ≠ .octetString := by
    rintro rfl
    cases scalar
  have solid : Default.isBlank (some (.known known)) default = false := by
    by_contra blank
    rw [written_of_blank other (Bool.eq_true_of_not_eq_false blank)] at written
    cases written
  cases default with
  | none => cases solid
  | some given =>
      rw [Default.written_eq_literal scalar solid] at written
      cases written
      exact ⟨given, rfl, rfl⟩

/-- A text without suffix letters keeps all its characters. -/
theorem fst_detectBase {text : List Char} (plain : ∀ c ∈ text, c ∉ Literal.suffixLetters) :
    (Literal.detectBase text).1 = text := by
  have kept : text.filter (!Literal.isSuffixLetter ·) = text := by
    refine List.filter_eq_self.2 fun c inside => ?_
    rw [Literal.isSuffixLetter_eq, decide_eq_false (plain c inside)]
    rfl
  rw [Literal.detectBase, kept]
  split
  · rfl
  · split <;> rfl

/-- What is left of a numeric constant is all of it. -/
theorem text_literal_numeric {given : Script}
    (constant : IsNumeric (Text.trimChars given.shown.toList)) :
    (Default.literal given).text = Text.trimChars given.shown.toList := by
  have chars := constant.mem_numericChars
  have absent := Initializer.not_infix_of_numericChars chars
  have kept : Default.offset (Text.trimChars given.shown.toList) =
      Text.trimChars given.shown.toList :=
    if_neg fun holds => absent (Default.holdsNodeId_iff.1 holds)
  rw [Default.literal, kept]
  exact fst_detectBase fun c inside => (Initializer.numericChars_plain c (chars c inside)).2.1

/-- A floating type stores the literal of its default. -/
theorem scalar_of_real {bytes : Nat} (family : known.family = .real bytes)
    {default : Option Script} {initial : Initializer}
    (done : ofFamily elements (Default.written known.isString default) known.family = .ok encoding)
    (stored : encoding.initializer = some initial) :
    ∃ given, default = some given ∧
      encoding = scalar (realType bytes) bytes
        (.real (Default.literal given).text given.isHalved) := by
  have scalar : known.isString = false := by
    rw [DataType.isString, family]
  rw [family] at done
  cases written : Default.written known.isString default with
  | none =>
      rw [written] at done
      cases done
      cases stored
  | some value =>
      rw [written] at done
      cases done
      obtain ⟨given, same, rfl⟩ := exists_literal scalar written
      exact ⟨given, same, rfl⟩

/-- A floating type is initialized by its default exactly when this is a numeric constant. -/
theorem initializes_real_iff {bytes : Nat} (text : List Char) (halved : Bool) :
    Initializes (scalar (realType bytes) bytes (.real text halved)) text ↔ IsNumeric text := by
  have kind : realType bytes ∈ [.float32, .float64] := by
    unfold realType
    split <;> decide
  constructor
  · rintro ⟨⟨type, same, initial⟩, -, -⟩
    cases same
    exact (Initializer.isInitializer_floating_iff kind).1 initial
  · exact fun constant => initializes_of_isInitializer rfl (.numeric kind constant)

/-- What is stored is an initializer of its type, or what is left of a text for a floating type. -/
theorem ofDefault_initializer {type : Option TypeName} {default : Option Script}
    {initial : Initializer}
    (stored : (ofDefault type default elements).1.initializer = some initial) :
    ∃ known, type = some (.known known) ∧
      Printed known default (ofDefault type default elements) initial.text.toList := by
  obtain ⟨known, rfl, quiet, done⟩ := known_of_stored stored
  refine ⟨known, rfl, quiet, fun other => ?_, fun bytes family => ?_, ?_⟩
  · exact (wellTyped_ofDefault other default).initializes stored
  · obtain ⟨given, same, made⟩ := scalar_of_real family done stored
    rw [made] at stored ⊢
    cases stored
    rw [Initializer.text, String.toList_ofList]
    exact ⟨given, same, rfl, initializes_real_iff _ _⟩
  · rintro bytes given family rfl constant
    obtain ⟨found, same, made⟩ := scalar_of_real family done stored
    cases same
    rw [made] at stored ⊢
    cases stored
    have kept := text_literal_numeric constant
    rw [Initializer.text, String.toList_ofList, kept]
    exact ⟨rfl, (initializes_real_iff _ _).2 constant⟩

/-- A floating default with a point and a power of ten is stored without the blanks around it. -/
theorem ofDefault_initializer_float :
    ∃ initial, (ofDefault (some (.known .real32)) (some " -1.5e+16 ") 0).1.initializer =
        some initial ∧
      Initializes (ofDefault (some (.known .real32)) (some " -1.5e+16 ") 0).1
        initial.text.toList := by
  have stored : (ofDefault (some (.known .real32)) (some " -1.5e+16 ") 0).1.initializer =
      some (.real "-1.5e+16".toList) := by decide
  obtain ⟨known, same, printed⟩ := ofDefault_initializer stored
  cases same
  have power : Initializer.IsPower ('e' :: (['+'] ++ ['1', '6'])) :=
    .power (by decide) (by decide) ⟨by decide, forall_mem_of_all rfl, rfl⟩
  have floating : Initializer.IsFloating
      (['1'] ++ ('.' :: ['5'] ++ ('e' :: (['+'] ++ ['1', '6']) ++ []))) :=
    .point (by decide) (forall_mem_of_all rfl) (.inr power) (by decide)
  have signed : ['-'] ∈ Initializer.signs := by decide
  have constant : IsNumeric (Text.trimChars " -1.5e+16 ".toList) := .floating signed floating
  exact ⟨_, stored, (printed.numeric 4 _ rfl rfl constant).2⟩

/-- A text with a line break and a placeholder is stored for a floating type, and nothing is found. -/
theorem real_stored_verbatim :
    ofDefault (some (.known .real32)) (some "1\n$NO$NODEIDDEID") 0 =
        (scalar .float32 4 (.real "1\n$NODEID".toList), none) ∧
      ¬ IsInitializer .float32 none "1\n$NODEID".toList ∧
      '\n' ∈ "1\n$NODEID".toList ∧ Default.nodeId <:+: "1\n$NODEID".toList := by
  have held : Default.nodeId <:+: "1\n$NODEID".toList := by decide
  exact ⟨by decide, fun initial => initial.lacksNodeId held, by decide, held⟩

end Encoding

end Canopen

import Canopen.Proofs.Encoding.Integers

/-!
# Outcomes of encoding

Encoding always ends, with at most one finding.  The finding is that the type is not known, or that
an integer, a run of octets or a Unicode text is written in a way that its type cannot hold.
Without a finding, whatever is given is stored, and a string type stores the elements that are
reserved for it.
-/

namespace Canopen

/-- A data type by its name, which may be missing. -/
def typeNamed (name : Option String) : Option TypeName :=
  name.map .ofText

namespace Encoding

/-- A default that is not blank can be stored by a family of types. -/
def Representable (text : Script) : DataType.Family → Prop
  | .signed bytes => ∃ value, Means text (.signed bytes) value
  | .unsigned bytes => ∃ value, Means text (.unsigned bytes) value
  | .octetNumber bytes _ =>
      ∃ number, Default.number text = .ok number ∧ Literal.FitsUnsigned (bytes * 8) number
  | .octets =>
      ∀ word ∈ Text.words (Text.trimChars text.shown.toList), ∃ number,
        Literal.integer (Literal.detectBase word).2 (Literal.detectBase word).1 = .ok number ∧
          Literal.FitsUnsigned 8 number
  | .unicodeText => text.isHalved = false
  | .boolean | .real _ | .visibleText | .domain => True

/-- A finding about a value that could not be stored. -/
inductive IsRefusal (known : DataType) : Finding → Prop where
  | conversion (value : String) : IsRefusal known (.conversion value known.name)
  | overflow (value : String) : IsRefusal known (.overflow value known.name)

/-- What encoding a default comes to, for a type of the given name. -/
structure Outcome (name : Option String) (default : Option Script) (elements : Int)
    (encoded : Encoding × Option Finding) : Prop where
  /-- There is at most one finding, and it is about the type or about the value. -/
  finding : ∀ finding, encoded.2 = some finding →
    (∃ shown, finding = .unknownType shown) ∨ ∃ known, IsRefusal known finding
  unknown : (∃ shown, encoded.2 = some (.unknownType shown)) ↔
    ∀ known : DataType, name ≠ some known.name
  refused : ∀ known : DataType, name = some known.name →
    ((∃ finding, encoded.2 = some finding ∧ IsRefusal known finding) ↔
      ∃ text, default = some text ∧ Default.isBlank (typeNamed name) (some text) = false ∧
        ¬ Representable text known.family)
  stored : encoded.1.isDefined = true ↔
    encoded.2 = none ∧
      ((Default.isBlank (typeNamed name) default = false ∧ name ≠ some DataType.domain.name) ∨
        ((∃ known : DataType, name = some known.name ∧ known.isString = true) ∧ 0 < elements))
  typed : encoded.1.isDefined = true → encoded.1.cType.isSome = true

/-! ## Octets -/

theorem exists_mapM_iff {ε α β : Type} {f : α → Except ε β} {list : List α} :
    (∃ values, list.mapM f = .ok values) ↔ ∀ item ∈ list, ∃ value, f item = .ok value := by
  induction list with
  | nil => simp [pure, Except.pure]
  | cons item rest ih =>
      rw [List.mapM_cons, List.forall_mem_cons, ← ih]
      constructor
      · rintro ⟨values, done⟩
        obtain ⟨value, first, later⟩ := exists_of_bind_eq_ok done
        obtain ⟨others, second, _⟩ := exists_of_bind_eq_ok later
        exact ⟨⟨value, first⟩, others, second⟩
      · rintro ⟨⟨value, first⟩, values, later⟩
        exact ⟨value :: values, by rw [first, later]; rfl⟩

theorem exists_converted_iff {α : Type} {result : Except LiteralError α} :
    (∃ value, converted result = .ok value) ↔ ∃ value, result = .ok value := by
  cases result <;> simp [converted]

theorem exists_octetValues_iff {text : List Char} :
    (∃ values, octetValues text = .ok values) ↔
      ∀ word ∈ Text.words text, ∃ number,
        Literal.integer (Literal.detectBase word).2 (Literal.detectBase word).1 = .ok number ∧
          Literal.FitsUnsigned 8 number := by
  rw [octetValues, exists_mapM_iff]
  refine forall₂_congr fun word _ => ?_
  rw [exists_converted_iff]
  constructor
  · rintro ⟨value, read⟩
    obtain ⟨spelled, fits⟩ := Literal.unsigned_eq_ok_iff.1 read
    exact ⟨value, spelled, fits⟩
  · rintro ⟨number, spelled, fits⟩
    exact ⟨number.toNat, Literal.unsigned_of_fits spelled fits⟩

/-! ## Values that are written -/

variable {known : DataType} {text : Script} {elements : Int}

/-- In a string, blanks are written as they are. -/
theorem written_string (strings : known.isString = true) (some : text.shown.toList ≠ []) :
    Default.written known.isString (.some text) =
      .some ⟨text.shown.toList, .decimal, text.isHalved⟩ := by
  rw [Default.written, strings, Option.getD_some]
  split
  · next empty => exact absurd empty some
  · rfl

/-- A type of fixed width stores what a number is meant by. -/
theorem exists_ok_fixed_iff {type : CType} (fixed : fixedType? known.family = some type) :
    (∃ encoding, ofFamily elements (some (Default.literal text)) known.family = .ok encoding) ↔
      ∃ value, Means text known.family value := by
  obtain ⟨-, width⟩ := exists_width fixed
  constructor
  · rintro ⟨encoding, done⟩
    by_contra none
    rw [ofFamily_of_not_means width (not_exists.1 none)] at done
    cases done
  · rintro ⟨value, means⟩
    obtain ⟨initial, stored, -⟩ := ofFamily_of_means elements width means
    exact ⟨_, stored⟩

/-- A type of an odd width stores the numbers that fit. -/
theorem exists_ok_oddWidth_iff {bytes : Nat} {signed : Bool}
    (odd : known.family = .octetNumber bytes signed) :
    (∃ encoding, octetNumber bytes signed (Default.literal text) = .ok encoding) ↔
      ∃ number, Default.number text = .ok number ∧ Literal.FitsUnsigned (bytes * 8) number := by
  obtain ⟨-, narrow⟩ := narrow_of_octetNumber odd
  constructor
  · rintro ⟨encoding, done⟩
    by_cases read : ∃ number, Default.number text = .ok number ∧
        Literal.FitsReading signed (Default.literal text).base 64 number
    · obtain ⟨number, spelled, fits⟩ := read
      rw [octetNumber_of_fitsReading narrow spelled fits, ofReading] at done
      split at done
      · next small => exact ⟨number, spelled, small⟩
      · cases done
    · rw [octetNumber_of_unread fun number spelled fits => read ⟨number, spelled, fits⟩] at done
      cases done
  · rintro ⟨number, spelled, fits⟩
    have reading := fits.fitsReading narrow signed (Default.literal text).base
    rw [octetNumber_of_fitsReading narrow spelled reading, ofReading, if_pos fits]
    exact ⟨_, rfl⟩

/-- A run of octets stores the words that are octets. -/
theorem exists_ok_octets_iff (octets : known.family = .octets)
    (solid : Default.isBlank (some (.known known)) (some text) = false) :
    (∃ encoding, ofFamily elements (Default.written known.isString (some text)) .octets =
        .ok encoding) ↔ Representable text .octets := by
  have given : Default.isGiven (some (.known known)) (some text) = true := by
    have other : known ≠ .domain := by
      rintro rfl
      cases octets
    simp [Default.isGiven, solid, other]
  obtain ⟨_, ⟨⟩, filled, trimmed⟩ := Default.exists_of_isGiven given
  have strings : known.isString = true := by rw [DataType.isString, octets]
  rw [written_string strings filled, ofFamily, Representable, ← exists_octetValues_iff]
  split
  · next empty =>
    refine absurd empty (trimmed ?_ ?_)
    · rintro ⟨⟩
      cases octets
    · rintro ⟨⟩
      cases octets
  · constructor
    · rintro ⟨encoding, done⟩
      obtain ⟨values, read, -⟩ := exists_of_bind_eq_ok done
      exact ⟨values, read⟩
    · rintro ⟨values, read⟩
      exact ⟨_, by rw [Option.elim_some, read]; rfl⟩

/-- A text that is not blank is not empty. -/
theorem filled_of_solid (solid : Default.isBlank (some (.known known)) (some text) = false) :
    text.shown.toList ≠ [] := by
  intro empty
  rw [Default.isBlank, String.toList_eq_nil_iff.1 empty] at solid
  cases solid

/-- A Unicode text is stored when its characters are whole. -/
theorem exists_ok_unicode_iff {text : Script} :
    (∃ encoding, ofFamily elements (some ⟨text.shown.toList, .decimal, text.isHalved⟩)
        .unicodeText = .ok encoding) ↔ Representable text .unicodeText := by
  rw [ofFamily, Representable]
  cases text.isHalved with
  | false => exact iff_of_true ⟨_, if_neg Bool.false_ne_true⟩ rfl
  | true =>
      refine iff_of_false ?_ (Ne.symm Bool.false_ne_true)
      rintro ⟨encoding, done⟩
      cases done

/-- Every family stores what it can represent, and nothing else. -/
theorem exists_ok_iff (elements : Int)
    (solid : Default.isBlank (some (.known known)) (some text) = false) :
    (∃ encoding, ofFamily elements (Default.written known.isString (some text)) known.family =
        .ok encoding) ↔ Representable text known.family := by
  cases family : known.family with
  | signed bytes =>
      have fixed : fixedType? known.family = some (signedType bytes) := by rw [family]; rfl
      rw [← family, Default.written_eq_literal (exists_width fixed).1 solid,
        exists_ok_fixed_iff fixed, family]
      rfl
  | unsigned bytes =>
      have fixed : fixedType? known.family = some (unsignedType bytes) := by rw [family]; rfl
      rw [← family, Default.written_eq_literal (exists_width fixed).1 solid,
        exists_ok_fixed_iff fixed, family]
      rfl
  | octetNumber bytes signed =>
      rw [← family, Default.written_eq_literal (narrow_of_octetNumber family).1 solid, family]
      exact exists_ok_oddWidth_iff family
  | octets => exact exists_ok_octets_iff family solid
  | boolean | real _ | domain =>
      have scalar : known.isString = false := by rw [DataType.isString, family]
      rw [Default.written_eq_literal scalar solid]
      exact iff_of_true ⟨_, rfl⟩ trivial
  | visibleText =>
      have strings : known.isString = true := by rw [DataType.isString, family]
      rw [written_string strings (filled_of_solid solid)]
      exact iff_of_true ⟨_, rfl⟩ trivial
  | unicodeText =>
      have strings : known.isString = true := by rw [DataType.isString, family]
      rw [written_string strings (filled_of_solid solid)]
      exact exists_ok_unicode_iff

/-! ## Defaults that are blank -/

/-- A blank default is made of blanks. -/
theorem trimChars_of_blank {type : Option TypeName} {default : Option Script}
    (blank : Default.isBlank type default = true) :
    Text.trimChars (default.getD "").shown.toList = [] := by
  refine Text.trimBy_eq_nil_iff.2 ?_
  cases default with
  | none => exact List.forall_mem_nil _
  | some text =>
      simp only [Default.isBlank, Bool.or_eq_true, Bool.and_eq_true, String.isEmpty_iff] at blank
      rcases blank with empty | ⟨-, white⟩
      · rw [Option.getD_some, empty]
        exact List.forall_mem_nil _
      · exact List.all_eq_true.1 white

/-- In a text that is kept with its blanks, a blank default has none either. -/
theorem toList_of_blank {default : Option Script}
    (verbatim : known = .visibleString ∨ known = .unicodeString)
    (blank : Default.isBlank (some (.known known)) default = true) :
    (default.getD "").shown.toList = [] := by
  cases default with
  | none => rfl
  | some text =>
      rcases verbatim with rfl | rfl <;> simpa [Default.isBlank] using blank

/-- Where nothing is written, elements are stored that are reserved. -/
theorem ofFamily_none (known : DataType) (elements : Int) :
    ∃ encoding, ofFamily elements none known.family = .ok encoding ∧
      (encoding.isDefined = true ↔ known.isString = true ∧ 0 < elements) := by
  rw [DataType.isString]
  cases known.family with
  | visibleText | octets | unicodeText =>
      by_cases reserved : elements ≤ 0
      · exact ⟨_, if_pos reserved, by simp [isDefined, reserved]⟩
      · exact ⟨_, if_neg reserved, by simp [isDefined, array, not_le.1 reserved]⟩
  | boolean | signed _ | unsigned _ | real _ | octetNumber _ _ | domain =>
      exact ⟨_, rfl, by simp [isDefined, emptyScalar]⟩

/-- Nothing is written by a blank default, unless it is a run of octets. -/
theorem written_of_blank {default : Option Script} (other : known ≠ .octetString)
    (blank : Default.isBlank (some (.known known)) default = true) :
    Default.written known.isString default = none := by
  have white := trimChars_of_blank blank
  rw [Default.written]
  split
  · rfl
  · next filled =>
    cases scalar : known.isString with
    | false => rw [if_neg Bool.false_ne_true, white]
    | true =>
        refine absurd (toList_of_blank ?_ blank) filled
        cases known <;> cases scalar
        · exact .inl rfl
        · exact absurd rfl other
        · exact .inr rfl

/-- Of a run of octets only the octets count. -/
theorem ofFamily_octets_blank {value : Option Default.Written}
    (white : Text.trimChars (value.elim [] (·.text)) = []) :
    ofFamily elements value .octets = ofFamily elements none .octets := by
  rw [ofFamily, ofFamily, white]
  rfl

/-- A blank default is as good as none. -/
theorem ofFamily_blank {default : Option Script}
    (blank : Default.isBlank (some (.known known)) default = true) :
    ofFamily elements (Default.written known.isString default) known.family =
      ofFamily elements none known.family := by
  by_cases octets : known = .octetString
  · subst octets
    refine ofFamily_octets_blank ?_
    have white := trimChars_of_blank blank
    by_cases empty : (default.getD "").shown.toList = []
    · rw [Default.written, empty]
      exact Text.trimBy_eq_nil_iff.2 (List.forall_mem_nil _)
    · cases default with
      | none => exact absurd rfl empty
      | some text =>
          rw [Option.getD_some] at empty white
          have strings : DataType.octetString.isString = true := rfl
          rw [written_string strings empty]
          exact white
  · rw [written_of_blank octets blank]

/-! ## Outcomes -/

theorem typeNamed_name (known : DataType) : typeNamed (some known.name) = some (.known known) := by
  rw [typeNamed, Option.map_some, TypeName.ofText, DataType.ofName?_name]

theorem initializer_failed (family : DataType.Family) : (failed family).initializer = none := by
  cases family <;> rfl

/-- A value of a known type is stored, or it is reported and not stored. -/
theorem ofDefault_known (known : DataType) (default : Option Script) (elements : Int) :
    (∃ encoding,
        ofFamily elements (Default.written known.isString default) known.family = .ok encoding ∧
        ofDefault (some (.known known)) default elements = (encoding, none)) ∨
      ((∀ encoding,
          ofFamily elements (Default.written known.isString default) known.family ≠ .ok encoding) ∧
        ∃ finding, ofDefault (some (.known known)) default elements =
          (failed known.family, some finding) ∧ IsRefusal known finding) := by
  rw [ofDefault]
  split
  · next encoding done => exact .inl ⟨encoding, done, rfl⟩
  · next error =>
    refine .inr ⟨fun encoding done => ?_, _, rfl, .conversion _⟩
    rw [error] at done
    cases done
  · next error =>
    refine .inr ⟨fun encoding done => ?_, _, rfl, .overflow _⟩
    rw [error] at done
    cases done

/-- A name that is not one of the known ones gives a type that is not known. -/
theorem ofDefault_unnamed {name : Option String}
    (other : ∀ known : DataType, name ≠ some known.name) (default : Option Script) (elements : Int) :
    ∃ shown, ofDefault (typeNamed name) default elements = ({}, some (.unknownType shown)) := by
  cases name with
  | none => exact ⟨_, rfl⟩
  | some name =>
      have none : DataType.ofName? name = none := by
        refine List.find?_eq_none.2 fun known _ same => other known ?_
        rw [eq_of_beq same]
      refine ⟨name, ?_⟩
      rw [typeNamed, Option.map_some, TypeName.ofText, none]
      rfl

theorem name_injective {known other : DataType} (same : known.name = other.name) :
    known = other := by
  have found := DataType.ofName?_name known
  rw [same, DataType.ofName?_name] at found
  exact (Option.some.inj found).symm

theorem IsRefusal.not_unknown {finding : Finding} (refusal : IsRefusal known finding) :
    ∀ shown, finding ≠ .unknownType shown := by
  cases refusal <;> exact nofun

/-- Nothing is found: then the elements that are there have a type. -/
theorem outcome_of_ok {default : Option Script} {encoding : Encoding}
    (fine : Default.isBlank (some (.known known)) default = true ∨
      ∃ text, default = some text ∧ Representable text known.family)
    (same : ofDefault (some (.known known)) default elements = (encoding, none))
    (stored : encoding.isDefined = true ↔
      (Default.isBlank (some (.known known)) default = false ∧ known ≠ .domain) ∨
        (known.isString = true ∧ 0 < elements)) :
    Outcome (some known.name) default elements (ofDefault (some (.known known)) default elements)
    where
  finding _ found := by
    rw [same] at found
    cases found
  unknown := by
    rw [same]
    exact iff_of_false nofun fun none => none known rfl
  refused other named := by
    obtain rfl := name_injective (Option.some.inj named)
    rw [same, typeNamed_name]
    refine iff_of_false nofun ?_
    rintro ⟨text, rfl, solid, unfit⟩
    rcases fine with blank | ⟨_, ⟨⟩, fits⟩
    · rw [blank] at solid
      cases solid
    · exact unfit fits
  stored := by
    have domain : known ≠ .domain ↔ some known.name ≠ some DataType.domain.name :=
      not_congr ⟨congrArg fun other : DataType => some other.name, fun same =>
        name_injective (Option.some.inj same)⟩
    have strings : (∃ other : DataType, some known.name = some other.name ∧ other.isString = true) ↔
        known.isString = true := by
      constructor
      · rintro ⟨other, named, strings⟩
        rwa [name_injective (Option.some.inj named)]
      · exact fun strings => ⟨known, rfl, strings⟩
    rw [same, typeNamed_name, strings, ← domain, stored]
    simp
  typed := (ofDefault_consistent _ _ _).typed

theorem outcome_of_refusal {text : Script} {finding : Finding}
    (solid : Default.isBlank (some (.known known)) (some text) = false)
    (unfit : ¬ Representable text known.family)
    (same : ofDefault (some (.known known)) (some text) elements =
      (failed known.family, some finding))
    (refusal : IsRefusal known finding) :
    Outcome (some known.name) (some text) elements
      (ofDefault (some (.known known)) (some text) elements) where
  finding _ found := by
    rw [same] at found
    cases found
    exact .inr ⟨known, refusal⟩
  unknown := by
    rw [same]
    refine iff_of_false ?_ fun none => none known rfl
    rintro ⟨shown, found⟩
    exact refusal.not_unknown shown (Option.some.inj found)
  refused other named := by
    obtain rfl := name_injective (Option.some.inj named)
    rw [same, typeNamed_name]
    exact iff_of_true ⟨finding, rfl, refusal⟩ ⟨text, rfl, solid, unfit⟩
  stored := by
    rw [same, isDefined, initializer_failed]
    exact iff_of_false nofun nofun
  typed := (ofDefault_consistent _ _ _).typed

/-- Any value that is not blank is stored, but for that of a domain. -/
theorem isDefined_iff_of_solid {text : Script} {encoding : Encoding}
    (solid : Default.isBlank (some (.known known)) (some text) = false)
    (done : ofFamily elements (Default.written known.isString (some text)) known.family =
      .ok encoding)
    (same : ofDefault (some (.known known)) (some text) elements = (encoding, none)) :
    encoding.isDefined = true ↔
      known ≠ .domain ∨ (known.isString = true ∧ 0 < elements) := by
  by_cases domain : known = .domain
  · subst domain
    cases done
    exact iff_of_false nofun fun
      | .inl other => other rfl
      | .inr ⟨string, _⟩ => nomatch string
  · have given : Default.isGiven (some (.known known)) (some text) = true := by
      simp [Default.isGiven, solid, domain]
    have stored : (ofDefault (some (.known known)) (some text) elements).1.isDefined = true :=
      isDefined_of_isGiven given (by rw [same])
    rw [same] at stored
    exact iff_of_true stored (.inl domain)

/-- A default has exactly the outcome that its type and its text call for. -/
theorem ofDefault_outcome (name : Option String) (default : Option Script) (elements : Int) :
    Outcome name default elements (ofDefault (typeNamed name) default elements) := by
  by_cases named : ∃ known : DataType, name = some known.name
  · obtain ⟨known, rfl⟩ := named
    rw [typeNamed_name]
    cases solid : Default.isBlank (some (.known known)) default with
    | true =>
        obtain ⟨encoding, done, reserved⟩ := ofFamily_none known elements
        rw [← ofFamily_blank solid] at done
        rcases ofDefault_known known default elements with ⟨again, also, same⟩ | ⟨none, _⟩
        · rw [done] at also
          cases also
          refine outcome_of_ok (.inl solid) same ?_
          rw [reserved, solid]
          simp
        · exact absurd done (none encoding)
    | false =>
        cases default with
        | none => cases solid
        | some text =>
            have fits := exists_ok_iff elements solid
            rcases ofDefault_known known (some text) elements with
              ⟨encoding, done, same⟩ | ⟨none, finding, same, refusal⟩
            · refine outcome_of_ok (.inr ⟨text, rfl, fits.1 ⟨encoding, done⟩⟩) same ?_
              rw [isDefined_iff_of_solid solid done same]
              simp [solid]
            · exact outcome_of_refusal solid (fun fit => absurd (fits.2 fit) (not_exists.2 none))
                same refusal
  · have other : ∀ known : DataType, name ≠ some known.name := not_exists.1 named
    obtain ⟨shown, same⟩ := ofDefault_unnamed other default elements
    rw [same]
    exact {
      finding := fun _ found => .inl ⟨shown, (Option.some.inj found).symm⟩
      unknown := iff_of_true ⟨shown, rfl⟩ other
      refused := fun known same => absurd same (other known)
      stored := iff_of_false nofun nofun
      typed := nofun }

/-- A text that holds nothing but one half of a character. -/
def halfText : Script :=
  .halved ⟨[0xD83D], by decide⟩

/-- Half of a character has no units of its own, so it is reported and not stored. -/
theorem ofDefault_halfText :
    ∃ shown, ofDefault (typeNamed (some "UNICODE_STRING")) (some halfText) 1 =
      (failed .unicodeText, some (.conversion shown "UNICODE_STRING")) ∧
      (failed .unicodeText).isDefined = false :=
  ⟨_, rfl, rfl⟩

end Encoding

end Canopen

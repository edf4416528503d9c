import Canopen.Proofs.Encoding.NodeId
import Canopen.Proofs.Encoding.Outcomes
import Canopen.Proofs.Literal.Characters

/-!
# Sums with the number of the node

A default may be a sum whose terms are literals and the number of the node.  The signs are left out
together with the placeholders, so that the literals are read as if they were written one behind the
other.  A single literal is the sum itself: it is stored or refused.  Several literals are read as one
literal, and the number that it spells is stored, whether it is the sum or not; blanks between them
are always refused.
-/

namespace Canopen

namespace Literal

/-- The literals without sign, however long, and the numbers that they spell. -/
inductive SpellsUnsigned : List Char → Nat → Prop where
  | hexadecimal {mark : Char} {digits suffix : List Char} {n : Nat}
      (marked : mark ∈ hexadecimalMarks) (numeral : IsNumeral .hexadecimal digits n)
      (letters : ∀ c ∈ suffix, c ∈ suffixLetters) :
      SpellsUnsigned ('0' :: mark :: (digits ++ suffix)) n
  | octal {digits : List Char} {n : Nat} (filled : digits ≠ [])
      (numeral : IsNumeral .octal ('0' :: digits) n) : SpellsUnsigned ('0' :: digits) n
  | decimal {digits : List Char} {n : Nat} (numeral : IsNumeral .decimal digits n)
      (other : ∀ c rest, digits = '0' :: c :: rest → c ∉ Base.octal.digits) :
      SpellsUnsigned digits n

variable {text word : List Char} {number : Int} {n : Nat}

theorem SpellsUnsigned.mem_literalChars (spells : SpellsUnsigned word n) :
    ∀ c ∈ word, c ∈ literalChars := by
  cases spells with
  | hexadecimal marked numeral letters =>
      exact mem_literalChars_marked marked (mem_literalChars_suffixed numeral letters)
  | octal filled numeral => exact numeral.mem_literalChars
  | decimal numeral => exact numeral.mem_literalChars

theorem SpellsUnsigned.ne_nil (spells : SpellsUnsigned word n) : word ≠ [] := by
  cases spells with
  | hexadecimal => exact List.cons_ne_nil _ _
  | octal => exact List.cons_ne_nil _ _
  | decimal numeral => exact numeral.filled

/-- Digits that show no other base are read as decimal ones. -/
theorem reading_of_isNumeral (numeral : IsNumeral .decimal word n)
    (other : ∀ c rest, word = '0' :: c :: rest → c ∉ Base.octal.digits) :
    reading word = integer .decimal word := by
  refine reading_eq_decimal (looksHexadecimal_eq_false ?_) (looksOctal_eq_false other)
  rintro mark body rfl marked
  exact (mark_other mark marked).1 (numeral.plain mark (by simp))

/-- A literal is read as the number that it spells, if it is read. -/
theorem SpellsUnsigned.eq_of_reading (spells : SpellsUnsigned word n)
    (read : reading word = .ok number) : number = n := by
  have same (spelled : Spells word n) : number = n := by
    rw [reading_of_spells spelled] at read
    exact (Except.ok.inj read).symm
  cases spells with
  | hexadecimal marked numeral letters => exact same (.hexadecimal marked numeral letters)
  | octal filled numeral => exact same (.octal filled numeral)
  | decimal numeral other =>
      -- a number of too many digits is not read at all
      rw [reading_of_isNumeral numeral other] at read
      obtain ⟨digits, m, numeral', -, ⟨rfl, -⟩ | ⟨rfl | rfl, same⟩⟩ :=
        integer_decimal_eq_ok_iff.1 read
      · exact absurd numeral (not_isNumeral_cons sign_other.1 _ _)
      · exact absurd numeral (not_isNumeral_cons sign_other.2 _ _)
      · rw [same, numeral'.value, numeral.value]

end Literal

namespace Default

/-- What a sum is made of. -/
inductive Operand where
  /-- The number of the node. -/
  | node
  | literal (word : List Char) (value : Nat) (spells : Literal.SpellsUnsigned word value)

namespace Operand

def text : Operand → List Char
  | node => nodeId
  | literal word _ _ => word

/-- What is left of the text: nothing of the number of the node. -/
def word : Operand → List Char
  | node => []
  | literal word _ _ => word

def value : Operand → Nat
  | node => 0
  | literal _ value _ => value

end Operand

/-- A term of a sum, with blanks around it. -/
structure Term where
  front : List Char
  operand : Operand
  behind : List Char
  front_blank : ∀ c ∈ front, Text.isBlank c = true
  behind_blank : ∀ c ∈ behind, Text.isBlank c = true

namespace Term

/-- A term without blanks. -/
def plain (operand : Operand) : Term :=
  ⟨[], operand, [], List.forall_mem_nil _, List.forall_mem_nil _⟩

def text (term : Term) : List Char :=
  term.front ++ (term.operand.text ++ term.behind)

/-- The literal with its blanks, or the blanks alone. -/
def rest (term : Term) : List Char :=
  term.front ++ (term.operand.word ++ term.behind)

end Term

/-- The terms with signs between them. -/
def sumText (terms : List Term) : List Char :=
  ['+'].intercalate (terms.map Term.text)

/-- The literals one behind the other, with the blanks between them. -/
def joined (terms : List Term) : List Char :=
  Text.trimChars (terms.flatMap Term.rest)

/-- The sum of the literals. -/
def total : List Term → Nat
  | [] => 0
  | term :: terms => term.operand.value + total terms

variable {terms : List Term}

/-! ## What is left of a sum -/

theorem sumText_cons_cons (first second : Term) (terms : List Term) :
    sumText (first :: second :: terms) = first.text ++ '+' :: sumText (second :: terms) := by
  rw [sumText, List.map_cons, List.map_cons, List.intercalate_cons_cons, List.append_assoc]
  rfl

theorem Operand.leftOver_text (operand : Operand) : leftOver operand.text = operand.word := by
  cases operand with
  | node => rfl
  | literal word value spells =>
      have plain := fun c inside => Literal.literalChars_plain c (spells.mem_literalChars c inside)
      refine leftOver_eq_self (fun held => ?_) fun sign => (plain '+' sign).2.1 rfl
      exact (plain '$' (held.subset List.mem_cons_self)).2.2 rfl

theorem Term.leftOver_text (term : Term) : leftOver term.text = term.rest := by
  rw [Term.text, leftOver_blank_append term.front_blank, leftOver_append_blank term.behind_blank,
    term.operand.leftOver_text, Term.rest]

theorem leftOver_sumText (terms : List Term) :
    leftOver (sumText terms) = terms.flatMap Term.rest := by
  induction terms with
  | nil => rfl
  | cons first terms ih =>
      cases terms with
      | nil =>
          rw [sumText, List.map_singleton, List.intercalate_singleton, first.leftOver_text,
            List.flatMap_singleton]
      | cons second terms =>
          rw [sumText_cons_cons, leftOver_append_sign, first.leftOver_text, ih]
          rfl

/-- The placeholder is held by a sum with the number of the node. -/
theorem infix_sumText (node : ∃ term ∈ terms, term.operand = .node) :
    nodeId <:+: sumText terms := by
  have held {term : Term} (same : term.operand = .node) : nodeId <:+: term.text := by
    rw [Term.text, same, infix_blank_append_iff term.front_blank,
      infix_append_blank_iff term.behind_blank]
    exact List.infix_refl _
  obtain ⟨term, among, same⟩ := node
  induction terms with
  | nil => cases among
  | cons first terms ih =>
      cases terms with
      | nil =>
          rw [List.mem_singleton.1 among] at same
          rw [sumText, List.map_singleton, List.intercalate_singleton]
          exact held same
      | cons second terms =>
          rw [sumText_cons_cons, infix_append_cons_iff (by decide)]
          rcases List.mem_cons.1 among with rfl | later
          · exact .inl (held same)
          · exact .inr (ih later)

/-- Something is left where there is a literal. -/
theorem joined_ne_nil (given : ∃ term ∈ terms, term.operand ≠ .node) : joined terms ≠ [] := by
  obtain ⟨term, among, other⟩ := given
  intro empty
  have white := Text.trimBy_eq_nil_iff.1 empty
  cases same : term.operand with
  | node => exact other same
  | literal word value spells =>
      obtain ⟨c, tail, rfl⟩ := List.exists_cons_of_ne_nil spells.ne_nil
      have inside : c ∈ terms.flatMap Term.rest := by
        refine List.mem_flatMap.2 ⟨term, among, ?_⟩
        simp [Term.rest, same, Operand.word]
      have solid := (Literal.literalChars_plain c (spells.mem_literalChars c List.mem_cons_self)).1
      rw [white c inside] at solid
      cases solid

/-- A sum is read as what is left of it. -/
theorem number_sum {text : String} (node : ∃ term ∈ terms, term.operand = .node)
    (given : ∃ term ∈ terms, term.operand ≠ .node) (written : text.toList = sumText terms) :
    number text = Literal.reading (joined terms) := by
  have held : nodeId <:+: text.toList := written ▸ infix_sumText node
  have left : Text.trimChars (leftOver text.toList) = joined terms := by
    rw [written, leftOver_sumText, joined]
  rw [number, literal, Script.shown_whole, offset_trimChars held left,
    if_neg (joined_ne_nil given)]
  rfl

/-- The only literal of a sum is what is left of it. -/
theorem joined_eq {front behind : List Term} {term : Term} {word : List Char} {value : Nat}
    {spells : Literal.SpellsUnsigned word value} (single : term.operand = .literal word value spells)
    (nodes : ∀ other ∈ front ++ behind, other.operand = .node) :
    joined (front ++ term :: behind) = word ∧ total (front ++ term :: behind) = value := by
  have white {terms : List Term} (nodes : ∀ other ∈ terms, other.operand = .node) :
      (∀ c ∈ terms.flatMap Term.rest, Text.isBlank c = true) ∧
        ∀ more, total (terms ++ more) = total more := by
    constructor
    · refine List.forall_mem_flatMap.2 fun other among => ?_
      rw [Term.rest, nodes other among]
      exact List.forall_mem_append.2 ⟨other.front_blank, other.behind_blank⟩
    · intro more
      induction terms with
      | nil => rfl
      | cons first terms ih =>
          rw [List.cons_append, total, nodes first List.mem_cons_self,
            ih fun other among => nodes other (List.mem_cons_of_mem _ among)]
          exact Nat.zero_add _
  obtain ⟨before, after⟩ := List.forall_mem_append.1 nodes
  have last : total behind = 0 := by
    have none := (white after).2 []
    rwa [List.append_nil] at none
  constructor
  · have solid := Literal.solid_of_literalChars spells.mem_literalChars
    have around : (front ++ term :: behind).flatMap Term.rest =
        (front.flatMap Term.rest ++ term.front) ++
          (word ++ (term.behind ++ behind.flatMap Term.rest)) := by
      simp [Term.rest, single, Operand.word]
    rw [joined, around]
    refine (Text.trimBy_around ?_ ?_ word).trans (Text.trimBy_eq_self_of_solid solid)
    · exact List.forall_mem_append.2 ⟨(white before).1, term.front_blank⟩
    · exact List.forall_mem_append.2 ⟨term.behind_blank, (white after).1⟩
  · rw [(white before).2, total, single, last]
    rfl

end Default

namespace Encoding

/-- The number is stored in the form of a type without sign. -/
inductive StoresUnsigned (number : Nat) : DataType.Family → Encoding → Prop where
  | fixed {bytes : Nat} {encoding : Encoding} {initial : Initializer}
      (typed : encoding.cType = some (unsignedType bytes)) (plain : encoding.elements = none)
      (stored : encoding.initializer = some initial)
      (writes : Writes number (.unsigned bytes) initial.text) :
      StoresUnsigned number (.unsigned bytes) encoding
  | octets {bytes : Nat} {encoding : Encoding} (stores : StoresOctets bytes number encoding) :
      StoresUnsigned number (.octetNumber bytes false) encoding

/-- Nothing is stored, and that is reported. -/
def Refused (known : DataType) (encoded : Encoding × Option Finding) : Prop :=
  encoded.1.initializer = none ∧ ∃ finding, encoded.2 = some finding ∧ IsRefusal known finding

/-- The bits of a type without sign. -/
def unsignedBits? : DataType.Family → Option Nat
  | .unsigned bytes => some (bytes * 8)
  | .octetNumber bytes false => some (bytes * 8)
  | _ => none

/-- What becomes of a sum with the number of the node. -/
structure Summed (known : DataType) (bits : Nat) (terms : List Default.Term)
    (encoded : Encoding × Option Finding) : Prop where
  /-- What the joined literals spell is stored if it fits, and nothing is found. -/
  kept : ∀ number : Nat, Literal.Reads (Default.joined terms) number →
    Literal.FitsUnsigned bits number →
    StoresUnsigned number known.family encoded.1 ∧ encoded.2 = none
  refused : (∀ number : Nat, Literal.Reads (Default.joined terms) number →
    ¬ Literal.FitsUnsigned bits number) → Refused known encoded
  /-- The sum is stored or refused, unless the joined literals spell another number that fits. -/
  sum : (StoresUnsigned (Default.total terms) known.family encoded.1 ∧ encoded.2 = none) ∨
      Refused known encoded ↔
    ∀ number : Nat, Literal.Reads (Default.joined terms) number →
      Literal.FitsUnsigned bits number → number = Default.total terms
  /-- A sum with one literal is stored or refused. -/
  single : ∀ front term behind, terms = front ++ term :: behind → term.operand ≠ .node →
    (∀ other ∈ front ++ behind, other.operand = .node) →
    (StoresUnsigned (Default.total terms) known.family encoded.1 ∧ encoded.2 = none) ∨
      Refused known encoded
  /-- Literals with blanks between them are refused. -/
  parted : (∃ c ∈ Default.joined terms, Text.isBlank c = true) → Refused known encoded

variable {known : DataType} {text : String} {elements : Int}

/-! ## One number is stored -/

theorem capitalHex_unique {width first second : Nat} {digits : List Char}
    (writes : Number.CapitalHex width first digits)
    (other : Number.CapitalHex width second digits) : first = second :=
  Option.some.inj (writes.spells.symm.trans other.spells)

theorem hexText_injective {digits digits' : List Char}
    (same : "0x" ++ String.ofList digits = "0x" ++ String.ofList digits') : digits = digits' := by
  have chars := congrArg String.toList same
  simp only [String.toList_append, String.toList_ofList] at chars
  exact List.append_cancel_left chars

theorem Writes.exists_digits {value : Int} {bytes : Nat} {written : String}
    (writes : Writes value (.unsigned bytes) written) :
    ∃ digits, written = "0x" ++ String.ofList digits ∧
      Number.CapitalHex (bytes * 2) value.toNat digits := by
  cases writes with
  | unsigned capital => exact ⟨_, rfl, capital⟩

theorem IsOctet.unique {first second : Nat} {word : String} (octet : IsOctet first word)
    (other : IsOctet second word) : first = second := by
  obtain ⟨digits, rfl, writes⟩ := octet
  obtain ⟨digits', same, writes'⟩ := other
  exact capitalHex_unique writes (hexText_injective same ▸ writes')

theorem IsOctet.length {octet : Nat} {word : String} (written : IsOctet octet word) :
    word.toList.length = 4 := by
  obtain ⟨digits, rfl, writes⟩ := written
  simp only [String.toList_append, String.toList_ofList, List.length_append, writes.length]
  rfl

/-- As many octets as before, written alike, are the same octets. -/
theorem octets_unique {octets octets' : List Nat} {words words' : List String}
    (written : List.Forall₂ IsOctet octets words) (written' : List.Forall₂ IsOctet octets' words')
    (count : octets.length = octets'.length)
    (same : [',', ' '].intercalate (words.map String.toList) =
      [',', ' '].intercalate (words'.map String.toList)) : octets = octets' := by
  induction written generalizing octets' words' with
  | nil => exact (List.length_eq_zero_iff.1 count.symm).symm
  | @cons octet word octets words first later ih =>
      cases written' with
      | nil => cases count
      | @cons octet' word' octets' words' first' later' =>
          have fewer : octets.length = octets'.length := Nat.succ.inj count
          have heads : word.toList.length = word'.toList.length := first.length.trans first'.length.symm
          cases later with
          | nil =>
              obtain rfl := List.length_eq_zero_iff.1 fewer.symm
              cases later'
              rw [List.map_singleton, List.map_singleton, List.intercalate_singleton,
                List.intercalate_singleton, String.toList_inj] at same
              rw [first.unique (same ▸ first')]
          | cons second rest =>
              cases later' with
              | nil => cases fewer
              | cons second' rest' =>
                  rw [List.map_cons, List.map_cons, List.map_cons, List.map_cons,
                    List.intercalate_cons_cons, List.intercalate_cons_cons, List.append_assoc,
                    List.append_assoc] at same
                  obtain ⟨head, behind⟩ := List.append_inj same heads
                  rw [String.toList_inj] at head
                  rw [first.unique (head ▸ first'), ih (.cons second' rest') fewer
                    (List.append_cancel_left behind)]

/-- One number is stored at most. -/
theorem StoresUnsigned.unique {first second : Nat} {family : DataType.Family} {encoding : Encoding}
    (stores : StoresUnsigned first family encoding) (other : StoresUnsigned second family encoding) :
    first = second := by
  cases stores with
  | @fixed bytes _ initial _ _ stored writes =>
      cases other with
      | @fixed _ _ initial' _ _ stored' writes' =>
          obtain rfl := Option.some.inj (stored.symm.trans stored')
          obtain ⟨digits, same, capital⟩ := writes.exists_digits
          obtain ⟨digits', same', capital'⟩ := writes'.exists_digits
          obtain rfl := hexText_injective (same.symm.trans same')
          exact capitalHex_unique capital capital'
  | octets stores =>
      cases other with
      | octets stores' =>
          obtain ⟨octets, words, initial, stored, count, value, text, written⟩ := stores.octets
          obtain ⟨octets', words', initial', stored', count', value', text', written'⟩ :=
            stores'.octets
          obtain rfl := Option.some.inj (stored.symm.trans stored')
          have same : octets = octets' := by
            refine octets_unique written written' (count.trans count'.symm) ?_
            have chars := congrArg String.toList (text.symm.trans text')
            simp only [String.toList_append, String.toList_intercalate] at chars
            exact List.append_cancel_left (List.append_cancel_right chars)
          subst same
          exact_mod_cast value.symm.trans value'

/-! ## Types without sign -/

/-- A type without sign holds no text, and is of a fixed or of an odd width. -/
theorem exists_unsigned {bits : Nat} (width : unsignedBits? known.family = some bits) :
    known.isString = false ∧ ((∃ type : CType, known.family = .unsigned type.size ∧
        unsignedType type.size = type ∧ bits = type.size * 8) ∨
      ∃ bytes, known.family = .octetNumber bytes false ∧ bits = bytes * 8) := by
  cases family : known.family with
  | unsigned bytes =>
      have fixed : fixedType? known.family = some (unsignedType bytes) := by rw [family]; rfl
      rw [family] at width
      cases width
      obtain ⟨scalar, ⟨other, -⟩ | ⟨same, named⟩⟩ := exists_width fixed
      · rw [family] at other
        cases other
      · have size := DataType.Family.unsigned.inj (family.symm.trans same)
        exact ⟨scalar, .inl ⟨_, congrArg _ size, named, congrArg (· * 8) size⟩⟩
  | octetNumber bytes signed =>
      obtain ⟨scalar, -⟩ := narrow_of_octetNumber family
      rw [family] at width
      cases signed with
      | false =>
          cases width
          exact ⟨scalar, .inr ⟨bytes, rfl, rfl⟩⟩
      | true => cases width
  | boolean | signed _ | real _ | visibleText | octets | unicodeText | domain =>
      rw [family] at width
      cases width

/-- A number that fits is stored, and nothing is found. -/
theorem storesUnsigned_of_fits {bits number : Nat} (width : unsignedBits? known.family = some bits)
    (spelled : Default.number text = .ok (number : Int))
    (fits : Literal.FitsUnsigned bits number) (elements : Int) :
    StoresUnsigned number known.family (ofDefault (some (.known known)) (some text) elements).1 ∧
      (ofDefault (some (.known known)) (some text) elements).2 = none := by
  obtain ⟨scalar, ⟨type, family, named, rfl⟩ | ⟨bytes, odd, rfl⟩⟩ := exists_unsigned width
  · have means : Means text known.family number := family ▸ .unsigned spelled fits
    obtain ⟨initial, stored, writes⟩ := ofFamily_of_means elements (.inr ⟨family, named⟩) means
    rw [ofDefault_literal scalar (Default.solid_of_number spelled), stored, family]
    rw [family] at writes
    exact ⟨.fixed (congrArg some named.symm) rfl rfl writes, rfl⟩
  · obtain ⟨-, narrow⟩ := narrow_of_octetNumber odd
    have reading := fits.fitsReading narrow false (Default.literal text).base
    rw [ofDefault_literal scalar (Default.solid_of_number spelled), odd, ofFamily,
      octetNumber_of_fitsReading narrow spelled reading, ofReading, if_pos fits]
    exact ⟨.octets (storesOctets_littleEndian fits), rfl⟩

/-- Where no number is spelled that fits, nothing is stored. -/
theorem refused_of_not_fits {bits : Nat} (width : unsignedBits? known.family = some bits)
    (solid : Default.isBlank (some (.known known)) (some text) = false)
    (unfit : ∀ number : Nat, Default.number text = .ok (number : Int) →
      ¬ Literal.FitsUnsigned bits number) (elements : Int) :
    Refused known (ofDefault (some (.known known)) (some text) elements) := by
  have none (number : Int) (spelled : Default.number text = .ok number) :
      ¬ Literal.FitsUnsigned bits number := by
    intro fits
    obtain ⟨n, rfl⟩ := Int.eq_ofNat_of_zero_le fits.1
    exact unfit n spelled fits
  rcases ofDefault_known known (some text) elements with
    ⟨encoding, done, -⟩ | ⟨-, finding, same, refusal⟩
  · obtain ⟨scalar, ⟨type, family, named, rfl⟩ | ⟨bytes, odd, rfl⟩⟩ := exists_unsigned width
    · have fixed : fixedType? known.family = some type := by
        rw [family]
        exact congrArg some named
      rw [Default.written_eq_literal scalar solid] at done
      obtain ⟨value, means⟩ := (exists_ok_fixed_iff fixed).1 ⟨encoding, done⟩
      rw [family] at means
      obtain ⟨⟩ | ⟨spelled, fits⟩ := means
      exact absurd fits (none value spelled)
    · rw [Default.written_eq_literal scalar solid, odd] at done
      obtain ⟨number, spelled, fits⟩ := (exists_ok_oddWidth_iff odd).1 ⟨encoding, done⟩
      exact absurd fits (none number spelled)
  · rw [same]
    exact ⟨initializer_failed _, finding, rfl, refusal⟩

/-! ## Sums -/

/-- Where the numbers that are meant are stored, and it is refused to mean none, a total is stored or
refused unless another number is meant. -/
theorem stored_or_refused_iff {encoded : Encoding × Option Finding} {meant : Nat → Prop}
    (kept : ∀ number, meant number →
      StoresUnsigned number known.family encoded.1 ∧ encoded.2 = none)
    (refused : (∀ number, ¬ meant number) → Refused known encoded) (total : Nat) :
    (StoresUnsigned total known.family encoded.1 ∧ encoded.2 = none) ∨ Refused known encoded ↔
      ∀ number, meant number → number = total := by
  constructor
  · intro either number means
    obtain ⟨stores, quiet⟩ := kept number means
    rcases either with ⟨stores', -⟩ | ⟨-, finding, found, -⟩
    · exact stores.unique stores'
    · rw [quiet] at found
      cases found
  · intro only
    by_cases some : ∃ number, meant number
    · obtain ⟨number, means⟩ := some
      exact .inl (only number means ▸ kept number means)
    · exact .inr (refused fun number means => some ⟨number, means⟩)

/-- The joined literals of a sum are stored as one literal, or refused as one. -/
theorem ofDefault_sum {bits : Nat} (width : unsignedBits? known.family = some bits)
    {terms : List Default.Term} (node : ∃ term ∈ terms, term.operand = .node)
    (given : ∃ term ∈ terms, term.operand ≠ .node)
    (written : text.toList = Default.sumText terms) (elements : Int) :
    Summed known bits terms (ofDefault (some (.known known)) (some text) elements) := by
  have spelled_iff (number : Nat) : Default.number text = .ok (number : Int) ↔
      Literal.Reads (Default.joined terms) number := by
    rw [Default.number_sum node given written]
    exact ⟨Literal.reads_of_reading, Literal.reading_of_reads⟩
  have solid : Default.isBlank (some (.known known)) (some text) = false :=
    Default.isBlank_eq_false (exists_solid (written ▸ Default.infix_sumText node))
  have kept (number : Nat)
      (means : Literal.Reads (Default.joined terms) number ∧ Literal.FitsUnsigned bits number) :=
    storesUnsigned_of_fits width ((spelled_iff number).2 means.1) means.2 elements
  have refused (none : ∀ number : Nat, ¬ (Literal.Reads (Default.joined terms) number ∧
      Literal.FitsUnsigned bits number)) :=
    refused_of_not_fits width solid (fun number spelled fits =>
      none number ⟨(spelled_iff number).1 spelled, fits⟩) elements
  have sum_iff := stored_or_refused_iff kept refused (Default.total terms)
  exact {
    kept := fun number reads fits => kept number ⟨reads, fits⟩
    refused := fun none => refused fun number means => none number means.1 means.2
    sum := by simpa only [and_imp] using sum_iff
    single := by
      rintro front term behind rfl other nodes
      refine sum_iff.2 fun number means => ?_
      cases operand : term.operand with
      | node => exact absurd operand other
      | literal word value spells =>
          obtain ⟨left, sum⟩ := Default.joined_eq operand nodes
          rw [left] at means
          have read := spells.eq_of_reading (Literal.reading_of_reads means.1)
          rw [sum]
          exact_mod_cast read
    parted := by
      rintro ⟨c, inside, white⟩
      refine refused fun number means => ?_
      rw [means.1.solid c inside] at white
      cases white }

/-- Blanks and suffix letters do not keep the one literal of a sum from being stored. -/
theorem ofDefault_sum_suffix :
    StoresUnsigned 0x123456 (.octetNumber 3 false)
        (ofDefault (some (.known .unsigned24)) (some "$NODEID+ 0x123456uL\t+$NODEID") 0).1 ∧
      (ofDefault (some (.known .unsigned24)) (some "$NODEID+ 0x123456uL\t+$NODEID") 0).2 = none := by
  have numeral : Literal.IsNumeral .hexadecimal ['1', '2', '3', '4', '5', '6'] 0x123456 :=
    ⟨by decide, forall_mem_of_all rfl, by decide⟩
  have letters : ∀ c ∈ ['u', 'L'], c ∈ Literal.suffixLetters := forall_mem_of_all rfl
  have marked : 'x' ∈ Literal.hexadecimalMarks := by decide
  let word : Default.Term :=
    { front := [' '], behind := ['\t']
      operand := .literal _ _ (.hexadecimal marked numeral letters)
      front_blank := forall_mem_of_all rfl
      behind_blank := forall_mem_of_all rfl }
  have nodes : ∀ other ∈ [Default.Term.plain .node] ++ [.plain .node], other.operand = .node := by
    simp [Default.Term.plain]
  have left : Default.joined ([.plain .node] ++ word :: [.plain .node]) =
      '0' :: 'x' :: (['1', '2', '3', '4', '5', '6'] ++ ['u', 'L']) :=
    (Default.joined_eq rfl nodes).1
  have reads : Literal.Reads (Default.joined ([.plain .node] ++ word :: [.plain .node])) 0x123456 :=
    left ▸ .literal (.hexadecimal marked numeral letters)
  have sum : Summed .unsigned24 24 ([.plain .node] ++ word :: [.plain .node])
      (ofDefault (some (.known .unsigned24)) (some "$NODEID+ 0x123456uL\t+$NODEID") 0) :=
    ofDefault_sum rfl ⟨_, List.mem_cons_self, rfl⟩
      ⟨word, List.mem_cons_of_mem _ List.mem_cons_self, nofun⟩ rfl 0
  exact sum.kept 0x123456 reads (by decide)

/-- One and two are stored as twelve, and nothing is found. -/
theorem sum_stored_joined :
    ∃ terms, (∃ term ∈ terms, term.operand = .node) ∧ (∃ term ∈ terms, term.operand ≠ .node) ∧
      "1+$NODEID+2".toList = Default.sumText terms ∧ Default.total terms = 3 ∧
      ofDefault (some (.known .unsigned8)) (some "1+$NODEID+2") 0 =
        (scalar .uint8 1 (.unsigned 2 12), none) ∧
      ¬ StoresUnsigned 3 DataType.unsigned8.family (scalar .uint8 1 (.unsigned 2 12)) := by
  have one : Literal.SpellsUnsigned ['1'] 1 :=
    .decimal ⟨by decide, forall_mem_of_all rfl, by decide⟩ (by rintro _ _ ⟨⟩)
  have two : Literal.SpellsUnsigned ['2'] 2 :=
    .decimal ⟨by decide, forall_mem_of_all rfl, by decide⟩ (by rintro _ _ ⟨⟩)
  have encoded : ofDefault (some (.known .unsigned8)) (some "1+$NODEID+2") 0 =
      (scalar .uint8 1 (.unsigned 2 12), none) := by decide
  have spelled : Default.number "1+$NODEID+2" = .ok ((12 : Nat) : Int) := by decide
  have width : unsignedBits? DataType.unsigned8.family = some 8 := rfl
  obtain ⟨twelve, -⟩ := storesUnsigned_of_fits width spelled (by decide) 0
  rw [encoded] at twelve
  refine ⟨[.plain (.literal _ _ one), .plain .node, .plain (.literal _ _ two)],
    ⟨.plain .node, by simp, rfl⟩, ⟨_, List.mem_cons_self, nofun⟩, rfl, rfl, encoded, ?_⟩
  intro three
  exact absurd (three.unique twelve) (by decide)

end Encoding

end Canopen

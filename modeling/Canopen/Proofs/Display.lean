import Canopen.Dictionary
import Canopen.Proofs.Number.Spelling
import Canopen.Value.Display

/-!
# Values in writing

A value that stands in quotes, brackets or digits, or that is called by its kind, does not begin as
the names of the shapes do, nor as the key that they stand under.  So no value names a shape by its
text but a text itself.
-/

namespace Canopen

/-- The letters that the names of the shapes begin with, and the key that they stand under. -/
def Shape.initials : List Char := ['V', 'A', 'R', 'o']

/-- The text begins neither as a name of a shape nor as the key for one. -/
def BeginsApart (text : List Char) : Prop :=
  ∀ c, text.head? = some c → c ∉ Shape.initials

theorem Shape.ofName?_of_beginsApart {text : String} (apart : BeginsApart text.toList) :
    Shape.ofName? text = none := by
  refine List.find?_eq_none.2 fun shape _ same => ?_
  have initial : ∃ c, shape.name.toList.head? = some c ∧ c ∈ Shape.initials := by
    cases shape <;> exact ⟨_, rfl, by decide⟩
  obtain ⟨c, first, letter⟩ := initial
  rw [eq_of_beq same] at first
  exact apart c first letter

namespace BeginsApart

variable {c : Char} {text : List Char}

theorem cons (other : c ∉ Shape.initials) (rest : List Char) : BeginsApart (c :: rest) := by
  rintro _ ⟨⟩
  exact other

theorem append (apart : BeginsApart text) (filled : text ≠ []) (rest : List Char) :
    BeginsApart (text ++ rest) := by
  obtain ⟨c, behind, rfl⟩ := List.exists_cons_of_ne_nil filled
  exact cons (apart c rfl) _

theorem of_mem (others : ∀ c ∈ text, c ∉ Shape.initials) : BeginsApart text :=
  fun c first => others c (List.mem_of_head? first)

/-- A text that begins with fixed words begins as they do. -/
theorem words (front rest : String) (first : front.toList.head? = some c)
    (other : c ∉ Shape.initials) : BeginsApart (front ++ rest).toList := by
  intro d begins
  rw [String.toList_append, List.head?_append, first, Option.some_or] at begins
  cases begins
  exact other

end BeginsApart

/-! ## Numbers -/

namespace Number

theorem not_initial_of_isDigit {c : Char} (digit : c.isDigit = true) : c ∉ Shape.initials := by
  intro letter
  have none : ∀ c ∈ Shape.initials, c.isDigit = false := forall_mem_of_all rfl
  rw [none c letter] at digit
  cases digit

theorem not_initial_of_mem_toDigits {n : Nat} : ∀ c ∈ Nat.toDigits 10 n, c ∉ Shape.initials :=
  fun _ inside => not_initial_of_isDigit (Nat.isDigit_of_mem_toDigits (by decide) (by decide) inside)

theorem beginsApart_decimal (n : Int) : BeginsApart (decimal n).toList := by
  rw [decimal, String.toList_ofList]
  cases n with
  | ofNat n => exact .of_mem not_initial_of_mem_toDigits
  | negSucc n => exact .cons (by decide) _

theorem not_initial_of_mem_padZeros {width : Nat} {digits : List Char}
    (others : ∀ c ∈ digits, c ∉ Shape.initials) :
    ∀ c ∈ padZeros width digits, c ∉ Shape.initials := by
  refine List.forall_mem_append.2 ⟨fun c zero => ?_, others⟩
  rw [List.eq_of_mem_replicate zero]
  decide

namespace Binary64

theorem not_initial_of_mem_pointAfter {point : Int} {digits : List Char}
    (others : ∀ c ∈ digits, c ∉ Shape.initials) :
    ∀ c ∈ pointAfter point digits, c ∉ Shape.initials := by
  have zeros (count : Nat) : ∀ c ∈ List.replicate count '0', c ∉ Shape.initials := by
    intro c zero
    rw [List.eq_of_mem_replicate zero]
    decide
  have point : '.' ∉ Shape.initials := by decide
  have zero : '0' ∉ Shape.initials := by decide
  unfold pointAfter
  split
  · exact List.forall_mem_cons.2 ⟨zero, List.forall_mem_cons.2
      ⟨point, List.forall_mem_append.2 ⟨zeros _, others⟩⟩⟩
  · split
    · refine List.forall_mem_append.2 ⟨List.forall_mem_append.2 ⟨others, zeros _⟩, ?_⟩
      exact List.forall_mem_cons.2 ⟨point, List.forall_mem_singleton.2 zero⟩
    · refine List.forall_mem_append.2 ⟨fun c inside => others c (List.mem_of_mem_take inside), ?_⟩
      exact List.forall_mem_cons.2 ⟨point, fun c inside => others c (List.mem_of_mem_drop inside)⟩

theorem beginsApart_scientific {power : Int} {digits : List Char}
    (others : ∀ c ∈ digits, c ∉ Shape.initials) : BeginsApart (scientific power digits) := by
  cases digits with
  | nil => rintro _ ⟨⟩
  | cons first rest => exact .cons (others first List.mem_cons_self) _

theorem beginsApart_layout (decimal : Decimal) : BeginsApart (layout decimal) := by
  have others : ∀ c ∈ (((Nat.toDigits 10 decimal.digits).reverse).dropWhile (· == '0')).reverse,
      c ∉ Shape.initials := by
    intro c inside
    have kept := (List.dropWhile_sublist _).subset (List.mem_reverse.1 inside)
    exact not_initial_of_mem_toDigits c (List.mem_reverse.1 kept)
  unfold layout
  simp only
  split
  · exact .of_mem (not_initial_of_mem_pointAfter others)
  · exact beginsApart_scientific others

theorem beginsApart_text (number : Binary64) : BeginsApart number.text.toList := by
  cases number with
  | finite negative significand exponent =>
      simp only [text, String.toList_ofList]
      split
      · exact .cons (by decide) _
      · split
        · exact .cons (by decide) _
        · exact beginsApart_layout _
  | infinite negative => cases negative <;> exact .cons (by decide) _
  | undefined => exact .cons (by decide) _

end Binary64

end Number

/-! ## Dates -/

/-- Padded digits are there, whatever stands behind them. -/
theorem beginsApart_paddedDecimal (width n : Nat) (rest : String) :
    BeginsApart (paddedDecimal width n ++ rest).toList := by
  have digits : ∀ c ∈ Number.padZeros width (Nat.toDigits 10 n), c ∉ Shape.initials :=
    Number.not_initial_of_mem_padZeros Number.not_initial_of_mem_toDigits
  have filled : Number.padZeros width (Nat.toDigits 10 n) ≠ [] := by
    intro empty
    exact Nat.toDigits_ne_nil (List.append_eq_nil_iff.1 empty).2
  rw [String.toList_append, paddedDecimal, String.toList_ofList]
  exact (BeginsApart.of_mem digits).append filled _

theorem Date.beginsApart_text (date : Date) : BeginsApart date.text.toList := by
  rw [text]
  simp only [String.append_assoc]
  exact beginsApart_paddedDecimal 4 date.year _

theorem Moment.beginsApart_text (moment : Moment) : BeginsApart moment.text.toList := by
  rw [text, Date.text]
  simp only [String.append_assoc]
  exact beginsApart_paddedDecimal 4 moment.date.year _

theorem Date.beginsApart_inspect (date : Date) : BeginsApart date.inspect.toList := by
  unfold inspect
  simp only [String.append_assoc]
  exact .words "datetime.date(" _ rfl (by decide)

theorem Moment.beginsApart_inspect (moment : Moment) : BeginsApart moment.inspect.toList := by
  unfold inspect
  simp only [String.append_assoc]
  exact .words "datetime.datetime(" _ rfl (by decide)

/-! ## Values -/

namespace Value

theorem beginsApart_quoted (text : String) : BeginsApart (Text.quoted text).toList := by
  rw [Text.quoted, String.toList_ofList, Text.quotedChars]
  refine .cons ?_ _
  unfold Text.quoteFor
  split <;> decide

theorem beginsApart_quotedHalves (halves : Halves) :
    BeginsApart (Text.quotedHalves halves).toList := by
  rw [Text.quotedHalves, String.toList_ofList]
  refine .cons ?_ _
  unfold Text.quoteFor
  split <;> decide

theorem beginsApart_ellipsis (value : Value) : BeginsApart (ellipsis value).toList := by
  unfold ellipsis
  split <;> exact .cons (by decide) _

/-- Whatever a value is, in writing it stands in quotes, brackets or digits or is called by words. -/
theorem beginsApart_inspectIn (around : List Nat) (value : Value) :
    BeginsApart (inspectIn around value).toList := by
  match value with
  | null | bool true | bool false | set [] =>
      rw [inspectIn]
      exact .cons (by decide) _
  | int number =>
      rw [inspectIn]
      exact Number.beginsApart_decimal number
  | float number =>
      rw [inspectIn]
      exact number.beginsApart_text
  | text _ =>
      rw [inspectIn]
      exact beginsApart_quoted _
  | halved _ =>
      rw [inspectIn]
      exact beginsApart_quotedHalves _
  | bytes octets =>
      rw [inspectIn, quotedOctets, String.toList_ofList]
      exact .cons (by decide) _
  | date _ =>
      rw [inspectIn]
      exact Date.beginsApart_inspect _
  | moment _ =>
      rw [inspectIn]
      exact Moment.beginsApart_inspect _
  | list items =>
      rw [inspectIn, String.append_assoc]
      exact .words "[" _ rfl (by decide)
  | set (item :: items) =>
      rw [inspectIn, String.append_assoc]
      exact .words "\x7b" _ rfl (by decide)
  | pair first second =>
      rw [inspectIn]
      simp only [String.append_assoc]
      exact .words "(" _ rfl (by decide)
  | map fields =>
      rw [inspectIn, String.append_assoc]
      exact .words "\x7b" _ rfl (by decide)
  | named number content =>
      rw [inspectIn]
      split
      · exact beginsApart_ellipsis content
      · exact beginsApart_inspectIn (number :: around) content

/-- No value names a shape when it is written as it stands inside a collection. -/
theorem ofName?_inspect (value : Value) : Shape.ofName? value.inspect = none :=
  Shape.ofName?_of_beginsApart (beginsApart_inspectIn [] value)

end Value

end Canopen

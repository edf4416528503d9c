import Canopen.Proofs.Literal.Grammar
import Canopen.Text.Blank

/-!
# The characters of literals

Literals are made of digits, marks and suffix letters, and of a sign in front of them.  No other
character is read, so that no blank is.
-/

namespace Canopen.Literal

/-- The characters of literals without sign. -/
def literalChars : List Char :=
  Base.hexadecimal.digits ++ hexadecimalMarks ++ suffixLetters

variable {base : Base} {text : List Char} {number : Int} {n : Nat}

/-- The characters of literals are neither blanks nor signs, and no placeholder begins with one. -/
theorem literalChars_plain :
    ∀ c ∈ literalChars, Text.isBlank c = false ∧ c ≠ '+' ∧ c ≠ '$' :=
  forall_mem_of_all rfl

theorem mem_literalChars_of_digit : ∀ c ∈ base.digits, c ∈ literalChars := by
  cases base <;> exact forall_mem_of_all rfl

theorem mem_literalChars_of_mark : ∀ c ∈ hexadecimalMarks, c ∈ literalChars :=
  forall_mem_of_all rfl

theorem mem_literalChars_of_suffix : ∀ c ∈ suffixLetters, c ∈ literalChars :=
  forall_mem_of_all rfl

theorem IsNumeral.mem_literalChars (numeral : IsNumeral base text n) :
    ∀ c ∈ text, c ∈ literalChars :=
  fun c inside => mem_literalChars_of_digit c (numeral.plain c inside)

/-- Behind a mark, too, stand characters of literals only. -/
theorem mem_literalChars_marked {mark : Char} (marked : mark ∈ hexadecimalMarks)
    (behind : ∀ c ∈ text, c ∈ literalChars) : ∀ c ∈ '0' :: mark :: text, c ∈ literalChars :=
  List.forall_mem_cons.2 ⟨by decide,
    List.forall_mem_cons.2 ⟨mem_literalChars_of_mark mark marked, behind⟩⟩

theorem mem_literalChars_suffixed {suffix : List Char} (numeral : IsNumeral base text n)
    (letters : ∀ c ∈ suffix, c ∈ suffixLetters) : ∀ c ∈ text ++ suffix, c ∈ literalChars :=
  List.forall_mem_append.2 ⟨numeral.mem_literalChars,
    fun c inside => mem_literalChars_of_suffix c (letters c inside)⟩

theorem solid_of_literalChars (chars : ∀ c ∈ text, c ∈ literalChars) :
    ∀ c ∈ text, Text.isBlank c = false :=
  fun c inside => (literalChars_plain c (chars c inside)).1

/-- No text is read that holds a blank. -/
theorem Reads.solid (reads : Reads text number) : ∀ c ∈ text, Text.isBlank c = false := by
  cases reads with
  | literal spells =>
      cases spells with
      | hexadecimal marked numeral letters =>
          exact solid_of_literalChars
            (mem_literalChars_marked marked (mem_literalChars_suffixed numeral letters))
      | octal filled numeral => exact solid_of_literalChars numeral.mem_literalChars
      | decimal numeral => exact solid_of_literalChars numeral.mem_literalChars
      | positive numeral =>
          exact List.forall_mem_cons.2
            ⟨by decide, solid_of_literalChars numeral.mem_literalChars⟩
      | negative numeral =>
          exact List.forall_mem_cons.2
            ⟨by decide, solid_of_literalChars numeral.mem_literalChars⟩
  | lettered marked among digit numeral =>
      refine solid_of_literalChars (mem_literalChars_marked marked fun c inside => ?_)
      by_cases letter : c ∈ suffixLetters
      · exact mem_literalChars_of_suffix c letter
      · exact numeral.mem_literalChars c (List.mem_filter.2 ⟨inside, by simpa using letter⟩)

end Canopen.Literal

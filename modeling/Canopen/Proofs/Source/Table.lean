import Canopen.Proofs.Image.Links
import Canopen.Proofs.Source.Agreement
import Canopen.Proofs.Source.Words

/-!
# The table as it is read

A row of the table has four columns: index, number of parts, tag and the member that it refers to.
The last row, which ends the table, refers to nothing.
-/

namespace Canopen.Source

open CName (IsWord)

/-- What follows the next comma and the blank behind it. -/
def behindComma (text : List Char) : List Char :=
  (text.dropWhile (· ≠ ',')).drop 2

/-- The tag of a row and the member that the row refers to. -/
def rowReference? (dictionary line : String) : Option (String × String) :=
  (Warning.after? (indent 1 ++ openBrace).toList line.toList).bind fun columns =>
    let tagged := behindComma (behindComma columns)
    (wordBehind? ("&" ++ dictionary ++ "Objs.") (String.ofList (behindComma tagged))).map fun member =>
      (wordOf tagged, member)

/-- The digits in the second column of a row, behind the mark of their base. -/
def rowCount? (line : String) : Option (List Char) :=
  (Warning.after? (indent 1 ++ openBrace).toList line.toList).bind fun columns =>
    Warning.after? ['0', 'x'] ((behindComma columns).takeWhile (· ≠ ','))

/-- The lines of what is found under a name. -/
def linesUnder (name : String) (found : List (String × List String)) : List String :=
  (found.filter (·.1 == name)).flatMap (·.2)

/-- The rows of the table in a source: the tag of each and the member that it refers to. -/
def listRows (name : String) (source : List Construct) : List (String × String) :=
  (linesUnder ("static const OD_entry_t " ++ name ++ "List[]")
    ((part "Object dictionary" source).filterMap Construct.definition?)).filterMap
      (rowReference? name)

/-- The second column of the table in a source, down to the row that ends the table. -/
def listCounts (name : String) (source : List Construct) : List (List Char) :=
  (linesUnder ("static const OD_entry_t " ++ name ++ "List[]")
    ((part "Object dictionary" source).filterMap Construct.definition?)).filterMap rowCount?

/-! ## One row -/

theorem behindComma_append {front : List Char} (plain : ',' ∉ front) (rest : List Char) :
    behindComma (front ++ ',' :: ' ' :: rest) = rest := by
  have passed : ∀ c ∈ front, decide (c ≠ ',') = true := by
    intro c inside
    refine decide_eq_true ?_
    rintro rfl
    exact plain inside
  rw [behindComma, List.dropWhile_append_of_pos passed, List.dropWhile_cons_of_neg (by simp)]
  rfl

theorem isWord_typeTag (row : Row) : IsWord row.typeTag := by
  have mark : IsWord (if row.extended then "E" else "") := by
    cases row.extended <;> exact CName.isWord_of_all rfl
  have shape : IsWord row.shape.tag := by
    cases row.shape <;> exact CName.isWord_of_all rfl
  exact ((CName.isWord_of_all rfl).append mark).append shape

theorem isWord_member {row : Row} (word : IsWord row.name) : IsWord row.member := by
  unfold Row.member
  split
  · exact (CName.isWord_of_all rfl).append word
  · exact (CName.isWord_of_all rfl).append word

/-- The columns of a row. -/
theorem rowLine_eq (dictionary : String) (row : Row) :
    (rowLine dictionary row).toList =
      (indent 1 ++ openBrace).toList ++
        (("0x" ++ Number.paddedHex 4 row.index).toList ++ ',' :: ' ' ::
          (("0x" ++ Number.paddedHex 2 row.subCount).toList ++ ',' :: ' ' ::
            (row.typeTag.toList ++ ',' :: ' ' ::
              ("&" ++ dictionary ++ "Objs." ++ row.member ++ (closeBrace ++ ",")).toList))) := by
  unfold rowLine Row.member
  cases row.extended <;> simp [String.toList_append]

theorem rowReference?_rowLine (dictionary : String) {row : Row} (word : IsWord row.name) :
    rowReference? dictionary (rowLine dictionary row) = some (row.typeTag, row.member) := by
  have hex (width n : Nat) : ',' ∉ ("0x" ++ Number.paddedHex width n).toList :=
    ((CName.isWord_of_all rfl).append (CName.isWord_paddedHex width n)).not_mem (by decide)
  have tag : ',' ∉ row.typeTag.toList := (isWord_typeTag row).not_mem (by decide)
  have ends : EndsWord (closeBrace ++ ",").toList := endsWord_cons (by decide) [',']
  have found : wordBehind? ("&" ++ dictionary ++ "Objs.")
      ("&" ++ dictionary ++ "Objs." ++ row.member ++ (closeBrace ++ ",")) = some row.member :=
    wordBehind?_of_eq (isWord_member word) ends rfl
  have tagged := wordOf_append (isWord_typeTag row)
    (endsWord_cons (c := ',') (by decide)
      (' ' :: ("&" ++ dictionary ++ "Objs." ++ row.member ++ (closeBrace ++ ",")).toList))
  rw [rowReference?, rowLine_eq, Warning.after?_eq_some_iff.2 rfl, Option.bind_some]
  simp only [behindComma_append (hex 4 row.index), behindComma_append (hex 2 row.subCount),
    behindComma_append tag, String.ofList_toList, found, tagged, Option.map_some]

/-- The columns of the last row. -/
theorem lastLine_eq :
    (indent 1 ++ openBrace ++ "0x0000, 0x00, 0, NULL" ++ closeBrace).toList =
      (indent 1 ++ openBrace).toList ++ ("0x0000".toList ++ ',' :: ' ' ::
        ("0x00".toList ++ ',' :: ' ' ::
          ("0".toList ++ ',' :: ' ' :: ("NULL" ++ closeBrace).toList))) := by
  simp [String.toList_append]

/-- The last row refers to nothing. -/
theorem rowReference?_last (dictionary : String) :
    rowReference? dictionary (indent 1 ++ openBrace ++ "0x0000, 0x00, 0, NULL" ++ closeBrace) =
      none := by
  have index : ',' ∉ "0x0000".toList := by decide
  have subCount : ',' ∉ "0x00".toList := by decide
  have tag : ',' ∉ "0".toList := by decide
  have begins : ("&" ++ dictionary ++ "Objs.").toList = '&' :: (dictionary ++ "Objs.").toList := by
    simp [String.toList_append]
  have none : wordBehind? ("&" ++ dictionary ++ "Objs.") ("NULL" ++ closeBrace) = none :=
    wordBehind?_other begins rfl (by decide)
  rw [rowReference?, lastLine_eq, Warning.after?_eq_some_iff.2 rfl, Option.bind_some]
  simp only [behindComma_append index, behindComma_append subCount, behindComma_append tag,
    String.ofList_toList, none, Option.map_none]

/-- The digits of a number between two commas. -/
theorem rowCount?_of_eq {line : String} {index digits rest : List Char} (first : ',' ∉ index)
    (second : ',' ∉ digits)
    (columns : line.toList = (indent 1 ++ openBrace).toList ++
      (index ++ ',' :: ' ' :: (('0' :: 'x' :: digits) ++ ',' :: rest))) :
    rowCount? line = some digits := by
  have plain : ∀ c ∈ '0' :: 'x' :: digits, decide (c ≠ ',') = true := by
    intro c inside
    refine decide_eq_true ?_
    rintro rfl
    simp [second] at inside
  have column : (('0' :: 'x' :: digits) ++ ',' :: rest).takeWhile (· ≠ ',') =
      ['0', 'x'] ++ digits := by
    rw [List.takeWhile_append_of_pos plain, List.takeWhile_cons_of_neg (by simp), List.append_nil]
    rfl
  rw [rowCount?, columns, Warning.after?_eq_some_iff.2 rfl, Option.bind_some,
    behindComma_append first, column]
  exact Warning.after?_eq_some_iff.2 rfl

/-- A row announces its number of parts. -/
theorem rowCount?_rowLine (dictionary : String) (row : Row) :
    rowCount? (rowLine dictionary row) = some (Number.paddedHexChars 2 row.subCount) := by
  have index : ',' ∉ ("0x" ++ Number.paddedHex 4 row.index).toList :=
    ((CName.isWord_of_all rfl).append (CName.isWord_paddedHex 4 row.index)).not_mem (by decide)
  have digits : ',' ∉ Number.paddedHexChars 2 row.subCount := fun inside =>
    absurd (Number.mem_capitalHexDigits inside) (by decide)
  have column : ("0x" ++ Number.paddedHex 2 row.subCount).toList =
      '0' :: 'x' :: Number.paddedHexChars 2 row.subCount := by
    simp [Number.paddedHex, String.toList_append]
  have columns := rowLine_eq dictionary row
  rw [column] at columns
  exact rowCount?_of_eq index digits columns

/-! ## All rows -/

variable (version filename : String) (image : Image)

theorem linesUnder_singleton (name : String) (lines : List String) :
    linesUnder name [(name, lines)] = lines := by
  simp [linesUnder]

theorem linesUnder_pair {name other : String} (differ : other ≠ name) (lines others : List String) :
    linesUnder name [(name, lines), (other, others)] = lines := by
  simp [linesUnder, differ]

theorem tables_source :
    (part "Object dictionary" (constructs (bodyLines version filename image))).filterMap
        Construct.definition? =
      [("static const OD_entry_t " ++ image.name ++ "List[]",
          image.rows.map (rowLine image.name) ++
            [indent 1 ++ openBrace ++ "0x0000, 0x00, 0, NULL" ++ closeBrace]),
        ("const OD_t " ++ image.name,
          [indent 1 ++ "(sizeof(" ++ image.name ++ "List) / sizeof(" ++ image.name ++ "List[0])) - 1,",
            indent 1 ++ "&" ++ image.name ++ "List[0]"])] := by
  have list : "static const OD_entry_t " ++ image.name ++ "List[] = " ++ openBrace =
      "static const OD_entry_t " ++ image.name ++ "List[]" ++ " = \x7b" := by
    simp [← String.toList_inj, openBrace]
  have handle : "const OD_t " ++ image.name ++ " = " ++ openBrace =
      "const OD_t " ++ image.name ++ " = \x7b" := by
    simp [← String.toList_inj, openBrace]
  rw [part_table, filterMap_nonblank rfl, listItems,
    List.filterMap_cons_some (Construct.definition?_braces _ list), List.filterMap_cons_none rfl,
    List.filterMap_cons_some (Construct.definition?_braces _ handle), List.filterMap_cons_none rfl,
    List.filterMap_nil]

theorem handle_ne_list (name : String) :
    "const OD_t " ++ name ≠ "static const OD_entry_t " ++ name ++ "List[]" := by
  intro same
  have first := congrArg (fun text => text.toList.head?) same
  simp [String.toList_append] at first

/-- The table refers to the members of the rows, one after another. -/
theorem listRows_source (words : ∀ row ∈ image.rows, IsWord row.name) :
    listRows image.name (constructs (bodyLines version filename image)) =
      image.rows.map fun row => (row.typeTag, row.member) := by
  have rows : (image.rows.map (rowLine image.name)).filterMap (rowReference? image.name) =
      image.rows.map fun row => (row.typeTag, row.member) :=
    filterMap_map_single fun row inside => rowReference?_rowLine image.name (words row inside)
  have last : [indent 1 ++ openBrace ++ "0x0000, 0x00, 0, NULL" ++ closeBrace].filterMap
      (rowReference? image.name) = [] := by
    rw [List.filterMap_cons, rowReference?_last]
    rfl
  rw [listRows, tables_source, linesUnder_pair (handle_ne_list image.name), List.filterMap_append, rows, last,
    List.append_nil]

/-- The table announces the number of parts of every row, and none in its last row. -/
theorem listCounts_source :
    listCounts image.name (constructs (bodyLines version filename image)) =
      (image.rows.map fun row => Number.paddedHexChars 2 row.subCount) ++ [['0', '0']] := by
  have rows : (image.rows.map (rowLine image.name)).filterMap rowCount? =
      image.rows.map fun row => Number.paddedHexChars 2 row.subCount :=
    filterMap_map_single fun row _ => rowCount?_rowLine image.name row
  have last : rowCount? (indent 1 ++ openBrace ++ "0x0000, 0x00, 0, NULL" ++ closeBrace) =
      some ['0', '0'] := by
    have index : ',' ∉ "0x0000".toList := by decide
    have digits : ',' ∉ ['0', '0'] := by decide
    exact rowCount?_of_eq index digits lastLine_eq
  rw [listCounts, tables_source, linesUnder_pair (handle_ne_list image.name),
    List.filterMap_append, rows, List.filterMap_cons_some last, List.filterMap_nil]

end Canopen.Source

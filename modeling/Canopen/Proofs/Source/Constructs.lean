import Mathlib.Data.List.TakeWhile
import Canopen.Source.Block

/-!
# Generated files as a reader sees them

A generated file is read line by line: comments stand between rules, a line that ends with an opening
brace begins a construct, and a line that begins with a closing brace ends it.  Lines inside braces
are indented, so whatever texts they hold, they are not taken for anything else.
-/

namespace Canopen.Source

/-- What a generated file is made of. -/
inductive Construct where
  | line (text : String)
  | comment (inner : List String)
  | braces (opening : String) (inner : List String) (closing : String)
deriving DecidableEq, Repr

/-- What a reader is in the middle of. -/
inductive Reading where
  | outside
  | comment (inner : List String)
  | braces (opening : String) (inner : List String)

/-- The line ends with an opening brace. -/
def opens (line : String) : Bool :=
  line.toList.getLast? == some '\x7b'

/-- The line begins with a closing brace. -/
def closes (line : String) : Bool :=
  line.toList.head? == some '\x7d'

/-- The constructs of lines; one that is not finished is left out. -/
def constructsFrom : Reading → List String → List Construct
  | _, [] => []
  | .outside, line :: rest =>
      if opens line then constructsFrom (.braces line []) rest
      else if line = "/" ++ rule then constructsFrom (.comment []) rest
      else .line line :: constructsFrom .outside rest
  | .comment inner, line :: rest =>
      if line = rule ++ "/" then .comment inner :: constructsFrom .outside rest
      else constructsFrom (.comment (inner ++ [line])) rest
  | .braces opening inner, line :: rest =>
      if closes line then .braces opening inner line :: constructsFrom .outside rest
      else constructsFrom (.braces opening (inner ++ [line])) rest

/-- The constructs of a file. -/
def constructs (lines : List String) : List Construct :=
  constructsFrom .outside lines

/-! ## Single lines -/

/-- The line stands for itself: it neither opens a construct nor begins a comment. -/
def IsPlain (line : String) : Prop :=
  ∃ last, line.toList.getLast? = some last ∧ last ≠ '\x7b' ∧ last ≠ '*'

/-- The line stands inside braces. -/
def IsIndented (line : String) : Prop :=
  ∃ text, line = indent 1 ++ text

theorem indent_succ (level : Nat) : indent (level + 1) = indent 1 ++ indent level := by
  rw [indent, indent, indent, ← String.ofList_append, List.replicate_append_replicate]
  congr 2
  omega

theorem isIndented_indent (level : Nat) (text : String) :
    IsIndented (indent (level + 1) ++ text) :=
  ⟨indent level ++ text, by rw [indent_succ, String.append_assoc]⟩

theorem IsIndented.closes {line : String} (indented : IsIndented line) : closes line = false := by
  obtain ⟨text, rfl⟩ := indented
  simp [Source.closes, indent, String.toList_append]

theorem opens_append_openBrace (text : String) : opens (text ++ openBrace) = true := by
  simp [opens, openBrace, String.toList_append]

theorem closes_closeBrace_append (text : String) : closes (closeBrace ++ text) = true := by
  simp [closes, closeBrace, String.toList_append]

theorem IsIndented.ne_ruled {line : String} (indented : IsIndented line) : line ≠ rule ++ "/" := by
  obtain ⟨text, rfl⟩ := indented
  intro same
  have first : (indent 1 ++ text).toList.head? = some ' ' := by
    simp [indent, String.toList_append]
  have ruled : (rule ++ "/").toList.head? = some '*' := by decide +kernel
  rw [same, ruled] at first
  cases first

theorem IsPlain.append (text : String) {ending : String} (plain : IsPlain ending) :
    IsPlain (text ++ ending) := by
  obtain ⟨last, ends, other⟩ := plain
  refine ⟨last, ?_, other⟩
  rw [String.toList_append, List.getLast?_append, ends]
  rfl

theorem IsPlain.opens {line : String} (plain : IsPlain line) : opens line = false := by
  obtain ⟨last, ends, brace, _⟩ := plain
  simp [Source.opens, ends, brace]

theorem IsPlain.ne_rule {line : String} (plain : IsPlain line) : line ≠ "/" ++ rule := by
  obtain ⟨last, ends, _, star⟩ := plain
  rintro rfl
  have ruled : ("/" ++ rule).toList.getLast? = some '*' := by decide +kernel
  rw [ruled] at ends
  exact star (Option.some.inj ends).symm

/-! ## Reading lines one after another -/

/-- The lines are read as these constructs, whatever comes behind them. -/
def Reads (lines : List String) (items : List Construct) : Prop :=
  ∀ rest, constructs (lines ++ rest) = items ++ constructs rest

theorem Reads.constructs_eq {lines : List String} {items : List Construct}
    (reads : Reads lines items) : constructs lines = items := by
  have alone := reads []
  rwa [List.append_nil, show constructs [] = [] from rfl, List.append_nil] at alone

theorem reads_nil : Reads [] [] :=
  fun _ => rfl

theorem Reads.append {first second : List String} {firstItems secondItems : List Construct}
    (front : Reads first firstItems) (back : Reads second secondItems) :
    Reads (first ++ second) (firstItems ++ secondItems) := by
  intro rest
  rw [List.append_assoc, front, back, List.append_assoc]

theorem reads_flatMap {α : Type} {lines : α → List String} {items : α → List Construct}
    (list : List α) (each : ∀ item ∈ list, Reads (lines item) (items item)) :
    Reads (list.flatMap lines) (list.flatMap items) := by
  induction list with
  | nil => exact reads_nil
  | cons item later ih =>
      exact (each item List.mem_cons_self).append
        (ih fun other inside => each other (List.mem_cons_of_mem _ inside))

theorem reads_line {line : String} (plain : IsPlain line) : Reads [line] [.line line] := by
  intro rest
  rw [List.singleton_append, constructs, constructsFrom, plain.opens, if_neg Bool.false_ne_true,
    if_neg plain.ne_rule]
  rfl

theorem reads_blank : Reads [""] [.line ""] :=
  fun _ => rfl

theorem reads_lines {α : Type} {line : α → String} (list : List α)
    (plain : ∀ item ∈ list, IsPlain (line item)) :
    Reads (list.map line) (list.map fun item => .line (line item)) := by
  rw [List.map_eq_flatMap, List.map_eq_flatMap]
  exact reads_flatMap list fun item inside => reads_line (plain item inside)

theorem constructsFrom_braces (opening : String) {inner : List String} {closing : String}
    (indented : ∀ line ∈ inner, IsIndented line) (closed : closes closing = true)
    (before rest : List String) :
    constructsFrom (.braces opening before) (inner ++ closing :: rest) =
      .braces opening (before ++ inner) closing :: constructs rest := by
  induction inner generalizing before with
  | nil =>
      rw [List.nil_append, constructsFrom, closed, if_pos rfl, List.append_nil]
      rfl
  | cons line later ih =>
      have inside := (indented line List.mem_cons_self).closes
      rw [List.cons_append, constructsFrom, inside, if_neg Bool.false_ne_true,
        ih fun other among => indented other (List.mem_cons_of_mem _ among)]
      simp

theorem reads_braces {opening : String} {inner : List String} {closing : String}
    (opened : opens opening = true) (indented : ∀ line ∈ inner, IsIndented line)
    (closed : closes closing = true) :
    Reads (opening :: inner ++ [closing]) [.braces opening inner closing] := by
  intro rest
  rw [List.append_assoc, List.cons_append, List.singleton_append, constructs, constructsFrom,
    opened, if_pos rfl, constructsFrom_braces opening indented closed]
  rfl

theorem constructsFrom_comment {inner : List String}
    (unclosed : ∀ line ∈ inner, line ≠ rule ++ "/") (before rest : List String) :
    constructsFrom (.comment before) (inner ++ (rule ++ "/") :: rest) =
      .comment (before ++ inner) :: constructs rest := by
  induction inner generalizing before with
  | nil =>
      rw [List.nil_append, constructsFrom, if_pos rfl, List.append_nil]
      rfl
  | cons line later ih =>
      rw [List.cons_append, constructsFrom, if_neg (unclosed line List.mem_cons_self),
        ih fun other among => unclosed other (List.mem_cons_of_mem _ among)]
      simp

theorem reads_comment {inner : List String} (unclosed : ∀ line ∈ inner, line ≠ rule ++ "/") :
    Reads (("/" ++ rule) :: inner ++ [rule ++ "/"]) [.comment inner] := by
  intro rest
  have begins : opens ("/" ++ rule) = false := by decide +kernel
  rw [List.append_assoc, List.cons_append, List.singleton_append, constructs, constructsFrom,
    begins, if_neg Bool.false_ne_true, if_pos rfl, constructsFrom_comment unclosed]
  rfl

/-! ## Parts of a file -/

def Construct.isComment : Construct → Bool
  | .comment _ => true
  | _ => false

@[simp] theorem isComment_line (text : String) : (Construct.line text).isComment = false :=
  rfl

@[simp] theorem isComment_braces (opening closing : String) (inner : List String) :
    (Construct.braces opening inner closing).isComment = false :=
  rfl

/-- The comment above a part of the file. -/
def heading (title : String) : Construct :=
  .comment [indent 1 ++ title]

/-- What stands below a heading, up to the next comment; blank lines do not count. -/
def part (title : String) (items : List Construct) : List Construct :=
  (((items.dropWhile (· ≠ heading title)).drop 1).takeWhile (!·.isComment)).filter (· ≠ .line "")

theorem heading_injective {first second : String} (same : heading first = heading second) :
    first = second := by
  have lines := Construct.comment.inj same
  exact (String.append_right_inj _).1 (List.cons.inj lines).1

theorem reads_section (title : String) :
    Reads (sectionLines title) [.line "", .line "", heading title] := by
  have comment : Reads (["/" ++ rule] ++ [indent 1 ++ title] ++ [rule ++ "/"]) [heading title] := by
    refine reads_comment fun line inside => ?_
    rw [List.mem_singleton.1 inside]
    exact (isIndented_indent 0 title).ne_ruled
  exact (reads_blank.append reads_blank).append comment

/-- Parts one after another, each with its heading. -/
def sectioned (parts : List (String × List Construct)) : List Construct :=
  parts.flatMap fun (title, items) => .line "" :: .line "" :: heading title :: items

theorem reads_noParts : Reads [] (sectioned []) :=
  reads_nil

/-- A part with its heading, in front of further parts. -/
theorem reads_part (title : String) {lines laterLines : List String} {items : List Construct}
    {later : List (String × List Construct)} (reads : Reads lines items)
    (behind : Reads laterLines (sectioned later)) :
    Reads (sectionLines title ++ (lines ++ laterLines)) (sectioned ((title, items) :: later)) := by
  have whole := (reads_section title).append (reads.append behind)
  rwa [show sectioned ((title, items) :: later) =
    [.line "", .line "", heading title] ++ (items ++ sectioned later) from rfl]

/-- Whatever is written under a heading is no comment. -/
def NoComments (parts : List (String × List Construct)) : Prop :=
  ∀ item ∈ parts, item.2.all (!·.isComment) = true

theorem heading_not_mem {title : String} {front : List Construct}
    {parts : List (String × List Construct)} (fresh : heading title ∉ front)
    (other : title ∉ parts.map (·.1)) (plain : NoComments parts) :
    heading title ∉ front ++ sectioned parts := by
  intro inside
  rcases List.mem_append.1 inside with among | inside
  · exact fresh among
  obtain ⟨item, among, inside⟩ := List.mem_flatMap.1 inside
  simp only [List.mem_cons, reduceCtorEq, false_or, heading] at inside
  rcases inside with same | inside
  · exact other (heading_injective same ▸ List.mem_map_of_mem among)
  · exact absurd (List.all_eq_true.1 (plain item among) _ inside) (by simp [Construct.isComment])

theorem part_of_not_mem {title : String} {items : List Construct}
    (absent : heading title ∉ items) : part title items = [] := by
  have none : items.dropWhile (· ≠ heading title) = [] := by
    refine List.dropWhile_eq_nil_iff.2 fun construct inside => decide_eq_true ?_
    rintro rfl
    exact absent inside
  rw [part, none]
  rfl

/-- What stands under a heading ends in front of the next one. -/
theorem part_heading {title : String} {items inside : List Construct}
    {later : List (String × List Construct)} (fresh : heading title ∉ items)
    (own : inside.all (!·.isComment) = true) :
    part title (items ++ heading title :: (inside ++ sectioned later)) =
      inside.filter (· ≠ .line "") := by
  have skipped : ∀ construct ∈ items, decide (construct ≠ heading title) = true := by
    intro construct among
    refine decide_eq_true ?_
    rintro rfl
    exact fresh among
  have blank : ((sectioned later).takeWhile (!·.isComment)).filter (· ≠ .line "") = [] := by
    cases later <;> rfl
  rw [part, List.dropWhile_append_of_pos skipped, List.dropWhile_cons_of_neg (by simp),
    List.drop_succ_cons, List.drop_zero, List.takeWhile_append_of_pos (List.all_eq_true.1 own),
    List.filter_append,
    blank, List.append_nil]

theorem filter_of_other {title : String} {parts : List (String × List Construct)}
    (other : title ∉ parts.map (·.1)) : parts.filter (·.1 == title) = [] := by
  refine List.filter_eq_nil_iff.2 fun item among same => other ?_
  exact List.mem_map.2 ⟨item, among, eq_of_beq same⟩

/-- Each part is found under its own heading. -/
theorem part_sectioned {title : String} {front : List Construct}
    {parts : List (String × List Construct)} (fresh : heading title ∉ front)
    (distinct : (parts.map (·.1)).Nodup) (plain : NoComments parts) :
    part title (front ++ sectioned parts) =
      ((parts.filter (·.1 == title)).flatMap (·.2)).filter (· ≠ .line "") := by
  by_cases known : title ∈ parts.map (·.1)
  · obtain ⟨⟨other, inside⟩, among, same⟩ := List.mem_map.1 known
    obtain rfl : title = other := same.symm
    obtain ⟨before, after, rfl⟩ := List.append_of_mem among
    rw [List.map_append, List.map_cons, List.nodup_append, List.nodup_cons] at distinct
    obtain ⟨_, ⟨once, _⟩, apart⟩ := distinct
    have earlier : title ∉ before.map (·.1) := fun there =>
      apart title there title List.mem_cons_self rfl
    have plainBefore : NoComments before := fun item there =>
      plain item (List.mem_append_left _ there)
    have own := plain (title, inside) (List.mem_append_right _ List.mem_cons_self)
    have fresh := heading_not_mem fresh earlier plainBefore
    have cut : front ++ sectioned (before ++ (title, inside) :: after) =
        (front ++ sectioned before ++ [.line "", .line ""]) ++
          heading title :: (inside ++ sectioned after) := by
      simp [sectioned]
    have alone : (before ++ (title, inside) :: after).filter (·.1 == title) = [(title, inside)] := by
      rw [List.filter_append, filter_of_other earlier, List.nil_append, List.filter_cons,
        filter_of_other once]
      simp
    rw [cut, part_heading (by simpa [heading] using fresh) own, alone, List.flatMap_singleton]
  · rw [part_of_not_mem (heading_not_mem fresh known plain), filter_of_other known]
    rfl

end Canopen.Source

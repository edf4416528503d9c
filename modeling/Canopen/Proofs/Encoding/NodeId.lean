import Mathlib.Data.List.Infix
import Canopen.Proofs.Encoding.Integers

/-!
# The number of the node

A default may be an offset to the number of the node, for which a placeholder stands.  The
placeholder and the signs beside it are left out, so that an offset is stored like the same literal
without them, and the number of the node alone like a zero.
-/

namespace Canopen

namespace Default

/-- The placeholder for the number of the node. -/
def nodeId : List Char :=
  ['$', 'N', 'O', 'D', 'E', 'I', 'D']

/-- Nothing but placeholders, signs and blanks. -/
inductive NoNumber : List Char → Prop where
  | nil : NoNumber []
  | node {text : List Char} (later : NoNumber text) : NoNumber (nodeId ++ text)
  | sign {text : List Char} (later : NoNumber text) : NoNumber ('+' :: text)
  | blank {c : Char} {text : List Char} (white : Text.isBlank c = true) (later : NoNumber text) :
      NoNumber (c :: text)

variable {text front behind : List Char}

/-! ## Where the placeholder stands -/

theorem holdsNodeId_cons {c : Char} (other : ¬ nodeId <+: c :: text) :
    holdsNodeId (c :: text) = holdsNodeId text := by
  rw [holdsNodeId]
  rintro rest rfl rfl
  exact other (List.prefix_append nodeId rest)

theorem dropNodeId_cons {c : Char} (other : ¬ nodeId <+: c :: text) :
    dropNodeId (c :: text) = c :: dropNodeId text := by
  rw [dropNodeId]
  rintro rest rfl rfl
  exact other (List.prefix_append nodeId rest)

theorem holdsNodeId_iff : holdsNodeId text = true ↔ nodeId <:+: text := by
  induction text with
  | nil => exact iff_of_false nofun fun inside => absurd (List.infix_nil.1 inside) nofun
  | cons c rest ih =>
      rw [List.infix_cons_iff]
      by_cases starts : nodeId <+: c :: rest
      · obtain ⟨later, same⟩ := starts
        exact iff_of_true (same ▸ rfl) (.inl ⟨later, same⟩)
      · rw [holdsNodeId_cons starts, ih]
        exact (or_iff_right starts).symm

/-- A character that is not in the placeholder parts what stands in front of it from what stands
behind it. -/
theorem prefix_of_prefix_append {c : Char} (outside : c ∉ nodeId) (front : List Char)
    (starts : nodeId <+: front ++ c :: behind) : nodeId <+: front := by
  have parted : front ++ [c] <+: front ++ c :: behind := ⟨behind, by simp⟩
  rcases List.prefix_or_prefix_of_prefix starts parted with short | long
  · rcases List.prefix_concat_iff.1 short with same | inner
    · exact absurd (same ▸ List.mem_append_right _ List.mem_cons_self) outside
    · exact inner
  · exact absurd (long.subset (List.mem_append_right _ List.mem_cons_self)) outside

theorem not_prefix_cons {c : Char} (outside : c ∉ nodeId) (text : List Char) :
    ¬ nodeId <+: c :: text :=
  fun starts => absurd (prefix_of_prefix_append outside [] starts) (by decide)

theorem infix_append_cons_iff {c : Char} (outside : c ∉ nodeId) (front behind : List Char) :
    nodeId <:+: front ++ c :: behind ↔ nodeId <:+: front ∨ nodeId <:+: behind := by
  induction front with
  | nil =>
      have none : ¬ nodeId <:+: [] := by decide
      rw [List.nil_append, List.infix_cons_iff, or_iff_right (not_prefix_cons outside behind),
        or_iff_right none]
  | cons d rest ih =>
      have starts : nodeId <+: d :: (rest ++ c :: behind) ↔ nodeId <+: d :: rest := by
        constructor
        · intro starts
          exact prefix_of_prefix_append outside (d :: rest) starts
        · intro starts
          exact starts.trans (List.prefix_append (d :: rest) (c :: behind))
      rw [List.cons_append, List.infix_cons_iff, List.infix_cons_iff, starts, ih, or_assoc]

theorem dropNodeId_append_cons {c : Char} (outside : c ∉ nodeId) (front behind : List Char) :
    dropNodeId (front ++ c :: behind) = dropNodeId front ++ c :: dropNodeId behind := by
  induction front using dropNodeId.induct with
  | case1 rest ih => exact ih
  | case2 => exact dropNodeId_cons (not_prefix_cons outside behind)
  | case3 d rest other ih =>
      have plain : ¬ nodeId <+: d :: rest := by
        rintro ⟨later, same⟩
        obtain ⟨rfl, tail⟩ := List.cons.inj same
        exact other later rfl tail.symm
      have longer : ¬ nodeId <+: d :: (rest ++ c :: behind) := fun starts =>
        plain (prefix_of_prefix_append outside (d :: rest) starts)
      rw [List.cons_append, dropNodeId_cons longer, dropNodeId_cons plain, ih, List.cons_append]

/-- Nothing is dropped where there is no placeholder. -/
theorem dropNodeId_eq_self (absent : ¬ nodeId <:+: text) : dropNodeId text = text := by
  induction text with
  | nil => rfl
  | cons c rest ih =>
      rw [List.infix_cons_iff, not_or] at absent
      rw [dropNodeId_cons absent.1, ih absent.2]

/-! ## What is left of a text -/

/-- The text without placeholders and signs. -/
def leftOver (text : List Char) : List Char :=
  (dropNodeId text).filter (· ≠ '+')

/-- No blank stands in the placeholder, and a sign is no blank. -/
theorem outside_of_blank {c : Char} (white : Text.isBlank c = true) : c ∉ nodeId ∧ c ≠ '+' := by
  have solid : ∀ d ∈ '+' :: nodeId, Text.isBlank d = false := forall_mem_of_all rfl
  have other : c ∉ '+' :: nodeId := by
    intro inside
    rw [solid c inside] at white
    cases white
  rw [List.mem_cons, not_or] at other
  exact ⟨other.2, other.1⟩

theorem leftOver_node (text : List Char) : leftOver (nodeId ++ text) = leftOver text :=
  rfl

theorem leftOver_append_sign (front behind : List Char) :
    leftOver (front ++ '+' :: behind) = leftOver front ++ leftOver behind := by
  have outside : '+' ∉ nodeId := by decide
  rw [leftOver, dropNodeId_append_cons outside, List.filter_append]
  rfl

theorem leftOver_sign (text : List Char) : leftOver ('+' :: text) = leftOver text :=
  leftOver_append_sign [] text

theorem leftOver_append_cons {c : Char} (outside : c ∉ nodeId) (other : c ≠ '+')
    (front behind : List Char) :
    leftOver (front ++ c :: behind) = leftOver front ++ c :: leftOver behind := by
  rw [leftOver, dropNodeId_append_cons outside, List.filter_append,
    List.filter_cons_of_pos (by simpa using other)]
  rfl

/-- A text without placeholders and signs is left as it is. -/
theorem leftOver_eq_self (absent : ¬ nodeId <:+: text) (plain : '+' ∉ text) :
    leftOver text = text := by
  rw [leftOver, dropNodeId_eq_self absent, List.filter_eq_self]
  intro c inside
  have other : c ≠ '+' := by
    rintro rfl
    exact plain inside
  simpa using other

variable {gap : List Char}

theorem not_infix_blank (white : ∀ c ∈ gap, Text.isBlank c = true) : ¬ nodeId <:+: gap := by
  intro inside
  have first : '$' ∈ gap := inside.subset List.mem_cons_self
  exact absurd (white '$' first) (by decide)

theorem leftOver_blank_append (white : ∀ c ∈ gap, Text.isBlank c = true) (text : List Char) :
    leftOver (gap ++ text) = gap ++ leftOver text := by
  induction gap with
  | nil => rfl
  | cons c rest ih =>
      obtain ⟨outside, other⟩ := outside_of_blank (white c List.mem_cons_self)
      have later := ih fun d inside => white d (List.mem_cons_of_mem _ inside)
      have first := leftOver_append_cons outside other [] (rest ++ text)
      rw [later] at first
      exact first

theorem leftOver_append_blank (white : ∀ c ∈ gap, Text.isBlank c = true) (text : List Char) :
    leftOver (text ++ gap) = leftOver text ++ gap := by
  cases gap with
  | nil => rw [List.append_nil, List.append_nil]
  | cons c rest =>
      obtain ⟨outside, other⟩ := outside_of_blank (white c List.mem_cons_self)
      have later := leftOver_blank_append
        (fun d inside => white d (List.mem_cons_of_mem c inside)) []
      rw [List.append_nil] at later
      rw [leftOver_append_cons outside other, later]
      exact congrArg _ (congrArg _ (List.append_nil rest))

theorem infix_blank_append_iff (white : ∀ c ∈ gap, Text.isBlank c = true) (text : List Char) :
    nodeId <:+: gap ++ text ↔ nodeId <:+: text := by
  induction gap with
  | nil => rfl
  | cons c rest ih =>
      obtain ⟨outside, -⟩ := outside_of_blank (white c List.mem_cons_self)
      have later := ih fun d inside => white d (List.mem_cons_of_mem _ inside)
      rw [List.cons_append, List.infix_cons_iff, or_iff_right (not_prefix_cons outside _), later]

theorem infix_append_blank_iff (white : ∀ c ∈ gap, Text.isBlank c = true) (text : List Char) :
    nodeId <:+: text ++ gap ↔ nodeId <:+: text := by
  cases gap with
  | nil => rw [List.append_nil]
  | cons c rest =>
      obtain ⟨outside, -⟩ := outside_of_blank (white c List.mem_cons_self)
      have none := not_infix_blank fun d inside => white d (List.mem_cons_of_mem c inside)
      rw [infix_append_cons_iff outside, or_iff_left none]

/-- The offset in a text that may have blanks at its ends: they do not matter. -/
theorem offset_trimChars (held : nodeId <:+: text) {rest : List Char}
    (left : Text.trimChars (leftOver text) = rest) :
    offset (Text.trimChars text) = if rest = [] then ['0'] else rest := by
  obtain ⟨front, behind, same, before, after⟩ := Text.exists_trimBy Text.isBlank text
  have inner : nodeId <:+: Text.trimChars text := by
    rw [same, infix_blank_append_iff before, infix_append_blank_iff after] at held
    exact held
  have kept : Text.trimChars (leftOver (Text.trimChars text)) = rest := by
    rw [← left]
    conv_rhs => rw [same, leftOver_blank_append before, leftOver_append_blank after]
    exact (Text.trimBy_around before after _).symm
  rw [offset, if_pos (holdsNodeId_iff.2 inner)]
  rw [leftOver] at kept
  rw [kept]
  cases rest <;> rfl

/-- A text without the placeholder is its own offset. -/
theorem offset_eq_self (absent : ¬ nodeId <:+: text) :
    offset (Text.trimChars text) = Text.trimChars text := by
  obtain ⟨front, behind, same, before, after⟩ := Text.exists_trimBy Text.isBlank text
  have none : ¬ nodeId <:+: Text.trimChars text := by
    rw [same, infix_blank_append_iff before, infix_append_blank_iff after] at absent
    exact absent
  rw [offset, if_neg fun holds => none (holdsNodeId_iff.1 holds)]

/-- A text with a character that is no blank is not blank for any type. -/
theorem isBlank_eq_false {type : Option TypeName} {text : Script}
    (solid : ∃ c ∈ text.shown.toList, Text.isBlank c = false) : isBlank type (some text) = false := by
  obtain ⟨c, inside, solid⟩ := solid
  have filled : text.shown ≠ "" := by
    intro empty
    rw [empty] at inside
    cases inside
  have ink : text.shown.toList.all Text.isBlank = false :=
    List.all_eq_false.2 ⟨c, inside, by simp [solid]⟩
  simp [isBlank, filled, ink]

/-- Of placeholders, signs and blanks only the blanks are left. -/
theorem NoNumber.leftOver_blank (none : NoNumber text) :
    ∀ c ∈ leftOver text, Text.isBlank c = true := by
  induction none with
  | nil => exact List.forall_mem_nil _
  | node later ih => exact ih
  | sign later ih =>
      rw [leftOver_sign]
      exact ih
  | @blank c text white later ih =>
      obtain ⟨outside, other⟩ := outside_of_blank white
      rw [← List.nil_append (c :: text), leftOver_append_cons outside other]
      exact List.forall_mem_cons.2 ⟨white, ih⟩

end Default

namespace Encoding

/-- A default of a type that holds no text is stored alike with the number of the node in front of it
or behind it, and the number of the node alone is stored like a zero. -/
structure Transparent (type : Option TypeName) (elements : Int) : Prop where
  inFront : ∀ (text : Script) (gap behind : String),
    (∀ c ∈ gap.toList ++ behind.toList, Text.isBlank c = true) →
    (∃ c ∈ text.shown.toList, Text.isBlank c = false) → ¬ Default.nodeId <:+: text.shown.toList →
    '+' ∉ text.shown.toList →
    ofDefault type (some ("$NODEID" ++ gap ++ "+" ++ behind ++ text)) elements =
      ofDefault type (some text) elements
  atEnd : ∀ (text : Script) (gap behind : String),
    (∀ c ∈ gap.toList ++ behind.toList, Text.isBlank c = true) →
    (∃ c ∈ text.shown.toList, Text.isBlank c = false) → ¬ Default.nodeId <:+: text.shown.toList →
    '+' ∉ text.shown.toList →
    ofDefault type (some (text ++ gap ++ "+" ++ behind ++ "$NODEID")) elements =
      ofDefault type (some text) elements
  alone : ∀ text : String, Default.NoNumber text.toList → Default.nodeId <:+: text.toList →
    ofDefault type (some text) elements = ofDefault type (some "0") elements

/-- Outside of strings, a default counts by the literal in it. -/
theorem ofDefault_congr {type : Option TypeName}
    (scalar : ∀ known : DataType, type = some (.known known) → known.isString = false)
    {text other : Script} (solid : ∃ c ∈ text.shown.toList, Text.isBlank c = false)
    (solid' : ∃ c ∈ other.shown.toList, Text.isBlank c = false)
    (same : Default.literal text = Default.literal other) (elements : Int) :
    ofDefault type (some text) elements = ofDefault type (some other) elements := by
  cases type with
  | none => rfl
  | some name =>
      cases name with
      | unknown _ => rfl
      | known known =>
          have plain := scalar known rfl
          rw [ofDefault_literal plain (Default.isBlank_eq_false solid),
            ofDefault_literal plain (Default.isBlank_eq_false solid'), same]

theorem exists_solid {text : Script} (held : Default.nodeId <:+: text.shown.toList) :
    ∃ c ∈ text.shown.toList, Text.isBlank c = false :=
  ⟨'$', held.subset List.mem_cons_self, by decide⟩

/-- A literal with blanks around it is what is left of a sum with the number of the node. -/
theorem literal_eq_of_leftOver {sum text : Script} {front behind : List Char}
    (halved : sum.isHalved = text.isHalved) (held : Default.nodeId <:+: sum.shown.toList)
    (left : Default.leftOver sum.shown.toList = front ++ (text.shown.toList ++ behind))
    (before : ∀ c ∈ front, Text.isBlank c = true) (after : ∀ c ∈ behind, Text.isBlank c = true)
    (solid : ∃ c ∈ text.shown.toList, Text.isBlank c = false)
    (absent : ¬ Default.nodeId <:+: text.shown.toList) :
    Default.literal sum = Default.literal text := by
  have trimmed : Text.trimChars (Default.leftOver sum.shown.toList) =
      Text.trimChars text.shown.toList := by
    rw [left]
    exact Text.trimBy_around before after _
  have filled : Text.trimChars text.shown.toList ≠ [] := by
    obtain ⟨c, inside, solid⟩ := solid
    intro empty
    rw [Text.trimBy_eq_nil_iff.1 empty c inside] at solid
    cases solid
  rw [Default.literal, Default.offset_trimChars held trimmed, if_neg filled, Default.literal,
    Default.offset_eq_self absent, halved]

/-- The placeholder and one sign make no difference. -/
theorem ofDefault_transparent {type : Option TypeName}
    (scalar : ∀ known : DataType, type = some (.known known) → known.isString = false)
    (elements : Int) : Transparent type elements where
  inFront text gap behind white solid absent plain := by
    obtain ⟨before, after⟩ := List.forall_mem_append.1 white
    let sum : Script := "$NODEID" ++ gap ++ "+" ++ behind ++ text
    have halved : sum.isHalved = text.isHalved := by simp [sum, Script.isHalved_append]
    have chars : sum.shown.toList =
        Default.nodeId ++ (gap.toList ++ '+' :: (behind.toList ++ text.shown.toList)) := by
      simp [sum, Script.toList_shown_append, Default.nodeId]
    have held : Default.nodeId <:+: sum.shown.toList :=
      chars ▸ (List.prefix_append _ _).isInfix
    have left : Default.leftOver sum.shown.toList =
        (gap.toList ++ behind.toList) ++ (text.shown.toList ++ []) := by
      rw [chars, Default.leftOver_node, Default.leftOver_blank_append before, Default.leftOver_sign,
        Default.leftOver_blank_append after, Default.leftOver_eq_self absent plain,
        List.append_nil, List.append_assoc]
    have same := literal_eq_of_leftOver halved held left white (List.forall_mem_nil _) solid absent
    exact ofDefault_congr scalar (exists_solid held) solid same elements
  atEnd text gap behind white solid absent plain := by
    obtain ⟨before, after⟩ := List.forall_mem_append.1 white
    let sum : Script := text ++ gap ++ "+" ++ behind ++ "$NODEID"
    have halved : sum.isHalved = text.isHalved := by simp [sum, Script.isHalved_append]
    have chars : sum.shown.toList =
        (text.shown.toList ++ gap.toList) ++ '+' :: (behind.toList ++ Default.nodeId) := by
      simp [sum, Script.toList_shown_append, Default.nodeId]
    have held : Default.nodeId <:+: sum.shown.toList := by
      rw [chars, Default.infix_append_cons_iff (by decide)]
      exact .inr (List.suffix_append _ _).isInfix
    have left : Default.leftOver sum.shown.toList =
        [] ++ (text.shown.toList ++ (gap.toList ++ behind.toList)) := by
      have alone : Default.leftOver Default.nodeId = [] := rfl
      rw [chars, Default.leftOver_append_sign, Default.leftOver_append_blank before,
        Default.leftOver_eq_self absent plain, Default.leftOver_blank_append after, alone,
        List.append_nil, List.append_assoc, List.nil_append]
    have same := literal_eq_of_leftOver halved held left (List.forall_mem_nil _) white solid absent
    exact ofDefault_congr scalar (exists_solid held) solid same elements
  alone text none held := by
    have nothing : Text.trimChars (Default.leftOver text.toList) = [] :=
      Text.trimBy_eq_nil_iff.2 none.leftOver_blank
    have same : Default.literal text = Default.literal "0" := by
      rw [Default.literal, Script.shown_whole, Default.offset_trimChars held nothing, if_pos rfl]
      rfl
    have solid : ∃ c ∈ (Script.whole text).shown.toList, Text.isBlank c = false := exists_solid held
    exact ofDefault_congr scalar solid ⟨'0', by decide, by decide⟩ same elements

/-- Text that cannot be read is refused alike with the number of the node. -/
theorem ofDefault_transparent_garbage :
    ofDefault (some (.known .integer40)) (some "$NODEID \t+\u3000 $NODE ID-0x\n") 3 =
      ofDefault (some (.known .integer40)) (some " $NODE ID-0x\n") 3 := by
  have scalar (known : DataType) (same : some (.known .integer40) = some (TypeName.known known)) :
      known.isString = false := by
    cases same
    rfl
  exact (ofDefault_transparent scalar 3).inFront " $NODE ID-0x\n" " \t" "\u3000"
    (forall_mem_of_all rfl) ⟨'-', by decide, by decide⟩ (by decide) (by decide)

end Encoding

end Canopen

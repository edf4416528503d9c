import Canopen.Proofs.Counter
import Canopen.Proofs.Image.Operations
import Canopen.Proofs.Number.Spelling
import Mathlib.Algebra.Group.Nat.Defs

/-!
# The history of an image

An image is a store to which pieces are added and of which questions are asked, in any order and
with any arguments.  It holds exactly what it has been told, every answer follows from the calls
before it, and nothing that is stored is changed or moved by what comes later.
-/

namespace Canopen

/-- What may be asked of an image: a change, or the first row with an index. -/
inductive Call where
  | change (operation : Operation)
  | find (index : Nat)

/-- What an image answers. -/
inductive Answer where
  | done
  /-- The group of a name, as it now is. -/
  | group (group : Option StorageGroup)
  /-- Where a new row stands. -/
  | position (position : Nat)
  | row (row : Option Row)

namespace Image

/-- The answer to a call, and the image after it. -/
def ask (image : Image) : Call → Answer × Image
  | .change (.register name) => (.group ((image.register name).group? name), image.register name)
  | .change (.addRow row) => (.position image.rows.length, image.addRow row)
  | .change operation => (.done, image.perform operation)
  | .find index => (.row (image.row? index), image)

/-- The answers to calls one after another, and the image after them. -/
def converse (image : Image) : List Call → List Answer × Image
  | [] => ([], image)
  | call :: later =>
      let (answer, next) := image.ask call
      let (answers, last) := next.converse later
      (answer :: answers, last)

end Image

/-! ## What is told -/

namespace Operation

def row? : Operation → Option Row
  | addRow row => some row
  | _ => none

def object? : Operation → Option Descriptor
  | addObject object => some object
  | _ => none

def extension? : Operation → Option Extension
  | addExtension extension => some extension
  | _ => none

/-- The label that is counted; the empty one is not. -/
def label? : Operation → Option Script
  | count label => if label.isEmpty then none else some label
  | _ => none

def messages : Operation → List String
  | warn messages => messages
  | _ => []

end Operation

/-- The change that is asked for. -/
def Call.operation? : Call → Option Operation
  | change operation => some operation
  | find _ => none

/-- The changes among calls. -/
def operationsOf (calls : List Call) : List Operation :=
  calls.filterMap Call.operation?

/-- The rows that calls have added, in order. -/
def rowsOf (calls : List Call) : List Row :=
  (operationsOf calls).filterMap Operation.row?

/-- What calls have put under names, in order. -/
def usesOf (calls : List Call) : List Image.Use :=
  (operationsOf calls).filterMap Operation.use?

/-- The labels that calls have counted, in order. -/
def labelsOf (calls : List Call) : List Script :=
  (operationsOf calls).filterMap Operation.label?

/-- The digits of an index: four of them, or as many as it needs. -/
structure IndexDigits (index : Nat) (digits : List Char) : Prop where
  least : 4 ≤ digits.length
  needed : 4 < digits.length → 16 ^ (digits.length - 1) ≤ index
  capital : ∀ c ∈ digits, c ∈ Number.capitalHexDigits
  spells : Number.spelled? .hexadecimal digits = some index

/-- A row has its two shortcuts at its own position. -/
structure Image.Shortcuts (image : Image) (position : Nat) (row : Row) : Prop where
  short :
    ∃ digits, IndexDigits row.index digits ∧
      image.shortcuts[position]? = some ⟨"H" ++ String.ofList digits, position⟩
  long : image.longShortcuts[position]? = some ⟨"H" ++ row.name, position⟩

/-- The image holds what the calls have told it, and nothing else. -/
structure Image.Holds (image : Image) (calls : List Call) : Prop where
  rows : image.rows = rowsOf calls
  lengths :
    image.shortcuts.length = image.rows.length ∧ image.longShortcuts.length = image.rows.length
  shortcuts : ∀ position row, image.rows[position]? = some row → image.Shortcuts position row
  objects : image.objects = (operationsOf calls).filterMap Operation.object?
  extensions : image.extensions = (operationsOf calls).filterMap Operation.extension?
  warnings : image.warnings = (operationsOf calls).flatMap Operation.messages
  /-- Every name once, in the order of first use. -/
  names : image.groups.map (·.name) = ((usesOf calls).map (·.1)).eraseDups
  distinct : (image.groups.map (·.name)).Nodup
  fields : ∀ group ∈ image.groups, group.fields = Image.fieldsUnder group.name (usesOf calls)
  counters :
    ∀ label count, (label, count) ∈ image.counters ↔
      label ≠ "" ∧ 0 < count ∧ count = (labelsOf calls).count label
  ascending : image.counters.Pairwise (·.1 < ·.1)

/-- The row is the first one with an index. -/
def IsFirst (index : Nat) (rows : List Row) (row : Row) : Prop :=
  row.index = index ∧
    ∃ earlier later, rows = earlier ++ row :: later ∧ ∀ other ∈ earlier, other.index ≠ index

/-- The answer to a call that comes after others. -/
inductive Answers (earlier : List Call) : Call → Answer → Prop where
  | registered (name : String) :
      Answers earlier (.change (.register name))
        (.group (some { name, fields := Image.fieldsUnder name (usesOf earlier) }))
  | added (row : Row) :
      Answers earlier (.change (.addRow row)) (.position (rowsOf earlier).length)
  | changed {operation : Operation} (group : ∀ name, operation ≠ .register name)
      (row : ∀ row, operation ≠ .addRow row) : Answers earlier (.change operation) .done
  | found {index : Nat} {row : Row} (first : IsFirst index (rowsOf earlier) row) :
      Answers earlier (.find index) (.row (some row))
  | missing {index : Nat} (absent : ∀ row ∈ rowsOf earlier, row.index ≠ index) :
      Answers earlier (.find index) (.row none)

/-- Everything stored is still there, at the place where it was; groups and counters may have
grown. -/
structure Image.Extends (image later : Image) : Prop where
  name : later.name = image.name
  rows : image.rows <+: later.rows
  shortcuts : image.shortcuts <+: later.shortcuts
  longShortcuts : image.longShortcuts <+: later.longShortcuts
  objects : image.objects <+: later.objects
  extensions : image.extensions <+: later.extensions
  warnings : image.warnings <+: later.warnings
  groups :
    ∀ (position : Nat) (group : StorageGroup), image.groups[position]? = some group →
      ∃ more, later.groups[position]? = some { group with fields := group.fields ++ more }
  counters :
    ∀ label count, (label, count) ∈ image.counters →
      ∃ total, (label, total) ∈ later.counters ∧ count ≤ total

/-- What holds of calls to a new image, of the answers to them, and of the image in the end. -/
structure History (name : String) (calls : List Call) (answers : List Answer) (image : Image) :
    Prop where
  named : image.name = name
  holds : image.Holds calls
  answered : answers.length = calls.length
  answers :
    ∀ position call, calls[position]? = some call →
      ∃ answer, answers[position]? = some answer ∧ Answers (calls.take position) call answer
  /-- Every image on the way is extended by the last one. -/
  kept : ∀ count, (Image.converse { name } (calls.take count)).2.Extends image

/-! ## Calls -/

namespace Image

theorem ask_snd (image : Image) (call : Call) :
    (image.ask call).2 = call.operation?.elim image image.perform := by
  cases call with
  | find index => rfl
  | change operation => cases operation <;> rfl

theorem converse_append (image : Image) (calls more : List Call) :
    image.converse (calls ++ more) =
      let first := image.converse calls
      let second := first.2.converse more
      (first.1 ++ second.1, second.2) := by
  induction calls generalizing image with
  | nil => rfl
  | cons call later ih => simp only [List.cons_append, converse, ih]

theorem converse_concat (image : Image) (calls : List Call) (call : Call) :
    image.converse (calls ++ [call]) =
      ((image.converse calls).1 ++ [((image.converse calls).2.ask call).1],
        ((image.converse calls).2.ask call).2) := by
  rw [converse_append]
  rfl

/-- Questions aside, calls are a session. -/
theorem converse_snd (name : String) (calls : List Call) :
    (converse { name } calls).2 = session name (operationsOf calls) := by
  induction calls using List.reverseRecOn with
  | nil => rfl
  | append_singleton earlier call ih =>
      rw [converse_concat, ask_snd, ih]
      cases call with
      | find index => simp [Call.operation?, operationsOf, List.filterMap_cons]
      | change operation => simp [Call.operation?, operationsOf, session]

theorem length_converse (image : Image) (calls : List Call) :
    (image.converse calls).1.length = calls.length := by
  induction calls generalizing image with
  | nil => rfl
  | cons call later ih => rw [converse, List.length_cons, ih, List.length_cons]

/-- The answer to a call is given by the image that the calls before it leave. -/
theorem getElem?_converse (image : Image) (calls : List Call) {position : Nat} {call : Call}
    (there : calls[position]? = some call) :
    (image.converse calls).1[position]? =
      some ((image.converse (calls.take position)).2.ask call).1 := by
  induction calls generalizing image position with
  | nil => cases there
  | cons first later ih =>
      cases position with
      | zero =>
          cases there
          rfl
      | succ position => exact ih (image.ask first).2 there

/-! ## Pieces of a session -/

/-- A list that every operation extends by a piece of its own holds all pieces in the end. -/
theorem session_eq_flatMap {α : Type} {list : Image → List α} {piece : Operation → List α}
    (empty : ∀ name, list { name } = [])
    (step : ∀ image operation, list (image.perform operation) = list image ++ piece operation)
    (name : String) (operations : List Operation) :
    list (session name operations) = operations.flatMap piece := by
  induction operations using List.reverseRecOn with
  | nil => exact empty name
  | append_singleton earlier last ih =>
      rw [session, List.foldl_append, List.foldl_cons, List.foldl_nil, step, List.flatMap_append,
        List.flatMap_singleton]
      exact congrArg (· ++ piece last) ih

/-- What the empty image has and every operation keeps holds after any session. -/
theorem session_keeps {property : Image → Prop} (empty : ∀ name, property { name })
    (step : ∀ image operation, property image → property (image.perform operation))
    (name : String) (operations : List Operation) : property (session name operations) := by
  induction operations using List.reverseRecOn with
  | nil => exact empty name
  | append_singleton earlier last ih =>
      rw [session, List.foldl_append]
      exact step _ last ih

theorem flatMap_toList {α : Type} (piece : Operation → Option α) (operations : List Operation) :
    (operations.flatMap fun operation => (piece operation).toList) =
      operations.filterMap piece :=
  (List.filterMap_eq_flatMap_toList piece operations).symm

/-- What an operation adds to an image. -/
structure Adds (image : Image) (operation : Operation) (after : Image) : Prop where
  rows : after.rows = image.rows ++ operation.row?.toList
  shortcuts :
    after.shortcuts = image.shortcuts ++ operation.row?.toList.map fun row =>
      ⟨"H" ++ Number.paddedHex 4 row.index, image.rows.length⟩
  longShortcuts :
    after.longShortcuts = image.longShortcuts ++ operation.row?.toList.map fun row =>
      ⟨"H" ++ row.name, image.rows.length⟩
  objects : after.objects = image.objects ++ operation.object?.toList
  extensions : after.extensions = image.extensions ++ operation.extension?.toList
  warnings : after.warnings = image.warnings ++ operation.messages
  counters : after.counters = countAll operation.label?.toList image.counters

theorem adds_perform (image : Image) (operation : Operation) :
    image.Adds operation (image.perform operation) := by
  have nothing {α : Type} (list : List α) : list = list ++ [] := (List.append_nil list).symm
  cases operation with
  | count label =>
      by_cases empty : label.isEmpty = true
      · have same : image.perform (.count label) = image := if_pos empty
        have none : Operation.label? (.count label) = none := if_pos empty
        rw [same]
        exact ⟨nothing _, nothing _, nothing _, nothing _, nothing _, nothing _, by rw [none]; rfl⟩
      · have counted : image.perform (.count label) =
            { image with counters := increment label image.counters } := if_neg empty
        have some : Operation.label? (.count label) = some label := if_neg empty
        rw [counted]
        exact ⟨nothing _, nothing _, nothing _, nothing _, nothing _, nothing _, by rw [some]; rfl⟩
  | addRow row => exact ⟨rfl, rfl, rfl, nothing _, nothing _, nothing _, rfl⟩
  | addObject object =>
      exact ⟨nothing _, nothing _, nothing _, rfl, nothing _, nothing _, rfl⟩
  | addExtension extension =>
      exact ⟨nothing _, nothing _, nothing _, nothing _, rfl, nothing _, rfl⟩
  | warn messages => exact ⟨nothing _, nothing _, nothing _, nothing _, nothing _, rfl, rfl⟩
  | register group =>
      exact ⟨nothing _, nothing _, nothing _, nothing _, nothing _, nothing _, rfl⟩
  | store group fields =>
      exact ⟨nothing _, nothing _, nothing _, nothing _, nothing _, nothing _, rfl⟩

/-! ## Shortcuts -/

/-- The two shortcuts of every row stand at its position. -/
structure InStep (image : Image) : Prop where
  short :
    image.shortcuts = image.rows.mapIdx fun position row =>
      ⟨"H" ++ Number.paddedHex 4 row.index, position⟩
  long :
    image.longShortcuts = image.rows.mapIdx fun position row => ⟨"H" ++ row.name, position⟩

theorem InStep.perform {image : Image} (inStep : image.InStep) (operation : Operation) :
    (image.perform operation).InStep := by
  have adds := adds_perform image operation
  constructor
  · rw [adds.rows, adds.shortcuts, inStep.short]
    cases operation.row? <;> simp
  · rw [adds.rows, adds.longShortcuts, inStep.long]
    cases operation.row? <;> simp

theorem session_inStep (name : String) (operations : List Operation) :
    (session name operations).InStep :=
  session_keeps (fun _ => ⟨rfl, rfl⟩) (fun _ operation inStep => inStep.perform operation) name
    operations

theorem indexDigits_paddedHexChars (index : Nat) :
    IndexDigits index (Number.paddedHexChars 4 index) where
  least := by
    rw [Number.paddedHexChars, Number.length_padZeros]
    exact Nat.le_max_left 4 _
  needed long := by
    have several : 4 < (Number.hexChars index).length := by
      rw [Number.paddedHexChars, Number.length_padZeros] at long
      omega
    have whole : (Number.paddedHexChars 4 index).length = (Number.hexChars index).length := by
      rw [Number.paddedHexChars, Number.length_padZeros]
      omega
    rw [whole, Number.hexChars, List.length_map] at *
    refine Nat.le_of_not_lt fun small => ?_
    have short := (Nat.length_toDigits_le_iff (by decide) (by omega)).2 small
    omega
  capital _ member := Number.mem_capitalHexDigits member
  spells := Number.spelled?_paddedHexChars 4 index

theorem InStep.shortcuts_of_row {image : Image} (inStep : image.InStep) {position : Nat} {row : Row}
    (there : image.rows[position]? = some row) : image.Shortcuts position row where
  short := by
    refine ⟨Number.paddedHexChars 4 row.index, indexDigits_paddedHexChars row.index, ?_⟩
    rw [inStep.short, List.getElem?_mapIdx, there]
    rfl
  long := by
    rw [inStep.long, List.getElem?_mapIdx, there]
    rfl

/-! ## Counters -/

/-- The counters after a session stand for the labels that it has counted. -/
theorem session_tally (name : String) (operations : List Operation) :
    Tally (operations.filterMap Operation.label?) (session name operations).counters := by
  induction operations using List.reverseRecOn with
  | nil => exact .nil
  | append_singleton earlier last ih =>
      rw [session, List.foldl_append, List.foldl_cons, List.foldl_nil,
        (adds_perform _ last).counters, List.filterMap_append]
      cases counted : last.label? with
      | none => simpa [counted, countAll, session] using ih
      | some label => simpa [counted, countAll, session] using ih.increment label

theorem ne_empty_of_counted {label : Script} {operations : List Operation}
    (counted : label ∈ operations.filterMap Operation.label?) : label ≠ "" := by
  obtain ⟨operation, _, found⟩ := List.mem_filterMap.1 counted
  cases operation with
  | count other =>
      rw [Operation.label?] at found
      split at found
      · cases found
      · next named =>
        cases found
        rintro rfl
        exact named rfl
  | _ => cases found

/-! ## Rows -/

/-- The first row with an index is found, and none only where there is none. -/
theorem row?_eq (image : Image) (index : Nat) :
    (∃ row, image.row? index = some row ∧ IsFirst index image.rows row) ∨
      (image.row? index = none ∧ ∀ row ∈ image.rows, row.index ≠ index) := by
  cases found : image.row? index with
  | none =>
      refine .inr ⟨rfl, fun row member same => ?_⟩
      exact absurd (beq_iff_eq.2 same) (List.find?_eq_none.1 found row member)
  | some row =>
      obtain ⟨same, earlier, later, split, others⟩ := List.find?_eq_some_iff_append.1 found
      refine .inl ⟨row, rfl, beq_iff_eq.1 same, earlier, later, split, fun other member => ?_⟩
      simpa using others other member

/-! ## Extension -/

namespace Extends

variable {image middle later : Image}

theorem refl (image : Image) : image.Extends image where
  name := rfl
  rows := List.prefix_rfl
  shortcuts := List.prefix_rfl
  longShortcuts := List.prefix_rfl
  objects := List.prefix_rfl
  extensions := List.prefix_rfl
  warnings := List.prefix_rfl
  groups _ group there := ⟨[], by rw [there, List.append_nil]⟩
  counters _ count member := ⟨count, member, Nat.le_refl count⟩

theorem trans (first : image.Extends middle) (second : middle.Extends later) :
    image.Extends later where
  name := second.name.trans first.name
  rows := first.rows.trans second.rows
  shortcuts := first.shortcuts.trans second.shortcuts
  longShortcuts := first.longShortcuts.trans second.longShortcuts
  objects := first.objects.trans second.objects
  extensions := first.extensions.trans second.extensions
  warnings := first.warnings.trans second.warnings
  groups position group there := by
    obtain ⟨more, next⟩ := first.groups position group there
    obtain ⟨further, last⟩ := second.groups position _ next
    exact ⟨more ++ further, by rw [last, List.append_assoc]⟩
  counters label count member := by
    obtain ⟨middle, next, least⟩ := first.counters label count member
    obtain ⟨total, last, more⟩ := second.counters label middle next
    exact ⟨total, last, Nat.le_trans least more⟩

end Extends

/-- Putting something under a name leaves every group where it is. -/
theorem getElem?_gather {name : String} {fields : List StorageField} {groups : List StorageGroup}
    {position : Nat} {group : StorageGroup} (there : groups[position]? = some group) :
    ∃ more, (gather name fields groups)[position]? =
      some { group with fields := group.fields ++ more } := by
  have registered : (withGroup name groups)[position]? = some group := by
    rw [withGroup]
    split
    · exact there
    · rw [List.getElem?_append_left (List.getElem?_eq_some_iff.1 there).1, there]
  rw [gather, appendFields, List.getElem?_map, registered, Option.map_some]
  split
  · exact ⟨fields, rfl⟩
  · exact ⟨[], by rw [List.append_nil]⟩

/-- Counting a label takes nothing from any counter. -/
theorem exists_mem_increment {label other : Script} {count : Nat}
    {counters : List (Script × Nat)} (member : (other, count) ∈ counters) :
    ∃ total, (other, total) ∈ increment label counters ∧ count ≤ total := by
  fun_induction increment label counters with
  | case1 => cases member
  | case2 total rest =>
      rcases List.mem_cons.1 member with same | later
      · cases same
        exact ⟨count + 1, List.mem_cons_self, Nat.le_succ count⟩
      · exact ⟨count, List.mem_cons_of_mem _ later, Nat.le_refl count⟩
  | case3 first total rest _ _ => exact ⟨count, List.mem_cons_of_mem _ member, Nat.le_refl count⟩
  | case4 first total rest _ _ ih =>
      rcases List.mem_cons.1 member with same | later
      · exact ⟨count, same ▸ List.mem_cons_self, Nat.le_refl count⟩
      · obtain ⟨total, there, least⟩ := ih later
        exact ⟨total, List.mem_cons_of_mem _ there, least⟩

/-- No operation changes or moves what is stored. -/
theorem extends_perform (image : Image) (operation : Operation) :
    image.Extends (image.perform operation) where
  name := perform_name image operation
  rows := (adds_perform image operation).rows ▸ List.prefix_append _ _
  shortcuts := (adds_perform image operation).shortcuts ▸ List.prefix_append _ _
  longShortcuts := (adds_perform image operation).longShortcuts ▸ List.prefix_append _ _
  objects := (adds_perform image operation).objects ▸ List.prefix_append _ _
  extensions := (adds_perform image operation).extensions ▸ List.prefix_append _ _
  warnings := (adds_perform image operation).warnings ▸ List.prefix_append _ _
  groups position group there := by
    rw [perform_groups]
    cases operation.use? with
    | none => exact ⟨[], by rw [there, List.append_nil]⟩
    | some use => exact getElem?_gather there
  counters label count member := by
    rw [(adds_perform image operation).counters]
    cases operation.label? with
    | none => exact ⟨count, member, Nat.le_refl count⟩
    | some counted => exact exists_mem_increment member

theorem extends_ask (image : Image) (call : Call) : image.Extends (image.ask call).2 := by
  rw [ask_snd]
  cases call.operation? with
  | none => exact .refl image
  | some operation => exact extends_perform image operation

theorem extends_converse (image : Image) (calls : List Call) :
    image.Extends (image.converse calls).2 := by
  induction calls generalizing image with
  | nil => exact .refl image
  | cons call later ih => exact (extends_ask image call).trans (ih _)

/-! ## Histories -/

/-- After any calls an image holds what they have told it. -/
theorem holds_converse (name : String) (calls : List Call) :
    (converse { name } calls).2.Holds calls := by
  rw [converse_snd]
  have inStep := session_inStep name (operationsOf calls)
  have tally := session_tally name (operationsOf calls)
  have groups := session_groups name (operationsOf calls)
  have names : (groupsFrom (usesOf calls)).map (·.name) = ((usesOf calls).map (·.1)).eraseDups := by
    rw [groupsFrom, List.map_map]
    exact List.map_id _
  constructor
  case rows =>
    rw [rowsOf, ← flatMap_toList]
    exact session_eq_flatMap (fun _ => rfl) (fun _ _ => (adds_perform _ _).rows) name _
  case objects =>
    rw [← flatMap_toList]
    exact session_eq_flatMap (fun _ => rfl) (fun _ _ => (adds_perform _ _).objects) name _
  case extensions =>
    rw [← flatMap_toList]
    exact session_eq_flatMap (fun _ => rfl) (fun _ _ => (adds_perform _ _).extensions) name _
  case warnings =>
    exact session_eq_flatMap (fun _ => rfl) (fun _ _ => (adds_perform _ _).warnings) name _
  case lengths =>
    rw [inStep.short, inStep.long, List.length_mapIdx, List.length_mapIdx]
    exact ⟨rfl, rfl⟩
  case shortcuts => exact fun position row there => inStep.shortcuts_of_row there
  case names =>
    rw [groups]
    exact names
  case distinct =>
    rw [groups]
    exact names ▸ nodup_eraseDups _
  case fields =>
    intro group member
    rw [groups] at member
    obtain ⟨name, _, rfl⟩ := List.mem_map.1 member
    rfl
  case counters =>
    intro label count
    rw [tally.mem_iff, labelsOf]
    refine ⟨?_, And.right⟩
    rintro ⟨positive, same⟩
    exact ⟨ne_empty_of_counted (List.count_pos_iff.1 (same ▸ positive)), positive, same⟩
  case ascending => exact tally.ascending

/-- The group of a name that is used, by what the calls have put there. -/
theorem group?_register (name group : String) (calls : List Call) :
    ((converse { name } calls).2.register group).group? group =
      some { name := group, fields := fieldsUnder group (usesOf calls) } := by
  have registered : ((converse { name } calls).2.register group).groups =
      groupsFrom (usesOf calls ++ [(group, [])]) := by
    have step := perform_groups (converse { name } calls).2 (.register group)
    rw [converse_snd, session_groups] at step
    exact (converse_snd name calls ▸ step).trans (gather_groupsFrom (usesOf calls) (group, []))
  have used : group ∈ (usesOf calls ++ [(group, [])]).map Prod.fst := by simp
  have only := (eraseDups_filter_beq group _).trans (if_pos used)
  rw [group?, ← List.head?_filter, registered, groupsFrom, List.filter_map]
  change ((List.filter (· == group) _).map _).head? = _
  rw [only, List.map_singleton, List.head?_cons, fieldsUnder_concat, if_pos rfl, List.append_nil]

/-- Every answer follows from the calls before it. -/
theorem answers_ask (name : String) (earlier : List Call) (call : Call) :
    Answers earlier call ((converse { name } earlier).2.ask call).1 := by
  have rows := (holds_converse name earlier).rows
  cases call with
  | find index =>
      rw [ask]
      rcases row?_eq (converse { name } earlier).2 index with ⟨row, found, first⟩ | ⟨found, none⟩
      · rw [rows] at first
        exact found ▸ .found first
      · rw [rows] at none
        exact found ▸ .missing none
  | change operation =>
      cases operation with
      | register group =>
          rw [ask, group?_register]
          exact .registered group
      | addRow row =>
          rw [ask, rows]
          exact .added row
      | _ => exact .changed nofun nofun

/-- Whatever is asked of a new image, in whatever order: it holds what it has been told, it answers
by the calls before, and it never changes or moves what it holds. -/
theorem converse_history (name : String) (calls : List Call) :
    History name calls (converse { name } calls).1 (converse { name } calls).2 where
  named := (extends_converse { name } calls).name
  holds := holds_converse name calls
  answered := length_converse { name } calls
  answers position call there :=
    ⟨_, getElem?_converse { name } calls there, answers_ask name (calls.take position) call⟩
  kept count := by
    have whole := converse_append { name } (calls.take count) (calls.drop count)
    rw [List.take_append_drop] at whole
    rw [whole]
    exact extends_converse _ _

end Image

end Canopen

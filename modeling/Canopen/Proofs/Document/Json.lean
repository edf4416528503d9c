import Canopen.Document
import Canopen.Proofs.Json.Reading
import Canopen.Proofs.Yaml.HeldValues
import Canopen.Proofs.Yaml.TermNodes

/-!
# Documents that are JSON

A text that is JSON on one line, each of its numbers and strings spelled as YAML spells them too, is
the document that JSON reads in it.  A power of ten without a point or without a sign is none of
these spellings: YAML takes such a number for a text.
-/

namespace Canopen

open Json (Pieces Term)

/-- YAML reads the value that the text of a portable mapping spells. -/
theorem Yaml.read_text {room : Nat} {fields : List (Pieces × Term)}
    (portable : (Term.map fields).Portable room) :
    Yaml.read room (Term.map fields).text = .ok (Term.map fields).value := by
  obtain ⟨graph, nodes, holds⟩ := Yaml.Builder.exists_nodesOf portable
  obtain ⟨contents, read, value⟩ := Yaml.exists_values holds
  rw [Yaml.read, Yaml.Scanner.tokens_map portable]
  simp only [nodes, read, value, bind, Except.bind, pure, Except.pure, Option.getD_some]

namespace Document

/-- A document is read from portable JSON as it is checked when JSON has read it, as long as there is
room for its collections inside each other. -/
theorem read_json (path : Option String) {room : Nat} {fields : List (Pieces × Term)}
    (portable : (Term.map fields).Portable room) :
    ∃ value, Json.read? (Term.map fields).text = some value ∧
      read room path (String.ofList (Term.map fields).text) = check value := by
  refine ⟨_, Json.read?_text portable, ?_⟩
  have rooted : root room path (String.ofList (Term.map fields).text) =
      .ok (Term.map fields).value := by
    rw [root, String.toList_ofList, Yaml.read_text portable]
    rfl
  rw [read, rooted]
  rfl

/-! ## Powers of ten -/

/-- The pieces of a text whose characters stand as they are. -/
def rawPieces (text : String) : Pieces :=
  text.toList.filterMap fun c =>
    if stands : Json.standsRaw c = true then some (.raw c stands) else none

theorem portable_rawPieces {text : String}
    (inline : text.toList.all (fun c => Yaml.isAllowed c && !Yaml.isBreak c) = true) :
    (rawPieces text).Portable := by
  intro piece inside
  obtain ⟨c, member, stands⟩ := List.mem_filterMap.1 inside
  split at stands
  · cases stands
    have allowed := List.all_eq_true.1 inline c member
    rw [Bool.and_eq_true, Bool.not_eq_true'] at allowed
    exact allowed
  · cases stands

/-- A number with a point and with a sign in its power of ten. -/
def fifteenHundred : Json.Numeral where
  negative := false
  whole := ['1']
  fraction := ['5']
  power := some ⟨false, some false, ['3'], List.cons_ne_nil _ _, List.forall_mem_singleton.2 rfl⟩
  spelled := rfl
  decimal := List.forall_mem_singleton.2 rfl

/-- A document with an object of a floating type. -/
def floatFields : List (Pieces × Term) :=
  [(rawPieces "objects", .list [.map
    [(rawPieces "index", .string (rawPieces "0x2000")),
      (rawPieces "data_type", .string (rawPieces "REAL32")),
      (rawPieces "default", .word (.number fifteenHundred))]])]

theorem portable_fifteenHundred : fifteenHundred.Portable := by
  refine .fraction (List.cons_ne_nil _ _) fun power given => ?_
  cases given
  exact Option.some_ne_none _

theorem portable_floatFields : (Term.map floatFields).Portable 3 := by
  have object : ∀ field ∈ [(rawPieces "index", Term.string (rawPieces "0x2000")),
      (rawPieces "data_type", .string (rawPieces "REAL32")),
      (rawPieces "default", .word (.number fifteenHundred))],
      (field.1.Portable ∧ field.1.quoted.length ≤ Term.longestKey) ∧ field.2.Portable 0 := by
    rw [List.forall_mem_cons, List.forall_mem_cons, List.forall_mem_singleton]
    exact ⟨⟨⟨portable_rawPieces rfl, by decide⟩, .string (portable_rawPieces rfl)⟩,
      ⟨⟨portable_rawPieces rfl, by decide⟩, .string (portable_rawPieces rfl)⟩,
      ⟨portable_rawPieces rfl, by decide⟩, .word portable_fifteenHundred⟩
  refine .map (List.forall_mem_singleton.2 ⟨portable_rawPieces rfl, by decide⟩)
    (List.forall_mem_singleton.2 (.list (List.forall_mem_singleton.2 ?_)))
  exact .map (fun field inside => (object field inside).1) fun field inside =>
    (object field inside).2

/-- The number is the same for both. -/
theorem read_json_float : ∃ value, Json.read? (Term.map floatFields).text = some value ∧
    read 3 none (String.ofList (Term.map floatFields).text) = check value :=
  read_json none portable_floatFields

/-- A document whose number has a power of ten without a point. -/
def powerText : String :=
  "\x7b\"objects\": [\x7b\"index\": \"0x2000\", \"data_type\": \"REAL32\", \"default\": 1e5\x7d]\x7d"

/-- The document with a default as it is read. -/
def powerDevice (default : String) : Dictionary :=
  { objects := [{
      index := 0x2000
      content := .var { dataType := some (.known .real32), default := some default } }] }

/-- JSON reads the number, and YAML reads a text. -/
theorem read_json_power :
    (Json.read? powerText.toList).map check = some (.ok (powerDevice "100000.0")) ∧
      read 3 none powerText = .ok (powerDevice "1e5") := by
  decide +kernel

end Document

end Canopen

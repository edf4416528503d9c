import Canopen.Proofs.Compile.Names
import Canopen.Proofs.Source.Symbols

/-!
# Symbols of compiled dictionaries

Groups, labels and shortcuts of a compiled dictionary have different names among themselves, so that
two symbols of its header are alike only where a group is named like the end of another symbol.
-/

namespace Canopen

open CName (IsWord)

namespace Compile

variable (lengths : StringLengths) {entries : List Entry} (name : String) (warnings : List String)

theorem nodup_map_name_usedGroups :
    ((imageOf lengths name warnings entries).usedGroups.map (·.name)).Nodup := by
  have groups : ((imageOf lengths name warnings entries).groups.map (·.name)).Nodup := by
    have names := map_name_groupsOf lengths entries
    exact names ▸ Image.nodup_eraseDups _
  exact groups.sublist (List.filter_sublist.map _)

theorem nodup_map_label_counters :
    ((imageOf lengths name warnings entries).counters.map (·.1)).Nodup := by
  have ascending := (imageOf_tally lengths name warnings entries).ascending
  refine List.pairwise_map.2 (ascending.imp fun {first second} less same => ?_)
  exact Script.lt_irrefl second.1 (same ▸ less)

theorem nodup_symbols_imageOf (distinct : (entries.map (·.index)).Nodup) :
    (imageOf lengths name warnings entries).symbols.Nodup :=
  Image.nodup_symbols (nodup_map_name_usedGroups lengths name warnings)
    (nodup_map_label_counters lengths name warnings)
    (nodup_map_name_allShortcuts lengths distinct name warnings)

theorem isWord_name_usedGroup (words : ∀ entry ∈ entries, IsWord entry.storageLocation)
    {group : StorageGroup} (used : group ∈ (imageOf lengths name warnings entries).usedGroups) :
    IsWord group.name := by
  have named := List.mem_map_of_mem (f := StorageGroup.name) (List.mem_of_mem_filter used)
  have names := map_name_groupsOf lengths entries
  obtain ⟨entry, inside, same⟩ := List.mem_map.1 (List.mem_eraseDups.1 (names ▸ named))
  exact same ▸ words entry inside

theorem isWord_name_shortcut {shortcut : Shortcut}
    (known : shortcut ∈ (imageOf lengths name warnings entries).shortcuts ++
      (imageOf lengths name warnings entries).longShortcuts) : IsWord shortcut.name := by
  have mark : IsWord "H" := CName.isWord_of_all rfl
  have named := List.mem_map_of_mem (f := Shortcut.name) known
  rw [List.map_append, map_name_shortcuts, map_name_longShortcuts, List.mem_append] at named
  rcases named with short | long
  · obtain ⟨entry, _, same⟩ := List.mem_map.1 short
    exact same ▸ mark.append (CName.isWord_paddedHex 4 _)
  · obtain ⟨entry, _, same⟩ := List.mem_map.1 long
    exact same ▸ mark.append entry.isWord_symbol

theorem isWord_label_counter
    (labels : ∀ entry ∈ completeEntries entries, IsWord entry.countLabel.shown)
    {counter : Script × Nat} (known : counter ∈ (imageOf lengths name warnings entries).counters) :
    IsWord counter.1.shown := by
  have counted := (imageOf_lists lengths name warnings entries).counters
  obtain ⟨_, positive, count⟩ := (counted _ _).1 known
  rw [count, List.countP_pos_iff] at positive
  obtain ⟨entry, listed, same⟩ := positive
  exact eq_of_beq same ▸ labels entry listed

theorem isWord_shown_append {first second : Script} (front : IsWord first.shown)
    (back : IsWord second.shown) : IsWord (first ++ second).shown := by
  intro c inside
  rw [Script.toList_shown_append, List.mem_append] at inside
  exact inside.elim (front c) (back c)

/-- Whatever stands behind the name of the dictionary in a symbol is made of identifier
characters. -/
theorem isWord_tail (words : ∀ entry ∈ entries, IsWord entry.storageLocation)
    (labels : ∀ entry ∈ completeEntries entries, IsWord entry.countLabel.shown) :
    ∀ symbol ∈ (imageOf lengths name warnings entries).symbols,
      ∀ tail, symbol.tail? = some tail → IsWord tail.shown := by
  rw [Image.forall_mem_symbols]
  refine ⟨?_, fun counter known => ?_, fun group used => ?_, fun group used => ?_, nofun,
    fun shortcut known => ?_⟩ <;> rintro tail ⟨⟩
  · exact CName.isWord_of_all rfl
  · have front : IsWord (Script.whole "CNT_").shown := CName.isWord_of_all rfl
    exact isWord_shown_append front (isWord_label_counter lengths name warnings labels known)
  · exact (isWord_name_usedGroup lengths name warnings words used).append (CName.isWord_of_all rfl)
  · exact isWord_name_usedGroup lengths name warnings words used
  · exact (CName.isWord_of_all rfl).append (isWord_name_shortcut lengths name warnings known)

end Compile

namespace Example

/-- A document with groups that are named nearly like the ends of other symbols. -/
def neighbourDocument : Value :=
  mapping [("objects", .list [
    mapping [("index", .int 0x2000), ("storage_location", .text "H_t"), ("data_type", .int 5),
      ("default", .int 1)],
    mapping [("index", .int 0x2001), ("storage_location", .text "CNT_"), ("data_type", .int 5),
      ("default", .int 2)],
    mapping [("index", .int 0x2002), ("storage_location", .text "ENTRY_H"), ("data_type", .int 5),
      ("default", .int 3), ("count_label", .text "")]])]

def neighbours : Dictionary where
  objects := [
    { index := 0x2000, storageLocation := "H_t"
      content := .var { dataType := some (.known .unsigned8), default := some "1" } },
    { index := 0x2001, storageLocation := "CNT_"
      content := .var { dataType := some (.known .unsigned8), default := some "2" } },
    { index := 0x2002, storageLocation := "ENTRY_H", countLabel := ""
      content := .var { dataType := some (.known .unsigned8), default := some "3" } }]

theorem neighbours_accepted : neighbours.Accepted :=
  ⟨neighbourDocument, by decide +kernel⟩

/-- A document with a group that is named like the end of the guard and with a label of two words. -/
def heatingDocument : Value :=
  mapping [("objects", .list [
    mapping [("index", .int 0x2000), ("name", .text "A"), ("storage_location", .text "H"),
      ("count_label", .text "a b"), ("data_type", .int 5), ("default", .int 1)]])]

def heating : Dictionary where
  objects := [
    { index := 0x2000, name := "A", storageLocation := "H", countLabel := "a b"
      content := .var { dataType := some (.known .unsigned8), default := some "1" } }]

theorem heating_accepted : heating.Accepted :=
  ⟨heatingDocument, by decide +kernel⟩

end Example

namespace Dictionary

/-- The header of an accepted dictionary under its own name defines different symbols exactly when
none of them clash, and valid identifiers only as long as the labels hold nothing but identifier
characters. -/
theorem compile_symbols {dictionary : Dictionary} (accepted : dictionary.Accepted)
    (lengths : StringLengths) {name : Option String}
    (own : dictionary.imageName name = dictionary.name) (warnings : List String)
    (version : String) :
    let image := dictionary.compile lengths name warnings
    let header := Source.constructs (Source.headerLines version image)
    ((image.symbols.map (·.text dictionary.name)).Nodup ↔
        ∀ first ∈ image.symbols, ∀ second ∈ image.symbols, ¬ first.Clash second) ∧
      ((∀ entry ∈ dictionary.listed, IsWord entry.countLabel.shown) →
        (Source.definedSymbols header).map Script.whole = image.symbols.map (·.text dictionary.name) ∧
          ∀ symbol ∈ Source.definedSymbols header, CName.isIdentifier symbol.toList = true) := by
  intro image header
  have compiled : image = Compile.imageOf lengths dictionary.name warnings dictionary.enabled := by
    rw [← own]
    exact compile_eq dictionary lengths name warnings
  have named : image.name = dictionary.name := by rw [compiled]; rfl
  have words : ∀ entry ∈ dictionary.enabled, IsWord entry.storageLocation :=
    fun entry enabled => accepted.isWord_storageLocation (mem_enabled.1 enabled).1
  refine ⟨Symbol.nodup_text_iff ?_ _, fun labels => ?_⟩
  · rw [compiled]
    exact Compile.nodup_symbols_imageOf lengths _ _ accepted.enabled_indices_nodup
  · have valid : ∀ symbol ∈ image.symbols,
        CName.isIdentifier (symbol.text dictionary.name).shown.toList = true := by
      rw [compiled]
      exact fun symbol known => Symbol.isIdentifier_text accepted.isIdentifier_name
        (Compile.isWord_tail lengths _ _ words labels symbol known)
    have plain : ∀ symbol ∈ image.symbols, IsWord (symbol.text dictionary.name).shown :=
      fun symbol known => CName.isWord_of_isIdentifier (valid symbol known)
    have defined : Source.definedSymbols header =
        image.symbols.map fun symbol => (symbol.text dictionary.name).shown :=
      named ▸ Source.definedSymbols_header version (named ▸ plain)
    rw [defined, List.map_map, List.forall_mem_map]
    refine ⟨List.map_congr_left fun symbol known => ?_, valid⟩
    exact (Symbol.eq_whole_of_isWord (plain symbol known)).symm

/-- Groups that are named nearly like the ends of other symbols keep apart. -/
theorem compile_symbols_neighbours :
    Example.neighbours.Accepted ∧
      let image := Example.neighbours.compile defaultLength none []
      let header := Source.constructs (Source.headerLines Source.currentVersion image)
      Source.definedSymbols header =
          ["OD_H", "OD_CNT_ALL", "OD_H_t_t", "OD_CNT__t", "OD_ENTRY_H_t", "OD_H_t", "OD_CNT_",
            "OD_ENTRY_H", "OD", "OD_ENTRY_H2000", "OD_ENTRY_H2001", "OD_ENTRY_H2002",
            "OD_ENTRY_H2000_", "OD_ENTRY_H2001_", "OD_ENTRY_H2002_"] ∧
        (image.symbols.map (·.text "OD")).Nodup ∧
        ∀ symbol ∈ Source.definedSymbols header, CName.isIdentifier symbol.toList = true := by
  refine ⟨Example.neighbours_accepted, ?_⟩
  intro image header
  have own : Example.neighbours.imageName none = Example.neighbours.name := rfl
  obtain ⟨different, valid⟩ := compile_symbols Example.neighbours_accepted defaultLength own []
    Source.currentVersion
  have all : (Example.neighbours.listed.all fun entry =>
      entry.countLabel.shown.toList.all CName.isWordChar) = true := by decide
  have labels : ∀ entry ∈ Example.neighbours.listed, IsWord entry.countLabel.shown :=
    fun entry listed => CName.isWord_of_all (List.all_eq_true.1 all entry listed)
  obtain ⟨defined, identifiers⟩ := valid labels
  have texts : image.symbols.map (·.text "OD") =
      ["OD_H", "OD_CNT_ALL", "OD_H_t_t", "OD_CNT__t", "OD_ENTRY_H_t", "OD_H_t", "OD_CNT_",
        "OD_ENTRY_H", "OD", "OD_ENTRY_H2000", "OD_ENTRY_H2001", "OD_ENTRY_H2002",
        "OD_ENTRY_H2000_", "OD_ENTRY_H2001_", "OD_ENTRY_H2002_"].map Script.whole := by
    decide
  have injective : Function.Injective Script.whole := fun _ _ => Script.whole.inj
  refine ⟨List.map_injective_iff.2 injective (defined.trans texts), different.2 (by decide),
    identifiers⟩

/-- A group can have the name that ends the guard, and a label need not be one word. -/
theorem header_symbols_not_distinct :
    Example.heating.Accepted ∧
      let image := Example.heating.compile defaultLength none []
      (image.symbols.map fun symbol => (symbol.text "OD").shown) =
          ["OD_H", "OD_CNT_a b", "OD_H_t", "OD_H", "OD", "OD_ENTRY_H2000", "OD_ENTRY_H2000_a"] ∧
        (∀ line ∈ ["#define OD_H", "extern OD_H_t OD_H;", "#define OD_CNT_a b 1"],
          line ∈ Source.headerLines Source.currentVersion image) ∧
        ¬ (image.symbols.map (·.text "OD")).Nodup ∧
        ¬ (∀ symbol ∈ image.symbols, CName.isIdentifier (symbol.text "OD").shown.toList = true) := by
  refine ⟨Example.heating_accepted, ?_⟩
  intro image
  have texts : (image.symbols.map fun symbol => (symbol.text "OD").shown) =
      ["OD_H", "OD_CNT_a b", "OD_H_t", "OD_H", "OD", "OD_ENTRY_H2000", "OD_ENTRY_H2000_a"] := by
    decide
  refine ⟨texts, by decide, by decide, fun valid => ?_⟩
  · have all : (image.symbols.map fun symbol => (symbol.text "OD").shown).all
        (CName.isIdentifier ·.toList) = true := by
      rw [List.all_map, List.all_eq_true]
      exact valid
    rw [texts] at all
    exact absurd all (by decide)

end Dictionary

end Canopen

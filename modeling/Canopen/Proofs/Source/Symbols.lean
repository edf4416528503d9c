import Canopen.Proofs.Source.Agreement
import Canopen.Proofs.Source.Words

/-!
# Symbols of a header

Every symbol of a header begins with the name of the dictionary.  What follows is a fixed word, or is
made of the name of a group, a label or the name of a shortcut, and nothing is reserved: a group can
be called like the end of another symbol.
-/

namespace Canopen

open CName (IsWord)

/-- What a symbol of a header stands for. -/
inductive Symbol where
  | guard
  | handle
  | counter (label : Script)
  | type (group : String)
  | storage (group : String)
  | shortcut (name : String)
deriving DecidableEq, Repr

namespace Symbol

/-- What stands behind the name of the dictionary; the handle is this name alone. -/
def tail? : Symbol → Option Script
  | guard => some "H"
  | handle => none
  | counter label => some ("CNT_" ++ label)
  | type group => some (.whole (group ++ "_t"))
  | storage group => some group
  | shortcut name => some (.whole ("ENTRY_" ++ name))

def text (dictionary : String) (symbol : Symbol) : Script :=
  match symbol.tail? with
  | none => dictionary
  | some tail => dictionary ++ "_" ++ tail

/-- Two symbols of different kinds that are spelled alike. -/
inductive Clash : Symbol → Symbol → Prop where
  | guard : Clash (storage "H") guard
  | type (group : String) : Clash (storage (group ++ "_t")) (type group)
  | counter (label : String) : Clash (storage ("CNT_" ++ label)) (counter label)
  | typeCounter {group label : String} (same : group ++ "_t" = "CNT_" ++ label) :
      Clash (type group) (counter label)
  | shortcut (name : String) : Clash (storage ("ENTRY_" ++ name)) (shortcut name)
  | typeShortcut {group name : String} (same : group ++ "_t" = "ENTRY_" ++ name) :
      Clash (type group) (shortcut name)

end Symbol

/-- The symbols of the header of an image, in the order of their definitions. -/
def Image.symbols (image : Image) : List Symbol :=
  Symbol.guard :: (image.counters.map fun counter => Symbol.counter counter.1) ++
    (image.usedGroups.map fun group => Symbol.type group.name) ++
    (image.usedGroups.map fun group => Symbol.storage group.name) ++
    Symbol.handle :: (image.shortcuts ++ image.longShortcuts).map fun shortcut =>
      Symbol.shortcut shortcut.name

namespace Symbol

/-! ## Symbols that are spelled alike -/

theorem text_eq_iff (dictionary : String) (first second : Symbol) :
    first.text dictionary = second.text dictionary ↔ first.tail? = second.tail? := by
  have longer (tail : Script) : dictionary ++ "_" ++ tail ≠ .whole dictionary := by
    intro same
    have long := congrArg (fun script : Script => script.codes.length) same
    have one : (Script.whole "_").codes.length = 1 := by decide
    simp only [Script.codes_append, List.length_append, one] at long
    omega
  unfold text
  cases first.tail? with
  | none =>
      cases second.tail? with
      | none => exact iff_of_true rfl rfl
      | some tail => exact iff_of_false (longer tail).symm nofun
  | some tail =>
      cases second.tail? with
      | none => exact iff_of_false (longer tail) nofun
      | some other => rw [Option.some_inj, Script.append_right_inj]

theorem Clash.tail?_eq {first second : Symbol} (clash : Clash first second) :
    first.tail? = second.tail? := by
  cases clash with
  | guard => rfl
  | type group => rfl
  | counter label => rfl
  | typeCounter same => exact congrArg (fun tail => some (Script.whole tail)) same
  | shortcut name => rfl
  | typeShortcut same => exact congrArg (fun tail => some (Script.whole tail)) same

theorem guard_ne_type (group : String) : "H" ≠ group ++ "_t" := by
  intro same
  have last := congrArg (fun text => text.toList.getLast?) same
  simp [String.toList_append] at last

theorem ne_of_head?_ne {first second : String}
    (differ : first.toList.head? ≠ second.toList.head?) : first ≠ second := by
  rintro rfl
  exact differ rfl

theorem guard_ne_counter (label : String) : "H" ≠ "CNT_" ++ label :=
  ne_of_head?_ne (by simp [String.toList_append])

theorem guard_ne_shortcut (name : String) : "H" ≠ "ENTRY_" ++ name :=
  ne_of_head?_ne (by simp [String.toList_append])

theorem counter_ne_shortcut (label name : String) : "CNT_" ++ label ≠ "ENTRY_" ++ name :=
  ne_of_head?_ne (by simp [String.toList_append])

/-- Only a label of whole characters can be found in the name of a group. -/
theorem whole_of_counter {label : Script} {text : String}
    (same : Script.whole text = "CNT_" ++ label) :
    ∃ word : String, label = word ∧ text = "CNT_" ++ word := by
  cases label with
  | whole word => exact ⟨word, rfl, Script.whole.inj same⟩
  | halved halves => cases same

/-- The kinds of symbols in an order in which the later ones of a clash come later. -/
def rank : Symbol → Nat
  | storage _ => 0
  | type _ => 1
  | guard => 2
  | counter _ => 3
  | shortcut _ => 4
  | handle => 5

theorem eq_or_clash_of_rank_le {first second : Symbol} (ordered : first.rank ≤ second.rank)
    (same : first.tail? = second.tail?) : first = second ∨ Clash first second := by
  cases first with
  | storage group =>
      cases second with
      | storage other => exact .inl (congrArg storage (Script.whole.inj (Option.some.inj same)))
      | type other =>
          cases same
          exact .inr (.type other)
      | guard =>
          cases same
          exact .inr .guard
      | counter label =>
          obtain ⟨word, rfl, rfl⟩ := whole_of_counter (Option.some.inj same)
          exact .inr (.counter word)
      | shortcut name =>
          cases same
          exact .inr (.shortcut name)
      | handle => cases same
  | type group =>
      cases second with
      | storage other => simp [rank] at ordered
      | type other =>
          have names := Script.whole.inj (Option.some.inj same)
          exact .inl (congrArg type ((String.append_left_inj _).1 names))
      | guard => exact absurd (Script.whole.inj (Option.some.inj same)).symm (guard_ne_type group)
      | counter label =>
          obtain ⟨word, rfl, spelled⟩ := whole_of_counter (Option.some.inj same)
          exact .inr (.typeCounter spelled)
      | shortcut name => exact .inr (.typeShortcut (Script.whole.inj (Option.some.inj same)))
      | handle => cases same
  | guard =>
      cases second with
      | storage _ | type _ => simp [rank] at ordered
      | guard => exact .inl rfl
      | counter label =>
          obtain ⟨word, rfl, spelled⟩ := whole_of_counter (Option.some.inj same)
          exact absurd spelled (guard_ne_counter word)
      | shortcut name =>
          exact absurd (Script.whole.inj (Option.some.inj same)) (guard_ne_shortcut name)
      | handle => cases same
  | counter label =>
      cases second with
      | storage _ | type _ | guard => simp [rank] at ordered
      | counter other =>
          exact .inl (congrArg counter ((Script.append_right_inj _).1 (Option.some.inj same)))
      | shortcut name =>
          obtain ⟨word, rfl, spelled⟩ := whole_of_counter (Option.some.inj same).symm
          exact absurd spelled.symm (counter_ne_shortcut word name)
      | handle => cases same
  | shortcut name =>
      cases second with
      | storage _ | type _ | guard | counter _ => simp [rank] at ordered
      | shortcut other =>
          have names := Script.whole.inj (Option.some.inj same)
          exact .inl (congrArg shortcut ((String.append_right_inj _).1 names))
      | handle => cases same
  | handle =>
      cases second with
      | handle => exact .inl rfl
      | _ => cases same

theorem Clash.rank_lt {first second : Symbol} (clash : Clash first second) :
    first.rank < second.rank := by
  cases clash <;> simp [rank]

theorem clash_iff {first second : Symbol} :
    Clash first second ↔ first.rank < second.rank ∧ first.tail? = second.tail? := by
  constructor
  · exact fun clash => ⟨clash.rank_lt, clash.tail?_eq⟩
  · rintro ⟨ordered, same⟩
    rcases eq_or_clash_of_rank_le ordered.le same with rfl | clash
    · exact absurd ordered (Nat.lt_irrefl _)
    · exact clash

instance (first second : Symbol) : Decidable (Clash first second) :=
  decidable_of_iff _ clash_iff.symm

/-- Symbols are spelled alike only if they are the same or clash. -/
theorem eq_or_clash {first second : Symbol} (same : first.tail? = second.tail?) :
    first = second ∨ Clash first second ∨ Clash second first := by
  rcases Nat.le_total first.rank second.rank with ordered | ordered
  · exact (eq_or_clash_of_rank_le ordered same).imp_right .inl
  · exact (eq_or_clash_of_rank_le ordered same.symm).imp Eq.symm .inr

/-- Different symbols have different texts exactly when none of them clash. -/
theorem nodup_text_iff {symbols : List Symbol} (once : symbols.Nodup) (dictionary : String) :
    (symbols.map (·.text dictionary)).Nodup ↔
      ∀ first ∈ symbols, ∀ second ∈ symbols, ¬ Clash first second := by
  rw [List.nodup_map_iff_inj_on once]
  simp only [text_eq_iff]
  constructor
  · intro apart first inside second other clash
    have ordered := clash.rank_lt
    rw [apart first inside second other clash.tail?_eq] at ordered
    exact Nat.lt_irrefl _ ordered
  · intro apart first inside second other same
    rcases eq_or_clash same with equal | clash | clash
    · exact equal
    · exact absurd clash (apart first inside second other)
    · exact absurd clash (apart second other first inside)

/-- Behind a valid name every tail of identifier characters makes a valid symbol. -/
theorem isIdentifier_text {dictionary : String} {symbol : Symbol}
    (valid : CName.isIdentifier dictionary.toList = true)
    (word : ∀ tail, symbol.tail? = some tail → IsWord tail.shown) :
    CName.isIdentifier (symbol.text dictionary).shown.toList = true := by
  unfold text
  cases tail : symbol.tail? with
  | none => exact valid
  | some tail' =>
      have mark : IsWord "_" := CName.isWord_of_all rfl
      have whole := CName.isIdentifier_append (CName.isIdentifier_append valid mark)
        (word tail' tail)
      simpa only [Script.toList_shown_append, String.toList_append, Script.shown_whole] using whole

/-- Identifier characters are whole. -/
theorem eq_whole_of_isWord {script : Script} (word : IsWord script.shown) :
    script = .whole script.shown := by
  cases script with
  | whole text => rfl
  | halved halves =>
      obtain ⟨code, inside, half⟩ := List.any_eq_true.1 halves.half
      have none : ¬ code.isValidChar := by
        simp only [isHalf, Bool.and_eq_true, decide_eq_true_eq] at half
        rintro (low | ⟨high, _⟩) <;> omega
      have shown : Halves.replacement ∈ (Script.halved halves).shown.toList := by
        rw [Script.toList_shown]
        exact List.mem_map.2 ⟨code, inside, if_neg none⟩
      exact absurd (word _ shown) (by decide)

end Symbol

namespace Image

variable {image : Image}

theorem forall_mem_symbols {property : Symbol → Prop} :
    (∀ symbol ∈ image.symbols, property symbol) ↔
      property .guard ∧ (∀ counter ∈ image.counters, property (.counter counter.1)) ∧
        (∀ group ∈ image.usedGroups, property (.type group.name)) ∧
        (∀ group ∈ image.usedGroups, property (.storage group.name)) ∧ property .handle ∧
        ∀ shortcut ∈ image.shortcuts ++ image.longShortcuts, property (.shortcut shortcut.name) := by
  simp only [symbols, List.forall_mem_append, List.forall_mem_cons, List.forall_mem_map, and_assoc]

theorem nodup_symbols (groups : (image.usedGroups.map (·.name)).Nodup)
    (labels : (image.counters.map (·.1)).Nodup)
    (shortcuts : ((image.shortcuts ++ image.longShortcuts).map (·.name)).Nodup) :
    image.symbols.Nodup := by
  have counters := nodup_map_of_injective (fun _ _ => Symbol.counter.inj) labels
  have types := nodup_map_of_injective (fun _ _ => Symbol.type.inj) groups
  have storages := nodup_map_of_injective (fun _ _ => Symbol.storage.inj) groups
  have entries := nodup_map_of_injective (fun _ _ => Symbol.shortcut.inj) shortcuts
  have guard : .guard ∉ image.counters.map fun counter => Symbol.counter counter.1 := by simp
  have handle : .handle ∉ (image.shortcuts ++ image.longShortcuts).map fun shortcut =>
      Symbol.shortcut shortcut.name := by simp
  have start := List.nodup_cons.2 ⟨guard, counters⟩
  have ending := List.nodup_cons.2 ⟨handle, entries⟩
  refine List.nodup_append.2 ⟨List.nodup_append.2 ⟨List.nodup_append.2 ⟨start, types, ?_⟩, storages,
    ?_⟩, ending, ?_⟩ <;>
    simp only [List.forall_mem_append, List.forall_mem_cons, List.forall_mem_map, ne_eq,
      reduceCtorEq, not_false_eq_true, implies_true, and_self]

end Image

namespace Source

/-! ## Symbols as they are read -/

/-- The word at the end of a text. -/
def lastWord (text : String) : String :=
  String.ofList (text.toList.reverse.takeWhile CName.isWordChar).reverse

namespace Construct

/-- The symbol that a construct defines: a macro, a type or a variable. -/
def symbol? : Construct → Option String
  | .comment _ => none
  | .line text =>
      (wordBehind? "#define " text).or ((announced? (.line text)).map lastWord)
  | .braces opening inner closing => (type? (.braces opening inner closing)).map (·.1)

end Construct

/-- The symbols that a header defines. -/
def definedSymbols (header : List Construct) : List String :=
  header.filterMap Construct.symbol?

theorem lastWord_append (front : String) {word : String} (plain : IsWord word) :
    lastWord (front ++ " " ++ word) = word := by
  have turned : ∀ c ∈ word.toList.reverse, CName.isWordChar c = true := fun c inside =>
    plain c (List.mem_reverse.1 inside)
  have blank : CName.isWordChar ' ' = false := by decide
  have text : (front ++ " " ++ word).toList.reverse =
      word.toList.reverse ++ ' ' :: front.toList.reverse := by
    simp [String.toList_append]
  rw [lastWord, text, List.takeWhile_append_of_pos turned,
    List.takeWhile_cons_of_neg (by simp [blank]), List.append_nil, List.reverse_reverse,
    String.ofList_toList]

theorem symbol?_define {word rest text : String} (plain : IsWord word) (ends : EndsWord rest.toList)
    (spelled : text = "#define " ++ word ++ rest) :
    Construct.symbol? (.line text) = some word := by
  rw [Construct.symbol?, wordBehind?_of_eq plain ends spelled, Option.some_or]

theorem symbol?_extern (type : String) {word text : String} (plain : IsWord word)
    (spelled : text = "extern " ++ (type ++ " " ++ word) ++ ";") :
    Construct.symbol? (.line text) = some word := by
  have begins : text.toList = 'e' :: ("xtern " ++ (type ++ " " ++ word) ++ ";").toList := by
    simp [spelled, String.toList_append]
  have none : wordBehind? "#define " text = none := wordBehind?_other rfl begins (by decide)
  rw [Construct.symbol?, none, Construct.announced?_line spelled, Option.none_or, Option.map_some,
    lastWord_append type plain]

theorem symbol?_type {name closing : String} (inner : List String)
    (spelled : closing = "\x7d " ++ name ++ ";") :
    Construct.symbol? (.braces ("typedef struct " ++ openBrace) inner closing) = some name := by
  rw [Construct.symbol?, Construct.type?_braces inner spelled, Option.map_some]

/-- Any other line defines nothing. -/
theorem symbol?_other {text : String} (define : ∀ rest, text ≠ "#define " ++ rest)
    (announcement : ∀ inner, text ≠ "extern " ++ inner ++ ";") :
    Construct.symbol? (.line text) = none := by
  have noMacro : wordBehind? "#define " text = none := by
    rw [wordBehind?, Option.map_eq_none_iff, Option.eq_none_iff_forall_ne_some]
    intro rest found
    have behind := Warning.after?_eq_some_iff.1 found
    exact define (String.ofList rest) (by simpa [← String.toList_inj] using behind)
  have noVariable : Construct.announced? (.line text) = none :=
    if_neg fun same => announcement _ same.symm
  rw [Construct.symbol?, noMacro, noVariable]
  rfl

/-- A line of another directive defines nothing. -/
theorem symbol?_directive (directive : String) {text : String} (spelled : text = "#" ++ directive)
    (other : directive.toList.head? ≠ some 'd') : Construct.symbol? (.line text) = none := by
  subst spelled
  refine symbol?_other (fun rest same => other ?_) fun inner => ?_
  · have second := congrArg (fun line => (line.toList.drop 1).head?) same
    simpa [String.toList_append] using second
  · exact Symbol.ne_of_head?_ne (by simp [String.toList_append])

theorem symbol?_blank : Construct.symbol? (.line "") = none := by
  decide

/-- Headings and blank lines define nothing. -/
theorem definedSymbols_sectioned (parts : List (String × List Construct)) :
    definedSymbols (sectioned parts) = parts.flatMap fun part => definedSymbols part.2 := by
  rw [definedSymbols, sectioned, List.filterMap_flatMap]
  refine List.flatMap_congr fun part _ => ?_
  rw [List.filterMap_cons_none symbol?_blank, List.filterMap_cons_none symbol?_blank,
    List.filterMap_cons_none rfl]
  rfl

variable {image : Image} (version : String)

theorem symbol?_counterLine {counter : Script × Nat}
    (word : IsWord ((Symbol.counter counter.1).text image.name).shown) :
    Construct.symbol? (.line (counterLine image.name counter)) =
      some ((Symbol.counter counter.1).text image.name).shown := by
  have blank : EndsWord (" " ++ Number.decimal counter.2).toList := by
    rw [String.toList_append]
    exact endsWord_cons (c := ' ') (by decide) _
  refine symbol?_define word blank ?_
  unfold counterLine
  simp [← String.toList_inj, Symbol.text, Symbol.tail?, Script.toList_shown_append]

theorem symbol?_shortcutLine {shortcut : Shortcut}
    (word : IsWord ((Symbol.shortcut shortcut.name).text image.name).shown) :
    Construct.symbol? (.line (shortcutLine image.name shortcut)) =
      some ((Symbol.shortcut shortcut.name).text image.name).shown := by
  have blank : EndsWord (" &" ++ image.name ++ ".list[" ++ Number.decimal shortcut.position ++
      "]").toList := by
    simp only [String.toList_append, List.append_assoc]
    exact endsWord_cons (c := ' ') (by decide) _
  refine symbol?_define word blank ?_
  unfold shortcutLine
  simp [← String.toList_inj, Symbol.text, Symbol.tail?, Script.toList_shown_append]

/-- What the declarations of the groups define. -/
theorem definedSymbols_declarations
    (storages : ∀ group ∈ image.usedGroups,
      IsWord ((Symbol.storage group.name).text image.name).shown)
    (handle : IsWord image.name) :
    definedSymbols (declarationItems image) =
      (image.usedGroups.map fun group => ((Symbol.type group.name).text image.name).shown) ++
        ((image.usedGroups.map fun group => ((Symbol.storage group.name).text image.name).shown) ++
          [image.name]) := by
  have types (group : StorageGroup) : (groupTypeItems image group).filterMap Construct.symbol? =
      [((Symbol.type group.name).text image.name).shown] := by
    have closing : closeBrace ++ " " ++ image.name ++ "_" ++ group.name ++ "_t;" =
        "\x7d " ++ ((Symbol.type group.name).text image.name).shown ++ ";" := by
      simp [← String.toList_inj, closeBrace, Symbol.text, Symbol.tail?, Script.toList_shown_append]
    rw [groupTypeItems, List.filterMap_cons_some (symbol?_type _ closing),
      List.filterMap_cons_none symbol?_blank]
    rfl
  have externs : (image.usedGroups.map fun group =>
      Construct.line ("extern " ++ groupVariable image.name group ++ ";")).filterMap
        Construct.symbol? =
      image.usedGroups.map fun group => ((Symbol.storage group.name).text image.name).shown := by
    refine filterMap_map_single fun group used => ?_
    refine symbol?_extern (image.name ++ "_" ++ group.name ++ "_t") (storages group used) ?_
    simp [← String.toList_inj, groupVariable, Symbol.text, Symbol.tail?,
      Script.toList_shown_append]
  have last : Construct.symbol? (.line ("extern const OD_t " ++ image.name ++ ";")) =
      some image.name := by
    refine symbol?_extern "const OD_t" handle ?_
    simp [← String.toList_inj]
  rw [definedSymbols, declarationItems, List.filterMap_append, filterMap_flatMap_single _ types,
    List.filterMap_append, externs, List.filterMap_cons_some last, List.filterMap_nil]

/-- In front of its parts a header defines its guard. -/
theorem definedSymbols_front (guard : IsWord (Symbol.guard.text image.name).shown) :
    definedSymbols (headerFront version image) = [(Symbol.guard.text image.name).shown] := by
  have condition : Construct.symbol? (.line ("#ifndef " ++ image.name ++ "_H")) = none := by
    refine symbol?_directive ("ifndef " ++ image.name ++ "_H") ?_ ?_
    · simp [← String.toList_inj]
    · simp [String.toList_append]
  have definition : Construct.symbol? (.line ("#define " ++ image.name ++ "_H")) =
      some (Symbol.guard.text image.name).shown := by
    have ends : EndsWord "".toList := endsWord_nil
    refine symbol?_define guard ends ?_
    simp [← String.toList_inj, Symbol.text, Symbol.tail?, Script.toList_shown_append]
  rw [definedSymbols, headerFront, List.filterMap_cons_none rfl,
    List.filterMap_cons_none symbol?_blank, List.filterMap_cons_none condition,
    List.filterMap_cons_some definition, List.filterMap_nil]

theorem definedSymbols_ending (name : String) :
    definedSymbols [.line "", .line ("#endif /* " ++ name ++ "_H */"), .line ""] = [] := by
  have condition : Construct.symbol? (.line ("#endif /* " ++ name ++ "_H */")) = none := by
    refine symbol?_directive ("endif /* " ++ name ++ "_H */") ?_ ?_
    · simp [← String.toList_inj]
    · simp [String.toList_append]
  rw [definedSymbols, List.filterMap_cons_none symbol?_blank, List.filterMap_cons_none condition,
    List.filterMap_cons_none symbol?_blank, List.filterMap_nil]

theorem definedSymbols_append (first second : List Construct) :
    definedSymbols (first ++ second) = definedSymbols first ++ definedSymbols second :=
  List.filterMap_append

/-- A header defines the symbols of its image and no others. -/
theorem definedSymbols_header
    (words : ∀ symbol ∈ image.symbols, IsWord (symbol.text image.name).shown) :
    definedSymbols (constructs (headerLines version image)) =
      image.symbols.map fun symbol => (symbol.text image.name).shown := by
  obtain ⟨guard, counters, _, storages, handle, shortcuts⟩ := Image.forall_mem_symbols.1 words
  have front := definedSymbols_front version guard
  have counted : definedSymbols
      (image.counters.map fun counter => .line (counterLine image.name counter)) =
      image.counters.map fun counter => ((Symbol.counter counter.1).text image.name).shown :=
    filterMap_map_single fun counter known => symbol?_counterLine (counters counter known)
  have declared := definedSymbols_declarations storages handle
  have entries (list : List Shortcut) (known : ∀ shortcut ∈ list,
        shortcut ∈ image.shortcuts ++ image.longShortcuts) :
      definedSymbols (list.map fun shortcut => .line (shortcutLine image.name shortcut)) =
        list.map fun shortcut => ((Symbol.shortcut shortcut.name).text image.name).shown :=
    filterMap_map_single fun shortcut inside =>
      symbol?_shortcutLine (shortcuts shortcut (known shortcut inside))
  have short := entries image.shortcuts fun _ => List.mem_append_left _
  have long := entries image.longShortcuts fun _ => List.mem_append_right _
  rw [constructs_headerLines, definedSymbols_append, front, definedSymbols_sectioned, headerParts]
  simp only [List.flatMap_cons, List.flatMap_nil, counted, declared, short, long,
    definedSymbols_append, definedSymbols_ending, Image.symbols, List.map_append, List.map_cons,
    List.map_map, List.append_assoc, List.append_nil, List.cons_append, List.nil_append]
  rfl

end Source

end Canopen

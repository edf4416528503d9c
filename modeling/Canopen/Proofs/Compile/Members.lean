import Canopen.Proofs.Compile.Run
import Canopen.Proofs.Identifier
import Canopen.Proofs.Number.Spelling

/-!
# Names of stored members

A group is shared by many objects.  The members of an object carry its index in their names, so
that no other object has put anything under them.
-/

namespace Canopen

namespace Entry

theorem toList_member (entry : Entry) :
    entry.member.toList =
      'x' :: (Number.paddedHexChars 4 entry.index.toNat ++
        '_' :: CName.identifierChars entry.name.shown.toList) := by
  simp [member, symbol, label, Number.paddedHex, CName.identifier, String.toList_append]

theorem isWord_symbol (entry : Entry) : CName.IsWord entry.symbol :=
  ((CName.isWord_paddedHex 4 _).append (CName.isWord_of_all rfl)).append (CName.isWord_identifier _)

theorem isWordChar_of_mem_member {entry : Entry} {c : Char} (inside : c ∈ entry.member.toList) :
    CName.isWordChar c = true := by
  have word : CName.IsWord entry.member := (CName.isWord_of_all rfl).append entry.isWord_symbol
  exact word c inside

/-- The names of the members of two objects show which objects they are. -/
theorem index_eq_of_member {first second : Entry} {firstRest secondRest : String}
    (same : first.member ++ firstRest = second.member ++ secondRest) :
    first.index = second.index := by
  have texts := congrArg String.toList same
  rw [String.toList_append, String.toList_append, toList_member, toList_member, List.cons_append,
    List.cons_append, List.append_assoc, List.append_assoc] at texts
  have long : (Number.paddedHexChars 4 first.index.toNat).length =
      (Number.paddedHexChars 4 second.index.toNat).length := by
    rw [Number.length_paddedHexChars (by decide) first.index.toNat_lt,
      Number.length_paddedHexChars (by decide) second.index.toNat_lt]
  have digits := (List.append_inj (List.cons.inj texts).2 long).1
  exact UInt16.toNat_inj.1 (Number.paddedHexChars_injective digits)

end Entry

namespace Compile

variable (lengths : StringLengths)

/-- The members of an object carry its name. -/
theorem name_of_mem_fields {entry : Entry} {field : StorageField}
    (inside : field ∈ fields lengths entry) : ∃ rest, field.name = entry.member ++ rest := by
  unfold fields at inside
  cases found : object? lengths entry with
  | none =>
      rw [found] at inside
      cases inside
  | some object =>
      rw [found] at inside
      cases compiled_of_object? lengths found with
      | var shape =>
          obtain ⟨value, _, rfl⟩ := Option.map_eq_some_iff.1 (Option.mem_toList.1 inside)
          exact ⟨"", String.append_empty.symm⟩
      | array shape parts =>
          rcases List.mem_append.1 inside with counted | element
          · obtain ⟨value, _, rfl⟩ := Option.map_eq_some_iff.1 (Option.mem_toList.1 counted)
            exact ⟨"_sub0", rfl⟩
          · split at element
            · rw [List.mem_singleton.1 element]
              exact ⟨"", String.append_empty.symm⟩
            · cases element
      | record shape enough =>
          change field ∈ recordFields entry _ at inside
          unfold recordFields at inside
          split at inside
          · cases inside
          · rw [List.mem_singleton.1 inside]
            exact ⟨"", String.append_empty.symm⟩

/-- Other objects have no member under a name of this one. -/
theorem filter_fieldsIn_of_other {entry : Entry} {others : List Entry}
    (other : ∀ candidate ∈ others, candidate.index ≠ entry.index) (location rest : String) :
    (fieldsIn lengths location others).filter (·.name == entry.member ++ rest) = [] := by
  refine List.filter_eq_nil_iff.2 fun field inside same => ?_
  obtain ⟨candidate, chosen, own⟩ := List.mem_flatMap.1 inside
  obtain ⟨ownRest, named⟩ := name_of_mem_fields lengths own
  rw [eq_of_beq same] at named
  exact other candidate (List.mem_filter.1 chosen).1 (Entry.index_eq_of_member named).symm

/-- Under a name of an object a group holds what this object has put there. -/
theorem filter_fieldsIn {entries : List Entry} (distinct : (entries.map (·.index)).Nodup)
    {entry : Entry} (inside : entry ∈ entries) {name rest : String}
    (named : name = entry.member ++ rest) :
    (fieldsIn lengths entry.storageLocation entries).filter (·.name == name) =
      (fields lengths entry).filter (·.name == name) := by
  subst named
  obtain ⟨earlier, later, rfl⟩ := List.append_of_mem inside
  rw [List.map_append, List.map_cons, List.nodup_append] at distinct
  obtain ⟨_, behind, apart⟩ := distinct
  have earlierOther : ∀ candidate ∈ earlier, candidate.index ≠ entry.index :=
    fun candidate before => apart _ (List.mem_map_of_mem before) _ List.mem_cons_self
  have laterOther : ∀ candidate ∈ later, candidate.index ≠ entry.index := by
    intro candidate after same
    exact (List.nodup_cons.1 behind).1 (same ▸ List.mem_map_of_mem after)
  have split : fieldsIn lengths entry.storageLocation (earlier ++ entry :: later) =
      fieldsIn lengths entry.storageLocation earlier ++ (fields lengths entry ++
        fieldsIn lengths entry.storageLocation later) := by
    simp [fieldsIn, List.filter_append]
  rw [split, List.filter_append, List.filter_append, filter_fieldsIn_of_other lengths earlierOther,
    filter_fieldsIn_of_other lengths laterOther, List.append_nil, List.nil_append]

end Compile

end Canopen

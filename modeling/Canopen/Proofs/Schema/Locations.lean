import Canopen.Proofs.Identifier
import Canopen.Proofs.Schema.RoundTrip

/-!
# Names in accepted dictionaries

The schema takes only identifiers for the dictionary and for storage locations, so that the names of
the groups are words.
-/

namespace Canopen

namespace Schema

theorem isIdentifier_of_readIdentifier {name : String}
    (read : readIdentifier (.text name) = .sound name) :
    CName.isIdentifier name.toList = true := by
  unfold readIdentifier at read
  obtain ⟨text, same, checked⟩ := Checked.andThen_eq_sound read
  cases same
  split at checked
  · next identifier => exact identifier
  · cases checked

/-- A field for an identifier holds one, whether it is given or not. -/
theorem isIdentifier_of_readField {fields : Fields} {key standard name : String}
    (usual : readIdentifier (.text standard) = .sound standard)
    (done : readField fields key (.sound standard) readIdentifier = .sound name) :
    CName.isIdentifier name.toList = true := by
  refine isIdentifier_of_readIdentifier (rereads_identifier.field ?_ done)
  rintro _ ⟨⟩
  exact usual

theorem isWord_storageLocation {value : Value} {entry : Entry}
    (done : readEntry value = .sound entry) : CName.IsWord entry.storageLocation := by
  unfold readEntry at done
  split at done
  · next fields _ =>
    obtain ⟨shape, _, done⟩ := Checked.andThen_eq_sound done
    obtain ⟨_, _, _, stored, _⟩ := readFields_eq_sound_iff.1 (Checked.under_eq_sound_iff.1 done)
    exact CName.isWord_of_isIdentifier (isIdentifier_of_readField rfl stored)
  · cases done

theorem isIdentifier_name {value : Value} {dictionary : Dictionary}
    (done : read value = .sound dictionary) :
    CName.isIdentifier dictionary.name.toList = true := by
  cases content : value.content with
  | map fields =>
      obtain ⟨named, _⟩ := (read_eq_sound_iff content).1 done
      exact isIdentifier_of_readField rfl named
  | _ =>
      rw [read, content] at done
      cases done

theorem exists_of_read {value : Value} {dictionary : Dictionary}
    (done : read value = .sound dictionary) :
    ∀ entry ∈ dictionary.objects, ∃ item, readEntry item = .sound entry := by
  cases content : value.content with
  | map fields =>
      obtain ⟨_, listed, _⟩ := (read_eq_sound_iff content).1 done
      rw [readField, Checked.under_eq_sound_iff] at listed
      cases found : Value.field? "objects" fields with
      | none =>
          rw [found] at listed
          rw [← Checked.sound.inj listed]
          intro entry inside
          cases inside
      | some items =>
          rw [found] at listed
          exact exists_of_readItems listed
  | _ =>
      rw [read, content] at done
      cases done

end Schema

/-- The name of an accepted dictionary is an identifier. -/
theorem Dictionary.Accepted.isIdentifier_name {dictionary : Dictionary}
    (accepted : dictionary.Accepted) : CName.isIdentifier dictionary.name.toList = true := by
  obtain ⟨value, done⟩ := accepted
  exact Schema.isIdentifier_name done

/-- The storage location of each object of an accepted dictionary is a word. -/
theorem Dictionary.Accepted.isWord_storageLocation {dictionary : Dictionary}
    (accepted : dictionary.Accepted) {entry : Entry} (inside : entry ∈ dictionary.objects) :
    CName.IsWord entry.storageLocation := by
  obtain ⟨value, done⟩ := accepted
  obtain ⟨item, read⟩ := Schema.exists_of_read done entry inside
  exact Schema.isWord_storageLocation read

end Canopen

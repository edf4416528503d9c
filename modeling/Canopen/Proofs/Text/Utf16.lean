import Canopen.Encoding

/-!
# Units of UTF-16

A text is spelled in units of sixteen bits: a character of the first plane is a unit of its own, and
any other character is a pair.  The units that are stored for a text spell this text.
-/

namespace Canopen.Text

/-- The unit begins a pair. -/
def isHighSurrogate (unit : Nat) : Bool :=
  0xD800 ≤ unit && unit < 0xDC00

/-- The unit ends a pair. -/
def isLowSurrogate (unit : Nat) : Bool :=
  0xDC00 ≤ unit && unit < 0xE000

/-- The characters that units spell, `none` when half of a pair stands alone. -/
def ofUtf16? : List Nat → Option (List Char)
  | [] => some []
  | unit :: rest =>
      if isHighSurrogate unit then
        match rest with
        | [] => none
        | low :: later =>
            if isLowSurrogate low then
              (ofUtf16? later).map
                (Char.ofNat (0x10000 + (unit - 0xD800) * 0x400 + (low - 0xDC00)) :: ·)
            else none
      else if isLowSurrogate unit || 0x10000 ≤ unit then none
      else (ofUtf16? rest).map (Char.ofNat unit :: ·)

/-- How many units a text has. -/
def utf16Length : List Char → Nat
  | [] => 0
  | c :: rest => (if c.toNat < 0x10000 then 1 else 2) + utf16Length rest

/-- The code of a character is no half of a pair. -/
theorem toNat_valid (c : Char) : c.toNat < 0xD800 ∨ (0xE000 ≤ c.toNat ∧ c.toNat < 0x110000) :=
  c.valid

/-- A unit that is no half of a pair is read on its own. -/
theorem ofUtf16?_cons {unit : Nat} (notHigh : isHighSurrogate unit = false)
    (notLow : isLowSurrogate unit = false) (first : unit < 0x10000) (rest : List Nat) :
    ofUtf16? (unit :: rest) = (ofUtf16? rest).map (Char.ofNat unit :: ·) := by
  rw [ofUtf16?.eq_def]
  simp [notHigh, notLow, Nat.not_le.2 first]

/-- The units of a character are read as this character. -/
theorem ofUtf16?_utf16Units (c : Char) (rest : List Nat) :
    ofUtf16? (Encoding.utf16Units c ++ rest) = (ofUtf16? rest).map (c :: ·) := by
  have valid := toNat_valid c
  rw [Encoding.utf16Units]
  split
  · next first =>
    have notHigh : isHighSurrogate c.toNat = false := by
      simp [isHighSurrogate]
      omega
    have notLow : isLowSurrogate c.toNat = false := by
      simp [isLowSurrogate]
      omega
    rw [List.singleton_append, ofUtf16?_cons notHigh notLow first, Char.ofNat_toNat]
  · next later =>
    have high : isHighSurrogate (0xD800 + (c.toNat - 0x10000) / 0x400) = true := by
      simp [isHighSurrogate]
      omega
    have low : isLowSurrogate (0xDC00 + (c.toNat - 0x10000) % 0x400) = true := by
      simp [isLowSurrogate]
      omega
    have code : 0x10000 + (0xD800 + (c.toNat - 0x10000) / 0x400 - 0xD800) * 0x400 +
        (0xDC00 + (c.toNat - 0x10000) % 0x400 - 0xDC00) = c.toNat := by
      omega
    rw [List.cons_append, List.singleton_append, ofUtf16?, high, if_pos rfl]
    simp only [low, if_pos, code, Char.ofNat_toNat]

/-- The units of a text are read as this text. -/
theorem ofUtf16?_flatMap (text : List Char) (rest : List Nat) :
    ofUtf16? (text.flatMap Encoding.utf16Units ++ rest) = (ofUtf16? rest).map (text ++ ·) := by
  induction text with
  | nil => simp
  | cons c text ih =>
      rw [List.flatMap_cons, List.append_assoc, ofUtf16?_utf16Units, ih, Option.map_map]
      rfl

theorem length_flatMap_utf16Units (text : List Char) :
    (text.flatMap Encoding.utf16Units).length = utf16Length text := by
  induction text with
  | nil => rfl
  | cons c text ih =>
      rw [List.flatMap_cons, List.length_append, ih, utf16Length, Encoding.utf16Units]
      congr 1
      split <;> rfl

/-- Every unit has sixteen bits. -/
theorem lt_of_mem_utf16Units {c : Char} {unit : Nat} (inside : unit ∈ Encoding.utf16Units c) :
    unit < 0x10000 := by
  have valid := toNat_valid c
  rw [Encoding.utf16Units] at inside
  split at inside
  · next first =>
    rw [List.mem_singleton.1 inside]
    exact first
  · simp only [List.mem_cons, List.not_mem_nil, or_false] at inside
    omega

/-- Zeros are read as characters of code zero. -/
theorem ofUtf16?_replicate (count : Nat) :
    ofUtf16? (List.replicate count 0) = some (List.replicate count '\x00') := by
  induction count with
  | zero => rfl
  | succ count ih =>
      rw [List.replicate_succ, ofUtf16?_cons rfl rfl (by decide), ih]
      rfl

end Canopen.Text

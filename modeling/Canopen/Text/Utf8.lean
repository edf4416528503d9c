/-!
# UTF-8

Strict decoding.  A sequence that is not well formed is reported with the place and the reason, and
an octet that starts no character is told apart from a character that breaks off.
-/

namespace Canopen.Text

/-- Why octets are not UTF-8. -/
inductive Utf8Fault where
  | invalidStart
  | invalidContinuation
  | unexpectedEnd
deriving DecidableEq, Repr

/-- The first place at which octets stop being UTF-8, and how many octets are at fault. -/
structure Utf8Error where
  position : Nat
  octet : UInt8
  count : Nat
  fault : Utf8Fault
deriving DecidableEq, Repr

/-- What a leading octet asks for: its own bits, how many octets follow, and the bounds of the
next one. -/
structure Lead where
  bits : Nat
  follow : Nat
  low : Nat
  high : Nat

/-- A leading octet; overlong forms, surrogates and code points past the last are ruled out by the
bounds of the second octet. -/
def lead? (octet : Nat) : Option Lead :=
  if octet < 0x80 then some ⟨octet, 0, 0x80, 0xBF⟩
  else if octet < 0xC2 then none
  else if octet < 0xE0 then some ⟨octet - 0xC0, 1, 0x80, 0xBF⟩
  else if octet < 0xF0 then
    some ⟨octet - 0xE0, 2, if octet = 0xE0 then 0xA0 else 0x80, if octet = 0xED then 0x9F else 0xBF⟩
  else if octet < 0xF5 then
    some ⟨octet - 0xF0, 3, if octet = 0xF0 then 0x90 else 0x80, if octet = 0xF4 then 0x8F else 0xBF⟩
  else none

/-- A character under way: where it started and what it still asks for. -/
structure Partial where
  start : Nat
  first : UInt8
  seen : Nat
  lead : Lead

/-- Decode from a position, with a character under way or between characters. -/
def decodeFrom (position : Nat) : Option Partial → List UInt8 → Except Utf8Error (List Char)
  | none, [] => .ok []
  | some pending, [] => .error ⟨pending.start, pending.first, pending.seen, .unexpectedEnd⟩
  | none, octet :: rest =>
      match lead? octet.toNat with
      | none => .error ⟨position, octet, 1, .invalidStart⟩
      | some lead =>
          if lead.follow = 0 then
            (decodeFrom (position + 1) none rest).map (Char.ofNat lead.bits :: ·)
          else
            decodeFrom (position + 1) (some ⟨position, octet, 1, lead⟩) rest
  | some pending, octet :: rest =>
      let lead := pending.lead
      if lead.low ≤ octet.toNat ∧ octet.toNat ≤ lead.high then
        let bits := lead.bits * 64 + octet.toNat % 64
        if lead.follow = 1 then
          (decodeFrom (position + 1) none rest).map (Char.ofNat bits :: ·)
        else
          decodeFrom (position + 1)
            (some ⟨pending.start, pending.first, pending.seen + 1,
              ⟨bits, lead.follow - 1, 0x80, 0xBF⟩⟩) rest
      else
        .error ⟨pending.start, pending.first, pending.seen, .invalidContinuation⟩

/-- The text that the octets spell. -/
def decodeUtf8 (octets : List UInt8) : Except Utf8Error String :=
  (decodeFrom 0 none octets).map String.ofList

/-- The octets that spell a text. -/
def encodeUtf8 (text : String) : List UInt8 :=
  text.toUTF8.data.toList

/-- Every line end becomes a single line feed. -/
def unifyLineEnds : List Char → List Char
  | [] => []
  | '\r' :: '\n' :: rest => '\n' :: unifyLineEnds rest
  | '\r' :: rest => '\n' :: unifyLineEnds rest
  | c :: rest => c :: unifyLineEnds rest

theorem carriageReturn_not_mem_unifyLineEnds (text : List Char) :
    '\r' ∉ unifyLineEnds text := by
  fun_induction unifyLineEnds text with
  | case1 => simp
  | case2 rest ih => simpa using ih
  | case3 rest _ ih => simpa using ih
  | case4 c rest _ plain ih =>
      simp only [List.mem_cons, not_or]
      exact ⟨fun same => plain same.symm, ih⟩

end Canopen.Text

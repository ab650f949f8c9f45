import SalesLedger.Text.Case
import SalesLedger.Text.PrintableTable

/-!
# Quoted text in messages

How a message shows a text that a caller supplied: in double quotes, with everything that could
hide or reshape the message written as an escape. The quote and the backslash get a backslash,
four controls have a letter of their own, and every other character without a visible form stands
as its number in braces.

Main statement: `plain_of_visible`, a text of visible ASCII characters without quotes or
backslashes is shown as it is.
-/

namespace SalesLedger.Text.Escaped

/-- The digits of a number to base sixteen, in lower case. -/
def hexDigits (n : Nat) : List Char :=
  Nat.toDigits 16 n

/-- Whether a character shows as itself: it has a visible form, or is the space, and does not
attach to the character before it. -/
def isVisible (c : Char) : Bool :=
  if c.toNat < 0x80 then 0x20 ≤ c.toNat && c.toNat != 0x7f
  else !inRanges invisibleRanges c && !inRanges extenderRanges c

/-- One character as a message shows it. -/
def char (c : Char) : List Char :=
  if c == '"' then ['\\', '"']
  else if c == '\\' then ['\\', '\\']
  else if c == '\n' then ['\\', 'n']
  else if c == '\r' then ['\\', 'r']
  else if c == '\t' then ['\\', 't']
  else if c.toNat == 0 then ['\\', '0']
  else if isVisible c then [c]
  else ['\\', 'u', Char.ofNat 0x7b] ++ hexDigits c.toNat ++ [Char.ofNat 0x7d]

/-- A text as a message shows it. -/
def text (s : String) : String :=
  String.ofList ('"' :: (s.toList.flatMap char ++ ['"']))

/-- A text that may be absent, as a message shows it. -/
def optional : Option String → String
  | some s => "Some(" ++ text s ++ ")"
  | none => "None"

/-! ## Laws -/

theorem char_of_plain {c : Char} (hq : c ≠ '"') (hb : c ≠ '\\') (h : 0x20 ≤ c.toNat)
    (h' : c.toNat < 0x7f) : char c = [c] := by
  have hn : c ≠ '\n' := by rintro rfl; simp at h
  have hr : c ≠ '\r' := by rintro rfl; simp at h
  have ht : c ≠ '\t' := by rintro rfl; simp at h
  have h0 : c.toNat ≠ 0 := by omega
  have hv : isVisible c = true := by
    simp [isVisible, show c.toNat < 0x80 by omega, h, show c.toNat ≠ 0x7f by omega]
  simp [char, hq, hb, hn, hr, ht, h0, hv]

theorem plain_of_visible {s : String}
    (h : ∀ c ∈ s.toList, c ≠ '"' ∧ c ≠ '\\' ∧ 0x20 ≤ c.toNat ∧ c.toNat < 0x7f) :
    text s = "\"" ++ s ++ "\"" := by
  have hflat : ∀ cs : List Char,
      (∀ c ∈ cs, c ≠ '"' ∧ c ≠ '\\' ∧ 0x20 ≤ c.toNat ∧ c.toNat < 0x7f) →
        cs.flatMap char = cs := by
    intro cs
    induction cs with
    | nil => intro _; rfl
    | cons c cs ih =>
      intro hcs
      obtain ⟨hq, hb, h1, h2⟩ := hcs c (by simp)
      rw [List.flatMap_cons, char_of_plain hq hb h1 h2, ih fun d hd => hcs d (by simp [hd])]
      rfl
  apply String.toList_injective
  simp [text, hflat s.toList h]

end SalesLedger.Text.Escaped

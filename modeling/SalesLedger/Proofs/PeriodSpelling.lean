import SalesLedger.Calendar.Period
import SalesLedger.Proofs.DateSpelling

/-!
# Which texts are periods

`parse_exact`: a period reads back from its text, with blanks around it and, where it is a name, in
any case; and what is read is a name, or a text that the mark ` to ` cuts into exactly two dates. A
text without the mark is unsupported, any other an invalid range.

* `IsCut`: the pieces of a text between its marks, each mark the first that is left.
* `splitRange_eq_iff`: `splitRange` gives those pieces.
* `lookup_named_iff`: a word is looked up as the period that it names.
* `parse_eq_ok_iff`, `parse_eq_unsupported_iff`, `parse_eq_invalidRange_iff`: what becomes of a text.
-/

namespace SalesLedger

/-! ## Blanks -/

namespace Text

theorem dropTrailingBlanks_of_last {cs : List Char}
    (h : ∀ c ∈ cs.getLast?, isBlank c = false) : dropTrailingBlanks cs = cs := by
  induction cs with
  | nil => rfl
  | cons c cs ih =>
    rw [dropTrailingBlanks]
    cases cs with
    | nil => simp [dropTrailingBlanks, h c rfl]
    | cons d cs => rw [ih h]

/-- A text between two visible ones has nothing to trim. -/
theorem trimChars_of_ends {front mid back : List Char} (hfront : ∀ c ∈ front, isBlank c = false)
    (hfront' : front ≠ []) (hback : ∀ c ∈ back, isBlank c = false) (hback' : back ≠ []) :
    trimChars (front ++ mid ++ back) = front ++ mid ++ back := by
  obtain ⟨c, front, rfl⟩ := List.exists_cons_of_ne_nil hfront'
  have hskip : skipBlanks (c :: front ++ mid ++ back) = c :: front ++ mid ++ back :=
    List.dropWhile_cons_of_neg (Bool.eq_false_iff.1 (hfront c List.mem_cons_self))
  rw [trimChars, hskip, dropTrailingBlanks_of_last]
  intro d hd
  rw [List.getLast?_append, List.getLast?_eq_some_getLast hback', Option.some_or] at hd
  cases hd
  exact hback _ (List.getLast_mem hback')

/-- Blanks at both ends are trimmed. -/
theorem trim_between {before s after : String} (hbefore : ∀ c ∈ before.toList, isBlank c = true)
    (hafter : ∀ c ∈ after.toList, isBlank c = true) :
    trim (before ++ s ++ after) = trim s := by
  rw [trim_append_blank hafter, trim_blank_append hbefore]

end Text

namespace Calendar.Period

/-! ## Pieces -/

/-- What stands between the two dates of a range. -/
def rangeMark : List Char := [' ', 't', 'o', ' ']

/-- The pieces of a text between its marks: each mark is the first one that is left, and there is
none in the last piece. -/
inductive IsCut : List Char → List (List Char) → Prop where
  | whole {cs : List Char} (h : ¬ rangeMark <:+: cs) : IsCut cs [cs]
  | cut {piece rest : List Char} {pieces : List (List Char)}
    (hfirst : ¬ rangeMark <:+: piece ++ rangeMark.dropLast) (hrest : IsCut rest pieces) :
    IsCut (piece ++ rangeMark ++ rest) (piece :: pieces)

variable {cs rest piece : List Char} {pieces : List (List Char)} {c : Char}

theorem splitRange_mark (rest : List Char) :
    splitRange (rangeMark ++ rest) = [] :: splitRange rest := rfl

/-- Where no mark begins, the first piece grows. -/
theorem splitRange_cons (h : ¬ rangeMark <+: c :: cs) :
    ∃ piece pieces, splitRange cs = piece :: pieces ∧
      splitRange (c :: cs) = (c :: piece) :: pieces := by
  cases hcs : splitRange cs with
  | nil => exact absurd hcs (splitRange_ne_nil cs)
  | cons piece pieces =>
    refine ⟨piece, pieces, rfl, ?_⟩
    rw [splitRange.eq_3, hcs]
    rintro rest rfl rfl
    exact h (List.prefix_append rangeMark rest)

theorem splitRange_of_no_mark (h : ¬ rangeMark <:+: cs) : splitRange cs = [cs] := by
  induction cs with
  | nil => rfl
  | cons c cs ih =>
    rw [List.infix_cons_iff, not_or] at h
    obtain ⟨piece, pieces, hcs, hcons⟩ := splitRange_cons h.1
    rw [ih h.2] at hcs
    cases hcs
    exact hcons

theorem splitRange_of_cut (h : ¬ rangeMark <:+: piece ++ rangeMark.dropLast) :
    splitRange (piece ++ rangeMark ++ rest) = piece :: splitRange rest := by
  induction piece with
  | nil => exact splitRange_mark rest
  | cons c piece ih =>
    rw [List.cons_append, List.infix_cons_iff, not_or] at h
    have hbegins : ¬ rangeMark <+: c :: (piece ++ rangeMark ++ rest) := by
      -- a mark that begins here ends before the mark that follows the piece does
      intro hmark
      refine h.1 (List.prefix_of_prefix_length_le hmark ⟨' ' :: rest, ?_⟩ ?_)
      · simp [rangeMark]
      · simp [rangeMark]
    obtain ⟨piece', pieces', hcs, hcons⟩ := splitRange_cons hbegins
    rw [ih h.2] at hcs
    cases hcs
    exact hcons

theorem splitRange_of_isCut (h : IsCut cs pieces) : splitRange cs = pieces := by
  induction h with
  | whole h => exact splitRange_of_no_mark h
  | cut hfirst _ ih => rw [splitRange_of_cut hfirst, ih]

/-- A character in front, where no mark begins with it, belongs to the first piece. -/
theorem IsCut.cons (h : IsCut cs (piece :: pieces)) (hbegins : ¬ rangeMark <+: c :: cs) :
    IsCut (c :: cs) ((c :: piece) :: pieces) := by
  cases h with
  | whole h => exact .whole (by rw [List.infix_cons_iff, not_or]; exact ⟨hbegins, h⟩)
  | @cut piece rest pieces hfirst hrest =>
    refine @IsCut.cut (c :: piece) rest pieces ?_ hrest
    rw [List.cons_append, List.infix_cons_iff, not_or]
    refine ⟨fun hmark => hbegins (hmark.trans ⟨' ' :: rest, ?_⟩), hfirst⟩
    simp [rangeMark]

theorem isCut_splitRange (cs : List Char) : IsCut cs (splitRange cs) := by
  fun_induction splitRange cs with
  | case1 => exact .whole (by decide)
  | case2 rest ih => exact @IsCut.cut [] rest _ (by decide) ih
  | case3 c rest hmark piece pieces hrest ih =>
    rw [hrest] at ih
    refine ih.cons ?_
    rintro ⟨rest', hrest'⟩
    cases hrest'
    exact hmark rest' rfl rfl
  | case4 c rest hmark hrest => exact absurd hrest (splitRange_ne_nil rest)

/-- **The pieces of a text** are those that its marks cut it into. -/
theorem splitRange_eq_iff : splitRange cs = pieces ↔ IsCut cs pieces :=
  ⟨fun h => h ▸ isCut_splitRange cs, splitRange_of_isCut⟩

theorem splitRange_eq_singleton_iff :
    (∃ piece, splitRange cs = [piece]) ↔ ¬ rangeMark <:+: cs := by
  constructor
  · rintro ⟨piece, hcs⟩
    cases splitRange_eq_iff.1 hcs with
    | whole h => exact h
    | cut _ hrest => cases hrest
  · exact fun h => ⟨cs, splitRange_of_no_mark h⟩

/-! ## Names -/

/-- A word names a period in any case. Ranges have no names. -/
def IsNamed (word : String) (p : Period) : Prop :=
  (∀ start stop, p ≠ range start stop) ∧ Text.equalAscii word p.text = true

variable {raw word : String} {p : Period} {start stop : Date}

theorem mem_named_iff :
    (word, p) ∈ named ↔ (∀ start stop, p ≠ range start stop) ∧ word = p.text := by
  cases p <;> simp [named, text]

theorem lowerAscii_text (h : ∀ start stop, p ≠ range start stop) :
    Text.lowerAscii p.text = p.text := by
  cases p with
  | range start stop => exact absurd rfl (h start stop)
  | _ => decide

theorem lookup_text (h : ∀ start stop, p ≠ range start stop) : named.lookup p.text = some p := by
  cases p with
  | range start stop => exact absurd rfl (h start stop)
  | _ => decide

/-- **A word is looked up as the period that it names.** -/
theorem lookup_named_iff : named.lookup (Text.lowerAscii word) = some p ↔ IsNamed word p := by
  constructor
  · intro h
    obtain ⟨front, back, hsplit, -⟩ := List.lookup_eq_some_iff.1 h
    have hmem : (Text.lowerAscii word, p) ∈ named := by simp [hsplit]
    obtain ⟨hname, htext⟩ := mem_named_iff.1 hmem
    exact ⟨hname, Text.equalAscii_iff.2 (htext.trans (lowerAscii_text hname).symm)⟩
  · rintro ⟨hname, hword⟩
    rw [Text.equalAscii_iff.1 hword, lowerAscii_text hname]
    exact lookup_text hname

theorem isNamed_text (h : ∀ start stop, p ≠ range start stop) : IsNamed p.text p :=
  ⟨h, Text.equalAscii_refl p.text⟩

/-- Names have no blanks. -/
theorem no_blank_of_isNamed (h : IsNamed word p) :
    ∀ c ∈ word.toList, Text.isBlank c = false := by
  intro c hc
  rw [Bool.eq_false_iff]
  intro hblank
  -- a blank is no letter, so it would be in the name as well
  have hkept : Text.lowerLetter c = c := by
    simp only [Text.isBlank, Bool.or_eq_true, Bool.and_eq_true, decide_eq_true_eq, beq_iff_eq]
      at hblank
    exact if_neg (by omega)
  have hmem : c ∈ (Text.lowerAscii word).toList := by
    rw [Text.lowerAscii, String.toList_ofList]
    exact List.mem_map.2 ⟨c, hc, hkept⟩
  rw [Text.equalAscii_iff.1 h.2, lowerAscii_text h.1] at hmem
  have hvisible : p.text.toList.all (fun c => !Text.isBlank c) = true := by
    cases p with
    | range start stop => exact absurd rfl (h.1 start stop)
    | _ => decide
  have hnot := List.all_eq_true.1 hvisible c hmem
  rw [hblank] at hnot
  cases hnot

theorem no_mark_of_no_blank (h : ∀ c ∈ cs, Text.isBlank c = false) : ¬ rangeMark <:+: cs := by
  intro hmark
  have hblank := h ' ' (hmark.subset (by decide))
  exact absurd hblank (by decide)

/-! ## Ranges -/

/-- A text spells a range: its marks cut it into two pieces, each of which, between blanks, spells a
date. -/
def SpellsRange (cs : List Char) (start stop : Date) : Prop :=
  ∃ first second, IsCut cs [first, second] ∧ LeadsWithDate '-' (Text.trimChars first) start [] ∧
    LeadsWithDate '-' (Text.trimChars second) stop []

theorem SpellsRange.mark_infix (h : SpellsRange cs start stop) : rangeMark <:+: cs := by
  obtain ⟨first, second, hcut, -⟩ := h
  by_contra hmark
  have hwhole := splitRange_of_no_mark hmark
  rw [splitRange_of_isCut hcut] at hwhole
  cases hwhole

/-- **How a text is read** as a period: the four ways that it can end. -/
inductive Reads (token : String) : Except PeriodFault Period → Prop where
  | name {p : Period} (h : IsNamed token p) : Reads token (.ok p)
  | range {start stop : Date} (h : SpellsRange token.toList start stop) :
    Reads token (.ok (.range start stop))
  | unsupported (hname : ∀ p, ¬ IsNamed token p) (hmark : ¬ rangeMark <:+: token.toList) :
    Reads token (.error (.unsupported token))
  | invalidRange (hname : ∀ p, ¬ IsNamed token p) (hmark : rangeMark <:+: token.toList)
    (hrange : ∀ start stop, ¬ SpellsRange token.toList start stop) :
    Reads token (.error (.invalidRange token))

theorem lookup_eq_none (h : ∀ p, ¬ IsNamed word p) : named.lookup (Text.lowerAscii word) = none := by
  rw [Option.eq_none_iff_forall_ne_some]
  exact fun p hp => h p (lookup_named_iff.1 hp)

theorem parse_of_isNamed (h : IsNamed (Text.trim raw) p) : parse raw = .ok p := by
  unfold parse
  dsimp only
  rw [lookup_named_iff.2 h]

/-- A range is no name, and is read date by date. -/
theorem parse_of_spellsRange (h : SpellsRange (Text.trim raw).toList start stop) :
    parse raw = .ok (range start stop) := by
  have hname : ∀ p, ¬ IsNamed (Text.trim raw) p :=
    fun p hp => no_mark_of_no_blank (no_blank_of_isNamed hp) h.mark_infix
  obtain ⟨first, second, hcut, hstart, hstop⟩ := h
  unfold parse
  simp only [lookup_eq_none hname, splitRange_of_isCut hcut, read_eq_ok_iff.2 hstart,
    read_eq_ok_iff.2 hstop]

theorem reads_parse (raw : String) : Reads (Text.trim raw) (parse raw) := by
  unfold parse
  dsimp only
  split
  · rename_i p hlookup
    exact .name (lookup_named_iff.1 hlookup)
  rename_i hlookup
  have hname : ∀ p, ¬ IsNamed (Text.trim raw) p := by
    intro p hp
    rw [lookup_named_iff.2 hp] at hlookup
    cases hlookup
  have hmark : (∀ piece, splitRange (Text.trim raw).toList ≠ [piece]) →
      rangeMark <:+: (Text.trim raw).toList := by
    intro hpieces
    by_contra hmark
    exact hpieces _ (splitRange_of_no_mark hmark)
  split
  · rename_i piece hpieces
    exact .unsupported hname (splitRange_eq_singleton_iff.1 ⟨piece, hpieces⟩)
  · rename_i first second hpieces
    split
    · rename_i start stop hstart hstop
      exact .range ⟨first, second, splitRange_eq_iff.1 hpieces, read_eq_ok_iff.1 hstart,
        read_eq_ok_iff.1 hstop⟩
    · rename_i hdates
      refine .invalidRange hname (hmark (by simp [hpieces])) fun start stop hrange => ?_
      obtain ⟨first', second', hcut, hstart, hstop⟩ := hrange
      rw [← splitRange_eq_iff, hpieces] at hcut
      cases hcut
      exact hdates start stop (read_eq_ok_iff.2 hstart) (read_eq_ok_iff.2 hstop)
  · rename_i hone htwo
    refine .invalidRange hname (hmark hone) fun start stop hrange => ?_
    obtain ⟨first, second, hcut, -⟩ := hrange
    exact htwo first second (splitRange_of_isCut hcut)

/-! ## Texts of periods -/

theorem leadsWithDate_text (d : Date) : LeadsWithDate '-' (Text.trimChars d.text.toList) d [] := by
  rw [Text.trimChars_of_no_blank (no_blank_text d)]
  exact read_eq_ok_iff.1 (read_text d)

theorem text_ne_nil (d : Date) : d.text.toList ≠ [] := by
  rw [toList_text]
  exact List.append_ne_nil_of_right_ne_nil _ (List.cons_ne_nil _ _)

theorem toList_range (start stop : Date) :
    (range start stop).text.toList = start.text.toList ++ rangeMark ++ stop.text.toList := by
  rw [text, String.toList_append, String.toList_append]
  rfl

theorem spellsRange_text (start stop : Date) :
    SpellsRange (range start stop).text.toList start stop := by
  refine ⟨start.text.toList, stop.text.toList, ?_, leadsWithDate_text start,
    leadsWithDate_text stop⟩
  rw [toList_range]
  refine .cut (fun hmark => ?_) (.whole (no_mark_of_no_blank (no_blank_text stop)))
  -- a mark has two blanks, a date and the beginning of a mark have one
  have hcount := hmark.sublist.count_le ' '
  have hnone : start.text.toList.count ' ' = 0 := by
    refine List.count_eq_zero.2 fun hmem => ?_
    exact absurd (no_blank_text start ' ' hmem) (by decide)
  rw [List.count_append, hnone] at hcount
  exact absurd hcount (by decide)

theorem eq_range_of_not_name (h : ¬ ∀ start stop, p ≠ range start stop) :
    ∃ start stop, p = range start stop := by
  simpa using h

theorem trim_text (p : Period) : Text.trim p.text = p.text := by
  by_cases hname : ∀ start stop, p ≠ range start stop
  · exact Text.trim_of_no_blank (no_blank_of_isNamed (isNamed_text hname))
  · obtain ⟨start, stop, rfl⟩ := eq_range_of_not_name hname
    rw [Text.trim, toList_range, Text.trimChars_of_ends (no_blank_text start) (text_ne_nil start)
      (no_blank_text stop) (text_ne_nil stop), ← toList_range, String.ofList_toList]

theorem parse_of_trim_eq_text (h : Text.trim raw = p.text) : parse raw = .ok p := by
  by_cases hname : ∀ start stop, p ≠ range start stop
  · exact parse_of_isNamed (h ▸ isNamed_text hname)
  · obtain ⟨start, stop, rfl⟩ := eq_range_of_not_name hname
    exact parse_of_spellsRange (h ▸ spellsRange_text start stop)

/-- What is read is a name or a range. -/
theorem parse_eq_ok_iff : parse raw = .ok p ↔ IsNamed (Text.trim raw) p ∨
    ∃ start stop, p = range start stop ∧ SpellsRange (Text.trim raw).toList start stop := by
  constructor
  · intro h
    have hreads := reads_parse raw
    rw [h] at hreads
    cases hreads with
    | name hname => exact .inl hname
    | range hrange => exact .inr ⟨_, _, rfl, hrange⟩
  · rintro (h | ⟨start, stop, rfl, h⟩)
    · exact parse_of_isNamed h
    · exact parse_of_spellsRange h

theorem parse_eq_unsupported_iff {token : String} : parse raw = .error (.unsupported token) ↔
    token = Text.trim raw ∧ (∀ p, ¬ IsNamed (Text.trim raw) p) ∧
      ¬ rangeMark <:+: (Text.trim raw).toList := by
  have hreads := reads_parse raw
  generalize parse raw = result at hreads
  constructor
  · rintro rfl
    cases hreads with
    | unsupported hname hmark => exact ⟨rfl, hname, hmark⟩
  · rintro ⟨rfl, hname, hmark⟩
    cases hreads with
    | name h => exact absurd h (hname _)
    | range h => exact absurd h.mark_infix hmark
    | unsupported => rfl
    | invalidRange _ h => exact absurd h hmark

theorem parse_eq_invalidRange_iff {token : String} : parse raw = .error (.invalidRange token) ↔
    token = Text.trim raw ∧ (∀ p, ¬ IsNamed (Text.trim raw) p) ∧
      rangeMark <:+: (Text.trim raw).toList ∧
      ∀ start stop, ¬ SpellsRange (Text.trim raw).toList start stop := by
  have hreads := reads_parse raw
  generalize parse raw = result at hreads
  constructor
  · rintro rfl
    cases hreads with
    | invalidRange hname hmark hrange => exact ⟨rfl, hname, hmark, hrange⟩
  · rintro ⟨rfl, hname, hmark, hrange⟩
    cases hreads with
    | name h => exact absurd h (hname _)
    | range h => exact absurd h (hrange _ _)
    | unsupported _ h => exact absurd hmark h
    | invalidRange => rfl

/-- **Periods as texts.** Every period is read back from its text between blanks, and one with a name
from that name in any case. Of all texts, those are read as a period that are a name between blanks,
in any case, or that the mark cuts into exactly two dates; what is no name and has no mark is
unsupported, and everything else is an invalid range. -/
theorem parse_exact :
    (∀ (p : Period) (before after : String), (∀ c ∈ before.toList, Text.isBlank c = true) →
      (∀ c ∈ after.toList, Text.isBlank c = true) →
      parse (before ++ p.text ++ after) = .ok p ∧
        ∀ word, IsNamed word p → parse (before ++ word ++ after) = .ok p) ∧
    ∀ raw : String,
      (∀ p, parse raw = .ok p ↔ IsNamed (Text.trim raw) p ∨
        ∃ start stop, p = range start stop ∧ SpellsRange (Text.trim raw).toList start stop) ∧
      (∀ token, parse raw = .error (.unsupported token) ↔ token = Text.trim raw ∧
        (∀ p, ¬ IsNamed (Text.trim raw) p) ∧ ¬ rangeMark <:+: (Text.trim raw).toList) ∧
      (∀ token, parse raw = .error (.invalidRange token) ↔ token = Text.trim raw ∧
        (∀ p, ¬ IsNamed (Text.trim raw) p) ∧ rangeMark <:+: (Text.trim raw).toList ∧
        ∀ start stop, ¬ SpellsRange (Text.trim raw).toList start stop) := by
  refine ⟨fun p before after hbefore hafter => ⟨?_, fun word hword => ?_⟩, fun raw =>
    ⟨fun p => parse_eq_ok_iff, fun token => parse_eq_unsupported_iff,
      fun token => parse_eq_invalidRange_iff⟩⟩
  · exact parse_of_trim_eq_text ((Text.trim_between hbefore hafter).trans (trim_text p))
  · refine parse_of_isNamed ?_
    rwa [Text.trim_between hbefore hafter, Text.trim_of_no_blank (no_blank_of_isNamed hword)]

/-- The whole calendar is one range, whose years have signs; a name may be written loudly. With two
marks a text is no range, although each piece is a date. -/
theorem parse_exact_calendar :
    parse "\t-262143-01-01 to +262142-12-31 " =
      .ok (.range ⟨-262143, 1, 1, by decide⟩ ⟨262142, 12, 31, by decide⟩) ∧
    parse " Last_Quarter\n" = .ok .lastQuarter ∧
    parse "2025-01-01 to 2025-01-02 to 2025-01-03" =
      .error (.invalidRange "2025-01-01 to 2025-01-02 to 2025-01-03") := by
  have hblank : ∀ b, Text.isBlank b = true → ∀ c ∈ (String.singleton b).toList,
      Text.isBlank c = true := by
    intro b hb c hc
    rw [String.toList_singleton, List.mem_singleton] at hc
    rwa [hc]
  obtain ⟨hback, hread⟩ := parse_exact
  obtain ⟨hwhole, -⟩ := hback (.range ⟨-262143, 1, 1, by decide⟩ ⟨262142, 12, 31, by decide⟩)
    "\t" " " (hblank '\t' rfl) (hblank ' ' rfl)
  obtain ⟨-, hnamed⟩ := hback .lastQuarter " " "\n" (hblank ' ' rfl) (hblank '\n' rfl)
  have hloud := hnamed "Last_Quarter" ⟨fun _ _ h => (nomatch h), by decide⟩
  refine ⟨?_, ?_, ((hread _).2.2 _).2 ⟨by decide +kernel, fun p hp => ?_, by decide +kernel,
    fun start stop hrange => ?_⟩⟩
  · have htext : "\t" ++ (range ⟨-262143, 1, 1, by decide⟩ ⟨262142, 12, 31, by decide⟩).text ++
        " " = "\t-262143-01-01 to +262142-12-31 " := by decide +kernel
    rwa [htext] at hwhole
  · have htext : " " ++ "Last_Quarter" ++ "\n" = " Last_Quarter\n" := by decide +kernel
    rwa [htext] at hloud
  · rw [← lookup_named_iff] at hp
    have hnone : named.lookup (Text.lowerAscii
        (Text.trim "2025-01-01 to 2025-01-02 to 2025-01-03")) = none := by decide +kernel
    rw [hnone] at hp
    cases hp
  · obtain ⟨first, second, hcut, -⟩ := hrange
    have hthree : (splitRange (Text.trim
        "2025-01-01 to 2025-01-02 to 2025-01-03").toList).length = 3 := by decide +kernel
    rw [splitRange_of_isCut hcut] at hthree
    cases hthree

end Calendar.Period

end SalesLedger

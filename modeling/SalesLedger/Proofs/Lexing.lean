import SalesLedger.Sql.Select

/-!
# Statements read back token by token

`ofText_text`: the text of a row of lexemes is read by `Token.ofText` as the tokens of that row,
whatever stands in its names, where the row is spaced (`isSpaced`).

* `next?_chars`: the first token of a written token and a text that `Closes` it is that token. A
  name or a literal ends at its closing quote (`quoted_quoteWith`), since a quote inside is written
  twice; a word and a number end where nothing goes on with them.
* `isSpaced`: every token is written as the reader expects it, and no two tokens that could run into
  each other stand side by side. Every query is written that way (`Select.isSpaced_lexemes`), so
  `Select.ofText_sql` holds without a condition on the names in it.
-/

namespace SalesLedger.Sql

namespace Token

/-! ## Tokens and what closes them -/

/-- The marks that statements are written with: each is a token wherever it stands. -/
def marks : List Char := ['*', '(', ')', ',', '=', '<', '>']

/-- Whether a token is one that the reader finds again where it is written. -/
def isWritten : Token → Bool
  | word s =>
    match s.toList with
    | c :: cs => opensWord c && cs.all continuesWord
    | [] => false
  | number s => !s.toList.isEmpty && s.toList.all Text.isDigit
  | symbol c => marks.contains c
  | name _ | literal _ | placeholder => true
  | bytes _ | comment | semicolon | unknown => false

/-- Whether a token could go on where another one follows it. A mark never does. -/
def isSolid : Token → Bool
  | symbol _ => false
  | _ => true

/-- A text that no token before it goes on with: nothing, or a blank or a mark comes first. -/
def Closes (cs : List Char) : Prop := ∀ c ∈ cs.head?, c ∈ ' ' :: marks

theorem closes_nil : Closes [] := by simp [Closes]

theorem closes_cons {c : Char} {cs : List Char} (h : c ∈ ' ' :: marks) : Closes (c :: cs) := by
  simpa [Closes] using h

/-- A test that fails of every closing character fails of what a closing text begins with. -/
theorem Closes.head_false {cs : List Char} (h : Closes cs) {p : Char → Bool}
    (hp : (' ' :: marks).any p = false) : ∀ c ∈ cs.head?, p c = false := by
  intro c hc
  simpa using List.any_eq_false.1 hp c (h c hc)

theorem takeWhile_append_eq {p : Char → Bool} {cs rest : List Char} (h : ∀ c ∈ cs, p c = true)
    (hr : ∀ c ∈ rest.head?, p c = false) : (cs ++ rest).takeWhile p = cs := by
  rw [List.takeWhile_append_of_pos h]
  cases rest with
  | nil => simp
  | cons r rest => simp [hr r (by simp)]

theorem dropWhile_append_eq {p : Char → Bool} {cs rest : List Char} (h : ∀ c ∈ cs, p c = true)
    (hr : ∀ c ∈ rest.head?, p c = false) : (cs ++ rest).dropWhile p = rest := by
  rw [List.dropWhile_append_of_pos h]
  cases rest with
  | nil => rfl
  | cons r rest => simp [hr r (by simp)]

/-! ## Quotes -/

/-- **A quoted text is read back** up to its closing quote, if no further quote follows. -/
theorem quoted_quoteWith (q : Char) (s : List Char) {rest : List Char}
    (h : ∀ c ∈ rest.head?, c ≠ q) :
    quoted q (s.flatMap (fun c => if c == q then [q, q] else [c]) ++ q :: rest) =
      some (s, rest) := by
  induction s with
  | nil =>
    cases rest with
    | nil => simp [quoted]
    | cons r rest => simp [quoted, show r ≠ q from h r (by simp)]
  | cons c s ih =>
    -- what follows `c` is not empty: the closing quote is still to come
    obtain ⟨d, more, hmore⟩ : ∃ d more,
        s.flatMap (fun c => if c == q then [q, q] else [c]) ++ q :: rest = d :: more :=
      List.exists_cons_of_ne_nil (by simp)
    rw [List.flatMap_cons, List.append_assoc]
    by_cases hc : c = q
    · subst hc
      simp only [beq_self_eq_true, if_true, List.cons_append, List.nil_append] at ih ⊢
      rw [quoted, if_pos (by simp), if_pos (by simp), ih]
      rfl
    · rw [if_neg (by simpa using hc), List.cons_append, List.nil_append, hmore, quoted]
      rw [hmore] at ih
      simp [hc, ih]

/-! ## Numbers -/

theorem readDigits_append {cs rest : List Char} (h : ∀ c ∈ cs, Text.isDigit c = true)
    (hr : ∀ c ∈ rest.head?, Text.isDigit c = false) : readDigits (cs ++ rest) = (cs, rest) := by
  rw [readDigits, takeWhile_append_eq h hr, dropWhile_append_eq h hr]

theorem decimal_append {cs rest : List Char} (h : ∀ c ∈ cs, Text.isDigit c = true)
    (hr : Closes rest) : readNumber.decimal (cs ++ rest) = (cs, rest) := by
  have hd : ∀ c ∈ rest.head?, Text.isDigit c = false := hr.head_false (by decide)
  have he : ∀ c ∈ rest.head?, (c == 'e' || c == 'E') = false := hr.head_false (by decide)
  have hp : ∀ c ∈ rest.head?, (c == '.') = false := hr.head_false (by decide)
  unfold readNumber.decimal
  rw [readDigits_append h hd]
  cases rest with
  | nil => simp [readExponent]
  | cons r rest =>
    have hr' : r ≠ '.' := by simpa using hp r (by simp)
    have hr'' := he r (by simp)
    simp [readExponent, hr', hr'']

theorem readNumber_append {cs rest : List Char} (h : ∀ c ∈ cs, Text.isDigit c = true)
    (hr : Closes rest) : readNumber (cs ++ rest) = (cs, rest) := by
  have hx : ∀ c ∈ rest.head?, (c == 'x' || c == 'X') = false := hr.head_false (by decide)
  unfold readNumber
  split
  · rename_i x more heq
    split
    · -- an `x` behind a leading zero is neither a digit nor a closing character
      rename_i hxx
      cases cs with
      | nil =>
        have hhead : '0' ∈ rest.head? := by rw [show rest = '0' :: x :: more from heq]; rfl
        exact absurd (hr '0' hhead) (by decide)
      | cons c cs =>
        simp only [List.cons_append, List.cons.injEq] at heq
        cases cs with
        | nil => rw [hx x (by rw [show rest = x :: more from heq.2]; rfl)] at hxx; cases hxx
        | cons d cs =>
          have hd : Text.isDigit d = true := h d (by simp)
          simp only [List.cons_append, List.cons.injEq] at heq
          rw [heq.2.1] at hd
          simp only [Bool.or_eq_true, beq_iff_eq] at hxx
          rcases hxx with rfl | rfl <;> exact absurd hd (by decide)
    · exact decimal_append h hr
  · exact decimal_append h hr

/-! ## The first token -/

theorem opensWord_not {c : Char} (h : opensWord c = true) :
    isBlank c = false ∧ nameQuote? c = none ∧ c ≠ '\'' ∧ c ≠ '?' ∧ c ≠ ';' ∧ c ≠ '-' ∧ c ≠ '/' := by
  have hne : ∀ d : Char, opensWord d = false → c ≠ d := by
    rintro d hd rfl
    rw [h] at hd; cases hd
  have hnat : c.toNat ≠ 12 ∧ c.toNat ≠ 0x60 := by
    simp only [opensWord, Text.isLetter, Bool.or_eq_true, Bool.and_eq_true, decide_eq_true_eq,
      beq_iff_eq] at h
    rcases h with (h | rfl) | h
    · omega
    · decide
    · omega
  refine ⟨?_, ?_, hne _ (by decide), hne _ (by decide), hne _ (by decide), hne _ (by decide),
    hne _ (by decide)⟩
  · simp [isBlank, hne ' ' (by decide), hne '\t' (by decide), hne '\n' (by decide),
      hne '\r' (by decide), hnat.1]
  · simp [nameQuote?, hne '"' (by decide), hne '[' (by decide), hnat.2]

theorem isDigit_not {c : Char} (h : Text.isDigit c = true) :
    isBlank c = false ∧ nameQuote? c = none ∧ opensWord c = false ∧ c ≠ '\'' ∧ c ≠ '?' ∧ c ≠ ';' ∧
      c ≠ '-' ∧ c ≠ '/' ∧ c ≠ 'x' ∧ c ≠ 'X' := by
  have hne : ∀ d : Char, Text.isDigit d = false → c ≠ d := by
    rintro d hd rfl
    rw [h] at hd; cases hd
  have hnat : 0x30 ≤ c.toNat ∧ c.toNat ≤ 0x39 := by
    simp only [Text.isDigit, Text.digit?] at h
    split at h
    · assumption
    · cases h
  refine ⟨?_, ?_, ?_, hne _ (by decide), hne _ (by decide), hne _ (by decide), hne _ (by decide),
    hne _ (by decide), hne _ (by decide), hne _ (by decide)⟩
  · have : c.toNat ≠ 12 := by omega
    simp [isBlank, hne ' ' (by decide), hne '\t' (by decide), hne '\n' (by decide),
      hne '\r' (by decide), this]
  · have : c.toNat ≠ 0x60 := by omega
    simp [nameQuote?, hne '"' (by decide), hne '[' (by decide), this]
  · have : c ≠ '_' := hne _ (by decide)
    simp only [opensWord, Text.isLetter, Bool.or_eq_false_iff, Bool.and_eq_false_iff,
      decide_eq_false_iff_not, beq_eq_false_iff_ne]
    exact ⟨⟨by omega, this⟩, by omega⟩

theorem next?_word {s : String} {rest : List Char} (h : isWritten (word s) = true)
    (hr : Closes rest) : next? (s.toList ++ rest) = some (word s, rest) := by
  obtain ⟨c, cs, hs⟩ : ∃ c cs, s.toList = c :: cs := by
    refine List.exists_cons_of_ne_nil fun hnil => ?_
    simp [isWritten, hnil] at h
  obtain ⟨hc, hcs⟩ : opensWord c = true ∧ ∀ d ∈ cs, continuesWord d = true := by
    simpa [isWritten, hs] using h
  obtain ⟨hblank, hquote, h1, h2, h3, h4, h5⟩ := opensWord_not hc
  have hw : ∀ d ∈ rest.head?, continuesWord d = false := hr.head_false (by decide)
  -- `x` and a single quote would begin bytes: no quote follows the word, nor goes on with it
  have hbytes : opensBytes c (cs ++ rest) = false := by
    unfold opensBytes
    rw [Bool.and_eq_false_iff]
    right
    cases cs with
    | nil =>
      have hq : ∀ d ∈ rest.head?, (d == '\'') = false := hr.head_false (by decide)
      cases rest with
      | nil => rfl
      | cons r rest => simpa using hq r (by simp)
    | cons d cs =>
      have hd : d ≠ '\'' := by
        rintro rfl
        exact absurd (hcs '\'' (by simp)) (by decide)
      simpa using hd
  rw [hs, List.cons_append, next?, List.dropWhile_cons, if_neg (by simp [hblank])]
  simp only [hquote, beq_iff_eq, h1, h2, h3, Bool.false_and, Bool.false_eq_true, if_false, hbytes,
    hc, if_true, beq_eq_false_iff_ne.2 h4, beq_eq_false_iff_ne.2 h5,
    takeWhile_append_eq hcs hw, dropWhile_append_eq hcs hw, ← hs, String.ofList_toList]

theorem next?_number {s : String} {rest : List Char} (h : isWritten (number s) = true)
    (hr : Closes rest) : next? (s.toList ++ rest) = some (number s, rest) := by
  obtain ⟨hne, hd⟩ : s.toList ≠ [] ∧ ∀ d ∈ s.toList, Text.isDigit d = true := by
    simpa [isWritten] using h
  obtain ⟨c, cs, hs⟩ := List.exists_cons_of_ne_nil hne
  have hc : Text.isDigit c = true := hd c (by rw [hs]; simp)
  obtain ⟨hblank, hquote, hword, h1, h2, h3, h4, h5, h6, h7⟩ := isDigit_not hc
  have hbytes : opensBytes c (cs ++ rest) = false := by simp [opensBytes, h6, h7]
  have hopens : opensNumber c (cs ++ rest) = true := by simp [opensNumber, hc]
  have hread := readNumber_append hd hr
  rw [hs, List.cons_append] at hread
  rw [hs, List.cons_append, next?, List.dropWhile_cons, if_neg (by simp [hblank])]
  simp only [hquote, beq_iff_eq, h1, h2, h3, Bool.false_and, Bool.false_eq_true, if_false, hbytes,
    hword, hopens, if_true, beq_eq_false_iff_ne.2 h4, beq_eq_false_iff_ne.2 h5, hread, ← hs,
    String.ofList_toList]

theorem next?_symbol {c : Char} (h : isWritten (symbol c) = true) (rest : List Char) :
    next? (c :: rest) = some (symbol c, rest) := by
  simp only [isWritten, marks, List.contains_cons, List.contains_nil, Bool.or_eq_true, beq_iff_eq,
    Bool.or_false] at h
  rcases h with rfl | rfl | rfl | rfl | rfl | rfl | rfl <;> rfl

theorem next?_name {s : String} {rest : List Char} (hr : Closes rest) :
    next? ((name s).chars ++ rest) = some (name s, rest) := by
  have hq : ∀ c ∈ rest.head?, c ≠ '"' := fun c hc => by
    simpa using hr.head_false (p := (· == '"')) (by decide) c hc
  simp only [chars, quoteWith, List.cons_append, List.append_assoc, List.nil_append]
  show some (ofQuoted name (quoted '"' _)) = _
  rw [quoted_quoteWith '"' s.toList hq, ofQuoted, String.ofList_toList]

theorem next?_literal {s : String} {rest : List Char} (hr : Closes rest) :
    next? ((literal s).chars ++ rest) = some (literal s, rest) := by
  have hq : ∀ c ∈ rest.head?, c ≠ '\'' := fun c hc => by
    simpa using hr.head_false (p := (· == '\'')) (by decide) c hc
  simp only [chars, quoteWith, List.cons_append, List.append_assoc, List.nil_append]
  show some (ofQuoted literal (quoted '\'' _)) = _
  rw [quoted_quoteWith '\'' s.toList hq, ofQuoted, String.ofList_toList]

theorem next?_placeholder {rest : List Char} (hr : Closes rest) :
    next? ('?' :: rest) = some (placeholder, rest) := by
  have hd : ∀ c ∈ rest.head?, Text.isDigit c = false := hr.head_false (by decide)
  show some (placeholder, rest.dropWhile Text.isDigit) = _
  rw [← List.nil_append rest, dropWhile_append_eq (by simp) hd, List.nil_append]

/-- **The first token of a written token and what closes it** is that token. -/
theorem next?_chars {t : Token} {rest : List Char} (h : t.isWritten = true)
    (hr : t.isSolid = true → Closes rest) : next? (t.chars ++ rest) = some (t, rest) := by
  cases t with
  | word s => exact next?_word h (hr rfl)
  | number s => exact next?_number h (hr rfl)
  | symbol c => exact next?_symbol h rest
  | name s => exact next?_name (hr rfl)
  | literal s => exact next?_literal (hr rfl)
  | placeholder => exact next?_placeholder (hr rfl)
  | bytes s => cases h
  | comment => cases h
  | semicolon => cases h
  | unknown => cases h

theorem chars_ne_nil {t : Token} (h : t.isWritten = true) : t.chars ≠ [] := by
  cases t <;> simp [isWritten, chars, quoteWith] at h ⊢
  · intro hnil
    simp [hnil] at h
  · exact h.1

theorem next?_blank (cs : List Char) : next? (' ' :: cs) = next? cs := rfl

end Token

/-! ## Rows of lexemes -/

namespace Lexeme

/-- Whether a lexeme is blank or a token that the reader finds again. -/
def isWritten : Lexeme → Bool
  | token t => t.isWritten
  | blank => true

/-- Whether a lexeme is a token that could go on where another one follows it. -/
def isSolid : Lexeme → Bool
  | token t => t.isSolid
  | blank => false

/-- Whether a row is read back as it is (module doc). -/
def isSpaced : List Lexeme → Bool
  | [] => true
  | l :: ls => l.isWritten && !(l.isSolid && ls.head?.any isSolid) && isSpaced ls

theorem isSpaced_cons (l : Lexeme) (ls : List Lexeme) :
    isSpaced (l :: ls) = (l.isWritten && !(l.isSolid && ls.head?.any isSolid) && isSpaced ls) := rfl

theorem isSpaced_append (ls more : List Lexeme) :
    isSpaced (ls ++ more) =
      (isSpaced ls && !(ls.getLast?.any isSolid && more.head?.any isSolid) && isSpaced more) := by
  induction ls with
  | nil => simp [isSpaced]
  | cons l ls ih =>
    cases ls with
    | nil =>
      cases hw : l.isWritten <;> cases hs : l.isSolid <;> simp [isSpaced, hw, hs]
    | cons m ls =>
      rw [List.cons_append, isSpaced_cons, isSpaced_cons l, ih, List.getLast?_cons_cons]
      simp only [List.cons_append, List.head?_cons, Option.any_some, Bool.and_assoc]

/-- What follows a solid token in a spaced row closes it. -/
theorem closes_of_isSpaced {l : Lexeme} {ls : List Lexeme} (h : isSpaced (l :: ls) = true)
    (hl : l.isSolid = true) : Token.Closes (ls.flatMap chars) := by
  cases ls with
  | nil => exact Token.closes_nil
  | cons m ls =>
    simp only [isSpaced, hl, List.head?_cons, Option.any_some, Bool.true_and, Bool.and_eq_true,
      Bool.not_eq_true'] at h
    obtain ⟨⟨-, hm⟩, ⟨hw, -⟩, -⟩ := h
    cases m with
    | blank => exact Token.closes_cons (List.mem_cons_self)
    | token t =>
      cases t with
      | symbol c =>
        refine Token.closes_cons (List.mem_cons_of_mem _ ?_)
        simpa [isWritten, Token.isWritten] using hw
      | _ => cases hm

/-- A spaced row is read as its tokens, where there is room for all its characters. -/
theorem read_chars {ls : List Lexeme} (h : isSpaced ls = true) {fuel : Nat}
    (hf : (ls.flatMap chars).length ≤ fuel) :
    Token.read fuel (ls.flatMap chars) = tokens ls := by
  induction ls generalizing fuel with
  | nil => cases fuel <;> rfl
  | cons l ls ih =>
    have hls : isSpaced ls = true := by
      rw [isSpaced, Bool.and_eq_true] at h
      exact h.2
    rw [List.flatMap_cons, List.length_append] at hf
    rw [List.flatMap_cons]
    cases l with
    | blank =>
      -- a blank takes no step: the reader passes over it on the way to the next token
      rw [chars, List.length_singleton] at hf
      obtain ⟨n, rfl⟩ : ∃ n, fuel = n + 1 := ⟨fuel - 1, by omega⟩
      have hrest := @ih hls (n + 1) (by omega)
      rw [Token.read] at hrest
      show Token.read (n + 1) (' ' :: ls.flatMap chars) = tokens ls
      rw [Token.read, Token.next?_blank, hrest]
    | token t =>
      have hw : t.isWritten = true := by
        simp only [isSpaced, Bool.and_eq_true] at h
        exact h.1.1
      have hpos : 0 < t.chars.length := List.length_pos_iff.2 (Token.chars_ne_nil hw)
      obtain ⟨n, rfl⟩ : ∃ n, fuel = n + 1 := ⟨fuel - 1, by simp only [chars] at hf; omega⟩
      have hnext := Token.next?_chars hw fun ht => closes_of_isSpaced h ht
      rw [chars, Token.read, hnext]
      show t :: Token.read n _ = t :: tokens ls
      rw [ih hls (by simp only [chars] at hf; omega)]

/-- **The text of a spaced row is read as its tokens.** -/
theorem ofText_text {ls : List Lexeme} (h : isSpaced ls = true) :
    Token.ofText (text ls) = tokens ls := by
  rw [Token.ofText, text, String.toList_ofList]
  exact read_chars h (by simp)

end Lexeme

/-! ## Queries -/

namespace Lexeme

/-- Two spaced rows make one if the second begins with a blank or a mark, or there is nothing. -/
theorem isSpaced_append_of_head {ls more : List Lexeme} (h : isSpaced ls = true)
    (h' : isSpaced more = true) (hm : more.head?.any isSolid = false) :
    isSpaced (ls ++ more) = true := by
  rw [isSpaced_append, h, h', hm]
  simp

/-- Two spaced rows make one if the first ends with a blank or a mark, or there is nothing. -/
theorem isSpaced_append_of_last {ls more : List Lexeme} (h : isSpaced ls = true)
    (h' : isSpaced more = true) (hl : ls.getLast?.any isSolid = false) :
    isSpaced (ls ++ more) = true := by
  rw [isSpaced_append, h, h', hl]
  simp

theorem isSpaced_separated {separator : List Lexeme} {rows : List (List Lexeme)}
    (hs : isSpaced separator = true) (hne : separator ≠ [])
    (hh : separator.head?.any isSolid = false) (hl : separator.getLast?.any isSolid = false)
    (h : ∀ ls ∈ rows, isSpaced ls = true) : isSpaced (separated separator rows) = true := by
  induction rows with
  | nil => rfl
  | cons ls rows ih =>
    cases rows with
    | nil => exact h ls (by simp)
    | cons more rows =>
      rw [separated]
      · refine isSpaced_append_of_last (isSpaced_append_of_head (h ls (by simp)) hs hh)
          (ih fun ls hls => h ls (List.mem_cons_of_mem _ hls)) ?_
        rw [List.getLast?_append, List.getLast?_eq_some_getLast hne, Option.some_or]
        rwa [List.getLast?_eq_some_getLast hne] at hl
      · simp

end Lexeme

open Lexeme

theorem Term.isSpaced_lexemes (t : Term) : isSpaced t.lexemes = true := by
  induction t with
  | column c => rfl
  | monthOf c => rfl
  | product a b iha ihb =>
    refine isSpaced_append_of_last (isSpaced_append_of_head iha rfl rfl) ihb ?_
    simp [List.getLast?_append, Lexeme.isSolid]
  | whenAtMost c bound t ih =>
    refine isSpaced_append_of_head (isSpaced_append_of_last ?_ ih rfl) rfl rfl
    rfl

theorem Condition.isSpaced_lexemes (c : Condition) : isSpaced c.lexemes = true := by
  cases c <;> rfl

theorem Aggregate.isSpaced_lexemes (a : Aggregate) (t : Term) :
    isSpaced (a.lexemes t) = true := by
  refine isSpaced_append_of_head (isSpaced_append_of_last ?_ t.isSpaced_lexemes ?_) rfl rfl
  · cases a <;> rfl
  · cases a <;> rfl

theorem Selection.isSpaced_lexemes (s : Selection) : isSpaced s.lexemes = true := by
  cases s with
  | plain t => exact t.isSpaced_lexemes
  | aggregate a t => exact a.isSpaced_lexemes t
  | aggregateOrZero a t =>
    exact isSpaced_append_of_head (isSpaced_append_of_last rfl (a.isSpaced_lexemes t) rfl) rfl rfl

theorem Output.isSpaced_lexemes (o : Output) : isSpaced o.lexemes = true := by
  obtain ⟨s, n?⟩ := o
  cases n? with
  | none => exact isSpaced_append_of_head s.isSpaced_lexemes rfl rfl
  | some n => exact isSpaced_append_of_head s.isSpaced_lexemes rfl rfl

namespace Select

theorem isSpaced_outputLexemes (s : Select) : isSpaced s.outputLexemes = true := by
  unfold outputLexemes
  split
  · rename_i outputs _
    refine isSpaced_separated rfl (by simp) rfl rfl fun ls hls => ?_
    obtain ⟨o, -, rfl⟩ := List.mem_map.1 hls
    exact o.isSpaced_lexemes
  · rfl

theorem isSpaced_conditionLexemes (s : Select) : isSpaced s.conditionLexemes = true := by
  unfold conditionLexemes
  split
  · rfl
  · refine isSpaced_append_of_last rfl (isSpaced_separated rfl (by simp) rfl rfl ?_) rfl
    intro ls hls
    obtain ⟨c, -, rfl⟩ := List.mem_map.1 hls
    exact c.isSpaced_lexemes

theorem head_conditionLexemes (s : Select) :
    s.conditionLexemes.head?.any Lexeme.isSolid = false := by
  unfold conditionLexemes
  split <;> rfl

/-- What stands behind the conditions is spaced, and begins with a blank if there is anything. -/
theorem isSpaced_groupLexemes (s : Select) :
    isSpaced s.groupLexemes = true ∧ s.groupLexemes.head?.any Lexeme.isSolid = false := by
  unfold groupLexemes
  split <;> exact ⟨rfl, rfl⟩

theorem isSpaced_orderLexemes (s : Select) :
    isSpaced s.orderLexemes = true ∧ s.orderLexemes.head?.any Lexeme.isSolid = false := by
  unfold orderLexemes
  split
  · rename_i c order _
    cases order <;> exact ⟨rfl, rfl⟩
  · exact ⟨rfl, rfl⟩

theorem isSpaced_limitLexemes (s : Select) :
    isSpaced s.limitLexemes = true ∧ s.limitLexemes.head?.any Lexeme.isSolid = false := by
  unfold limitLexemes
  split <;> exact ⟨rfl, rfl⟩

/-- **Every query is written as a spaced row**, whatever names it has. -/
theorem isSpaced_lexemes (s : Select) : isSpaced s.lexemes = true := by
  obtain ⟨hgroup, hgroup'⟩ := s.isSpaced_groupLexemes
  obtain ⟨horder, horder'⟩ := s.isSpaced_orderLexemes
  obtain ⟨hlimit, hlimit'⟩ := s.isSpaced_limitLexemes
  have houtputs : isSpaced ([Lexeme.word "SELECT", blank] ++ s.outputLexemes) = true :=
    isSpaced_append_of_last rfl s.isSpaced_outputLexemes rfl
  have htable : isSpaced ([Lexeme.word "SELECT", blank] ++ s.outputLexemes ++
      [blank, Lexeme.word "FROM", blank, Lexeme.name s.table]) = true :=
    isSpaced_append_of_head houtputs rfl rfl
  have hconditions := isSpaced_append_of_head htable s.isSpaced_conditionLexemes
    s.head_conditionLexemes
  exact isSpaced_append_of_head (isSpaced_append_of_head
    (isSpaced_append_of_head hconditions hgroup hgroup') horder horder') hlimit hlimit'

/-- **The text of a query is read as the tokens that it was written with.** -/
theorem ofText_sql (s : Select) : Token.ofText s.sql = tokens s.lexemes :=
  ofText_text s.isSpaced_lexemes

end Select

end SalesLedger.Sql

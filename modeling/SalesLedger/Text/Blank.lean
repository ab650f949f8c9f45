/-!
# Blanks

The characters that count as white space around a name, a number or a word, and texts without
them at either end. Main statements:

* `trim_append_blank`, `trim_blank_append`: blanks around a text do not change what `trim` gives;
* `trim_of_no_blank`: without blanks there is nothing to trim;
* `trim_trim`: trimming twice is trimming once.
-/

namespace SalesLedger.Text

/-- Unicode's White_Space property. The zero-width space and the byte order mark are not in it. -/
def isBlank (c : Char) : Bool :=
  let n := c.toNat
  (0x09 ≤ n && n ≤ 0x0d) || n == 0x20 || n == 0x85 || n == 0xa0 || n == 0x1680 ||
    (0x2000 ≤ n && n ≤ 0x200a) || n == 0x2028 || n == 0x2029 || n == 0x202f || n == 0x205f ||
    n == 0x3000

/-- The five blanks of ASCII and the vertical tab, for formats that know no others. -/
def isAsciiBlank (c : Char) : Bool :=
  let n := c.toNat
  (0x09 ≤ n && n ≤ 0x0d) || n == 0x20

/-- A text without the blanks at its start. -/
def skipBlanks (cs : List Char) : List Char :=
  cs.dropWhile isBlank

/-- A text without the blanks at its end. -/
def dropTrailingBlanks : List Char → List Char
  | [] => []
  | c :: cs =>
    match dropTrailingBlanks cs with
    | [] => if isBlank c then [] else [c]
    | rest => c :: rest

/-- A text without the blanks at its two ends. -/
def trimChars (cs : List Char) : List Char :=
  dropTrailingBlanks (skipBlanks cs)

/-- A text without the blanks at its two ends. -/
def trim (s : String) : String :=
  String.ofList (trimChars s.toList)

/-! ## Laws -/

theorem dropTrailingBlanks_eq_nil_iff {cs : List Char} :
    dropTrailingBlanks cs = [] ↔ ∀ c ∈ cs, isBlank c = true := by
  induction cs with
  | nil => simp [dropTrailingBlanks]
  | cons c cs ih =>
    rw [dropTrailingBlanks]
    split
    · rename_i h
      have hall := ih.1 h
      by_cases hc : isBlank c = true
      · simpa [hc] using hall
      · simp [hc]
    · rename_i h
      constructor
      · intro hnil; cases hnil
      · intro hall
        exact absurd (ih.2 fun d hd => hall d (by simp [hd])) h

theorem dropTrailingBlanks_append_blank {cs bs : List Char} (hb : ∀ c ∈ bs, isBlank c = true) :
    dropTrailingBlanks (cs ++ bs) = dropTrailingBlanks cs := by
  induction cs with
  | nil => simpa [dropTrailingBlanks] using dropTrailingBlanks_eq_nil_iff.2 hb
  | cons c cs ih => simp only [List.cons_append, dropTrailingBlanks, ih]

theorem dropTrailingBlanks_idem (cs : List Char) :
    dropTrailingBlanks (dropTrailingBlanks cs) = dropTrailingBlanks cs := by
  induction cs with
  | nil => rfl
  | cons c cs ih =>
    rw [dropTrailingBlanks]
    split
    · by_cases hc : isBlank c = true <;> simp [hc, dropTrailingBlanks]
    · rename_i h
      rw [dropTrailingBlanks, ih]
      split
      · rename_i h'; exact absurd h' h
      · rfl

theorem skipBlanks_blank_append {bs cs : List Char} (hb : ∀ c ∈ bs, isBlank c = true) :
    skipBlanks (bs ++ cs) = skipBlanks cs := by
  induction bs with
  | nil => rfl
  | cons b bs ih =>
    have h : isBlank b = true := hb b (by simp)
    simpa [skipBlanks, List.dropWhile_cons, h] using ih fun c hc => hb c (by simp [hc])

/-- A text that starts with a visible character still does so without its trailing blanks. -/
theorem skipBlanks_dropTrailingBlanks (cs : List Char) :
    skipBlanks (dropTrailingBlanks (skipBlanks cs)) = dropTrailingBlanks (skipBlanks cs) := by
  cases h : skipBlanks cs with
  | nil => rfl
  | cons c rest =>
    have hc : isBlank c = false := by
      have := List.head?_dropWhile_not isBlank cs
      rw [show cs.dropWhile isBlank = c :: rest from h] at this
      simpa using this
    have hne : dropTrailingBlanks (c :: rest) ≠ [] := by
      intro hnil
      have := dropTrailingBlanks_eq_nil_iff.1 hnil c (by simp)
      simp [hc] at this
    rw [dropTrailingBlanks] at hne ⊢
    split at hne <;> simp_all [skipBlanks]

theorem trimChars_idem (cs : List Char) : trimChars (trimChars cs) = trimChars cs := by
  rw [trimChars, trimChars, skipBlanks_dropTrailingBlanks, dropTrailingBlanks_idem]

theorem trim_trim (s : String) : trim (trim s) = trim s := by
  simp [trim, trimChars_idem]

theorem trimChars_of_no_blank {cs : List Char} (h : ∀ c ∈ cs, isBlank c = false) :
    trimChars cs = cs := by
  have hskip : skipBlanks cs = cs := by
    cases cs with
    | nil => rfl
    | cons c cs => rw [skipBlanks, List.dropWhile_cons_of_neg (by simp [h c])]
  rw [trimChars, hskip]
  clear hskip
  induction cs with
  | nil => rfl
  | cons c cs ih =>
    rw [dropTrailingBlanks, ih fun d hd => h d (List.mem_cons_of_mem _ hd)]
    cases cs with
    | nil => simp [h c]
    | cons d cs => rfl

theorem trim_of_no_blank {s : String} (h : ∀ c ∈ s.toList, isBlank c = false) : trim s = s := by
  rw [trim, trimChars_of_no_blank h, String.ofList_toList]

theorem trimChars_append_blank {cs bs : List Char} (hb : ∀ c ∈ bs, isBlank c = true) :
    trimChars (cs ++ bs) = trimChars cs := by
  induction cs with
  | nil =>
    have h : skipBlanks (bs ++ []) = skipBlanks [] := skipBlanks_blank_append hb
    rw [List.append_nil] at h
    rw [List.nil_append, trimChars, trimChars, h]
  | cons c cs ih =>
    by_cases hc : isBlank c = true
    · simpa [trimChars, skipBlanks, List.dropWhile_cons, hc] using ih
    · have h : dropTrailingBlanks (c :: cs ++ bs) = dropTrailingBlanks (c :: cs) :=
        dropTrailingBlanks_append_blank hb
      simpa [trimChars, skipBlanks, List.dropWhile_cons, hc] using h

theorem trim_append_blank {s t : String} (ht : ∀ c ∈ t.toList, isBlank c = true) :
    trim (s ++ t) = trim s := by
  simp [trim, trimChars_append_blank ht]

theorem trim_blank_append {s t : String} (hs : ∀ c ∈ s.toList, isBlank c = true) :
    trim (s ++ t) = trim t := by
  simp [trim, trimChars, skipBlanks_blank_append hs]

end SalesLedger.Text

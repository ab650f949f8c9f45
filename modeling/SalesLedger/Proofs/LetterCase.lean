import SalesLedger.Text.Blank
import SalesLedger.Text.Case

/-!
# What lower case tells of a text

Names are looked up by their lowercase forms, with blanks around them left out or not. What the
lowercase form of a text is tells what the text can have been.

* `mem_lower_of_blank`: a blank has no case, so it is still there (`trim_of_lower`: where the
  lowercase form has no blanks, there was nothing to trim).
* `exists_mem_lowerChar`: beside the Kelvin sign, which becomes a `k`, no character from beyond
  ASCII becomes one of ASCII.
* `lower_of_lowerAscii`, `equalAscii_of_lower`: an ASCII word in some case has that word as its
  lowercase form, and where the word has no `k` nothing else has.
* `lower_lowerAscii`: the lowercase form does not tell the case of the letters A to Z, and
  `lower_eq_empty_iff`: it has something in it where the text has.
* `find?_eq_some_iff`: the first name in a text's letters is what a look-up finds.
-/

namespace SalesLedger.Text

/-! ## One character -/

/-- The code points of the blanks beyond ASCII. -/
def farBlanks : List Nat :=
  [0x85, 0xa0, 0x1680, 0x2000, 0x2001, 0x2002, 0x2003, 0x2004, 0x2005, 0x2006, 0x2007, 0x2008,
    0x2009, 0x200a, 0x2028, 0x2029, 0x202f, 0x205f, 0x3000]

theorem isBlank_cases {c : Char} (h : isBlank c = true) :
    c.toNat < 0x41 ∨ c.toNat ∈ farBlanks := by
  simp only [isBlank, Bool.or_eq_true, Bool.and_eq_true, decide_eq_true_eq, beq_iff_eq] at h
  simp only [farBlanks, List.mem_cons, List.not_mem_nil]
  omega

/-- Blanks beyond ASCII are in no run of characters with a lowercase partner. -/
theorem not_inRun_of_farBlank : ∀ n ∈ farBlanks, 0x80 ≤ n ∧ n ≠ 0x130 ∧ n ≠ 0x3a3 ∧
    lowerRuns.find? (fun r => r.1 ≤ n && n ≤ r.2.1 && (n - r.1) % r.2.2.1 == 0) = none := by
  decide +kernel

theorem lowerChar_of_blank {c : Char} (h : isBlank c = true) : lowerChar c = [c] := by
  unfold lowerChar
  rcases isBlank_cases h with hlow | hfar
  · rw [if_pos (by omega), lowerLetter, if_neg (by omega)]
  · obtain ⟨hfar, hdotted, -, hnone⟩ := not_inRun_of_farBlank _ hfar
    rw [if_neg (by omega), if_neg (by simpa using hdotted), hnone]

theorem ne_sigma_of_blank {c : Char} (h : isBlank c = true) : c.toNat ≠ 0x3a3 := by
  rcases isBlank_cases h with hlow | hfar
  · omega
  · exact (not_inRun_of_farBlank _ hfar).2.2.1

/-- No run leads into ASCII, but for that of the Kelvin sign. -/
theorem lowerRuns_far : ∀ r ∈ lowerRuns,
    (0x80 : Int) ≤ r.1 + r.2.2.2 ∨ (r.1 = 0x212a ∧ r.2.1 = 0x212a ∧ r.2.2.2 = -8383) := by
  decide +kernel

theorem toNat_ofNat_cases (n : Nat) : (Char.ofNat n).toNat = n ∨ (Char.ofNat n).toNat = 0 := by
  by_cases hvalid : n.isValidChar
  · rw [Char.ofNat, dif_pos hvalid]
    exact .inl rfl
  · rw [Char.ofNat, dif_neg hvalid]
    exact .inr rfl

/-- **A character from beyond ASCII leaves one there**, unless it is the Kelvin sign. -/
theorem exists_mem_lowerChar {c : Char} (h : 0x80 ≤ c.toNat) :
    ∃ d ∈ lowerChar c, d = 'k' ∨ d.toNat = 0 ∨ 0x80 ≤ d.toNat := by
  unfold lowerChar
  rw [if_neg (by omega)]
  split
  · exact ⟨Char.ofNat 0x307, by simp, .inr (.inr (by decide))⟩
  · split
    · rename_i r hrun
      refine ⟨_, List.mem_singleton_self _, ?_⟩
      have hbounds := List.find?_some hrun
      simp only [Bool.and_eq_true, decide_eq_true_eq] at hbounds
      rcases lowerRuns_far r (List.mem_of_find?_eq_some hrun) with hfar | ⟨hfirst, hlast, hstep⟩
      · rcases toNat_ofNat_cases (c.toNat + r.2.2.2).toNat with hn | hn
        · right
          right
          omega
        · exact .inr (.inl hn)
      · left
        have hkelvin : c.toNat = 0x212a := by omega
        rw [hkelvin, hstep]
        decide
    · exact ⟨c, List.mem_singleton_self _, .inr (.inr h)⟩

/-! ## Texts -/

theorem mem_lowerAfter {cs : List Char} {c d : Char} (hc : c ∈ cs) (hd : d ∈ lowerChar c)
    (hsigma : c.toNat ≠ 0x3a3) (before : List Char) : d ∈ lowerAfter before cs := by
  induction cs generalizing before with
  | nil => cases hc
  | cons e cs ih =>
    rw [lowerAfter]
    rcases List.mem_cons.1 hc with rfl | hc
    · rw [if_neg (by simpa using hsigma)]
      exact List.mem_append_left _ hd
    · exact List.mem_append_right _ (ih hc (e :: before))

/-- A capital sigma leaves a small one. -/
theorem exists_mem_lowerAfter_of_sigma {cs : List Char} {c : Char} (hc : c ∈ cs)
    (hsigma : c.toNat = 0x3a3) (before : List Char) :
    ∃ d ∈ lowerAfter before cs, 0x80 ≤ d.toNat := by
  induction cs generalizing before with
  | nil => cases hc
  | cons e cs ih =>
    rw [lowerAfter]
    rcases List.mem_cons.1 hc with rfl | hc
    · rw [if_pos (by simpa using hsigma)]
      split
      · exact ⟨Char.ofNat 0x3c2, by simp, by decide⟩
      · exact ⟨Char.ofNat 0x3c3, by simp, by decide⟩
    · obtain ⟨d, hd, hfar⟩ := ih hc (e :: before)
      exact ⟨d, List.mem_append_right _ hd, hfar⟩

/-- A blank is still there in lower case. -/
theorem mem_lower_of_blank {s : String} {c : Char} (hc : c ∈ s.toList) (h : isBlank c = true) :
    c ∈ (lower s).toList := by
  rw [lower, String.toList_ofList]
  refine mem_lowerAfter hc ?_ (ne_sigma_of_blank h) []
  rw [lowerChar_of_blank h]
  exact List.mem_singleton_self c

/-- **A text has no blanks to trim where its lowercase form has none at all.** -/
theorem trim_of_lower {s t : String} (h : lower s = t) (ht : t.toList.any isBlank = false) :
    trim s = s := by
  have hnone : ∀ c ∈ s.toList, isBlank c = false := by
    intro c hc
    cases hblank : isBlank c with
    | false => rfl
    | true =>
      have hmem := mem_lower_of_blank hc hblank
      rw [h] at hmem
      exact absurd hblank (List.any_eq_false.1 ht c hmem)
  exact trim_of_no_blank hnone

/-! ## ASCII -/

theorem lowerAfter_of_ascii {cs : List Char} (h : ∀ c ∈ cs, c.toNat < 0x80) (before : List Char) :
    lowerAfter before cs = cs.map lowerLetter := by
  induction cs generalizing before with
  | nil => rfl
  | cons c cs ih =>
    have hc : c.toNat < 0x80 := h c List.mem_cons_self
    have hsigma : ¬ (c.toNat == 0x3a3) = true := by
      rw [beq_iff_eq]
      omega
    rw [lowerAfter, ih fun d hd => h d (List.mem_cons_of_mem _ hd), if_neg hsigma, lowerChar,
      if_pos hc, List.map_cons]
    rfl

theorem lower_of_ascii {s : String} (h : ∀ c ∈ s.toList, c.toNat < 0x80) :
    lower s = lowerAscii s := by
  rw [lower, lowerAfter_of_ascii h, lowerAscii]

/-- **A text that is an ASCII word in some case** has that word as its lowercase form. -/
theorem lower_of_lowerAscii {s t : String} (h : lowerAscii s = t)
    (ht : t.toList.all (fun d => d.toNat < 0x80) = true) : lower s = t := by
  subst h
  refine lower_of_ascii fun c hc => ?_
  have hmem : lowerLetter c ∈ (lowerAscii s).toList := by
    rw [lowerAscii, String.toList_ofList]
    exact List.mem_map_of_mem hc
  have hlow := of_decide_eq_true (List.all_eq_true.1 ht _ hmem)
  unfold lowerLetter at hlow
  split at hlow
  · omega
  · exact hlow

/-- A text in ASCII letters other than `k` was one in lower case before. -/
theorem ascii_of_lower {s : String}
    (h : ∀ d ∈ (lower s).toList, d ≠ 'k' ∧ d.toNat ≠ 0 ∧ d.toNat < 0x80) :
    ∀ c ∈ s.toList, c.toNat < 0x80 := by
  rw [lower, String.toList_ofList] at h
  intro c hc
  rcases Nat.lt_or_ge c.toNat 0x80 with hascii | hfar
  · exact hascii
  · by_cases hsigma : c.toNat = 0x3a3
    · obtain ⟨d, hd, hd'⟩ := exists_mem_lowerAfter_of_sigma hc hsigma []
      have hlow := (h d hd).2.2
      omega
    · obtain ⟨d, hd, hd'⟩ := exists_mem_lowerChar hfar
      obtain ⟨hk, hnull, hlow⟩ := h d (mem_lowerAfter hc hd hsigma [])
      rcases hd' with rfl | hzero | hhigh
      · exact absurd rfl hk
      · exact absurd hzero hnull
      · omega

/-- **A text whose lowercase form is an ASCII word without a `k`** is that word in some case. -/
theorem equalAscii_of_lower {s t : String} (h : lower s = t)
    (ht : t.toList.all (fun d => d ≠ 'k' ∧ d.toNat ≠ 0 ∧ d.toNat < 0x80) = true)
    (hlow : lowerAscii t = t) : equalAscii s t = true := by
  subst h
  have hascii := ascii_of_lower fun d hd => of_decide_eq_true (List.all_eq_true.1 ht d hd)
  rw [equalAscii_iff, hlow, lower_of_ascii hascii]

/-- The classes that decide how a sigma is written do not tell the case of the letters A to Z. -/
theorem inRanges_lowerLetter (c : Char) :
    inRanges casedRanges (lowerLetter c) = inRanges casedRanges c ∧
      inRanges caseIgnorableRanges (lowerLetter c) = inRanges caseIgnorableRanges c := by
  have hletters : ∀ k < 26,
      inRanges casedRanges (Char.ofNat (0x41 + k + 0x20)) =
          inRanges casedRanges (Char.ofNat (0x41 + k)) ∧
        inRanges caseIgnorableRanges (Char.ofNat (0x41 + k + 0x20)) =
          inRanges caseIgnorableRanges (Char.ofNat (0x41 + k)) := by
    decide +kernel
  unfold lowerLetter
  split
  · have hk := hletters (c.toNat - 0x41) (by omega)
    rw [show 0x41 + (c.toNat - 0x41) = c.toNat by omega, Char.ofNat_toNat] at hk
    exact hk
  · exact ⟨rfl, rfl⟩

theorem reachesCased_map_lowerLetter (cs : List Char) :
    reachesCased (cs.map lowerLetter) = reachesCased cs := by
  unfold reachesCased
  rw [List.dropWhile_map,
    show inRanges caseIgnorableRanges ∘ lowerLetter = inRanges caseIgnorableRanges from
      funext fun c => (inRanges_lowerLetter c).2]
  cases cs.dropWhile (inRanges caseIgnorableRanges) with
  | nil => rfl
  | cons c rest => exact (inRanges_lowerLetter c).1

theorem lowerLetter_of_far {c : Char} (h : 0x80 ≤ c.toNat) : lowerLetter c = c := by
  rw [lowerLetter, if_neg (by omega)]

theorem toNat_lowerLetter_lt {c : Char} (h : c.toNat < 0x80) : (lowerLetter c).toNat < 0x80 := by
  unfold lowerLetter
  split
  · rw [toNat_ofNat (by omega)]
    omega
  · exact h

theorem lowerChar_lowerLetter (c : Char) : lowerChar (lowerLetter c) = lowerChar c := by
  rcases Nat.lt_or_ge c.toNat 0x80 with hascii | hfar
  · rw [lowerChar, lowerChar, if_pos (toNat_lowerLetter_lt hascii), if_pos hascii,
      lowerLetter_idem]
  · rw [lowerLetter_of_far hfar]

theorem lowerAfter_map_lowerLetter (before cs : List Char) :
    lowerAfter (before.map lowerLetter) (cs.map lowerLetter) = lowerAfter before cs := by
  induction cs generalizing before with
  | nil => rfl
  | cons c cs ih =>
    have hsigma : ((lowerLetter c).toNat == 0x3a3) = (c.toNat == 0x3a3) := by
      rcases Nat.lt_or_ge c.toNat 0x80 with hascii | hfar
      · have hlow := toNat_lowerLetter_lt hascii
        rw [Bool.eq_iff_iff, beq_iff_eq, beq_iff_eq]
        omega
      · rw [lowerLetter_of_far hfar]
    have hrest := ih (c :: before)
    rw [List.map_cons] at hrest
    rw [List.map_cons, lowerAfter, lowerAfter, hsigma, reachesCased_map_lowerLetter,
      reachesCased_map_lowerLetter, lowerChar_lowerLetter, hrest]

/-- **The lowercase form does not tell the case of the letters A to Z.** -/
theorem lower_lowerAscii (s : String) : lower (lowerAscii s) = lower s := by
  rw [lower, lowerAscii, String.toList_ofList]
  exact congrArg String.ofList (lowerAfter_map_lowerLetter [] s.toList)

theorem lower_of_equalAscii {s t : String} (h : equalAscii s t = true) : lower s = lower t := by
  rw [← lower_lowerAscii s, equalAscii_iff.1 h, lower_lowerAscii]

/-! ## Empty texts -/

theorem lowerChar_ne_nil (c : Char) : lowerChar c ≠ [] := by
  unfold lowerChar
  split
  · exact List.cons_ne_nil _ _
  · split
    · exact List.cons_ne_nil _ _
    · split <;> exact List.cons_ne_nil _ _

theorem lowerAfter_ne_nil (before : List Char) (c : Char) (cs : List Char) :
    lowerAfter before (c :: cs) ≠ [] := by
  rw [lowerAfter]
  refine List.append_ne_nil_of_left_ne_nil ?_ _
  split
  · split <;> exact List.cons_ne_nil _ _
  · exact lowerChar_ne_nil c

theorem lower_eq_empty_iff {s : String} : lower s = "" ↔ s = "" := by
  constructor
  · intro h
    rw [← String.toList_inj, lower, String.toList_ofList] at h
    rw [← String.toList_inj]
    cases hs : s.toList with
    | nil => rfl
    | cons c cs =>
      rw [hs] at h
      exact absurd h (lowerAfter_ne_nil [] c cs)
  · rintro rfl
    rfl

/-! ## Looking names up -/

/-- The first of some names that has the letters of a text. -/
def IsFirst (names : List String) (s name : String) : Prop :=
  ∃ before after, names = before ++ name :: after ∧ lower name = lower s ∧
    ∀ e ∈ before, lower e ≠ lower s

theorem find?_eq_some_iff {names : List String} {s name : String} :
    (names.find? fun c => lower c == lower s) = some name ↔ IsFirst names s name := by
  simp only [List.find?_eq_some_iff_append, beq_iff_eq, Bool.not_eq_eq_eq_not, Bool.not_true,
    beq_eq_false_iff_ne]
  constructor
  · rintro ⟨hname, before, after, hnames, hbefore⟩
    exact ⟨before, after, hnames, hname, hbefore⟩
  · rintro ⟨before, after, hnames, hname, hbefore⟩
    exact ⟨hname, before, after, hnames, hbefore⟩

theorem exists_isFirst {names : List String} {s c : String} (hc : c ∈ names)
    (h : lower c = lower s) : ∃ name, IsFirst names s name := by
  have hsome : (names.find? fun c => lower c == lower s).isSome :=
    List.find?_isSome.2 ⟨c, hc, beq_iff_eq.2 h⟩
  obtain ⟨name, hname⟩ := Option.isSome_iff_exists.1 hsome
  exact ⟨name, find?_eq_some_iff.1 hname⟩

end SalesLedger.Text

import Mathlib.Data.List.Dedup
import SalesLedger.Sql.Scan

/-!
# Order and groups

Ordering keeps what it cannot tell apart as it was, so the groups of equal keys are the same
whichever way rows are ordered before they are cut into groups; only the order of the groups
differs.

* `Key.le_antisymm`: two cells that come before each other have one key.
* `order_filter`: the values with one key come out of an ordering as they went in.
* `runs_of_ordered`: where equal keys stand together, the groups are the values of each key.
* `groupsOf_order_perm`, `runs_order_perm`: the groups are the same in either direction.
-/

namespace SalesLedger.Sql

/-! ## Keys -/

namespace Cell

theorem bytesLe_antisymm {as bs : List Nat} (h : bytesLe as bs = true)
    (h' : bytesLe bs as = true) : as = bs := by
  induction as generalizing bs with
  | nil =>
    cases bs with
    | nil => rfl
    | cons b bs => cases h'
  | cons a as ih =>
    cases bs with
    | nil => cases h
    | cons b bs =>
      simp only [bytesLe, Bool.or_eq_true, Bool.and_eq_true, decide_eq_true_eq, beq_iff_eq] at h h'
      rcases h with h | ⟨rfl, h⟩
      · rcases h' with h' | ⟨rfl, -⟩
        · omega
        · omega
      · rcases h' with h' | ⟨-, h'⟩
        · omega
        · rw [ih h h']

theorem textLe_antisymm {a b : String} {as bs : List Nat} (h : textLe a b as bs = true)
    (h' : textLe b a bs as = true) : a = b ∧ as = bs := by
  unfold textLe at h h'
  by_cases hab : a = b
  · rw [if_pos hab] at h
    rw [if_pos hab.symm] at h'
    exact ⟨hab, bytesLe_antisymm h h'⟩
  · rw [if_neg hab] at h
    rw [if_neg (Ne.symm hab)] at h'
    exact absurd (String.le_antisymm (of_decide_eq_true h) (of_decide_eq_true h')) hab

theorem Key.le_antisymm {a b : Key} (h : a.le b = true) (h' : b.le a = true) : a = b := by
  cases a <;> cases b <;> simp only [Key.le, Bool.false_eq_true] at h h'
  · rfl
  · rw [Int.le_antisymm (of_decide_eq_true h) (of_decide_eq_true h')]
  · obtain ⟨rfl, rfl⟩ := textLe_antisymm h h'
    rfl
  · rw [bytesLe_antisymm h h']

/-- Whether one cell comes before another in a direction, or is level with it. -/
def leads (d : SortOrder) (a b : Cell) : Bool :=
  match d with
  | .ascending => a.le b
  | .descending => b.le a

theorem leads_total (d : SortOrder) (a b : Cell) : (a.leads d b || b.leads d a) = true := by
  cases d with
  | ascending => exact Key.le_total a.key b.key
  | descending => exact Key.le_total b.key a.key

theorem leads_trans {d : SortOrder} {a b c : Cell} (h : a.leads d b = true)
    (h' : b.leads d c = true) : a.leads d c = true := by
  cases d with
  | ascending => exact Key.le_trans h h'
  | descending => exact Key.le_trans h' h

theorem leads_of_key {a b : Cell} (h : a.key = b.key) (d : SortOrder) : a.leads d b = true := by
  cases d with
  | ascending =>
    show a.key.le b.key = true
    rw [h]
    exact Key.le_refl _
  | descending =>
    show b.key.le a.key = true
    rw [h]
    exact Key.le_refl _

theorem key_of_leads {d : SortOrder} {a b : Cell} (h : a.leads d b = true)
    (h' : b.leads d a = true) : a.key = b.key := by
  cases d with
  | ascending => exact Key.le_antisymm h h'
  | descending => exact Key.le_antisymm h' h

theorem same_iff {a b : Cell} : a.same b = true ↔ a.key = b.key :=
  decide_eq_true_iff

end Cell

/-! ## Ordering -/

section

variable {α : Type} (key : α → Cell)

theorem order_eq (d : SortOrder) (xs : List α) :
    order d key xs = xs.mergeSort fun a b => (key a).leads d (key b) := by
  cases d <;> rfl

theorem leads_key_trans (d : SortOrder) (a b c : α) (h : (key a).leads d (key b) = true)
    (h' : (key b).leads d (key c) = true) : (key a).leads d (key c) = true :=
  Cell.leads_trans h h'

theorem leads_key_total (d : SortOrder) (a b : α) :
    ((key a).leads d (key b) || (key b).leads d (key a)) = true :=
  Cell.leads_total d (key a) (key b)

/-- **Values that come before each other** come out of an ordering as they went in. -/
theorem filter_mergeSort {α : Type} {le : α → α → Bool}
    (htrans : ∀ a b c, le a b = true → le b c = true → le a c = true)
    (htotal : ∀ a b, (le a b || le b a) = true) {p : α → Bool}
    (h : ∀ a b, p a = true → p b = true → le a b = true) (xs : List α) :
    (xs.mergeSort le).filter p = xs.filter p := by
  have hlevel : (xs.filter p).Pairwise fun a b => le a b = true := by
    rw [List.pairwise_filter]
    exact List.pairwise_of_forall h
  have hkept : (xs.filter p).Sublist (xs.mergeSort le) :=
    List.sublist_mergeSort htrans htotal hlevel List.filter_sublist
  have hsub := hkept.filter p
  rw [List.filter_filter] at hsub
  simp only [Bool.and_self] at hsub
  exact (hsub.eq_of_length ((List.mergeSort_perm xs le).filter p).length_eq.symm).symm

theorem order_pairwise (d : SortOrder) (xs : List α) :
    (order d key xs).Pairwise fun a b => (key a).leads d (key b) = true := by
  rw [order_eq]
  exact List.pairwise_mergeSort (leads_key_trans key d) (leads_key_total key d) xs

theorem order_map {β : Type} (d : SortOrder) (f : β → α) (xs : List β) :
    order d key (xs.map f) = (order d (fun b => key (f b)) xs).map f := by
  rw [order_eq, order_eq]
  exact (List.map_mergeSort (r := fun a b => (key (f a)).leads d (key (f b)))
    (s := fun a b => (key a).leads d (key b)) (f := f) fun _ _ _ _ => rfl).symm

/-- The first of ordered values are ordered, and come before all others. -/
theorem pairwise_take_drop {α : Type} {R : α → α → Prop} {xs : List α} (h : xs.Pairwise R)
    (n : Nat) : (xs.take n).Pairwise R ∧ ∀ a ∈ xs.take n, ∀ b ∈ xs.drop n, R a b := by
  rw [← List.take_append_drop n xs, List.pairwise_append] at h
  exact ⟨h.1, h.2.2⟩

theorem mergeSort_pair {α : Type} (le : α → α → Bool) (a b : α) :
    [a, b].mergeSort le = if le a b then [a, b] else [b, a] := by
  simp [List.mergeSort, List.merge, List.MergeSort.Internal.splitInTwo]

theorem order_pair (d : SortOrder) (a b : α) :
    order d key [a, b] = if (key a).leads d (key b) then [a, b] else [b, a] := by
  rw [order_eq, mergeSort_pair]

/-- **The values with one key come out of an ordering as they went in.** -/
theorem order_filter (d : SortOrder) (xs : List α) (k : Cell.Key) :
    (order d key xs).filter (fun a => (key a).key = k) = xs.filter fun a => (key a).key = k := by
  rw [order_eq]
  refine filter_mergeSort (leads_key_trans key d) (leads_key_total key d) (fun a b ha hb => ?_) xs
  exact Cell.leads_of_key ((of_decide_eq_true ha).trans (of_decide_eq_true hb).symm) d

/-! ## Groups -/

/-- The keys of values, each where it occurs first. -/
def keysOf : List α → List Cell.Key
  | [] => []
  | x :: xs => (key x).key :: (keysOf xs).filter (· ≠ (key x).key)

theorem mem_keysOf {xs : List α} {k : Cell.Key} :
    k ∈ keysOf key xs ↔ ∃ x ∈ xs, (key x).key = k := by
  induction xs with
  | nil => simp [keysOf]
  | cons x xs ih =>
    rw [keysOf, List.mem_cons, List.mem_filter, ih]
    by_cases hk : k = (key x).key
    · simp [hk]
    · simp [hk, Ne.symm hk]

theorem nodup_keysOf (xs : List α) : (keysOf key xs).Nodup := by
  induction xs with
  | nil => exact List.nodup_nil
  | cons x xs ih =>
    rw [keysOf, List.nodup_cons]
    exact ⟨by simp, ih.filter _⟩

/-- The values with one key. -/
def withKey (xs : List α) (k : Cell.Key) : List α :=
  xs.filter fun x => (key x).key = k

theorem withKey_cons_self (x : α) (xs : List α) :
    withKey key (x :: xs) (key x).key = x :: withKey key xs (key x).key :=
  List.filter_cons_of_pos (decide_eq_true rfl)

theorem withKey_cons_of_ne {x : α} {k : Cell.Key} (h : k ≠ (key x).key) (xs : List α) :
    withKey key (x :: xs) k = withKey key xs k :=
  List.filter_cons_of_neg (by simpa using h.symm)

/-- The values of each key, each where its key occurs first. -/
def groupsOf (xs : List α) : List (List α) :=
  (keysOf key xs).map (withKey key xs)

theorem groupsOf_cons (x : α) (xs : List α) :
    groupsOf key (x :: xs) = (x :: withKey key xs (key x).key) ::
      ((keysOf key xs).filter (· ≠ (key x).key)).map (withKey key xs) := by
  rw [groupsOf, keysOf, List.map_cons, withKey_cons_self]
  congr 1
  refine List.map_congr_left fun k hk => withKey_cons_of_ne key ?_ xs
  exact of_decide_eq_true (List.mem_filter.1 hk).2

/-- What is not together with the next value has no equal behind that one either. -/
theorem not_mem_keysOf_of_ne {d : SortOrder} {x y : α} {ys : List α}
    (h : (x :: y :: ys).Pairwise fun a b => (key a).leads d (key b) = true)
    (hne : (key x).key ≠ (key y).key) : (key x).key ∉ keysOf key (y :: ys) := by
  obtain ⟨hx, hy, -⟩ : _ ∧ _ ∧ _ := by simpa only [List.pairwise_cons] using h
  rw [mem_keysOf]
  rintro ⟨z, hz, hkey⟩
  have hyz : (key y).leads d (key z) = true := by
    rcases List.mem_cons.1 hz with rfl | hz
    · exact Cell.leads_of_key rfl d
    · exact hy z hz
  have hyx := Cell.leads_trans hyz (Cell.leads_of_key hkey d)
  exact hne (Cell.key_of_leads (hx y List.mem_cons_self) hyx)

/-- **Where equal keys stand together, the groups are the values of each key.** -/
theorem runs_of_ordered {d : SortOrder} {xs : List α}
    (h : xs.Pairwise fun a b => (key a).leads d (key b) = true) :
    runs key xs = groupsOf key xs := by
  induction xs with
  | nil => rfl
  | cons x xs ih =>
    have hruns := ih (List.pairwise_cons.1 h).2
    cases xs with
    | nil => simp [runs, groupsOf, keysOf, withKey]
    | cons y ys =>
      have hgroups := groupsOf_cons key y ys
      rw [groupsOf_cons key x]
      rw [runs, hruns, hgroups]
      dsimp only
      by_cases hkey : (key x).key = (key y).key
      · -- the value joins the first group
        rw [if_pos (Cell.same_iff.2 hkey), hkey, withKey_cons_self, keysOf,
          List.filter_cons_of_neg (by simp), List.filter_filter]
        simp only [Bool.and_self]
        congr 1
        refine List.map_congr_left fun k hk => (withKey_cons_of_ne key ?_ ys).symm
        exact of_decide_eq_true (List.mem_filter.1 hk).2
      · -- the value is a group of its own
        have hnone := not_mem_keysOf_of_ne key h hkey
        have hempty : withKey key (y :: ys) (key x).key = [] := by
          refine List.filter_eq_nil_iff.2 fun z hz hz' => hnone ?_
          exact (mem_keysOf key).2 ⟨z, hz, of_decide_eq_true hz'⟩
        rw [if_neg fun hsame => hkey (Cell.same_iff.1 hsame), hempty, ← hgroups, groupsOf]
        congr 2
        refine (List.filter_eq_self.2 fun k hk => ?_).symm
        rw [decide_eq_true_eq]
        rintro rfl
        exact hnone hk

/-- **Ordering values changes no group**, only the order of the groups. -/
theorem groupsOf_order_perm (d : SortOrder) (xs : List α) :
    (groupsOf key (order d key xs)).Perm (groupsOf key xs) := by
  have hkeys : (keysOf key (order d key xs)).Perm (keysOf key xs) := by
    rw [List.perm_ext_iff_of_nodup (nodup_keysOf key _) (nodup_keysOf key _)]
    intro k
    rw [mem_keysOf, mem_keysOf]
    simp only [(order_perm d key xs).mem_iff]
  have hvalues : withKey key (order d key xs) = withKey key xs :=
    funext (order_filter key d xs)
  rw [groupsOf, groupsOf, hvalues]
  exact hkeys.map _

/-- **The groups are the same whichever way values are ordered before.** -/
theorem runs_order_perm (d d' : SortOrder) (xs : List α) :
    (runs key (order d key xs)).Perm (runs key (order d' key xs)) := by
  rw [runs_of_ordered key (order_pairwise key d xs),
    runs_of_ordered key (order_pairwise key d' xs)]
  exact (groupsOf_order_perm key d xs).trans (groupsOf_order_perm key d' xs).symm

/-- What is in an earlier group comes before what is in a later one. -/
theorem groupsOf_pairwise {d : SortOrder} {xs : List α}
    (h : xs.Pairwise fun a b => (key a).leads d (key b) = true) :
    (groupsOf key xs).Pairwise fun g g' =>
      ∀ a ∈ g, ∀ b ∈ g', (key a).leads d (key b) = true := by
  have hruns := runs_of_ordered key h
  rw [← runs_flatten key xs, List.pairwise_flatten, hruns] at h
  exact h.2

theorem runs_map {β : Type} (f : β → α) (xs : List β) :
    runs key (xs.map f) = (runs (fun b => key (f b)) xs).map (List.map f) := by
  induction xs with
  | nil => rfl
  | cons x xs ih =>
    rw [List.map_cons, runs, runs, ih]
    cases runs (fun b => key (f b)) xs with
    | nil => rfl
    | cons g rest =>
      cases g with
      | nil => rfl
      | cons y ys =>
        simp only [List.map_cons]
        split <;> rfl

/-- There is no group without values. -/
theorem ne_nil_of_mem_groupsOf {xs g : List α} (h : g ∈ groupsOf key xs) : g ≠ [] := by
  obtain ⟨k, hk, rfl⟩ := List.mem_map.1 h
  obtain ⟨x, hx, hkey⟩ := (mem_keysOf key).1 hk
  exact List.ne_nil_of_mem (List.mem_filter.2 ⟨hx, decide_eq_true hkey⟩)

end

end SalesLedger.Sql

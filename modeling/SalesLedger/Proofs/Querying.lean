import SalesLedger.Proofs.Grouping
import SalesLedger.Sql.Evaluate
import SalesLedger.Steps

/-!
# Querying tables without keys

A table without keys and without numbered rows is read in one way only, so a query takes its rows in
the order in which they are kept (`read_of_unkeyed`), whatever order it asks for. What a query with
an order and a cap answers is told by what it answers without them:

* `groups_perm`: it sums up the same groups.
* `rows_ordered`: it answers the first rows of a stable order of the same rows.
* `rows_ordered_of_error`: where one of them has no answer, the other has no rows.
-/

namespace SalesLedger.Sql

/-- A table that is read as it is kept. -/
structure Table.IsUnkeyed (t : Table) : Prop where
  keys : t.keys = []
  numbering : t.numbering? = none
  isKeyed : t.isKeyed = false

theorem Table.IsUnkeyed.numberIndex? {t : Table} (ht : t.IsUnkeyed) : t.numberIndex? = none := by
  rw [Layout.numberIndex?, ht.numbering]
  rfl

/-! ## Answers one by one -/

section

variable {ε α β γ : Type} {f : α → Except ε β}

theorem mapM_cons_ok {x : α} {xs : List α} {bs : List β} (h : (x :: xs).mapM f = .ok bs) :
    ∃ c cs, f x = .ok c ∧ xs.mapM f = .ok cs ∧ bs = c :: cs := by
  rw [List.mapM_cons] at h
  obtain ⟨c, hx, h⟩ := bind_eq_ok_iff.1 h
  obtain ⟨cs, hxs, h⟩ := bind_eq_ok_iff.1 h
  exact ⟨c, cs, hx, hxs, (Except.ok.inj h).symm⟩

theorem mapM_ok_cons {x : α} {xs : List α} {c : β} {cs : List β} (hx : f x = .ok c)
    (hxs : xs.mapM f = .ok cs) : (x :: xs).mapM f = .ok (c :: cs) := by
  rw [List.mapM_cons, hx, hxs]
  rfl

/-- The order in which answers are worked out does not matter, unless one of them fails. -/
theorem mapM_perm {xs ys : List α} (h : xs.Perm ys) {bs : List β} (hbs : xs.mapM f = .ok bs) :
    ∃ cs, ys.mapM f = .ok cs ∧ bs.Perm cs := by
  induction h generalizing bs with
  | nil => exact ⟨bs, hbs, .refl _⟩
  | cons x _ ih =>
    obtain ⟨c, cs, hx, hxs, rfl⟩ := mapM_cons_ok hbs
    obtain ⟨cs', hys, hperm⟩ := ih hxs
    exact ⟨c :: cs', mapM_ok_cons hx hys, hperm.cons c⟩
  | swap x y xs =>
    obtain ⟨b, bs', hy, hrest, rfl⟩ := mapM_cons_ok hbs
    obtain ⟨c, cs, hx, hxs, rfl⟩ := mapM_cons_ok hrest
    exact ⟨c :: b :: cs, mapM_ok_cons hx (mapM_ok_cons hy hxs), .swap c b cs⟩
  | trans _ _ ih ih' =>
    obtain ⟨cs, hys, hperm⟩ := ih hbs
    obtain ⟨ds, hzs, hperm'⟩ := ih' hys
    exact ⟨ds, hzs, hperm.trans hperm'⟩

/-- Every answer is that of something. -/
theorem exists_of_mapM {xs : List α} {bs : List β} (h : xs.mapM f = .ok bs) :
    ∀ b ∈ bs, ∃ x ∈ xs, f x = .ok b := by
  induction xs generalizing bs with
  | nil =>
    obtain rfl := Except.ok.inj h
    intro b hb
    cases hb
  | cons x xs ih =>
    obtain ⟨c, cs, hx, hxs, rfl⟩ := mapM_cons_ok h
    intro b hb
    rcases List.mem_cons.1 hb with rfl | hb
    · exact ⟨x, List.mem_cons_self, hx⟩
    · obtain ⟨y, hy, hyb⟩ := ih hxs b hb
      exact ⟨y, List.mem_cons_of_mem _ hy, hyb⟩

theorem mapM_map_ok (g : β → γ) (xs : List α) :
    xs.mapM (fun x => (f x).map g) = (xs.mapM f).map (List.map g) := by
  induction xs with
  | nil => rfl
  | cons x xs ih =>
    rw [List.mapM_cons, List.mapM_cons, ih]
    cases f x with
    | error e => rfl
    | ok b =>
      cases xs.mapM f with
      | error e => rfl
      | ok bs => rfl

/-- What is told by the answers is told by what they are for. -/
theorem map_of_mapM {g : β → γ} {g' : α → γ} {xs : List α} {bs : List β}
    (h : xs.mapM f = .ok bs) (hg : ∀ x ∈ xs, ∀ b, f x = .ok b → g b = g' x) :
    bs.map g = xs.map g' := by
  induction xs generalizing bs with
  | nil =>
    obtain rfl := Except.ok.inj h
    rfl
  | cons x xs ih =>
    obtain ⟨c, cs, hx, hxs, rfl⟩ := mapM_cons_ok h
    rw [List.map_cons, List.map_cons, hg x List.mem_cons_self c hx,
      ih hxs fun y hy => hg y (List.mem_cons_of_mem _ hy)]

theorem mapM_eq_ok {g : α → β} {xs : List α} (h : ∀ x ∈ xs, f x = .ok (g x)) :
    xs.mapM f = .ok (xs.map g) := by
  induction xs with
  | nil => rfl
  | cons x xs ih =>
    exact mapM_ok_cons (h x List.mem_cons_self) (ih fun y hy => h y (List.mem_cons_of_mem _ hy))

/-- What is told by the parts that two rows of things share is worked out alike. -/
theorem mapM_of_map {δ : Type} {f : α → Except ε γ} {g : β → Except ε γ} {k : α → δ} {k' : β → δ}
    {xs : List α} {ys : List β} (h : xs.map k = ys.map k')
    (hfg : ∀ a b, k a = k' b → f a = g b) : xs.mapM f = ys.mapM g := by
  induction xs generalizing ys with
  | nil =>
    cases ys with
    | nil => rfl
    | cons y ys => simp at h
  | cons a xs ih =>
    cases ys with
    | nil => simp at h
    | cons b ys =>
      simp only [List.map_cons, List.cons.injEq] at h
      rw [List.mapM_cons, List.mapM_cons, hfg a b h.1, ih h.2]

/-- One failure is a failure of all. -/
theorem mapM_error {x : α} {xs : List α} (hmem : x ∈ xs) {e : ε} (hx : f x = .error e) :
    ∃ e', xs.mapM f = .error e' := by
  cases hall : xs.mapM f with
  | error e' => exact ⟨e', rfl⟩
  | ok bs =>
    induction xs generalizing bs with
    | nil => cases hmem
    | cons y ys ih =>
      obtain ⟨c, cs, hy, hys, -⟩ := mapM_cons_ok hall
      rcases List.mem_cons.1 hmem with rfl | hmem
      · rw [hx] at hy
        cases hy
      · exact absurd (ih hmem cs hys) (by rintro ⟨e', ⟨⟩⟩)

theorem mapM_take {xs : List α} {bs : List β} (h : xs.mapM f = .ok bs) (n : Nat) :
    (xs.take n).mapM f = .ok (bs.take n) := by
  induction xs generalizing bs n with
  | nil =>
    obtain rfl := Except.ok.inj h
    cases n <;> rfl
  | cons x xs ih =>
    obtain ⟨c, cs, hx, hxs, rfl⟩ := mapM_cons_ok h
    cases n with
    | zero => rfl
    | succ n => exact mapM_ok_cons hx (ih hxs n)

theorem mapM_congr_left {g : α → Except ε β} {xs : List α} (h : ∀ x ∈ xs, f x = g x) :
    xs.mapM f = xs.mapM g := by
  induction xs with
  | nil => rfl
  | cons x xs ih =>
    rw [List.mapM_cons, List.mapM_cons, h x List.mem_cons_self,
      ih fun y hy => h y (List.mem_cons_of_mem _ hy)]

end

namespace Select

variable {t : Table}

/-! ## The route -/

theorem route?_of_unkeyed (ht : t.IsUnkeyed) (s : Select) :
    ∃ r, s.route? t = some r ∧ r.key? = none := by
  have hkeys : t.orderedKeys = [] := by
    have hperm := t.orderedKeys_perm
    rw [ht.keys] at hperm
    exact hperm.eq_nil
  obtain ⟨r, hr, hkey⟩ : ∃ r, s.routes t = [r] ∧ r.key? = none := by
    unfold routes allRoutes tableRoutes
    rw [if_neg (by rw [ht.isKeyed]; exact Bool.false_ne_true), hkeys, ht.numberIndex?]
    exact ⟨_, rfl, rfl⟩
  refine ⟨r, ?_, hkey⟩
  unfold route?
  rw [hr]
  dsimp only [Route.best?, List.foldl_nil]
  split <;> rfl

theorem isOrdered_of_unkeyed (ht : t.IsUnkeyed) {s : Select} (hgroup : s.groupBy.isSome = true) :
    (s.route? t).any (s.isOrdered t) = (s.wish? t).any (s.isFixed t) := by
  obtain ⟨r, hr, hkey⟩ := route?_of_unkeyed ht s
  rw [hr, Option.any_some, isOrdered]
  cases s.wish? t with
  | none => simp [wantsOrder, hgroup]
  | some i => simp [ordersBy, hkey, ht.numberIndex?]

/-- **The rows are read as they are kept.** -/
theorem read_of_unkeyed (ht : t.IsUnkeyed) (s : Select) : s.read t = t.rows := by
  obtain ⟨r, hr, hkey⟩ := route?_of_unkeyed ht s
  have hdirection : ∀ i, s.directionOf? t i r = none := by
    intro i
    unfold directionOf?
    rw [hkey, ht.numberIndex?]
    dsimp only
    split <;> rfl
  have hforwards : s.isBackwards t r = false := by
    unfold isBackwards
    cases s.wish? t with
    | none => simp
    | some i => simp [hdirection i]
  unfold read
  rw [hr]
  dsimp only
  rw [hforwards, if_neg Bool.false_ne_true, along, hkey]

theorem taken_of_unkeyed (ht : t.IsUnkeyed) (s : Select) :
    s.taken t = t.rows.filter fun row => s.conditions.all (Condition.holds t row) := by
  rw [taken, read_of_unkeyed ht]

/-! ## The groups -/

/-- A query in an order and with a cap. -/
def arranged (s : Select) (name : String) (d : SortOrder) (n : Nat) : Select :=
  { s with orderBy := some (name, d), limit := some n }

/-- **An order asks for the same groups.** -/
theorem groups_perm (ht : t.IsUnkeyed) (s : Select) (name : String) (d : SortOrder) (n : Nat) :
    ((s.arranged name d n).groups t).Perm (s.groups t) := by
  have htaken : (s.arranged name d n).taken t = s.taken t := by
    rw [taken_of_unkeyed ht, taken_of_unkeyed ht]
    rfl
  cases hgroup : s.groupBy with
  | none =>
    unfold groups
    rw [htaken, show (s.arranged name d n).groupBy = none from hgroup, hgroup]
  | some group =>
    have hsome : s.groupBy.isSome = true := by rw [hgroup]; rfl
    have hwish : (s.arranged name d n).wish? t = s.wish? t := by
      unfold wish?
      rw [show (s.arranged name d n).groupBy = some group from hgroup, hgroup]
      rfl
    have hordered : (s.arranged name d n |>.route? t).any ((s.arranged name d n).isOrdered t) =
        (s.route? t).any (s.isOrdered t) := by
      rw [isOrdered_of_unkeyed ht hsome,
        isOrdered_of_unkeyed ht (show (s.arranged name d n).groupBy.isSome = true from hsome),
        hwish]
      rfl
    unfold groups
    rw [htaken, show (s.arranged name d n).groupBy = some group from hgroup, hgroup]
    dsimp only
    rw [hordered]
    split
    · exact .refl _
    · exact runs_order_perm _ _ _ _

/-! ## The rows -/

/-- The groups that the answer's rows are for: of one row each, where nothing is summed up. -/
def units (s : Select) (t : Table) : List (List Row) :=
  if s.isSummary then s.groups t else (s.taken t).map fun row => [row]

/-- The cells of the answer's row for a group. -/
def cellsOf (s : Select) (t : Table) (rows : List Row) : Except Fault (List Cell) :=
  (s.answerColumns t).mapM fun o => o.selection.eval t rows

theorem units_perm (ht : t.IsUnkeyed) (s : Select) (name : String) (d : SortOrder) (n : Nat) :
    ((s.arranged name d n).units t).Perm (s.units t) := by
  unfold units
  rw [show (s.arranged name d n).isSummary = s.isSummary from rfl]
  split
  · exact groups_perm ht s name d n
  · rw [taken_of_unkeyed ht, taken_of_unkeyed ht]
    exact .refl _

/-- A row that is ordered is a row of the answer with its key. -/
theorem map_answer (s : Select) (t : Table) (rows : List Row) :
    (s.answer t rows).map Answered.cells = s.cellsOf t rows := by
  unfold answer cellsOf
  cases (s.answerColumns t).mapM fun o => o.selection.eval t rows with
  | error f => rfl
  | ok cells => rfl

theorem mapM_answer (s : Select) (t : Table) (units : List (List Row)) :
    (units.mapM (s.answer t)).map (List.map Answered.cells) = units.mapM (s.cellsOf t) := by
  rw [← mapM_map_ok]
  exact mapM_congr_left fun rows _ => map_answer s t rows

/-- A query in the order of its groups answers with the rows of the first of them. -/
theorem rows_of_groupOrder {s : Select} (h : s.inGroupOrder t = true) :
    s.rows t = (s.capped (s.units t)).mapM (s.cellsOf t) := by
  have hzero : s.limit = some 0 → s.capped (s.units t) = [] := by
    intro hlimit
    unfold capped
    rw [hlimit]
    exact List.take_zero
  unfold rows
  dsimp only
  by_cases hlimit : s.limit = some 0
  · rw [if_pos hlimit, hzero hlimit]
    rfl
  · rw [if_neg hlimit, if_pos h, ← mapM_answer]
    show ((s.capped (s.units t)).mapM (s.answer t) >>= fun answers =>
      pure (answers.map Answered.cells)) = _
    cases (s.capped (s.units t)).mapM (s.answer t) with
    | error f => rfl
    | ok answers => rfl

/-- A query in another order answers with the first of the ordered rows. -/
theorem rows_of_otherOrder {s : Select} (h : s.inGroupOrder t = false) :
    s.rows t = if s.limit = some 0 then .ok []
      else ((s.units t).mapM (s.answer t)).map fun answers =>
        (s.capped (order s.direction Answered.key answers)).map Answered.cells := by
  unfold rows
  dsimp only
  by_cases hlimit : s.limit = some 0
  · rw [if_pos hlimit, if_pos hlimit]
  · rw [if_neg hlimit, if_neg hlimit, h, if_neg Bool.false_ne_true]
    show ((s.units t).mapM (s.answer t) >>= fun answers =>
      pure ((s.capped (order s.direction Answered.key answers)).map Answered.cells)) = _
    cases (s.units t).mapM (s.answer t) with
    | error f => rfl
    | ok answers => rfl

/-- **What the columns of an answer are called changes no row**, if the order stays what it was. -/
theorem rows_of_renamed (ht : t.IsUnkeyed) {s s' : Select} {c : String} {i : Nat}
    (hindex : t.index? c = some i) (hgroup : s.groupBy = some c) (hgroup' : s'.groupBy = some c)
    (hconditions : s'.conditions = s.conditions) (hdirection : s'.direction = s.direction)
    (hlimit : s'.limit = s.limit) (horder : s'.inGroupOrder t = s.inGroupOrder t)
    (hanswer : s'.answer t = s.answer t) : s'.rows t = s.rows t := by
  have hreferent : ∀ u : Select, u.groupReferent t c = .column i := fun u => by
    rw [groupReferent, hindex]
  have hordered : ∀ u : Select, u.groupBy = some c →
      (u.route? t).any (u.isOrdered t) = u.isFixed t i := fun u hu => by
    rw [isOrdered_of_unkeyed ht (hu ▸ rfl), wish?_of_groups hu (hreferent u), Option.any_some]
  have hsummary : ∀ u : Select, u.groupBy = some c → u.isSummary = true := fun u hu => by
    rw [isSummary, hu, Option.isSome_some, Bool.true_or]
  have htaken : s'.taken t = s.taken t := by
    rw [taken_of_unkeyed ht, taken_of_unkeyed ht, hconditions]
  have hfixed : s'.isFixed t i = s.isFixed t i := by
    rw [isFixed, isFixed, hconditions]
  have hgroups : s'.groups t = s.groups t := by
    unfold groups
    rw [hgroup, hgroup']
    dsimp only
    rw [hreferent, hreferent, hordered s hgroup, hordered s' hgroup', htaken, hfixed, hdirection]
    rfl
  unfold rows capped
  rw [hsummary s hgroup, hsummary s' hgroup', hgroups, htaken, hlimit, horder, hanswer, hdirection]

/-- The cap changes no group. -/
theorem units_limit (ht : t.IsUnkeyed) (s : Select) (limit : Option Nat) :
    { s with limit := limit }.units t = s.units t := by
  have htaken : { s with limit := limit }.taken t = s.taken t := by
    rw [taken_of_unkeyed ht, taken_of_unkeyed ht]
  have hordered : s.groupBy.isSome = true →
      ({ s with limit := limit }.route? t).any ({ s with limit := limit }.isOrdered t) =
        (s.route? t).any (s.isOrdered t) := by
    intro hsome
    rw [isOrdered_of_unkeyed ht hsome, isOrdered_of_unkeyed ht (s := { s with limit := limit })
      hsome]
    rfl
  have hgroups : { s with limit := limit }.groups t = s.groups t := by
    obtain ⟨outputs, table, conditions, groupBy, orderBy, limit'⟩ := s
    unfold groups
    rw [htaken]
    cases groupBy with
    | none => rfl
    | some group =>
      dsimp only
      rw [hordered rfl]
      rfl
  unfold units
  rw [htaken, hgroups]
  rfl

theorem units_arranged (ht : t.IsUnkeyed) (s : Select) (name : String) (d : SortOrder)
    (n n' : Nat) : (s.arranged name d n).units t = (s.arranged name d n').units t :=
  units_limit ht (s.arranged name d n') (some n)

/-- Every row of the answer is that of a group. -/
theorem exists_unit_of_mem_rows {s : Select} {cells : List (List Cell)}
    (h : s.rows t = .ok cells) : ∀ c ∈ cells, ∃ rows ∈ s.units t, s.cellsOf t rows = .ok c := by
  intro c hc
  cases hgroups : s.inGroupOrder t with
  | true =>
    rw [rows_of_groupOrder hgroups] at h
    obtain ⟨rows, hrows, hcells⟩ := exists_of_mapM h c hc
    refine ⟨rows, ?_, hcells⟩
    unfold capped at hrows
    split at hrows
    · exact List.mem_of_mem_take hrows
    · exact hrows
  | false =>
    rw [rows_of_otherOrder hgroups] at h
    split at h
    · obtain rfl := Except.ok.inj h
      cases hc
    · cases hanswers : (s.units t).mapM (s.answer t) with
      | error f =>
        rw [hanswers] at h
        cases h
      | ok answers =>
        rw [hanswers] at h
        obtain rfl := Except.ok.inj h
        obtain ⟨a, ha, rfl⟩ := List.mem_map.1 hc
        have hmem : a ∈ answers := by
          refine (order_perm s.direction Answered.key answers).mem_iff.1 ?_
          unfold capped at ha
          split at ha
          · exact List.mem_of_mem_take ha
          · exact ha
        have hcells := mapM_answer s t (s.units t)
        rw [hanswers] at hcells
        exact exists_of_mapM hcells.symm a.cells (List.mem_map_of_mem hmem)

/-- A query without order and cap answers with the rows of its groups. -/
theorem rows_of_bare {s : Select} (horder : s.orderBy = none) (hlimit : s.limit = none) :
    s.rows t = (s.units t).mapM (s.cellsOf t) := by
  have hgroups : s.inGroupOrder t = true := by
    unfold inGroupOrder
    rw [horder]
  rw [rows_of_groupOrder hgroups, capped, hlimit]

/-- **A query without a cap answers with a row for each group**, in whatever order. -/
theorem rows_of_cells {s : Select} (hlimit : s.limit = none) {cells : List (List Cell)}
    (hcells : (s.units t).mapM (s.cellsOf t) = .ok cells) :
    ∃ rows, s.rows t = .ok rows ∧ rows.Perm cells := by
  have hcapped : ∀ {α : Type} (xs : List α), s.capped xs = xs := by
    intro α xs
    unfold capped
    rw [hlimit]
  cases hgroups : s.inGroupOrder t with
  | true => exact ⟨_, by rw [rows_of_groupOrder hgroups, hcapped, hcells], .refl _⟩
  | false =>
    rw [← mapM_answer] at hcells
    cases hanswers : (s.units t).mapM (s.answer t) with
    | error e =>
      rw [hanswers] at hcells
      cases hcells
    | ok answers =>
      rw [hanswers] at hcells
      refine ⟨(order s.direction Answered.key answers).map Answered.cells, ?_, ?_⟩
      · rw [rows_of_otherOrder hgroups, if_neg (by rw [hlimit]; simp), hanswers]
        exact congrArg (fun xs => Except.ok (List.map Answered.cells xs)) (hcapped _)
      · rw [← Except.ok.inj hcells]
        exact (order_perm _ _ _).map _

/-- The same where each group has an answer of its own. -/
theorem rows_of_total {s : Select} (hlimit : s.limit = none) {f : List Row → List Cell}
    (h : ∀ rows ∈ s.units t, s.cellsOf t rows = .ok (f rows)) :
    ∃ cells, s.rows t = .ok cells ∧ cells.Perm ((s.units t).map f) :=
  rows_of_cells hlimit (mapM_eq_ok h)

variable {s : Select} {name : String} {d : SortOrder} {n place : Nat}

/-- A query with an order and a cap answers with the first of the ordered rows. -/
theorem rows_of_arranged (hgroups : (s.arranged name d n).inGroupOrder t = false)
    (hanswer : ∀ rows ∈ (s.arranged name d n).units t, (s.arranged name d n).answer t rows =
      (s.cellsOf t rows).map fun cells => ⟨cells, cells.getD place .null⟩) :
    (s.arranged name d n).rows t =
      if n = 0 then .ok []
      else (((s.arranged name d n).units t).mapM (s.cellsOf t)).map fun cells =>
        (order d (fun cells => cells.getD place .null) cells).take n := by
  rw [rows_of_otherOrder hgroups, show (s.arranged name d n).limit = some n from rfl]
  by_cases hn : n = 0
  · rw [if_pos (congrArg some hn), if_pos hn]
  · rw [if_neg fun h => hn (Option.some.inj h), if_neg hn]
    have hanswers : ((s.arranged name d n).units t).mapM ((s.arranged name d n).answer t) =
        (((s.arranged name d n).units t).mapM (s.cellsOf t)).map
          (List.map fun cells => ⟨cells, cells.getD place .null⟩) := by
      rw [← mapM_map_ok]
      exact mapM_congr_left hanswer
    rw [hanswers]
    cases ((s.arranged name d n).units t).mapM (s.cellsOf t) with
    | error f => rfl
    | ok cells =>
      show Except.ok (((order d Answered.key (cells.map _)).take n).map Answered.cells) = .ok _
      rw [order_map, ← List.map_take, List.map_map]
      exact congrArg Except.ok (List.map_id _)

/-- Where a larger cap has no answer, a smaller one has no rows, unless it leaves out groups. -/
theorem rows_of_error (ht : t.IsUnkeyed) {k k' : Nat}
    (hgroups : (s.arranged name d k').inGroupOrder t = false) {f : Fault}
    (h : (s.arranged name d k').rows t = .error f) :
    ((s.arranged name d k).rows t).toOption.getD [] = [] := by
  rw [rows_of_otherOrder hgroups] at h
  rw [rows_of_otherOrder (s := s.arranged name d k) hgroups, units_arranged ht s name d k k',
    show (s.arranged name d k).answer t = (s.arranged name d k').answer t from rfl]
  split
  · rfl
  · split at h
    · cases h
    · cases hanswers : ((s.arranged name d k').units t).mapM ((s.arranged name d k').answer t) with
      | error f' => rfl
      | ok answers =>
        rw [hanswers] at h
        cases h

/-- **A larger cap only goes on with the answer.** -/
theorem rows_take (ht : t.IsUnkeyed) {k k' : Nat} (hk : k ≤ k') {cells : List (List Cell)}
    (h : (s.arranged name d k').rows t = .ok cells) :
    (s.arranged name d k).rows t = .ok (cells.take k) := by
  have hunits := units_arranged ht s name d k k'
  cases hgroups : (s.arranged name d k').inGroupOrder t with
  | true =>
    rw [rows_of_groupOrder hgroups] at h
    rw [rows_of_groupOrder (s := s.arranged name d k) hgroups, hunits]
    have hfirst := mapM_take h k
    rw [show (s.arranged name d k').capped ((s.arranged name d k').units t) =
      ((s.arranged name d k').units t).take k' from rfl, List.take_take,
      Nat.min_eq_left hk] at hfirst
    exact hfirst
  | false =>
    rw [rows_of_otherOrder hgroups] at h
    rw [rows_of_otherOrder (s := s.arranged name d k) hgroups, hunits]
    by_cases hzero : k = 0
    · rw [hzero, List.take_zero]
      exact if_pos rfl
    · have hlimit : ∀ {n : Nat}, k ≤ n → (s.arranged name d n).limit ≠ some 0 := by
        intro n hn hlimit
        obtain rfl : n = 0 := Option.some.inj hlimit
        omega
      rw [if_neg (hlimit hk)] at h
      rw [if_neg (hlimit (Nat.le_refl k))]
      cases hanswers : ((s.arranged name d k').units t).mapM ((s.arranged name d k').answer t) with
      | error f =>
        rw [hanswers] at h
        cases h
      | ok answers =>
        rw [hanswers] at h
        obtain rfl := Except.ok.inj h
        rw [show (s.arranged name d k).answer t = (s.arranged name d k').answer t from rfl,
          hanswers]
        show Except.ok (((order d Answered.key answers).take k).map Answered.cells) =
          .ok ((((order d Answered.key answers).take k').map Answered.cells).take k)
        rw [← List.map_take, List.take_take, Nat.min_eq_left hk]

/-- A cap is kept. -/
theorem length_rows_le (ht : t.IsUnkeyed) {k : Nat} {cells : List (List Cell)}
    (h : (s.arranged name d k).rows t = .ok cells) : cells.length ≤ k := by
  have hall := rows_take ht (Nat.le_refl k) h
  rw [h] at hall
  rw [Except.ok.inj hall]
  exact List.length_take_le k cells

/-- The rows of a query with an order come in that order. -/
theorem pairwise_of_arranged (hgroups : (s.arranged name d n).inGroupOrder t = false)
    (hanswer : ∀ rows ∈ (s.arranged name d n).units t, (s.arranged name d n).answer t rows =
      (s.cellsOf t rows).map fun cells => ⟨cells, cells.getD place .null⟩)
    {cells : List (List Cell)} (h : (s.arranged name d n).rows t = .ok cells) :
    cells.Pairwise fun a b => (a.getD place .null).leads d (b.getD place .null) = true := by
  rw [rows_of_arranged hgroups hanswer] at h
  split at h
  · obtain rfl := Except.ok.inj h
    exact .nil
  · cases hall : ((s.arranged name d n).units t).mapM (s.cellsOf t) with
    | error f =>
      rw [hall] at h
      cases h
    | ok all =>
      rw [hall] at h
      obtain rfl := Except.ok.inj h
      exact (order_pairwise _ d all).sublist (List.take_sublist n _)

/-- **An order and a cap give the first rows of a stable order of the same rows.** -/
theorem rows_ordered (ht : t.IsUnkeyed) (horder : s.orderBy = none) (hlimit : s.limit = none)
    (hgroups : (s.arranged name d n).inGroupOrder t = false)
    (hanswer : ∀ rows ∈ (s.arranged name d n).units t, (s.arranged name d n).answer t rows =
      (s.cellsOf t rows).map fun cells => ⟨cells, cells.getD place .null⟩)
    {cells : List (List Cell)} (hrows : s.rows t = .ok cells) :
    ∃ cells', cells.Perm cells' ∧ (s.arranged name d n).rows t =
      .ok ((order d (fun cells => cells.getD place .null) cells').take n) := by
  rw [rows_of_bare horder hlimit] at hrows
  obtain ⟨cells', hcells, hperm⟩ := mapM_perm (units_perm ht s name d n).symm hrows
  refine ⟨cells', hperm, ?_⟩
  rw [rows_of_arranged hgroups hanswer, hcells]
  split
  · rename_i hn
    rw [hn, List.take_zero]
  · rfl

/-- Where a row has no answer, there are no rows in any order. -/
theorem rows_ordered_of_error (ht : t.IsUnkeyed) (horder : s.orderBy = none)
    (hlimit : s.limit = none) (hgroups : (s.arranged name d n).inGroupOrder t = false)
    (hanswer : ∀ rows ∈ (s.arranged name d n).units t, (s.arranged name d n).answer t rows =
      (s.cellsOf t rows).map fun cells => ⟨cells, cells.getD place .null⟩)
    {f : Fault} (hrows : s.rows t = .error f) {cells : List (List Cell)}
    (hcells : (s.arranged name d n).rows t = .ok cells) : cells = [] := by
  rw [rows_of_bare horder hlimit] at hrows
  rw [rows_of_arranged hgroups hanswer] at hcells
  split at hcells
  · exact (Except.ok.inj hcells).symm
  · cases hall : ((s.arranged name d n).units t).mapM (s.cellsOf t) with
    | error f' =>
      rw [hall] at hcells
      cases hcells
    | ok cells' =>
      obtain ⟨cells'', hok, -⟩ := mapM_perm (units_perm ht s name d n) hall
      rw [hrows] at hok
      cases hok

end Select

end SalesLedger.Sql

import SalesLedger.Proofs.Strictness

/-!
# Roles that fail

A parameter set gives five roles, and each of them can fail: an axis, a filter or a column to sort by
that is not found, a revenue to sort by that is not measured, a period that is none or means all time.

* `compile_without`: a role that fails is as good as absent. Whichever of the failing roles are taken
  out of a set, it compiles to the same query or is refused as before, so no failure reaches another
  role.
* `category?_without`, `measure?_without`, `conditions_without`, `orderName?_without`: role by role,
  what the set means without them.
-/

namespace SalesLedger.Query

/-- What the parts of a parameter set are for. A filter is a column and a value together. -/
inductive Role where
  | xAxis
  | yAxis
  | filter
  | sortBy
  | timePeriod
  deriving Repr, DecidableEq

/-- A parameter set without some roles. -/
def without (p : ParameterSet) (gone : Role → Bool) : ParameterSet :=
  { p with
    xAxis := if gone .xAxis then none else p.xAxis
    yAxis := if gone .yAxis then none else p.yAxis
    filterColumn := if gone .filter then none else p.filterColumn
    filterValue := if gone .filter then none else p.filterValue
    sortBy := if gone .sortBy then none else p.sortBy
    timePeriod := if gone .timePeriod then none else p.timePeriod }

/-- Whether a text is no period, or the one that restricts nothing. -/
def restrictsNothing (token : String) : Bool :=
  match Calendar.Period.parse token with
  | .ok period => period = .allTime
  | .error _ => true

variable (p : ParameterSet) (schema : Schema)

/-- Whether a role fails in a schema. A role that is absent counts as failing too. -/
def fails : Role → Bool
  | .xAxis => p.xAxis.all fun x => schema.resolve? x = none
  | .yAxis => p.yAxis.all fun y => !meansRevenue y && schema.resolve? y = none
  | .filter => p.filterValue = none || p.filterColumn.all fun c => schema.resolve? c = none
  | .sortBy => p.sortBy.all fun s =>
      if meansRevenue s then measure? p schema ≠ some .revenue else schema.resolve? s = none
  | .timePeriod => p.timePeriod.all restrictsNothing

variable {p schema} {gone : Role → Bool}

/-! ## Role by role -/

/-- What finds nothing may as well be absent. -/
theorem bind_of_gone {α β : Type} {o : Option α} {f : α → Option β} {b : Bool}
    (h : b = true → o.bind f = none) : (if b then none else o).bind f = o.bind f := by
  cases b with
  | true => exact (h rfl).symm
  | false => rfl

theorem bind_of_all {α β : Type} {o : Option α} {f : α → Option β} {failing : α → Bool}
    (hall : o.all failing = true) (h : ∀ a, failing a = true → f a = none) : o.bind f = none := by
  cases o with
  | none => rfl
  | some a => exact h a hall

theorem category?_without (h : gone .xAxis = true → fails p schema .xAxis = true) :
    category? (without p gone) schema = category? p schema :=
  bind_of_gone fun hgone => bind_of_all (h hgone) fun _ => of_decide_eq_true

theorem measure?_of_fails (h : fails p schema .yAxis = true) : measure? p schema = none := by
  refine measure?_eq_none_iff.2 fun y hy => ?_
  simpa [fails, hy] using h

theorem measure?_without (h : gone .yAxis = true → fails p schema .yAxis = true) :
    measure? (without p gone) schema = measure? p schema := by
  cases hg : gone .yAxis with
  | true =>
    rw [measure?_of_fails (h hg), measure?, without, hg]
    rfl
  | false =>
    rw [measure?, measure?, without, hg]
    rfl

theorem filterCondition?_of_fails (h : fails p schema .filter = true) :
    filterCondition? p schema = none := by
  rw [fails, Bool.or_eq_true, decide_eq_true_eq] at h
  unfold filterCondition?
  rcases h with hvalue | hcolumn
  · rw [hvalue]
    cases p.filterColumn.bind schema.resolve? <;> rfl
  · rw [bind_of_all hcolumn fun _ => of_decide_eq_true]

theorem filterCondition?_without (h : gone .filter = true → fails p schema .filter = true) :
    filterCondition? (without p gone) schema = filterCondition? p schema := by
  cases hg : gone .filter with
  | true =>
    rw [filterCondition?_of_fails (h hg), filterCondition?, without, hg]
    rfl
  | false =>
    rw [filterCondition?, filterCondition?, without, hg]
    rfl

/-- What restricts nothing resolves to no window on any day. -/
theorem resolveWindow?_of_restrictsNothing {token : String} (today : Calendar.Date)
    (h : restrictsNothing token = true) : Calendar.resolveWindow? token today = none := by
  unfold restrictsNothing at h
  unfold Calendar.resolveWindow?
  generalize Calendar.Period.parse token = parsed at h
  cases parsed with
  | error fault => rfl
  | ok period =>
    obtain rfl : period = .allTime := of_decide_eq_true h
    rfl

theorem conditions_without (hfilter : gone .filter = true → fails p schema .filter = true)
    (hperiod : gone .timePeriod = true → fails p schema .timePeriod = true)
    (today : Calendar.Date) :
    conditions (without p gone) schema today = conditions p schema today := by
  have hwindow : ((without p gone).timePeriod.bind fun token =>
      Calendar.resolveWindow? token today) =
        p.timePeriod.bind fun token => Calendar.resolveWindow? token today :=
    bind_of_gone fun hgone =>
      bind_of_all (hperiod hgone) fun _ => resolveWindow?_of_restrictsNothing today
  rw [conditions, conditions, hwindow, filterCondition?_without hfilter]

/-- An order follows the words for the y-axis only where these have found the measure. -/
theorem orderName?_without (hy : gone .yAxis = true → fails p schema .yAxis = true)
    (hsort : gone .sortBy = true → fails p schema .sortBy = true) (x : Option String) :
    orderName? (without p gone) schema (measure? p schema) (measureName? (measure? p schema) x) =
      orderName? p schema (measure? p schema) (measureName? (measure? p schema) x) := by
  have hwords : orderName? (without p gone) schema (measure? p schema)
      (measureName? (measure? p schema) x) =
        orderName? { p with sortBy := (without p gone).sortBy } schema (measure? p schema)
          (measureName? (measure? p schema) x) := by
    cases hg : gone .yAxis with
    | true =>
      rw [measure?_of_fails (hy hg)]
      unfold orderName? measureName?
      cases p.yAxis <;> cases (without p gone).yAxis <;> rfl
    | false =>
      rw [orderName?, without, hg]
      rfl
  rw [hwords]
  refine bind_of_gone fun hgone => bind_of_all (hsort hgone) fun s hs => ?_
  split at hs
  · rename_i hrevenue
    rw [if_pos hrevenue, if_neg (of_decide_eq_true hs)]
  · rename_i hrevenue
    rw [if_neg hrevenue, of_decide_eq_true hs]
    rfl

/-! ## The whole query -/

section

variable (hgone : ∀ r, gone r = true → fails p schema r = true)

include hgone

theorem isRefused_without (shape : Shape) :
    isRefused (without p gone) schema shape = isRefused p schema shape := by
  rw [isRefused, isRefused, category?_without (hgone .xAxis), measure?_without (hgone .yAxis)]

theorem orderTarget?_without (shape : Shape) :
    orderTarget? (without p gone) schema shape = orderTarget? p schema shape := by
  unfold orderTarget?
  dsimp only
  rw [category?_without (hgone .xAxis), measure?_without (hgone .yAxis),
    orderName?_without (hgone .yAxis) (hgone .sortBy)]

theorem compiled_without (today : Calendar.Date) (shape : Shape) :
    compiled (without p gone) schema today shape = compiled p schema today shape := by
  unfold compiled
  dsimp only
  rw [category?_without (hgone .xAxis), measure?_without (hgone .yAxis),
    orderTarget?_without hgone, conditions_without (hgone .filter) (hgone .timePeriod)]
  rfl

end

variable (p schema) in
/-- **A role that fails is as good as absent.** Whichever of its failing roles are taken out of a
set, all of them included, it compiles to the same query as before, or is refused as before: a
failure in one role never changes what another is compiled to. -/
theorem compile_without (chosen : Role → Bool) (today : Calendar.Date) (shape : Shape) :
    (compile (without p fun r => chosen r && fails p schema r) schema today shape).toOption =
      (compile p schema today shape).toOption := by
  have hgone : ∀ r, (chosen r && fails p schema r) = true → fails p schema r = true :=
    fun r h => (Bool.and_eq_true_iff.1 h).2
  rw [compile, compile, isRefused_without hgone, compiled_without hgone]
  -- the message of a refusal names the axes as they were asked for
  split <;> rfl

end SalesLedger.Query

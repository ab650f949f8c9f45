import SalesLedger.Insight.Pipeline
import SalesLedger.Proofs.GroupMeasures
import SalesLedger.Proofs.WholeRows

/-!
# No data

What is answered where no sale meets the conditions of a question: `answered_of_none`. Whatever has
rows or groups to answer with has none. Only the revenue of all sales is a row by itself; over no
sales it is null, and that row counts as data.

* `units_of_none`: without rows there is a group only where all rows are one.
* `isTotal_compiled_iff`: which questions ask for such a group.
* `generatorPrompts_of_plan`: what the answering model is handed for a plan.
-/

namespace SalesLedger

open Storage Sql Ledger

namespace Sql.Select

variable {s : Select} {t : Table}

/-! ## Answers from no rows -/

/-- All rows are one group, be there any or none. -/
def isTotal (s : Select) : Bool := s.isSummary && s.groupBy.isNone

/-- **Without rows there is a group only where all rows are one.** -/
theorem units_of_none (h : s.taken t = []) : s.units t = if s.isTotal then [[]] else [] := by
  have horder : ∀ (d : SortOrder) (key : Row → Cell), order d key [] = [] := by
    intro d key
    rw [order_eq, List.mergeSort_nil]
  unfold units isTotal groups
  rw [h]
  cases s.isSummary with
  | false => rfl
  | true =>
    cases s.groupBy with
    | none => rfl
    | some group =>
      dsimp only
      rw [horder, ite_self]
      rfl

theorem capped_singleton {α : Type} (s : Select) (x : α) :
    s.capped [x] = if s.limit = some 0 then [] else [x] := by
  unfold capped
  cases s.limit with
  | none => rfl
  | some n => cases n <;> simp

theorem capped_nil {α : Type} (s : Select) : s.capped ([] : List α) = [] := by
  unfold capped
  split
  · exact List.take_nil
  · rfl

/-- Without groups there are no rows. -/
theorem rows_of_no_units (h : s.units t = []) : s.rows t = .ok [] := by
  cases hgroups : s.inGroupOrder t with
  | true =>
    rw [rows_of_groupOrder hgroups, h, capped_nil]
    rfl
  | false =>
    rw [rows_of_otherOrder hgroups, h]
    split
    · rfl
    · show Except.ok ((s.capped (order s.direction Answered.key [])).map Answered.cells) = _
      rw [order_eq, List.mergeSort_nil, capped_nil]
      rfl

/-- One group is one row, unless the cap leaves it out. -/
theorem rows_of_one_unit {unit : List Row} {cells : List Cell} (h : s.units t = [unit])
    (hcells : s.cellsOf t unit = .ok cells) :
    s.rows t = .ok (if s.limit = some 0 then [] else [cells]) := by
  cases hgroups : s.inGroupOrder t with
  | true =>
    rw [rows_of_groupOrder hgroups, h, capped_singleton]
    split
    · rfl
    · exact mapM_ok_cons hcells rfl
  | false =>
    rw [rows_of_otherOrder hgroups, h]
    split
    · rfl
    · rename_i hlimit
      have hanswer := map_answer s t unit
      rw [hcells] at hanswer
      cases ha : s.answer t unit with
      | error f =>
        rw [ha] at hanswer
        cases hanswer
      | ok a =>
        rw [ha] at hanswer
        obtain rfl := Except.ok.inj hanswer
        rw [mapM_ok_cons ha rfl]
        show Except.ok ((s.capped (order s.direction Answered.key [a])).map Answered.cells) = _
        rw [order_eq, List.mergeSort_singleton, capped_singleton, if_neg hlimit]
        rfl

end Sql.Select

namespace Query

variable {p : ParameterSet} {schema : Schema} {sales : List Sale} {s : Select}

theorem taken_of_none (h : passing s sales = []) : s.taken (ofSales sales) = [] := by
  have hcells := taken_ofSales s sales
  rw [h] at hcells
  exact List.map_eq_nil_iff.1 hcells

/-- **Only the revenue without a category is summed up over all rows.** -/
theorem isTotal_compiled_iff (p : ParameterSet) (schema : Schema) (today : Calendar.Date) :
    (compiled p schema today .lenient).select.isTotal = true ↔
      category? p schema = none ∧ measure? p schema = some .revenue := by
  unfold compiled Select.isTotal Select.isSummary
  dsimp only
  cases measure? p schema with
  | none => simp [outputs?, groupBy?]
  | some m =>
    cases m with
    | revenue =>
      cases category? p schema <;> simp [outputs?, groupBy?, revenueOutput, Selection.isAggregate]
    | column y =>
      cases category? p schema with
      | none => simp [outputs?, groupBy?]
      | some x =>
        cases h : aggregateOf p.aggregation <;>
          simp [outputs?, groupBy?, plainOutput, Selection.isAggregate, h]

/-- A question for the revenue of all sales that are left in, in one row. -/
def IsForTotal (p : ParameterSet) (schema : Schema) : Prop :=
  schema.columns ≠ [] ∧ category? p schema = none ∧ measure? p schema = some .revenue ∧
    p.limit ≠ some 0

instance (p : ParameterSet) (schema : Schema) : Decidable (IsForTotal p schema) :=
  inferInstanceAs (Decidable (schema.columns ≠ [] ∧ category? p schema = none ∧
    measure? p schema = some .revenue ∧ p.limit ≠ some 0))

/-- What is answered where no sale is left in. -/
def answerOfNone (p : ParameterSet) (schema : Schema) : List Json.Fields :=
  if IsForTotal p schema then [[(totalSales, .null)]] else []

theorem answerColumns_of_total (hx : category? p schema = none)
    (hm : measure? p schema = some .revenue) (today : Calendar.Date) (t : Table) :
    (compiled p schema today .lenient).select.answerColumns t = [revenueOutput] := by
  unfold Select.answerColumns compiled
  rw [hx, hm]
  rfl

/-- **The engine's answer where no sale is left in.** -/
theorem run_of_none {today : Calendar.Date} (hcolumns : schema.columns ≠ [])
    (h : passing (compiled p schema today .lenient).select sales = []) :
    (compiled p schema today .lenient).select.run (ofSales sales) =
      .ok (answerOfNone p schema) := by
  have hunits := Select.units_of_none (taken_of_none h)
  unfold Select.run answerOfNone
  cases htotal : (compiled p schema today .lenient).select.isTotal with
  | false =>
    have hnot : ¬ IsForTotal p schema := by
      rintro ⟨-, hx, hm, -⟩
      rw [(isTotal_compiled_iff p schema today).2 ⟨hx, hm⟩] at htotal
      cases htotal
    rw [htotal] at hunits
    rw [Select.rows_of_no_units hunits, if_neg hnot]
    rfl
  | true =>
    obtain ⟨hx, hm⟩ := (isTotal_compiled_iff p schema today).1 htotal
    have hanswer := answerColumns_of_total hx hm today (ofSales sales)
    -- the sum over no sales
    have hcells : (compiled p schema today .lenient).select.cellsOf (ofSales sales) [] =
        .ok [.null] := by
      unfold Select.cellsOf
      rw [hanswer]
      rfl
    have hlimit : (compiled p schema today .lenient).select.limit = p.limit := rfl
    rw [htotal] at hunits
    rw [Select.rows_of_one_unit hunits hcells, hanswer, hlimit]
    by_cases hzero : p.limit = some 0
    · have hnot : ¬ IsForTotal p schema := fun hfor => hfor.2.2.2 hzero
      rw [if_pos hzero, if_neg hnot]
      rfl
    · have hfor : IsForTotal p schema := ⟨hcolumns, hx, hm, hzero⟩
      rw [if_neg hzero, if_pos hfor]
      rfl

end Query

namespace Insight

open Query

/-- **What the answering model is handed for a plan**: the rows of an analysis, or word that there
are none. -/
theorem generatorPrompts_of_plan {config : Config} {d : Disk} {t : Tenant} {today : Calendar.Date}
    {planner : Model} {question text block : String} {plan : Json}
    (hexists : Store.ledgerExists config d t = true)
    (htext : planner (Prompt.planner question) = .ok text)
    (hblock : jsonBlock? (Text.trim text) = some block) (hplan : Json.parse block = .ok plan)
    (generator : Model) :
    (ask config d today t planner generator question).generatorPrompts =
      [Prompt.answer question (dataFor config d today t (planned plan))] := by
  have hgather : gather config d today t (planner (Prompt.planner question)) =
      .ok (some (dataFor config d today t (planned plan))) := by
    unfold gather
    rw [htext]
    simp only [bind, Except.bind, hblock, hplan]
    rfl
  unfold ask
  rw [if_pos hexists]
  dsimp only
  rw [hgather]
  dsimp only
  split <;> rfl

/-- What the answering model is told where no sale is left in. -/
def dataOfNone (p : ParameterSet) (schema : Schema) : String :=
  if IsForTotal p schema then Json.compact (.array [.object [(totalSales, .null)]]) else noData

theorem dataFor_of_none {config : Config} {d : Disk} {t : Tenant} {today : Calendar.Date}
    {p : ParameterSet} {schema : Schema} (hempty : p.isEmpty = false)
    (h : Service.analysis config d today t p = answerOfNone p schema) :
    dataFor config d today t p = dataOfNone p schema := by
  unfold dataFor dataOfNone
  rw [hempty, if_neg Bool.false_ne_true, h, answerOfNone]
  by_cases hfor : IsForTotal p schema
  · rw [if_pos hfor, if_pos hfor]
    rfl
  · rw [if_neg hfor, if_neg hfor]

end Insight

namespace Service

open Query History Insight

/-- **What is answered where no sale is left in.** After any run of operations, an analysis that no
sale meets the conditions of has no rows, and the answering model is told that there is no data.
Only a question for the revenue of all sales is answered with a row, in which the revenue is
null. -/
theorem answered_of_none {config : Config} {d₀ : Disk} (h : Begins config d₀) (steps : List Step)
    (t : Tenant) :
    ∃ landed, ((history config d₀ steps).filter Event.succeeded).Sublist landed ∧
      landed.Sublist (history config d₀ steps) ∧
      ∀ (today : Calendar.Date) (p : ParameterSet),
        (∀ sale ∈ landed.flatMap (Event.batch t),
          (conditions p ⟨Sale.columns⟩ today).all sale.meets = false) →
        analysis config (after config d₀ steps) today t p =
          answerOfNone p (Store.schema config (after config d₀ steps) t) ∧
        ∀ (planner generator : Model) (question text block : String) (plan : Json),
          Store.ledgerExists config (after config d₀ steps) t = true →
          planner (Prompt.planner question) = .ok text →
          jsonBlock? (Text.trim text) = some block → Json.parse block = .ok plan →
          planned plan = p → p.isEmpty = false →
          (ask config (after config d₀ steps) today t planner generator question).generatorPrompts =
            [Prompt.answer question
              (dataOfNone p (Store.schema config (after config d₀ steps) t))] := by
  obtain ⟨landed, hok, hlanded, hheld⟩ := exists_landed h steps
  refine ⟨landed, hok, hlanded, fun today p hnone => ?_⟩
  have hledger := hheld t
  generalize after config d₀ steps = d at *
  generalize landed.flatMap (Event.batch t) = sales at *
  have hanalysis : analysis config d today t p = answerOfNone p (Store.schema config d t) := by
    by_cases hcolumns : (Store.schema config d t).columns = []
    · rw [analysis_of_no_columns h.directory hledger hcolumns, answerOfNone,
        if_neg fun hfor : IsForTotal p (Store.schema config d t) => hfor.1 hcolumns]
    · obtain ⟨-, hschema, -⟩ := Store.rows_of_held h.directory hledger hcolumns
      have hpassing : passing (compiled p (Store.schema config d t) today .lenient).select sales =
          [] := by
        rw [passing_compiled, hschema]
        refine List.filter_eq_nil_iff.2 fun sale hsale => ?_
        rw [hnone sale hsale]
        exact Bool.false_ne_true
      unfold analysis
      rw [fetch_of_held h.directory hledger hcolumns rfl, run_of_none hcolumns hpassing]
      show (answerOfNone p (Store.schema config d t)).map Presentation.normalizeRow = _
      unfold answerOfNone
      split <;> rfl
  refine ⟨hanalysis, ?_⟩
  intro planner generator question text block plan hexists htext hblock hplan hp hempty
  rw [generatorPrompts_of_plan hexists htext hblock hplan, hp, dataFor_of_none hempty hanalysis]

/-- The question how much was earned with sugar, as a planner puts it. -/
def sugarPlan : String :=
  "\x7b\"data_parameters\": \x7b\"y_axis\": \"total_sales\", \"filter_column\": \"item\", " ++
    "\"filter_value\": \"Sugar\"\x7d\x7d"

def sugarTotal : ParameterSet where
  xAxis := none
  yAxis := some "total_sales"
  aggregation := .none
  filterColumn := some "item"
  filterValue := some (.text "Sugar")
  sortBy := none
  sortOrder := .descending
  limit := none
  timePeriod := none

theorem parse_sugarPlan : ∃ plan, Json.parse sugarPlan = .ok plan ∧ planned plan = sugarTotal := by
  have hplanned : (Json.parse sugarPlan).toOption.map planned = some sugarTotal := by decide +kernel
  cases hparse : Json.parse sugarPlan with
  | error e =>
    rw [hparse] at hplanned
    cases hplanned
  | ok plan =>
    rw [hparse] at hplanned
    exact ⟨plan, rfl, Option.some.inj hplanned⟩

/-- Nothing was earned with sugar, and the answering model is handed a null for it. -/
theorem answered_of_none_sugarTotal :
    analysis shop oilThenRice marketDay vendor sugarTotal = [[("total_sales", .null)]] ∧
      (ask shop oilThenRice marketDay vendor (fun _ => .ok sugarPlan) (fun _ => .ok "")
        "How much sugar?").generatorPrompts =
          [Prompt.answer "How much sugar?" "[\x7b\"total_sales\":null\x7d]"] := by
  obtain ⟨landed, hok, hlanded, hnone⟩ := answered_of_none begins_blank
    [⟨.record vendor [oil, rice], []⟩] vendor
  rw [landed_oilThenRice hok hlanded, schema_oilThenRice] at hnone
  have hfor : IsForTotal sugarTotal ⟨Sale.columns⟩ := by decide +kernel
  have hcompact : Json.compact (.array [.object [(totalSales, .null)]]) =
      "[\x7b\"total_sales\":null\x7d]" := by decide +kernel
  have hexists : Store.ledgerExists shop oilThenRice vendor = true :=
    (Store.rows_of_held begins_blank.directory read_oilThenRice.1
      (read_oilThenRice.2 ▸ hfor.1)).1
  have hblock : jsonBlock? (Text.trim sugarPlan) = some sugarPlan := by decide +kernel
  obtain ⟨plan, hparse, hplanned⟩ := parse_sugarPlan
  obtain ⟨hanalysis, hask⟩ := hnone marketDay sugarTotal (by decide +kernel)
  have hprompts := hask (fun _ => .ok sugarPlan) (fun _ => .ok "") "How much sugar?" sugarPlan
    sugarPlan plan hexists rfl hblock hparse hplanned (by decide +kernel)
  rw [answerOfNone, if_pos hfor] at hanalysis
  rw [dataOfNone, if_pos hfor, hcompact] at hprompts
  exact ⟨hanalysis, hprompts⟩

end Service

end SalesLedger

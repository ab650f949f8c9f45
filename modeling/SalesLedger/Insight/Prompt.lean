import SalesLedger.Ledger

/-!
# Prompts

The two texts that a language model is given: one asks which data a question needs, the other asks
for an answer from the data.
-/

namespace SalesLedger.Insight.Prompt

/-- A text of several lines. -/
def lines (ls : List String) : String :=
  "\n".intercalate ls

/-- What the model is told about a ledger. -/
def schemaDescription : String :=
  lines [
    "Table Name: " ++ Ledger.table,
    "",
    "Columns:",
    "- item (TEXT): The name of the product.",
    "- price (REAL): The price of a single item.",
    "- quantity_in_stock (INTEGER): The current quantity of the item available in stock.",
    "- quantity_sold (INTEGER): The number of units of the item sold in a transaction.",
    "- sale_date (TEXT, format YYYY-MM-DD): The date when the sale occurred."]

/-- The parameters that the model may choose. -/
def parameterShape : String :=
  lines [
    "\x7b",
    "  \"x_axis\": \"column_name_for_x_axis\",",
    "  \"y_axis\": \"column_name_for_y_axis or total_sales\",",
    "  \"aggregation\": \"sum\" | \"count\" | \"average\" | \"none\",",
    "  \"filter_column\": \"column_name_to_filter\",",
    "  \"filter_value\": \"value_to_filter_by\",",
    "  \"sort_by\": \"column_name_to_sort\",",
    "  \"sort_order\": \"asc\" | \"desc\",",
    "  \"limit\": 5,",
    "  \"time_period\": \"this_month\" | \"last_month\" | \"this_quarter\" | \"last_quarter\" | "
      ++ "\"ytd\" | \"all_time\" | \"YYYY-MM-DD to YYYY-MM-DD\"",
    "\x7d"]

/-- The prompt that asks which data a question needs, up to the question. -/
def plannerHead : String :=
  lines [
    "You are a data analyst assistant for a small retail shop. Identify the exact data needed from "
      ++ "the database to answer the user's question.",
    "",
    "OUTPUT: a single JSON object, no other text, with a key \"data_parameters\" shaped like:",
    parameterShape,
    "",
    "RULES:",
    "- Only include parameters the question needs. Omit aggregation and filters when none are "
      ++ "implied.",
    "- Use y_axis \"total_sales\" for revenue (price * quantity_sold).",
    "- Infer time_period from the question.",
    "- If no specific data retrieval applies, return an empty \"data_parameters\" object.",
    "",
    "DATABASE SCHEMA:",
    schemaDescription,
    "",
    "User Question: "]

/-- The prompt that asks which data a question needs. -/
def planner (question : String) : String :=
  plannerHead ++ question

/-- The prompt that asks for an answer, up to the data. -/
def answerHead : String :=
  lines [
    "You are a data analyst and business consultant for small retail shops in Nepal. Analyze the "
      ++ "sales data below and answer the question with an executive-level insight and a chart "
      ++ "description.",
    "",
    "If the question is asked in Nepali, reply in Nepali for the \"insight\" field. Keep "
      ++ "small-business context in mind.",
    "",
    "OUTPUT: a single JSON object, no other text:",
    "\x7b",
    "  \"insight\": \"textual insight\",",
    "  \"chart\": \x7b",
    "    \"type\": \"none\" | \"bar_chart\" | \"line_chart\" | \"pie_chart\",",
    "    \"data_parameters\": " ++ parameterShape,
    "  \x7d",
    "\x7d",
    "",
    "Set \"chart.type\" to \"none\" when no visualization applies or data is insufficient. For "
      ++ "pie_chart, x_axis is the category and y_axis the value.",
    "",
    "SALES DATA:",
    ""]

/-- The prompt that asks for an answer to a question from data. -/
def answer (question data : String) : String :=
  answerHead ++ data ++ "\n\nQuestion: " ++ question

end SalesLedger.Insight.Prompt

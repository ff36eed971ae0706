import ExamPress.Text.Basic

/-! # Prompts

What a model is asked to do with the uploads, for each kind of file that is made of its answer. -/

namespace ExamPress

/-- The kind of file that is made: a Word document or a workbook. -/
inductive OutputFormat where
  | document
  | workbook
deriving DecidableEq, Repr

namespace OutputFormat

/-- The word for a format. -/
def word : OutputFormat → String
  | document => "docx"
  | workbook => "excel"

/-- The format of a word. -/
def ofWord? (word : Text) : Option OutputFormat :=
  [document, workbook].find? fun format => format.word.toText = word

/-- The lines of the prompt for a Word document. -/
def documentPrompt : List String := [
  "You are an expert Math assistant. Your task is to extract questions and mathematical " ++
    "equations entirely and accurately from the provided images of question papers.",
  "",
  "Rules:",
  "1. Extract all text exactly as it appears.",
  "2. For mathematical equations, represent them in standard LaTeX format enclosed in single " ++
    "dollar signs like $E = mc^2$.",
  "   - USE standard LaTeX commands: \\frac\x7ba\x7d\x7bb\x7d, x^2, x_i, \\sqrt\x7bx\x7d, etc.",
  "   - Do NOT use double dollar signs $$.",
  "3. For fractions, ALWAYS use \\frac\x7bnumerator\x7d\x7bdenominator\x7d.",
  "4. Maintain the question structure/numbering. Mark section headers with a leading \"## \".",
  "5. Do NOT output markdown code fences. Just raw text."]

/-- The lines of the prompt for a workbook. -/
def workbookPrompt : List String := [
  "You are an expert Data Entry assistant. Your task is to extract tabular data and text from " ++
    "provided images into a structured JSON format.",
  "",
  "Rules:",
  "1. Identify tables, lists, or structured data in the image.",
  "2. Extract the content into a JSON array of arrays, representing rows and columns.",
  "   Example: [ [\"Header 1\", \"Header 2\"], [\"Row 1 Col 1\", \"Row 1 Col 2\"] ]",
  "3. Do NOT include complex mathematical equations. If minor math is present, treat it as " ++
    "plain text.",
  "4. If there is no clear table, try to structure the text logically into rows.",
  "5. Do NOT output markdown code fences. Just raw JSON."]

/-- The lines of the prompt for a format. -/
def promptLines : OutputFormat → List String
  | document => documentPrompt
  | workbook => workbookPrompt

/-- The prompt for a format. Each of its lines is ended. -/
def prompt (format : OutputFormat) : Text :=
  format.promptLines.flatMap fun line => line.toText ++ "\n".toText

end OutputFormat

end ExamPress

import ExamPress.Schema.Check

/-! # Settings

The settings of the model server and of the documents, their defaults, and their form as JSON. A
setting that is not given has its default; other names are ignored. -/

namespace ExamPress

/-- How the model server is reached. The models are tried in order. -/
structure ServerSettings where
  apiKey : Option Text := none
  baseUrl : Text := "https://generativelanguage.googleapis.com/v1beta".toText
  models : List Text :=
    ["gemini-2.5-flash".toText, "gemini-2.5-pro".toText, "gemini-2.0-flash".toText]
  timeout : Double := .ofInt 120
deriving Repr

/-- The names of files for which no name is given. -/
structure FileSettings where
  documentName : Text := "Math_Questions".toText
  tableName : Text := "Converted Data".toText
deriving Repr

/-- All settings. -/
structure Settings where
  server : ServerSettings := {}
  files : FileSettings := {}
deriving Repr

open Schema

/-- The settings of the model server from their JSON form. -/
def ServerSettings.ofJson : Json → Checked ServerSettings :=
  fields "GeminiSettings" fun entries =>
    let default : ServerSettings := {}
    (field entries "api_key" default.apiKey (optional text)).both
      ((field entries "base_url" default.baseUrl text).both
        ((field entries "models" default.models (list text)).both
          (field entries "timeout" default.timeout number)))
    |>.map fun (apiKey, baseUrl, models, timeout) => { apiKey, baseUrl, models, timeout }

/-- The names of files from their JSON form. -/
def FileSettings.ofJson : Json → Checked FileSettings :=
  fields "DocumentSettings" fun entries =>
    let default : FileSettings := {}
    (field entries "default_file_name" default.documentName text).both
      (field entries "default_table_name" default.tableName text)
    |>.map fun (documentName, tableName) => { documentName, tableName }

/-- All settings from their JSON form. -/
def Settings.ofJson : Json → Checked Settings :=
  fields "Settings" fun entries =>
    (field entries "gemini" {} ServerSettings.ofJson).both
      (field entries "document" {} FileSettings.ofJson)
    |>.map fun (server, files) => { server, files }

/-- The JSON form of the settings. -/
def Settings.toJson (s : Settings) : Json :=
  .obj [
    ("gemini".toText, .obj [
      ("api_key".toText, (s.server.apiKey.map Json.str).getD .null),
      ("base_url".toText, .str s.server.baseUrl),
      ("models".toText, .arr (s.server.models.map Json.str)),
      ("timeout".toText, .float s.server.timeout)]),
    ("document".toText, .obj [
      ("default_file_name".toText, .str s.files.documentName),
      ("default_table_name".toText, .str s.files.tableName)])]

/-- The settings with the key of the environment, if it is set and not empty. -/
def Settings.withKey (s : Settings) (key : Option Text) : Settings :=
  match key with
  | some (c :: rest) => { s with server := { s.server with apiKey := some (c :: rest) } }
  | _ => s

end ExamPress

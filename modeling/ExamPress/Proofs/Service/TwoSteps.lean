import ExamPress.Proofs.Extraction.Fallback
import ExamPress.Service.Handler

/-! # Converting in one step and in two

A product of uploads is made in one step, or in two: the text is extracted first, and the product is
made of the text. Both ways end alike (`convert_eq_twoSteps`), because a text that is extracted is
never blank. Only a text without a UTF-8 form can not be sent between the two steps; then the first
one breaks down, while a conversion may answer (`convert_ne_twoSteps`). -/

namespace ExamPress.Service

open Schema

/-! ### Requests to endpoints -/

/-- Whether a request asks an endpoint by its method and its path. -/
structure Request.Asks (r : Request) (e : Endpoint) : Prop where
  method : r.method = e.method.toText
  place : r.place = .ok e.path.toText

/-- What a handling becomes when its response is sent back. -/
def Handling.sent (r : Request) (h : Handling) : Handling :=
  ⟨h.requests, h.result.bind fun response => response.check.map (Response.forOrigin r)⟩

theorem ofPath_path (e : Endpoint) : Endpoint.ofPath? e.path.toText = some e := by
  cases e <;> decide

theorem preflight_eq_none {r : Request} {e : Endpoint} (h : r.method = e.method.toText) :
    preflight? r = none := by
  have other : e.method.toText ≠ "OPTIONS".toText := by cases e <;> decide
  unfold preflight?
  rw [h]
  split
  · exact if_neg other
  · rfl

theorem handle_eq {r : Request} {e : Endpoint} (h : r.Asks e) (settings : Settings)
    (server : Exchange.Server) :
    handle settings server r = (e.handle settings server r).sent r := by
  simp only [handle, h.place, preflight_eq_none h.method, route, ofPath_path, if_pos h.method]
  rfl

theorem sent_congr {r r' : Request} (origin : r.header? "origin" = r'.header? "origin") :
    Handling.sent r = Handling.sent r' := by
  funext h
  have same : Response.forOrigin r = Response.forOrigin r' := by
    funext response
    rw [Response.forOrigin, origin, Response.forOrigin]
  rw [Handling.sent, same, Handling.sent]

theorem status_check {response response' : Response} (h : response.check = .ok response') :
    response'.status = response.status := by
  unfold Response.check at h
  split at h
  · dsimp only at h
    split at h
    · cases h
    · obtain ⟨_, -, h⟩ := bind_eq_ok.mp h
      rw [← pure_eq_ok.mp h]
  · cases h
    rfl

theorem status_forOrigin (r : Request) (response : Response) :
    (response.forOrigin r).status = response.status := by
  unfold Response.forOrigin
  split <;> rfl

theorem status_of_sent {r : Request} {h : Handling} {response : Response}
    (hr : (h.sent r).result = .ok response) :
    ∃ response', h.result = .ok response' ∧ response.status = response'.status := by
  obtain ⟨response', hr', hs⟩ := bind_eq_ok.mp hr
  obtain ⟨checked, hc, rfl⟩ := map_eq_ok.mp hs
  exact ⟨response', hr', (status_forOrigin r checked).trans (status_check hc)⟩

/-! ### Texts with a UTF-8 form -/

/-- Whether a text has a UTF-8 form. -/
def HasUtf8Form (s : Text) : Prop := ∀ c ∈ s, c.isSurrogate = false

theorem check_of_hasUtf8Form {s : Text} (h : HasUtf8Form s) : Text.Utf8.check s = .ok s :=
  Text.Repertoire.check_eq_ok_iff.mpr
    ⟨rfl, List.all_eq_true.mpr fun c hc => by simp [Text.Repertoire.contains, h c hc]⟩

theorem hasUtf8Form_toText (s : String) : HasUtf8Form s.toText := by
  simp [HasUtf8Form, String.toText, CodePoint.isSurrogate]

theorem HasUtf8Form.append {s t : Text} (hs : HasUtf8Form s) (ht : HasUtf8Form t) :
    HasUtf8Form (s ++ t) :=
  List.forall_mem_append.mpr ⟨hs, ht⟩

theorem HasUtf8Form.cons {c : CodePoint} {s : Text} (hc : c.isSurrogate = false)
    (hs : HasUtf8Form s) : HasUtf8Form (c :: s) :=
  List.forall_mem_cons.mpr ⟨hc, hs⟩

theorem hasUtf8Form_escape {c : CodePoint} (h : c.isSurrogate = false) :
    HasUtf8Form (Json.escape c) := by
  have number : HasUtf8Form (Text.Quoted.hex 4 c.toNat) := fun d hd => by
    obtain ⟨digit, -, rfl⟩ := List.mem_map.mp hd
    rfl
  unfold Json.escape
  split_ifs
  all_goals first
    | exact hasUtf8Form_toText _
    | exact .cons rfl (.cons rfl number)
    | exact List.forall_mem_singleton.mpr h

theorem hasUtf8Form_writeText {s : Text} (h : HasUtf8Form s) : HasUtf8Form (Json.writeText s) := by
  refine .cons rfl (.append (fun d hd => ?_) (hasUtf8Form_toText _))
  obtain ⟨c, hc, hd⟩ := List.mem_flatMap.mp hd
  exact hasUtf8Form_escape (h c hc) d hd

/-- The body of the answer with an extracted text. -/
def textBody (format : OutputFormat) (text : Text) : ResponseBody :=
  .json (.obj [("text".toText, .str text), ("format".toText, .str format.word.toText)])

theorem hasUtf8Form_textFields {text : Text} (h : HasUtf8Form text) (word : String) :
    HasUtf8Form (Json.obj [("text".toText, .str text),
      ("format".toText, .str word.toText)]).writeCompact := by
  have plain (s : String) : HasUtf8Form (Json.writeText s.toText) :=
    hasUtf8Form_writeText (hasUtf8Form_toText s)
  have colon := hasUtf8Form_toText ":"
  have fields : (Json.obj [("text".toText, .str text),
      ("format".toText, .str word.toText)]).writeCompact =
        "\x7b".toText ++ (Json.writeText "text".toText ++ ":".toText ++ Json.writeText text ++
          ",".toText ++ (Json.writeText "format".toText ++ ":".toText ++
            Json.writeText word.toText) ++ "\x7d".toText) := rfl
  rw [fields]
  exact .append (hasUtf8Form_toText _) (.append (.append (.append
    (.append (.append (plain _) colon) (hasUtf8Form_writeText h)) (hasUtf8Form_toText _))
    (.append (.append (plain _) colon) (plain _))) (hasUtf8Form_toText _))

theorem textResponse_eq {text : Text} (h : HasUtf8Form text) (format : OutputFormat) :
    textResponse format text = .ok ⟨200, [], textBody format text⟩ := by
  rw [textResponse, check_of_hasUtf8Form h]
  rfl

theorem check_textBody {text : Text} (h : HasUtf8Form text) (format : OutputFormat) :
    Response.check ⟨200, [], textBody format text⟩ = .ok ⟨200, [], textBody format text⟩ := by
  have written := check_of_hasUtf8Form (hasUtf8Form_textFields h format.word)
  have open' : ∀ s t : Text, withoutReserved (.obj [("text".toText, .str s),
      ("format".toText, .str t)]) = .obj [("text".toText, .str s), ("format".toText, .str t)] :=
    fun _ _ => rfl
  have finite : ∀ s t : Text, isFinite (.obj [("text".toText, .str s),
      ("format".toText, .str t)]) = true := fun _ _ => rfl
  simp only [Response.check, textBody, open', finite, written]
  rfl

/-! ### Submissions -/

/-- Two forms with the same uploads, for the same word of a format. -/
structure SameUploads (a b : Form) : Prop where
  files : a.values "files" = b.values "files"
  format : a.values "format" = b.values "format"

/-- With the same uploads a form makes the same submission, but for the name. -/
theorem ofForm_of_sameUploads {a b : Form} (same : SameUploads a b) (wanted : Option Text) :
    Submission.ofForm b (.ok wanted) =
      (Submission.ofForm a (.ok none)).map fun s => { s with fileName := wanted } := by
  have uploads : formUploads b = formUploads a := by rw [formUploads, ← same.files, formUploads]
  have word : formText b "format" = formText a "format" := by
    rw [formText, ← same.format, formText]
  have check (uploads : List Extraction.Upload) (word : Text) :
      Submission.check uploads word wanted =
        (Submission.check uploads word none).map fun s => { s with fileName := wanted } := by
    unfold Submission.check
    split
    · rfl
    · split <;> rfl
  rw [Submission.ofForm, Submission.ofForm, uploads, word]
  cases formUploads a <;> cases formText a "format" <;> simp only [Checked.both] <;>
    first | rfl | exact check _ _

theorem status_of_refused {form : Form} {wanted : Checked (Option Text)} {response : Response}
    (h : Submission.ofForm form wanted = .error response) : response.status ≠ 200 := by
  have bad : (400 : Nat) ≠ 200 := by decide
  unfold Submission.ofForm at h
  split at h
  · cases h
    exact (by decide : (422 : Nat) ≠ 200)
  · unfold Submission.check at h
    split at h
    · cases h
      exact bad
    · split at h
      · cases h
        exact bad
      · cases h

theorem status_of_extractionResult {problem : Extraction.Problem} {response : Response}
    (h : extractionResult problem = .ok response) : response.status ≠ 200 := by
  unfold extractionResult at h
  split at h
  · cases h
  · cases h
    exact (by decide : (502 : Nat) ≠ 200)

/-! ### Products -/

/-- The endpoint that makes the product of a format. -/
def generationEndpoint : OutputFormat → Endpoint
  | .document => .generateDocument
  | .workbook => .generateWorkbook

/-- The name that is asked for, unless it is empty. -/
def usableName (wanted : Option Text) : Option Text := wanted.filter fun name => !name.isEmpty

theorem fileName_usableName (wanted : Option Text) (default extension : Text) :
    Text.fileName (usableName wanted) default extension =
      Text.fileName wanted default extension := by
  rcases wanted with _ | _ | ⟨c, rest⟩ <;> rfl

theorem productResult_mapError {ε ε' : Type} (instead : ε' → Except Breakdown Response)
    (f : ε → ε') (result : Except ε Product) :
    productResult instead (result.mapError f) = productResult (fun e => instead (f e)) result := by
  cases result <;> rfl

/-- A product that is asked for by itself is the one that a conversion makes, if its text is not
blank. -/
theorem handle_generationEndpoint {r : Request} {g : Generation} (hg : r.generation = .ok g)
    (blank : Text.isAllBlank g.text = false) (settings : Settings) (server : Exchange.Server)
    (format : OutputFormat) :
    (generationEndpoint format).handle settings server r =
      ⟨[], productResult conversionResult
        (makeProduct settings.files format (usableName g.fileName) g.text).result⟩ := by
  cases format with
  | document =>
    have name : documentName settings.files (usableName g.fileName) =
        documentName settings.files g.fileName := fileName_usableName _ _ _
    simp only [generationEndpoint, Endpoint.handle, withGeneration, hg, handleDocument, blank,
      makeProduct, productResult_mapError, makeDocument, name]
    rfl
  | workbook =>
    have name : workbookName settings.files (usableName g.fileName) =
        workbookName settings.files g.fileName := fileName_usableName _ _ _
    simp only [generationEndpoint, Endpoint.handle, withGeneration, hg, handleWorkbook, makeProduct,
      productResult_mapError, makeWorkbook, name]
    rfl

section

variable {settings : Settings} {server : Exchange.Server} {uploads : List Extraction.Upload}
  {format : OutputFormat}

theorem requests_convert (wanted : Option Text) :
    (convert settings server uploads format wanted).requests =
      (Extraction.extract settings.server server uploads format).requests := by
  unfold convert
  dsimp only
  split <;> rfl

theorem convert_of_error {problem : Extraction.Problem}
    (h : (Extraction.extract settings.server server uploads format).result = .error problem)
    (wanted : Option Text) :
    (convert settings server uploads format wanted).result = .error (.extraction problem) := by
  simp only [convert, h]

theorem convert_of_ok {text : Text}
    (h : (Extraction.extract settings.server server uploads format).result = .ok text)
    (wanted : Option Text) :
    (convert settings server uploads format wanted).result =
      (makeProduct settings.files format wanted text).result := by
  simp only [convert, h]

end

/-! ### Both ways -/

/-- **Converting in one step and in two**, with the same uploads for the same format and from the
same origin, if the text that is extracted has a UTF-8 form. The same is sent to the model server.
If the extraction succeeds, it tells the format and the text, and a request for the product of this
text, under the same name, is answered as the conversion is; it sends nothing. Otherwise the
conversion ends as the extraction does. -/
theorem convert_eq_twoSteps {settings : Settings} {server : Exchange.Server}
    {first single : Request} (asks : first.Asks .extract) (asks' : single.Asks .convert)
    (origin : single.header? "origin" = first.header? "origin")
    {form form' : Form} (hform : first.form = .ok form) (hform' : single.form = .ok form')
    (same : SameUploads form form') {wanted : Option Text}
    (name : formText form' "file_name" = .ok wanted)
    (encodable : ∀ s text, Submission.ofForm form (.ok none) = .ok s →
      (Extraction.extract settings.server server s.uploads s.format).result = .ok text →
      HasUtf8Form text) :
    (handle settings server single).requests = (handle settings server first).requests ∧
    (∀ response, (handle settings server first).result = .ok response → response.status = 200 →
      ∃ format text, response.body = textBody format text ∧
        ∀ (other : Exchange.Server) (second : Request) (g : Generation),
          second.Asks (generationEndpoint format) →
          second.header? "origin" = first.header? "origin" →
          second.generation = .ok g → g.text = text → usableName g.fileName = wanted →
          handle settings other second = ⟨[], (handle settings server single).result⟩) ∧
    ((∀ response, (handle settings server first).result = .ok response → response.status ≠ 200) →
      (handle settings server single).result = (handle settings server first).result) := by
  rw [handle_eq asks, handle_eq asks', sent_congr origin]
  simp only [Endpoint.handle, withForm, hform, hform', handleConvert, handleExtract, name,
    ofForm_of_sameUploads same wanted]
  cases hs : Submission.ofForm form (.ok none) with
  | error refusal =>
    -- both ways are refused
    refine ⟨rfl, fun response hr success => ?_, fun _ => rfl⟩
    obtain ⟨response', h, status⟩ := status_of_sent hr
    cases h
    exact (status_of_refused hs (status.symm.trans success)).elim
  | ok s =>
    simp only [Except.map, requests_convert]
    cases ht : (Extraction.extract settings.server server s.uploads s.format).result with
    | error problem =>
      -- both ways end with the problem of the extraction
      simp only [convert_of_error ht]
      refine ⟨rfl, fun response hr success => ?_, fun _ => rfl⟩
      obtain ⟨response', h, status⟩ := status_of_sent hr
      exact (status_of_extractionResult h (status.symm.trans success)).elim
    | ok text =>
      have utf8 := encodable s text hs ht
      have sent : (Handling.sent first ⟨(Extraction.extract settings.server server s.uploads
          s.format).requests, textResponse s.format text⟩).result =
          .ok (Response.forOrigin first ⟨200, [], textBody s.format text⟩) := by
        rw [Handling.sent, textResponse_eq utf8]
        simp only [Except.bind, check_textBody utf8, Except.map]
      simp only [convert_of_ok ht]
      refine ⟨rfl, fun response hr _ => ?_, fun failed => ?_⟩
      · obtain rfl := Except.ok.inj (sent.symm.trans hr)
        refine ⟨s.format, text, ?_, fun other second g asks'' origin' hg htext hname => ?_⟩
        · unfold Response.forOrigin
          split <;> rfl
        · have blank : Text.isAllBlank g.text = false :=
            htext ▸ Extraction.not_blank_of_extract ht
          rw [handle_eq asks'', handle_generationEndpoint hg blank, sent_congr origin', hname,
            htext]
          rfl
      · exact (failed _ sent (status_forOrigin first _)).elim

/-! ### An upload -/

/-- A request with a form, to a path. -/
def formRequest (path : String) (form : Form) : Request where
  method := "POST".toText
  target := path.toText
  headers := [("content-type".toText, "multipart/form-data; boundary=b".toText)]
  body := Form.Multipart.write "b".toText form

/-- A form with an image. -/
def imageForm : Form :=
  [("files".toText, .file ⟨"p.png".toText, some "image/png".toText, [0]⟩)]

/-- The form with a name for the product. -/
def namedForm : Form := imageForm ++ [("file_name".toText, .text "Set 1".toText)]

/-- A request for the document of a text, under this name. -/
def documentRequest (text : String) : Request where
  method := "POST".toText
  target := "/generate-docx".toText
  headers := [("content-type".toText, "application/json".toText)]
  body := Text.Utf8.encode (Json.obj [("text".toText, .str text.toText),
    ("file_name".toText, .str "Set 1".toText)]).writeCompact

/-- The status of a response, and the two texts that it tells. -/
def Response.told (response : Response) : Nat × List Text :=
  (response.status,
    match response.body with
    | .json (.obj [(_, .str text), (_, .str word)]) => [text, word]
    | _ => [])

/-- Settings with three models. -/
def threeModelSettings : Settings := { server := Extraction.threeModels }

/-- Converting the image is making the document of its text. -/
theorem convert_eq_twoSteps_image :
    let server : Exchange.Server := fun _ => Extraction.goodReply
    handle threeModelSettings server (documentRequest "Q1") =
      ⟨[], (handle threeModelSettings server (formRequest "/convert" namedForm)).result⟩ := by
  intro server
  have asks : (formRequest "/extract" imageForm).Asks .extract := ⟨rfl, by decide +kernel⟩
  have asks' : (formRequest "/convert" namedForm).Asks .convert := ⟨rfl, by decide +kernel⟩
  have asks'' : (documentRequest "Q1").Asks (generationEndpoint .document) :=
    ⟨rfl, by decide +kernel⟩
  have form : (formRequest "/extract" imageForm).form = .ok imageForm :=
    toOption_eq_some.mp (by decide +kernel)
  have form' : (formRequest "/convert" namedForm).form = .ok namedForm :=
    toOption_eq_some.mp (by decide +kernel)
  have generation : (documentRequest "Q1").generation =
      .ok ⟨"Q1".toText, some "Set 1".toText⟩ := toOption_eq_some.mp (by decide +kernel)
  have submission : Submission.ofForm imageForm (.ok none) =
      .ok ⟨[⟨[0], "image/png".toText, "p.png".toText⟩], .document, none⟩ :=
    toOption_eq_some.mp (by decide +kernel)
  have text : (Extraction.extract threeModelSettings.server server
      [⟨[0], "image/png".toText, "p.png".toText⟩] .document).result = .ok "Q1".toText := by
    decide +kernel
  have told : (handle threeModelSettings server
      (formRequest "/extract" imageForm)).result.toOption.map Response.told =
        some (200, ["Q1".toText, "docx".toText]) := by
    decide +kernel
  have encodable : ∀ s text, Submission.ofForm imageForm (.ok none) = .ok s →
      (Extraction.extract threeModelSettings.server server s.uploads s.format).result = .ok text →
      HasUtf8Form text := fun s t hs ht => by
    obtain rfl := Except.ok.inj (submission.symm.trans hs)
    obtain rfl := Except.ok.inj (text.symm.trans ht)
    exact hasUtf8Form_toText "Q1"
  have origin : (formRequest "/convert" namedForm).header? "origin" =
      (formRequest "/extract" imageForm).header? "origin" := by decide
  have same : SameUploads imageForm namedForm := ⟨by decide, by decide⟩
  have name : formText namedForm "file_name" = .ok (some "Set 1".toText) := by decide
  have both := convert_eq_twoSteps asks asks' origin form form' same name encodable
  obtain ⟨response, hr, told⟩ := Option.map_eq_some_iff.mp told
  obtain ⟨format, t, body, generated⟩ :=
    both.2.1 response (toOption_eq_some.mp hr) (congrArg Prod.fst told)
  obtain ⟨rfl, word⟩ : t = "Q1".toText ∧ format.word.toText = "docx".toText := by
    have texts := congrArg Prod.snd told
    simp only [Response.told, body, textBody] at texts
    exact ⟨(List.cons.inj texts).1, (List.cons.inj (List.cons.inj texts).2).1⟩
  obtain rfl : format = .document := by
    cases format with
    | document => rfl
    | workbook => exact absurd word (by decide)
  exact generated server _ ⟨"Q1".toText, some "Set 1".toText⟩ asks'' (by decide) generation rfl rfl

/-! ### A text without a UTF-8 form -/

/-- A text without a UTF-8 form is extracted, but not answered. -/
theorem extract_breaksDown {settings : Settings} {server : Exchange.Server} {r : Request}
    (asks : r.Asks .extract) {form : Form} (hform : r.form = .ok form) {s : Submission}
    (hs : Submission.ofForm form (.ok none) = .ok s) {text : Text}
    (ht : (Extraction.extract settings.server server s.uploads s.format).result = .ok text)
    (surrogate : ¬ HasUtf8Form text) :
    ∃ fault, (handle settings server r).result = .error (.unserializable fault) := by
  rw [handle_eq asks]
  simp only [Endpoint.handle, withForm, hform, handleExtract, hs, ht, textResponse]
  cases hc : Text.Utf8.check text with
  | error fault => exact ⟨fault, rfl⟩
  | ok t =>
    have all := (Text.Repertoire.check_eq_ok_iff.mp hc).2
    refine (surrogate fun c hc => ?_).elim
    simpa [Text.Repertoire.contains] using List.all_eq_true.mp all c hc

/-- The extraction breaks down if models answer with half of a pair, and the conversion does not. -/
theorem convert_ne_twoSteps :
    let server : Exchange.Server := fun _ => Extraction.replyWith [.surrogate 0]
    let first := handle threeModelSettings server (formRequest "/extract" imageForm)
    let single := handle threeModelSettings server (formRequest "/convert" imageForm)
    (∀ response, first.result ≠ .ok response) ∧ single.result ≠ first.result := by
  intro server first single
  have broken : first.result.toOption.map Response.status = none := by decide +kernel
  have answered : single.result.toOption.map Response.status = some 500 := by decide +kernel
  refine ⟨fun response h => ?_, fun h => ?_⟩
  · rw [h] at broken
    cases broken
  · rw [h, broken] at answered
    cases answered

end ExamPress.Service

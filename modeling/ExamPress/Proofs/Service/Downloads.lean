import ExamPress.Proofs.Service.TwoSteps
import ExamPress.Proofs.Text.Escapes

/-! # Names of downloads

A product is answered as a download, and a header tells its name: the one that is asked for, or the
one of the settings if none or an empty one is, with the extension of the format at its end. The
header holds the name escaped by percent signs, so nothing in the name can end the header or begin
another one, and the name is read back from it (`names_download`). A name without a UTF-8 form has
no such header, and its request is left without a response (`unencodable_of_seeks`). -/

namespace ExamPress

/-! ### The name of a product -/

/-- The extension of the files of a format. -/
def OutputFormat.extension : OutputFormat → Text
  | document => Word.File.extension
  | workbook => Table.Workbook.extension

/-- The name of a file of a format if none is asked for. -/
def FileSettings.nameOf (settings : FileSettings) : OutputFormat → Text
  | .document => settings.documentName
  | .workbook => settings.tableName

/-- `IsExtended name extension extended`: the name with the extension at its end, which is added
unless it is there. -/
def IsExtended (name extension extended : Text) : Prop :=
  extension <:+ name ∧ extended = name ∨ ¬ extension <:+ name ∧ extended = name ++ extension

theorem isExtended_withExtension (name extension : Text) :
    IsExtended name extension (Text.withExtension name extension) := by
  have ends : name.endsWith extension = true ↔ extension <:+ name := by
    rw [Text.endsWith, List.isPrefixOf_iff_prefix, List.reverse_prefix]
  unfold Text.withExtension
  split
  · rename_i h
    exact Or.inl ⟨ends.mp h, rfl⟩
  · rename_i h
    exact Or.inr ⟨mt ends.mpr h, rfl⟩

namespace Service

open Schema

/-- The name before its extension: the one that is asked for, or the one of the settings if none or
an empty one is. -/
def chosenName (settings : FileSettings) (format : OutputFormat) (wanted : Option Text) : Text :=
  (usableName wanted).getD (settings.nameOf format)

theorem isExtended_fileName (wanted : Option Text) (default extension : Text) :
    IsExtended ((usableName wanted).getD default) extension
      (Text.fileName wanted default extension) := by
  have name : Text.fileName wanted default extension =
      Text.withExtension ((usableName wanted).getD default) extension := by
    rcases wanted with _ | _ | ⟨c, rest⟩ <;> rfl
  rw [name]
  exact isExtended_withExtension _ _

theorem hasUtf8Form_extended {name extended : Text} {format : OutputFormat}
    (h : IsExtended name format.extension extended) (hn : HasUtf8Form name) :
    HasUtf8Form extended := by
  have extension : HasUtf8Form format.extension := by
    cases format <;> exact hasUtf8Form_toText _
  rcases h with ⟨-, rfl⟩ | ⟨-, rfl⟩
  · exact hn
  · exact hn.append extension

section

variable {settings : Settings} {server : Exchange.Server} {format : OutputFormat}
  {wanted : Option Text} {product : Product}

theorem name_of_makeProduct {files : FileSettings} {text : Text}
    (h : (makeProduct files format wanted text).result = .ok product) :
    IsExtended (chosenName files format wanted) format.extension product.name := by
  cases format with
  | document =>
    obtain ⟨file, -, rfl⟩ := map_eq_ok.mp (mapError_eq_ok.mp h)
    exact isExtended_fileName wanted _ _
  | workbook =>
    obtain ⟨items, -, h⟩ := bind_eq_ok.mp (mapError_eq_ok.mp h)
    obtain ⟨book, -, h⟩ := bind_eq_ok.mp h
    obtain rfl := pure_eq_ok.mp h
    exact isExtended_fileName wanted _ _

theorem name_of_convert {uploads : List Extraction.Upload}
    (h : (convert settings server uploads format wanted).result = .ok product) :
    IsExtended (chosenName settings.files format wanted) format.extension product.name := by
  cases ht : (Extraction.extract settings.server server uploads format).result with
  | error problem => cases (convert_of_error ht wanted).symm.trans h
  | ok text => exact name_of_makeProduct ((convert_of_ok ht wanted).symm.trans h)

end

/-! ### Requests for products -/

/-- The endpoints that answer with products. -/
def productEndpoints : List Endpoint := [.generateDocument, .generateWorkbook, .convert]

/-- Whether a request seeks a product of a format, under a name if one is asked for, and what comes
of making it. The text of a document is not blank, and a conversion takes the uploads. -/
inductive Request.Seeks (settings : Settings) (server : Exchange.Server) (r : Request) :
    OutputFormat → Option Text → Except ConversionProblem Product → Prop
  | document {g : Generation} (asks : r.Asks .generateDocument) (reads : r.generation = .ok g)
      (blank : Text.isAllBlank g.text = false) :
      Seeks settings server r .document g.fileName
        (makeProduct settings.files .document g.fileName g.text).result
  | workbook {g : Generation} (asks : r.Asks .generateWorkbook) (reads : r.generation = .ok g) :
      Seeks settings server r .workbook g.fileName
        (makeProduct settings.files .workbook g.fileName g.text).result
  | conversion {form : Form} {wanted : Option Text} {s : Submission} (asks : r.Asks .convert)
      (reads : r.form = .ok form) (name : formText form "file_name" = .ok wanted)
      (taken : Submission.ofForm form (.ok wanted) = .ok s) :
      Seeks settings server r s.format wanted
        (convert settings server s.uploads s.format wanted).result

theorem fileName_of_ofForm {form : Form} {wanted : Option Text} {s : Submission}
    (h : Submission.ofForm form (.ok wanted) = .ok s) : s.fileName = wanted := by
  rw [ofForm_of_sameUploads ⟨rfl, rfl⟩] at h
  obtain ⟨s', -, rfl⟩ := map_eq_ok.mp h
  rfl

theorem ofForm_error {form : Form} {issues : List Issue} {s : Submission} :
    Submission.ofForm form (.error issues) ≠ .ok s := by
  unfold Submission.ofForm
  generalize formUploads form = uploads
  generalize formText form "format" = word
  cases uploads <;> cases word <;> exact nofun

section

variable {settings : Settings} {server : Exchange.Server} {r : Request} {format : OutputFormat}
  {wanted : Option Text}

theorem result_of_seeks {outcome : Except ConversionProblem Product}
    (h : r.Seeks settings server format wanted outcome) :
    (handle settings server r).result = (productResult conversionResult outcome).bind
      fun response => response.check.map (Response.forOrigin r) := by
  cases h with
  | document asks reads blank =>
    rw [handle_eq asks]
    simp only [Endpoint.handle, withGeneration, reads, handleDocument, blank, makeProduct,
      productResult_mapError]
    rfl
  | workbook asks reads =>
    rw [handle_eq asks]
    simp only [Endpoint.handle, withGeneration, reads, handleWorkbook, makeProduct,
      productResult_mapError]
    rfl
  | conversion asks reads name taken =>
    rw [handle_eq asks]
    simp only [Endpoint.handle, withForm, reads, handleConvert, name, taken,
      fileName_of_ofForm taken]
    rfl

theorem name_of_seeks {product : Product} {outcome : Except ConversionProblem Product}
    (h : r.Seeks settings server format wanted outcome) (made : outcome = .ok product) :
    IsExtended (chosenName settings.files format wanted) format.extension product.name := by
  cases h with
  | document => exact name_of_makeProduct made
  | workbook => exact name_of_makeProduct made
  | conversion => exact name_of_convert made

end

/-! ### Headers -/

theorem header_forOrigin (r : Request) (response : Response) :
    (response.forOrigin r).header? "content-disposition" =
      response.header? "content-disposition" := by
  have other (origin : Text) : ((originHeaders origin).find? fun header =>
      header.1 = "content-disposition") = none := by
    unfold originHeaders
    split <;> rfl
  unfold Response.forOrigin
  split
  · simp only [Response.header?, Response.withHeaders, List.find?_append, other, Option.or_none]
  · rfl

theorem headers_check {response response' : Response} (h : response.check = .ok response') :
    response'.headers = response.headers := by
  unfold Response.check at h
  split at h
  · dsimp only at h
    split at h
    · cases h
    · obtain ⟨_, -, h⟩ := bind_eq_ok.mp h
      rw [← pure_eq_ok.mp h]
  · cases h
    rfl

theorem header_of_sent {r : Request} {result : Except Breakdown Response} {response : Response}
    (h : result.bind (fun response => response.check.map (Response.forOrigin r)) = .ok response) :
    ∃ response', result = .ok response' ∧ response.header? "content-disposition" =
      response'.header? "content-disposition" := by
  obtain ⟨response', hr, hs⟩ := bind_eq_ok.mp h
  obtain ⟨checked, hc, rfl⟩ := map_eq_ok.mp hs
  refine ⟨response', hr, ?_⟩
  rw [header_forOrigin, Response.header?, headers_check hc, Response.header?]

/-- Whether a result is no download: a response without headers of its own. -/
def IsPlain (result : Except Breakdown Response) : Prop :=
  ∀ response, result = .ok response → response.headers = []

theorem isPlain_extractionResult (problem : Extraction.Problem) :
    IsPlain (extractionResult problem) := by
  intro response h
  unfold extractionResult at h
  split at h <;> cases h
  rfl

theorem isPlain_workbookResult (problem : WorkbookProblem) : IsPlain (workbookResult problem) := by
  intro response h
  unfold workbookResult at h
  split at h <;> cases h <;> rfl

theorem isPlain_conversionResult (problem : ConversionProblem) :
    IsPlain (conversionResult problem) := by
  cases problem with
  | extraction problem => exact isPlain_extractionResult problem
  | document fault =>
    rintro response ⟨⟩
    rfl
  | workbook problem => exact isPlain_workbookResult problem

theorem isPlain_of_ofForm {form : Form} {wanted : Checked (Option Text)} {response : Response}
    (h : Submission.ofForm form wanted = .error response) : response.headers = [] := by
  unfold Submission.ofForm at h
  split at h
  · cases h
    rfl
  · unfold Submission.check at h
    split at h
    · cases h
      rfl
    · split at h <;> cases h
      rfl

theorem isPlain_of_generation {r : Request} {response : Response}
    (h : r.generation = .error (.refused response)) : response.headers = [] := by
  rcases bind_eq_error.mp h with h | ⟨value, -, h⟩
  · unfold Request.json at h
    split_ifs at h
    · cases h
      rfl
    · split at h <;> cases h <;> rfl
    · split at h <;> cases h
  · obtain ⟨issues, -, h⟩ := mapError_eq_error.mp h
    cases h
    rfl

/-- A request that asks an endpoint for a product seeks one, or what is answered is no download. -/
theorem seeks_or_isPlain {settings : Settings} {server : Exchange.Server} {r : Request}
    {e : Endpoint} (he : e ∈ productEndpoints) (asks : r.Asks e) :
    (∃ format wanted outcome, r.Seeks settings server format wanted outcome) ∨
      IsPlain (e.handle settings server r).result := by
  have generated (handle : Generation → Handling)
      (h : ∀ g, r.generation = .ok g →
        (∃ format wanted outcome, r.Seeks settings server format wanted outcome) ∨
          IsPlain (handle g).result) :
      (∃ format wanted outcome, r.Seeks settings server format wanted outcome) ∨
        IsPlain (withGeneration r handle).result := by
    unfold withGeneration
    split
    · rename_i refusal hg
      refine Or.inr ?_
      rintro response ⟨⟩
      exact isPlain_of_generation hg
    · exact Or.inr nofun
    · exact h _ ‹_›
  simp only [productEndpoints, List.mem_cons, List.not_mem_nil, or_false] at he
  rcases he with rfl | rfl | rfl
  · refine generated _ fun g hg => ?_
    unfold handleDocument
    split
    · refine Or.inr ?_
      rintro response ⟨⟩
      rfl
    · rename_i blank
      exact Or.inl ⟨_, _, _, .document asks hg (Bool.eq_false_iff.mpr blank)⟩
  · exact generated _ fun g hg => Or.inl ⟨_, _, _, .workbook asks hg⟩
  · simp only [Endpoint.handle, withForm, handleConvert]
    split
    · rename_i refusal hf
      obtain ⟨fault, -, rfl⟩ := mapError_eq_error.mp hf
      refine Or.inr ?_
      rintro response ⟨⟩
      rfl
    · rename_i form hf
      split
      · rename_i refusal hs
        refine Or.inr ?_
        rintro response ⟨⟩
        exact isPlain_of_ofForm hs
      · rename_i s hs
        cases hn : formText form "file_name" with
        | error issues =>
          rw [hn] at hs
          exact (ofForm_error hs).elim
        | ok wanted =>
          rw [hn] at hs
          exact Or.inl ⟨_, _, _, .conversion asks hf hn hs⟩

/-! ### Downloads -/

/-- **A response names a download**: its header holds the name escaped, by characters that stand for
themselves and percent signs with digits, and the name is read back from it. -/
def Response.NamesDownload (response : Response) (name : Text) : Prop :=
  ∃ escaped : Text,
    response.header? "content-disposition" =
      some ("attachment; filename*=UTF-8''".toText ++ escaped) ∧
    Text.Percent.IsEscaped isFileNameChar escaped ∧ Text.Percent.decode escaped = .ok name

theorem isFileNameChar_percent : isFileNameChar '%' = false := by
  decide

/-- A product whose name has a UTF-8 form is answered as a download with this name. -/
theorem namesDownload_productResponse {product : Product} (h : HasUtf8Form product.name) :
    ∃ response, productResponse product = .ok response ∧ response.check = .ok response ∧
      response.status = 200 ∧ response.NamesDownload product.name := by
  have made : productResponse product = .ok ⟨200,
      [("content-disposition", disposition product.name)], .download product.content⟩ := by
    rw [productResponse, check_of_hasUtf8Form h]
    rfl
  obtain ⟨escaped, read⟩ := Text.Percent.decode_encode isFileNameChar_percent h
  exact ⟨_, made, rfl, rfl, _, rfl, escaped, read⟩

theorem hasUtf8Form_of_productResponse {product : Product} {response : Response}
    (h : productResponse product = .ok response) : HasUtf8Form product.name := by
  obtain ⟨name, hn, -⟩ := bind_eq_ok.mp h
  have all := (Text.Repertoire.check_eq_ok_iff.mp (mapError_eq_ok.mp hn)).2
  intro c hc
  simpa [Text.Repertoire.contains] using List.all_eq_true.mp all c hc

theorem body_of_productResponse {product : Product} {response : Response}
    (h : productResponse product = .ok response) : response.body = .download product.content := by
  obtain ⟨name, -, h⟩ := bind_eq_ok.mp h
  rw [← pure_eq_ok.mp h]

theorem body_forOrigin (r : Request) (response : Response) :
    (response.forOrigin r).body = response.body := by
  unfold Response.forOrigin
  split <;> rfl

/-- Whether a response names a download as it is asked for: by the name that is asked for, or the
one of the settings if none or an empty one is, with the extension of the format. -/
def Response.NamesWanted (response : Response) (files : FileSettings) (format : OutputFormat)
    (wanted : Option Text) : Prop :=
  ∃ name, IsExtended (chosenName files format wanted) format.extension name ∧
    response.NamesDownload name

/-- **Names of downloads.** A request for a product that can be made is answered with a download
that is named as it is asked for, whatever characters the name has, if only it has a UTF-8 form. No
other response of an endpoint for products says that it is a download. -/
theorem names_download (settings : Settings) (server : Exchange.Server) (r : Request) :
    (∀ format wanted product, r.Seeks settings server format wanted (.ok product) →
      HasUtf8Form (chosenName settings.files format wanted) →
      ∃ response, (handle settings server r).result = .ok response ∧ response.status = 200 ∧
        response.NamesWanted settings.files format wanted) ∧
    ∀ e ∈ productEndpoints, r.Asks e → ∀ response value,
      (handle settings server r).result = .ok response →
      response.header? "content-disposition" = some value →
      ∃ format wanted product, r.Seeks settings server format wanted (.ok product) ∧
        response.NamesWanted settings.files format wanted := by
  refine ⟨fun format wanted product seeks utf8 => ?_,
    fun e he asks response value answered header => ?_⟩
  · have name := name_of_seeks seeks rfl
    obtain ⟨response, made, sent, status, names⟩ :=
      namesDownload_productResponse (hasUtf8Form_extended name utf8)
    refine ⟨response.forOrigin r, ?_, (status_forOrigin r response).trans status, product.name,
      name, ?_⟩
    · rw [result_of_seeks seeks, productResult, made]
      simp only [Except.bind, sent, Except.map]
    · rwa [Response.NamesDownload, header_forOrigin]
  · rcases seeks_or_isPlain he asks with ⟨format, wanted, outcome, seeks⟩ | plain
    · rw [result_of_seeks seeks] at answered
      obtain ⟨response', made, same⟩ := header_of_sent answered
      cases outcome with
      | error problem =>
        -- what is answered instead has no such header
        rw [same, Response.header?, isPlain_conversionResult problem response' made] at header
        cases header
      | ok product =>
        obtain ⟨_, again, -, -, names⟩ :=
          namesDownload_productResponse (hasUtf8Form_of_productResponse made)
        obtain rfl := Except.ok.inj (again.symm.trans made)
        refine ⟨format, wanted, product, seeks, product.name, name_of_seeks seeks rfl, ?_⟩
        rwa [Response.NamesDownload, same]
    · rw [handle_eq asks] at answered
      obtain ⟨response', made, same⟩ := header_of_sent answered
      rw [same, Response.header?, plain response' made] at header
      cases header

/-- A product whose name has no UTF-8 form is made, but its request is left without a response. -/
theorem unencodable_of_seeks {settings : Settings} {server : Exchange.Server} {r : Request}
    {format : OutputFormat} {wanted : Option Text} {product : Product}
    (h : r.Seeks settings server format wanted (.ok product))
    (surrogate : ¬ HasUtf8Form product.name) :
    ∃ fault, (handle settings server r).result = .error (.unencodable fault) := by
  rw [result_of_seeks h, productResult]
  cases made : productResponse product with
  | ok response => exact (surrogate (hasUtf8Form_of_productResponse made)).elim
  | error breakdown =>
    rcases bind_eq_error.mp made with h | ⟨name, -, h⟩
    · obtain ⟨fault, -, rfl⟩ := mapError_eq_error.mp h
      exact ⟨fault, rfl⟩
    · cases h

/-- A request for a document, or a workbook, of a text under a name, with the name escaped. -/
def namedRequest (path name : String) : Request where
  method := "POST".toText
  target := path.toText
  headers := [("content-type".toText, "application/json".toText)]
  body := Text.Utf8.encode (String.toText
    ("\x7b\"text\": \"[]\", \"file_name\": \"" ++ name ++ "\"\x7d"))

/-- A name with quotation marks, line ends and other marks of headers names the workbook. -/
theorem names_download_headerMarks :
    let handling := handle {} (fun _ => Extraction.goodReply)
      (namedRequest "/generate-excel" "a\\\"\\r\\n;%41é€\\ud835\\udcb3")
    let wanted := some "a\"\r\n;%41é€𝒳".toText
    (∃ response, handling.result = .ok response ∧ response.status = 200 ∧
      response.NamesWanted {} .workbook wanted) ∧
    handling.result.toOption.bind (Response.header? · "content-disposition") = some
      "attachment; filename*=UTF-8''a%22%0D%0A%3B%2541%C3%A9%E2%82%AC%F0%9D%92%B3.xlsx".toText := by
  intro handling wanted
  have asks : (namedRequest "/generate-excel"
      "a\\\"\\r\\n;%41é€\\ud835\\udcb3").Asks .generateWorkbook := ⟨rfl, by decide +kernel⟩
  have reads : (namedRequest "/generate-excel"
      "a\\\"\\r\\n;%41é€\\ud835\\udcb3").generation = .ok ⟨"[]".toText, wanted⟩ :=
    toOption_eq_some.mp (by decide +kernel)
  have made : (makeProduct {} .workbook wanted "[]".toText).result.toOption.isSome = true := by
    decide +kernel
  obtain ⟨product, made⟩ := Option.isSome_iff_exists.mp made
  have seeks : Request.Seeks {} (fun _ => Extraction.goodReply) _ _ _ _ := .workbook asks reads
  rw [toOption_eq_some.mp made] at seeks
  refine ⟨(names_download {} _ _).1 _ _ _ seeks (hasUtf8Form_toText "a\"\r\n;%41é€𝒳"), ?_⟩
  decide +kernel

/-- A name with half of a pair can be asked for, but the request is left without a response. -/
theorem handle_surrogateName :
    let r := namedRequest "/generate-docx" "\\ud800"
    r.Asks .generateDocument ∧ r.generation = .ok ⟨"[]".toText, some [.surrogate 0]⟩ ∧
      ∀ response, (handle {} (fun _ => Extraction.goodReply) r).result ≠ .ok response := by
  intro r
  have asks : r.Asks .generateDocument := ⟨rfl, by decide +kernel⟩
  have reads : r.generation = .ok ⟨"[]".toText, some [.surrogate 0]⟩ :=
    toOption_eq_some.mp (by decide +kernel)
  refine ⟨asks, reads, fun response answered => ?_⟩
  have made : (makeProduct {} .document (some [.surrogate 0]) "[]".toText).result.toOption.map
      Product.name = some (.surrogate 0 :: ".docx".toText) := by
    decide +kernel
  obtain ⟨product, made, name⟩ := Option.map_eq_some_iff.mp made
  have seeks : Request.Seeks {} (fun _ => Extraction.goodReply) _ _ _ _ :=
    .document asks reads (by decide)
  rw [toOption_eq_some.mp made] at seeks
  obtain ⟨fault, broken⟩ := unencodable_of_seeks seeks fun utf8 => by
    cases utf8 (.surrogate 0) (name ▸ List.mem_cons_self)
  cases broken.symm.trans answered

end Service

end ExamPress

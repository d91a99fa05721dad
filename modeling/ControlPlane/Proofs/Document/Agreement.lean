import ControlPlane.Proofs.Document.Shape
import ControlPlane.Proofs.Sequence

/-! Both formats mean the same: whatever both can express is read alike from either of them. -/

namespace ControlPlane.Document

/-- An optional text is found where it is written. -/
theorem Swagger.optionalText?_of_lookup {key : String} {fields : List (String × Json)}
    {text : Option String} (found : Json.lookup key fields = text.map Json.str) :
    optionalText? key fields = some text := by
  -- There is the text under its key, or nothing.
  unfold optionalText?
  rw [found]
  cases text <;> rfl

/-- An optional text is found where it is written. -/
theorem OpenApi.textAt_of_lookup {key : String} {fields : List (String × Json)}
    {text : Option String} (found : Json.lookup key fields = text.map Json.str) :
    textAt key (.obj fields) = text := by
  -- There is the text under its key, or nothing.
  show (Json.lookup key fields).bind Json.text? = text
  rw [found]
  cases text <;> rfl

namespace Outline

/-! What an outline is read as, part by part. -/

/-- What an operation under a path and a verb is read as. -/
def Operation.read (operation : Operation) (path : String) (method : Method) :
    Except Fault Document.Operation :=
  (OperationExtensions.read operation.extensions.entries).map fun extensions =>
    { path, method, operationId := operation.operationId, summary := operation.summary, extensions }

/-- The operations of an item in the order of the verbs. -/
def Item.declared (item : Item) : List (Method × Operation) :=
  Method.all.filterMap fun method =>
    (item.operations.lookup method).map fun operation => (method, operation)

/-- What an item is read as. -/
def Item.read (item : Item) : Except Fault (List Document.Operation) :=
  item.declared.mapM fun (method, operation) => operation.read item.path method

/-- The backends that an outline is read with. -/
def production (outline : Outline) : Except Fault (List Endpoint) :=
  match outline.backend with
  | none => .ok []
  | some backend => (OpenApi.backendOf backend.url).map ([·])

/-- What an outline is read as. -/
def read (outline : Outline) : Except Fault Parts := do
  let extensions ← ApiExtensions.read outline.extensions.entries
  let production ← outline.production
  let operations ← outline.items.mapM Item.read
  return { title := outline.title, version := outline.version, extensions
           basePath := outline.backend.map Backend.basePath, production
           operations := operations.flatten }

/-- Written items are read one by one. -/
theorem mapM_written {write : Operation → Json}
    {compute : String × Json → Except Fault (List Document.Operation)}
    (same : ∀ item : Item, compute (item.written write) = item.read) (items : List Item) :
    (items.map (·.written write)).mapM compute = items.mapM Item.read := by
  -- Reading an item is reading what was written of it.
  rw [List.mapM_map]
  congr 1
  funext item
  exact same item

section Swagger

/-- An operation is read from the second version of the format. -/
theorem Operation.read_swagger (operation : Operation) (path : String) (method : Method) :
    Swagger.operationOf path method operation.swagger = operation.read path method := by
  -- Both texts stand under their keys, where no extension hides them.
  have id : Swagger.optionalText? "operationId"
      (operation.entries ++ operation.extensions.entries) = some operation.operationId := by
    apply Swagger.optionalText?_of_lookup
    simp (disch := decide) [entries, Extensions.lookup_eq_none]
  have summary : Swagger.optionalText? "summary"
      (operation.entries ++ operation.extensions.entries) = some operation.summary := by
    apply Swagger.optionalText?_of_lookup
    simp (disch := decide) [entries, Extensions.lookup_eq_none]
  -- Without them the reader is left with the extensions, which are those of the operation.
  unfold Swagger.operationOf swagger read
  simp only [Json.fields?, Option.bind_eq_bind, Option.bind_some, id, summary, pure]
  rw [Extensions.read_operation operation.foreign_entries]
  cases OperationExtensions.read operation.extensions.entries <;> rfl

/-- An item is read from the second version of the format. -/
theorem Item.read_swagger (item : Item) :
    Swagger.operationsOf item.path (item.written Operation.swagger).2 = item.read := by
  -- An item refers to no other place, as no verb is called so.
  have none : Json.lookup "$ref" (item.fields Operation.swagger) = none :=
    item.lookup_eq_none _ (by decide)
  -- Looking for one verb after the other brings the operations into the order of the verbs.
  have found : (Method.all.filterMap fun method =>
      (Json.lookup method.lowerText (item.fields Operation.swagger)).map fun value =>
        (method, value)) = item.declared.map fun entry => (entry.1, entry.2.swagger) := by
    rw [declared, List.map_filterMap]
    simp only [item.lookup_fields, Option.map_map]
    rfl
  show (if (Json.lookup "$ref" (item.fields Operation.swagger)).isSome = true then _ else _) = _
  rw [none, if_neg (by simp), found, List.mapM_map]
  -- Each operation is read under its verb.
  unfold read
  congr 1
  funext entry
  exact entry.2.read_swagger item.path entry.1

/-- The top of a document in the second version of the format. -/
def swaggerHead (outline : Outline) : Swagger.Head :=
  { title := outline.title, version := outline.version
    host := outline.backend.map Backend.host, basePath := outline.backend.map Backend.basePath
    schemes := (outline.backend.map Backend.scheme).toList
    paths := outline.items.map (·.written Operation.swagger) }

/-- The top of a document is read from the second version of the format. -/
theorem head?_swagger (outline : Outline) :
    Swagger.head? (outline.swaggerEntries ++ outline.extensions.entries) =
      some outline.swaggerHead := by
  -- No extension has one of the keys of the top.
  have about : Json.lookup "info" (outline.swaggerEntries ++ outline.extensions.entries) =
      some outline.info := rfl
  have host : Json.lookup "host" (outline.swaggerEntries ++ outline.extensions.entries) =
      (outline.backend.map Backend.host).map Json.str := by
    simp (disch := decide) [swaggerEntries, Json.lookup, Extensions.lookup_eq_none,
      Function.comp_def]
  have basePath : Json.lookup "basePath" (outline.swaggerEntries ++ outline.extensions.entries) =
      (outline.backend.map Backend.basePath).map Json.str := by
    simp (disch := decide) [swaggerEntries, Json.lookup, Extensions.lookup_eq_none,
      Function.comp_def]
  have schemes : Json.lookup "schemes" (outline.swaggerEntries ++ outline.extensions.entries) =
      outline.backend.map fun backend => .arr [.str backend.scheme] := by
    simp (disch := decide) [swaggerEntries, Json.lookup, Extensions.lookup_eq_none]
  have paths : Json.lookup "paths" (outline.swaggerEntries ++ outline.extensions.entries) =
      some (.obj (outline.items.map (·.written Operation.swagger))) := by
    simp [swaggerEntries, Json.lookup]
  unfold Swagger.head? swaggerHead
  rw [about, Swagger.optionalText?_of_lookup host, Swagger.optionalText?_of_lookup basePath,
    schemes, paths]
  -- The schemes are left out without a backend, and with one they are a list of one.
  cases outline.backend <;> rfl

/-- The backends are read from the second version of the format. -/
theorem backends_swagger (outline : Outline) :
    Swagger.backends outline.swaggerHead = outline.production := by
  unfold Swagger.backends swaggerHead production
  -- Without a backend there is neither a host nor a base path.
  cases outline.backend with
  | none => rfl
  | some backend =>
    -- A host has no blanks at its ends, and it is not empty.
    have trimmed : Text.trim backend.host = backend.host := by
      apply Text.trim_eq_self
      · exact fun c first => (Url.of_isHostChar (backend.plain c (List.mem_of_head? first))).1
      · exact fun c last => (Url.of_isHostChar (backend.plain c (List.mem_of_getLast? last))).1
    have named : backend.host.isEmpty = false := by simpa using backend.named
    simp only [Option.map_some, Option.getD_some, trimmed, named, Bool.false_eq_true, if_false,
      Option.toList_some, List.head?_cons]
    -- Both formats try the one URL, which is put together from the same parts.
    rw [OpenApi.backendOf, Backend.url]
    cases Endpoint.parse .production (backend.scheme ++ "://" ++ backend.host ++ backend.basePath)
      <;> rfl

/-- An outline is read from the second version of the format. -/
theorem read_swagger (outline : Outline) : Swagger.read outline.swagger = outline.read := by
  -- The top, the backends and the extensions are read by themselves, and then the items.
  have paths : outline.swaggerHead.paths = outline.items.map (·.written Operation.swagger) := rfl
  unfold Swagger.read swagger
  simp only [Json.fields?, head?_swagger, backends_swagger,
    Extensions.read_api outline.foreign_swaggerEntries]
  rw [paths, mapM_written]
  · rfl
  · exact Item.read_swagger

end Swagger

section OpenApi

/-- An operation is read from the third version of the format. -/
theorem Operation.read_openApi (operation : Operation) (path : String) (method : Method) :
    OpenApi.operationOf path method operation.openApi = operation.read path method := by
  -- Both texts stand under their keys, where no extension hides them.
  have id : OpenApi.textAt "operationId" operation.openApi = operation.operationId := by
    apply OpenApi.textAt_of_lookup
    simp (disch := decide) [entries, Json.lookup, Extensions.lookup_eq_none]
  have summary : OpenApi.textAt "summary" operation.openApi = operation.summary := by
    apply OpenApi.textAt_of_lookup
    simp (disch := decide) [entries, Json.lookup, Extensions.lookup_eq_none]
  -- The responses that this format wants are no extension either.
  have foreign : ∀ entry ∈ operation.entries ++ [("responses", Json.obj [])],
      isExtension entry.1 = false := by
    rw [List.forall_mem_append, List.forall_mem_singleton]
    exact ⟨operation.foreign_entries, by decide⟩
  -- What is left are the extensions, in front of which nothing is one.
  unfold OpenApi.operationOf read
  rw [id, summary]
  show (OperationExtensions.read (_ ++ operation.extensions.entries) >>= _) = _
  rw [Extensions.read_operation foreign]
  cases OperationExtensions.read operation.extensions.entries <;> rfl

/-- An item is read from the third version of the format. -/
theorem Item.read_openApi (item : Item) :
    OpenApi.operationsOf item.path (item.written Operation.openApi).2 = item.read := by
  -- An item refers to no other place, as no verb is called so.
  have none : OpenApi.textAt "$ref" (item.written Operation.openApi).2 = none := by
    show (Json.lookup "$ref" (item.fields Operation.openApi)).bind _ = _
    rw [item.lookup_eq_none _ (by decide)]
    rfl
  -- Verb after verb the operations are found that the item declares.
  have step : OpenApi.operationsOf item.path (item.written Operation.openApi).2 =
      (item.declared.map fun entry => (entry.1, entry.2.openApi)).mapM fun entry =>
        OpenApi.operationOf item.path entry.1 entry.2 := by
    unfold OpenApi.operationsOf
    rw [none, declared, List.map_filterMap]
    dsimp only
    congr 1
    apply List.filterMap_congr
    intro method _
    have found : (item.written Operation.openApi).2.field? method.lowerText =
        (item.operations.lookup method).map Operation.openApi := item.lookup_fields _ _
    -- No operation is written as null, so each of them is found.
    rw [found]
    cases item.operations.lookup method <;> rfl
  -- Each operation is read under its verb.
  rw [step, List.mapM_map]
  unfold read
  congr 1
  funext entry
  exact entry.2.read_openApi item.path entry.1

/-- The URLs of the servers are those of the backends. -/
theorem urls_openApi (outline : Outline) :
    (((outline.openApi.field? "servers").bind Json.items?).getD []).map OpenApi.serverUrl =
      (outline.backend.map Backend.url).toList := by
  -- There is a list of one server, or none without a backend.
  have found : outline.openApi.field? "servers" = outline.backend.map fun backend =>
      .arr [.obj [("url", .str backend.url)]] := by
    show Json.lookup "servers" (outline.openApiEntries ++ outline.extensions.entries) = _
    simp (disch := decide) [openApiEntries, Json.lookup, Extensions.lookup_eq_none]
  rw [found]
  cases outline.backend with
  | none => rfl
  | some backend =>
    -- There are no variables to replace.
    show [OpenApi.serverUrl (.obj [("url", .str backend.url)])] = [backend.url]
    simp [OpenApi.serverUrl, OpenApi.textAt, Json.field?, Json.fields?, Json.lookup, Json.text?]

/-- The backends are read from the third version of the format. -/
theorem backends_openApi (outline : Outline) :
    ((outline.backend.map Backend.url).toList.filter OpenApi.isAbsolute).mapM OpenApi.backendOf =
      outline.production := by
  -- A written URL has a scheme, so it is not passed over as relative.
  unfold production
  cases outline.backend with
  | none => rfl
  | some backend =>
    have absolute : OpenApi.isAbsolute backend.url = true := Url.hasWord_written backend.web
    rw [Option.map_some, Option.toList_some, List.filter_cons_of_pos absolute, List.filter_nil]
    dsimp only
    cases outcome : OpenApi.backendOf backend.url <;> simp [outcome] <;> rfl

/-- Behind a backend that can be read, the path of the server is the base path. -/
theorem basePath_openApi {outline : Outline} {backends : List Endpoint}
    (success : outline.production = .ok backends) :
    (outline.backend.map Backend.url).toList.head?.map OpenApi.serverPath =
      outline.backend.map Backend.basePath := by
  unfold production at success
  cases given : outline.backend with
  | none => rfl
  | some backend =>
    -- The backend was read, so its URL has a path.
    rw [given] at success
    obtain ⟨endpoint, outcome, _⟩ := exists_of_map_eq_ok success
    unfold OpenApi.backendOf at outcome
    cases read : Endpoint.parse .production backend.url with
    | error fault => rw [read] at outcome; cases outcome
    | ok _ =>
      obtain ⟨url, parsed⟩ :=
        Endpoint.exists_parse_of_parse_written backend.web backend.settled read
      have same : Url.parse backend.url = .ok url := parsed
      have absolute : OpenApi.isAbsolute backend.url = true := Url.hasWord_written backend.web
      -- The path of the server is that of its URL, which is the base path as it was written.
      have path : OpenApi.serverPath backend.url = url.path := by
        unfold OpenApi.serverPath
        rw [if_pos absolute, same]
      refine congrArg Option.some (path.trans ?_)
      exact Url.path_of_parse_written backend.web backend.plain backend.named backend.settled parsed

/-- An outline is read from the third version of the format. -/
theorem read_openApi (outline : Outline) : OpenApi.read outline.openApi = outline.read := by
  -- Neither the title nor the backend or the items are extensions.
  have extensions : ApiExtensions.read (outline.openApi.fields?.getD []) =
      ApiExtensions.read outline.extensions.entries :=
    Extensions.read_api outline.foreign_openApiEntries _
  have paths : ((outline.openApi.field? "paths").bind Json.fields?).getD [] =
      outline.items.map (·.written Operation.openApi) := by
    show ((Json.lookup "paths" (outline.openApiEntries ++ _)).bind _).getD _ = _
    simp [openApiEntries, Json.lookup, Json.fields?]
  have info : outline.openApi.field? "info" = some outline.info := rfl
  -- All paths begin with a slash, so none is passed over.
  have rooted : ∀ keep : String × Json → Bool,
      (∀ item : Item, keep (item.written Operation.openApi) = true) →
        (outline.items.map (·.written Operation.openApi)).filter keep =
          outline.items.map (·.written Operation.openApi) := by
    intro keep kept
    rw [List.filter_eq_self]
    intro entry member
    obtain ⟨item, _, rfl⟩ := List.mem_map.mp member
    exact kept item
  -- The document has the shape that is wanted, so it is read part by part.
  unfold OpenApi.read
  rw [isDocument_openApi, if_neg (by simp)]
  dsimp only
  rw [extensions, paths, info, urls_openApi, backends_openApi, rooted, mapM_written]
  · -- The parts are read in the same order, and each fails alike.
    unfold read
    cases ApiExtensions.read outline.extensions.entries with
    | error fault => rfl
    | ok _ =>
      cases success : outline.production with
      | error fault => rfl
      | ok backends =>
        dsimp only [bind, Except.bind]
        rw [basePath_openApi success]
        rfl
  · exact Item.read_openApi
  · exact fun item => decide_eq_true item.rooted

end OpenApi

/-- An outline is described as it is read, from the second version of the format. -/
theorem describe_swagger (outline : Outline) :
    describe outline.swagger = outline.read >>= Parts.assemble := by
  -- The key of the second version stands in front.
  have format : formatOf outline.swagger = .ok .swagger2 := rfl
  unfold describe
  rw [format]
  show (Swagger.read outline.swagger >>= _) = _
  rw [read_swagger]

/-- An outline is described as it is read, from the third version of the format. -/
theorem describe_openApi (outline : Outline) :
    describe outline.openApi = outline.read >>= Parts.assemble := by
  -- There is no key of the second version, and the key of the third one stands in front.
  have format : formatOf outline.openApi = .ok .openApi3 := by
    have other : Json.lookup "swagger" (outline.openApiEntries ++ outline.extensions.entries) =
        none := by
      simp (disch := decide) [openApiEntries, Json.lookup, Extensions.lookup_eq_none]
    have own : Json.lookup "openapi" (outline.openApiEntries ++ outline.extensions.entries) =
        some (.str "3.0.0") := rfl
    unfold formatOf openApi
    dsimp only
    rw [other, own]
    rfl
  unfold describe
  rw [format]
  show (OpenApi.read outline.openApi >>= _) = _
  rw [read_openApi]

/-- The operations that are read become resources for those of the items, in their order. -/
theorem resources_of_read {outline : Outline} {parts : Parts} (success : outline.read = .ok parts) :
    ((parts.operations.map Document.Operation.toResource).map fun resource =>
        (resource.path, resource.method, resource.operationId, resource.summary)) =
      outline.items.flatMap fun item => item.declared.map fun (method, operation) =>
        (Path.rooted item.path, method, operation.operationId, operation.summary) := by
  -- The outline was read, so each of its three parts was.
  unfold read at success
  cases read : ApiExtensions.read outline.extensions.entries with
  | error fault => rw [read] at success; cases success
  | ok extensions =>
    cases made : outline.production with
    | error fault => rw [read, made] at success; cases success
    | ok backends =>
      cases done : outline.items.mapM Item.read with
      | error fault => rw [read, made, done] at success; cases success
      | ok operations =>
        rw [read, made, done] at success
        cases success
        dsimp only
        rw [List.map_map, List.map_flatten, List.flatMap_def]
        congr 1
        -- Each item brings its operations, and each of them keeps what it declares.
        refine map_of_mapM (fun item operations read => ?_) done
        refine map_of_mapM (fun (method, operation) result read => ?_) read
        obtain ⟨_, _, rfl⟩ := exists_of_map_eq_ok read
        simp only [Function.comp_apply, Document.Operation.toResource]

end Outline

/-- The resources of a description are the operations of the document. -/
theorem resources_of_assemble {parts : Parts} {api : Descriptor}
    (success : parts.assemble = .ok api) :
    api.resources = parts.operations.map Operation.toResource := by
  -- A description is made only if there is a title and a version, with the operations as they are.
  unfold Parts.assemble at success
  dsimp only at success
  split at success
  · cases success
  · split at success
    · cases success
    · cases success
      rfl

/-- A document of either format with the same outline fails with the same fault, which is one of the
input, or gives the same description, whose resources are those of the paths in their order, and
those of each path in the order of the verbs. -/
theorem formats_agree (outline : Outline) {first second : ByteArray}
    (swagger : decode first = .ok outline.swagger) (openApi : decode second = .ok outline.openApi) :
    (∃ fault, normalize first = .error fault ∧ normalize second = .error fault ∧
      ∃ message field, fault.toError = .inputFormat message field) ∨
    ∃ api, normalize first = .ok api ∧ normalize second = .ok api ∧
      (api.resources.map fun resource =>
          (resource.path, resource.method, resource.operationId, resource.summary)) =
        outline.items.flatMap fun item => item.declared.map fun (method, operation) =>
          (Path.rooted item.path, method, operation.operationId, operation.summary) := by
  -- Either document is read like the outline.
  have one : normalize first = outline.read >>= Parts.assemble := by
    unfold normalize
    rw [swagger]
    dsimp only [bind, Except.bind]
    rw [outline.describe_swagger]
    rfl
  have two : normalize second = outline.read >>= Parts.assemble := by
    unfold normalize
    rw [openApi]
    dsimp only [bind, Except.bind]
    rw [outline.describe_openApi]
    rfl
  -- The outline is read or it is not, and the description is made of it or not.
  rw [one, two]
  cases success : outline.read with
  | error fault => exact Or.inl ⟨fault, rfl, rfl, fault.message, fault.field, rfl⟩
  | ok parts =>
    dsimp only [bind, Except.bind]
    cases outcome : parts.assemble with
    | error fault => exact Or.inl ⟨fault, rfl, rfl, fault.message, fault.field, rfl⟩
    | ok api =>
      refine Or.inr ⟨api, rfl, rfl, ?_⟩
      rw [resources_of_assemble outcome]
      exact Outline.resources_of_read success

/-- An outline with a backend, and with two verbs that are not in their order. -/
def shop : Outline where
  title := "a"
  version := "1"
  backend := some
    { secure := true, host := "h:1", basePath := "/b", named := by decide
      plain := List.all_eq_true.mp (by decide), settled := by decide }
  items := [
    { path := "/", rooted := by decide
      operations := [
        (.put, { operationId := some "i", summary := none, extensions := ⟨[], by simp⟩ }),
        (.get,
          { operationId := none, summary := none
            extensions := ⟨[("x-", .null)], by decide⟩ })] }]
  extensions := ⟨[], by simp⟩

/-- The outline in the second version of the format. -/
def shopSwagger : String :=
  "\x7b\"swagger\":\"2.0\",\"info\":\x7b\"title\":\"a\",\"version\":\"1\"\x7d," ++
    "\"schemes\":[\"https\"],\"host\":\"h:1\",\"basePath\":\"/b\",\"paths\":\x7b\"/\":\x7b" ++
    "\"put\":\x7b\"operationId\":\"i\"\x7d,\"get\":\x7b\"x-\":null\x7d\x7d\x7d\x7d"

/-- The outline in the third version of the format. -/
def shopOpenApi : String :=
  "\x7b\"openapi\":\"3.0.0\",\"info\":\x7b\"title\":\"a\",\"version\":\"1\"\x7d," ++
    "\"servers\":[\x7b\"url\":\"https://h:1/b\"\x7d],\"paths\":\x7b\"/\":\x7b" ++
    "\"put\":\x7b\"operationId\":\"i\",\"responses\":\x7b\x7d\x7d," ++
    "\"get\":\x7b\"responses\":\x7b\x7d,\"x-\":null\x7d\x7d\x7d\x7d"

/-- The first text is the outline in the second version. -/
theorem decode_shopSwagger : decode shopSwagger.toUTF8 = .ok shop.swagger := by
  have parsed : Json.parse? shopSwagger = some shop.swagger := by cbv
  exact decode_of_parse parsed

/-- The second text is the outline in the third version. -/
theorem decode_shopOpenApi : decode shopOpenApi.toUTF8 = .ok shop.openApi := by
  have parsed : Json.parse? shopOpenApi = some shop.openApi := by cbv
  exact decode_of_parse parsed

/-- The outline has a description. -/
theorem describe_shop : (describe shop.swagger).toBool = true := by decide +kernel

/-- Both texts give the same description, with the verbs in their order. -/
theorem formats_agree_shop :
    decode shopSwagger.toUTF8 = .ok shop.swagger ∧ decode shopOpenApi.toUTF8 = .ok shop.openApi ∧
      ∃ api, normalize shopSwagger.toUTF8 = .ok api ∧ normalize shopOpenApi.toUTF8 = .ok api ∧
        (api.resources.map fun resource =>
          (resource.path, resource.method, resource.operationId, resource.summary)) =
            [("/", .get, none, none), ("/", .put, some "i", none)] := by
  refine ⟨decode_shopSwagger, decode_shopOpenApi, ?_⟩
  rcases formats_agree shop decode_shopSwagger decode_shopOpenApi with ⟨fault, failed, _⟩ | agreed
  · -- The document does not fail.
    have described : normalize shopSwagger.toUTF8 = describe shop.swagger := by
      unfold normalize
      rw [decode_shopSwagger]
      rfl
    have works := describe_shop
    rw [← described, failed] at works
    cases works
  · obtain ⟨api, first, second, resources⟩ := agreed
    exact ⟨api, first, second, resources.trans (by decide +kernel)⟩
end ControlPlane.Document

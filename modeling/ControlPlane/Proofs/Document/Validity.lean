import ControlPlane.Document.Normalize
import ControlPlane.Proofs.Ordered.Map
import ControlPlane.Proofs.Path.Segments
import ControlPlane.Proofs.Url.Backend

/-! What every description that a document gives has in common, whatever its format and whichever of
its parts are left out. -/

namespace ControlPlane

/-- A text that is something, with no blanks around it. -/
structure Text.IsTrimmed (text : String) : Prop where
  filled : text ≠ ""
  first : ∀ c ∈ text.toList.head?, Text.isBlank c = false
  last : ∀ c ∈ text.toList.getLast?, Text.isBlank c = false

/-- What is left of a text without the blanks around it is trimmed, unless it is nothing. -/
theorem Text.isTrimmed_trim {text : String} (filled : Text.trim text ≠ "") :
    Text.IsTrimmed (Text.trim text) :=
  ⟨filled, Text.isBlank_of_mem_head?_trim, Text.isBlank_of_mem_getLast?_trim⟩

/-- A path that is rooted begins with a slash. -/
theorem Path.head?_rooted (path : String) : (Path.rooted path).toList.head? = some '/' := by
  unfold rooted
  dsimp only
  split
  · assumption
  · rw [String.toList_append]
    rfl

/-- A description that the rest of the control plane can rely on. -/
structure Descriptor.WellFormed (api : Descriptor) : Prop where
  name : Text.IsTrimmed api.name
  version : Text.IsTrimmed api.version
  basePath : Path.IsNormal api.basePath
  paths : ∀ resource ∈ api.resources, resource.path.toList.head? = some '/'
  labelled : api.labels.toList ≠ []
  labels : ∀ label ∈ api.labels.toList, Label.Grammar label.text
  requestTimeout : ∀ timeout ∈ api.requestTimeout,
    ∃ seconds, 1 ≤ seconds ∧ seconds ≤ 3600 ∧ timeout = .ofSeconds seconds
  provider : ∀ provider ∈ api.provider, Text.IsTrimmed provider
  backends : ∀ environment, ∀ endpoint ∈ api.endpoints environment, endpoint.Serves environment
  ownBackends : ∀ resource ∈ api.resources, ∀ environment,
    ∀ endpoint ∈ resource.endpoints environment, endpoint.Serves environment
  extensions : ∀ key ∈ api.extensions.keys, ['x', '-'] <+: key.toList

namespace Document

/-- The backends that a value declares are usable in their environment. -/
theorem serves_of_endpointsOf {environment : Environment} {field : String} {value : Option Json}
    {endpoints : List Endpoint} (read : endpointsOf environment field value = .ok endpoints) :
    ∀ endpoint ∈ endpoints, endpoint.Serves environment := by
  intro endpoint member
  -- What is read at all is a list, and each of its items was parsed as a target.
  unfold endpointsOf at read
  split at read
  · cases read
    cases member
  · split at read
    · cases read
    · obtain ⟨item, _, read⟩ := exists_of_mapM read member
      unfold endpointOf at read
      split at read
      · split at read
        · rename_i success
          cases read
          exact Endpoint.serves_of_parse success
        · cases read
      · cases read

/-- The text that a value declares is trimmed. -/
theorem isTrimmed_of_textOf {field : String} {value : Option Json} {result : Option String}
    (read : textOf field value = .ok result) : ∀ text ∈ result, Text.IsTrimmed text := by
  intro text member
  -- The value is left out, or it is null, or a text that is trimmed.
  unfold textOf at read
  split at read
  · cases read
    cases member
  · cases read
    cases member
  · -- A blank text counts as none.
    rw [← Except.ok.inj read] at member
    split at member
    · cases member
    · rename_i filled
      cases member
      exact Text.isTrimmed_trim (by simpa using filled)
  · cases read

/-- The request timeout that a value declares is one of 1 to 3600 seconds. -/
theorem of_requestTimeoutOf {value : Option Json} {result : Option Duration}
    (read : requestTimeoutOf value = .ok result) :
    ∀ timeout ∈ result, ∃ seconds, 1 ≤ seconds ∧ seconds ≤ 3600 ∧ timeout = .ofSeconds seconds := by
  intro timeout member
  -- The value is left out, or it is null, or a number that is checked.
  unfold requestTimeoutOf at read
  split at read
  · cases read
    cases member
  · cases read
    cases member
  · split at read
    · split at read
      -- The bounds were checked on the number of seconds.
      · rename_i seconds _ inBounds
        cases read
        cases member
        exact ⟨seconds, inBounds.1, inBounds.2, rfl⟩
      · cases read
    · cases read

/-- The keys of the extensions that are read begin as those of extensions do. -/
theorem isPrefix_of_mem_extensionsOf {entries : List (String × Json)} {key : String}
    (member : key ∈ (extensionsOf entries).keys) : ['x', '-'] <+: key.toList := by
  obtain ⟨value, found⟩ := OrderedMap.mem_keys.mp member
  -- Only entries that pass the test of the keys are put into the map.
  have among := OrderedMap.mem_of_get?_ofList found
  obtain ⟨_, extension⟩ := List.mem_filter.mp among
  obtain ⟨rest, begins⟩ := Option.isSome_iff_exists.mp extension
  exact ⟨rest, (Text.eq_append_of_afterPrefix? begins).symm⟩

/-- What the rest of the control plane relies on in the extensions of a whole API. -/
structure ApiExtensions.WellFormed (extensions : ApiExtensions) : Prop where
  production : ∀ endpoint ∈ extensions.production, endpoint.Serves .production
  sandbox : ∀ endpoint ∈ extensions.sandbox, endpoint.Serves .sandbox
  requestTimeout : ∀ timeout ∈ extensions.requestTimeout,
    ∃ seconds, 1 ≤ seconds ∧ seconds ≤ 3600 ∧ timeout = .ofSeconds seconds
  provider : ∀ provider ∈ extensions.provider, Text.IsTrimmed provider
  declared : ∀ key ∈ extensions.declared.keys, ['x', '-'] <+: key.toList

/-- What the rest of the control plane relies on in the extensions of one operation. -/
structure OperationExtensions.WellFormed (extensions : OperationExtensions) : Prop where
  production : ∀ endpoint ∈ extensions.production, endpoint.Serves .production
  sandbox : ∀ endpoint ∈ extensions.sandbox, endpoint.Serves .sandbox

/-- What the rest of the control plane relies on in the parts of a document. -/
structure Parts.WellFormed (parts : Parts) : Prop where
  extensions : parts.extensions.WellFormed
  production : ∀ endpoint ∈ parts.production, endpoint.Serves .production
  operations : ∀ operation ∈ parts.operations, operation.extensions.WellFormed

/-- The extensions of a whole API are checked when they are read. -/
theorem ApiExtensions.wellFormed_of_read {entries : List (String × Json)}
    {extensions : ApiExtensions} (success : read entries = .ok extensions) :
    extensions.WellFormed := by
  unfold read at success
  dsimp only at success
  split at success
  -- Each part is read by its own reader, in the order of the fields.
  · obtain ⟨labels, _, success⟩ := bind_eq_ok_iff.mp success
    obtain ⟨basePath, _, success⟩ := bind_eq_ok_iff.mp success
    obtain ⟨production, first, success⟩ := bind_eq_ok_iff.mp success
    obtain ⟨sandbox, second, success⟩ := bind_eq_ok_iff.mp success
    obtain ⟨timeout, limited, success⟩ := bind_eq_ok_iff.mp success
    obtain ⟨provider, named, success⟩ := bind_eq_ok_iff.mp success
    cases success
    exact
      { production := serves_of_endpointsOf first
        sandbox := serves_of_endpointsOf second
        requestTimeout := of_requestTimeoutOf limited
        provider := isTrimmed_of_textOf named
        declared := fun key => isPrefix_of_mem_extensionsOf }
  · cases success

/-- The extensions of an operation are checked when they are read. -/
theorem OperationExtensions.wellFormed_of_read {entries : List (String × Json)}
    {extensions : OperationExtensions} (success : read entries = .ok extensions) :
    extensions.WellFormed := by
  -- Both kinds of backends are read, one after the other.
  unfold read at success
  obtain ⟨production, first, success⟩ := bind_eq_ok_iff.mp success
  obtain ⟨sandbox, second, success⟩ := bind_eq_ok_iff.mp success
  cases success
  exact ⟨serves_of_endpointsOf first, serves_of_endpointsOf second⟩

/-- Only operations with extensions that are checked are put together from those of the paths. -/
theorem wellFormed_of_mem_flatten {ε α : Type} {operationsOf : α → Except ε (List Operation)}
    {items : List α} {found : List (List Operation)} (success : items.mapM operationsOf = .ok found)
    (each : ∀ item operations, operationsOf item = .ok operations →
      ∀ operation ∈ operations, operation.extensions.WellFormed) :
    ∀ operation ∈ found.flatten, operation.extensions.WellFormed := by
  -- The operation is one of those of some item.
  intro operation member
  obtain ⟨operations, among, inside⟩ := List.mem_flatten.mp member
  obtain ⟨item, _, read⟩ := exists_of_mapM success among
  exact each item operations read operation inside

namespace Swagger

/-- The host of a document declares a usable backend for production, if any. -/
theorem serves_of_backends {head : Head} {endpoints : List Endpoint}
    (read : backends head = .ok endpoints) :
    ∀ endpoint ∈ endpoints, endpoint.Serves .production := by
  intro endpoint member
  -- There is no host, or it is the one backend of the document.
  unfold backends at read
  dsimp only at read
  split at read
  · cases read
    cases member
  · split at read
    · rename_i success
      cases read
      -- The host is the only backend.
      rw [List.mem_singleton.mp member]
      exact Endpoint.serves_of_parse success
    · cases read

/-- The extensions of an operation are checked when it is read. -/
theorem wellFormed_of_operationOf {path : String} {method : Method} {value : Json}
    {operation : Operation} (read : operationOf path method value = .ok operation) :
    operation.extensions.WellFormed := by
  unfold operationOf at read
  dsimp only at read
  -- Only the extensions are read by a reader of their own.
  split at read
  · cases read
  · obtain ⟨extensions, success, read⟩ := bind_eq_ok_iff.mp read
    cases read
    exact OperationExtensions.wellFormed_of_read success

/-- The extensions of all operations of a path are checked when it is read. -/
theorem wellFormed_of_operationsOf {path : String} {item : Json} {operations : List Operation}
    (read : operationsOf path item = .ok operations) :
    ∀ operation ∈ operations, operation.extensions.WellFormed := by
  -- Each operation of a path is read from what stands under its verb.
  intro operation member
  unfold operationsOf at read
  split at read
  · split at read
    · cases read
    · obtain ⟨_, _, read⟩ := exists_of_mapM read member
      exact wellFormed_of_operationOf read
  · cases read

/-- The parts of a document are checked when they are read. -/
theorem wellFormed_of_read {document : Json} {parts : Parts} (success : read document = .ok parts) :
    parts.WellFormed := by
  -- The three parts are read one after the other, each by its own reader.
  unfold read at success
  split at success
  · cases success
  · split at success
    · cases success
    · obtain ⟨extensions, first, success⟩ := bind_eq_ok_iff.mp success
      obtain ⟨production, second, success⟩ := bind_eq_ok_iff.mp success
      obtain ⟨operations, third, success⟩ := bind_eq_ok_iff.mp success
      cases success
      exact
        { extensions := ApiExtensions.wellFormed_of_read first
          production := serves_of_backends second
          operations := wellFormed_of_mem_flatten third fun _ _ => wellFormed_of_operationsOf }

end Swagger

namespace OpenApi

/-- A server declares a usable backend for production. -/
theorem serves_of_backendOf {url : String} {endpoint : Endpoint}
    (read : backendOf url = .ok endpoint) : endpoint.Serves .production := by
  -- The URL was read as that of an endpoint.
  unfold backendOf at read
  split at read
  · rename_i success
    cases read
    exact Endpoint.serves_of_parse success
  · cases read

/-- The extensions of all operations of a path are checked when it is read. -/
theorem wellFormed_of_operationsOf {path : String} {item : Json} {operations : List Operation}
    (read : operationsOf path item = .ok operations) :
    ∀ operation ∈ operations, operation.extensions.WellFormed := by
  -- Each operation of a path is read from what stands under its verb.
  intro operation member
  unfold operationsOf at read
  split at read
  · cases read
  · obtain ⟨_, _, read⟩ := exists_of_mapM read member
    unfold operationOf at read
    obtain ⟨extensions, success, read⟩ := bind_eq_ok_iff.mp read
    cases read
    exact OperationExtensions.wellFormed_of_read success

/-- The parts of a document are checked when they are read. -/
theorem wellFormed_of_read {document : Json} {parts : Parts} (success : read document = .ok parts) :
    parts.WellFormed := by
  -- The three parts are read one after the other, each by its own reader.
  unfold read at success
  split at success
  · cases success
  · obtain ⟨extensions, first, success⟩ := bind_eq_ok_iff.mp success
    obtain ⟨production, second, success⟩ := bind_eq_ok_iff.mp success
    obtain ⟨operations, third, success⟩ := bind_eq_ok_iff.mp success
    cases success
    refine
      { extensions := ApiExtensions.wellFormed_of_read first
        production := ?_
        operations := wellFormed_of_mem_flatten third fun _ _ => wellFormed_of_operationsOf }
    -- Each server is a backend by itself.
    intro endpoint member
    obtain ⟨_, _, read⟩ := exists_of_mapM second member
    exact serves_of_backendOf read

end OpenApi

/-- Parts that were checked make a description that can be relied on. -/
theorem Parts.WellFormed.of_assemble {parts : Parts} (checked : parts.WellFormed)
    {api : Descriptor} (success : parts.assemble = .ok api) : api.WellFormed := by
  -- There is a title and a version, or nothing is made.
  unfold Parts.assemble at success
  dsimp only at success
  split at success
  · cases success
  · split at success
    · cases success
    · rename_i named versioned
      cases success
      refine
        { name := Text.isTrimmed_trim (by simpa using named)
          version := Text.isTrimmed_trim (by simpa using versioned)
          basePath := Path.isNormal_normalize _
          paths := ?_
          labelled := parts.extensions.labels.nonempty
          labels := fun label _ => label.grammar
          requestTimeout := checked.extensions.requestTimeout
          provider := checked.extensions.provider
          backends := ?_
          ownBackends := ?_
          extensions := checked.extensions.declared }
      · intro resource member
        obtain ⟨operation, _, rfl⟩ := List.mem_map.mp member
        -- Every path is rooted when its operation becomes a resource.
        simp only [Operation.toResource, Path.head?_rooted]
      · intro environment endpoint member
        cases environment with
        | production =>
          -- The host or the servers stand in where the extensions declare no backends.
          simp only [Descriptor.endpoints] at member
          split at member
          · exact checked.production endpoint member
          · exact checked.extensions.production endpoint member
        | sandbox => exact checked.extensions.sandbox endpoint member
      · -- A resource has the backends of its own operation.
        intro resource member environment endpoint own
        obtain ⟨operation, among, rfl⟩ := List.mem_map.mp member
        cases environment with
        | production => exact (checked.operations operation among).production endpoint own
        | sandbox => exact (checked.operations operation among).sandbox endpoint own

/-- Every document gives a description that can be relied on as a whole, or is refused as input of
the wrong form. -/
theorem normalize_wellFormed (raw : ByteArray) :
    (∃ api, normalize raw = .ok api ∧ api.WellFormed) ∨
      ∃ fault message field, normalize raw = .error fault ∧
        fault.toError = .inputFormat message field := by
  -- What is refused is refused with a fault, and each fault is a malformed input.
  cases outcome : normalize raw with
  | error fault => exact Or.inr ⟨fault, fault.message, fault.field, rfl, rfl⟩
  | ok api =>
    refine Or.inl ⟨api, rfl, ?_⟩
    unfold normalize describe at outcome
    -- The formats differ only in how the parts are read.
    obtain ⟨document, _, outcome⟩ := bind_eq_ok_iff.mp outcome
    obtain ⟨format, _, outcome⟩ := bind_eq_ok_iff.mp outcome
    cases format with
    | swagger2 =>
      obtain ⟨parts, read, made⟩ := bind_eq_ok_iff.mp outcome
      exact (Swagger.wellFormed_of_read read).of_assemble made
    | openApi3 =>
      obtain ⟨parts, read, made⟩ := bind_eq_ok_iff.mp outcome
      exact (OpenApi.wellFormed_of_read read).of_assemble made

end Document

end ControlPlane

import ControlPlane.Proofs.Document.Agreement
import ControlPlane.Proofs.Sequence

/-! Annotations of documents: entries of vendor extensions that are added among the paths or to an
operation, and what they change. -/

namespace ControlPlane

variable {α β ε : Type}

/-- Two lists in one, with the members of each in their order. -/
inductive Interleaves : List α → List α → List α → Prop where
  | nil : Interleaves [] [] []
  | left {entry : α} {first second whole : List α} (rest : Interleaves first second whole) :
      Interleaves (entry :: first) second (entry :: whole)
  | right {entry : α} {first second whole : List α} (rest : Interleaves first second whole) :
      Interleaves first (entry :: second) (entry :: whole)

namespace Interleaves

/-- A list is itself with nothing put into it. -/
theorem self (whole : List α) : Interleaves [] whole whole := by
  -- All members are those of the second list.
  induction whole with
  | nil => exact .nil
  | cons entry rest ih => exact .right ih

/-- In the whole there is what is in either list. -/
theorem mem_iff {first second whole : List α} (merged : Interleaves first second whole)
    {entry : α} : entry ∈ whole ↔ entry ∈ first ∨ entry ∈ second := by
  -- The induction is on how the lists are put together.
  induction merged with
  | nil => simp
  | left rest ih => rw [List.mem_cons, List.mem_cons, ih, or_assoc]
  | right rest ih => rw [List.mem_cons, List.mem_cons, ih, or_left_comm]

/-- The members of lists in the whole are those of the lists in the two parts. -/
theorem length_flatten {first second whole : List (List α)}
    (merged : Interleaves first second whole) :
    whole.flatten.length = first.flatten.length + second.flatten.length := by
  -- One list more adds its members to those of the part that it comes from.
  induction merged with
  | nil => rfl
  | left rest ih =>
    simp only [List.flatten_cons, List.length_append, ih]
    omega
  | right rest ih =>
    simp only [List.flatten_cons, List.length_append, ih]
    omega

/-- Lists without members make no difference. -/
theorem flatten_eq {first second whole : List (List α)} (merged : Interleaves first second whole)
    (silent : ∀ list ∈ first, list = []) : whole.flatten = second.flatten := by
  -- A list from the first part has no members to add.
  induction merged with
  | nil => rfl
  | left rest ih =>
    rw [List.forall_mem_cons] at silent
    rw [List.flatten_cons, silent.1, List.nil_append, ih silent.2]
  | right rest ih => rw [List.flatten_cons, List.flatten_cons, ih silent]

/-- If the whole can be computed, so can the two parts, and their results are put into each other in
the same way. -/
theorem exists_of_mapM {compute : α → Except ε β} {first second whole : List α}
    (merged : Interleaves first second whole) {results : List β}
    (success : whole.mapM compute = .ok results) :
    ∃ firsts seconds, first.mapM compute = .ok firsts ∧ second.mapM compute = .ok seconds ∧
      Interleaves firsts seconds results := by
  -- The induction is on how the lists are put together; each result goes where its input came from.
  induction merged generalizing results with
  | nil =>
    cases success
    exact ⟨[], [], rfl, rfl, .nil⟩
  | left rest ih =>
    obtain ⟨result, others, here, later, rfl⟩ := mapM_cons_eq_ok_iff.mp success
    obtain ⟨firsts, seconds, one, two, among⟩ := ih later
    exact ⟨result :: firsts, seconds, mapM_cons_eq_ok_iff.mpr ⟨_, _, here, one, rfl⟩, two,
      .left among⟩
  | right rest ih =>
    obtain ⟨result, others, here, later, rfl⟩ := mapM_cons_eq_ok_iff.mp success
    obtain ⟨firsts, seconds, one, two, among⟩ := ih later
    exact ⟨firsts, result :: seconds, one, mapM_cons_eq_ok_iff.mpr ⟨_, _, here, two, rfl⟩,
      .right among⟩

/-- If everything in the first list can be computed, the whole fails as the second list does. -/
theorem mapM_eq_error {compute : α → Except ε β} {first second whole : List α}
    (merged : Interleaves first second whole)
    (succeed : ∀ entry ∈ first, ∃ result, compute entry = .ok result) {fault : ε}
    (fails : second.mapM compute = .error fault) : whole.mapM compute = .error fault := by
  -- The induction is on how the lists are put together; the first one never fails.
  induction merged with
  | nil => exact fails
  | left rest ih =>
    obtain ⟨⟨result, here⟩, others⟩ := List.forall_mem_cons.mp succeed
    rw [List.mapM_cons, here, ih others fails]
    rfl
  | @right entry _ second _ rest ih =>
    rw [List.mapM_cons] at fails ⊢
    cases here : compute entry with
    | error other =>
      -- Both fail here.
      rw [here] at fails
      exact fails
    | ok result =>
      cases later : second.mapM compute with
      | error other =>
        -- The failure comes later, and so it does in the whole.
        rw [here, later] at fails
        cases fails
        rw [ih succeed later]
        rfl
      | ok results =>
        rw [here, later] at fails
        cases fails

/-- If everything in the first list can be computed and the second list can, so can the whole. -/
theorem exists_mapM {compute : α → Except ε β} {first second whole : List α}
    (merged : Interleaves first second whole)
    (succeed : ∀ entry ∈ first, ∃ result, compute entry = .ok result) {seconds : List β}
    (success : second.mapM compute = .ok seconds) :
    ∃ firsts results, first.mapM compute = .ok firsts ∧ whole.mapM compute = .ok results ∧
      Interleaves firsts seconds results := by
  -- Whatever is in the whole is in one of the two lists.
  have all : ∀ entry ∈ whole, ∃ result, compute entry = .ok result := by
    intro entry member
    rcases merged.mem_iff.mp member with left | right
    · exact succeed entry left
    · exact mapM_succeeds_iff.mp ⟨seconds, success⟩ entry right
  -- The results of the whole contain those of the second list, which are known.
  obtain ⟨results, computed⟩ := mapM_succeeds_iff.mpr all
  obtain ⟨firsts, seconds', one, two, among⟩ := merged.exists_of_mapM computed
  rw [success] at two
  cases two
  exact ⟨firsts, results, one, computed, among⟩

end Interleaves

namespace Json

/-- Entries with other keys that are put into an object do not hide a key. -/
theorem lookup_interleaves {added fields whole : List (String × α)}
    (merged : Interleaves added fields whole) {key : String}
    (apart : ∀ entry ∈ added, entry.1 ≠ key) : lookup key whole = lookup key fields := by
  -- An entry that was added has another key, and any other one is met in both.
  induction merged with
  | nil => rfl
  | left rest ih =>
    rw [List.forall_mem_cons] at apart
    rw [lookup, if_neg apart.1, ih apart.2]
  | right rest ih => rw [lookup, lookup, ih apart]

end Json

namespace Document

/-- An operation with entries of vendor extensions added to it, wherever they stand; none of them
declares backends. Every value is one with nothing added. -/
inductive Annotated : Json → Json → Prop where
  | same (value : Json) : Annotated value value
  | added {added fields whole : List (String × Json)} (merged : Interleaves added fields whole)
      (marked : ∀ entry ∈ added, isExtension entry.1 = true)
      (idle : ∀ entry ∈ added, entry.1 ≠ productionKey ∧ entry.1 ≠ sandboxKey) :
      Annotated (.obj fields) (.obj whole)

/-- A path with the same entries, any of them with annotations. -/
inductive AnnotatedItem : Json → Json → Prop where
  | same (item : Json) : AnnotatedItem item item
  | entries {fields noted : List (String × Json)}
      (each : List.Forall₂ (fun entry entry' => entry'.1 = entry.1 ∧ Annotated entry.2 entry'.2)
        fields noted) :
      AnnotatedItem (.obj fields) (.obj noted)

/-- An entry among the paths that declares no operation and refers to no other place. -/
def DeclaresNothing (item : Json) : Prop :=
  ∃ fields, item = .obj fields ∧ Json.lookup "$ref" fields = none ∧
    ∀ method : Method, Json.lookup method.lowerText fields = none

/-- A key of an extension is no other key. -/
theorem ne_of_isExtension {key other : String} (marked : isExtension key = true)
    (foreign : isExtension other = false) : key ≠ other := by
  -- One of the two is an extension, and the other one is none.
  rintro rfl
  rw [marked] at foreign
  cases foreign

/-- A key that is no extension's can be stored without a change to the extensions. -/
theorem filter_store {key : String} (foreign : isExtension key = false) (value : Json)
    (fields : List (String × Json)) :
    ((Json.store key value fields).filter fun (key, _) => isExtension key) =
      fields.filter fun (key, _) => isExtension key := by
  -- The induction is on the fields, among which the key may stand already.
  induction fields with
  | nil => simp [Json.store, foreign]
  | cons entry rest ih =>
    obtain ⟨own, held⟩ := entry
    unfold Json.store
    by_cases same : own = key
    · -- Neither the value nor what stood in its place is an extension.
      subst same
      rw [if_pos rfl, List.filter_cons_of_neg (by simp [foreign]),
        List.filter_cons_of_neg (by simp [foreign])]
    · rw [if_neg same, List.filter_cons, List.filter_cons, ih]

/-- The description that the parts of a document amount to with the operations of its paths. -/
def Parts.complete (parts : Parts) (found : List (List Operation)) : Except Fault Descriptor :=
  parts.assemble.map fun api => { api with resources := found.flatten.map Operation.toResource }

/-- A description has the operations that it was made with. -/
theorem Parts.resources_of_complete {parts : Parts} {found : List (List Operation)}
    {api : Descriptor} (success : parts.complete found = .ok api) :
    api.resources = found.flatten.map Operation.toResource := by
  -- The operations are put in last.
  obtain ⟨_, _, rfl⟩ := exists_of_map_eq_ok success
  rfl

namespace Swagger

/-- Annotations do not change what an operation declares. -/
theorem operationOf_annotated {path : String} {method : Method} {value noted : Json}
    (annotated : Annotated value noted) :
    operationOf path method noted = operationOf path method value := by
  cases annotated with
  | same value => rfl
  | @added added fields whole merged marked idle =>
    -- The keys that are read are no extensions, or they are the two that were not added.
    have own : ∀ key, isExtension key = false →
        optionalText? key whole = optionalText? key fields := by
      intro key foreign
      unfold optionalText?
      rw [Json.lookup_interleaves merged fun entry member =>
        ne_of_isExtension (marked entry member) foreign]
    have backends : OperationExtensions.read whole = OperationExtensions.read fields := by
      unfold OperationExtensions.read
      rw [Json.lookup_interleaves merged fun entry member => (idle entry member).1,
        Json.lookup_interleaves merged fun entry member => (idle entry member).2]
    unfold operationOf
    simp only [Json.fields?, Option.bind_eq_bind, Option.bind_some, own "operationId" (by decide),
      own "summary" (by decide)]
    -- The texts are read or not read alike, and then the same backends.
    cases optionalText? "operationId" fields with
    | none => rfl
    | some operationId =>
      cases optionalText? "summary" fields with
      | none => rfl
      | some summary => simp only [Option.bind_some, Option.pure_def, backends]

/-- A path with annotations has the same entries, all of them annotated. -/
theorem lookup_annotated {fields noted : List (String × Json)}
    (each : List.Forall₂ (fun entry entry' => entry'.1 = entry.1 ∧ Annotated entry.2 entry'.2)
      fields noted) (key : String) :
    Json.lookup key fields = none ∧ Json.lookup key noted = none ∨
      ∃ value value', Json.lookup key fields = some value ∧ Json.lookup key noted = some value' ∧
        Annotated value value' := by
  -- The induction is on the entries, which have the same keys at the same places.
  induction each with
  | nil => exact Or.inl ⟨rfl, rfl⟩
  | @cons entry entry' _ _ here _ ih =>
    obtain ⟨same, annotated⟩ := here
    unfold Json.lookup
    by_cases found : entry.1 = key
    · rw [if_pos found, if_pos (same.trans found)]
      exact Or.inr ⟨entry.2, entry'.2, rfl, rfl, annotated⟩
    · rw [if_neg found, if_neg (same ▸ found)]
      exact ih

/-- Annotations do not change the operations of the verbs. -/
theorem mapM_operationOf_annotated {path : String} {fields noted : List (String × Json)}
    (each : List.Forall₂ (fun entry entry' => entry'.1 = entry.1 ∧ Annotated entry.2 entry'.2)
      fields noted) (methods : List Method) :
    ((methods.filterMap fun method =>
        (Json.lookup method.lowerText noted).map fun value => (method, value)).mapM
      fun (method, value) => operationOf path method value) =
    (methods.filterMap fun method =>
        (Json.lookup method.lowerText fields).map fun value => (method, value)).mapM
      fun (method, value) => operationOf path method value := by
  -- The induction is on the verbs that are looked for.
  induction methods with
  | nil => rfl
  | cons method rest ih =>
    rw [List.filterMap_cons, List.filterMap_cons]
    -- A verb stands in both or in neither, and what it holds declares the same.
    rcases lookup_annotated each method.lowerText with
      ⟨absent, absent'⟩ | ⟨value, value', found, found', annotated⟩
    · rw [absent, absent']
      exact ih
    · rw [found, found']
      simp only [Option.map_some]
      rw [List.mapM_cons, List.mapM_cons, ih, operationOf_annotated annotated]

/-- Annotations do not change the operations of a path. -/
theorem operationsOf_annotated {path : String} {item noted : Json}
    (annotated : AnnotatedItem item noted) : operationsOf path noted = operationsOf path item := by
  cases annotated with
  | same item => rfl
  | @entries fields noted each =>
    -- Annotations neither add nor take away a reference.
    have refers : (Json.lookup "$ref" noted).isSome = (Json.lookup "$ref" fields).isSome := by
      rcases lookup_annotated each "$ref" with ⟨absent, absent'⟩ | ⟨_, _, found, found', _⟩
      · rw [absent, absent']
      · rw [found, found']
        rfl
    unfold operationsOf
    dsimp only
    rw [refers, mapM_operationOf_annotated each]

/-- Annotations do not change the operations of the paths. -/
theorem mapM_operationsOf_annotated {paths noted : List (String × Json)}
    (each : List.Forall₂ (fun entry entry' => entry'.1 = entry.1 ∧ AnnotatedItem entry.2 entry'.2)
      paths noted) :
    (noted.mapM fun (path, item) => operationsOf path item) =
      paths.mapM fun (path, item) => operationsOf path item := by
  -- The induction is on the paths, each of which is read alike.
  induction each with
  | nil => rfl
  | @cons entry entry' _ _ here _ ih =>
    obtain ⟨path, item⟩ := entry
    obtain ⟨path', item'⟩ := entry'
    obtain ⟨same, annotated⟩ := here
    dsimp only at same annotated
    rw [List.mapM_cons, List.mapM_cons, ih]
    dsimp only
    rw [same, operationsOf_annotated annotated]

/-- An entry among the paths is read without any operation if it declares nothing. -/
theorem operationsOf_eq_nil_iff {path : String} {item : Json} :
    operationsOf path item = .ok [] ↔ DeclaresNothing item := by
  unfold operationsOf DeclaresNothing
  constructor
  · intro read
    split at read
    · rename_i fields
      -- It is no reference, and no verb is found.
      split at read
      · cases read
      · rename_i whole
        refine ⟨fields, rfl, by simpa using whole, fun method => ?_⟩
        -- A verb that is there would have its operation among the results.
        cases found : Json.lookup method.lowerText fields with
        | none => rfl
        | some value =>
          have listed : (method, value) ∈ Method.all.filterMap fun method =>
              (Json.lookup method.lowerText fields).map fun value => (method, value) :=
            List.mem_filterMap.mpr ⟨method, Method.mem_all method, by rw [found]; rfl⟩
          obtain ⟨result, among, _⟩ := result_of_mapM read listed
          cases among
    · cases read
  · -- No verb is found, so nothing is read.
    rintro ⟨fields, rfl, whole, idle⟩
    dsimp only
    rw [whole]
    simp [idle, pure, Except.pure]

/-- The top of a document is read part by part; schemes and paths that are left out count as none. -/
theorem head?_eq (fields : List (String × Json)) :
    head? fields =
      ((Json.lookup "info" fields).bind info?).bind fun about =>
        (optionalText? "host" fields).bind fun host =>
          (optionalText? "basePath" fields).bind fun basePath =>
            (((Json.lookup "schemes" fields).getD (.arr [])).items?.bind
                (·.mapM Json.text?)).bind fun schemes =>
              ((Json.lookup "paths" fields).getD (.obj [])).fields?.map fun paths =>
                { title := about.1, version := about.2, host, basePath, schemes, paths } := by
  -- The parts are looked up one after the other, and the first that cannot be read ends it.
  unfold head?
  cases (Json.lookup "info" fields).bind info? with
  | none => rfl
  | some about =>
    cases optionalText? "host" fields with
    | none => rfl
    | some host =>
      cases optionalText? "basePath" fields with
      | none => rfl
      | some basePath =>
        -- What is left out counts as an empty list or object.
        cases Json.lookup "schemes" fields <;> cases Json.lookup "paths" fields <;>
          simp only [Json.items?, Json.fields?, Option.map_eq_bind, Function.comp_def, Option.getD_none,
            Option.getD_some, Option.bind_eq_bind, Option.bind_some, List.mapM_nil, Option.pure_def]

/-- The parts of a document without its operations. -/
def top (fields : List (String × Json)) : Except Fault Parts :=
  match head? fields with
  | none => .error .notSwagger
  | some head => do
    let extensions ← ApiExtensions.read fields
    let production ← backends head
    return { title := head.title, version := head.version, extensions, basePath := head.basePath
             production, operations := [] }

section Paths

variable {fields paths : List (String × Json)}
  (listed : ((Json.lookup "paths" fields).getD (.obj [])).fields? = some paths)
include listed

/-- What the top of a document declares does not depend on the paths, as long as these are read. -/
theorem head?_store (whole : List (String × Json)) :
    head? (Json.store "paths" (.obj whole) fields) =
      (head? fields).map fun head => { head with paths := whole } := by
  -- The paths stand under their own key, so that nothing else is changed.
  have own : ∀ key, "paths" ≠ key →
      Json.lookup key (Json.store "paths" (.obj whole) fields) = Json.lookup key fields :=
    fun key apart => Json.lookup_store_of_ne apart _ _
  have text : ∀ key, "paths" ≠ key →
      optionalText? key (Json.store "paths" (.obj whole) fields) = optionalText? key fields := by
    intro key apart
    unfold optionalText?
    rw [own key apart]
  rw [head?_eq, head?_eq, listed, own "info" (by decide), text "host" (by decide),
    text "basePath" (by decide), own "schemes" (by decide), Json.lookup_store_self]
  simp only [Option.map_bind, Function.comp_def, Option.map_map]
  rfl

/-- The paths that the top of a document declares are those that are listed. -/
theorem paths_of_head? {head : Head} (read : head? fields = some head) : head.paths = paths := by
  -- All parts were read, and the paths are the last of them.
  rw [head?_eq, listed] at read
  simp only [Option.bind_eq_some_iff, Option.map_some, Option.some.injEq] at read
  obtain ⟨_, _, _, _, _, _, _, _, rfl⟩ := read
  rfl

/-- What a document describes is what its top declares, with the operations of its paths. -/
theorem describe_eq (swagger : formatOf (.obj fields) = .ok .swagger2) :
    describe (.obj fields) = top fields >>= fun parts =>
      (paths.mapM fun (path, item) => operationsOf path item) >>= parts.complete := by
  -- Reading takes the top and then the paths, and only then the description is made.
  unfold describe top Parts.complete
  rw [swagger]
  dsimp only [bind, Except.bind]
  unfold read
  dsimp only [Json.fields?]
  -- Each step may fail, and then both fail with the same fault.
  cases read : head? fields with
  | none => rfl
  | some head =>
    dsimp only
    rw [paths_of_head? listed read]
    cases ApiExtensions.read fields with
    | error fault => rfl
    | ok extensions =>
      cases backends head with
      | error fault => rfl
      | ok production =>
        dsimp only [bind, Except.bind, pure, Except.pure]
        cases paths.mapM fun (path, item) => operationsOf path item with
        | error fault => rfl
        | ok found =>
          dsimp only
          unfold Parts.assemble
          dsimp only
          split
          · rfl
          · split <;> rfl

/-- The top of a document does not depend on the paths, as long as these are read. -/
theorem top_store (whole : List (String × Json)) :
    top (Json.store "paths" (.obj whole) fields) = top fields := by
  -- The paths are no extension.
  have declared : ApiExtensions.read (Json.store "paths" (.obj whole) fields) =
      ApiExtensions.read fields := by
    unfold ApiExtensions.read extensionsOf
    rw [filter_store (by decide)]
  unfold top
  rw [head?_store listed, declared]
  cases head? fields with
  | none => rfl
  | some head =>
    -- The host's backends are read from the rest of the head.
    simp only [Option.map_some, backends]

end Paths

/-- Every operation of a path is one of that path. -/
theorem path_of_mem_operationsOf {path : String} {item : Json} {operations : List Operation}
    (read : operationsOf path item = .ok operations) {operation : Operation}
    (member : operation ∈ operations) : operation.path = path := by
  -- Every operation is made with the path that was read.
  unfold operationsOf at read
  split at read
  · split at read
    · cases read
    · obtain ⟨⟨method, value⟩, _, read⟩ := exists_of_mapM read member
      unfold operationOf at read
      dsimp only at read
      split at read
      · cases read
      · obtain ⟨_, _, read⟩ := bind_eq_ok_iff.mp read
        cases read
        rfl
  · cases read

end Swagger

/-- The key of an extension has no slash in front of it, so it gets one as a path. -/
theorem rooted_of_isExtension {key : String} (marked : isExtension key = true) :
    Path.rooted key = "/" ++ Text.trim key := by
  obtain ⟨rest, begins⟩ := Option.isSome_iff_exists.mp marked
  have whole : key.toList = 'x' :: '-' :: rest := Text.eq_append_of_afterPrefix? begins
  have apart : (Text.trim key).toList.head? ≠ some '/' := by
    intro slash
    -- What is left of the key is its beginning, and it begins with the letter.
    obtain ⟨tail, same⟩ := List.rdropWhile_prefix Text.isBlank (key.toList.dropWhile Text.isBlank)
    rw [Text.trim, String.toList_ofList, Text.trimChars, Text.dropRight_eq_rdropWhile] at slash
    have first : (key.toList.dropWhile Text.isBlank).head? = some '/' := by
      rw [← same, List.head?_append, slash]
      rfl
    rw [whole, List.dropWhile_cons_of_neg (by decide)] at first
    cases first
  -- The path has no slash, so it gets one.
  unfold Path.rooted
  dsimp only
  rw [if_neg apart]

section Added

variable {parts : Parts} {added kept whole : List (String × Json)}
  (merged : Interleaves added kept whole)
include merged

/-- Entries that declare nothing make no difference among the paths. -/
theorem complete_of_silent (silent : ∀ entry ∈ added, DeclaresNothing entry.2) :
    (whole.mapM fun (path, item) => Swagger.operationsOf path item) >>= parts.complete =
      (kept.mapM fun (path, item) => Swagger.operationsOf path item) >>= parts.complete := by
  -- Each added entry is read without operations.
  have idle : ∀ entry ∈ added, Swagger.operationsOf entry.1 entry.2 = .ok [] :=
    fun entry member => Swagger.operationsOf_eq_nil_iff.mpr (silent entry member)
  have succeed : ∀ entry ∈ added, ∃ found, Swagger.operationsOf entry.1 entry.2 = .ok found :=
    fun entry member => ⟨[], idle entry member⟩
  cases outcome : kept.mapM fun (path, item) => Swagger.operationsOf path item with
  | error fault => rw [merged.mapM_eq_error succeed outcome]
  | ok found =>
    obtain ⟨firsts, results, one, all, among⟩ := merged.exists_mapM succeed outcome
    -- What the added entries give is empty each time.
    have empty : ∀ operations ∈ firsts, operations = [] := by
      intro operations member
      obtain ⟨entry, inside, read⟩ := exists_of_mapM one member
      exact (Except.ok.inj ((idle entry inside).symm.trans read)).symm
    rw [all]
    dsimp only [bind, Except.bind, Parts.complete]
    rw [among.flatten_eq empty]

/-- If the description stays the same with more entries among the paths, these declare nothing. -/
theorem silent_of_complete {api : Descriptor}
    (before : (kept.mapM fun (path, item) => Swagger.operationsOf path item) >>= parts.complete =
      .ok api)
    (after : (whole.mapM fun (path, item) => Swagger.operationsOf path item) >>= parts.complete =
      .ok api) : ∀ entry ∈ added, DeclaresNothing entry.2 := by
  -- Both descriptions were made, so all paths were read before and after.
  obtain ⟨seconds, outcome, before⟩ := bind_eq_ok_iff.mp before
  obtain ⟨results, all, after⟩ := bind_eq_ok_iff.mp after
  obtain ⟨firsts, seconds', one, two, among⟩ := merged.exists_of_mapM all
  rw [outcome] at two
  cases two
  -- The description has as many operations as before, so none of the entries adds one.
  have same := (Parts.resources_of_complete after).symm.trans (Parts.resources_of_complete before)
  have lengths := congrArg List.length same
  rw [List.length_map, List.length_map, among.length_flatten] at lengths
  have none : firsts.flatten = [] := List.length_eq_zero_iff.mp (by omega)
  intro entry member
  -- So each entry is read without operations.
  obtain ⟨operations, inside, read⟩ := result_of_mapM one member
  have empty : operations = [] := List.flatten_eq_nil_iff.mp none operations inside
  exact Swagger.operationsOf_eq_nil_iff.mp (empty ▸ read)

/-- Entries that can be read leave a failure as it is. -/
theorem complete_eq_error
    (succeed : ∀ entry ∈ added, ∃ found, Swagger.operationsOf entry.1 entry.2 = .ok found)
    {fault : Fault}
    (before : (kept.mapM fun (path, item) => Swagger.operationsOf path item) >>= parts.complete =
      .error fault) :
    (whole.mapM fun (path, item) => Swagger.operationsOf path item) >>= parts.complete =
      .error fault := by
  -- Either an entry fails as it did, or what follows does.
  cases outcome : kept.mapM fun (path, item) => Swagger.operationsOf path item with
  | error other =>
    rw [outcome] at before
    rw [merged.mapM_eq_error succeed outcome]
    exact before
  | ok found =>
    -- The paths are read, and what fails is the rest, which is the same.
    obtain ⟨firsts, results, _, all, _⟩ := merged.exists_mapM succeed outcome
    rw [outcome] at before
    rw [all]
    dsimp only [bind, Except.bind, Parts.complete] at before ⊢
    exact map_eq_error_iff.mpr (map_eq_error_iff.mp before)

/-- An entry that declares something becomes a resource under its key. -/
theorem exists_resource_of_complete (marked : ∀ entry ∈ added, isExtension entry.1 = true)
    {api : Descriptor}
    (after : (whole.mapM fun (path, item) => Swagger.operationsOf path item) >>= parts.complete =
      .ok api) {entry : String × Json} (member : entry ∈ added)
    (declares : ¬DeclaresNothing entry.2) :
    ∃ resource ∈ api.resources, resource.path = "/" ++ Text.trim entry.1 := by
  -- The entry was read among the others.
  obtain ⟨results, all, after⟩ := bind_eq_ok_iff.mp after
  obtain ⟨operations, inside, read⟩ := result_of_mapM all (merged.mem_iff.mpr (Or.inl member))
  cases operations with
  -- An entry that is read without operations declares nothing.
  | nil => exact absurd (Swagger.operationsOf_eq_nil_iff.mp read) declares
  | cons operation rest =>
    have listed : operation ∈ results.flatten :=
      List.mem_flatten.mpr ⟨_, inside, List.mem_cons_self⟩
    refine ⟨operation.toResource, ?_, ?_⟩
    · -- The operation is one of those that become resources.
      rw [Parts.resources_of_complete after]
      exact List.mem_map_of_mem listed
    · have path := Swagger.path_of_mem_operationsOf read List.mem_cons_self
      simp only [Operation.toResource, path, rooted_of_isExtension (marked entry member)]

end Added

/-- Storing paths does not change the format of a document. -/
theorem formatOf_store (whole fields : List (String × Json)) :
    formatOf (.obj (Json.store "paths" (.obj whole) fields)) = formatOf (.obj fields) := by
  -- The format is told by two other keys.
  unfold formatOf
  dsimp only
  rw [Json.lookup_store_of_ne (by decide), Json.lookup_store_of_ne (by decide)]

/-- A document is described by its top, with the operations of its paths. -/
theorem normalize_eq {raw : ByteArray} {fields paths : List (String × Json)}
    (given : decode raw = .ok (.obj fields)) (swagger : formatOf (.obj fields) = .ok .swagger2)
    (listed : ((Json.lookup "paths" fields).getD (.obj [])).fields? = some paths) :
    normalize raw = Swagger.top fields >>= fun parts =>
      (paths.mapM fun (path, item) => Swagger.operationsOf path item) >>= parts.complete := by
  -- The document is decoded and then described.
  unfold normalize
  rw [given]
  exact Swagger.describe_eq listed swagger

/-- Annotations of operations change nothing, and neither do entries of extensions among the paths if
they declare nothing; any other one becomes a resource, or makes the document fail. -/
theorem normalize_annotated {raw raw' : ByteArray}
    {fields paths noted added whole : List (String × Json)}
    (given : decode raw = .ok (.obj fields)) (swagger : formatOf (.obj fields) = .ok .swagger2)
    (listed : ((Json.lookup "paths" fields).getD (.obj [])).fields? = some paths)
    (annotated : List.Forall₂
      (fun entry entry' => entry'.1 = entry.1 ∧ AnnotatedItem entry.2 entry'.2) paths noted)
    (merged : Interleaves added noted whole)
    (marked : ∀ entry ∈ added, isExtension entry.1 = true)
    (extended : decode raw' = .ok (.obj (Json.store "paths" (.obj whole) fields))) :
    ((∀ entry ∈ added, DeclaresNothing entry.2) → normalize raw' = normalize raw) ∧
    (∀ api, normalize raw = .ok api →
      (normalize raw' = .ok api ↔ ∀ entry ∈ added, DeclaresNothing entry.2)) ∧
    (∀ fault, normalize raw = .error fault →
      (∀ entry ∈ added, ∃ found, Swagger.operationsOf entry.1 entry.2 = .ok found) →
        normalize raw' = .error fault) ∧
    (∀ api, normalize raw' = .ok api → ∀ entry ∈ added, ¬DeclaresNothing entry.2 →
      ∃ resource ∈ api.resources, resource.path = "/" ++ Text.trim entry.1) := by
  -- Both documents have the same top and differ in their paths only.
  have stored : ((Json.lookup "paths" (Json.store "paths" (.obj whole) fields)).getD
      (.obj [])).fields? = some whole := by
    rw [Json.lookup_store_self]
    rfl
  rw [normalize_eq given swagger listed,
    normalize_eq extended ((formatOf_store whole fields).trans swagger) stored,
    Swagger.top_store listed, ← Swagger.mapM_operationsOf_annotated annotated]
  cases Swagger.top fields with
  | error fault =>
    -- The paths are not even looked at.
    refine ⟨fun _ => rfl, fun api success => ?_, fun other failed _ => failed, fun api success => ?_⟩
    · cases success
    · cases success
  | ok parts =>
    refine ⟨fun silent => complete_of_silent merged silent, fun api before => ⟨?_, ?_⟩, ?_, ?_⟩
    · exact fun after => silent_of_complete merged before after
    · exact fun silent => (complete_of_silent merged silent).trans before
    · exact fun fault failed succeed => complete_eq_error merged succeed failed
    · exact fun api after entry member declares =>
        exists_resource_of_complete merged marked after member declares

/-- A document with some entries among its paths. -/
def petsWith (paths : List (String × Json)) : List (String × Json) :=
  [("swagger", .str "2.0"), ("info", .obj [("title", .str "a"), ("version", .str "1")]),
    ("paths", .obj paths)]

/-- The text of a document with one operation. -/
def petsText : String :=
  "\x7b\"swagger\":\"2.0\",\"info\":\x7b\"title\":\"a\",\"version\":\"1\"\x7d," ++
    "\"paths\":\x7b\"/pets\":\x7b\"get\":\x7b\x7d\x7d\x7d\x7d"

/-- The text with an annotation, and with an extension that has a verb. -/
def auditedText : String :=
  "\x7b\"swagger\":\"2.0\",\"info\":\x7b\"title\":\"a\",\"version\":\"1\"\x7d," ++
    "\"paths\":\x7b\"x-audit\":\x7b\"get\":\x7b\x7d\x7d," ++
    "\"/pets\":\x7b\"get\":\x7b\"x-note\":true\x7d\x7d\x7d\x7d"

/-- The text with an extension that is a text. -/
def ownedText : String :=
  "\x7b\"swagger\":\"2.0\",\"info\":\x7b\"title\":\"a\",\"version\":\"1\"\x7d," ++
    "\"paths\":\x7b\"x-owner\":\"team\",\"/pets\":\x7b\"get\":\x7b\x7d\x7d\x7d\x7d"

/-- The value of the first text. -/
theorem decode_petsText :
    decode petsText.toUTF8 = .ok (.obj (petsWith [("/pets", .obj [("get", .obj [])])])) := by
  have parsed : Json.parse? petsText =
      some (.obj (petsWith [("/pets", .obj [("get", .obj [])])])) := by cbv
  exact decode_of_parse parsed

/-- The value of the second text. -/
theorem decode_auditedText : decode auditedText.toUTF8 = .ok (.obj (petsWith
    [("x-audit", .obj [("get", .obj [])]),
      ("/pets", .obj [("get", .obj [("x-note", .bool true)])])])) := by
  have parsed : Json.parse? auditedText = some (.obj (petsWith
      [("x-audit", .obj [("get", .obj [])]),
        ("/pets", .obj [("get", .obj [("x-note", .bool true)])])])) := by cbv
  exact decode_of_parse parsed

/-- The value of the third text. -/
theorem decode_ownedText : decode ownedText.toUTF8 = .ok (.obj (petsWith
    [("x-owner", .str "team"), ("/pets", .obj [("get", .obj [])])])) := by
  have parsed : Json.parse? ownedText = some (.obj (petsWith
      [("x-owner", .str "team"), ("/pets", .obj [("get", .obj [])])])) := by cbv
  exact decode_of_parse parsed

/-- A document with a description is described. -/
theorem exists_of_decode {raw : ByteArray} {document : Json}
    (decoded : decode raw = .ok document) (works : (describe document).toBool = true) :
    ∃ api, normalize raw = .ok api := by
  unfold normalize
  rw [decoded]
  dsimp only [bind, Except.bind]
  cases outcome : describe document with
  | error fault => rw [outcome] at works; cases works
  | ok api => exact ⟨api, rfl⟩

/-- An extension with a verb becomes a resource, and the description is another one. -/
theorem normalize_annotated_audited :
    ∃ api api', normalize petsText.toUTF8 = .ok api ∧ normalize auditedText.toUTF8 = .ok api' ∧
      normalize auditedText.toUTF8 ≠ .ok api ∧
      ∃ resource ∈ api'.resources, resource.path = "/" ++ Text.trim "x-audit" := by
  have noted : List.Forall₂
      (fun entry entry' : String × Json => entry'.1 = entry.1 ∧ AnnotatedItem entry.2 entry'.2)
      [("/pets", .obj [("get", .obj [])])]
      [("/pets", .obj [("get", .obj [("x-note", .bool true)])])] :=
    .cons ⟨rfl, .entries (.cons ⟨rfl, .added (.left (.self [])) (by decide) (by decide)⟩ .nil)⟩ .nil
  have merged : Interleaves [("x-audit", Json.obj [("get", .obj [])])]
      [("/pets", .obj [("get", .obj [("x-note", .bool true)])])]
      [("x-audit", .obj [("get", .obj [])]),
        ("/pets", .obj [("get", .obj [("x-note", .bool true)])])] := .left (.self _)
  have declares : ¬DeclaresNothing (.obj [("get", .obj [])]) := by
    rintro ⟨_, same, _, idle⟩
    cases same
    cases idle .get
  obtain ⟨api, before⟩ := exists_of_decode decode_petsText (by rfl)
  obtain ⟨api', after⟩ := exists_of_decode decode_auditedText (by rfl)
  obtain ⟨_, same, _, resource⟩ := normalize_annotated decode_petsText rfl rfl noted merged
    (by decide) decode_auditedText
  refine ⟨api, api', before, after, ?_, ?_⟩
  · intro unchanged
    have silent := (same api before).mp unchanged ("x-audit", .obj [("get", .obj [])])
    exact declares (silent (by simp))
  · exact resource api' after ("x-audit", .obj [("get", .obj [])]) (by simp) declares

/-- An extension that is a text makes a document fail that has a description without it. -/
theorem owned_refused :
    decode petsText.toUTF8 = .ok (.obj (petsWith [("/pets", .obj [("get", .obj [])])])) ∧
      decode ownedText.toUTF8 = .ok (.obj (petsWith
        [("x-owner", .str "team"), ("/pets", .obj [("get", .obj [])])])) ∧
      isExtension "x-owner" = true ∧ (∃ api, normalize petsText.toUTF8 = .ok api) ∧
      normalize ownedText.toUTF8 = .error (.pathItem "x-owner") := by
  refine ⟨decode_petsText, decode_ownedText, by decide,
    exists_of_decode decode_petsText (by rfl), ?_⟩
  unfold normalize
  rw [decode_ownedText]
  rfl

end Document

end ControlPlane

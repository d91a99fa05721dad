import Mathlib.Data.List.TakeWhile
import ControlPlane.Proofs.Url.Host
import ControlPlane.Proofs.Text.Cut

/-! Backend targets that are declared without a scheme, and when they are read as plain HTTP. -/

namespace ControlPlane

namespace Url

/-- Text that begins with a scheme and the mark between a scheme and a host. -/
def BeginsWithScheme (cs : List Char) : Prop :=
  ∃ first more rest, first.isAlpha = true ∧ (∀ c ∈ more, isSchemeChar c = true) ∧
    cs = first :: (more ++ ':' :: '/' :: '/' :: rest)

/-- A scheme that is read stands at the front of the text, before a colon. -/
theorem exists_of_splitScheme? {cs scheme rest : List Char}
    (split : splitScheme? cs = some (scheme, rest)) :
    ∃ first more, first.isAlpha = true ∧ (∀ c ∈ more, isSchemeChar c = true) ∧
      cs = first :: (more ++ ':' :: rest) ∧ scheme = (first :: more).map Char.toLower := by
  -- The branches are those of reading a scheme: a letter first, and a colon behind it.
  unfold splitScheme? at split
  split at split
  · rename_i first others
    split at split
    · rename_i letter
      have inScheme : isSchemeChar first = true := by
        simp [isSchemeChar, Char.isAlphanum, letter]
      -- The letter is a character of schemes too, so the scheme is all up to the first other one.
      rw [List.dropWhile_cons_of_pos inScheme, List.takeWhile_cons_of_pos inScheme] at split
      split at split
      · rename_i colon
        cases split
        refine ⟨first, others.takeWhile isSchemeChar, letter,
          fun c => List.mem_takeWhile_imp, ?_, rfl⟩
        rw [← colon, List.takeWhile_append_dropWhile]
      · cases split
    · cases split
  · cases split

/-- Whether a text begins with a scheme and the mark can be seen by reading the scheme. -/
theorem beginsWithScheme_iff {cs : List Char} :
    BeginsWithScheme cs ↔ ((splitScheme? cs).any fun split => split.2.take 2 = ['/', '/']) = true := by
  constructor
  · -- Reading goes on to the colon, as all characters before it are those of schemes.
    rintro ⟨first, more, rest, letter, inScheme, rfl⟩
    have head : isSchemeChar first = true := by simp [isSchemeChar, Char.isAlphanum, letter]
    have behind : (first :: (more ++ ':' :: '/' :: '/' :: rest)).dropWhile isSchemeChar =
        ':' :: '/' :: '/' :: rest := by
      rw [List.dropWhile_cons_of_pos head, List.dropWhile_append_of_pos inScheme]
      rfl
    simp [splitScheme?, letter, behind]
  · intro marked
    obtain ⟨⟨scheme, rest⟩, split, mark⟩ := Option.any_eq_true _ _ |>.mp marked
    obtain ⟨first, more, letter, inScheme, rfl, _⟩ := exists_of_splitScheme? split
    -- The two slashes are the first of what stands behind the colon.
    have slashes : rest = ['/', '/'] ++ rest.drop 2 := by
      rw [← of_decide_eq_true mark, List.take_append_drop]
    exact ⟨first, more, rest.drop 2, letter, inScheme, by rw [slashes]; rfl⟩

instance (cs : List Char) : Decidable (BeginsWithScheme cs) :=
  decidable_of_iff _ beginsWithScheme_iff.symm

/-- Nothing is left off before a text is read that has no blanks and no control characters. -/
theorem filter_of_visible {text : String} (visible : ∀ c ∈ text.toList, 0x20 < c.val) :
    (Text.dropRight (fun c => c.val ≤ 0x20)
      (text.toList.dropWhile fun c => c.val ≤ 0x20)).filter
        (fun c => c ≠ '\t' && c ≠ '\n' && c ≠ '\r') = text.toList := by
  -- Every character is above those that are left off.
  have stays : ∀ c ∈ text.toList, decide (c.val ≤ 0x20) = false := by
    intro c member
    simpa using visible c member
  rw [Text.dropWhile_eq_self fun c first => stays c (List.mem_of_head? first),
    Text.dropRight_eq_self fun c last => stays c (List.mem_of_getLast? last), List.filter_eq_self]
  intro c member
  -- A tab or a line break would be a control character.
  have apart : ∀ d, decide (d.val ≤ 0x20) = true → c ≠ d := by
    rintro d control rfl
    rw [stays c member] at control
    cases control
  simp [apart '\t' (by decide), apart '\n' (by decide), apart '\r' (by decide)]

/-- The scheme of a URL that is read stands at the front of the text, in upper or lower case. -/
theorem exists_of_parse {text : String} {url : Url} (read : parse text = .ok url)
    (visible : ∀ c ∈ text.toList, 0x20 < c.val) :
    ∃ first more rest, first.isAlpha = true ∧ (∀ c ∈ more, isSchemeChar c = true) ∧
      text.toList = first :: (more ++ ':' :: rest) ∧
      url.scheme.toList = (first :: more).map Char.toLower := by
  obtain ⟨scheme, rest, split, same⟩ := splitScheme?_of_parse read
  -- No character is left off, so the scheme stands at the front of the text itself.
  rw [filter_of_visible visible] at split
  obtain ⟨first, more, letter, inScheme, whole, rfl⟩ := exists_of_splitScheme? split
  exact ⟨first, more, rest, letter, inScheme, whole, by rw [same, String.toList_ofList]⟩

end Url

namespace Endpoint

/-- A usable target: one of a given environment, at a host, over HTTP or over HTTPS with TLS, and
with a prefix of paths that no slash ends. -/
structure Serves (environment : Environment) (endpoint : Endpoint) : Prop where
  environment : endpoint.environment = environment
  host : endpoint.host ≠ ""
  scheme : endpoint.scheme = "http" ∧ endpoint.tls = false ∨
    endpoint.scheme = "https" ∧ endpoint.tls = true
  path : ∀ c ∈ endpoint.path.toList.getLast?, c ≠ '/'

/-- A text that is a URL of the web as it stands. -/
def NamesWeb (text : String) : Prop :=
  ∃ url, Url.parse text = .ok url ∧ (url.scheme = "http" ∨ url.scheme = "https")

/-- A URL names a target if it is of the web and has a host and a port; the scheme tells whether
there is TLS. -/
theorem ofUrl_eq_ok_iff {environment : Environment} {raw : String} {url : Url}
    {endpoint : Endpoint} :
    ofUrl environment raw url = .ok endpoint ↔
      ∃ tls host port, (url.scheme = "http" ∧ tls = false ∨ url.scheme = "https" ∧ tls = true) ∧
        url.host = some host ∧ url.effectivePort? = some port ∧
        endpoint =
          { environment, url := withScheme raw, scheme := url.scheme, host := bareHost host, port,
            path := String.ofList (Text.dropRight (· == '/') url.path.toList), tls } := by
  unfold ofUrl
  simp only [bind, Except.bind]
  constructor
  · intro success
    -- Without a host or a port every branch fails.
    cases named : url.host with
    | none =>
      simp only [named] at success
      split at success
      · cases success
      · split at success <;> cases success
    | some host =>
      cases usable : url.effectivePort? with
      | none =>
        simp only [named, usable] at success
        split at success
        · cases success
        · split at success <;> cases success
      | some port =>
        -- With a host and a port, the scheme alone decides.
        simp only [named, usable] at success
        split at success
        · rename_i plain
          exact ⟨false, host, port, Or.inl ⟨plain, rfl⟩, rfl, rfl, (Except.ok.inj success).symm⟩
        · split at success
          · rename_i secure
            exact ⟨true, host, port, Or.inr ⟨secure, rfl⟩, rfl, rfl, (Except.ok.inj success).symm⟩
          · cases success
  · rintro ⟨tls, host, port, web, named, usable, rfl⟩
    -- The two schemes of the web are told apart, and each fixes whether there is TLS.
    rw [named, usable]
    rcases web with ⟨plain, rfl⟩ | ⟨secure, rfl⟩
    · rw [if_pos plain]
      rfl
    · rw [if_neg (by rw [secure]; decide), if_pos secure]
      rfl

/-- A URL of the web names a target. -/
theorem exists_ofUrl {environment : Environment} {raw text : String} {url : Url}
    (read : Url.parse text = .ok url) (web : url.scheme = "http" ∨ url.scheme = "https") :
    ∃ endpoint, ofUrl environment raw url = .ok endpoint := by
  -- Reading such a URL gives it a host, and its scheme gives it a port.
  obtain ⟨host, named, _⟩ := Url.exists_host_of_parse read web
  obtain ⟨port, usable⟩ := Url.effectivePort?_isSome web
  have secured : ∃ tls, url.scheme = "http" ∧ tls = false ∨ url.scheme = "https" ∧ tls = true := by
    rcases web with plain | secure
    · exact ⟨false, Or.inl ⟨plain, rfl⟩⟩
    · exact ⟨true, Or.inr ⟨secure, rfl⟩⟩
  obtain ⟨tls, secured⟩ := secured
  exact ⟨_, ofUrl_eq_ok_iff.mpr ⟨tls, host, port, secured, named, usable, rfl⟩⟩

/-- A target that is read is what the URL names that the text is, or is with a scheme before it. -/
theorem parse_eq_ok_iff {environment : Environment} {raw : String} {endpoint : Endpoint} :
    parse environment raw = .ok endpoint ↔
      Text.trim raw ≠ "" ∧ ∃ url, Url.parse (withScheme (Text.trim raw)) = .ok url ∧
        ofUrl environment (Text.trim raw) url = .ok endpoint := by
  unfold parse
  dsimp only
  -- An empty text is refused before anything is read.
  by_cases filled : Text.trim raw = ""
  · simp [filled]
  · rw [if_neg (by simpa using filled)]
    cases Url.parse (withScheme (Text.trim raw)) with
    | error fault => simp
    | ok url => simp [filled]

/-- A target that is read is usable. -/
theorem serves_of_parse {environment : Environment} {raw : String} {endpoint : Endpoint}
    (success : parse environment raw = .ok endpoint) : endpoint.Serves environment := by
  obtain ⟨_, url, read, made⟩ := parse_eq_ok_iff.mp success
  -- The target is made of the URL that was read.
  obtain ⟨tls, host, port, web, named, _, rfl⟩ := ofUrl_eq_ok_iff.mp made
  -- A URL of the web has a host with a character that is no bracket.
  obtain ⟨name, found, visible⟩ := Url.exists_host_of_parse read (web.imp And.left And.left)
  rw [named] at found
  cases found
  refine ⟨rfl, bareHost_ne_empty visible, web, fun c last => ?_⟩
  rw [String.toList_ofList] at last
  simpa using Text.not_of_mem_getLast?_dropRight c last

/-- A text that is something is read as a target if it is a URL of the web, or is one with a scheme
before it. -/
theorem parse_succeeds_iff {environment : Environment} {raw : String}
    (filled : Text.trim raw ≠ "") :
    (∃ endpoint, parse environment raw = .ok endpoint) ↔
      NamesWeb (withScheme (Text.trim raw)) := by
  constructor
  · -- What names a target is of the web.
    rintro ⟨endpoint, success⟩
    obtain ⟨_, url, read, made⟩ := parse_eq_ok_iff.mp success
    obtain ⟨_, _, _, web, _⟩ := ofUrl_eq_ok_iff.mp made
    exact ⟨url, read, web.imp And.left And.left⟩
  · -- What is of the web names a target.
    rintro ⟨url, read, web⟩
    obtain ⟨endpoint, made⟩ := exists_ofUrl read web
    exact ⟨endpoint, parse_eq_ok_iff.mpr ⟨filled, url, read, made⟩⟩

/-- A target keeps the text that was read. -/
theorem url_of_parse {environment : Environment} {raw : String} {endpoint : Endpoint}
    (success : parse environment raw = .ok endpoint) :
    endpoint.url = withScheme (Text.trim raw) := by
  -- The target is made with the text, and nothing else is kept of it.
  obtain ⟨_, url, _, made⟩ := parse_eq_ok_iff.mp success
  obtain ⟨_, _, _, _, _, _, same⟩ := ofUrl_eq_ok_iff.mp made
  rw [same]

section Prefixed

variable {text : String}

/-- A text with the scheme of plain HTTP before it has a scheme. -/
theorem withScheme_prefixed : withScheme ("http://" ++ text) = "http://" ++ text := by
  -- The mark stands behind the four letters.
  have marked : Text.hasWord [':', '/', '/'] ("http://" ++ text).toList = true := by
    rw [String.toList_append]
    rfl
  rw [withScheme, if_pos marked]

/-- A trimmed text stays trimmed when the scheme of plain HTTP is put before it. -/
theorem trim_prefixed {raw : String} (filled : Text.trim raw ≠ "") :
    Text.trim ("http://" ++ Text.trim raw) = "http://" ++ Text.trim raw := by
  apply Text.trim_eq_self
  · intro c first
    rw [String.toList_append] at first
    cases first
    decide
  · intro c last
    -- The last character is that of the text, which is trimmed.
    rw [String.toList_append, List.getLast?_append_of_ne_nil _ (by simpa using filled)] at last
    exact Text.isBlank_of_mem_getLast?_trim c last

end Prefixed

/-- Two readings agree if they give the same target, or none of them gives one. -/
def Agrees (reading other : Except Fault Endpoint) : Prop :=
  (∃ endpoint, reading = .ok endpoint ∧ other = .ok endpoint) ∨
    ∃ fault fault', reading = .error fault ∧ other = .error fault'

/-- A reading fails if it gives no target. -/
theorem fails_iff {reading : Except Fault Endpoint} :
    (∃ fault, reading = .error fault) ↔ ¬∃ endpoint, reading = .ok endpoint := by
  -- Reading gives one of the two.
  cases reading with
  | error fault => simp
  | ok endpoint => simp

/-- Readings that give the same targets agree. -/
theorem agrees_of_iff {reading other : Except Fault Endpoint}
    (same : ∀ endpoint, reading = .ok endpoint ↔ other = .ok endpoint) : Agrees reading other := by
  cases outcome : reading with
  | ok endpoint => exact Or.inl ⟨endpoint, rfl, (same endpoint).mp outcome⟩
  | error fault =>
    -- If the other one gave a target, the first would have given it too.
    have none : ¬∃ endpoint, other = .ok endpoint := by
      rintro ⟨endpoint, success⟩
      rw [(same endpoint).mpr success] at outcome
      cases outcome
    obtain ⟨fault', failed⟩ := fails_iff.mpr none
    exact Or.inr ⟨fault, fault', rfl, failed⟩

/-- Readings that never give the same target agree if both fail. -/
theorem agrees_iff_of_ne {reading other : Except Fault Endpoint}
    (apart : ∀ endpoint, reading = .ok endpoint → other ≠ .ok endpoint) :
    Agrees reading other ↔
      ¬(∃ endpoint, reading = .ok endpoint) ∧ ¬∃ endpoint, other = .ok endpoint := by
  -- As no target is given by both, both must fail to agree.
  rw [← fails_iff, ← fails_iff]
  constructor
  · rintro (⟨endpoint, success, also⟩ | ⟨fault, fault', failed, too⟩)
    · exact absurd also (apart endpoint success)
    · exact ⟨⟨fault, failed⟩, fault', too⟩
  · rintro ⟨⟨fault, failed⟩, fault', too⟩
    exact Or.inr ⟨fault, fault', failed, too⟩

/-- A declared text that is something and does not begin with a scheme. -/
structure Schemeless (raw : String) : Prop where
  filled : Text.trim raw ≠ ""
  bare : ¬Url.BeginsWithScheme (Text.trim raw).toList

/-- A text without a scheme means plain HTTP if no scheme's mark stands anywhere in it. If one does,
the text alone is read, and it is a target only if it names a scheme of the web after all, with no
mark behind it. -/
theorem plain_http_iff (environment : Environment) {raw : String} (plain : Schemeless raw) :
    (Agrees (parse environment raw) (parse environment ("http://" ++ Text.trim raw)) ↔
      Text.hasWord [':', '/', '/'] (Text.trim raw).toList = false ∨
        ¬NamesWeb (Text.trim raw) ∧ ¬NamesWeb ("http://" ++ Text.trim raw)) ∧
    ((∀ c ∈ (Text.trim raw).toList, 0x20 < c.val) →
      Text.hasWord [':', '/', '/'] (Text.trim raw).toList = true →
        ∀ endpoint, parse environment raw = .ok endpoint →
          ∃ scheme rest, (Text.trim raw).toList = scheme ++ ':' :: rest ∧
            scheme.map Char.toLower = endpoint.scheme.toList ∧ ¬['/', '/'] <+: rest) := by
  -- With a scheme before it the text is not empty.
  have filled : Text.trim ("http://" ++ Text.trim raw) ≠ "" := by
    rw [trim_prefixed plain.filled]
    simp
  constructor
  · cases marked : Text.hasWord [':', '/', '/'] (Text.trim raw).toList with
    | false =>
      -- Both times the same text is read, and the target keeps the same text.
      have same : withScheme (Text.trim raw) = "http://" ++ Text.trim raw := by
        simp [withScheme, marked]
      simp only [true_or, iff_true]
      apply agrees_of_iff
      intro endpoint
      rw [parse_eq_ok_iff, parse_eq_ok_iff, trim_prefixed plain.filled, withScheme_prefixed, same]
      simp only [ofUrl_eq_ok_iff, withScheme_prefixed, same, ne_eq, plain.filled,
        trim_prefixed plain.filled ▸ filled, not_false_eq_true]
    | true =>
      have same : withScheme (Text.trim raw) = Text.trim raw := by simp [withScheme, marked]
      simp only [reduceCtorEq, false_or]
      -- A target keeps the text that was read, so the two have no target in common.
      rw [agrees_iff_of_ne, parse_succeeds_iff plain.filled, parse_succeeds_iff filled,
        trim_prefixed plain.filled, withScheme_prefixed, same]
      intro endpoint success also
      have kept := (url_of_parse success).symm.trans (url_of_parse also)
      rw [trim_prefixed plain.filled, withScheme_prefixed, same] at kept
      have longer := congrArg String.length kept
      simp at longer
  · intro visible marked endpoint success
    obtain ⟨_, url, read, made⟩ := parse_eq_ok_iff.mp success
    -- The target has the scheme of the URL that was read.
    obtain ⟨_, _, _, _, _, _, rfl⟩ := ofUrl_eq_ok_iff.mp made
    rw [withScheme, marked, if_pos rfl] at read
    obtain ⟨first, more, rest, letter, inScheme, whole, same⟩ := Url.exists_of_parse read visible
    refine ⟨first :: more, rest, whole, same.symm, ?_⟩
    rintro ⟨tail, rfl⟩
    -- A mark behind the scheme would make it one that the text begins with.
    exact plain.bare ⟨first, more, tail, letter, inScheme, whole⟩

/-- A text may name its scheme without a mark and have one in its query: the host it names is read,
and before the scheme of plain HTTP it would name none. -/
theorem plain_http_iff_httpColon :
    Schemeless "http:shop/pets?next=http://other" ∧
      parse .production "http:shop/pets?next=http://other" =
        .ok ⟨.production, "http:shop/pets?next=http://other", "http", "shop", 80, "/pets", false⟩ ∧
      (∃ scheme rest, "http:shop/pets?next=http://other".toList = scheme ++ ':' :: rest ∧
        scheme.map Char.toLower = "http".toList ∧ ¬['/', '/'] <+: rest) ∧
      ¬Agrees (parse .production "http:shop/pets?next=http://other")
        (parse .production ("http://" ++ Text.trim "http:shop/pets?next=http://other")) := by
  -- All that the statement asks for is computed, and the disagreement follows from it.
  have bare : Schemeless "http:shop/pets?next=http://other" := ⟨by decide, by decide⟩
  have read : parse .production "http:shop/pets?next=http://other" =
      .ok ⟨.production, "http:shop/pets?next=http://other", "http", "shop", 80, "/pets", false⟩ := by
    rfl
  have trimmed : Text.trim "http:shop/pets?next=http://other" =
      "http:shop/pets?next=http://other" := by decide
  have marked : Text.hasWord [':', '/', '/']
      (Text.trim "http:shop/pets?next=http://other").toList = true := by
    rw [trimmed]
    rfl
  have visible : ∀ c ∈ (Text.trim "http:shop/pets?next=http://other").toList, 0x20 < c.val := by
    rw [trimmed]
    have all : "http:shop/pets?next=http://other".toList.all (fun c => decide (0x20 < c.val)) := rfl
    simpa only [List.all_eq_true, decide_eq_true_eq] using all
  have general := plain_http_iff .production bare
  refine ⟨bare, read, ?_, ?_⟩
  · have named := general.2 visible marked _ read
    rw [trimmed] at named
    exact named
  · -- The mark is there and the text is of the web, so neither side of the condition holds.
    rw [general.1, not_or, marked]
    refine ⟨Bool.noConfusion, fun neither => neither.1 ?_⟩
    exact ⟨⟨"http", some "shop", none, "/pets"⟩, by rfl, Or.inl rfl⟩

/-- A host with a port and a URL in the query is refused, although it is one of plain HTTP with the
scheme before it. -/
theorem query_refused :
    Schemeless "shop:8080/pets?next=http://other" ∧
      parse .production "shop:8080/pets?next=http://other" =
        .error (.unsupported "shop:8080/pets?next=http://other" "shop") ∧
      parse .production ("http://" ++ Text.trim "shop:8080/pets?next=http://other") =
        .ok ⟨.production, "http://shop:8080/pets?next=http://other", "http", "shop", 8080, "/pets",
          false⟩ ∧
      ¬Agrees (parse .production "shop:8080/pets?next=http://other")
        (parse .production ("http://" ++ Text.trim "shop:8080/pets?next=http://other")) := by
  -- Both readings are computed: one is refused and the other gives a target.
  have refused : parse .production "shop:8080/pets?next=http://other" =
      .error (.unsupported "shop:8080/pets?next=http://other" "shop") := by rfl
  have read : parse .production ("http://" ++ Text.trim "shop:8080/pets?next=http://other") =
      .ok ⟨.production, "http://shop:8080/pets?next=http://other", "http", "shop", 8080, "/pets",
        false⟩ := by rfl
  refine ⟨⟨by decide, by decide⟩, refused, read, ?_⟩
  rw [refused, read]
  rintro (⟨_, success, _⟩ | ⟨_, _, _, failed⟩)
  · cases success
  · cases failed

end Endpoint

end ControlPlane

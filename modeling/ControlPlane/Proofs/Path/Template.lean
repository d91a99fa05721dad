import ControlPlane.Proofs.Path.Segments

/-! Path templates and the variables that they mention: which variables are left when a path becomes
a template, and under which names. -/

namespace ControlPlane.Path

/-- Whether some characters are none of them a brace. -/
def BraceFree (cs : List Char) : Prop := ∀ c ∈ cs, c ≠ '\x7b' ∧ c ≠ '\x7d'

instance (cs : List Char) : Decidable (BraceFree cs) :=
  List.decidableBAll (fun c => c ≠ '\x7b' ∧ c ≠ '\x7d') cs

/-- The names of the variables in a text, each of which stands between `{` and `}`. If the text
begins inside of a variable, `name` is the part of its name that was read before. -/
def namesFrom (name : Option (List Char)) : List Char → List (List Char)
  | [] => []
  | c :: rest =>
    if c = '\x7b' then namesFrom (some []) rest
    else if c = '\x7d' then name.toList ++ namesFrom none rest
    else namesFrom (name.map (· ++ [c])) rest

/-- The names of the variables that a template mentions, in their order. A template whose braces are
balanced, and do not stand in each other, has one variable for each pair. -/
def variableNames (text : String) : List (List Char) := namesFrom none text.toList

/-- A slash belongs to the name that is read, if there is one. -/
theorem namesFrom_slash (name : Option (List Char)) (rest : List Char) :
    namesFrom name ('/' :: rest) = namesFrom (name.map (· ++ ['/'])) rest := by
  -- A slash is no brace.
  rw [namesFrom, if_neg (by decide), if_neg (by decide)]

/-- Text without braces mentions no variables. -/
theorem namesFrom_append {front : List Char} (plain : BraceFree front) (rest : List Char) :
    namesFrom none (front ++ rest) = namesFrom none rest := by
  -- The induction is on the text in front, during which no name is begun.
  induction front with
  | nil => rfl
  | cons c front ih =>
    obtain ⟨⟨noOpening, noClosing⟩, later⟩ := List.forall_mem_cons.mp plain
    simp only [List.cons_append, namesFrom, if_neg noOpening, if_neg noClosing, Option.map_none]
    exact ih later

/-- A path that is nothing mentions no variables, and the root does not either. -/
theorem variableNames_orRoot (path : String) :
    variableNames (orRoot path) = variableNames path := by
  unfold orRoot
  -- The root is one slash, which is no brace.
  split
  · rename_i empty
    rw [empty]
    rfl
  · rfl

/-- Text without braces in front adds no variables. -/
theorem variableNames_append {front : String} (plain : BraceFree front.toList) (rest : String) :
    variableNames (front ++ rest) = variableNames rest := by
  rw [variableNames, String.toList_append, namesFrom_append plain]
  rfl

/-- What stands behind a prefix without braces, or alone, has all variables of the whole. -/
theorem variableNames_orRoot_append {front : String} (plain : BraceFree front.toList)
    (rest : String) : variableNames (orRoot (front ++ rest)) = variableNames rest := by
  rw [variableNames_orRoot, variableNames_append plain]

/-- A character of a name as templates have it. -/
def plainChar (c : Char) : Char := if isVariableChar c then c else '_'

/-- The names of a template are those of the path with every foreign character as `_`. -/
theorem namesFrom_plainVariables (name : Option (List Char)) (cs : List Char) :
    namesFrom (name.map (·.map plainChar)) (plainVariables name.isSome cs) =
      (namesFrom name cs).map (·.map plainChar) := by
  -- The induction is on the text, whether it begins inside of a variable or not.
  induction cs generalizing name with
  | nil => rfl
  | cons c rest ih =>
    by_cases opening : c = '\x7b'
    · -- A brace that opens begins a name anew.
      simpa [plainVariables, namesFrom, opening] using ih (some [])
    by_cases closing : c = '\x7d'
    · -- The name that was read ends here, if there is one, and the rest begins outside.
      have later := ih none
      rw [Option.map_none, Option.isSome_none] at later
      cases name <;> simp [plainVariables, namesFrom, closing, later]
    -- Any other character belongs to the name, if it stands inside of one.
    cases name with
    | none => simpa [plainVariables, namesFrom, opening, closing] using ih none
    | some name =>
      have later := ih (some (name ++ [c]))
      by_cases plain : isVariableChar c = true
      · simpa [plainVariables, namesFrom, opening, closing, plain, plainChar] using later
      · simpa [plainVariables, namesFrom, opening, closing, plain, plainChar] using later

/-- A template mentions the variables of its path, under plain names. -/
theorem variableNames_template (path : String) :
    variableNames (template path) = (variableNames path).map (·.map plainChar) := by
  rw [variableNames, template, String.toList_ofList]
  exact namesFrom_plainVariables none path.toList

/-- The names in a template are made of letters, digits and `_`. -/
theorem isVariableChar_of_mem_variableNames {path : String} {name : List Char}
    (mentioned : name ∈ variableNames (template path)) : ∀ c ∈ name, isVariableChar c = true := by
  rw [variableNames_template] at mentioned
  -- Every name is that of a variable of the path, with its characters made plain.
  obtain ⟨original, _, rfl⟩ := List.mem_map.mp mentioned
  intro c member
  obtain ⟨d, _, rfl⟩ := List.mem_map.mp member
  unfold plainChar
  split
  · assumption
  · decide

/-- Text without braces is its own template. -/
theorem plainVariables_append {front : List Char} (plain : BraceFree front) (rest : List Char) :
    plainVariables false (front ++ rest) = front ++ plainVariables false rest := by
  -- The induction is on the text in front, none of which stands inside of a variable.
  induction front with
  | nil => rfl
  | cons c front ih =>
    obtain ⟨⟨noOpening, noClosing⟩, later⟩ := List.forall_mem_cons.mp plain
    simp [plainVariables, noOpening, noClosing, ih later]

/-- Text without braces stands in front of the template of what is behind it. -/
theorem template_append {front : String} (plain : BraceFree front.toList) (rest : String) :
    template (front ++ rest) = front ++ template rest := by
  rw [template, String.toList_append, plainVariables_append plain, String.ofList_append,
    String.ofList_toList]
  rfl

/-- A template has as many characters as its path. -/
theorem length_plainVariables (inVariable : Bool) (cs : List Char) :
    (plainVariables inVariable cs).length = cs.length := by
  -- The induction is on the path, of which each character is written as one.
  induction cs generalizing inVariable with
  | nil => rfl
  | cons c rest ih =>
    unfold plainVariables
    split
    · rw [List.length_cons, List.length_cons, ih]
    · split
      · rw [List.length_cons, List.length_cons, ih]
      · split <;> rw [List.length_cons, List.length_cons, ih]

/-- A template is nothing only if the path is. -/
theorem template_orRoot (path : String) : template (orRoot path) = orRoot (template path) := by
  unfold orRoot
  by_cases empty : path = ""
  · rw [if_pos empty, empty]
    rfl
  · -- A template is as long as its path, so it is nothing only for nothing.
    have filled : template path ≠ "" := by
      rw [template, Ne, String.ofList_eq_empty_iff, ← List.length_eq_zero_iff,
        length_plainVariables, List.length_eq_zero_iff, String.toList_eq_nil_iff]
      exact empty
    rw [if_neg empty, if_neg filled]

/-- The characters of a path with slashes are slashes and characters of the path. -/
theorem braceFree_slashed {path : String} (plain : BraceFree path.toList) :
    BraceFree (slashed path).toList := by
  rw [toList_slashed]
  intro c member
  -- What is written with slashes is made of slashes and of the path.
  rcases mem_of_mem_spread member with rfl | among
  · decide
  · exact plain c among

/-- The template of two paths, the first without braces. -/
theorem template_join {first : String} (plain : BraceFree first.toList) (second : String) :
    template (join first second) = orRoot (slashed first ++ template (slashed second)) := by
  -- The first path has no braces, so making a template begins behind it.
  rw [join_eq, template_orRoot, template_append (braceFree_slashed plain)]

/-- A name with one slash for each run of slashes. -/
def squeeze (name : List Char) : List Char :=
  name.foldl (fun done c =>
    if c = '/' ∧ done.getLast? = some '/' then done else done ++ [c]) []

/-- One more character is added to a squeezed name, unless it is a slash behind a slash. -/
theorem squeeze_concat (name : List Char) (c : Char) :
    squeeze (name ++ [c]) =
      if c = '/' ∧ (squeeze name).getLast? = some '/' then squeeze name
      else squeeze name ++ [c] := by
  -- The character that is added comes last in the fold.
  rw [squeeze, List.foldl_append]
  rfl

/-- Names lose their repeated slashes when a path is read from the left. Inside a segment the name
that is read so far has been written; before a segment the last slash of the name is still to be
written. -/
theorem namesFrom_spread (cs : List Char) :
    (∀ name : Option (List Char), (∀ done ∈ name, (squeeze done).getLast? ≠ some '/') →
      namesFrom (name.map squeeze) (spread true cs) = (namesFrom name cs).map squeeze) ∧
    ∀ name written : Option (List Char), name.map squeeze = written.map (· ++ ['/']) →
      namesFrom written (spread false cs) = (namesFrom name cs).map squeeze := by
  -- The induction is on the text, for both places at which reading can be.
  induction cs with
  | nil => exact ⟨fun _ _ => rfl, fun _ _ _ => rfl⟩
  | cons c rest ih =>
    obtain ⟨inside, before⟩ := ih
    -- Any other character than a slash is written as it is, whatever the name read so far.
    have other : c ≠ '/' → ∀ name : Option (List Char),
        namesFrom (name.map squeeze) (c :: spread true rest) =
          (namesFrom name (c :: rest)).map squeeze := by
      intro noSlash name
      unfold namesFrom
      split
      · -- A name begins, of which nothing is written yet.
        exact inside (some []) (by simp [squeeze])
      · split
        · -- The name ends, and it is written as far as it was squeezed.
          rw [List.map_append, ← inside none (by simp)]
          cases name <;> rfl
        · -- The character joins the name, behind a slash or not.
          rw [← inside]
          · cases name <;> simp [squeeze_concat, noSlash]
          · cases name <;> simp [squeeze_concat, noSlash]
    constructor
    · intro name opened
      by_cases slash : c = '/'
      · -- The slash joins the name, and is written when the next segment begins.
        subst slash
        rw [spread, if_pos rfl, namesFrom_slash]
        refine before _ _ ?_
        cases name with
        | none => rfl
        | some done => simp [squeeze_concat, opened done rfl]
      · rw [spread, if_neg slash, if_pos rfl]
        exact other slash name
    · intro name written pending
      by_cases slash : c = '/'
      · -- The name ends with a slash already.
        subst slash
        rw [spread, if_pos rfl, namesFrom_slash]
        refine before _ _ ?_
        rw [← pending]
        cases name with
        | none => rfl
        | some done =>
          cases written with
          | none => cases pending
          | some text =>
            have ends : squeeze done = text ++ ['/'] := Option.some.inj pending
            simp [squeeze_concat, ends]
      · -- With the slash in front of the segment all of the name is written.
        rw [spread, if_neg slash, if_neg Bool.false_ne_true, namesFrom_slash, ← pending]
        exact other slash name

/-- A path with slashes mentions the variables of the path, with single slashes in their names. -/
theorem variableNames_slashed (path : String) :
    variableNames (slashed path) = (variableNames path).map squeeze := by
  rw [variableNames, toList_slashed]
  exact (namesFrom_spread path.toList).2 none none rfl

/-- Below a base without braces a path mentions all its variables. -/
theorem variableNames_relativeTo {base : String} (plain : BraceFree base.toList) (path : String) :
    variableNames (relativeTo base path) = variableNames path := by
  rw [variableNames, relativeTo, String.toList_ofList]
  -- The path is left as it is, or the base in front is left out, or nothing remains and the root
  -- stands for it.
  rcases belowBase_cases base.toList path.toList with same | behind | ⟨whole, root⟩
  · rw [same]
    rfl
  · -- What is left out in front has no braces.
    rw [variableNames, ← namesFrom_append plain, ← behind]
  · rw [root, variableNames, whole, ← List.append_nil base.toList, namesFrom_append plain]
    rfl

/-- The name of a variable as templates have it: with single slashes, and `_` for every character
that is no letter, digit or `_`. -/
def plainName (name : List Char) : List Char := (squeeze name).map plainChar

/-- The template of a path behind a base without braces mentions the variables of the path, under
their plain names. -/
theorem variableNames_template_join {base : String} (plain : BraceFree base.toList)
    (path : String) :
    variableNames (template (join base (relativeTo base path))) =
      (variableNames path).map plainName := by
  rw [variableNames_template, join_eq, variableNames_orRoot_append (braceFree_slashed plain),
    variableNames_slashed, variableNames_relativeTo plain, List.map_map]
  rfl

end ControlPlane.Path

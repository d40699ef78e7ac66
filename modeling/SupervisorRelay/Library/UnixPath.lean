import Mathlib.Data.List.Basic

/-! Unix paths as `std::path` reads them: a text, seen through its components.
Empty segments and interior `.` disappear, `..` stays. Resolution of `..` is
separate: it is what a file system without symbolic links does. -/

inductive PathComponent where
  | rootDir
  | curDir
  | parentDir
  | normal (name : String)
deriving DecidableEq

abbrev PathBuf := String

namespace PathComponent

def text : PathComponent → List Char
  | rootDir => ['/']
  | curDir => ['.']
  | parentDir => ['.', '.']
  | normal name => name.toList

/-- One segment between slashes, past the leading one. -/
def ofSegment : List Char → Option PathComponent
  | [] => none
  | ['.'] => none
  | ['.', '.'] => some parentDir
  | segment => some (normal (String.ofList segment))

/-- What a segment can turn into, and a text that turns into it again. -/
def Inner (component : PathComponent) : Prop :=
  '/' ∉ component.text ∧ ofSegment component.text = some component

theorem ofSegment_cases {segment : List Char} {component : PathComponent}
    (h : ofSegment segment = some component) :
    component.text = segment ∧ segment ≠ [] := by
  unfold ofSegment at h
  split at h
  · cases h
  · cases h
  · cases h
    exact ⟨rfl, by simp⟩
  · rename_i hempty _ _
    cases h
    exact ⟨by simp [text], hempty⟩

theorem inner_of_segment {segment : List Char} {component : PathComponent}
    (hslash : '/' ∉ segment) (h : ofSegment segment = some component) :
    component.Inner := by
  have htext := (ofSegment_cases h).1
  exact ⟨by rwa [htext], by rwa [htext]⟩

theorem Inner.ne_rootDir {component : PathComponent} (h : component.Inner) :
    component ≠ rootDir := by
  rintro rfl
  exact h.1 (by simp [text])

end PathComponent

namespace PathBuf

open PathComponent

def segments (chars : List Char) : List PathComponent :=
  (chars.splitOn '/').filterMap ofSegment

/-- `Path::components`. -/
def components (path : PathBuf) : List PathComponent :=
  match path.toList with
  | '/' :: rest => rootDir :: segments rest
  | chars =>
      if (chars.splitOn '/').head? = some ['.'] then curDir :: segments chars
      else segments chars

/-- `Path::is_absolute`, which on Unix is `has_root`. -/
def isAbsolute (path : PathBuf) : Bool :=
  path.components.head? = some rootDir

/-- `Path::starts_with`: whole components, nothing resolved. -/
def startsWith (path base : PathBuf) : Bool :=
  base.components.isPrefixOf path.components

/-- The text of a component sequence. -/
def ofComponents : List PathComponent → PathBuf
  | rootDir :: rest => String.ofList ('/' :: ['/'].intercalate (rest.map text))
  | relative => String.ofList (['/'].intercalate (relative.map text))

/-- `Path::parent`. -/
def parent (path : PathBuf) : Option PathBuf :=
  match path.components.getLast? with
  | none => none
  | some rootDir => none
  | some _ => some (ofComponents path.components.dropLast)

/-- `Path::file_name`. -/
def fileName (path : PathBuf) : Option String :=
  match path.components.getLast? with
  | some (normal name) => some name
  | _ => none

/-- `Path::join` with a single file name. -/
def join (directory : PathBuf) (name : String) : PathBuf :=
  if directory.toList.getLast? = some '/' ∨ directory.isEmpty then directory ++ name
  else directory ++ "/" ++ name

/-- Walk a component sequence from a stack of directory names; `..` at the root stays there. -/
def walk (stack : List String) : List PathComponent → List String
  | [] => stack
  | rootDir :: rest => walk [] rest
  | curDir :: rest => walk stack rest
  | parentDir :: rest => walk stack.dropLast rest
  | normal name :: rest => walk (stack ++ [name]) rest

/-- The names from the root down to where an absolute path leads when no
component is a symbolic link. -/
def resolve (path : PathBuf) : List String :=
  walk [] path.components

/-- The absolute path that lists these names. -/
def ofNames (names : List String) : PathBuf :=
  ofComponents (rootDir :: names.map normal)

/-- `Path::canonicalize` where no component is a symbolic link. -/
def canonical (path : PathBuf) : PathBuf :=
  ofNames path.resolve

private theorem notMem_of_mem_splitOn {separator : Char} {chars segment : List Char}
    (h : segment ∈ chars.splitOn separator) : separator ∉ segment := by
  induction chars generalizing segment with
  | nil =>
      rw [List.splitOn_nil, List.mem_singleton] at h
      simp [h]
  | cons c rest ih =>
      rw [List.splitOn_cons_eq_if_modifyHead] at h
      split at h
      · rcases List.mem_cons.mp h with rfl | h
        · simp
        · exact ih h
      · rename_i hc
        cases hrest : rest.splitOn separator with
        | nil => exact absurd hrest (List.splitOn_ne_nil _ _)
        | cons first others =>
            rw [hrest, List.modifyHead_cons] at h
            rcases List.mem_cons.mp h with rfl | h
            · have hfirst : separator ∉ first := ih (by simp [hrest])
              simp only [List.mem_cons, not_or]
              exact ⟨fun heq => hc (by simp [heq]), hfirst⟩
            · exact ih (by simp [hrest, h])

theorem segments_inner {chars : List Char} {component : PathComponent}
    (h : component ∈ segments chars) : component.Inner := by
  obtain ⟨segment, hmem, hof⟩ := List.mem_filterMap.mp h
  exact inner_of_segment (notMem_of_mem_splitOn hmem) hof

theorem filterMap_ofSegment_text {rest : List PathComponent} (h : ∀ c ∈ rest, c.Inner) :
    (rest.map text).filterMap ofSegment = rest := by
  induction rest with
  | nil => rfl
  | cons first others ih =>
      rw [List.map_cons, List.filterMap_cons, (h first List.mem_cons_self).2]
      rw [ih fun c hc => h c (List.mem_cons_of_mem _ hc)]

theorem segments_intercalate {rest : List PathComponent} (h : ∀ c ∈ rest, c.Inner) :
    segments (['/'].intercalate (rest.map text)) = rest := by
  unfold segments
  cases rest with
  | nil => simp [ofSegment]
  | cons first others =>
      rw [List.splitOn_intercalate, filterMap_ofSegment_text h]
      · intro segment hsegment
        obtain ⟨c, hc, rfl⟩ := List.mem_map.mp hsegment
        exact (h c hc).1
      · simp

theorem components_ofComponents {rest : List PathComponent} (h : ∀ c ∈ rest, c.Inner) :
    components (ofComponents (rootDir :: rest)) = rootDir :: rest := by
  simp [components, ofComponents, segments_intercalate h]

theorem isAbsolute_iff {path : PathBuf} :
    path.isAbsolute = true ↔ ∃ rest, path.components = rootDir :: rest ∧ ∀ c ∈ rest, c.Inner := by
  unfold isAbsolute components
  split
  · rename_i rest _
    simp only [List.head?_cons, decide_true, true_iff]
    exact ⟨segments rest, rfl, fun c hc => segments_inner hc⟩
  · constructor
    · intro h
      exfalso
      split at h
      · simp at h
      · rw [decide_eq_true_eq, List.head?_eq_some_iff] at h
        obtain ⟨tail, htail⟩ := h
        exact (segments_inner (htail ▸ List.mem_cons_self)).ne_rootDir rfl
    · rintro ⟨rest, hrest, -⟩
      exfalso
      split at hrest
      · cases hrest
      · exact (segments_inner (hrest ▸ List.mem_cons_self)).ne_rootDir rfl

@[simp] theorem walk_append (stack : List String) (first second : List PathComponent) :
    walk stack (first ++ second) = walk (walk stack first) second := by
  induction first generalizing stack with
  | nil => rfl
  | cons component rest ih => cases component <;> exact ih _

/-- A file name and a directory name alike: a segment that is kept as it stands. -/
def ValidName (name : String) : Prop :=
  (normal name).Inner

theorem walk_valid {stack : List String} {path : List PathComponent}
    (hstack : ∀ name ∈ stack, ValidName name) (hpath : ∀ c ∈ path, c.Inner) :
    ∀ name ∈ walk stack path, ValidName name := by
  induction path generalizing stack with
  | nil => exact hstack
  | cons component rest ih =>
      have hrest : ∀ c ∈ rest, c.Inner := fun c hc => hpath c (List.mem_cons_of_mem _ hc)
      cases component with
      | rootDir => exact ih (by simp) hrest
      | curDir => exact ih hstack hrest
      | parentDir => exact ih (fun name h => hstack name ((List.dropLast_sublist _).mem h)) hrest
      | normal name =>
          refine ih (fun other h => ?_) hrest
          rcases List.mem_append.mp h with h | h
          · exact hstack other h
          · rw [List.mem_singleton.mp h]
            exact hpath (normal name) List.mem_cons_self

theorem resolve_valid {path : PathBuf} (h : path.isAbsolute = true) :
    ∀ name ∈ path.resolve, ValidName name := by
  obtain ⟨rest, hrest, hinner⟩ := isAbsolute_iff.mp h
  unfold resolve
  rw [hrest, walk]
  exact walk_valid (by simp) hinner

theorem components_ofNames {names : List String} (h : ∀ name ∈ names, ValidName name) :
    components (ofNames names) = rootDir :: names.map normal := by
  apply components_ofComponents
  intro c hc
  obtain ⟨name, hname, rfl⟩ := List.mem_map.mp hc
  exact h name hname

theorem startsWith_ofNames {path base : List String} (hpath : ∀ name ∈ path, ValidName name)
    (hbase : ∀ name ∈ base, ValidName name) :
    (ofNames path).startsWith (ofNames base) = true ↔ base <+: path := by
  unfold startsWith
  rw [components_ofNames hpath, components_ofNames hbase, List.isPrefixOf_iff_prefix,
    List.cons_prefix_cons]
  simp only [true_and]
  exact List.prefix_map_iff_of_injective fun _ _ h => by cases h; rfl

/-- An absolute path with a file name is its parent followed by that name. -/
theorem parent_fileName {path : PathBuf} {name : String} (habs : path.isAbsolute = true)
    (hname : path.fileName = some name) :
    ∃ directory, path.parent = some directory ∧ directory.isAbsolute = true ∧
      path.components = directory.components ++ [normal name] := by
  obtain ⟨rest, hrest, hinner⟩ := isAbsolute_iff.mp habs
  unfold fileName at hname
  split at hname
  · rename_i last hlast
    cases hname
    obtain ⟨init, hinit⟩ := List.getLast?_eq_some_iff.mp hlast
    have hrestNe : rest ≠ [] := by
      rintro rfl
      simp [hrest] at hlast
    have hdrop : path.components.dropLast = rootDir :: rest.dropLast := by
      rw [hrest, List.dropLast_cons_of_ne_nil hrestNe]
    have hinner' : ∀ c ∈ rest.dropLast, c.Inner :=
      fun c hc => hinner c ((List.dropLast_sublist _).mem hc)
    have hcomponents : (ofComponents path.components.dropLast).components =
        path.components.dropLast := by
      rw [hdrop, components_ofComponents hinner']
    refine ⟨ofComponents path.components.dropLast, ?_, ?_, ?_⟩
    · unfold parent
      rw [hlast]
    · exact isAbsolute_iff.mpr ⟨rest.dropLast, by rw [hcomponents, hdrop], hinner'⟩
    · rw [hcomponents, hinit, List.dropLast_concat]
  · cases hname

theorem resolve_of_parent {path directory : PathBuf} {name : String}
    (h : path.components = directory.components ++ [normal name]) :
    path.resolve = directory.resolve ++ [name] := by
  unfold resolve
  rw [h, walk_append]
  rfl

private theorem intercalate_concat (separator : Char) (segments : List (List Char))
    (segment : List Char) :
    [separator].intercalate (segments ++ [segment]) =
      [separator].intercalate segments ++
        (if segments = [] then [] else [separator]) ++ segment := by
  induction segments with
  | nil => simp
  | cons first others ih =>
      rw [List.cons_append, List.intercalate_cons_of_ne_nil (by simp), ih]
      cases others with
      | nil => simp
      | cons second rest => simp

private theorem getLast?_intercalate {segments : List (List Char)} (hne : segments ≠ [])
    (h : ∀ segment ∈ segments, segment ≠ [] ∧ '/' ∉ segment) :
    ['/'].intercalate segments ≠ [] ∧ (['/'].intercalate segments).getLast? ≠ some '/' := by
  rcases List.eq_nil_or_concat' segments with rfl | ⟨init, last, rfl⟩
  · exact absurd rfl hne
  · have hlast := h last (by simp)
    rw [intercalate_concat, List.getLast?_append_of_ne_nil _ hlast.1]
    refine ⟨by simp [hlast.1], fun heq => ?_⟩
    exact hlast.2 (List.mem_of_getLast? heq)

theorem ValidName.text_ne_nil {name : String} (h : ValidName name) :
    name.toList ≠ [] ∧ '/' ∉ name.toList :=
  ⟨(ofSegment_cases h.2).2, h.1⟩

/-- Joining a name to a canonical directory appends it to the names. -/
theorem join_ofNames {names : List String} {name : String}
    (h : ∀ name ∈ names, ValidName name) :
    join (ofNames names) name = ofNames (names ++ [name]) := by
  have htext : ∀ names : List String, (names.map normal).map text = names.map String.toList := by
    intro names
    rw [List.map_map]
    rfl
  unfold join
  rcases eq_or_ne names [] with rfl | hne
  · simp [ofNames, ofComponents, text, String.ext_iff]
  · rw [if_neg]
    · simp [ofNames, ofComponents, String.ext_iff, htext, intercalate_concat, hne, text]
    · have hsegments : ∀ segment ∈ names.map String.toList, segment ≠ [] ∧ '/' ∉ segment := by
        intro segment hsegment
        obtain ⟨other, hother, rfl⟩ := List.mem_map.mp hsegment
        exact (h other hother).text_ne_nil
      have hlast := getLast?_intercalate (by simpa using hne) hsegments
      rw [not_or]
      constructor
      · simp only [ofNames, ofComponents, String.toList_ofList, htext]
        rw [List.getLast?_cons_of_ne_nil hlast.1]
        exact hlast.2
      · simp [ofNames, ofComponents]

/-- Walking the components from `depth` directories down, `..` is met with none left. -/
def climbs (depth : Nat) : List PathComponent → Bool
  | [] => false
  | normal _ :: rest => climbs (depth + 1) rest
  | parentDir :: rest => depth == 0 || climbs (depth - 1) rest
  | _ :: rest => climbs depth rest

/-- Past `base`, the path climbs out of `base` at some point. -/
def escapes (path base : PathBuf) : Bool :=
  climbs 0 (path.components.drop base.components.length)

theorem prefix_walk (base extra : List String) {path : List PathComponent}
    (hinner : ∀ c ∈ path, c.Inner) (h : climbs extra.length path = false) :
    base <+: walk (base ++ extra) path := by
  induction path generalizing extra with
  | nil => exact List.prefix_append base extra
  | cons component rest ih =>
      have hrest : ∀ c ∈ rest, c.Inner := fun c hc => hinner c (List.mem_cons_of_mem _ hc)
      cases component with
      | rootDir => exact absurd rfl (hinner _ List.mem_cons_self).ne_rootDir
      | curDir => exact ih extra hrest h
      | parentDir =>
          simp only [climbs, Bool.or_eq_false_iff, beq_eq_false_iff_ne] at h
          have hne : extra ≠ [] := fun hnil => h.1 (by simp [hnil])
          rw [walk, List.dropLast_append_of_ne_nil hne]
          exact ih _ hrest (by rw [List.length_dropLast]; exact h.2)
      | normal name =>
          rw [walk, List.append_assoc]
          exact ih _ hrest (by simpa [climbs] using h)

theorem resolve_prefix {path base : PathBuf} (hbase : base.isAbsolute = true)
    (hstarts : path.startsWith base = true) (hescapes : path.escapes base = false) :
    base.resolve <+: path.resolve := by
  unfold startsWith at hstarts
  obtain ⟨rest, hrest⟩ := List.isPrefixOf_iff_prefix.mp hstarts
  obtain ⟨inner, hinner, -⟩ := isAbsolute_iff.mp hbase
  have habs : path.isAbsolute = true := by
    unfold isAbsolute
    simp [← hrest, hinner]
  obtain ⟨all, hall, hallInner⟩ := isAbsolute_iff.mp habs
  have hrestInner : ∀ c ∈ rest, c.Inner := by
    intro c hc
    refine hallInner c ?_
    rw [hall, hinner, List.cons_append, List.cons.injEq] at hrest
    rw [← hrest.2]
    exact List.mem_append_right _ hc
  unfold escapes at hescapes
  rw [← hrest, List.drop_left] at hescapes
  unfold resolve
  rw [← hrest, walk_append]
  simpa using prefix_walk (walk [] base.components) [] hrestInner hescapes

end PathBuf

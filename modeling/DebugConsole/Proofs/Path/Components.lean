import DebugConsole.Path.Clean
import Mathlib.Data.List.Basic

/-!
# Components of written paths

The components that a path is written from are read back from it
(`Path.componentsOf_write`), as long as each of them stands for itself between separators.
The components of a path are its root, if it starts there, and those of its telling parts:
the empty parts and the parts `.` say nothing (`Path.components_eq`, but for a `.` in
front). A join puts the telling parts of two paths together (`Path.tellingParts_join`).
-/

namespace DebugConsole.Path

/-! ## Parts -/

theorem separator_not_mem {text part : List Char} (member : part ∈ text.splitOn '/') :
    '/' ∉ part := by
  induction text generalizing part with
  | nil =>
    obtain rfl : part = [] := by simpa using member
    exact List.not_mem_nil
  | cons character text inductionHypothesis =>
    rw [List.splitOn_cons_eq_if_modifyHead] at member
    split at member
    · rcases List.mem_cons.mp member with rfl | later
      · exact List.not_mem_nil
      · exact inductionHypothesis later
    · next different =>
      obtain ⟨first, later, shape⟩ := List.exists_cons_of_ne_nil (List.splitOn_ne_nil '/' text)
      rw [shape, List.modifyHead_cons] at member
      rcases List.mem_cons.mp member with rfl | behind
      · have inside : '/' ∉ first := inductionHypothesis (by rw [shape]; exact List.mem_cons_self)
        rintro (_ | ⟨_, found⟩)
        · exact different (beq_self_eq_true '/')
        · exact inside found
      · exact inductionHypothesis (by rw [shape]; exact List.mem_cons_of_mem _ behind)

/-- Does a part between separators name a component? -/
def tells (part : List Char) : Bool := !(part == [] || part == ['.'])

/-- The parts of a path that name components. -/
def tellingParts (path : Path) : List (List Char) := (path.text.toList.splitOn '/').filter tells

/-- The component of a part that tells. -/
def Component.ofPart (part : List Char) : Component :=
  if part == ['.', '.'] then .parent else .name part

theorem Component.ofPart?_eq (part : List Char) :
    ofPart? part = if tells part then some (ofPart part) else none := by
  unfold ofPart? tells ofPart
  cases part == [] || part == ['.'] <;> simp
  split <;> rfl

theorem filterMap_ofPart? (parts : List (List Char)) :
    parts.filterMap Component.ofPart? = (parts.filter tells).map Component.ofPart := by
  induction parts with
  | nil => rfl
  | cons part later inductionHypothesis =>
    rw [List.filterMap_cons, List.filter_cons, Component.ofPart?_eq, inductionHypothesis]
    cases tells part <;> rfl

/-- The root, for a path that starts there. -/
def start (path : Path) : List Component := if path.isAbsolute then [.root] else []

/-- The components of a path. A `.` counts only where it is the first part. -/
theorem components_eq (path : Path) :
    path.components = path.start ++ path.tellingParts.map Component.ofPart ∨
      path.isAbsolute = false ∧
        path.components = .current :: path.tellingParts.map Component.ofPart := by
  unfold components componentsOf start isAbsolute tellingParts
  dsimp only
  rw [filterMap_ofPart?]
  cases startsAtRoot path.text.toList with
  | true => exact .inl rfl
  | false =>
    simp only [Bool.false_eq_true, if_false, true_and]
    split
    · exact .inr rfl
    · exact .inl rfl

/-! ## Joins -/

theorem filter_tells_splitOn (front back : List Char) :
    ((front ++ '/' :: back).splitOn '/').filter tells =
      (front.splitOn '/').filter tells ++ (back.splitOn '/').filter tells := by
  rw [List.splitOn_append_cons_self, List.filter_append]

theorem tellingParts_join {base file : Path} (relative : file.isAbsolute = false) :
    (base.join file).tellingParts = base.tellingParts ++ file.tellingParts := by
  unfold join tellingParts
  simp only [relative, Bool.false_eq_true, if_false, String.toList_ofList]
  rcases List.eq_nil_or_concat base.text.toList with nothing | ⟨front, last, shape⟩
  · rw [nothing]
    rfl
  · rw [shape]
    by_cases separated : last = '/'
    · -- The base ends with a separator, behind which there is an empty part.
      subst separated
      have ends : ((front ++ ['/']).splitOn '/').filter tells =
          (front.splitOn '/').filter tells := by
        rw [filter_tells_splitOn]
        exact List.append_nil _
      simpa [ends] using filter_tells_splitOn front file.text.toList
    · simpa [separated] using filter_tells_splitOn (front ++ [last]) file.text.toList

/-- A relative path starts where the directory does that it is joined to. -/
theorem isAbsolute_join {file : Path} (relative : file.isAbsolute = false)
    (base : Path) : (base.join file).isAbsolute = base.isAbsolute := by
  have unrooted : startsAtRoot file.text.toList = false := relative
  unfold join isAbsolute
  simp only [unrooted, Bool.false_eq_true, if_false, String.toList_ofList]
  cases base.text.toList with
  | nil => exact unrooted
  | cons first others => rfl

/-! ## Writing -/

/-- A component that is read back from its part. -/
structure Component.Stands (component : Component) : Prop where
  back : ofPart? component.part = some component
  whole : '/' ∉ component.part

theorem Component.stands_parent : Component.Stands .parent := ⟨rfl, by decide⟩

theorem Component.part_ofPart {part : List Char} : (ofPart part).part = part := by
  unfold ofPart
  split
  · next dots => exact (beq_iff_eq.mp dots).symm
  · rfl

theorem stands_of_tellingParts {path : Path} {part : List Char}
    (member : part ∈ path.tellingParts) : (Component.ofPart part).Stands := by
  obtain ⟨between, telling⟩ := List.mem_filter.mp member
  refine ⟨?_, ?_⟩
  · rw [Component.part_ofPart, Component.ofPart?_eq, if_pos telling]
  · rw [Component.part_ofPart]
    exact separator_not_mem between

namespace Component.Stands

variable {component : Component}

theorem part_ne_nil (stands : component.Stands) : component.part ≠ [] := by
  intro empty
  have back := stands.back
  rw [empty] at back
  cases back

theorem part_ne_current (stands : component.Stands) : component.part ≠ ['.'] := by
  intro single
  have back := stands.back
  rw [single] at back
  cases back

theorem ne_root (stands : component.Stands) : component ≠ .root := by
  rintro rfl
  exact stands.part_ne_nil rfl

end Component.Stands

theorem filterMap_part {components : List Component}
    (standing : ∀ component ∈ components, component.Stands) :
    (components.map Component.part).filterMap Component.ofPart? = components := by
  induction components with
  | nil => rfl
  | cons component later inductionHypothesis =>
    obtain ⟨here, others⟩ := List.forall_mem_cons.mp standing
    rw [List.map_cons, List.filterMap_cons, here.back, inductionHypothesis others]

/-- The parts of joined components are the components again. -/
theorem filterMap_splitOn {components : List Component}
    (standing : ∀ component ∈ components, component.Stands) :
    ((['/'].intercalate (components.map Component.part)).splitOn '/').filterMap
      Component.ofPart? = components := by
  cases components with
  | nil => rfl
  | cons component later =>
    rw [List.splitOn_intercalate, filterMap_part standing]
    · intro part member
      obtain ⟨source, inside, rfl⟩ := List.mem_map.mp member
      exact (standing source inside).whole
    · exact List.cons_ne_nil _ _

theorem write_root (components : List Component) :
    write (.root :: components) = '/' :: ['/'].intercalate (components.map Component.part) := rfl

theorem write_of_stands {components : List Component}
    (standing : ∀ component ∈ components, component.Stands) :
    write components = ['/'].intercalate (components.map Component.part) := by
  cases components with
  | nil => rfl
  | cons component later =>
    have other := (standing component List.mem_cons_self).ne_root
    cases component with
    | root => exact absurd rfl other
    | current | parent | name _ => rfl

/-- The first part of joined components. -/
theorem head?_splitOn {component : Component} {later : List Component}
    (standing : ∀ other ∈ component :: later, other.Stands) :
    ((['/'].intercalate ((component :: later).map Component.part)).splitOn '/').head? =
      some component.part := by
  rw [List.splitOn_intercalate]
  · rfl
  · intro part member
    obtain ⟨source, inside, rfl⟩ := List.mem_map.mp member
    exact (standing source inside).whole
  · exact List.cons_ne_nil _ _

theorem startsAtRoot_write {components : List Component}
    (standing : ∀ component ∈ components, component.Stands) :
    startsAtRoot (write components) = false := by
  rw [write_of_stands standing]
  cases components with
  | nil => rfl
  | cons component later =>
    have here := standing component List.mem_cons_self
    obtain ⟨first, others, shape⟩ := List.exists_cons_of_ne_nil here.part_ne_nil
    have unslashed : first ≠ '/' := by
      rintro rfl
      exact here.whole (by rw [shape]; exact List.mem_cons_self)
    have front : (['/'].intercalate ((component :: later).map Component.part)).head? =
        some first := by
      cases later with
      | nil => simp [shape]
      | cons second later => simp [shape, List.intercalate_cons_cons]
    rw [startsAtRoot, front]
    simpa using unslashed

/-- The components that a path is written from are those that it is read as. -/
theorem componentsOf_write {components : List Component}
    (standing : ∀ component ∈ components, component.Stands) :
    componentsOf (write (.root :: components)) = .root :: components ∧
      componentsOf (write components) = components := by
  constructor
  · have rooted := filterMap_splitOn standing
    have split : ('/' :: ['/'].intercalate (components.map Component.part)).splitOn '/' =
        [] :: (['/'].intercalate (components.map Component.part)).splitOn '/' := by
      rw [List.splitOn_cons_eq_if_modifyHead, if_pos (beq_self_eq_true '/')]
    rw [write_root]
    unfold componentsOf
    dsimp only
    rw [split, List.filterMap_cons, rooted]
    rfl
  · have unrooted := startsAtRoot_write standing
    unfold componentsOf
    simp only [unrooted, Bool.false_eq_true, if_false]
    rw [write_of_stands standing, filterMap_splitOn standing]
    cases components with
    | nil => rfl
    | cons component later =>
      have named := (standing component List.mem_cons_self).part_ne_current
      rw [head?_splitOn standing]
      simp [named]

end DebugConsole.Path

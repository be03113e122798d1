import DebugConsole.Location
import DebugConsole.Proofs.Path.Components

/-!
# Lexical resolution

Resolved lexically, a path keeps a `..` only where it is seen from elsewhere and no name is
left that the `..` could cancel. Cleaning agrees with this resolution on the names that are
left, but not on the `..` that find no name: they cancel each other in pairs, and an odd one
stays, behind the root as well (`Location.resolve_course`). So the two agree exactly on the
absolute paths with an even number of such `..` and on the relative ones with at most one.
-/

namespace DebugConsole

namespace Path

/-- Resolves one more component, the earlier ones being given last first. A `.` is dropped.
A `..` cancels the name in front of it; directly behind the root it is dropped, and where
no name is left it is kept. -/
def resolveComponent (resolved : List Component) : Component → List Component
  | .current => resolved
  | .parent =>
    match resolved with
    | .name _ :: earlier => earlier
    | [.root] => [.root]
    | kept => .parent :: kept
  | component => component :: resolved

/-- The components that are left of others, in order. -/
def resolveComponents (components : List Component) : List Component :=
  (components.foldl resolveComponent []).reverse

/-- The path that a path stands for lexically. -/
def lexical (path : Path) : Path := ⟨String.ofList (write (resolveComponents path.components))⟩

/-! ## Courses -/

/-- Where components lead: how many of the `..` find no name to cancel, and the names that
are left, the last one first. -/
structure Course where
  unmatched : Nat
  names : List (List Char)

namespace Course

/-- One more component. -/
def step (course : Course) : Component → Course
  | .root | .current => course
  | .parent =>
    match course.names with
    | [] => { course with unmatched := course.unmatched + 1 }
    | _ :: earlier => { course with names := earlier }
  | .name text => { course with names := text :: course.names }

/-- The names of a course behind some `..`. -/
def components (course : Course) (kept : Nat) : List Component :=
  List.replicate kept .parent ++ course.names.reverse.map .name

/-- What lies on `bottom` after a course, the last component first. -/
def stack (course : Course) (bottom : List Component) (kept : Nat) : List Component :=
  course.names.map .name ++ (List.replicate kept .parent ++ bottom)

theorem reverse_stack (course : Course) {bottom : List Component}
    (bare : bottom = [] ∨ bottom = [.root]) (kept : Nat) :
    (course.stack bottom kept).reverse = bottom ++ course.components kept := by
  rcases bare with rfl | rfl <;> simp [stack, components]

/-- A way to take in one more component follows courses if what lies on `bottom` is always
the names that are left, on as many `..` as are kept. -/
def Followed (bottom : List Component) (kept : Nat → Nat)
    (next : List Component → Component → List Component) : Prop :=
  ∀ (course : Course) {component : Component}, component ≠ .root →
    next (course.stack bottom (kept course.unmatched)) component =
      (course.step component).stack bottom (kept (course.step component).unmatched)

variable {bottom : List Component}

/-- Cleaning keeps the odd one of the `..` that find no name. -/
theorem followed_clean (bare : bottom = [] ∨ bottom = [.root]) :
    Followed bottom (· % 2) appendComponent := by
  rintro ⟨unmatched, names⟩ component below
  cases component with
  | root => exact absurd rfl below
  | current => rfl
  | name text => rfl
  | parent =>
    cases names with
    | cons last earlier => rfl
    | nil =>
      rcases Nat.mod_two_eq_zero_or_one unmatched with even | odd
      · have next : (unmatched + 1) % 2 = 1 := by omega
        simp only [step, stack, even, next]
        rcases bare with rfl | rfl <;> rfl
      · have next : (unmatched + 1) % 2 = 0 := by omega
        simp only [step, stack, odd, next]
        rcases bare with rfl | rfl <;> rfl

/-- Resolution keeps them all in front of a relative path. -/
theorem followed_relative : Followed [] id resolveComponent := by
  rintro ⟨unmatched, names⟩ component below
  cases component with
  | root => exact absurd rfl below
  | current => rfl
  | name text => rfl
  | parent =>
    cases names with
    | cons last earlier => rfl
    | nil => cases unmatched <;> rfl

/-- Resolution keeps none behind the root. -/
theorem followed_absolute : Followed [.root] (fun _ => 0) resolveComponent := by
  rintro ⟨unmatched, names⟩ component below
  cases component with
  | root => exact absurd rfl below
  | current => rfl
  | name text => rfl
  | parent => cases names <;> rfl

theorem Followed.foldl {kept : Nat → Nat} {next : List Component → Component → List Component}
    (followed : Followed bottom kept next) {components : List Component}
    (below : ∀ component ∈ components, component ≠ .root) (course : Course) :
    components.foldl next (course.stack bottom (kept course.unmatched)) =
      (components.foldl step course).stack bottom
        (kept (components.foldl step course).unmatched) := by
  induction components generalizing course with
  | nil => rfl
  | cons component later inductionHypothesis =>
    obtain ⟨here, others⟩ := List.forall_mem_cons.mp below
    rw [List.foldl_cons, List.foldl_cons, followed course here, inductionHypothesis others]

end Course

/-- Where a path leads. -/
def course (path : Path) : Course := path.components.foldl Course.step ⟨0, []⟩

theorem course_eq (path : Path) :
    path.course = (path.tellingParts.map Component.ofPart).foldl Course.step ⟨0, []⟩ := by
  unfold course
  rcases path.components_eq with rooted | ⟨-, seen⟩
  · rw [rooted, start]
    split <;> rfl
  · rw [seen]
    rfl

theorem start_bare (path : Path) : path.start = [] ∨ path.start = [.root] := by
  unfold start
  split
  · exact .inr rfl
  · exact .inl rfl

theorem ofPart_ne_root (path : Path) :
    ∀ component ∈ path.tellingParts.map Component.ofPart, component ≠ .root := by
  intro component member
  obtain ⟨part, inside, rfl⟩ := List.mem_map.mp member
  exact (stands_of_tellingParts inside).ne_root

/-- What follows the courses behind the start of a path ends where the path leads. -/
theorem Course.Followed.reverse_foldl {path : Path} {kept : Nat → Nat}
    {next : List Component → Component → List Component}
    (followed : Followed path.start kept next) (nothing : kept 0 = 0)
    (root : next [] .root = [.root]) (current : next [] .current = []) :
    (path.components.foldl next []).reverse =
      path.start ++ path.course.components (kept path.course.unmatched) := by
  have begun : path.components.foldl next [] =
      (path.tellingParts.map Component.ofPart).foldl next path.start := by
    rcases path.components_eq with rooted | ⟨unrooted, seen⟩
    · rw [rooted, List.foldl_append]
      congr 1
      unfold start
      split
      · exact root
      · rfl
    · rw [seen, List.foldl_cons, current, start, unrooted]
      rfl
  have bottom : path.start = (⟨0, []⟩ : Course).stack path.start (kept 0) := by
    rw [nothing]
    rfl
  rw [begun, ← Course.reverse_stack _ path.start_bare]
  conv_lhs => rw [bottom]
  rw [followed.foldl path.ofPart_ne_root ⟨0, []⟩, ← path.course_eq]

/-- Cleaning keeps the names of the course, and one `..` if an odd number finds no name. -/
theorem cleanComponents_eq (path : Path) :
    cleanComponents path.components =
      path.start ++ path.course.components (path.course.unmatched % 2) :=
  (Course.followed_clean path.start_bare).reverse_foldl rfl rfl rfl

/-- Resolution keeps the names of the course, and where the path does not start at the root
all `..` that find no name. -/
theorem resolveComponents_eq (path : Path) :
    resolveComponents path.components =
      path.start ++ path.course.components
        (if path.isAbsolute then 0 else path.course.unmatched) := by
  cases absolute : path.isAbsolute with
  | true =>
    have rooted : path.start = [.root] := if_pos absolute
    exact Course.Followed.reverse_foldl (rooted ▸ Course.followed_absolute) rfl rfl rfl
  | false =>
    have bare : path.start = [] := if_neg (by simp [absolute])
    exact Course.Followed.reverse_foldl (bare ▸ Course.followed_relative) rfl rfl rfl

/-! ## Texts -/

/-- Every name of a course is one of the path. -/
theorem names_subset (components : List Component) (course : Course) {text : List Char}
    (member : text ∈ (components.foldl Course.step course).names) :
    text ∈ course.names ∨ .name text ∈ components := by
  induction components generalizing course with
  | nil => exact .inl member
  | cons component later inductionHypothesis =>
    rcases inductionHypothesis _ member with earlier | behind
    · cases component with
      | root | current => exact .inl earlier
      | parent =>
        obtain ⟨unmatched, _ | ⟨last, others⟩⟩ := course
        · exact .inl earlier
        · exact .inl (List.mem_cons_of_mem _ earlier)
      | name here =>
        rcases List.mem_cons.mp earlier with rfl | before
        · exact .inr List.mem_cons_self
        · exact .inl before
    · exact .inr (List.mem_cons_of_mem _ behind)

/-- What is left of a path can be written. -/
theorem stands_of_course {path : Path} {kept : Nat} {component : Component}
    (member : component ∈ path.course.components kept) : component.Stands := by
  rcases List.mem_append.mp member with parent | name
  · obtain rfl := List.eq_of_mem_replicate parent
    exact Component.stands_parent
  · obtain ⟨text, inside, rfl⟩ := List.mem_map.mp name
    rw [List.mem_reverse, path.course_eq] at inside
    rcases names_subset _ _ inside with nothing | written
    · cases nothing
    · obtain ⟨part, telling, same⟩ := List.mem_map.mp written
      exact same ▸ stands_of_tellingParts telling

/-- The path that is written from components. -/
def ofComponents (components : List Component) : Path := ⟨String.ofList (write components)⟩

/-- What is written behind the start of a path is read back. -/
theorem components_ofComponents (path : Path) (kept : Nat) :
    (ofComponents (path.start ++ path.course.components kept)).components =
      path.start ++ path.course.components kept := by
  have standing : ∀ component ∈ path.course.components kept, component.Stands := fun _ =>
    stands_of_course
  unfold components ofComponents
  rw [String.toList_ofList]
  rcases path.start_bare with bare | rooted
  · rw [bare]
    exact (componentsOf_write standing).2
  · rw [rooted]
    exact (componentsOf_write standing).1

theorem clean_eq (path : Path) :
    path.clean =
      ofComponents (path.start ++ path.course.components (path.course.unmatched % 2)) := by
  rw [← cleanComponents_eq]
  rfl

theorem lexical_eq (path : Path) :
    path.lexical = ofComponents (path.start ++ path.course.components
      (if path.isAbsolute then 0 else path.course.unmatched)) := by
  rw [← resolveComponents_eq]
  rfl

theorem ofComponents_inj (path : Path) {left right : Nat} :
    ofComponents (path.start ++ path.course.components left) =
        ofComponents (path.start ++ path.course.components right) ↔ left = right := by
  constructor
  · intro same
    have read := congrArg components same
    rw [components_ofComponents, components_ofComponents] at read
    have kept := List.append_cancel_right (List.append_cancel_left read)
    simpa using congrArg List.length kept
  · intro same
    rw [same]

/-- A file name, seen from a directory. -/
def seenFrom (base file : Path) : Path := if file.isAbsolute then file else base.join file

theorem isAbsolute_seenFrom {base : Path} (absolute : base.isAbsolute = true) (file : Path) :
    (seenFrom base file).isAbsolute = true := by
  unfold seenFrom
  split
  · next already => exact already
  · next relative =>
    rw [isAbsolute_join (Bool.eq_false_iff.mpr relative)]
    exact absolute

/-- Cleaning is resolution exactly where no `..` is left over: where they come in pairs
behind the root, and where there is one at most in front of the names. -/
theorem clean_eq_lexical_iff (path : Path) :
    path.clean = path.lexical ↔
      if path.isAbsolute then path.course.unmatched % 2 = 0 else path.course.unmatched ≤ 1 := by
  rw [clean_eq, lexical_eq, ofComponents_inj]
  split <;> omega

end Path

namespace Location

theorem Policy.path_absolute (base file : Path) :
    Policy.path file (.absolute base) = (Path.seenFrom base file).clean := by
  rw [Policy.path, Path.seenFrom]

theorem resolve_file {policy : Policy} {file line : List Char} {location : Location}
    (resolves : resolve policy file line = .ok location) :
    location.file = policy.path ⟨String.ofList (Text.trim file)⟩ := by
  unfold resolve at resolves
  dsimp only at resolves
  split at resolves
  · cases resolves
  · split at resolves
    · cases resolves
    · cases resolves
      rfl
    · cases resolves

/-- Where a file name leads. The path of a location has the start of the name, seen from the
base, and the names that lexical resolution leaves. Of the `..` that find no name to cancel,
resolution drops all behind the root and keeps all in front of a relative path, while the
location keeps none of an even number and one of an odd number. So the location is the
resolved name where that makes no difference, and only there. -/
theorem resolve_course {base : Path} {file line : List Char} {location : Location}
    (resolves : resolve (.absolute base) file line = .ok location) :
    let seen := Path.seenFrom base ⟨String.ofList (Text.trim file)⟩
    location.file.components =
      seen.start ++ seen.course.components (seen.course.unmatched % 2) ∧
    seen.lexical.components =
      seen.start ++ seen.course.components
        (if seen.isAbsolute then 0 else seen.course.unmatched) ∧
    (location.file = seen.lexical ↔
      if seen.isAbsolute then seen.course.unmatched % 2 = 0 else seen.course.unmatched ≤ 1) ∧
    (base.isAbsolute = true →
      ∃ rest, location.file.components = .root :: rest ∧ .root ∉ rest ∧ .current ∉ rest) := by
  intro seen
  have cleaned : location.file = seen.clean := by
    rw [resolve_file resolves, Policy.path_absolute]
  have left : location.file.components =
      seen.start ++ seen.course.components (seen.course.unmatched % 2) := by
    rw [cleaned, Path.clean_eq, Path.components_ofComponents]
  refine ⟨left, ?_, ?_, fun absolute => ?_⟩
  · rw [Path.lexical_eq, Path.components_ofComponents]
  · rw [cleaned]
    exact seen.clean_eq_lexical_iff
  · have rooted : seen.start = [.root] := if_pos (Path.isAbsolute_seenFrom absolute _)
    refine ⟨_, by rw [left, rooted, List.singleton_append], ?_, ?_⟩
    · intro member
      exact (Path.stands_of_course member).ne_root rfl
    · intro member
      exact (Path.stands_of_course member).part_ne_current rfl

/-- Three steps up from a directory two levels below the root: the third finds no name, so it
stays in the path. -/
theorem resolve_course_above_root :
    let location : Location := ⟨⟨"/../x.c"⟩, 3⟩
    resolve (.absolute ⟨"/home/user"⟩) "lib/../../../../x.c".toList "3".toList = .ok location ∧
    location.file.components = [.root, .parent, .name ['x', '.', 'c']] ∧
    location.file ≠ (Path.seenFrom ⟨"/home/user"⟩ ⟨"lib/../../../../x.c"⟩).lexical := by
  intro location
  have resolves : resolve (.absolute ⟨"/home/user"⟩) "lib/../../../../x.c".toList "3".toList =
      .ok location := by decide
  obtain ⟨components, -, agrees, -⟩ := resolve_course resolves
  refine ⟨resolves, components.trans (by decide), fun same => ?_⟩
  exact absurd (agrees.mp same) (by decide)

/-- A `..` stays behind the root, and two of them in front of a relative path cancel each
other. -/
theorem lexical_missed :
    resolve (.absolute ⟨"/home"⟩) "../../x.c".toList "1".toList = .ok ⟨⟨"/../x.c"⟩, 1⟩ ∧
    (Path.seenFrom ⟨"/home"⟩ ⟨"../../x.c"⟩).lexical = ⟨"/x.c"⟩ ∧
    resolve (.absolute ⟨"src"⟩) "../../../x.c".toList "1".toList = .ok ⟨⟨"x.c"⟩, 1⟩ ∧
    (Path.seenFrom ⟨"src"⟩ ⟨"../../../x.c"⟩).lexical = ⟨"../../x.c"⟩ := by
  decide

end Location

end DebugConsole

import DebugConsole.Breakpoints.Basic
import DebugConsole.Proofs.Path.Resolution

/-!
# Canonical paths

Cleaning a path twice changes nothing, and seen from an absolute directory a file name has
one clean path, whichever way it is spelled: a `.`, a separator too many and one behind the
last component make no difference. So a location that is reported again under another
spelling of its file is the location that it was (`Location.names_canonical`).
-/

namespace DebugConsole

namespace Path

/-- Two spellings of one name. They start at the same place, and only empty parts and parts
`.` tell them apart. -/
structure Respelled (left right : Path) : Prop where
  absolute : left.isAbsolute = right.isAbsolute
  parts : left.tellingParts = right.tellingParts

theorem Respelled.clean_eq {left right : Path} (respelled : Respelled left right) :
    left.clean = right.clean := by
  have start : left.start = right.start := by rw [Path.start, Path.start, respelled.absolute]
  have course : left.course = right.course := by
    rw [course_eq, course_eq, respelled.parts]
  rw [Path.clean_eq, Path.clean_eq, start, course]

/-- Seen from a directory, spellings of one name are spellings of one path. -/
theorem Respelled.seenFrom {file other : Path} (respelled : Respelled file other) (base : Path) :
    Respelled (seenFrom base file) (seenFrom base other) := by
  unfold Path.seenFrom
  rw [← respelled.absolute]
  cases absolute : file.isAbsolute with
  | true => exact respelled
  | false =>
    have relative : other.isAbsolute = false := respelled.absolute ▸ absolute
    refine ⟨?_, ?_⟩
    · exact (isAbsolute_join absolute base).trans (isAbsolute_join relative base).symm
    · simp only [Bool.false_eq_true, if_false]
      rw [tellingParts_join absolute, tellingParts_join relative, respelled.parts]

/-! ## Cleaning twice -/

theorem foldl_appendComponent_name (names : List (List Char)) (cleaned : List Component) :
    (names.map .name).foldl appendComponent cleaned =
      (names.map Component.name).reverse ++ cleaned := by
  induction names generalizing cleaned with
  | nil => rfl
  | cons text later inductionHypothesis =>
    have next : appendComponent cleaned (.name text) = .name text :: cleaned := rfl
    rw [List.map_cons, List.foldl_cons, next, inductionHypothesis, List.reverse_cons,
      List.append_assoc, List.singleton_append]

/-- Names behind one `..` at most are clean. -/
theorem cleanComponents_self {start : List Component} (bare : start = [] ∨ start = [.root])
    (course : Course) {kept : Nat} (single : kept ≤ 1) :
    cleanComponents (start ++ course.components kept) = start ++ course.components kept := by
  have front : (start ++ List.replicate kept Component.parent).foldl appendComponent [] =
      (start ++ List.replicate kept Component.parent).reverse := by
    have cases : kept = 0 ∨ kept = 1 := by omega
    rcases bare with rfl | rfl <;> rcases cases with rfl | rfl <;> rfl
  rw [Course.components, ← List.append_assoc, cleanComponents, List.foldl_append, front,
    foldl_appendComponent_name, ← List.reverse_append, List.reverse_reverse]

theorem clean_clean (path : Path) : path.clean.clean = path.clean := by
  have components : path.clean.components =
      path.start ++ path.course.components (path.course.unmatched % 2) := by
    rw [clean_eq, components_ofComponents]
  have clean : cleanComponents path.clean.components = path.clean.components := by
    rw [components]
    exact cleanComponents_self path.start_bare path.course (by omega)
  calc path.clean.clean
      _ = ofComponents (cleanComponents path.clean.components) := rfl
      _ = ofComponents (path.start ++ path.course.components (path.course.unmatched % 2)) := by
        rw [clean, components]
      _ = path.clean := path.clean_eq.symm

/-- The text of a clean path from the root: each separator stands in front of a part that
tells, but for the root alone. -/
theorem text_clean {path : Path} (absolute : path.isAbsolute = true) :
    ∃ parts, path.clean.text = String.ofList ('/' :: ['/'].intercalate parts) ∧
      ∀ part ∈ parts, part ≠ [] ∧ part ≠ ['.'] ∧ '/' ∉ part := by
  have rooted : path.start = [.root] := if_pos absolute
  refine ⟨(path.course.components (path.course.unmatched % 2)).map Component.part, ?_, ?_⟩
  · rw [clean_eq, rooted]
    rfl
  · intro part member
    obtain ⟨component, inside, rfl⟩ := List.mem_map.mp member
    have stands := stands_of_course inside
    exact ⟨stands.part_ne_nil, stands.part_ne_current, stands.whole⟩

theorem isAbsolute_clean {path : Path} (absolute : path.isAbsolute = true) :
    path.clean.isAbsolute = true := by
  obtain ⟨parts, text, -⟩ := text_clean absolute
  rw [isAbsolute, text, String.toList_ofList]
  rfl

end Path

namespace Location

/-- A location is where its name and its line lead, whatever the spelling of the name. -/
theorem resolve_respelled {base : Path} {file other line : List Char} {location : Location}
    (respelled : Path.Respelled ⟨String.ofList (Text.trim file)⟩ ⟨String.ofList (Text.trim other)⟩)
    (named : Text.trim other ≠ []) (resolves : resolve (.absolute base) file line = .ok location) :
    resolve (.absolute base) other line = .ok location := by
  have path : Policy.path ⟨String.ofList (Text.trim file)⟩ (.absolute base) =
      Policy.path ⟨String.ofList (Text.trim other)⟩ (.absolute base) := by
    rw [Policy.path_absolute, Policy.path_absolute, (respelled.seenFrom base).clean_eq]
  have nonempty : (String.ofList (Text.trim other)).isEmpty = false := by
    simpa [String.isEmpty_iff] using named
  unfold resolve at resolves ⊢
  dsimp only at resolves ⊢
  rw [nonempty, ← path]
  split at resolves
  · cases resolves
  · split at resolves
    · cases resolves
    · next number nonzero reads =>
      rw [← resolves]
      simp only [Bool.false_eq_true, if_false]
    · cases resolves

/-- Paths are canonical. A path that was cleaned is clean. Seen from an absolute directory,
every file name has an absolute path without empty parts and without parts `.`, so with no
separator to spare; this path has itself as its path, and every other spelling of the name
has the same one. So a location that is reported again under another spelling of its file
has the same text, and what is known of its file is found again. -/
theorem names_canonical :
    (∀ path : Path, path.clean.clean = path.clean) ∧
    ∀ base : Path, base.isAbsolute = true →
      (∀ file : Path, ∃ path, Policy.path file (.absolute base) = path ∧
        (∃ parts, path.text = String.ofList ('/' :: ['/'].intercalate parts) ∧
          ∀ part ∈ parts, part ≠ [] ∧ part ≠ ['.'] ∧ '/' ∉ part) ∧
        Policy.path path (.absolute base) = path ∧
        ∀ other, Path.Respelled file other → Policy.path other (.absolute base) = path) ∧
      ∀ (file other line : List Char) (location : Location),
        resolve (.absolute base) file line = .ok location →
        Path.Respelled ⟨String.ofList (Text.trim file)⟩ ⟨String.ofList (Text.trim other)⟩ →
        Text.trim other ≠ [] →
        ∃ again, resolve (.absolute base) other line = .ok again ∧ again.text = location.text ∧
          ∀ store : BreakpointStore, store.get? again.file = store.get? location.file := by
  refine ⟨Path.clean_clean, fun base absolute => ⟨fun file => ⟨_, rfl, ?_, ?_, ?_⟩, ?_⟩⟩
  · rw [Policy.path_absolute]
    exact Path.text_clean (Path.isAbsolute_seenFrom absolute file)
  · have rooted : (Path.seenFrom base file).clean.isAbsolute = true :=
      Path.isAbsolute_clean (Path.isAbsolute_seenFrom absolute file)
    rw [Policy.path_absolute, Policy.path_absolute, Path.seenFrom, if_pos rooted, Path.clean_clean]
  · intro other respelled
    rw [Policy.path_absolute, Policy.path_absolute, (respelled.seenFrom base).clean_eq]
  · intro file other line location resolves respelled named
    exact ⟨location, resolve_respelled respelled named resolves, rfl, fun _ => rfl⟩

/-- Two spellings of one file, the second with a `.` in front and separators to spare. -/
theorem names_canonical_spelled_twice :
    Path.Respelled ⟨"lib/../util.c"⟩ ⟨".//lib/./..//util.c/"⟩ ∧
    Policy.path ⟨".//lib/./..//util.c/"⟩ (.absolute ⟨"/home"⟩) = ⟨"/home/util.c"⟩ ∧
    ∃ again, resolve (.absolute ⟨"/home"⟩) ".//lib/./..//util.c/".toList "7".toList = .ok again ∧
      again.text = "/home/util.c:7" := by
  have absolute : (⟨"/home"⟩ : Path).isAbsolute = true := by decide
  have respelled : Path.Respelled ⟨"lib/../util.c"⟩ ⟨".//lib/./..//util.c/"⟩ :=
    ⟨by decide, by decide⟩
  have resolves : resolve (.absolute ⟨"/home"⟩) "lib/../util.c".toList "7".toList =
      .ok ⟨⟨"/home/util.c"⟩, 7⟩ := by decide
  obtain ⟨names, locations⟩ := names_canonical.2 ⟨"/home"⟩ absolute
  obtain ⟨path, found, -, -, others⟩ := names ⟨"lib/../util.c"⟩
  have text : path = ⟨"/home/util.c"⟩ := found.symm.trans (by decide)
  obtain ⟨again, reported, same, -⟩ := locations _ ".//lib/./..//util.c/".toList _ _ resolves
    (by constructor <;> decide) (by decide)
  exact ⟨respelled, (others _ respelled).trans text, again, reported, same.trans (by decide)⟩

end Location

end DebugConsole

import DebugConsole.Proofs.Pattern.Search
import Mathlib.Data.List.Forall2

/-!
# Spelling

What a plain pattern reads, apart from the search: `node.Spells read rest` says that
`read` is a way to write the node in front of `rest`. For plain nodes, which look at
nothing before their place, the search finds exactly what is spelled
(`Node.outcomesAt_ne_nil`, `Node.findFrom_spells`).

The second half reads properties of everything a node can spell off the node: which
characters may start, continue or end it, and which it starts with in any case. They
are computed, so for a given pattern they are evaluated and not proved.
-/

namespace DebugConsole

/-- The members of a set that lists them. -/
def CharSet.listed : CharSet → Option (List Char)
  | .none => some []
  | .range low high => if low = high then some [low] else .none
  | .union left right =>
    match left.listed, right.listed with
    | some members, some others => some (members ++ others)
    | _, _ => .none
  | .digit | .blank | .word | .anyCase _ | .complement _ | .inter _ _ => .none

theorem CharSet.mem_of_listed {set : CharSet} {members : List Char}
    (lists : set.listed = some members) {character : Char}
    (inside : set.contains character = true) : character ∈ members := by
  induction set generalizing members with
  | none => cases inside
  | range low high =>
    unfold listed at lists
    split at lists
    · next same =>
      cases lists
      subst same
      have bounds : low ≤ character ∧ character ≤ low := by simpa [contains] using inside
      exact List.mem_singleton.mpr (Char.le_antisymm bounds.2 bounds.1)
    · cases lists
  | union left right leftHypothesis rightHypothesis =>
    unfold listed at lists
    split at lists
    · next members others first second =>
      cases lists
      rcases (Bool.or_eq_true _ _).mp inside with inside | inside
      · exact List.mem_append_left _ (leftHypothesis first inside)
      · exact List.mem_append_right _ (rightHypothesis second inside)
    · cases lists
  | digit | blank | word | anyCase _ _ | complement _ _ | inter _ _ _ _ => cases lists

end DebugConsole

namespace DebugConsole.Pattern.Node

/-! ## Plain nodes -/

/-- A node that looks at nothing but the text from its place on, and repeats nothing but
single characters. -/
def plain : Node → Bool
  | .empty | .set _ | .run _ _ => true
  | .anchor condition => condition == .textEnd
  | .group _ body | .optional _ body => body.plain
  | .seq left right | .alt left right => left.plain && right.plain
  | .plus _ _ => false

/-- `read` is a way to write a plain node in front of `rest`. -/
def Spells : Node → (read rest : List Char) → Prop
  | .empty, read, _ => read = []
  | .set members, read, _ => ∃ character, read = [character] ∧ members.contains character = true
  | .anchor _, read, rest => read = [] ∧ rest = []
  | .group _ body, read, rest => body.Spells read rest
  | .seq left right, read, rest => ∃ first second, read = first ++ second ∧
      left.Spells first (second ++ rest) ∧ right.Spells second rest
  | .alt left right, read, rest => left.Spells read rest ∨ right.Spells read rest
  | .optional _ body, read, rest => read = [] ∨ body.Spells read rest
  | .plus _ _, _, _ => False
  | .run _ members, read, _ =>
    read ≠ [] ∧ ∀ character ∈ read, members.contains character = true

/-- The numbers of the groups in a node. -/
def groupNumbers : Node → List Nat
  | .empty | .set _ | .anchor _ | .run _ _ => []
  | .group index body => index :: body.groupNumbers
  | .optional _ body | .plus _ body => body.groupNumbers
  | .seq left right | .alt left right => left.groupNumbers ++ right.groupNumbers

/-- One place is reached from another by reading a node. -/
structure Reads (node : Node) (source : Progress) (read : List Char) (target : Progress) :
    Prop where
  text : source.cursor.rest = read ++ target.cursor.rest
  offset : target.cursor.offset = source.cursor.offset + read.length
  spells : node.Spells read target.cursor.rest
  groups : ∃ found, target.groups = found ++ source.groups ∧
    ∀ entry ∈ found, entry.1 ∈ node.groupNumbers

theorem mem_outcomes_run {greedy : Bool} {members : CharSet} {progress reached : Progress} :
    reached ∈ (Node.run greedy members).outcomes progress ↔
      ∃ read last rest, progress.cursor.rest = read ++ last :: rest ∧
        (∀ character ∈ read ++ [last], members.contains character = true) ∧
        reached = ⟨⟨some last, progress.cursor.offset + read.length + 1, rest⟩,
          progress.groups⟩ := by
  have either : reached ∈ (Node.run greedy members).outcomes progress ↔
      reached ∈ runEnds members progress.groups [] progress.cursor.offset
        progress.cursor.rest := by
    cases greedy <;> simp [outcomes]
  rw [either, mem_runEnds]
  simp

theorem mem_outcomes_optional {greedy : Bool} {body : Node} {progress reached : Progress} :
    reached ∈ (Node.optional greedy body).outcomes progress ↔
      reached = progress ∨ reached ∈ body.outcomes progress := by
  cases greedy <;> simp [outcomes, or_comm]

/-- Whatever the search reaches by a plain node is spelled. -/
theorem reads_of_mem_outcomes {node : Node} (isPlain : node.plain = true) {progress reached : Progress}
    (member : reached ∈ node.outcomes progress) : ∃ read, node.Reads progress read reached := by
  induction node generalizing progress reached with
  | empty =>
    obtain rfl := List.mem_singleton.mp member
    exact ⟨[], rfl, rfl, rfl, [], rfl, by simp⟩
  | set members =>
    unfold outcomes at member
    split at member
    · cases member
    · next character rest shape =>
      split at member
      · next admitted =>
        obtain rfl := List.mem_singleton.mp member
        exact ⟨[character], shape, rfl, ⟨character, rfl, admitted⟩, [], rfl, by simp⟩
      · cases member
  | anchor condition =>
    unfold outcomes at member
    split at member
    · next holds =>
      obtain rfl := List.mem_singleton.mp member
      obtain rfl : condition = .textEnd := by simpa [plain] using isPlain
      have ended : reached.cursor.rest = [] := by simpa [Anchor.holds] using holds
      exact ⟨[], rfl, rfl, ⟨rfl, ended⟩, [], rfl, by simp⟩
    · cases member
  | group index body inductionHypothesis =>
    obtain ⟨inner, inside, rfl⟩ := List.mem_map.mp member
    obtain ⟨read, text, offset, spells, found, groups, numbers⟩ :=
      inductionHypothesis isPlain inside
    refine ⟨read, text, offset, spells,
      (index, ⟨progress.cursor.offset, inner.cursor.offset⟩) :: found, by simp [groups], ?_⟩
    intro entry member
    rcases List.mem_cons.mp member with rfl | member
    · exact List.mem_cons_self
    · exact List.mem_cons_of_mem _ (numbers entry member)
  | seq left right leftHypothesis rightHypothesis =>
    obtain ⟨leftPlain, rightPlain⟩ := (Bool.and_eq_true _ _).mp isPlain
    obtain ⟨middle, first, second⟩ := List.mem_flatMap.mp member
    obtain ⟨read, text, offset, spells, found, groups, numbers⟩ := leftHypothesis leftPlain first
    obtain ⟨read', text', offset', spells', found', groups', numbers'⟩ :=
      rightHypothesis rightPlain second
    refine ⟨read ++ read', ?_, ?_, ⟨read, read', rfl, text' ▸ spells, spells'⟩,
      found' ++ found, by rw [groups', groups, List.append_assoc], ?_⟩
    · rw [text, text', List.append_assoc]
    · rw [offset', offset, List.length_append, Nat.add_assoc]
    · intro entry member
      rcases List.mem_append.mp member with member | member
      · exact List.mem_append_right _ (numbers' entry member)
      · exact List.mem_append_left _ (numbers entry member)
  | alt left right leftHypothesis rightHypothesis =>
    obtain ⟨leftPlain, rightPlain⟩ := (Bool.and_eq_true _ _).mp isPlain
    rcases List.mem_append.mp member with first | second
    · obtain ⟨read, text, offset, spells, found, groups, numbers⟩ := leftHypothesis leftPlain first
      exact ⟨read, text, offset, .inl spells, found, groups, fun entry member =>
        List.mem_append_left _ (numbers entry member)⟩
    · obtain ⟨read, text, offset, spells, found, groups, numbers⟩ :=
        rightHypothesis rightPlain second
      exact ⟨read, text, offset, .inr spells, found, groups, fun entry member =>
        List.mem_append_right _ (numbers entry member)⟩
  | optional greedy body inductionHypothesis =>
    rcases mem_outcomes_optional.mp member with rfl | inside
    · exact ⟨[], rfl, rfl, .inl rfl, [], rfl, by simp⟩
    · obtain ⟨read, text, offset, spells, found, groups, numbers⟩ :=
        inductionHypothesis isPlain inside
      exact ⟨read, text, offset, .inr spells, found, groups, numbers⟩
  | plus greedy body _ => cases isPlain
  | run greedy members =>
    obtain ⟨read, last, rest, shape, all, rfl⟩ := mem_outcomes_run.mp member
    refine ⟨read ++ [last], by simp [shape], ?_, ⟨by simp, all⟩, [], rfl, by simp⟩
    simp only [List.length_append, List.length_singleton, Nat.add_assoc]

/-- Whatever is spelled by a plain node is reached by the search. -/
theorem exists_mem_outcomes_of_spells {node : Node} (isPlain : node.plain = true) {progress : Progress}
    {read rest : List Char} (text : progress.cursor.rest = read ++ rest)
    (spells : node.Spells read rest) :
    ∃ reached ∈ node.outcomes progress, reached.cursor.rest = rest := by
  induction node generalizing progress read rest with
  | empty =>
    obtain rfl : read = [] := spells
    exact ⟨progress, List.mem_singleton_self _, text⟩
  | set members =>
    obtain ⟨character, rfl, admitted⟩ := spells
    refine ⟨⟨⟨some character, progress.cursor.offset + 1, rest⟩, progress.groups⟩, ?_, rfl⟩
    unfold outcomes
    simp only [text, List.cons_append, List.nil_append, admitted, if_true, List.mem_singleton]
  | anchor condition =>
    obtain ⟨rfl, rfl⟩ := spells
    obtain rfl : condition = .textEnd := by simpa [plain] using isPlain
    refine ⟨progress, ?_, text⟩
    simp [outcomes, Anchor.holds, text]
  | group index body inductionHypothesis =>
    obtain ⟨inner, inside, remains⟩ := inductionHypothesis isPlain text spells
    exact ⟨_, List.mem_map.mpr ⟨inner, inside, rfl⟩, remains⟩
  | seq left right leftHypothesis rightHypothesis =>
    obtain ⟨leftPlain, rightPlain⟩ := (Bool.and_eq_true _ _).mp isPlain
    obtain ⟨first, second, rfl, spells, spells'⟩ := spells
    obtain ⟨middle, inside, remains⟩ :=
      leftHypothesis leftPlain (text.trans (List.append_assoc _ _ _)) spells
    obtain ⟨reached, further, remains'⟩ := rightHypothesis rightPlain remains spells'
    exact ⟨reached, List.mem_flatMap.mpr ⟨middle, inside, further⟩, remains'⟩
  | alt left right leftHypothesis rightHypothesis =>
    obtain ⟨leftPlain, rightPlain⟩ := (Bool.and_eq_true _ _).mp isPlain
    rcases spells with spells | spells
    · obtain ⟨reached, inside, remains⟩ := leftHypothesis leftPlain text spells
      exact ⟨reached, List.mem_append_left _ inside, remains⟩
    · obtain ⟨reached, inside, remains⟩ := rightHypothesis rightPlain text spells
      exact ⟨reached, List.mem_append_right _ inside, remains⟩
  | optional greedy body inductionHypothesis =>
    rcases spells with rfl | spells
    · exact ⟨progress, mem_outcomes_optional.mpr (.inl rfl), text⟩
    · obtain ⟨reached, inside, remains⟩ := inductionHypothesis isPlain text spells
      exact ⟨reached, mem_outcomes_optional.mpr (.inr inside), remains⟩
  | plus greedy body _ => cases isPlain
  | run greedy members =>
    obtain ⟨nonempty, all⟩ := spells
    obtain ⟨front, last, rfl⟩ := (List.eq_nil_or_concat read).resolve_left nonempty
    rw [List.concat_eq_append] at text all
    refine ⟨_, mem_outcomes_run.mpr ⟨front, last, rest, by simp [text], all, rfl⟩, rfl⟩

/-- A place from which a plain node can be spelled has an outcome. -/
theorem outcomesAt_ne_nil {node : Node} (isPlain : node.plain = true) {cursor : Cursor}
    {read rest : List Char} (text : cursor.rest = read ++ rest) (spells : node.Spells read rest) :
    node.outcomesAt cursor ≠ [] := by
  obtain ⟨reached, inside, -⟩ := @exists_mem_outcomes_of_spells node isPlain ⟨cursor, []⟩ _ _ text spells
  exact List.ne_nil_of_mem inside

/-- What a search for a plain node finds: the node spelled at the first place where it can
be spelled at all. -/
theorem findFrom_spells {node : Node} (isPlain : node.plain = true) {before : Option Char}
    {offset : Nat} {text : List Char} {found : Match}
    (success : node.findFrom before offset text = some found) :
    ∃ skipped rest read, ∃ reached : Progress,
      text = skipped ++ rest ∧
      node.Reads ⟨(⟨before, offset, []⟩ : Cursor).past skipped rest, []⟩ read reached ∧
      reached ∈ node.outcomesAt ((⟨before, offset, []⟩ : Cursor).past skipped rest) ∧
      found = ⟨⟨offset + skipped.length, reached.cursor.offset⟩, reached.groups⟩ ∧
      ∀ skipped' read' rest', text = skipped' ++ (read' ++ rest') → node.Spells read' rest' →
        skipped.length ≤ skipped'.length := by
  obtain ⟨skipped, rest, reached, later, shape, outcomes, found, first⟩ := findFrom_eq_some success
  have member : reached ∈ node.outcomesAt ((⟨before, offset, []⟩ : Cursor).past skipped rest) := by
    rw [outcomes]
    exact List.mem_cons_self
  obtain ⟨read, reads⟩ := reads_of_mem_outcomes isPlain member
  refine ⟨skipped, rest, read, reached, shape, reads, member, found, ?_⟩
  intro skipped' read' rest' shape' spells
  apply Nat.le_of_not_lt
  intro shorter
  exact outcomesAt_ne_nil isPlain rfl spells (first skipped' (read' ++ rest') shape' shorter)

/-! ## Properties of everything a node spells -/

/-- Whether a character may occur in what a node spells. -/
def admits (character : Char) : Node → Bool
  | .empty | .anchor _ => false
  | .set members | .run _ members => members.contains character
  | .group _ body | .optional _ body | .plus _ body => body.admits character
  | .seq left right | .alt left right => left.admits character || right.admits character

/-- Whether a character may occur in what a node spells, other than at its start. -/
def continues (character : Char) : Node → Bool
  | .empty | .anchor _ | .set _ => false
  | .run _ members => members.contains character
  | .group _ body | .optional _ body => body.continues character
  | .plus _ body => body.admits character
  | .seq left right => left.continues character || right.admits character
  | .alt left right => left.continues character || right.continues character

/-- Whether a node may spell nothing. -/
def nullable : Node → Bool
  | .empty | .anchor _ | .optional _ _ => true
  | .set _ | .run _ _ => false
  | .group _ body | .plus _ body => body.nullable
  | .seq left right => left.nullable && right.nullable
  | .alt left right => left.nullable || right.nullable

/-- Whether what a node spells may end in a character. -/
def ends (character : Char) : Node → Bool
  | .empty | .anchor _ => false
  | .set members | .run _ members => members.contains character
  | .group _ body | .optional _ body | .plus _ body => body.ends character
  | .seq left right => right.ends character || right.nullable && left.ends character
  | .alt left right => left.ends character || right.ends character

/-- Whether a node is nothing but the sets of `leads`, one character each. -/
def fixed : Node → Bool
  | .empty | .anchor _ | .set _ => true
  | .group _ body => body.fixed
  | .seq left right => left.fixed && right.fixed
  | .alt _ _ | .optional _ _ | .plus _ _ | .run _ _ => false

/-- Sets of the characters that whatever a node spells starts with. -/
def leads : Node → List CharSet
  | .empty | .anchor _ | .alt _ _ | .optional _ _ | .plus _ _ => []
  | .set members | .run _ members => [members]
  | .group _ body => body.leads
  | .seq left right => left.leads ++ if left.fixed then right.leads else []

/-- Characters that are in whatever a node spells. -/
def needs : Node → List Char
  | .empty | .anchor _ | .alt _ _ | .optional _ _ | .plus _ _ => []
  | .set members | .run _ members =>
    match members.listed with
    | some [member] => [member]
    | _ => []
  | .group _ body => body.needs
  | .seq left right => left.needs ++ right.needs

/-- Whether a node does not look at what follows. -/
def free : Node → Bool
  | .empty | .set _ | .run _ _ => true
  | .anchor _ => false
  | .group _ body | .optional _ body | .plus _ body => body.free
  | .seq left right | .alt left right => left.free && right.free

/-- Whether a node is spelled at the end of a text only. -/
def closes : Node → Bool
  | .anchor _ => true
  | .group _ body => body.closes
  | .seq _ right => right.closes
  | .alt left right => left.closes && right.closes
  | .empty | .set _ | .run _ _ | .optional _ _ | .plus _ _ => false

namespace Spells

variable {node : Node} {read rest : List Char}

theorem admits (spells : node.Spells read rest) {character : Char} (member : character ∈ read) :
    node.admits character = true := by
  induction node generalizing read rest with
  | empty =>
    obtain rfl : read = [] := spells
    cases member
  | set members =>
    obtain ⟨other, rfl, admitted⟩ := spells
    rwa [List.mem_singleton.mp member]
  | anchor condition =>
    obtain ⟨rfl, -⟩ := spells
    cases member
  | group index body inductionHypothesis => exact inductionHypothesis spells member
  | seq left right leftHypothesis rightHypothesis =>
    obtain ⟨first, second, rfl, spells, spells'⟩ := spells
    apply (Bool.or_eq_true _ _).mpr
    rcases List.mem_append.mp member with member | member
    · exact .inl (leftHypothesis spells member)
    · exact .inr (rightHypothesis spells' member)
  | alt left right leftHypothesis rightHypothesis =>
    exact (Bool.or_eq_true _ _).mpr
      (spells.imp (leftHypothesis · member) (rightHypothesis · member))
  | optional greedy body inductionHypothesis =>
    rcases spells with rfl | spells
    · cases member
    · exact inductionHypothesis spells member
  | plus greedy body _ => exact spells.elim
  | run greedy members => exact spells.2 character member

theorem continues (spells : node.Spells read rest) {character : Char}
    (member : character ∈ read.tail) : node.continues character = true := by
  induction node generalizing read rest with
  | empty =>
    obtain rfl : read = [] := spells
    cases member
  | set members =>
    obtain ⟨other, rfl, -⟩ := spells
    cases member
  | anchor condition =>
    obtain ⟨rfl, -⟩ := spells
    cases member
  | group index body inductionHypothesis => exact inductionHypothesis spells member
  | seq left right leftHypothesis rightHypothesis =>
    obtain ⟨first, second, rfl, spells, spells'⟩ := spells
    apply (Bool.or_eq_true _ _).mpr
    cases first with
    | nil => exact .inr (spells'.admits (List.mem_of_mem_tail member))
    | cons head first =>
      rcases List.mem_append.mp member with member | member
      · exact .inl (leftHypothesis spells member)
      · exact .inr (spells'.admits member)
  | alt left right leftHypothesis rightHypothesis =>
    exact (Bool.or_eq_true _ _).mpr
      (spells.imp (leftHypothesis · member) (rightHypothesis · member))
  | optional greedy body inductionHypothesis =>
    rcases spells with rfl | spells
    · cases member
    · exact inductionHypothesis spells member
  | plus greedy body _ => exact spells.elim
  | run greedy members => exact spells.2 character (List.mem_of_mem_tail member)

theorem nullable (spells : node.Spells [] rest) : node.nullable = true := by
  induction node generalizing rest with
  | empty | anchor _ | optional _ _ _ => rfl
  | set members =>
    obtain ⟨other, impossible, -⟩ := spells
    cases impossible
  | group index body inductionHypothesis => exact inductionHypothesis spells
  | seq left right leftHypothesis rightHypothesis =>
    obtain ⟨first, second, shape, spells, spells'⟩ := spells
    obtain ⟨rfl, rfl⟩ := List.append_eq_nil_iff.mp shape.symm
    exact (Bool.and_eq_true _ _).mpr ⟨leftHypothesis spells, rightHypothesis spells'⟩
  | alt left right leftHypothesis rightHypothesis =>
    exact (Bool.or_eq_true _ _).mpr (spells.imp leftHypothesis rightHypothesis)
  | plus greedy body _ => exact spells.elim
  | run greedy members => exact absurd rfl spells.1

theorem ends (spells : node.Spells read rest) {character : Char}
    (last : read.getLast? = some character) : node.ends character = true := by
  induction node generalizing read rest with
  | empty =>
    obtain rfl : read = [] := spells
    cases last
  | set members =>
    obtain ⟨other, rfl, admitted⟩ := spells
    cases last
    exact admitted
  | anchor condition =>
    obtain ⟨rfl, -⟩ := spells
    cases last
  | group index body inductionHypothesis => exact inductionHypothesis spells last
  | seq left right leftHypothesis rightHypothesis =>
    obtain ⟨first, second, rfl, spells, spells'⟩ := spells
    apply (Bool.or_eq_true _ _).mpr
    rw [List.getLast?_append] at last
    cases final : second.getLast? with
    | none =>
      obtain rfl := List.getLast?_eq_none_iff.mp final
      rw [List.getLast?_nil, Option.none_or] at last
      exact .inr ((Bool.and_eq_true _ _).mpr ⟨spells'.nullable, leftHypothesis spells last⟩)
    | some other =>
      rw [final, Option.some_or, Option.some.injEq] at last
      exact .inl (rightHypothesis spells' (last ▸ final))
  | alt left right leftHypothesis rightHypothesis =>
    exact (Bool.or_eq_true _ _).mpr (spells.imp (leftHypothesis · last) (rightHypothesis · last))
  | optional greedy body inductionHypothesis =>
    rcases spells with rfl | spells
    · cases last
    · exact inductionHypothesis spells last
  | plus greedy body _ => exact spells.elim
  | run greedy members => exact spells.2 character (List.mem_of_getLast? last)

theorem leads (spells : node.Spells read rest) :
    ∃ first more, read = first ++ more ∧
      List.Forall₂ (fun members character => members.contains character = true) node.leads first ∧
      (node.fixed = true → more = []) := by
  induction node generalizing read rest with
  | empty =>
    obtain rfl : read = [] := spells
    exact ⟨[], [], rfl, .nil, fun _ => rfl⟩
  | set members =>
    obtain ⟨character, rfl, admitted⟩ := spells
    exact ⟨[character], [], rfl, .cons admitted .nil, fun _ => rfl⟩
  | anchor condition =>
    obtain ⟨rfl, -⟩ := spells
    exact ⟨[], [], rfl, .nil, fun _ => rfl⟩
  | group index body inductionHypothesis => exact inductionHypothesis spells
  | seq left right leftHypothesis rightHypothesis =>
    obtain ⟨first, second, rfl, spells, spells'⟩ := spells
    obtain ⟨front, more, rfl, matched, exact'⟩ := leftHypothesis spells
    obtain ⟨front', more', rfl, matched', exact''⟩ := rightHypothesis spells'
    cases fixed : left.fixed with
    | true =>
      obtain rfl := exact' fixed
      refine ⟨front ++ front', more', by simp, ?_, fun both => ?_⟩
      · simpa [Node.leads, fixed] using List.rel_append matched matched'
      · exact exact'' ((Bool.and_eq_true _ _).mp both).2
    | false =>
      refine ⟨front, more ++ (front' ++ more'), by simp, by simpa [Node.leads, fixed] using matched,
        fun both => ?_⟩
      rw [Node.fixed, fixed] at both
      cases both
  | alt left right _ _ => exact ⟨[], read, rfl, .nil, fun impossible => by cases impossible⟩
  | optional greedy body _ => exact ⟨[], read, rfl, .nil, fun impossible => by cases impossible⟩
  | plus greedy body _ => exact spells.elim
  | run greedy members =>
    cases read with
    | nil => exact absurd rfl spells.1
    | cons character read =>
      exact ⟨[character], read, rfl, .cons (spells.2 character List.mem_cons_self) .nil,
        fun impossible => by cases impossible⟩

/-- Whatever a node spells starts with a member of the first of the sets. -/
theorem head_mem (spells : node.Spells read rest) {members : CharSet}
    (head : node.leads.head? = some members) :
    ∃ character more, read = character :: more ∧ members.contains character = true := by
  obtain ⟨first, more, rfl, matched, -⟩ := spells.leads
  obtain ⟨others, leads⟩ := List.head?_eq_some_iff.mp head
  rw [leads] at matched
  obtain ⟨character, first, admitted, -, rfl⟩ := List.forall₂_cons_left_iff.mp matched
  exact ⟨character, first ++ more, rfl, admitted⟩

/-- Whatever a node spells is at least as long as the sets it starts with, and no longer
where these are all of it. -/
theorem leads_length_le (spells : node.Spells read rest) : node.leads.length ≤ read.length := by
  obtain ⟨first, more, rfl, matched, -⟩ := spells.leads
  rw [matched.length_eq, List.length_append]
  omega

theorem length_of_fixed (spells : node.Spells read rest) (isFixed : node.fixed = true) :
    read.length = node.leads.length := by
  obtain ⟨first, more, rfl, matched, none⟩ := spells.leads
  rw [none isFixed, List.append_nil, matched.length_eq]

theorem needs (spells : node.Spells read rest) {character : Char}
    (needed : character ∈ node.needs) : character ∈ read := by
  have only : ∀ members : CharSet, ∀ {other : Char},
      (character ∈ match members.listed with | some [member] => [member] | _ => []) →
      members.contains other = true → character = other := by
    intro members other needed inside
    split at needed
    · next member lists =>
      obtain rfl := List.mem_singleton.mp needed
      exact (List.mem_singleton.mp (CharSet.mem_of_listed lists inside)).symm
    · cases needed
  induction node generalizing read rest with
  | empty | anchor _ | alt _ _ _ _ | optional _ _ _ | plus _ _ _ => cases needed
  | set members =>
    obtain ⟨other, rfl, admitted⟩ := spells
    exact List.mem_singleton.mpr (only members needed admitted)
  | group index body inductionHypothesis => exact inductionHypothesis spells needed
  | seq left right leftHypothesis rightHypothesis =>
    obtain ⟨first, second, rfl, spells, spells'⟩ := spells
    rcases List.mem_append.mp needed with needed | needed
    · exact List.mem_append_left _ (leftHypothesis spells needed)
    · exact List.mem_append_right _ (rightHypothesis spells' needed)
  | run greedy members =>
    obtain ⟨first, later, rfl⟩ := List.exists_cons_of_ne_nil spells.1
    rw [only members needed (spells.2 first List.mem_cons_self)]
    exact List.mem_cons_self

/-- What a node without conditions spells, it spells in front of any text. -/
theorem of_free (spells : node.Spells read rest) (isFree : node.free = true) (other : List Char) :
    node.Spells read other := by
  induction node generalizing read rest other with
  | empty | set _ | run _ _ => exact spells
  | anchor condition => cases isFree
  | group index body inductionHypothesis => exact inductionHypothesis spells isFree other
  | seq left right leftHypothesis rightHypothesis =>
    obtain ⟨leftFree, rightFree⟩ := (Bool.and_eq_true _ _).mp isFree
    obtain ⟨first, second, rfl, spells, spells'⟩ := spells
    exact ⟨first, second, rfl, leftHypothesis spells leftFree _,
      rightHypothesis spells' rightFree other⟩
  | alt left right leftHypothesis rightHypothesis =>
    obtain ⟨leftFree, rightFree⟩ := (Bool.and_eq_true _ _).mp isFree
    exact spells.imp (leftHypothesis · leftFree other) (rightHypothesis · rightFree other)
  | optional greedy body inductionHypothesis =>
    exact spells.imp_right (inductionHypothesis · isFree other)
  | plus greedy body _ => exact spells.elim

theorem rest_eq_nil (spells : node.Spells read rest) (isClosed : node.closes = true) :
    rest = [] := by
  induction node generalizing read rest with
  | anchor condition => exact spells.2
  | group index body inductionHypothesis => exact inductionHypothesis spells isClosed
  | seq left right _ rightHypothesis =>
    obtain ⟨first, second, -, -, spells⟩ := spells
    exact rightHypothesis spells isClosed
  | alt left right leftHypothesis rightHypothesis =>
    obtain ⟨leftCloses, rightCloses⟩ := (Bool.and_eq_true _ _).mp isClosed
    exact spells.elim (leftHypothesis · leftCloses) (rightHypothesis · rightCloses)
  | empty | set _ | run _ _ | optional _ _ _ | plus _ _ _ => cases isClosed

end Spells

end DebugConsole.Pattern.Node

namespace DebugConsole

open Pattern

/-- What a rule finds: its pattern spelled at the first place where it can be spelled. -/
theorem Rule.find?_spells {rule : Rule} (isPlain : rule.pattern.node.plain = true)
    {text : List Char} {finding : Finding} (success : rule.find? text = some finding) :
    finding.text = text ∧ finding.pattern = rule.pattern ∧
      ∃ skipped read rest, text = skipped ++ (read ++ rest) ∧
        rule.pattern.node.Spells read rest ∧
        finding.found.span = ⟨skipped.length, skipped.length + read.length⟩ ∧
        ∀ skipped' read' rest', text = skipped' ++ (read' ++ rest') →
          rule.pattern.node.Spells read' rest' → skipped.length ≤ skipped'.length := by
  obtain ⟨found, inside, rfl⟩ := Option.map_eq_some_iff.mp success
  obtain ⟨skipped, rest, read, reached, shape, reads, -, rfl, first⟩ :=
    Node.findFrom_spells isPlain inside
  have ahead : rest = read ++ reached.cursor.rest := reads.text
  have stop := reads.offset
  simp only [Cursor.past, Nat.zero_add] at stop
  refine ⟨rfl, rfl, skipped, read, reached.cursor.rest, by rw [shape, ahead], reads.spells, ?_,
    first⟩
  rw [Nat.zero_add, stop]

/-- What a rule finds behind a stretch of text is spelled in the rest of the text. -/
theorem Rule.find?_behind {rule : Rule} (isPlain : rule.pattern.node.plain = true)
    {ahead part : List Char} {finding : Finding}
    (success : rule.find? (ahead ++ part) = some finding)
    (behind : ahead.length ≤ finding.found.span.start) :
    ∃ between read rest, part = between ++ (read ++ rest) ∧ rule.pattern.node.Spells read rest ∧
      finding.found.span =
        ⟨(ahead ++ between).length, (ahead ++ between).length + read.length⟩ := by
  obtain ⟨-, -, skipped, read, rest, shape, spells, span, -⟩ := rule.find?_spells isPlain success
  rw [span] at behind
  obtain ⟨between, rfl⟩ := List.prefix_of_prefix_length_le ⟨part, rfl⟩ ⟨_, shape.symm⟩ behind
  rw [List.append_assoc] at shape
  exact ⟨between, read, rest, List.append_cancel_left shape, spells, span⟩

/-- Without a tail, a rule takes all up to the end of its match. -/
theorem Finding.consumed_eq_stop {finding : Finding} (unnamed : finding.pattern.names = []) :
    finding.consumed = finding.found.span.stop := by
  simp [consumed, Pattern.groupNumber?, unnamed]

end DebugConsole

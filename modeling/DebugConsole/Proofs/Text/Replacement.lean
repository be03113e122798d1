import DebugConsole.Proofs.Text.Utf8
import Mathlib.Data.List.Basic

/-!
# Replacing ill-formed bytes

What text arbitrary bytes stand for, told without the functions that read them. A
`Subpart` is what the Unicode standard has replaced as one: the longest bytes that still
begin some character, or a single byte where none begins there. `Decodes` reads bytes as
characters and subparts, and `Utf8.lossy` is the one text that it gives
(`decodes_iff`).
-/

namespace DebugConsole.Utf8

/-- Bytes that begin those of some character; they may be all of them. -/
def Opens (bytes : List UInt8) : Prop := ∃ character, bytes <+: String.utf8EncodeChar character

/-- Bytes in front of others that are replaced as one: no character stands there, and
they begin one as far as any bytes there do, or are a single byte that begins none. -/
structure Subpart (part rest : List UInt8) : Prop where
  unreadable : ∀ character, ¬ String.utf8EncodeChar character <+: part ++ rest
  opens : part.length = 1 ∨ part ≠ [] ∧ Opens part
  maximal : ∀ longer, longer <+: part ++ rest → Opens longer → longer.length ≤ part.length

/-- The text of bytes, each subpart of which is replaced. -/
inductive Decodes : List UInt8 → List Char → Prop where
  | nil : Decodes [] []
  | character {character rest text} (later : Decodes rest text) :
      Decodes (String.utf8EncodeChar character ++ rest) (character :: text)
  | subpart {part rest text} (replaced : Subpart part rest) (later : Decodes rest text) :
      Decodes (part ++ rest) (replacement :: text)

/-! ## The bytes behind a first byte -/

/-- Bytes go on with the character that a first byte promises, perhaps not to its end. -/
structure Lead.Continues (lead : Lead) (trail : List UInt8) : Prop where
  within : ∀ second ∈ trail.head?, (lead.secondLow ≤ second && second ≤ lead.secondHigh) = true
  trailing : ∀ byte ∈ trail.tail, isContinuation byte = true
  room : trail.length ≤ lead.following

theorem Lead.Continues.of_part {lead : Lead} {trail longer : List UInt8}
    (continues : lead.Continues longer) (part : trail <+: longer) : lead.Continues trail := by
  obtain ⟨more, rfl⟩ := part
  cases trail with
  | nil => exact ⟨by simp, by simp, Nat.zero_le _⟩
  | cons second trail =>
    refine ⟨fun byte first => continues.within byte (by simpa using first),
      fun byte inside => continues.trailing byte ?_, ?_⟩
    · exact List.mem_append_left more inside
    · have room := continues.room
      rw [List.length_append] at room
      omega

/-- The bytes of a character are read as that character. -/
theorem next_character {character : Char} {first : UInt8} {trail : List UInt8}
    (shape : String.utf8EncodeChar character = first :: trail) (later : List UInt8) :
    next first (trail ++ later) = (some character, later) := by
  obtain ⟨start, behind, same, written⟩ := exists_written character
  obtain ⟨rfl, rfl⟩ := List.cons.inj (shape.symm.trans same)
  exact written.read later

/-- A character is one byte, or a first byte and all that it promises. -/
theorem character_cases {character : Char} {first : UInt8} {trail : List UInt8}
    (shape : String.utf8EncodeChar character = first :: trail) :
    first < 0x80 ∧ trail = [] ∨
      ∃ lead, lead? first = some lead ∧ lead.Continues trail ∧ trail.length = lead.following := by
  obtain ⟨start, behind, same, written⟩ := exists_written character
  obtain ⟨rfl, rfl⟩ := List.cons.inj (shape.symm.trans same)
  have read := written.read []
  rw [List.append_nil] at read
  unfold next at read
  split at read
  · next ascii => exact .inl ⟨ascii, (Prod.mk.inj read).2⟩
  · split at read
    · cases read
    · cases read
    · next lead second later leads =>
      split at read
      · next within =>
        have width := written.width
        rw [(lead?_eq_some leads).2.1] at width
        refine .inr ⟨lead, leads, ⟨?_, ?_, by omega⟩, by omega⟩
        · rintro byte ⟨⟩
          exact within
        · exact fun byte inside => written.trailing byte (List.mem_cons_of_mem _ inside)
      · cases read

/-! ## Characters from their bytes -/

/-- The bytes of the character with a given code point. -/
theorem utf8EncodeChar_ofNat {code : Nat} (valid : code.isValidChar) :
    String.utf8EncodeChar (Char.ofNat code) =
      if code ≤ 0x7F then [UInt8.ofNat code]
      else if code ≤ 0x7FF then
        [UInt8.ofNat (code / 64 % 32 + 192), UInt8.ofNat (code % 64 + 128)]
      else if code ≤ 0xFFFF then
        [UInt8.ofNat (code / 4096 % 16 + 224), UInt8.ofNat (code / 64 % 64 + 128),
          UInt8.ofNat (code % 64 + 128)]
      else
        [UInt8.ofNat (code / 262144 % 8 + 240), UInt8.ofNat (code / 4096 % 64 + 128),
          UInt8.ofNat (code / 64 % 64 + 128), UInt8.ofNat (code % 64 + 128)] := by
  have value : (Char.ofNat code).val.toNat = code := by
    rw [Char.ofNat, dif_pos valid]
    rfl
  simp only [String.utf8EncodeChar, value]

theorem utf8EncodeChar_ascii {byte : UInt8} (ascii : byte < 0x80) :
    String.utf8EncodeChar (Char.ofNat byte.toNat) = [byte] := by
  have small : byte.toNat < 0x80 := ascii
  rw [utf8EncodeChar_ofNat (.inl (by omega)), if_pos (by omega), UInt8.ofNat_toNat]

section Widths

variable {first second third fourth : UInt8}

theorem exists_character_two (high : 0xC2 ≤ first.toNat) (low : first.toNat < 0xE0)
    (secondRange : 0x80 ≤ second.toNat ∧ second.toNat < 0xC0) :
    ∃ character, String.utf8EncodeChar character = [first, second] := by
  obtain ⟨code, value⟩ : ∃ code, code = (first.toNat - 0xC0) * 64 + (second.toNat - 0x80) := ⟨_, rfl⟩
  refine ⟨Char.ofNat code, ?_⟩
  rw [utf8EncodeChar_ofNat (.inl (by omega)), if_neg (by omega), if_pos (by omega),
    show code / 64 % 32 + 192 = first.toNat by omega, show code % 64 + 128 = second.toNat by omega]
  simp only [UInt8.ofNat_toNat]

theorem exists_character_three (high : 0xE0 ≤ first.toNat) (low : first.toNat < 0xF0)
    (secondRange : 0x80 ≤ second.toNat ∧ second.toNat < 0xC0)
    (overlong : first.toNat = 0xE0 → 0xA0 ≤ second.toNat)
    (surrogate : first.toNat = 0xED → second.toNat < 0xA0)
    (thirdRange : 0x80 ≤ third.toNat ∧ third.toNat < 0xC0) :
    ∃ character, String.utf8EncodeChar character = [first, second, third] := by
  obtain ⟨code, value⟩ : ∃ code, code = ((first.toNat - 0xE0) * 64 + (second.toNat - 0x80)) * 64 +
    (third.toNat - 0x80) := ⟨_, rfl⟩
  have valid : code.isValidChar := by
    unfold Nat.isValidChar
    omega
  refine ⟨Char.ofNat code, ?_⟩
  rw [utf8EncodeChar_ofNat valid, if_neg (by omega), if_neg (by omega), if_pos (by omega),
    show code / 4096 % 16 + 224 = first.toNat by omega,
    show code / 64 % 64 + 128 = second.toNat by omega,
    show code % 64 + 128 = third.toNat by omega]
  simp only [UInt8.ofNat_toNat]

theorem exists_character_four (high : 0xF0 ≤ first.toNat) (low : first.toNat < 0xF5)
    (secondRange : 0x80 ≤ second.toNat ∧ second.toNat < 0xC0)
    (overlong : first.toNat = 0xF0 → 0x90 ≤ second.toNat)
    (beyond : first.toNat = 0xF4 → second.toNat < 0x90)
    (thirdRange : 0x80 ≤ third.toNat ∧ third.toNat < 0xC0)
    (fourthRange : 0x80 ≤ fourth.toNat ∧ fourth.toNat < 0xC0) :
    ∃ character, String.utf8EncodeChar character = [first, second, third, fourth] := by
  obtain ⟨code, value⟩ : ∃ code, code = (((first.toNat - 0xF0) * 64 + (second.toNat - 0x80)) * 64 +
    (third.toNat - 0x80)) * 64 + (fourth.toNat - 0x80) := ⟨_, rfl⟩
  have valid : code.isValidChar := by
    unfold Nat.isValidChar
    omega
  refine ⟨Char.ofNat code, ?_⟩
  rw [utf8EncodeChar_ofNat valid, if_neg (by omega), if_neg (by omega), if_neg (by omega),
    show code / 262144 % 8 + 240 = first.toNat by omega,
    show code / 4096 % 64 + 128 = second.toNat by omega,
    show code / 64 % 64 + 128 = third.toNat by omega,
    show code % 64 + 128 = fourth.toNat by omega]
  simp only [UInt8.ofNat_toNat]

end Widths

/-- Whatever goes on with a promised character to its end is the bytes of one. -/
theorem exists_character {first : UInt8} {lead : Lead} {trail : List UInt8}
    (leads : lead? first = some lead) (continues : lead.Continues trail)
    (full : trail.length = lead.following) :
    ∃ character, String.utf8EncodeChar character = first :: trail := by
  obtain ⟨within, trailing, -⟩ := continues
  have second : ∀ second ∈ trail.head?,
      lead.secondLow.toNat ≤ second.toNat ∧ second.toNat ≤ lead.secondHigh.toNat := by
    simpa only [Bool.and_eq_true, decide_eq_true_eq, UInt8.le_iff_toNat_le] using within
  simp only [isContinuation_iff] at trailing
  rcases lead?_cases leads with ⟨two, high, low, least, greatest⟩ |
    ⟨three, high, low, least, greatest⟩ | ⟨four, high, low, least, greatest⟩
  · obtain ⟨byte, rfl⟩ := List.length_eq_one_iff.mp (full.trans two)
    have range := second byte rfl
    exact exists_character_two high low (by omega)
  · obtain ⟨byte, other, rfl⟩ := List.length_eq_two.mp (full.trans three)
    have range := second byte rfl
    rw [least, greatest] at range
    have third := trailing other (by simp)
    refine exists_character_three high low ?_ ?_ ?_ third
    all_goals split at range <;> split at range <;> omega
  · obtain ⟨byte, other, another, rfl⟩ := List.length_eq_three.mp (full.trans four)
    have range := second byte rfl
    rw [least, greatest] at range
    have third := trailing other (by simp)
    have fourth := trailing another (by simp)
    refine exists_character_four high low ?_ ?_ ?_ third fourth
    all_goals split at range <;> split at range <;> omega

/-- What goes on with a promised character can be completed. -/
theorem Lead.Continues.exists_full {first : UInt8} {lead : Lead} {trail : List UInt8}
    (leads : lead? first = some lead) (continues : lead.Continues trail) :
    ∃ more, lead.Continues (trail ++ more) ∧ (trail ++ more).length = lead.following := by
  have plain (count : Nat) : ∀ byte ∈ List.replicate count (0x80 : UInt8),
      isContinuation byte = true := by
    intro byte inside
    rw [List.eq_of_mem_replicate inside]
    decide
  obtain ⟨within, trailing, room⟩ := continues
  cases trail with
  | nil =>
    have range : lead.secondLow.toNat ≤ lead.secondHigh.toNat ∧ 1 ≤ lead.following := by
      rcases lead?_cases leads with ⟨two, -, -, least, greatest⟩ |
        ⟨three, -, -, least, greatest⟩ | ⟨four, -, -, least, greatest⟩
      all_goals rw [least, greatest]
      · omega
      all_goals split <;> split <;> omega
    have total : (lead.secondLow :: List.replicate (lead.following - 1) 0x80).length =
        lead.following := by
      rw [List.length_cons, List.length_replicate]
      omega
    refine ⟨lead.secondLow :: List.replicate (lead.following - 1) 0x80, ⟨?_, plain _, ?_⟩, total⟩
    · rintro byte ⟨⟩
      simpa [UInt8.le_iff_toNat_le] using range.1
    · exact Nat.le_of_eq total
  | cons second trail =>
    have total : (second :: trail ++ List.replicate (lead.following - (trail.length + 1)) 0x80).length =
        lead.following := by
      rw [List.length_cons] at room
      simp only [List.length_append, List.length_cons, List.length_replicate]
      omega
    refine ⟨List.replicate (lead.following - (trail.length + 1)) 0x80, ⟨within, ?_, ?_⟩, total⟩
    · exact List.forall_mem_append.mpr ⟨trailing, plain _⟩
    · exact Nat.le_of_eq total

/-- The bytes that begin a character: its only byte, or a first byte and bytes that go on
with it. -/
theorem opens_cons_iff {first : UInt8} {trail : List UInt8} :
    Opens (first :: trail) ↔
      first < 0x80 ∧ trail = [] ∨ ∃ lead, lead? first = some lead ∧ lead.Continues trail := by
  constructor
  · rintro ⟨character, part⟩
    obtain ⟨start, behind, shape, -⟩ := exists_written character
    rw [shape, List.cons_prefix_cons] at part
    obtain ⟨rfl, inside⟩ := part
    rcases character_cases shape with ⟨ascii, rfl⟩ | ⟨lead, leads, continues, -⟩
    · exact .inl ⟨ascii, List.prefix_nil.mp inside⟩
    · exact .inr ⟨lead, leads, continues.of_part inside⟩
  · rintro (⟨ascii, rfl⟩ | ⟨lead, leads, continues⟩)
    · exact ⟨Char.ofNat first.toNat, utf8EncodeChar_ascii ascii ▸ List.prefix_refl _⟩
    · obtain ⟨more, continued, full⟩ := continues.exists_full leads
      obtain ⟨character, shape⟩ := exists_character leads continued full
      exact ⟨character, more, shape.symm⟩

/-! ## Reading -/

/-- Finishing a character takes continuation bytes until all are there or another byte
comes. -/
theorem finish_cases (bits remaining : Nat) (bytes : List UInt8) :
    ∃ taken rest, bytes = taken ++ rest ∧ (∀ byte ∈ taken, isContinuation byte = true) ∧
      (taken.length = remaining ∨ taken.length < remaining ∧
        (∀ byte ∈ rest.head?, isContinuation byte = false) ∧
        finish bits remaining bytes = (none, rest)) := by
  induction remaining generalizing bits bytes with
  | zero => exact ⟨[], bytes, rfl, by simp, .inl rfl⟩
  | succ remaining inductionHypothesis =>
    cases bytes with
    | nil => exact ⟨[], [], rfl, by simp, .inr ⟨by simp, by simp, rfl⟩⟩
    | cons byte bytes =>
      cases kind : isContinuation byte with
      | false =>
        refine ⟨[], byte :: bytes, rfl, by simp, .inr ⟨by simp, by simpa using kind, ?_⟩⟩
        simp only [finish, kind, Bool.false_eq_true, if_false]
      | true =>
        obtain ⟨taken, rest, rfl, trailing, outcome⟩ := inductionHypothesis (extend bits byte) bytes
        refine ⟨byte :: taken, rest, rfl, List.forall_mem_cons.mpr ⟨kind, trailing⟩, ?_⟩
        simp only [finish, kind, if_true, List.length_cons]
        exact outcome.imp (by omega) (And.imp_left (by omega))

/-- Behind a first byte, reading takes the bytes that go on with the character: all that
it promises, or as many as there are. -/
theorem next_of_lead {first : UInt8} {lead : Lead} (leads : lead? first = some lead)
    (bytes : List UInt8) :
    ∃ trail rest, bytes = trail ++ rest ∧ lead.Continues trail ∧
      (trail.length = lead.following ∨ trail.length < lead.following ∧
        (∀ byte ∈ rest.head?, ¬ lead.Continues (trail ++ [byte])) ∧
        next first bytes = (none, rest)) := by
  have bound := lead?_eq_some leads
  have high : ¬ first < 0x80 := by
    simp only [UInt8.lt_iff_toNat_lt, UInt8.reduceToNat]
    omega
  have empty : lead.Continues [] := ⟨by simp, by simp, Nat.zero_le _⟩
  cases bytes with
  | nil =>
    refine ⟨[], [], rfl, empty, .inr ⟨bound.2.2.1, by simp, ?_⟩⟩
    simp only [next, if_neg high, leads]
  | cons second bytes =>
    by_cases within : (lead.secondLow ≤ second && second ≤ lead.secondHigh) = true
    · obtain ⟨taken, rest, rfl, trailing, outcome⟩ :=
        finish_cases (extend lead.share second) (lead.following - 1) bytes
      refine ⟨second :: taken, rest, rfl, ⟨by simpa using within, trailing, ?_⟩, ?_⟩
      · rw [List.length_cons]
        omega
      · rw [List.length_cons]
        rcases outcome with full | ⟨short, ends, read⟩
        · exact .inl (by omega)
        · refine .inr ⟨by omega, ?_, ?_⟩
          · intro byte first continues
            have inside := continues.trailing byte (by simp)
            rw [ends byte first] at inside
            cases inside
          · simp only [next, if_neg high, leads, if_pos within, read]
    · refine ⟨[], second :: bytes, rfl, empty, .inr ⟨bound.2.2.1, ?_, ?_⟩⟩
      · rintro byte ⟨⟩ continues
        exact within (continues.within second rfl)
      · simp only [next, if_neg high, leads, if_neg within]

/-! ## Subparts -/

theorem Subpart.length_pos {part rest : List UInt8} (subpart : Subpart part rest) :
    0 < part.length := by
  rcases subpart.opens with single | ⟨some, -⟩
  · omega
  · exact List.length_pos_iff.mpr some

/-- Where a first byte stands, the bytes behind it decide on the subpart. -/
theorem subpart_cons {first : UInt8} {trail rest : List UInt8}
    (opens : trail = [] ∨ Opens (first :: trail))
    (stops : ∀ longer, longer <+: trail ++ rest → Opens (first :: longer) →
      longer.length ≤ trail.length)
    (incomplete : ∀ character longer, String.utf8EncodeChar character = first :: longer →
      trail.length < longer.length) : Subpart (first :: trail) rest := by
  refine ⟨fun character readable => ?_, ?_, fun longer part opened => ?_⟩
  · obtain ⟨start, behind, shape, -⟩ := exists_written character
    rw [shape, List.cons_append, List.cons_prefix_cons] at readable
    obtain ⟨rfl, inside⟩ := readable
    have within := stops behind inside ⟨character, shape ▸ List.prefix_refl _⟩
    have beyond := incomplete character behind shape
    omega
  · exact opens.imp (fun none => by rw [none, List.length_singleton])
      fun begins => ⟨List.cons_ne_nil first trail, begins⟩
  · cases longer with
    | nil => exact Nat.zero_le _
    | cons start behind =>
      rw [List.cons_append, List.cons_prefix_cons] at part
      obtain ⟨rfl, inside⟩ := part
      exact Nat.succ_le_succ (stops behind inside opened)

/-- At one place there is one subpart. -/
theorem Subpart.unique {part rest other later : List UInt8} (subpart : Subpart part rest)
    (another : Subpart other later) (same : part ++ rest = other ++ later) :
    part = other ∧ rest = later := by
  have within {part rest other later : List UInt8} (subpart : Subpart part rest)
      (another : Subpart other later) (same : part ++ rest = other ++ later) :
      other.length ≤ part.length := by
    have some := subpart.length_pos
    rcases another.opens with single | ⟨-, opens⟩
    · omega
    · exact subpart.maximal other ⟨later, same.symm⟩ opens
  exact List.append_inj same
    (Nat.le_antisymm (within another subpart same.symm) (within subpart another same))

/-- Reading takes the bytes of a character from the front, or else a subpart. -/
theorem next_reads (first : UInt8) (bytes : List UInt8) :
    (∃ character rest, first :: bytes = String.utf8EncodeChar character ++ rest ∧
      next first bytes = (some character, rest)) ∨
    ∃ part rest, first :: bytes = part ++ rest ∧ Subpart part rest ∧
      next first bytes = (none, rest) := by
  by_cases ascii : first < 0x80
  · have shape := utf8EncodeChar_ascii ascii
    exact .inl ⟨_, bytes, by rw [shape, List.singleton_append], next_character shape bytes⟩
  · cases leads : lead? first with
    | none =>
      have shut (longer : List UInt8) : ¬ Opens (first :: longer) := by
        simp [opens_cons_iff, ascii, leads]
      refine .inr ⟨[first], bytes, rfl, subpart_cons (.inl rfl) ?_ ?_, ?_⟩
      · exact fun longer _ opens => absurd opens (shut longer)
      · exact fun character longer shape =>
          absurd ⟨character, shape ▸ List.prefix_refl _⟩ (shut longer)
      · simp only [next, if_neg ascii, leads]
    | some lead =>
      have opens_iff (longer : List UInt8) : Opens (first :: longer) ↔ lead.Continues longer := by
        simp [opens_cons_iff, ascii, leads]
      obtain ⟨trail, rest, rfl, continues, full | ⟨short, ends, read⟩⟩ := next_of_lead leads bytes
      · obtain ⟨character, shape⟩ := exists_character leads continues full
        exact .inl ⟨character, rest, by rw [shape, List.cons_append], next_character shape rest⟩
      · refine .inr ⟨first :: trail, rest, rfl,
          subpart_cons (.inr ((opens_iff trail).mpr continues)) ?_ ?_, read⟩
        · intro longer part opens
          -- Any longer start would go on with the byte at which reading stopped.
          by_contra beyond
          obtain ⟨more, rfl⟩ : trail <+: longer :=
            List.prefix_of_prefix_length_le (List.prefix_append trail rest) part (by omega)
          rw [List.prefix_append_right_inj] at part
          cases more with
          | nil => simp at beyond
          | cons byte more =>
            obtain ⟨later, rfl⟩ := part
            exact ends byte rfl (((opens_iff _).mp opens).of_part ⟨more, by simp⟩)
        · intro character longer shape
          rcases character_cases shape with ⟨single, -⟩ | ⟨other, same, -, full⟩
          · exact absurd single ascii
          · obtain rfl := Option.some.inj (leads.symm.trans same)
            omega

/-- Reading is what the standard has it be: `lossy` gives the one text that bytes stand
for. -/
theorem decodes_iff {bytes : List UInt8} {text : List Char} :
    Decodes bytes text ↔ lossy bytes = text := by
  constructor
  · intro decodes
    induction decodes with
    | nil => exact lossy_nil
    | @character character rest text _ inductionHypothesis =>
      have read := lossy_encode_append [character] rest
      rwa [encode_cons, encode_nil, List.append_nil, inductionHypothesis] at read
    | @subpart part rest text replaced _ inductionHypothesis =>
      obtain ⟨first, trail, rfl⟩ := List.exists_cons_of_length_pos replaced.length_pos
      rw [List.cons_append, lossy_cons]
      rcases next_reads first (trail ++ rest) with
        ⟨character, later, shape, -⟩ | ⟨other, later, shape, another, read⟩
      · exact absurd ⟨later, shape.symm⟩ (replaced.unreadable character)
      · obtain ⟨-, rfl⟩ := replaced.unique another shape
        rw [read, Option.getD_none, inductionHypothesis]
  · rintro rfl
    -- One character or subpart may take several bytes, hence by length.
    induction size : bytes.length using Nat.strongRecOn generalizing bytes with
    | ind total inductionHypothesis =>
      cases bytes with
      | nil => exact lossy_nil ▸ .nil
      | cons first bytes =>
        have shorter := next_length first bytes
        rw [lossy_cons]
        rcases next_reads first bytes with
          ⟨character, rest, shape, read⟩ | ⟨part, rest, shape, subpart, read⟩
        all_goals
          rw [read] at shorter ⊢
          rw [shape]
          have less : rest.length < total := size ▸ Nat.lt_succ_of_le shorter
          have later := inductionHypothesis rest.length less rfl
        · exact .character later
        · exact .subpart subpart later

end DebugConsole.Utf8

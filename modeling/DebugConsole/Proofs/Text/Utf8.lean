import DebugConsole.Text.Utf8

/-!
# Decoding UTF-8 piece by piece

Lossy decoding is no homomorphism: a character that is cut in two is lost on both
sides. `lossy_append` says at which cuts it is one, namely where the second part
does not start inside a character or where the first part leaves no character
incomplete. `Utf8.heldBack` cuts at such places only, whatever the bytes are.

The last section is about the bytes of a text: decoding gives the text back, and
what is held back of a part of them is exactly what the cut left incomplete.
-/

namespace DebugConsole.Utf8

/-! ## Classes of bytes -/

theorem isContinuation_iff (byte : UInt8) :
    isContinuation byte = true ↔ 0x80 ≤ byte.toNat ∧ byte.toNat < 0xC0 := by
  have table : ∀ code, code < 256 → ((UInt8.ofNat code &&& 0xC0 == 0x80) = true ↔
      0x80 ≤ code ∧ code < 0xC0) := by decide +kernel
  simpa [isContinuation] using table byte.toNat byte.toNat_lt

theorem announcedWidth_eq (byte : UInt8) :
    announcedWidth byte =
      if byte.toNat < 0xC0 then 1 else if byte.toNat < 0xE0 then 2
      else if byte.toNat < 0xF0 then 3 else if byte.toNat < 0xF8 then 4 else 1 := by
  have table : ∀ code, code < 256 → announcedWidth (UInt8.ofNat code) =
      if code < 0xC0 then 1 else if code < 0xE0 then 2
      else if code < 0xF0 then 3 else if code < 0xF8 then 4 else 1 := by decide +kernel
  simpa using table byte.toNat byte.toNat_lt

theorem announcedWidth_le (byte : UInt8) : announcedWidth byte ≤ 4 := by
  rw [announcedWidth_eq]
  grind

/-- The range for the second byte, in numbers, by the width that the first byte leads. -/
theorem lead?_cases {first : UInt8} {lead : Lead} (leads : lead? first = some lead) :
    (lead.following = 1 ∧ 0xC2 ≤ first.toNat ∧ first.toNat < 0xE0 ∧
      lead.secondLow.toNat = 0x80 ∧ lead.secondHigh.toNat = 0xBF) ∨
    (lead.following = 2 ∧ 0xE0 ≤ first.toNat ∧ first.toNat < 0xF0 ∧
      lead.secondLow.toNat = (if first.toNat = 0xE0 then 0xA0 else 0x80) ∧
      lead.secondHigh.toNat = if first.toNat = 0xED then 0x9F else 0xBF) ∨
    (lead.following = 3 ∧ 0xF0 ≤ first.toNat ∧ first.toNat < 0xF5 ∧
      lead.secondLow.toNat = (if first.toNat = 0xF0 then 0x90 else 0x80) ∧
      lead.secondHigh.toNat = if first.toNat = 0xF4 then 0x8F else 0xBF) := by
  simp only [lead?, UInt8.lt_iff_toNat_lt, UInt8.reduceToNat, beq_iff_eq, ← UInt8.toNat_inj] at leads
  split at leads
  · cases leads
  · split at leads
    · cases leads
      exact .inl ⟨rfl, by omega, by omega, rfl, rfl⟩
    · split at leads
      · cases leads
        refine .inr (.inl ⟨rfl, by omega, by omega, ?_, ?_⟩) <;> dsimp only <;> split <;> rfl
      · split at leads
        · cases leads
          refine .inr (.inr ⟨rfl, by omega, by omega, ?_, ?_⟩) <;> dsimp only <;> split <;> rfl
        · cases leads

/-- A first byte of a multi-byte character announces as many bytes as it needs, and
the range of its second byte holds continuation bytes only. -/
theorem lead?_eq_some {byte : UInt8} {lead : Lead} (leads : lead? byte = some lead) :
    0xC2 ≤ byte.toNat ∧ announcedWidth byte = lead.following + 1 ∧ 1 ≤ lead.following ∧
      ∀ second : UInt8, (lead.secondLow ≤ second && second ≤ lead.secondHigh) = true →
        isContinuation second = true := by
  simp only [announcedWidth_eq, Bool.and_eq_true, decide_eq_true_eq, UInt8.le_iff_toNat_le,
    isContinuation_iff]
  rcases lead?_cases leads with ⟨width, high, low, least, greatest⟩ |
    ⟨width, high, low, least, greatest⟩ | ⟨width, high, low, least, greatest⟩
  all_goals
    rw [width, least, greatest]
    refine ⟨by omega, by grind, by omega, fun second within => ?_⟩
  · omega
  all_goals split at within <;> split at within <;> omega

/-! ## What is held back -/

theorem heldBackFrom_append {trail : List UInt8} {first : UInt8}
    (trailing : ∀ byte ∈ trail, isContinuation byte = true)
    (starting : isContinuation first = false) (earlier : List UInt8) (back : Nat) :
    heldBackFrom (trail ++ first :: earlier) back =
      if back + trail.length < announcedWidth first then back + trail.length else 0 := by
  induction trail generalizing back with
  | nil => simp [heldBackFrom, starting]
  | cons byte trail inductionHypothesis =>
    have member := trailing byte (by simp)
    have later := inductionHypothesis (fun other inside => trailing other (by simp [inside]))
      (back + 1)
    have reorder : back + 1 + trail.length = back + (trail.length + 1) := by omega
    simp only [List.cons_append, heldBackFrom, member, if_true, later, List.length_cons, reorder]

theorem heldBackFrom_continuations {trail : List UInt8}
    (trailing : ∀ byte ∈ trail, isContinuation byte = true) (back : Nat) :
    heldBackFrom trail back = 0 := by
  induction trail generalizing back with
  | nil => rfl
  | cons byte trail inductionHypothesis =>
    have member := trailing byte (by simp)
    simp only [heldBackFrom, member, if_true]
    exact inductionHypothesis (fun other inside => trailing other (by simp [inside])) _

/-- Bytes end in continuation bytes behind a byte of another kind, unless they are
continuation bytes throughout. -/
theorem exists_trail (reversed : List UInt8) :
    (∀ byte ∈ reversed, isContinuation byte = true) ∨
      ∃ trail first earlier, reversed = trail ++ first :: earlier ∧
        (∀ byte ∈ trail, isContinuation byte = true) ∧ isContinuation first = false := by
  induction reversed with
  | nil => simp
  | cons byte reversed inductionHypothesis =>
    cases kind : isContinuation byte with
    | false => exact .inr ⟨[], byte, reversed, rfl, by simp, kind⟩
    | true =>
      rcases inductionHypothesis with all | ⟨trail, first, earlier, rfl, trailing, starting⟩
      · exact .inl (by simpa [kind] using all)
      · exact .inr ⟨byte :: trail, first, earlier, rfl, by simpa [kind] using trailing, starting⟩

/-- Looking further back than three bytes would change nothing. -/
theorem heldBack_eq_heldBackFrom (bytes : List UInt8) :
    heldBack bytes = heldBackFrom bytes.reverse 1 := by
  unfold heldBack
  rcases exists_trail bytes.reverse with all | ⟨trail, first, earlier, shape, trailing, starting⟩
  · rw [heldBackFrom_continuations all,
      heldBackFrom_continuations fun byte inside => all byte (List.mem_of_mem_take inside)]
  · rw [shape, heldBackFrom_append trailing starting]
    by_cases short : trail.length < 3
    · obtain ⟨room, sum⟩ := Nat.exists_eq_add_of_lt short
      have cut : (trail ++ first :: earlier).take 3 = trail ++ first :: earlier.take room := by
        rw [sum, Nat.add_assoc, List.take_length_add_append, List.take_succ_cons]
      rw [cut, heldBackFrom_append trailing starting]
    · have cut : (trail ++ first :: earlier).take 3 = trail.take 3 := by
        rw [List.take_append_of_le_length (by omega)]
      have width := announcedWidth_le first
      rw [cut, if_neg (by omega),
        heldBackFrom_continuations fun byte inside => trailing byte (List.mem_of_mem_take inside)]

/-- Of bytes that end in a first byte and continuation bytes, these are held back if
they are fewer than announced, and nothing otherwise. -/
theorem heldBack_append {first : UInt8} {trail : List UInt8}
    (starting : isContinuation first = false)
    (trailing : ∀ byte ∈ trail, isContinuation byte = true) (earlier : List UInt8) :
    heldBack (earlier ++ first :: trail) =
      if trail.length + 1 < announcedWidth first then trail.length + 1 else 0 := by
  have reversed : (earlier ++ first :: trail).reverse = trail.reverse ++ first :: earlier.reverse := by
    simp
  rw [heldBack_eq_heldBackFrom, reversed,
    heldBackFrom_append (by simpa using trailing) starting, List.length_reverse, Nat.add_comm 1]

/-- The start of a character that its first byte announces to be longer, or nothing. -/
inductive Fragment : List UInt8 → Prop where
  | none : Fragment []
  | cut {first : UInt8} {trail : List UInt8} (starting : isContinuation first = false)
      (trailing : ∀ byte ∈ trail, isContinuation byte = true)
      (incomplete : trail.length + 1 < announcedWidth first) : Fragment (first :: trail)

/-- Bytes end in a byte of another kind and continuation bytes, unless they are
continuation bytes throughout. -/
theorem exists_last (bytes : List UInt8) :
    (∀ byte ∈ bytes, isContinuation byte = true) ∨
      ∃ earlier first trail, bytes = earlier ++ first :: trail ∧
        isContinuation first = false ∧ ∀ byte ∈ trail, isContinuation byte = true := by
  rcases exists_trail bytes.reverse with all | ⟨trail, first, earlier, shape, trailing, starting⟩
  · exact .inl (by simpa using all)
  · refine .inr ⟨earlier.reverse, first, trail.reverse, ?_, starting, by simpa using trailing⟩
    rw [← bytes.reverse_reverse, shape]
    simp

theorem heldBack_continuations {bytes : List UInt8}
    (trailing : ∀ byte ∈ bytes, isContinuation byte = true) : heldBack bytes = 0 := by
  rw [heldBack_eq_heldBackFrom, heldBackFrom_continuations (by simpa using trailing)]

/-- What is held back is a fragment, of which nothing is given away. -/
theorem exists_fragment (bytes : List UInt8) :
    ∃ complete held, bytes = complete ++ held ∧ heldBack bytes = held.length ∧ Fragment held := by
  rcases exists_last bytes with all | ⟨earlier, first, trail, shape, starting, trailing⟩
  · exact ⟨bytes, [], by simp, heldBack_continuations all, .none⟩
  · have amount := heldBack_append starting trailing earlier
    rw [← shape] at amount
    by_cases incomplete : trail.length + 1 < announcedWidth first
    · rw [if_pos incomplete] at amount
      exact ⟨earlier, _, shape, amount, .cut starting trailing incomplete⟩
    · rw [if_neg incomplete] at amount
      exact ⟨bytes, [], by simp, amount, .none⟩

/-- An end of bytes from which nothing is held back keeps that property. -/
theorem heldBack_of_append_left {earlier bytes : List UInt8}
    (none : heldBack (earlier ++ bytes) = 0) : heldBack bytes = 0 := by
  obtain ⟨complete, held, shape, amount, fragment⟩ := exists_fragment bytes
  cases fragment with
  | none => exact amount
  | cut starting trailing incomplete =>
    rw [shape, ← List.append_assoc, heldBack_append starting trailing, if_pos incomplete] at none
    omega

/-- No more than three bytes are held back. -/
theorem Fragment.length_le {held : List UInt8} (fragment : Fragment held) : held.length ≤ 3 := by
  cases fragment with
  | none => exact Nat.zero_le 3
  | @cut first trail _ _ incomplete =>
    have width := announcedWidth_le first
    rw [List.length_cons]
    omega

/-- What is held back of a stream depends on its bytes from the last fragment on. -/
theorem Fragment.heldBack_append_append {complete held : List UInt8} (fragment : Fragment held)
    (amount : heldBack (complete ++ held) = held.length) (later : List UInt8) :
    heldBack (complete ++ (held ++ later)) = heldBack (held ++ later) := by
  rcases exists_last (held ++ later) with all | ⟨earlier, first, trail, shape, starting, trailing⟩
  · -- No fragment but the empty one has continuation bytes only.
    cases fragment with
    | cut starting _ _ => simp [starting] at all
    | none =>
      rw [List.append_nil, List.length_nil] at amount
      rw [List.nil_append] at all ⊢
      rw [heldBack_continuations all]
      rcases exists_last complete with whole | ⟨earlier, first, trail, shape, starting, trailing⟩
      · exact heldBack_continuations (List.forall_mem_append.mpr ⟨whole, all⟩)
      · rw [shape, heldBack_append starting trailing] at amount
        rw [shape, List.append_assoc, List.cons_append,
          heldBack_append starting (List.forall_mem_append.mpr ⟨trailing, all⟩),
          List.length_append]
        split at amount
        · omega
        · exact if_neg (by omega)
  · rw [shape, ← List.append_assoc, heldBack_append starting trailing,
      heldBack_append starting trailing]

/-! ## Cuts that decoding does not notice -/

/-- A place between bytes where decoding the two sides apart gives the same text: no
character goes on behind it. -/
def Seam (bytes later : List UInt8) : Prop :=
  (∀ byte ∈ later.head?, isContinuation byte = false) ∨ heldBack bytes = 0

theorem Seam.of_part {bytes later more : List UInt8} (seam : Seam bytes more)
    (part : later <+: more) : Seam bytes later := by
  refine seam.imp_left fun starting byte first => starting byte ?_
  obtain ⟨rest, rfl⟩ := part
  cases later with
  | nil => cases first
  | cons _ _ => exact first

theorem Seam.of_append_left {earlier bytes later : List UInt8}
    (seam : Seam (earlier ++ bytes) later) : Seam bytes later :=
  seam.imp_right heldBack_of_append_left

/-- What follows `earlier` in a stream of bytes is not needed to finish the bytes of
one character, or it starts with a byte that cannot. -/
theorem finish_append {bytes later : List UInt8} {bits remaining : Nat}
    (enough : (∀ byte ∈ later.head?, isContinuation byte = false) ∨
      remaining ≤ bytes.length ∨ ∃ byte ∈ bytes, isContinuation byte = false) :
    finish bits remaining (bytes ++ later) =
      ((finish bits remaining bytes).1, (finish bits remaining bytes).2 ++ later) := by
  induction remaining generalizing bits bytes with
  | zero => simp [finish]
  | succ remaining inductionHypothesis =>
    cases bytes with
    | nil =>
      rcases enough with starting | short | ⟨byte, inside, _⟩
      · cases later with
        | nil => simp [finish]
        | cons byte later =>
          have start := starting byte (by simp)
          simp [finish, start]
      · simp at short
      · simp at inside
    | cons byte bytes =>
      simp only [List.cons_append, finish]
      split
      · next continues =>
        apply inductionHypothesis
        rcases enough with starting | short | ⟨other, inside, start⟩
        · exact .inl starting
        · exact .inr (.inl (by simpa using short))
        · rcases List.mem_cons.mp inside with rfl | inside
          · rw [start] at continues
            cases continues
          · exact .inr (.inr ⟨other, inside, start⟩)
      · rfl

/-- Reading one character does not look across a seam. -/
theorem next_append {first : UInt8} {rest later : List UInt8} (seam : Seam (first :: rest) later) :
    next first (rest ++ later) = ((next first rest).1, (next first rest).2 ++ later) := by
  unfold next
  split
  · rfl
  · cases leads : lead? first with
    | none => rfl
    | some lead =>
      obtain ⟨bound, width, positive, second⟩ := lead?_eq_some leads
      have starting : isContinuation first = false := by
        rw [← Bool.not_eq_true, isContinuation_iff]
        omega
      have enough : (∀ byte ∈ later.head?, isContinuation byte = false) ∨
          lead.following ≤ rest.length ∨ ∃ byte ∈ rest, isContinuation byte = false := by
        rcases seam with boundary | complete
        · exact .inl boundary
        · by_cases trailing : ∀ byte ∈ rest, isContinuation byte = true
          · have amount := heldBack_append starting trailing []
            rw [List.nil_append, complete, width] at amount
            split at amount <;> omega
          · simpa using Or.inr (Or.inr trailing)
      cases rest with
      | nil =>
        rcases enough with boundary | short | ⟨byte, inside, _⟩
        · cases later with
          | nil => rfl
          | cons byte later =>
            have start := boundary byte (by simp)
            have outside : ¬ (lead.secondLow ≤ byte && byte ≤ lead.secondHigh) = true :=
              fun within => by rw [second byte within] at start; cases start
            simp only [List.nil_append, if_neg outside]
        · simp only [List.length_nil] at short
          omega
        · cases inside
      | cons byte rest =>
        simp only [List.cons_append]
        split
        · next within =>
          apply finish_append
          have continues := second byte within
          rcases enough with boundary | short | ⟨other, inside, start⟩
          · exact .inl boundary
          · refine .inr (.inl ?_)
            simp only [List.length_cons] at short
            omega
          · rcases List.mem_cons.mp inside with rfl | inside
            · rw [continues] at start
              cases start
            · exact .inr (.inr ⟨other, inside, start⟩)
        · rfl

theorem finish_suffix (bits remaining : Nat) (bytes : List UInt8) :
    (finish bits remaining bytes).2 <:+ bytes := by
  induction remaining generalizing bits bytes with
  | zero => exact List.suffix_refl bytes
  | succ remaining inductionHypothesis =>
    cases bytes with
    | nil => exact List.suffix_refl []
    | cons byte bytes =>
      simp only [finish]
      split
      · exact (inductionHypothesis _ _).trans (List.suffix_cons byte bytes)
      · exact List.suffix_refl _

/-- Reading one character leaves an end of the bytes. -/
theorem next_suffix (first : UInt8) (rest : List UInt8) : (next first rest).2 <:+ rest := by
  unfold next
  split
  · exact List.suffix_refl rest
  · split
    · exact List.suffix_refl _
    · exact List.suffix_refl []
    · split
      · exact (finish_suffix _ _ _).trans (List.suffix_cons _ _)
      · exact List.suffix_refl _

theorem lossyOnto_append (front earlier : List Char) (bytes : List UInt8) :
    lossyOnto (earlier ++ front) bytes = front.reverse ++ lossyOnto earlier bytes := by
  fun_induction lossyOnto earlier bytes with
  | case1 earlier => simp [lossyOnto]
  | case2 earlier first rest inductionHypothesis =>
    rw [lossyOnto]
    exact inductionHypothesis

theorem lossyOnto_eq (earlier : List Char) (bytes : List UInt8) :
    lossyOnto earlier bytes = earlier.reverse ++ lossy bytes :=
  lossyOnto_append earlier [] bytes

@[simp] theorem lossy_nil : lossy [] = [] := by simp [lossy, lossyOnto]

theorem lossy_cons (first : UInt8) (rest : List UInt8) :
    lossy (first :: rest) = (next first rest).1.getD replacement :: lossy (next first rest).2 := by
  rw [lossy, lossyOnto, lossyOnto_eq]
  rfl

/-- Decoding is a homomorphism at every seam. -/
theorem lossy_append {bytes later : List UInt8} (seam : Seam bytes later) :
    lossy (bytes ++ later) = lossy bytes ++ lossy later := by
  induction total : bytes.length using Nat.strongRecOn generalizing bytes with
  | ind size inductionHypothesis =>
    cases bytes with
    | nil => simp
    | cons first rest =>
      obtain ⟨read, parts⟩ := next_suffix first rest
      have shorter : (next first rest).2.length < size := by
        have bound := next_length first rest
        simp only [List.length_cons] at total
        omega
      have remaining : Seam (next first rest).2 later := by
        refine @Seam.of_append_left (first :: read) _ _ ?_
        rwa [List.cons_append, parts]
      rw [List.cons_append, lossy_cons, next_append seam, lossy_cons, List.cons_append,
        inductionHypothesis _ shorter remaining rfl]

/-- The cut that holds a fragment back is a seam, whatever comes after it. -/
theorem Fragment.seam {complete held : List UInt8} (fragment : Fragment held)
    (amount : heldBack (complete ++ held) = held.length) (later : List UInt8) :
    Seam complete (held ++ later) := by
  cases fragment with
  | none =>
    right
    simpa using amount
  | cut starting _ _ =>
    left
    simpa using starting

/-- Bytes that can only stand inside a character are none by themselves. -/
theorem lossy_continuations {bytes : List UInt8}
    (trailing : ∀ byte ∈ bytes, isContinuation byte = true) :
    ∀ character ∈ lossy bytes, character = replacement := by
  induction bytes with
  | nil => simp
  | cons byte bytes inductionHypothesis =>
    have continues := (isContinuation_iff byte).mp (trailing byte (by simp))
    have unread : next byte bytes = (none, bytes) := by
      have high : ¬ byte < 0x80 := by
        simp only [UInt8.lt_iff_toNat_lt, UInt8.reduceToNat]
        omega
      have low : byte < 0xC2 := by
        simp only [UInt8.lt_iff_toNat_lt, UInt8.reduceToNat]
        omega
      simp [next, high, lead?, low]
    rw [lossy_cons, unread]
    simpa using inductionHypothesis fun other inside => trailing other (by simp [inside])

theorem finish_short {bits remaining : Nat} {bytes : List UInt8}
    (short : bytes.length < remaining) : (finish bits remaining bytes).1 = none := by
  induction remaining generalizing bits bytes with
  | zero => simp at short
  | succ remaining inductionHypothesis =>
    cases bytes with
    | nil => rfl
    | cons byte bytes =>
      simp only [finish]
      split
      · exact inductionHypothesis (by simpa using short)
      · rfl

/-- A fragment stands for replacement characters only. -/
theorem Fragment.lossy {held : List UInt8} (fragment : Fragment held) :
    ∀ character ∈ lossy held, character = replacement := by
  cases fragment with
  | none => simp
  | @cut first trail starting trailing incomplete =>
    have unread : (next first trail).1 = Option.none := by
      unfold next
      split
      · next ascii =>
        simp only [UInt8.lt_iff_toNat_lt, UInt8.reduceToNat] at ascii
        rw [announcedWidth_eq, if_pos (by omega)] at incomplete
        omega
      · split
        · rfl
        · rfl
        · next lead leads =>
          obtain ⟨_, announced, _, _⟩ := lead?_eq_some leads
          split
          · apply finish_short
            simp only [List.length_cons] at incomplete
            omega
          · rfl
    have rest := lossy_continuations fun byte inside =>
      trailing byte ((next_suffix first trail).subset inside)
    rw [lossy_cons, unread]
    simpa using rest

/-! ## The bytes of a text -/

@[simp] theorem encode_nil : encode [] = [] := rfl

@[simp] theorem encode_cons (character : Char) (text : List Char) :
    encode (character :: text) = String.utf8EncodeChar character ++ encode text := rfl

@[simp] theorem encode_append (text later : List Char) :
    encode (text ++ later) = encode text ++ encode later := List.flatMap_append

theorem foldl_utf8Size (total : Nat) (text : List Char) :
    text.foldl (fun total character => total + character.utf8Size) total =
      total + byteLength text := by
  unfold byteLength
  induction text generalizing total with
  | nil => rfl
  | cons character text inductionHypothesis =>
    rw [List.foldl_cons, List.foldl_cons, inductionHypothesis,
      inductionHypothesis (0 + character.utf8Size)]
    omega

@[simp] theorem byteLength_nil : byteLength [] = 0 := rfl

@[simp] theorem byteLength_cons (character : Char) (text : List Char) :
    byteLength (character :: text) = character.utf8Size + byteLength text := by
  rw [byteLength, List.foldl_cons, foldl_utf8Size, Nat.zero_add]

@[simp] theorem byteLength_append (text later : List Char) :
    byteLength (text ++ later) = byteLength text + byteLength later := by
  rw [byteLength, List.foldl_append, foldl_utf8Size]
  rfl

/-- Every character takes at least one byte. -/
theorem length_le_byteLength (text : List Char) : text.length ≤ byteLength text := by
  induction text with
  | nil => exact Nat.le_refl 0
  | cons character text inductionHypothesis =>
    have some := character.utf8Size_pos
    rw [List.length_cons, byteLength_cons]
    omega

theorem toNat_code_point (character : Char) :
    character.toNat < 0xD800 ∨ 0xDFFF < character.toNat ∧ character.toNat < 0x110000 := by
  have valid := character.valid
  unfold UInt32.isValidChar Nat.isValidChar at valid
  exact valid

/-- The continuation byte for six bits. -/
theorem toNat_continuation (bits : Nat) :
    (UInt8.ofNat (bits % 64 + 128)).toNat = bits % 64 + 128 := by
  rw [UInt8.toNat_ofNat']
  omega

theorem isContinuation_ofNat (bits : Nat) :
    isContinuation (UInt8.ofNat (bits % 64 + 128)) = true := by
  rw [isContinuation_iff, toNat_continuation]
  omega

theorem extend_ofNat (share bits : Nat) :
    extend share (UInt8.ofNat (bits % 64 + 128)) = share * 64 + bits % 64 := by
  have value := toNat_continuation bits
  unfold extend
  omega

theorem finish_ofNat (share bits remaining : Nat) (later : List UInt8) :
    finish share (remaining + 1) (UInt8.ofNat (bits % 64 + 128) :: later) =
      finish (share * 64 + bits % 64) remaining later := by
  rw [finish, if_pos (isContinuation_ofNat bits), extend_ofNat]

/-- Reading starts with the share of the first byte and the six bits of the second. -/
theorem next_ofNat {first : UInt8} {lead : Lead} (leads : lead? first = some lead) (bits : Nat)
    (within : lead.secondLow.toNat ≤ bits % 64 + 128 ∧ bits % 64 + 128 ≤ lead.secondHigh.toNat)
    (later : List UInt8) :
    next first (UInt8.ofNat (bits % 64 + 128) :: later) =
      finish (lead.share * 64 + bits % 64) (lead.following - 1) later := by
  have bound := (lead?_eq_some leads).1
  have high : ¬ first < 0x80 := by
    simp only [UInt8.lt_iff_toNat_lt, UInt8.reduceToNat]
    omega
  have second : (lead.secondLow ≤ UInt8.ofNat (bits % 64 + 128) &&
      UInt8.ofNat (bits % 64 + 128) ≤ lead.secondHigh) = true := by
    simpa only [UInt8.le_iff_toNat_le, toNat_continuation, Bool.and_eq_true,
      decide_eq_true_eq] using within
  simp only [next, if_neg high, leads, if_pos second, extend_ofNat]

/-- How a character is written: a first byte that announces the width, and behind it
continuation bytes, from which reading gets the character back. -/
structure Written (character : Char) (first : UInt8) (trail : List UInt8) : Prop where
  starting : isContinuation first = false
  trailing : ∀ byte ∈ trail, isContinuation byte = true
  width : announcedWidth first = trail.length + 1
  read : ∀ later, next first (trail ++ later) = (some character, later)

section Widths

variable {code : Nat} {character : Char} (back : Char.ofNat code = character)
include back

theorem written_one (small : code ≤ 0x7F) : Written character (UInt8.ofNat code) [] := by
  have value : (UInt8.ofNat code).toNat = code := by
    rw [UInt8.toNat_ofNat']
    omega
  have ascii : UInt8.ofNat code < 0x80 := by
    simp only [UInt8.lt_iff_toNat_lt, value, UInt8.reduceToNat]
    omega
  refine ⟨?_, by simp, ?_, fun later => ?_⟩
  · rw [← Bool.not_eq_true, isContinuation_iff, value]
    omega
  · rw [announcedWidth_eq, value, if_pos (by omega)]
    rfl
  · simp only [next, if_pos ascii, value, back, List.nil_append]

theorem written_two (large : 0x7F < code) (small : code ≤ 0x7FF) :
    Written character (UInt8.ofNat (code / 64 % 32 + 192)) [UInt8.ofNat (code % 64 + 128)] := by
  have value : (UInt8.ofNat (code / 64 % 32 + 192)).toNat = code / 64 + 192 := by
    rw [UInt8.toNat_ofNat']
    omega
  have leads : lead? (UInt8.ofNat (code / 64 % 32 + 192)) =
      some ⟨1, code / 64, 0x80, 0xBF⟩ := by
    simp only [lead?, UInt8.lt_iff_toNat_lt, value, UInt8.reduceToNat]
    rw [if_neg (by omega), if_pos (by omega), Nat.add_sub_cancel]
  refine ⟨?_, by simp only [List.mem_singleton, forall_eq, isContinuation_ofNat], ?_,
    fun later => ?_⟩
  · rw [← Bool.not_eq_true, isContinuation_iff, value]
    omega
  · rw [announcedWidth_eq, value, if_neg (by omega), if_pos (by omega)]
    rfl
  · have total : code / 64 * 64 + code % 64 = code := by omega
    have range : (0x80 : UInt8).toNat ≤ code % 64 + 128 ∧ code % 64 + 128 ≤ (0xBF : UInt8).toNat := by
      simp only [UInt8.reduceToNat]
      omega
    rw [List.cons_append, next_ofNat leads code range]
    simp only [total, Nat.sub_self, finish, back, List.nil_append]

theorem written_three (valid : code < 0xD800 ∨ 0xDFFF < code) (large : 0x7FF < code)
    (small : code ≤ 0xFFFF) :
    Written character (UInt8.ofNat (code / 4096 % 16 + 224))
      [UInt8.ofNat (code / 64 % 64 + 128), UInt8.ofNat (code % 64 + 128)] := by
  have value : (UInt8.ofNat (code / 4096 % 16 + 224)).toNat = code / 4096 + 224 := by
    rw [UInt8.toNat_ofNat']
    omega
  have leads : lead? (UInt8.ofNat (code / 4096 % 16 + 224)) =
      some ⟨2, code / 4096, if code / 4096 = 0 then 0xA0 else 0x80,
        if code / 4096 = 13 then 0x9F else 0xBF⟩ := by
    simp only [lead?, UInt8.lt_iff_toNat_lt, beq_iff_eq, ← UInt8.toNat_inj, value,
      UInt8.reduceToNat]
    rw [if_neg (by omega), if_neg (by omega), if_pos (by omega), Nat.add_sub_cancel]
    simp only [Nat.add_eq_right, show code / 4096 + 224 = 237 ↔ code / 4096 = 13 by omega]
  refine ⟨?_, by simp only [List.forall_mem_cons, isContinuation_ofNat, List.not_mem_nil,
    false_implies, implies_true, and_self], ?_, fun later => ?_⟩
  · rw [← Bool.not_eq_true, isContinuation_iff, value]
    omega
  · rw [announcedWidth_eq, value, if_neg (by omega), if_neg (by omega), if_pos (by omega)]
    rfl
  · have total : (code / 4096 * 64 + code / 64 % 64) * 64 + code % 64 = code := by omega
    have range : (if code / 4096 = 0 then 0xA0 else 0x80 : UInt8).toNat ≤ code / 64 % 64 + 128 ∧
        code / 64 % 64 + 128 ≤ (if code / 4096 = 13 then 0x9F else 0xBF : UInt8).toNat := by
      split <;> split <;> simp only [UInt8.reduceToNat] <;> omega
    rw [List.cons_append, next_ofNat leads (code / 64) range, List.cons_append,
      Nat.add_sub_cancel 1 1, finish_ofNat, total]
    simp only [finish, back, List.nil_append]

theorem written_four (valid : code < 0x110000) (large : 0xFFFF < code) :
    Written character (UInt8.ofNat (code / 262144 % 8 + 240))
      [UInt8.ofNat (code / 4096 % 64 + 128), UInt8.ofNat (code / 64 % 64 + 128),
        UInt8.ofNat (code % 64 + 128)] := by
  have value : (UInt8.ofNat (code / 262144 % 8 + 240)).toNat = code / 262144 + 240 := by
    rw [UInt8.toNat_ofNat']
    omega
  have leads : lead? (UInt8.ofNat (code / 262144 % 8 + 240)) =
      some ⟨3, code / 262144, if code / 262144 = 0 then 0x90 else 0x80,
        if code / 262144 = 4 then 0x8F else 0xBF⟩ := by
    simp only [lead?, UInt8.lt_iff_toNat_lt, beq_iff_eq, ← UInt8.toNat_inj, value,
      UInt8.reduceToNat]
    rw [if_neg (by omega), if_neg (by omega), if_neg (by omega), if_pos (by omega),
      Nat.add_sub_cancel]
    simp only [Nat.add_eq_right, show code / 262144 + 240 = 244 ↔ code / 262144 = 4 by omega]
  refine ⟨?_, by simp only [List.forall_mem_cons, isContinuation_ofNat, List.not_mem_nil,
    false_implies, implies_true, and_self], ?_, fun later => ?_⟩
  · rw [← Bool.not_eq_true, isContinuation_iff, value]
    omega
  · rw [announcedWidth_eq, value, if_neg (by omega), if_neg (by omega), if_neg (by omega),
      if_pos (by omega)]
    rfl
  · have total : ((code / 262144 * 64 + code / 4096 % 64) * 64 + code / 64 % 64) * 64 +
        code % 64 = code := by omega
    have range : (if code / 262144 = 0 then 0x90 else 0x80 : UInt8).toNat ≤
        code / 4096 % 64 + 128 ∧
        code / 4096 % 64 + 128 ≤ (if code / 262144 = 4 then 0x8F else 0xBF : UInt8).toNat := by
      split <;> split <;> simp only [UInt8.reduceToNat] <;> omega
    rw [List.cons_append, next_ofNat leads (code / 4096) range, List.cons_append, List.cons_append,
      Nat.add_sub_cancel 2 1, finish_ofNat, finish_ofNat, total]
    simp only [finish, back, List.nil_append]

end Widths

theorem exists_written (character : Char) :
    ∃ first trail, String.utf8EncodeChar character = first :: trail ∧
      Written character first trail := by
  have valid := toNat_code_point character
  have back : Char.ofNat character.toNat = character := Char.ofNat_toNat character
  unfold String.utf8EncodeChar
  simp only [show character.val.toNat = character.toNat from rfl]
  generalize character.toNat = code at valid back
  split
  · next small => exact ⟨_, _, rfl, written_one back small⟩
  · split
    · next large small => exact ⟨_, _, rfl, written_two back (by omega) small⟩
    · split
      · next large small => exact ⟨_, _, rfl, written_three back (by omega) (by omega) small⟩
      · next large => exact ⟨_, _, rfl, written_four back (by omega) (by omega)⟩

/-- Reading back the bytes of a text gives the text. -/
theorem lossy_encode_append (text : List Char) (later : List UInt8) :
    lossy (encode text ++ later) = text ++ lossy later := by
  induction text with
  | nil => rfl
  | cons character text inductionHypothesis =>
    obtain ⟨first, trail, shape, written⟩ := exists_written character
    rw [encode_cons, shape, List.append_assoc, List.cons_append, lossy_cons, written.read]
    simp only [inductionHypothesis, Option.getD_some, List.cons_append]

@[simp] theorem lossy_encode (text : List Char) : lossy (encode text) = text := by
  simpa using lossy_encode_append text []

/-- Behind complete characters nothing is held back. -/
theorem heldBack_append_encode (earlier : List UInt8) {text : List Char} (some : text ≠ []) :
    heldBack (earlier ++ encode text) = 0 := by
  obtain ⟨front, character, rfl⟩ := (List.eq_nil_or_concat text).resolve_left some
  obtain ⟨first, trail, shape, written⟩ := exists_written character
  rw [List.concat_eq_append, encode_append, encode_cons, encode_nil, List.append_nil, shape,
    ← List.append_assoc, heldBack_append written.starting written.trailing, written.width, if_neg (by omega)]

/-- A fragment is held back whatever precedes it. -/
theorem Fragment.heldBack_append {held : List UInt8} (fragment : Fragment held) (some : held ≠ [])
    (earlier : List UInt8) : heldBack (earlier ++ held) = held.length := by
  cases fragment with
  | none => contradiction
  | cut starting trailing incomplete =>
    rw [Utf8.heldBack_append starting trailing, if_pos incomplete, List.length_cons]

/-- Of a fragment all is held back. -/
theorem Fragment.heldBack_eq {held : List UInt8} (fragment : Fragment held) :
    heldBack held = held.length := by
  by_cases empty : held = []
  · rw [empty]
    rfl
  · exact fragment.heldBack_append empty []

/-- There is no fragment where nothing is held back. -/
theorem Fragment.eq_nil {held : List UInt8} (fragment : Fragment held)
    (nothing : heldBack held = 0) : held = [] :=
  List.length_eq_zero_iff.mp (fragment.heldBack_eq ▸ nothing)

end DebugConsole.Utf8

import SchemaTypes.Json.Reader
import SchemaTypes.Proofs.Compile
import SchemaTypes.Proofs.Keyed

/-! How large a value can be that is read from a text: every value in it takes at least one byte of its
own. A reader gives back what it has not taken, so what it took pays for what it read. -/
namespace SchemaTypes.Json

/-! ## Sizes -/

theorem sizeItems_append (first last : List Json) :
    sizeItems (first ++ last) = sizeItems first + sizeItems last := by
  induction first with
  | nil => exact (Nat.zero_add _).symm
  | cons item rest ih => rw [List.cons_append, sizeItems, sizeItems, ih, Nat.add_assoc]

theorem sizeItems_reverse (items : List Json) : sizeItems items.reverse = sizeItems items := by
  induction items with
  | nil => rfl
  | cons item rest ih =>
    rw [List.reverse_cons, sizeItems_append, ih]
    simp only [sizeItems]
    omega

theorem sizeMembers_eq_total (members : Members) : sizeMembers members = Keyed.total size members := by
  induction members with
  | nil => rfl
  | cons member rest ih => rw [sizeMembers, Keyed.total, ih]

/-! ## Readers -/

namespace Reader

/-- What a reader takes off weighs, together with what it leaves, no more than a number of bytes. -/
def Fits {α : Type} (weight : α → Nat) (room : Nat) (taken : Except Fault (α × Bytes)) : Prop :=
  ∀ a rest, taken = .ok (a, rest) → weight a + rest.length ≤ room

namespace Fits

variable {α β : Type} {weight : α → Nat} {room : Nat} {taken : Except Fault (α × Bytes)}

theorem error (fault : Fault) : Fits weight room (.error fault) := by
  rintro _ _ ⟨⟩

theorem ok {a : α} {rest : Bytes} (fits : weight a + rest.length ≤ room) :
    Fits weight room (.ok (a, rest)) := by
  rintro _ _ ⟨⟩
  exact fits

theorem mono {larger : Nat} (fits : Fits weight room taken) (less : room ≤ larger) :
    Fits weight larger taken :=
  fun a rest same => Nat.le_trans (fits a rest same) less

theorem bind {lighter : β → Nat} {larger : Nat} {next : α × Bytes → Except Fault (β × Bytes)}
    (first : Fits weight room taken)
    (then' : ∀ a rest, weight a + rest.length ≤ room → Fits lighter larger (next (a, rest))) :
    Fits lighter larger (taken >>= next) := by
  intro b last ran
  obtain ⟨⟨a, rest⟩, same, ran⟩ := Except.ok_of_bind ran
  exact then' a rest (first a rest same) b last ran

theorem within {step : Step} (fits : Fits weight room taken) :
    Fits weight room (Reader.within step taken) := by
  cases taken with
  | error fault => exact .error _
  | ok value => exact fits

end Fits

/-- Text and marks weigh nothing. -/
abbrev Shortens {α : Type} (room : Nat) (taken : Except Fault (α × Bytes)) : Prop :=
  Fits (fun _ => 0) room taken

variable {s rest : Bytes} {negative : Bool}

theorem length_skipBlanks_le (s : Bytes) : (skipBlanks s).length ≤ s.length :=
  (List.dropWhile_suffix _).length_le

theorem length_dropDigits_le (s : Bytes) : (s.dropWhile isDigit).length ≤ s.length :=
  (List.dropWhile_suffix _).length_le

theorem word_fits {value : Json} (single : value.size = 1) (letters : List UInt8) (s : Bytes) :
    Fits size (s.length + 1) (word value letters s) := by
  induction letters generalizing s with
  | nil => exact .ok (by omega)
  | cons expected more ih =>
    cases s with
    | nil => exact .error _
    | cons b rest =>
      unfold word
      split
      · exact (ih rest).mono (Nat.le_succ _)
      · exact .error _

/-! ## Numbers -/

theorem length_takeDigits_le (limit value count : Nat) (s : Bytes) :
    (takeDigits limit value count s).2.2.length ≤ s.length := by
  induction s generalizing value count with
  | nil => exact Nat.le_refl _
  | cons b rest ih =>
    unfold takeDigits
    split
    · exact Nat.le_succ_of_le (ih _ _)
    · exact Nat.le_refl _

/-- A first digit is taken with the others, or dropped with them. -/
theorem length_drop_takeDigits_lt {b : UInt8} (digit : isDigit b = true) (limit value count : Nat)
    (rest : Bytes) :
    ((takeDigits limit value count (b :: rest)).2.2.dropWhile isDigit).length ≤ rest.length := by
  unfold takeDigits
  split
  · exact Nat.le_trans (length_dropDigits_le _) (length_takeDigits_le _ _ _ rest)
  · rw [List.dropWhile_cons_of_pos digit]
    exact length_dropDigits_le rest

theorem decimal_fits (significand : Nat) (exponent : Int) (s : Bytes) :
    Fits size (s.length + 1) (decimal negative significand exponent s) := by
  unfold decimal
  split
  · exact .ok (by simp only [float, size]; omega)
  · exact .error _

theorem exponentPart_fits (significand : Nat) (start : Int) (s : Bytes) :
    Fits size s.length (exponentPart negative significand start s) := by
  unfold exponentPart
  split
  next down unsigned signed =>
  have shorter : unsigned.length ≤ (s.drop 1).length := by
    split at signed <;> cases signed <;> simp_all
  rw [List.length_drop] at shorter
  split
  · exact .error _
  · next b rest =>
    rw [List.length_cons] at shorter
    have digits := length_takeDigits_le maxExponent 0 0 (b :: rest)
    split
    · exact .error _
    · split
      next exponent count left taken =>
      rw [taken, List.length_cons] at digits
      dsimp only at digits
      split
      · split
        · exact .error _
        · have fewer := length_dropDigits_le left
          exact .ok (by simp only [float, size]; omega)
      · exact (decimal_fits _ _ left).mono (by omega)

theorem fractionPart_fits (significand exponent : Nat) (s : Bytes) :
    Fits size s.length (fractionPart negative significand exponent s) := by
  have digits := length_takeDigits_le maxInteger significand 0 (s.drop 1)
  rw [List.length_drop] at digits
  unfold fractionPart
  split
  next value places left taken =>
  rw [taken] at digits
  extract_lets exponent overflowed left'
  have fewer : left'.length ≤ left.length := length_dropDigits_le left
  dsimp only at digits
  split
  · split <;> exact .error _
  · next some =>
    -- Digits were taken or dropped, so there is a point in front of them.
    have pointed : 1 ≤ s.length := by
      cases s with
      | nil =>
        cases taken
        simp [overflowed, startsWithDigit] at some
      | cons b rest => exact Nat.le_add_left _ _
    split
    · exact (exponentPart_fits _ _ left').mono (by omega)
    · exact (decimal_fits _ _ left').mono (by omega)

theorem integer_size (value : Nat) : (integer negative value).size = 1 := by
  unfold integer
  split
  · split <;> rfl
  · rfl

theorem number_fits (s : Bytes) : Fits size s.length (number negative s) := by
  unfold number
  split
  · exact .error _
  · next b rest =>
    split
    · exact .error _
    · next digit =>
      split
      · exact .error _
      · have digits := length_drop_takeDigits_lt (by simpa using digit) maxInteger 0 0 rest
        split
        next significand count left taken =>
        rw [taken] at digits
        extract_lets dropped left'
        rw [List.length_cons]
        change left'.length ≤ rest.length at digits
        split
        · exact (fractionPart_fits _ _ left').mono (by omega)
        · split
          · exact (exponentPart_fits _ _ left').mono (by omega)
          · split
            · exact .ok (by rw [integer_size]; omega)
            · exact (decimal_fits _ _ left').mono (by omega)

/-! ## Quoted text -/

theorem hexUnit_shortens (s : Bytes) : Shortens s.length (hexUnit s) := by
  unfold hexUnit
  split
  · split
    · exact .ok (by simp only [List.length_cons]; omega)
    · exact .error _
  · exact .error _

theorem pairMark_shortens (expected : UInt8) (s : Bytes) :
    Shortens s.length (pairMark expected s) := by
  unfold pairMark
  split
  · exact .error _
  · split
    · exact .ok (by simp only [List.length_cons]; omega)
    · exact .error _

theorem unicodeEscape_shortens (s : Bytes) : Shortens s.length (unicodeEscape s) := by
  refine (hexUnit_shortens s).bind fun unit first fits => ?_
  dsimp only
  split
  · exact .error _
  · split
    · refine (pairMark_shortens _ first).bind fun _ second _ => ?_
      refine (pairMark_shortens _ second).bind fun _ third _ => ?_
      refine (hexUnit_shortens third).bind fun trailing last _ => ?_
      dsimp only
      split
      · exact .ok (by omega)
      · exact .error _
    · exact .ok (by omega)

theorem escape_shortens (s : Bytes) : Shortens s.length (escape s) := by
  cases s with
  | nil => exact .error _
  | cons b rest =>
    unfold escape
    dsimp only
    split
    case h_9 => exact (unicodeEscape_shortens rest).mono (Nat.le_succ _)
    case h_10 => exact .error _
    all_goals exact .ok (by rw [List.length_cons]; omega)

theorem length_next?_lt {c : Char} (taken : Utf8.next? s = some (c, rest)) :
    rest.length < s.length := by
  unfold Utf8.next? at taken
  grind

theorem quotedLoop_shortens (bound : Nat) (acc : List Char) (invalid : Option Nat) (s : Bytes) :
    Shortens s.length (quotedLoop bound acc invalid s) := by
  induction bound generalizing acc invalid s with
  | zero => exact .error _
  | succ bound ih =>
    cases s with
    | nil => exact .error _
    | cons b rest =>
      unfold quotedLoop
      rw [List.length_cons]
      split
      · split
        · exact .ok (by omega)
        · exact .error _
      · split
        · split
          · next c left escaped =>
            have shorter := escape_shortens rest c left escaped
            exact (ih _ _ left).mono (by omega)
          · exact .error _
        · split
          · exact .error _
          · split
            · next c left taken =>
              have shorter := length_next?_lt taken
              rw [List.length_cons] at shorter
              exact (ih _ _ left).mono (by omega)
            · exact (ih _ _ rest).mono (by omega)

/-! ## Lists and objects -/

/-- The bytes that are left behind a separator, and the one that ends a list or an object. -/
def Separator.left : Separator → Nat
  | .done rest => rest.length + 1
  | .next rest => rest.length

theorem itemSeparator_left {first : Bool} {separator : Separator}
    (read : itemSeparator first s = .ok separator) : separator.left ≤ s.length := by
  have blanks := length_skipBlanks_le s
  unfold itemSeparator at read
  split at read
  · cases read
  · next rest skipped =>
    cases read
    rw [skipped] at blanks
    exact blanks
  · next b rest _ skipped =>
    rw [skipped, List.length_cons] at blanks
    have more := length_skipBlanks_le rest
    split at read
    · cases read
      exact blanks
    · split at read
      · split at read <;> cases read
        simp only [Separator.left]
        omega
      · cases read

theorem memberSeparator_left {first : Bool} {separator : Separator}
    (read : memberSeparator first s = .ok separator) : separator.left ≤ s.length := by
  have blanks := length_skipBlanks_le s
  unfold memberSeparator at read
  split at read
  · cases read
  · next rest skipped =>
    cases read
    rw [skipped] at blanks
    exact blanks
  · next rest skipped =>
    rw [skipped, List.length_cons] at blanks
    split at read
    · cases read
      exact Nat.le_of_succ_le blanks
    · cases read
  · next b rest _ _ skipped =>
    rw [skipped, List.length_cons] at blanks
    have more := length_skipBlanks_le rest
    split at read
    · cases read
    · split at read
      · split at read <;> cases read
        next inner skipped' =>
        rw [skipped', List.length_cons] at more
        simp only [Separator.left]
        omega
      · cases read

theorem colon_shortens (s : Bytes) : Shortens s.length (colon s) := by
  have blanks := length_skipBlanks_le s
  unfold colon
  split
  · exact .error _
  · next rest skipped =>
    rw [skipped, List.length_cons] at blanks
    exact .ok (by omega)
  · exact .error _

variable {item : Bytes → Except Fault (Json × Bytes)}

/-- The bytes left and the items so far make up for the list. -/
theorem items_fits (each : ∀ s, Fits size s.length (item s)) (bound index : Nat) (acc : List Json)
    (s : Bytes) : Fits size (sizeItems acc + s.length) (items item bound index acc s) := by
  induction bound generalizing index acc s with
  | zero => exact .error _
  | succ bound ih =>
    intro json last ran
    obtain ⟨separator, separated, ran⟩ := Except.ok_of_bind ran
    have left := itemSeparator_left separated
    cases separator with
    | done rest =>
      cases ran
      simp only [Separator.left] at left
      simp only [size, sizeItems_reverse]
      omega
    | next rest =>
      obtain ⟨⟨value, rest'⟩, taken, ran⟩ := Except.ok_of_bind ran
      have fits := (each rest).within value rest' taken
      have whole := ih _ _ rest' json last ran
      simp only [Separator.left, sizeItems] at left whole
      omega

theorem members_fits (each : ∀ s, Fits size s.length (item s)) (bound : Nat) (first : Bool)
    (acc : Members) (s : Bytes) :
    Fits size (sizeMembers acc + s.length) (members item bound first acc s) := by
  induction bound generalizing first acc s with
  | zero => exact .error _
  | succ bound ih =>
    intro json last ran
    obtain ⟨separator, separated, ran⟩ := Except.ok_of_bind ran
    have left : separator.left ≤ s.length := by
      cases marked : memberSeparator first s with
      | error fault =>
        rw [marked] at separated
        cases separated
      | ok separator' =>
        rw [marked] at separated
        cases separated
        exact memberSeparator_left marked
    cases separator with
    | done rest =>
      cases ran
      simp only [Separator.left] at left
      simp only [size]
      omega
    | next rest =>
      obtain ⟨⟨key, behindKey⟩, named, ran⟩ := Except.ok_of_bind ran
      obtain ⟨⟨_, behindColon⟩, marked, ran⟩ := Except.ok_of_bind ran
      obtain ⟨⟨value, behindValue⟩, taken, ran⟩ := Except.ok_of_bind ran
      have keyed := (quotedLoop_shortens _ _ _ rest).within key behindKey named
      have colon := colon_shortens behindKey _ behindColon marked
      have fits := (each behindColon).within value behindValue taken
      have whole := ih _ _ behindValue json last ran
      have inserted : sizeMembers (Keyed.insert acc key value) ≤ sizeMembers acc + value.size := by
        rw [sizeMembers_eq_total, sizeMembers_eq_total]
        exact Keyed.total_insert_le
      simp only [Separator.left] at left
      omega

theorem value_fits (depth : Nat) (s : Bytes) : Fits size s.length (value depth s) := by
  induction depth using Nat.strongRecOn generalizing s with
  | ind depth ih =>
    have blanks := length_skipBlanks_le s
    unfold value
    split
    · exact .error _
    · next b rest skipped =>
      rw [skipped, List.length_cons] at blanks
      split
      · exact (word_fits rfl _ rest).mono blanks
      · exact (word_fits rfl _ rest).mono blanks
      · exact (word_fits rfl _ rest).mono blanks
      · exact (number_fits rest).mono (Nat.le_of_succ_le blanks)
      · refine (quotedLoop_shortens _ _ _ rest).bind fun text left fits => .ok ?_
        simp only [size]
        omega
      · split
        · exact .error _
        · next depth =>
          refine (items_fits (ih depth (Nat.lt_succ_self depth)) _ 0 [] rest).mono ?_
          simp only [sizeItems]
          omega
      · split
        · exact .error _
        · next depth =>
          refine (members_fits (ih depth (Nat.lt_succ_self depth)) _ true [] rest).mono ?_
          simp only [sizeMembers]
          omega
      · split
        · refine (number_fits _).mono ?_
          rw [List.length_cons]
          exact blanks
        · exact .error _

end Reader

/-- A document has no more values than the text that it is read from has bytes. -/
theorem read_size {s : Bytes} {document : Json} (read : Json.read s = .ok document) :
    document.size ≤ s.length := by
  unfold Json.read readNested at read
  cases ran : Reader.document maxNesting s with
  | error fault =>
    rw [ran] at read
    cases read
  | ok value =>
    rw [ran] at read
    cases read
    obtain ⟨⟨result, rest⟩, taken, ended⟩ := Except.ok_of_bind ran
    have fits := Reader.value_fits maxNesting s result rest taken
    dsimp only at ended
    split at ended <;> cases ended
    omega

end SchemaTypes.Json

import HtmlJsx.Text.Blank
import HtmlJsx.Text.Case

/-!
# Lower case is final

Lowering the case of a text twice is lowering it once: no counterpart in the
table of lower-case letters has a counterpart of its own, and neither have the
forms of the sigma and the parts of the dotted `İ`.  Lowering also brings in no
character below the lower-case letters, so no character that delimits names or
values in markup, and it makes no solid character blank.
-/

namespace HtmlJsx.Text

/-! ## The table -/

/--
Whether no counterpart that a range gives lies in another range: the two are
apart, or the other one has every second character and these are not among them.
-/
def CaseRange.avoids (range other : CaseRange) : Bool :=
  Nat.blt other.last range.image ||
    Nat.blt (range.image + (range.last - range.first)) other.first ||
    (Nat.beq other.stride 2 && (Nat.beq range.stride 2 || Nat.beq range.first range.last) &&
      !Nat.beq (range.image % 2) (other.first % 2))

theorem CaseRange.image?_eq_none {range other : CaseRange} (checked : range.avoids other = true)
    {offset : Nat} (within : offset ≤ range.last - range.first)
    (listed : offset % range.stride = 0) : other.image? (range.image + offset) = none := by
  rw [image?, if_neg]
  rintro ⟨starts, ends, steps⟩
  rw [avoids, Bool.or_eq_true, Bool.or_eq_true, Bool.and_eq_true, Bool.and_eq_true,
    Bool.or_eq_true, Nat.blt_eq, Nat.blt_eq, Bool.not_eq_true', ← Bool.not_eq_true, Nat.beq_eq,
    Nat.beq_eq, Nat.beq_eq, Nat.beq_eq] at checked
  rcases checked with (before | after) | ⟨⟨two, sparse⟩, apart⟩
  · omega
  · omega
  · rw [two] at steps
    have even : offset % 2 = 0 := by
      rcases sparse with stride | single
      · rwa [stride] at listed
      · omega
    omega

/-- The dotted `İ`, whose lower case is not in the table. -/
def dottedRange : CaseRange := ⟨0x130, 0x130, 1, 0x130⟩

/-- Whether the counterparts that a range gives are characters that lowering leaves alone. -/
def CaseRange.isFinal (range : CaseRange) : Bool :=
  lowerRanges.all range.avoids && range.avoids dottedRange && Nat.ble 97 range.image &&
    (Nat.blt (range.image + (range.last - range.first)) 0xD800 ||
      Nat.blt 0xDFFF range.image && Nat.blt (range.image + (range.last - range.first)) 0x110000)

theorem isFinal_lowerRanges : lowerRanges.all CaseRange.isFinal = true := by
  decide +kernel

/-! ## Characters in lower case -/

/-- A character that is its own lower case wherever it stands. -/
def IsLow (c : Char) : Prop :=
  ∀ before after, lowerChar before after c = [c]

theorem toNat_of_isUpper {c : Char} (upper : c.isUpper = true) : 65 ≤ c.toNat ∧ c.toNat ≤ 90 := by
  have bounds : 'A'.val ≤ c.val ∧ c.val ≤ 'Z'.val := of_decide_eq_true upper
  exact ⟨bounds.1, bounds.2⟩

theorem toNat_ofNat {code : Nat} (valid : code.isValidChar) : (Char.ofNat code).toNat = code := by
  have made : Char.ofNat code = Char.ofNatAux code valid := dif_pos valid
  rw [made]
  rfl

theorem isLow_of_small {c : Char} (small : c.toNat < 128) (cased : ¬ c.isUpper = true) :
    IsLow c := by
  intro before after
  rw [lowerChar, if_pos small, if_neg cased]

theorem isLow_of_high {c : Char} (high : 97 ≤ c.toNat) (sigma : c ≠ 'Σ') (dotted : c ≠ 'İ')
    (unlisted : mapCase lowerRanges c = c) : IsLow c := by
  by_cases small : c.toNat < 128
  · apply isLow_of_small small
    intro upper
    have bounds := toNat_of_isUpper upper
    omega
  · intro before after
    rw [lowerChar, if_neg small, if_neg sigma, if_neg dotted, unlisted]

/-- The lower case that the table gives to a character is final. -/
theorem isLow_of_image? {range : CaseRange} (member : range ∈ lowerRanges) {code image : Nat}
    (found : range.image? code = some image) :
    IsLow (Char.ofNat image) ∧ 97 ≤ (Char.ofNat image).toNat := by
  have final := List.all_eq_true.mp isFinal_lowerRanges range member
  rw [CaseRange.isFinal, Bool.and_eq_true, Bool.and_eq_true, Bool.and_eq_true, Bool.or_eq_true,
    Bool.and_eq_true, List.all_eq_true, Nat.ble_eq, Nat.blt_eq, Nat.blt_eq, Nat.blt_eq] at final
  obtain ⟨⟨⟨apart, undotted⟩, high⟩, valid⟩ := final
  rw [CaseRange.image?] at found
  split at found
  · next within =>
    obtain ⟨starts, ends, listed⟩ := within
    obtain rfl := Option.some.inj found
    have within : code - range.first ≤ range.last - range.first := by omega
    generalize code - range.first = offset at within listed ⊢
    have valid : (range.image + offset).isValidChar := by
      rw [Nat.isValidChar]
      omega
    have number := toNat_ofNat valid
    have unlisted (other : CaseRange) (member : other ∈ lowerRanges) :
        other.image? (range.image + offset) = none :=
      CaseRange.image?_eq_none (apart other member) within listed
    have unmapped : mapCase lowerRanges (Char.ofNat (range.image + offset)) =
        Char.ofNat (range.image + offset) := by
      rw [mapCase, number, List.findSome?_eq_none_iff.mpr unlisted]
    -- The sigma is in the table itself.
    have sigma : Char.ofNat (range.image + offset) ≠ 'Σ' := by
      intro same
      rw [same] at unmapped
      exact absurd unmapped (by decide +kernel)
    have dotted : Char.ofNat (range.image + offset) ≠ 'İ' := by
      intro same
      rw [same] at number
      have none := CaseRange.image?_eq_none undotted within listed
      rw [← number] at none
      exact absurd none (by decide)
    have above : 97 ≤ (Char.ofNat (range.image + offset)).toNat := by omega
    exact ⟨isLow_of_high above sigma dotted unmapped, above⟩
  · cases found

/-- The forms of the small sigma, and the combining dot. -/
theorem isLow_exception {c : Char} (member : c ∈ ['ς', 'σ', Char.ofNat 0x307]) :
    IsLow c ∧ 97 ≤ c.toNat := by
  have each : ['ς', 'σ', Char.ofNat 0x307].all (fun c => decide (97 ≤ c.toNat) && c != 'Σ' &&
      c != 'İ' && mapCase lowerRanges c == c) = true := by
    decide +kernel
  have holds := List.all_eq_true.mp each c member
  rw [Bool.and_eq_true, Bool.and_eq_true, Bool.and_eq_true, decide_eq_true_eq, bne_iff_ne,
    bne_iff_ne, beq_iff_eq] at holds
  obtain ⟨⟨⟨high, sigma⟩, dotted⟩, unlisted⟩ := holds
  exact ⟨isLow_of_high high sigma dotted unlisted, high⟩

/-- What a character becomes is final, and is the character itself or above the capital letters. -/
theorem isLow_of_mem_lowerChar {before after : Text} {c d : Char}
    (member : d ∈ lowerChar before after c) : IsLow d ∧ (d = c ∨ 97 ≤ d.toNat) := by
  rw [lowerChar] at member
  split at member
  · next small =>
    obtain rfl := List.mem_singleton.mp member
    split
    · next upper =>
      have bounds := toNat_of_isUpper upper
      have number : (Char.ofNat (c.toNat + 32)).toNat = c.toNat + 32 :=
        toNat_ofNat (by rw [Nat.isValidChar]; omega)
      refine ⟨isLow_of_small (by omega) fun wrong => ?_, .inr (by omega)⟩
      have others := toNat_of_isUpper wrong
      omega
    · next cased => exact ⟨isLow_of_small small cased, .inl rfl⟩
  · next large =>
    split at member
    · have exception : d ∈ ['ς', 'σ', Char.ofNat 0x307] := by
        rw [List.mem_singleton.mp member]
        split <;> simp
      exact ⟨(isLow_exception exception).1, .inr (isLow_exception exception).2⟩
    · next sigma =>
      split at member
      · rw [List.mem_cons, List.mem_singleton] at member
        rcases member with rfl | rfl
        · exact ⟨isLow_of_small (by decide) (by decide), .inr (by decide)⟩
        · have exception : Char.ofNat 0x307 ∈ ['ς', 'σ', Char.ofNat 0x307] := by simp
          exact ⟨(isLow_exception exception).1, .inr (isLow_exception exception).2⟩
      · next dotted =>
        obtain rfl := List.mem_singleton.mp member
        cases found : lowerRanges.findSome? (·.image? c.toNat) with
        | none =>
          have same : mapCase lowerRanges c = c := by rw [mapCase, found]
          rw [same]
          exact ⟨isLow_of_high (by omega) sigma dotted same, .inl rfl⟩
        | some image =>
          obtain ⟨range, inTable, given⟩ := List.exists_of_findSome?_eq_some found
          have moved : mapCase lowerRanges c = Char.ofNat image := by rw [mapCase, found]
          rw [moved]
          obtain ⟨low, above⟩ := isLow_of_image? inTable given
          exact ⟨low, .inr above⟩

/-! ## Texts in lower case -/

theorem isLow_of_mem_lowerFrom {before text : Text} {d : Char} (member : d ∈ lowerFrom before text) :
    IsLow d ∧ (d ∈ text ∨ 97 ≤ d.toNat) := by
  induction text generalizing before with
  | nil => cases member
  | cons c rest induction =>
    rw [lowerFrom, List.mem_append] at member
    rcases member with first | later
    · obtain ⟨low, same | above⟩ := isLow_of_mem_lowerChar first
      · exact ⟨low, .inl (by rw [same]; exact List.mem_cons_self)⟩
      · exact ⟨low, .inr above⟩
    · obtain ⟨low, inRest | above⟩ := induction later
      · exact ⟨low, .inl (List.mem_cons_of_mem c inRest)⟩
      · exact ⟨low, .inr above⟩

theorem lowerFrom_eq_self {text : Text} (low : ∀ c ∈ text, IsLow c) (before : Text) :
    lowerFrom before text = text := by
  induction text generalizing before with
  | nil => rfl
  | cons c rest induction =>
    rw [List.forall_mem_cons] at low
    rw [lowerFrom, low.1, induction low.2]
    rfl

/-- Lowering the case of a text twice is lowering it once. -/
theorem lower_lower (text : Text) : lower (lower text) = lower text :=
  lowerFrom_eq_self (fun _ member => (isLow_of_mem_lowerFrom member).1) []

/-- An ASCII text is lowered character by character. -/
theorem lower_of_small {text : Text} (small : ∀ c ∈ text, c.toNat < 128) :
    lower text = text.map Char.toLower := by
  have each : ∀ code < 128, (if (Char.ofNat code).isUpper then Char.ofNat (code + 32)
      else Char.ofNat code) = (Char.ofNat code).toLower := by
    decide +kernel
  have maps (before : Text) : lowerFrom before text = text.map Char.toLower := by
    induction text generalizing before with
    | nil => rfl
    | cons c rest induction =>
      rw [List.forall_mem_cons] at small
      have holds := each c.toNat small.1
      rw [Char.ofNat_toNat] at holds
      rw [lowerFrom, lowerChar, if_pos small.1, holds, induction small.2]
      rfl
  exact maps []

/-- Lowering brings in no character below the lower-case letters. -/
theorem mem_of_mem_lower {text : Text} {c : Char} (member : c ∈ lower text) (low : c.toNat < 97) :
    c ∈ text := by
  rcases (isLow_of_mem_lowerFrom member).2 with inText | above
  · exact inText
  · omega

/-! ## White space -/

/-- The codes of white space above the ASCII characters, as ranges. -/
def highBlankRanges : List (Nat × Nat) :=
  [ (0x85, 0x85), (0xA0, 0xA0), (0x1680, 0x1680), (0x2000, 0x200A), (0x2028, 0x2029),
    (0x202F, 0x202F), (0x205F, 0x205F), (0x3000, 0x3000) ]

/-- Whether none of the counterparts that a range gives is white space. -/
def CaseRange.isSolid (range : CaseRange) : Bool :=
  Nat.blt 0x20 range.image && highBlankRanges.all fun blanks =>
    Nat.blt blanks.2 range.image || Nat.blt (range.image + (range.last - range.first)) blanks.1

theorem isSolid_lowerRanges : lowerRanges.all CaseRange.isSolid = true := by
  decide +kernel

theorem solid_of_image? {range : CaseRange} (member : range ∈ lowerRanges) {code image : Nat}
    (found : range.image? code = some image) : HtmlJsx.isBlank (Char.ofNat image) = false := by
  by_cases valid : image.isValidChar
  · have checked := List.all_eq_true.mp isSolid_lowerRanges range member
    simp only [CaseRange.isSolid, highBlankRanges, List.all_cons, List.all_nil, Bool.and_eq_true,
      Bool.or_eq_true, Nat.blt_eq, and_true] at checked
    rw [CaseRange.image?] at found
    split at found
    · cases found
      rw [HtmlJsx.isBlank, toNat_ofNat valid]
      simp only [Bool.or_eq_false_iff, Bool.and_eq_false_iff, decide_eq_false_iff_not,
        beq_eq_false_iff_ne]
      omega
    · cases found
  · have replaced : Char.ofNat image = Char.ofNat 0 := dif_neg valid
    rw [replaced]
    decide

theorem solid_of_mem_lowerChar {before after : Text} {c d : Char}
    (solid : HtmlJsx.isBlank c = false) (member : d ∈ lowerChar before after c) :
    HtmlJsx.isBlank d = false := by
  rw [lowerChar] at member
  split at member
  · obtain rfl := List.mem_singleton.mp member
    split
    · next upper =>
      have bounds := toNat_of_isUpper upper
      have number : (Char.ofNat (c.toNat + 32)).toNat = c.toNat + 32 :=
        toNat_ofNat (by rw [Nat.isValidChar]; omega)
      rw [HtmlJsx.isBlank, number]
      simp only [Bool.or_eq_false_iff, Bool.and_eq_false_iff, decide_eq_false_iff_not,
        beq_eq_false_iff_ne]
      omega
    · exact solid
  split at member
  · obtain rfl := List.mem_singleton.mp member
    split <;> decide
  split at member
  · rw [List.mem_cons, List.mem_singleton] at member
    rcases member with rfl | rfl
    · decide
    · decide
  · obtain rfl := List.mem_singleton.mp member
    rw [mapCase]
    split
    · next image found =>
      obtain ⟨range, inTable, given⟩ := List.exists_of_findSome?_eq_some found
      exact solid_of_image? inTable given
    · exact solid

theorem lowerChar_ne_nil (before after : Text) (c : Char) : lowerChar before after c ≠ [] := by
  rw [lowerChar]
  repeat' split
  all_goals exact List.cons_ne_nil _ _

/-- A text that begins with a solid character still does so in lower case. -/
theorem solid_of_head?_lowerFrom {text : Text}
    (first : ∀ c ∈ text.head?, HtmlJsx.isBlank c = false) (before : Text) :
    ∀ d ∈ (lowerFrom before text).head?, HtmlJsx.isBlank d = false := by
  cases text with
  | nil => exact nofun
  | cons c rest =>
    intro d edge
    obtain ⟨e, more, low⟩ := List.exists_cons_of_ne_nil (lowerChar_ne_nil before rest c)
    rw [lowerFrom, low, List.cons_append, List.head?_cons] at edge
    obtain rfl := Option.some.inj edge
    apply solid_of_mem_lowerChar (first c rfl)
    rw [low]
    exact List.mem_cons_self

/-- A text that ends with a solid character still does so in lower case. -/
theorem solid_of_getLast?_lowerFrom {text : Text}
    (last : ∀ c ∈ text.getLast?, HtmlJsx.isBlank c = false) (before : Text) :
    ∀ d ∈ (lowerFrom before text).getLast?, HtmlJsx.isBlank d = false := by
  induction text generalizing before with
  | nil => exact nofun
  | cons c rest induction =>
    cases rest with
    | nil =>
      intro d edge
      rw [lowerFrom, lowerFrom, List.append_nil] at edge
      exact solid_of_mem_lowerChar (last c rfl) (List.mem_of_getLast? edge)
    | cons e more =>
      have nonempty : lowerFrom (c :: before) (e :: more) ≠ [] := by
        rw [lowerFrom]
        exact List.append_ne_nil_of_left_ne_nil (lowerChar_ne_nil _ _ _) _
      rw [lowerFrom, List.getLast?_append,
        Option.or_of_isSome (List.getLast?_isSome.mpr nonempty)]
      apply induction
      rwa [List.getLast?_cons_cons] at last

end HtmlJsx.Text

import DeviceConsole.Text.LowerCase

/-!
# `Proofs.Text.LowerCase` — the lower case of a beginning

Lower case goes character by character, but for the capital sigma: whether it is the final one depends on what follows.
So the lower case of a beginning is the beginning of the lower case, unless a sigma ends a word in the beginning alone.
What follows a sigma counts only up to the first character that is not case-ignorable, which leaves one case:
the sigma ends the beginning, and the text goes on with a cased letter.

* `leadsToCased_append_eq` — what leads to a cased letter, cut in two;
* `lowerSigma_append_eq_iff` — one sigma, with and without the rest;
* `lowerFrom_prefix_iff` — all of them, by induction along the beginning;
* `startsWithIgnoringCase_append_iff` — **when a text starts with its own beginning**.
-/

namespace DeviceConsole.Text

/-- The character is passed over when cased letters around a sigma are looked for. -/
def CaseIgnorable (c : Char) : Prop := inRanges caseIgnorableRanges c.toNat = true

/-- A capital sigma ends `start` but not the word that it stands in: a cased letter stands in front of it, at most
case-ignorable characters stand between it and the end of `start`, and the first other character of `rest` is a cased
letter. -/
def SigmaTurns (start rest : List Char) : Prop :=
  ∃ front back, start = front ++ 'Σ' :: back ∧ leadsToCased front.reverse = true ∧ (∀ c ∈ back, CaseIgnorable c)
    ∧ leadsToCased rest = true

variable {before back rest start : List Char}

/-! ## One sigma -/

theorem leadsToCased_cons_of_ignorable {c : Char} (ignorable : CaseIgnorable c) :
    leadsToCased (c :: rest) = leadsToCased rest := by
  have passed : (c :: rest).dropWhile (fun c => inRanges caseIgnorableRanges c.toNat)
      = rest.dropWhile fun c => inRanges caseIgnorableRanges c.toNat := List.dropWhile_cons_of_pos ignorable
  rw [leadsToCased, passed]
  rfl

theorem leadsToCased_cons_of_not_ignorable {c : Char} (counts : ¬ CaseIgnorable c) :
    leadsToCased (c :: rest) = inRanges casedRanges c.toNat := by
  have stops : (c :: rest).dropWhile (fun c => inRanges caseIgnorableRanges c.toNat) = c :: rest :=
    List.dropWhile_cons_of_neg counts
  rw [leadsToCased, stops]

/-- What follows a piece counts if and only if the piece is case-ignorable. -/
theorem leadsToCased_append_eq (back rest : List Char) :
    (∀ c ∈ back, CaseIgnorable c) ∧ leadsToCased back = false ∧ leadsToCased (back ++ rest) = leadsToCased rest
      ∨ ¬ (∀ c ∈ back, CaseIgnorable c) ∧ leadsToCased (back ++ rest) = leadsToCased back := by
  induction back with
  | nil => exact .inl ⟨by simp, rfl, rfl⟩
  | cons c more ih =>
    rw [List.cons_append, List.forall_mem_cons]
    by_cases ignorable : CaseIgnorable c
    · rw [leadsToCased_cons_of_ignorable ignorable, leadsToCased_cons_of_ignorable ignorable]
      simpa only [ignorable, true_and] using ih
    · rw [leadsToCased_cons_of_not_ignorable ignorable, leadsToCased_cons_of_not_ignorable ignorable]
      exact .inr ⟨fun all => ignorable all.1, rfl⟩

/-- **A sigma has one lower case with the rest and without it**, unless it is the last of its word without it alone. -/
theorem lowerSigma_append_eq_iff : lowerSigma before back = lowerSigma before (back ++ rest)
    ↔ ¬ (leadsToCased before = true ∧ (∀ c ∈ back, CaseIgnorable c) ∧ leadsToCased rest = true) := by
  unfold lowerSigma
  rcases leadsToCased_append_eq back rest with ⟨all, nothing, goesOn⟩ | ⟨notAll, same⟩
  · rw [nothing, goesOn]
    have unhindered : (∀ c ∈ back, CaseIgnorable c) ↔ True := iff_true_intro all
    rw [unhindered]
    cases leadsToCased before <;> cases leadsToCased rest <;> simp
  · rw [same]
    simp [notAll]

/-! ## Whole texts -/

/-- The lower case of a beginning is the beginning of the lower case if no sigma turns. -/
theorem lowerFrom_prefix_iff (before start rest : List Char) :
    lowerFrom before start <+: lowerFrom before (start ++ rest)
      ↔ ∀ front back, start = front ++ 'Σ' :: back →
        lowerSigma (front.reverse ++ before) back = lowerSigma (front.reverse ++ before) (back ++ rest) := by
  induction start generalizing before with
  | nil =>
    constructor
    · intro _ front back shape
      simp at shape
    · intro _
      exact List.nil_prefix
  | cons c more ih =>
    -- the sigmas of `c :: more` are `c`, if it is one, and those of `more`
    have later : (∀ front back, more = front ++ 'Σ' :: back →
          lowerSigma (front.reverse ++ c :: before) back = lowerSigma (front.reverse ++ c :: before) (back ++ rest))
        ↔ ∀ front back, c :: more = c :: front ++ 'Σ' :: back →
          lowerSigma ((c :: front).reverse ++ before) back
            = lowerSigma ((c :: front).reverse ++ before) (back ++ rest) := by
      simp
    rw [List.cons_append, lowerFrom, lowerFrom]
    by_cases sigma : c = 'Σ'
    · subst sigma
      simp only [beq_self_eq_true, if_true, List.singleton_append, List.cons_prefix_cons, ih, later]
      constructor
      · rintro ⟨here, behind⟩ front back shape
        cases front with
        | nil =>
          obtain ⟨-, rfl⟩ := List.cons.inj shape
          exact here
        | cons d front =>
          obtain ⟨rfl, -⟩ := List.cons.inj shape
          exact behind front back shape
      · intro all
        exact ⟨all [] more rfl, fun front back => all ('Σ' :: front) back⟩
    · rw [if_neg (by simpa using sigma), if_neg (by simpa using sigma), List.prefix_append_right_inj, ih, later]
      constructor
      · intro behind front back shape
        cases front with
        | nil => exact absurd (List.cons.inj shape).1 sigma
        | cons d front =>
          obtain ⟨rfl, -⟩ := List.cons.inj shape
          exact behind front back shape
      · intro all front back
        exact all (c :: front) back

/-- **A text starts with its own beginning**, whatever the case, if and only if no sigma turns. -/
theorem startsWithIgnoringCase_append_iff (start rest : String) :
    startsWithIgnoringCase (start ++ rest) start = true ↔ ¬ SigmaTurns start.toList rest.toList := by
  unfold startsWithIgnoringCase lower
  rw [String.toList_ofList, String.toList_ofList, String.toList_append, List.isPrefixOf_iff_prefix,
    lowerFrom_prefix_iff]
  simp only [lowerSigma_append_eq_iff, List.append_nil]
  constructor
  · rintro all ⟨front, back, shape, turns⟩
    exact all front back shape turns
  · intro none_turns front back shape turns
    exact none_turns ⟨front, back, shape, turns⟩

/-- Without a capital sigma every text starts with its own beginning. -/
theorem startsWithIgnoringCase_append {start : String} (noSigma : 'Σ' ∉ start.toList) (rest : String) :
    startsWithIgnoringCase (start ++ rest) start = true := by
  rw [startsWithIgnoringCase_append_iff]
  rintro ⟨front, back, shape, -⟩
  apply noSigma
  rw [shape]
  exact List.mem_append_right _ List.mem_cons_self

end DeviceConsole.Text

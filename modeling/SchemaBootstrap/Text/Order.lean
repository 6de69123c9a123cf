/-! # The order of texts

Texts are ordered by the numbers of their characters, the first difference
deciding; a text comes before its continuations. The order is total: of two
different texts one precedes the other.
-/

namespace SchemaBootstrap

namespace Text

/-- Whether a list of characters comes before another one. -/
def charsPrecede : List Char → List Char → Bool
  | [], [] => false
  | [], _ :: _ => true
  | _ :: _, [] => false
  | a :: as, b :: bs =>
    if a.toNat < b.toNat then true
    else if a = b then charsPrecede as bs
    else false

theorem charsPrecede_irrefl (a : List Char) : charsPrecede a a = false := by
  induction a with
  | nil => rfl
  | cons c rest ih => simp [charsPrecede, ih]

theorem charsPrecede_trans {a b c : List Char} (first : charsPrecede a b = true)
    (second : charsPrecede b c = true) : charsPrecede a c = true := by
  induction a generalizing b c with
  | nil =>
      cases c with
      | nil => cases b <;> simp [charsPrecede] at second
      | cons z cs => rfl
  | cons x as ih =>
      cases b with
      | nil => simp [charsPrecede] at first
      | cons y bs =>
          cases c with
          | nil => simp [charsPrecede] at second
          | cons z cs =>
              simp only [charsPrecede] at first second ⊢
              split at first
              · next less =>
                  split at second
                  · next less' => rw [if_pos (Nat.lt_trans less less')]
                  · split at second
                    · next same => rw [← same, if_pos less]
                    · simp at second
              · split at first
                · next same =>
                    subst same
                    split at second
                    · next less' => rw [if_pos less']
                    · next more =>
                        split at second
                        · next same =>
                            subst same
                            rw [if_neg more, if_pos rfl]
                            exact ih first second
                        · simp at second
                · simp at first

theorem charsPrecede_total {a b : List Char} (differ : a ≠ b) :
    charsPrecede a b = true ∨ charsPrecede b a = true := by
  induction a generalizing b with
  | nil =>
      cases b with
      | nil => exact absurd rfl differ
      | cons y bs => exact Or.inl rfl
  | cons x as ih =>
      cases b with
      | nil => exact Or.inr rfl
      | cons y bs =>
          by_cases same : x = y
          · subst same
            have rest : as ≠ bs := fun equal => differ (by rw [equal])
            simpa [charsPrecede] using ih rest
          · have different : x.toNat ≠ y.toNat := fun equal => same (Char.toNat_inj.mp equal)
            rcases Nat.lt_or_gt_of_ne different with less | more
            · exact Or.inl (by simp [charsPrecede, less])
            · exact Or.inr (by simp [charsPrecede, more])

/-- Whether a text comes before another one. -/
def precedes (a b : String) : Bool :=
  charsPrecede a.toList b.toList

theorem precedes_irrefl (a : String) : precedes a a = false :=
  charsPrecede_irrefl a.toList

theorem precedes_trans {a b c : String} (first : precedes a b = true)
    (second : precedes b c = true) : precedes a c = true :=
  charsPrecede_trans first second

theorem precedes_total {a b : String} (differ : a ≠ b) :
    precedes a b = true ∨ precedes b a = true :=
  charsPrecede_total fun equal => differ (String.toList_inj.mp equal)

end Text

end SchemaBootstrap

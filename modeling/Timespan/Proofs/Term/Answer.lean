import Timespan.Proofs.Term.Grammar

/-!
# The answer to every text

The grammar says which texts are terms. This file says what becomes of all texts: each is in
one of six cases, which its clean form decides, and `Term.Answered` lists them with what the
text is answered in each.

* A **word** is a keyword, or it is unknown.
* A **quantity** may have too many digits, and then its unit is not looked at; otherwise it has
  a known unit, or an unknown one.
* Any other text has **no shape**.

The clean form decides nearly everything, so two texts that share it are answered alike
(`Term.Answered.of_clean_eq`). What it leaves open is how a complaint quotes the text: a text
without a shape, and one with too many digits, is quoted as it stands but trimmed.

A number in decimal and a name of a unit are settled characters, hence their own clean form, and
such a text means what has been written (`Term.evaluate_write_append`).
-/

namespace Timespan

/-! ### Unknown words and units -/

/-- A word is unknown if it is no keyword's. -/
theorem Keyword.ofWord_eq_error_iff {s : Text} {e : Rejection} :
    ofWord s = .error e ↔ (∀ k : Keyword, k.word ≠ s) ∧ .unknownKeyword s = e := by
  cases hread : ofWord s with
  | ok k =>
    have hk := ofWord_eq_ok_iff.1 hread
    exact ⟨fun h => absurd h (by simp), fun h => absurd hk (h.1 k)⟩
  | error e' =>
    have hother : ∀ k : Keyword, k.word ≠ s := fun k hk => by
      rw [ofWord_eq_ok_iff.2 hk] at hread
      exact absurd hread (by simp)
    have he : .unknownKeyword s = e' := by
      rw [ofWord] at hread
      split at hread
      · exact absurd hread (by simp)
      · exact Except.error.inj hread
    rw [Except.error.injEq, ← he]
    exact ⟨fun h => ⟨hother, h⟩, fun h => h.2⟩

/-- A word is an unknown unit if it is no unit's alias, and it is quoted as it stands. -/
theorem TimeUnit.ofText_eq_error_iff {name : Text} (h : Term.isWord name = true) {e : Rejection} :
    ofText name = .error e ↔ (∀ u : TimeUnit, name ∉ u.aliases) ∧ .unknownAlias name = e := by
  simp only [← ofAlias?_eq_some_iff]
  rw [ofText, Term.clean_of_isWord h]
  cases ofAlias? name <;> simp

namespace Term

variable {text text' : Text} {tz : Option Text} {origin : Int} {r : Except Failure Operand}

/-- **What a text is answered**, case by case. -/
inductive Answered (text : Text) (tz : Option Text) (origin : Int) :
    Except Failure Operand → Prop
  /-- The word of a keyword means what the keyword does. -/
  | keyword {k : Keyword} (hword : k.word = Text.clean text) :
      Answered text tz origin (k.operand tz origin)
  /-- Another word is unknown. -/
  | unknownKeyword (hword : isWord (Text.clean text) = true)
      (hother : ∀ k : Keyword, k.word ≠ Text.clean text) :
      Answered text tz origin (.error (.rejected (.unknownKeyword (Text.clean text))))
  /-- A quantity has too many digits, whatever its unit. -/
  | tooLong {q : QuantityText} (hq : q.Shaped) (htext : q.text = Text.clean text)
      (hlen : Decimal.digitLimit < q.digits.length) :
      Answered text tz origin (.error (.rejected (.unknownTerm (Text.trim text))))
  /-- A quantity has an unknown unit. -/
  | unknownAlias {q : QuantityText} (hq : q.Shaped) (htext : q.text = Text.clean text)
      (hlen : q.digits.length ≤ Decimal.digitLimit)
      (hunit : TimeUnit.ofText q.unit = .error (.unknownAlias q.unit)) :
      Answered text tz origin (.error (.rejected (.unknownAlias q.unit)))
  /-- A quantity is the window between the origin and the instant that lies so far from it. -/
  | quantity {q : QuantityText} {u : TimeUnit} {v : Int} (hq : q.Shaped)
      (htext : q.text = Text.clean text) (hlen : q.digits.length ≤ Decimal.digitLimit)
      (hunit : TimeUnit.ofText q.unit = .ok u) (hv : v = q.count * u.millis) :
      Answered text tz origin (.ok {
        offset := some v
        start := some (min origin (origin + v))
        stop := some (max origin (origin + v)) })
  /-- A text is neither a word nor a quantity. -/
  | shapeless (hword : isWord (Text.clean text) = false)
      (hshape : ∀ q : QuantityText, q.Shaped → q.text ≠ Text.clean text) :
      Answered text tz origin (.error (.rejected (.unknownTerm (Text.trim text))))

/-! ### One answer for each case -/

theorem ofText_of_shaped {q : QuantityText} (hq : q.Shaped) (htext : q.text = Text.clean text) :
    ofText text =
      if q.digits.length ≤ Decimal.digitLimit then (TimeUnit.ofText q.unit).map (quantity q.count)
      else .error (.unknownTerm (Text.trim text)) := by
  rw [ofText, ← htext, ofClean_of_shaped hq]

/-- The cases give the answer that is computed. -/
theorem Answered.evaluate_eq (h : Answered text tz origin r) : evaluate text tz origin = r := by
  cases h with
  | keyword hword =>
    exact evaluate_of_ofText (ofText_eq_ok_iff.2 (hword ▸ Written.keyword _))
  | unknownKeyword hword hother =>
    refine evaluate_of_ofText_error ?_
    rw [ofText, ofClean, if_pos hword, Keyword.ofWord_eq_error_iff.2 ⟨hother, rfl⟩]
    rfl
  | tooLong hq htext hlen =>
    refine evaluate_of_ofText_error ?_
    rw [ofText_of_shaped hq htext, if_neg (Nat.not_le_of_lt hlen)]
  | unknownAlias hq htext hlen hunit =>
    refine evaluate_of_ofText_error ?_
    rw [ofText_of_shaped hq htext, if_pos hlen, hunit]
    rfl
  | @quantity q u v hq htext hlen hunit hv =>
    subst hv
    have hread : ofText text = .ok (.quantity q.count u) := by
      rw [ofText_of_shaped hq htext, if_pos hlen, hunit]
      rfl
    exact evaluate_of_ofText hread
  | shapeless hword hshape =>
    refine evaluate_of_ofText_error ?_
    have hnone : quantity? (Text.clean text) = none :=
      Option.eq_none_iff_forall_ne_some.2 fun q hq =>
        hshape q (quantity?_eq_some_iff.1 hq).1 (quantity?_eq_some_iff.1 hq).2
    rw [ofText, ofClean, if_neg (by rw [hword]; exact Bool.false_ne_true), hnone]

/-- **The cases leave nothing out.** -/
theorem exists_answered (text : Text) (tz : Option Text) (origin : Int) :
    ∃ r, Answered text tz origin r := by
  by_cases hword : isWord (Text.clean text) = true
  · by_cases hkeyword : ∃ k : Keyword, k.word = Text.clean text
    · obtain ⟨k, hk⟩ := hkeyword
      exact ⟨_, .keyword hk⟩
    · exact ⟨_, .unknownKeyword hword fun k hk => hkeyword ⟨k, hk⟩⟩
  · by_cases hshape : ∃ q : QuantityText, q.Shaped ∧ q.text = Text.clean text
    · obtain ⟨q, hq, htext⟩ := hshape
      by_cases hlen : q.digits.length ≤ Decimal.digitLimit
      · cases hunit : TimeUnit.ofText q.unit with
        | ok u => exact ⟨_, .quantity hq htext hlen hunit rfl⟩
        | error e =>
          obtain ⟨-, rfl⟩ := (TimeUnit.ofText_eq_error_iff hq.isWord).1 hunit
          exact ⟨_, .unknownAlias hq htext hlen hunit⟩
      · exact ⟨_, .tooLong hq htext (Nat.lt_of_not_le hlen)⟩
    · exact ⟨_, .shapeless (by simpa using hword) fun q hq htext => hshape ⟨q, hq, htext⟩⟩

theorem evaluate_eq_iff_answered : evaluate text tz origin = r ↔ Answered text tz origin r := by
  refine ⟨?_, Answered.evaluate_eq⟩
  rintro rfl
  obtain ⟨r, hr⟩ := exists_answered text tz origin
  rw [hr.evaluate_eq]
  exact hr

/-! ### Texts with the same clean form -/

/-- **Texts that share a clean form** are in the same case, and are answered alike where the
answer does not quote them. -/
theorem Answered.of_clean_eq (h : Answered text tz origin r)
    (hclean : Text.clean text = Text.clean text') :
    Answered text' tz origin r ∨
      r = .error (.rejected (.unknownTerm (Text.trim text))) ∧
        Answered text' tz origin (.error (.rejected (.unknownTerm (Text.trim text')))) := by
  cases h with
  | keyword hword => exact Or.inl (.keyword (hword.trans hclean))
  | unknownKeyword hword hother =>
    rw [hclean] at hword hother ⊢
    exact Or.inl (.unknownKeyword hword hother)
  | tooLong hq htext hlen => exact Or.inr ⟨rfl, .tooLong hq (htext.trans hclean) hlen⟩
  | unknownAlias hq htext hlen hunit =>
    exact Or.inl (.unknownAlias hq (htext.trans hclean) hlen hunit)
  | quantity hq htext hlen hunit hv =>
    exact Or.inl (.quantity hq (htext.trans hclean) hlen hunit hv)
  | shapeless hword hshape =>
    rw [hclean] at hword hshape
    exact Or.inr ⟨rfl, .shapeless hword hshape⟩

/-! ### A number and its unit, written down -/

/-- The parts of a quantity, as they are written down. -/
def QuantityText.written (k : Int) (name : Text) : QuantityText :=
  { minus := decide (k < 0), digits := Decimal.digits k.natAbs, unit := name }

namespace QuantityText

theorem text_written (k : Int) (name : Text) :
    (written k name).text = Decimal.write k ++ name := by
  rw [text, written, Decimal.write]
  by_cases hk : k < 0 <;> simp [hk]

theorem shaped_written (k : Int) {name : Text} (h : Term.isWord name = true) :
    (written k name).Shaped :=
  ⟨Decimal.digits_ne_nil _, fun _ hc => Decimal.isDigit_of_mem_digits hc, h⟩

theorem count_written {k : Int} (hk : Decimal.Writable k) (name : Text) :
    (written k name).count = k :=
  (Decimal.read?_eq_some_iff.1 (Decimal.read?_digits hk)).2

/-- The parts of a quantity are settled, so its text is clean. -/
theorem Shaped.clean_text {q : QuantityText} (hq : q.Shaped) : Text.clean q.text = q.text :=
  Text.clean_of_isSettled fun c hc => (hq.isTermChar c hc).isSettled

end QuantityText

/-- **What has been written is read back**: a number that can be written, and then an alias. -/
theorem evaluate_write_append {k : Int} {u : TimeUnit} {name : Text} (hk : Decimal.Writable k)
    (hname : name ∈ u.aliases) (tz : Option Text) (origin : Int) :
    evaluate (Decimal.write k ++ name) tz origin = .ok {
      offset := some (k * u.millis)
      start := some (min origin (origin + k * u.millis))
      stop := some (max origin (origin + k * u.millis)) } := by
  have hword := isWord_of_mem_aliases hname
  have hq := QuantityText.shaped_written k hword
  rw [← QuantityText.text_written]
  have hunit : TimeUnit.ofText name = .ok u := (ofText_eq_ok_iff_mem_aliases hword).2 hname
  refine Answered.evaluate_eq (.quantity hq hq.clean_text.symm hk hunit ?_)
  rw [QuantityText.count_written hk]

/-- **The clean form decides** what a text is answered: a word is a keyword or unknown, a
quantity is checked for the number of its digits before its unit, and no other text has a
meaning. Texts with the same clean form are answered alike, except that a text which is no term
is quoted as it stands but trimmed. A number and an alias of a unit are read back as they were
written. -/
theorem evaluate_by_clean_form (tz : Option Text) (origin : Int) :
    (∀ text r, evaluate text tz origin = r ↔ Answered text tz origin r) ∧
      (∀ text text', Text.clean text = Text.clean text' →
        evaluate text tz origin = evaluate text' tz origin ∨
          evaluate text tz origin = .error (.rejected (.unknownTerm (Text.trim text))) ∧
            evaluate text' tz origin = .error (.rejected (.unknownTerm (Text.trim text')))) ∧
      ∀ (k : Int) (u : TimeUnit) (name : Text), Decimal.Writable k → name ∈ u.aliases →
        evaluate (Decimal.write k ++ name) tz origin = .ok {
          offset := some (k * u.millis)
          start := some (min origin (origin + k * u.millis))
          stop := some (max origin (origin + k * u.millis)) } := by
  refine ⟨fun text r => evaluate_eq_iff_answered, ?_, ?_⟩
  · intro text text' hclean
    have hanswer := evaluate_eq_iff_answered.1 (rfl : evaluate text tz origin = _)
    rcases hanswer.of_clean_eq hclean with hsame | ⟨hquoted, hquoted'⟩
    · exact Or.inl hsame.evaluate_eq.symm
    · exact Or.inr ⟨hquoted, hquoted'.evaluate_eq⟩
  · intro k u name hk hname
    exact evaluate_write_append hk hname tz origin

/-- Two days as they are written down, and with blanks and capitals, and as many fortnights. -/
theorem evaluate_by_clean_form_two_days :
    let written := Decimal.write (-2) ++ "days".toList
    Decimal.Writable (-2) ∧ "days".toList ∈ TimeUnit.day.aliases ∧
      evaluate written none 5 = .ok ⟨some (-172800000), some (-172799995), some 5⟩ ∧
      Text.clean " -2 DAYS".toList = Text.clean written ∧
      evaluate " -2 DAYS".toList none 5 = .ok ⟨some (-172800000), some (-172799995), some 5⟩ ∧
      evaluate "-2 fortnights".toList none 5 =
        .error (.rejected (.unknownAlias "fortnights".toList)) := by
  intro written
  obtain ⟨hanswer, hclean, hwrite⟩ := evaluate_by_clean_form none 5
  have hk : Decimal.Writable (-2) := by decide +kernel
  have hname : "days".toList ∈ TimeUnit.day.aliases := by decide
  have hsame : Text.clean " -2 DAYS".toList = Text.clean written := by decide +kernel
  have hdays := hwrite (-2) .day _ hk hname
  refine ⟨hk, hname, hdays, hsame, ?_, ?_⟩
  · rcases hclean _ _ hsame with heq | ⟨-, hno⟩
    · rw [heq, hdays]
      rfl
    · rw [hdays] at hno
      exact absurd hno (by simp)
  · have hdigit : ∀ c ∈ ['2'], c.isDigit = true := by simp
    have hq : QuantityText.Shaped ⟨true, ['2'], "fortnights".toList⟩ :=
      ⟨by decide, hdigit, by decide⟩
    refine (hanswer _ _).2 (.unknownAlias hq (by decide +kernel) (by decide) ?_)
    rw [TimeUnit.ofText]
    decide +kernel

end Term

end Timespan

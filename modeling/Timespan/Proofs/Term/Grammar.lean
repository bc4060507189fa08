import Timespan.Proofs.Outcome
import Timespan.Proofs.Text.Clean
import Timespan.Term

/-!
# The grammar of terms

A term is recognised by looking at its clean form from the left: is it a word, is
there a sign, how far do the digits go. The grammar says the same without looking,
from the term to its clean form:

* a **keyword** is written as its word;
* a **quantity** is written as an optional minus sign, then between one and
  `Decimal.digitLimit` digits, leading zeros among them, then a name of its unit.

`Term.Written` is that relation, and `Term.ofText_eq_ok_iff` says that a text is
read as a term exactly if the grammar writes the clean form of the text for it. No
term is written with a dash at the end (`Term.Reads.getLast_ne_dash`), which is what
lets a term stand before an operator.
-/

namespace Timespan

/-! ### Words and digits -/

theorem Keyword.ofWord_eq_ok_iff {s : Text} {k : Keyword} : ofWord s = .ok k ↔ k.word = s := by
  rw [ofWord]
  split
  · next k' hk =>
    rw [Except.ok.injEq, ← word_of_ofWord? hk]
    refine ⟨fun h => by rw [h], fun h => ?_⟩
    exact Option.some.inj ((ofWord?_word k').symm.trans (h ▸ ofWord?_word k))
  · next hk =>
    refine ⟨fun h => absurd h (by simp), ?_⟩
    rintro rfl
    exact absurd hk (by simp)

theorem Decimal.read?_eq_some_iff {minus : Bool} {digits : Text} {count : Int} :
    read? minus digits = some count ↔ digits.length ≤ digitLimit ∧
      (if minus then -(value digits : Int) else value digits) = count := by
  rw [read?]
  split
  · next h => simp [h]
  · next h => simp [h]

namespace Term

/-! ### The grammar -/

/-- **How a term is written**, in clean form. -/
inductive Written : Term → Text → Prop
  /-- A keyword is its word. -/
  | keyword (k : Keyword) : Written (.keyword k) k.word
  /-- A quantity is an optional sign, digits and the name of a unit. -/
  | quantity (minus : Bool) {digits : Text} {u : TimeUnit} {name : Text} (hne : digits ≠ [])
      (hdigits : ∀ c ∈ digits, c.isDigit = true) (hlen : digits.length ≤ Decimal.digitLimit)
      (hname : name ∈ u.aliases) :
      Written
        (.quantity (if minus then -(Decimal.value digits : Int) else Decimal.value digits) u)
        ((if minus then ['-'] else []) ++ (digits ++ name))

/-- **What a text says**: its clean form is how the term is written. -/
def Reads (s : Text) (t : Term) : Prop :=
  Written t (Text.clean s)

/-- Blanks at the ends of a text do not matter to what it says. -/
theorem reads_trim_iff {s : Text} {t : Term} : Reads (Text.trim s) t ↔ Reads s t := by
  rw [Reads, Reads, Text.clean_trim]

/-! ### Words -/

theorem isWord_iff {s : Text} : isWord s = true ↔ s ≠ [] ∧ ∀ c ∈ s, c.isLower = true := by
  simp [isWord]

theorem isWord_word (k : Keyword) : isWord k.word = true := by
  cases k <;> decide

theorem isWord_of_mem_aliases {u : TimeUnit} {name : Text} (h : name ∈ u.aliases) :
    isWord name = true := by
  have key : ∀ v ∈ TimeUnit.all, ∀ s ∈ v.aliases, isWord s = true := by decide
  exact key u (TimeUnit.mem_all u) name h

theorem clean_of_isWord {s : Text} (h : isWord s = true) : Text.clean s = s :=
  Text.clean_of_isSettled fun c hc => isSettled_of_isLower ((isWord_iff.1 h).2 c hc)

/-- A small letter is no digit, so the digits before a word end where it begins. -/
theorem isDigit_of_isLower {c : Char} (h : c.isLower = true) : c.isDigit = false := by
  obtain ⟨h₁, -⟩ := toNat_of_isLower h
  by_cases hd : c.isDigit = true
  · obtain ⟨-, h₂⟩ := toNat_of_isDigit hd
    omega
  · simpa using hd

/-! ### The shape of a quantity -/

namespace QuantityText

/-- The parts one after another. -/
def text (q : QuantityText) : Text :=
  (if q.minus then ['-'] else []) ++ (q.digits ++ q.unit)

/-- The number, with its sign. -/
def count (q : QuantityText) : Int :=
  if q.minus then -(Decimal.value q.digits : Int) else Decimal.value q.digits

/-- **Parts of the right kind**: digits and a word, and at least one digit. -/
structure Shaped (q : QuantityText) : Prop where
  /-- There is a digit. -/
  digits_ne_nil : q.digits ≠ []
  /-- The digits are digits. -/
  isDigit : ∀ c ∈ q.digits, c.isDigit = true
  /-- The unit is a word. -/
  isWord : isWord q.unit = true

/-- The parts are made of the characters of terms. -/
theorem Shaped.isTermChar {q : QuantityText} (hq : q.Shaped) : ∀ c ∈ q.text, IsTermChar c := by
  intro c hc
  rcases List.mem_append.1 hc with hsign | hrest
  · split at hsign
    · exact Or.inr (Or.inr (List.mem_singleton.1 hsign))
    · exact absurd hsign List.not_mem_nil
  · rcases List.mem_append.1 hrest with hdigit | hunit
    · exact Or.inr (Or.inl (hq.isDigit c hdigit))
    · exact Or.inl ((isWord_iff.1 hq.isWord).2 c hunit)

end QuantityText

theorem quantityAfterSign?_eq_some_iff {minus : Bool} {s : Text} {q : QuantityText} :
    quantityAfterSign? minus s = some q ↔
      q.minus = minus ∧ q.Shaped ∧ q.digits ++ q.unit = s := by
  constructor
  · intro h
    rw [quantityAfterSign?] at h
    split at h
    · next hshape =>
      obtain rfl := Option.some.inj h
      simp only [Bool.and_eq_true, Bool.not_eq_true', List.isEmpty_eq_false_iff] at hshape
      exact ⟨rfl, ⟨hshape.1, fun c hc => List.mem_takeWhile_imp hc, hshape.2⟩,
        List.takeWhile_append_dropWhile⟩
    · exact absurd h (by simp)
  · rintro ⟨rfl, ⟨hne, hdigits, hword⟩, rfl⟩
    -- the unit begins with a letter, so the run of digits stops before it
    have hstop : q.unit.takeWhile Char.isDigit = [] ∧ q.unit.dropWhile Char.isDigit = q.unit := by
      obtain ⟨hunit, hlower⟩ := isWord_iff.1 hword
      cases hq : q.unit with
      | nil => exact absurd hq hunit
      | cons c rest =>
        have hc : c.isDigit = false :=
          isDigit_of_isLower (hlower c (by rw [hq]; exact List.mem_cons_self))
        simp [hc]
    have htake : (q.digits ++ q.unit).takeWhile Char.isDigit = q.digits := by
      rw [List.takeWhile_append_of_pos hdigits, hstop.1, List.append_nil]
    have hdrop : (q.digits ++ q.unit).dropWhile Char.isDigit = q.unit := by
      rw [List.dropWhile_append_of_pos hdigits, hstop.2]
    simp [quantityAfterSign?, htake, hdrop, hword, hne]

/-- Without a sign a quantity begins with a digit, hence not with a dash. -/
theorem QuantityText.Shaped.text_ne_cons {q : QuantityText} (hq : q.Shaped)
    (hminus : q.minus = false) (rest : Text) : q.text ≠ '-' :: rest := by
  intro htext
  cases hd : q.digits with
  | nil => exact hq.digits_ne_nil hd
  | cons c ds =>
    have hc : c.isDigit = true := hq.isDigit c (by rw [hd]; exact List.mem_cons_self)
    rw [QuantityText.text, hminus, hd] at htext
    obtain rfl : c = '-' := (List.cons.inj htext).1
    exact absurd hc (by decide)

/-- **A text has the shape of a quantity** if it consists of parts of the right
kind. -/
theorem quantity?_eq_some_iff {s : Text} {q : QuantityText} :
    quantity? s = some q ↔ q.Shaped ∧ q.text = s := by
  unfold quantity?
  split
  · next rest =>
    rw [quantityAfterSign?_eq_some_iff]
    refine ⟨fun h => ?_, fun h => ?_⟩
    · obtain ⟨hminus, hq, rfl⟩ := h
      exact ⟨hq, by simp [QuantityText.text, hminus]⟩
    · obtain ⟨hq, htext⟩ := h
      cases hminus : q.minus with
      | true => exact ⟨rfl, hq, by simpa [QuantityText.text, hminus] using htext⟩
      | false => exact absurd htext (hq.text_ne_cons hminus rest)
  · next hsign =>
    rw [quantityAfterSign?_eq_some_iff]
    refine ⟨fun h => ?_, fun h => ?_⟩
    · obtain ⟨hminus, hq, rfl⟩ := h
      exact ⟨hq, by simp [QuantityText.text, hminus]⟩
    · obtain ⟨hq, htext⟩ := h
      cases hminus : q.minus with
      | true =>
        -- a sign would have been seen
        refine absurd htext.symm fun h => hsign (q.digits ++ q.unit) (h.trans ?_)
        rw [QuantityText.text, hminus]
        rfl
      | false => exact ⟨rfl, hq, by simpa [QuantityText.text, hminus] using htext⟩

/-! ### Reading a term -/

/-- A quantity does not have the shape of a word. -/
theorem QuantityText.Shaped.isWord_text {q : QuantityText} (hq : q.Shaped) :
    Term.isWord q.text = false := by
  by_cases hword : Term.isWord q.text = true
  · obtain ⟨c, hc⟩ := List.exists_mem_of_ne_nil _ hq.digits_ne_nil
    have hmem : c ∈ q.text := List.mem_append_right _ (List.mem_append_left _ hc)
    have hlower := isDigit_of_isLower ((isWord_iff.1 hword).2 c hmem)
    rw [hq.isDigit c hc] at hlower
    exact absurd hlower (by simp)
  · simpa using hword

/-- A word with the shape of a unit names the unit whose alias it is. -/
theorem ofText_eq_ok_iff_mem_aliases {name : Text} (h : isWord name = true) {u : TimeUnit} :
    TimeUnit.ofText name = .ok u ↔ name ∈ u.aliases := by
  rw [TimeUnit.ofText, clean_of_isWord h, ← TimeUnit.ofAlias?_eq_some_iff]
  cases TimeUnit.ofAlias? name <;> simp

/-- A word is read as the keyword that it is. -/
theorem ofClean_eq_ok_iff_of_isWord {text clean : Text} {t : Term} (h : isWord clean = true) :
    ofClean text clean = .ok t ↔ ∃ k : Keyword, k.word = clean ∧ .keyword k = t := by
  rw [ofClean, if_pos h, map_eq_ok_iff]
  simp only [Keyword.ofWord_eq_ok_iff]

/-- **Parts of the right kind** are read as a quantity, once the number of the digits and the
unit have been checked, in this order. -/
theorem ofClean_of_shaped {q : QuantityText} (hq : q.Shaped) (text : Text) :
    ofClean text q.text =
      if q.digits.length ≤ Decimal.digitLimit then (TimeUnit.ofText q.unit).map (quantity q.count)
      else .error (.unknownTerm (Text.trim text)) := by
  have hshape : quantity? q.text = some q := quantity?_eq_some_iff.2 ⟨hq, rfl⟩
  rw [ofClean, if_neg (by rw [hq.isWord_text]; exact Bool.false_ne_true), hshape]
  by_cases hlen : q.digits.length ≤ Decimal.digitLimit
  · simp only [Decimal.read?_eq_some_iff.2 ⟨hlen, rfl⟩, if_pos hlen, QuantityText.count]
  · simp only [Decimal.read?_eq_none_iff.2 (Nat.lt_of_not_le hlen), if_neg hlen]

/-- Parts of the right kind are read as a quantity, if there are not too many digits and
the unit has the name of one. -/
theorem ofClean_eq_ok_iff_of_shaped {text : Text} {q : QuantityText} {t : Term}
    (hq : q.Shaped) :
    ofClean text q.text = .ok t ↔ q.digits.length ≤ Decimal.digitLimit ∧
      ∃ u : TimeUnit, q.unit ∈ u.aliases ∧ .quantity q.count u = t := by
  rw [ofClean_of_shaped hq]
  by_cases hlen : q.digits.length ≤ Decimal.digitLimit
  · rw [if_pos hlen, map_eq_ok_iff, and_iff_right hlen]
    simp only [ofText_eq_ok_iff_mem_aliases hq.isWord]
  · simp [hlen]

/-- **The grammar of terms**: a text is read as a term if and only if the grammar
writes its clean form for that term. -/
theorem ofClean_eq_ok_iff {text clean : Text} {t : Term} :
    ofClean text clean = .ok t ↔ Written t clean := by
  refine ⟨fun h => ?_, fun h => ?_⟩
  · by_cases hword : isWord clean = true
    · obtain ⟨k, rfl, rfl⟩ := (ofClean_eq_ok_iff_of_isWord hword).1 h
      exact Written.keyword k
    · cases hq : quantity? clean with
      | none =>
        rw [ofClean, if_neg hword, hq] at h
        exact absurd h (by simp)
      | some q =>
        obtain ⟨hshape, rfl⟩ := quantity?_eq_some_iff.1 hq
        obtain ⟨hlen, u, hname, rfl⟩ := (ofClean_eq_ok_iff_of_shaped hshape).1 h
        exact Written.quantity q.minus hshape.digits_ne_nil hshape.isDigit hlen hname
  · cases h with
    | keyword k => exact (ofClean_eq_ok_iff_of_isWord (isWord_word k)).2 ⟨k, rfl, rfl⟩
    | @quantity minus digits u name hne hdigits hlen hname =>
      -- the name of a unit is a word, so the parts are of the right kind
      have hshape : QuantityText.Shaped ⟨minus, digits, name⟩ :=
        ⟨hne, hdigits, isWord_of_mem_aliases hname⟩
      exact (ofClean_eq_ok_iff_of_shaped hshape).2 ⟨hlen, u, hname, rfl⟩

theorem ofText_eq_ok_iff {s : Text} {t : Term} : ofText s = .ok t ↔ Reads s t :=
  ofClean_eq_ok_iff

/-- A text says at most one thing. -/
theorem Reads.unique {s : Text} {t u : Term} (ht : Reads s t) (hu : Reads s u) : t = u :=
  Except.ok.inj ((ofText_eq_ok_iff.2 ht).symm.trans (ofText_eq_ok_iff.2 hu))

/-! ### Evaluating a term -/

theorem evaluate_of_ofText {s : Text} {t : Term} {tz : Option Text} {origin : Int}
    (h : ofText s = .ok t) : evaluate s tz origin = t.operand tz origin := by
  rw [evaluate, h, rejecting_ok, bind_ok]

theorem evaluate_of_ofText_error {s : Text} {e : Rejection} {tz : Option Text} {origin : Int}
    (h : ofText s = .error e) : evaluate s tz origin = .error (.rejected e) := by
  rw [evaluate, h, rejecting_error, bind_error]

/-! ### The characters of a term -/

/-- **A term is written** with the characters of terms. -/
theorem Written.isTermChar {t : Term} {s : Text} (h : Written t s) : ∀ c ∈ s, IsTermChar c := by
  cases h with
  | keyword k => exact fun c hc => Or.inl ((isWord_iff.1 (isWord_word k)).2 c hc)
  | @quantity minus digits u name hne hdigits hlen hname =>
    have hshape : QuantityText.Shaped ⟨minus, digits, name⟩ :=
      ⟨hne, hdigits, isWord_of_mem_aliases hname⟩
    exact hshape.isTermChar

/-! ### The end of a term -/

theorem Written.getLast_isLower {t : Term} {s : Text} (h : Written t s) :
    ∃ c, s.getLast? = some c ∧ c.isLower = true := by
  -- a keyword and the name of a unit are words, and the end of a word is a letter
  have hword : ∀ {w : Text}, isWord w = true →
      ∃ c, w.getLast? = some c ∧ c.isLower = true := by
    intro w hw
    obtain ⟨hne, hlower⟩ := isWord_iff.1 hw
    exact ⟨w.getLast hne, List.getLast?_eq_some_getLast hne, hlower _ (List.getLast_mem hne)⟩
  cases h with
  | keyword k => exact hword (isWord_word k)
  | quantity minus hne hdigits hlen hname =>
    obtain ⟨c, hc, hlower⟩ := hword (isWord_of_mem_aliases hname)
    exact ⟨c, by simp [List.getLast?_append, hc], hlower⟩

/-- **No term ends in a dash.** -/
theorem Reads.getLast_ne_dash {s : Text} {t : Term} (h : Reads s t) : s.getLast? ≠ some '-' := by
  intro hdash
  obtain ⟨c, hc, hlower⟩ := h.getLast_isLower
  rw [Text.getLast_clean_of_dash hdash] at hc
  obtain rfl := Option.some.inj hc
  exact absurd hlower (by decide)

end Term

end Timespan

import TagDispatch.Number.Written
import TagDispatch.Text.Quoted

/-!
Numbers and quoted texts inside a longer text. Each is spelled in one way only, and where it ends
can be told from the text alone: a number before the first character that is no digit, a quoted text
at its closing quote, since every quote inside it carries a backslash.
-/

namespace TagDispatch

/-- Two texts that start with a run of characters of one kind, which something else ends. -/
theorem append_inj_of_run {p : Char → Bool} {u v r s : List Char}
    (hu : ∀ c ∈ u, p c = true) (hv : ∀ c ∈ v, p c = true)
    (hr : ∀ c, r.head? = some c → p c = false) (hs : ∀ c, s.head? = some c → p c = false)
    (h : u ++ r = v ++ s) : u = v ∧ r = s := by
  have run {w t : List Char} (hw : ∀ c ∈ w, p c = true)
      (ht : ∀ c, t.head? = some c → p c = false) : (w ++ t).takeWhile p = w := by
    rw [List.takeWhile_append_of_pos hw]
    cases t with
    | nil => exact List.append_nil w
    | cons c t => rw [List.takeWhile_cons_of_neg (by simp [ht c rfl]), List.append_nil]
  have same : u = v := by rw [← run hu hr, h, run hv hs]
  subst same
  exact ⟨rfl, List.append_cancel_left h⟩

/-! ### Digits -/

theorem mem_toDigits {b n : Nat} (hb : 1 < b) {c : Char} (h : c ∈ Nat.toDigits b n) :
    ∃ d < b, c = d.digitChar := by
  induction n using Nat.strongRecOn with
  | ind n ih =>
    by_cases small : n < b
    · rw [Nat.toDigits_of_lt_base small] at h
      exact ⟨n, small, List.mem_singleton.1 h⟩
    · rw [Nat.toDigits_of_base_le hb (Nat.not_lt.1 small)] at h
      rcases List.mem_append.1 h with h | h
      · exact ih (n / b) (Nat.div_lt_self (by omega) hb) h
      · exact ⟨n % b, Nat.mod_lt n (by omega), List.mem_singleton.1 h⟩

theorem digitChar_inj : ∀ m < 16, ∀ n < 16, m.digitChar = n.digitChar → m = n := by decide

theorem length_toDigits_eq_one_iff {b n : Nat} (hb : 1 < b) :
    (Nat.toDigits b n).length = 1 ↔ n < b := by
  by_cases small : n < b
  · simp [Nat.toDigits_of_lt_base small, small]
  · simp [Nat.toDigits_of_base_le hb (Nat.not_lt.1 small), small]

/-- Numbers that are spelled alike have as many digits, so they are below the base together. -/
theorem toDigits_inj {b m n : Nat} (hb : 1 < b) (hb' : b ≤ 16)
    (h : Nat.toDigits b m = Nat.toDigits b n) : m = n := by
  induction m using Nat.strongRecOn generalizing n with
  | ind m ih =>
    have alike : m < b ↔ n < b := by
      rw [← length_toDigits_eq_one_iff hb, h, length_toDigits_eq_one_iff hb]
    by_cases small : m < b
    · rw [Nat.toDigits_of_lt_base small, Nat.toDigits_of_lt_base (alike.1 small)] at h
      exact digitChar_inj m (by omega) n (by omega) (List.cons.inj h).1
    · have large : b ≤ n := Nat.not_lt.1 (mt alike.2 small)
      rw [Nat.toDigits_of_base_le hb (Nat.not_lt.1 small), Nat.toDigits_of_base_le hb large] at h
      obtain ⟨leading, last⟩ := List.append_inj' h rfl
      have quotients : m / b = n / b := ih (m / b) (Nat.div_lt_self (by omega) hb) leading
      have remainders : m % b = n % b :=
        digitChar_inj _ (Nat.lt_of_lt_of_le (Nat.mod_lt m (by omega)) hb') _
          (Nat.lt_of_lt_of_le (Nat.mod_lt n (by omega)) hb') (List.cons.inj last).1
      rw [← Nat.div_add_mod m b, quotients, remainders, Nat.div_add_mod]

/-! ### Integers -/

/-- The characters of a written integer. -/
def isIntegral (c : Char) : Bool := c == '-' || c.isDigit

theorem toList_writeNat (n : Nat) : (writeNat n).toList = Nat.toDigits 10 n := String.toList_ofList

theorem toList_writeInt_negSucc (n : Nat) :
    (writeInt (.negSucc n)).toList = '-' :: (writeNat (n + 1)).toList := by
  rw [writeInt, String.toList_append]
  rfl

theorem isDigit_of_mem_writeNat {n : Nat} {c : Char} (h : c ∈ (writeNat n).toList) :
    c.isDigit = true := by
  rw [toList_writeNat] at h
  exact Nat.isDigit_of_mem_toDigits (by decide) (by decide) h

theorem writeInt_integral (i : Int) : ∀ c ∈ (writeInt i).toList, isIntegral c = true := by
  intro c hc
  cases i with
  | ofNat n => simp [isIntegral, isDigit_of_mem_writeNat hc]
  | negSucc n =>
    rw [toList_writeInt_negSucc] at hc
    rcases List.mem_cons.1 hc with rfl | hc
    · rfl
    · simp [isIntegral, isDigit_of_mem_writeNat hc]

theorem writeInt_ne_nil (i : Int) : (writeInt i).toList ≠ [] := by
  cases i with
  | ofNat n =>
    rw [writeInt, toList_writeNat]
    exact Nat.toDigits_ne_nil
  | negSucc n =>
    rw [toList_writeInt_negSucc]
    exact List.cons_ne_nil _ _

theorem writeInt_inj {i j : Int} (h : (writeInt i).toList = (writeInt j).toList) : i = j := by
  have number {m n : Nat} (h : (writeNat m).toList = (writeNat n).toList) : m = n := by
    rw [toList_writeNat, toList_writeNat] at h
    exact toDigits_inj (by decide) (by decide) h
  have unsigned {m n : Nat} (h : (writeNat m).toList = '-' :: (writeNat n).toList) : False := by
    have digit : '-'.isDigit = true := isDigit_of_mem_writeNat (h ▸ List.mem_cons_self)
    cases digit
  cases i with
  | ofNat m =>
    cases j with
    | ofNat n => exact congrArg Int.ofNat (number h)
    | negSucc n =>
      rw [toList_writeInt_negSucc] at h
      exact (unsigned h).elim
  | negSucc m =>
    rw [toList_writeInt_negSucc] at h
    cases j with
    | ofNat n => exact (unsigned h.symm).elim
    | negSucc n =>
      rw [toList_writeInt_negSucc] at h
      exact congrArg Int.negSucc (Nat.succ.inj (number (List.cons.inj h).2))

/-! ### Quoted texts -/

namespace Text

/-- The characters that are written as a letter after a backslash, with their letters. -/
def escapes : List (Char × Char) :=
  [('\x00', '0'), ('\t', 't'), ('\n', 'n'), ('\r', 'r'), ('\\', '\\'), ('\"', '\"')]

/-- How a character may be spelled between quotes: as itself, with its letter, or by its code
point. -/
inductive Spelled (c : Char) : List Char → Prop
  | itself (mark : c ≠ '\\' ∧ c ≠ '\"') : Spelled c [c]
  | letter {l : Char} (listed : (c, l) ∈ escapes) : Spelled c ['\\', l]
  | point : Spelled c ('\\' :: 'u' :: '\x7b' :: hexDigits c.toNat ++ ['\x7d'])

theorem spelled_quoteChar (c : Char) : Spelled c (quoteChar c) := by
  unfold quoteChar
  split
  · exact .letter (by decide)
  · exact .letter (by decide)
  · exact .letter (by decide)
  · exact .letter (by decide)
  · exact .letter (by decide)
  · exact .letter (by decide)
  · split
    · exact .point
    · exact .itself ⟨‹_›, ‹_›⟩

theorem escapes_inj : ∀ p ∈ escapes, ∀ q ∈ escapes, p.2 = q.2 → p.1 = q.1 := by decide

theorem escapes_ne_u : ∀ p ∈ escapes, p.2 ≠ 'u' := by decide

theorem hexDigits_append_inj {m n : Nat} {r s : List Char}
    (h : hexDigits m ++ '\x7d' :: r = hexDigits n ++ '\x7d' :: s) : m = n ∧ r = s := by
  have digit : ∀ d < 16, (d.digitChar != '\x7d') = true := by decide
  have digits (n : Nat) : ∀ c ∈ hexDigits n, (c != '\x7d') = true := by
    intro c hc
    obtain ⟨d, hd, rfl⟩ := mem_toDigits (by decide) hc
    exact digit d hd
  obtain ⟨same, rest⟩ := append_inj_of_run (digits m) (digits n) (by simp) (by simp) h
  exact ⟨toDigits_inj (by decide) (by decide) same, (List.cons.inj rest).2⟩

/-- No spelling of a character is the beginning of a spelling of another. -/
theorem Spelled.append_inj {c d : Char} {u v r s : List Char} (hu : Spelled c u)
    (hv : Spelled d v) (h : u ++ r = v ++ s) : c = d ∧ r = s := by
  cases hu with
  | itself mark =>
    cases hv with
    | itself mark' => exact List.cons.inj h
    | letter listed => exact absurd (List.cons.inj h).1 mark.1
    | point => exact absurd (List.cons.inj h).1 mark.1
  | letter listed =>
    cases hv with
    | itself mark => exact absurd (List.cons.inj h).1.symm mark.1
    | letter listed' =>
      obtain ⟨same, rest⟩ := List.cons.inj (List.cons.inj h).2
      exact ⟨escapes_inj _ listed _ listed' same, rest⟩
    | point =>
      obtain ⟨same, -⟩ := List.cons.inj (List.cons.inj h).2
      exact absurd same (escapes_ne_u _ listed)
  | point =>
    cases hv with
    | itself mark => exact absurd (List.cons.inj h).1.symm mark.1
    | letter listed =>
      obtain ⟨same, -⟩ := List.cons.inj (List.cons.inj h).2
      exact absurd same.symm (escapes_ne_u _ listed)
    | point =>
      simp only [List.cons_append, List.append_assoc, List.cons.injEq, true_and] at h
      obtain ⟨same, rest⟩ := hexDigits_append_inj h
      exact ⟨Char.toNat_inj.1 same, rest⟩

theorem Spelled.ne_quote {c : Char} {u r s : List Char} (hu : Spelled c u) :
    u ++ r ≠ '\"' :: s := by
  cases hu with
  | itself mark => exact fun h => mark.2 (List.cons.inj h).1
  | letter listed => exact fun h => absurd (List.cons.inj h).1 (by decide)
  | point => exact fun h => absurd (List.cons.inj h).1 (by decide)

theorem quoteChars_cons_append (c : Char) (cs r : List Char) :
    quoteChars (c :: cs) ++ r = quoteChar c ++ (quoteChars cs ++ r) := List.append_assoc ..

/-- A quoted text ends at the first quote that is not part of the spelling of a character. -/
theorem quoteChars_append_inj {cs ds r s : List Char}
    (h : quoteChars cs ++ '\"' :: r = quoteChars ds ++ '\"' :: s) : cs = ds ∧ r = s := by
  induction cs generalizing ds with
  | nil =>
    cases ds with
    | nil => exact ⟨rfl, (List.cons.inj h).2⟩
    | cons d ds =>
      rw [quoteChars_cons_append] at h
      exact absurd h.symm (spelled_quoteChar d).ne_quote
  | cons c cs ih =>
    rw [quoteChars_cons_append] at h
    cases ds with
    | nil => exact absurd h (spelled_quoteChar c).ne_quote
    | cons d ds =>
      rw [quoteChars_cons_append] at h
      obtain ⟨rfl, further⟩ := (spelled_quoteChar c).append_inj (spelled_quoteChar d) h
      obtain ⟨rfl, rest⟩ := ih further
      exact ⟨rfl, rest⟩

theorem quote_append_inj {s t : String} {r r' : List Char}
    (h : (quote s).toList ++ r = (quote t).toList ++ r') : s = t ∧ r = r' := by
  simp only [quote, String.toList_ofList, List.cons_append, List.append_assoc, List.cons.injEq,
    true_and] at h
  obtain ⟨same, rest⟩ := quoteChars_append_inj h
  exact ⟨String.toList_inj.1 same, rest⟩

end Text

end TagDispatch

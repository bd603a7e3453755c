import Interpolation.Json.Reader
import Interpolation.Json.Writer

set_option autoImplicit false

namespace Interpolation.Json

open Text

theorem symbols_char (c : Char) (rest : Text) (quote : c ≠ '"') (slash : c ≠ '\\') (high : ¬ c < ' ') :
    symbols? (c :: rest) = (symbols? rest).map (withSymbol (.char c)) := by
  have plain : ¬ (c == '\\' || c < ' ') = true := by simpa [slash] using high
  rw [symbols?, if_neg plain]
  · exact quote
  · intros
    contradiction
  · intros
    contradiction

theorem symbols_pair (c plain : Char) (rest : Text) (other : c ≠ 'u') (known : escaped? c = some plain) :
    symbols? ('\\' :: c :: rest) = (symbols? rest).map (withSymbol (.char plain)) := by
  rw [symbols?, known]
  · cases symbols? rest <;> rfl
  · intros
    contradiction

theorem symbols_unit (a b c d : Char) (code : Nat) (rest : Text) (known : unit? a b c d = some code) :
    symbols? ('\\' :: 'u' :: a :: b :: c :: d :: rest) = (symbols? rest).map (withSymbol (.unit code)) := by
  rw [symbols?, known]
  cases symbols? rest <;> rfl

theorem unit_low : ∀ n < 32, unit? '0' '0' (hexDigit (n / 16)) (hexDigit n) = some n := by
  decide

def symbolOf (c : Char) : Symbol :=
  if c < ' ' ∧ c ∉ ['\x08', '\x0c', '\n', '\r', '\t'] then .unit c.toNat else .char c

theorem symbols_escape (c : Char) (rest : Text) :
    symbols? (escape c ++ rest) = (symbols? rest).map (withSymbol (symbolOf c)) := by
  by_cases short : c ∈ ['"', '\\', '\x08', '\x0c', '\n', '\r', '\t']
  · simp only [List.mem_cons, List.not_mem_nil, or_false] at short
    rcases short with rfl | rfl | rfl | rfl | rfl | rfl | rfl <;> exact symbols_pair _ _ rest (by decide) rfl
  · simp only [List.mem_cons, List.not_mem_nil, or_false, not_or] at short
    obtain ⟨quote, slash, back, feed, line, carriage, tab⟩ := short
    by_cases low : c < ' '
    · have written : escape c = ['\\', 'u', '0', '0', hexDigit (c.toNat / 16), hexDigit c.toNat] := by
        simp [escape, quote, slash, back, feed, line, carriage, tab, low]
      have symbol : symbolOf c = .unit c.toNat := by simp [symbolOf, low, back, feed, line, carriage, tab]
      rw [written, symbol]
      exact symbols_unit _ _ _ _ _ rest (unit_low c.toNat low)
    · have written : escape c = [c] := by simp [escape, quote, slash, back, feed, line, carriage, tab, low]
      have symbol : symbolOf c = .char c := by simp [symbolOf, low]
      rw [written, symbol]
      exact symbols_char c rest quote slash low

theorem symbols_quoted (t rest : Text) : symbols? (t.flatMap escape ++ '"' :: rest) = some (t.map symbolOf, rest) := by
  induction t with
  | nil => rfl
  | cons c t ih =>
      rw [List.flatMap_cons, List.append_assoc, symbols_escape, ih]
      rfl

theorem assemble_unit (code : Nat) (rest : List Symbol) (low : code < 0xD800) :
    assemble? (.unit code :: rest) = (assemble? rest).map (Char.ofNat code :: ·) := by
  have high : isHighSurrogate code = false := by simp [isHighSurrogate]; omega
  have second : isLowSurrogate code = false := by simp [isLowSurrogate]; omega
  cases rest with
  | nil => simp [assemble?, high, second]
  | cons symbol rest => cases symbol <;> simp [assemble?, high, second]

theorem assemble_symbols (t : Text) : assemble? (t.map symbolOf) = some t := by
  induction t with
  | nil => rfl
  | cons c t ih =>
      rw [List.map_cons]
      by_cases coded : c < ' ' ∧ c ∉ ['\x08', '\x0c', '\n', '\r', '\t']
      · have low : c.toNat < 32 := coded.1
        rw [symbolOf, if_pos coded, assemble_unit c.toNat _ (by omega), ih]
        simp
      · rw [symbolOf, if_neg coded, assemble?, ih]
        rfl

theorem string_quoted (t rest : Text) : string? (t.flatMap escape ++ '"' :: rest) = some (some t, rest) := by
  rw [string?, symbols_quoted, Option.map_some, assemble_symbols]

def continues (c : Char) : Bool := c.isDigit || c == '.' || c == 'e' || c == 'E'

def isOver (rest : Text) : Bool := rest.head?.all fun c => !continues c

theorem digits_run (run rest : Text) (filled : run ≠ []) (digits : ∀ c ∈ run, c.isDigit = true)
    (stop : rest.head?.all (fun c => !c.isDigit) = true) : digits? (run ++ rest) = some (run, rest) := by
  have front : (run ++ rest).takeWhile Char.isDigit = run := by
    rw [List.takeWhile_append_of_pos digits]
    cases rest with
    | nil => simp
    | cons c rest => simp_all
  have back : (run ++ rest).dropWhile Char.isDigit = rest := by
    rw [List.dropWhile_append_of_pos digits]
    cases rest with
    | nil => rfl
    | cons c rest => simp_all
  rw [digits?, front, back]
  simp [filled]

theorem decimal_digits (n : Nat) : ∀ c ∈ Nat.toDigits 10 n, c.isDigit = true :=
  fun _ member => Nat.isDigit_of_mem_toDigits (by decide) (by decide) member

theorem decimal_cons (n : Nat) : ∃ c more, Nat.toDigits 10 n = c :: more ∧ c.isDigit = true := by
  have digits := decimal_digits n
  cases written : Nat.toDigits 10 n with
  | nil => exact absurd written Nat.toDigits_ne_nil
  | cons c more => exact ⟨c, more, rfl, digits c (by simp [written])⟩

theorem decimal_front (n : Nat) : (Nat.toDigits 10 n).head? = some '0' ↔ n = 0 := by
  induction n using Nat.strongRecOn with
  | ind n ih =>
      by_cases small : n < 10
      · rw [Nat.toDigits_of_lt_base small]
        simp
      · have shorter := ih (n / 10) (by omega)
        rw [Nat.toDigits_of_base_le (by decide) (by omega), List.head?_append]
        obtain ⟨c, more, digits, _⟩ := decimal_cons (n / 10)
        rw [digits] at shorter ⊢
        rw [List.head?_cons, Option.some_or, ← List.head?_cons, shorter]
        omega

theorem whole_digits (n : Nat) (rest : Text) (stop : rest.head?.all (fun c => !c.isDigit) = true) :
    whole? (Nat.toDigits 10 n ++ rest) = some (Nat.toDigits 10 n, rest) := by
  have run := digits_run _ rest Nat.toDigits_ne_nil (decimal_digits n) stop
  have front := decimal_front n
  obtain ⟨c, more, digits, _⟩ := decimal_cons n
  rw [digits] at run front ⊢
  by_cases zero : n = 0
  · subst n
    obtain ⟨rfl, rfl⟩ : '0' = c ∧ [] = more := by simpa using digits
    rfl
  · have other : c ≠ '0' := by simpa [zero] using front
    rw [List.cons_append, whole?]
    · exact run
    · intro tail same
      exact other (List.cons.inj same).1

theorem over_head (c : Char) (rest : Text) (ended : isOver (c :: rest) = true) :
    c.isDigit = false ∧ c ≠ 'e' ∧ c ≠ 'E' := by
  have other : continues c = false := by simpa [isOver] using ended
  simp only [continues, Bool.or_eq_false_iff, beq_eq_false_iff_ne] at other
  exact ⟨other.1.1.1, other.1.2, other.2⟩

theorem fraction_over (rest : Text) (ended : isOver rest = true) : fraction? rest = some ([], rest) := by
  rw [fraction?]
  rintro tail rfl
  cases ended

theorem power_over (rest : Text) (ended : isOver rest = true) : power? rest = some (none, rest) := by
  cases rest with
  | nil => rfl
  | cons c rest =>
      obtain ⟨_, lower, upper⟩ := over_head c rest ended
      simp [power?, lower, upper]

theorem over_digits (rest : Text) (ended : isOver rest = true) : rest.head?.all (fun c => !c.isDigit) = true := by
  cases rest with
  | nil => rfl
  | cons c rest =>
      simp [(over_head c rest ended).1]

theorem natural_read (n : Nat) (rest : Text) (ended : isOver rest = true) :
    unsigned? false (Nat.toDigits 10 n ++ rest) = some (.natural n, rest) := by
  rw [unsigned?, whole_digits n rest (over_digits rest ended)]
  simp [fraction_over rest ended, power_over rest ended, Nat.ofDigitChars_ten_toDigits]

theorem power_unsigned (c : Char) (rest : Text) (digit : c.isDigit = true) :
    power? ('e' :: c :: rest) =
      (digits? (c :: rest)).map fun run => (some (Nat.ofDigitChars 10 run.1 0 : Int), run.2) := by
  rw [power?]
  · exact if_pos rfl
  all_goals
    intro tail same
    rw [(List.cons.inj same).1] at digit
    cases digit

theorem power_written (exponent : Int) (rest : Text) (ended : isOver rest = true) :
    power? ((if exponent < 0 then ['e', '-'] else ['e']) ++ (Nat.toDigits 10 exponent.natAbs ++ rest)) =
      some (some exponent, rest) := by
  have run := digits_run _ rest Nat.toDigits_ne_nil (decimal_digits exponent.natAbs) (over_digits rest ended)
  by_cases negative : exponent < 0
  · have size : -(exponent.natAbs : Int) = exponent := by omega
    have signed : power? ('e' :: '-' :: (Nat.toDigits 10 exponent.natAbs ++ rest)) =
        (digits? (Nat.toDigits 10 exponent.natAbs ++ rest)).map fun run =>
          (some (-(Nat.ofDigitChars 10 run.1 0 : Int)), run.2) := rfl
    rw [run] at signed
    rw [if_pos negative, List.cons_append, List.singleton_append, signed, Option.map_some,
      Nat.ofDigitChars_ten_toDigits, size]
  · have size : (exponent.natAbs : Int) = exponent := by omega
    rw [if_neg negative]
    obtain ⟨c, more, written, digit⟩ := decimal_cons exponent.natAbs
    have unsigned := power_unsigned c (more ++ rest) digit
    rw [← List.cons_append, ← written, run] at unsigned
    rw [List.singleton_append, unsigned, Option.map_some, Nat.ofDigitChars_ten_toDigits, size]

theorem decimal_read (negative : Bool) (mantissa : Nat) (exponent : Int) (rest : Text) (ended : isOver rest = true) :
    unsigned? negative (Nat.toDigits 10 mantissa ++
        ((if exponent < 0 then ['e', '-'] else ['e']) ++ (Nat.toDigits 10 exponent.natAbs ++ rest))) =
      some (.decimal negative mantissa exponent, rest) := by
  have power := power_written exponent rest ended
  have front : ∃ more, (if exponent < 0 then ['e', '-'] else ['e']) ++ (Nat.toDigits 10 exponent.natAbs ++ rest) =
      'e' :: more := by
    by_cases small : exponent < 0 <;> simp [small]
  obtain ⟨more, eq⟩ := front
  rw [eq] at power ⊢
  have fraction : fraction? ('e' :: more) = some ([], 'e' :: more) := by
    rw [fraction?]
    intro tail same
    cases same
  rw [unsigned?, whole_digits mantissa ('e' :: more) rfl]
  simp [fraction, power, Nat.ofDigitChars_ten_toDigits]

theorem number_read (number : Number) (rest : Text) (ended : isOver rest = true) :
    number? (writeNumber number ++ rest) = some (number, rest) := by
  have unsigned (n : Nat) (more : Text) :
      number? (Nat.toDigits 10 n ++ more) = unsigned? false (Nat.toDigits 10 n ++ more) := by
    obtain ⟨c, tail, written, digit⟩ := decimal_cons n
    rw [written, List.cons_append, number?]
    intro others same
    rw [(List.cons.inj same).1] at digit
    cases digit
  cases number with
  | natural n => rw [writeNumber, unsigned, natural_read n rest ended]
  | decimal negative mantissa exponent =>
      have read := decimal_read negative mantissa exponent rest ended
      cases negative with
      | true =>
          rw [writeNumber]
          simpa [number?] using read
      | false =>
          rw [writeNumber]
          simpa [unsigned] using read

end Interpolation.Json

set_option autoImplicit false

/- Text is a sequence of characters. A position in it counts UTF-8 bytes, so text can be cut only where a character
   begins or the text ends; a cut anywhere else gives no piece, never part of a character. -/
namespace Interpolation

abbrev Text := List Char

namespace Text

def bytes : Text → Nat
  | [] => 0
  | c :: rest => c.utf8Size + bytes rest

theorem bytes_append (a b : Text) : bytes (a ++ b) = bytes a + bytes b := by
  induction a with
  | nil => simp [bytes]
  | cons c rest ih => simp [bytes, ih, Nat.add_assoc]

def withFirst (c : Char) (cut : Text × Text) : Text × Text := (c :: cut.1, cut.2)

def cutAt? : Nat → Text → Option (Text × Text)
  | 0, t => some ([], t)
  | _ + 1, [] => none
  | n + 1, c :: rest =>
      if c.utf8Size ≤ n + 1 then (cutAt? (n + 1 - c.utf8Size) rest).map (withFirst c) else none

theorem cut_at_some_iff (n : Nat) (t left right : Text) :
    cutAt? n t = some (left, right) ↔ t = left ++ right ∧ bytes left = n := by
  induction t generalizing n left with
  | nil =>
      cases n with
      | zero => cases left <;> simp [cutAt?, bytes, eq_comm]
      | succ n => cases left <;> simp [cutAt?, bytes]
  | cons c rest ih =>
      cases n with
      | zero =>
          cases left with
          | nil => simp [cutAt?, bytes, eq_comm]
          | cons d left =>
              have wide := d.utf8Size_pos
              simp [cutAt?, bytes]
              omega
      | succ n =>
          cases left with
          | nil => by_cases fits : c.utf8Size ≤ n + 1 <;> simp [cutAt?, bytes, fits, withFirst]
          | cons d left =>
              by_cases fits : c.utf8Size ≤ n + 1
              · simp only [cutAt?, if_pos fits, withFirst, Option.map_eq_some_iff, Prod.mk.injEq, List.cons.injEq,
                  Prod.exists, List.cons_append, bytes]
                constructor
                · rintro ⟨a, b, found, ⟨rfl, rfl⟩, rfl⟩
                  obtain ⟨eq, size⟩ := (ih _ _).mp found
                  exact ⟨⟨rfl, eq⟩, by omega⟩
                · rintro ⟨⟨rfl, eq⟩, size⟩
                  exact ⟨left, right, (ih _ _).mpr ⟨eq, by omega⟩, ⟨rfl, rfl⟩, rfl⟩
              · simp only [cutAt?, if_neg fits, List.cons_append, List.cons.injEq, bytes]
                constructor
                · intro absent
                  cases absent
                · rintro ⟨⟨rfl, _⟩, size⟩
                  omega

def between (start stop : Nat) (t : Text) : Text :=
  match cutAt? stop t with
  | none => []
  | some (upper, _) => ((cutAt? start upper).map Prod.snd).getD []

def upTo (stop : Nat) (t : Text) : Text := ((cutAt? stop t).map Prod.fst).getD []

def onward (start : Nat) (t : Text) : Text := ((cutAt? start t).map Prod.snd).getD []

def dropEnd (n : Nat) (t : Text) : Text := t.take (t.length - n)

def after? : Text → Text → Option Text
  | [], t => some t
  | _ :: _, [] => none
  | c :: mark, d :: rest => if c = d then after? mark rest else none

theorem after_some_iff (mark t rest : Text) : after? mark t = some rest ↔ t = mark ++ rest := by
  induction mark generalizing t with
  | nil => simp [after?]
  | cons c mark ih =>
      cases t with
      | nil => simp [after?]
      | cons d tail =>
          by_cases same : c = d
          · subst d
            simp [after?, ih]
          · simp [after?, same, Ne.symm same]

def startsWith (mark t : Text) : Bool := (after? mark t).isSome

def endsWith (mark t : Text) : Bool := startsWith mark.reverse t.reverse

def cut? (mark : Text) : Text → Option (Text × Text)
  | [] => none
  | c :: rest =>
      match after? mark (c :: rest) with
      | some tail => some ([], tail)
      | none => (cut? mark rest).map (withFirst c)

def cutLast? (mark : Text) : Text → Option (Text × Text)
  | [] => none
  | c :: rest =>
      match cutLast? mark rest with
      | some cut => some (withFirst c cut)
      | none => (after? mark (c :: rest)).map ([], ·)

theorem cut_joins (mark t left right : Text) (found : cut? mark t = some (left, right)) :
    t = left ++ mark ++ right := by
  induction t generalizing left with
  | nil => simp [cut?] at found
  | cons c rest ih =>
      cases here : after? mark (c :: rest) with
      | some tail =>
          simp only [cut?, here, Option.some.injEq, Prod.mk.injEq] at found
          obtain ⟨rfl, rfl⟩ := found
          simpa using (after_some_iff _ _ _).mp here
      | none =>
          simp only [cut?, here, Option.map_eq_some_iff, withFirst, Prod.mk.injEq, Prod.exists] at found
          obtain ⟨a, b, later, rfl, rfl⟩ := found
          simp [ih a later]

theorem cut_last_joins (mark t left right : Text) (found : cutLast? mark t = some (left, right)) :
    t = left ++ mark ++ right := by
  induction t generalizing left with
  | nil => simp [cutLast?] at found
  | cons c rest ih =>
      cases later : cutLast? mark rest with
      | some cut =>
          simp only [cutLast?, later, Option.some.injEq, withFirst, Prod.mk.injEq] at found
          obtain ⟨rfl, rfl⟩ := found
          simp [ih cut.1 later]
      | none =>
          simp only [cutLast?, later, Option.map_eq_some_iff, Prod.mk.injEq] at found
          obtain ⟨tail, here, rfl, rfl⟩ := found
          simpa using (after_some_iff _ _ _).mp here

def contains (mark t : Text) : Bool := (cut? mark t).isSome

def offset? (mark t : Text) : Option Nat := (cut? mark t).map fun cut => bytes cut.1

def eraseFirst (mark t : Text) : Text :=
  match cut? mark t with
  | some (left, right) => left ++ right
  | none => t

def eraseLast (mark t : Text) : Text :=
  match cutLast? mark t with
  | some (left, right) => left ++ right
  | none => t

def joinHead (c : Char) : List Text → List Text
  | [] => [[c]]
  | piece :: pieces => (c :: piece) :: pieces

def split (mark : Char) : Text → List Text
  | [] => [[]]
  | c :: rest => if c = mark then [] :: split mark rest else joinHead c (split mark rest)

def join (mark : Char) : List Text → Text
  | [] => []
  | [piece] => piece
  | piece :: next :: pieces => piece ++ mark :: join mark (next :: pieces)

theorem split_nonempty (mark : Char) (t : Text) : split mark t ≠ [] := by
  cases t with
  | nil => simp [split]
  | cons c rest =>
      by_cases same : c = mark
      · simp [split, same]
      · simp only [split, if_neg same]
        cases split mark rest <;> simp [joinHead]

theorem join_split (mark : Char) (t : Text) : join mark (split mark t) = t := by
  induction t with
  | nil => rfl
  | cons c rest ih =>
      by_cases same : c = mark
      · rw [split, if_pos same]
        cases pieces : split mark rest with
        | nil => exact absurd pieces (split_nonempty mark rest)
        | cons piece more => simp [join, ← pieces, ih, same]
      · rw [split, if_neg same]
        cases pieces : split mark rest with
        | nil => exact absurd pieces (split_nonempty mark rest)
        | cons piece more =>
            rw [pieces] at ih
            cases more with
            | nil => simpa [joinHead, join] using ih
            | cons next more => simpa [joinHead, join] using ih

def segments (t : Text) : List Text := split '.' t

end Text

end Interpolation

import Interpolation.Catalog.References
import Interpolation.Proofs.Layout

set_option autoImplicit false

namespace Interpolation

open Text

def scan : Text → Text × Layout
  | [] => ([], .final [])
  | '&' :: '&' :: rest => ([], .spot ['&', '&'] (scan rest).1 (scan rest).2)
  | '|' :: '|' :: rest => ([], .spot ['|', '|'] (scan rest).1 (scan rest).2)
  | c :: rest =>
      if isDelimiter c then ([], .spot [c] (scan rest).1 (scan rest).2) else (c :: (scan rest).1, (scan rest).2)

def pieceLayout (t : Text) : Layout := .spot [] (scan t).1 (scan t).2

theorem scan_whole (t : Text) : (scan t).1 ++ (scan t).2.whole = t := by
  fun_induction scan t with
  | case1 => rfl
  | case2 rest ih => simp [Layout.whole, ih]
  | case3 rest ih => simp [Layout.whole, ih]
  | case4 c rest _ _ delimits ih => simp [Layout.whole, ih]
  | case5 c rest _ _ plain ih => simp [ih]

theorem scan_pieces (t : Text) : pieces t = (scan t).1 :: (scan t).2.spots := by
  fun_induction pieces t with
  | case1 => rfl
  | case2 rest ih => simp [scan, Layout.spots, ih]
  | case3 rest ih => simp [scan, Layout.spots, ih]
  | case4 c rest _ _ delimits ih => simp [scan, delimits, Layout.spots, ih]
  | case5 c rest _ _ plain ih => simp [scan, plain, joinHead, ih]

theorem piece_layout_whole (t : Text) : (pieceLayout t).whole = t := scan_whole t

theorem piece_layout_spots (t : Text) : (pieceLayout t).spots = pieces t := (scan_pieces t).symm

theorem scan_avoids_dot (t : Text) : (scan t).2.Avoids '.' := by
  fun_induction scan t with
  | case1 => simp [Layout.Avoids]
  | case2 rest ih => exact ⟨by decide, ih⟩
  | case3 rest ih => exact ⟨by decide, ih⟩
  | case4 c rest _ _ delimits ih =>
      refine ⟨?_, ih⟩
      intro dot
      rw [← List.mem_singleton.mp dot] at delimits
      exact absurd delimits (by decide)
  | case5 c rest _ _ plain ih => exact ih

theorem piece_layout_avoids_dot (t : Text) : (pieceLayout t).Avoids '.' := ⟨by simp, scan_avoids_dot t⟩

theorem pieces_each (holds : Text → Prop) (empty : holds [])
    (longer : ∀ c rest, isDelimiter c = false → (∀ tail, c = '&' → rest = '&' :: tail → False) →
      (∀ tail, c = '|' → rest = '|' :: tail → False) → holds (scan rest).1 → holds (c :: (scan rest).1)) (t : Text) :
    ∀ piece ∈ pieces t, holds piece := by
  rw [scan_pieces]
  fun_induction scan t with
  | case1 => simpa [Layout.spots] using empty
  | case2 rest ih => exact List.forall_mem_cons.mpr ⟨empty, ih⟩
  | case3 rest ih => exact List.forall_mem_cons.mpr ⟨empty, ih⟩
  | case4 c rest _ _ delimits ih => exact List.forall_mem_cons.mpr ⟨empty, ih⟩
  | case5 c rest noAmpersands noBars plain ih =>
      obtain ⟨first, later⟩ := List.forall_mem_cons.mp ih
      exact List.forall_mem_cons.mpr ⟨longer c rest (by simpa using plain) noAmpersands noBars first, later⟩

theorem piece_plain (t piece : Text) (member : piece ∈ pieces t) (c : Char) (inside : c ∈ piece) :
    isDelimiter c = false := by
  refine pieces_each (fun piece => ∀ c ∈ piece, isDelimiter c = false) (by simp) ?_ t piece member c inside
  intro d rest plain _ _ others
  exact List.forall_mem_cons.mpr ⟨plain, others⟩

theorem pieces_cons (c : Char) (rest : Text) (noAmpersands : ∀ tail, c = '&' → rest = '&' :: tail → False)
    (noBars : ∀ tail, c = '|' → rest = '|' :: tail → False) :
    pieces (c :: rest) = if isDelimiter c then [] :: pieces rest else joinHead c (pieces rest) := by
  rw [pieces]
  · exact noAmpersands
  · exact noBars

theorem join_head_append (c : Char) (front back : List Text) (filled : front ≠ []) :
    joinHead c (front ++ back) = joinHead c front ++ back := by
  cases front with
  | nil => exact absurd rfl filled
  | cons piece more => rfl

theorem pieces_nonempty (t : Text) : pieces t ≠ [] := by simp [scan_pieces]

theorem seam_apart (c : Char) (rest t tail : Text) (alone : ∀ more, rest = c :: more → False)
    (apart : (c :: rest).getLast? = some c → t.head? ≠ some c) : rest ++ t ≠ c :: tail := by
  intro meets
  cases rest with
  | nil => exact apart rfl (by rw [← List.nil_append t, meets]; rfl)
  | cons d more => exact alone more (by rw [(List.cons.inj meets).1])

theorem last_later (c : Char) (rest : Text) (last : Char) (ends : rest.getLast? = some last) :
    (c :: rest).getLast? = some last := by
  rw [List.getLast?_cons, ends, Option.getD_some]

-- A text that is cut at its beginning is cut there behind any other, unless they meet in an operator.
theorem pieces_append (a t : Text) (later : List Text) (cut : pieces t = [] :: later)
    (apart : ∀ operator ∈ ['&', '|'], a.getLast? = some operator → t.head? ≠ some operator) :
    pieces (a ++ t) = pieces a ++ later := by
  fun_induction pieces a with
  | case1 => exact cut
  | case2 rest ih =>
      have behind := ih fun operator known ends => apart operator known (last_later _ _ _ (last_later _ _ _ ends))
      rw [List.cons_append, List.cons_append, pieces, behind]
      rfl
  | case3 rest ih =>
      have behind := ih fun operator known ends => apart operator known (last_later _ _ _ (last_later _ _ _ ends))
      rw [List.cons_append, List.cons_append, pieces, behind]
      rfl
  | case4 c rest noAmpersands noBars delimits ih =>
      have behind := ih fun operator known ends => apart operator known (last_later c rest operator ends)
      rw [List.cons_append, pieces_cons, if_pos delimits, behind]
      · rfl
      · rintro tail rfl
        exact seam_apart '&' rest t tail (fun more => noAmpersands more rfl) (apart '&' (by simp))
      · rintro tail rfl
        exact seam_apart '|' rest t tail (fun more => noBars more rfl) (apart '|' (by simp))
  | case5 c rest noAmpersands noBars plain ih =>
      have behind := ih fun operator known ends => apart operator known (last_later c rest operator ends)
      rw [List.cons_append, pieces_cons, if_neg plain, behind, join_head_append c _ _ (pieces_nonempty rest)]
      · rintro tail rfl
        exact seam_apart '&' rest t tail (fun more => noAmpersands more rfl) (apart '&' (by simp))
      · rintro tail rfl
        exact seam_apart '|' rest t tail (fun more => noBars more rfl) (apart '|' (by simp))

theorem delimiter_alone (d : Char) (delimits : isDelimiter d = true) : d ≠ '&' ∧ d ≠ '|' := by
  refine ⟨?_, ?_⟩
  · rintro rfl
    exact absurd delimits (by decide)
  · rintro rfl
    exact absurd delimits (by decide)

theorem pieces_append_delimiter (a b : Text) (d : Char) (delimits : isDelimiter d = true) :
    pieces (a ++ d :: b) = pieces a ++ pieces b := by
  obtain ⟨noAmpersand, noBar⟩ := delimiter_alone d delimits
  apply pieces_append
  · rw [pieces_cons d b (by simp [noAmpersand]) (by simp [noBar]), if_pos delimits]
  · simp [noAmpersand, noBar]

theorem atoms_append_delimiter (a b : Text) (d : Char) (delimits : isDelimiter d = true) :
    atoms (a ++ d :: b) = atoms a ++ atoms b := by
  simp only [atoms, pieces_append_delimiter a b d delimits, List.filter_append]

structure Slice where
  before : Text
  text : Text
  after : Text

def Slice.whole (slice : Slice) : Text := slice.before ++ (slice.text ++ slice.after)

def enclosedSlice (t : Text) : Slice :=
  let inner := t.drop (Marker.ofText t).opening.length
  ⟨(Marker.ofText t).opening, enclosed t, inner.drop (inner.length - (Marker.ofText t).closing.length)⟩

def collectionSlice? (t : Text) : Option Slice := do
  let (beforeFor, afterFor) ← cutWord? "for".toList 0 none t
  let (beforeIn, afterIn) ← cutWord? "in".toList 0 (some 'r') afterFor
  let (source, after) ← cut? [':'] afterIn
  return ⟨beforeFor ++ "for".toList ++ (beforeIn ++ "in".toList), source, ':' :: after⟩

def collectionSlice (t : Text) : Slice := (collectionSlice? t).getD ⟨[], t, []⟩

def analysed (input : Text) : Slice :=
  let outer := enclosedSlice input
  let inner := collectionSlice outer.text
  ⟨outer.before ++ inner.before, inner.text, inner.after ++ outer.after⟩

theorem interpolated_opening (input : Text) (interpolated : isInterpolated input = true) :
    ∃ inner, input = (Marker.ofText input).opening ++ inner := by
  by_cases doubled : startsWith Marker.doubled.opening input = true
  · obtain ⟨inner, eq⟩ := (starts_with_iff _ _).mp doubled
    exact ⟨inner, by simp [Marker.ofText, doubled, eq]⟩
  · obtain ⟨inner, eq⟩ := (starts_with_iff _ _).mp interpolated
    exact ⟨inner, by simp [Marker.ofText, doubled, eq]⟩

theorem drop_end_append (n : Nat) (left right : Text) (fits : n ≤ right.length) :
    dropEnd n (left ++ right) = left ++ dropEnd n right := by
  rw [dropEnd, dropEnd, List.length_append, Nat.add_sub_assoc fits, List.take_length_add_append]

theorem drop_end_rest (n : Nat) (t : Text) : dropEnd n t ++ t.drop (t.length - n) = t := List.take_append_drop _ t

theorem between_marks (marker : Marker) (inner : Text) :
    between (bytes marker.opening) (bytes (dropEnd marker.closing.length (marker.opening ++ inner)))
      (marker.opening ++ inner) = dropEnd marker.closing.length inner := by
  by_cases fits : marker.closing.length ≤ inner.length
  · have cut := between_bytes marker.opening (dropEnd marker.closing.length inner)
      (inner.drop (inner.length - marker.closing.length))
    rwa [← bytes_append, ← drop_end_append _ _ _ fits, drop_end_rest] at cut
  · -- Too short for a closing mark: the end to be cut off reaches into the opening mark.
    cases marker with
    | single =>
        cases inner with
        | nil => rfl
        | cons c rest => simp [Marker.closing] at fits
    | doubled =>
        cases inner with
        | nil => rfl
        | cons c rest =>
            cases rest with
            | nil => rfl
            | cons d rest => simp [Marker.closing] at fits

theorem enclosed_slice_eq (input inner : Text) (eq : input = (Marker.ofText input).opening ++ inner) :
    enclosedSlice input =
      ⟨(Marker.ofText input).opening, dropEnd (Marker.ofText input).closing.length inner,
        inner.drop (inner.length - (Marker.ofText input).closing.length)⟩ := by
  have marks := between_marks (Marker.ofText input) inner
  have dropped : input.drop (Marker.ofText input).opening.length = inner := by
    conv => lhs; arg 2; rw [eq]
    exact List.drop_left
  rw [← eq] at marks
  simp only [enclosedSlice, dropped]
  rw [enclosed, marks]

theorem enclosed_slice_whole (input : Text) (interpolated : isInterpolated input = true) :
    (enclosedSlice input).whole = input := by
  obtain ⟨inner, eq⟩ := interpolated_opening input interpolated
  rw [enclosed_slice_eq input inner eq, Slice.whole, drop_end_rest]
  exact eq.symm

theorem enclosed_slice_after (input : Text) (interpolated : isInterpolated input = true)
    (filled : enclosed input ≠ []) : (enclosedSlice input).after.length = (Marker.ofText input).closing.length := by
  obtain ⟨inner, eq⟩ := interpolated_opening input interpolated
  have slice := enclosed_slice_eq input inner eq
  have text : enclosed input = dropEnd (Marker.ofText input).closing.length inner := congrArg Slice.text slice
  have long : 0 < inner.length - (Marker.ofText input).closing.length := by
    rw [text, dropEnd] at filled
    have positive := List.length_pos_iff.mpr filled
    rw [List.length_take] at positive
    omega
  rw [slice, List.length_drop]
  omega

theorem cut_word_joins (word : Text) (passing : Nat) (before : Option Char) (t left right : Text)
    (found : cutWord? word passing before t = some (left, right)) : t = left ++ (word ++ right) := by
  induction t generalizing passing before left with
  | nil => simp [cutWord?] at found
  | cons c rest ih =>
      have skip (n : Nat) (later : (cutWord? word n (some c) rest).map (withFirst c) = some (left, right)) :
          c :: rest = left ++ (word ++ right) := by
        simp only [Option.map_eq_some_iff, withFirst, Prod.mk.injEq, Prod.exists] at later
        obtain ⟨l, r, inner, rfl, rfl⟩ := later
        rw [ih n (some c) l inner, List.cons_append]
      cases passing with
      | succ n => exact skip n (by simpa only [cutWord?] using found)
      | zero =>
          cases here : after? word (c :: rest) with
          | none => exact skip 0 (by simpa only [cutWord?, here] using found)
          | some tail =>
              by_cases bounded : (isBound before && isBound tail.head?) = true
              · simp only [cutWord?, here, bounded, if_true, Option.some.injEq, Prod.mk.injEq] at found
                obtain ⟨rfl, rfl⟩ := found
                simpa using (after_some_iff word _ tail).mp here
              · exact skip _ (by simpa only [cutWord?, here, if_neg bounded] using found)

theorem collection_slice_text (t : Text) : (collectionSlice t).text = collection t := by
  have narrowed : collection? t = (collectionSlice? t).map Slice.text := by
    simp only [collection?, collectionSlice?, Option.bind_eq_bind, Option.pure_def, Option.map_bind,
      Function.comp_def, Option.map_some]
  rw [collection, collectionSlice, narrowed]
  cases collectionSlice? t <;> rfl

theorem collection_slice_joins (t : Text) (slice : Slice) (found : collectionSlice? t = some slice) :
    slice.whole = t ∧ ':' ∈ slice.after := by
  simp only [collectionSlice?, Option.bind_eq_bind, Option.bind_eq_some_iff, Option.pure_def, Option.some.injEq,
    Prod.exists] at found
  obtain ⟨beforeFor, afterFor, forFound, beforeIn, afterIn, inFound, source, after, colonFound, rfl⟩ := found
  have forJoins := cut_word_joins _ _ _ _ _ _ forFound
  have inJoins := cut_word_joins _ _ _ _ _ _ inFound
  have colonJoins := cut_joins _ _ _ _ colonFound
  exact ⟨by simp [Slice.whole, forJoins, inJoins, colonJoins], by simp⟩

theorem collection_slice_whole (t : Text) : (collectionSlice t).whole = t := by
  cases found : collectionSlice? t with
  | none => simp [collectionSlice, found, Slice.whole]
  | some slice => simpa [collectionSlice, found] using (collection_slice_joins t slice found).1

theorem collection_colonless (t : Text) (colonless : ':' ∉ t) : collection t = t := by
  rw [← collection_slice_text]
  cases found : collectionSlice? t with
  | none => simp [collectionSlice, found]
  | some slice =>
      obtain ⟨joined, colon⟩ := collection_slice_joins t slice found
      exact absurd (by simp [← joined, Slice.whole, colon]) colonless

theorem analysed_text (input : Text) : (analysed input).text = collection (enclosed input) :=
  collection_slice_text (enclosed input)

theorem analysed_whole (input : Text) (interpolated : isInterpolated input = true) :
    (analysed input).whole = input := by
  have outer := enclosed_slice_whole input interpolated
  rw [Slice.whole, ← collection_slice_whole (enclosedSlice input).text] at outer
  simpa [Slice.whole, analysed] using outer

def isMention (piece : Text) : Bool := isAddress piece && !piece.isEmpty

def mentionLayout (input : Text) : Layout :=
  let slice := analysed input
  (((pieceLayout slice.text).keep isMention).append (.final slice.after)).behind slice.before

def mentionSites (input : Text) : List Site := (mentionLayout input).sites 0

theorem mention_layout_whole (input : Text) (interpolated : isInterpolated input = true) :
    (mentionLayout input).whole = input := by
  have joined := analysed_whole input interpolated
  simpa [mentionLayout, piece_layout_whole, Layout.whole, Slice.whole] using joined

theorem mention_layout_spots (input : Text) : (mentionLayout input).spots = mentions input := by
  simp only [mentionLayout, Layout.spots_behind, Layout.spots_append, Layout.spots_keep, piece_layout_spots,
    analysed_text, Layout.spots, List.append_nil, mentions, addresses, atoms, List.filter_filter]
  rfl

theorem mention_facts (input address : Text) (member : address ∈ mentions input) :
    address ≠ [] ∧ isAddress address = true ∧ ∀ c ∈ address, isDelimiter c = false := by
  simp only [mentions, addresses, atoms, List.mem_filter] at member
  obtain ⟨⟨piece, filled⟩, address⟩ := member
  exact ⟨by simpa using filled, address, piece_plain _ _ piece⟩

theorem mention_layout_ending (input : Text) (interpolated : isInterpolated input = true)
    (mentioned : mentions input ≠ []) :
    (Marker.ofText input).closing.length ≤ (mentionLayout input).ending.length := by
  have filled : enclosed input ≠ [] := by
    intro empty
    rw [mentions, empty, collection_colonless [] (by simp)] at mentioned
    exact mentioned rfl
  have outside := enclosed_slice_after input interpolated filled
  refine Nat.le_trans ?_ (Layout.ending_behind _ _)
  rw [Layout.ending_append_final, List.length_append, analysed, List.length_append, outside]
  omega

end Interpolation

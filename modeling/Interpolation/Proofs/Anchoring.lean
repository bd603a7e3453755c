import Interpolation.Proofs.Scanning

set_option autoImplicit false

namespace Interpolation

open Text

def Reference.site (reference : Reference) : Site := ⟨reference.start, reference.target.full⟩

structure Search where
  origin : Nat
  address : Text
deriving DecidableEq, Repr

namespace Search

def site (input : Text) (search : Search) : Site := ⟨anchor input search.address search.origin, search.address⟩

def Reaches (input : Text) (search : Search) (site : Site) : Prop :=
  site.word = search.address ∧ ∃ distance, offset? search.address (onward search.origin input) = some distance ∧
    search.origin + distance ≤ site.position

end Search

-- The searches made while addresses are resolved, up to the first one the catalog does not know.
def Catalog.searches (catalog : Catalog) (input : Text) : Nat → List Text → List Search
  | _, [] => []
  | previous, address :: rest =>
      match catalog.find? (segments address) with
      | none => []
      | some id =>
          ⟨previous, address⟩ ::
            catalog.searches input (Reference.anchored (anchor input address previous) id address).stop rest

theorem anchor_forward (input address : Text) (previous distance : Nat)
    (found : offset? address (onward previous input) = some distance) :
    anchor input address previous = previous + distance := by
  simp [anchor, found]

-- A search ends at the site of its address or before it, so no later site lies in front of where the next one begins.
theorem search_step (input done before address after : Text) (filled : address ≠ [])
    (split : input = done ++ (before ++ (address ++ after))) :
    ∃ gap passed, input = done ++ (gap ++ (address ++ (passed ++ after))) ∧ bytes gap ≤ bytes before ∧
      offset? address (onward (bytes done) input) = some (bytes gap) := by
  obtain ⟨gap, early, passed, found, rfl, marks⟩ := cut_before address before after filled
  refine ⟨gap, passed, ?_, by simp [bytes_append], by rw [split, onward_bytes, offset?, found]; rfl⟩
  rw [split, List.append_assoc, ← List.append_assoc early, marks, List.append_assoc]

theorem searches_known (catalog : Catalog) (input done gap address id : Text) (rest : List Text)
    (known : catalog.find? (segments address) = some id)
    (found : offset? address (onward (bytes done) input) = some (bytes gap)) :
    catalog.searches input (bytes done) (address :: rest) =
      ⟨bytes done, address⟩ :: catalog.searches input (bytes (done ++ (gap ++ address))) rest := by
  simp [Catalog.searches, known, Reference.anchored, anchor_forward input address _ _ found, bytes_append,
    Nat.add_assoc]

theorem searches_laid (catalog : Catalog) (input : Text) (layout : Layout) (done passed : Text)
    (split : input = done ++ (passed ++ layout.whole)) (filled : ∀ word ∈ layout.spots, word ≠ []) :
    ∃ found : Layout, input = done ++ found.whole ∧
      found.sites (bytes done) = (catalog.searches input (bytes done) layout.spots).map (Search.site input) ∧
      layout.ending.length ≤ found.ending.length := by
  induction layout generalizing done passed with
  | final gap => exact ⟨.final (passed ++ gap), split, rfl, by simp [Layout.ending]⟩
  | spot before address rest ih =>
      obtain ⟨here, others⟩ := List.forall_mem_cons.mp filled
      cases known : catalog.find? (segments address) with
      | none =>
          obtain ⟨front, whole⟩ := Layout.ending_whole rest
          refine ⟨.final (passed ++ (Layout.spot before address rest).whole), split,
            by simp [Layout.spots, Catalog.searches, known, Layout.sites], ?_⟩
          simp only [Layout.ending, Layout.whole, whole, List.length_append]
          omega
      | some id =>
          obtain ⟨gap, skipped, cut, _, found⟩ := search_step input done (passed ++ before) address rest.whole
            here (by simpa [Layout.whole] using split)
          obtain ⟨later, whole, sites, ending⟩ := ih (done ++ (gap ++ address)) skipped (by simpa using cut) others
          refine ⟨.spot gap address later, by simpa [Layout.whole] using whole, ?_, ending⟩
          rw [Layout.spots, searches_known catalog input done gap address id _ known found, List.map_cons, ← sites]
          simp [Layout.sites, Search.site, anchor_forward input address _ _ found, bytes_append, Nat.add_assoc]

theorem searches_reach (catalog : Catalog) (input : Text) (layout : Layout) (done passed : Text)
    (split : input = done ++ (passed ++ layout.whole)) (filled : ∀ word ∈ layout.spots, word ≠ [])
    (k : Nat) (search : Search) (made : (catalog.searches input (bytes done) layout.spots)[k]? = some search) :
    ∃ site, (layout.sites (bytes done + bytes passed))[k]? = some site ∧ search.Reaches input site := by
  induction layout generalizing done passed k with
  | final gap => simp [Layout.spots, Catalog.searches] at made
  | spot before address rest ih =>
      obtain ⟨here, others⟩ := List.forall_mem_cons.mp filled
      cases known : catalog.find? (segments address) with
      | none => simp [Layout.spots, Catalog.searches, known] at made
      | some id =>
          obtain ⟨gap, skipped, cut, near, found⟩ := search_step input done (passed ++ before) address rest.whole
            here (by simpa [Layout.whole] using split)
          rw [Layout.spots, searches_known catalog input done gap address id _ known found] at made
          rw [bytes_append] at near
          cases k with
          | zero =>
              obtain rfl : ⟨bytes done, address⟩ = search := by simpa using made
              exact ⟨_, rfl, rfl, bytes gap, found, by simp only; omega⟩
          | succ k =>
              have size : bytes (done ++ (gap ++ address)) + bytes skipped =
                  bytes done + bytes passed + bytes before + bytes address := by
                have total := congrArg bytes (cut.symm.trans split)
                simp only [Layout.whole, bytes_append] at total ⊢
                omega
              have later := ih (done ++ (gap ++ address)) skipped (by simpa using cut) others k made
              rwa [size] at later

-- References laid over a text: each one is a spot of the layout, and stops where that spot ends.
def Layout.Lays (layout : Layout) (reached : Nat) (references : List Reference) : Prop :=
  references.map Reference.site = layout.sites reached ∧
    ∀ reference ∈ references, reference.stop = reference.start + bytes reference.target.full

theorem lays_spots (layout : Layout) (reached : Nat) (references : List Reference)
    (lays : layout.Lays reached references) : references.map (·.target.full) = layout.spots := by
  rw [← Layout.sites_words reached layout, ← lays.1, List.map_map]
  rfl

theorem lays_spans (layout : Layout) (reached : Nat) (references : List Reference)
    (lays : layout.Lays reached references) (reference : Reference) (member : reference ∈ references) :
    ∃ left right, layout.whole = left ++ (reference.target.full ++ right) ∧
      reference.start = reached + bytes left ∧ reference.stop = reached + bytes left + bytes reference.target.full := by
  have sited : reference.site ∈ layout.sites reached := lays.1 ▸ List.mem_map_of_mem member
  obtain ⟨left, right, whole, start⟩ := Layout.site_stands layout reached _ sited
  refine ⟨left, right, whole, start, ?_⟩
  rw [lays.2 reference member, ← start]
  rfl

theorem lays_ordered (layout : Layout) (reached : Nat) (references : List Reference)
    (lays : layout.Lays reached references) : references.Pairwise fun a b => a.stop ≤ b.start := by
  have ordered := Layout.sites_ordered layout reached
  rw [← lays.1, List.pairwise_map] at ordered
  refine ordered.imp_of_mem ?_
  intro a b first _ apart
  rw [lays.2 a first]
  exact apart

theorem resolve_cons (catalog : Catalog) (input address : Text) (previous : Nat) (rest : List Text)
    (references : List Reference) (resolved : catalog.resolve? input previous (address :: rest) = some references) :
    ∃ id later, catalog.find? (segments address) = some id ∧
      catalog.resolve? input (Reference.anchored (anchor input address previous) id address).stop rest = some later ∧
      references = Reference.anchored (anchor input address previous) id address :: later := by
  simp only [Catalog.resolve?, Option.bind_eq_bind, Option.bind_eq_some_iff, Option.pure_def,
    Option.some.injEq] at resolved
  obtain ⟨id, known, later, others, rfl⟩ := resolved
  exact ⟨id, later, known, others, rfl⟩

theorem resolve_searches (catalog : Catalog) (input : Text) (previous : Nat) (addresses : List Text)
    (references : List Reference) (resolved : catalog.resolve? input previous addresses = some references) :
    references.map Reference.site = (catalog.searches input previous addresses).map (Search.site input) ∧
      references.map (·.target.full) = addresses ∧
      ∀ reference ∈ references, reference.stop = reference.start + bytes reference.target.full := by
  induction addresses generalizing previous references with
  | nil =>
      obtain rfl : [] = references := by simpa [Catalog.resolve?] using resolved
      simp [Catalog.searches]
  | cons address rest ih =>
      obtain ⟨id, later, known, others, rfl⟩ := resolve_cons catalog input address previous rest references resolved
      obtain ⟨sites, words, stops⟩ := ih _ later others
      refine ⟨by simp only [Catalog.searches, known, List.map_cons, ← sites]; rfl,
        by simp only [List.map_cons, words]; rfl, ?_⟩
      intro reference member
      rcases List.mem_cons.mp member with rfl | further
      · rfl
      · exact stops reference further

theorem resolve_origins (catalog : Catalog) (input : Text) (previous : Nat) (addresses : List Text)
    (references : List Reference) (resolved : catalog.resolve? input previous addresses = some references) :
    catalog.searches input previous addresses =
      List.zipWith Search.mk (previous :: references.map Reference.stop) addresses := by
  induction addresses generalizing previous references with
  | nil => simp [Catalog.searches]
  | cons address rest ih =>
      obtain ⟨id, later, known, others, rfl⟩ := resolve_cons catalog input address previous rest references resolved
      simp [Catalog.searches, known, ih _ later others]

theorem resolve_marked (catalog : Catalog) (input : Text) (layout : Layout) (done : Text) (c : Char)
    (split : input = done ++ layout.whole) (avoids : layout.Avoids c)
    (marked : ∀ word ∈ layout.spots, c ∈ word ∧ (catalog.find? (segments word)).isSome = true) :
    ∃ references, catalog.resolve? input (bytes done) layout.spots = some references ∧
      layout.Lays (bytes done) references := by
  induction layout generalizing done with
  | final gap => exact ⟨[], rfl, rfl, by simp⟩
  | spot gap address rest ih =>
      obtain ⟨⟨present, known⟩, others⟩ := List.forall_mem_cons.mp marked
      obtain ⟨id, entry⟩ := Option.isSome_iff_exists.mp known
      have cut := cut_unshared address gap rest.whole c avoids.1 present
      have found : offset? address (onward (bytes done) input) = some (bytes gap) := by
        rw [split, Layout.whole, onward_bytes, offset?, cut]
        rfl
      have start := anchor_forward input address _ _ found
      have stop : (Reference.anchored (anchor input address (bytes done)) id address).stop =
          bytes (done ++ (gap ++ address)) := by
        simp [Reference.anchored, start, bytes_append, Nat.add_assoc]
      obtain ⟨references, resolved, sites, stops⟩ := ih (done ++ (gap ++ address)) (by simp [split, Layout.whole])
        avoids.2 others
      rw [← stop] at resolved
      refine ⟨Reference.anchored (anchor input address (bytes done)) id address :: references, ?_, ?_, ?_⟩
      · simp only [Layout.spots, Catalog.resolve?, entry, Option.bind_eq_bind, Option.bind_some, resolved,
          Option.pure_def]
      · simp only [List.map_cons, sites, Layout.sites, bytes_append, Nat.add_assoc]
        simp [Reference.site, Reference.anchored, start]
      · intro reference member
        rcases List.mem_cons.mp member with rfl | later
        · rfl
        · exact stops reference later

theorem references_resolved (catalog : Catalog) (input : Text) (references : List Reference)
    (found : catalog.references input = .ok references) :
    (isInterpolated input = false ∧ references = []) ∨
      (isInterpolated input = true ∧ catalog.resolve? input 0 (mentions input) = some references) := by
  simp only [Catalog.references] at found
  by_cases splatted : contains splat input = true
  · simp [splatted] at found
  · by_cases interpolated : isInterpolated input = true
    · right
      cases resolved : catalog.resolve? input 0 (mentions input) with
      | none => simp [splatted, interpolated, resolved] at found
      | some some => simp_all
    · left
      simp_all

theorem reference_mentioned (catalog : Catalog) (input : Text) (references : List Reference)
    (found : catalog.references input = .ok references) (reference : Reference) (member : reference ∈ references) :
    reference.target.full ∈ mentions input := by
  rcases references_resolved catalog input references found with ⟨_, rfl⟩ | ⟨_, resolved⟩
  · cases member
  · rw [← (resolve_searches catalog input 0 (mentions input) references resolved).2.1]
    exact List.mem_map_of_mem member

theorem mention_spots_filled (input : Text) : ∀ word ∈ (mentionLayout input).spots, word ≠ [] := by
  rw [mention_layout_spots]
  exact fun word member => (mention_facts input word member).1

theorem mention_layout_split (input : Text) (interpolated : isInterpolated input = true) :
    input = [] ++ ([] ++ (mentionLayout input).whole) := by
  rw [List.nil_append, List.nil_append, mention_layout_whole input interpolated]

theorem mention_searches_reach (catalog : Catalog) (input : Text) (interpolated : isInterpolated input = true)
    (k : Nat) (search : Search) (made : (catalog.searches input 0 (mentions input))[k]? = some search) :
    ∃ site, (mentionSites input)[k]? = some site ∧ search.Reaches input site := by
  have reach := searches_reach catalog input _ [] [] (mention_layout_split input interpolated)
    (mention_spots_filled input) k search
  rw [mention_layout_spots] at reach
  exact reach made

theorem references_laid (catalog : Catalog) (input : Text) (references : List Reference)
    (found : catalog.references input = .ok references) (filled : references ≠ []) :
    ∃ layout : Layout, layout.whole = input ∧ layout.Lays 0 references ∧ layout.spots = mentions input ∧
      (Marker.ofText input).closing.length ≤ layout.ending.length := by
  rcases references_resolved catalog input references found with ⟨_, empty⟩ | ⟨interpolated, resolved⟩
  · exact absurd empty filled
  · obtain ⟨sites, words, stops⟩ := resolve_searches catalog input 0 (mentions input) references resolved
    have mentioned : mentions input ≠ [] := by
      rw [← words]
      simpa using filled
    obtain ⟨layout, whole, laid, ending⟩ := searches_laid catalog input _ [] []
      (mention_layout_split input interpolated) (mention_spots_filled input)
    rw [mention_layout_spots] at laid
    have lays : layout.Lays 0 references := ⟨sites.trans laid.symm, stops⟩
    exact ⟨layout, whole.symm, lays, (lays_spots layout 0 references lays).symm.trans words,
      Nat.le_trans (mention_layout_ending input interpolated mentioned) ending⟩

theorem span_between (input left word right : Text) (filled : word ≠ []) (whole : input = left ++ (word ++ right)) :
    bytes left < bytes left + bytes word ∧ bytes left + bytes word ≤ bytes input ∧ IsBoundary (bytes left) input ∧
      IsBoundary (bytes left + bytes word) input ∧ between (bytes left) (bytes left + bytes word) input = word := by
  have positive : bytes word ≠ 0 := fun zero => filled ((bytes_zero_iff word).mp zero)
  have total : bytes input = bytes left + (bytes word + bytes right) := by rw [whole, bytes_append, bytes_append]
  exact ⟨by omega, by omega, ⟨left, word ++ right, whole, rfl⟩,
    ⟨left ++ word, right, by simp [whole], bytes_append left word⟩, whole ▸ between_bytes left word right⟩

/-- Every reference spans the text it names, between two places where characters begin, and no two overlap. The
searches succeed on every input, also where a later address is unknown: each one finds its address where that was cut
out, or before. -/
theorem reference_spans (catalog : Catalog) (input : Text) :
    (∀ references, catalog.references input = .ok references →
      (∀ reference ∈ references, reference.start < reference.stop ∧ reference.stop ≤ bytes input ∧
        IsBoundary reference.start input ∧ IsBoundary reference.stop input ∧
        between reference.start reference.stop input = reference.target.full) ∧
      (references.Pairwise fun a b => a.stop ≤ b.start) ∧
      (isInterpolated input = true → catalog.searches input 0 (mentions input) =
        List.zipWith Search.mk (0 :: references.map Reference.stop) (references.map (·.target.full)))) ∧
    (isInterpolated input = true → ∀ (k : Nat) (search : Search),
      (catalog.searches input 0 (mentions input))[k]? = some search →
        ∃ site, (mentionSites input)[k]? = some site ∧ search.Reaches input site) := by
  refine ⟨?_, mention_searches_reach catalog input⟩
  intro references found
  refine ⟨?_, ?_, ?_⟩
  · intro reference member
    obtain ⟨layout, whole, lays, spots, _⟩ :=
      references_laid catalog input references found (List.ne_nil_of_mem member)
    obtain ⟨left, right, split, start, stop⟩ := lays_spans layout 0 references lays reference member
    have filled : reference.target.full ≠ [] := by
      apply (mention_facts input _ _).1
      rw [← spots, ← lays_spots layout 0 references lays]
      exact List.mem_map_of_mem member
    rw [Nat.zero_add] at start stop
    rw [start, stop]
    exact span_between input left _ right filled (whole.symm.trans split)
  · by_cases empty : references = []
    · simp [empty]
    · obtain ⟨layout, _, lays, _⟩ := references_laid catalog input references found empty
      exact lays_ordered layout 0 references lays
  · intro interpolated
    rcases references_resolved catalog input references found with ⟨plain, _⟩ | ⟨_, resolved⟩
    · simp [interpolated] at plain
    · rw [(resolve_searches catalog input 0 _ references resolved).2.1]
      exact resolve_origins catalog input 0 _ references resolved

theorem reference_spans_repeated :
    let catalog : Catalog := ⟨["var.a".toList]⟩
    let input : Text := "${é(var.a)}-${var.a}".toList
    let first := Reference.anchored 5 "var.a".toList "var.a".toList
    let second := Reference.anchored 15 "var.a".toList "var.a".toList
    catalog.references input = .ok [first, second] ∧ first.stop ≤ second.start ∧
      between second.start second.stop input = "var.a".toList := by
  intro catalog input first second
  have found : catalog.references input = .ok [first, second] := rfl
  obtain ⟨spans, ordered, _⟩ := (reference_spans catalog input).1 _ found
  exact ⟨found, (List.pairwise_cons.mp ordered).1 second (by simp), (spans second (by simp)).2.2.2.2⟩

end Interpolation

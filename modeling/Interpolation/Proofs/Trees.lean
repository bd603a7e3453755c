import Interpolation.Files.Tree
import Interpolation.Proofs.Paths

set_option autoImplicit false

namespace Interpolation

open Text

namespace FileTree

-- Directories were added on the way to a place, that place included, and nothing else has changed.
structure Grown (before after : FileTree) (place : Location) : Prop where
  kept : ∀ location node, before.node? location = some node → after.node? location = some node
  added : ∀ location, before.node? location = none →
    after.node? location = none ∨ after.node? location = some .directory ∧ location <+: place

theorem grown_refl (tree : FileTree) (place : Location) : tree.Grown tree place :=
  ⟨fun _ _ there => there, fun _ absent => .inl absent⟩

theorem grown_trans (first second third : FileTree) (place : Location) (early : first.Grown second place)
    (late : second.Grown third place) : first.Grown third place := by
  refine ⟨fun location node there => late.kept location node (early.kept location node there), ?_⟩
  intro location absent
  rcases early.added location absent with still | ⟨made, above⟩
  · exact late.added location still
  · exact .inr ⟨late.kept location _ made, above⟩

theorem grown_put (tree : FileTree) (location place : Location) (absent : tree.node? location = none)
    (above : location <+: place) : tree.Grown (tree.put location .directory) place := by
  have below : location ≠ [] := by
    rintro rfl
    simp [node?] at absent
  constructor
  · intro other node there
    have different : other ≠ location := by
      rintro rfl
      simp [absent] at there
    rwa [node_put_other location other _ tree different]
  · intro other missing
    by_cases same : other = location
    · subst same
      exact .inr ⟨node_put_same other _ tree below, above⟩
    · exact .inl (by rwa [node_put_other location other _ tree same])

theorem is_directory_iff (tree : FileTree) (location : Location) :
    tree.isDirectory location = true ↔ tree.node? location = some .directory := by
  rw [isDirectory, beq_iff_eq]

theorem root_directory (tree : FileTree) : tree.isDirectory [] = true := by
  rw [is_directory_iff]
  rfl

theorem grown_directory (before after : FileTree) (place location : Location) (grown : before.Grown after place)
    (directory : before.isDirectory location = true) : after.isDirectory location = true :=
  (is_directory_iff after location).mpr (grown.kept location _ ((is_directory_iff before location).mp directory))

theorem grown_cases (before after : FileTree) (place location : Location) (grown : before.Grown after place) :
    after.node? location = before.node? location ∨
      before.node? location = none ∧ after.node? location = some .directory ∧ location <+: place := by
  cases there : before.node? location with
  | some node => exact .inl (grown.kept location node there)
  | none =>
      rcases grown.added location there with still | made
      · exact .inl still
      · exact .inr ⟨rfl, made⟩

theorem grown_beyond (before after : FileTree) (place location : Location) (grown : before.Grown after place)
    (beyond : ¬ location <+: place) : after.node? location = before.node? location := by
  rcases grown_cases before after place location grown with same | ⟨_, _, above⟩
  · exact same
  · exact absurd above beyond

structure Open (tree : FileTree) (place : Location) : Prop where
  directories : ∀ above, above <+: place → tree.isDirectory above = true
  names : ∀ name ∈ place, isName name = true

theorem step_leads (location : Location) (piece : Text) (descends : piece ≠ ['.', '.']) :
    step location piece = location ++ [piece].filter Path.leads := by
  by_cases nowhere : (piece = [] || piece = ['.']) = true
  · rw [step, if_pos nowhere]
    simp [Path.leads, nowhere]
  · rw [step, if_neg nowhere, if_neg descends]
    simp [Path.leads, nowhere]

theorem step_onward (location : Location) (piece : Text) (rest : List Text) (descends : piece ≠ ['.', '.']) :
    step location piece ++ rest.filter Path.leads = location ++ (piece :: rest).filter Path.leads := by
  rw [step_leads location piece descends, List.append_assoc, ← List.filter_append]
  rfl

theorem step_normal (location : Location) (name : Text) (normal : Path.Normal name) :
    step location name = location ++ [name] := by
  rw [step_leads location name normal.above, Path.normal_leads [name] (by simpa using normal)]

theorem follow_open (tree : FileTree) (place : Location) (names rest : List Text) (clear : tree.Open (place ++ names))
    (normal : ∀ name ∈ names, Path.Normal name) :
    tree.follow? place (names ++ rest) = tree.follow? (place ++ names) rest := by
  induction names generalizing place with
  | nil => rw [List.append_nil, List.nil_append]
  | cons name more ih =>
      obtain ⟨here, others⟩ := List.forall_mem_cons.mp normal
      have directory := clear.directories place (List.prefix_append place _)
      have short := clear.names name (by simp)
      have deeper : place ++ name :: more = (place ++ [name]) ++ more := by simp
      rw [deeper] at clear ⊢
      rw [List.cons_append, follow?, directory, short, step_normal place name here]
      exact ih (place ++ [name]) clear others

theorem locate_open (tree : FileTree) (place : Location) (name : Text) (clear : tree.Open place)
    (normal : ∀ piece ∈ place, Path.Normal piece) (whole : '/' ∉ name) :
    tree.locate? (Path.ofNames (place ++ [name])) =
      if isPath (Path.ofNames (place ++ [name])) && isName name then some (step place name) else none := by
  have pieces : split '/' (Path.ofNames (place ++ [name])) = place ++ [name] := by
    apply split_join '/' _ (by simp)
    intro piece member
    rcases List.mem_append.mp member with above | here
    · exact (normal piece above).whole
    · rwa [List.mem_singleton.mp here]
  have walked := follow_open tree [] place [name] clear normal
  rw [List.nil_append] at walked
  rw [locate?, pieces, walked, follow?, clear.directories place List.prefix_rfl]
  by_cases valid : isPath (Path.ofNames (place ++ [name])) = true <;> simp [valid, follow?]

theorem follow_names (tree : FileTree) (location place : Location) (pieces : List Text)
    (descends : ['.', '.'] ∉ pieces) (followed : tree.follow? location pieces = some place) :
    place = location ++ pieces.filter Path.leads := by
  induction pieces generalizing location with
  | nil => simpa [follow?] using followed.symm
  | cons piece rest ih =>
      obtain ⟨here, others⟩ := not_or.mp (mt List.mem_cons.mpr descends)
      rw [follow?] at followed
      split at followed
      · exact (ih (step location piece) others followed).trans (step_onward location piece rest (Ne.symm here))
      · cases followed

theorem locate_names (tree : FileTree) (path : Path) (place : Location) (descends : ['.', '.'] ∉ split '/' path)
    (located : tree.locate? path = some place) : place = Path.names path := by
  rw [locate?] at located
  split at located
  · exact follow_names tree [] place _ descends located
  · cases located

theorem open_put (tree : FileTree) (place : Location) (name : Text) (node : Node) (clear : tree.Open place) :
    (tree.put (place ++ [name]) node).Open place := by
  refine ⟨?_, clear.names⟩
  intro above higher
  have different : above ≠ place ++ [name] := by
    rintro rfl
    have size := higher.length_le
    simp only [List.length_append, List.length_singleton] at size
    omega
  rw [isDirectory, node_put_other _ above node tree different]
  exact clear.directories above higher

theorem make_cases (tree : FileTree) (place : Location) (piece : Text) (rest : List Text) :
    tree.makeFrom place (piece :: rest) = (false, tree) ∨
      ∃ next, isName piece = true ∧ (∀ deep, step place piece <+: deep → tree.Grown next deep) ∧
        next.node? (step place piece) = some .directory ∧
        tree.makeFrom place (piece :: rest) = next.makeFrom (step place piece) rest := by
  rw [makeFrom]
  by_cases short : isName piece = true
  · rw [if_pos short]
    cases there : tree.node? (step place piece) with
    | none =>
        have below : step place piece ≠ [] := by
          intro root
          simp [root, node?] at there
        have growth (deep : Location) (above : step place piece <+: deep) := grown_put tree _ deep there above
        exact .inr ⟨_, short, growth, node_put_same _ _ tree below, by simp only [there]⟩
    | some node =>
        cases node with
        | directory => exact .inr ⟨tree, short, fun deep _ => grown_refl tree deep, there, by simp only [there]⟩
        | file content => exact .inl (by simp only [there])
  · exact .inl (if_neg short)

theorem make_onward (tree : FileTree) (place : Location) (piece : Text) (rest : List Text)
    (short : isName piece = true) (there : tree.node? (step place piece) = some .directory) :
    tree.makeFrom place (piece :: rest) = tree.makeFrom (step place piece) rest := by
  rw [makeFrom, if_pos short]
  simp only [there]

theorem make_grown (tree : FileTree) (place : Location) (pieces : List Text) (descends : ['.', '.'] ∉ pieces) :
    tree.Grown (tree.makeFrom place pieces).2 (place ++ pieces.filter Path.leads) := by
  induction pieces generalizing tree place with
  | nil => exact grown_refl tree _
  | cons piece rest ih =>
      obtain ⟨here, others⟩ := not_or.mp (mt List.mem_cons.mpr descends)
      rw [← step_onward place piece rest (Ne.symm here)]
      rcases make_cases tree place piece rest with stopped | ⟨next, _, growth, _, goes⟩
      · rw [stopped]
        exact grown_refl tree _
      · rw [goes]
        exact grown_trans _ _ _ _ (growth _ (List.prefix_append _ _)) (ih next (step place piece) others)

theorem open_step (tree next : FileTree) (place : Location) (name : Text) (clear : tree.Open place)
    (short : isName name = true) (grown : tree.Grown next (place ++ [name]))
    (directory : next.isDirectory (place ++ [name]) = true) : next.Open (place ++ [name]) := by
  refine ⟨?_, ?_⟩
  · intro above higher
    rcases List.prefix_concat_iff.mp higher with rfl | above
    · exact directory
    · exact grown_directory _ _ _ _ grown (clear.directories _ above)
  · intro other member
    rcases List.mem_append.mp member with above | last
    · exact clear.names other above
    · rwa [List.mem_singleton.mp last]

theorem make_open (tree : FileTree) (place : Location) (names : List Text)
    (normal : ∀ name ∈ names, Path.Normal name) (clear : tree.Open place)
    (made : (tree.makeFrom place names).1 = true) : (tree.makeFrom place names).2.Open (place ++ names) := by
  induction names generalizing tree place with
  | nil => rwa [List.append_nil]
  | cons name rest ih =>
      obtain ⟨here, others⟩ := List.forall_mem_cons.mp normal
      have deeper : place ++ name :: rest = (place ++ [name]) ++ rest := by simp
      rw [deeper]
      rcases make_cases tree place name rest with stopped | ⟨next, short, growth, there, goes⟩
      · simp [stopped] at made
      · rw [step_normal place name here] at growth there goes
        rw [goes] at made ⊢
        have directory := (is_directory_iff next _).mpr there
        exact ih _ _ others (open_step tree next place name clear short (growth _ List.prefix_rfl) directory) made

theorem make_again (tree grown other : FileTree) (place : Location) (pieces : List Text)
    (descends : ['.', '.'] ∉ pieces) (made : tree.makeFrom place pieces = (true, grown))
    (kept : ∀ location, grown.isDirectory location = true → other.isDirectory location = true) :
    other.makeFrom place pieces = (true, other) := by
  induction pieces generalizing tree place with
  | nil => rfl
  | cons piece rest ih =>
      obtain ⟨_, others⟩ := not_or.mp (mt List.mem_cons.mpr descends)
      rcases make_cases tree place piece rest with stopped | ⟨next, short, _, there, goes⟩
      · rw [stopped] at made
        cases made
      · rw [goes] at made
        -- Where the first run went on, it left a directory.
        have stands := (make_grown next (step place piece) rest others).kept _ _ there
        rw [made] at stands
        have still := (is_directory_iff other _).mp (kept _ ((is_directory_iff grown _).mpr stands))
        rw [make_onward other place piece rest short still]
        exact ih next (step place piece) others made

theorem follow_same (tree other : FileTree) (same : ∀ location, tree.isDirectory location = other.isDirectory location)
    (location : Location) (pieces : List Text) : tree.follow? location pieces = other.follow? location pieces := by
  induction pieces generalizing location with
  | nil => rfl
  | cons piece rest ih => rw [follow?, follow?, same, ih]

theorem locate_same (tree other : FileTree) (same : ∀ location, tree.isDirectory location = other.isDirectory location)
    (path : Path) : tree.locate? path = other.locate? path := by
  rw [locate?, locate?, follow_same tree other same]

theorem below_root (tree : FileTree) (location : Location) (vacant : tree.isDirectory location = false) :
    location ≠ [] := by
  rintro rfl
  rw [root_directory] at vacant
  cases vacant

theorem node_erase_same (tree : FileTree) (location : Location) (below : location ≠ []) :
    (tree.erase location).node? location = none := by
  rw [node?, if_neg below, List.lookup_eq_none_iff]
  intro entry member
  rw [bne_comm]
  exact (List.mem_filter.mp member).2

theorem put_directories (tree : FileTree) (location : Location) (content : Content)
    (vacant : tree.isDirectory location = false) (other : Location) :
    (tree.put location (.file content)).isDirectory other = tree.isDirectory other := by
  by_cases here : other = location
  · rw [here, vacant, isDirectory, node_put_same _ _ tree (below_root tree location vacant)]
    rfl
  · rw [isDirectory, node_put_other _ _ _ tree here, isDirectory]

theorem erase_directories (tree : FileTree) (location : Location) (vacant : tree.isDirectory location = false)
    (other : Location) : (tree.erase location).isDirectory other = tree.isDirectory other := by
  by_cases here : other = location
  · rw [here, vacant, isDirectory, node_erase_same tree location (below_root tree location vacant)]
    rfl
  · rw [isDirectory, node_erase_other _ _ tree here, isDirectory]

structure Takes (tree : FileTree) (place : Location) (name : Text) : Prop where
  path : isPath (Path.ofNames (place ++ [name])) = true
  short : isName name = true
  vacant : tree.isDirectory (place ++ [name]) = false

theorem locate_takes (tree : FileTree) (place : Location) (name : Text) (clear : tree.Open place)
    (normal : ∀ piece ∈ place ++ [name], Path.Normal piece) (takes : tree.Takes place name) :
    tree.locate? (Path.ofNames (place ++ [name])) = some (place ++ [name]) := by
  have last := normal name (by simp)
  rw [locate_open tree place name clear (fun piece above => normal piece (by simp [above])) last.whole,
    takes.path, takes.short, step_normal place name last]
  rfl

theorem locate_refused (tree : FileTree) (place : Location) (name : Text) (clear : tree.Open place)
    (normal : ∀ piece ∈ place ++ [name], Path.Normal piece) (refused : ¬ tree.Takes place name) (location : Location)
    (located : tree.locate? (Path.ofNames (place ++ [name])) = some location) : tree.isDirectory location = true := by
  have last := normal name (by simp)
  rw [locate_open tree place name clear (fun piece above => normal piece (by simp [above])) last.whole,
    step_normal place name last] at located
  obtain ⟨valid, rfl⟩ := Option.ite_some_none_eq_some.mp located
  obtain ⟨path, short⟩ := (Bool.and_eq_true _ _).mp valid
  cases vacant : tree.isDirectory (place ++ [name]) with
  | true => rfl
  | false => exact absurd ⟨path, short, vacant⟩ refused

theorem write_takes (tree : FileTree) (place : Location) (name : Text) (content : Content) (clear : tree.Open place)
    (normal : ∀ piece ∈ place ++ [name], Path.Normal piece) (takes : tree.Takes place name) :
    tree.write (Path.ofNames (place ++ [name])) content = (true, tree.put (place ++ [name]) (.file content)) := by
  rw [write, locate_takes tree place name clear normal takes]
  simp [takes.vacant]

theorem write_refused (tree : FileTree) (place : Location) (name : Text) (content : Content) (clear : tree.Open place)
    (normal : ∀ piece ∈ place ++ [name], Path.Normal piece) (refused : ¬ tree.Takes place name) :
    tree.write (Path.ofNames (place ++ [name])) content = (false, tree) := by
  rw [write]
  cases located : tree.locate? (Path.ofNames (place ++ [name])) with
  | none => rfl
  | some location => simp [locate_refused tree place name clear normal refused location located]

theorem write_above (tree : FileTree) (place : Location) (content : Content) (clear : tree.Open place)
    (normal : ∀ piece ∈ place, Path.Normal piece) :
    tree.write (Path.ofNames (place ++ [['.', '.']])) content = (false, tree) := by
  have up : step place ['.', '.'] = place.dropLast := by simp [step]
  have directory := clear.directories place.dropLast (List.dropLast_prefix place)
  rw [write, locate_open tree place _ clear normal (by simp), up]
  by_cases valid : (isPath (Path.ofNames (place ++ [['.', '.']])) && isName ['.', '.']) = true
  · simp [valid, directory]
  · simp [valid]

theorem takes_put (tree : FileTree) (place : Location) (name other : Text) (content : Content)
    (vacant : tree.isDirectory (place ++ [name]) = false) :
    (tree.put (place ++ [name]) (.file content)).Takes place other ↔ tree.Takes place other := by
  have same := put_directories tree (place ++ [name]) content vacant (place ++ [other])
  exact ⟨fun takes => ⟨takes.path, takes.short, same ▸ takes.vacant⟩,
    fun takes => ⟨takes.path, takes.short, same.symm ▸ takes.vacant⟩⟩

theorem rename_takes (tree : FileTree) (place : Location) (name other : Text) (content : Content)
    (clear : tree.Open place) (normal : ∀ piece ∈ place ++ [name], Path.Normal piece)
    (takes : tree.Takes place name) (there : tree.node? (place ++ [name]) = some (.file content))
    (named : ∀ piece ∈ place ++ [other], Path.Normal piece) (room : tree.Takes place other) :
    tree.rename (Path.ofNames (place ++ [name])) (Path.ofNames (place ++ [other])) =
      (true, (tree.erase (place ++ [name])).put (place ++ [other]) (.file content)) := by
  rw [rename, locate_takes tree place name clear normal takes, locate_takes tree place other clear named room]
  simp [there, room.vacant]

theorem rename_refused (tree : FileTree) (place : Location) (name : Text) (source : Path) (clear : tree.Open place)
    (normal : ∀ piece ∈ place ++ [name], Path.Normal piece) (refused : ¬ tree.Takes place name) :
    tree.rename source (Path.ofNames (place ++ [name])) = (false, tree) := by
  have directory := locate_refused tree place name clear normal refused
  rw [rename]
  cases tree.locate? source with
  | none => rfl
  | some old =>
      cases located : tree.locate? (Path.ofNames (place ++ [name])) with
      | none => rfl
      | some new =>
          simp only [directory new located]
          split <;> rfl

theorem write_done (tree after : FileTree) (path : Path) (content : Content)
    (done : tree.write path content = (true, after)) :
    ∃ location, tree.locate? path = some location ∧ tree.isDirectory location = false ∧
      after = tree.put location (.file content) := by
  rw [write] at done
  cases located : tree.locate? path with
  | none => simp [located] at done
  | some location =>
      cases vacant : tree.isDirectory location with
      | true => simp [located, vacant] at done
      | false =>
          simp only [located, vacant] at done
          cases done
          exact ⟨location, rfl, vacant, rfl⟩

theorem rename_done (tree after : FileTree) (source target : Path) (done : tree.rename source target = (true, after)) :
    ∃ old new content, tree.locate? source = some old ∧ tree.locate? target = some new ∧
      tree.node? old = some (.file content) ∧ tree.isDirectory new = false ∧
      after = (tree.erase old).put new (.file content) := by
  rw [rename] at done
  cases origin : tree.locate? source with
  | none => simp [origin] at done
  | some old =>
      cases aim : tree.locate? target with
      | none => simp [origin, aim] at done
      | some new =>
          simp only [origin, aim] at done
          split at done
          case h_1 content there =>
            cases vacant : tree.isDirectory new with
            | true => simp [vacant] at done
            | false =>
                simp only [vacant] at done
                cases done
                exact ⟨old, new, content, rfl, rfl, there, vacant, rfl⟩
          all_goals cases done

end FileTree

end Interpolation

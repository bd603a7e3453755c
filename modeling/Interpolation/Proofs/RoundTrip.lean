import Interpolation.Codec.Entity
import Interpolation.Codec.Reference
import Interpolation.Settings
import Interpolation.Proofs.Nesting
import Interpolation.Proofs.Spelling

set_option autoImplicit false

namespace Interpolation

structure Codec (α : Type) where
  toJson : α → Json
  ofJson? : Json → Option α

namespace Codec

variable {α : Type}

def decode? (codec : Codec α) (t : Text) : Option α := (Json.read? t).bind codec.ofJson?

def encode (codec : Codec α) (style : Json → Text) (a : α) : Text := style (codec.toJson a)

def rewritten? (codec : Codec α) (style : Json → Text) (t : Text) : Option Text :=
  (codec.decode? t).map (codec.encode style)

def styles : List (Json → Text) := [Json.compact, Json.pretty]

-- A value that fits is read back from its text. Any other text of a value is read as what it is rewritten to, and that
-- is not changed when it is rewritten once more.
def RoundTrips (codec : Codec α) (Fits : α → Prop) : Prop :=
  ∀ style ∈ styles,
    (∀ a, Fits a → codec.decode? (codec.encode style a) = some a) ∧
      ∀ t u, codec.rewritten? style t = some u →
        codec.decode? u = codec.decode? t ∧ codec.rewritten? style u = some u

theorem style_read (style : Json → Text) (known : style ∈ styles) (json : Json) (formed : json.isSpelled = true) :
    Json.read? (style json) = some json := by
  simp only [styles, List.mem_cons, List.not_mem_nil, or_false] at known
  rcases known with rfl | rfl
  · exact Json.read_compact json formed
  · exact Json.read_pretty json formed

theorem round_trips (codec : Codec α) (Fits : α → Prop) (formed : ∀ a, (codec.toJson a).isSpelled = true)
    (back : ∀ a, Fits a → codec.ofJson? (codec.toJson a) = some a)
    (sound : ∀ json a, codec.ofJson? json = some a → Fits a) : codec.RoundTrips Fits := by
  intro style known
  have written (a : α) (fits : Fits a) : codec.decode? (codec.encode style a) = some a := by
    rw [decode?, encode, style_read style known _ (formed a), Option.bind_some, back a fits]
  refine ⟨written, ?_⟩
  intro t u again
  obtain ⟨a, decoded, rfl⟩ := Option.map_eq_some_iff.mp again
  obtain ⟨json, _, made⟩ := Option.bind_eq_some_iff.mp decoded
  have same := written a (sound json a made)
  exact ⟨same.trans decoded.symm, by rw [rewritten?, same, Option.map_some]⟩

end Codec

theorem Quasi.written_plain (quasis : List Quasi) : Json.arePlainItems (quasis.map Quasi.toJson) = true := by
  induction quasis with
  | nil => rfl
  | cons quasi rest ih => exact ih

theorem Quasi.read_written (quasis : List Quasi) : (quasis.map toJson).mapM ofJson? = some quasis := by
  induction quasis with
  | nil => rfl
  | cons quasi rest ih =>
      rw [List.map_cons, List.mapM_cons, ih]
      rfl

namespace Expression

mutual
theorem written_plain (expression : Expression) : expression.toJson.isPlain = true := by
  cases expression with
  | literal value => rfl
  | identifier name => rfl
  | member object property => simp [toJson, Json.isPlain, Json.arePlainMembers, written_plain object]
  | template quasis expressions =>
      simp [toJson, Json.isPlain, Json.arePlainMembers, Quasi.written_plain quasis, items_plain expressions]

theorem items_plain (expressions : List Expression) : Json.arePlainItems (itemsToJson expressions) = true := by
  cases expressions with
  | nil => rfl
  | cons expression rest => simp [itemsToJson, Json.arePlainItems, written_plain expression, items_plain rest]
end

mutual
theorem read_written (expression : Expression) (depth : Nat) (inner : Bool) (room : expression.toJson.height < depth) :
    read? depth inner expression.toJson = some expression := by
  cases depth with
  | zero => exact absurd room (Nat.not_lt_zero _)
  | succ depth =>
      cases expression with
      | literal value => rfl
      | identifier name => rfl
      | member object property =>
          have shallower : object.toJson.height < depth := by
            simpa [toJson, Json.height, Json.membersHeight] using room
          have read := read_written object depth true shallower
          have opened : read? (depth + 1) inner (toJson (.member object property)) =
              (do return .member (← read? depth true object.toJson) property) := rfl
          rw [opened, read]
          rfl
      | template quasis expressions =>
          have shallower : Json.itemsHeight (itemsToJson expressions) < depth := by
            simp only [toJson, Json.height, Json.membersHeight] at room
            omega
          have read := items_read_written expressions depth shallower
          have opened : read? (depth + 1) inner (toJson (.template quasis expressions)) =
              (do
                let pieces ← (quasis.map Quasi.toJson).mapM Quasi.ofJson?
                return .template pieces (← (itemsToJson expressions).mapM (read? depth true))) := rfl
          rw [opened, Quasi.read_written, read]
          rfl

theorem items_read_written (expressions : List Expression) (depth : Nat)
    (room : Json.itemsHeight (itemsToJson expressions) < depth) :
    (itemsToJson expressions).mapM (read? depth true) = some expressions := by
  cases expressions with
  | nil => rfl
  | cons expression rest =>
      rw [itemsToJson, Json.itemsHeight] at room
      have first := read_written expression depth true (by omega)
      have later := items_read_written rest depth (by omega)
      rw [itemsToJson, List.mapM_cons, first, later]
      rfl
end

theorem height_within (json : Json) (expression : Expression) (read : ofJson? json = some expression) :
    expression.toJson.height ≤ nestingLimit := by
  by_cases accepted : (json.isPlain && json.height ≤ nestingLimit) = true
  · rw [ofJson?, if_pos accepted] at read
    simp only [Bool.and_eq_true, decide_eq_true_eq] at accepted
    exact Nat.le_trans (read_deep _ false json expression read) accepted.2
  · rw [ofJson?, if_neg accepted] at read
    cases read

theorem read_back (expression : Expression) (shallow : expression.toJson.height ≤ nestingLimit) :
    ofJson? expression.toJson = some expression := by
  have accepted : (expression.toJson.isPlain && expression.toJson.height ≤ nestingLimit) = true := by
    simp [written_plain expression, shallow]
  rw [ofJson?, if_pos accepted, read_written expression _ false (Nat.lt_succ_self _)]

end Expression

theorem Reference.read_back (reference : Reference)
    (sized : reference.start < UInt64.size ∧ reference.stop < UInt64.size) :
    ofJson? reference.toJson = some reference := by
  have start : positionOfJson? (.number (.natural reference.start)) = some reference.start := if_pos sized.1
  have stop : positionOfJson? (.number (.natural reference.stop)) = some reference.stop := if_pos sized.2
  have opened : ofJson? reference.toJson = (do
      let start ← positionOfJson? (.number (.natural reference.start))
      let stop ← positionOfJson? (.number (.natural reference.stop))
      return ⟨start, stop, ← Target.ofJson? reference.target.toJson⟩) := rfl
  rw [opened, start, stop]
  rfl

theorem Reference.position_sized (json : Json) (n : Nat) (read : positionOfJson? json = some n) : n < UInt64.size := by
  cases json with
  | number number =>
      cases number with
      | natural value =>
          by_cases small : value < UInt64.size
          · rw [positionOfJson?, if_pos small] at read
            cases read
            exact small
          · rw [positionOfJson?, if_neg small] at read
            cases read
      | decimal => cases read
  | _ => cases read

theorem Reference.read_sized (json : Json) (reference : Reference) (read : ofJson? json = some reference) :
    reference.start < UInt64.size ∧ reference.stop < UInt64.size := by
  rw [ofJson?] at read
  split at read
  · obtain ⟨start, first, read⟩ := Option.bind_eq_some_iff.mp read
    obtain ⟨stop, second, read⟩ := Option.bind_eq_some_iff.mp read
    obtain ⟨target, _, read⟩ := Option.bind_eq_some_iff.mp read
    cases read
    exact ⟨position_sized _ start first, position_sized _ stop second⟩
  · cases read

theorem Settings.read_back (settings : Settings) : ofJson? settings.toJson = some settings := by
  have small : settings.version.toNat < UInt32.size := settings.version.toNat_lt
  have version : versionOfJson? (.number (.natural settings.version.toNat)) = some settings.version := by
    rw [versionOfJson?, if_pos small, UInt32.ofNat_toNat]
  have policy : Policy.ofJson? settings.policy.toJson = some settings.policy := by
    cases settings.policy <;> rfl
  have opened : ofJson? settings.toJson = (do
      let version ← versionOfJson? (.number (.natural settings.version.toNat))
      return { version, policy := ← Policy.ofJson? settings.policy.toJson }) := rfl
  rw [opened, version, policy]
  rfl

theorem Entity.written_spelled (entity : Entity) : entity.toJson.isSpelled = true := by
  cases entity with
  | data type name => cases name <;> rfl
  | _ => rfl

theorem Entity.read_back (entity : Entity) : ofJson? entity.toJson = some entity := by
  cases entity with
  | data type name => cases name <;> rfl
  | _ => rfl

def Expression.codec : Codec Expression := ⟨toJson, ofJson?⟩

def Expression.Form.codec : Codec Expression.Form := ⟨toJson, ofJson?⟩

def Quasi.codec : Codec Quasi := ⟨toJson, ofJson?⟩

def Reference.codec : Codec Reference := ⟨toJson, ofJson?⟩

def Target.codec : Codec Target := ⟨toJson, ofJson?⟩

def Entity.codec : Codec Entity := ⟨toJson, ofJson?⟩

def Kind.codec : Codec Kind := ⟨toJson, ofJson?⟩

def Policy.codec : Codec Policy := ⟨toJson, ofJson?⟩

def Settings.codec : Codec Settings := ⟨toJson, ofJson?⟩

theorem Codec.always_round_trips {α : Type} (codec : Codec α) (formed : ∀ a, (codec.toJson a).isSpelled = true)
    (back : ∀ a, codec.ofJson? (codec.toJson a) = some a) : codec.RoundTrips fun _ => True :=
  codec.round_trips _ formed (fun a _ => back a) fun _ _ _ => trivial

/-- Every value of every type is read back from its text in either style, as far as its text can be read at all: an
expression within the limit of nesting, and a reference whose positions have 64 bits. -/
theorem json_round_trips :
    Expression.codec.RoundTrips (fun expression => expression.toJson.height ≤ Expression.nestingLimit) ∧
      Expression.Form.codec.RoundTrips (fun _ => True) ∧
      Quasi.codec.RoundTrips (fun _ => True) ∧
      Reference.codec.RoundTrips
        (fun reference => reference.start < UInt64.size ∧ reference.stop < UInt64.size) ∧
      Target.codec.RoundTrips (fun _ => True) ∧
      Entity.codec.RoundTrips (fun _ => True) ∧
      Kind.codec.RoundTrips (fun _ => True) ∧
      Policy.codec.RoundTrips (fun _ => True) ∧
      Settings.codec.RoundTrips (fun _ => True) := by
  refine ⟨?expression, ?form, ?quasi, ?reference, ?target, ?entity, ?kind, ?policy, ?settings⟩
  case expression =>
    apply Codec.round_trips
    · exact fun expression => Json.plain_spelled _ expression.written_plain
    · exact Expression.read_back
    · exact Expression.height_within
  case form => exact Codec.always_round_trips _ (fun _ => rfl) fun form => by cases form <;> rfl
  case quasi => exact Codec.always_round_trips _ (fun _ => rfl) fun _ => rfl
  case reference =>
    apply Codec.round_trips
    · exact fun _ => rfl
    · exact Reference.read_back
    · exact Reference.read_sized
  case target => exact Codec.always_round_trips _ (fun _ => rfl) fun _ => rfl
  case entity => exact Codec.always_round_trips _ Entity.written_spelled Entity.read_back
  case kind => exact Codec.always_round_trips _ (fun _ => rfl) fun kind => by cases kind <;> rfl
  case policy => exact Codec.always_round_trips _ (fun _ => rfl) fun policy => by cases policy <;> rfl
  case settings => exact Codec.always_round_trips _ (fun _ => rfl) Settings.read_back

theorem json_round_trips_template :
    let pieces : List Quasi := [⟨"a\"\\\n\x01é".toList, false⟩, ⟨[], true⟩]
    let chain : Expression := .member (.identifier "x".toList) "y".toList
    let expression : Expression := .template pieces [chain]
    let items : List Json :=
      [.string "member".toList, .array [.number (.natural 1), .string "x".toList], .string "y".toList]
    let text := Expression.codec.encode Json.pretty chain
    expression.toJson.height ≤ Expression.nestingLimit ∧
      Expression.codec.decode? (Expression.codec.encode Json.pretty expression) = some expression ∧
      Expression.codec.rewritten? Json.pretty (Json.array items).compact = some text ∧
      Expression.codec.rewritten? Json.pretty text = some text := by
  intro pieces chain expression items text
  have expressions := json_round_trips.1 Json.pretty (by simp [Codec.styles])
  have shallow : expression.toJson.height ≤ Expression.nestingLimit := by decide
  have rewritten : Expression.codec.rewritten? Json.pretty (Json.array items).compact = some text := by
    rw [Codec.rewritten?, Codec.decode?, Json.read_compact (.array items) rfl]
    rfl
  exact ⟨shallow, expressions.1 expression shallow, rewritten, (expressions.2 _ text rewritten).2⟩

end Interpolation

import Interpolation.Proofs.Batches
import Interpolation.Proofs.Running

set_option autoImplicit false

namespace Interpolation

open Text

namespace Command

def Loads (tree : FileTree) (catalogPath settingsPath : Path) (policy : Option Policy) (resolver : Resolver) : Prop :=
  ∃ catalog settings, (Catalog.loadIn catalogPath tree).1 = .ok catalog ∧
    (Settings.loadIn settingsPath tree).1 = .ok settings ∧
    resolver = ⟨catalog, { settings with policy := policy.getD settings.policy }⟩

inductive FailsFirst (tree : FileTree) (catalogPath settingsPath : Path) (policy : Option Policy) (inputs : List Text) :
    Failure → Prop where
  | catalog (fault : Fault) (unread : (Catalog.loadIn catalogPath tree).1 = .error fault) :
      FailsFirst tree catalogPath settingsPath policy inputs (.storage fault)
  | settings (catalog : Catalog) (fault : Fault) (read : (Catalog.loadIn catalogPath tree).1 = .ok catalog)
      (unread : (Settings.loadIn settingsPath tree).1 = .error fault) :
      FailsFirst tree catalogPath settingsPath policy inputs (.storage fault)
  | input (resolver : Resolver) (failure : Failure) (loaded : Loads tree catalogPath settingsPath policy resolver)
      (first : resolver.FailsFirst inputs failure) : FailsFirst tree catalogPath settingsPath policy inputs failure

theorem run_convert_eq (tree : FileTree) (catalogPath settingsPath : Path) (policy : Option Policy)
    (inputs : List Text) :
    runIn (.convert catalogPath settingsPath policy inputs) tree =
      (match (Catalog.loadIn catalogPath tree).1, (Settings.loadIn settingsPath tree).1 with
        | .error fault, _ => .failed (.storage fault) []
        | .ok _, .error fault => .failed (.storage fault) []
        | .ok catalog, .ok settings =>
            convertWith ⟨catalog, { settings with policy := policy.getD settings.policy }⟩ inputs, tree) := by
  have catalogs : (Catalog.load catalogPath : StateM FileTree (Except Fault Catalog)).run tree =
      pure ((Catalog.loadIn catalogPath tree).1, tree) := by
    rw [Catalog.load_in_eq]
    exact Catalog.load_in_eq catalogPath tree
  have settings : (Settings.load settingsPath : StateM FileTree (Except Fault Settings)).run tree =
      pure ((Settings.loadIn settingsPath tree).1, tree) := by
    rw [Settings.load_in_eq]
    exact Settings.load_in_eq settingsPath tree
  simp only [runIn, run, runConvert, Resolver.load, StateT.run_bind, catalogs, pure_bind]
  cases (Catalog.loadIn catalogPath tree).1 with
  | error fault => rfl
  | ok catalog =>
      simp only [StateT.run_bind, settings, pure_bind]
      cases (Settings.loadIn settingsPath tree).1 with
      | error fault => rfl
      | ok settings => cases policy <;> rfl

theorem convert_with_eq (resolver : Resolver) (inputs : List Text) :
    convertWith resolver inputs =
      match (resolver.convertAll inputs).result with
      | .error failure => .failed failure (resolver.convertAll inputs).dropped
      | .ok expressions =>
          .done (expressions.flatMap fun expression => expression.toJson.pretty ++ ['\n'])
            (resolver.convertAll inputs).dropped := by
  rw [convertWith]
  rcases resolver.convertAll inputs with ⟨_ | _, dropped⟩ <;> rfl

theorem convert_with_done (resolver : Resolver) (inputs : List Text) (expressions : List Expression)
    (converted : List.Forall₂ resolver.Converts inputs expressions) :
    ∃ dropped, convertWith resolver inputs =
      .done (expressions.flatMap fun expression => expression.toJson.pretty ++ ['\n']) dropped := by
  rw [convert_with_eq, (resolver.convert_all_ok_iff inputs expressions).mpr converted]
  exact ⟨_, rfl⟩

theorem convert_with_failed (resolver : Resolver) (inputs : List Text) (failure : Failure)
    (first : resolver.FailsFirst inputs failure) :
    ∃ dropped, convertWith resolver inputs = .failed failure dropped := by
  rw [convert_with_eq, (resolver.convert_all_error_iff inputs failure).mpr first]
  exact ⟨_, rfl⟩

section

variable (tree : FileTree) (catalogPath settingsPath : Path) (policy : Option Policy) (inputs : List Text)

theorem run_convert_loaded (resolver : Resolver) (loaded : Loads tree catalogPath settingsPath policy resolver) :
    (runIn (.convert catalogPath settingsPath policy inputs) tree).1 = convertWith resolver inputs := by
  obtain ⟨catalog, settings, catalogRead, settingsRead, rfl⟩ := loaded
  rw [run_convert_eq, catalogRead, settingsRead]

theorem run_convert_failed (failure : Failure)
    (first : FailsFirst tree catalogPath settingsPath policy inputs failure) :
    ∃ dropped, (runIn (.convert catalogPath settingsPath policy inputs) tree).1 = .failed failure dropped := by
  cases first with
  | catalog fault unread => exact ⟨[], by rw [run_convert_eq, unread]⟩
  | settings catalog fault read unread => exact ⟨[], by rw [run_convert_eq, read, unread]⟩
  | input resolver _ loaded first =>
      rw [run_convert_loaded tree catalogPath settingsPath policy inputs resolver loaded]
      exact convert_with_failed resolver inputs failure first

theorem converts_or_fails :
    (∃ resolver expressions, Loads tree catalogPath settingsPath policy resolver ∧
      List.Forall₂ resolver.Converts inputs expressions) ∨
      ∃ failure, FailsFirst tree catalogPath settingsPath policy inputs failure := by
  cases catalogRead : (Catalog.loadIn catalogPath tree).1 with
  | error fault => exact .inr ⟨_, .catalog fault catalogRead⟩
  | ok catalog =>
      cases settingsRead : (Settings.loadIn settingsPath tree).1 with
      | error fault => exact .inr ⟨_, .settings catalog fault catalogRead settingsRead⟩
      | ok settings =>
          let resolver : Resolver := ⟨catalog, { settings with policy := policy.getD settings.policy }⟩
          have loaded : Loads tree catalogPath settingsPath policy resolver :=
            ⟨catalog, settings, catalogRead, settingsRead, rfl⟩
          cases result : (resolver.convertAll inputs).result with
          | error failure =>
              have first := (resolver.convert_all_error_iff inputs failure).mp result
              exact .inr ⟨failure, .input resolver failure loaded first⟩
          | ok expressions =>
              have converted := (resolver.convert_all_ok_iff inputs expressions).mp result
              exact .inl ⟨resolver, expressions, loaded, converted⟩

end

/-- The command never changes a file. It is done just when the catalog and the settings are loaded and every input is
converted with them, and then prints all the trees in the order of the inputs. Otherwise it prints nothing and reports
the first cause of failure. -/
theorem converts_all_or_nothing (tree : FileTree) (catalogPath settingsPath : Path) (policy : Option Policy)
    (inputs : List Text) :
    let report := (runIn (.convert catalogPath settingsPath policy inputs) tree).1
    (runIn (.convert catalogPath settingsPath policy inputs) tree).2 = tree ∧
    (report.status = 0 ↔ ∃ resolver expressions, Loads tree catalogPath settingsPath policy resolver ∧
      List.Forall₂ resolver.Converts inputs expressions) ∧
    (∀ resolver expressions, Loads tree catalogPath settingsPath policy resolver →
      List.Forall₂ resolver.Converts inputs expressions →
        report.output = expressions.flatMap fun expression => expression.toJson.pretty ++ ['\n']) ∧
    (report.status ≠ 0 → ∃ failure, FailsFirst tree catalogPath settingsPath policy inputs failure) ∧
    (∀ failure, FailsFirst tree catalogPath settingsPath policy inputs failure →
      report.status = 1 ∧ report.output = [] ∧ report.errorLine? = some ("Error: ".toList ++ failure.message)) ∧
    (tree.isPresent settingsPath = false → (Settings.loadIn settingsPath tree).1 = .ok {}) := by
  intro report
  have done (resolver : Resolver) (expressions : List Expression)
      (loaded : Loads tree catalogPath settingsPath policy resolver)
      (converted : List.Forall₂ resolver.Converts inputs expressions) :
      ∃ dropped, report = .done (expressions.flatMap fun expression => expression.toJson.pretty ++ ['\n']) dropped := by
    obtain ⟨dropped, eq⟩ := convert_with_done resolver inputs expressions converted
    exact ⟨dropped, (run_convert_loaded tree catalogPath settingsPath policy inputs resolver loaded).trans eq⟩
  have failed (failure : Failure) (first : FailsFirst tree catalogPath settingsPath policy inputs failure) :
      ∃ dropped, report = .failed failure dropped :=
    run_convert_failed tree catalogPath settingsPath policy inputs failure first
  have either := converts_or_fails tree catalogPath settingsPath policy inputs
  refine ⟨congrArg Prod.snd (run_convert_eq tree catalogPath settingsPath policy inputs), ⟨?_, ?_⟩, ?_, ?_, ?_, ?_⟩
  · intro status
    rcases either with converted | ⟨failure, first⟩
    · exact converted
    · obtain ⟨dropped, eq⟩ := failed failure first
      rw [eq] at status
      cases status
  · intro ⟨resolver, expressions, loaded, converted⟩
    obtain ⟨dropped, eq⟩ := done resolver expressions loaded converted
    rw [eq]
    rfl
  · intro resolver expressions loaded converted
    obtain ⟨dropped, eq⟩ := done resolver expressions loaded converted
    rw [eq]
    rfl
  · intro status
    rcases either with ⟨resolver, expressions, loaded, converted⟩ | failing
    · obtain ⟨dropped, eq⟩ := done resolver expressions loaded converted
      rw [eq] at status
      exact absurd rfl status
    · exact failing
  · intro failure first
    obtain ⟨dropped, eq⟩ := failed failure first
    rw [eq]
    exact ⟨rfl, rfl, rfl⟩
  · intro absent
    rw [Settings.load_absent settingsPath tree absent]

theorem converts_all_or_nothing_override :
    let tree : FileTree := ⟨[(["ids".toList], .file (.text (Catalog.mk ["var.a".toList]).toJson.compact)),
      (["conf".toList], .file (.text (Settings.toJson { policy := .ignore }).compact))]⟩
    let plain : Text := "${var.a}".toList
    let wrapped : Text := "${upper(var.a)}".toList
    let report (settingsPath : Path) (policy : Option Policy) : Report :=
      (runIn (.convert "ids".toList settingsPath policy [plain, wrapped]) tree).1
    (report "conf".toList none).status = 0 ∧
    (report "conf".toList none).output =
      [Expression.identifier "a".toList, .identifier "a".toList].flatMap
        (fun expression => expression.toJson.pretty ++ ['\n']) ∧
    (report "conf".toList (some .error)).output = [] ∧
    (report "conf".toList (some .error)).errorLine? =
      some ("Error: ".toList ++ (Failure.discarded wrapped "upper()".toList).message) ∧
    (report "ids".toList (some .ignore)).errorLine? =
      some ("Error: ".toList ++ (Failure.storage (.parseSettings "ids".toList)).message) := by
  intro tree plain wrapped report
  have catalogRead : (Catalog.loadIn "ids".toList tree).1 = .ok ⟨["var.a".toList]⟩ := by decide +kernel
  have settingsRead : (Settings.loadIn "conf".toList tree).1 = .ok { policy := .ignore } := by decide +kernel
  have loaded (policy : Option Policy) : Loads tree "ids".toList "conf".toList policy
      ⟨⟨["var.a".toList]⟩, { policy := policy.getD .ignore }⟩ := ⟨_, _, catalogRead, settingsRead, rfl⟩
  obtain ⟨_, done, output, _, _, _⟩ :=
    converts_all_or_nothing tree "ids".toList "conf".toList none [plain, wrapped]
  obtain ⟨_, _, _, _, refused, _⟩ :=
    converts_all_or_nothing tree "ids".toList "conf".toList (some .error) [plain, wrapped]
  obtain ⟨_, _, _, _, broken, _⟩ :=
    converts_all_or_nothing tree "ids".toList "ids".toList (some .ignore) [plain, wrapped]
  have converted : List.Forall₂ (Resolver.Converts ⟨⟨["var.a".toList]⟩, { policy := .ignore }⟩) [plain, wrapped]
      [.identifier "a".toList, .identifier "a".toList] := .cons rfl (.cons rfl .nil)
  have first : FailsFirst tree "ids".toList "conf".toList (some .error) [plain, wrapped]
      (.discarded wrapped "upper()".toList) := by
    refine .input _ _ (loaded (some .error)) ⟨[plain], wrapped, [], rfl, ?_, rfl⟩
    intro earlier here
    obtain rfl := List.mem_singleton.mp here
    exact ⟨.identifier "a".toList, rfl⟩
  have unread : (Settings.loadIn "ids".toList tree).1 = .error (.parseSettings "ids".toList) := by decide +kernel
  obtain ⟨_, silent, message⟩ := refused _ first
  exact ⟨done.mpr ⟨_, _, loaded none, converted⟩, output _ _ (loaded none) converted, silent, message,
    (broken _ (.settings _ _ catalogRead unread)).2.2⟩

end Command

end Interpolation

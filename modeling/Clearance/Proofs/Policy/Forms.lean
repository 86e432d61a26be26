import Clearance.Proofs.Policy.Matrix

/-! The forms of a request under the built-in matrix. What an action is done to may stand in front
of its verb or apart, and apart in any spelling; the decision and all that is said of it are the
same. -/
namespace Clearance.Policy.BuiltIn

open Clearance.Action (Qualifier)

/-- What is decided on a verb and a category, however a request has named them. -/
def decideOn (roles : List Role) (verb : Action) (category : Resource) : Decision :=
  match Matrix.canAny roles verb category with
  | some role =>
    .allow ("role " ++ role.name ++ " may " ++ verb.name ++ " " ++ category.name)
      ("rbac:" ++ role.name)
  | none =>
    .deny ("no role in " ++ Request.roleList ⟨roles, verb, none⟩ ++ " may " ++ verb.name ++ " " ++
      category.name) "rbac:default-deny"

theorem decide_eq (r : Request) : decide r =
    decideOn r.roles r.action.verb ((r.resource.map Resource.canonical).getD r.action.subject) := by
  rw [decide, target_eq]
  rfl

theorem engine_decide (r : Request) : Engine.builtIn.decide r = .ok (decide r) := rfl

/-- A decision tells which verb was asked for. -/
theorem decideOn_verb {roles : List Role} {verb other : Action} {category : Resource}
    (same : decideOn roles verb category = decideOn roles other category) : verb = other := by
  rw [decideOn, decideOn] at same
  cases first : Matrix.canAny roles verb category with
  | some role =>
    cases second : Matrix.canAny roles other category with
    | some another =>
      simp only [first, second] at same
      obtain ⟨-, reason, rules⟩ := Decision.mk.inj same
      -- The rules tell that one role has decided, so the reasons can differ in the verb alone.
      have name : role.name = another.name := by simpa using rules
      rw [name] at reason
      exact congrArg Action.mk (by simpa using reason)
    | none => simp [first, second, Decision.allow, Decision.deny] at same
  | none =>
    cases second : Matrix.canAny roles other category with
    | some another => simp [first, second, Decision.allow, Decision.deny] at same
    | none =>
      simp only [first, second] at same
      obtain ⟨-, reason, -⟩ := Decision.mk.inj same
      exact congrArg Action.mk (by simpa [Request.roleList, Request.roleNames] using reason)

/-- A request whose action is qualified is decided as one that has the verb alone as its action and
names the resource apart, in whatever spelling, if and only if the verb is not itself qualified. A
resource that is named apart is put in the place of any qualifier. -/
theorem forms_decided_alike (roles : List Role) (resource verb : String)
    (qualifier : Qualifier resource) (present : verb ≠ "") :
    ∃ d, Engine.builtIn.decide ⟨roles, ⟨resource ++ "." ++ verb⟩, none⟩ = .ok d ∧
      ∀ spelling : Resource, spelling.canonical = (Resource.mk resource).canonical →
        (Engine.builtIn.decide ⟨roles, ⟨verb⟩, some spelling⟩ = .ok d ↔
          (Action.mk verb).qualified? = none) ∧
        ∀ other, Qualifier other →
          Engine.builtIn.decide ⟨roles, ⟨other ++ "." ++ verb⟩, some spelling⟩ = .ok d := by
  have parts {name : String} (qualifier : Qualifier name) :
      (Action.mk (name ++ "." ++ verb)).qualified? = some (name, verb) :=
    Action.qualified?_iff.mpr ⟨rfl, qualifier, present⟩
  have decided : decide ⟨roles, ⟨resource ++ "." ++ verb⟩, none⟩ =
      decideOn roles ⟨verb⟩ (Resource.mk resource).canonical := by
    rw [decide_eq, Action.verb_qualified (parts qualifier),
      Action.subject_qualified (parts qualifier)]
    rfl
  refine ⟨_, congrArg Except.ok decided, fun spelling same => ⟨?_, fun other stands => ?_⟩⟩
  · have apart : decide ⟨roles, ⟨verb⟩, some spelling⟩ =
        decideOn roles (Action.mk verb).verb (Resource.mk resource).canonical := by
      rw [decide_eq, ← same]
      rfl
    rw [← Action.verb_eq_iff, engine_decide, Except.ok.injEq, apart]
    exact ⟨decideOn_verb, fun plain => by rw [plain]⟩
  · rw [engine_decide, decide_eq, Action.verb_qualified (parts stands), ← same]
    rfl

/-- The verb begins with a dot, and the resource goes by three of its spellings. -/
theorem forms_decided_alike_dotted_verb :
    Qualifier "refund" ∧ Qualifier "api-key" ∧ (Action.mk ".read").qualified? = none ∧
      ∃ d, Engine.builtIn.decide ⟨[⟨"guest"⟩, .finance], ⟨"refund..read"⟩, none⟩ = .ok d ∧
        Engine.builtIn.decide ⟨[⟨"guest"⟩, .finance], ⟨".read"⟩, some ⟨"payouts"⟩⟩ = .ok d ∧
        Engine.builtIn.decide ⟨[⟨"guest"⟩, .finance], ⟨"api-key..read"⟩, some .transaction⟩ =
          .ok d := by
  have refund : Qualifier "refund" := by simp [Qualifier]
  have key : Qualifier "api-key" := by simp [Qualifier]
  have plain : (Action.mk ".read").qualified? = none := by decide
  obtain ⟨d, decided, forms⟩ :=
    forms_decided_alike [⟨"guest"⟩, .finance] "refund" ".read" refund (by decide)
  refine ⟨refund, key, plain, d, decided, ?_, ?_⟩
  · exact (forms ⟨"payouts"⟩ (by decide)).1.mpr plain
  · exact (forms .transaction (by decide)).2 "api-key" key

end Clearance.Policy.BuiltIn

import Clearance.App.Session

/-! What is in force where something can be named in two ways. An option goes before the variable
that belongs to it, and a variable counts unless it is blank. -/
namespace Clearance

/-! ## Variables -/

namespace Environment

/-- Something is to be seen in a value. -/
def Visible (value : String) : Prop := ∃ c ∈ value.toList, Text.isBlank c = false

variable {e : Environment} {name value : String}

theorem allBlank_iff : Text.allBlank value = true ↔ ¬ Visible value := by
  simp [Text.allBlank, Visible]

theorem setting_visible (set : e name = some value) (visible : Visible value) :
    e.setting name = some value := by
  have shown : Text.allBlank value = false := by
    rw [Bool.eq_false_iff, Ne, allBlank_iff, Classical.not_not]
    exact visible
  simp [setting, set, shown]

theorem setting_blank (set : e name = some value) (blank : ¬ Visible value) :
    e.setting name = .none := by
  simp [setting, set, allBlank_iff.mpr blank]

theorem setting_unset (unset : e name = .none) : e.setting name = .none := by
  simp [setting, unset]

end Environment

namespace App

open Environment (Visible)

/-! ## Options before variables -/

/-- What comes of an option and the value of a variable. The option counts as it is given, and a
value counts as it stands unless it is blank. -/
inductive Settled : Option String → Option String → Option String → Prop
  | given (path : String) (value : Option String) : Settled (some path) value (some path)
  | named {value : String} (visible : Visible value) : Settled none (some value) (some value)
  | blank {value : String} (blank : ¬ Visible value) : Settled none (some value) none
  | unset : Settled none none none

theorem Settled.unique {option value path other : Option String}
    (first : Settled option value path) (second : Settled option value other) : path = other := by
  cases first with
  | given path => cases second; rfl
  | named visible =>
    cases second with
    | named => rfl
    | blank blank => exact absurd visible blank
  | blank blank =>
    cases second with
    | named visible => exact absurd visible blank
    | blank => rfl
  | unset => cases second; rfl

theorem settled_setting (option : Option String) (e : Environment) (name : String) :
    Settled option (e name) (option <|> e.setting name) := by
  cases option with
  | some path => exact .given path (e name)
  | none =>
    change Settled none (e name) (e.setting name)
    cases set : e name with
    | none =>
      rw [Environment.setting_unset set]
      exact .unset
    | some value =>
      by_cases visible : Visible value
      · rw [Environment.setting_visible set visible]
        exact .named visible
      · rw [Environment.setting_blank set visible]
        exact .blank visible

theorem settled_iff {option path : Option String} {e : Environment} {name : String} :
    Settled option (e name) path ↔ path = (option <|> e.setting name) := by
  constructor
  · exact fun settled => settled.unique (settled_setting option e name)
  · rintro rfl
    exact settled_setting option e name

/-! ## What a session is opened with -/

/-- The file of the thresholds. -/
def Options.LimitsFrom (o : Options) (e : Environment) (path : Option String) : Prop :=
  Settled o.fraudConfig (e "WARDEN_FRAUD_CONFIG") path

namespace Options

variable {o : Options} {e : Environment}

end Options

end App

end Clearance

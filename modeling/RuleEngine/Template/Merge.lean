import RuleEngine.Template.Order

set_option autoImplicit false

/-! # Merging fragments

The rules of the fragments, in the order of the fragments, make up one template. No id is blank,
and no id stands for two rules. -/

namespace RuleEngine

/-- The fragment in which each id was declared. -/
abbrev Owners := Table String

namespace Fragment

/-- Note a fragment as the owner of the ids of rules. -/
def own (fragment : String) (owners : Owners) : List Rule → Except MergeError Owners
  | [] => .ok owners
  | r :: rs =>
    if Text.isBlankText r.id then .error (.ruleWithoutId fragment)
    else
      match owners.get? r.id with
      | some first => .error (.conflict r.id first fragment)
      | none => own fragment (owners.insert r.id fragment) rs

/-- Check the ids of the rules of all fragments, in order. -/
def ownAll (owners : Owners) : List Fragment → Except MergeError Owners
  | [] => .ok owners
  | f :: fs =>
    match own f.name owners f.rules with
    | .error e => .error e
    | .ok owners => ownAll owners fs

end Fragment

namespace Template

def merge (subDir name : String) (fragments : List Fragment) : Except MergeError Template :=
  match Fragment.inOrder fragments with
  | .error e => .error e
  | .ok ordered =>
    match Fragment.ownAll [] ordered with
    | .error e => .error e
    | .ok _ =>
      .ok ⟨subDir, name, ordered.map (·.name), ordered.flatMap (·.rules)⟩

end Template

end RuleEngine
